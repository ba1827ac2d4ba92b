import SparcEmu.FaultReport
import SparcEmu.Retire

/-!
No-fault mode: what a data instruction does when the MMU denies its access and the no-fault bit is
set.

No load or store traps then, but the handlers do not agree on the destination. The integer loads
leave it alone. The floating-point loads write the zero that the failed access returned, `SWAP` and
`CASA` write the value of the failed exchange, and `LDSTUB` does not look at the bit: it traps.
-/

namespace SparcEmu

open Lib.Effect

variable {δ : Type}

namespace MMU

variable {mc : MCtrl δ} {s t : MMUSt δ} {rw : Intent} {va : u32} {sup rep : Bool}

/-! ### Denied translations -/

/-- The translation is denied, and leaves the state `t`. -/
def Denies (mc : MCtrl δ) (rw : Intent) (va : u32) (sup rep : Bool) (s t : MMUSt δ) : Prop :=
  ∃ tr, translate_va mc va sup rw rep s = .ok tr t ∧ tr.ok = false

/-- The load is granted and its entry denies the store; `pa` is the physical address. -/
def DeniesStore (mc : MCtrl δ) (va : u32) (sup : Bool) (pa : u32) (s t : MMUSt δ) : Prop :=
  ∃ tr, translate_va mc va sup .load false s = .ok tr t ∧ tr.ok = true ∧
    permFault tr.pte .store sup tr.level ≠ 0 ∧ tr.pa = pa

lemma enabled_translate_va {tr : MMUTranslateResult}
    (h : translate_va mc va sup rw rep s = .ok tr t) : t.mmu.get_enabled = s.mmu.get_enabled := by
  unfold get_enabled
  rw [(priv_ctx ((keepsPriv_translate_va _ _ _ _).ok h)).2.2]

lemma MemAccess_denied (hen : s.mmu.get_enabled = true) (h0 : s.mmu.l0Hit rw va sup = none)
    (h : Denies mc rw va sup true s t) (size : AccessSize) (v : u32) :
    ∃ code, code ≠ 0 ∧ MemAccess mc rw size va v sup true s = .ok (code, v) t := by
  obtain ⟨tr, ht, hok⟩ := h
  have hft : t.mmu.faultType ≠ 0 := ((translate_va_tells ht).2 hok).2.1
  refine ⟨-t.mmu.faultType, fun e => hft (BitVec.neg_eq_zero_iff.mp e), ?_⟩
  rw [MemAccess_miss hen h0 ht, if_neg (by simp [hok])]
  rfl

variable {s₁ : MMUSt δ}

lemma pairAccess_denied (hen : s.mmu.get_enabled = true) (h0 : s.mmu.l0Hit rw va sup = none)
    (ha : va &&& 7 = 0) (h₀ : Denies mc rw va sup true s s₁)
    (h₁ : Denies mc rw (va + 4) sup true s₁ t) (v₀ v₁ : u32) :
    ∃ c₀ c₁, c₀ ≠ 0 ∧ pairAccess mc rw va v₀ v₁ sup s = .ok ((c₀, v₀), (c₁, v₁)) t := by
  obtain ⟨c₀, hc₀, hx₀⟩ := MemAccess_denied hen h0 h₀ .b4 v₀
  obtain ⟨tr, ht, -⟩ := h₀
  have hl0 : s₁.mmu.l0Hit = s.mmu.l0Hit := (fixes_l0Hit _ _ _ _).ok ht
  have hmiss : s₁.mmu.l0Hit rw (va + 4) sup = none := by
    rw [hl0, ← Option.not_isSome_iff_eq_none, l0Hit_page _ (samePage_add_four ha), h0]
    simp
  obtain ⟨c₁, -, hx₁⟩ := MemAccess_denied (by rw [enabled_translate_va ht, hen]) hmiss h₁ .b4 v₁
  refine ⟨c₀, c₁, hc₀, ?_⟩
  unfold pairAccess
  rw [bind_ok hx₀, bind_ok hx₁]
  rfl

lemma check_perms_silent (pte : u32) (level : u8) :
    check_perms va pte rw sup level false s = .ok (permFault pte rw sup level) s := by
  unfold check_perms
  rw [if_neg fun h => Bool.false_ne_true h.2]
  rfl

section Atomic

variable (hen : s.mmu.get_enabled = true) (hnf : s.mmu.get_no_fault = true)

include hen hnf

variable {α : Type} {fail : α} {k : Bool → MMUTranslateResult → MmuM δ α} {off : MmuM δ α}

lemma onLoad_denied (h : Denies mc .load va sup false s t) :
    onLoad mc va sup fail k off s = .ok fail t := by
  obtain ⟨tr, ht, hok⟩ := h
  unfold onLoad
  rw [getMMU_bind, if_pos hen, hnf, Bool.not_true, bind_ok ht, if_neg (by simp [hok])]
  rfl

lemma onLoad_granted {tr : MMUTranslateResult}
    (ht : translate_va mc va sup .load false s = .ok tr s₁) (hok : tr.ok = true) :
    onLoad mc va sup fail k off s = k false tr s₁ := by
  unfold onLoad
  rw [getMMU_bind, if_pos hen, hnf, Bool.not_true, bind_ok ht, if_pos hok]

lemma atomic_swap32_load (h : Denies mc .load va sup false s t) (v : u32) :
    atomic_swap32 mc va sup v s = .ok ⟨false, 0⟩ t := by
  rw [atomic_swap32_onLoad, onLoad_denied hen hnf h]

lemma atomic_swap32_store {pa : u32} (h : DeniesStore mc va sup pa s t) (v : u32) :
    atomic_swap32 mc va sup v s = .ok ⟨false, 0⟩ t := by
  obtain ⟨tr, ht, hok, hft, -⟩ := h
  rw [atomic_swap32_onLoad, onLoad_granted hen hnf ht hok,
    bind_ok (check_perms_silent tr.pte tr.level), if_pos hft]
  rfl

lemma atomic_casa32_load (h : Denies mc .load va sup false s t) (e v : u32) :
    atomic_casa32 mc va sup e v s = .ok ⟨false, 0⟩ t := by
  rw [atomic_casa32_onLoad, onLoad_denied hen hnf h]

lemma atomic_casa32_store {pa e : u32} {i : Nat} {b : IMemoryBank}
    (h : DeniesStore mc va sup pa s s₁) (hb : mc.get_bank pa = some (i, b))
    (hr : onMem (mc.bankRead i b .b4 pa) s₁ = .ok e t) (v : u32) :
    atomic_casa32 mc va sup e v s = .ok ⟨false, e⟩ t := by
  obtain ⟨tr, ht, hok, hft, rfl⟩ := h
  rw [atomic_casa32_onLoad, onLoad_granted hen hnf ht hok]
  unfold casAt
  rw [hb]
  dsimp only
  rw [bind_ok hr, if_pos rfl, bind_ok (check_perms_silent tr.pte tr.level), if_pos hft]
  rfl

lemma ldstub_load (h : Denies mc .load va sup false s t) : ldstub mc va sup s = .ok none t := by
  rw [ldstub_onLoad, onLoad_denied hen hnf h]

end Atomic

end MMU

/-! ### Denied accesses -/

open MMU in
/-- The translation or the permission check of the access fails. The access hands `old` to the
instruction and leaves the state `t`. In no-fault mode the atomics translate without a report; a
compare and swap checks the store where memory holds the expected word. -/
inductive DataOp.Denied (mc : MCtrl δ) (s : MMUSt δ) : DataOp → u32 → MMUSt δ → Prop
  | word {rw size va v sup t} (miss : s.mmu.l0Hit rw va sup = none)
      (deny : Denies mc rw va sup true s t) : Denied mc s (.word rw size va v sup) 0 t
  | pair {rw va v₀ v₁ sup s₁ t} (miss : s.mmu.l0Hit rw va sup = none)
      (first : Denies mc rw va sup true s s₁) (second : Denies mc rw (va + 4) sup true s₁ t) :
      Denied mc s (.pair rw va v₀ v₁ sup) 0 t
  | swapLoad {va v sup t} (deny : Denies mc .load va sup false s t) :
      Denied mc s (.swap va v sup) 0 t
  | swapStore {va v sup pa t} (deny : DeniesStore mc va sup pa s t) :
      Denied mc s (.swap va v sup) 0 t
  | casaLoad {va e v sup t} (deny : Denies mc .load va sup false s t) :
      Denied mc s (.casa va e v sup) 0 t
  | casaStore {va e v sup pa s₁ i b t} (deny : DeniesStore mc va sup pa s s₁)
      (bank : mc.get_bank pa = some (i, b)) (read : onMem (mc.bankRead i b .b4 pa) s₁ = .ok e t) :
      Denied mc s (.casa va e v sup) e t
  | ldstub {va sup t} (deny : Denies mc .load va sup false s t) :
      Denied mc s (.ldstub va sup) 0 t

namespace DataOp

variable {mc : MCtrl δ} {s t : MMUSt δ} {a : DataOp} {old : u32}

lemma Denied.fixes {γ : Type} {f : MMUSt δ → γ} (h : a.Denied mc s old t)
    (hf : ∀ va sup rw rep, Fixes f (MMU.translate_va mc va sup rw rep))
    (hr : ∀ i b pa, Fixes f (MMU.onMem (mc.bankRead i b .b4 pa))) : f t = f s := by
  have deny : ∀ {rw va sup rep s t}, MMU.Denies mc rw va sup rep s t → f t = f s := by
    rintro rw va sup rep s t ⟨tr, ht, -⟩
    exact (hf _ _ _ _).ok ht
  have denyStore : ∀ {va sup pa s t}, MMU.DeniesStore mc va sup pa s t → f t = f s := by
    rintro va sup pa s t ⟨tr, ht, -⟩
    exact (hf _ _ _ _).ok ht
  cases h with
  | word _ h => exact deny h
  | pair _ h₀ h₁ => exact (deny h₁).trans (deny h₀)
  | swapLoad h => exact deny h
  | swapStore h => exact denyStore h
  | casaLoad h => exact deny h
  | casaStore h _ read => exact ((hr _ _ _).ok read).trans (denyStore h)
  | ldstub h => exact deny h

lemma Denied.bytes (h : a.Denied mc s old t) : t.mem.bytes = s.mem.bytes := by
  refine h.fixes (f := fun s => s.mem.bytes) MMU.fixesBytes_translate_va fun i b pa s => ?_
  unfold MMU.onMem
  cases hr : mc.bankRead i b .b4 pa s.mem with
  | error e => rfl
  | ok r => exact MMU.bankRead_bytes hr

lemma Denied.no_fault (h : a.Denied mc s old t) : t.mmu.get_no_fault = s.mmu.get_no_fault := by
  have hp : t.mmu.priv = s.mmu.priv := h.fixes (f := fun s => s.mmu.priv)
    MMU.keepsPriv_translate_va fun i b pa s => congrArg MMU.priv (MMU.fixesMMU_onMem _ s)
  unfold MMU.get_no_fault
  rw [(MMU.priv_ctx hp).2.2]

end DataOp

/-! ### Instructions that go on -/

section Pass

variable {E : Board δ} {s : St δ} {t : MMUSt δ}

/-- The state after an instruction that has gone on to the next, with the processor `c`. -/
def St.passed (s : St δ) (t : MMUSt δ) (c : CPU) : St δ := { s.after t with cpu := c, d := s.d.next }

variable (hnf : t.mmu.get_no_fault = true)

include hnf

lemma test_passes {P : Prop} [Decidable P] {c : CPU} (rest : M δ Unit) :
    (do
      let nf ← noFault
      if P ∧ !nf then trap SPARC_DATA_ACCESS_EXCEPTION else rest) { s.after t with cpu := c }
      = rest { s.after t with cpu := c } := by
  have h : noFault { s.after t with cpu := c } = .ok true { s.after t with cpu := c } := by
    unfold noFault
    rw [show ({ s.after t with cpu := c } : St δ).mmu.get_no_fault = true from hnf]
  rw [bind_ok h, if_neg fun h => Bool.false_ne_true h.2]

variable {align : u32}

lemma dataAccess_passes {access : DecodeStruct → M δ cint} {ret : cint} (ha : s.d.ev &&& align = 0)
    (h : access s.d s = .ok ret (s.after t)) :
    dataAccess align access s = .ok () (s.passed t s.cpu) := by
  unfold dataAccess
  rw [getD_bind, if_neg (not_not.mpr ha), bind_ok h]
  exact test_passes hnf (c := s.cpu) advance

lemma dataAccess64_passes {access : DecodeStruct → M δ cint} {ret : cint}
    (he : s.d.rd &&& 1 = 0) (ha : s.d.ev &&& 7 = 0) (h : access s.d s = .ok ret (s.after t)) :
    dataAccess64 access s = .ok () (s.passed t s.cpu) := by
  unfold dataAccess64
  rw [getD_bind, if_neg (not_not.mpr he)]
  exact dataAccess_passes hnf ha h

lemma endAtomic_passes (r : MMU.AtomicResult) (rd : u32) (c : CPU) :
    endAtomic r rd { s.after t with cpu := c } = .ok () (s.passed t (c.write_reg r.old rd)) :=
  test_passes hnf (P := (!r.ok) = true) _

lemma swapWord_passes {r : MMU.AtomicResult} (ha : s.d.ev &&& 3 = 0)
    (h : MMU.atomic_swap32 E.mc s.d.ev (Psr.s s.d.psr) s.d.value s.bus = .ok r t) :
    swapWord E s = .ok () (s.passed t ((s.cpu.setSwap s.d.value).write_reg r.old s.d.rd)) := by
  have hs : modCPU (fun c => c.setSwap s.d.value) s
      = .ok () { s with cpu := s.cpu.setSwap s.d.value } := rfl
  have hm := onMMU_ok (s := { s with cpu := s.cpu.setSwap s.d.value }) h
  unfold swapWord
  rw [getD_bind, if_neg (not_not.mpr ha), bind_ok hs, bind_ok hm]
  exact endAtomic_passes hnf r s.d.rd _

omit hnf

/-- The processor after a denied access of the instruction `d`: the floating-point loads and the
exchanges write what the access has handed them. -/
def CPU.spoiled (c : CPU) (d : DecodeStruct) (old : u32) : CPU :=
  match d.function with
  | .LDF_impl => setFreg c d.rd 0
  | .LDDF_impl => setFreg (setFreg c d.rd 0) (d.rd + 1) 0
  | .LDFSR_impl => { c with fsr := 0 }
  | .SWAP | .SWAPA => (c.setSwap d.value).write_reg 0 d.rd
  | .CASA => c.write_reg old (d.rd &&& 0x1f)
  | _ => c

variable {old : u32} {size : AccessSize}

lemma load_passes (hen : s.mmu.get_enabled = true) (hnf : t.mmu.get_no_fault = true)
    (hpsr : s.d.psr = s.cpu.psr) {ext : u32 → u32} (ha : s.d.ev &&& align = 0)
    (hd : (DataOp.word .load size s.d.ev 0 (Psr.s s.d.psr)).Denied E.mc s.bus old t) :
    dataAccess align (fun d => loadReg E size ext d.ev d.rd) s = .ok () (s.passed t s.cpu) := by
  rw [hpsr] at hd
  cases hd with
  | word miss deny =>
    obtain ⟨code, hc, hx⟩ := MMU.MemAccess_denied hen miss deny size 0
    exact dataAccess_passes hnf ha (loadReg_fails hx hc)

lemma store_passes (hen : s.mmu.get_enabled = true) (hnf : t.mmu.get_no_fault = true)
    (hpsr : s.d.psr = s.cpu.psr) (ha : s.d.ev &&& align = 0)
    (hd : (DataOp.word .store size s.d.ev (s.cpu.read_reg s.d.rd 0) (Psr.s s.d.psr)).Denied E.mc
      s.bus old t) :
    dataAccess align (fun d => storeReg E size d.ev d.rd) s = .ok () (s.passed t s.cpu) := by
  rw [hpsr] at hd
  cases hd with
  | word miss deny =>
    obtain ⟨code, -, hx⟩ := MMU.MemAccess_denied hen miss deny size (s.cpu.read_reg s.d.rd 0)
    exact dataAccess_passes hnf ha (storeReg_fails hx)

lemma swap_passes (hen : s.mmu.get_enabled = true) (hnf : s.mmu.get_no_fault = true)
    (ha : s.d.ev &&& 3 = 0)
    (hd : (DataOp.swap s.d.ev s.d.value (Psr.s s.d.psr)).Denied E.mc s.bus old t) :
    swapWord E s = .ok () (s.passed t ((s.cpu.setSwap s.d.value).write_reg 0 s.d.rd)) := by
  have hnf' := hd.no_fault.trans hnf
  cases hd with
  | swapLoad deny => exact swapWord_passes hnf' ha (MMU.atomic_swap32_load hen hnf deny _)
  | swapStore deny => exact swapWord_passes hnf' ha (MMU.atomic_swap32_store hen hnf deny _)

theorem exec_passes {a : DataOp} (hen : s.mmu.get_enabled = true) (hnf : s.mmu.get_no_fault = true)
    (hpsr : s.d.psr = s.cpu.psr) (h : dataOp s.cpu s.d = some a)
    (hd : a.Denied E.mc s.bus old t) (hf : s.d.function ≠ .LDSTUB) (k : M δ Unit) :
    s.d.function.exec E k s = .ok () (s.passed t (s.cpu.spoiled s.d old)) := by
  have hnf' : t.mmu.get_no_fault = true := hd.no_fault.trans hnf
  have single : false = true → s.d.rd &&& 1 = 0 := fun h => by cases h
  unfold dataOp at h
  unfold CPU.spoiled
  cases hfn : s.d.function <;> rw [hfn] at h hf <;>
    simp only [Option.ite_none_right_eq_some, Option.some.injEq, decide_eq_true_eq,
      Bool.and_eq_true, reduceCtorEq] at h
  case LD | LDUB | LDUH | LDSB | LDSH =>
    obtain ⟨hr, rfl⟩ := h; exact load_passes hen hnf' hpsr hr hd
  case ST | STB | STH => obtain ⟨hr, rfl⟩ := h; exact store_passes hen hnf' hpsr hr hd
  case LDD =>
    obtain ⟨⟨he, hr⟩, rfl⟩ := h
    rw [hpsr] at hd
    cases hd with
    | pair miss first second =>
      obtain ⟨c₀, c₁, hc, hx⟩ := MMU.pairAccess_denied hen miss hr first second 0 0
      exact dataAccess64_passes hnf' he hr (load64_fails hx fun h => hc h.1)
  case STD =>
    obtain ⟨⟨he, hr⟩, rfl⟩ := h
    rw [hpsr] at hd
    cases hd with
    | pair miss first second =>
      obtain ⟨c₀, c₁, -, hx⟩ := MMU.pairAccess_denied hen miss hr first second _ _
      exact dataAccess64_passes hnf' he hr (store64_fails hx)
  case LDF_impl =>
    obtain ⟨⟨hfp, hr⟩, rfl⟩ := h
    rw [hpsr] at hd
    cases hd with
    | word miss deny =>
      obtain ⟨code, -, hx⟩ := MMU.MemAccess_denied hen miss deny .b4 0
      exact (fpAccess_made hfp hr single rfl (memAccess_ok hx)).trans
        (test_passes hnf' (c := s.cpu) _)
  case STF_impl =>
    obtain ⟨⟨hfp, hr⟩, rfl⟩ := h
    rw [hpsr] at hd
    cases hd with
    | word miss deny =>
      obtain ⟨code, -, hx⟩ := MMU.MemAccess_denied hen miss deny .b4 (s.cpu.freg s.d.rd)
      exact (fpAccess_made hfp hr single (bind_ok rfl) (memAccess_ok hx)).trans
        (test_passes hnf' (c := s.cpu) _)
  case LDDF_impl =>
    obtain ⟨⟨⟨hfp, he⟩, hr⟩, rfl⟩ := h
    rw [hpsr] at hd
    cases hd with
    | pair miss first second =>
      obtain ⟨c₀, c₁, -, hx⟩ := MMU.pairAccess_denied hen miss hr first second 0 0
      exact (fpAccess_made hfp hr (fun _ => he) rfl (memAccess2_ok hx)).trans
        (test_passes hnf' (c := s.cpu) _)
  case STDF_impl =>
    obtain ⟨⟨⟨hfp, he⟩, hr⟩, rfl⟩ := h
    rw [hpsr] at hd
    cases hd with
    | pair miss first second =>
      obtain ⟨c₀, c₁, -, hx⟩ := MMU.pairAccess_denied hen miss hr first second _ _
      exact (fpAccess_made hfp hr (fun _ => he) (bind_ok rfl) (memAccess2_ok hx)).trans
        (test_passes hnf' (c := s.cpu) _)
  case LDFSR_impl =>
    -- The accesses of the FSR do not look at the no-fault bit either.
    obtain ⟨⟨hfp, hr⟩, rfl⟩ := h
    cases hd with
    | word miss deny =>
      obtain ⟨code, -, hx⟩ := MMU.MemAccess_denied hen miss deny .b4 0
      exact (fpAccess_made hfp hr single rfl (onMMU_ok hx)).trans rfl
  case STFSR_impl =>
    obtain ⟨⟨hfp, hr⟩, rfl⟩ := h
    cases hd with
    | word miss deny =>
      obtain ⟨code, -, hx⟩ := MMU.MemAccess_denied hen miss deny .b4 s.cpu.fsr
      exact (fpAccess_made hfp hr single (bind_ok rfl) (onMMU_ok hx)).trans rfl
  case SWAP => obtain ⟨hr, rfl⟩ := h; exact swap_passes hen hnf hr hd
  case SWAPA =>
    obtain ⟨⟨⟨hasi, hs⟩, hr⟩, rfl⟩ := h
    show SWAPA E s = _
    unfold SWAPA
    rw [getD_bind, if_pos hasi, if_pos hs]
    exact swap_passes hen hnf hr hd
  case LDSTUB => exact absurd rfl hf
  case CASA =>
    obtain ⟨⟨hok, hr⟩, rfl⟩ := h
    show CASA E s = _
    rw [CASA_ready hok hr]
    cases hd with
    | casaLoad deny =>
      rw [bind_ok (onMMU_ok (MMU.atomic_casa32_load hen hnf deny _ _))]
      exact endAtomic_passes hnf' _ _ s.cpu
    | casaStore deny bank read =>
      rw [bind_ok (onMMU_ok (MMU.atomic_casa32_store hen hnf deny bank read _))]
      exact endAtomic_passes hnf' _ _ s.cpu

end Pass

/-! ### The registers of a denied access -/

lemma upd_eq_self {f : u32 → u32} {i v : u32} : CPU.upd f i v = f ↔ f i = v := by
  constructor
  · intro h
    rw [← h]
    exact upd_self f i v
  · rintro rfl
    funext j
    unfold CPU.upd
    split_ifs with h
    · rw [h]
    · rfl

/-- The integer registers of `c'` are those of `c`, but for the swap register. -/
def CPU.Keeps (c c' : CPU) : Prop :=
  c'.locals = c.locals ∧ c'.outs = c.outs ∧ ∀ i, i ≠ 8 → c'.globals i = c.globals i

variable {r : u32}

lemma keeps_write_reg {c : CPU} (hz : c.globals 0 = 0) (hr : r.toNat < 32) (v : u32) :
    c.Keeps (c.write_reg v r) ↔ r = 0 ∨ c.read_reg r 0 = v := by
  have hg : r ≠ GLOBALREG8 := by
    rintro rfl
    exact absurd hr (by decide)
  have hne : r >>> 3 ≠ 0 → r ≠ 0 := by
    rintro h rfl
    exact h rfl
  unfold CPU.Keeps CPU.read_reg
  rcases reg_block hr with h | h | h | h
  · have h8 : r ≠ 8 := by
      rintro rfl
      exact absurd h (by decide)
    have hw : c.write_reg v r = { c with globals := CPU.upd (CPU.upd c.globals r v) 0 0 } := by
      unfold CPU.write_reg
      rw [if_neg hg, h, if_pos (by decide), and7_of_block h]
    rw [hw, if_neg hg, h, if_pos rfl, and7_of_block h]
    simp only [true_and]
    constructor
    · intro hk
      have hv := hk r h8
      by_cases h0 : r = 0
      · exact .inl h0
      · rw [CPU.upd, if_neg h0, upd_self] at hv
        exact .inr hv.symm
    · intro hv i hi
      unfold CPU.upd
      split_ifs with h0 hir
      · rw [h0, hz]
      · rw [hir] at h0 ⊢
        exact (hv.resolve_left h0).symm
      · rfl
  all_goals
    unfold CPU.write_reg
    rw [or_iff_right (hne (by rw [h]; decide)), if_neg hg, if_neg hg, h]
    simp [upd_eq_self]

lemma keeps_iff_of_keeps {c c₁ c' : CPU} (h : c.Keeps c₁) : c₁.Keeps c' ↔ c.Keeps c' := by
  unfold CPU.Keeps
  rw [h.1, h.2.1]
  refine and_congr_right fun _ => and_congr_right fun _ => forall₂_congr fun i hi => ?_
  rw [h.2.2 i hi]

lemma read_reg_setSwap (c : CPU) (v : u32) (hr : r.toNat < 32) :
    (c.setSwap v).read_reg r 0 = c.read_reg r 0 := by
  have hg : r ≠ GLOBALREG8 := by
    rintro rfl
    exact absurd hr (by decide)
  have h8 : r &&& 7 ≠ 8 := by
    intro h
    have := congrArg BitVec.toNat h
    rw [BitVec.toNat_and] at this
    exact absurd (this ▸ Nat.and_le_right) (by decide)
  unfold CPU.read_reg CPU.setSwap
  simp only [if_neg hg, CPU.upd, if_neg h8]
  rfl

lemma decode_rd_lt {c : CPU} {d : DecodeStruct} (h : (decode c d).function ≠ .CALL) :
    (decode c d).rd.toNat < 32 := by
  have hlt : ∀ x : u32, (x &&& 0x1f).toNat < 32 := by
    intro x
    rw [BitVec.toNat_and]
    exact Nat.lt_of_le_of_lt Nat.and_le_right (by decide)
  unfold decode at h ⊢
  dsimp only at h ⊢
  split_ifs with h1 h2
  · rw [if_pos h1] at h
    exact absurd rfl h
  · exact hlt _
  · exact hlt _

/-! ### No-fault mode -/

/-- The denied access has had no effect but to be skipped: no trap is recorded, the program
counters advance, and neither a register nor memory has changed. -/
structure Ignored (s u : St δ) : Prop where
  trap_type : u.cpu.trap_type = s.cpu.trap_type
  pc : u.cpu.pc = s.cpu.npc
  npc : u.cpu.npc = s.cpu.npc + 4
  regs : RegsKept s u
  freg : u.cpu.freg = s.cpu.freg
  fsr : u.cpu.fsr = s.cpu.fsr
  bytes : u.mem.bytes = s.mem.bytes

/-- What the destination must hold for the denied access to leave it. -/
def Unspoiled (c : CPU) (d : DecodeStruct) (old : u32) : Prop :=
  match d.function with
  | .LDSTUB => False
  | .LDF_impl => c.freg d.rd = 0
  | .LDDF_impl => c.freg d.rd = 0 ∧ c.freg (d.rd + 1) = 0
  | .LDFSR_impl => c.fsr = 0
  | .SWAP | .SWAPA => c.read_reg d.rd 0 = 0
  | .CASA => d.rd &&& 0x1f = 0 ∨ c.read_reg (d.rd &&& 0x1f) 0 = old
  | _ => True

section Spoil

variable {c : CPU} {d : DecodeStruct} {old : u32}

lemma CPU.Keeps.refl (c : CPU) : c.Keeps c := ⟨rfl, rfl, fun _ _ => rfl⟩

lemma swap_keeps_iff (hz : c.globals 0 = 0) (hr : r.toNat < 32) (v : u32) :
    c.Keeps ((c.setSwap v).write_reg 0 r) ↔ c.read_reg r 0 = 0 := by
  have hk : c.Keeps (c.setSwap v) := ⟨rfl, rfl, fun i hi => if_neg hi⟩
  rw [← keeps_iff_of_keeps hk, keeps_write_reg (hk.2.2 0 (by decide) ▸ hz) hr, read_reg_setSwap _ _ hr]
  constructor
  · rintro (rfl | h)
    · exact hz
    · exact h
  · exact .inr

lemma pair_freg_iff (f : u32 → u32) (i : u32) :
    CPU.upd (CPU.upd f i 0) (i + 1) 0 = f ↔ f i = 0 ∧ f (i + 1) = 0 := by
  have hne : i ≠ i + 1 := by bv_omega
  constructor
  · intro h
    have h0 := congrFun h i
    have h1 := congrFun h (i + 1)
    rw [upd_self] at h1
    rw [CPU.upd, if_neg hne, upd_self] at h0
    exact ⟨h0.symm, h1.symm⟩
  · rintro ⟨h0, h1⟩
    rw [upd_eq_self.mpr h0, upd_eq_self.mpr h1]

lemma spoiled_kept_iff (hz : c.globals 0 = 0) (hrd : d.rd.toNat < 32) (hf : d.function ≠ .LDSTUB) :
    (c.Keeps (c.spoiled d old) ∧ (c.spoiled d old).freg = c.freg ∧ (c.spoiled d old).fsr = c.fsr) ↔
      Unspoiled c d old := by
  have hfields : ∀ c v r, (CPU.write_reg c v r).freg = c.freg ∧ (CPU.write_reg c v r).fsr = c.fsr := by
    intro c v r
    unfold CPU.write_reg
    split_ifs <;> exact ⟨rfl, rfl⟩
  unfold CPU.spoiled Unspoiled
  cases hfn : d.function
  case LDSTUB => exact absurd hfn hf
  case LDF_impl => exact (and_iff_right (.refl c)).trans ((and_iff_left rfl).trans upd_eq_self)
  case LDDF_impl =>
    exact (and_iff_right (.refl c)).trans ((and_iff_left rfl).trans (pair_freg_iff _ _))
  case LDFSR_impl =>
    exact (and_iff_right (.refl c)).trans ((and_iff_right rfl).trans eq_comm)
  case SWAP =>
    obtain ⟨h1, h2⟩ := hfields (c.setSwap d.value) 0 d.rd
    exact (and_iff_left ⟨h1, h2⟩).trans (swap_keeps_iff hz hrd _)
  case SWAPA =>
    obtain ⟨h1, h2⟩ := hfields (c.setSwap d.value) 0 d.rd
    exact (and_iff_left ⟨h1, h2⟩).trans (swap_keeps_iff hz hrd _)
  case CASA =>
    have hlt : (d.rd &&& 0x1f).toNat < 32 := by
      rw [BitVec.toNat_and]
      exact Nat.lt_of_le_of_lt Nat.and_le_right (by decide)
    exact (and_iff_left (hfields c old _)).trans (keeps_write_reg hz hlt old)
  all_goals exact iff_of_true ⟨.refl c, rfl, rfl⟩ trivial

lemma spoiled_trap_type (c : CPU) (d : DecodeStruct) (old : u32) :
    (c.spoiled d old).trap_type = c.trap_type := by
  unfold CPU.spoiled
  split <;> first | rfl | exact (goodC_write_reg (U := False) _ _).trap_type _

end Spoil

section Instruction

variable {E : Board δ} {s : St δ} {a : DataOp} {old : u32} {t : MMUSt δ}

lemma ignored_passed_iff (hb : t.mem.bytes = s.mem.bytes) {c : CPU}
    (ht : c.trap_type = s.cpu.trap_type) {u : St δ}
    (hu : u = { { s with d := s.instr }.passed t c with cpu := c.write_back s.instr.next }) :
    Ignored s u ↔ s.cpu.Keeps c ∧ c.freg = s.cpu.freg ∧ c.fsr = s.cpu.fsr := by
  obtain ⟨-, hnpc, hwb⟩ := instr_kept s
  have hw : u.cpu = CPU.update_cwp_bases
      { c with pc := s.cpu.npc, npc := s.cpu.npc + 4, psr := s.instr.psr } := by
    rw [hu, ← hnpc]
    unfold CPU.write_back
    rw [if_neg (by rw [DecodeStruct.next, hwb]; decide)]
    rfl
  have hm : u.mem.bytes = s.mem.bytes := by
    rw [hu]
    exact hb
  constructor
  · rintro ⟨-, -, -, hk, hfr, hfs, -⟩
    unfold RegsKept at hk
    rw [hw] at hk hfr hfs
    exact ⟨hk, hfr, hfs⟩
  · rintro ⟨hk, hfr, hfs⟩
    refine ⟨?_, ?_, ?_, ?_, ?_, ?_, hm⟩
    · rw [hw]; exact ht
    · rw [hw]; rfl
    · rw [hw]; rfl
    · unfold RegsKept; rw [hw]; exact hk
    · rw [hw]; exact hfr
    · rw [hw]; exact hfs

/-- `LDSTUB` does not look at the no-fault bit: the program counters stay. -/
lemma ldstub_not_ignored (hen : s.mmu.get_enabled = true) (hnf : s.mmu.get_no_fault = true)
    (hf : s.instr.function = .LDSTUB) (h : dataOp s.cpu s.instr = some a)
    (hd : a.Denied E.mc s.bus old t) : ¬ ∃ u, excute_one E s = .ok () u ∧ Ignored s u := by
  rintro ⟨u, hu, hi⟩
  have ha : DataOp.ldstub s.instr.ev (Psr.s s.instr.psr) = a := by
    unfold dataOp at h
    rw [hf] at h
    exact Option.some.inj h
  subst ha
  have href : Refuses (LDSTUB E) { s with d := s.instr } t := by
    cases hd with
    | ldstub deny =>
      exact LDSTUB_refuses (bind_ok (MMU.ldstub_load hen hnf deny))
  rw [excute_one_instr, hf] at hu
  cases het : Psr.et s.cpu.psr with
  | false =>
    have hthrow := href.throws het
    simp only [Handler.exec] at hu
    cases hx : LDSTUB E { s with d := s.instr } with
    | ok r w => rw [hx] at hthrow; exact hthrow trivial
    | error e w => rw [hx] at hu; cases hu
  | true =>
    obtain ⟨c, -, hx⟩ := href.taken het
    simp only [Handler.exec] at hu
    rw [hx] at hu
    cases hu
    have hn := (write_back_pc { c with trap_type := recorded s.cpu.trap_type } s.instr).2
    have h4 : s.cpu.npc = s.cpu.npc + 4 := (instr_kept s).2.1.symm.trans (hn.symm.trans hi.npc)
    cases BitVec.self_eq_add_right.mp h4

/-- **No-fault mode**: a data instruction whose access is denied is skipped without effect exactly
where its destination held already what is written to it, and `LDSTUB` never is. -/
theorem no_fault_ignored_iff (hz : s.cpu.globals 0 = 0) (hen : s.mmu.get_enabled = true)
    (hnf : s.mmu.get_no_fault = true) (h : dataOp s.cpu s.instr = some a)
    (hd : a.Denied E.mc s.bus old t) :
    (∃ u, excute_one E s = .ok () u ∧ Ignored s u) ↔ Unspoiled s.cpu s.instr old := by
  by_cases hf : s.instr.function = .LDSTUB
  · refine iff_of_false (ldstub_not_ignored hen hnf hf h hd) fun hc => ?_
    unfold Unspoiled at hc
    rw [hf] at hc
    exact hc
  · have hrd : s.instr.rd.toNat < 32 := by
      refine decode_rd_lt fun hc => ?_
      unfold dataOp at h
      rw [show s.instr.function = .CALL from hc] at h
      cases h
    have hx := exec_passes (s := { s with d := s.instr }) hen hnf (instr_psr s) h hd hf
      (throwHost .stack_overflow)
    rw [← spoiled_kept_iff hz hrd hf, ← ignored_passed_iff hd.bytes (spoiled_trap_type _ _ _) rfl,
      excute_one_instr, hx]
    constructor
    · rintro ⟨u, hu, hi⟩
      cases hu
      exact hi
    · intro hi
      exact ⟨_, rfl, hi⟩

end Instruction

/-- A machine in user mode that translates through empty tables, with the no-fault bit set; its
registers hold 7. -/
def St.noFault (opcode : u32) : St Unit :=
  { St.user opcode with
    cpu := { (St.user opcode).cpu with outs := fun _ => 7, freg := fun _ => 7 }
    mmu := { MMU.init with control_reg := 3 } }

/-- An integer load from an address without an entry is skipped. -/
theorem no_fault_ignored_iff_ld :
    (∃ u, excute_one (Board.ram []) (St.noFault 0xd0002100) = .ok () u ∧
      Ignored (St.noFault 0xd0002100) u) ↔
      Unspoiled (St.noFault 0xd0002100).cpu (St.noFault 0xd0002100).instr 0 :=
  no_fault_ignored_iff rfl (by decide) (by decide) (a := .word .load .b4 0x100 0 false) (by decide)
    (.word rfl ⟨_, rfl, rfl⟩)

/-- In no-fault mode, with no entry for the address: `LDSTUB` records the data access exception and
stays where it is, `SWAP` clears its register and so does a floating-point load. -/
theorem no_fault_spoils :
    (∃ u, excute_one (Board.ram []) (St.noFault 0xd0682100) = .ok () u ∧
      u.cpu.trap_type = 9 ∧ u.cpu.pc = (St.noFault 0xd0682100).cpu.pc) ∧
    (∃ u, excute_one (Board.ram []) (St.noFault 0xd0782100) = .ok () u ∧
      (St.noFault 0xd0782100).cpu.read_reg 8 0 = 7 ∧ u.cpu.read_reg 8 0 = 0) ∧
    (∃ u, excute_one (Board.ram []) (St.noFault 0xd1002100) = .ok () u ∧
      (St.noFault 0xd1002100).cpu.freg 8 = 7 ∧ u.cpu.freg 8 = 0) :=
  ⟨⟨_, rfl, by decide, by decide⟩, ⟨_, rfl, by decide, by decide⟩, ⟨_, rfl, by decide, by decide⟩⟩

end SparcEmu
