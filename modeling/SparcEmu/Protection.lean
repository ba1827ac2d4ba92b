import SparcEmu.Faults
import SparcEmu.RamAccess

/-!
Atomics and write protection: which atomic instructions write memory through an entry that
denies the store.
-/

namespace SparcEmu

open Lib.Effect

variable {δ : Type} {v : u32} {α : Type}

namespace MMU

variable {mc : MCtrl δ}

/-! ### What the translation of a data address finds -/

/-- The entry for a data address: from the TLB, or from the tables. -/
def entryOf (mc : MCtrl δ) (s : MMUSt δ) (va : u32) : Option (u32 × u8) :=
  match (s.mmu.dtlb.lookup s.mmu.ctx_n va).1 with
  | some p => some p
  | none => (tables mc s).leaf s.mmu.ctx_n va

/-- The translation does not throw: the TLB has the entry, or it may be put there. -/
def Resolves (s : MMUSt δ) (va : u32) (r : u32 × u8) : Prop :=
  (s.mmu.dtlb.lookup s.mmu.ctx_n va).1.isSome = true ∨ (s.mmu.ctx_n ≤ 255 ∧ RootOk r)

/-- The entry permits a load, by the bit table for an entry of the TLB and by `check_perms` for
one of the tables. -/
def loadOk (s : MMUSt δ) (va : u32) (r : u32 × u8) (sup : Bool) : Bool :=
  match (s.mmu.dtlb.lookup s.mmu.ctx_n va).1 with
  | some _ => permOk r.1 .load sup
  | none => permFault r.1 .load sup r.2 = 0

section Translation

variable {s : MMUSt δ} {va : u32} {r : u32 × u8}

lemma translate_load (he : entryOf mc s va = some r) (hx : Resolves s va r) (sup rep : Bool) :
    ∃ m, translate_va mc va sup .load rep s = .ok (xres (loadOk s va r sup) va r) ⟨m, s.mem⟩ := by
  unfold entryOf at he
  unfold Resolves at hx
  unfold loadOk
  rcases hf : s.mmu.dtlb.lookup s.mmu.ctx_n va with ⟨_ | p, t⟩ <;> rw [hf] at he hx <;>
    dsimp only at he hx ⊢
  · obtain rfl := TLB.lookup_none hf
    obtain ⟨hc, hr⟩ : s.mmu.ctx_n ≤ 255 ∧ RootOk r := by simpa using hx
    obtain ⟨t', ht⟩ := insert_of_leaf he hr (s.mmu.tlb .load)
    have h : translate_va mc va sup .load rep s = _ :=
      translate_va_miss hc (show (s.mmu.tlb .load).lookup _ _ = (none, s.mmu.tlb .load) from hf) he
    rw [ht, outcome_eq] at h
    exact ⟨_, h⟩
  · cases he
    exact ⟨_, translate_va_hit hf⟩

lemma translate_load_throws (he : entryOf mc s va = some r) (hx : ¬ Resolves s va r)
    (sup rep : Bool) :
    ∃ e, translate_va mc va sup .load rep s = .error e s := by
  unfold entryOf at he
  unfold Resolves at hx
  rcases hf : s.mmu.dtlb.lookup s.mmu.ctx_n va with ⟨_ | p, t⟩ <;> rw [hf] at he hx <;>
    dsimp only at he hx ⊢
  · obtain rfl := TLB.lookup_none hf
    by_cases hc : s.mmu.ctx_n ≤ 255
    · have hr : ¬ RootOk r := fun h => hx (Or.inr ⟨hc, h⟩)
      obtain ⟨h2, h0⟩ : r.1 &&& 3 = 2 ∧ r.2 = 0 := by simpa [RootOk] using hr
      have hi : ∃ e, (s.mmu.tlb .load).insert s.mmu.ctx_n va r.2 r.1 = .error e := by
        unfold TLB.insert
        rw [if_pos (by simpa [TLB.is_valid] using h2), h0]
        exact ⟨_, rfl⟩
      obtain ⟨e, hi⟩ := hi
      have h : translate_va mc va sup .load rep s = _ :=
        translate_va_miss hc (show (s.mmu.tlb .load).lookup _ _ = (none, s.mmu.tlb .load) from hf) he
      rw [hi] at h
      exact ⟨e, h⟩
    · have hlk : tlbLookup .load s.mmu.ctx_n va s = .ok none s := by
        simp only [tlbLookup, show (s.mmu.tlb .load).lookup s.mmu.ctx_n va = _ from hf]
        rw [show s.mmu.setTlb s.mmu.dtlb .load = s.mmu from setTlb_tlb _ .load]
      refine ⟨.runtime_error "ctx_n > 255 error", ?_⟩
      unfold translate_va
      rw [getMMU_bind, bind_ok hlk]
      refine bind_error ?_
      unfold walkMiss
      rw [if_pos (BitVec.not_le.mp hc)]
      rfl
  · exact absurd (Or.inl rfl) hx

end Translation

/-! ### Atomics on an entry that denies the store -/

section Denied

variable {s : MMUSt δ} {va : u32} {r : u32 × u8} {sup : Bool}

/-- The word at the address is the expected one. -/
def Reads (mc : MCtrl δ) (mem : Mem δ) (pa e : u32) : Prop :=
  ∃ i b mem', mc.get_bank pa = some (i, b) ∧ mc.bankRead i b .b4 pa mem = .ok (e, mem')

lemma bankRead_bytes {i : Nat} {b : IMemoryBank} {size : AccessSize} {pa : u32} {mem mem' : Mem δ}
    (h : mc.bankRead i b size pa mem = .ok (v, mem')) : mem'.bytes = mem.bytes := by
  unfold MCtrl.bankRead at h
  split at h
  · next id _ _ =>
    rcases hn : MCtrl.nolock (mc.dev.read id size pa mem.dev) with x | p <;> rw [hn] at h <;> cases h
    rfl
  · cases h
    rfl

variable (hen : s.mmu.get_enabled = true) (he : entryOf mc s va = some r)

include hen he

lemma atomic_throws {rep : MMU → Bool} {k : MMU → MMUTranslateResult → MmuM δ α} {off : MmuM δ α}
    (hx : ¬ Resolves s va r) :
    ∃ e, (do
      let m ← getMMU
      if m.get_enabled then do
        let tr ← translate_va mc va sup .load (rep m)
        k m tr
      else off : MmuM δ α) s = .error e s := by
  obtain ⟨e, h⟩ := translate_load_throws he hx sup (rep s.mmu)
  exact ⟨e, by rw [getMMU_bind, if_pos hen, bind_error h]⟩

variable (hx : Resolves s va r)

include hx

lemma atomic_swap32_denied (hw : permFault r.1 .store sup r.2 ≠ 0) (v : u32) :
    ∃ m, atomic_swap32 mc va sup v s = .ok ⟨false, 0⟩ ⟨m, s.mem⟩ := by
  obtain ⟨m, h⟩ := translate_load he hx sup (!s.mmu.get_no_fault)
  unfold atomic_swap32
  rw [getMMU_bind, if_pos hen, bind_ok h]
  cases hl : loadOk s va r sup with
  | false => exact ⟨m, rfl⟩
  | true =>
    simp only [xres, if_true]
    rw [bind_ok (check_perms_eq va .store sup r _ _), if_pos hw]
    exact ⟨_, rfl⟩

lemma atomic_casa32_denied (hw : permFault r.1 .store sup r.2 ≠ 0) (e v : u32) :
    (final (atomic_casa32 mc va sup e v s)).mem.bytes = s.mem.bytes ∧
      (Reads mc s.mem (physAddr va r.1 r.2) e →
        ∃ o t, atomic_casa32 mc va sup e v s = .ok ⟨false, o⟩ t) := by
  obtain ⟨m, h⟩ := translate_load he hx sup (!s.mmu.get_no_fault)
  unfold atomic_casa32
  rw [getMMU_bind, if_pos hen, bind_ok h]
  cases hl : loadOk s va r sup with
  | false => exact ⟨rfl, fun _ => ⟨0, _, rfl⟩⟩
  | true =>
    simp only [xres, if_true]
    unfold casAt
    rcases hb : mc.get_bank (physAddr va r.1 r.2) with _ | ⟨i, b⟩
    · exact ⟨rfl, fun _ => ⟨0, _, rfl⟩⟩
    · dsimp only
      rcases hrd : mc.bankRead i b .b4 (physAddr va r.1 r.2) s.mem with x | ⟨o, mem'⟩
      · have ho : onMem (mc.bankRead i b .b4 (physAddr va r.1 r.2)) ⟨m, s.mem⟩
            = .error x ⟨m, s.mem⟩ := by simp only [onMem, hrd]
        rw [bind_error ho]
        refine ⟨rfl, ?_⟩
        rintro ⟨i', b', mem', hb', hrd'⟩
        rw [hb] at hb'
        cases hb'
        rw [hrd] at hrd'
        cases hrd'
      · have ho : onMem (mc.bankRead i b .b4 (physAddr va r.1 r.2)) ⟨m, s.mem⟩
            = .ok o ⟨m, mem'⟩ := by simp only [onMem, hrd]
        have hbytes := bankRead_bytes hrd
        rw [bind_ok ho]
        split_ifs with hoe
        · rw [bind_ok (check_perms_eq va .store sup r _ _), if_pos hw]
          exact ⟨hbytes, fun _ => ⟨o, _, rfl⟩⟩
        · refine ⟨hbytes, ?_⟩
          rintro ⟨i', b', mem'', hb', hrd'⟩
          rw [hb] at hb'
          cases hb'
          rw [hrd] at hrd'
          cases hrd'
          exact absurd rfl hoe

lemma ldstub_eq : ∃ m, ldstub mc va sup s =
    if loadOk s va r sup then onMem (mc.atomic_ldstub8 (physAddr va r.1 r.2)) ⟨m, s.mem⟩
    else .ok none ⟨m, s.mem⟩ := by
  obtain ⟨m, h⟩ := translate_load he hx sup (!s.mmu.get_no_fault)
  refine ⟨m, ?_⟩
  unfold ldstub
  rw [getMMU_bind, if_pos hen, bind_ok h]
  cases loadOk s va r sup <;> rfl

end Denied

end MMU

/-! ### The instructions and their accesses -/

section Atomic

variable {E : Board δ} {s : St δ}

def Handler.isAtomic : Handler → Bool
  | .LDSTUB | .SWAP | .SWAPA | .CASA => true
  | _ => false

lemma not_alternate {f : Handler} (h : f.isAtomic = true) :
    f ≠ .LDA_impl ∧ f ≠ .STA_impl := by
  constructor <;> rintro rfl <;> cases h

end Atomic

/-! ### Write protection -/

/-- The physical address of an access through the entry `r`. -/
def DataOp.pa (a : DataOp) (r : u32 × u8) : u32 := MMU.physAddr a.va r.1 r.2

/-- The entry permits a store in the mode of the access. -/
def DataOp.StoreOk (a : DataOp) (r : u32 × u8) : Prop := MMU.permFault r.1 .store a.sup r.2 = 0

/-- The operation would have to write: a compare and swap only where the comparison succeeds. -/
def DataOp.Writes (mc : MCtrl δ) (mem : Mem δ) (a : DataOp) (r : u32 × u8) : Prop :=
  match a with
  | .casa _ e _ _ => MMU.Reads mc mem (a.pa r) e
  | _ => True

/-- Between the states no register has changed, but for the swap register. -/
def RegsKept (s u : St δ) : Prop :=
  u.cpu.locals = s.cpu.locals ∧ u.cpu.outs = s.cpu.outs ∧
    ∀ i, i ≠ 8 → u.cpu.globals i = s.cpu.globals i

/-- The store is refused: memory and registers are as before and the data access exception is
taken. -/
def StoreRefused (E : Board δ) (s : St δ) : Prop :=
  ∃ u, excute_one E s = .ok () u ∧ u.mem.bytes = s.mem.bytes ∧ RegsKept s u ∧ FaultTaken s u

/-- The atomic instruction of `s`, whose access `a` goes through the entry `r`, respects write
protection. -/
structure WriteProtected (E : Board δ) (s : St δ) (a : DataOp) (r : u32 × u8) : Prop where
  only : (final (excute_one E s)).mem.bytes ≠ s.mem.bytes → a.StoreOk r
  denied : s.mmu.get_no_fault = false → a.Writes E.mc s.mem r → ¬ a.StoreOk r → StoreRefused E s

/-- `LDSTUB` changes a byte: the load is permitted and RAM holds another value than `0xff`. -/
def Overwrites (E : Board δ) (s : St δ) (a : DataOp) (r : u32 × u8) : Prop :=
  MMU.Resolves ⟨s.mmu, s.mem⟩ a.va r ∧ MMU.loadOk ⟨s.mmu, s.mem⟩ a.va r a.sup = true ∧
    ∃ i b, E.mc.get_bank (a.pa r) = some (i, b) ∧ b.kind = .RamBank ∧
      s.mem.bytes i (b.offset (a.pa r)) ≠ 0xff

/-- When an atomic instruction respects write protection: the store is permitted, or the
translation and the trap are possible and `LDSTUB` is stopped by something else. -/
def ProtectedWhen (E : Board δ) (s : St δ) (a : DataOp) (r : u32 × u8) : Prop :=
  let ready := Psr.et s.cpu.psr = true ∧ MMU.Resolves ⟨s.mmu, s.mem⟩ a.va r
  a.StoreOk r ∨
    match a with
    | .ldstub _ _ =>
      if s.mmu.get_no_fault then ¬ Overwrites E s a r
      else ready ∧ (MMU.loadOk ⟨s.mmu, s.mem⟩ a.va r a.sup = true → E.mc.get_bank (a.pa r) = none)
    | _ => s.mmu.get_no_fault = true ∨ ¬ a.Writes E.mc s.mem r ∨ ready

variable {va : u32} {sup : Bool}

section Protect

variable {E : Board δ} {s : St δ} {a : DataOp} {r : u32 × u8}

lemma StoreRefused.returns (h : StoreRefused E s) : Returns (excute_one E s) := by
  obtain ⟨u, hu, -⟩ := h
  rw [hu]; trivial

/-- A failure that leaves memory alone is refused, if traps are enabled. -/
lemma storeRefused_iff {t : MMUSt δ} (h : dataOp s.cpu s.instr = some a)
    (hf : s.instr.function.isAtomic = true) (hnf : s.mmu.get_no_fault = false)
    (ha : a.fails E.mc ⟨s.mmu, s.mem⟩ = .ok true t) (hb : t.mem.bytes = s.mem.bytes) :
    StoreRefused E s ↔ Psr.et s.cpu.psr = true := by
  have hnf' : t.mmu.get_no_fault = false := by
    unfold MMU.get_no_fault at hnf ⊢
    rw [(MMU.priv_ctx ((keepsPriv_fails E.mc a).ok ha)).2.2]
    exact hnf
  have hfsr : s.instr.function ≠ .LDFSR_impl ∧ s.instr.function ≠ .STFSR_impl :=
    ⟨fun e => by simp [e, Handler.isAtomic] at hf, fun e => by simp [e, Handler.isAtomic] at hf⟩
  have href := exec_refuses (s := { s with d := s.instr }) hnf' (instr_psr s) h ha hfsr
    (throwHost .stack_overflow)
  constructor
  · intro hr
    by_contra het
    refine href.throws (by simpa using het) ?_
    have := hr.returns
    rw [excute_one_instr] at this
    split at this
    · next hx => rw [hx]; trivial
    · exact this.elim
  · intro het
    obtain ⟨c, hk, hx⟩ := href.taken het
    obtain ⟨hpc, hnpc, hwb⟩ := instr_kept s
    have hw : ∀ c' : CPU, c'.write_back s.instr = { c' with
        pc := s.cpu.pc, npc := s.cpu.npc, psr := s.cpu.psr
        cwp_base := (s.cpu.psr &&& 0x1f) <<< 3 } := by
      intro c'
      unfold CPU.write_back CPU.update_cwp_bases
      rw [hpc, hnpc, hwb, instr_psr]
      rfl
    refine ⟨_, by rw [excute_one_instr, hx], hb, ?_, ?_⟩
    · unfold RegsKept
      dsimp only [St.after]
      rw [hw]
      exact ⟨by rw [hk.1], by rw [hk.1], hk.2.1⟩
    · unfold FaultTaken
      dsimp only [St.after]
      rw [hw]
      exact ⟨rfl, rfl, rfl⟩

lemma not_storeRefused (h : dataOp s.cpu s.instr = some a)
    (hf : s.instr.function.isAtomic = true)
    (ha : ¬ Returns (a.fails E.mc ⟨s.mmu, s.mem⟩)) : ¬ StoreRefused E s := by
  rintro ⟨u, hu, -⟩
  have hx := excute_one_accesses (E := E) (not_alternate hf)
  rw [hu, h] at hx
  obtain ⟨⟨b, hb⟩, -⟩ := hx
  rw [hb] at ha
  exact ha trivial

lemma excute_one_bytes (h : dataOp s.cpu s.instr = some a)
    (hf : s.instr.function.isAtomic = true) :
    (final (excute_one E s)).mem = (final (a.fails E.mc ⟨s.mmu, s.mem⟩)).mem := by
  have hx := congrArg MMUSt.mem (excute_one_leaves (E := E) (not_alternate hf))
  rwa [h] at hx

lemma memWrite_stub (h : HostBytes) {b : IMemoryBank} (hk : b.kind = .RamBank) (i : Nat) (pa : u32) :
    memWrite h b i pa 0xff .b1 = h ↔ h i (b.offset pa) = 0xff := by
  have e : memWrite h b i pa 0xff .b1 = setByte h i (b.offset pa) 0xff := by
    simp [memWrite, putBankByte, putByte, bytePtr, hk, byteShift]
  rw [e]
  constructor
  · intro he
    have := congrFun (congrFun he i) (b.offset pa)
    simpa [setByte] using this.symm
  · intro he
    funext j o
    unfold setByte
    split_ifs with hc
    · rw [hc.1, hc.2, he]
    · rfl

/-- Where memory stays as it is, protection is that a store which has to be refused is. -/
lemma protected_of_same {R : Prop} (hsame : (final (excute_one E s)).mem.bytes = s.mem.bytes)
    (hw : ¬ a.StoreOk r)
    (hR : s.mmu.get_no_fault = false → a.Writes E.mc s.mem r → (StoreRefused E s ↔ R)) :
    WriteProtected E s a r ↔ s.mmu.get_no_fault = true ∨ ¬ a.Writes E.mc s.mem r ∨ R := by
  constructor
  · intro hp
    cases hnf : s.mmu.get_no_fault with
    | true => exact Or.inl rfl
    | false =>
      by_cases hwr : a.Writes E.mc s.mem r
      · exact Or.inr (Or.inr ((hR hnf hwr).mp (hp.denied hnf hwr hw)))
      · exact Or.inr (Or.inl hwr)
  · intro hc
    refine ⟨fun hne => absurd hsame hne, fun hnf hwr _ => ?_⟩
    rcases hc with hc | hc | hc
    · rw [hnf] at hc; cases hc
    · exact absurd hwr hc
    · exact (hR hnf hwr).mpr hc

variable (hf : s.instr.function.isAtomic = true) (h : dataOp s.cpu s.instr = some a)
  (hen : s.mmu.get_enabled = true) (hr : MMU.entryOf E.mc ⟨s.mmu, s.mem⟩ a.va = some r)
  (hw : ¬ a.StoreOk r)

include hf h

lemma throws_same {e : HostError} {m : MMU}
    (ha : a.fails E.mc ⟨s.mmu, s.mem⟩ = .error e ⟨m, s.mem⟩) :
    (final (excute_one E s)).mem.bytes = s.mem.bytes ∧ ¬ StoreRefused E s :=
  ⟨by rw [excute_one_bytes h hf, ha]; rfl, not_storeRefused h hf (by rw [ha]; exact id)⟩

include hen hr hw

lemma swap_protected (ha : a = .swap va v sup) :
    WriteProtected E s a r ↔ ProtectedWhen E s a r := by
  subst ha
  refine Iff.trans ?_ (or_iff_right hw).symm
  by_cases hx : MMU.Resolves ⟨s.mmu, s.mem⟩ va r
  · obtain ⟨m, hm⟩ := MMU.atomic_swap32_denied hen hr hx hw v
    have hfail : (DataOp.swap va v sup).fails E.mc ⟨s.mmu, s.mem⟩ = .ok true ⟨m, s.mem⟩ :=
      map_ok_iff.mpr ⟨_, hm, rfl⟩
    refine protected_of_same (by rw [excute_one_bytes h hf, hfail]; rfl) hw fun hnf _ => ?_
    rw [storeRefused_iff h hf hnf hfail rfl]
    exact (and_iff_left hx).symm
  · obtain ⟨e, he⟩ := MMU.atomic_throws hen hr hx
    obtain ⟨hsame, hno⟩ := throws_same hf h (bind_error he)
    exact protected_of_same hsame hw fun _ _ => iff_of_false hno fun hc => hx hc.2

lemma casa_protected {x : u32} (ha : a = .casa va x v sup) :
    WriteProtected E s a r ↔ ProtectedWhen E s a r := by
  subst ha
  refine Iff.trans ?_ (or_iff_right hw).symm
  by_cases hx : MMU.Resolves ⟨s.mmu, s.mem⟩ va r
  · obtain ⟨hb, hfails⟩ := MMU.atomic_casa32_denied hen hr hx hw x v
    have hsame : (final (excute_one E s)).mem.bytes = s.mem.bytes := by
      rw [excute_one_bytes h hf]
      exact (congrArg (fun t : MMUSt δ => t.mem.bytes) (final_map _ _ _)).trans hb
    refine protected_of_same hsame hw fun hnf hwr => ?_
    obtain ⟨o, t, ht⟩ := hfails hwr
    rw [ht] at hb
    rw [storeRefused_iff h hf hnf (map_ok_iff.mpr ⟨_, ht, rfl⟩) hb]
    exact (and_iff_left hx).symm
  · obtain ⟨e, he⟩ := MMU.atomic_throws hen hr hx
    obtain ⟨hsame, hno⟩ := throws_same hf h (bind_error he)
    exact protected_of_same hsame hw fun _ _ => iff_of_false hno fun hc => hx hc.2

omit hen hr hw in
lemma ldstub_not_refused {x : u32} {t : MMUSt δ} (ha : a = .ldstub va sup)
    (hs : MMU.ldstub E.mc va sup ⟨s.mmu, s.mem⟩ = .ok (some x) t) : ¬ StoreRefused E s := by
  subst ha
  have hfn : s.instr.function = .LDSTUB ∧ s.instr.ev = va ∧ Psr.s s.instr.psr = sup := by
    unfold dataOp at h
    cases hfn : s.instr.function <;> rw [hfn] at h hf <;>
      simp only [Handler.isAtomic, reduceCtorEq] at hf <;>
      simp only [Option.ite_none_right_eq_some, Option.some.injEq, reduceCtorEq, and_false,
        DataOp.ldstub.injEq] at h
    exact ⟨rfl, h⟩
  rw [← hfn.2.1, ← hfn.2.2] at hs
  rintro ⟨u, hu, -, -, -, -, hn⟩
  rw [excute_one_instr, hfn.1] at hu
  have hx : LDSTUB E { s with d := s.instr } = .ok () { s.after t with
      cpu := (s.cpu.write_reg (x &&& 0xff) s.instr.rd).setSwap 0xff, d := s.instr.next } := by
    unfold LDSTUB
    rw [bind_ok (show getD { s with d := s.instr } = .ok s.instr _ from rfl),
      bind_ok (onMMU_ok (s := { s with d := s.instr }) hs)]
    rfl
  rw [show Handler.exec E (throwHost .stack_overflow) .LDSTUB { s with d := s.instr } = _ from hx] at hu
  cases hu
  have h4 : s.cpu.npc = s.cpu.npc + 4 :=
    hn.symm.trans ((write_back_pc _ _).2.trans (congrArg (· + 4) (instr_kept s).2.1))
  have := BitVec.self_eq_add_right.mp h4
  cases this

/-- `LDSTUB` does not look at the store permission. -/
lemma ldstub_protected (ha : a = .ldstub va sup) :
    WriteProtected E s a r ↔ ProtectedWhen E s a r := by
  subst ha
  refine Iff.trans ?_ (or_iff_right hw).symm
  dsimp only
  -- What holds where memory stays as it is and the failure is refused just when `R`.
  have same : ∀ {R : Prop}, (final (excute_one E s)).mem.bytes = s.mem.bytes →
      (s.mmu.get_no_fault = false → (StoreRefused E s ↔ R)) → ¬ Overwrites E s (.ldstub va sup) r →
      (WriteProtected E s (.ldstub va sup) r ↔
        if s.mmu.get_no_fault = true then ¬ Overwrites E s (.ldstub va sup) r else R) := by
    intro R hsame hR hno
    rw [protected_of_same hsame hw fun hnf _ => hR hnf]
    cases hnf : s.mmu.get_no_fault <;> simp [hno, DataOp.Writes]
  by_cases hx : MMU.Resolves ⟨s.mmu, s.mem⟩ va r
  · obtain ⟨m, hm⟩ : ∃ m, MMU.ldstub E.mc va sup ⟨s.mmu, s.mem⟩ =
        if MMU.loadOk ⟨s.mmu, s.mem⟩ va r sup then
          MMU.onMem (E.mc.atomic_ldstub8 ((DataOp.ldstub va sup).pa r)) ⟨m, s.mem⟩
        else .ok none ⟨m, s.mem⟩ := MMU.ldstub_eq hen hr hx
    have fails : MMU.ldstub E.mc va sup ⟨s.mmu, s.mem⟩ = .ok none ⟨m, s.mem⟩ →
        (MMU.loadOk ⟨s.mmu, s.mem⟩ va r sup = true →
          E.mc.get_bank ((DataOp.ldstub va sup).pa r) = none) →
        (WriteProtected E s (.ldstub va sup) r ↔
          if s.mmu.get_no_fault = true then ¬ Overwrites E s (.ldstub va sup) r
          else (Psr.et s.cpu.psr = true ∧ MMU.Resolves ⟨s.mmu, s.mem⟩ va r) ∧
            (MMU.loadOk ⟨s.mmu, s.mem⟩ va r sup = true →
              E.mc.get_bank ((DataOp.ldstub va sup).pa r) = none)) := by
      intro hn hno
      have hfail : (DataOp.ldstub va sup).fails E.mc ⟨s.mmu, s.mem⟩ = .ok true ⟨m, s.mem⟩ :=
        map_ok_iff.mpr ⟨_, hn, rfl⟩
      refine same (by rw [excute_one_bytes h hf, hfail]; rfl) (fun hnf => ?_) ?_
      · rw [storeRefused_iff h hf hnf hfail rfl]
        exact ⟨fun het => ⟨⟨het, hx⟩, hno⟩, fun hc => hc.1.1⟩
      · rintro ⟨-, hl, i, b, hb, -⟩
        rw [hno hl] at hb
        cases hb
    by_cases hl : MMU.loadOk ⟨s.mmu, s.mem⟩ va r sup = true
    · rw [if_pos hl] at hm
      unfold MMU.onMem MCtrl.atomic_ldstub8 at hm
      obtain hb | ⟨⟨i, b⟩, hb⟩ := (E.mc.get_bank ((DataOp.ldstub va sup).pa r)).eq_none_or_eq_some <;>
        rw [hb] at hm
      · exact fails hm fun _ => hb
      · by_cases hk : b.kind = .RamBank
        · dsimp only at hm
          rw [hk] at hm
          have hfail : (DataOp.ldstub va sup).fails E.mc ⟨s.mmu, s.mem⟩ = .ok false _ := bind_ok hm
          have hbytes : (final (excute_one E s)).mem.bytes
              = memWrite s.mem.bytes b i ((DataOp.ldstub va sup).pa r) 0xff .b1 := by
            rw [excute_one_bytes h hf, hfail]; rfl
          have hno := ldstub_not_refused hf h rfl hm
          cases hnf : s.mmu.get_no_fault with
          | true =>
            rw [if_pos rfl]
            constructor
            · rintro hp ⟨-, -, i', b', hb', -, hne⟩
              rw [hb] at hb'
              cases hb'
              refine hw (hp.only ?_)
              rw [hbytes]
              exact fun he => hne ((memWrite_stub _ hk _ _).mp he)
            · intro hno'
              refine ⟨fun hne => absurd ?_ hne, fun hnf' => by rw [hnf] at hnf'; cases hnf'⟩
              rw [hbytes, memWrite_stub _ hk]
              by_contra hne
              exact hno' ⟨hx, hl, i, b, hb, hk, hne⟩
          | false =>
            rw [if_neg (by decide)]
            exact iff_of_false (fun hp => hno (hp.denied hnf trivial hw)) fun hc => by
              rw [hc.2 hl] at hb; cases hb
        · have hm' : MMU.ldstub E.mc va sup ⟨s.mmu, s.mem⟩ = .error .terminate ⟨m, s.mem⟩ := by
            dsimp only at hm
            rw [hm]
            cases hk' : b.kind <;> first | rfl | exact absurd hk' hk
          obtain ⟨hsame, hno⟩ := throws_same hf h (bind_error hm')
          refine same hsame (fun _ => iff_of_false hno fun hc => ?_) ?_
          · rw [hc.2 hl] at hb; cases hb
          · rintro ⟨-, -, i', b', hb', hk', -⟩
            rw [hb] at hb'
            cases hb'
            exact hk hk'
    · exact fails (by rw [hm, if_neg hl]) fun h => absurd h hl
  · obtain ⟨e, he⟩ := MMU.atomic_throws hen hr hx
    obtain ⟨hsame, hno⟩ := throws_same hf h (bind_error he)
    exact same hsame (fun _ => iff_of_false hno fun hc => hx hc.1.2) fun hc => hx hc.1

omit hen hr hw in
lemma atomic_op_cases : (∃ va v sup, a = .swap va v sup) ∨ (∃ va x v sup, a = .casa va x v sup) ∨
    ∃ va sup, a = .ldstub va sup := by
  unfold dataOp at h
  cases hfn : s.instr.function <;> rw [hfn] at h hf <;>
    simp only [Handler.isAtomic, reduceCtorEq] at hf <;>
    simp only [Option.ite_none_right_eq_some, Option.some.injEq] at h
  case SWAP | SWAPA => exact Or.inl ⟨_, _, _, h.2.symm⟩
  case LDSTUB => exact Or.inr (Or.inr ⟨_, _, h.symm⟩)
  case CASA => exact Or.inr (Or.inl ⟨_, _, _, _, h.2.symm⟩)

end Protect

/-- **Write protection of atomics**: with the MMU on, an atomic instruction that makes no access
leaves memory alone; one that makes an access respects write protection exactly when
`ProtectedWhen` holds. -/
theorem atomics_protected_iff {E : Board δ} {s : St δ} (hen : s.mmu.get_enabled = true)
    (hf : s.instr.function.isAtomic = true) :
    (dataOp s.cpu s.instr = none → (final (excute_one E s)).mem.bytes = s.mem.bytes) ∧
      ∀ a r, dataOp s.cpu s.instr = some a → MMU.entryOf E.mc ⟨s.mmu, s.mem⟩ a.va = some r →
        (WriteProtected E s a r ↔ ProtectedWhen E s a r) := by
  refine ⟨fun h => ?_, fun a r h hr => ?_⟩
  · have hx := congrArg (fun t : MMUSt δ => t.mem.bytes) (excute_one_leaves (E := E) (not_alternate hf))
    rwa [h] at hx
  · by_cases hw : a.StoreOk r
    · exact iff_of_true ⟨fun _ => hw, fun _ _ hne => absurd hw hne⟩ (Or.inl hw)
    · rcases atomic_op_cases hf h with ⟨va, v, sup, ha⟩ | ⟨va, x, v, sup, ha⟩ | ⟨va, sup, ha⟩
      · exact swap_protected hf h hen hr hw ha
      · exact casa_protected hf h hen hr hw ha
      · exact ldstub_protected hf h hen hr hw ha

/-- A machine in user mode with the MMU on, whose tables map the first 16 MB read-only. -/
def St.readOnly (opcode : u32) : St Unit :=
  { St.user opcode with
    mmu := { MMU.init with control_reg := 1 }
    mem := ⟨fun _ o => if o = 3 then 0x11 else if o = 0x103 then 0x02 else 0, ()⟩ }

/-- `swap [0x800], %g0` on a read-only page. -/
theorem atomics_protected_iff_swap :
    (St.readOnly 0xc0782800).mmu.get_enabled = true ∧
      (WriteProtected (Board.ram [(0, 0x10000)]) (St.readOnly 0xc0782800)
          (.swap 0x800 0 false) (0x02, 1) ↔
        ProtectedWhen (Board.ram [(0, 0x10000)]) (St.readOnly 0xc0782800)
          (.swap 0x800 0 false) (0x02, 1)) :=
  ⟨by decide, (atomics_protected_iff (by decide) (by decide)).2 _ _ (by decide) (by decide)⟩

/-- `ldstub [0x800], %g0` on a read-only page writes the byte and completes. -/
theorem ldstub_writes_read_only :
    (St.readOnly 0xc0682800).mmu.get_enabled = true ∧
      (St.readOnly 0xc0682800).mmu.get_no_fault = false ∧
      dataOp (St.readOnly 0xc0682800).cpu (St.readOnly 0xc0682800).instr
        = some (.ldstub 0x800 false) ∧
      MMU.entryOf (Board.ram [(0, 0x10000)]).mc
        ⟨(St.readOnly 0xc0682800).mmu, (St.readOnly 0xc0682800).mem⟩ 0x800 = some (0x02, 1) ∧
      ¬ (DataOp.ldstub 0x800 false).StoreOk (0x02, 1) ∧
      (∃ u, excute_one (Board.ram [(0, 0x10000)]) (St.readOnly 0xc0682800) = .ok () u ∧
        u.cpu.trap_type = 0 ∧ u.mem.bytes 0 0x800 = 0xff) ∧
      (St.readOnly 0xc0682800).mem.bytes 0 0x800 = 0 :=
  ⟨by decide, by decide, by decide, by decide, by unfold DataOp.StoreOk; decide,
    ⟨_, rfl, by decide, by decide⟩, by decide⟩

end SparcEmu
