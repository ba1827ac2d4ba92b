import SparcEmu.Protection
import SparcEmu.L0Coherence

/-!
What the fault registers hold after a data access exception.

An access of one word tells of its own failure: the permission check and the missing bank both write
the registers. Two kinds of instruction do not keep to this. A double word access makes its second
half after the first has failed, so the registers tell of the second; and an atomic whose physical
address is in no bank fails without writing them.
-/

namespace SparcEmu

open Lib.Effect

variable {δ : Type} {m : MMU} {rw : Intent} {sup : Bool} {pa : u32} {r : cint × u32}

namespace MMU

variable {mc : MCtrl δ}

/-! ### The registers -/

def faultType (m : MMU) : u32 := (m.fault_status_reg >>> 2) &&& 7

def accessType (m : MMU) : u32 := (m.fault_status_reg >>> 5) &&& 7

def faultRegs (m : MMU) : u32 × u32 := (m.fault_address_reg, m.fault_status_reg)

/-- There is a fault, of an access in the direction `rw` with the privilege `sup`. -/
def TellsOf (m : MMU) (rw : Intent) (sup : Bool) : Prop :=
  m.faultType ≠ 0 ∧ m.accessType = (get_access_type rw sup).setWidth 32

/-- The registers tell of an access to `va`. -/
def Tells (m : MMU) (va : u32) (rw : Intent) (sup : Bool) : Prop :=
  m.fault_address_reg = va ∧ m.TellsOf rw sup

lemma tellsOf_congr {m' : MMU} (h : m'.faultRegs = m.faultRegs) (rw : Intent) (sup : Bool) :
    m'.TellsOf rw sup ↔ m.TellsOf rw sup := by
  have hs : m'.fault_status_reg = m.fault_status_reg := congrArg Prod.snd h
  unfold TellsOf faultType accessType
  rw [hs]

lemma and7_ext {x : u32} {y : u8} (h0 : x.getLsbD 0 = y.getLsbD 0) (h1 : x.getLsbD 1 = y.getLsbD 1)
    (h2 : x.getLsbD 2 = y.getLsbD 2) : x &&& 7 = (y &&& 7).setWidth 32 := by
  apply BitVec.eq_of_getLsbD_eq
  intro i hi
  rw [show (7 : u32) = Lib.Bits.low 32 3 from rfl, show (7 : u8) = Lib.Bits.low 8 3 from rfl,
    BitVec.getLsbD_setWidth, BitVec.getLsbD_and, BitVec.getLsbD_and, Lib.Bits.getLsbD_low,
    Lib.Bits.getLsbD_low]
  rcases i with _ | _ | _ | i
  · simpa using h0
  · simpa using h1
  · simpa using h2
  · have h3 : ¬ i + 1 + 1 + 1 < 3 := by omega
    simp [h3]

lemma make_fsr_ft (level at_ ft : u8) (fav : Bool) :
    (make_fsr level at_ ft fav >>> 2) &&& 7 = (ft &&& 7).setWidth 32 := by
  apply and7_ext <;> cases fav <;> simp [make_fsr]

lemma make_fsr_at (level at_ ft : u8) (fav : Bool) :
    (make_fsr level at_ ft fav >>> 5) &&& 7 = (at_ &&& 7).setWidth 32 := by
  apply and7_ext <;> cases fav <;> simp [make_fsr]

lemma set_fault_tells (m : MMU) (va : u32) {ft : u8} (h : ft &&& 7 ≠ 0) (rw : Intent) (sup : Bool)
    (level : u8) : (m.set_fault ⟨va, ft, get_access_type rw sup, level, true⟩).Tells va rw sup := by
  refine ⟨rfl, ?_, ?_⟩
  · unfold faultType set_fault
    rw [make_fsr_ft]
    intro h0
    have hlow := congrArg (BitVec.setWidth 8) h0
    rw [BitVec.setWidth_setWidth_of_le _ (by decide), BitVec.setWidth_eq] at hlow
    exact h hlow
  · unfold accessType set_fault
    rw [make_fsr_at]
    have hat : get_access_type rw sup &&& 7 = get_access_type rw sup := by
      cases rw <;> cases sup <;> rfl
    exact congrArg (BitVec.setWidth 32) hat

/-! ### Translation -/

lemma permFault_cases (pte : u32) (rw : Intent) (sup : Bool) (level : u8) :
    permFault pte rw sup level = 0 ∨ permFault pte rw sup level &&& 7 ≠ 0 := by
  have hite : ∀ {p : Prop} [Decidable p] {a b : u8}, (a = 0 ∨ a &&& 7 ≠ 0) → (b = 0 ∨ b &&& 7 ≠ 0) →
      ((if p then a else b) = 0 ∨ (if p then a else b) &&& 7 ≠ 0) := by
    intro p _ a b ha hb
    split_ifs
    exacts [ha, hb]
  unfold permFault
  dsimp only
  repeat' apply hite
  all_goals decide

/-- What the bit table forbids, the check finds a fault in, whatever the entry is. -/
lemma permFault_of_not_permOk {pte : u32} (level : u8) (h : ¬ permOk pte rw sup = true) :
    permFault pte rw sup level ≠ 0 := by
  obtain ⟨k, hk, e⟩ := acc_cases pte
  have hft : (if (pte &&& 3 = 1 ∧ level = 3) ∨ pte &&& 3 = 3 then (4 : u8) else 0) = 4 ∨
      (if (pte &&& 3 = 1 ∧ level = 3) ∨ pte &&& 3 = 3 then (4 : u8) else 0) = 0 := by
    split_ifs
    exacts [.inl rfl, .inr rfl]
  unfold permOk at h
  unfold permFault
  rw [e] at h ⊢
  by_cases h0 : pte &&& 3 = 0
  · rw [if_pos h0]
    decide
  · rw [if_neg h0]
    rcases hft with hft | hft <;> rw [hft] <;> revert h <;>
      cases rw <;> cases sup <;> interval_cases k <;> decide

lemma reported_tells (m : MMU) (va : u32) {r : u32 × u8} (h : permFault r.1 rw sup r.2 ≠ 0) :
    (m.reported va rw sup r true).Tells va rw sup := by
  unfold reported
  rw [if_pos ⟨h, rfl⟩]
  exact set_fault_tells m va ((permFault_cases ..).resolve_left h) rw sup r.2

lemma reported_regs (m : MMU) (va : u32) {r : u32 × u8} (h : permFault r.1 rw sup r.2 = 0)
    (rep : Bool) : m.reported va rw sup r rep = m := by
  unfold reported
  rw [if_neg fun h' => h'.1 h]

lemma setTlb_regs (m : MMU) (t : TLB) (rw : Intent) : (m.setTlb t rw).faultRegs = m.faultRegs := by
  cases rw <;> rfl

lemma fixesRegs_walkMiss (ctx va : u32) (rw : Intent) :
    Fixes (fun s : MMUSt δ => s.mmu.faultRegs) (walkMiss mc ctx va rw) := by
  refine fixes_walkMiss (fun pa s => ?_) (fun m _ t rw => setTlb_regs m t rw) ctx va rw
  unfold MemAccessBypassRead4 onMem
  cases mc.bypassRead4 pa s.mem <;> rfl

/-- **Translation** that grants leaves the registers, one that refuses tells of the access. -/
lemma translate_va_tells {s s' : MMUSt δ} {va : u32} {tr : MMUTranslateResult}
    (h : translate_va mc va sup rw true s = .ok tr s') :
    (tr.ok = true → s'.mmu.faultRegs = s.mmu.faultRegs) ∧
    (tr.ok = false → s'.mmu.Tells va rw sup) := by
  unfold translate_va at h
  rw [getMMU_bind] at h
  obtain ⟨found, s₁, hlk, h⟩ := bind_ok_iff.mp h
  have hs₁ : s₁.mmu.faultRegs = s.mmu.faultRegs := by
    unfold tlbLookup at hlk
    cases hlk
    exact setTlb_regs _ _ _
  cases found with
  | none =>
    obtain ⟨r, s₂, hw, h⟩ := bind_ok_iff.mp h
    have hs₂ : s₂.mmu.faultRegs = s.mmu.faultRegs := ((fixesRegs_walkMiss _ _ _).ok hw).trans hs₁
    rw [bind_ok (check_perms_eq ..)] at h
    by_cases h0 : permFault r.1 rw sup r.2 = 0
    · rw [if_neg (not_not.mpr h0)] at h
      cases h
      refine ⟨fun _ => ?_, fun h => by cases h⟩
      rw [reported_regs _ _ h0]
      exact hs₂
    · rw [if_pos h0] at h
      cases h
      exact ⟨fun h => (by cases h), fun _ => reported_tells _ _ h0⟩
  | some p =>
    dsimp only at h
    by_cases hok : permOk p.1 rw sup = true
    · rw [if_pos hok] at h
      cases h
      exact ⟨fun _ => hs₁, fun h => by cases h⟩
    · rw [if_neg hok, bind_ok (check_perms_eq ..)] at h
      cases h
      exact ⟨fun h => (by cases h), fun _ => reported_tells _ _ (permFault_of_not_permOk p.2 hok)⟩

lemma fixesBytes_bypassRead4 (pa : u32) :
    Fixes (fun s : MMUSt δ => s.mem.bytes) (MemAccessBypassRead4 mc pa) := by
  intro s
  unfold MemAccessBypassRead4 onMem
  cases h : mc.bypassRead4 pa s.mem with
  | error e => rfl
  | ok r =>
    unfold MCtrl.bypassRead4 at h
    cases hb : mc.get_bank pa with
    | none => rw [hb] at h; cases h; rfl
    | some x => rw [hb] at h; exact bankRead_bytes h

lemma fixesBytes_translate_va (va : u32) (sup : Bool) (rw : Intent) (rep : Bool) :
    Fixes (fun s => s.mem.bytes) (translate_va mc va sup rw rep) :=
  fixes_translate_va ⟨fun _ _ _ _ => rfl, fun _ _ _ => rfl⟩ fixesBytes_bypassRead4 va sup rw rep

/-! ### One word -/

/-- The MMU or the bus refuses the access in this state. -/
def Refused (mc : MCtrl δ) (s : MMUSt δ) (rw : Intent) (va : u32) (sup : Bool) : Prop :=
  if s.mmu.get_enabled then
    s.mmu.l0Hit rw va sup = none ∧ ∃ tr s', translate_va mc va sup rw true s = .ok tr s' ∧
      (tr.ok = true → mc.get_bank tr.pa = none)
  else mc.get_bank va = none

section Word

variable {rw : Intent} {size : AccessSize} {va v pa : u32} {sup on : Bool} {s s' : MMUSt δ}
  {r : cint × u32}

lemma l0Fill_regs (m : MMU) (i : Nat) (b : IMemoryBank) :
    (m.l0Fill rw va sup i b pa).faultRegs = m.faultRegs := by
  cases rw <;> rfl

lemma ptrAccess_zero {p : HostPtr} (h : ptrAccess rw size p v s = .ok r s') :
    r.1 = 0 ∧ s'.mmu = s.mmu := by
  obtain ⟨w, mem, hx, -⟩ := ptrAccess_ok p rw size v s
  rw [hx] at h
  cases h
  exact ⟨rfl, rfl⟩

lemma bankAccess_zero {i : Nat} {b : IMemoryBank}
    (h : bankAccess mc rw size i b pa v s = .ok r s') : r.1 = 0 ∧ s'.mmu = s.mmu := by
  refine ⟨?_, (fixesMMU_bankAccess i b pa).ok h⟩
  cases rw <;> obtain ⟨_, _, -, h⟩ := bind_ok_iff.mp h <;> cases h <;> rfl

lemma busAccess_tells (h : busAccess mc rw size va v pa sup true on s = .ok r s') :
    (mc.get_bank pa = none ∧ r.1 ≠ 0 ∧ s'.mmu.Tells va rw sup) ∨
    (mc.get_bank pa ≠ none ∧ r.1 = 0 ∧ s'.mmu.faultRegs = s.mmu.faultRegs) := by
  unfold busAccess at h
  cases hb : mc.get_bank pa with
  | none =>
    rw [hb] at h
    cases h
    exact .inl ⟨rfl, show (-5 : cint) ≠ 0 by decide, set_fault_tells _ _ (by decide) _ _ _⟩
  | some x =>
    obtain ⟨i, b⟩ := x
    rw [hb] at h
    dsimp only at h
    refine .inr ⟨by simp, ?_⟩
    split_ifs at h with h1
    · obtain ⟨bdata, s₁, hg, hk⟩ := bind_ok_iff.mp h
      obtain rfl : s₁ = s := by
        cases hp : b.get_ptr with
        | ok w => rw [hp] at hg; cases hg; rfl
        | error e => rw [hp] at hg; cases hg
      split_ifs at hk with h2
      · obtain ⟨_, s₂, hf, hk⟩ := bind_ok_iff.mp hk
        cases hf
        obtain ⟨h0, hm⟩ := ptrAccess_zero hk
        exact ⟨h0, by rw [hm]; exact l0Fill_regs _ _ _⟩
      · obtain ⟨h0, hm⟩ := bankAccess_zero hk
        exact ⟨h0, by rw [hm]⟩
    · obtain ⟨h0, hm⟩ := bankAccess_zero h
      exact ⟨h0, by rw [hm]⟩

/-- **One word**: the access fails exactly where it is refused, and then the registers tell of
it; a success leaves them. -/
theorem MemAccess_tells (h : MemAccess mc rw size va v sup true s = .ok r s') :
    (Refused mc s rw va sup ∧ r.1 ≠ 0 ∧ s'.mmu.Tells va rw sup) ∨
    (¬ Refused mc s rw va sup ∧ r.1 = 0 ∧ s'.mmu.faultRegs = s.mmu.faultRegs) := by
  unfold Refused
  cases he : s.mmu.get_enabled with
  | false =>
    rw [MemAccess_off he] at h
    simpa using busAccess_tells h
  | true =>
    rw [if_pos rfl]
    cases h0 : s.mmu.l0Hit rw va sup with
    | some p =>
      rw [MemAccess_hit he h0] at h
      obtain ⟨hz, hm⟩ := ptrAccess_zero h
      exact .inr ⟨by simp, hz, by rw [hm]⟩
    | none =>
      cases ht : translate_va mc va sup rw true s with
      | error e s₁ => rw [MemAccess_throws he h0 ht] at h; cases h
      | ok tr s₁ =>
        obtain ⟨hgrant, hdeny⟩ := translate_va_tells ht
        rw [MemAccess_miss he h0 ht] at h
        cases hok : tr.ok with
        | true =>
          rw [if_pos hok] at h
          rcases busAccess_tells h with ⟨hb, hr, htell⟩ | ⟨hb, hr, hregs⟩
          · exact .inl ⟨⟨rfl, tr, s₁, rfl, fun _ => hb⟩, hr, htell⟩
          · refine .inr ⟨?_, hr, hregs.trans (hgrant hok)⟩
            rintro ⟨-, tr', s₁', heq, hno⟩
            cases heq
            exact hb (hno hok)
        | false =>
          rw [if_neg (by simp [hok])] at h
          cases h
          obtain ⟨hva, hft, hat⟩ := hdeny hok
          refine .inl ⟨⟨rfl, tr, _, rfl, fun h => ?_⟩, ?_, hva, hft, hat⟩
          · rw [hok] at h; cases h
          · exact fun h => hft (BitVec.neg_eq_zero_iff.mp h)

end Word

/-! ### Two words -/

/-- Both words of a double word access are refused, the second one in the state that the first
leaves. -/
def BothRefused (mc : MCtrl δ) (s : MMUSt δ) (rw : Intent) (va : u32) (sup : Bool) : Prop :=
  Refused mc s rw va sup ∧ ∃ r s', MemAccess mc rw .b4 va 0 sup true s = .ok r s' ∧
    Refused mc s' rw (va + 4) sup

section Pair

variable {rw : Intent} {va v v₀ v₁ : u32} {sup : Bool} {s s' : MMUSt δ}

lemma bus_fault_value {on : Bool} {size : AccessSize} (hb : mc.get_bank pa = none) (v' : u32)
    (h : busAccess mc rw size va v pa sup true on s = .ok r s') :
    ∃ r', busAccess mc rw size va v' pa sup true on s = .ok r' s' := by
  unfold busAccess at h ⊢
  rw [hb] at h ⊢
  cases h
  exact ⟨_, rfl⟩

lemma Refused.value (h : Refused mc s rw va sup) (v' : u32)
    (hx : MemAccess mc rw .b4 va v sup true s = .ok r s') :
    ∃ r', MemAccess mc rw .b4 va v' sup true s = .ok r' s' := by
  unfold Refused at h
  cases he : s.mmu.get_enabled with
  | false =>
    rw [he] at h
    rw [MemAccess_off he] at hx ⊢
    exact bus_fault_value h v' hx
  | true =>
    rw [he, if_pos rfl] at h
    obtain ⟨h0, tr, s₁, ht, hno⟩ := h
    rw [MemAccess_miss he h0 ht] at hx ⊢
    cases hok : tr.ok with
    | true =>
      rw [if_pos hok] at hx
      rw [if_pos rfl]
      exact bus_fault_value (hno hok) v' hx
    | false =>
      rw [if_neg (by simp [hok])] at hx
      cases hx
      exact ⟨_, rfl⟩

/-- **Two words**: the registers tell of the second word where both are refused, and otherwise of
the one that is. -/
lemma pairAccess_tells {r : (cint × u32) × (cint × u32)}
    (h : pairAccess mc rw va v₀ v₁ sup s = .ok r s') (hf : r.1.1 ≠ 0 ∨ r.2.1 ≠ 0) :
    (BothRefused mc s rw va sup ∧ s'.mmu.Tells (va + 4) rw sup) ∨
    (¬ BothRefused mc s rw va sup ∧ Refused mc s rw va sup ∧ s'.mmu.Tells va rw sup) ∨
    (¬ Refused mc s rw va sup ∧ s'.mmu.TellsOf rw sup) := by
  obtain ⟨r₀, s₁, h₀, h⟩ := bind_ok_iff.mp h
  obtain ⟨r₁, s₂, h₁, h⟩ := bind_ok_iff.mp h
  cases h
  rcases MemAccess_tells h₀ with ⟨href, -, htell⟩ | ⟨hok, hz, -⟩
  · -- the first word is refused
    rcases MemAccess_tells h₁ with ⟨href', -, htell'⟩ | ⟨hok', -, hregs⟩
    · obtain ⟨r', hx⟩ := href.value 0 h₀
      exact .inl ⟨⟨href, r', s₁, hx, href'⟩, htell'⟩
    · refine .inr (.inl ⟨?_, href, ?_, (tellsOf_congr hregs _ _).mpr htell.2⟩)
      · rintro ⟨-, r', s₁', hx, href'⟩
        obtain ⟨r'', hx'⟩ := href.value 0 h₀
        rw [hx] at hx'
        cases hx'
        exact hok' href'
      · exact (congrArg Prod.fst hregs).trans htell.1
  · -- so the second one is
    rcases MemAccess_tells h₁ with ⟨-, -, htell'⟩ | ⟨-, hz', -⟩
    · exact .inr (.inr ⟨hok, htell'.2⟩)
    · exact (hf.elim (fun h => h hz) (fun h => h hz')).elim

end Pair

/-! ### Atomics -/

/-- The translation of a load, with the MMU on or off, if the access is granted. -/
def loadOf (mc : MCtrl δ) (s : MMUSt δ) (va : u32) (sup : Bool) : Option MMUTranslateResult :=
  if s.mmu.get_enabled then
    match translate_va mc va sup .load true s with
    | .ok tr _ => if tr.ok then some tr else none
    | .error _ _ => none
  else some ⟨true, va, 0, 0⟩

/-- The entry that grants the load denies the store. -/
def StoreDenied (mc : MCtrl δ) (s : MMUSt δ) (va : u32) (sup : Bool) : Prop :=
  s.mmu.get_enabled = true ∧ ∃ tr, loadOf mc s va sup = some tr ∧
    permFault tr.pte .store sup tr.level ≠ 0

def BusMiss (mc : MCtrl δ) (s : MMUSt δ) (va : u32) (sup : Bool) : Prop :=
  ∃ tr, loadOf mc s va sup = some tr ∧ mc.get_bank tr.pa = none

section Atomic

variable {va v : u32} {sup : Bool} {s t : MMUSt δ}

lemma loadOf_off (he : s.mmu.get_enabled = false) :
    loadOf mc s va sup = some ⟨true, va, 0, 0⟩ := by
  unfold loadOf
  rw [he, if_neg Bool.false_ne_true]

lemma loadOf_on (he : s.mmu.get_enabled = true) {tr : MMUTranslateResult} {s' : MMUSt δ}
    (h : translate_va mc va sup .load true s = .ok tr s') :
    loadOf mc s va sup = if tr.ok then some tr else none := by
  unfold loadOf
  rw [he, if_pos rfl, h]

lemma onLoad_tells {α : Type} {fail x : α} {k : Bool → MMUTranslateResult → MmuM δ α}
    {off : MmuM δ α} (hnf : s.mmu.get_no_fault = false)
    (h : onLoad mc va sup fail k off s = .ok x t) :
    (loadOf mc s va sup = none ∧ t.mmu.Tells va .load sup) ∨
    (s.mmu.get_enabled = false ∧ loadOf mc s va sup = some ⟨true, va, 0, 0⟩ ∧ off s = .ok x t) ∨
    (s.mmu.get_enabled = true ∧ ∃ tr s₁, loadOf mc s va sup = some tr ∧
      s₁.mmu.faultRegs = s.mmu.faultRegs ∧ k true tr s₁ = .ok x t) := by
  unfold onLoad at h
  rw [getMMU_bind, hnf] at h
  cases he : s.mmu.get_enabled with
  | false =>
    rw [he, if_neg Bool.false_ne_true] at h
    exact .inr (.inl ⟨rfl, loadOf_off he, h⟩)
  | true =>
    rw [he, if_pos rfl] at h
    obtain ⟨tr, s₁, ht, h⟩ := bind_ok_iff.mp h
    obtain ⟨hgrant, hdeny⟩ := translate_va_tells ht
    have hload := loadOf_on he ht
    cases hok : tr.ok with
    | false =>
      rw [hok, if_neg Bool.false_ne_true] at h hload
      cases h
      exact .inl ⟨hload, hdeny hok⟩
    | true =>
      rw [hok, if_pos rfl] at h hload
      exact .inr (.inr ⟨rfl, tr, s₁, hload, hgrant hok, h⟩)

lemma fixesMMU_onMem {α : Type} (f : Mem δ → Except HostError (α × Mem δ)) :
    Fixes (fun s : MMUSt δ => s.mmu) (onMem f) := by
  intro s
  unfold onMem
  cases f s.mem <;> rfl

lemma swapAt_fails {r : AtomicResult} (h : swapAt mc pa v s = .ok r t) (hr : r.ok = false) :
    mc.get_bank pa = none ∧ t = s := by
  unfold swapAt at h
  cases hb : mc.get_bank pa with
  | none =>
    rw [hb] at h
    cases h
    exact ⟨rfl, rfl⟩
  | some x =>
    rw [hb] at h
    obtain ⟨_, _, -, h⟩ := bind_ok_iff.mp h
    obtain ⟨_, _, -, h⟩ := bind_ok_iff.mp h
    cases h
    cases hr

lemma atomic_swap32_tells {r : AtomicResult} (hnf : s.mmu.get_no_fault = false)
    (h : atomic_swap32 mc va sup v s = .ok r t) (hr : r.ok = false) :
    (loadOf mc s va sup = none ∧ t.mmu.Tells va .load sup) ∨
    (StoreDenied mc s va sup ∧ t.mmu.Tells va .store sup) ∨
    (BusMiss mc s va sup ∧ ¬ StoreDenied mc s va sup ∧ t.mmu.faultRegs = s.mmu.faultRegs) := by
  rw [atomic_swap32_onLoad] at h
  rcases onLoad_tells hnf h with hload | ⟨he, hload, h⟩ | ⟨he, tr, s₁, hload, hregs, h⟩
  · exact .inl hload
  · obtain ⟨hb, rfl⟩ := swapAt_fails h hr
    refine .inr (.inr ⟨⟨_, hload, hb⟩, ?_, rfl⟩)
    rintro ⟨hon, -⟩
    rw [he] at hon
    cases hon
  · rw [bind_ok (check_perms_eq va .store sup (tr.pte, tr.level) _ s₁)] at h
    by_cases h0 : permFault tr.pte .store sup tr.level = 0
    · rw [if_neg (not_not.mpr h0)] at h
      obtain ⟨hb, rfl⟩ := swapAt_fails h hr
      refine .inr (.inr ⟨⟨tr, hload, hb⟩, ?_, ?_⟩)
      · rintro ⟨-, tr', hl, hne⟩
        cases hload.symm.trans hl
        exact hne h0
      · rw [reported_regs _ _ h0]
        exact hregs
    · rw [if_pos h0] at h
      cases h
      exact .inr (.inl ⟨⟨he, tr, hload, h0⟩, reported_tells _ _ h0⟩)

lemma casAt_fails {e : u32} {perm : MmuM δ u8} {r : AtomicResult}
    (h : casAt mc pa e v perm s = .ok r t) (hr : r.ok = false) :
    (mc.get_bank pa = none ∧ t = s) ∨
    (mc.get_bank pa ≠ none ∧ ∃ s₁ ft, s₁.mmu = s.mmu ∧ perm s₁ = .ok ft t ∧ ft ≠ 0) := by
  unfold casAt at h
  cases hb : mc.get_bank pa with
  | none =>
    rw [hb] at h
    cases h
    exact .inl ⟨rfl, rfl⟩
  | some x =>
    rw [hb] at h
    obtain ⟨old, s₁, hread, h⟩ := bind_ok_iff.mp h
    refine .inr ⟨by simp, s₁, ?_⟩
    split_ifs at h
    · obtain ⟨ft, s₂, hp, h⟩ := bind_ok_iff.mp h
      split_ifs at h with hft
      · cases h
        exact ⟨ft, (fixesMMU_onMem _).ok hread, hp, hft⟩
      · obtain ⟨_, _, -, h⟩ := bind_ok_iff.mp h
        cases h
        cases hr
    · cases h
      cases hr

lemma atomic_casa32_tells {e : u32} {r : AtomicResult} (hnf : s.mmu.get_no_fault = false)
    (h : atomic_casa32 mc va sup e v s = .ok r t) (hr : r.ok = false) :
    (loadOf mc s va sup = none ∧ t.mmu.Tells va .load sup) ∨
    (StoreDenied mc s va sup ∧ ¬ BusMiss mc s va sup ∧ t.mmu.Tells va .store sup) ∨
    (BusMiss mc s va sup ∧ t.mmu.faultRegs = s.mmu.faultRegs) := by
  rw [atomic_casa32_onLoad] at h
  rcases onLoad_tells hnf h with hload | ⟨he, hload, h⟩ | ⟨he, tr, s₁, hload, hregs, h⟩
  · exact .inl hload
  · rcases casAt_fails h hr with ⟨hb, rfl⟩ | ⟨-, s₁, ft, -, hp, hne⟩
    · exact .inr (.inr ⟨⟨_, hload, hb⟩, rfl⟩)
    · cases hp
      exact absurd rfl hne
  · rcases casAt_fails h hr with ⟨hb, rfl⟩ | ⟨hb, s₂, ft, -, hp, hne⟩
    · exact .inr (.inr ⟨⟨tr, hload, hb⟩, hregs⟩)
    · rw [check_perms_eq va .store sup (tr.pte, tr.level) _ s₂] at hp
      cases hp
      refine .inr (.inl ⟨⟨he, tr, hload, hne⟩, ?_, reported_tells _ _ hne⟩)
      rintro ⟨tr', hl, hb'⟩
      cases hload.symm.trans hl
      exact hb hb'

lemma ldstub_tells (hnf : s.mmu.get_no_fault = false) (h : ldstub mc va sup s = .ok none t) :
    (loadOf mc s va sup = none ∧ t.mmu.Tells va .load sup) ∨
    (BusMiss mc s va sup ∧ t.mmu.faultRegs = s.mmu.faultRegs) := by
  have hbus : ∀ {pa : u32} {s : MMUSt δ}, onMem (mc.atomic_ldstub8 pa) s = .ok none t →
      mc.get_bank pa = none ∧ t.mmu = s.mmu := by
    intro pa s hx
    refine ⟨?_, (fixesMMU_onMem _).ok hx⟩
    unfold onMem MCtrl.atomic_ldstub8 at hx
    cases hb : mc.get_bank pa with
    | none => rfl
    | some x =>
      obtain ⟨i, b⟩ := x
      rw [hb] at hx
      dsimp only at hx
      cases hk : b.kind <;> rw [hk] at hx <;> cases hx
  rw [ldstub_onLoad] at h
  rcases onLoad_tells hnf h with hload | ⟨-, hload, h⟩ | ⟨-, tr, s₁, hload, hregs, h⟩
  · exact .inl hload
  · obtain ⟨hb, hm⟩ := hbus h
    exact .inr ⟨⟨_, hload, hb⟩, by rw [hm]⟩
  · obtain ⟨hb, hm⟩ := hbus h
    exact .inr ⟨⟨tr, hload, hb⟩, by rw [hm]; exact hregs⟩

end Atomic

end MMU

/-! ### Data instructions -/

namespace DataOp

open MMU

variable {mc : MCtrl δ}

/-- The directions in which the access fails. An atomic loads and stores. -/
def Failing (mc : MCtrl δ) (s : MMUSt δ) : DataOp → Intent → Prop
  | .word rw _ _ _ _, rw' | .pair rw _ _ _ _, rw' => rw' = rw
  | .swap va _ sup, .load | .casa va _ _ sup, .load | .ldstub va sup, .load =>
    loadOf mc s va sup = none ∨ BusMiss mc s va sup
  | .swap va _ sup, .store | .casa va _ _ sup, .store | .ldstub va sup, .store =>
    StoreDenied mc s va sup ∨ BusMiss mc s va sup
  | _, .execute => False

/-- The access at the effective address is one that fails: of two words, the first. -/
def FirstFails (mc : MCtrl δ) (s : MMUSt δ) : DataOp → Prop
  | .pair rw va _ _ sup => Refused mc s rw va sup
  | _ => True

/-- The fault registers tell of a failing access, and of the effective address where that failed. -/
def Reported (mc : MCtrl δ) (s : MMUSt δ) (a : DataOp) (m : MMU) : Prop :=
  (a.FirstFails mc s → m.fault_address_reg = a.va) ∧ ∃ rw, a.Failing mc s rw ∧ m.TellsOf rw a.sup

/-- The access fails without writing the fault registers: an atomic that no bank answers. -/
def Silent (mc : MCtrl δ) (s : MMUSt δ) : DataOp → Prop
  | .swap va _ sup => BusMiss mc s va sup ∧ ¬ StoreDenied mc s va sup
  | .casa va _ _ sup | .ldstub va sup => BusMiss mc s va sup
  | _ => False

/-- Not both of two words fail. -/
def OneFault (mc : MCtrl δ) (s : MMUSt δ) : DataOp → Prop
  | .pair rw va _ _ sup => ¬ BothRefused mc s rw va sup
  | _ => True

/-- At most one word fails, and where an atomic is silent the registers hold already what they
ought to. -/
def Tellable (mc : MCtrl δ) (s : MMUSt δ) (a : DataOp) : Prop :=
  a.OneFault mc s ∧ (a.Silent mc s → a.Reported mc s s.mmu)

section

variable {s t : MMUSt δ} {a : DataOp}

lemma reported_of_tells (hf : a.Failing mc s rw) (h : m.Tells a.va rw a.sup) :
    a.Reported mc s m := ⟨fun _ => h.1, rw, hf, h.2⟩

lemma reported_congr {m' : MMU} (h : m'.faultRegs = m.faultRegs) :
    a.Reported mc s m' ↔ a.Reported mc s m := by
  have hfar : m'.fault_address_reg = m.fault_address_reg := congrArg Prod.fst h
  unfold Reported
  simp only [hfar, tellsOf_congr h]

lemma tellable_iff_of_tells (h1 : a.OneFault mc s) (hs : ¬ a.Silent mc s)
    (h : a.Reported mc s t.mmu) : a.Reported mc s t.mmu ↔ a.Tellable mc s :=
  ⟨fun _ => ⟨h1, fun h => absurd h hs⟩, fun _ => h⟩

lemma tellable_iff_of_silent (h1 : a.OneFault mc s) (hs : a.Silent mc s)
    (h : t.mmu.faultRegs = s.mmu.faultRegs) : a.Reported mc s t.mmu ↔ a.Tellable mc s := by
  rw [reported_congr h]
  exact ⟨fun hr => ⟨h1, fun _ => hr⟩, fun ht => ht.2 hs⟩

lemma not_busMiss {va : u32} (h : loadOf mc s va sup = none) : ¬ BusMiss mc s va sup := by
  rintro ⟨tr, hl, -⟩
  rw [h] at hl
  cases hl

theorem fails_reported_iff (hnf : s.mmu.get_no_fault = false) (h : a.fails mc s = .ok true t) :
    a.Reported mc s t.mmu ↔ a.Tellable mc s := by
  cases a with
  | word rw size va v sup =>
    obtain ⟨r, hr, hne, -⟩ := word_fails h
    rcases MemAccess_tells hr with ⟨-, -, htell⟩ | ⟨-, hz, -⟩
    · exact tellable_iff_of_tells trivial id (reported_of_tells rfl htell)
    · exact absurd hz hne
  | pair rw va v₀ v₁ sup =>
    obtain ⟨r, hr, hne⟩ := map_ok_iff.mp h
    rcases pairAccess_tells hr (of_decide_eq_true hne) with
      ⟨hboth, htell⟩ | ⟨hone, -, htell⟩ | ⟨hfirst, htell⟩
    · -- the address register holds the second address
      constructor
      · intro hrep
        have h4 : va = va + 4 := (hrep.1 hboth.1).symm.trans htell.1
        have := BitVec.self_eq_add_right.mp h4
        cases this
      · exact fun hc => absurd hboth hc.1
    · exact tellable_iff_of_tells hone id (reported_of_tells rfl htell)
    · exact tellable_iff_of_tells (fun hb => hfirst hb.1) id
        ⟨fun h => absurd h hfirst, rw, rfl, htell⟩
  | swap va v sup =>
    obtain ⟨r, hr, hne⟩ := map_ok_iff.mp h
    rcases atomic_swap32_tells hnf hr (by simpa using hne) with
      ⟨hl, htell⟩ | ⟨hd, htell⟩ | ⟨hb, hd, hregs⟩
    · exact tellable_iff_of_tells trivial (fun h => not_busMiss hl h.1)
        (reported_of_tells (show DataOp.Failing _ _ _ .load from .inl hl) htell)
    · exact tellable_iff_of_tells trivial (fun h => h.2 hd)
        (reported_of_tells (show DataOp.Failing _ _ _ .store from .inl hd) htell)
    · exact tellable_iff_of_silent trivial ⟨hb, hd⟩ hregs
  | casa va e v sup =>
    obtain ⟨r, hr, hne⟩ := map_ok_iff.mp h
    rcases atomic_casa32_tells hnf hr (by simpa using hne) with
      ⟨hl, htell⟩ | ⟨hd, hb, htell⟩ | ⟨hb, hregs⟩
    · exact tellable_iff_of_tells trivial (not_busMiss hl)
        (reported_of_tells (show DataOp.Failing _ _ _ .load from .inl hl) htell)
    · exact tellable_iff_of_tells trivial hb
        (reported_of_tells (show DataOp.Failing _ _ _ .store from .inl hd) htell)
    · exact tellable_iff_of_silent trivial hb hregs
  | ldstub va sup =>
    obtain ⟨r, hr, hne⟩ := map_ok_iff.mp h
    obtain rfl : r = none := by simpa using hne
    rcases ldstub_tells hnf hr with ⟨hl, htell⟩ | ⟨hb, hregs⟩
    · exact tellable_iff_of_tells trivial (not_busMiss hl)
        (reported_of_tells (show DataOp.Failing _ _ _ .load from .inl hl) htell)
    · exact tellable_iff_of_silent trivial hb hregs

end

end DataOp

/-! ### Recorded exceptions -/

section Records

variable {E : Board δ} {s u : St δ}

/-- The data access exception has been recorded between the two states. -/
def Records (s u : St δ) : Prop :=
  s.cpu.trap_type &&& 0xff ≠ 9 ∧ u.cpu.trap_type &&& 0xff = 9

/-! ### The instruction -/

/-- **Fault reporting**: with the no-fault bit clear, a data instruction that records the data
access exception has made an access that failed, and the fault registers report it exactly where
it can be told. -/
theorem fault_reported_iff (hd : s.instr.function.isData = true)
    (hnf : s.mmu.get_no_fault = false) (h : excute_one E s = .ok () u) (hr : Records s u) :
    ∃ a, dataOp s.cpu s.instr = some a ∧
      (a.Reported E.mc ⟨s.mmu, s.mem⟩ u.mmu ↔ a.Tellable E.mc ⟨s.mmu, s.mem⟩) := by
  have hf : s.instr.function ≠ .LDA_impl ∧ s.instr.function ≠ .STA_impl := by
    constructor <;> (intro hf; rw [hf] at hd; cases hd)
  have hx := excute_one_accesses (E := E) hf
  rw [h] at hx
  obtain ⟨a, ha, hfail⟩ := hx.2 hr.1 hr.2
  exact ⟨a, ha, DataOp.fails_reported_iff hnf hfail⟩

/-- A load from an unmapped address. -/
theorem fault_reported_iff_ld :
    ∃ u, excute_one (Board.ram []) (St.user 0xc0002100) = .ok () u ∧
      Records (St.user 0xc0002100) u ∧
      ∃ a, dataOp (St.user 0xc0002100).cpu (St.user 0xc0002100).instr = some a ∧
        (a.Reported (Board.ram []).mc ⟨(St.user 0xc0002100).mmu, (St.user 0xc0002100).mem⟩ u.mmu ↔
          a.Tellable (Board.ram []).mc ⟨(St.user 0xc0002100).mmu, (St.user 0xc0002100).mem⟩) :=
  have hr : Records (St.user 0xc0002100)
      (final (excute_one (Board.ram []) (St.user 0xc0002100))) := ⟨by decide, by decide⟩
  ⟨_, rfl, hr, fault_reported_iff (by decide) (by decide) rfl hr⟩

/-- From an unmapped address, a load of two words leaves the address of the second, and a swap
leaves the registers as they were. -/
theorem ldd_swap_misreported :
    (∃ u, excute_one (Board.ram []) (St.user 0xc0182100) = .ok () u ∧
      Records (St.user 0xc0182100) u ∧ (St.user 0xc0182100).mmu.get_no_fault = false ∧
      dataOp (St.user 0xc0182100).cpu (St.user 0xc0182100).instr
        = some (.pair .load 0x100 0 0 false) ∧
      MMU.Refused (Board.ram []).mc ⟨(St.user 0xc0182100).mmu, (St.user 0xc0182100).mem⟩ .load 0x100
        false ∧
      u.mmu.fault_address_reg = 0x104) ∧
    ∃ u, excute_one (Board.ram []) (St.user 0xc0782100) = .ok () u ∧
      Records (St.user 0xc0782100) u ∧ (St.user 0xc0782100).mmu.get_no_fault = false ∧
      dataOp (St.user 0xc0782100).cpu (St.user 0xc0782100).instr = some (.swap 0x100 0 false) ∧
      u.mmu.fault_address_reg = 0 ∧ u.mmu.fault_status_reg = 0 :=
  ⟨⟨_, rfl, ⟨by decide, by decide⟩, by decide, by decide, (if_neg (by decide)).mpr rfl, by decide⟩,
    _, rfl, ⟨by decide, by decide⟩, by decide, by decide, by decide, by decide⟩

end Records

end SparcEmu
