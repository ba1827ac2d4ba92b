import SparcEmu.FaultReport
import SparcEmu.Lib.Srmmu

/-!
The table walk, the TLB insertion and the permission check of the emulator, compared with the
reference MMU.
-/

namespace SparcEmu

open Lib.Effect Lib

variable {δ : Type}

namespace MMU

variable {mc : MCtrl δ}

/-! ### The walk -/

/-- A word of physical memory, as the walk reads it. -/
def readWord (mc : MCtrl δ) (pa : u32) (m : Mem δ) : Option (u32 × Mem δ) :=
  (mc.bypassRead4 pa m).toOption

lemma tableAddr_eq (w i : u32) : tableAddr w i = Srmmu.entryAddr w i := by
  unfold tableAddr Srmmu.entryAddr
  rw [show (3#32) = Bits.low 32 2 from rfl, Bits.shift_clear_low]

lemma indices_eq (va : u32) : Srmmu.indices va = [ind1 va, ind2 va, ind3 va] := by
  have h : ind1 va = va >>> 24 := by
    apply BitVec.eq_of_toNat_eq
    have hv := va.isLt
    unfold ind1
    rw [BitVec.toNat_and, show (0xff : u32).toNat = 2 ^ 8 - 1 from rfl,
      Nat.and_two_pow_sub_one_eq_mod, BitVec.toNat_ushiftRight, Nat.shiftRight_eq_div_pow]
    omega
  rw [h]
  rfl

lemma entry_bits (w : u32) : w &&& 3 = match Srmmu.entryType w with
    | .invalid => 0
    | .pointer => 1
    | .leaf => 2
    | .reserved => 3 := by
  have h3 : (w &&& 3).toNat ≤ 3 := by
    rw [BitVec.toNat_and]; exact Nat.and_le_right
  unfold Srmmu.entryType
  generalize w &&& 3 = x at *
  split_ifs with h0 h1 h2
  · exact h0
  · exact h1
  · exact h2
  · bv_omega

lemma pointer_iff (w : u32) : Srmmu.entryType w = .pointer ↔ w &&& 3 = 1 := by
  have h := entry_bits w
  cases ht : Srmmu.entryType w <;> rw [ht] at h <;> rw [h] <;> decide

variable {s : MMUSt δ}

lemma bypassRead4_ok {pa : u32} {r : u32 × Mem δ} (h : mc.bypassRead4 pa s.mem = .ok r) :
    MemAccessBypassRead4 mc pa s = .ok r.1 ⟨s.mmu, r.2⟩ := by
  unfold MemAccessBypassRead4 onMem
  rw [h]

lemma bypassRead4_error {pa : u32} {e : HostError} (h : mc.bypassRead4 pa s.mem = .error e) :
    MemAccessBypassRead4 mc pa s = .error e s := by
  unfold MemAccessBypassRead4 onMem
  rw [h]

/-- **The walk of the code** is the one of the reference, or throws where a word cannot be
read. -/
lemma walkM_walk (mc : MCtrl δ) (is : List u32) (level : Nat) (pa : u32) (s : MMUSt δ) :
    match Srmmu.walk (readWord mc) is level pa s.mem with
    | some (r, m) => walkM mc is (BitVec.ofNat 8 level) pa s =
        .ok (r.1, BitVec.ofNat 8 r.2) ⟨s.mmu, m⟩
    | none => ¬ Returns (walkM mc is (BitVec.ofNat 8 level) pa s) := by
  induction is generalizing level pa s with
  | nil =>
    unfold Srmmu.walk walkM readWord
    cases h : mc.bypassRead4 pa s.mem with
    | error e =>
      rw [bind_error (bypassRead4_error h)]
      exact id
    | ok r =>
      rw [bind_ok (bypassRead4_ok h)]
      rfl
  | cons i is ih =>
    unfold Srmmu.walk walkM readWord
    cases h : mc.bypassRead4 pa s.mem with
    | error e =>
      rw [bind_error (bypassRead4_error h)]
      exact id
    | ok r =>
      rw [bind_ok (bypassRead4_ok h)]
      simp only [Except.toOption, Option.bind_some]
      by_cases hp : r.1 &&& 3 = 1
      · rw [if_pos hp, if_pos ((pointer_iff _).2 hp), tableAddr_eq]
        have hl : BitVec.ofNat 8 level + 1 = BitVec.ofNat 8 (level + 1) := by
          rw [BitVec.ofNat_add]
          rfl
        rw [hl]
        exact ih (level + 1) _ ⟨s.mmu, r.2⟩
      · rw [if_neg hp, if_neg fun h' => hp ((pointer_iff _).1 h')]
        rfl

/-! ### The permission check -/

def kindOf : Intent → Srmmu.Kind
  | .load => .load
  | .store => .store
  | .execute => .fetch

variable {w : u32}

/-- The fault type that the check computes for an entry which is not invalid: what the
permissions deny comes before the type of the entry. -/
lemma permFault_valid (h : w &&& 3 ≠ 0) (rw : Intent) (sup : Bool) (level : u8) :
    permFault w rw sup level =
      if Srmmu.allowed w (kindOf rw) sup then
        if (w &&& 3 = 1 ∧ level = 3) ∨ w &&& 3 = 3 then 4 else 0
      else BitVec.ofNat 8 (Srmmu.denial w sup) := by
  obtain ⟨k, hk, e⟩ := acc_cases w
  have hacc : Srmmu.acc w = k := by
    have h8 : ((w >>> 2) &&& 7).toNat ≤ 7 := by
      rw [BitVec.toNat_and]; exact Nat.and_le_right
    have := congrArg BitVec.toNat e
    rw [BitVec.toNat_setWidth, BitVec.toNat_ofNat, Nat.mod_eq_of_lt (by omega),
      Nat.mod_eq_of_lt (by omega)] at this
    exact this
  unfold permFault Srmmu.allowed Srmmu.denial
  rw [hacc, e, if_neg h]
  generalize (if (w &&& 3 = 1 ∧ level = 3) ∨ w &&& 3 = 3 then (4 : u8) else 0) = ft
  cases rw <;> cases sup <;> interval_cases k <;> rfl

lemma permFault_invalid (h : w &&& 3 = 0) (rw : Intent) (sup : Bool) (level : u8) :
    permFault w rw sup level = 1 := by
  unfold permFault
  simp only [h, if_true]

lemma permFault_leaf (h : w &&& 3 = 2) (rw : Intent) (sup : Bool) (level : u8) :
    permFault w rw sup level =
      if Srmmu.allowed w (kindOf rw) sup then 0 else BitVec.ofNat 8 (Srmmu.denial w sup) := by
  rw [permFault_valid (by rw [h]; decide), if_neg (c := _ ∨ w &&& 3 = 3)]
  rw [h]
  rintro (⟨h1, -⟩ | h1) <;> exact absurd h1 (by decide)

lemma permFault_bad {level : u8} (h : (w &&& 3 = 1 ∧ level = 3) ∨ w &&& 3 = 3) (rw : Intent)
    (sup : Bool) :
    permFault w rw sup level =
      if Srmmu.allowed w (kindOf rw) sup then 4 else BitVec.ofNat 8 (Srmmu.denial w sup) := by
  have h0 : w &&& 3 ≠ 0 := by
    rcases h with ⟨h1, -⟩ | h1 <;> rw [h1] <;> decide
  rw [permFault_valid h0, if_pos h]

/-! ### The registers -/

def faultLevel (m : MMU) : u32 := (m.fault_status_reg >>> 8) &&& 3

lemma make_fsr_level (level at_ ft : u8) (fav : Bool) :
    (make_fsr level at_ ft fav >>> 8) &&& 3 = (level &&& 3).setWidth 32 := by
  apply BitVec.eq_of_getLsbD_eq
  intro i hi
  rw [show (3 : u32) = Bits.low 32 2 from rfl, show (3 : u8) = Bits.low 8 2 from rfl,
    BitVec.getLsbD_setWidth, BitVec.getLsbD_and, BitVec.getLsbD_and, Bits.getLsbD_low,
    Bits.getLsbD_low]
  rcases i with _ | _ | i
  · cases fav <;> simp [make_fsr]
  · cases fav <;> simp [make_fsr]
  · have h2 : ¬ i + 1 + 1 < 2 := by omega
    simp [h2]

/-- The registers tell of a fault of the type `ft` at the level `level`. -/
structure Records (m : MMU) (va : u32) (rw : Intent) (sup : Bool) (ft level : Nat) : Prop where
  address : m.fault_address_reg = va
  type : m.faultType = BitVec.ofNat 32 ft
  access : m.accessType = BitVec.ofNat 32 (Srmmu.accessType (kindOf rw) sup)
  level : m.faultLevel = BitVec.ofNat 32 level

variable {m : MMU} {va : u32}

lemma records_iff {rw : Intent} {sup : Bool} {ft f level : Nat} (hf : f < 8) (hft : ft < 8)
    (hl : level < 4) :
    (m.set_fault ⟨va, BitVec.ofNat 8 f, get_access_type rw sup, BitVec.ofNat 8 level, true⟩).Records
      va rw sup ft level ↔ f = ft := by
  have htype : (m.set_fault ⟨va, BitVec.ofNat 8 f, get_access_type rw sup, BitVec.ofNat 8 level,
      true⟩).faultType = BitVec.ofNat 32 f := by
    unfold faultType set_fault
    rw [make_fsr_ft]
    dsimp only
    interval_cases f <;> decide
  have hlevel : (m.set_fault ⟨va, BitVec.ofNat 8 f, get_access_type rw sup, BitVec.ofNat 8 level,
      true⟩).faultLevel = BitVec.ofNat 32 level := by
    unfold faultLevel set_fault
    rw [make_fsr_level]
    dsimp only
    interval_cases level <;> decide
  have haccess : (m.set_fault ⟨va, BitVec.ofNat 8 f, get_access_type rw sup, BitVec.ofNat 8 level,
      true⟩).accessType = BitVec.ofNat 32 (Srmmu.accessType (kindOf rw) sup) := by
    unfold accessType set_fault
    rw [make_fsr_at]
    dsimp only
    cases rw <;> cases sup <;> decide
  constructor
  · intro h
    have := congrArg BitVec.toNat (htype.symm.trans h.type)
    rw [BitVec.toNat_ofNat, BitVec.toNat_ofNat] at this
    omega
  · rintro rfl
    exact ⟨rfl, htype, haccess, hlevel⟩

/-! ### Refinement -/

/-- The result and the registers are those that the reference answers for the end of the walk. -/
def Answers (m : MMU) (va : u32) (sup : Bool) (rw : Intent) (rep : Bool) (r : u32 × Nat)
    (res : MMUTranslateResult) (m' : MMU) : Prop :=
  match Srmmu.answer va (kindOf rw) sup r with
  | .mapped pa => res.ok = true ∧ res.pa = pa ∧ res.level = BitVec.ofNat 8 r.2 ∧
      m'.faultRegs = m.faultRegs
  | .fault ft => res.ok = false ∧ res.level = BitVec.ofNat 8 r.2 ∧
      (rep = true → m'.Records va rw sup ft r.2)

/-- The walk of the reference for an address. -/
def reference (mc : MCtrl δ) (s : MMUSt δ) (va : u32) : Option ((u32 × Nat) × Mem δ) :=
  Srmmu.walk (readWord mc) (Srmmu.indices va) 0
    (Srmmu.rootAddr s.mmu.ctx_tbl_ptr s.mmu.ctx_n) s.mem

/-- The translation returns, and answers what the reference answers. -/
def Refines (mc : MCtrl δ) (s : MMUSt δ) (va : u32) (sup : Bool) (rw : Intent) (rep : Bool) :
    Prop :=
  ∃ res t r, translate_va mc va sup rw rep s = .ok res t ∧ reference mc s va = some (r, t.mem) ∧
    Answers s.mmu va sup rw rep r res t.mmu

/-- The ends of a walk for which the emulator answers what the reference answers: a page table
entry is not in the context table, and its frame has no bit in the page offset that the address
has not; an entry of no valid type denies nothing. -/
def Faithful (va : u32) (sup : Bool) (rw : Intent) (rep : Bool) (r : u32 × Nat) : Prop :=
  match Srmmu.entryType r.1 with
  | .invalid => True
  | .leaf => r.2 ≠ 0 ∧ (Srmmu.allowed r.1 (kindOf rw) sup = true →
      Srmmu.frame r.1 &&& Srmmu.offsetMask r.2 &&& ~~~va = 0)
  | _ => rep = true → Srmmu.allowed r.1 (kindOf rw) sup = true

instance (va : u32) (sup : Bool) (rw : Intent) (rep : Bool) (r : u32 × Nat) :
    Decidable (Faithful va sup rw rep r) := by
  unfold Faithful
  split <;> infer_instance

def NoEntry (t : TLB) : Prop := ∀ c va r, c ≤ 255 → ¬t.Holds c va r

lemma NoEntry.lookup {t : TLB} (h : NoEntry t) {c : u32} (hc : c ≤ 255) (va : u32) :
    t.lookup c va = (none, t) := by
  rcases hf : t.lookup c va with ⟨_ | p, t'⟩
  · rw [TLB.lookup_none hf]
  · exact absurd (TLB.lookup_some (r := p) (by rw [hf])) (h c va p hc)

lemma noEntry_flush (t : TLB) : NoEntry t.flush := fun _ _ _ hc => TLB.flush_holds hc

lemma physAddr_frame (va w : u32) {level : Nat} (h0 : level ≠ 0) (h3 : level ≤ 3) :
    physAddr va w (BitVec.ofNat 8 level) = (va &&& Srmmu.offsetMask level) ||| Srmmu.frame w := by
  unfold physAddr Srmmu.frame
  rw [show (0xff#32) = Bits.low 32 8 from rfl, Bits.shift_clear_low]
  have hcases : level = 1 ∨ level = 2 ∨ level = 3 := by omega
  rcases hcases with rfl | rfl | rfl <;> rfl

variable {r : u32 × Nat}

lemma reference_level {m : Mem δ} (h : reference mc s va = some (r, m)) :
    r.2 ≤ 3 ∧ (Srmmu.entryType r.1 = .pointer → r.2 = 3) := by
  obtain ⟨-, h3, hp⟩ := Srmmu.walk_level h
  rw [show (Srmmu.indices va).length = 3 from rfl] at h3 hp
  refine ⟨by omega, fun h1 => ?_⟩
  by_contra hne
  exact hp (by omega) h1

lemma answers_fault_iff {m' : MMU} {sup : Bool} {rw : Intent} {rep : Bool} {ft f : Nat}
    (hans : Srmmu.answer va (kindOf rw) sup r = .fault ft)
    (hf : permFault r.1 rw sup (BitVec.ofNat 8 r.2) = BitVec.ofNat 8 f) (h0 : 0 < f) (h8 : f < 8)
    (hft : ft < 8) (hl : r.2 < 4) :
    Answers m va sup rw rep r (outcome va rw sup (r.1, BitVec.ofNat 8 r.2))
        (m'.reported va rw sup (r.1, BitVec.ofNat 8 r.2) rep) ↔ (rep = true → f = ft) := by
  have hne : permFault r.1 rw sup (BitVec.ofNat 8 r.2) ≠ 0 := by
    rw [hf]
    interval_cases f <;> decide
  unfold Answers outcome reported
  simp only [hans, if_neg hne]
  cases rep with
  | false => simp
  | true =>
    simp only [hne, ne_eq, not_false_eq_true, and_self, if_true, true_and, forall_const]
    rw [hf]
    exact records_iff h8 hft hl

/-- **The answer**: an entry that is no page table entry in the context table. -/
lemma answers_iff {m' : MMU} (hregs : m'.faultRegs = m.faultRegs) (h3 : r.2 ≤ 3)
    (hp : Srmmu.entryType r.1 = .pointer → r.2 = 3) (hroot : Srmmu.entryType r.1 = .leaf → r.2 ≠ 0)
    (va : u32) (sup : Bool) (rw : Intent) (rep : Bool) :
    Answers m va sup rw rep r (outcome va rw sup (r.1, BitVec.ofNat 8 r.2))
        (m'.reported va rw sup (r.1, BitVec.ofNat 8 r.2) rep) ↔ Faithful va sup rw rep r := by
  have hden : 0 < Srmmu.denial r.1 sup ∧ Srmmu.denial r.1 sup < 4 := by
    unfold Srmmu.denial; split_ifs <;> decide
  have hbits := entry_bits r.1
  -- Of an entry with no valid type the reference says 4, and the check what is denied.
  have hbad : Srmmu.answer va (kindOf rw) sup r = .fault 4 →
      ((r.1 &&& 3 = 1 ∧ BitVec.ofNat 8 r.2 = 3) ∨ r.1 &&& 3 = 3) →
      (Answers m va sup rw rep r (outcome va rw sup (r.1, BitVec.ofNat 8 r.2))
        (m'.reported va rw sup (r.1, BitVec.ofNat 8 r.2) rep) ↔
          (rep = true → Srmmu.allowed r.1 (kindOf rw) sup = true)) := by
    intro hans hb
    have hf := permFault_bad hb rw sup
    cases hal : Srmmu.allowed r.1 (kindOf rw) sup with
    | false =>
      rw [hal] at hf
      rw [answers_fault_iff hans hf hden.1 (by omega) (by decide) (by omega)]
      have : Srmmu.denial r.1 sup ≠ 4 := by omega
      simp [this]
    | true =>
      rw [hal] at hf
      rw [answers_fault_iff hans (f := 4) hf (by decide) (by decide) (by decide) (by omega)]
      simp
  unfold Faithful
  cases ht : Srmmu.entryType r.1 with
  | invalid =>
    have hans : Srmmu.answer va (kindOf rw) sup r = .fault 1 := by unfold Srmmu.answer; rw [ht]
    rw [ht] at hbits
    rw [answers_fault_iff hans (f := 1) (permFault_invalid hbits ..) (by decide) (by decide)
      (by decide) (by omega)]
    simp
  | leaf =>
    rw [ht] at hbits
    have hf := permFault_leaf hbits rw sup (BitVec.ofNat 8 r.2)
    cases hal : Srmmu.allowed r.1 (kindOf rw) sup with
    | false =>
      have hans : Srmmu.answer va (kindOf rw) sup r = .fault (Srmmu.denial r.1 sup) := by
        unfold Srmmu.answer; rw [ht]; simp only [hal]; rfl
      rw [hal] at hf
      rw [answers_fault_iff hans hf hden.1 (by omega) (by omega) (by omega)]
      simp [hroot ht]
    | true =>
      have hans : Srmmu.answer va (kindOf rw) sup r = .mapped (Srmmu.physical va r.1 r.2) := by
        unfold Srmmu.answer; rw [ht]; simp only [hal]; rfl
      rw [hal, if_pos rfl] at hf
      unfold Answers outcome reported
      simp only [hans, hf, ne_eq, not_true_eq_false, false_and, if_false, if_true, true_and, hregs,
        and_true]
      rw [physAddr_frame va r.1 (hroot ht) h3, Srmmu.or_frame_iff]
      simp [hroot ht]
  | pointer =>
    rw [ht] at hbits
    exact hbad (by unfold Srmmu.answer; rw [ht]) (.inl ⟨hbits, by rw [hp ht]; rfl⟩)
  | reserved =>
    rw [ht] at hbits
    exact hbad (by unfold Srmmu.answer; rw [ht]) (.inr hbits)

lemma get_PTE_reference (mc : MCtrl δ) (s : MMUSt δ) (va : u32) :
    match reference mc s va with
    | some (r, m) => get_PTE mc va s = .ok (r.1, BitVec.ofNat 8 r.2) ⟨s.mmu, m⟩
    | none => ¬ Returns (get_PTE mc va s) := by
  have h := walkM_walk mc (Srmmu.indices va) 0
    (Srmmu.rootAddr s.mmu.ctx_tbl_ptr s.mmu.ctx_n) s
  rw [indices_eq] at h
  unfold reference
  rw [indices_eq]
  exact h

lemma insert_walked (h3 : r.2 ≤ 3) (t : TLB) (c va : u32) :
    if Srmmu.entryType r.1 = .leaf ∧ r.2 = 0 then
      t.insert c va (BitVec.ofNat 8 r.2) r.1 = .error (.logic_error "Level !=1,2,3 not allowed")
    else ∃ t', t.insert c va (BitVec.ofNat 8 r.2) r.1 = .ok t' := by
  have hbits := entry_bits r.1
  have hleaf : TLB.is_valid r.1 = true ↔ Srmmu.entryType r.1 = .leaf := by
    unfold TLB.is_valid
    cases ht : Srmmu.entryType r.1 <;> rw [ht] at hbits <;> rw [hbits] <;> decide
  unfold TLB.insert
  by_cases hl : Srmmu.entryType r.1 = .leaf
  · rw [if_pos (hleaf.2 hl)]
    have hcases : r.2 = 0 ∨ r.2 = 1 ∨ r.2 = 2 ∨ r.2 = 3 := by omega
    rcases hcases with h | h | h | h
    · rw [if_pos ⟨hl, h⟩, h]
      rfl
    all_goals
      rw [if_neg (by omega), h]
      exact ⟨_, rfl⟩
  · rw [if_neg fun h => hl h.1, if_neg fun h => hl (hleaf.1 h)]
    exact ⟨t, rfl⟩

/-- **Page tables**: with no valid entry in the TLB, a translation answers what the reference
answers just when its walk can read its words and ends at an entry of `Faithful`. -/
theorem page_walk_iff (mc : MCtrl δ) (s : MMUSt δ) (va : u32) (sup : Bool) (rw : Intent)
    (rep : Bool) (hc : s.mmu.ctx_n ≤ 255) (he : NoEntry (s.mmu.tlb rw)) :
    Refines mc s va sup rw rep ↔
      ∃ r m, reference mc s va = some (r, m) ∧ Faithful va sup rw rep r := by
  have hlook := he.lookup hc va
  have hwalk := get_PTE_reference mc s va
  unfold Refines
  cases href : reference mc s va with
  | none =>
    rw [href] at hwalk
    constructor
    · rintro ⟨res, t, r, ht, -⟩
      exact absurd (returns_iff.2 ⟨res, t, ht⟩) (translate_va_throws hc hlook hwalk)
    · rintro ⟨r, m, h, -⟩
      exact nomatch h
  | some p =>
    obtain ⟨r, m⟩ := p
    rw [href] at hwalk
    obtain ⟨h3, hp⟩ := reference_level href
    have htrans := translate_va_walked hc hlook hwalk sup rep
    have hins := insert_walked h3 (s.mmu.tlb rw) s.mmu.ctx_n va
    by_cases hroot : Srmmu.entryType r.1 = .leaf ∧ r.2 = 0
    · -- The page table entry in the context table ends in an exception.
      rw [if_pos hroot] at hins
      rw [hins] at htrans
      constructor
      · rintro ⟨res, t, r', ht, -⟩
        exact nomatch htrans.symm.trans ht
      · rintro ⟨r', m', h, hF⟩
        cases h
        unfold Faithful at hF
        rw [hroot.1] at hF
        exact absurd hroot.2 hF.1
    · rw [if_neg hroot] at hins
      obtain ⟨t', ht'⟩ := hins
      rw [ht'] at htrans
      have hiff := answers_iff (setTlb_regs s.mmu t' rw) h3 hp (fun hl h0 => hroot ⟨hl, h0⟩)
        va sup rw rep
      constructor
      · rintro ⟨res, t, r', ht, hr', hA⟩
        cases htrans.symm.trans ht
        cases hr'
        exact ⟨r, m, rfl, hiff.1 hA⟩
      · rintro ⟨r', m', h, hF⟩
        cases h
        exact ⟨_, _, r, htrans, rfl, hiff.2 hF⟩

theorem page_walk_sample :
    NoEntry ((MMU.init.flush).tlb .load) ∧
      Refines (.ram [(0, 0x10000)]) ⟨MMU.init.flush, sampleTables⟩ 0x1234 false .load true :=
  ⟨noEntry_flush _, (page_walk_iff (.ram [(0, 0x10000)]) ⟨MMU.init.flush, sampleTables⟩ 0x1234 false
    .load true (by decide) (noEntry_flush _)).2 ⟨(0x0e, 1), sampleTables, rfl, by decide⟩⟩

/-- A memory whose first word, the context table entry, is `b`. -/
def contextEntry (b : u8) : Mem Unit := ⟨fun _ o => if o = 3 then b else 0, ()⟩

/-- **Where the emulator differs**: a page table entry in the context table ends in an exception,
and a reserved entry is reported with the fault type of the permissions that it happens to
have. -/
theorem context_leaf_throws :
    (∃ r m t, reference (.ram [(0, 0x10000)]) ⟨MMU.init.flush, contextEntry 0x0e⟩ 0x1234 =
        some (r, m) ∧
      Srmmu.answer 0x1234 .load false r = .mapped 0x1234 ∧
      translate_va (.ram [(0, 0x10000)]) 0x1234 false .load true
        ⟨MMU.init.flush, contextEntry 0x0e⟩ = .error (.logic_error "Level !=1,2,3 not allowed") t) ∧
    ∃ r m res t, reference (.ram [(0, 0x10000)]) ⟨MMU.init.flush, contextEntry 0x13⟩ 0x1234 =
        some (r, m) ∧
      Srmmu.answer 0x1234 .load false r = .fault 4 ∧
      translate_va (.ram [(0, 0x10000)]) 0x1234 false .load true
        ⟨MMU.init.flush, contextEntry 0x13⟩ = .ok res t ∧ t.mmu.faultType = 2 :=
  ⟨⟨(0x0e, 0), _, _, rfl, by decide, rfl⟩, (0x13, 0), _, _, _, rfl, by decide, rfl, by decide⟩

end MMU

end SparcEmu
