import SparcEmu.Retire
import SparcEmu.Lib.Bits

/-!
Shifts. Each is made of shifts of the host, which are undefined for counts beyond 31. The
arithmetic shift puts the sign bits in with a second shift, under a condition on the count before
it is reduced.
-/

namespace SparcEmu

open Lib.Effect

variable {δ : Type} (E : Board δ)

/-! ### The instructions and what they are to compute -/

inductive Shift | sll | srl | sra
  deriving DecidableEq, Repr

namespace Shift

def op3 : Shift → u32
  | .sll => 0x25
  | .srl => 0x26
  | .sra => 0x27

def handler : Shift → Handler
  | .sll => .SLL
  | .srl => .SRL
  | .sra => .SRA

/-- The shift by the count modulo 32. -/
def value (i : Shift) (x v : u32) : u32 :=
  match i with
  | .sll => x <<< (v.toNat % 32)
  | .srl => x >>> (v.toNat % 32)
  | .sra => x.sshiftRight (v.toNat % 32)

lemma op3_lt (i : Shift) : i.op3 < FIRST_RS1_EVAL_IDX := by
  cases i <;> decide

lemma op3_function (i : Shift) : format3.getD i.op3.toNat .UNIMP = i.handler := by
  cases i <;> rfl

/-! ### The shifts of the host -/

/-- A word, and the counts of the host's shifts that were made for it. -/
structure Made where
  word : u32
  counts : List u32

/-- What the function of the instruction makes of its operands. -/
def made (i : Shift) (x v : u32) : Made :=
  match i with
  | .sll => ⟨x <<< (v &&& 0x1f), [v &&& 0x1f]⟩
  | .srl => ⟨x >>> (v &&& 0x1f), [v &&& 0x1f]⟩
  | .sra =>
    let sign : Made := if x.getLsbD 31 ∧ v ≠ 0 then
        ⟨hostShl E 0xffffffff (32 - (v &&& 0x1f)), [32 - (v &&& 0x1f)]⟩
      else ⟨0, []⟩
    ⟨(x >>> (v &&& 0x1f)) ||| sign.word, (v &&& 0x1f) :: sign.counts⟩

lemma exec_made (i : Shift) (k : M δ Unit) (s : St δ) : i.handler.exec E k s =
    .ok () { s with d := (s.d.wb (i.made E s.d.rs1_value s.d.ev).word).next } := by
  cases i with
  | sll => rfl
  | srl => rfl
  | sra =>
    unfold made
    dsimp only
    show SRA E s = _
    unfold SRA modD
    dsimp only
    split_ifs <;> rfl

/-! ### Counts -/

lemma count_toNat (v : u32) : (v &&& 0x1f).toNat = v.toNat % 32 := by
  rw [BitVec.toNat_and]
  exact Nat.and_two_pow_sub_one_eq_mod v.toNat 5

lemma count_lt (v : u32) : v &&& 0x1f < 32 := by
  rw [BitVec.lt_def, count_toNat]
  exact Nat.mod_lt _ (by decide)

lemma sign_count_toNat (v : u32) : (32 - (v &&& 0x1f)).toNat = 32 - v.toNat % 32 := by
  have h := Nat.mod_lt v.toNat (show 0 < 32 by decide)
  rw [BitVec.toNat_sub, count_toNat, show (32 : u32).toNat = 32 from rfl]
  omega

/-- A count that is not zero but a multiple of 32, for a negative operand of the arithmetic shift. -/
def Overlong (i : Shift) (x v : u32) : Prop :=
  i = .sra ∧ x.msb = true ∧ v ≠ 0 ∧ v.toNat % 32 = 0

instance (i : Shift) (x v : u32) : Decidable (i.Overlong x v) :=
  inferInstanceAs (Decidable (_ ∧ _ ∧ _ ∧ _))

lemma msb_eq (x : u32) : x.msb = x.getLsbD 31 := BitVec.msb_eq_getLsbD_last x

/-- **Counts**: the host shifts by less than 32, except where the count is overlong. -/
lemma counts_iff (i : Shift) (x v : u32) :
    (∀ n ∈ (i.made E x v).counts, n < 32) ↔ ¬ i.Overlong x v := by
  have h32 := count_lt v
  unfold Overlong
  cases i with
  | sll | srl => simpa [made] using h32
  | sra =>
    unfold made
    rw [msb_eq]
    by_cases hc : x.getLsbD 31 = true ∧ v ≠ 0
    · have hsign : 32 - (v &&& 0x1f) < 32 ↔ v.toNat % 32 ≠ 0 := by
        rw [BitVec.lt_def, sign_count_toNat, show (32 : u32).toNat = 32 from rfl]
        omega
      rw [if_pos hc]
      simp only [List.mem_cons, List.not_mem_nil, or_false, forall_eq_or_imp, forall_eq, h32,
        true_and, hsign, hc.1, hc.2, ne_eq, not_false_eq_true]
    · rw [if_neg hc]
      simp only [List.mem_cons, List.not_mem_nil, or_false, forall_eq, h32, true_iff]
      exact fun h => hc ⟨h.2.1, h.2.2.1⟩

/-! ### Words -/

lemma sshiftRight_eq (x : u32) {n : Nat} (hn : n < 32) : x.sshiftRight n =
    (x >>> n) ||| (if x.msb = true then (0xffffffff : u32) <<< (32 - n) else 0) := by
  apply BitVec.eq_of_getLsbD_eq
  intro k hk
  rw [BitVec.getLsbD_sshiftRight, BitVec.getLsbD_or, BitVec.getLsbD_ushiftRight]
  by_cases hlow : n + k < 32
  · have hz : (if x.msb = true then (0xffffffff : u32) <<< (32 - n) else 0).getLsbD k = false := by
      split_ifs
      · rw [BitVec.getLsbD_shiftLeft]
        simp [show k < 32 - n by omega]
      · simp
    rw [hz, if_pos hlow, Bool.or_false, decide_eq_false (Nat.not_le.mpr hk), Bool.not_false,
      Bool.true_and]
  · have hs : (if x.msb = true then (0xffffffff : u32) <<< (32 - n) else 0).getLsbD k = x.msb := by
      split_ifs with hm
      · have hones : (0xffffffff : u32).getLsbD (k - (32 - n)) = true := by
          rw [show (0xffffffff : u32) = BitVec.allOnes 32 from rfl, BitVec.getLsbD_allOnes]
          simpa using show k - (32 - n) < 32 by omega
        rw [BitVec.getLsbD_shiftLeft, hones, hm]
        simp [hk, show ¬ k < 32 - n by omega]
      · simp [hm]
    have hx : x.getLsbD (n + k) = false := BitVec.getLsbD_of_ge x _ (by omega)
    rw [hs, hx, if_neg hlow, Bool.false_or, decide_eq_false (Nat.not_le.mpr hk), Bool.not_false,
      Bool.true_and]

/-- **Words**: where the host's shifts are defined, the word is the right one. -/
lemma made_word {i : Shift} {x v : u32} (h : ¬ i.Overlong x v) :
    (i.made E x v).word = i.value x v := by
  unfold made value
  cases i with
  | sll => exact (BitVec.shiftLeft_eq' ..).trans (by rw [count_toNat])
  | srl => exact (BitVec.ushiftRight_eq' ..).trans (by rw [count_toNat])
  | sra =>
    have hlt := Nat.mod_lt v.toNat (show 0 < 32 by decide)
    dsimp only
    rw [sshiftRight_eq x hlt, BitVec.ushiftRight_eq', count_toNat, msb_eq]
    by_cases hc : x.getLsbD 31 = true ∧ v ≠ 0
    · have hne : v.toNat % 32 ≠ 0 := fun h0 => h ⟨rfl, by rw [msb_eq]; exact hc.1, hc.2, h0⟩
      have hsign : 32 - (v &&& 0x1f) < 32 := by
        rw [BitVec.lt_def, sign_count_toNat, show (32 : u32).toNat = 32 from rfl]
        omega
      rw [if_pos hc, if_pos hc.1]
      dsimp only
      unfold hostShl
      rw [if_pos hsign, BitVec.shiftLeft_eq', sign_count_toNat]
    · rw [if_neg hc]
      by_cases hx : x.getLsbD 31 = true
      · -- a shift by zero needs no sign bits
        have hv : v = 0 := by
          by_contra hv
          exact hc ⟨hx, hv⟩
        rw [if_pos hx, hv]
        apply BitVec.eq_of_getLsbD_eq
        intro k hk
        simp [hk]
      · rw [if_neg hx]

end Shift

/-! ### The instruction -/

/-- **Shifts**: the instruction writes the shift by the count modulo 32, and the host shifts by less
than 32, just when the count is not overlong. -/
theorem shift_iff (i : Shift) (s : St δ) (h : Format3 s.d.opcode i.op3) :
    (∃ t, excute_one E s = .ok () t ∧ t.mmu = s.mmu ∧ t.mem = s.mem ∧
        Retired s.cpu t.cpu s.d.opcode
          (i.value (s.cpu.operand1 s.d.opcode) (s.cpu.operand2 s.d.opcode)) none ∧
        ∀ n ∈ (i.made E (s.cpu.operand1 s.d.opcode) (s.cpu.operand2 s.d.opcode)).counts, n < 32) ↔
      ¬ i.Overlong (s.cpu.operand1 s.d.opcode) (s.cpu.operand2 s.d.opcode) := by
  obtain ⟨-, -, hx, hy, hrd⟩ := decode_format3 s.cpu h i.op3_lt
  have hrun := excute_one_format3 E h i.op3_lt i.op3_function
  rw [i.exec_made] at hrun
  dsimp only at hrun
  rw [← hx, ← hy]
  constructor
  · rintro ⟨t, -, -, -, -, hcounts⟩
    exact (i.counts_iff E _ _).mp hcounts
  · intro ho
    have hwb := write_back_retire s.cpu (decode_npc s.cpu s.d) (decode s.cpu s.d).psr
      (i.made E (decode s.cpu s.d).rs1_value (decode s.cpu s.d).ev).word
    rw [hwb, hrd, decode_psr, i.made_word E ho] at hrun
    refine ⟨_, hrun, rfl, rfl, ?_, (i.counts_iff E _ _).mpr ho⟩
    exact (retired_iff s.cpu s.d.opcode _ _ none none).mpr ⟨.inr rfl, rfl⟩

/-- A host whose left shift takes the count modulo 32, as the x86 instruction does. -/
def x86Board : Board Unit :=
  { Board.ram [] with fpu := { (default : HostFloat) with shlOver := fun x n => x <<< (n &&& 0x1f) } }

/-- A machine in user mode with a negative number in `%g1`. -/
def St.negative (opcode : u32) : St Unit :=
  { St.user opcode with cpu := (St.user opcode).cpu.write_reg 0x80000000 1 }

/-- `sra %g1, 32, %g2` makes the host shift by 32, and writes ones. -/
theorem sra_by_32 :
    Format3 0x85386020 Shift.sra.op3 ∧
      (Shift.sra.made x86Board 0x80000000 32).counts = [0, 32] ∧
      Shift.sra.value 0x80000000 32 = 0x80000000 ∧
      ∃ t, excute_one x86Board (St.negative 0x85386020) = .ok () t ∧
        t.cpu.read_reg 2 0 = 0xffffffff := by
  refine ⟨by decide, by decide, by decide, ?_⟩
  obtain ⟨a, t, ht, h0⟩ := exists_ok (r := excute_one x86Board (St.negative 0x85386020))
    (P := fun t => t.cpu.read_reg 2 0 = 0xffffffff) (by decide +kernel) (by decide +kernel)
  exact ⟨t, ht, h0⟩

/-- `sra %g1, 4, %g2`. -/
theorem shift_iff_sra :
    Format3 0x85386004 Shift.sra.op3 ∧
      ∃ t, excute_one x86Board (St.negative 0x85386004) = .ok () t ∧
        t.mmu = (St.negative 0x85386004).mmu ∧ t.mem = (St.negative 0x85386004).mem ∧
        Retired (St.negative 0x85386004).cpu t.cpu 0x85386004
          (Shift.sra.value ((St.negative 0x85386004).cpu.operand1 0x85386004)
            ((St.negative 0x85386004).cpu.operand2 0x85386004)) none ∧
        ∀ n ∈ (Shift.sra.made x86Board ((St.negative 0x85386004).cpu.operand1 0x85386004)
          ((St.negative 0x85386004).cpu.operand2 0x85386004)).counts, n < 32 :=
  ⟨by decide, (shift_iff x86Board .sra (St.negative 0x85386004) (by decide)).mpr (by decide +kernel)⟩

end SparcEmu
