import SparcEmu.Retire
import SparcEmu.Lib.Adder

/-!
Addition and subtraction. One function serves all eight instructions: it inverts the operand,
derives the carry in and reads the flags off the top bits. It is compared with the sum and
the difference of unbounded integers.
-/

namespace SparcEmu

open Lib.Effect Lib.Adder

variable {δ : Type} (E : Board δ)

/-! ### The instructions and what they compute -/

structure AddSub where
  sub : Bool
  withCarry : Bool
  cc : Bool
deriving DecidableEq, Repr

namespace AddSub

def op3 (i : AddSub) : u32 :=
  ofBool i.cc <<< 4 ||| ofBool i.withCarry <<< 3 ||| ofBool i.sub <<< 2

/-- The carry or borrow that the instruction takes in. -/
def carryIn (i : AddSub) (c : Bool) : Bool := i.withCarry && c

def unsigned (i : AddSub) (x y : u32) (c : Bool) : Int :=
  if i.sub then x.toNat - y.toNat - (i.carryIn c).toNat else x.toNat + y.toNat + (i.carryIn c).toNat

def signed (i : AddSub) (x y : u32) (c : Bool) : Int :=
  if i.sub then x.toInt - y.toInt - (i.carryIn c).toNat else x.toInt + y.toInt + (i.carryIn c).toNat

def value (i : AddSub) (x y : u32) (c : Bool) : u32 := BitVec.ofInt 32 (i.unsigned x y c)

/-- The condition codes: sign, zero, signed overflow, and carry or borrow. -/
def icc (i : AddSub) (x y : u32) (c : Bool) : Icc where
  n := (i.value x y c).msb
  z := decide (i.value x y c = 0)
  v := decide (¬Fits 32 (i.signed x y c))
  c := decide (¬(0 ≤ i.unsigned x y c ∧ i.unsigned x y c < 2 ^ 32))

/-- The operand as the adder takes it. -/
def addend (i : AddSub) (y : u32) : u32 := if i.sub then ~~~y else y

/-- The carry as the adder takes it. -/
def adderIn (i : AddSub) (c : Bool) : Bool := i.sub ^^ i.carryIn c

lemma op3_lt (i : AddSub) : i.op3 < FIRST_RS1_EVAL_IDX := by
  obtain ⟨sub, wc, cc⟩ := i
  cases sub <;> cases wc <;> cases cc <;> decide

lemma op3_function (i : AddSub) : format3.getD i.op3.toNat .UNIMP = .ADD := by
  obtain ⟨sub, wc, cc⟩ := i
  cases sub <;> cases wc <;> cases cc <;> rfl

/-! ### The adder -/

lemma sum_eq_value (i : AddSub) (x y : u32) (c : Bool) :
    sum x (i.addend y) (i.adderIn c) = i.value x y c := by
  unfold value addend adderIn unsigned
  cases hs : i.sub
  · simp only [Bool.false_xor, if_false, Bool.false_eq_true]
    rw [BitVec.ofInt_add, BitVec.ofInt_add]
    simp [sum]
  · simp only [Bool.true_xor, if_true]
    rw [sum_not, Int.sub_eq_add_neg, Int.sub_eq_add_neg, BitVec.ofInt_add, BitVec.ofInt_add,
      BitVec.ofInt_neg, BitVec.ofInt_neg]
    simp [BitVec.sub_eq_add_neg]

lemma overflowTop_eq (i : AddSub) (x y : u32) (c : Bool) :
    overflowTop x.msb (i.addend y).msb (i.value x y c).msb =
      decide (¬Fits 32 (i.signed x y c)) := by
  rw [← sum_eq_value, Bool.eq_iff_iff, decide_eq_true_iff]
  unfold addend adderIn signed
  cases hs : i.sub
  · simp only [Bool.false_xor, if_false, Bool.false_eq_true]
    exact overflowTop_iff (by decide) x y _
  · simp only [Bool.true_xor, if_true]
    exact overflowTop_not_iff (by decide) x y _

lemma carryTop_eq (i : AddSub) (x y : u32) (c : Bool) :
    (i.sub ^^ carryTop x.msb (i.addend y).msb (i.value x y c).msb) =
      decide (¬(0 ≤ i.unsigned x y c ∧ i.unsigned x y c < 2 ^ 32)) := by
  have hx := x.isLt
  have hy := y.isLt
  rw [← sum_eq_value, Bool.eq_iff_iff, decide_eq_true_iff]
  unfold addend adderIn unsigned
  cases hs : i.sub
  · have h := carryTop_iff (by decide) x y (i.carryIn c)
    simp only [Bool.false_xor, if_false, Bool.false_eq_true, h]
    omega
  · have h := carryTop_not_iff (by decide) x y (i.carryIn c)
    simp only [Bool.true_xor, if_true, Bool.not_eq_true', h]
    omega

end AddSub

/-! ### The function of the emulator -/

lemma ofBool_eq (b : Bool) : ofBool b = BitVec.ofNat 32 b.toNat := by cases b <;> rfl

lemma and_one_eq (x : u32) : x &&& 1 = ofBool (x.getLsbD 0) := by
  apply BitVec.eq_of_getLsbD_eq
  intro i _
  rw [getLsbD_ofBool]
  by_cases h : i = 0
  · subst h; simp
  · simp [h, BitVec.getLsbD_one]

lemma overflowTop_bits (a b z : Bool) :
    ((ofBool a &&& ofBool b &&& ~~~ofBool z) ||| (~~~ofBool a &&& ~~~ofBool b &&& ofBool z)) &&& 1
      = ofBool (overflowTop a b z) := by
  cases a <;> cases b <;> cases z <;> rfl

lemma carryTop_bits (a b z : Bool) :
    ((ofBool a &&& ofBool b) ||| (~~~ofBool z &&& (ofBool a ||| ofBool b))) &&& 1
      = ofBool (carryTop a b z) := by
  cases a <;> cases b <;> cases z <;> rfl

namespace AddSub

lemma not_tagged (i : AddSub) : i.op3 &&& 0x20 = 0 := by
  obtain ⟨sub, wc, cc⟩ := i
  cases sub <;> cases wc <;> cases cc <;> rfl

lemma inverts_iff (i : AddSub) : i.op3 &&& 4 ≠ 0 ↔ i.sub = true := by
  obtain ⟨sub, wc, cc⟩ := i
  cases sub <;> cases wc <;> cases cc <;> decide

lemma sets_iff (i : AddSub) : i.op3 &&& 0x10 ≠ 0 ↔ i.cc = true := by
  obtain ⟨sub, wc, cc⟩ := i
  cases sub <;> cases wc <;> cases cc <;> decide

lemma carry_eq (i : AddSub) (cc : u32) :
    ((i.op3 >>> 2 ||| (0 : u32)) ^^^ (cc &&& (~~~(0 : u32) &&& i.op3 >>> 3))) &&& 1
      = ofBool (i.adderIn (cc.getLsbD 0)) := by
  rw [and_one_eq, BitVec.getLsbD_xor, BitVec.getLsbD_and]
  obtain ⟨sub, wc, set⟩ := i
  cases sub <;> cases wc <;> cases set <;> cases cc.getLsbD 0 <;> rfl

lemma overflow_bits (a b z : Bool) :
    ((ofBool a &&& ofBool b &&& ~~~ofBool z) ||| (~~~ofBool a &&& ~~~ofBool b &&& ofBool z)) &&& 1
      ||| 0 = ofBool (overflowTop a b z) := by
  rw [overflowTop_bits]
  exact BitVec.or_zero

lemma carry_bits (i : AddSub) (a b z : Bool) :
    (i.op3 >>> 2 ^^^ ((ofBool a &&& ofBool b) ||| (~~~ofBool z &&& (ofBool a ||| ofBool b)))) &&& 1
      = ofBool (i.sub ^^ carryTop a b z) := by
  obtain ⟨sub, wc, cc⟩ := i
  cases sub <;> cases wc <;> cases cc <;> cases a <;> cases b <;> cases z <;> rfl

theorem addSub_eq (i : AddSub) {cc : u32} (hcc : Nibble cc) (x y : u32) :
    addSub i.op3 cc x y =
      (i.value x y (cc.getLsbD 0), (i.icc x y (cc.getLsbD 0)).bits) := by
  have hz : x + i.addend y + ofBool (i.adderIn (cc.getLsbD 0)) = i.value x y (cc.getLsbD 0) := by
    rw [← sum_eq_value, ofBool_eq]
    rfl
  have hy : (if ¬i.op3 &&& 4 = 0 then ~~~y else y) = i.addend y := if_congr i.inverts_iff rfl rfl
  unfold addSub
  simp only [i.not_tagged, ne_eq, not_true_eq_false, false_and, if_false, or_false]
  rw [hy, carry_eq, hz, top_eq, top_eq, top_eq, overflow_bits, carry_bits, overflowTop_eq,
    carryTop_eq, ccResult_bits hcc]
  rfl

lemma value_plain {i : AddSub} (h : i.op3 = 0) (x y : u32) (c : Bool) :
    i.value x y c = x + y ∧ i.cc = false := by
  obtain ⟨sub, wc, cc⟩ := i
  cases sub <;> cases wc <;> cases cc <;> first | exact absurd h (by decide) | skip
  refine ⟨?_, rfl⟩
  rw [← sum_eq_value]
  exact BitVec.add_zero _

end AddSub

def Psr.carry (p : u32) : Bool := (Psr.icc p).getLsbD 0

/-- The condition codes that the instruction sets, if it sets them. -/
def AddSub.codes (i : AddSub) (x y : u32) (c : Bool) : Option Icc :=
  if i.cc then some (i.icc x y c) else none

lemma ADD_eq {s : St δ} {i : AddSub} (h : s.d.op_2_3 = i.op3) :
    ADD s = .ok () { s with d := ({ s.d with
      psr := Psr.withCodes s.d.psr (i.codes s.d.rs1_value s.d.ev (Psr.carry s.d.psr)) }.wb
        (i.value s.d.rs1_value s.d.ev (Psr.carry s.d.psr))).next } := by
  have htag : ¬ i.op3 &&& 0x22 = 0x22 := by
    obtain ⟨sub, wc, cc⟩ := i
    cases sub <;> cases wc <;> cases cc <;> decide
  have hset : i.op3 &&& 0x10 ≠ 0 ∨ i.op3 &&& 0x20 ≠ 0 ↔ i.cc = true := by
    simp only [i.not_tagged, ne_eq, not_true_eq_false, or_false]
    exact i.sets_iff
  unfold ADD AddSub.codes
  rw [getD_bind, h]
  by_cases h0 : i.op3 = 0
  · obtain ⟨hv, hcc⟩ := AddSub.value_plain h0 s.d.rs1_value s.d.ev (Psr.carry s.d.psr)
    rw [if_pos h0, hv, hcc]
    rfl
  · rw [if_neg h0, i.addSub_eq (Psr.nibble_icc _), ← Psr.carry, if_neg fun hc => htag hc.1]
    unfold modD
    simp only [h, if_congr hset rfl rfl]
    split_ifs <;> rfl

/-! ### The instruction -/

/-- **Add and subtract**: the instruction writes the word of the exact result, and sets the
condition codes from the exact result when it is one of the forms that do. -/
theorem add_sub_exact (i : AddSub) (s : St δ) (h : Format3 s.d.opcode i.op3) :
    ∃ t, excute_one E s = .ok () t ∧ t.mmu = s.mmu ∧ t.mem = s.mem ∧
      Retired s.cpu t.cpu s.d.opcode
        (i.value (s.cpu.operand1 s.d.opcode) (s.cpu.operand2 s.d.opcode) (Psr.carry s.cpu.psr))
        (i.codes (s.cpu.operand1 s.d.opcode) (s.cpu.operand2 s.d.opcode) (Psr.carry s.cpu.psr)) := by
  obtain ⟨-, hop, hx, hy, hrd⟩ := decode_format3 s.cpu h i.op3_lt
  have hadd := ADD_eq (s := { s with d := decode s.cpu s.d }) hop
  have hrun := excute_one_format3 E h i.op3_lt i.op3_function
  rw [show Handler.ADD.exec E (throwHost .stack_overflow) = ADD from rfl, hadd] at hrun
  refine ⟨_, hrun, rfl, rfl, ?_⟩
  dsimp only
  rw [write_back_retire s.cpu (decode_npc s.cpu s.d), hx, hy, hrd, decode_psr]
  exact (retired_iff _ _ _ _ _ _).2 ⟨.inr rfl, rfl⟩

/-- `subcc %g0, 1, %g1` in user mode borrows. -/
theorem add_sub_exact_subcc :
    Format3 0x82a02001 (AddSub.op3 ⟨true, false, true⟩) ∧
      ∃ t, excute_one (Board.ram []) (St.user 0x82a02001) = .ok () t ∧ t.mmu = MMU.init ∧
        t.mem = (St.user 0x82a02001).mem ∧
        Retired (St.user 0x82a02001).cpu t.cpu 0x82a02001 0xffffffff
          (some ⟨true, false, false, true⟩) :=
  ⟨by decide, add_sub_exact (Board.ram []) ⟨true, false, true⟩ (St.user 0x82a02001) (by decide)⟩

end SparcEmu
