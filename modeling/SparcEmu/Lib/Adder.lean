import Mathlib.Data.BitVec
import Mathlib.Tactic.Common
import Mathlib.Data.Bool.Basic

/-!
Addition of words with a carry in. The carry out and the overflow of a sum are computed from
the top bits of the operands and of the result; here they are shown to be the carry and the
overflow of unbounded arithmetic. A difference is the sum with the complement.
-/

namespace SparcEmu.Lib.Adder

variable {w : Nat}

def sum (x y : BitVec w) (c : Bool) : BitVec w := x + y + BitVec.ofNat w c.toNat

/-- The carry out of a sum, from the top bits of the operands and of the result. -/
def carryTop (x y z : Bool) : Bool := (x && y) || (!z && (x || y))

/-- The overflow of a sum, from the same bits. -/
def overflowTop (x y z : Bool) : Bool := (x && y && !z) || (!x && !y && z)

/-- A signed number of `w` bits. -/
def Fits (w : Nat) (n : Int) : Prop := -(2 ^ (w - 1) : Nat) ≤ n ∧ n < (2 ^ (w - 1) : Nat)

instance (w : Nat) (n : Int) : Decidable (Fits w n) := inferInstanceAs (Decidable (_ ∧ _))

/-! ### Words as numbers -/

lemma two_pow_half (hw : 0 < w) : 2 ^ w = 2 * 2 ^ (w - 1) := by
  obtain ⟨k, rfl⟩ := Nat.exists_eq_succ_of_ne_zero (Nat.ne_of_gt hw)
  rw [Nat.succ_sub_one, Nat.pow_succ, Nat.mul_comm]

lemma msb_iff (x : BitVec w) : x.msb = true ↔ 2 ^ (w - 1) ≤ x.toNat := by
  rw [BitVec.msb_eq_decide, decide_eq_true_iff]

lemma toInt_top (hw : 0 < w) (x : BitVec w) :
    x.toInt = x.toNat - if x.msb then 2 * ((2 ^ (w - 1) : Nat) : Int) else 0 := by
  have hh := two_pow_half hw
  rw [BitVec.toInt_eq_msb_cond]
  split_ifs <;> omega

lemma toNat_sum (x y : BitVec w) (c : Bool) :
    (sum x y c).toNat = x.toNat + y.toNat + c.toNat ∨
      (sum x y c).toNat + 2 ^ w = x.toNat + y.toNat + c.toNat := by
  have hx := x.isLt
  have hy := y.isLt
  have hc := Bool.toNat_le c
  have hz : (sum x y c).toNat = (x.toNat + y.toNat + c.toNat) % 2 ^ w := by
    simp [sum, BitVec.toNat_add]
  rw [hz]
  by_cases h : x.toNat + y.toNat + c.toNat < 2 ^ w
  · exact .inl (Nat.mod_eq_of_lt h)
  · right
    rw [Nat.mod_eq_sub_mod (by omega), Nat.mod_eq_of_lt (by omega)]
    omega

/-! ### Carry and overflow -/

theorem carryTop_iff (hw : 0 < w) (x y : BitVec w) (c : Bool) :
    carryTop x.msb y.msb (sum x y c).msb = true ↔ 2 ^ w ≤ x.toNat + y.toNat + c.toNat := by
  have hx := x.isLt
  have hy := y.isLt
  have hz := (sum x y c).isLt
  have hc := Bool.toNat_le c
  have hsum := toNat_sum x y c
  have mx := msb_iff x
  have my := msb_iff y
  have mz := msb_iff (sum x y c)
  rw [two_pow_half hw] at hx hy hz hsum ⊢
  generalize x.msb = xtop, y.msb = ytop, (sum x y c).msb = ztop, 2 ^ (w - 1) = h at *
  unfold carryTop
  cases xtop <;> cases ytop <;> cases ztop <;>
    simp only [Bool.false_eq_true, false_iff, true_iff, Bool.and_self, Bool.true_and, Bool.false_and,
      Bool.or_self, Bool.false_or, Bool.or_false, Bool.not_true, Bool.not_false] at mx my mz ⊢ <;> omega

theorem overflowTop_iff (hw : 0 < w) (x y : BitVec w) (c : Bool) :
    overflowTop x.msb y.msb (sum x y c).msb = true ↔ ¬Fits w (x.toInt + y.toInt + c.toNat) := by
  have hx := x.isLt
  have hy := y.isLt
  have hz := (sum x y c).isLt
  have hc := Bool.toNat_le c
  have hsum := toNat_sum x y c
  have mx := msb_iff x
  have my := msb_iff y
  have mz := msb_iff (sum x y c)
  rw [two_pow_half hw] at hx hy hz hsum
  rw [toInt_top hw x, toInt_top hw y]
  unfold overflowTop Fits
  generalize x.msb = xtop, y.msb = ytop, (sum x y c).msb = ztop, 2 ^ (w - 1) = h at *
  cases xtop <;> cases ytop <;> cases ztop <;>
    simp only [Bool.false_eq_true, false_iff, true_iff, Bool.and_self, Bool.true_and, Bool.false_and,
      Bool.or_self, Bool.false_or, Bool.or_false, Bool.not_true, Bool.not_false,
      if_true, if_false] at mx my mz ⊢ <;> omega

/-- **The exact sum**: sign and overflow together are the sign of the sum of the signed operands. -/
theorem sum_exact (hw : 0 < w) (x y : BitVec w) (c : Bool) :
    ((sum x y c).toNat : Int) -
        (if (sum x y c).msb ^^ overflowTop x.msb y.msb (sum x y c).msb then ((2 ^ w : Nat) : Int)
          else 0) = x.toInt + y.toInt + c.toNat := by
  have hx := x.isLt
  have hy := y.isLt
  have hz := (sum x y c).isLt
  have hc := Bool.toNat_le c
  have hsum := toNat_sum x y c
  have mx := msb_iff x
  have my := msb_iff y
  have mz := msb_iff (sum x y c)
  rw [two_pow_half hw] at hx hy hz hsum ⊢
  rw [toInt_top hw x, toInt_top hw y]
  unfold overflowTop
  generalize x.msb = xtop, y.msb = ytop, (sum x y c).msb = ztop, 2 ^ (w - 1) = h at *
  cases xtop <;> cases ytop <;> cases ztop <;>
    simp only [Bool.false_eq_true, false_iff, true_iff, Bool.and_self, Bool.true_and, Bool.false_and,
      Bool.or_self, Bool.false_or, Bool.or_false, Bool.not_true, Bool.not_false, Bool.xor_self,
      Bool.xor_false, Bool.false_xor, if_true, if_false] at mx my mz ⊢ <;> omega

/-! ### Differences -/

lemma toNat_not (y : BitVec w) : (~~~y).toNat + y.toNat + 1 = 2 ^ w := by
  have hy := y.isLt
  rw [BitVec.toNat_not]
  omega

lemma toInt_not (hw : 0 < w) (y : BitVec w) : (~~~y).toInt = -y.toInt - 1 := by
  have hy := y.isLt
  have hn := toNat_not y
  have my := msb_iff y
  have mn := msb_iff (~~~y)
  rw [toInt_top hw y, toInt_top hw (~~~y)]
  rw [two_pow_half hw] at hy hn
  generalize y.msb = ytop, (~~~y).msb = ntop, 2 ^ (w - 1) = h at *
  cases ytop <;> cases ntop <;>
    simp only [Bool.false_eq_true, false_iff, true_iff, if_true, if_false] at my mn ⊢ <;> omega

/-- **Difference**: adding the complement with the carry in inverted subtracts. -/
theorem sum_not (x y : BitVec w) (b : Bool) :
    sum x (~~~y) (!b) = x - y - BitVec.ofNat w b.toNat := by
  unfold sum
  rw [BitVec.not_eq_neg_add, BitVec.sub_eq_add_neg x y]
  cases b with
  | false =>
    show x + (-y - 1#w) + 1#w = x + -y - 0#w
    rw [BitVec.add_assoc, BitVec.sub_add_cancel, BitVec.sub_zero]
  | true => simp [BitVec.sub_eq_add_neg, BitVec.add_assoc]

theorem carryTop_not_iff (hw : 0 < w) (x y : BitVec w) (b : Bool) :
    carryTop x.msb (~~~y).msb (sum x (~~~y) (!b)).msb = false ↔ x.toNat < y.toNat + b.toNat := by
  have hn := toNat_not y
  have hc : (!b).toNat + b.toNat = 1 := by cases b <;> rfl
  rw [← Bool.not_eq_true, carryTop_iff hw]
  omega

theorem overflowTop_not_iff (hw : 0 < w) (x y : BitVec w) (b : Bool) :
    overflowTop x.msb (~~~y).msb (sum x (~~~y) (!b)).msb = true ↔
      ¬Fits w (x.toInt - y.toInt - b.toNat) := by
  have hc : (!b).toNat + b.toNat = 1 := by cases b <;> rfl
  rw [overflowTop_iff hw, toInt_not hw]
  rw [show x.toInt + (-y.toInt - 1) + ((!b).toNat : Int) = x.toInt - y.toInt - b.toNat by omega]

end SparcEmu.Lib.Adder
