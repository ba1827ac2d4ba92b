import Mathlib.Tactic.Common

/-!
Values as bytes in either byte order.
-/

namespace SparcEmu.Lib.ByteOrder

/-- Which byte of a value of `n` bytes lies at place `k`, counted from the least significant one. -/
def rank (big : Bool) (n k : Nat) : Nat := if big then n - 1 - k else k

variable {w : Nat} {big : Bool} {n : Nat} {f : Nat → BitVec 8}

/-- The byte of a value that lies at place `k`. -/
def byteOf (big : Bool) (n : Nat) (v : BitVec w) (k : Nat) : BitVec 8 :=
  (v >>> (8 * rank big n k)).setWidth 8

/-- The value of the bytes at the places below `n`. -/
def compose (w : Nat) (big : Bool) : Nat → (Nat → BitVec 8) → BitVec w
  | 0, _ => 0
  | n + 1, f =>
    if big then compose w big n f <<< 8 ||| (f n).setWidth w
    else (f n).setWidth w <<< (8 * n) ||| compose w big n f

theorem getLsbD_compose (n : Nat) (i : Nat) : (compose w big n f).getLsbD i =
    (decide (i < w ∧ i < 8 * n) && (f (rank big n (i / 8))).getLsbD (i % 8)) := by
  induction n generalizing i with
  | zero => simp [compose]
  | succ n ih =>
    cases big with
    | true =>
      simp only [compose, if_true, BitVec.getLsbD_or, BitVec.getLsbD_shiftLeft, ih,
        BitVec.getLsbD_setWidth, rank, Nat.add_sub_cancel]
      by_cases hi : i < 8
      · have h0 : i / 8 = 0 := by omega
        have h1 : i % 8 = i := by omega
        have h2 : i < 8 * (n + 1) := by omega
        simp [hi, h0, h1, h2]
      · have h0 : (f n).getLsbD i = false := BitVec.getLsbD_of_ge _ _ (by omega)
        have h1 : (i - 8) % 8 = i % 8 := by omega
        have h2 : n - 1 - (i - 8) / 8 = n - i / 8 := by omega
        have h3 : i < w → i - 8 < w := by omega
        have h4 : i - 8 < 8 * n ↔ i < 8 * (n + 1) := by omega
        rw [h0, h1, h2]
        by_cases hw : i < w
        · simp [hi, hw, h3 hw, h4]
        · simp [hw]
    | false =>
      simp only [compose, Bool.false_eq_true, if_false, BitVec.getLsbD_or, BitVec.getLsbD_shiftLeft,
        ih, BitVec.getLsbD_setWidth, rank]
      by_cases hi : i < 8 * n
      · have h2 : i < 8 * (n + 1) := by omega
        simp [hi, h2]
      · by_cases hn : i < 8 * (n + 1)
        · have h0 : i / 8 = n := by omega
          have h1 : i - 8 * n = i % 8 := by omega
          have h2 : i < w → i - 8 * n < w := by omega
          rw [h0, h1] at *
          by_cases hw : i < w
          · simp [hi, hn, hw, h2 hw]
          · simp [hw]
        · have h0 : (f n).getLsbD (i - 8 * n) = false := BitVec.getLsbD_of_ge _ _ (by omega)
          simp [hi, hn, h0]

lemma setWidth_compose {a : Nat} (h : 8 * n ≤ a) (w : Nat) :
    (compose a big n f).setWidth w = compose w big n f := by
  apply BitVec.eq_of_getLsbD_eq
  intro i hi
  rw [BitVec.getLsbD_setWidth, getLsbD_compose, getLsbD_compose]
  by_cases hn : i < 8 * n
  · have ha : i < a := by omega
    simp [hi, hn, ha]
  · simp [hn]

lemma compose_big_add (m n : Nat) (f : Nat → BitVec 8) : compose w true (m + n) f =
    compose w true m f <<< (8 * n) ||| compose w true n (fun k => f (m + k)) := by
  induction n with
  | zero => simp [compose]
  | succ n ih =>
    rw [← Nat.add_assoc]
    simp only [compose, if_true]
    rw [ih, BitVec.shiftLeft_or_distrib, ← BitVec.shiftLeft_add, BitVec.or_assoc]
    rfl

lemma compose_little_add (m n : Nat) (f : Nat → BitVec 8) : compose w false (m + n) f =
    compose w false n (fun k => f (m + k)) <<< (8 * m) ||| compose w false m f := by
  induction n with
  | zero => simp [compose]
  | succ n ih =>
    rw [← Nat.add_assoc]
    simp only [compose, Bool.false_eq_true, if_false]
    rw [ih, BitVec.shiftLeft_or_distrib, ← BitVec.shiftLeft_add, BitVec.or_assoc, Nat.mul_add,
      Nat.add_comm (8 * n)]

lemma byteOf_setWidth {a k : Nat} (h : 8 * n ≤ a) (hk : k < n) (big : Bool) (v : BitVec w) :
    byteOf big n (v.setWidth a) k = byteOf big n v k := by
  have hr : rank big n k < n := by
    unfold rank
    split_ifs <;> omega
  unfold byteOf
  apply BitVec.eq_of_getLsbD_eq
  intro i hi
  have ha : 8 * rank big n k + i < a := by omega
  simp [ha]

lemma byteOf_big_high {m k : Nat} (hk : k < m) (n : Nat) (v : BitVec w) :
    byteOf true (m + n) v k = byteOf true m (v >>> (8 * n)) k := by
  have h : 8 * rank true (m + n) k = 8 * n + 8 * rank true m k := by
    simp only [rank, if_true]
    omega
  unfold byteOf
  rw [h, BitVec.shiftRight_add]

lemma byteOf_big_low (m k : Nat) (n : Nat) (v : BitVec w) :
    byteOf true (m + n) v (m + k) = byteOf true n v k := by
  have h : rank true (m + n) (m + k) = rank true n k := by
    simp only [rank, if_true]
    omega
  unfold byteOf
  rw [h]

lemma byteOf_little_low (m k n : Nat) (v : BitVec w) :
    byteOf false (m + n) v k = byteOf false m v k := rfl

lemma byteOf_little_high (m k : Nat) (n : Nat) (v : BitVec w) :
    byteOf false (m + n) v (m + k) = byteOf false n (v >>> (8 * m)) k := by
  have h : 8 * rank false (m + n) (m + k) = 8 * m + 8 * rank false n k := by
    simp only [rank, Bool.false_eq_true, if_false]
    omega
  unfold byteOf
  rw [h, BitVec.shiftRight_add]

end SparcEmu.Lib.ByteOrder
