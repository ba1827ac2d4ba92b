import Mathlib.Data.BitVec
import Mathlib.Tactic.Common

/-!
Words cut at a bit position: the part above it and the part below it.
-/

namespace SparcEmu.Lib.Bits

variable {w : Nat} {a b m : BitVec w} {n : Nat}

lemma getLsbD_of_shift (h : a >>> n = b >>> n) {i : Nat} (hi : n ≤ i) :
    a.getLsbD i = b.getLsbD i := by
  have := congrArg (fun x => BitVec.getLsbD x (i - n)) h
  simpa [BitVec.getLsbD_ushiftRight, Nat.add_sub_cancel' hi] using this

/-- The word with the low `n` bits set. -/
def low (w n : Nat) : BitVec w := BitVec.ofNat w (2 ^ n - 1)

lemma getLsbD_low (i : Nat) : (low w n).getLsbD i = decide (i < w ∧ i < n) := by
  simp [low, BitVec.getLsbD_ofNat, Nat.testBit_two_pow_sub_one]

lemma and_of_shift (hm : m &&& low w n = 0) (h : a >>> n = b >>> n) : a &&& m = b &&& m := by
  apply BitVec.eq_of_getLsbD_eq
  intro i hi
  rw [BitVec.getLsbD_and, BitVec.getLsbD_and]
  by_cases hn : n ≤ i
  · rw [getLsbD_of_shift h hn]
  · have hb := congrArg (fun x => BitVec.getLsbD x i) hm
    simp only [BitVec.getLsbD_and, getLsbD_low] at hb
    have : m.getLsbD i = false := by simpa [hi, Nat.lt_of_not_le hn] using hb
    simp [this]

lemma eq_of_parts (hs : a >>> n = b >>> n) (hl : a &&& low w n = b &&& low w n) : a = b := by
  apply BitVec.eq_of_getLsbD_eq
  intro i hi
  by_cases hn : n ≤ i
  · exact getLsbD_of_shift hs hn
  · have hb := congrArg (fun x => BitVec.getLsbD x i) hl
    simp only [BitVec.getLsbD_and, getLsbD_low] at hb
    simpa [hi, Nat.lt_of_not_le hn] using hb

lemma shift_of_shift (h : a >>> n = b >>> n) {k : Nat} (hk : n ≤ k) : a >>> k = b >>> k := by
  obtain ⟨j, rfl⟩ := Nat.exists_eq_add_of_le hk
  rw [BitVec.shiftRight_add, BitVec.shiftRight_add, h]

lemma toNat_shift (h : a >>> n = b >>> n) : a.toNat / 2 ^ n = b.toNat / 2 ^ n := by
  have := congrArg BitVec.toNat h
  simpa [BitVec.toNat_ushiftRight, Nat.shiftRight_eq_div_pow] using this

lemma toNat_low (hn : n ≤ w) : (a &&& low w n).toNat = a.toNat % 2 ^ n := by
  have h1 := Nat.pow_le_pow_right (by decide : 0 < 2) hn
  have h2 := Nat.two_pow_pos n
  rw [BitVec.toNat_and, low, BitVec.toNat_ofNat, Nat.mod_eq_of_lt (by omega),
    Nat.and_two_pow_sub_one_eq_mod]

lemma shift_clear_low : (a &&& ~~~low w n) >>> n = a >>> n := by
  apply BitVec.eq_of_getLsbD_eq
  intro i _
  rw [BitVec.getLsbD_ushiftRight, BitVec.getLsbD_ushiftRight, BitVec.getLsbD_and,
    BitVec.getLsbD_not, getLsbD_low]
  by_cases h : n + i < w
  · simp [h]
  · rw [BitVec.getLsbD_of_ge a _ (by omega)]
    rfl

/-! ### Fields written under a mask -/

variable {p x k : BitVec w}

lemma field_other (hk : k &&& m = m) (hx : x &&& m = 0) : ((p &&& k) ||| x) &&& m = p &&& m := by
  rw [BitVec.and_or_distrib_right, BitVec.and_assoc, hk, hx]
  exact BitVec.or_zero

lemma field_self (hk : k &&& m = 0) : ((p &&& k) ||| x) &&& m = x &&& m := by
  rw [BitVec.and_or_distrib_right, BitVec.and_assoc, hk]
  rw [show p &&& 0 = (0 : BitVec w) from BitVec.and_zero, show 0 ||| x &&& m = x &&& m from
    BitVec.zero_or]

end SparcEmu.Lib.Bits
