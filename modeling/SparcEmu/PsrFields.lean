import SparcEmu.Instructions
import SparcEmu.Lib.Bits
import Mathlib.Tactic.IntervalCases

/-!
The fields of the PSR after a field has been written, and the width of computed condition
codes.
-/

namespace SparcEmu

open Lib.Bits

/-- The bits of the PSR other than the window pointer and the condition codes. -/
def Psr.priv (p : u32) : u32 := p &&& 0xff0fffe0

def Nibble (x : u32) : Prop := x &&& 0xf = x

def OneBit (x : u32) : Prop := x = 0 ∨ x = 1

variable {cc : u32}

namespace Psr

lemma cwp_setCwp (p w : u32) : cwp (setCwp p w) = w &&& 0x1f := by
  unfold cwp setCwp
  rw [field_self (by decide), BitVec.and_assoc]
  rfl

lemma priv_setCwp (p w : u32) : priv (setCwp p w) = priv p := by
  unfold priv setCwp
  refine field_other (by decide) ?_
  rw [BitVec.and_assoc, show (0x1f : u32) &&& 0xff0fffe0 = 0 from by decide]
  exact BitVec.and_zero

lemma nibble_shift (h : Nibble cc) : cc <<< 20 = cc <<< 20 &&& 0xf00000 := by
  conv_lhs => rw [← show cc &&& 0xf = cc from h]
  rw [BitVec.shiftLeft_and_distrib]
  rfl

lemma cwp_setIcc (h : Nibble cc) (p : u32) : cwp (setIcc p cc) = cwp p := by
  unfold cwp setIcc
  refine field_other (by decide) ?_
  rw [nibble_shift h, BitVec.and_assoc, show (0xf00000 : u32) &&& 0x1f = 0 from by decide]
  exact BitVec.and_zero

lemma priv_setIcc (h : Nibble cc) (p : u32) : priv (setIcc p cc) = priv p := by
  unfold priv setIcc
  refine field_other (by decide) ?_
  rw [nibble_shift h, BitVec.and_assoc, show (0xf00000 : u32) &&& 0xff0fffe0 = 0 from by decide]
  exact BitVec.and_zero

lemma nibble_icc (p : u32) : Nibble (icc p) := by
  unfold Nibble icc
  rw [BitVec.and_assoc]
  rfl

end Psr

/-! ### Computed condition codes -/

lemma oneBit_ofBool (b : Bool) : OneBit (ofBool b) := by
  cases b
  · exact Or.inl rfl
  · exact Or.inr rfl

lemma oneBit_and (x : u32) : OneBit (x &&& 1) := by
  have h : (x &&& 1).toNat < 2 := by
    rw [BitVec.toNat_and]
    exact Nat.lt_of_le_of_lt Nat.and_le_right (by decide)
  rcases (by omega : (x &&& 1).toNat = 0 ∨ (x &&& 1).toNat = 1) with h | h
  · exact Or.inl (BitVec.eq_of_toNat_eq h)
  · exact Or.inr (BitVec.eq_of_toNat_eq h)

lemma OneBit.or {x y : u32} (hx : OneBit x) (hy : OneBit y) : OneBit (x ||| y) := by
  rcases hx with rfl | rfl <;> rcases hy with rfl | rfl
  · exact Or.inl rfl
  · exact Or.inr rfl
  · exact Or.inr rfl
  · exact Or.inr rfl

lemma nibble_ccSet {b : u32} {k : Nat} (hcc : Nibble cc) (hk : k < 4) (hb : OneBit b) :
    Nibble (ccSet cc k b) := by
  have hbk : b <<< k &&& 0xf = b <<< k := by
    rcases hb with rfl | rfl <;> interval_cases k <;> decide
  unfold Nibble ccSet
  rw [BitVec.and_or_distrib_right, hbk, BitVec.and_assoc, BitVec.and_comm (~~~_),
    ← BitVec.and_assoc, show cc &&& 0xf = cc from hcc]

lemma nibble_ccResult {v c : u32} (hcc : Nibble cc) (hv : OneBit v) (hc : OneBit c) (z : u32) :
    Nibble (ccResult cc v c z) :=
  nibble_ccSet (nibble_ccSet (nibble_ccSet (nibble_ccSet hcc (by decide) hv) (by decide) hc)
    (by decide) (oneBit_ofBool _)) (by decide) (oneBit_and _)

lemma nibble_ccWide (hcc : Nibble cc) (z : u64) : Nibble (ccWide cc z) :=
  nibble_ccSet (nibble_ccSet (nibble_ccSet (nibble_ccSet hcc (by decide) (oneBit_ofBool _))
    (by decide) (oneBit_and _)) (by decide) (Or.inl rfl)) (by decide) (Or.inl rfl)

lemma nibble_addSub (hcc : Nibble cc) (op x y : u32) : Nibble (addSub op cc x y).2 := by
  unfold addSub
  refine nibble_ccResult hcc (OneBit.or (oneBit_and _) ?_) (oneBit_and _) _
  split_ifs
  · exact Or.inr rfl
  · exact Or.inl rfl

end SparcEmu
