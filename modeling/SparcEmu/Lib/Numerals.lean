import Mathlib.Data.BitVec

/-!
Instances behind the numerals of small finite types and behind membership in lists of words, under names
of their own.
-/

namespace SparcEmu.Lib.Numerals

instance neZeroTwo : NeZero 2 := ⟨by decide⟩

instance neZeroEight : NeZero 8 := ⟨by decide⟩

instance neZeroThirtyTwo : NeZero 32 := ⟨by decide⟩

instance lawfulWord : LawfulBEq (BitVec 32) := inferInstance

end SparcEmu.Lib.Numerals
