import Mathlib.Data.Fintype.Card

/-!
Counting flags: how many are set, and what setting or clearing one of them makes of the count.
-/

namespace SparcEmu.Lib.Flags

variable {n : Nat}

lemma card_update {f : Fin n → Bool} {w : Fin n} (h : f w = false) :
    (Finset.univ.filter fun v => Function.update f w true v = true).card =
      (Finset.univ.filter fun v => f v = true).card + 1 := by
  have hset : (Finset.univ.filter fun v => Function.update f w true v = true)
      = insert w (Finset.univ.filter fun v => f v = true) := by
    ext v
    by_cases hv : v = w
    · subst hv
      simp
    · simp [hv]
  rw [hset, Finset.card_insert_of_notMem (by simp [h])]

lemma card_clear {f : Fin n → Bool} {w : Fin n} (h : f w = true) :
    (Finset.univ.filter fun v => f v = true).card =
      (Finset.univ.filter fun v => Function.update f w false v = true).card + 1 := by
  have hback : Function.update (Function.update f w false) w true = f := by
    rw [Function.update_idem, ← h, Function.update_eq_self]
  rw [← card_update (Function.update_self w false f), hback]

lemma all_of_card {f : Fin n → Bool} (h : (Finset.univ.filter fun v => f v = true).card = n)
    (w : Fin n) : f w = true := by
  have hu : (Finset.univ.filter fun v => f v = true) = Finset.univ := by
    rw [← Finset.card_eq_iff_eq_univ, h, Fintype.card_fin]
  have : w ∈ (Finset.univ.filter fun v => f v = true) := by
    rw [hu]
    exact Finset.mem_univ w
  simpa using this

lemma card_le (f : Fin n → Bool) : (Finset.univ.filter fun v => f v = true).card ≤ n := by
  have hle := Finset.card_filter_le Finset.univ fun v => f v = true
  rwa [Finset.card_univ, Fintype.card_fin] at hle

end SparcEmu.Lib.Flags
