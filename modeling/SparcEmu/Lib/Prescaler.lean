import Mathlib.Logic.Function.Iterate
import Mathlib.Algebra.Order.Ring.Nat
import Mathlib.Data.Nat.ModEq

/-!
A counter that divides the calls of a function: the function runs once for each time the counter
passes zero, and the counter then starts again from a reload value. `n` steps have a closed form,
`iterate_tick`: how often the function ran and what is left on the counter.
-/

namespace SparcEmu.Lib.Prescaler

variable {α : Type*}

/-- One step: count down, or run `f` and reload. -/
def tick (r : ℕ) (f : α → α) : ℕ × α → ℕ × α
  | (0, a) => (r, f a)
  | (c + 1, a) => (c, a)

/-- How often `f` runs in `n` steps that start at `c`. -/
def fires (r c n : ℕ) : ℕ := if n ≤ c then 0 else (n - c - 1) / (r + 1) + 1

/-- What the counter holds after these steps. -/
def left (r c n : ℕ) : ℕ := if n ≤ c then c - n else r - (n - c - 1) % (r + 1)

variable {r c n : ℕ}

lemma fires_of_le (h : n ≤ c) : fires r c n = 0 := if_pos h

lemma left_of_le (h : n ≤ c) : left r c n = c - n := if_pos h

lemma fires_of_gt (h : c < n) : fires r c n = (n - c - 1) / (r + 1) + 1 := if_neg (by omega)

lemma left_of_gt (h : c < n) : left r c n = r - (n - c - 1) % (r + 1) := if_neg (by omega)

lemma succ_of_left_zero (h : left r c n = 0) :
    left r c (n + 1) = r ∧ fires r c (n + 1) = fires r c n + 1 := by
  rcases Nat.lt_or_ge c n with hc | hc
  · have hm : (n - c - 1) % (r + 1) < r + 1 := Nat.mod_lt _ (Nat.succ_pos r)
    rw [left_of_gt hc] at h
    have hr : (n - c - 1) % (r + 1) = r := by omega
    have hk : n + 1 - c - 1 = n - c - 1 + 1 := by omega
    have hd : r + 1 ∣ n - c - 1 + 1 := by
      rw [Nat.dvd_iff_mod_eq_zero, ← Nat.mod_add_mod, hr, Nat.mod_self]
    rw [left_of_gt (by omega), fires_of_gt (by omega), fires_of_gt hc, hk,
      Nat.succ_div_of_dvd hd, Nat.mod_eq_zero_of_dvd hd]
    exact ⟨rfl, rfl⟩
  · rw [left_of_le hc] at h
    have hn : n = c := by omega
    subst hn
    rw [left_of_gt (by omega), fires_of_gt (by omega), fires_of_le le_rfl]
    simp

lemma succ_of_left_succ {m : ℕ} (h : left r c n = m + 1) :
    left r c (n + 1) = m ∧ fires r c (n + 1) = fires r c n := by
  rcases Nat.lt_or_ge c n with hc | hc
  · rw [left_of_gt hc] at h
    have hlt : (n - c - 1) % (r + 1) + 1 < r + 1 := by omega
    have hk : n + 1 - c - 1 = n - c - 1 + 1 := by omega
    have hmod : (n - c - 1 + 1) % (r + 1) = (n - c - 1) % (r + 1) + 1 := by
      rw [Nat.add_mod, Nat.mod_eq_of_lt (show 1 < r + 1 by omega), Nat.mod_eq_of_lt hlt]
    have hd : ¬ r + 1 ∣ n - c - 1 + 1 := by
      rw [Nat.dvd_iff_mod_eq_zero, hmod]
      omega
    rw [left_of_gt (by omega), fires_of_gt (by omega), fires_of_gt hc, hk,
      Nat.succ_div_of_not_dvd hd, hmod]
    exact ⟨by omega, rfl⟩
  · rw [left_of_le hc] at h
    rw [left_of_le (by omega), fires_of_le (by omega), fires_of_le hc]
    exact ⟨by omega, rfl⟩

theorem iterate_tick (r : ℕ) (f : α → α) (c : ℕ) (a : α) (n : ℕ) :
    (tick r f)^[n] (c, a) = (left r c n, f^[fires r c n] a) := by
  induction n with
  | zero => rw [left_of_le (Nat.zero_le c), fires_of_le (Nat.zero_le c)]; rfl
  | succ n ih =>
    rw [Function.iterate_succ_apply', ih]
    cases h : left r c n with
    | zero =>
      obtain ⟨hl, hf⟩ := succ_of_left_zero h
      rw [hl, hf, Function.iterate_succ_apply']
      rfl
    | succ m =>
      obtain ⟨hl, hf⟩ := succ_of_left_succ h
      rw [hl, hf]
      rfl

lemma lt_fires_iff {k : ℕ} : k < fires r c n ↔ c + 1 + k * (r + 1) ≤ n := by
  rcases Nat.lt_or_ge c n with hc | hc
  · have hk : k ≤ (n - c - 1) / (r + 1) ↔ k * (r + 1) ≤ n - c - 1 :=
      Nat.le_div_iff_mul_le (Nat.succ_pos r)
    rw [fires_of_gt hc, Nat.lt_succ_iff, hk]
    omega
  · rw [fires_of_le hc]
    have := Nat.zero_le (k * (r + 1))
    omega

lemma fires_le : fires r c n ≤ n := by
  by_contra h
  have hn := lt_fires_iff.mp (not_le.mp h)
  have hm : n ≤ n * (r + 1) := Nat.le_mul_of_pos_right n (Nat.succ_pos r)
  omega

lemma left_of_fire (k : ℕ) : left r c (c + 1 + k * (r + 1)) = r := by
  have hk : c + 1 + k * (r + 1) - c - 1 = k * (r + 1) := by omega
  rw [left_of_gt (by have := Nat.zero_le (k * (r + 1)); omega), hk, Nat.mul_mod_left, Nat.sub_zero]

end SparcEmu.Lib.Prescaler
