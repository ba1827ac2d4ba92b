import Mathlib.Tactic.Common

/-!
A position that a loop moves up while a test holds, below a limit.
-/

namespace SparcEmu.Lib.Scan

/-- `while (p(i)) ++i`, for so many turns at most. -/
def climb (p : Nat → Bool) : Nat → Nat → Nat
  | 0, i => i
  | n + 1, i => if p i then climb p n (i + 1) else i

/-- `while (i < limit && p(i)) ++i`. -/
def scanUp (p : Nat → Bool) (limit i : Nat) : Nat := climb p (limit - i) i

/-- What the loop stops at: the test holds on the way, and fails there unless the limit is
reached. -/
structure Stops (p : Nat → Bool) (limit i r : Nat) : Prop where
  le : i ≤ r
  le_limit : r ≤ max i limit
  holds : ∀ k, i ≤ k → k < r → p k = true
  fails : r < limit → p r = false

variable {p : Nat → Bool} {limit i r r' : Nat}

lemma climb_stops (p : Nat → Bool) (limit : Nat) {n : Nat} :
    ∀ {i : Nat}, i + n = max i limit → Stops p limit i (climb p n i) := by
  induction n with
  | zero =>
    intro i h
    show Stops p limit i i
    exact ⟨Nat.le_refl i, by omega, fun k h₁ h₂ => by omega, fun h' => by omega⟩
  | succ n ih =>
    intro i h
    unfold climb
    split_ifs with hp
    · obtain ⟨hle, hlim, hon, hoff⟩ := ih (i := i + 1) (by omega)
      refine ⟨by omega, by omega, fun k h₁ h₂ => ?_, hoff⟩
      rcases Nat.eq_or_lt_of_le h₁ with rfl | hlt
      · exact hp
      · exact hon k hlt h₂
    · exact ⟨Nat.le_refl i, by omega, fun k h₁ h₂ => by omega, fun _ => by simpa using hp⟩

theorem scanUp_stops (p : Nat → Bool) (limit i : Nat) : Stops p limit i (scanUp p limit i) :=
  climb_stops p limit (by omega)

theorem Stops.unique (h : Stops p limit i r) (h' : Stops p limit i r') : r = r' := by
  have hle := h.le_limit
  have hle' := h'.le_limit
  have hi := h.le
  have hi' := h'.le
  rcases Nat.lt_trichotomy r r' with hlt | heq | hlt
  · have hoff := h.fails (by omega)
    rw [h'.holds r hi hlt] at hoff
    cases hoff
  · exact heq
  · have hoff := h'.fails (by omega)
    rw [h.holds r' hi' hlt] at hoff
    cases hoff

lemma Stops.scanUp_eq (h : Stops p limit i r) : scanUp p limit i = r :=
  (scanUp_stops p limit i).unique h

lemma scanUp_of_le (h : limit ≤ i) : scanUp p limit i = i :=
  Stops.scanUp_eq ⟨Nat.le_refl i, by omega, fun k h₁ h₂ => by omega, fun h' => by omega⟩

end SparcEmu.Lib.Scan
