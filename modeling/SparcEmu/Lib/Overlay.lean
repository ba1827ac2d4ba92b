import Mathlib.Tactic.Common

/-!
Partial functions laid over a total one: what a sequence of copies leaves in memory.
-/

namespace SparcEmu.Lib.Overlay

variable {ι β : Type}

/-! ### Pieces -/

/-- `g` with the values of `p` where it has some. -/
def cover (g : ι → β) (p : ι → Option β) : ι → β := fun x => (p x).getD (g x)

variable {p : ι → Option β} {x : ι}

lemma cover_some {g : ι → β} {b : β} (h : p x = some b) : cover g p x = b := by
  unfold cover
  rw [h]
  rfl

lemma cover_none {g : ι → β} (h : p x = none) : cover g p x = g x := by
  unfold cover
  rw [h]
  rfl

/-- The pieces, one after the other. -/
def paint (g : ι → β) (ps : List (ι → Option β)) : ι → β := ps.foldl cover g

variable {g : ι → β} {ps : List (ι → Option β)} {b : β}

lemma paint_none (h : ∀ p ∈ ps, p x = none) : paint g ps x = g x := by
  induction ps generalizing g with
  | nil => rfl
  | cons p ps ih =>
    exact (ih fun q hq => h q (by simp [hq])).trans (cover_none (h p (by simp)))

/-- What is seen was there before or is in some piece. -/
lemma paint_some (h : paint g ps x = b) : g x = b ∨ ∃ p ∈ ps, p x = some b := by
  induction ps generalizing g with
  | nil => exact Or.inl h
  | cons p ps ih =>
    obtain hg | ⟨q, hq, hx⟩ := ih h
    · cases hp : p x with
      | none => exact Or.inl ((cover_none hp).symm.trans hg)
      | some c => exact Or.inr ⟨p, by simp, hp.trans (congrArg some ((cover_some hp).symm.trans hg))⟩
    · exact Or.inr ⟨q, by simp [hq], hx⟩

/-- **Pieces that do not overlap** are all seen. -/
lemma paint_of_mem (hd : ps.Pairwise fun p q => ∀ x, p x = none ∨ q x = none) (hp : p ∈ ps)
    (hx : p x = some b) : paint g ps x = b := by
  induction ps generalizing g with
  | nil => simp at hp
  | cons q ps ih =>
    obtain ⟨hq, hd⟩ := List.pairwise_cons.mp hd
    rcases List.mem_cons.mp hp with rfl | hp
    · have hrest : ∀ r ∈ ps, r x = none := fun r hr => (hq r hr x).resolve_left (by rw [hx]; simp)
      exact (paint_none hrest).trans (cover_some hx)
    · exact ih hd hp

/-! ### Lists as pieces -/

/-- The elements of a list at `a`, `a + 1` and so on. -/
def strip (a : Int) (xs : List β) : Int → Option β := fun o =>
  if a ≤ o then xs[(o - a).toNat]? else none

variable {a o : Int} {xs ys : List β}

lemma strip_inside (t : Nat) : strip a xs (a + t) = xs[t]? := by
  have ht : (a + t - a).toNat = t := by omega
  unfold strip
  rw [if_pos (by omega), ht]

lemma strip_outside (h : o < a ∨ a + xs.length ≤ o) : strip a xs o = none := by
  unfold strip
  split_ifs with ha
  · exact List.getElem?_eq_none (by omega)
  · rfl

lemma inside_or_outside (a o : Int) (n : Nat) :
    (o < a ∨ a + n ≤ o) ∨ ∃ t : Nat, t < n ∧ o = a + t := by
  by_cases h : o < a ∨ a + n ≤ o
  · exact Or.inl h
  · exact Or.inr ⟨(o - a).toNat, by omega, by omega⟩

lemma strip_append (a o : Int) (xs ys : List β) :
    (strip (a + xs.length) ys o).or (strip a xs o) = strip a (xs ++ ys) o := by
  rcases inside_or_outside a o (xs ++ ys).length with h | ⟨t, ht, rfl⟩
  · have hlen : ((xs ++ ys).length : Int) = xs.length + ys.length := by simp
    rw [strip_outside h, strip_outside, strip_outside]
    · rfl
    · omega
    · omega
  · rw [strip_inside, strip_inside]
    by_cases hx : t < xs.length
    · rw [strip_outside (Or.inl (by omega)), List.getElem?_append_left hx]
      rfl
    · have hat : a + (t : Int) = a + xs.length + (t - xs.length : Nat) := by omega
      rw [hat, strip_inside, List.getElem?_append_right (Nat.le_of_not_lt hx)]
      have hxs : xs[t]? = none := List.getElem?_eq_none (Nat.le_of_not_lt hx)
      rw [hxs, Option.or_none]

end SparcEmu.Lib.Overlay
