import Mathlib.Tactic.Common

/-!
Places of a store that are overwritten for a while, with what they held kept in a list.

`put a s v` overwrites place `a`. What the list is good for is that putting everything back gives the
store as it was; as long as the places do not touch each other, the order does not matter.
-/

namespace SparcEmu.Lib.Patch

variable {κ σ ω γ : Type} {put : κ → σ → ω → σ}

/-- Overwriting one place and another can be done in either order. -/
def Commute (put : κ → σ → ω → σ) (a b : κ) : Prop :=
  ∀ s v w, put a (put b s w) v = put b (put a s v) w

variable {a : κ}

lemma Commute.symm {b : κ} (h : Commute put a b) : Commute put b a := fun s v w => (h s w v).symm

/-- Everything on the list put back. -/
def restore (put : κ → σ → ω → σ) (l : List (κ × ω)) (s : σ) : σ :=
  l.foldl (fun s x => put x.1 s x.2) s

@[simp] lemma restore_cons (x : κ × ω) (l : List (κ × ω)) (s : σ) :
    restore put (x :: l) s = restore put l (put x.1 s x.2) := rfl

@[simp] lemma restore_append (l l' : List (κ × ω)) (s : σ) :
    restore put (l ++ l') s = restore put l' (restore put l s) := List.foldl_append

variable {l : List (κ × ω)}

lemma restore_put (h : ∀ x ∈ l, Commute put a x.1) (s : σ) (v : ω) :
    restore put l (put a s v) = put a (restore put l s) v := by
  induction l generalizing s with
  | nil => rfl
  | cons x l ih =>
    rw [restore_cons, restore_cons, ← h x (by simp), ih fun y hy => h y (by simp [hy])]

lemma restore_congr {put' : κ → σ → ω → σ} (h : ∀ x ∈ l, put x.1 = put' x.1) (s : σ) :
    restore put l s = restore put' l s := by
  induction l generalizing s with
  | nil => rfl
  | cons x l ih =>
    rw [restore_cons, restore_cons, h x (by simp), ih fun y hy => h y (by simp [hy])]

lemma restore_view {f : σ → γ} (h : ∀ x ∈ l, ∀ s v, f (put x.1 s v) = f s) (s : σ) :
    f (restore put l s) = f s := by
  induction l generalizing s with
  | nil => rfl
  | cons x l ih => rw [restore_cons, ih fun y hy => h y (by simp [hy]), h x (by simp)]

theorem restore_push (h : ∀ x ∈ l, Commute put a x.1) {s s₀ : σ} (hs : restore put l s = s₀)
    {v w : ω} (hw : put a (put a s₀ v) w = s₀) : restore put (l ++ [(a, w)]) (put a s v) = s₀ := by
  rw [restore_append, restore_put h, hs]
  exact hw

theorem restore_drop {w : ω} {l' : List (κ × ω)} (h : ∀ x ∈ l, Commute put a x.1) {s s₀ : σ}
    (hs : restore put (l ++ (a, w) :: l') s = s₀) : restore put (l ++ l') (put a s w) = s₀ := by
  rw [restore_append, restore_cons] at hs
  rw [restore_append, restore_put h]
  exact hs

end SparcEmu.Lib.Patch
