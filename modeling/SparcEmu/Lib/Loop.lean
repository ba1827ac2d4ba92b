import Mathlib.Tactic.Common

/-!
Loops with a condition, and the rule of an invariant with a variant: the loop ends, in a state with
the invariant.
-/

namespace SparcEmu.Lib.Loop

variable {σ : Type}

/-- `while (c) body`, given up after so many turns. -/
def loop (c : σ → Bool) (body : σ → σ) : Nat → σ → Option σ
  | 0, s => if c s then none else some s
  | n + 1, s => if c s then loop c body n (body s) else some s

variable {c : σ → Bool} {body : σ → σ} {n : Nat} {s : σ}

lemma loop_done (hc : c s = false) : loop c body n s = some s := by
  cases n <;> simp [loop, hc]

lemma loop_turn (hc : c s = true) : loop c body (n + 1) s = loop c body n (body s) := by
  simp [loop, hc]

/-- **Total correctness**: if every turn keeps the invariant and lowers the variant, the loop ends in
one state, whatever more turns it is given. -/
theorem loop_ends (Inv : σ → Prop) (μ : σ → Nat)
    (turn : ∀ s, Inv s → c s = true → Inv (body s) ∧ μ (body s) < μ s) (hs : Inv s) :
    ∃ s', Inv s' ∧ c s' = false ∧ ∀ n ≥ μ s, loop c body n s = some s' := by
  induction hm : μ s using Nat.strongRecOn generalizing s with
  | ind m ih =>
    subst hm
    cases hc : c s with
    | false => exact ⟨s, hs, hc, fun n _ => loop_done hc⟩
    | true =>
      obtain ⟨hinv, hlt⟩ := turn s hs hc
      obtain ⟨s', hs', hc', hend⟩ := ih _ hlt hinv rfl
      refine ⟨s', hs', hc', fun n hn => ?_⟩
      obtain ⟨k, rfl⟩ : ∃ k, n = k + 1 := ⟨n - 1, by omega⟩
      rw [loop_turn hc]
      exact hend k (by omega)

end SparcEmu.Lib.Loop
