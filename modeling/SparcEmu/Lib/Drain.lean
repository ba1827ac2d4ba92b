import SparcEmu.Lib.Effect

/-!
Blocks of data that a machine works off chunk by chunk. What comes out in all is the blocks in
order, whatever the size of the chunks.
-/

namespace SparcEmu.Lib.Drain

open Lib.Effect

variable {α : Type} {f n : Nat} {q : List (List α)}

/-- The next chunk: of the first block, at most `f`. -/
def chunk (f : Nat) : List (List α) → List α
  | [] => []
  | b :: _ => b.take f

def rest (f : Nat) : List (List α) → List (List α)
  | [] => []
  | b :: bs => if b.length ≤ f then bs else b.drop f :: bs

/-- A bound on the number of chunks. -/
def weight : List (List α) → Nat
  | [] => 0
  | b :: bs => b.length + 1 + weight bs

lemma chunk_append_rest (f : Nat) (q : List (List α)) :
    chunk f q ++ (rest f q).flatten = q.flatten := by
  cases q with
  | nil => rfl
  | cons b bs =>
    simp only [chunk, rest]
    split_ifs with h
    · rw [List.take_of_length_le h, List.flatten_cons]
    · rw [List.flatten_cons, List.flatten_cons, ← List.append_assoc, List.take_append_drop]

lemma weight_rest (hf : 0 < f) : weight (rest f q) ≤ weight q - 1 := by
  cases q with
  | nil => exact Nat.le_refl 0
  | cons b bs =>
    simp only [rest]
    split_ifs with h
    · simp only [weight]
      omega
    · simp only [weight, List.length_drop]
      omega

variable {ε σ : Type} {m : EStateM ε σ Unit} {R : σ → List (List α) → Prop} {o : σ → List α}

/-- **Draining**: a machine whose every step puts out the next chunk has put out the blocks after
enough steps, and puts out no more. -/
theorem drained (hf : 0 < f)
    (step : ∀ s q, R s q → ∃ s', m s = .ok () s' ∧ R s' (rest f q) ∧ o s' = o s ++ chunk f q) :
    ∀ {n : Nat} {q : List (List α)} {s : σ}, R s q → weight q ≤ n →
      ∃ s', times m n s = .ok () s' ∧ R s' [] ∧ o s' = o s ++ q.flatten := by
  intro n
  induction n with
  | zero =>
    intro q s hR hw
    cases q with
    | nil => exact ⟨s, rfl, hR, (List.append_nil _).symm⟩
    | cons b bs =>
      simp only [weight] at hw
      omega
  | succ n ih =>
    intro q s hR hw
    obtain ⟨s₁, h₁, hR₁, ho₁⟩ := step s q hR
    have hw₁ : weight (rest f q) ≤ n := by
      have := weight_rest (q := q) hf
      omega
    obtain ⟨s₂, h₂, hR₂, ho₂⟩ := ih hR₁ hw₁
    refine ⟨s₂, (times_succ h₁).trans h₂, hR₂, ?_⟩
    rw [ho₂, ho₁, List.append_assoc, chunk_append_rest]

end SparcEmu.Lib.Drain
