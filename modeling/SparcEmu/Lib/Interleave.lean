import Mathlib.Tactic.Common

/-!
Threads that take turns: a schedule names the thread of every step. A machine whose threads
work in small steps refines one whose threads work in large steps if every small step is seen
as one large step of the same thread, or not at all.
-/

namespace SparcEmu.Lib.Interleave

variable {κ σ α : Type}

/-- The run of a schedule; `step k s` is what thread `k` does next, if it can do anything. -/
def run (step : κ → σ → Option σ) : List κ → σ → Option σ
  | [], s => some s
  | k :: ks, s => (step k s).bind (run step ks)

/-- Every step of the schedule starts in a state where `P` allows it. -/
def Allowed (step : κ → σ → Option σ) (P : κ → σ → Prop) : List κ → σ → Prop
  | [], _ => True
  | k :: ks, s => P k s ∧ ∀ s', step k s = some s' → Allowed step P ks s'

variable {step : κ → σ → Option σ} {large : κ → α → Option α} {P : κ → σ → Prop}

/-- **Refinement**: if an allowed small step keeps the invariant and is a large step of its
thread or is not seen, then the large steps of a run form a run. -/
theorem refines (Inv : σ → Prop) (abs : σ → α)
    (keep : ∀ k s s', Inv s → P k s → step k s = some s' → Inv s')
    (seen : ∀ k s s', Inv s → P k s → step k s = some s' →
      abs s' = abs s ∨ large k (abs s) = some (abs s')) :
    ∀ {ks : List κ} {s s' : σ}, Inv s → Allowed step P ks s → run step ks s = some s' →
      Inv s' ∧ ∃ order, run large order (abs s) = some (abs s') := by
  intro ks
  induction ks with
  | nil =>
    intro s s' hi _ h
    cases h
    exact ⟨hi, [], rfl⟩
  | cons k ks ih =>
    intro s s' hi hp h
    obtain ⟨t, ht, h⟩ := Option.bind_eq_some_iff.mp h
    obtain ⟨hi', order, ho⟩ := ih (keep k s t hi hp.1 ht) (hp.2 t ht) h
    rcases seen k s t hi hp.1 ht with he | he
    · exact ⟨hi', order, by rw [← he]; exact ho⟩
    · exact ⟨hi', k :: order, by show (large k (abs s)).bind _ = _; rw [he]; exact ho⟩

/-- **Invariant and variant**: a run is at most as long as the variant at its start. -/
theorem run_variant (Inv : σ → Prop) (left : σ → Nat)
    (keep : ∀ k s s', Inv s → step k s = some s' → Inv s' ∧ left s' < left s) :
    ∀ {ks : List κ} {s s' : σ}, Inv s → run step ks s = some s' →
      Inv s' ∧ ks.length + left s' ≤ left s := by
  intro ks
  induction ks with
  | nil =>
    intro s s' hi h
    cases h
    exact ⟨hi, Nat.le_of_eq (Nat.zero_add _)⟩
  | cons k ks ih =>
    intro s s' hi h
    obtain ⟨t, ht, h⟩ := Option.bind_eq_some_iff.mp h
    obtain ⟨hi, hlt⟩ := keep k s t hi ht
    obtain ⟨hi, hle⟩ := ih hi h
    exact ⟨hi, by rw [List.length_cons]; omega⟩

end SparcEmu.Lib.Interleave
