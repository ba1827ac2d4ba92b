import SparcEmu.Lib.Interleave

/-!
The states that a system reaches by steps that are enabled and that a side condition allows.
-/

namespace SparcEmu.Lib.System

open Lib.Interleave

variable {κ σ : Type} {step : κ → σ → Option σ} {C C' : κ → σ → Prop} {s₀ s t : σ}

/-- Reachable from `s₀` by steps that meet the condition `C` in the state they start in. -/
inductive Reach (step : κ → σ → Option σ) (C : κ → σ → Prop) (s₀ : σ) : σ → Prop
  | start : Reach step C s₀ s₀
  | tail {k : κ} {s t : σ} : Reach step C s₀ s → C k s → step k s = some t → Reach step C s₀ t

/-- **Invariants**: what holds at the start and survives every allowed step holds throughout. -/
theorem Reach.inv {I : σ → Prop} (h : Reach step C s₀ s) (h₀ : I s₀)
    (keep : ∀ k s t, I s → C k s → step k s = some t → I t) : I s := by
  induction h with
  | start => exact h₀
  | tail _ hC hs ih => exact keep _ _ _ ih hC hs

theorem Reach.trans (h : Reach step C s₀ s) (h' : Reach step C s t) : Reach step C s₀ t := by
  induction h' with
  | start => exact h
  | tail _ hC hs ih => exact ih.tail hC hs

theorem reach_of_run {l : List κ} : ∀ {s : σ}, Reach step C s₀ s → Allowed step C l s →
    run step l s = some t → Reach step C s₀ t := by
  induction l with
  | nil =>
    intro s hs _ h
    cases h
    exact hs
  | cons k l ih =>
    intro s hs ha h
    obtain ⟨u, hu, h⟩ := Option.bind_eq_some_iff.mp h
    exact ih (hs.tail ha.1 hu) (ha.2 u hu) h

theorem reach_run {l : List κ} (h : run step l s₀ = some t) :
    Reach step (fun _ _ => True) s₀ t := by
  refine reach_of_run .start ?_ h
  clear h
  induction l generalizing s₀ with
  | nil => trivial
  | cons k l ih => exact ⟨trivial, fun _ _ => ih⟩

end SparcEmu.Lib.System
