import Mathlib.Tactic.Common

/-!
Properties along a run: a machine works through a list of operations, each of which may
throw and so end the run.
-/

namespace SparcEmu.Lib.Run

variable {ε σ ω ο : Type}

/-- At every operation of the run, `P` holds of the operation, those still to come, and the
state it starts in. -/
def Along (step : ω → EStateM ε σ ο) (P : ω → List ω → σ → Prop) : List ω → σ → Prop
  | [], _ => True
  | o :: os, s => P o os s ∧ ∀ a s', step o s = .ok a s' → Along step P os s'

variable {step : ω → EStateM ε σ ο}

lemma Along.of_forall {P : ω → List ω → σ → Prop} (h : ∀ o os s, P o os s) :
    ∀ {os : List ω} {s : σ}, Along step P os s
  | [], _ => trivial
  | o :: os, s => ⟨h o os s, fun _ _ _ => Along.of_forall h⟩

/-- **Invariants**: if an invariant lets a legal operation do something good and survives it,
then every legal run that starts with the invariant is good. -/
theorem Along.of_inv {L G : ω → List ω → σ → Prop} (Inv : List ω → σ → Prop)
    (good : ∀ o os s, Inv (o :: os) s → L o os s → G o os s)
    (keep : ∀ o os s a s', Inv (o :: os) s → L o os s → step o s = .ok a s' → Inv os s') :
    ∀ {os : List ω} {s : σ}, Inv os s → Along step L os s → Along step G os s
  | [], _, _, _ => trivial
  | o :: os, s, hi, hl =>
    ⟨good o os s hi hl.1, fun a s' h =>
      Along.of_inv Inv good keep (keep o os s a s' hi hl.1 h) (hl.2 a s' h)⟩

def runAll (step : ω → EStateM ε σ ο) : List ω → EStateM ε σ Unit
  | [] => pure ()
  | o :: os => do
    let _ ← step o
    runAll step os

/-- **The end of a run**: what every legal operation keeps holds at the end of a legal run. -/
theorem Along.at_end {L : ω → List ω → σ → Prop} (Inv : σ → Prop)
    (keep : ∀ o os s a s', Inv s → L o os s → step o s = .ok a s' → Inv s') :
    ∀ {os : List ω} {s s' : σ}, Inv s → Along step L os s → runAll step os s = .ok () s' → Inv s' := by
  intro os
  induction os with
  | nil =>
    rintro s _ hi - ⟨⟩
    exact hi
  | cons o os ih =>
    intro s s' hi hl hr
    have hr' : EStateM.bind (step o) (fun _ => runAll step os) s = .ok () s' := hr
    unfold EStateM.bind at hr'
    cases ho : step o s with
    | error e t =>
      rw [ho] at hr'
      cases hr'
    | ok a t =>
      rw [ho] at hr'
      exact ih (keep o os s a t hi hl.1 ho) (hl.2 a t ho) hr'

end SparcEmu.Lib.Run
