import SparcEmu.Lib.Effect

/-!
Programs that do not notice a change of the state: made before the program or after it, the change
leads to the same end.
-/

namespace SparcEmu.Lib.Oblivious

open Lib.Effect

variable {ε σ α β : Type} {e : σ → σ}

/-- The change made to the state a program has ended in. -/
def after (e : σ → σ) : EStateM.Result ε σ α → EStateM.Result ε σ α
  | .ok a s => .ok a (e s)
  | .error x s => .error x (e s)

def Blind (e : σ → σ) (m : EStateM ε σ α) : Prop := ∀ s, m (e s) = after e (m s)

lemma Blind.pure (a : α) : Blind e (pure a : EStateM ε σ α) := fun _ => rfl

lemma Blind.bind {m : EStateM ε σ α} {k : α → EStateM ε σ β} (hm : Blind e m)
    (hk : ∀ a, Blind e (k a)) : Blind e (m >>= k) := by
  intro s
  have hs := hm s
  cases h : m s with
  | ok a t =>
    rw [h] at hs
    rw [bind_ok h, bind_ok hs]
    exact hk a t
  | error x t =>
    rw [h] at hs
    rw [bind_error h, bind_error hs]
    rfl

lemma Blind.ite {c : Prop} [Decidable c] {m m' : EStateM ε σ α} (h : Blind e m)
    (h' : Blind e m') : Blind e (if c then m else m') := by
  split_ifs
  · exact h
  · exact h'

/-- A program may read what changes if it goes on in the same way with either value. -/
lemma Blind.read {f : σ → α} {k : α → EStateM ε σ β} (hf : ∀ s, k (f (e s)) = k (f s))
    (hk : ∀ a, Blind e (k a)) : Blind e (fun s => k (f s) s) := by
  intro s
  show k (f (e s)) (e s) = after e (k (f s) s)
  rw [hf]
  exact hk _ s

end SparcEmu.Lib.Oblivious
