import Mathlib.Tactic.Common

/-!
Programs that pass a state along and may throw, as compositions of steps.

A program is an `EStateM`: a throw keeps the state it was thrown in, as a C++ exception does.
`Built B i m Q` says that `m`, started in phase `i`, is put together from steps of the kind
`B` by sequencing; `Q a j` bounds the result `a` and the phase `j` it ends in. How a program
is built is found out once; a property that single steps have and sequencing keeps is then
read off for the whole program.
-/

namespace SparcEmu.Lib.Effect

variable {ε σ ι α β : Type}

/-! ### Running -/

variable {m : EStateM ε σ α} {s s' : σ} {a : α}

lemma bind_ok {f : α → EStateM ε σ β} (h : m s = .ok a s') : (m >>= f) s = f a s' := by
  show EStateM.bind m f s = _
  simp only [EStateM.bind, h]

variable {e : ε}

lemma bind_error {f : α → EStateM ε σ β} (h : m s = .error e s') : (m >>= f) s = .error e s' := by
  show EStateM.bind m f s = _
  simp only [EStateM.bind, h]

@[simp] lemma pure_apply (a : α) (s : σ) : (pure a : EStateM ε σ α) s = .ok a s := rfl

/-- The state a run ends in, whether it returns or throws. -/
def final : EStateM.Result ε σ α → σ
  | .ok _ s => s
  | .error _ s => s

@[simp] lemma final_ok (a : α) (s : σ) : final (.ok a s : EStateM.Result ε σ α) = s := rfl
def Returns : EStateM.Result ε σ α → Prop
  | .ok _ _ => True
  | .error _ _ => False

instance (r : EStateM.Result ε σ α) : Decidable (Returns r) :=
  match r with
  | .ok _ _ => .isTrue trivial
  | .error _ _ => .isFalse id

/-! ### Observations that a program leaves alone -/

/-- However the program ends, `f` of the state is what it was. -/
def Fixes {γ : Type} (f : σ → γ) (m : EStateM ε σ α) : Prop := ∀ s, f (final (m s)) = f s

variable {γ : Type}

lemma Fixes.pure {f : σ → γ} (a : α) : Fixes f (pure a : EStateM ε σ α) := fun _ => rfl

variable {k : α → EStateM ε σ β}

lemma Fixes.bind {f : σ → γ} (hm : Fixes f m) (hk : ∀ a, Fixes f (k a)) : Fixes f (m >>= k) := by
  intro s
  have h := hm s
  rcases e : m s with ⟨a, s'⟩ | ⟨x, s'⟩ <;> rw [e] at h
  · rw [bind_ok e, hk a s']; exact h
  · rw [bind_error e]; exact h

variable {m' : EStateM ε σ α}

lemma Fixes.ite {f : σ → γ} {p : Prop} [Decidable p] (hm : p → Fixes f m) (hm' : ¬ p → Fixes f m') :
    Fixes f (if p then m else m') := by
  split_ifs with h
  · exact hm h
  · exact hm' h

lemma Fixes.ok {f : σ → γ} (hm : Fixes f m) (h : m s = .ok a s') : f s' = f s := by
  have := hm s; rwa [h] at this

lemma Fixes.error {f : σ → γ} (hm : Fixes f m) (h : m s = .error e s') : f s' = f s := by
  have := hm s; rwa [h] at this

/-! ### Results -/

/-- Whatever the program returns has `Q`. -/
def Yields (Q : α → Prop) (m : EStateM ε σ α) : Prop := ∀ s a s', m s = .ok a s' → Q a

lemma Yields.pure {Q : α → Prop} (h : Q a) : Yields Q (pure a : EStateM ε σ α) := by
  rintro _ _ _ ⟨⟩; exact h

lemma Yields.bind {Q : β → Prop} (hk : ∀ a, Yields Q (k a)) : Yields Q (m >>= k) := by
  intro s b s' h
  rcases e : m s with ⟨a, s₁⟩ | ⟨x, s₁⟩
  · rw [bind_ok e] at h; exact hk a s₁ b s' h
  · rw [bind_error e] at h; cases h

lemma bind_ok_iff {b : β} :
    (m >>= k) s = .ok b s' ↔ ∃ a s₁, m s = .ok a s₁ ∧ k a s₁ = .ok b s' := by
  rcases e : m s with ⟨a, s₁⟩ | ⟨x, s₁⟩
  · rw [bind_ok e]
    exact ⟨fun h => ⟨a, s₁, rfl, h⟩, by rintro ⟨_, _, ⟨⟩, h⟩; exact h⟩
  · rw [bind_error e]
    constructor
    · intro h; cases h
    · rintro ⟨_, _, ⟨⟩, _⟩

lemma bind_error_iff :
    (m >>= k) s = .error e s' ↔
      m s = .error e s' ∨ ∃ a t, m s = .ok a t ∧ k a t = .error e s' := by
  cases h : m s with
  | ok a t =>
    rw [bind_ok h]
    simp
  | error e' t =>
    rw [bind_error h]
    simp

lemma returns_iff {r : EStateM.Result ε σ α} : Returns r ↔ ∃ a s, r = .ok a s := by
  cases r with
  | ok a s => exact ⟨fun _ => ⟨a, s, rfl⟩, fun _ => trivial⟩
  | error e s => exact ⟨fun h => h.elim, fun ⟨_, _, h⟩ => by cases h⟩

lemma eq_ok_final {r : EStateM.Result ε σ Unit} (h : Returns r) : r = .ok () (final r) := by
  cases r with
  | ok _ _ => rfl
  | error _ _ => exact h.elim

variable {P : σ → Prop}

lemma exists_ok {r : EStateM.Result ε σ α} (h : Returns r) (hp : P (final r)) :
    ∃ a s, r = .ok a s ∧ P s := by
  cases r with
  | ok a s => exact ⟨a, s, rfl, hp⟩
  | error _ _ => exact h.elim

lemma returns_pure (a : α) (s : σ) : Returns ((pure a : EStateM ε σ α) s) := trivial

lemma returns_bind : Returns ((m >>= k) s) ↔ ∃ a s₁, m s = .ok a s₁ ∧ Returns (k a s₁) := by
  rcases e : m s with ⟨a, s₁⟩ | ⟨x, s₁⟩
  · rw [bind_ok e]
    exact ⟨fun h => ⟨a, s₁, rfl, h⟩, by rintro ⟨_, _, ⟨⟩, h⟩; exact h⟩
  · rw [bind_error e]
    exact ⟨fun h => h.elim, by rintro ⟨_, _, ⟨⟩, _⟩⟩

lemma returns_bind_of (hk : ∀ a t, Returns (k a t)) : Returns ((m >>= k) s) ↔ Returns (m s) := by
  rw [returns_bind, returns_iff]
  exact ⟨fun ⟨a, t, h, _⟩ => ⟨a, t, h⟩, fun ⟨a, t, h⟩ => ⟨a, t, h, hk a t⟩⟩

lemma returns_and {P Q : Prop} (hm : ∀ s, Returns (m s) ↔ P) (hk : ∀ a s, Returns (k a s) ↔ Q)
    (s : σ) : Returns ((m >>= k) s) ↔ P ∧ Q := by
  rw [returns_bind]
  constructor
  · rintro ⟨a, t, ht, hr⟩
    exact ⟨(hm s).mp (returns_iff.mpr ⟨a, t, ht⟩), (hk a t).mp hr⟩
  · rintro ⟨hP, hQ⟩
    obtain ⟨a, t, ht⟩ := returns_iff.mp ((hm s).mpr hP)
    exact ⟨a, t, ht, (hk a t).mpr hQ⟩

lemma final_map (m : EStateM ε σ α) (f : α → β) (s : σ) :
    final ((m >>= fun a => pure (f a)) s) = final (m s) := by
  rcases h : m s with ⟨a, s'⟩ | ⟨x, s'⟩
  · rw [bind_ok h]; rfl
  · rw [bind_error h]; rfl

/-! ### Repetition -/

/-- The program run `n` times over; a throw ends it. -/
def times (m : EStateM ε σ Unit) : Nat → EStateM ε σ Unit
  | 0 => pure ()
  | n + 1 => do
    m
    times m n

lemma times_succ {m : EStateM ε σ Unit} {n : Nat} (h : m s = .ok () s') :
    times m (n + 1) s = times m n s' := bind_ok h

lemma times_error {m : EStateM ε σ Unit} {n : Nat} (h : m s = .error e s') :
    times m (n + 1) s = .error e s' := bind_error h

lemma times_add {m : EStateM ε σ Unit} {k : Nat} : ∀ {s s' : σ} {n : Nat},
    times m k s = .ok () s' → times m (k + n) s = times m n s' := by
  induction k with
  | zero =>
    intro s s' n h
    cases h
    rw [Nat.zero_add]
  | succ k ih =>
    intro s s' n h
    obtain ⟨_, s₁, h₁, h⟩ := bind_ok_iff.mp h
    rw [Nat.succ_add, times_succ h₁]
    exact ih h

/-! ### Pre- and postconditions -/

/-- From a state with `P` the program returns with `Q` or throws with `R`. -/
def Hoare (P : σ → Prop) (m : EStateM ε σ α) (Q : α → σ → Prop) (R : ε → σ → Prop) : Prop :=
  ∀ s, P s → match m s with
    | .ok a s' => Q a s'
    | .error e s' => R e s'

variable {Q : α → σ → Prop} {R : ε → σ → Prop}

lemma Hoare.pure (h : ∀ s, P s → Q a s) : Hoare P (pure a) Q R := h

lemma Hoare.bind {Q' : β → σ → Prop} (hm : Hoare P m Q R) (hk : ∀ a, Hoare (Q a) (k a) Q' R) :
    Hoare P (m >>= k) Q' R := by
  intro s hs
  have h := hm s hs
  rcases e : m s with ⟨a, s'⟩ | ⟨x, s'⟩ <;> rw [e] at h
  · rw [bind_ok e]; exact hk a s' h
  · rw [bind_error e]; exact h

lemma Hoare.conseq {P' : σ → Prop} {Q' : α → σ → Prop} {R' : ε → σ → Prop} (h : Hoare P m Q R)
    (hP : ∀ s, P' s → P s) (hQ : ∀ a s, Q a s → Q' a s) (hR : ∀ e s, R e s → R' e s) :
    Hoare P' m Q' R' := by
  intro s hs
  have h1 := h s (hP s hs)
  rcases e : m s with ⟨a, s'⟩ | ⟨x, s'⟩ <;> rw [e] at h1
  · exact hQ a s' h1
  · exact hR x s' h1

variable {c : Prop}

lemma Hoare.ite [Decidable c] (h : c → Hoare P m Q R) (h' : ¬c → Hoare P m' Q R) :
    Hoare P (if c then m else m') Q R := by
  split_ifs with hc
  · exact h hc
  · exact h' hc

lemma Hoare.ok (h : Hoare P m Q R) (hs : P s) (e : m s = .ok a s') : Q a s' := by
  have := h s hs; rwa [e] at this

lemma Hoare.error (h : Hoare P m Q R) {x : ε} (hs : P s) (e : m s = .error x s') : R x s' := by
  have := h s hs; rwa [e] at this

/-! ### Invariants -/

/-- A program that starts with `P` has it again when it returns. -/
def Preserves (P : σ → Prop) (m : EStateM ε σ α) : Prop := ∀ s, P s → ∀ a s', m s = .ok a s' → P s'

lemma Preserves.pure (a : α) : Preserves P (pure a : EStateM ε σ α) := by
  rintro s h _ _ ⟨⟩; exact h

lemma Preserves.bind (hm : Preserves P m) (hk : ∀ a, Preserves P (k a)) :
    Preserves P (m >>= k) := by
  intro s hs b s' h
  obtain ⟨a, s₁, h1, h2⟩ := bind_ok_iff.1 h
  exact hk a s₁ (hm s hs a s₁ h1) b s' h2

lemma Preserves.ite [Decidable c] (h : c → Preserves P m) (h' : ¬c → Preserves P m') :
    Preserves P (if c then m else m') := by
  split_ifs with hc
  · exact h hc
  · exact h' hc

/-- A program that starts with `P` has it again, however it ends. -/
def Keeps (P : σ → Prop) (m : EStateM ε σ α) : Prop := ∀ s, P s → P (final (m s))

lemma Keeps.pure (a : α) : Keeps P (pure a : EStateM ε σ α) := fun _ h => h

lemma Keeps.bind (hm : Keeps P m) (hk : ∀ a, Keeps P (k a)) : Keeps P (m >>= k) := by
  intro s hs
  have h := hm s hs
  rcases e : m s with ⟨a, s'⟩ | ⟨x, s'⟩ <;> rw [e] at h
  · rw [bind_ok e]
    exact hk a s' h
  · rw [bind_error e]
    exact h

lemma Keeps.ite [Decidable c] (h : c → Keeps P m) (h' : ¬c → Keeps P m') :
    Keeps P (if c then m else m') := by
  split_ifs with hc
  · exact h hc
  · exact h' hc

/-! ### Programs as compositions of steps -/

/-- A kind of steps: from which phase a step may start, and what its result and end phase are. -/
abbrev Kind (ε σ ι : Type) := ∀ α : Type, ι → EStateM ε σ α → (α → ι → Prop) → Prop

inductive Built (B : Kind ε σ ι) : Kind ε σ ι
  | step {α : Type} {i : ι} {m : EStateM ε σ α} {Q : α → ι → Prop} :
      B α i m Q → Built B α i m Q
  | pure {α : Type} {i : ι} {a : α} {Q : α → ι → Prop} :
      Q a i → Built B α i (pure a) Q
  | bind {α β : Type} {i : ι} {m : EStateM ε σ α} {f : α → EStateM ε σ β}
      {Q : α → ι → Prop} {R : β → ι → Prop} :
      Built B α i m Q → (∀ a j, Q a j → Built B β j (f a) R) → Built B β i (m >>= f) R
  | mono {α : Type} {i : ι} {m : EStateM ε σ α} {Q R : α → ι → Prop} :
      Built B α i m Q → (∀ a j, Q a j → R a j) → Built B α i m R

/-- A property of programs that sequencing keeps. -/
structure Closed (P : Kind ε σ ι) : Prop where
  pure : ∀ {α : Type} {i : ι} {a : α} {Q : α → ι → Prop}, Q a i → P α i (pure a) Q
  bind : ∀ {α β : Type} {i : ι} {m : EStateM ε σ α} {f : α → EStateM ε σ β}
    {Q : α → ι → Prop} {R : β → ι → Prop},
    P α i m Q → (∀ a j, Q a j → P β j (f a) R) → P β i (m >>= f) R
  mono : ∀ {α : Type} {i : ι} {m : EStateM ε σ α} {Q R : α → ι → Prop},
    P α i m Q → (∀ a j, Q a j → R a j) → P α i m R

/-- **Composition**: what every step has and sequencing keeps, the whole program has. -/
theorem Built.elim {B P : Kind ε σ ι} (hP : Closed P)
    (hB : ∀ {α : Type} {i : ι} {m : EStateM ε σ α} {Q : α → ι → Prop}, B α i m Q → P α i m Q)
    {i : ι} {Q : α → ι → Prop} (h : Built B α i m Q) : P α i m Q := by
  induction h with
  | step hs => exact hB hs
  | pure hq => exact hP.pure hq
  | bind _ _ ihm ihf => exact hP.bind ihm ihf
  | mono _ hqr ih => exact hP.mono ih hqr

/-! ### One run -/

/-- Started in a state of phase `i`, the program returns in a state of a phase its result
allows, or throws in a state that `Err` allows. -/
def Spec (Inv : ι → σ → Prop) (Err : ε → σ → Prop) : Kind ε σ ι := fun _ i m Q =>
  Hoare (Inv i) m (fun a s => ∃ j, Q a j ∧ Inv j s) Err

lemma spec_closed (Inv : ι → σ → Prop) (Err : ε → σ → Prop) : Closed (Spec Inv Err) where
  pure hq := Hoare.pure fun _ hs => ⟨_, hq, hs⟩
  bind hm hf := Hoare.bind hm fun a s ⟨j, hq, hj⟩ => hf a j hq s hj
  mono hm hqr := hm.conseq (fun _ hs => hs) (fun _ _ ⟨j, hq, hj⟩ => ⟨j, hqr _ _ hq, hj⟩)
    fun _ _ h => h

/-! ### Two runs side by side -/

/-- Two runs started in related states return the same result in related states, or throw
the same error. -/
def Sim (Inv : ι → σ → σ → Prop) (Err : σ → σ → Prop) : Kind ε σ ι := fun _ i m Q =>
  ∀ s t, Inv i s t →
    (∃ a s' t' j, m s = .ok a s' ∧ m t = .ok a t' ∧ Q a j ∧ Inv j s' t') ∨
    (∃ e s' t', m s = .error e s' ∧ m t = .error e t' ∧ Err s' t')

lemma sim_closed (Inv : ι → σ → σ → Prop) (Err : σ → σ → Prop) :
    Closed (Sim Inv Err : Kind ε σ ι) where
  pure hq := fun s t hst => Or.inl ⟨_, s, t, _, rfl, rfl, hq, hst⟩
  bind hm hf := by
    intro s t hst
    rcases hm s t hst with ⟨a, s', t', j, hs, ht, hq, hj⟩ | ⟨e, s', t', hs, ht, he⟩
    · rw [bind_ok hs, bind_ok ht]; exact hf a j hq s' t' hj
    · rw [bind_error hs, bind_error ht]; exact Or.inr ⟨e, s', t', rfl, rfl, he⟩
  mono hm hqr := by
    intro s t hst
    rcases hm s t hst with ⟨a, s', t', j, hs, ht, hq, hj⟩ | h
    · exact Or.inl ⟨a, s', t', j, hs, ht, hqr _ _ hq, hj⟩
    · exact Or.inr h

end SparcEmu.Lib.Effect
