import SparcEmu.Lib.Effect

/-!
Programs that keep a record of what they use, for instance of the indices into an array. The
record is written only by `touch`; forgetting it gives back the program without it.
-/

namespace SparcEmu.Lib.Trace

open Effect

variable {ε σ ι α β : Type}

structure Traced (σ ι : Type) where
  st : σ
  used : List ι

abbrev TraceM (ε σ ι : Type) := EStateM ε (Traced σ ι)

/-- A program that uses nothing that is recorded. -/
def lift (m : EStateM ε σ α) : TraceM ε σ ι α := fun x =>
  match m x.st with
  | .ok a s => .ok a { x with st := s }
  | .error e s => .error e { x with st := s }

def touch (i : ι) : TraceM ε σ ι Unit := fun x => .ok () { x with used := x.used ++ [i] }

def forget : EStateM.Result ε (Traced σ ι) α → EStateM.Result ε σ α
  | .ok a x => .ok a x.st
  | .error e x => .error e x.st

/-! ### Without the record -/

/-- `t` is `m` with a record. -/
def Erases (t : TraceM ε σ ι α) (m : EStateM ε σ α) : Prop := ∀ x, forget (t x) = m x.st

lemma erases_lift (m : EStateM ε σ α) : Erases (ι := ι) (lift m) m := by
  intro x
  unfold lift
  rcases m x.st with ⟨a, s⟩ | ⟨e, s⟩ <;> rfl

variable {t : TraceM ε σ ι α} {k : α → TraceM ε σ ι β}

lemma Erases.bind {m : EStateM ε σ α} {n : α → EStateM ε σ β} (h : Erases t m)
    (hk : ∀ a, Erases (k a) (n a)) : Erases (t >>= k) (m >>= n) := by
  intro x
  have hx := h x
  rcases ht : t x with ⟨a, y⟩ | ⟨e, y⟩
  · rw [ht] at hx
    rw [bind_ok ht, bind_ok hx.symm]
    exact hk a y
  · rw [ht] at hx
    rw [bind_error ht, bind_error hx.symm]
    rfl

variable {i : ι}

lemma erases_touch {k : Unit → TraceM ε σ ι β} {n : EStateM ε σ β} (h : Erases (k ()) n) :
    Erases (touch i >>= k) n :=
  fun x => h { x with used := x.used ++ [i] }

lemma Erases.ite {c : Prop} [Decidable c] {t' : TraceM ε σ ι α} {m m' : EStateM ε σ α}
    (h : Erases t m) (h' : Erases t' m') : Erases (if c then t else t') (if c then m else m') := by
  split_ifs
  · exact h
  · exact h'

/-! ### The record -/

/-- Whatever `t` uses has the property `P`. -/
def Uses (P : ι → Prop) (t : TraceM ε σ ι α) : Prop :=
  ∀ x, (∀ i ∈ x.used, P i) → ∀ i ∈ (final (t x)).used, P i

/-- `t` only adds to the record. -/
def Grows (t : TraceM ε σ ι α) : Prop := ∀ x, ∀ i ∈ x.used, i ∈ (final (t x)).used

variable {P : ι → Prop}

lemma used_lift (m : EStateM ε σ α) (x : Traced σ ι) : (final (lift m x)).used = x.used := by
  unfold lift
  rcases m x.st with ⟨a, s⟩ | ⟨e, s⟩ <;> rfl

lemma uses_lift (m : EStateM ε σ α) : Uses P (lift m) := by
  intro x h
  rw [used_lift]
  exact h

lemma grows_lift (m : EStateM ε σ α) : Grows (ι := ι) (lift m) := by
  intro x i h
  rw [used_lift]
  exact h

lemma Uses.bind (h : Uses P t) (hk : ∀ a, Uses P (k a)) : Uses P (t >>= k) := by
  intro x hx
  have h' := h x hx
  rcases ht : t x with ⟨a, y⟩ | ⟨e, y⟩
  · rw [ht] at h'
    rw [bind_ok ht]
    exact hk a y h'
  · rw [ht] at h'
    rw [bind_error ht]
    exact h'

lemma Grows.bind (h : Grows t) (hk : ∀ a, Grows (k a)) : Grows (t >>= k) := by
  intro x i hi
  have h' := h x i hi
  rcases ht : t x with ⟨a, y⟩ | ⟨e, y⟩
  · rw [ht] at h'
    rw [bind_ok ht]
    exact hk a y i h'
  · rw [ht] at h'
    rw [bind_error ht]
    exact h'

lemma uses_touch {k : Unit → TraceM ε σ ι β} (hi : P i) (h : Uses P (k ())) :
    Uses P (touch i >>= k) := by
  intro x hx
  refine h { x with used := x.used ++ [i] } fun j hj => ?_
  rcases List.mem_append.mp hj with hj | hj
  · exact hx j hj
  · rw [List.mem_singleton.mp hj]
    exact hi

lemma grows_touch (i : ι) : Grows (touch i : TraceM ε σ ι Unit) :=
  fun _ _ h => List.mem_append_left _ h

lemma mem_touch {k : Unit → TraceM ε σ ι β} (h : Grows (k ())) (x : Traced σ ι) :
    i ∈ (final ((touch i >>= k) x)).used :=
  h { x with used := x.used ++ [i] } i (List.mem_append_right _ (List.mem_singleton.mpr rfl))

end SparcEmu.Lib.Trace
