import SparcEmu.Lib.System
import Mathlib.Logic.Function.Basic

/-!
Power-down of a processor without a debug stop controller: `CPU::enter_powerdown` waits on a condition
variable until `CPU::wakeup` has set a flag.

The processor tests the flag under a mutex and gives the mutex back as it blocks, but `wakeup` neither
stores the flag nor notifies under it. So a call can come between the test and the wait, and then the
processor waits for a notification that is past.
-/

namespace SparcEmu

open Lib.System Lib.Interleave

inductive PowerPhase
  /-- Outside. -/
  | running
  /-- It holds the mutex and has not yet said that it powers down. -/
  | entered
  /-- It is about to test the flag, with the mutex. -/
  | testing
  /-- It has found the flag clear, and is about to give the mutex back and block. -/
  | committed
  /-- In the wait. -/
  | blocked
  /-- Out of the wait, and about to take the mutex again. -/
  | woken
  /-- It has found the flag set, and is about to clear the two flags and to return. -/
  | leaving
  | clearing
  | returning
  deriving DecidableEq, Repr

/-- A processor and the calls of `wakeup`; `notifying` are those that have stored the flag and not yet
notified. -/
structure PowerSys (κ : Type) where
  phase : PowerPhase := .running
  power_mtx : Bool := false
  powerdown_flag : Bool := false
  wakeup_flag : Bool := false
  notifying : κ → Bool := fun _ => false

/-- The steps: the next one of the processor, the end of its wait for no reason, and the two halves of
a call of `wakeup`. -/
inductive PowerEvent (κ : Type)
  | cpu
  | spurious
  | store (w : κ)
  | notify_one (w : κ)

namespace PowerSys

variable {κ : Type} [DecidableEq κ]

/-- The processor. The wait is `while (!pred()) wait(lock)`. -/
def cpu (s : PowerSys κ) : Option (PowerSys κ) :=
  match s.phase with
  | .running => if s.power_mtx then none else some { s with phase := .entered, power_mtx := true }
  | .entered => some { s with phase := .testing, powerdown_flag := true }
  | .testing => some { s with phase := if s.wakeup_flag then .leaving else .committed }
  | .committed => some { s with phase := .blocked, power_mtx := false }
  | .blocked => none
  | .woken => if s.power_mtx then none else some { s with phase := .testing, power_mtx := true }
  | .leaving => some { s with phase := .clearing, powerdown_flag := false }
  | .clearing => some { s with phase := .returning, wakeup_flag := false }
  | .returning => some { s with phase := .running, power_mtx := false }

def wake (s : PowerSys κ) : PowerSys κ :=
  if s.phase = .blocked then { s with phase := .woken } else s

def step (e : PowerEvent κ) (s : PowerSys κ) : Option (PowerSys κ) :=
  match e with
  | .cpu => s.cpu
  | .spurious => if s.phase = .blocked then some s.wake else none
  | .store w =>
    if s.notifying w then none
    else some { s with wakeup_flag := true, notifying := Function.update s.notifying w true }
  | .notify_one w =>
    if s.notifying w then some { s.wake with notifying := Function.update s.notifying w false }
    else none

variable {s t : PowerSys κ}

/-- The processor is blocked with the flag set, and no call is about to notify. -/
def Lost (s : PowerSys κ) : Prop :=
  s.phase = .blocked ∧ s.wakeup_flag = true ∧ ∀ w, s.notifying w = false

/-- The call is the last one to notify, the processor has found the flag clear and not yet blocked, and
the flag is set by now. -/
def TooEarly (w : κ) (s : PowerSys κ) : Prop :=
  s.phase = .committed ∧ s.wakeup_flag = true ∧ ∀ v, v ≠ w → s.notifying v = false

/-- No call notifies too early. -/
def Careful : PowerEvent κ → PowerSys κ → Prop
  | .notify_one w, s => ¬ TooEarly w s
  | _, _ => True

/-- **The invariant**: from the test of the flag to the end of the wait, a set flag has a call that is
about to notify. -/
def Attended (s : PowerSys κ) : Prop :=
  s.phase = .committed ∨ s.phase = .blocked → s.wakeup_flag = true → ∃ w, s.notifying w = true

omit [DecidableEq κ] in
lemma attended_of_phase (hc : s.phase ≠ .committed) (hb : s.phase ≠ .blocked) : Attended s :=
  fun h => absurd h (not_or.mpr ⟨hc, hb⟩)

omit [DecidableEq κ] in
lemma Attended.cpu (hs : Attended s) (h : s.cpu = some t) : Attended t := by
  unfold PowerSys.cpu at h
  cases hp : s.phase <;> simp only [hp] at h
  case testing =>
    cases h
    intro hwait hset
    have hset : s.wakeup_flag = true := hset
    simp only [hset, if_true] at hwait
    rcases hwait with hwait | hwait <;> cases hwait
  case committed =>
    cases h
    exact fun _ => hs (Or.inl hp)
  case blocked => cases h
  case running =>
    split_ifs at h
    cases h
    exact attended_of_phase nofun nofun
  case woken =>
    split_ifs at h
    cases h
    exact attended_of_phase nofun nofun
  all_goals
    cases h
    exact attended_of_phase nofun nofun

theorem Attended.step {e : PowerEvent κ} (hs : Attended s) (hc : Careful e s)
    (h : PowerSys.step e s = some t) : Attended t := by
  unfold PowerSys.step at h
  cases e with
  | cpu => exact hs.cpu h
  | spurious =>
    dsimp only at h
    split_ifs at h with hb
    cases h
    unfold wake
    rw [if_pos hb]
    exact attended_of_phase nofun nofun
  | store w =>
    dsimp only at h
    split_ifs at h
    cases h
    exact fun _ _ => ⟨w, Function.update_self ..⟩
  | notify_one w =>
    dsimp only at h
    split_ifs at h with hw
    cases h
    by_cases hb : s.phase = .blocked
    · unfold wake
      rw [if_pos hb]
      exact attended_of_phase nofun nofun
    · unfold wake
      rw [if_neg hb]
      rintro (hp | hp) hset
      · -- the call is not the last one
        obtain ⟨v, hv⟩ := not_forall.mp fun h => hc ⟨hp, hset, h⟩
        obtain ⟨hv, hn⟩ := Classical.not_imp.mp hv
        refine ⟨v, ?_⟩
        show Function.update s.notifying w false v = true
        rw [Function.update_of_ne hv]
        exact Bool.not_eq_false _ ▸ hn
      · exact absurd hp hb

variable (κ) in
/-- **Wakeups**: in a run where no call notifies too early, the processor is never blocked with the
flag set and no call about to notify; and from a state where a call does notify too early, the
processor blocks in its next step and is. -/
theorem no_lost_wakeup_iff :
    (∀ s : PowerSys κ, Reach step Careful {} s → ¬ Lost s) ∧
    ∀ (s : PowerSys κ) (w : κ), s.notifying w = true → TooEarly w s →
      ∃ t u, step (.notify_one w) s = some t ∧ step .cpu t = some u ∧ Lost u := by
  refine ⟨fun s hs hlost => ?_, fun s w hw hearly => ?_⟩
  · have hinv : Attended s :=
      hs.inv (attended_of_phase nofun nofun) fun e s t hi hc ht => hi.step hc ht
    obtain ⟨hb, hset, hnone⟩ := hlost
    obtain ⟨w, hw⟩ := hinv (Or.inr hb) hset
    exact absurd ((hnone w).symm.trans hw) Bool.false_ne_true
  · obtain ⟨hp, hset, hothers⟩ := hearly
    have hwake : s.wake = s := if_neg (by rw [hp]; decide)
    refine ⟨{ s with notifying := Function.update s.notifying w false },
      { s with
        phase := .blocked
        power_mtx := false
        notifying := Function.update s.notifying w false }, ?_, ?_, ?_⟩
    · unfold step
      dsimp only
      rw [if_pos hw, hwake]
    · unfold step cpu
      dsimp only
      rw [hp]
    · refine ⟨rfl, hset, fun v => ?_⟩
      show Function.update s.notifying w false v = false
      by_cases hv : v = w
      · rw [hv, Function.update_self]
      · rw [Function.update_of_ne hv]
        exact hothers v hv

/-- A call that comes while the processor is outside: it finds the flag and does not wait. -/
theorem no_lost_wakeup_before : ∃ s : PowerSys Unit, Reach step Careful {} s ∧ s.phase = .leaving ∧
    s.wakeup_flag = true ∧ ¬ Lost s := by
  obtain ⟨s, hs⟩ : ∃ s : PowerSys Unit,
      run step [.store (), .notify_one (), .cpu, .cpu, .cpu] {} = some s := ⟨_, rfl⟩
  have hr : Reach step Careful {} s := by
    refine reach_of_run (l := [.store (), .notify_one (), .cpu, .cpu, .cpu]) .start ?_ hs
    refine ⟨trivial, fun s₁ h₁ => ⟨?_, fun _ _ => ⟨trivial, fun _ _ => ⟨trivial, fun _ _ =>
      ⟨trivial, fun _ _ => trivial⟩⟩⟩⟩⟩
    cases h₁
    rintro ⟨hp, -⟩
    cases hp
  have hno := (no_lost_wakeup_iff Unit).1 s hr
  cases hs
  exact ⟨_, hr, rfl, rfl, hno⟩

/-- A whole call between the test and the wait: the processor blocks with the flag set, and nobody is
left to wake it. -/
theorem wakeup_lost : ∃ s : PowerSys Unit, Reach step (fun _ _ => True) {} s ∧ Lost s := by
  refine ⟨_, reach_run (l := [.cpu, .cpu, .cpu, .store (), .notify_one (), .cpu]) rfl, rfl, rfl, ?_⟩
  intro w
  cases w
  rfl

end PowerSys

end SparcEmu
