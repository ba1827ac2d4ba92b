import SparcEmu.Defines
import SparcEmu.Lib.Flags
import SparcEmu.Lib.System

/-!
The stop-the-world controller of `DebugStopController.hpp`, its workers, and a debugger. The
critical sections, the test of the state in `checkpoint` and the compare-exchange of
`request_stop` are atomic steps.
-/

namespace SparcEmu

open Lib.Flags Lib.System

inductive StopState | Running | StopRequested | Stopped
  deriving DecidableEq, Repr

inductive StopReason | Breakpoint | SingleStep | CtrlC | Watchpoint | UserRequest | Fatal
  deriving DecidableEq, Repr

/-- The variables of the controller, for `n` registered workers. -/
structure DebugStopController (n : Nat) where
  state : StopState := .Running
  reason : StopReason := .UserRequest
  stop_epoch : u64 := 0
  stopped : Fin n → Bool := fun _ => false
  stopped_count : Nat := 0

namespace DebugStopController

variable {n : Nat}

/-- The compare-exchange of `request_stop`, with the reason stored behind it. -/
def request_stop (reason : StopReason) (s : DebugStopController n) : DebugStopController n :=
  if s.state = .Running then { s with state := .StopRequested, reason := reason }
  else { s with reason := reason }

/-- The critical section of a `request_stop` whose compare-exchange succeeded. -/
def next_epoch (s : DebugStopController n) : DebugStopController n :=
  { s with stop_epoch := s.stop_epoch + 1 }

def resume (s : DebugStopController n) : DebugStopController n :=
  { s with
    stopped := fun _ => false
    stopped_count := 0
    state := .Running
    stop_epoch := s.stop_epoch + 1 }

/-- `checkpoint_slow` up to its wait: a worker that is not counted yet is, and the last one
completes the stop. -/
def checkpoint_slow (w : Fin n) (s : DebugStopController n) : DebugStopController n :=
  if s.stopped w then s
  else
    { s with
      stopped := Function.update s.stopped w true
      stopped_count := s.stopped_count + 1
      state := if s.stopped_count + 1 = n then .Stopped else s.state }

/-- The wake condition of a worker that recorded `my_epoch`. -/
def wakes (my_epoch : u64) (s : DebugStopController n) : Prop :=
  s.state = .Running ∧ s.stop_epoch ≠ my_epoch

instance (my_epoch : u64) (s : DebugStopController n) : Decidable (s.wakes my_epoch) :=
  inferInstanceAs (Decidable (_ ∧ _))

def allStopped (s : DebugStopController n) : Prop := s.state = .Stopped ∧ s.stopped_count = n

lemma request_stop_stops (r : StopReason) (d : DebugStopController n) :
    (d.request_stop r).state ≠ .Running := by
  unfold request_stop
  split_ifs with hr
  · exact fun h => by cases h
  · exact hr

lemma checkpoint_slow_stops (c : Fin n) {d : DebugStopController n} (h : d.state ≠ .Running) :
    (d.checkpoint_slow c).state ≠ .Running := by
  unfold checkpoint_slow
  split_ifs
  · exact h
  · exact fun h => by cases h
  · exact h

end DebugStopController

/-- Where a worker is: outside, past a test of the state that found it not `Running`, or in the
wait of `checkpoint_slow`. -/
inductive WorkerAt
  | outside
  | slow
  | waiting (my_epoch : u64)
  deriving DecidableEq

/-- Workers and a debugger. `publishing`: the debugger's `request_stop` has made its
compare-exchange and not yet entered its critical section. `requested`: a stop has been requested
since the last `resume`. -/
structure StopSys (n : Nat) where
  dsc : DebugStopController n := {}
  worker : Fin n → WorkerAt := fun _ => .outside
  publishing : Bool := false
  requested : Bool := false

/-- The steps. `checkpoint` is the test of the state, `park` the critical section of
`checkpoint_slow` up to its wait, `leave` the end of that wait. -/
inductive StopEvent (n : Nat)
  | checkpoint (w : Fin n)
  | park (w : Fin n)
  | leave (w : Fin n)
  | request_stop (reason : StopReason)
  | publish
  | resume

namespace StopEvent

variable {n : Nat}

def step (e : StopEvent n) (s : StopSys n) : Option (StopSys n) :=
  match e with
  | .checkpoint w =>
    if s.worker w = .outside then
      some { s with
        worker := Function.update s.worker w
          (if s.dsc.state = .Running then .outside else .slow) }
    else none
  | .park w =>
    if s.worker w = .slow then
      some { s with
        dsc := s.dsc.checkpoint_slow w
        worker := Function.update s.worker w (.waiting s.dsc.stop_epoch) }
    else none
  | .leave w =>
    match s.worker w with
    | .waiting my_epoch =>
      if s.dsc.wakes my_epoch then some { s with worker := Function.update s.worker w .outside }
      else none
    | _ => none
  | .request_stop reason =>
    if s.publishing then none
    else
      some { s with
        dsc := s.dsc.request_stop reason
        publishing := decide (s.dsc.state = .Running)
        requested := true }
  | .publish =>
    if s.publishing then some { s with dsc := s.dsc.next_epoch, publishing := false } else none
  | .resume =>
    if s.publishing then none else some { s with dsc := s.dsc.resume, requested := false }

end StopEvent

namespace StopSys

variable {n : Nat} {s : StopSys n}

/-! ### Accounting -/

/-- What relates flags, count, epochs and state. -/
structure Counted (s : StopSys n) : Prop where
  count : s.dsc.stopped_count = (Finset.univ.filter fun w => s.dsc.stopped w = true).card
  inside : ∀ w, s.dsc.stopped w = true → ∃ e, s.worker w = .waiting e
  held : ∀ w e, s.dsc.stopped w = true → s.worker w = .waiting e → ¬ s.dsc.wakes e
  full : s.dsc.stopped_count = n → 0 < n → s.dsc.state = .Stopped
  publishing : s.publishing = true → s.dsc.state ≠ .Running

/-- Every worker in the wait is counted. -/
def NoneLeft (s : StopSys n) : Prop :=
  ∀ w e, s.worker w = .waiting e → s.dsc.stopped w = true

lemma counted_start : (({} : StopSys n)).Counted where
  count := by simp
  inside w h := by cases h
  held w e h := by cases h
  full h h0 := absurd h (Nat.ne_of_lt h0)
  publishing h := by cases h

lemma checkpoint_slow_new {d : DebugStopController n} {w : Fin n} (h : d.stopped w = false) :
    d.checkpoint_slow w =
      { d with
        stopped := Function.update d.stopped w true
        stopped_count := d.stopped_count + 1
        state := if d.stopped_count + 1 = n then .Stopped else d.state } := by
  unfold DebugStopController.checkpoint_slow
  rw [h]
  rfl

lemma waiting_of_update {f : Fin n → WorkerAt} {w v : Fin n} {x : WorkerAt} {e : u64}
    (hx : ∀ e, x ≠ .waiting e) (h : Function.update f w x v = .waiting e) :
    f v = .waiting e := by
  by_cases hvw : v = w
  · subst hvw
    rw [Function.update_self] at h
    exact absurd h (hx e)
  · rwa [Function.update_of_ne hvw] at h

lemma Counted.not_stopped (h : s.Counted) {w : Fin n} (hw : ∀ e, s.worker w ≠ .waiting e) :
    s.dsc.stopped w = false := by
  by_contra hs
  obtain ⟨e, he⟩ := h.inside w (by simpa using hs)
  exact hw e he

lemma Counted.move (h : s.Counted) {w : Fin n} (hw : s.dsc.stopped w = false) (x : WorkerAt) :
    Counted { s with worker := Function.update s.worker w x } where
  count := h.count
  inside v hv := by
    have hvw : v ≠ w := by
      rintro rfl
      rw [show s.dsc.stopped v = true from hv] at hw
      cases hw
    obtain ⟨e, he⟩ := h.inside v hv
    exact ⟨e, by dsimp only; rw [Function.update_of_ne hvw]; exact he⟩
  held v e hv he := by
    have hvw : v ≠ w := by
      rintro rfl
      rw [show s.dsc.stopped v = true from hv] at hw
      cases hw
    dsimp only at he
    rw [Function.update_of_ne hvw] at he
    exact h.held v e hv he
  full := h.full
  publishing := h.publishing

lemma Counted.park (h : s.Counted) {w : Fin n} (hw : s.worker w = .slow) :
    Counted { s with
      dsc := s.dsc.checkpoint_slow w
      worker := Function.update s.worker w (.waiting s.dsc.stop_epoch) } := by
  have hns : s.dsc.stopped w = false := h.not_stopped fun e he => by rw [hw] at he; cases he
  rw [checkpoint_slow_new hns]
  refine ⟨?_, fun v hv => ?_, fun v e hv he hwk => ?_, fun hc _ => if_pos hc, fun hp hr => ?_⟩
  · dsimp only
    rw [card_update hns, h.count]
  · dsimp only at hv ⊢
    by_cases hvw : v = w
    · subst hvw
      exact ⟨_, Function.update_self ..⟩
    · rw [Function.update_of_ne hvw] at hv ⊢
      exact h.inside v hv
  · dsimp only at hv he
    by_cases hvw : v = w
    · subst hvw
      rw [Function.update_self] at he
      cases he
      exact hwk.2 rfl
    · rw [Function.update_of_ne hvw] at hv he
      refine h.held v e hv he ⟨?_, hwk.2⟩
      have hr := hwk.1
      dsimp only at hr
      split_ifs at hr
      exact hr
  · dsimp only at hp hr
    split_ifs at hr
    exact h.publishing hp hr

lemma Counted.request (h : s.Counted) (reason : StopReason) (b : Bool) :
    Counted { s with
      dsc := s.dsc.request_stop reason
      publishing := decide (s.dsc.state = .Running)
      requested := b } := by
  unfold DebugStopController.request_stop
  by_cases hr : s.dsc.state = .Running
  · rw [if_pos hr]
    refine ⟨h.count, h.inside, fun v e _ _ hwk => (by cases hwk.1), fun hc h0 => ?_,
      fun _ hr' => (by cases hr')⟩
    have := h.full hc h0
    rw [hr] at this
    cases this
  · rw [if_neg hr]
    refine ⟨h.count, h.inside, fun v e _ _ hwk => hr hwk.1, h.full, fun hp => ?_⟩
    exact absurd (of_decide_eq_true hp) hr

lemma Counted.step (h : s.Counted) {e : StopEvent n} {t : StopSys n} (hs : e.step s = some t) :
    t.Counted := by
  unfold StopEvent.step at hs
  cases e with
  | checkpoint w =>
    dsimp only at hs
    split_ifs at hs with hw
    · cases hs
      exact h.move (h.not_stopped fun e he => by rw [hw] at he; cases he) _
    · cases hs
      exact h.move (h.not_stopped fun e he => by rw [hw] at he; cases he) _
  | park w =>
    dsimp only at hs
    split_ifs at hs with hw
    cases hs
    exact h.park hw
  | leave w =>
    dsimp only at hs
    split at hs
    · next e he =>
      split_ifs at hs with hwk
      cases hs
      refine h.move (Bool.eq_false_iff.mpr fun hst => ?_) _
      exact h.held w e hst he hwk
    · cases hs
  | request_stop reason =>
    dsimp only at hs
    split_ifs at hs
    cases hs
    exact h.request reason true
  | publish =>
    dsimp only at hs
    split_ifs at hs with hp
    cases hs
    exact ⟨h.count, h.inside, fun v e _ _ hwk => h.publishing hp hwk.1, h.full,
      fun hp' => by cases hp'⟩
  | resume =>
    dsimp only at hs
    split_ifs at hs with hp
    cases hs
    refine ⟨by simp [DebugStopController.resume], fun v hv => (by cases hv),
      fun v e hv => (by cases hv), fun hc h0 => ?_, fun hp' => absurd hp' hp⟩
    exact absurd hc (Nat.ne_of_lt h0)

end StopSys

/-- The steps that strand no worker: a stop is requested only when no worker that the last
`resume` released is still in its wait. -/
def StopEvent.Orderly {n : Nat} (e : StopEvent n) (s : StopSys n) : Prop :=
  match e with
  | .request_stop _ => s.dsc.state = .Running → s.NoneLeft
  | _ => True

namespace StopSys

variable {n : Nat} {s : StopSys n}

lemma Counted.noneLeft_step (h : s.Counted) (hl : s.dsc.state ≠ .Running → s.NoneLeft)
    {e : StopEvent n} {t : StopSys n} (hx : e.Orderly s) (hs : e.step s = some t) :
    t.dsc.state ≠ .Running → t.NoneLeft := by
  unfold StopEvent.step at hs
  cases e with
  | checkpoint w =>
    dsimp only at hs
    split_ifs at hs with hw <;> cases hs
    · exact fun hr => absurd ‹_› hr
    · intro hr v e he
      exact hl hr v e (waiting_of_update (fun e he => by cases he) he)
  | park w =>
    dsimp only at hs
    split_ifs at hs with hw
    cases hs
    have hp := h.park hw
    have hns : s.dsc.stopped w = false := h.not_stopped fun e he => by rw [hw] at he; cases he
    intro hr v e he
    rw [checkpoint_slow_new hns] at hr hp ⊢
    dsimp only at hr he ⊢
    by_cases hc : s.dsc.stopped_count + 1 = n
    · -- the count is full
      exact all_of_card (hp.count.symm.trans hc) v
    · rw [if_neg hc] at hr
      by_cases hvw : v = w
      · subst hvw
        exact Function.update_self ..
      · rw [Function.update_of_ne hvw] at he ⊢
        exact hl hr v e he
  | leave w =>
    dsimp only at hs
    split at hs
    · split_ifs at hs with hwk
      cases hs
      exact fun hr => absurd hwk.1 hr
    · cases hs
  | request_stop reason =>
    dsimp only at hs
    split_ifs at hs
    cases hs
    intro _ v e he
    have hst : (s.dsc.request_stop reason).stopped = s.dsc.stopped := by
      unfold DebugStopController.request_stop
      split_ifs <;> rfl
    show (s.dsc.request_stop reason).stopped v = true
    rw [hst]
    by_cases hr : s.dsc.state = .Running
    · exact hx hr v e he
    · exact hl hr v e he
  | publish =>
    dsimp only at hs
    split_ifs at hs
    cases hs
    exact hl
  | resume =>
    dsimp only at hs
    split_ifs at hs
    cases hs
    exact fun hr => absurd rfl hr

/-- If no call is in progress, the state is not `Running` and all workers are in the wait, then
`wait_until_all_stopped` does not block. -/
def Accounted (s : StopSys n) : Prop :=
  s.publishing = false → s.dsc.state ≠ .Running → (∀ w, ∃ e, s.worker w = .waiting e) →
    s.dsc.allStopped

lemma Counted.accounted (h : s.Counted) (hl : s.dsc.state ≠ .Running → s.NoneLeft) (hn : 0 < n) :
    s.Accounted := by
  intro _ hr hw
  have hall : ∀ w, s.dsc.stopped w = true := fun w => by
    obtain ⟨e, he⟩ := hw w
    exact hl hr w e he
  have hc : s.dsc.stopped_count = n := by
    rw [h.count]
    simp [hall]
  exact ⟨h.full hc hn, hc⟩

/-- Steps that bring workers into the wait and leave alone those that are in it. -/
structure Gathers (s t : StopSys n) : Prop where
  reach : Reach StopEvent.step (fun _ _ => True) s t
  state : t.dsc.state ≠ .Running
  publishing : t.publishing = s.publishing
  kept : ∀ v e, s.worker v = .waiting e → t.worker v = .waiting e
  flag : ∀ v e, s.worker v = .waiting e → t.dsc.stopped v = s.dsc.stopped v

lemma Gathers.trans {t u : StopSys n} (h : s.Gathers t) (h' : t.Gathers u) : s.Gathers u where
  reach := h.reach.trans h'.reach
  state := h'.state
  publishing := h'.publishing.trans h.publishing
  kept v e hv := h'.kept v e (h.kept v e hv)
  flag v e hv := (h'.flag v e (h.kept v e hv)).trans (h.flag v e hv)

lemma gathers_park (hr : s.dsc.state ≠ .Running) {w : Fin n} (hw : s.worker w = .slow) :
    ∃ t, s.Gathers t ∧ ∃ e, t.worker w = .waiting e := by
  have hne : ∀ v e, s.worker v = .waiting e → v ≠ w := by
    rintro v e hv rfl
    rw [hw] at hv
    cases hv
  have hst : ∀ v, v ≠ w → (s.dsc.checkpoint_slow w).stopped v = s.dsc.stopped v := by
    intro v hv
    unfold DebugStopController.checkpoint_slow
    split_ifs
    · rfl
    all_goals exact Function.update_of_ne hv ..
  have hpark : (StopEvent.park w).step s = some { s with
      dsc := s.dsc.checkpoint_slow w
      worker := Function.update s.worker w (.waiting s.dsc.stop_epoch) } := if_pos hw
  refine ⟨_, ⟨.tail .start trivial hpark, s.dsc.checkpoint_slow_stops w hr, rfl,
    fun v e hv => ?_, fun v e hv => hst v (hne v e hv)⟩, _, Function.update_self ..⟩
  dsimp only
  rw [Function.update_of_ne (hne v e hv)]
  exact hv

lemma gathers_one (hr : s.dsc.state ≠ .Running) (w : Fin n) :
    ∃ t, s.Gathers t ∧ ∃ e, t.worker w = .waiting e := by
  cases hw : s.worker w with
  | waiting e => exact ⟨s, ⟨.start, hr, rfl, fun _ _ h => h, fun _ _ _ => rfl⟩, e, hw⟩
  | slow => exact gathers_park hr hw
  | outside =>
    have hck : (StopEvent.checkpoint w).step s =
        some { s with worker := Function.update s.worker w .slow } := by
      dsimp only [StopEvent.step]
      rw [if_pos hw, if_neg hr]
    have hg : s.Gathers { s with worker := Function.update s.worker w .slow } := by
      refine ⟨.tail .start trivial hck, hr, rfl, fun v e hv => ?_, fun _ _ _ => rfl⟩
      have hvw : v ≠ w := by
        rintro rfl
        rw [hw] at hv
        cases hv
      dsimp only
      rw [Function.update_of_ne hvw]
      exact hv
    obtain ⟨t, ht, he⟩ := gathers_park (s := { s with worker := Function.update s.worker w .slow })
      hr (Function.update_self ..)
    exact ⟨t, hg.trans ht, he⟩

lemma gathers_all (hr : s.dsc.state ≠ .Running) (l : List (Fin n)) :
    ∃ t, s.Gathers t ∧ ∀ w ∈ l, ∃ e, t.worker w = .waiting e := by
  induction l with
  | nil => exact ⟨s, ⟨.start, hr, rfl, fun _ _ h => h, fun _ _ _ => rfl⟩, fun w hw => by cases hw⟩
  | cons w l ih =>
    obtain ⟨t, ht, hl⟩ := ih
    obtain ⟨u, hu, e, he⟩ := gathers_one ht.state w
    refine ⟨u, ht.trans hu, fun v hv => ?_⟩
    rcases List.mem_cons.mp hv with rfl | hv
    · exact ⟨e, he⟩
    · obtain ⟨e', he'⟩ := hl v hv
      exact ⟨e', hu.kept v e' he'⟩

lemma Counted.stranded (h : s.Counted) (hr : s.dsc.state ≠ .Running) (hp : s.publishing = false)
    {w : Fin n} {e : u64} (hw : s.worker w = .waiting e) (hs : s.dsc.stopped w = false) :
    ∃ t, Reach StopEvent.step (fun _ _ => True) s t ∧ ¬ t.Accounted := by
  obtain ⟨t, ht, hall⟩ := gathers_all hr (List.finRange n)
  have hc : t.Counted := ht.reach.inv (I := Counted) h fun _ _ _ hu _ hv => hu.step hv
  refine ⟨t, ht.reach, fun hacc => ?_⟩
  have hfull := (hacc (ht.publishing.trans hp) ht.state fun v => hall v (List.mem_finRange v)).2
  have hwt := all_of_card (hc.count.symm.trans hfull) w
  rw [ht.flag w e hw, hs] at hwt
  cases hwt

/-- **Accounting**: with at least one worker, in every run whose stop requests strand no worker,
if no call is in progress, the state is not `Running` and all workers are in the wait of
`checkpoint_slow`, they are all counted and the state is `Stopped`. A request that strands a worker
leads to a state in which this is not so. -/
theorem accounts_all {s : StopSys n} (hn : 0 < n)
    (h : Reach StopEvent.step StopEvent.Orderly {} s) :
    s.Accounted ∧ ∀ (e : StopEvent n) (t : StopSys n), ¬ e.Orderly s → e.step s = some t →
      ∃ u, Reach StopEvent.step (fun _ _ => True) t u ∧ ¬ u.Accounted := by
  have hi : s.Counted ∧ (s.dsc.state ≠ .Running → s.NoneLeft) :=
    h.inv (I := fun s => s.Counted ∧ (s.dsc.state ≠ .Running → s.NoneLeft))
      ⟨counted_start, fun h => absurd rfl h⟩
      fun e u v hu hx hv => ⟨hu.1.step hv, hu.1.noneLeft_step hu.2 hx hv⟩
  refine ⟨hi.1.accounted hi.2 hn, fun e t hx hs => ?_⟩
  have ht := hi.1.step hs
  cases e with
  | request_stop reason =>
    obtain ⟨hr, hl⟩ : s.dsc.state = .Running ∧ ¬ s.NoneLeft := Classical.not_imp.mp hx
    obtain ⟨w, hw⟩ := not_forall.mp hl
    obtain ⟨e, hw⟩ := not_forall.mp hw
    obtain ⟨hw, hst⟩ := Classical.not_imp.mp hw
    have hp : s.publishing = false := Bool.eq_false_iff.mpr fun hp => hi.1.publishing hp hr
    have hreq : (StopEvent.request_stop reason).step s = some { s with
        dsc := { s.dsc with state := .StopRequested, reason := reason }
        publishing := true
        requested := true } := by
      unfold StopEvent.step DebugStopController.request_stop
      simp [hp, hr]
    rw [hreq] at hs
    cases hs
    obtain ⟨u, hu, hacc⟩ := (ht.step (e := .publish) rfl).stranded (fun h => by cases h) rfl hw
      (Bool.eq_false_iff.mpr hst)
    exact ⟨u, (Reach.start.tail (k := .publish) trivial rfl).trans hu, hacc⟩
  | _ => exact absurd trivial hx

/-- One worker stops. -/
theorem accounts_all_one : ∃ s : StopSys 1, Reach StopEvent.step StopEvent.Orderly {} s ∧
    s.dsc.allStopped := by
  obtain ⟨s, hs⟩ : ∃ s : StopSys 1, Lib.Interleave.run StopEvent.step
      [.request_stop .CtrlC, .publish, .checkpoint 0, .park 0] {} = some s := ⟨_, rfl⟩
  have hr : Reach StopEvent.step StopEvent.Orderly {} s :=
    reach_of_run (l := [.request_stop .CtrlC, .publish, .checkpoint 0, .park 0]) .start
      ⟨fun _ w e he => (by cases he), fun _ _ => ⟨trivial, fun _ _ => ⟨trivial, fun _ _ =>
        ⟨trivial, fun _ _ => trivial⟩⟩⟩⟩ hs
  cases hs
  exact ⟨_, hr, (accounts_all (by decide) hr).1 rfl (by decide) fun w => by
    obtain rfl := Fin.fin_one_eq_zero w
    exact ⟨_, rfl⟩⟩

/-- A worker is stopped and released, and the next stop comes before it has left its wait. -/
theorem released_worker_not_counted : ∃ s : StopSys 1,
    Reach StopEvent.step (fun _ _ => True) {} s ∧ s.publishing = false ∧
    s.dsc.state ≠ .Running ∧ (∀ w, ∃ e, s.worker w = .waiting e) ∧ ¬ s.dsc.allStopped := by
  refine ⟨_, reach_run (l := [.request_stop .CtrlC, .publish, .checkpoint 0, .park 0, .resume,
    .request_stop .CtrlC, .publish]) rfl, rfl, by decide, fun w => ?_, fun h => ?_⟩
  · obtain rfl := Fin.fin_one_eq_zero w
    exact ⟨_, rfl⟩
  · exact absurd h.2 (by decide)

/-! ### Release -/

/-- The steps that leave no worker behind: a worker parks only while the state is not `Running`,
and `resume` does not come back to an epoch that a worker in the wait has recorded. -/
def Releasing (e : StopEvent n) (s : StopSys n) : Prop :=
  match e with
  | .park _ => s.dsc.state ≠ .Running
  | .resume => ∀ w e, s.worker w = .waiting e → s.dsc.stop_epoch + 1 ≠ e
  | _ => True

/-- Without a request the state is `Running`, and then every worker in the wait may go on. -/
structure Released (s : StopSys n) : Prop where
  running : s.requested = false ↔ s.dsc.state = .Running
  epoch : s.dsc.state = .Running → ∀ w e, s.worker w = .waiting e → s.dsc.stop_epoch ≠ e
  publishing : s.publishing = true → s.dsc.state ≠ .Running

lemma Released.move (h : s.Released) {w : Fin n} {x : WorkerAt} (hx : ∀ e, x ≠ .waiting e) :
    Released { s with worker := Function.update s.worker w x } :=
  ⟨h.running, fun hr v e he => h.epoch hr v e (waiting_of_update hx he), h.publishing⟩

lemma Released.step (h : s.Released) {e : StopEvent n} {t : StopSys n} (hx : Releasing e s)
    (hs : e.step s = some t) : t.Released := by
  unfold StopEvent.step at hs
  cases e with
  | checkpoint w =>
    dsimp only at hs
    split_ifs at hs <;> cases hs
    · exact h.move fun e he => by cases he
    · exact h.move fun e he => by cases he
  | park w =>
    dsimp only at hs
    split_ifs at hs
    cases hs
    have hst := s.dsc.checkpoint_slow_stops w hx
    exact ⟨⟨fun hq => absurd (h.running.mp hq) hx, fun hr => absurd hr hst⟩,
      fun hr => absurd hr hst, fun _ => hst⟩
  | leave w =>
    dsimp only at hs
    split at hs
    · split_ifs at hs
      cases hs
      exact h.move fun e he => by cases he
    · cases hs
  | request_stop reason =>
    dsimp only at hs
    split_ifs at hs
    cases hs
    have hst := s.dsc.request_stop_stops reason
    exact ⟨⟨fun hq => (by cases hq), fun hr => absurd hr hst⟩, fun hr => absurd hr hst,
      fun _ => hst⟩
  | publish =>
    dsimp only at hs
    split_ifs at hs with hp
    cases hs
    exact ⟨h.running, fun hr => absurd hr (h.publishing hp), fun hp' => by cases hp'⟩
  | resume =>
    dsimp only at hs
    split_ifs at hs with hp
    cases hs
    exact ⟨⟨fun _ => rfl, fun _ => rfl⟩, fun _ => hx, fun hp' => absurd hp' hp⟩

/-- If no call is in progress and no stop has been requested since the last `resume`, the state is
`Running` and every worker in the wait may go on. -/
def Free (s : StopSys n) : Prop :=
  s.publishing = false → s.requested = false →
    s.dsc.state = .Running ∧ ∀ w e, s.worker w = .waiting e → s.dsc.wakes e

lemma Released.free (h : s.Released) : s.Free := by
  intro _ hq
  have hr := h.running.mp hq
  exact ⟨hr, fun w e he => ⟨hr, h.epoch hr w e he⟩⟩

/-- **Release**: in every run in which no worker parks while the state is `Running`, if no call is
in progress and no stop has been requested since the last `resume`, the state is `Running` and
every worker in the wait of `checkpoint_slow` may go on. A step that breaks the condition ends in a
state in which this is not so. -/
theorem resume_releases {s : StopSys n} (h : Reach StopEvent.step Releasing {} s) :
    s.Free ∧ ∀ (e : StopEvent n) (t : StopSys n), ¬ Releasing e s → e.step s = some t →
      ¬ t.Free := by
  have hi : s.Released := h.inv (I := Released)
    ⟨⟨fun _ => rfl, fun _ => rfl⟩, fun _ w e he => (by cases he), fun hp => by cases hp⟩
    fun e u v hu hx hv => hu.step hx hv
  refine ⟨hi.free, fun e t hx hs hf => ?_⟩
  unfold StopEvent.step at hs
  cases e with
  | park w =>
    have hr : s.dsc.state = .Running := not_not.mp hx
    dsimp only at hs
    split_ifs at hs
    cases hs
    have hp : s.publishing = false := Bool.eq_false_iff.mpr fun hp => hi.publishing hp hr
    -- the worker records the epoch of the `resume` it has missed
    refine ((hf hp (hi.running.mpr hr)).2 w s.dsc.stop_epoch (Function.update_self ..)).2 ?_
    unfold DebugStopController.checkpoint_slow
    split_ifs <;> rfl
  | resume =>
    dsimp only at hs
    split_ifs at hs with hp
    cases hs
    exact hx fun w e he => ((hf (Bool.eq_false_iff.mpr hp) rfl).2 w e he).2
  | _ => exact hx trivial

/-- One worker is stopped and released. -/
theorem resume_releases_one : ∃ s : StopSys 1, Reach StopEvent.step Releasing {} s ∧
    s.worker 0 = .waiting 1 ∧ s.dsc.wakes 1 := by
  obtain ⟨s, hs⟩ : ∃ s : StopSys 1, Lib.Interleave.run StopEvent.step
      [.request_stop .CtrlC, .publish, .checkpoint 0, .park 0, .resume] {} = some s := ⟨_, rfl⟩
  have hr : Reach StopEvent.step Releasing {} s := by
    refine reach_of_run (l := [.request_stop .CtrlC, .publish, .checkpoint 0, .park 0, .resume])
      .start ⟨trivial, fun _ h1 => ⟨trivial, fun _ h2 => ⟨trivial, fun _ h3 => ⟨?_, fun _ h4 =>
        ⟨?_, fun _ _ => trivial⟩⟩⟩⟩⟩ hs
    · cases h1; cases h2; cases h3
      exact fun h => by cases h
    · cases h1; cases h2; cases h3; cases h4
      intro w e he
      obtain rfl := Fin.fin_one_eq_zero w
      cases he
      exact by decide
  cases hs
  exact ⟨_, hr, rfl, ((resume_releases hr).1 rfl rfl).2 0 1 rfl⟩

/-- The worker has seen the stop, and parks after the `resume`: it alone completes a stop that
nobody has requested, and waits for an epoch that has already come. -/
theorem parks_after_resume : ∃ s : StopSys 1, Reach StopEvent.step (fun _ _ => True) {} s ∧
    s.publishing = false ∧ s.requested = false ∧ s.dsc.state = .Stopped ∧
    ∃ e, s.worker 0 = .waiting e ∧ ¬ s.dsc.wakes e :=
  ⟨_, reach_run (l := [.request_stop .CtrlC, .publish, .checkpoint 0, .resume, .park 0]) rfl, rfl,
    rfl, rfl, 2, rfl, by decide⟩

end StopSys

end SparcEmu
