import SparcEmu.DebugStop

/-!
Breakpoints: the processors in `notify_breakpoint`, the handler of the debugger's `c` packets and
the stop controller, as interleaved steps. The critical sections of both mutexes are atomic.
-/

namespace SparcEmu

open Lib.System

/-- Where a processor is. `publishing`, `notifying`, `halted` and `resuming` are in
`notify_breakpoint`: in its `request_stop` behind the compare-exchange, before its critical
section, in the loop on `waiting_`, and behind that loop. -/
inductive CpuAt
  | outside
  | slow
  | waiting (my_epoch : u64)
  | publishing
  | notifying
  | halted
  | resuming
  deriving DecidableEq

/-- The stop controller, the variables of the stub that `notify_breakpoint` shares with the
handler, and the threads. `continuing`: the handler of a `c` packet has released `waiting_` and has
its `resume` ahead. `awaiting`: the processor has sent its stop reply, and no `c` packet has been
handled since. -/
structure BreakSys (n : Nat) where
  dsc : DebugStopController n := {}
  waiting_ : Bool := false
  halted_cpu_ : Option (Fin n) := none
  cpu : Fin n → CpuAt := fun _ => .outside
  continuing : Bool := false
  awaiting : Fin n → Bool := fun _ => false

/-- The steps of `checkpoint` (`checkpoint`, `park`, `leave`), of `notify_breakpoint`
(`request_stop`, `publish`, `reply`, `release`, `resume`) and of the handler of a `c` packet. -/
inductive BreakEvent (n : Nat)
  | checkpoint (c : Fin n)
  | park (c : Fin n)
  | leave (c : Fin n)
  | request_stop (c : Fin n)
  | publish (c : Fin n)
  | reply (c : Fin n)
  | release (c : Fin n)
  | resume (c : Fin n)
  | continueRelease
  | continueResume

namespace BreakSys

variable {n : Nat}

def move (s : BreakSys n) (c : Fin n) (x : CpuAt) : BreakSys n :=
  { s with cpu := Function.update s.cpu c x }

/-- Processor `c` has requested the stop, and no `c` packet has been handled since its reply. -/
def Engaged (s : BreakSys n) (c : Fin n) : Prop :=
  s.awaiting c = true ∨ s.cpu c = .publishing ∨ s.cpu c = .notifying

/-- The world is stopped for every processor that has sent its stop reply. -/
def Held (s : BreakSys n) : Prop :=
  ∀ c, s.awaiting c = true → s.dsc.state ≠ .Running ∧ s.cpu c = .halted

end BreakSys

namespace BreakEvent

variable {n : Nat}

def step (e : BreakEvent n) (s : BreakSys n) : Option (BreakSys n) :=
  match e with
  | .checkpoint c =>
    if s.cpu c = .outside then
      some (s.move c (if s.dsc.state = .Running then .outside else .slow))
    else none
  | .park c =>
    if s.cpu c = .slow then
      some { s.move c (.waiting s.dsc.stop_epoch) with dsc := s.dsc.checkpoint_slow c }
    else none
  | .leave c =>
    match s.cpu c with
    | .waiting my_epoch => if s.dsc.wakes my_epoch then some (s.move c .outside) else none
    | _ => none
  | .request_stop c =>
    if s.cpu c = .outside then
      some { s.move c (if s.dsc.state = .Running then .publishing else .notifying) with
        dsc := s.dsc.request_stop .Breakpoint }
    else none
  | .publish c =>
    if s.cpu c = .publishing then
      some { s.move c .notifying with dsc := s.dsc.next_epoch }
    else none
  | .reply c =>
    if s.cpu c = .notifying then
      some { s.move c .halted with
        halted_cpu_ := some c
        waiting_ := true
        awaiting := Function.update s.awaiting c true }
    else none
  | .release c =>
    if s.cpu c = .halted ∧ s.waiting_ = false then
      some { s.move c .resuming with halted_cpu_ := none }
    else none
  | .resume c =>
    if s.cpu c = .resuming then some { s.move c .outside with dsc := s.dsc.resume } else none
  | .continueRelease =>
    if s.continuing then none
    else some { s with waiting_ := false, continuing := true, awaiting := fun _ => false }
  | .continueResume =>
    if s.continuing then some { s with dsc := s.dsc.resume, continuing := false } else none

/-- Nobody resumes the world while a processor that has requested the stop is not released. -/
def Calm (e : BreakEvent n) (s : BreakSys n) : Prop :=
  match e with
  | .resume _ | .continueResume => ∀ c, ¬ s.Engaged c
  | _ => True

end BreakEvent

namespace BreakSys

variable {n : Nat} {s : BreakSys n}

/-- What a processor that has requested the stop relies on. -/
structure Guarded (s : BreakSys n) : Prop where
  stopped : ∀ c, s.Engaged c → s.dsc.state ≠ .Running
  halted : ∀ c, s.awaiting c = true → s.cpu c = .halted
  flag : ∀ c, s.awaiting c = true → s.waiting_ = true

lemma move_self (s : BreakSys n) (c : Fin n) (x : CpuAt) : (s.move c x).cpu c = x :=
  Function.update_self ..

variable {c d : Fin n}

lemma move_of_ne (h : d ≠ c) (s : BreakSys n) (x : CpuAt) : (s.move c x).cpu d = s.cpu d :=
  Function.update_of_ne h ..

lemma Guarded.halted_move (h : s.Guarded) (hc : s.cpu c ≠ .halted) (x : CpuAt)
    (hd : s.awaiting d = true) : (s.move c x).cpu d = .halted := by
  have hdc : d ≠ c := by
    rintro rfl
    exact hc (h.halted d hd)
  rw [move_of_ne hdc]
  exact h.halted d hd

lemma engaged_of_move {x : CpuAt} (h₁ : x ≠ .publishing) (h₂ : x ≠ .notifying)
    (hd : (s.move c x).Engaged d) : s.Engaged d := by
  by_cases hdc : d = c
  · subst hdc
    rcases hd with hd | hd | hd
    · exact .inl hd
    · rw [move_self] at hd
      exact absurd hd h₁
    · rw [move_self] at hd
      exact absurd hd h₂
  · rw [Engaged, move_of_ne hdc] at hd
    exact hd

lemma Guarded.move (h : s.Guarded) (hc : s.cpu c ≠ .halted) {x : CpuAt} (h₁ : x ≠ .publishing)
    (h₂ : x ≠ .notifying) : (s.move c x).Guarded where
  stopped _ hd := h.stopped _ (engaged_of_move h₁ h₂ hd)
  halted _ hd := h.halted_move hc x hd
  flag := h.flag

lemma Guarded.setDsc (h : s.Guarded) {d : DebugStopController n}
    (hd : s.dsc.state ≠ .Running → d.state ≠ .Running) : Guarded { s with dsc := d } :=
  ⟨fun c hc => hd (h.stopped c hc), h.halted, h.flag⟩

lemma Guarded.step (h : s.Guarded) {e : BreakEvent n} {t : BreakSys n} (hx : e.Calm s)
    (hs : e.step s = some t) : t.Guarded := by
  unfold BreakEvent.step at hs
  cases e with
  | checkpoint c =>
    dsimp only at hs
    have hmove : s.cpu c = .outside → ∀ x : CpuAt, x ≠ .publishing → x ≠ .notifying →
        (s.move c x).Guarded := fun hc x => h.move (by rw [hc]; exact fun h => by cases h)
    split_ifs at hs with hc hr <;> cases hs
    · exact hmove hc _ (fun h => by cases h) fun h => by cases h
    · exact hmove hc _ (fun h => by cases h) fun h => by cases h
  | park c =>
    dsimp only at hs
    split_ifs at hs with hc
    cases hs
    refine (h.move (c := c) (by rw [hc]; exact fun h => by cases h) ?_ ?_).setDsc
      (DebugStopController.checkpoint_slow_stops c)
    · exact fun h => by cases h
    · exact fun h => by cases h
  | leave c =>
    dsimp only at hs
    split at hs
    · next hc =>
      split_ifs at hs
      cases hs
      exact h.move (by rw [hc]; exact fun h => by cases h) (fun h => by cases h)
        fun h => by cases h
    · cases hs
  | request_stop c =>
    dsimp only at hs
    split_ifs at hs with hc <;> cases hs
    all_goals exact ⟨fun _ _ => DebugStopController.request_stop_stops _ _,
      fun d hd => h.halted_move (by rw [hc]; exact fun h => by cases h) _ hd, h.flag⟩
  | publish c =>
    dsimp only at hs
    split_ifs at hs with hc
    cases hs
    have hr : s.dsc.state ≠ .Running := h.stopped c (.inr (.inl hc))
    exact ⟨fun _ _ => hr,
      fun d hd => h.halted_move (by rw [hc]; exact fun h => by cases h) _ hd, h.flag⟩
  | reply c =>
    dsimp only at hs
    split_ifs at hs with hc
    cases hs
    have hr : s.dsc.state ≠ .Running := h.stopped c (.inr (.inr hc))
    refine ⟨fun _ _ => hr, fun d hd => ?_, fun _ _ => rfl⟩
    by_cases hdc : d = c
    · subst hdc
      exact move_self ..
    · dsimp only at hd
      rw [Function.update_of_ne hdc] at hd
      exact h.halted_move (by rw [hc]; exact fun h => by cases h) _ hd
  | release c =>
    dsimp only at hs
    split_ifs at hs with hc
    cases hs
    -- the flag is down, so that nobody awaits the debugger
    have hno : ∀ d, s.awaiting d ≠ true := fun d hd => by
      rw [h.flag d hd] at hc
      cases hc.2
    refine ⟨fun d hd => ?_, fun d hd => absurd hd (hno d), fun d hd => absurd hd (hno d)⟩
    exact h.stopped d (engaged_of_move (fun h => by cases h) (fun h => by cases h) hd)
  | resume c =>
    dsimp only at hs
    split_ifs at hs with hc
    cases hs
    refine ⟨fun d hd => absurd ?_ (hx d), fun d hd => absurd (.inl hd) (hx d),
      fun d hd => absurd (.inl hd) (hx d)⟩
    exact engaged_of_move (fun h => by cases h) (fun h => by cases h) hd
  | continueRelease =>
    dsimp only at hs
    split_ifs at hs
    cases hs
    refine ⟨fun d hd => h.stopped d ?_, fun d hd => (by cases hd), fun d hd => by cases hd⟩
    rcases hd with hd | hd
    · cases hd
    · exact .inr hd
  | continueResume =>
    dsimp only at hs
    split_ifs at hs
    cases hs
    exact ⟨fun d hd => absurd hd (hx d), h.halted, h.flag⟩

/-- A processor in its request gets to send its stop reply, whatever the state of the controller
is. -/
lemma reply_of_engaged (h : s.Engaged c) :
    ∃ t, Reach BreakEvent.step (fun _ _ => True) s t ∧ t.awaiting c = true ∧
      t.dsc.state = s.dsc.state := by
  have hreply : ∀ u : BreakSys n, u.cpu c = .notifying → ∃ t,
      (BreakEvent.reply c).step u = some t ∧ t.awaiting c = true ∧ t.dsc.state = u.dsc.state :=
    fun u hu => ⟨_, if_pos hu, Function.update_self .., rfl⟩
  rcases h with h | h | h
  · exact ⟨s, .start, h, rfl⟩
  · have hp : (BreakEvent.publish c).step s =
        some { s.move c .notifying with dsc := s.dsc.next_epoch } := if_pos h
    obtain ⟨t, ht, ha, hr⟩ := hreply { s.move c .notifying with dsc := s.dsc.next_epoch }
      (move_self ..)
    exact ⟨t, (Reach.start.tail trivial hp).tail trivial ht, ha, hr⟩
  · obtain ⟨t, ht, ha, hr⟩ := hreply s h
    exact ⟨t, Reach.start.tail trivial ht, ha, hr⟩

lemma Engaged.resumed (h : s.Engaged c) {e : BreakEvent n} (hx : ¬ e.Calm s) {t : BreakSys n}
    (hs : e.step s = some t) : t.Engaged c ∧ t.dsc.state = .Running := by
  unfold BreakEvent.step at hs
  cases e with
  | resume d =>
    dsimp only at hs
    split_ifs at hs with hd
    cases hs
    refine ⟨?_, rfl⟩
    by_cases hcd : c = d
    · subst hcd
      rcases h with h | h | h
      · exact .inl h
      · rw [h] at hd
        cases hd
      · rw [h] at hd
        cases hd
    · rw [Engaged, ← move_of_ne hcd s .outside] at h
      exact h
  | continueResume =>
    dsimp only at hs
    split_ifs at hs
    cases hs
    exact ⟨h, rfl⟩
  | _ => exact absurd trivial hx

/-- **The world stays stopped**: in every run in which nobody resumes the world while a processor
that has requested the stop is not released, the state is not `Running` and the processor does not
leave `notify_breakpoint` from its stop reply to the next `c` packet. A resume at any other time
leads to a state in which this is not so. -/
theorem stays_stopped {s : BreakSys n} (h : Reach BreakEvent.step BreakEvent.Calm {} s) :
    s.Held ∧ ∀ (e : BreakEvent n) (t : BreakSys n), ¬ e.Calm s → e.step s = some t →
      ∃ u, Reach BreakEvent.step (fun _ _ => True) t u ∧ ¬ u.Held := by
  have hg : s.Guarded := h.inv (I := Guarded)
    ⟨fun c hc => (by rcases hc with hc | hc | hc <;> cases hc), fun c hc => (by cases hc),
      fun c hc => by cases hc⟩ fun e u v hu hx hv => hu.step hx hv
  refine ⟨fun c hc => ⟨hg.stopped c (.inl hc), hg.halted c hc⟩, fun e t hx hs => ?_⟩
  obtain ⟨c, hc⟩ : ∃ c, s.Engaged c := by
    by_contra hno
    refine hx ?_
    cases e with
    | resume | continueResume => exact fun c hc => hno ⟨c, hc⟩
    | _ => trivial
  obtain ⟨hc, hr⟩ := hc.resumed hx hs
  obtain ⟨u, hu, ha, hru⟩ := reply_of_engaged hc
  exact ⟨u, hu, fun hh => (hh c ha).1 (hru.trans hr)⟩

/-- One processor hits a breakpoint. -/
theorem stays_stopped_one : ∃ s : BreakSys 1, Reach BreakEvent.step BreakEvent.Calm {} s ∧
    s.awaiting 0 = true ∧ s.Held := by
  obtain ⟨s, hs⟩ : ∃ s : BreakSys 1, Lib.Interleave.run BreakEvent.step
      [.request_stop 0, .publish 0, .reply 0] {} = some s := ⟨_, rfl⟩
  have hr : Reach BreakEvent.step BreakEvent.Calm {} s :=
    reach_of_run (l := [.request_stop 0, .publish 0, .reply 0]) .start
      ⟨trivial, fun _ _ => ⟨trivial, fun _ _ => ⟨trivial, fun _ _ => trivial⟩⟩⟩ hs
  cases hs
  exact ⟨_, hr, rfl, (stays_stopped hr).1⟩

/-- Processor 0 is released from its breakpoint; processor 1 hits one and sends its reply; and then
processor 0 calls `resume`. -/
theorem resumes_behind_reply : ∃ s : BreakSys 2, Reach BreakEvent.step (fun _ _ => True) {} s ∧
    s.awaiting 1 = true ∧ s.dsc.state = .Running :=
  ⟨_, reach_run (l := [.request_stop 0, .publish 0, .reply 0, .continueRelease, .continueResume,
    .release 0, .request_stop 1, .publish 1, .reply 1, .resume 0]) rfl, rfl, rfl⟩

end BreakSys

end SparcEmu
