import SparcEmu.BusClock

/-!
When the timer unit raises its interrupts, and that the batches of the bus clock lose none of them. A
timer that starts again by itself divides the prescaler ticks as the prescaler divides the ticks of the
bus clock, so that the unit is one divider inside another and the closed form of `Lib.Prescaler` applies
twice.
-/

namespace SparcEmu

open Lib
open Lib.Prescaler (fires left iterate_tick lt_fires_iff)

namespace GPTIMER

/-- `set_LEON_smp_state`: how the emulator starts the timers. -/
def set_LEON_smp_state (s : GPTIMER) : GPTIMER :=
  { s with
    SCALER := 0x24
    SRELOAD := 0x24
    timers := fun i =>
      if i = 0 then { s.timers 0 with TCTRL := 0x3 ||| 0x8, TCNTVAL := 0x270f, TRLDVAL := 0x270f }
      else { s.timers 1 with TCTRL := 0, TCNTVAL := 0, TRLDVAL := 0 } }

/-- How many of `n` ticks of the bus clock report an interrupt. -/
def interrupts : ℕ → GPTIMER → ℕ
  | 0, _ => 0
  | n + 1, s =>
    let (irq, s) := s.tick_and_check_interrupt_unlocked true
    irq.toNat + interrupts n s

/-! ### One timer -/

namespace timer_impl

variable {t : timer_impl}

/-- The timer counts, starts again and raises an interrupt whenever it does. -/
structure Auto (t : timer_impl) : Prop where
  on : t.is_enabled = true
  again : t.RS = true
  raises : t.TCTRL.getLsbD 3 = true

/-- The timer raises no interrupt, and none is pending. -/
def Quiet (t : timer_impl) : Prop := t.TCTRL.getLsbD 3 = false ∧ t.check_interrupt = false

def acked (t : timer_impl) : timer_impl := if t.check_interrupt then t.clear_interrupt else t

lemma Quiet.tick (h : t.Quiet) : t.tick.Quiet := by
  obtain ⟨he, hi⟩ := h
  have he : t.TCTRL[3] = false := he
  have hi : t.TCTRL[4] = false := hi
  by_cases h0 : t.TCNTVAL = 0#32 <;> cases hr : t.TCTRL[1] <;>
    simp [timer_impl.tick, Quiet, check_interrupt, h0, hr, he, hi]

lemma Quiet.ticks (h : t.Quiet) (k : ℕ) : (timer_impl.tick^[k] t).Quiet := by
  induction k generalizing t with
  | zero => exact h
  | succ k ih => exact ih h.tick

lemma Auto.acked (h : t.Auto) : t.acked.Auto ∧ t.acked.check_interrupt = false ∧
    t.acked.TCNTVAL = t.TCNTVAL ∧ t.acked.TRLDVAL = t.TRLDVAL := by
  unfold timer_impl.acked
  split_ifs with hp
  · obtain ⟨ho, ha, hr⟩ := h
    refine ⟨⟨?_, ?_, ?_⟩, ?_, rfl, rfl⟩ <;> simp_all [clear_interrupt, is_enabled, RS, check_interrupt]
  · exact ⟨h, Bool.eq_false_iff.mpr hp, rfl, rfl⟩

/-- A tick is one of a divider that raises the pending bit. -/
lemma Auto.tick (h : t.Auto) : t.tick.Auto ∧ t.tick.TRLDVAL = t.TRLDVAL ∧
    (t.tick.TCNTVAL.toNat, t.tick.check_interrupt) =
      Prescaler.tick t.TRLDVAL.toNat (fun _ => true) (t.TCNTVAL.toNat, t.check_interrupt) := by
  obtain ⟨ho, ha, hr⟩ := h
  have ho : t.TCTRL[0] = true := ho
  have ha : t.TCTRL[1] = true := ha
  have hr : t.TCTRL[3] = true := hr
  by_cases h0 : t.TCNTVAL = 0#32
  · refine ⟨⟨?_, ?_, ?_⟩, ?_, ?_⟩ <;>
      simp [timer_impl.tick, is_enabled, RS, check_interrupt, Prescaler.tick, h0, ho, ha, hr]
  · obtain ⟨c, hc⟩ := Nat.exists_eq_succ_of_ne_zero (n := t.TCNTVAL.toNat)
      fun h => h0 (BitVec.eq_of_toNat_eq h)
    have hdec : (t.TCNTVAL - 1).toNat = c := by bv_omega
    unfold timer_impl.tick
    rw [if_neg (show ¬ t.TCNTVAL = 0 from h0)]
    refine ⟨⟨ho, ha, hr⟩, rfl, ?_⟩
    rw [hc]
    exact congrArg (·, _) hdec

lemma Auto.ticks (h : t.Auto) (k : ℕ) :
    (timer_impl.tick^[k] t).Auto ∧ (timer_impl.tick^[k] t).TRLDVAL = t.TRLDVAL ∧
    ((timer_impl.tick^[k] t).TCNTVAL.toNat, (timer_impl.tick^[k] t).check_interrupt) =
      (Prescaler.tick t.TRLDVAL.toNat fun _ => true)^[k] (t.TCNTVAL.toNat, t.check_interrupt) := by
  induction k generalizing t with
  | zero => exact ⟨h, rfl, rfl⟩
  | succ k ih =>
    obtain ⟨ha, hr, hc⟩ := h.tick
    obtain ⟨ha', hr', hc'⟩ := ih ha
    rw [Function.iterate_succ_apply, Function.iterate_succ_apply, ← hc, ← hr]
    exact ⟨ha', hr', hc'⟩

end timer_impl

/-! ### The unit -/

variable {s : GPTIMER} {i : Fin 2} {r R : ℕ}

/-- Timer `i` raises interrupts, one for `R + 1` prescaler ticks, and the other timer does not. -/
structure Divides (i : Fin 2) (r R : ℕ) (s : GPTIMER) : Prop where
  auto : (s.timers i).Auto
  clear : (s.timers i).check_interrupt = false
  others : ∀ j, j ≠ i → (s.timers j).Quiet
  reload : s.reload = r
  period : (s.timers i).TRLDVAL.toNat = R

/-- The ticks left to the next prescaler tick, those left to the next interrupt, and a count. -/
def counts (s : GPTIMER) (i : Fin 2) (k : ℕ) : ℕ × ℕ × ℕ := (s.SCALER.toNat, (s.timers i).TCNTVAL.toNat, k)

/-- A divider whose function is a divider of its own, which counts. -/
def divider (r R : ℕ) : ℕ × ℕ × ℕ → ℕ × ℕ × ℕ := Prescaler.tick r (Prescaler.tick R Nat.succ)

lemma divider_iterate (c v k n : ℕ) : (divider r R)^[n] (c, v, k) =
    (left r c n, left R v (fires r c n), k + fires R v (fires r c n)) := by
  have hsucc : ∀ m, Nat.succ^[m] k = k + m := by
    intro m
    induction m with
    | zero => rfl
    | succ m ih => rw [Function.iterate_succ_apply', ih, Nat.add_succ]
  rw [divider, iterate_tick, iterate_tick, hsucc]

lemma fin_two : ∀ i : Fin 2, i = 0 ∨ i = 1 := by decide

lemma divides_of {t : timer_impl} (ha : t.Auto) (hR : t.TRLDVAL.toNat = R)
    (hi : s.timers i = t.acked) (hq : ∀ j, j ≠ i → (s.timers j).Quiet) (hr : s.reload = r) :
    s.Divides i r R ∧ ∀ k, s.counts i k = (s.SCALER.toNat, t.TCNTVAL.toNat, k) := by
  obtain ⟨hack, hclear, hcnt, hrld⟩ := ha.acked
  refine ⟨⟨hi ▸ hack, hi ▸ hclear, hq, hr, ?_⟩, fun k => ?_⟩
  · rw [hi, hrld, hR]
  · rw [counts, hi, hcnt]

/-- The check finds timer `i` or none. -/
lemma check_of_quiet (hq : ∀ j, j ≠ i → (s.timers j).Quiet) : s.check_interrupt true =
    ((s.timers i).check_interrupt,
      { s with timers := Function.update s.timers i (s.timers i).acked }) := by
  unfold timer_impl.acked
  obtain rfl | rfl := fin_two i
  · have h1 := (hq 1 (by decide)).2
    cases hp : (s.timers 0).check_interrupt <;> simp [check_interrupt, h1, hp]
  · have h0 := (hq 0 (by decide)).2
    cases hp : (s.timers 1).check_interrupt <;> simp [check_interrupt, h0, hp]

/-- **A tick** is one of the two dividers. -/
lemma Divides.tick (h : s.Divides i r R) (k : ℕ) :
    (s.tick_and_check_interrupt_unlocked true).2.Divides i r R ∧
    (s.tick_and_check_interrupt_unlocked true).2.counts i
      (k + (s.tick_and_check_interrupt_unlocked true).1.toNat) = divider r R (s.counts i k) := by
  have hv := Tick_view (running_iff.mpr ⟨i, h.auto.on⟩)
  rw [view, view, h.reload] at hv
  -- what the tick does to timer `i`, before the check
  obtain ⟨ha, hr, hq, hc⟩ : (s.Tick.timers i).Auto ∧
      (s.Tick.timers i).TRLDVAL = (s.timers i).TRLDVAL ∧ (∀ j, j ≠ i → (s.Tick.timers j).Quiet) ∧
      (s.Tick.SCALER.toNat, (s.Tick.timers i).TCNTVAL.toNat,
        k + (s.Tick.timers i).check_interrupt.toNat) = divider r R (s.counts i k) := by
    unfold counts
    cases hs : s.SCALER.toNat with
    | succ c =>
      rw [hs] at hv
      obtain ⟨h1, h2⟩ := Prod.mk.inj hv
      rw [h1, h2, h.clear]
      exact ⟨h.auto, rfl, h.others, rfl⟩
    | zero =>
      rw [hs] at hv
      obtain ⟨h1, h2⟩ := Prod.mk.inj hv
      obtain ⟨ha, hr, hc⟩ := h.auto.tick
      have hi : s.Tick.timers i = (s.timers i).tick := by
        rw [h2]
        exact if_pos h.auto.on
      rw [h1, hi]
      refine ⟨ha, hr, fun j hj => ?_, ?_⟩
      · rw [h2]
        unfold liveAll timer_impl.live
        split_ifs
        exacts [(h.others j hj).tick, h.others j hj]
      · rw [h.clear, h.period] at hc
        cases ht : (s.timers i).TCNTVAL.toNat <;> rw [ht] at hc <;>
          obtain ⟨h3, h4⟩ := Prod.mk.inj hc <;> rw [h3, h4] <;> rfl
  rw [tick_and_check_interrupt_unlocked, check_of_quiet hq]
  obtain ⟨hd, hcounts⟩ := divides_of
    (s := { s.Tick with timers := Function.update s.Tick.timers i (s.Tick.timers i).acked }) ha
    (by rw [hr, h.period]) (Function.update_self ..) (fun j hj => by simpa [hj] using hq j hj)
    ((congrArg (fun w : u32 => (w &&& 0xffff).toNat) (Tick_SRELOAD s)).trans h.reload)
  exact ⟨hd, (hcounts _).trans hc⟩

lemma Divides.interrupts_eq (h : s.Divides i r R) (n k : ℕ) :
    ((divider r R)^[n] (s.counts i k)).2.2 = k + s.interrupts n := by
  induction n generalizing s k with
  | zero => rfl
  | succ n ih =>
    obtain ⟨ht, hc⟩ := h.tick k
    rw [Function.iterate_succ_apply, ← hc, ih ht, Nat.add_assoc]
    rfl

/-- **The times of the interrupts**: the first comes after the ticks left on both counters, and each
further one after a period of the timer, whatever the other timer counts. -/
theorem interrupt_times (h : s.Divides i r R) (n k : ℕ) : k < s.interrupts n ↔
    s.SCALER.toNat + 1 + ((s.timers i).TCNTVAL.toNat + k * (R + 1)) * (r + 1) ≤ n := by
  have hn := h.interrupts_eq n 0
  rw [counts, divider_iterate, Nat.zero_add, Nat.zero_add] at hn
  rw [← hn]
  calc k < fires _ _ (fires r s.SCALER.toNat n)
      ↔ (s.timers i).TCNTVAL.toNat + 1 + k * (R + 1) ≤ fires r s.SCALER.toNat n := lt_fires_iff
    _ ↔ (s.timers i).TCNTVAL.toNat + k * (R + 1) < fires r s.SCALER.toNat n := by omega
    _ ↔ _ := lt_fires_iff

lemma smp_divides : oneShotUnit.set_LEON_smp_state.Divides 0 0x24 0x270f where
  auto := ⟨by decide, by decide, by decide⟩
  clear := by decide
  others j hj := by
    obtain rfl | rfl := fin_two j
    · exact absurd rfl hj
    · exact ⟨by decide, by decide⟩
  reload := by decide
  period := by decide

/-- The timer that the emulator starts: an interrupt every 37 times 10000 ticks. -/
theorem interrupt_times_smp : oneShotUnit.set_LEON_smp_state.Divides 0 0x24 0x270f ∧
    ∀ n k, k < oneShotUnit.set_LEON_smp_state.interrupts n ↔ (k + 1) * 370000 ≤ n := by
  refine ⟨smp_divides, fun n k => (interrupt_times smp_divides n k).trans ?_⟩
  show 0x24 + 1 + (0x270f + k * (0x270f + 1)) * (0x24 + 1) ≤ n ↔ _
  omega

/-- **A batch** no longer than a period is so many ticks of the two dividers. -/
lemma Divides.advance (h : s.Divides i r R) {n : u64} (h0 : n ≠ 0) (hn : n.toNat < 2 ^ 32)
    (hone : n.toNat ≤ (R + 1) * (r + 1)) (k : ℕ) :
    (s.advance_unlocked n true).2.Divides i r R ∧
    (s.advance_unlocked n true).2.counts i (k + (s.advance_unlocked n true).1.toNat) =
      (divider r R)^[n.toNat] (s.counts i k) := by
  obtain ⟨hm, hleft⟩ := prescale_eq (s := s) h0 hn
  obtain ⟨ha, hrld, hc⟩ := h.auto.ticks (s.prescale n).1.toNat
  rw [h.reload] at hm hleft
  rw [h.period, h.clear, iterate_tick] at hc
  rw [hm] at ha hrld hc
  obtain ⟨hcnt, hirq⟩ := Prod.mk.inj hc
  set m := fires r s.SCALER.toNat n.toNat
  set F := fires R (s.timers i).TCNTVAL.toNat m with hF
  -- there is no room for two interrupts
  have hle : F ≤ 1 := by
    by_contra hlt
    have h1 : (s.timers i).TCNTVAL.toNat + 1 + 1 * (R + 1) ≤ m := lt_fires_iff.mp (not_le.mp hlt)
    have h2 : s.SCALER.toNat + 1 + ((s.timers i).TCNTVAL.toNat + (R + 1)) * (r + 1) ≤ n.toNat :=
      lt_fires_iff.mp (by omega)
    have h3 := Nat.mul_le_mul_right (r + 1) (Nat.le_add_left (R + 1) (s.timers i).TCNTVAL.toNat)
    omega
  have hbool : (timer_impl.tick^[m] (s.timers i)).check_interrupt.toNat = F := by
    rw [hirq]
    obtain h | h : F = 0 ∨ F = 1 := by omega
    all_goals rw [h]; rfl
  have hquiet : ∀ j, j ≠ i → (if (s.timers j).is_enabled then timer_impl.tick^[m] (s.timers j)
      else s.timers j).Quiet := by
    intro j hj
    split_ifs
    exacts [(h.others j hj).ticks m, h.others j hj]
  obtain ⟨hX, hXr, hXs, hXi, hXj⟩ :
      (s.advance_unlocked n true).1 = (timer_impl.tick^[m] (s.timers i)).check_interrupt ∧
      (s.advance_unlocked n true).2.reload = s.reload ∧
      (s.advance_unlocked n true).2.SCALER = (s.prescale n).2 ∧
      (s.advance_unlocked n true).2.timers i = (timer_impl.tick^[m] (s.timers i)).acked ∧
      ∀ j, j ≠ i → ((s.advance_unlocked n true).2.timers j).Quiet := by
    simp only [advance_unlocked, if_neg h0, running_iff.mpr ⟨i, h.auto.on⟩, hm]
    refine ⟨?_, rfl, rfl, ?_, fun j hj => ?_⟩
    · obtain rfl | rfl := fin_two i
      · simp [h.auto.on, (hquiet 1 (by decide)).2]
      · simp [h.auto.on, (hquiet 0 (by decide)).2]
    · simp [h.auto.on, timer_impl.acked]
    · simpa [(hquiet j hj).2] using hquiet j hj
  obtain ⟨hd, hcounts⟩ := divides_of ha (by rw [hrld, h.period]) hXi hXj (hXr.trans h.reload)
  refine ⟨hd, ?_⟩
  rw [hcounts, counts, divider_iterate, hX, hbool, hXs, hleft, hcnt]

end GPTIMER

/-! ### The bus clock -/

namespace BusClock

open GPTIMER

variable {t : u32} {l : BusClock} {i : Fin 2} {r R : ℕ}

lemma body_timer (t : u32) (l : BusClock) :
    (body t l).dev.timer = (l.dev.timer.advance_unlocked (l.batch t) true).2 ∧
    (body t l).tick_count =
      l.tick_count + BitVec.ofNat 64 (l.dev.timer.advance_unlocked (l.batch t) true).1.toNat ∧
    (body t l).given = l.given + (l.batch t).toNat := by
  have hadv : (l.advanceTimer (l.batch t)).dev.timer =
        (l.dev.timer.advance_unlocked (l.batch t) true).2 ∧ (l.advanceTimer (l.batch t)).tick_count =
      l.tick_count + BitVec.ofNat 64 (l.dev.timer.advance_unlocked (l.batch t) true).1.toNat ∧
      (l.advanceTimer (l.batch t)).given = l.given + (l.batch t).toNat := by
    unfold advanceTimer
    rcases l.dev.timer.advance_unlocked (l.batch t) true with ⟨_ | _, timer⟩ <;>
      simp [given, Devices.trigger]
  have huart : ∀ l' : BusClock, l'.tickUart.dev.timer = l'.dev.timer := by
    intro l'
    unfold tickUart
    dsimp only
    split_ifs <;> rfl
  unfold body
  dsimp only
  split_ifs
  · rw [huart]
    exact hadv
  · exact hadv

/-- **No timer interrupt is lost**: if the timer's period is at least the ticks between two ticks of the
serial port, the loop reports to the interrupt controller as many interrupts as single ticks would
raise in the ticks that are due. -/
theorem bus_interrupts (h : l.dev.timer.Divides i r R) (hu : l.uart_div < t)
    (hperiod : t.toNat ≤ (R + 1) * (r + 1)) (hb : l.batches = []) (hk : l.uart_ticks = 0) :
    ∃ l', (∀ n ≥ l.remaining.toNat, run t n l = some l') ∧
      l'.tick_count = l.tick_count + BitVec.ofNat 64 (l.dev.timer.interrupts l.remaining.toNat) := by
  have hgiven : l.given = 0 := by
    unfold given
    rw [hb]
    rfl
  -- the counters are those of single ticks, for the ticks that were given so far
  let Inv (l' : BusClock) : Prop := Counts t l.uart_div.toNat l.remaining.toNat l' ∧
    l'.dev.timer.Divides i r R ∧ ∃ k, l'.tick_count = l.tick_count + BitVec.ofNat 64 k ∧
      l'.dev.timer.counts i k = (divider r R)^[l'.given] (l.dev.timer.counts i 0)
  have hinit : Inv l := by
    refine ⟨⟨hu, ?_, ?_⟩, h, 0, ?_, ?_⟩
    · rw [hgiven, Nat.zero_add]
    · rw [hgiven, hk, Nat.zero_mul, Nat.zero_add, Nat.add_zero]
    · exact (BitVec.add_zero _).symm
    · rw [hgiven]
      rfl
  have hturn : ∀ l', Inv l' → decide (0 < l'.remaining) = true →
      Inv (body t l') ∧ (body t l').remaining.toNat < l'.remaining.toNat := by
    rintro l' ⟨hC, hD, k, hcount, heq⟩ hrem
    have hrem := of_decide_eq_true hrem
    obtain ⟨hC', hlt⟩ := hC.turn hrem
    obtain ⟨htimer, htick, hgive⟩ := body_timer t l'
    have hbatch := toNat_batch hC.below
    have htlt := t.isLt
    have hpos : l'.batch t ≠ 0 := by
      intro h0
      have hz : (l'.batch t).toNat = 0 := by rw [h0]; rfl
      have hbelow := BitVec.lt_def.mp hC.below
      have hrem : 0 < l'.remaining.toNat := hrem
      omega
    obtain ⟨hD', hcounts⟩ := hD.advance hpos (by omega) (by omega) k
    refine ⟨⟨hC', htimer ▸ hD', k + (l'.dev.timer.advance_unlocked (l'.batch t) true).1.toNat, ?_, ?_⟩,
      hlt⟩
    · rw [htick, hcount, BitVec.add_assoc, ← BitVec.ofNat_add]
    · rw [htimer, hcounts, hgive, Nat.add_comm, Function.iterate_add_apply, heq]
  obtain ⟨l', ⟨hC, -, k, hcount, heq⟩, hend, hrun⟩ :
      ∃ l', Inv l' ∧ decide (0 < l'.remaining) = false ∧ ∀ n ≥ l.remaining.toNat, run t n l = some l' :=
    Loop.loop_ends _ (fun l => l.remaining.toNat) hturn hinit
  refine ⟨l', hrun, ?_⟩
  have hzero : ¬ 0 < l'.remaining.toNat := of_decide_eq_false hend
  have hall : l'.given = l.remaining.toNat := by
    have := hC.due
    omega
  have hn := h.interrupts_eq l.remaining.toNat 0
  rw [← hall, ← heq, Nat.zero_add] at hn
  rw [hcount, ← hall, ← hn]
  rfl

/-- A bus clock of a megahertz, two of whose periods are due. -/
theorem bus_interrupts_smp : ∃ l', run 100 740000 ⟨0, 740000, { Devices.reset with
      timer := oneShotUnit.set_LEON_smp_state }, {}, 0, fun _ => none, [], 0⟩ = some l' ∧
    l'.tick_count = 0 + BitVec.ofNat 64 (oneShotUnit.set_LEON_smp_state.interrupts 740000) := by
  obtain ⟨l', hrun, hcount⟩ := bus_interrupts (t := 100) (l := ⟨0, 740000, { Devices.reset with
    timer := oneShotUnit.set_LEON_smp_state }, {}, 0, fun _ => none, [], 0⟩) smp_divides (by decide)
    (by decide) rfl rfl
  exact ⟨l', hrun 740000 (Nat.le_refl _), hcount⟩

end BusClock

end SparcEmu
