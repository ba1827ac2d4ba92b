import SparcEmu.ApbSlaves
import SparcEmu.Lib.Bits
import SparcEmu.Lib.Prescaler

/-!
The ticks of the timer unit, `GPTIMER.h`: the bus clock either ticks it once or advances it by a
batch of ticks.

The prescaler is the one of `Lib.Prescaler`, so both have the closed form of `iterate_tick`. They
differ in what a timer does that stops by itself: the single ticks leave it alone from then on, and
stop the prescaler with the last timer, while the batch goes on counting.
-/

namespace SparcEmu

open Lib.Prescaler (fires left iterate_tick lt_fires_iff fires_le left_of_fire)

namespace GPTIMER

namespace timer_impl

def is_enabled (t : timer_impl) : Bool := t.TCTRL.getLsbD 0

def check_interrupt (t : timer_impl) : Bool := t.TCTRL.getLsbD 4

def clear_interrupt (t : timer_impl) : timer_impl := { t with TCTRL := t.TCTRL &&& ~~~(1#32 <<< 4) }

def tick (t : timer_impl) : timer_impl :=
  if t.TCNTVAL = 0 then
    let t := if t.TCTRL.getLsbD 3 then { t with TCTRL := t.TCTRL ||| (1#32 <<< 4) } else t
    if t.TCTRL.getLsbD 1 then { t with TCNTVAL := t.TRLDVAL }
    else { t with TCNTVAL := t.TCNTVAL - 1, TCTRL := t.TCTRL &&& ~~~1#32 }
  else { t with TCNTVAL := t.TCNTVAL - 1 }

end timer_impl

/-- Some timer is enabled; otherwise the unit does not count. -/
def running (s : GPTIMER) : Bool := (s.timers 0).is_enabled || (s.timers 1).is_enabled

def timer_impl.live (t : timer_impl) : timer_impl := if t.is_enabled then t.tick else t

def Tick (s : GPTIMER) : GPTIMER :=
  if s.running then
    if s.SCALER = 0 then
      { s with timers := fun i => (s.timers i).live, SCALER := s.SRELOAD &&& 0xffff }
    else { s with SCALER := s.SCALER - 1 }
  else s

/-- The first timer with a pending interrupt is the one that is cleared. -/
def check_interrupt (clear : Bool) (s : GPTIMER) : Bool × GPTIMER :=
  let cleared (i : Fin 2) : GPTIMER :=
    if clear then { s with timers := Function.update s.timers i (s.timers i).clear_interrupt } else s
  if (s.timers 0).check_interrupt then (true, cleared 0)
  else if (s.timers 1).check_interrupt then (true, cleared 1)
  else (false, s)

def tick_and_check_interrupt_unlocked (clear_interrupt : Bool) (s : GPTIMER) : Bool × GPTIMER :=
  s.Tick.check_interrupt clear_interrupt

/-- The two phases of `advance_unlocked` that find the number of prescaler ticks and the value that
`SCALER` is left with. -/
def prescale (n : u64) (s : GPTIMER) : u64 × u32 :=
  let sreload := s.SRELOAD &&& 0xffff
  let period := sreload + 1
  let (prescaler_ticks, SCALER, n) : u64 × u32 × u64 :=
    if s.SCALER = 0 then (1, sreload, n - 1)
    else if n ≤ s.SCALER.setWidth 64 then (0, s.SCALER - n.setWidth 32, 0)
    else (1, sreload, n - (s.SCALER + 1).setWidth 64)
  if 0 < n then
    (prescaler_ticks + n / period.setWidth 64, sreload - (n % period.setWidth 64).setWidth 32)
  else (prescaler_ticks, SCALER)

def advance_unlocked (n : u64) (clear_irq : Bool) (s : GPTIMER) : Bool × GPTIMER :=
  if n = 0 then (false, s)
  else if !s.running then (false, s)
  else
    let (prescaler_ticks, SCALER) := s.prescale n
    -- the loop does not look at the enable bit again
    let ran (i : Fin 2) : timer_impl :=
      if (s.timers i).is_enabled then timer_impl.tick^[prescaler_ticks.toNat] (s.timers i)
      else s.timers i
    let irq (i : Fin 2) : Bool := (s.timers i).is_enabled && (ran i).check_interrupt
    (irq 0 || irq 1,
      { s with
        SCALER := SCALER
        timers := fun i => if irq i && clear_irq then (ran i).clear_interrupt else ran i })

/-! ### One timer -/

namespace timer_impl

variable {t : timer_impl} {k : ℕ}

/-- The timer starts again from `TRLDVAL`. -/
def RS (t : timer_impl) : Bool := t.TCTRL.getLsbD 1

/-- The timer is enabled and stops at the next underflow. -/
def oneShot (t : timer_impl) : Bool := t.is_enabled && !t.RS

/-- `RS` survives every tick, the enable bit every tick but the underflow of a one-shot timer. -/
lemma tick_flags (t : timer_impl) :
    t.tick.RS = t.RS ∧
    t.tick.is_enabled = (t.is_enabled && (decide (t.TCNTVAL ≠ 0) || t.RS)) := by
  by_cases h0 : t.TCNTVAL = 0#32 <;> cases hr : t.TCTRL[1] <;> cases hi : t.TCTRL[3] <;>
    simp [tick, is_enabled, RS, h0, hr, hi]

lemma tick_count (hr : t.RS = false) : t.tick.TCNTVAL = t.TCNTVAL - 1 := by
  have hr : t.TCTRL[1] = false := hr
  by_cases h0 : t.TCNTVAL = 0#32 <;> cases hi : t.TCTRL[3] <;> simp [tick, h0, hr, hi]

lemma ticks_reload (t : timer_impl) (k : ℕ) :
    (tick^[k] t).RS = t.RS := by
  induction k with
  | zero => rfl
  | succ k ih => rw [Function.iterate_succ_apply', (tick_flags _).1, ih]

lemma ticks_count (hr : t.RS = false) (k : ℕ) :
    (tick^[k] t).TCNTVAL = t.TCNTVAL - BitVec.ofNat 32 k := by
  induction k with
  | zero => simp
  | succ k ih =>
    rw [Function.iterate_succ_apply', tick_count ((ticks_reload t k).trans hr), ih,
      BitVec.ofNat_add]
    generalize t.TCNTVAL = c
    bv_omega

lemma live_ticks (he : t.is_enabled = true) (h : t.oneShot = true → k ≤ t.TCNTVAL.toNat) :
    (live^[k] t).is_enabled = true ∧ live^[k] t = tick^[k] t := by
  induction k with
  | zero => exact ⟨he, rfl⟩
  | succ k ih =>
    obtain ⟨hon, heq⟩ := ih fun h1 => Nat.le_of_succ_le (h h1)
    have hstep : live^[k + 1] t = tick^[k + 1] t := by
      rw [Function.iterate_succ_apply', Function.iterate_succ_apply', ← heq]
      exact if_pos hon
    refine ⟨?_, hstep⟩
    rw [hstep, Function.iterate_succ_apply', (tick_flags _).2, ← heq, hon, heq, ticks_reload,
      Bool.true_and]
    cases hr : t.RS with
    | true => simp
    | false =>
      have hk := h (by simp [oneShot, he, hr])
      have hne : (tick^[k] t).TCNTVAL ≠ 0#32 := by
        rw [ticks_count hr]
        intro h0
        have hlt := t.TCNTVAL.isLt
        have hz : (t.TCNTVAL - BitVec.ofNat 32 k).toNat = 0 := congrArg BitVec.toNat h0
        rw [BitVec.toNat_sub, BitVec.toNat_ofNat] at hz
        omega
      simp [hne]

lemma live_stop (h : t.oneShot = true) :
    (live^[t.TCNTVAL.toNat + 1] t).is_enabled = false ∧
    live^[t.TCNTVAL.toNat + 1] t = tick^[t.TCNTVAL.toNat + 1] t := by
  obtain ⟨he, hr⟩ : t.is_enabled = true ∧ t.RS = false := by simpa [oneShot] using h
  obtain ⟨hon, heq⟩ := live_ticks he fun _ => le_refl t.TCNTVAL.toNat
  have hstep : live^[t.TCNTVAL.toNat + 1] t = tick^[t.TCNTVAL.toNat + 1] t := by
    rw [Function.iterate_succ_apply', Function.iterate_succ_apply', ← heq]
    exact if_pos hon
  refine ⟨?_, hstep⟩
  have hz : (tick^[t.TCNTVAL.toNat] t).TCNTVAL = 0 := by
    rw [ticks_count hr, BitVec.ofNat_toNat, BitVec.setWidth_eq, BitVec.sub_self]
    rfl
  rw [hstep, Function.iterate_succ_apply', (tick_flags _).2, hz, ticks_reload, hr]
  simp

lemma live_off (h : t.is_enabled = false) (k : ℕ) : live^[k] t = t :=
  Function.iterate_fixed (by simp [live, h]) k

lemma live_past (h : t.oneShot = true) (hk : t.TCNTVAL.toNat < k) :
    (live^[k] t).is_enabled = false ∧ live^[k] t = tick^[t.TCNTVAL.toNat + 1] t := by
  obtain ⟨j, rfl⟩ := Nat.exists_eq_add_of_lt hk
  obtain ⟨hoff, heq⟩ := live_stop h
  have hstay : live^[t.TCNTVAL.toNat + j + 1] t = live^[t.TCNTVAL.toNat + 1] t := by
    rw [show t.TCNTVAL.toNat + j + 1 = j + (t.TCNTVAL.toNat + 1) by omega,
      Function.iterate_add_apply, live_off hoff]
  rw [hstay]
  exact ⟨hoff, heq⟩

lemma live_count (h : t.oneShot = true) (k : ℕ) :
    ∃ j ≤ t.TCNTVAL.toNat + 1, (live^[k] t).TCNTVAL = t.TCNTVAL - BitVec.ofNat 32 j := by
  obtain ⟨he, hr⟩ : t.is_enabled = true ∧ t.RS = false := by simpa [oneShot] using h
  rcases Nat.lt_or_ge t.TCNTVAL.toNat k with hk | hk
  · exact ⟨_, le_rfl, by rw [(live_past h hk).2, ticks_count hr]⟩
  · exact ⟨k, by omega, by rw [(live_ticks he fun _ => hk).2, ticks_count hr]⟩

end timer_impl

/-! ### The unit -/

open timer_impl (live)

variable {s : GPTIMER} {n : ℕ}

/-- The value that the prescaler starts again from. -/
def reload (s : GPTIMER) : ℕ := (s.SRELOAD &&& 0xffff).toNat

def liveAll (T : Fin 2 → timer_impl) : Fin 2 → timer_impl := fun i => (T i).live

/-- The unit as a prescaler over its timers. -/
def view (s : GPTIMER) : ℕ × (Fin 2 → timer_impl) := (s.SCALER.toNat, s.timers)

lemma running_iff : s.running = true ↔ ∃ i, (s.timers i).is_enabled = true := by
  rw [running, Bool.or_eq_true, Fin.exists_fin_two]

lemma liveAll_iterate (T : Fin 2 → timer_impl) (k : ℕ) (i : Fin 2) :
    liveAll^[k] T i = live^[k] (T i) := by
  induction k with
  | zero => rfl
  | succ k ih =>
    rw [Function.iterate_succ_apply', Function.iterate_succ_apply', ← ih]
    rfl

lemma Tick_idle (h : s.running = false) : s.Tick = s := by simp [Tick, h]

lemma Tick_SRELOAD (s : GPTIMER) : s.Tick.SRELOAD = s.SRELOAD := by
  unfold Tick
  split_ifs <;> rfl

lemma ticks_reload (s : GPTIMER) (n : ℕ) : (Tick^[n] s).reload = s.reload := by
  induction n with
  | zero => rfl
  | succ n ih =>
    rw [Function.iterate_succ_apply', ← ih, reload, Tick_SRELOAD]
    rfl

lemma Tick_view (h : s.running = true) :
    s.Tick.view = Lib.Prescaler.tick s.reload liveAll s.view := by
  unfold Tick
  rw [if_pos h]
  by_cases h0 : s.SCALER = 0
  · rw [if_pos h0, show s.view = (0, s.timers) by rw [view, h0]; rfl]
    rfl
  · have hpos : s.SCALER.toNat ≠ 0 := fun h => h0 (BitVec.eq_of_toNat_eq h)
    obtain ⟨c, hc⟩ := Nat.exists_eq_succ_of_ne_zero hpos
    have hdec : (s.SCALER - 1).toNat = c := by bv_omega
    rw [if_neg h0, show s.view = (c + 1, s.timers) by rw [view, hc]]
    exact congrArg (·, s.timers) hdec

lemma ticks_view
    (h : ∀ m < n, ∃ i, (live^[fires s.reload s.SCALER.toNat m] (s.timers i)).is_enabled = true) :
    (Tick^[n] s).view =
      (left s.reload s.SCALER.toNat n, liveAll^[fires s.reload s.SCALER.toNat n] s.timers) := by
  rw [← iterate_tick]
  induction n with
  | zero => rfl
  | succ n ih =>
    have hv := ih fun m hm => h m (by omega)
    obtain ⟨i, hi⟩ := h n n.lt_succ_self
    have htimers : (Tick^[n] s).timers = liveAll^[fires s.reload s.SCALER.toNat n] s.timers := by
      rw [iterate_tick] at hv
      exact congrArg Prod.snd hv
    have hrun : (Tick^[n] s).running = true := by
      refine running_iff.mpr ⟨i, ?_⟩
      rw [htimers, liveAll_iterate]
      exact hi
    rw [Function.iterate_succ_apply', Function.iterate_succ_apply', Tick_view hrun, ticks_reload]
    exact congrArg _ hv

lemma Tick_timer (s : GPTIMER) (i : Fin 2) :
    s.Tick.timers i = (s.timers i).live ∨ s.Tick.timers i = s.timers i := by
  unfold Tick
  split_ifs
  exacts [.inl rfl, .inr rfl, .inr rfl]

lemma ticks_timer (s : GPTIMER) (n : ℕ) (i : Fin 2) :
    ∃ k, (Tick^[n] s).timers i = live^[k] (s.timers i) := by
  induction n with
  | zero => exact ⟨0, rfl⟩
  | succ n ih =>
    obtain ⟨k, hk⟩ := ih
    rw [Function.iterate_succ_apply']
    rcases Tick_timer (Tick^[n] s) i with h | h
    · exact ⟨k + 1, by rw [h, Function.iterate_succ_apply', hk]⟩
    · exact ⟨k, h.trans hk⟩

lemma ticks_idle (h : s.running = false) (n : ℕ) : Tick^[n] s = s :=
  Function.iterate_fixed (Tick_idle h) n

/-! ### The batch -/

lemma reload_lt (s : GPTIMER) : s.reload < 2 ^ 16 := by
  have h := Lib.Bits.toNat_low (a := s.SRELOAD) (n := 16) (by decide)
  have hm := Nat.mod_lt s.SRELOAD.toNat (show 0 < 2 ^ 16 by decide)
  exact h.trans_lt hm

lemma periods {sreload : u32} {m : u64} (hs : sreload.toNat < 2 ^ 16) (hm : m.toNat < 2 ^ 32) :
    (1 + m / (sreload + 1).setWidth 64).toNat = m.toNat / (sreload.toNat + 1) + 1 ∧
    (sreload - (m % (sreload + 1).setWidth 64).setWidth 32).toNat =
      sreload.toNat - m.toNat % (sreload.toNat + 1) := by
  have hp : ((sreload + 1).setWidth 64).toNat = sreload.toNat + 1 := by
    simp only [BitVec.toNat_setWidth, BitVec.toNat_add, BitVec.toNat_ofNat, BitVec.ofNat_eq_ofNat]
    omega
  have hd := Nat.div_le_self m.toNat (sreload.toNat + 1)
  have hl : m.toNat % (sreload.toNat + 1) < sreload.toNat + 1 := Nat.mod_lt _ (Nat.succ_pos _)
  constructor
  · rw [BitVec.toNat_add, BitVec.toNat_udiv, hp]
    generalize m.toNat / (sreload.toNat + 1) = q at hd ⊢
    simp only [BitVec.toNat_ofNat, BitVec.ofNat_eq_ofNat]
    omega
  · rw [BitVec.toNat_sub, BitVec.toNat_setWidth, BitVec.toNat_umod, hp]
    omega

lemma prescale_eq {n : u64} (h0 : n ≠ 0) (hn : n.toNat < 2 ^ 32) :
    (s.prescale n).1.toNat = fires s.reload s.SCALER.toNat n.toNat ∧
    (s.prescale n).2.toNat = left s.reload s.SCALER.toNat n.toNat := by
  have hr := reload_lt s
  have hpos : n.toNat ≠ 0 := fun h => h0 (BitVec.eq_of_toNat_eq h)
  -- the second phase, for what the first leaves behind a prescaler tick
  have later : ∀ m : u64, m.toNat = n.toNat - s.SCALER.toNat - 1 → s.SCALER.toNat < n.toNat →
      ∀ p : u64 × u32, p = (if 0 < m then
          (1 + m / ((s.SRELOAD &&& 0xffff) + 1).setWidth 64,
            (s.SRELOAD &&& 0xffff) - (m % ((s.SRELOAD &&& 0xffff) + 1).setWidth 64).setWidth 32)
        else (1, s.SRELOAD &&& 0xffff)) →
      p.1.toNat = fires s.reload s.SCALER.toNat n.toNat ∧
      p.2.toNat = left s.reload s.SCALER.toNat n.toNat := by
    rintro m hm hlt p rfl
    rw [Lib.Prescaler.fires_of_gt hlt, Lib.Prescaler.left_of_gt hlt, ← hm]
    split_ifs with hm0
    · exact periods hr (by omega)
    · have hz : m.toNat = 0 := by
        have : ¬ 0 < m.toNat := hm0
        omega
      rw [hz, Nat.zero_div, Nat.zero_mod]
      exact ⟨rfl, rfl⟩
  by_cases hs : s.SCALER = 0
  · have hc : s.SCALER.toNat = 0 := congrArg BitVec.toNat hs
    refine later (n - 1) (by bv_omega) (by omega) _ ?_
    simp only [prescale, if_pos hs]
  · by_cases hle : n ≤ s.SCALER.setWidth 64
    · have hle' : n.toNat ≤ s.SCALER.toNat := by bv_omega
      rw [Lib.Prescaler.fires_of_le hle', Lib.Prescaler.left_of_le hle']
      simp only [prescale, if_neg hs, if_pos hle]
      exact ⟨rfl, by rw [if_neg (by decide)]; bv_omega⟩
    · refine later (n - (s.SCALER + 1).setWidth 64) (by bv_omega) (by bv_omega) _ ?_
      simp only [prescale, if_neg hs, if_neg hle]

lemma advance_eq {n : u64} (h0 : n ≠ 0) (hrun : s.running = true) (hn : n.toNat < 2 ^ 32) :
    (s.advance_unlocked n false).2.SCALER.toNat = left s.reload s.SCALER.toNat n.toNat ∧
    ∀ i, (s.advance_unlocked n false).2.timers i =
      if (s.timers i).is_enabled then
        timer_impl.tick^[fires s.reload s.SCALER.toNat n.toNat] (s.timers i)
      else s.timers i := by
  obtain ⟨hf, hl⟩ := prescale_eq (s := s) h0 hn
  have heq : (s.advance_unlocked n false).2 =
      { s with
        SCALER := (s.prescale n).2
        timers := fun i =>
          if (s.timers i).is_enabled then timer_impl.tick^[(s.prescale n).1.toNat] (s.timers i)
          else s.timers i } := by
    simp only [advance_unlocked, if_neg h0, hrun, Bool.and_false]
    rfl
  rw [heq, ← hf, ← hl]
  exact ⟨rfl, fun i => rfl⟩

lemma tick_unlocked_eq :
    (fun s : GPTIMER => (s.tick_and_check_interrupt_unlocked false).2) = Tick := by
  funext s
  simp only [tick_and_check_interrupt_unlocked, check_interrupt]
  split_ifs <;> simp_all

/-! ### Comparison -/

/-- The registers that a tick changes. -/
def SameCounters (s t : GPTIMER) : Prop :=
  s.SCALER = t.SCALER ∧
  ∀ i, (s.timers i).TCNTVAL = (t.timers i).TCNTVAL ∧ (s.timers i).TCTRL = (t.timers i).TCTRL

/-- The bus tick at which timer `i` underflows for the first time. -/
def stopsAt (s : GPTIMER) (i : Fin 2) : ℕ :=
  s.SCALER.toNat + 1 + (s.timers i).TCNTVAL.toNat * (s.reload + 1)

/-- No one-shot timer would be ticked after it has stopped in the first `n` bus ticks, and some
timer is left at the last of them. -/
structure Outlasts (s : GPTIMER) (n : ℕ) : Prop where
  counts : ∀ i, (s.timers i).oneShot = true → n < s.stopsAt i + (s.reload + 1)
  scaler : s.running = true →
    ∃ i, (s.timers i).is_enabled = true ∧ ((s.timers i).oneShot = true → n ≤ s.stopsAt i)

lemma stopsAt_le_iff {i : Fin 2} :
    s.stopsAt i ≤ n ↔ (s.timers i).TCNTVAL.toNat < fires s.reload s.SCALER.toNat n :=
  lt_fires_iff.symm

lemma alive {i : Fin 2} (hi : (s.timers i).is_enabled = true)
    (h : (s.timers i).oneShot = true → n < s.stopsAt i) :
    (live^[fires s.reload s.SCALER.toNat n] (s.timers i)).is_enabled = true := by
  refine (timer_impl.live_ticks hi fun h1 => ?_).1
  have := h h1
  have := stopsAt_le_iff.not.mp (by omega : ¬ s.stopsAt i ≤ n)
  omega

lemma ticks_of_outlasts (hrun : s.running = true) (h : s.Outlasts n) :
    (Tick^[n] s).SCALER.toNat = left s.reload s.SCALER.toNat n ∧
    ∀ i, (Tick^[n] s).timers i =
      if (s.timers i).is_enabled then
        timer_impl.tick^[fires s.reload s.SCALER.toNat n] (s.timers i)
      else s.timers i := by
  obtain ⟨i₀, hi₀, hlast⟩ := h.scaler hrun
  have hview := ticks_view (s := s) (n := n) fun m hm =>
    ⟨i₀, alive hi₀ fun h1 => by have := hlast h1; omega⟩
  refine ⟨congrArg Prod.fst hview, fun i => ?_⟩
  have hti : (Tick^[n] s).timers i = live^[fires s.reload s.SCALER.toNat n] (s.timers i) := by
    rw [← liveAll_iterate]
    exact congrFun (congrArg Prod.snd hview) i
  rw [hti]
  cases he : (s.timers i).is_enabled with
  | false => exact timer_impl.live_off he _
  | true =>
    rw [if_pos rfl]
    by_cases hstop : (s.timers i).oneShot = true ∧ s.stopsAt i ≤ n
    · -- the underflow was the last prescaler tick of the batch
      have hle := stopsAt_le_iff.mp hstop.2
      have hlt : ¬ (s.timers i).TCNTVAL.toNat + 1 < fires s.reload s.SCALER.toNat n := by
        rw [lt_fires_iff, Nat.add_mul]
        have := h.counts i hstop.1
        rw [stopsAt] at this
        omega
      have hlast : fires s.reload s.SCALER.toNat n = (s.timers i).TCNTVAL.toNat + 1 := by omega
      rw [(timer_impl.live_past hstop.1 hle).2, hlast]
    · refine (timer_impl.live_ticks he fun h1 => ?_).2
      have := stopsAt_le_iff.not.mp fun h2 => hstop ⟨h1, h2⟩
      omega

lemma counts_of_same {i : Fin 2} (hn : n < 2 ^ 32) (h1 : (s.timers i).oneShot = true)
    (hc : (timer_impl.tick^[fires s.reload s.SCALER.toNat n] (s.timers i)).TCNTVAL =
      ((Tick^[n] s).timers i).TCNTVAL) :
    n < s.stopsAt i + (s.reload + 1) := by
  have hrs : (s.timers i).RS = false := by
    have := h1
    simp only [timer_impl.oneShot, Bool.and_eq_true, Bool.not_eq_true'] at this
    exact this.2
  obtain ⟨k, hk⟩ := ticks_timer s n i
  obtain ⟨j, hj, hcount⟩ := timer_impl.live_count h1 k
  rw [hk, hcount, timer_impl.ticks_count hrs] at hc
  have hfn : fires s.reload s.SCALER.toNat n ≤ n := fires_le
  have hT := (s.timers i).TCNTVAL.isLt
  by_contra hge
  have hpast : (s.timers i).TCNTVAL.toNat + 1 < fires s.reload s.SCALER.toNat n := by
    rw [lt_fires_iff, Nat.add_mul]
    rw [stopsAt] at hge
    omega
  have hmod := congrArg BitVec.toNat hc
  simp only [BitVec.toNat_sub, BitVec.toNat_ofNat] at hmod
  omega

lemma scaler_of_same (hrun : s.running = true)
    (hcounts : ∀ i, (s.timers i).oneShot = true → n < s.stopsAt i + (s.reload + 1))
    (hs : left s.reload s.SCALER.toNat n = (Tick^[n] s).SCALER.toNat) :
    ∃ i, (s.timers i).is_enabled = true ∧ ((s.timers i).oneShot = true → n ≤ s.stopsAt i) := by
  by_contra hnone
  have hall : ∀ i, (s.timers i).is_enabled = true →
      (s.timers i).oneShot = true ∧ s.stopsAt i < n := by
    intro i hi
    by_contra hi'
    exact hnone ⟨i, hi, fun h1 => not_lt.mp fun h2 => hi' ⟨h1, h2⟩⟩
  obtain ⟨i, hi⟩ := running_iff.mp hrun
  obtain ⟨h1, hlt⟩ := hall i hi
  have hview := ticks_view (s := s) (n := s.stopsAt i) fun m hm => ⟨i, alive hi fun _ => hm⟩
  -- at the tick at which timer `i` stops, the other one has stopped too
  have hoff : (Tick^[s.stopsAt i] s).running = false := by
    rw [Bool.eq_false_iff, Ne, running_iff]
    rintro ⟨j, hj⟩
    have htj : (Tick^[s.stopsAt i] s).timers j =
        live^[fires s.reload s.SCALER.toNat (s.stopsAt i)] (s.timers j) := by
      rw [← liveAll_iterate]
      exact congrFun (congrArg Prod.snd hview) j
    cases hej : (s.timers j).is_enabled with
    | false => rw [htj, timer_impl.live_off hej, hej] at hj; cases hj
    | true =>
      obtain ⟨hj1, hjn⟩ := hall j hej
      have hle : (s.timers j).TCNTVAL.toNat < (s.timers i).TCNTVAL.toNat + 1 := by
        refine Nat.lt_of_mul_lt_mul_right (a := s.reload + 1) ?_
        have := hcounts i h1
        rw [stopsAt] at this hjn
        rw [Nat.add_mul]
        omega
      have hji : s.stopsAt j ≤ s.stopsAt i := by
        have := Nat.mul_le_mul_right (s.reload + 1) (Nat.lt_succ_iff.mp hle)
        rw [stopsAt, stopsAt]
        omega
      rw [htj, (timer_impl.live_past hj1 (stopsAt_le_iff.mp hji)).1] at hj
      cases hj
  have hstay : Tick^[n] s = Tick^[s.stopsAt i] s := by
    obtain ⟨d, rfl⟩ := Nat.exists_eq_add_of_lt hlt
    rw [show s.stopsAt i + d + 1 = d + 1 + s.stopsAt i by omega, Function.iterate_add_apply,
      ticks_idle hoff]
  have hscaler : (Tick^[s.stopsAt i] s).SCALER.toNat = s.reload :=
    (congrArg Prod.fst hview).trans (left_of_fire _)
  -- while the batch has counted on
  have hin := hcounts i h1
  have hleft : left s.reload s.SCALER.toNat n = s.reload - (n - s.stopsAt i) := by
    rw [stopsAt] at hlt hin
    have hk : n - s.SCALER.toNat - 1 =
        n - s.stopsAt i + (s.timers i).TCNTVAL.toNat * (s.reload + 1) := by
      rw [stopsAt]
      omega
    rw [Lib.Prescaler.left_of_gt (by omega), hk, Nat.add_mul_mod_self_right,
      Nat.mod_eq_of_lt (by rw [stopsAt]; omega)]
  rw [hstay, hscaler, hleft] at hs
  omega

/-- **Batch and single ticks**: they agree exactly where the timers outlast the batch. -/
theorem advance_eq_ticks_iff (s : GPTIMER) (n : u64) (hn : n.toNat < 2 ^ 32) :
    SameCounters (s.advance_unlocked n false).2
      ((fun s => (s.tick_and_check_interrupt_unlocked false).2)^[n.toNat] s) ↔
    s.Outlasts n.toNat := by
  rw [tick_unlocked_eq]
  cases hrun : s.running with
  | false =>
    -- nothing moves
    have hbatch : (s.advance_unlocked n false).2 = s := by
      unfold advance_unlocked
      split_ifs <;> simp_all
    have hoff : ∀ i, (s.timers i).is_enabled = false := by
      intro i
      rw [Bool.eq_false_iff]
      exact fun hi => Bool.false_ne_true (hrun.symm.trans (running_iff.mpr ⟨i, hi⟩))
    rw [hbatch, ticks_idle hrun]
    refine ⟨fun _ => ⟨fun i h1 => ?_, fun h => by rw [hrun] at h; cases h⟩,
      fun _ => ⟨rfl, fun _ => ⟨rfl, rfl⟩⟩⟩
    rw [timer_impl.oneShot, hoff i] at h1
    cases h1
  | true =>
    by_cases h0 : n = 0
    · subst h0
      obtain ⟨i, hi⟩ := running_iff.mp hrun
      refine ⟨fun _ => ⟨fun i _ => Nat.lt_of_lt_of_le (Nat.succ_pos _) (Nat.le_add_left ..),
        fun _ => ⟨i, hi, fun _ => Nat.zero_le _⟩⟩, fun _ => ⟨rfl, fun _ => ⟨rfl, rfl⟩⟩⟩
    · obtain ⟨hscaler, htimers⟩ := advance_eq h0 hrun hn
      constructor
      · rintro ⟨hs, ht⟩
        have hcounts : ∀ i, (s.timers i).oneShot = true → n.toNat < s.stopsAt i + (s.reload + 1) := by
          intro i h1
          have he : (s.timers i).is_enabled = true := by
            simp only [timer_impl.oneShot, Bool.and_eq_true] at h1
            exact h1.1
          have hc := (ht i).1
          rw [htimers, if_pos he] at hc
          exact counts_of_same hn h1 hc
        exact ⟨hcounts, fun _ => scaler_of_same hrun hcounts (by rw [← hscaler, hs])⟩
      · intro h
        obtain ⟨hs, ht⟩ := ticks_of_outlasts hrun h
        refine ⟨BitVec.eq_of_toNat_eq (hscaler.trans hs.symm), fun i => ?_⟩
        rw [htimers, ht]
        exact ⟨rfl, rfl⟩

/-- A one-shot timer, and one that is reloaded, behind a prescaler of four. -/
def prescaledUnit : GPTIMER where
  SCALER := 2
  SRELOAD := 3
  CONFIG := 0
  CATCHCFG := 0
  timers := fun i => if i = 0 then { TCNTVAL := 5, TRLDVAL := 5, TCTRL := 1 }
    else { TCNTVAL := 1, TRLDVAL := 2, TCTRL := 3 }

/-- In 14 ticks of the bus both timers are ticked three times. -/
theorem advance_eq_ticks_prescaled : (14 : u64).toNat < 2 ^ 32 ∧
    SameCounters (prescaledUnit.advance_unlocked 14 false).2
      ((fun s => (s.tick_and_check_interrupt_unlocked false).2)^[(14 : u64).toNat] prescaledUnit) := by
  refine ⟨by decide, (advance_eq_ticks_iff prescaledUnit 14 (by decide)).mpr ⟨?_, ?_⟩⟩
  · decide
  · exact fun _ => ⟨0, by decide, by decide⟩

/-- Both timers as after reset, the first one enabled without `RS`. -/
def oneShotUnit : GPTIMER where
  SCALER := 0
  SRELOAD := 0
  CONFIG := 0
  CATCHCFG := 0
  timers := Function.update (fun _ => {}) 0 { TCNTVAL := 0, TRLDVAL := 5, TCTRL := 1 }

/-- At the second tick the timer has stopped, which the batch does not see. -/
theorem advance_past_stop :
    ((oneShotUnit.advance_unlocked 2 false).2.timers 0).TCNTVAL = 0xfffffffe ∧
    (((fun s => (s.tick_and_check_interrupt_unlocked false).2)^[2] oneShotUnit).timers 0).TCNTVAL =
      0xffffffff := by
  decide

end GPTIMER

end SparcEmu
