import SparcEmu.UartFifo
import SparcEmu.Gptimer
import SparcEmu.Lib.Loop

/-!
The batches of `BusClock::run`: the ticks that are due go to the timer in pieces that end where the
divider of the serial port is full.
-/

namespace SparcEmu

open Lib.Loop

namespace APBUART

def tick_scheduled (stdin : Option u8) (c : Console) (s : APBUART) : Console × APBUART :=
  let s := if s.t_ints_enabled then { s with tx_emptied_int_pending := true } else s
  s.input_scheduled stdin c

/-- The interrupt of the transmitter is an edge, that of the receiver a level. -/
def check_irq (s : APBUART) : Bool × APBUART :=
  if s.r_ints_enabled && decide (s.len ≠ 0) then (true, s)
  else if s.t_ints_enabled && s.tx_emptied_int_pending then
    (true, { s with tx_emptied_int_pending := false })
  else (false, s)

end APBUART

/-- What the loop works on. `stdin k` is what the standard input gives to the `k`-th tick of the
serial port; the batches that went to the timer and the ticks of the serial port are on record. -/
structure BusClock where
  uart_div : u32
  remaining : u64
  dev : Devices
  console : Console := {}
  tick_count : u64 := 0
  stdin : Nat → Option u8 := fun _ => none
  batches : List u64 := []
  uart_ticks : Nat := 0

namespace BusClock

/-- Up to the next tick of the serial port. -/
def batch (uart_div_target : u32) (l : BusClock) : u64 :=
  let to_uart := (uart_div_target - l.uart_div).setWidth 64
  if l.remaining < to_uart then l.remaining else to_uart

def advanceTimer (batch : u64) (l : BusClock) : BusClock :=
  let (fire_timer_irq, timer) := l.dev.timer.advance_unlocked batch true
  let l := { l with
    dev := { l.dev with timer := timer }
    uart_div := l.uart_div + batch.setWidth 32
    remaining := l.remaining - batch
    batches := l.batches ++ [batch] }
  if fire_timer_irq then { l with dev := l.dev.trigger 8, tick_count := l.tick_count + 1 } else l

def tickUart (l : BusClock) : BusClock :=
  let (console, uart) := l.dev.uart.tick_scheduled (l.stdin l.uart_ticks) l.console
  let (irq, uart) := uart.check_irq
  let dev := { l.dev with uart := uart }
  { l with
    uart_div := 0
    console := console
    dev := if irq then dev.trigger 4 else dev
    uart_ticks := l.uart_ticks + 1 }

def body (uart_div_target : u32) (l : BusClock) : BusClock :=
  let l := l.advanceTimer (l.batch uart_div_target)
  if uart_div_target ≤ l.uart_div then l.tickUart else l

/-- The loop over the ticks that are due, given up after so many turns. -/
def run (uart_div_target : u32) : Nat → BusClock → Option BusClock :=
  loop (fun l => decide (0 < l.remaining)) (body uart_div_target)

variable {t : u32} {l : BusClock}

/-! ### One turn -/

lemma toNat_batch (hu : l.uart_div < t) :
    (l.batch t).toNat = min l.remaining.toNat (t.toNat - l.uart_div.toNat) := by
  rw [BitVec.lt_def] at hu
  have hto : ((t - l.uart_div).setWidth 64).toNat = t.toNat - l.uart_div.toNat := by
    have := t.isLt
    rw [BitVec.toNat_setWidth, BitVec.toNat_sub]
    omega
  unfold batch
  dsimp only
  split_ifs with hlt <;> rw [BitVec.lt_def, hto] at hlt
  · omega
  · omega

lemma advanceTimer_counts (n : u64) (l : BusClock) :
    (l.advanceTimer n).uart_div = l.uart_div + n.setWidth 32 ∧
    (l.advanceTimer n).remaining = l.remaining - n ∧
    (l.advanceTimer n).batches = l.batches ++ [n] ∧ (l.advanceTimer n).uart_ticks = l.uart_ticks := by
  unfold advanceTimer
  rcases l.dev.timer.advance_unlocked n true with ⟨_ | _, timer⟩
  · exact ⟨rfl, rfl, rfl, rfl⟩
  · exact ⟨rfl, rfl, rfl, rfl⟩

lemma tickUart_counts (l : BusClock) : l.tickUart.uart_div = 0 ∧
    l.tickUart.remaining = l.remaining ∧ l.tickUart.batches = l.batches ∧
    l.tickUart.uart_ticks = l.uart_ticks + 1 := ⟨rfl, rfl, rfl, rfl⟩

/-- All ticks that were given to the timer. -/
def given (l : BusClock) : Nat := (l.batches.map BitVec.toNat).sum

/-- **The invariant** of the loop: what was given to the timer and what remains is what was due, and
the serial port has had a tick for every full divider. -/
structure Counts (t : u32) (u d : Nat) (l : BusClock) : Prop where
  below : l.uart_div < t
  due : l.given + l.remaining.toNat = d
  divided : u + l.given = l.uart_ticks * t.toNat + l.uart_div.toNat

lemma Counts.turn {u d : Nat} (h : Counts t u d l) (hrem : 0 < l.remaining) :
    Counts t u d (body t l) ∧ (body t l).remaining.toNat < l.remaining.toNat := by
  obtain ⟨hbelow, hdue, hdiv⟩ := h
  have hbatch := toNat_batch hbelow
  rw [BitVec.lt_def] at hbelow hrem
  obtain ⟨hd, hr, hb, hk⟩ := advanceTimer_counts (l.batch t) l
  have htlt := t.isLt
  have hpos : 0 < (l.batch t).toNat := by
    have hzero : (0 : u64).toNat = 0 := rfl
    omega
  -- the numbers behind the advance of the timer
  have hdiv' : (l.advanceTimer (l.batch t)).uart_div.toNat = l.uart_div.toNat + (l.batch t).toNat := by
    rw [hd, BitVec.toNat_add, BitVec.toNat_setWidth]
    omega
  have hrem' : (l.advanceTimer (l.batch t)).remaining.toNat = l.remaining.toNat - (l.batch t).toNat := by
    have := l.remaining.isLt
    rw [hr, BitVec.toNat_sub]
    omega
  have hgiven : (l.advanceTimer (l.batch t)).given = l.given + (l.batch t).toNat := by
    unfold given
    rw [hb, List.map_append, List.sum_append]
    rfl
  unfold body
  dsimp only
  split_ifs with hfull
  · obtain ⟨hd₂, hr₂, hb₂, hk₂⟩ := tickUart_counts (l.advanceTimer (l.batch t))
    have hgiven₂ : (l.advanceTimer (l.batch t)).tickUart.given = l.given + (l.batch t).toNat := by
      unfold given at hgiven ⊢
      rw [hb₂]
      exact hgiven
    rw [BitVec.le_def, hdiv'] at hfull
    refine ⟨⟨?_, ?_, ?_⟩, ?_⟩
    · rw [hd₂, BitVec.lt_def]
      show 0 < t.toNat
      omega
    · rw [hgiven₂, hr₂, hrem']
      omega
    · rw [hgiven₂, hk₂, hk, hd₂, Nat.succ_mul]
      show u + _ = _ + t.toNat + 0
      omega
    · rw [hr₂, hrem']
      omega
  · rw [BitVec.le_def, hdiv'] at hfull
    refine ⟨⟨?_, ?_, ?_⟩, ?_⟩
    · rw [BitVec.lt_def, hdiv']
      omega
    · rw [hgiven, hrem']
      omega
    · rw [hgiven, hk, hdiv']
      omega
    · rw [hrem']
      omega

/-! ### The loop -/

/-- **Batching**: the loop ends; the batches add up to the ticks that were due, the serial port has a
tick for each time the divider is full, and the rest stays on the divider. -/
theorem bus_batches (t : u32) (l : BusClock) (hu : l.uart_div < t) (hb : l.batches = [])
    (hk : l.uart_ticks = 0) :
    ∃ l', (∀ n ≥ l.remaining.toNat, run t n l = some l') ∧ l'.remaining = 0 ∧
      (l'.batches.map BitVec.toNat).sum = l.remaining.toNat ∧
      l'.uart_ticks = (l.uart_div.toNat + l.remaining.toNat) / t.toNat ∧
      l'.uart_div.toNat = (l.uart_div.toNat + l.remaining.toNat) % t.toNat := by
  have hgiven : l.given = 0 := by
    unfold given
    rw [hb]
    rfl
  have hinit : Counts t l.uart_div.toNat l.remaining.toNat l := by
    refine ⟨hu, ?_, ?_⟩
    · rw [hgiven, Nat.zero_add]
    · rw [hgiven, hk, Nat.zero_mul, Nat.zero_add, Nat.add_zero]
  obtain ⟨l', ⟨hbelow, hdue, hdiv⟩, hend, hrun⟩ :
      ∃ l', Counts t l.uart_div.toNat l.remaining.toNat l' ∧ decide (0 < l'.remaining) = false ∧
        ∀ n ≥ l.remaining.toNat, run t n l = some l' :=
    loop_ends _ (fun l => l.remaining.toNat) (fun l h hc => h.turn (of_decide_eq_true hc)) hinit
  have hzero : l'.remaining = 0 := by
    apply BitVec.eq_of_toNat_eq
    have := of_decide_eq_false hend
    rw [BitVec.lt_def] at this
    have hz : (0 : u64).toNat = 0 := rfl
    omega
  rw [hzero] at hdue
  rw [BitVec.lt_def] at hbelow
  have hall : l'.given = l.remaining.toNat := hdue
  rw [hall] at hdiv
  refine ⟨l', hrun, hzero, hall, ?_, ?_⟩
  · rw [hdiv, Nat.mul_comm, Nat.mul_add_div (by omega), Nat.div_eq_of_lt hbelow, Nat.add_zero]
  · rw [hdiv, Nat.mul_comm, Nat.mul_add_mod, Nat.mod_eq_of_lt hbelow]

/-- Seven ticks at a divider of three that stands at two: batches of one, three and three. -/
theorem bus_batches_seven :
    (⟨2, 7, Devices.reset, {}, 0, fun _ => none, [], 0⟩ : BusClock).uart_div < 3 ∧
    ∃ l', run 3 7 ⟨2, 7, Devices.reset, {}, 0, fun _ => none, [], 0⟩ = some l' ∧
      l'.uart_ticks = 3 ∧ l'.uart_div.toNat = 0 := by
  refine ⟨by decide, ?_⟩
  obtain ⟨l', hrun, -, -, hticks, hdiv⟩ := bus_batches 3
    ⟨2, 7, Devices.reset, {}, 0, fun _ => none, [], 0⟩ (by decide) rfl rfl
  exact ⟨l', hrun 7 (by decide), hticks, hdiv⟩

end BusClock

end SparcEmu
