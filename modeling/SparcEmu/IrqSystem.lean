import SparcEmu.DeviceErrors
import SparcEmu.IrqRegisters
import SparcEmu.IrqResponse

/-!
Interrupt controller and processors together: calls of `trigger_irq` with the wakeups behind
them, register writes of the guest, and what the loop of `CPU::run` does about interrupts, one
atomic step at a time.
-/

namespace SparcEmu

open Lib.Effect

/-- Where the loop of a processor is: before the look at the controller, before it takes an
interrupt, before the instruction, in the wait of `enter_powerdown`, or behind it. -/
inductive LoopAt | poll | take | instr | powerdown | rising
  deriving DecidableEq, Repr

/-- What interrupts have to do with of a processor. -/
structure IrqCore where
  irl : u32 := 0
  psr : u32
  trap_type : u32 := 0
  countdown : Nat := IRQ_CHECK_INTERVAL
  loop : LoopAt := .poll
  wakeup_flag : Bool := false
  deriving DecidableEq

namespace IrqCore

/-- Counts down to the look at the controller, which takes over a higher level. -/
def poll (hint : u32) (c : IrqCore) : IrqCore :=
  if c.countdown - 1 = 0 then
    { c with
      countdown := IRQ_CHECK_INTERVAL
      irl := if c.irl < hint ∧ c.trap_type = 0 then hint &&& 0xf else c.irl }
  else { c with countdown := c.countdown - 1 }

def takes (c : IrqCore) : Bool :=
  decide (c.trap_type = 0) && Psr.et c.psr && decide (Psr.pil c.psr < c.irl)

/-- Takes the interrupt and enters the trap, or enters a trap that an instruction has recorded. -/
def take (c : IrqCore) : IrqCore :=
  let c := if c.takes then { c with trap_type := c.irl + SPARC_INTERRUPT, irl := 0 } else c
  if c.trap_type ≠ 0 then
    { c with psr := trapPsr c.psr, trap_type := c.trap_type &&& ~~~0xff#32 }
  else c

end IrqCore

/-- A call of `trigger_irq` that has left its critical section, with the processor that its
loop of wakeups looks at next. -/
structure Trigger where
  IRL : u32
  next : Nat

structure IrqSys where
  intc : IRQMP
  core : Fin 8 → IrqCore
  triggers : List Trigger := []
  /-- The wakeups that writes to force registers are about to make. -/
  wakes : List (Fin 8) := []

namespace IrqSys

def wakeup (s : IrqSys) (c : Fin 8) : IrqSys :=
  { s with core := Function.update s.core c { s.core c with wakeup_flag := true } }

def setCore (s : IrqSys) (c : Fin 8) (x : IrqCore) : IrqSys :=
  { s with core := Function.update s.core c x }

end IrqSys

/-- The steps. `loop` is one turn of a loop of wakeups, `wake` the wakeup behind a write to a
force register; `instr` is an instruction, of which only its effect on the PSR and the trap type
matters here, and `powerdown` one that calls `enter_powerdown`; `rise` leaves the wait there, and
`risen` lowers the flags. -/
inductive IrqEvent
  | trigger (IRL : u32)
  | loop (k : Nat)
  | write (offset value : u32)
  | wake (k : Nat)
  | poll (c : Fin 8)
  | take (c : Fin 8)
  | instr (c : Fin 8) (psr trap_type : u32)
  | powerdown (c : Fin 8)
  | rise (c : Fin 8)
  | risen (c : Fin 8)

namespace IrqEvent

/-- The step of a processor, if it exists and its loop is at that point. -/
def onCore (s : IrqSys) (c : Fin 8) (at_ : LoopAt) (f : IrqSys → IrqSys) : Option IrqSys :=
  if c.val < s.intc.num_cpus ∧ (s.core c).loop = at_ then some (f s) else none

lemma onCore_some {s : IrqSys} {c : Fin 8} {a : LoopAt}
    (h : c.val < s.intc.num_cpus ∧ (s.core c).loop = a) (f : IrqSys → IrqSys) :
    onCore s c a f = some (f s) := if_pos h

lemma onCore_eq_some {s t : IrqSys} {c : Fin 8} {a : LoopAt} {f : IrqSys → IrqSys}
    (h : onCore s c a f = some t) : c.val < s.intc.num_cpus ∧ (s.core c).loop = a ∧ t = f s := by
  unfold onCore at h
  split_ifs at h with hc
  exact ⟨hc.1, hc.2, (Option.some.inj h).symm⟩

/-- One turn of a loop of wakeups; the last one ends the call. -/
def turn (s : IrqSys) (k : Nat) (t : Trigger) : IrqSys :=
  if h : t.next < s.intc.num_cpus then
    let c : Fin 8 := ⟨t.next, Nat.lt_of_lt_of_le h s.intc.num_le⟩
    let s := { s with triggers := s.triggers.set k { t with next := t.next + 1 } }
    if s.intc.trigger_wakes t.IRL c then s.wakeup c else s
  else { s with triggers := s.triggers.eraseIdx k }

/-- A register write, with the wakeups it makes under the mutex, or still has to make. -/
def wrote (s : IrqSys) (offset value : u32) : IrqSys :=
  match s.intc.write offset value with
  | .error _ => s
  | .ok (intc, w) =>
    if 0x80 ≤ offset ∧ offset < 0xa0 then { s with intc := intc, wakes := s.wakes ++ w }
    else w.foldl IrqSys.wakeup { s with intc := intc }

def step (e : IrqEvent) (s : IrqSys) : Option IrqSys :=
  match e with
  | .trigger IRL =>
    some { s with intc := s.intc.trigger_irq IRL, triggers := s.triggers ++ [⟨IRL, 0⟩] }
  | .loop k => (s.triggers[k]?).map fun t => turn s k t
  | .write offset value => some (wrote s offset value)
  | .wake k =>
    -- a wakeup of a processor that does not exist is undefined
    (s.wakes[k]?).bind fun c =>
      if c.val < s.intc.num_cpus then some ({ s with wakes := s.wakes.eraseIdx k }.wakeup c) else none
  | .poll c => onCore s c .poll fun s =>
      s.setCore c { (s.core c).poll (s.intc.get_irq_hint c) with loop := .take }
  | .take c => onCore s c .take fun s =>
      { s.setCore c { (s.core c).take with loop := .instr } with
        intc := if (s.core c).takes then s.intc.clear_irq (s.core c).irl c else s.intc }
  | .instr c psr trap_type => onCore s c .instr fun s =>
      s.setCore c { s.core c with psr := psr, trap_type := trap_type, loop := .poll }
  | .powerdown c => onCore s c .instr fun s => s.setCore c { s.core c with loop := .powerdown }
  | .rise c =>
    if (s.core c).wakeup_flag then onCore s c .powerdown fun s =>
      s.setCore c { s.core c with loop := .rising }
    else none
  | .risen c => onCore s c .rising fun s =>
      s.setCore c { s.core c with loop := .poll, wakeup_flag := false }

end IrqEvent

/-! ### The loop of the processor makes these steps -/

section Loop

variable {δ : Type} {E : Board δ} {intc : δ → IRQMP}

/-- `cpu_id & 7`. -/
def cpuOf (cpu_id : u32) : Fin 8 := Fin.ofNat 8 cpu_id.toNat

/-- The interrupt controller of the board is one of the devices. -/
structure Board.HasIrqmp (E : Board δ) (intc : δ → IRQMP) : Prop where
  hint : ∀ c dev, E.get_irq_hint c dev = (intc dev).get_irq_hint (cpuOf c)
  clear : ∀ irl c dev, intc (E.clear_irq irl c dev) = (intc dev).clear_irq irl (cpuOf c)

/-- The board that `main` of `sparcv8_leon_smp.cpp` builds: the controller is the one on its bus. -/
def Board.main (enable_vga : Bool) (fpu : HostFloat) (wakes : u32 → Bool) : Board Devices where
  mc := MCtrl.leon enable_vga
  fpu := fpu
  get_irq_hint c d := d.irq.get_irq_hint (cpuOf c)
  clear_irq irl c d := { d with irq := d.irq.clear_irq irl (cpuOf c) }
  wakes := wakes

lemma Board.main_hasIrqmp (enable_vga : Bool) (fpu : HostFloat) (wakes : u32 → Bool) :
    (Board.main enable_vga fpu wakes).HasIrqmp Devices.irq := ⟨fun _ _ => rfl, fun _ _ _ => rfl⟩

/-- What the system sees of a processor. -/
def IrqCore.of (at_ : LoopAt) (l : LoopSt δ) : IrqCore :=
  ⟨l.st.cpu.irl, l.st.cpu.psr, l.st.cpu.trap_type, l.irq_check_countdown, at_, l.st.cpu.wakeup_flag⟩

lemma IrqCore.of_polled (hE : E.HasIrqmp intc) (l : LoopSt δ) : IrqCore.of .take (l.polled E) =
    { (IrqCore.of .poll l).poll ((intc l.st.mem.dev).get_irq_hint (cpuOf l.st.cpu.cpu_id)) with
      loop := .take } := by
  unfold LoopSt.polled
  rw [← hE.hint]
  by_cases h : l.irq_check_countdown - 1 = 0
  · have hp : ∀ x, (IrqCore.of .poll l).poll x = { IrqCore.of .poll l with
        countdown := IRQ_CHECK_INTERVAL
        irl := if l.st.cpu.irl < x ∧ l.st.cpu.trap_type = 0 then x &&& 0xf else l.st.cpu.irl } :=
      fun x => if_pos h
    rw [if_pos h, hp]
    unfold pollIrq
    dsimp only [IrqCore.of]
    split_ifs <;> rfl
  · have hp : ∀ x, (IrqCore.of .poll l).poll x =
        { IrqCore.of .poll l with countdown := l.irq_check_countdown - 1 } := fun x => if_neg h
    rw [if_neg h, hp]
    rfl

def St.taken (E : Board δ) (s : St δ) : St δ :=
  if takesIrq s.cpu then
    { s with
      cpu := { s.cpu with trap_type := s.cpu.irl + SPARC_INTERRUPT, irl := 0 }
      mem := { s.mem with dev := E.clear_irq s.cpu.irl s.cpu.cpu_id s.mem.dev } }
  else s

lemma takeIrq_eq (s : St δ) : takeIrq E s = .ok () (s.taken E) := by
  unfold takeIrq St.taken
  split_ifs <;> rfl

/-- The state in which an iteration fetches its instruction. -/
def LoopSt.entered (E : Board δ) (l : LoopSt δ) : LoopSt δ :=
  { l with st := { l.st.taken E with
      cpu := if (l.st.taken E).cpu.trap_type ≠ 0 then enterTrap (l.st.taken E).cpu
        else (l.st.taken E).cpu } }

lemma IrqCore.of_entered (l : LoopSt δ) :
    IrqCore.of .instr (l.entered E) = { (IrqCore.of .take l).take with loop := .instr } := by
  have ht : (IrqCore.of .take l).takes = takesIrq l.st.cpu := rfl
  unfold LoopSt.entered IrqCore.take St.taken
  rw [ht]
  cases takesIrq l.st.cpu with
  | true =>
    rw [if_pos rfl, if_pos rfl]
    dsimp only [IrqCore.of]
    split_ifs <;> rfl
  | false =>
    rw [if_neg Bool.false_ne_true, if_neg Bool.false_ne_true]
    dsimp only [IrqCore.of]
    split_ifs <;> rfl

lemma entered_intc (hE : E.HasIrqmp intc) (l : LoopSt δ) : intc (l.entered E).st.mem.dev =
    if (IrqCore.of .take l).takes then
      (intc l.st.mem.dev).clear_irq l.st.cpu.irl (cpuOf l.st.cpu.cpu_id)
    else intc l.st.mem.dev := by
  have ht : (IrqCore.of .take l).takes = takesIrq l.st.cpu := rfl
  unfold LoopSt.entered St.taken
  rw [ht]
  cases takesIrq l.st.cpu with
  | true =>
    rw [if_pos rfl, if_pos rfl]
    exact hE.clear _ _ _
  | false =>
    rw [if_neg Bool.false_ne_true, if_neg Bool.false_ne_true]

lemma runOnce_entered {l t : LoopSt δ} {stop : Bool} (h : runOnce E l = .ok stop t) :
    t.irq_check_countdown = (l.polled E).irq_check_countdown ∧
      t.st.cpu.irl = ((l.polled E).entered E).st.cpu.irl := by
  unfold runOnce at h
  rw [bind_ok (checkIrq_eq l)] at h
  obtain ⟨_, l₁, h1, h2⟩ := bind_ok_iff.mp h
  obtain ⟨h1, hc1⟩ := onSt_ok h1
  obtain ⟨h2, hc2⟩ := onSt_ok h2
  refine ⟨hc2.trans hc1, (leaveLoop_irl h2).trans ?_⟩
  unfold stepInstr at h1
  rw [bind_ok (takeIrq_eq _)] at h1
  obtain ⟨_, s₂, h3, h1⟩ := bind_ok_iff.mp h1
  cases h3
  obtain ⟨c, s₃, h4, h1⟩ := bind_ok_iff.mp h1
  cases h4
  exact fetch_irl E _ _ _ rfl _ _ h1

/-- **The loop makes these steps**: an iteration of the processor model is a `poll` and a `take`
of the system, and then an instruction, which leaves the latched level and the countdown. -/
theorem runOnce_refines (hE : E.HasIrqmp intc) {l t : LoopSt δ} {stop : Bool}
    (h : runOnce E l = .ok stop t) {s : IrqSys} {c : Fin 8} (hid : cpuOf l.st.cpu.cpu_id = c)
    (hs : s.intc = intc l.st.mem.dev) (hc : c.val < s.intc.num_cpus)
    (hl : s.core c = IrqCore.of .poll l) :
    ∃ s₁ s₂, (IrqEvent.poll c).step s = some s₁ ∧ (IrqEvent.take c).step s₁ = some s₂ ∧
      s₂.intc = intc ((l.polled E).entered E).st.mem.dev ∧
      s₂.core c = IrqCore.of .instr ((l.polled E).entered E) ∧
      t.st.cpu.irl = (s₂.core c).irl ∧ t.irq_check_countdown = (s₂.core c).countdown := by
  obtain ⟨hcd, hirl⟩ := runOnce_entered h
  have hpm : (l.polled E).st.mem = l.st.mem ∧ (l.polled E).st.cpu.cpu_id = l.st.cpu.cpu_id := by
    unfold LoopSt.polled pollIrq
    split_ifs <;> exact ⟨rfl, rfl⟩
  have hp : (s.core c).loop = .poll := by rw [hl]; rfl
  have h1 : (IrqEvent.poll c).step s = some (s.setCore c (IrqCore.of .take (l.polled E))) := by
    rw [IrqCore.of_polled hE, hid, ← hs, ← hl]
    exact IrqEvent.onCore_some ⟨hc, hp⟩ fun s =>
      s.setCore c { (s.core c).poll (s.intc.get_irq_hint c) with loop := .take }
  have hcore : (s.setCore c (IrqCore.of .take (l.polled E))).core c = IrqCore.of .take (l.polled E) :=
    Function.update_self _ _ _
  have h2 := IrqEvent.onCore_some (s := s.setCore c (IrqCore.of .take (l.polled E))) (c := c)
    (a := .take) ⟨hc, by rw [hcore]; rfl⟩ fun s =>
      { s.setCore c { (s.core c).take with loop := .instr } with
        intc := if (s.core c).takes then s.intc.clear_irq (s.core c).irl c else s.intc }
  dsimp only at h2
  rw [hcore, ← IrqCore.of_entered] at h2
  obtain ⟨s₂, h2, hi, hc2⟩ : ∃ s₂, (IrqEvent.take c).step (s.setCore c (IrqCore.of .take (l.polled E)))
      = some s₂ ∧ s₂.intc = intc ((l.polled E).entered E).st.mem.dev ∧
      s₂.core c = IrqCore.of .instr ((l.polled E).entered E) := by
    refine ⟨_, h2, ?_, Function.update_self _ _ _⟩
    rw [entered_intc hE, hpm.1, hpm.2, hid, ← hs]
    rfl
  exact ⟨_, s₂, h1, h2, hi, hc2, by rw [hc2]; exact hirl, by rw [hc2]; exact hcd⟩

/-- On the machine of `main`, an iteration is a `poll` and a `take` of the controller on its bus. -/
theorem runOnce_refines_main {enable_vga : Bool} {fpu : HostFloat} {wakes : u32 → Bool}
    {l t : LoopSt Devices} {stop : Bool} (h : runOnce (.main enable_vga fpu wakes) l = .ok stop t)
    (core : Fin 8 → IrqCore) (hc : (cpuOf l.st.cpu.cpu_id).val < l.st.mem.dev.irq.num_cpus)
    (hl : core (cpuOf l.st.cpu.cpu_id) = IrqCore.of .poll l) :
    ∃ s₁ s₂, (IrqEvent.poll (cpuOf l.st.cpu.cpu_id)).step
        { intc := l.st.mem.dev.irq, core := core } = some s₁ ∧
      (IrqEvent.take (cpuOf l.st.cpu.cpu_id)).step s₁ = some s₂ ∧
      t.st.cpu.irl = (s₂.core (cpuOf l.st.cpu.cpu_id)).irl ∧
      t.irq_check_countdown = (s₂.core (cpuOf l.st.cpu.cpu_id)).countdown := by
  obtain ⟨s₁, s₂, h1, h2, -, -, hi, hd⟩ := runOnce_refines (Board.main_hasIrqmp ..) h rfl
    (s := { intc := l.st.mem.dev.irq, core := core }) rfl hc hl
  exact ⟨s₁, s₂, h1, h2, hi, hd⟩

end Loop

end SparcEmu
