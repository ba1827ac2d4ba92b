import SparcEmu.Execute

/-!
The loop of `CPU::run`: interrupts, trap entry, fetch, and one instruction.
-/

namespace SparcEmu

variable {δ : Type} (E : Board δ)

/-- The loop's own variable is the countdown to the next look at the interrupt controller. -/
structure LoopSt (δ : Type) where
  st : St δ
  irq_check_countdown : Nat

abbrev LoopM (δ : Type) := EStateM HostError (LoopSt δ)

def IRQ_CHECK_INTERVAL : Nat := 64

def onSt {α : Type} (m : M δ α) : LoopM δ α := fun l =>
  match m l.st with
  | .ok a s => .ok a { l with st := s }
  | .error e s => .error e { l with st := s }

/-- Takes over a higher interrupt level while no trap is pending. -/
def pollIrq (c : CPU) (hint : u32) : CPU :=
  if c.irl < hint ∧ c.trap_type = 0 then { c with irl := hint &&& 0xf } else c

def checkIrq : LoopM δ Unit := fun l =>
  if l.irq_check_countdown - 1 = 0 then
    .ok () { l with
      irq_check_countdown := IRQ_CHECK_INTERVAL
      st := { l.st with cpu := pollIrq l.st.cpu (E.get_irq_hint l.st.cpu.cpu_id l.st.mem.dev) } }
  else .ok () { l with irq_check_countdown := l.irq_check_countdown - 1 }

/-- An interrupt above the processor's level becomes a trap. -/
def takesIrq (c : CPU) : Bool :=
  decide (c.trap_type = 0) && Psr.et c.psr && decide (Psr.pil c.psr < c.irl)

def takeIrq : M δ Unit := fun s =>
  if takesIrq s.cpu then
    .ok () { s with
      cpu := { s.cpu with trap_type := s.cpu.irl + SPARC_INTERRUPT, irl := 0 }
      mem := { s.mem with dev := E.clear_irq s.cpu.irl s.cpu.cpu_id s.mem.dev } }
  else .ok () s

/-- The PSR at trap entry: traps off, supervisor, previous window. -/
def trapPsr (p : u32) : u32 :=
  Psr.setCwp (Psr.setS (Psr.setPs (Psr.setEt p false) (Psr.s p)) true)
    (((Psr.cwp p - 1) &&& 0x1f) % NWINDOWS)

def trapTbr (c : CPU) : u32 := (c.tbr &&& ~~~0xff0#32) ||| ((c.trap_type &&& 0xff) <<< 4)

def enterTrap (c : CPU) : CPU :=
  let w := { c with psr := trapPsr c.psr }.update_cwp_bases
  let w := (w.write_reg c.pc LOCALREG1).write_reg c.npc LOCALREG2
  { w with tbr := trapTbr c, pc := trapTbr c, npc := trapTbr c + 4,
           trap_type := c.trap_type &&& ~~~0xff#32 }

def instr_fetch (virt_addr : u32) : M δ Bool := do
  let d ← getD
  let r ← memAccess E .execute .b4 virt_addr d.opcode
  modD fun d => { d with opcode := r.2 }
  if r.1.msb then do
    let m ← onMMU MMU.getMMU
    let AT := (m.fault_status_reg >>> 5) &&& 7
    if AT < 2 ∨ 3 < AT then
      throwHost (.runtime_error "AT != 2 | 3 is not possible in an instruction fetch!")
    else if m.get_no_fault then
      throwHost (.runtime_error "Unhandled error in instruction fetch (MMU nofault == 1)")
    else do
      trap SPARC_INSTRUCTION_ACCESS_EXCEPTION
      pure false
  else pure true

/-- From a pending trap to the end of the instruction. -/
def stepInstr : M δ Unit := do
  takeIrq E
  modCPU fun c => if c.trap_type ≠ 0 then enterTrap c else c
  let c ← getCPU
  let fetched ← instr_fetch E c.pc
  if fetched then excute_one E
  else do
    let c ← getCPU
    if c.trap_type = 0 then throwHost (.runtime_error "Could not fetch instruction.")
    else pure ()

/-- The end of an iteration: whether the loop is left. -/
def leaveLoop : M δ Bool := fun s =>
  if s.cpu.interrupt then
    .ok true { s with cpu := { s.cpu with
      interrupt := false, rs := { s.cpu.rs with reason := .RECV_SIGINT } } }
  else .ok (s.cpu.rs.reason = .NORMAL || s.cpu.rs.reason = .UNIMPLEMENTED) s

def runOnce : LoopM δ Bool := do
  checkIrq E
  onSt (stepInstr E)
  onSt leaveLoop

/-- The first iterations of the loop, `n` at most. -/
def runLoop : Nat → LoopM δ Unit
  | 0 => pure ()
  | n + 1 => do
    let stop ← runOnce E
    if stop then pure () else runLoop n

/-- `run` up to the loop: a fresh decode structure and countdown. -/
def enterRun (s : St δ) : LoopSt δ where
  st := { s with
    cpu := { s.cpu with running := true, rs := { s.cpu.rs with reason := .INSTRUCTION } }
    d := {} }
  irq_check_countdown := IRQ_CHECK_INTERVAL

end SparcEmu
