import SparcEmu.Mmu

/-!
The processor state of `CPU.h`, the decode structure, register windows, traps, and the
transfers between memory and registers of `CPU.cpp`.
-/

namespace SparcEmu

inductive TerminateReason
  | NORMAL | INSTRUCTION | BREAK | STEP | TRAP_CONDITIONAL | UNIMPLEMENTED | RECV_SIGINT
  | TIMER_INTERRUPT | POWER_DOWN
  deriving DecidableEq, Repr

structure RunSummary where
  reason : TerminateReason
  instr_count : Nat
  last_opcode : u32
  deriving DecidableEq, Repr

/-- A breakpoint of the debugger stub and the instruction it replaced. -/
structure Breakpoint where
  addr : u32
  original_instr : u32
  deriving DecidableEq, Repr

structure GdbStub where
  breakpoints : List Breakpoint

def GdbStub.has_breakpoint (g : GdbStub) (addr : u32) : Bool :=
  g.breakpoints.any fun bp => bp.addr = addr

def GdbStub.get_breakpoint_instruction (g : GdbStub) (addr : u32) : u32 :=
  match g.breakpoints.find? fun bp => bp.addr = addr with
  | some bp => bp.original_instr
  | none => 0

inductive Handler
  | UNIMP | CALL | BICC | SETHI | SLL | SRL | SRA | RDY | RDPSR | RDWIM | RDTBR | WRY | WRPSR
  | WRWIM | WRTBR | JMPL | RETT | TICC | SAVE | RESTORE | FLUSH | MULSCC | LD | LDUB | LDUH | LDD
  | LDSB | LDSH | ST | STB | STH | STD | SWAP | SWAPA | LDSTUB | MUL | DIV | ADD | AND
  | STA_impl | LDA_impl | CASA | LDF_impl | LDDF_impl | LDFSR_impl | STF_impl | STDF_impl
  | STFSR_impl | STDFQ_impl | FBFCC_impl | FOP1_impl | FOP2_impl
  deriving DecidableEq, Repr

inductive WriteBackType | NO_WRITEBACK | WRITEBACKREG
  deriving DecidableEq, Repr

structure DecodeStruct where
  opcode : u32 := 0
  function : Handler := .UNIMP
  rd : u32 := 0
  rs1 : u32 := 0
  rs1_value : u32 := 0
  imm_disp_rs2 : u32 := 0
  ev : u32 := 0
  op_2_3 : u32 := 0
  i : u32 := 0
  pc : u32 := 0
  npc : u32 := 0
  psr : u32 := 0
  wb_type : WriteBackType := .NO_WRITEBACK
  value : u32 := 0
  value1 : u32 := 0
  deriving DecidableEq

/-- The register files are indexed as the source indexes its arrays. -/
structure CPU where
  pc : u32
  npc : u32
  psr : u32
  irl : u32
  trap_type : u32
  tbr : u32
  wim : u32
  y_reg : u32
  cpu_id : u32
  fsr : u32
  cwp_base : u32
  globals : u32 → u32
  locals : u32 → u32
  outs : u32 → u32
  freg : u32 → u32
  running : Bool
  power_down_enabled : Bool
  powerdown_flag : Bool
  wakeup_flag : Bool
  interrupt : Bool
  rs : RunSummary
  gdb_stub : Option GdbStub

/-- Host arithmetic on single and double precision bit patterns, and what the host makes of a
shift by 32 or more, which C++ leaves undefined. -/
structure HostFloat where
  mulS : u32 → u32 → u32
  divS : u32 → u32 → u32
  addS : u32 → u32 → u32
  subS : u32 → u32 → u32
  negS : u32 → u32
  absS : u32 → u32
  sqrtS : u32 → u32
  itos : u32 → u32
  stoi : u32 → u32
  dtoi : u64 → u32
  dtos : u64 → u32
  sqrtD : u64 → u64
  addD : u64 → u64 → u64
  subD : u64 → u64 → u64
  mulD : u64 → u64 → u64
  divD : u64 → u64 → u64
  stod : u32 → u64
  itod : u32 → u64
  eqS : u32 → u32 → Bool
  ltS : u32 → u32 → Bool
  gtS : u32 → u32 → Bool
  isnanS : u32 → Bool
  eqD : u64 → u64 → Bool
  ltD : u64 → u64 → Bool
  gtD : u64 → u64 → Bool
  isnanD : u64 → Bool
  shlOver : u32 → u32 → u32
  deriving Inhabited

/-- What a run works with and does not change: the memory map, the devices, the host's
arithmetic, the two operations of the interrupt controller that the run loop calls, and which
processors another thread wakes when they wait. -/
structure Board (δ : Type) where
  mc : MCtrl δ
  fpu : HostFloat
  get_irq_hint : u32 → δ → u32
  clear_irq : u32 → u32 → δ → δ
  wakes : u32 → Bool

structure St (δ : Type) where
  cpu : CPU
  mmu : MMU
  mem : Mem δ
  d : DecodeStruct

abbrev M (δ : Type) := EStateM HostError (St δ)

/-- `reset`, on a processor as `main` constructs it. -/
def CPU.reset (cpu_id entry_va : u32) : CPU where
  pc := entry_va
  npc := entry_va + 4
  psr := (1 <<< 5) ||| (0 <<< 6) ||| (1 <<< 7) ||| (1 <<< 12) ||| (3 <<< 24) ||| (0xf <<< 28)
  irl := 0
  trap_type := 0
  tbr := 0
  wim := 2
  y_reg := 0
  cpu_id := cpu_id
  fsr := 3 <<< 17
  cwp_base := 0
  globals := fun _ => 0
  locals := fun _ => 0
  outs := fun _ => 0
  freg := fun _ => 0
  running := false
  power_down_enabled := true
  powerdown_flag := false
  wakeup_flag := false
  interrupt := false
  rs := ⟨.NORMAL, 0, 0⟩
  gdb_stub := none

/-- A board with RAM banks only, no interrupts and nobody to wake a processor. -/
def Board.ram (banks : List (u32 × Nat)) : Board Unit where
  mc := .ram banks
  fpu := default
  get_irq_hint := fun _ _ => 0
  clear_irq := fun _ _ d => d
  wakes := fun _ => false

/-- A machine after reset, with empty memory, that has fetched `opcode` in user mode. -/
def St.user (opcode : u32) : St Unit where
  cpu := { CPU.reset 0 0 with psr := (CPU.reset 0 0).psr &&& ~~~(1#32 <<< 7) }
  mmu := MMU.init
  mem := ⟨fun _ _ => 0, ()⟩
  d := { opcode := opcode }

/-! ### The register windows -/

namespace CPU

def update_cwp_bases (c : CPU) : CPU := { c with cwp_base := (c.psr &&& 0x1f) <<< 3 }

/-- Index of an out register of the current window. -/
def outIdx (c : CPU) (r : u32) : u32 := c.cwp_base ||| (r &&& 7)

/-- Index, in the same array, of an in register. -/
def inIdx (c : CPU) (r : u32) : u32 := ((c.cwp_base + 8) &&& (NWINDOWS * 8 - 1)) ||| (r &&& 7)

/-- `read_reg`; `old` is what the out-parameter held, left alone for other register numbers. -/
def read_reg (c : CPU) (reg_no old : u32) : u32 :=
  if reg_no = GLOBALREG8 then c.globals 8
  else if reg_no >>> 3 = 0 then c.globals (reg_no &&& 7)
  else if reg_no >>> 3 = 1 then c.outs (c.outIdx reg_no)
  else if reg_no >>> 3 = 2 then c.locals (c.outIdx reg_no)
  else if reg_no >>> 3 = 3 then c.outs (c.inIdx reg_no)
  else old

def upd (f : u32 → u32) (i v : u32) : u32 → u32 := fun j => if j = i then v else f j

def write_reg (c : CPU) (value reg_no : u32) : CPU :=
  if reg_no = GLOBALREG8 then { c with globals := upd c.globals 8 value }
  else if (reg_no >>> 3) &&& 3 = 0 then
    { c with globals := upd (upd c.globals (reg_no &&& 7) value) 0 0 }
  else if (reg_no >>> 3) &&& 3 = 1 then { c with outs := upd c.outs (c.outIdx reg_no) value }
  else if (reg_no >>> 3) &&& 3 = 2 then { c with locals := upd c.locals (c.outIdx reg_no) value }
  else { c with outs := upd c.outs (c.inIdx reg_no) value }

/-- `*p_swap_reg = value`. -/
def setSwap (c : CPU) (value : u32) : CPU := { c with globals := upd c.globals 8 value }

/-- The floating-point trap type field of the FSR. -/
def setFtt (c : CPU) (ftt : u32) : CPU :=
  { c with fsr := (c.fsr &&& ~~~(7#32 <<< 14)) ||| ((ftt &&& 7) <<< 14) }

end CPU

/-! ### Access to the parts of the state -/

variable {δ : Type}

def getCPU : M δ CPU := fun s => .ok s.cpu s

lemma getCPU_bind {α : Type} {f : CPU → M δ α} {s : St δ} :
    (getCPU >>= f) s = f s.cpu s := rfl

def modCPU (f : CPU → CPU) : M δ Unit := fun s => .ok () { s with cpu := f s.cpu }

def getD : M δ DecodeStruct := fun s => .ok s.d s

lemma getD_bind {α : Type} {f : DecodeStruct → M δ α} {s : St δ} :
    (getD >>= f) s = f s.d s := rfl

def modD (f : DecodeStruct → DecodeStruct) : M δ Unit := fun s => .ok () { s with d := f s.d }

def throwHost {α : Type} (e : HostError) : M δ α := fun s => .error e s

/-- What the MMU of the machine works on. -/
abbrev St.bus (s : St δ) : MMUSt δ := ⟨s.mmu, s.mem⟩

/-- A method of the MMU, called from the processor. -/
def onMMU {α : Type} (m : MmuM δ α) : M δ α := fun s =>
  match m ⟨s.mmu, s.mem⟩ with
  | .ok a t => .ok a { s with mmu := t.mmu, mem := t.mem }
  | .error e t => .error e { s with mmu := t.mmu, mem := t.mem }

/-- `mmu.get_no_fault()`. -/
def noFault : M δ Bool := fun s => .ok s.mmu.get_no_fault s

/-- `d->pc = d->npc; d->npc += 4`. -/
def DecodeStruct.next (d : DecodeStruct) : DecodeStruct := { d with pc := d.npc, npc := d.npc + 4 }

/-- The value that `write_back` will put into `rd`. -/
def DecodeStruct.wb (d : DecodeStruct) (value : u32) : DecodeStruct :=
  { d with wb_type := .WRITEBACKREG, value := value }

def advance : M δ Unit := modD DecodeStruct.next

/-- Records a trap, to be entered before the next instruction. -/
def trap (trap_no : u32) : M δ Unit := do
  let c ← getCPU
  let d ← getD
  if Psr.et c.psr then
    modCPU fun c => { c with trap_type := (c.trap_type &&& ~~~0xff#32) ||| (trap_no &&& 0xff) }
  else do
    modCPU fun c => { c with rs :=
      { c.rs with last_opcode := d.opcode, reason := .TRAP_CONDITIONAL } }
    throwHost (.runtime_error "Trap in trap")

variable (E : Board δ)

/-- Returns, with both flags down, if `wakeup` has been called or another thread calls it. -/
def enter_powerdown : M δ Unit := do
  let c ← getCPU
  if c.wakeup_flag || E.wakes c.cpu_id then
    modCPU fun c => { c with powerdown_flag := false, wakeup_flag := false }
  else do
    modCPU fun c => { c with powerdown_flag := true }
    throwHost .blocked

/-! ### Between memory and a register -/

/-- `MemAccess` in the mode that the PSR of the processor says. -/
def memAccess (rw : Intent) (size : AccessSize) (va value : u32) : M δ (cint × u32) := do
  let c ← getCPU
  onMMU (MMU.MemAccess E.mc rw size va value (Psr.s c.psr) true)

/-- A load that ends in a register; `ext` is the sign extension of the value. -/
def loadReg (size : AccessSize) (ext : u32 → u32) (va rd : u32) : M δ cint := do
  let r ← memAccess E .load size va 0
  if r.1 = 0 then do
    modCPU fun c => c.write_reg (ext r.2) rd
    pure r.1
  else pure r.1

def load8 (va rd : u32) (signext : Bool) : M δ cint :=
  loadReg E .b1 (fun v => v ||| (if signext && v.getLsbD 7 then 0xffffff00 else 0)) va rd

def load16 (va rd : u32) (signext : Bool) : M δ cint :=
  loadReg E .b2 (fun v => v ||| (if signext && v.getLsbD 15 then 0xffff0000 else 0)) va rd

def load32 (va rd : u32) (signext : Bool) : M δ cint :=
  loadReg E .b4 (fun v => v ||| (if signext && v.getLsbD 7 then 0xffffff00 else 0)) va rd

/-- Two word accesses, at an address and four above it. -/
def memAccess2 (rw : Intent) (va v0 v1 : u32) : M δ ((cint × u32) × (cint × u32)) := do
  let r0 ← memAccess E rw .b4 va v0
  let r1 ← memAccess E rw .b4 (va + 4) v1
  pure (r0, r1)

def load64 (va rd : u32) : M δ cint := do
  let r ← memAccess2 E .load va 0 0
  if r.1.1 = 0 ∧ r.2.1 = 0 then do
    modCPU fun c => (c.write_reg r.1.2 rd).write_reg r.2.2 (rd + 1)
    pure (r.1.1 ||| r.2.1)
  else pure (r.1.1 ||| r.2.1)

def storeReg (size : AccessSize) (va rd : u32) : M δ cint := do
  let c ← getCPU
  let r ← memAccess E .store size va (c.read_reg rd 0)
  pure r.1

def store8 (va rd : u32) : M δ cint := storeReg E .b1 va rd
def store16 (va rd : u32) : M δ cint := storeReg E .b2 va rd
def store32 (va rd : u32) : M δ cint := storeReg E .b4 va rd

def store64 (va rd : u32) : M δ cint := do
  let c ← getCPU
  let r ← memAccess2 E .store va (c.read_reg rd 0) (c.read_reg (rd + 1) (c.read_reg rd 0))
  pure (r.1.1 ||| r.2.1)

end SparcEmu
