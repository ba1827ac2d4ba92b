import SparcEmu.FpuInstructions

/-!
Decode, dispatch and write-back: `excute_one` of `CPU.h` with its instruction tables. `TICC`
stands here because a debugger breakpoint makes it call `excute_one` again.
-/

namespace SparcEmu

variable {δ : Type} (E : Board δ)

/-! ### The tables -/

def format1 : Handler := .CALL

def format2 : List Handler :=
  [.UNIMP, .UNIMP, .BICC, .UNIMP, .SETHI, .UNIMP, .FBFCC_impl, .UNIMP]

/-- Format 3, with the names that `CPU_instr_map.h` maps to common functions already mapped. -/
def format3 : List Handler :=
  [.ADD, .AND, .AND, .AND, .ADD, .AND, .AND, .AND,
   .ADD, .UNIMP, .MUL, .MUL, .ADD, .UNIMP, .DIV, .DIV,
   .ADD, .AND, .AND, .AND, .ADD, .AND, .AND, .AND,
   .ADD, .UNIMP, .MUL, .MUL, .ADD, .UNIMP, .DIV, .DIV,
   .ADD, .ADD, .ADD, .ADD, .MULSCC, .SLL, .SRL, .SRA,
   .RDY, .RDPSR, .RDWIM, .RDTBR, .UNIMP, .UNIMP, .UNIMP, .UNIMP,
   .WRY, .WRPSR, .WRWIM, .WRTBR, .FOP1_impl, .FOP2_impl, .UNIMP, .UNIMP,
   .JMPL, .RETT, .TICC, .FLUSH, .SAVE, .RESTORE, .UNIMP, .UNIMP,
   .LD, .LDUB, .LDUH, .LDD, .ST, .STB, .STH, .STD,
   .UNIMP, .LDSB, .LDSH, .UNIMP, .UNIMP, .LDSTUB, .UNIMP, .SWAP,
   .LDA_impl, .UNIMP, .UNIMP, .UNIMP, .STA_impl, .STA_impl, .STA_impl, .STA_impl,
   .UNIMP, .UNIMP, .UNIMP, .UNIMP, .UNIMP, .UNIMP, .UNIMP, .SWAPA,
   .LDF_impl, .LDFSR_impl, .UNIMP, .LDDF_impl, .STF_impl, .STFSR_impl, .STDFQ_impl, .STDF_impl,
   .UNIMP, .UNIMP, .UNIMP, .UNIMP, .UNIMP, .UNIMP, .UNIMP, .UNIMP,
   .UNIMP, .UNIMP, .UNIMP, .UNIMP, .UNIMP, .UNIMP, .UNIMP, .UNIMP,
   .UNIMP, .UNIMP, .UNIMP, .UNIMP, .CASA, .UNIMP, .UNIMP, .UNIMP]

/-! ### Decode -/

/-- Row of `format3`: `op3` in the low six bits, the format's low bit above. -/
def formatIdx (opcode : u32) : u32 :=
  ((opcode >>> 19) &&& 0x3f) + ((((opcode >>> 30) &&& 3) &&& 1) <<< 6)

def decodeFormat1 (d : DecodeStruct) : DecodeStruct :=
  { d with function := format1, imm_disp_rs2 := d.opcode &&& 0x3fffffff }

def decodeFormat2 (d : DecodeStruct) : DecodeStruct :=
  { d with
    function := format2.getD ((d.opcode >>> 22) &&& 7).toNat .UNIMP
    rd := (d.opcode >>> 25) &&& 0x1f
    op_2_3 := (d.opcode >>> 22) &&& 7
    imm_disp_rs2 := d.opcode &&& 0x3fffff }

def decodeFields (d : DecodeStruct) : DecodeStruct :=
  { d with
    function := format3.getD (formatIdx d.opcode).toNat .UNIMP
    rd := (d.opcode >>> 25) &&& 0x1f
    op_2_3 := (d.opcode >>> 19) &&& 0x3f
    rs1 := (d.opcode >>> 14) &&& 0x1f
    i := (d.opcode >>> 13) &&& 1
    imm_disp_rs2 := d.opcode &&& 0x1fff }

/-- The operands of a format 3 instruction: `rs1`, the effective value and the register
values that stores, exchanges and conditional traps take along. -/
def decodeOperands (c : CPU) (d : DecodeStruct) : DecodeStruct :=
  let idx := formatIdx d.opcode
  let rs1_value := c.read_reg d.rs1 d.rs1_value
  let regvalue := if idx < FIRST_RS1_EVAL_IDX then 0 else rs1_value
  { d with
    rs1_value := rs1_value
    ev := if d.i ≠ 0 then regvalue + sign_ext13 d.imm_disp_rs2
      else c.read_reg (d.imm_disp_rs2 &&& 0x1f) d.ev + regvalue
    value := if idx = STORE_DBL_IDX then c.read_reg (d.rd &&& ~~~1#32) d.value
      else if idx = TICC_IDX ∧ d.i = 0 then c.read_reg (d.imm_disp_rs2 &&& 0x1f) d.value
      else if (d.opcode >>> 30) &&& 1 ≠ 0 then c.read_reg d.rd d.value
      else d.value
    value1 := if idx = STORE_DBL_IDX then c.read_reg ((d.rd &&& ~~~1#32) + 1) d.value1
      else d.value1 }

def decode (c : CPU) (d : DecodeStruct) : DecodeStruct :=
  let d : DecodeStruct := { d with pc := c.pc, npc := c.npc, psr := c.psr, wb_type := .NO_WRITEBACK }
  if (d.opcode >>> 30) &&& 3 = 1 then decodeFormat1 d
  else if (d.opcode >>> 30) &&& 3 = 0 then decodeFormat2 d
  else decodeOperands c (decodeFields d)

def CPU.write_back (c : CPU) (d : DecodeStruct) : CPU :=
  let c := { c with pc := d.pc, npc := d.npc, psr := d.psr }.update_cwp_bases
  if d.wb_type = .WRITEBACKREG then c.write_reg d.value d.rd else c

/-! ### Dispatch -/

def TA1 : u32 := 0x91d02001

/-- The instruction that a breakpoint of the debugger hides, if `ta 1` is one of them. -/
def breakpointAt (c : CPU) (d : DecodeStruct) : Option u32 :=
  match c.gdb_stub with
  | some g =>
    if d.opcode = TA1 ∧ g.has_breakpoint c.pc then some (g.get_breakpoint_instruction c.pc)
    else none
  | none => none

def ticcTrap (d : DecodeStruct) : u32 :=
  if d.i ≠ 0 then 128 + ((d.rs1_value + sign_ext7 (d.opcode &&& 0x7f)) &&& 0x7f)
  else 128 + ((d.value + d.rs1_value) &&& 0x7f)

/-- At a breakpoint the debugger is notified and the hidden instruction is executed. The
debugger resumes the processor without changing it. -/
def TICC (excute_one : M δ Unit) : M δ Unit := do
  let d ← getD
  let c ← getCPU
  match breakpointAt c d with
  | some bp_i => do
    modD fun d => { d with opcode := bp_i }
    excute_one
  | none =>
    if test_cc d then trap (ticcTrap d)
    else advance

def Handler.exec (excute_one : M δ Unit) : Handler → M δ Unit
  | .UNIMP => SparcEmu.UNIMP
  | .CALL => SparcEmu.CALL
  | .BICC => SparcEmu.BICC
  | .SETHI => SparcEmu.SETHI
  | .SLL => SparcEmu.SLL
  | .SRL => SparcEmu.SRL
  | .SRA => SparcEmu.SRA E
  | .RDY => SparcEmu.RDY
  | .RDPSR => SparcEmu.RDPSR
  | .RDWIM => SparcEmu.RDWIM
  | .RDTBR => SparcEmu.RDTBR
  | .WRY => SparcEmu.WRY E
  | .WRPSR => SparcEmu.WRPSR
  | .WRWIM => SparcEmu.WRWIM
  | .WRTBR => SparcEmu.WRTBR
  | .JMPL => SparcEmu.JMPL
  | .RETT => SparcEmu.RETT
  | .TICC => SparcEmu.TICC excute_one
  | .SAVE => SparcEmu.SAVE
  | .RESTORE => SparcEmu.RESTORE
  | .FLUSH => SparcEmu.FLUSH
  | .MULSCC => SparcEmu.MULSCC
  | .LD => SparcEmu.LD E
  | .LDUB => SparcEmu.LDUB E
  | .LDUH => SparcEmu.LDUH E
  | .LDD => SparcEmu.LDD E
  | .LDSB => SparcEmu.LDSB E
  | .LDSH => SparcEmu.LDSH E
  | .ST => SparcEmu.ST E
  | .STB => SparcEmu.STB E
  | .STH => SparcEmu.STH E
  | .STD => SparcEmu.STD E
  | .SWAP => SparcEmu.SWAP E
  | .SWAPA => SparcEmu.SWAPA E
  | .LDSTUB => SparcEmu.LDSTUB E
  | .MUL => SparcEmu.MUL
  | .DIV => SparcEmu.DIV
  | .ADD => SparcEmu.ADD
  | .AND => SparcEmu.AND
  | .STA_impl => SparcEmu.STA_impl E
  | .LDA_impl => SparcEmu.LDA_impl E
  | .CASA => SparcEmu.CASA E
  | .LDF_impl => SparcEmu.LDF_impl E
  | .LDDF_impl => SparcEmu.LDDF_impl E
  | .LDFSR_impl => SparcEmu.LDFSR_impl E
  | .STF_impl => SparcEmu.STF_impl E
  | .STDF_impl => SparcEmu.STDF_impl E
  | .STFSR_impl => SparcEmu.STFSR_impl E
  | .STDFQ_impl => SparcEmu.STDFQ_impl
  | .FBFCC_impl => SparcEmu.FBFCC_impl
  | .FOP1_impl => SparcEmu.FOP1_impl E
  | .FOP2_impl => SparcEmu.FOP2_impl E

/-- `excute_one` with the calls of `TICC` counted: the host's stack ends somewhere. -/
def excuteOneN : Nat → M δ Unit
  | 0 => throwHost .stack_overflow
  | n + 1 => do
    let c ← getCPU
    modD (decode c)
    let d ← getD
    d.function.exec E (excuteOneN n)
    let d ← getD
    modCPU fun c => c.write_back d

/-- Two calls are enough for every instruction that ends: see `excuteOneN_stable`. -/
def excute_one : M δ Unit := excuteOneN E 2

end SparcEmu
