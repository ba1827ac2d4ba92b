import SparcEmu.MemInstructions

/-!
The floating-point instruction functions of `FPU_instructions.cpp`. Host arithmetic on bit
patterns is a parameter of the board.
-/

namespace SparcEmu

variable {δ : Type} (E : Board δ)

def setFreg (c : CPU) (i v : u32) : CPU := { c with freg := CPU.upd c.freg i v }

/-- A double in two registers, the high word first. -/
def fregPair (c : CPU) (i : u32) : u64 :=
  ((c.freg i).setWidth 64 <<< 32) ||| (c.freg (i + 1)).setWidth 64

def setFregPair (c : CPU) (i : u32) (v : u64) : CPU :=
  setFreg (setFreg c i ((v >>> 32).setWidth 32)) (i + 1) (v.setWidth 32)

/-- An odd register of a pair: `invalid_fp_register`. -/
def invalidFpRegister : M δ Unit := do
  modCPU fun c => c.setFtt 6
  trap SPARC_FP_EXCEPTION

/-- The checks of a floating-point load or store, in the order of the source. -/
def fpAccess (align : u32) (pair : Bool) (access : DecodeStruct → M δ Unit) : M δ Unit := do
  let d ← getD
  if !Psr.ef d.psr then trap SPARC_FP_DISABLED
  else if d.ev &&& align ≠ 0 then trap SPARC_MEMORY_ADDR_NOT_ALIGNED
  else if pair ∧ d.rd &&& 1 ≠ 0 then invalidFpRegister
  else access d

def LDF_impl : M δ Unit := fpAccess 3 false fun d => do
  let r ← memAccess E .load .b4 d.ev 0
  let nf ← noFault
  if r.1.msb ∧ !nf then trap SPARC_DATA_ACCESS_EXCEPTION
  else do
    modCPU fun c => setFreg c d.rd r.2
    advance

def LDDF_impl : M δ Unit := fpAccess 7 true fun d => do
  let r ← memAccess2 E .load d.ev 0 0
  let nf ← noFault
  if (r.1.1.msb ∨ r.2.1.msb) ∧ !nf then trap SPARC_DATA_ACCESS_EXCEPTION
  else do
    modCPU fun c => setFreg (setFreg c d.rd r.1.2) (d.rd + 1) r.2.2
    advance

/-- The return code is kept in an unsigned variable, so no failure is noticed; the access is
made with the default argument `supervisor = true`. -/
def LDFSR_impl : M δ Unit := fpAccess 3 false fun d => do
  let r ← onMMU (MMU.MemAccess E.mc .load .b4 d.ev 0 true true)
  modCPU fun c => { c with fsr := r.2 }
  advance

def STF_impl : M δ Unit := fpAccess 3 false fun d => do
  let c ← getCPU
  let r ← memAccess E .store .b4 d.ev (c.freg d.rd)
  endAccess r.1

def STDF_impl : M δ Unit := fpAccess 7 true fun d => do
  let c ← getCPU
  let r ← memAccess2 E .store d.ev (c.freg d.rd) (c.freg (d.rd + 1))
  let nf ← noFault
  if (r.1.1.msb ∨ r.2.1.msb) ∧ !nf then trap SPARC_DATA_ACCESS_EXCEPTION
  else advance

/-- As in `LDFSR_impl`, the return code is unsigned and the mode is always supervisor. -/
def STFSR_impl : M δ Unit := fpAccess 3 false fun d => do
  let c ← getCPU
  let _ ← onMMU (MMU.MemAccess E.mc .store .b4 d.ev c.fsr true true)
  advance

def STDFQ_impl : M δ Unit := throwHost (.runtime_error "STDFQ UNIMP")

/-- The branch conditions on the `fcc` field of the FSR. -/
def fbTaken (cond fcc : u32) : Bool :=
  if cond = 0b1000 then true
  else if cond = 0b0000 then false
  else if cond = 0b0111 then fcc = 3
  else if cond = 0b0110 then fcc = 2
  else if cond = 0b0101 then fcc = 3 || fcc = 2
  else if cond = 0b0100 then fcc = 1
  else if cond = 0b0011 then fcc = 3 || fcc = 1
  else if cond = 0b0010 then fcc = 1 || fcc = 2
  else if cond = 0b0001 then fcc ≠ 0
  else if cond = 0b1001 then fcc = 0
  else if cond = 0b1010 then fcc = 3 || fcc = 0
  else if cond = 0b1011 then fcc = 2 || fcc = 0
  else if cond = 0b1100 then fcc = 3 || fcc = 2 || fcc = 0
  else if cond = 0b1101 then fcc = 1 || fcc = 0
  else if cond = 0b1110 then fcc = 3 || fcc = 1 || fcc = 0
  else fcc = 0 || fcc = 1 || fcc = 2

def FBFCC_impl : M δ Unit := do
  let d ← getD
  let c ← getCPU
  if !Psr.ef d.psr then trap SPARC_FP_DISABLED
  else modD fun d =>
    let cond := (d.opcode >>> 25) &&& 0xf
    let branch := fbTaken cond ((c.fsr >>> 10) &&& 3)
    let conditional := decide (cond ≠ 0 ∧ cond ≠ 0b1000)
    d.branch branch (d.opcode.getLsbD 29 && !(branch && conditional))

/-- The single precision results of `FOP1`; `none` for the other values of `opf`. -/
def fop1Single (c : CPU) (rs1 rs2 opf : u32) : Option u32 :=
  let v1 := c.freg rs1
  let v2 := c.freg rs2
  if opf = 0b001001001 then some (E.fpu.mulS v1 v2)
  else if opf = 0b001001101 then some (E.fpu.divS v1 v2)
  else if opf = 0b001000001 then some (E.fpu.addS v1 v2)
  else if opf = 0b001000101 then some (E.fpu.subS v1 v2)
  else if opf = 0b000000001 then some v2
  else if opf = 0b000000101 then some (E.fpu.negS v2)
  else if opf = 0b000001001 then some (E.fpu.absS v2)
  else if opf = 0b000101001 then some (E.fpu.sqrtS v2)
  else if opf = 0b011000100 then some (E.fpu.itos v2)
  else if opf = 0b011010001 then some (E.fpu.stoi v2)
  else none

/-- The double precision results of `FOP1`; `none` for the other values of `opf`. -/
def fop1Double (c : CPU) (rs1 rs2 opf : u32) : Option u64 :=
  let d1 := fregPair c rs1
  let d2 := fregPair c rs2
  if opf = 0b000101010 then some (E.fpu.sqrtD d2)
  else if opf = 0b001000010 then some (E.fpu.addD d1 d2)
  else if opf = 0b001000110 then some (E.fpu.subD d1 d2)
  else if opf = 0b001001010 then some (E.fpu.mulD d1 d2)
  else if opf = 0b001001110 then some (E.fpu.divD d1 d2)
  else if opf = 0b001101001 then
    some (E.fpu.mulD (E.fpu.stod (c.freg rs1)) (E.fpu.stod (c.freg rs2)))
  else if opf = 0b011001000 then some (E.fpu.itod (c.freg rs2))
  else if opf = 0b011001001 then some (E.fpu.stod (c.freg rs2))
  else none

/-- Only the destination of `fsmuld`, `fitod` and `fstod` is checked to be even. -/
def oddPair (rd rs1 rs2 opf : u32) : Bool :=
  decide (rd &&& 1 ≠ 0) ||
    (decide (opf ≠ 0b001101001 ∧ opf ≠ 0b011001000 ∧ opf ≠ 0b011001001) &&
      (decide (rs2 &&& 1 ≠ 0) || decide (rs1 &&& 1 ≠ 0)))

def FOP1_impl : M δ Unit := do
  let d ← getD
  let c ← getCPU
  let rs2 := d.opcode &&& 0x1f
  let opf := (d.opcode >>> 5) &&& 0x1ff
  if !Psr.ef d.psr then trap SPARC_FP_DISABLED
  else if opf = 0b011010010 ∨ opf = 0b011000110 then
    if rs2 &&& 1 ≠ 0 then invalidFpRegister
    else do
      let x := fregPair c rs2
      modCPU fun c => setFreg c d.rd (if opf = 0b011010010 then E.fpu.dtoi x else E.fpu.dtos x)
      advance
  else match fop1Single E c d.rs1 rs2 opf with
    | some v => do
      modCPU fun c => setFreg c d.rd v
      advance
    | none => match fop1Double E c d.rs1 rs2 opf with
      | some v =>
        if oddPair d.rd d.rs1 rs2 opf then invalidFpRegister
        else do
          modCPU fun c => setFregPair c d.rd v
          advance
      | none => trap SPARC_ILLEGAL_INSTRUCTION

def get_fcc (v1 v2 : u32) : u32 :=
  if E.fpu.eqS v1 v2 then 0 else if E.fpu.ltS v1 v2 then 1 else if E.fpu.gtS v1 v2 then 2 else 3

def get_fccd (v1 v2 : u64) : u32 :=
  if E.fpu.eqD v1 v2 then 0 else if E.fpu.ltD v1 v2 then 1 else if E.fpu.gtD v1 v2 then 2 else 3

/-- The end of a comparison: `quiet` and `signal` are the two values of `opf` it knows. A
signalling comparison of a NaN is an IEEE 754 exception; an unknown `opf` records the trap
and then throws. -/
def compare (opf quiet signal fcc : u32) (nan : Bool) : M δ Unit :=
  let setFcc : M δ Unit := do
    modCPU fun c => { c with fsr := (c.fsr &&& ~~~(3#32 <<< 10)) ||| ((fcc &&& 3) <<< 10) }
    advance
  if opf = quiet then setFcc
  else if opf = signal then
    if nan then do
      modCPU fun c => c.setFtt 1
      modCPU fun c => { c with fsr := (c.fsr &&& ~~~0x1f#32) ||| (1 <<< 4) }
      trap SPARC_FP_EXCEPTION
    else setFcc
  else do
    modCPU fun c => c.setFtt 3
    trap SPARC_FP_EXCEPTION
    throwHost (.runtime_error "FPOP in fop2 not implemented, see trap/ftt")

def FOP2_impl : M δ Unit := do
  let d ← getD
  let c ← getCPU
  let rs2 := d.opcode &&& 0x1f
  let opf := (d.opcode >>> 5) &&& 0x1ff
  if !Psr.ef d.psr then trap SPARC_FP_DISABLED
  else if opf.getLsbD 1 then
    if d.rd &&& 1 ≠ 0 ∨ rs2 &&& 1 ≠ 0 ∨ d.rs1 &&& 1 ≠ 0 then invalidFpRegister
    else
      let v1 := fregPair c d.rs1
      let v2 := fregPair c rs2
      compare opf 0b001010010 0b001010110 (get_fccd E v1 v2) (E.fpu.isnanD v1 || E.fpu.isnanD v2)
  else
    let v1 := c.freg d.rs1
    let v2 := c.freg rs2
    compare opf 0b001010001 0b001010101 (get_fcc E v1 v2) (E.fpu.isnanS v1 || E.fpu.isnanS v2)

end SparcEmu
