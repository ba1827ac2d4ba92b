import SparcEmu.Cpu

/-!
The instruction functions of `CPU_instructions.cpp` that do not access memory.
-/

namespace SparcEmu

variable {δ : Type} (E : Board δ)

/-- The branch condition of the low four bits of `rd`. -/
def test_cc (d : DecodeStruct) : Bool :=
  let inv := d.rd.getLsbD 3
  let p := d.psr
  if d.rd &&& 7 = 0 then inv
  else if d.rd &&& 7 = 1 then inv ^^ Psr.z p
  else if d.rd &&& 7 = 2 then inv ^^ (Psr.z p || (Psr.n p ^^ Psr.v p))
  else if d.rd &&& 7 = 3 then inv ^^ (Psr.n p ^^ Psr.v p)
  else if d.rd &&& 7 = 4 then inv ^^ (Psr.c p || Psr.z p)
  else if d.rd &&& 7 = 5 then inv ^^ Psr.c p
  else if d.rd &&& 7 = 6 then inv ^^ Psr.n p
  else inv ^^ Psr.v p

def UNIMP : M δ Unit := do
  let d ← getD
  modCPU fun c => { c with rs := { c.rs with
    reason := if d.opcode ≠ TERMINATE_INST then .UNIMPLEMENTED else .NORMAL
    last_opcode := d.opcode } }

/-! ### Control transfer -/

def CALL : M δ Unit := modD fun d =>
  { d.wb d.pc with rd := OUTREG7, pc := d.npc, npc := d.pc + 4 * d.imm_disp_rs2 }

/-- Where a branch goes: taken or not, and with the delay instruction annulled or not. -/
def DecodeStruct.branch (d : DecodeStruct) (branch annul : Bool) : DecodeStruct :=
  let npc := if branch then d.pc + 4 * sign_ext22 d.imm_disp_rs2 else d.npc + 4
  if annul then { d with pc := npc, npc := npc + 4 } else { d with pc := d.npc, npc := npc }

def BICC : M δ Unit := modD fun d =>
  let branch := test_cc d
  let annul := d.rd.getLsbD 4 &&
    ((!branch && decide (d.rd &&& 7 ≠ 0)) || decide (d.rd &&& 7 = 0))
  d.branch branch annul

def JMPL : M δ Unit := do
  let d ← getD
  if d.ev &&& 3 ≠ 0 then trap SPARC_MEMORY_ADDR_NOT_ALIGNED
  else modD fun d => { d.wb d.pc with pc := d.npc, npc := d.ev }

def RETT : M δ Unit := do
  let d ← getD
  let c ← getCPU
  let new_cwp := (Psr.cwp d.psr + 1) % NWINDOWS
  if (Psr.et d.psr && !Psr.s d.psr) || (!Psr.et d.psr && !Psr.s d.psr) then
    trap SPARC_PRIVILEGED_INSTRUCTION
  else if Psr.et d.psr && Psr.s d.psr then trap SPARC_ILLEGAL_INSTRUCTION
  else if d.ev &&& 3 ≠ 0 then trap SPARC_MEMORY_ADDR_NOT_ALIGNED
  else if (c.wim >>> new_cwp) &&& 1 ≠ 0 then trap SPARC_WINDOW_UNDERFLOW
  else modD fun d => { d with
    pc := d.npc
    npc := d.ev &&& ~~~3#32
    psr := Psr.setCwp (Psr.setEt (Psr.setS d.psr (Psr.ps d.psr)) true) (new_cwp &&& 0x1f) }

/-! ### Registers and windows -/

def SETHI : M δ Unit := modD fun d =>
  (if d.opcode = NOP then d else d.wb (d.imm_disp_rs2 <<< 10)).next

def RDY : M δ Unit := do
  let d ← getD
  let c ← getCPU
  if d.rs1 = 15 ∧ d.rd = 0 then advance
  else if d.rs1 = 0 ∧ d.op_2_3 &&& 0x2f = 0x28 then modD fun d => (d.wb c.y_reg).next
  else if d.rs1 = 17 ∧ d.op_2_3 &&& 0x2f = 0x28 then modD fun d =>
    (d.wb ((c.cpu_id <<< 28) ||| (1 <<< 26) ||| (3 <<< 10) ||| (1 <<< 8) |||
      ((NWINDOWS - 1) &&& 0x1f))).next
  else do
    UNIMP
    advance

def rdPriv (value : CPU → DecodeStruct → u32) : M δ Unit := do
  let d ← getD
  let c ← getCPU
  if Psr.s d.psr then modD fun d => (d.wb (value c d)).next
  else trap SPARC_PRIVILEGED_INSTRUCTION

def RDPSR : M δ Unit := rdPriv fun _ d => d.psr
def RDWIM : M δ Unit := rdPriv fun c _ => c.wim
def RDTBR : M δ Unit := rdPriv fun c _ => c.tbr

def WRY : M δ Unit := do
  let d ← getD
  let c ← getCPU
  if d.rd &&& 0x1f = 0 then do
    modCPU fun c => { c with y_reg := d.rs1_value ^^^ d.ev }
    advance
  else if d.rd = 19 then
    if c.power_down_enabled then do
      enter_powerdown E
      advance
    else advance
  else do
    UNIMP
    advance

def WRPSR : M δ Unit := do
  let d ← getD
  let value := d.rs1_value ^^^ d.ev
  if NWINDOWS ≤ value &&& 0x1f then trap SPARC_ILLEGAL_INSTRUCTION
  else if Psr.s d.psr then modD fun d => { d with
    psr := ((0xf0000000 ||| 0x03000000 ||| value) &&& ~~~(1#32 <<< 13)) &&&
      ~~~(0x3f#32 <<< 14) }.next
  else trap SPARC_PRIVILEGED_INSTRUCTION

/-- A write to a privileged register of the processor. -/
def wrPriv (put : CPU → u32 → CPU) : M δ Unit := do
  let d ← getD
  if Psr.s d.psr then do
    modCPU fun c => put c (d.rs1_value ^^^ d.ev)
    advance
  else trap SPARC_PRIVILEGED_INSTRUCTION

def WRWIM : M δ Unit := wrPriv fun c v => { c with wim := v &&& 0xff }
def WRTBR : M δ Unit := wrPriv fun c v => { c with tbr := v }

/-- `SAVE` and `RESTORE`: rotate to the new window, or trap when its WIM bit is set. -/
def rotate (new_cwp : DecodeStruct → u32) (trap_no : u32) : M δ Unit := do
  let d ← getD
  let c ← getCPU
  if (c.wim >>> new_cwp d) &&& 1 ≠ 0 then trap trap_no
  else modD fun d => ({ d with psr := Psr.setCwp d.psr (new_cwp d) }.wb d.ev).next

def SAVE : M δ Unit :=
  rotate (fun d => ((d.psr &&& 0x1f) - 1) % NWINDOWS) SPARC_WINDOW_OVERFLOW

def RESTORE : M δ Unit :=
  rotate (fun d => ((d.psr &&& 0x1f) + 1) % NWINDOWS) SPARC_WINDOW_UNDERFLOW

def FLUSH : M δ Unit := advance

/-! ### Shifts -/

/-- A host shift; beyond 31 the result is whatever the host makes of it. -/
def hostShl (x n : u32) : u32 := if n < 32 then x <<< n else E.fpu.shlOver x n

def SLL : M δ Unit := modD fun d => (d.wb (d.rs1_value <<< (d.ev &&& 0x1f))).next

def SRL : M δ Unit := modD fun d => (d.wb (d.rs1_value >>> (d.ev &&& 0x1f))).next

def SRA : M δ Unit := modD fun d =>
  (d.wb ((d.rs1_value >>> (d.ev &&& 0x1f)) |||
    (if d.rs1_value.getLsbD 31 ∧ d.ev ≠ 0 then hostShl E 0xffffffff (32 - (d.ev &&& 0x1f))
     else 0))).next

/-! ### Arithmetic -/

/-- One condition code in the nibble `N Z V C`. -/
def ccSet (cc : u32) (k : Nat) (b : u32) : u32 := (cc &&& ~~~(1#32 <<< k)) ||| (b <<< k)

def ofBool (b : Bool) : u32 := if b then 1 else 0

/-- `Z` and `N` from a result, `V` and `C` as given. -/
def ccResult (cc v c z : u32) : u32 :=
  ccSet (ccSet (ccSet (ccSet cc 1 v) 0 c) 2 (ofBool (decide (z = 0)))) 3 (z >>> 31 &&& 1)

def MULSCC : M δ Unit := do
  let d ← getD
  let c ← getCPU
  let cc := Psr.icc d.psr
  let x := (d.rs1_value >>> 1) ||| ((((cc >>> 1) ^^^ (cc >>> 3)) &&& 1) <<< 31)
  let y := if c.y_reg &&& 1 ≠ 0 then d.ev else 0
  let z := x + y
  let xtop := x >>> 31
  let ytop := y >>> 31
  let ztop := z >>> 31
  let v := ((xtop &&& ytop &&& ~~~ztop) ||| (~~~xtop &&& ~~~ytop &&& ztop)) &&& 1
  let carry := ((xtop &&& ytop) ||| (~~~ztop &&& (xtop ||| ytop))) &&& 1
  modCPU fun c => { c with y_reg := (c.y_reg >>> 1) ||| ((d.rs1_value &&& 1) <<< 31) }
  modD fun d => ({ d with psr := Psr.setIcc d.psr (ccResult cc v carry z) }.wb z).next

/-- Sign extension of a 32-bit operand held in 64 bits. -/
def sext64 (x : u64) : u64 := x ||| (if x &&& 0x80000000 ≠ 0 then 0xffffffff00000000 else 0)

/-- The condition codes of a multiplication or division, from its 64-bit result. -/
def ccWide (cc : u32) (z : u64) : u32 :=
  ccSet (ccSet (ccSet (ccSet cc 2 (ofBool (decide (z = 0)))) 3
    ((z >>> 31).setWidth 32 &&& 1)) 1 0) 0 0

def MUL : M δ Unit := do
  let d ← getD
  let cc := Psr.icc d.psr
  let x : u64 := d.rs1_value.setWidth 64
  let y : u64 := d.ev.setWidth 64
  let prod := if d.op_2_3 &&& 1 ≠ 0 then sext64 x * sext64 y else x * y
  let z := prod &&& 0xffffffff
  modCPU fun c => { c with y_reg := (prod >>> 32).setWidth 32 }
  modD fun d => ({ d with
    psr := if d.op_2_3 &&& 0x10 ≠ 0 then Psr.setIcc d.psr (ccWide cc z) else d.psr }.wb
      (z.setWidth 32)).next

/-- The quotient and remainder of the host: signed division truncates, and the one quotient
that does not fit traps. -/
def hostDiv (signed : Bool) (x y : u64) : Except HostError (u64 × u64) :=
  if signed then
    if x = 0x8000000000000000 ∧ y = 0xffffffffffffffff then .error .sigfpe
    else .ok (x.sdiv y, x.srem y)
  else .ok (x / y, x % y)

/-- `Y:rs1` divided by the second operand, signed for the odd opcodes. -/
def divide (c : CPU) (d : DecodeStruct) : Except HostError (u64 × u64) :=
  let signed := decide (d.op_2_3 &&& 1 ≠ 0)
  let x : u64 := (c.y_reg.setWidth 64 <<< 32) ||| d.rs1_value.setWidth 64
  let y : u64 := d.ev.setWidth 64
  hostDiv signed x (if signed then sext64 y else y)

def DIV : M δ Unit := do
  let d ← getD
  let c ← getCPU
  let cc := Psr.icc d.psr
  if d.ev.setWidth 64 = (0 : u64) then trap SPARC_DIVISION_BY_ZERO
  else
    match divide c d with
    | .error e => throwHost e
    | .ok (z, r) => do
      modCPU fun c => { c with y_reg := r.setWidth 32 }
      modD fun d => ({ d with
        psr := if d.op_2_3 &&& 0x10 ≠ 0 then Psr.setIcc d.psr (ccWide cc z) else d.psr }.wb
          (z.setWidth 32)).next

/-- The sum, with its condition codes, of the general path of `ADD`. -/
def addSub (op cc x y : u32) : u32 × u32 :=
  let tag_inst := op &&& 0x20
  let tag_sub : u32 := if tag_inst ≠ 0 ∧ op &&& 1 ≠ 0 then 1 else 0
  let y_sign := if op &&& 4 ≠ 0 ∨ tag_sub ≠ 0 then ~~~y else y
  let carry := (((op >>> 2) ||| tag_sub) ^^^ (cc &&& (~~~tag_sub &&& (op >>> 3)))) &&& 1
  let z := x + y_sign + carry
  let xtop := (x >>> 31) &&& 1
  let ytop := (y_sign >>> 31) &&& 1
  let ztop := (z >>> 31) &&& 1
  let tag_overflow : u32 := if tag_inst ≠ 0 ∧ (x &&& 3 ≠ 0 ∨ y &&& 3 ≠ 0) then 1 else 0
  let v := (((xtop &&& ytop &&& ~~~ztop) ||| (~~~xtop &&& ~~~ytop &&& ztop)) &&& 1) |||
    tag_overflow
  let c := ((op >>> 2) ^^^ ((xtop &&& ytop) ||| (~~~ztop &&& (xtop ||| ytop)))) &&& 1
  (z, ccResult cc v c z)

def ADD : M δ Unit := do
  let d ← getD
  if d.op_2_3 = 0 then modD fun d => (d.wb (d.rs1_value + d.ev)).next
  else
    let r := addSub d.op_2_3 (Psr.icc d.psr) d.rs1_value d.ev
    if d.op_2_3 &&& 0x22 = 0x22 ∧ r.2 &&& 2 ≠ 0 then trap SPARC_TAG_OVERFLOW
    else modD fun d => ({ d with
      psr := if d.op_2_3 &&& 0x10 ≠ 0 ∨ d.op_2_3 &&& 0x20 ≠ 0 then Psr.setIcc d.psr r.2
        else d.psr }.wb r.1).next

def AND : M δ Unit := modD fun d =>
  if d.op_2_3 &&& 0x14 = 0 then
    let z := if d.op_2_3 &&& 3 = 1 then d.rs1_value &&& d.ev
      else if d.op_2_3 &&& 3 = 2 then d.rs1_value ||| d.ev
      else d.rs1_value ^^^ d.ev
    (d.wb z).next
  else
    let y_sign := if d.op_2_3 &&& 4 ≠ 0 then ~~~d.ev else d.ev
    let z := if d.op_2_3 &&& 3 = 1 then d.rs1_value &&& y_sign
      else if d.op_2_3 &&& 3 = 2 then d.rs1_value ||| y_sign
      else if d.op_2_3 &&& 3 = 3 then d.rs1_value ^^^ y_sign
      else 0
    ({ d with psr := if d.op_2_3 &&& 0x10 ≠ 0 then
      Psr.setIcc d.psr (ccResult (Psr.icc d.psr) 0 0 z) else d.psr }.wb z).next

lemma AND_eq : ∃ z : DecodeStruct → u32, (AND : M δ Unit) = modD fun d =>
    ({ d with psr := if d.op_2_3 &&& 0x10 ≠ 0 then
      Psr.setIcc d.psr (ccResult (Psr.icc d.psr) 0 0 (z d)) else d.psr }.wb (z d)).next := by
  refine ⟨fun d =>
    if d.op_2_3 &&& 0x14 = 0 then
      if d.op_2_3 &&& 3 = 1 then d.rs1_value &&& d.ev
      else if d.op_2_3 &&& 3 = 2 then d.rs1_value ||| d.ev
      else d.rs1_value ^^^ d.ev
    else
      let y_sign := if d.op_2_3 &&& 4 ≠ 0 then ~~~d.ev else d.ev
      if d.op_2_3 &&& 3 = 1 then d.rs1_value &&& y_sign
      else if d.op_2_3 &&& 3 = 2 then d.rs1_value ||| y_sign
      else if d.op_2_3 &&& 3 = 3 then d.rs1_value ^^^ y_sign
      else 0, ?_⟩
  unfold AND
  refine congrArg modD (funext fun d => ?_)
  by_cases h : d.op_2_3 &&& 0x14 = 0
  · -- the bit for the codes is one of those looked at
    have hcc : ¬ d.op_2_3 &&& 0x10 ≠ 0 := by
      rw [not_not, show (0x10 : u32) = 0x14 &&& 0x10 from rfl, ← BitVec.and_assoc, h]
      rfl
    dsimp only
    rw [if_pos h, if_pos h, if_neg hcc]
  · dsimp only
    rw [if_neg h, if_neg h]

end SparcEmu
