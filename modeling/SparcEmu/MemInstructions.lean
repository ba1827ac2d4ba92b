import SparcEmu.Instructions

/-!
The instruction functions that access memory: loads, stores and atomics of
`CPU_instructions.cpp`, the alternate space accesses of `CPU_instructions_extensions.cpp` and
the compare and swap of `CPU_instructions_Leon3_extensions.cpp`.
-/

namespace SparcEmu

variable {δ : Type} (E : Board δ)

/-- How every load and store ends: a failed access traps unless the MMU is in no-fault mode. -/
def endAccess (ret : cint) : M δ Unit := do
  let nf ← noFault
  if ret.msb ∧ !nf then trap SPARC_DATA_ACCESS_EXCEPTION
  else advance

/-- An integer load or store: `align` are the address bits that must be zero. -/
def dataAccess (align : u32) (access : DecodeStruct → M δ cint) : M δ Unit := do
  let d ← getD
  if d.ev &&& align ≠ 0 then trap SPARC_MEMORY_ADDR_NOT_ALIGNED
  else do
    let ret ← access d
    endAccess ret

def LD : M δ Unit := dataAccess 3 fun d => load32 E d.ev d.rd false
def LDUB : M δ Unit := dataAccess 0 fun d => load8 E d.ev d.rd false
def LDUH : M δ Unit := dataAccess 1 fun d => load16 E d.ev d.rd false
def LDSB : M δ Unit := dataAccess 0 fun d => load8 E d.ev d.rd true
def LDSH : M δ Unit := dataAccess 1 fun d => load16 E d.ev d.rd true
def ST : M δ Unit := dataAccess 3 fun d => store32 E d.ev d.rd
def STB : M δ Unit := dataAccess 0 fun d => store8 E d.ev d.rd
def STH : M δ Unit := dataAccess 1 fun d => store16 E d.ev d.rd

/-- A double word access needs an even register. -/
def dataAccess64 (access : DecodeStruct → M δ cint) : M δ Unit := do
  let d ← getD
  if d.rd &&& 1 ≠ 0 then trap SPARC_ILLEGAL_INSTRUCTION
  else dataAccess 7 access

def LDD : M δ Unit := dataAccess64 fun d => load64 E d.ev (d.rd &&& ~~~1#32)
def STD : M δ Unit := dataAccess64 fun d => store64 E d.ev d.rd

/-! ### Atomics -/

/-- What a swap or compare and swap does with the result of the MMU. -/
def endAtomic (r : MMU.AtomicResult) (rd : u32) : M δ Unit := do
  let nf ← noFault
  if !r.ok ∧ !nf then trap SPARC_DATA_ACCESS_EXCEPTION
  else do
    modCPU fun c => c.write_reg r.old rd
    advance

/-- The exchange shared by `SWAP` and `SWAPA`. -/
def swapWord : M δ Unit := do
  let d ← getD
  if d.ev &&& 3 ≠ 0 then trap SPARC_MEMORY_ADDR_NOT_ALIGNED
  else do
    modCPU fun c => c.setSwap d.value
    let r ← onMMU (MMU.atomic_swap32 E.mc d.ev (Psr.s d.psr) d.value)
    endAtomic r d.rd

def SWAP : M δ Unit := swapWord E

def SWAPA : M δ Unit := do
  let d ← getD
  if (d.opcode >>> 5) &&& 0xff = 1 then
    if Psr.s d.psr then swapWord E
    else trap SPARC_PRIVILEGED_INSTRUCTION
  else UNIMP

/-- The translation and the byte exchange of `LDSTUB`; `none` where either of them fails. -/
def MMU.ldstub (mc : MCtrl δ) (vaddr : u32) (supervisor : Bool) : MmuM δ (Option u32) := do
  let m ← MMU.getMMU
  if m.get_enabled then do
    let tr ← MMU.translate_va mc vaddr supervisor .load (!m.get_no_fault)
    if tr.ok then MMU.onMem (mc.atomic_ldstub8 tr.pa) else pure none
  else MMU.onMem (mc.atomic_ldstub8 vaddr)

def LDSTUB : M δ Unit := do
  let d ← getD
  let old ← onMMU (MMU.ldstub E.mc d.ev (Psr.s d.psr))
  match old with
  | none => trap SPARC_DATA_ACCESS_EXCEPTION
  | some v => do
    modCPU fun c => (c.write_reg (v &&& 0xff) d.rd).setSwap 0xff
    advance

def CASA : M δ Unit := do
  let d ← getD
  let c ← getCPU
  let rs1_addr := c.read_reg (d.rs1 &&& 0x1f) 0
  let rs2 := d.imm_disp_rs2 &&& 0x1f
  let imm_asi := (d.imm_disp_rs2 >>> 5) &&& 0xff
  if !Psr.s d.psr ∧ imm_asi ≠ 0xA then trap SPARC_PRIVILEGED_INSTRUCTION
  else if rs1_addr &&& 3 ≠ 0 then trap SPARC_MEMORY_ADDR_NOT_ALIGNED
  else if imm_asi = 0xB ∨ imm_asi = 0xA then do
    let expected := c.read_reg (rs2 &&& 0x1f) 0
    let desired := c.read_reg (d.rd &&& 0x1f) 0
    let r ← onMMU (MMU.atomic_casa32 E.mc rs1_addr (decide (imm_asi = 0xB)) expected desired)
    endAtomic r (d.rd &&& 0x1f)
  else throwHost (.not_implemented_leon_exception "ASI != 0xb|0xa not implemented for CASA")

/-! ### Alternate spaces -/

/-- The address of an alternate space access: `r[rs1] + r[rs2]`. -/
def asiAddress (c : CPU) (d : DecodeStruct) : u32 :=
  c.read_reg d.rs1 0 + c.read_reg (d.imm_disp_rs2 &&& 0x1f) 0

def asiOf (d : DecodeStruct) : u32 := (d.imm_disp_rs2 >>> 5) &&& 0xff

/-- The value of an MMU register; reading the fault status clears it. -/
def readMMUReg (address : u32) : M δ u32 :=
  if address = 0x000 then onMMU do return (← MMU.getMMU).control_reg
  else if address = 0x100 then onMMU do return (← MMU.getMMU).ctx_tbl_ptr
  else if address = 0x200 then onMMU do return (← MMU.getMMU).ctx_n
  else if address = 0x300 then onMMU do
    let m ← MMU.getMMU
    MMU.modMMU fun m => { m with fault_status_reg := 0 }
    pure m.fault_status_reg
  else if address = 0x400 then onMMU do return (← MMU.getMMU).fault_address_reg
  else throwHost (.not_implemented_leon_exception "Address not implemented for MMU access")

def readCacheReg (offset : u32) : M δ u32 :=
  if offset = 0x0 then onMMU do return (← MMU.getMMU).ccr
  else if offset = 0x8 then onMMU do return (← MMU.getMMU).iccr
  else if offset = 0xc then onMMU do return (← MMU.getMMU).dccr
  else throwHost (.runtime_error "ASI=0x2 with offset != 0,8,c not implemented")

def LDA_impl : M δ Unit := do
  let d ← getD
  let c ← getCPU
  if !Psr.s d.psr then trap SPARC_PRIVILEGED_INSTRUCTION
  else if d.i = 1 then trap SPARC_ILLEGAL_INSTRUCTION
  else if d.op_2_3 &&& 15 ≠ 0 then
    throwHost (.runtime_error "Load Altternate op3 != 0x0 Not implemented yet")
  else do
    let address := asiAddress c d
    let value ←
      if asiOf d = ASI_M_MMUREGS then readMMUReg address
      else if asiOf d = ASI_M_MXCC then readCacheReg (address &&& 0xf)
      else if asiOf d = ASI_LEON_BYPASS then onMMU (MMU.MemAccessBypassRead4 E.mc address)
      else throwHost (.runtime_error "ASI assignment not implemented")
    modD fun d => (d.wb value).next

def writeMMUReg (address value : u32) : M δ Unit :=
  if address = 0x000 then onMMU (MMU.modMMU fun m => m.set_control_reg value)
  else if address = 0x100 then onMMU (MMU.modMMU fun m => { m with ctx_tbl_ptr := value })
  else if address = 0x200 then onMMU (MMU.modMMU fun m => { m with ctx_n := value })
  else throwHost (.runtime_error "ASI=MMUREGS with address != 0x000,100,200 not implemented")

def writeCacheReg (offset value : u32) : M δ Unit :=
  if offset = 0x0 then onMMU (MMU.modMMU fun m => { m with ccr := value })
  else if offset = 0x8 then onMMU (MMU.modMMU fun m => { m with iccr := value })
  else if offset = 0xc then onMMU (MMU.modMMU fun m => { m with dccr := value })
  else throwHost (.runtime_error "ASI=0x2 with offset != 0,8,c not implemented")

def STA_impl : M δ Unit := do
  let d ← getD
  let c ← getCPU
  if !Psr.s d.psr then trap SPARC_PRIVILEGED_INSTRUCTION
  else if d.i = 1 then trap SPARC_ILLEGAL_INSTRUCTION
  else
    let address := asiAddress c d
    let rd_value := c.read_reg d.rd 0
    if address &&& 3 ≠ 0 then trap SPARC_MEMORY_ADDR_NOT_ALIGNED
    else do
      if asiOf d = ASI_M_MMUREGS then writeMMUReg address rd_value
      else if asiOf d = ASI_M_MXCC then writeCacheReg (address &&& 0xf) rd_value
      else if asiOf d = ASI_LEON_DFLUSH then pure ()
      else if asiOf d = ASI_LEON_MMUFLUSH then onMMU (MMU.modMMU MMU.flush)
      else if asiOf d = ASI_LEON_BYPASS then
        onMMU (MMU.MemAccessBypassWrite4 E.mc address rd_value)
      else throwHost (.runtime_error "ASI assignment not implemented")
      advance

end SparcEmu
