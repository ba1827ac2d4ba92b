import SparcEmu.ApbSlaves
import SparcEmu.Ac97

/-!
The devices on the bus: the APB bridge with its slaves, the windows of the sound device and the PCI
configuration space, as the memory controller calls them.

Which accesses throw is decided by the address, the size and, for two registers, the value: the
frame buffer address and the control register that starts playback.
-/

namespace SparcEmu

structure Devices where
  /-- The 256 bytes at the start of the bridge. -/
  mem : Nat → u8 := fun _ => 0
  uart : APBUART := {}
  irq : IRQMP
  timer : GPTIMER
  uart9 : APBUART := {}
  pci : GRPCI2 := {}
  svga : SVGA := {}
  ps2 : APBPS2 := {}
  ac97 : AC97Pci := .init_pci_config
  /-- Calls of `wakeup`, the last one first. -/
  woken : List (Fin 8) := []

def bswap32 (x : u32) : u32 :=
  (x <<< 24) ||| ((x &&& 0xff00) <<< 8) ||| ((x &&& 0xff0000) >>> 8) ||| (x >>> 24)

def bswap16 (x : u16) : u16 := (x <<< 8) ||| (x >>> 8)

namespace Devices

/-- The devices as their constructors leave them, for one processor. -/
def reset : Devices where
  irq := { num_cpus := 1, num_le := one_le_eight }
  timer := { SCALER := 31, SRELOAD := 31, CONFIG := 0x142, CATCHCFG := 0, timers := fun _ => {} }

/-! ### The APB bridge -/

/-- The addresses that `check_range` lets through. -/
def apbRange (va : u32) : Bool := 0x80000000 ≤ va.toNat && va.toNat < 0x80000000 + 0xfe000

def apbSlave (va : u32) : u32 := (va &&& 0xfff00) >>> 8

def apbReg (va : u32) : u32 := va &&& 0xff

def memByte (d : Devices) (va : u32) (k : Nat) : u32 := (d.mem ((apbReg va).toNat + k)).setWidth 32

def memWord (d : Devices) (va : u32) : u32 :=
  (d.memByte va 0 <<< 24) ||| (d.memByte va 1 <<< 16) ||| (d.memByte va 2 <<< 8) ||| d.memByte va 3

def setMemWord (d : Devices) (va v : u32) : Devices :=
  let put (f : Nat → u8) (k : Nat) (x : u32) : Nat → u8 :=
    Function.update f ((apbReg va).toNat + k) (x.setWidth 8)
  { d with mem := put (put (put (put d.mem 0 (v >>> 24)) 1 (v >>> 16)) 2 (v >>> 8)) 3 v }

/-- `APBCTRL::read32`. -/
def apbRead32 (va : u32) (d : Devices) : Except HostError (u32 × Devices) :=
  if !apbRange va then .error (.out_of_range "ROM access out of range")
  else if apbSlave va = 0x000 then .ok (d.memWord va, d)
  else if apbSlave va = 0x001 then (d.uart.read (apbReg va)).map fun r => (r.1, { d with uart := r.2 })
  else if apbSlave va = 0x002 then .ok (d.irq.read (apbReg va), d)
  else if apbSlave va = 0x003 then .ok (d.timer.read (apbReg va), d)
  else if apbSlave va = 0x004 then .ok (d.pci.read d.ac97.inta_asserted (apbReg va), d)
  else if apbSlave va = 0x009 then (d.uart9.read (apbReg va)).map fun r => (r.1, { d with uart9 := r.2 })
  else if apbSlave va = 0x005 then .ok (d.svga.read (apbReg va), d)
  else if apbSlave va = 0x006 then
    let r := d.ps2.read (apbReg va)
    .ok (r.1, { d with ps2 := r.2 })
  else .ok (0, d)

/-- `trigger_irq` with the calls of `wakeup` behind it. -/
def trigger (IRL : u32) (d : Devices) : Devices :=
  let irq := d.irq.trigger_irq IRL
  let wakes := (List.finRange 8).filter fun i => i.val < irq.num_cpus && irq.trigger_wakes IRL i
  { d with irq := irq, woken := wakes.reverse ++ d.woken }

/-- `APBCTRL::write32`. -/
def apbWrite32 (banks : List IMemoryBank) (va v : u32) (d : Devices) : Except HostError Devices :=
  if !apbRange va then .error (.out_of_range "ROM access out of range")
  else if apbSlave va = 0x000 then .ok (d.setMemWord va v)
  else if apbSlave va = 0x001 then (d.uart.write (apbReg va) v).map fun u => { d with uart := u }
  else if apbSlave va = 0x002 then
    (d.irq.write (apbReg va) v).map fun r => { d with irq := r.1, woken := r.2.reverse ++ d.woken }
  else if apbSlave va = 0x003 then .ok { d with timer := d.timer.write (apbReg va) v }
  else if apbSlave va = 0x004 then .ok { d with pci := d.pci.write (apbReg va) v }
  else if apbSlave va = 0x009 then (d.uart9.write (apbReg va) v).map fun u => { d with uart9 := u }
  else if apbSlave va = 0x005 then
    (d.svga.write banks (apbReg va) v).map fun g => { d with svga := g }
  else if apbSlave va = 0x006 then
    let r := d.ps2.write (apbReg va) v
    let d := { d with ps2 := r.1 }
    .ok (if r.2 then d.trigger 5 else d)
  else .ok d

/-- The bridge has words only; the halfwords of a bank are made of its bytes. -/
def apbRead (size : AccessSize) (va : u32) (d : Devices) : Except HostError (u32 × Devices) :=
  match size with
  | .b4 => d.apbRead32 va
  | _ => .error (.logic_error "read8 not available in APBCTRL")

def apbWrite (banks : List IMemoryBank) (size : AccessSize) (va v : u32) (d : Devices) :
    Except HostError Devices :=
  match size with
  | .b4 => d.apbWrite32 banks va v
  | _ => .error (.logic_error "write8 not available in APBCTRL")

/-! ### The windows of the sound device -/

/-- `PCIMMIOBank`: the device is little endian. -/
def mmioRead (size : AccessSize) (addr : u32) (d : Devices) : Except HostError (u32 × Devices) :=
  match size with
  | .b4 => (d.ac97.io_read32 addr).map fun r => (bswap32 r.1, { d with ac97 := r.2 })
  | .b2 =>
    (d.ac97.io_read16 addr).map fun r =>
      ((bswap16 (r.1.setWidth 16)).setWidth 32, { d with ac97 := r.2 })
  | .b1 => (d.ac97.io_read8 addr).map fun r => (r.1, { d with ac97 := r.2 })

/-! ### The PCI configuration space -/

def PCI_IO_BASE : u32 := 0xfffa0000
def PCI_CONF_BASE : u32 := 0xfffb0000

def inArea (base addr : u32) : Bool :=
  base.toNat ≤ addr.toNat && addr.toNat < base.toNat + 0x10000

def cfgSlot (addr : u32) : u32 := (((addr - PCI_CONF_BASE) >>> 8) &&& 0xff) >>> 3

def cfgReg (addr : u32) : u32 := (addr - PCI_CONF_BASE) &&& 0xfc

def cfgDone (d : Devices) : Devices := { d with pci := d.pci.signal_pci_cfg_access_complete }

def allOnes : AccessSize → u32
  | .b1 => 0xff
  | .b2 => 0xffff
  | .b4 => 0xffffffff

def config_read (size : AccessSize) (addr : u32) (d : Devices) : Except HostError (u32 × Devices) :=
  if cfgSlot addr ≠ 6 then .ok (allOnes size, d.cfgDone)
  else
    match size with
    | .b4 => .ok (bswap32 (d.ac97.config_read32 (cfgReg addr)), d.cfgDone)
    | _ => .error (.runtime_error "Config reads for 8 and 16 bits not implemented.")

def config_write (size : AccessSize) (addr v : u32) (d : Devices) : Except HostError Devices :=
  if cfgSlot addr ≠ 6 then .ok d.cfgDone
  else
    match size with
    | .b4 => .ok (cfgDone { d with ac97 := d.ac97.config_write32 (cfgReg addr) (bswap32 v) })
    | _ => .error (.char_ptr "Config reads for 8 and 16 bits not implemented.")

def sizeBits : AccessSize → String
  | .b1 => "8"
  | .b2 => "16"
  | .b4 => "32"

def misaligned (size : AccessSize) (addr : u32) : Bool :=
  match size with
  | .b1 => false
  | .b2 => decide (addr &&& 1 ≠ 0)
  | .b4 => decide (addr &&& 3 ≠ 0)

/-- `PCIIOCfgArea`. -/
def cfgRead (align : Bool) (size : AccessSize) (addr : u32) (d : Devices) :
    Except HostError (u32 × Devices) :=
  if align && misaligned size addr then
    .error (.runtime_error ("Unaligned " ++ sizeBits size ++ "-bit read at 0x" ++ IRQMP.to_hex addr))
  else if inArea PCI_CONF_BASE addr then d.config_read size addr
  else if inArea PCI_IO_BASE addr then .ok (allOnes size, d)
  else .error (.runtime_error ("PCI read" ++ sizeBits size ++ " out of bounds, addr=" ++
    IRQMP.to_hex addr))

def cfgWrite (size : AccessSize) (addr v : u32) (d : Devices) : Except HostError Devices :=
  if inArea PCI_CONF_BASE addr then d.config_write size addr v
  else if inArea PCI_IO_BASE addr then .ok d
  else .error (.runtime_error ("PCI write" ++ sizeBits size ++ " out of bounds, addr=" ++
    IRQMP.to_hex addr))

/-! ### All devices -/

/-- The numbers are those of the banks of `MCtrl.main`. -/
def read (align : Bool) (id : Nat) (size : AccessSize) (addr : u32) (d : Devices) :
    Except HostError (u32 × Devices) :=
  match id with
  | 0 => d.apbRead size addr
  | 1 | 2 => d.mmioRead size addr
  | 3 => d.cfgRead align size addr
  | _ => .ok (0, d)

/-- `MCtrl::read16` and `read32`, as the sound device calls them for a descriptor. What it reads in
memory is a function of the host bytes. -/
def busRead (banks : List IMemoryBank) (size : AccessSize) (addr : u32) (d : Devices) :
    Except HostError ((HostBytes → u32) × Devices) :=
  match MCtrl.findFrom addr banks 0 with
  | none => .error (.out_of_range ("[MCTRL] Out of range: 0x" ++ IRQMP.to_hex addr))
  | some (i, b) =>
    match b.kind with
    | .device id _ => (d.read true id size addr).map fun r => (fun _ => r.1, r.2)
    | _ => .ok (fun h => memRead h b i addr size, d)

/-- The rest of a request to start playback: the descriptor is read, then playback starts. -/
def startPlayback (banks : List IMemoryBank) (bd_addr : u32) (d : Devices) :
    Except HostError (HostBytes → Devices) := do
  let (ptr, d) ← d.busRead banks .b4 bd_addr
  let (len, d) ← d.busRead banks .b2 (bd_addr + 4)
  let (ctl, d) ← d.busRead banks .b2 (bd_addr + 6)
  pure fun h =>
    { d with
      ac97 := d.ac97.po_start (bswap32 (ptr h)) (bswap16 ((len h).setWidth 16))
        (bswap16 ((ctl h).setWidth 16)) }

def mmioWrite (banks : List IMemoryBank) (size : AccessSize) (addr v : u32) (d : Devices) :
    Except HostError (HostBytes → Devices) :=
  match size with
  | .b4 => (d.ac97.io_write32 addr (bswap32 v)).map fun a _ => { d with ac97 := a }
  | .b2 => .ok fun _ => { d with ac97 := d.ac97.io_write16 addr (bswap16 (v.setWidth 16)) }
  | .b1 =>
    match d.ac97.io_write8 (fun a => (MCtrl.findFrom a banks 0).isSome) addr (v.setWidth 8) with
    | .error e => .error e
    | .ok (a, none) => .ok fun _ => { d with ac97 := a }
    | .ok (a, some bd_addr) => startPlayback banks bd_addr { d with ac97 := a }

def write (banks : List IMemoryBank) (id : Nat) (size : AccessSize) (addr v : u32) (d : Devices) :
    Except HostError (HostBytes → Devices) :=
  match id with
  | 0 => (d.apbWrite banks size addr v).map fun d _ => d
  | 1 | 2 => d.mmioWrite banks size addr v
  | 3 => (d.cfgWrite size addr v).map fun d _ => d
  | _ => .ok fun _ => d

end Devices

end SparcEmu
