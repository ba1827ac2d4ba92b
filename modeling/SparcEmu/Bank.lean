import SparcEmu.Defines

/-!
The memory controller of `MCTRL.h`: memory banks, the host bytes behind them, and the devices.

The host buffer of a bank is a total function of the offset. Offsets from `0` up to the
bank's size are the guest's memory; the others are the host bytes around the buffer, which
a raw pointer can reach. The checks under `#ifndef NDEBUG` are not part of the model: both
build types that the build files select define `NDEBUG`.
-/

namespace SparcEmu

inductive Endian | Little | Big
  deriving DecidableEq, Repr

/-- What `get_ptr` does on a bank without a host buffer. -/
inductive DevPtr | nullptr | throws
  deriving DecidableEq, Repr

inductive BankKind
  | RamBank
  | RomBank (writeable : Bool)
  | device (id : Nat) (ptr : DevPtr)
  deriving DecidableEq, Repr

structure IMemoryBank where
  kind : BankKind
  base : u32
  size : Nat
  bankEndian : Endian := .Big
  deriving DecidableEq, Repr

inductive AccessSize | b1 | b2 | b4
  deriving DecidableEq, Repr

structure HostPtr where
  bank : Nat
  off : Int
  deriving DecidableEq

/-- The host bytes of all banks, by bank number and offset. -/
abbrev HostBytes := Nat → Int → u8

def setByte (h : HostBytes) (i : Nat) (o : Int) (v : u8) : HostBytes :=
  fun j q => if j = i ∧ q = o then v else h j q

structure Mem (δ : Type) where
  bytes : HostBytes
  dev : δ

/-- The register accesses of the devices. Whether an access throws, and what a read returns,
is decided by the devices; a write may look at the host bytes (a descriptor fetch), and none
writes them. What a device has fetched does not decide whether a later write throws. -/
structure DeviceOps (δ : Type) where
  read : Nat → AccessSize → u32 → δ → Except HostError (u32 × δ)
  write : Nat → AccessSize → u32 → u32 → δ → Except HostError (HostBytes → δ)
  write_throws : ∀ id size addr v dev f, write id size addr v dev = .ok f →
    ∀ id' size' addr' v' h h',
      (write id' size' addr' v' (f h)).isOk = (write id' size' addr' v' (f h')).isOk

lemma DeviceOps.quiet_throws (_ : Nat) (_ : AccessSize) (_ _ : u32) (_ : Unit) (f : HostBytes → Unit)
    (_ : (Except.ok fun _ => () : Except HostError (HostBytes → Unit)) = .ok f) (_ : Nat)
    (_ : AccessSize) (_ _ : u32) (_ _ : HostBytes) :
    (Except.ok fun _ => () : Except HostError (HostBytes → Unit)).isOk =
      (Except.ok fun _ => () : Except HostError (HostBytes → Unit)).isOk := rfl

structure MCtrl (δ : Type) where
  banks : List IMemoryBank
  dev : DeviceOps δ

namespace IMemoryBank

def contains (b : IMemoryBank) (addr : u32) : Bool :=
  b.base.toNat ≤ addr.toNat && addr.toNat < b.base.toNat + b.size

/-- The index `addr - base` of the source, computed on 32 bits. -/
def offset (b : IMemoryBank) (addr : u32) : Int := ((addr - b.base).toNat : Int)

def isDevice (b : IMemoryBank) : Bool :=
  match b.kind with
  | .device _ _ => true
  | _ => false

/-- Whether the bank has a host buffer; throws where `get_ptr` does. -/
def get_ptr (b : IMemoryBank) : Except HostError Bool :=
  match b.kind with
  | .RamBank => .ok true
  | .RomBank _ => .ok true
  | .device _ .nullptr => .ok false
  | .device _ .throws => .error (.runtime_error "Cannot use get_ptr on pci cfg/io.")

variable {b : IMemoryBank}

lemma kind_device (h : b.isDevice = true) : ∃ id p, b.kind = .device id p := by
  unfold isDevice at h
  split at h
  · exact ⟨_, _, ‹_›⟩
  · cases h

lemma kind_memory (h : b.isDevice = false) : b.kind = .RamBank ∨ ∃ w, b.kind = .RomBank w := by
  unfold isDevice at h
  cases hk : b.kind with
  | RamBank => exact .inl rfl
  | RomBank w => exact .inr ⟨w, rfl⟩
  | device id p => rw [hk] at h; cases h

lemma get_ptr_memory (h : b.isDevice = false) : b.get_ptr = .ok true := by
  unfold get_ptr
  rcases kind_memory h with hk | ⟨w, hk⟩ <;> rw [hk]

end IMemoryBank

/-! ### Through a raw pointer, most significant byte first -/

def byteAt (h : HostBytes) (p : HostPtr) (k : Int) : u32 := (h p.bank (p.off + k)).setWidth 32

def ptrRead (h : HostBytes) (p : HostPtr) : AccessSize → u32
  | .b1 => byteAt h p 0
  | .b2 => (byteAt h p 0 <<< 8) ||| byteAt h p 1
  | .b4 => (byteAt h p 0 <<< 24) ||| (byteAt h p 1 <<< 16) ||| (byteAt h p 2 <<< 8) |||
      byteAt h p 3

def putByte (h : HostBytes) (p : HostPtr) (k : Int) (v : u32) : HostBytes :=
  setByte h p.bank (p.off + k) (v.setWidth 8)

def ptrWrite (h : HostBytes) (p : HostPtr) (v : u32) : AccessSize → HostBytes
  | .b1 => putByte h p 0 v
  | .b2 => putByte (putByte h p 0 (v >>> 8)) p 1 v
  | .b4 => putByte (putByte (putByte (putByte h p 0 (v >>> 24)) p 1 (v >>> 16)) p 2 (v >>> 8))
      p 3 v

/-- The bytes of a word, the most significant first. -/
def wordBytes (w : u32) : List u8 :=
  [(w >>> 24).setWidth 8, (w >>> 16).setWidth 8, (w >>> 8).setWidth 8, w.setWidth 8]

/-! ### The accessors of a bank -/

/-- Where byte `k` of an access at `addr` lives. A `RamBank` indexes its buffer once and adds
to the pointer; a `RomBank` indexes it anew for every address. -/
def bytePtr (b : IMemoryBank) (i : Nat) (addr : u32) (k : Nat) : HostPtr :=
  match b.kind with
  | .RomBank _ => ⟨i, b.offset (addr + BitVec.ofNat 32 k)⟩
  | _ => ⟨i, b.offset addr + k⟩

/-- The significance of byte `k` of an access in the bank's byte order, as a shift. -/
def byteShift (e : Endian) (size : AccessSize) (k : Nat) : Nat :=
  match size, e with
  | .b1, _ => 0
  | .b2, .Big => 8 * (1 - k)
  | .b4, .Big => 8 * (3 - k)
  | _, .Little => 8 * k

def bankByte (h : HostBytes) (b : IMemoryBank) (i : Nat) (size : AccessSize) (addr : u32)
    (k : Nat) : u32 :=
  byteAt h (bytePtr b i addr k) 0 <<< byteShift b.bankEndian size k

/-- `read8_nolock`, `read16_nolock` and `read32_nolock` on a bank with a host buffer. -/
def memRead (h : HostBytes) (b : IMemoryBank) (i : Nat) (addr : u32) : AccessSize → u32
  | .b1 => bankByte h b i .b1 addr 0
  | .b2 => bankByte h b i .b2 addr 0 ||| bankByte h b i .b2 addr 1
  | .b4 => bankByte h b i .b4 addr 0 ||| bankByte h b i .b4 addr 1 |||
      bankByte h b i .b4 addr 2 ||| bankByte h b i .b4 addr 3

def putBankByte (h : HostBytes) (b : IMemoryBank) (i : Nat) (size : AccessSize) (addr v : u32)
    (k : Nat) : HostBytes :=
  putByte h (bytePtr b i addr k) 0 (v >>> byteShift b.bankEndian size k)

/-- `write8_nolock`, `write16_nolock` and `write32_nolock` on a bank with a host buffer. -/
def memWrite (h : HostBytes) (b : IMemoryBank) (i : Nat) (addr v : u32) : AccessSize → HostBytes
  | .b1 => putBankByte h b i .b1 addr v 0
  | .b2 => putBankByte (putBankByte h b i .b2 addr v 0) b i .b2 addr v 1
  | .b4 => putBankByte (putBankByte (putBankByte (putBankByte h b i .b4 addr v 0)
      b i .b4 addr v 1) b i .b4 addr v 2) b i .b4 addr v 3

namespace MCtrl

variable {δ : Type}

def findFrom (addr : u32) : List IMemoryBank → Nat → Option (Nat × IMemoryBank)
  | [], _ => none
  | b :: bs, i => if b.contains addr then some (i, b) else findFrom addr bs (i + 1)

/-- The first attached bank that contains the address, with its number. -/
def get_bank (mc : MCtrl δ) (paddr : u32) : Option (Nat × IMemoryBank) :=
  findFrom paddr mc.banks 0

/-- An exception inside a `noexcept` wrapper ends the process. -/
def nolock {α : Type} : Except HostError α → Except HostError α
  | .ok a => .ok a
  | .error _ => .error .terminate

/-- The bank's own `read8_nolock`, `read16_nolock` or `read32_nolock`. -/
def bankRead (mc : MCtrl δ) (i : Nat) (b : IMemoryBank) (size : AccessSize) (addr : u32)
    (m : Mem δ) : Except HostError (u32 × Mem δ) :=
  match b.kind with
  | .device id _ => do
    let (v, dv) ← nolock (mc.dev.read id size addr m.dev)
    pure (v, { m with dev := dv })
  | _ => .ok (memRead m.bytes b i addr size, m)

/-- The bank's own `write8_nolock`, `write16_nolock` or `write32_nolock`. -/
def bankWrite (mc : MCtrl δ) (i : Nat) (b : IMemoryBank) (size : AccessSize) (addr v : u32)
    (m : Mem δ) : Except HostError (Mem δ) :=
  match b.kind with
  | .device id _ => do
    let f ← nolock (mc.dev.write id size addr v m.dev)
    pure { m with dev := f m.bytes }
  | .RomBank false => nolock (.error (.runtime_error "Write to read-only memory"))
  | _ => .ok { m with bytes := memWrite m.bytes b i addr v size }

section Memory

variable {mc : MCtrl δ} {b : IMemoryBank} {i : Nat} {size : AccessSize} {addr v : u32} {m : Mem δ}

lemma bankRead_memory (hd : b.isDevice = false) :
    mc.bankRead i b size addr m = .ok (memRead m.bytes b i addr size, m) := by
  unfold bankRead
  rcases IMemoryBank.kind_memory hd with hk | ⟨w, hk⟩ <;> rw [hk]

lemma bankWrite_memory (hd : b.isDevice = false) (hw : b.kind ≠ .RomBank false) :
    mc.bankWrite i b size addr v m = .ok { m with bytes := memWrite m.bytes b i addr v size } := by
  unfold bankWrite
  rcases IMemoryBank.kind_memory hd with hk | ⟨_ | _, hk⟩
  · rw [hk]
  · exact absurd hk hw
  · rw [hk]

end Memory

/-- `read32` behind the `noexcept` of `try_read32`; an unmapped address reads as zero. -/
def bypassRead4 (mc : MCtrl δ) (pa : u32) (m : Mem δ) : Except HostError (u32 × Mem δ) :=
  match mc.get_bank pa with
  | none => .ok (0, m)
  | some (i, b) => mc.bankRead i b .b4 pa m

def bypassWrite4 (mc : MCtrl δ) (pa v : u32) (m : Mem δ) : Except HostError (Mem δ) :=
  match mc.get_bank pa with
  | none => .ok m
  | some (i, b) => mc.bankWrite i b .b4 pa v m

/-- `atomic_ldstub8`: only a `RamBank` implements it, the other banks throw in a `noexcept`
function. The result is the old byte, `none` where no bank answers. -/
def atomic_ldstub8 (mc : MCtrl δ) (paddr : u32) (m : Mem δ) :
    Except HostError (Option u32 × Mem δ) :=
  match mc.get_bank paddr with
  | none => .ok (none, m)
  | some (i, b) =>
    match b.kind with
    | .RamBank => .ok (some (memRead m.bytes b i paddr .b1),
        { m with bytes := memWrite m.bytes b i paddr 0xff .b1 })
    | _ => .error .terminate

/-- A memory map of RAM banks only, given by base and size. -/
def ram (banks : List (u32 × Nat)) : MCtrl Unit where
  banks := banks.map fun p => ⟨.RamBank, p.1, p.2, .Big⟩
  dev := ⟨fun _ _ _ _ => .ok (0, ()), fun _ _ _ _ _ => .ok fun _ => (),
    DeviceOps.quiet_throws⟩

/-- The memory map that `main` of `sparcv8_leon_smp.cpp` builds: main memory, video memory if
the display is enabled, the two plug and play areas, the APB bridge, the PCI memory space (RAM
for descriptors and the two windows of the sound device), and the PCI configuration space. -/
def main (enable_vga : Bool) (dev : DeviceOps δ) : MCtrl δ where
  banks :=
    [⟨.RamBank, 0x40000000, 128 * 1024 * 1024, .Big⟩] ++
    (if enable_vga then [⟨.RamBank, 0x20000000, 5 * 1024 * 1024, .Big⟩] else []) ++
    [⟨.RomBank true, 0xffff0000, 64 * 1024, .Big⟩,
     ⟨.RomBank true, 0x800ff000, 4 * 1024, .Big⟩,
     ⟨.device 0 .nullptr, 0x80000000, 1024 * 1024 - 0x2000, .Big⟩,
     ⟨.RamBank, 0x24000000, 0x800, .Big⟩,
     ⟨.device 1 .nullptr, 0x24000800, 0x100, .Little⟩,
     ⟨.device 2 .nullptr, 0x24000900, 0x100, .Little⟩,
     ⟨.device 3 .throws, 0xfffa0000, 128 * 1024, .Big⟩]
  dev := dev

end MCtrl

end SparcEmu
