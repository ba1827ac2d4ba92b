import SparcEmu.HostMemory
import SparcEmu.Lib.Interleave
import Mathlib.Logic.Function.Basic

/-!
Several processors on one RAM bank, step by step.

An atomic instruction takes the mutex of the page's shard, reads the bank, writes the bank
and releases the mutex. A store with the MMU on takes no mutex: it writes through a host
pointer, whether the store cache had the pointer or the access has just filled it.
-/

namespace SparcEmu

open Function Lib.Interleave

structure Loc (b : IMemoryBank) (size : AccessSize) where
  paddr : u32
  inside : b.contains paddr = true
  aligned : paddr.toNat % size.bytes = 0

inductive MemOp (b : IMemoryBank)
  | LDSTUB (l : Loc b .b1)
  | SWAP (l : Loc b .b4) (value : u32)
  | CASA (l : Loc b .b4) (expected desired : u32)
  | STB (l : Loc b .b1) (value : u32)
  | ST (l : Loc b .b4) (value : u32)

namespace MemOp

variable {b : IMemoryBank}

def size : MemOp b → AccessSize
  | LDSTUB _ => .b1
  | SWAP _ _ => .b4
  | CASA _ _ _ => .b4
  | STB _ _ => .b1
  | ST _ _ => .b4

def paddr : MemOp b → u32
  | LDSTUB l => l.paddr
  | SWAP l _ => l.paddr
  | CASA l _ _ => l.paddr
  | STB l _ => l.paddr
  | ST l _ => l.paddr

def isStore : MemOp b → Bool
  | STB _ _ => true
  | ST _ _ => true
  | _ => false

/-- What the instruction writes once it has read `old`, if it writes. -/
def update : MemOp b → u32 → Option u32
  | LDSTUB _, _ => some 0xff
  | SWAP _ value, _ => some value
  | CASA _ expected desired, old => if old = expected then some desired else none
  | STB _ value, _ => some value
  | ST _ value, _ => some value

def shard (op : MemOp b) : Nat := ((op.paddr >>> 12) &&& 63).toNat

/-- The write of an atomic instruction under the mutex. -/
def put (op : MemOp b) (i : Nat) (old : u32) (h : HostBytes) : HostBytes :=
  match op.update old with
  | some v => memWrite h b i op.paddr v op.size
  | none => h

/-- The instruction at once: the value it loads and the bytes it leaves. -/
def exec (op : MemOp b) (i : Nat) (h : HostBytes) : Option u32 × HostBytes :=
  match op with
  | STB l value => (none, ptrWrite h ⟨i, b.offset l.paddr⟩ value .b1)
  | ST l value => (none, ptrWrite h ⟨i, b.offset l.paddr⟩ value .b4)
  | op => (some (memRead h b i op.paddr op.size), op.put i (memRead h b i op.paddr op.size) h)

end MemOp

/-- Where a processor is within an atomic instruction. -/
inductive Ctl
  | idle
  | locked
  | read (old : u32)
  | done (old : u32)
  deriving DecidableEq

/-- A processor: the instructions still to come, the current one first, and the values that
went into destination registers. -/
structure Core (b : IMemoryBank) where
  prog : List (MemOp b)
  ctl : Ctl := .idle
  loaded : List u32 := []

/-- Processors, named by `κ`, on the bank `b`; `mutex` gives the owner of a shard. -/
structure Smp (κ : Type) (b : IMemoryBank) where
  bytes : HostBytes
  mutex : Nat → Option κ
  core : κ → Core b

variable {κ : Type} [DecidableEq κ] {b : IMemoryBank}

namespace Smp

def start (bytes : HostBytes) (prog : κ → List (MemOp b)) : Smp κ b where
  bytes := bytes
  mutex := fun _ => none
  core := fun k => { prog := prog k }

def setCtl (s : Smp κ b) (k : κ) (c : Ctl) : Smp κ b :=
  { s with core := update s.core k { s.core k with ctl := c } }

/-- The next step of processor `k` on bank number `i`. -/
def step (i : Nat) (k : κ) (s : Smp κ b) : Option (Smp κ b) :=
  match (s.core k).prog with
  | [] => none
  | op :: rest =>
    if op.isStore then
      some { s with
        bytes := (op.exec i s.bytes).2
        core := update s.core k { s.core k with prog := rest } }
    else
      match (s.core k).ctl with
      | .idle =>
        if s.mutex op.shard = none then
          some { s.setCtl k .locked with mutex := update s.mutex op.shard (some k) }
        else none
      | .locked =>
        let old := memRead s.bytes b i op.paddr op.size
        some (s.setCtl k (if (op.update old).isSome then .read old else .done old))
      | .read old => some { s.setCtl k (.done old) with bytes := op.put i old s.bytes }
      | .done old =>
        some { s with
          mutex := update s.mutex op.shard none
          core := update s.core k
            { s.core k with prog := rest, ctl := .idle, loaded := (s.core k).loaded ++ [old] } }

end Smp

structure Serial (κ : Type) (b : IMemoryBank) where
  bytes : HostBytes
  prog : κ → List (MemOp b)
  loaded : κ → List u32

/-- The next instruction of processor `k`, at once. -/
def Serial.step (i : Nat) (k : κ) (s : Serial κ b) : Option (Serial κ b) :=
  match s.prog k with
  | [] => none
  | op :: rest =>
    some { bytes := (op.exec i s.bytes).2
           prog := update s.prog k rest
           loaded := update s.loaded k (s.loaded k ++ (op.exec i s.bytes).1.toList) }

end SparcEmu
