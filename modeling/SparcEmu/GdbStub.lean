import SparcEmu.Cpu
import SparcEmu.DebugStop
import SparcEmu.Lib.Strtol

/-!
The debugger stub of `gdb_stub.cpp`: the packets it takes, the breakpoints it patches into memory,
and the replies it sends.

A handler runs on the stub's own variables, the registers and MMUs of the processors, and the memory
they share. `sent` is what has gone to the socket. The local variables that `sscanf` leaves alone
have whatever value was on the stack, which `Locals` gives. An index or iterator past the end of a
vector, which C++ leaves undefined, ends the process here.
-/

namespace SparcEmu

open Lib.Strtol

structure GdbSt (n : Nat) (δ : Type) where
  stub : GdbStub
  current_cpu : Int
  waiting : Bool
  cpus : List CPU
  mmu : Nat → MMU
  mem : Mem δ
  dsc : Option (DebugStopController n)
  sent : List (List Char)

abbrev GdbM (n : Nat) (δ : Type) := EStateM HostError (GdbSt n δ)

/-- What the uninitialised variables `addr` and `len` hold. -/
structure Locals where
  addr : u32
  len : u32

/-! ### Numbers and text -/

/-- `std::stoi`; the exception for a text without a number is a `std::logic_error`. -/
def stoi (str : List Char) (base : Nat) : Except HostError Int :=
  match strtol base str with
  | none => .error (.logic_error "stoi")
  | some n => if -2 ^ 31 ≤ n ∧ n < 2 ^ 31 then .ok n else .error (.out_of_range "stoi")

lemma stoi_ok_iff {str : List Char} {base : Nat} {i : Int} :
    stoi str base = .ok i ↔ strtol base str = some i ∧ -2 ^ 31 ≤ i ∧ i < 2 ^ 31 := by
  unfold stoi
  cases strtol base str with
  | none => simp
  | some j =>
    simp only [Option.some.injEq]
    split_ifs with hj
    · simp only [Except.ok.injEq]
      exact ⟨fun h => ⟨h, h ▸ hj⟩, fun h => h.1⟩
    · simp only [false_iff, not_and]
      rintro rfl h1 h2
      exact hj ⟨h1, h2⟩

def hex2 (byte : u8) : List Char :=
  [Nat.digitChar (byte.toNat / 16), Nat.digitChar (byte.toNat % 16)]

def to_hex (data : List u8) : List Char := data.flatMap hex2

/-- The bytes that pairs of characters name; a single last character stands alone. -/
def from_hex : List Char → Except HostError (List u8)
  | [] => .ok []
  | [a] => do
    let b ← stoi [a] 16
    pure [BitVec.ofInt 8 b]
  | a :: a' :: hex => do
    let b ← stoi [a, a'] 16
    let bs ← from_hex hex
    pure (BitVec.ofInt 8 b :: bs)

def starts_with (pkt : List Char) (text : String) : Bool := text.toList.isPrefixOf pkt

/-- `std::to_string`. -/
def to_string (i : Int) : List Char := (toString i).toList

def make_qfThreadInfo_reply (total_num_cpus : Nat) : List Char :=
  if total_num_cpus = 0 then ['l']
  else 'm' :: (List.intercalate [',']
    ((List.range total_num_cpus).map fun i : Nat => to_string (i + 1)))

/-- A packet as it goes over the wire: the text between `$` and `#`, and its checksum. -/
def frame (data : List Char) : List Char :=
  let csum : u8 := data.foldl (fun sum c => sum + BitVec.ofNat 8 c.toNat) 0
  '$' :: data ++ '#' :: hex2 csum

/-- Every register that the debugger knows; the floating-point registers read as zero. -/
def read_registers (c : CPU) : List Char :=
  let general := (List.range 32).map fun i => c.read_reg (BitVec.ofNat 32 i) 0
  let special := [c.y_reg, c.psr, c.wim, c.tbr, c.pc, c.npc, c.fsr, 0]
  to_hex ((general ++ List.replicate 32 0 ++ special).flatMap wordBytes)

/-- Where the kernel's boot mapping puts an address while the MMU is off. -/
def boot_phys (vaddr : u32) : Option u32 :=
  if 0xf0000000 ≤ vaddr ∧ vaddr < 0xfbffffff then some (vaddr - (0xf0000000 - 0x40000000))
  else if 0xffd00000 ≤ vaddr ∧ vaddr < 0xffd13fff then some (vaddr - (0xffd00000 - 0x43fec000))
  else none

def OPCODE_TA1 : u32 := 0x91d02001

/-- The number of the selected processor, if there is such a processor. -/
def GdbSt.selected {n : Nat} {δ : Type} (s : GdbSt n δ) : Option Nat :=
  if 0 ≤ s.current_cpu ∧ s.current_cpu < s.cpus.length then some s.current_cpu.toNat else none

namespace GdbStub

variable {n : Nat} {δ : Type} (mc : MCtrl δ)

def get : GdbM n δ (GdbSt n δ) := fun s => .ok s s

lemma get_bind {α : Type} {f : GdbSt n δ → GdbM n δ α} {s : GdbSt n δ} :
    (get >>= f) s = f s s := rfl

def modify (f : GdbSt n δ → GdbSt n δ) : GdbM n δ Unit := fun s => .ok () (f s)

def raise {α : Type} (e : HostError) : GdbM n δ α := fun s => .error e s

def lift {α : Type} : Except HostError α → GdbM n δ α
  | .ok a => pure a
  | .error e => raise e

/-- `try { m } catch (const std::exception&) { handler }`. -/
def catchStd {α : Type} (m handler : GdbM n δ α) : GdbM n δ α := fun s =>
  match m s with
  | .ok a s' => .ok a s'
  | .error e s' => if e.isStdException then handler s' else .error e s'

/-! ### Memory, as the selected processor sees it -/

/-- `cpus_[current_cpu_]`. -/
def selected : GdbM n δ Nat := fun s =>
  match s.selected with
  | some k => .ok k s
  | none => .error .terminate s

def onMMU {α : Type} (k : Nat) (m : MmuM δ α) : GdbM n δ α := fun s =>
  match m ⟨s.mmu k, s.mem⟩ with
  | .ok a t => .ok a { s with mmu := Function.update s.mmu k t.mmu, mem := t.mem }
  | .error e t => .error e { s with mmu := Function.update s.mmu k t.mmu, mem := t.mem }

/-- The boot mapping of the address, which is tried while the MMU is off. -/
def bootMapping (k : Nat) (vaddr : u32) : GdbM n δ (Option u32) := do
  let s ← get
  pure (if (s.mmu k).get_enabled then none else boot_phys vaddr)

/-- `read_mem32` and `write_mem32`: the access at the address, then at its boot mapping. -/
def access32 (rw : Intent) (what : String) (vaddr value : u32) : GdbM n δ u32 := do
  let k ← selected
  let r ← onMMU k (MMU.MemAccess mc rw .b4 vaddr value true true)
  if r.1 = 0 then pure r.2
  else do
    match ← bootMapping k vaddr with
    | none => raise (.runtime_error what)
    | some phys_addr => do
      let r ← onMMU k (MMU.MemAccess mc rw .b4 phys_addr value true true)
      if r.1 = 0 then pure r.2 else raise (.runtime_error what)

def read_mem32 (vaddr : u32) : GdbM n δ u32 :=
  access32 mc .load "Could not read memory at address" vaddr 0

def write_mem32 (vaddr value : u32) : GdbM n δ Unit := do
  let _ ← access32 mc .store "Could not write memory at address" vaddr value
  pure ()

/-- One byte of the reply to `m` after the other. A word is read once for the bytes it has, as long
as they are asked for in a row. -/
def memoryReadFrom (addr : u32) (i : Nat) (last_aligned_addr cached_word : u32) :
    Nat → GdbM n δ (List Char)
  | 0 => pure []
  | len + 1 => do
    let aligned_addr := (addr + BitVec.ofNat 32 i) &&& ~~~3#32
    let word ← if aligned_addr ≠ last_aligned_addr then read_mem32 mc aligned_addr
      else pure cached_word
    let byte_offset := ((addr + BitVec.ofNat 32 i) &&& 3#32).toNat
    let byte : u8 := ((word >>> ((3 - byte_offset) * 8)) &&& 0xff).setWidth 8
    let rest ← memoryReadFrom addr (i + 1) aligned_addr word len
    pure (hex2 byte ++ rest)

def handle_memory_read (addr : u32) (len : Nat) : GdbM n δ (List Char) :=
  memoryReadFrom mc addr 0 (~~~0#32) 0 len

/-- The bytes that the text names from byte `i` on, two characters each. -/
def memoryBytes (data : List Char) (i : Nat) : Nat → Except HostError (List u8)
  | 0 => .ok []
  | len + 1 => do
    let b ← stoi ((data.drop (i * 2)).take 2) 16
    let bytes ← memoryBytes data (i + 1) len
    pure (BitVec.ofInt 8 b :: bytes)

/-- One byte after the other, each with a store of its whole word. A word is read once for the bytes
it has, as long as they come in a row. -/
def memoryWriteFrom (addr : u32) (i : Nat) (last_aligned_addr cached_word : u32) :
    List u8 → GdbM n δ Unit
  | [] => pure ()
  | byte :: bytes => do
    let target_addr := addr + BitVec.ofNat 32 i
    let aligned_addr := target_addr &&& ~~~3#32
    let word ← if aligned_addr ≠ last_aligned_addr then read_mem32 mc aligned_addr
      else pure cached_word
    let byte_offset := (target_addr &&& 3#32).toNat
    let shift := (3 - byte_offset) * 8
    let mask : u32 := 0xff#32 <<< shift
    let word := (word &&& ~~~mask) ||| (byte.setWidth 32 <<< shift)
    write_mem32 mc aligned_addr word
    memoryWriteFrom addr (i + 1) aligned_addr word bytes

/-- `false` for a text of the wrong length; the length is doubled on 64 bits. -/
def handle_memory_write (addr : u32) (len : Nat) (data : List Char) : GdbM n δ Bool :=
  if data.length ≠ len * 2 % 2 ^ 64 then pure false
  else do
    let bytes ← lift (memoryBytes data 0 len)
    memoryWriteFrom mc addr 0 (~~~0#32) 0 bytes
    pure true

/-! ### Breakpoints -/

def push (bp : Breakpoint) : GdbM n δ Unit :=
  modify fun s => { s with stub := ⟨s.stub.breakpoints ++ [bp]⟩ }

def erase (i : Nat) : GdbM n δ Unit :=
  modify fun s => { s with stub := ⟨s.stub.breakpoints.eraseIdx i⟩ }

/-- Saves the instruction at `at_` under the address `addr` and patches it. -/
def patch (addr at_ : u32) : GdbM n δ Unit := do
  let original ← read_mem32 mc at_
  push ⟨addr, original⟩
  write_mem32 mc at_ OPCODE_TA1

def notPlaced : HostError := .runtime_error "Could not insert breakpoint at given adress."

def insert_breakpoint (addr : u32) : GdbM n δ Unit := do
  let s ← get
  if s.stub.has_breakpoint addr then pure ()
  else do
    let k ← selected
    catchStd (patch mc addr addr) do
      match ← bootMapping k addr with
      | some phys_addr => patch mc addr phys_addr
      | none => raise notPlaced

/-- Puts the instruction back and forgets the breakpoint; `true` when the loop of
`remove_breakpoint` is over. -/
def unpatch (k i : Nat) (bp : Breakpoint) : GdbM n δ Bool :=
  catchStd
    (do
      write_mem32 mc bp.addr bp.original_instr
      erase i
      pure true)
    (do
      match ← bootMapping k bp.addr with
      | some phys_addr => do
        write_mem32 mc phys_addr bp.original_instr
        erase i
        pure false
      | none => raise notPlaced)

/-- The loop of `remove_breakpoint` with its iterator at `i` and `left` breakpoints from there on. A
breakpoint that was removed through its boot mapping does not end the loop: the iterator, which the
removal has moved to the next breakpoint, is advanced once more. -/
def removeFrom (k : Nat) (addr : u32) (i : Nat) : Nat → GdbM n δ Unit
  | 0 => raise notPlaced
  | left + 1 => do
    let s ← get
    match s.stub.breakpoints[i]? with
    | none => raise .terminate
    | some bp =>
      if bp.addr = addr then do
        let finished ← unpatch mc k i bp
        if finished then pure ()
        else
          match left with
          | 0 => raise .terminate
          | left + 1 => removeFrom k addr (i + 1) left
      else removeFrom k addr (i + 1) left

def remove_breakpoint (addr : u32) : GdbM n δ Unit := do
  let k ← selected
  let s ← get
  removeFrom mc k addr 0 s.stub.breakpoints.length

/-! ### Packets -/

def send_packet (data : List Char) : GdbM n δ Unit :=
  modify fun s => { s with sent := s.sent ++ [frame data] }

def write_registers (_ : List u8) : GdbM n δ Unit := raise (.runtime_error "Not implemented")

/-- The number behind a thread packet. -/
def threadId (text : List Char) : GdbM n δ Int := lift (stoi text 10)

/-- `OK`, or `E01` where the condition fails. -/
def reply (ok : Bool) : GdbM n δ Unit := send_packet (if ok then "OK" else "E01").toList

/-- `OK`, or `E01` after an exception. -/
def guarded (m : GdbM n δ Unit) : GdbM n δ Unit :=
  catchStd (do m; reply true) (reply false)

/-- The stop reply, and the reply to `?`. -/
def stopReply (tid : Int) : List Char := "T05thread:".toList ++ to_string tid ++ [';']

/-- `request_stop`, and the wait until every worker has parked. -/
def stopWorld (d : DebugStopController n) : DebugStopController n :=
  let d' := d.request_stop .CtrlC
  let d'' := if d.state = .Running then d'.next_epoch else d'
  (List.finRange n).foldl (fun d w => d.checkpoint_slow w) d''

/-- `sscanf` with `Z0,%x` or `z0,%x`. -/
def scanAddr (locals : Locals) (pkt : List Char) : u32 :=
  match scanHex (pkt.drop 3) with
  | some (addr, _) => addr
  | none => locals.addr

/-- `sscanf` with `m%x,%x`. -/
def scanRange (locals : Locals) (pkt : List Char) : u32 × u32 :=
  match scanHex (pkt.drop 1) with
  | some (addr, ',' :: text) =>
    match scanHex text with
    | some (len, _) => (addr, len)
    | none => (addr, locals.len)
  | some (addr, _) => (addr, locals.len)
  | none => (locals.addr, locals.len)

def interrupted : GdbM n δ Unit := do
  let s ← get
  match s.dsc with
  | none => pure ()
  | some d => do
    modify fun s => { s with dsc := some (stopWorld d) }
    send_packet (stopReply (s.current_cpu + 1))

def resumed : GdbM n δ Unit :=
  modify fun s => { s with waiting := false, dsc := s.dsc.map DebugStopController.resume }

def registersRead : GdbM n δ Unit := do
  let s ← get
  match s.selected.bind fun k => s.cpus[k]? with
  | none => reply false
  | some c => send_packet (read_registers c)

def registersWritten (pkt : List Char) : GdbM n δ Unit := do
  let s ← get
  match s.selected with
  | none => reply false
  | some _ => do
    let data ← lift (from_hex (pkt.drop 1))
    write_registers data
    reply true

def threadSelected (pkt : List Char) : GdbM n δ Unit := do
  let id ← threadId (pkt.drop 2)
  let s ← get
  if id = 0 then reply true
  else if 0 < id ∧ id ≤ s.cpus.length then do
    modify fun s => { s with current_cpu := id - 1 }
    reply true
  else reply false

def threadAlive (pkt : List Char) : GdbM n δ Unit := do
  let id ← threadId (pkt.drop 1)
  let s ← get
  reply (0 < id && id ≤ s.cpus.length)

def threadContinued (pkt : List Char) : GdbM n δ Unit := do
  let id ← threadId (pkt.drop 2)
  let s ← get
  reply (id = -1 || (0 ≤ id && id < s.cpus.length))

/-- The reply to `m`, `E14` after an exception. -/
def memoryRead (addr len : u32) : GdbM n δ Unit := do
  let packet ← catchStd (do let data ← handle_memory_read mc addr len.toNat; pure (some data))
    (pure none)
  match packet with
  | some data => send_packet data
  | none => send_packet "E14".toList

def handle_packet (locals : Locals) (pkt : List Char) : GdbM n δ Unit := do
  let s ← get
  if pkt = ['?'] then send_packet (stopReply (s.current_cpu + 1))
  else if pkt = ['\x03'] then interrupted
  else if starts_with pkt "qC" then send_packet ("QC".toList ++ to_string (s.current_cpu + 1))
  else if starts_with pkt "qfThreadInfo" then send_packet (make_qfThreadInfo_reply s.cpus.length)
  else if starts_with pkt "qsThreadInfo" then send_packet ['l']
  else if starts_with pkt "g" then registersRead
  else if starts_with pkt "G" then registersWritten pkt
  else if starts_with pkt "c" then resumed
  else if starts_with pkt "Hg" then threadSelected pkt
  else if starts_with pkt "T" then threadAlive pkt
  else if starts_with pkt "Hc" then threadContinued pkt
  else if starts_with pkt "Z0," then guarded (insert_breakpoint mc (scanAddr locals pkt))
  else if starts_with pkt "z0," then guarded (remove_breakpoint mc (scanAddr locals pkt))
  else if starts_with pkt "m" then
    memoryRead mc (scanRange locals pkt).1 (scanRange locals pkt).2
  else send_packet []

lemma threadId_ok_iff {text : List Char} {s t : GdbSt n δ} {i : Int} :
    threadId text s = .ok i t ↔ stoi text 10 = .ok i ∧ t = s := by
  unfold threadId lift
  cases stoi text 10 with
  | ok j =>
    constructor
    · intro h
      cases h
      exact ⟨rfl, rfl⟩
    · rintro ⟨h, rfl⟩
      cases h
      rfl
  | error e =>
    constructor
    · intro h
      cases h
    · rintro ⟨h, rfl⟩
      cases h

/-! ### Which handler a packet goes to -/

lemma starts_with_iff {pkt : List Char} {text : String} :
    starts_with pkt text = true ↔ ∃ r, pkt = text.toList ++ r := by
  unfold starts_with
  rw [List.isPrefixOf_iff_prefix]
  exact ⟨fun ⟨r, h⟩ => ⟨r, h.symm⟩, fun ⟨r, h⟩ => ⟨r, h.symm⟩⟩

variable {mc} {s : GdbSt n δ} {locals : Locals} {pkt : List Char}

lemma handle_Z0 (h : starts_with pkt "Z0," = true) : handle_packet mc locals pkt s =
    guarded (insert_breakpoint mc (scanAddr locals pkt)) s := by
  obtain ⟨r, rfl⟩ := starts_with_iff.mp h
  rfl

lemma handle_z0 (h : starts_with pkt "z0," = true) : handle_packet mc locals pkt s =
    guarded (remove_breakpoint mc (scanAddr locals pkt)) s := by
  obtain ⟨r, rfl⟩ := starts_with_iff.mp h
  rfl

lemma handle_Hg (h : starts_with pkt "Hg" = true) :
    handle_packet mc locals pkt s = threadSelected pkt s := by
  obtain ⟨r, rfl⟩ := starts_with_iff.mp h
  rfl

end GdbStub

end SparcEmu
