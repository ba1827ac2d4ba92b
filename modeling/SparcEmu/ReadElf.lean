import SparcEmu.Bank

/-!
The ELF loader: the file header, the program headers in their buffer, and the loops that copy the
segments into memory.
-/

namespace SparcEmu

variable {δ : Type}

/-! ### Writes of the memory controller -/

/-- `to_hex`: eight digits, as `%08X` prints them. -/
def MCtrl.to_hex (val : u32) : String :=
  String.ofList ((List.range 8).map fun k =>
    (Nat.digitChar ((val >>> (4 * (7 - k))) &&& 0xf).toNat).toUpper)

/-- `MCtrl::write32`: an exception of the bank goes to the caller. -/
def MCtrl.write32 (mc : MCtrl δ) (addr val : u32) (m : Mem δ) : Except HostError (Mem δ) :=
  match mc.get_bank addr with
  | none => .error (.out_of_range ("[MCTRL] Out of range: 0x" ++ to_hex addr))
  | some (i, b) =>
    match b.kind with
    | .device id _ => do
      let f ← mc.dev.write id .b4 addr val m.dev
      pure { m with dev := f m.bytes }
    | .RomBank false => .error (.runtime_error "Write to read-only memory")
    | _ => .ok { m with bytes := memWrite m.bytes b i addr val .b4 }

/-! ### The loader's state -/

/-- How the loader ends without a result: the program exits with a message, a byte outside the
program header buffer is accessed, or an exception is thrown. -/
inductive ElfStop
  | exit (text : String)
  | overflow (index : Nat)
  | thrown (e : HostError)
  deriving DecidableEq, Repr

structure ElfSt (δ : Type) where
  input : List u8
  bytecount : u32
  buf2 : Nat → u8
  mem : Mem δ

abbrev ElfM (δ : Type) := EStateM ElfStop (ElfSt δ)

/-! ### Header fields -/

def SwapBytes (value : u32) (size : Nat) : u32 :=
  let value := if 2 ≤ size then ((value &&& 0xFF00FF00) >>> 8) ||| ((value &&& 0x00FF00FF) <<< 8)
    else value
  if 4 ≤ size then (value >>> 16) ||| (value <<< 16) else value

/-- A 16-bit field as the host reads it. -/
def host16 (buf : Nat → u8) (k : Nat) : u32 :=
  (buf k).setWidth 32 ||| ((buf (k + 1)).setWidth 32 <<< 8)

/-- A 32-bit field as the host reads it. -/
def host32 (buf : Nat → u8) (k : Nat) : u32 :=
  (buf k).setWidth 32 ||| ((buf (k + 1)).setWidth 32 <<< 8) |||
    ((buf (k + 2)).setWidth 32 <<< 16) ||| ((buf (k + 3)).setWidth 32 <<< 24)

def sizeofEhdr : Nat := 52
def sizeofPhdr : Nat := 32
/-- `buf2` holds four program headers. -/
def sizeofBuf2 : Nat := sizeofPhdr * 4

def ELF_IDENT : List u8 := [0x7f, 0x45, 0x4c, 0x46]
def ET_EXEC : u32 := 2
def EM_SPARC : u32 := 2

structure Elf32_Ehdr where
  e_ident : List u8
  e_type : u32
  e_machine : u32
  e_entry : u32
  e_phnum : u32

def ehdrOf (buf : Nat → u8) : Elf32_Ehdr where
  e_ident := (List.range 4).map buf
  e_type := SwapBytes (host16 buf 16) 2
  e_machine := SwapBytes (host16 buf 18) 2
  e_entry := SwapBytes (host32 buf 24) 4
  e_phnum := SwapBytes (host16 buf 44) 2

structure Elf32_Phdr where
  p_offset : u32
  p_paddr : u32
  p_filesz : u32
  p_memsz : u32
  deriving DecidableEq

def phdrOf (buf2 : Nat → u8) (pcount : Nat) : Elf32_Phdr where
  p_offset := SwapBytes (host32 buf2 (pcount * sizeofPhdr + 4)) 4
  p_paddr := SwapBytes (host32 buf2 (pcount * sizeofPhdr + 12)) 4
  p_filesz := SwapBytes (host32 buf2 (pcount * sizeofPhdr + 16)) 4
  p_memsz := SwapBytes (host32 buf2 (pcount * sizeofPhdr + 20)) 4

namespace ReadElf

/-! ### Steps -/

def stop {α : Type} (e : ElfStop) : ElfM δ α := fun s => .error e s

def eof {α : Type} : ElfM δ α := stop (.exit "*** ReadElf(): unexpected EOF\n")

/-- `s.get()`, `none` at the end of the file. -/
def get : ElfM δ (Option u8) := fun s =>
  match s.input with
  | [] => .ok none s
  | c :: input => .ok (some c) { s with input := input }

def bytecount : ElfM δ u32 := fun s => .ok s.bytecount s

/-- `bytecount++`. -/
def count : ElfM δ Unit := fun s => .ok () { s with bytecount := s.bytecount + 1 }

def write32 (mc : MCtrl δ) (addr val : u32) : ElfM δ Unit := fun s =>
  match mc.write32 addr val s.mem with
  | .ok m => .ok () { s with mem := m }
  | .error e => .error (.thrown e) s

/-- `write32` behind `catch (...)`. -/
def tryWrite32 (mc : MCtrl δ) (addr val : u32) : ElfM δ Unit := fun s =>
  match mc.write32 addr val s.mem with
  | .ok m => .ok () { s with mem := m }
  | .error _ => .ok () s

/-! ### Headers -/

def header : Nat → ElfM δ (List u8)
  | 0 => pure []
  | n + 1 => do
    let c ← get
    count
    match c with
    | none => eof
    | some c => do
      let buf ← header n
      pure (c :: buf)

/-- `buf2[index] = c`. -/
def setBuf2 (index : Nat) (c : u8) : ElfM δ Unit := fun s =>
  if index < sizeofBuf2 then .ok () { s with buf2 := Function.update s.buf2 index c }
  else .error (.overflow index) s

/-- One byte of the program headers; it is written before the end of the file is noticed. -/
def headerByte (index : Nat) : ElfM δ Unit := do
  let c ← get
  setBuf2 index (c.getD 0xff)
  count
  if c.isNone then eof else pure ()

/-- The rest of a program header, from byte `i` on. -/
def headerBytes (pcount i : Nat) : Nat → ElfM δ Unit
  | 0 => pure ()
  | n + 1 => do
    headerByte (i + pcount * sizeofPhdr)
    headerBytes pcount (i + 1) n

def headers (pcount : Nat) : Nat → ElfM δ Unit
  | 0 => pure ()
  | n + 1 => do
    headerBytes pcount 0 sizeofPhdr
    headers (pcount + 1) n

def phdr (pcount : Nat) : ElfM δ Elf32_Phdr := fun s =>
  if pcount * sizeofPhdr + sizeofPhdr ≤ sizeofBuf2 then .ok (phdrOf s.buf2 pcount) s
  else .error (.overflow (pcount * sizeofPhdr)) s

/-! ### Segments -/

def gobble : Nat → ElfM δ Unit
  | 0 => pure ()
  | n + 1 => do
    match ← get with
    | none => eof
    | some _ => do
      count
      gobble n

/-- The next `n` bytes of the file, as words at `pa + i`. A word is written when the last of its
bytes, by their position in the file, has been read. -/
def load (mc : MCtrl δ) (pa : u32) : Nat → u32 → u32 → ElfM δ u32
  | 0, i, _ => pure i
  | n + 1, i, word => do
    match ← get with
    | none => eof
    | some c => do
      let pos ← bytecount
      let word := word ||| (c.setWidth 32 <<< ((3 - (pos &&& 3)) * 8))
      if pos &&& 3 = 3 then do
        write32 mc (pa + i) word
        count
        load mc pa n (i + 4) 0
      else do
        count
        load mc pa n i word

/-- `n` zero words from `addr + j` on; what cannot be written is left out. -/
def zeroFill (mc : MCtrl δ) (addr j : u32) : Nat → ElfM δ Unit
  | 0 => pure ()
  | n + 1 => do
    tryWrite32 mc (addr + j) 0
    zeroFill mc addr (j + 4) n

/-- The memory behind the bytes from the file. The loop compares the counter `j`, which goes up by
four, with a number of words. -/
def clear (mc : MCtrl δ) (addr fsz msz : u32) : ElfM δ Unit :=
  if fsz < msz then do
    let wsize := (msz - fsz) / 4
    zeroFill mc addr 0 ((wsize.toNat + 3) / 4)
    if (msz - fsz) % 4 ≠ 0 then stop (.thrown (.runtime_error "Not implemented")) else pure ()
  else pure ()

/-- One segment; the result is the number of bytes that came from the file. The two loops over the
file run while `bytecount` is below their bounds. -/
def segment (mc : MCtrl δ) (pcount : Nat) : ElfM δ u32 := do
  let h ← phdr pcount
  let start ← bytecount
  gobble (h.p_offset.toNat - start.toNat)
  let start ← bytecount
  let i ← load mc h.p_paddr ((h.p_offset + h.p_filesz).toNat - start.toNat) 0 0
  clear mc (h.p_paddr + i) h.p_filesz h.p_memsz
  pure i

def segments (mc : MCtrl δ) (pcount : Nat) (text_count : u32) : Nat → ElfM δ u32
  | 0 => pure text_count
  | n + 1 => do
    let i ← segment mc pcount
    segments mc (pcount + 1) (if pcount = 0 then i else text_count) n

/-- What the loader checks of the file header. -/
def check (h : Elf32_Ehdr) : ElfM δ Unit :=
  if h.e_ident ≠ ELF_IDENT then stop (.exit "*** ReadElf(): not an ELF file\n")
  else if h.e_type ≠ ET_EXEC then stop (.exit "*** ReadElf(): not an executable ELF file\n")
  else if h.e_machine ≠ EM_SPARC then stop (.exit "*** ReadElf(): not a SPARC ELF file\n")
  else pure ()

def body (mc : MCtrl δ) : ElfM δ (u32 × u32) := do
  let buf ← header sizeofEhdr
  let h := ehdrOf fun k => buf.getD k 0
  check h
  headers 0 h.e_phnum.toNat
  let text_count ← segments mc 0 0 h.e_phnum.toNat
  pure (text_count / 4, h.e_entry)

end ReadElf

/-- `ReadElf` on a file that could be opened: the number of words of the first segment and the entry
point. The program header buffer holds anything at first. -/
def ReadElf (mc : MCtrl δ) (uninitialised : Nat → u8) (file : List u8) (m : Mem δ) :
    EStateM.Result ElfStop (ElfSt δ) (u32 × u32) :=
  ReadElf.body mc ⟨file, 0, uninitialised, m⟩

end SparcEmu
