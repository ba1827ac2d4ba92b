import SparcEmu.Lib.Numerals
import Mathlib.Tactic.Common

/-!
Machine words, the constants of `CPU_defines.h`, the fields of the processor state register,
and the ways the host program can stop short of returning.
-/

namespace SparcEmu

abbrev u8 := BitVec 8
abbrev u16 := BitVec 16
abbrev u32 := BitVec 32
abbrev u64 := BitVec 64

/-- The host's `int`; negative when its sign bit is set. -/
abbrev cint := BitVec 32

/-- How a call ends when it does not return: a C++ exception or a thrown string, an exception that
reaches a `noexcept` boundary, a trapping host division, or a recursion without end. -/
inductive HostError
  | runtime_error (what : String)
  | logic_error (what : String)
  | out_of_range (what : String)
  | not_implemented_leon_exception (what : String)
  | char_ptr (text : String)
  | terminate
  | sigfpe
  | stack_overflow
  /-- No exception: the thread waits, and nothing wakes it. -/
  | blocked
  deriving DecidableEq, Repr

/-- Caught by `catch (const std::exception&)`. -/
def HostError.isStdException : HostError → Bool
  | .runtime_error _ => true
  | .logic_error _ => true
  | .out_of_range _ => true
  | .not_implemented_leon_exception _ => true
  | .char_ptr _ => false
  | .terminate => false
  | .sigfpe => false
  | .stack_overflow => false
  | .blocked => false

def NWINDOWS : u32 := 8

/-! ### Trap types -/

def SPARC_INSTRUCTION_ACCESS_EXCEPTION : u32 := 0x01
def SPARC_ILLEGAL_INSTRUCTION : u32 := 0x02
def SPARC_PRIVILEGED_INSTRUCTION : u32 := 0x03
def SPARC_FP_DISABLED : u32 := 0x04
def SPARC_WINDOW_OVERFLOW : u32 := 0x05
def SPARC_WINDOW_UNDERFLOW : u32 := 0x06
def SPARC_MEMORY_ADDR_NOT_ALIGNED : u32 := 0x07
def SPARC_FP_EXCEPTION : u32 := 0x08
def SPARC_DATA_ACCESS_EXCEPTION : u32 := 0x09
def SPARC_TAG_OVERFLOW : u32 := 0x0a
def SPARC_DIVISION_BY_ZERO : u32 := 0x2A
def SPARC_INTERRUPT : u32 := 0x10

/-! ### Registers and opcodes by number -/

def LOCALREG1 : u32 := 0x11
def LOCALREG2 : u32 := 0x12
def OUTREG7 : u32 := 0x0f
/-- The pseudo register that only the swap instructions write. -/
def GLOBALREG8 : u32 := 0x108

def TERMINATE_INST : u32 := 0x00000000
def NOP : u32 := 0x01000000

def FIRST_RS1_EVAL_IDX : u32 := 56
def TICC_IDX : u32 := 58
def STORE_DBL_IDX : u32 := 71

def ASI_M_MXCC : u32 := 0x02
def ASI_M_MMUREGS : u32 := 0x19
def ASI_LEON_DFLUSH : u32 := 0x11
def ASI_LEON_MMUFLUSH : u32 := 0x18
def ASI_LEON_BYPASS : u32 := 0x1c

def sign_ext22 (x : u32) : u32 := x ||| (if x &&& 0x200000 ≠ 0 then 0xffc00000 else 0)
def sign_ext13 (x : u32) : u32 := x ||| (if x &&& 0x1000 ≠ 0 then 0xffffe000 else 0)
def sign_ext7 (x : u32) : u32 := x ||| (if x &&& 0x40 ≠ 0 then 0xffffff80 else 0)

/-! ### The fields of the PSR -/

namespace Psr

def cwp (p : u32) : u32 := p &&& 0x1f
def et (p : u32) : Bool := p.getLsbD 5
def ps (p : u32) : Bool := p.getLsbD 6
def s (p : u32) : Bool := p.getLsbD 7
def pil (p : u32) : u32 := (p >>> 8) &&& 0xf
def ef (p : u32) : Bool := p.getLsbD 12
def c (p : u32) : Bool := p.getLsbD 20
def v (p : u32) : Bool := p.getLsbD 21
def z (p : u32) : Bool := p.getLsbD 22
def n (p : u32) : Bool := p.getLsbD 23

/-- Writing one bit of a bit-field struct. -/
def setBit (p : u32) (i : Nat) (b : Bool) : u32 :=
  (p &&& ~~~(1#32 <<< i)) ||| (if b then 1#32 <<< i else 0#32)

def setCwp (p w : u32) : u32 := (p &&& ~~~0x1f#32) ||| (w &&& 0x1f)
def setEt (p : u32) (b : Bool) : u32 := setBit p 5 b
def setPs (p : u32) (b : Bool) : u32 := setBit p 6 b
def setS (p : u32) (b : Bool) : u32 := setBit p 7 b

/-- The four condition codes as the nibble `N Z V C`. -/
def icc (p : u32) : u32 := (p >>> 20) &&& 0xf

def setIcc (p cc : u32) : u32 := (p &&& ~~~(0xf#32 <<< 20)) ||| (cc <<< 20)

end Psr

end SparcEmu
