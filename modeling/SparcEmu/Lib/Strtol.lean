import Mathlib.Data.BitVec
import Mathlib.Data.List.TakeWhile
import Mathlib.Tactic.Common

/-!
How the C library reads numbers from a text: `strtol`, and the directive `%x` of `sscanf`. Both skip
white space, take a sign and, for base 16, a `0x`, and read as many digits as there are.
-/

namespace SparcEmu.Lib.Strtol

/-- What a C function sees of a string: the part before the first null character. -/
def cstr (s : List Char) : List Char := s.takeWhile (· ≠ '\x00')

def isspace (c : Char) : Bool := c = ' ' || (9 ≤ c.toNat && c.toNat ≤ 13)

/-- The value of a digit, in bases up to 16. -/
def digit? (base : Nat) (c : Char) : Option Nat :=
  let d :=
    if '0' ≤ c ∧ c ≤ '9' then c.toNat - '0'.toNat
    else if 'a' ≤ c ∧ c ≤ 'f' then c.toNat - 'a'.toNat + 10
    else if 'A' ≤ c ∧ c ≤ 'F' then c.toNat - 'A'.toNat + 10
    else base
  if d < base then some d else none

def isxdigit (c : Char) : Bool := (digit? 16 c).isSome

/-- The digits at the front: their value and what follows them, `none` if there is no digit. -/
def digits (base : Nat) (s : List Char) : Option (Nat × List Char) :=
  let isDigit := fun c => (digit? base c).isSome
  if s.takeWhile isDigit = [] then none
  else some ((s.takeWhile isDigit).foldl (fun n c => n * base + (digit? base c).getD 0) 0,
    s.dropWhile isDigit)

/-- The sign at the front, `true` for minus, and what follows it. -/
def sign : List Char → Bool × List Char
  | '-' :: s => (true, s)
  | '+' :: s => (false, s)
  | s => (false, s)

/-- The text behind a `0x`. -/
def hexPrefixed : List Char → Option (List Char)
  | '0' :: 'x' :: s => some s
  | '0' :: 'X' :: s => some s
  | _ => none

/-- White space and sign taken off. -/
def signed (s : List Char) : Bool × List Char := sign ((cstr s).dropWhile isspace)

def applySign (neg : Bool) (n : Nat) : Int := if neg then -n else n

/-- `strtol` before the result is cut to the range of a `long`. Where no digit follows a `0x`, the
number is the zero in front of the `x`. -/
def strtol (base : Nat) (s : List Char) : Option Int :=
  let (neg, s) := signed s
  let s' := if base = 16 then (hexPrefixed s).filter fun s => (digits 16 s).isSome else none
  (digits base (s'.getD s)).map fun r => applySign neg r.1

/-- `%x` into an `unsigned int`, with the text that follows the number. The number is read as an
`unsigned long`, which sticks at its largest value, and cut to 32 bits. -/
def scanHex (s : List Char) : Option (BitVec 32 × List Char) :=
  let (neg, s) := signed s
  (digits 16 ((hexPrefixed s).getD s)).map fun r =>
    (if 2 ^ 64 ≤ r.1 then -1 else BitVec.ofInt 32 (applySign neg r.1), r.2)

/-! ### Decimal numbers -/

section Decimal

variable {c : Char} {s : List Char}

lemma digit?_ten (h : c.isDigit = true) : digit? 10 c = some (c.toNat - '0'.toNat) := by
  obtain ⟨h0, h9⟩ := Char.isDigit_iff_toNat.mp h
  unfold digit?
  rw [if_pos (show '0' ≤ c ∧ c ≤ '9' from ⟨h0, h9⟩)]
  exact if_pos (show c.toNat - 48 < 10 by change c.toNat ≤ 57 at h9; omega)

lemma signed_digits (hs : ∀ c ∈ s, c.isDigit = true) : signed s = (false, s) := by
  have hne : ∀ c ∈ s, ∀ c' : Char, c'.isDigit = false → c ≠ c' := by
    rintro c hc c' hc' rfl
    rw [hs c hc] at hc'
    cases hc'
  have hcstr : cstr s = s := by
    refine List.takeWhile_eq_self_iff.mpr fun c hc => ?_
    simpa using hne c hc '\x00' rfl
  unfold signed
  rw [hcstr]
  cases s with
  | nil => rfl
  | cons c s =>
    have hspace : isspace c = false := by
      obtain ⟨h0, -⟩ := Char.isDigit_iff_toNat.mp (hs c List.mem_cons_self)
      change 48 ≤ c.toNat at h0
      have hblank : c ≠ ' ' := hne c List.mem_cons_self ' ' rfl
      simp only [isspace, hblank, decide_false, Bool.false_or, Bool.and_eq_false_imp,
        decide_eq_true_eq, decide_eq_false_iff_not]
      omega
    rw [List.dropWhile_cons_of_neg (by rw [hspace]; exact Bool.false_ne_true)]
    have hminus : c ≠ '-' := hne c List.mem_cons_self '-' rfl
    have hplus : c ≠ '+' := hne c List.mem_cons_self '+' rfl
    simp [sign, hminus, hplus]

lemma digits_ten (hs : ∀ c ∈ s, c.isDigit = true) (hne : s ≠ []) :
    digits 10 s = some (Nat.ofDigitChars 10 s 0, []) := by
  have htake : s.takeWhile (fun c => (digit? 10 c).isSome) = s :=
    List.takeWhile_eq_self_iff.mpr fun c hc => by rw [digit?_ten (hs c hc)]; rfl
  have hdrop : s.dropWhile (fun c => (digit? 10 c).isSome) = [] := by
    have h := List.takeWhile_append_dropWhile (p := fun c => (digit? 10 c).isSome) (l := s)
    rw [htake] at h
    exact List.append_cancel_left (h.trans (List.append_nil s).symm)
  have hvalue : ∀ n, s.foldl (fun n c => n * 10 + (digit? 10 c).getD 0) n = Nat.ofDigitChars 10 s n := by
    clear htake hdrop hne
    induction s with
    | nil => exact fun n => rfl
    | cons c s ih =>
      intro n
      rw [List.foldl_cons, ih fun c hc => hs c (List.mem_cons_of_mem _ hc),
        digit?_ten (hs c List.mem_cons_self), Nat.mul_comm]
      rfl
  unfold digits
  dsimp only
  rw [htake, hdrop, hvalue, if_neg hne]

/-- A number written in decimal is read back. -/
theorem strtol_toDigits (n : Nat) : strtol 10 (Nat.toDigits 10 n) = some (n : Int) := by
  have hdigits : ∀ c ∈ Nat.toDigits 10 n, c.isDigit = true := fun c hc =>
    Nat.isDigit_of_mem_toDigits (by omega) (Nat.le_refl 10) hc
  unfold strtol
  rw [signed_digits hdigits]
  dsimp only
  rw [if_neg (by omega), Option.getD_none, digits_ten hdigits Nat.toDigits_ne_nil,
    Nat.ofDigitChars_toDigits (by omega) (Nat.le_refl 10)]
  rfl

end Decimal

end SparcEmu.Lib.Strtol
