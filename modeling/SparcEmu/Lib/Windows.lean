import SparcEmu.Lib.Numerals
import Mathlib.Data.Fin.Basic
import Mathlib.Logic.Function.Basic

/-!
A register file with overlapping windows: eight globals, and for each of `n` windows eight locals
and eight outs. The ins of a window are the outs of the next one, and global 0 is always zero.
-/

namespace SparcEmu.Lib.Windows

inductive Reg (n : Nat)
  | global (i : Fin 8)
  | loc (w : Fin n) (i : Fin 8)
  | out (w : Fin n) (i : Fin 8)
  deriving DecidableEq

@[ext]
structure File (n : Nat) (α : Type) where
  cwp : Fin n
  reg : Reg n → α

/-- An instruction, as far as the file is concerned: the window it goes to, and the registers that it
may write there. -/
structure Instr (n : Nat) where
  move : Fin n → Fin n
  dests : List (Fin 32)

/-- What a machine does: it enters a trap with two values to keep, or executes an instruction, after
which a trap may be pending. -/
inductive Event (n : Nat) (α : Type)
  | trap (a b : α)
  | instr (i : Instr n) (pending : Bool)

variable {n : Nat} [NeZero n] {α : Type}

/-- The register that number `r` names in window `w`. -/
def Reg.named (w : Fin n) (r : Fin 32) : Reg n :=
  let i : Fin 8 := Fin.ofNat 8 r.val
  if r.val < 8 then .global i
  else if r.val < 16 then .out w i
  else if r.val < 24 then .loc w i
  else .out (w + 1) i

namespace File

def start [Zero α] : File n α := ⟨0, fun _ => 0⟩

def read [Zero α] (f : File n α) (r : Fin 32) : α :=
  if r = 0 then 0 else f.reg (.named f.cwp r)

def write (f : File n α) (r : Fin 32) (value : α) : File n α :=
  if r = 0 then f else { f with reg := Function.update f.reg (.named f.cwp r) value }

def writes (f : File n α) (l : List (Fin 32 × α)) : File n α :=
  l.foldl (fun f x => f.write x.1 x.2) f

def window (f : File n α) (w : Fin n) : File n α := { f with cwp := w }

/-- A trap moves to the window below and writes two locals there. An instruction moves to its window
and writes registers of its own there; with a trap pending it can have done nothing instead. -/
inductive Step (f : File n α) : Event n α → File n α → Prop
  | trap (a b : α) : Step f (.trap a b) (((f.window (f.cwp - 1)).write 17 a).write 18 b)
  | instr {i : Instr n} {pending : Bool} (l : List (Fin 32 × α)) : (∀ x ∈ l, x.1 ∈ i.dests) →
      Step f (.instr i pending) ((f.window (i.move f.cwp)).writes l)
  | refused (i : Instr n) : Step f (.instr i true) f

/-- The files that a machine reaches from the start, and what it has done, the latest first. -/
inductive Runs [Zero α] : List (Event n α) → File n α → Prop
  | start : Runs [] start
  | step {l : List (Event n α)} {e : Event n α} {f f' : File n α} :
      Runs l f → Step f e f' → Runs (e :: l) f'

lemma write_other {f : File n α} {r : Fin 32} {value : α} {x : Reg n} (h : x ≠ .named f.cwp r) :
    (f.write r value).reg x = f.reg x := by
  unfold write
  split_ifs
  · rfl
  · exact Function.update_of_ne h ..

lemma writes_append (f : File n α) (l l' : List (Fin 32 × α)) :
    f.writes (l ++ l') = (f.writes l).writes l' :=
  List.foldl_append

lemma writes_cwp (f : File n α) (l : List (Fin 32 × α)) : (f.writes l).cwp = f.cwp := by
  induction l generalizing f with
  | nil => rfl
  | cons x l ih =>
    refine (ih (f.write x.1 x.2)).trans ?_
    unfold write
    split_ifs <;> rfl

/-- Where the window stays, the registers may be written in two parts. -/
lemma Step.stays {f : File n α} {i : Instr n} {pending : Bool} {l l' : List (Fin 32 × α)}
    (hm : i.move = id) (hl : ∀ x ∈ l, x.1 ∈ i.dests) (hl' : ∀ x ∈ l', x.1 ∈ i.dests) :
    Step f (.instr i pending) (((f.writes l).window f.cwp).writes l') := by
  have h : Step f (.instr i pending) ((f.window (i.move f.cwp)).writes (l ++ l')) :=
    .instr (l ++ l') fun x hx => (List.mem_append.mp hx).elim (hl x) (hl' x)
  rw [hm, writes_append] at h
  rw [← writes_cwp f l]
  exact h

end File

end SparcEmu.Lib.Windows
