import Mathlib.Logic.Basic

/-!
Delayed control transfer. The reference machine keeps the address of the instruction it executes
and, for the time of one instruction, the target of a transfer. A machine with a pair of program
counters is compared with it. `next` is the address behind an address.
-/

namespace SparcEmu.Lib.Delay

variable {A : Type}

/-- What an instruction asks for: a transfer, and that the instruction after it is skipped. -/
structure Ask (A : Type) where
  target : Option A
  annul : Bool
  deriving DecidableEq, Repr

/-- The instruction executed, and the transfer that takes effect after it. -/
structure Ctl (A : Type) where
  pc : A
  pending : Option A
  deriving DecidableEq, Repr

variable (next : A → A)

/-- The instruction after the one executed, which is in its delay slot. -/
def Ctl.after (c : Ctl A) : A := c.pending.getD (next c.pc)

/-- A transfer waits for one instruction. If that one is annulled, the machine goes straight to the
target, or past the annulled instruction. -/
def Ctl.step (a : Ask A) (c : Ctl A) : Ctl A :=
  match a.annul, a.target with
  | false, target => ⟨c.after next, target⟩
  | true, some target => ⟨target, none⟩
  | true, none => ⟨next (c.after next), none⟩

/-- The same with a pair of program counters, from the second of them. -/
def pairStep (a : Ask A) (npc : A) : A × A :=
  let npc' := a.target.getD (next npc)
  if a.annul then (npc', next npc') else (npc, npc')

theorem step_eq_pairStep (a : Ask A) (c : Ctl A) :
    ((c.step next a).pc, (c.step next a).after next) = pairStep next a (c.after next) := by
  obtain ⟨target, annul⟩ := a
  cases annul <;> cases target <;> rfl

end SparcEmu.Lib.Delay
