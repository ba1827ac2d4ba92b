import SparcEmu.GdbBreakpoints

/-!
Replies of the debugger stub: which packets are answered with exactly one packet, and which let an
exception out of `handle_packet`.
-/

namespace SparcEmu

open Lib.Effect Lib.Strtol MMU

variable {n : Nat} {δ : Type} {mc : MCtrl δ} {Mixed : u32 → Prop} {m : GdbM n δ Unit} {c : Nat}
  {a : u32}

namespace GdbStub

variable {s t : GdbSt n δ} {locals : Locals} {pkt : List Char} {k : Nat}

/-! ### What is sent -/

/-- The step has sent nothing, and an exception that it threw can be caught. -/
def Quiet {α : Type} (s : GdbSt n δ) : EStateM.Result HostError (GdbSt n δ) α → Prop
  | .ok _ t => t.sent = s.sent
  | .error e t => e.isStdException = true ∧ t.sent = s.sent

section Access

variable (hP : mc.Paged Mixed) (hB : mc.Bootable) (hR : s.Ready mc k) (hk : s.selected = some k)

include hP hB hR hk

end Access

end GdbStub

end SparcEmu
