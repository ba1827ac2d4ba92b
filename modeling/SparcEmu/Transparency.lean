import SparcEmu.Residue

/-!
A breakpoint of the debugger is transparent: executing the `ta 1` that it has planted is executing
the instruction that it hides. The hidden instruction is decoded into the structure in which `ta 1`
has been decoded before, and nothing of that is left.
-/

namespace SparcEmu

open Lib.Effect

variable {δ : Type} (E : Board δ)

/-- **Transparency**: the planted `ta 1` ends as the instruction that it hides. -/
theorem breakpoint_transparent (s : St δ) (g : GdbStub) (bp : u32) (hop : s.d.opcode = TA1)
    (hg : s.cpu.gdb_stub = some g) (hb : g.has_breakpoint s.cpu.pc = true)
    (hbp : g.get_breakpoint_instruction s.cpu.pc = bp) (hne : bp ≠ TA1) :
    SameMachine (excute_one E s) (excute_one E { s with d := { s.d with opcode := bp } }) := by
  have hplanted : breakpointAt s.cpu (decode s.cpu s.d) = some bp := by
    unfold breakpointAt
    rw [hg, decode_opcode]
    exact (if_pos ⟨hop, hb⟩).trans (congrArg some hbp)
  have hdirect : breakpointAt s.cpu (decode s.cpu { s.d with opcode := bp }) = none := by
    rw [Option.eq_none_iff_forall_ne_some]
    intro b hsome
    have := breakpointAt_some hsome
    rw [decode_opcode] at this
    exact hne this
  have hinstr : s.instr = decode s.cpu { decode s.cpu s.d with opcode := bp } := by
    rw [St.instr, entry_some hplanted]
    rfl
  have hinstr' : St.instr { s with d := { s.d with opcode := bp } } =
      decode s.cpu { s.d with opcode := bp } := by
    rw [St.instr, entry_none hdirect]
  have hsame : ({ decode s.cpu s.d with opcode := bp } : DecodeStruct).opcode =
      ({ s.d with opcode := bp } : DecodeStruct).opcode := rfl
  have h : SameMachine (decoded E _ s) (decoded E _ s) := decoded_same s.cpu hsame s
  rw [← hinstr, ← hinstr'] at h
  rw [excute_one_instr, excute_one_instr]
  exact h

/-- A processor that stands at a breakpoint over `sethi %hi(0x400), %g1`. -/
def St.planted : St Unit :=
  let s := St.user TA1
  { s with cpu := { s.cpu with gdb_stub := some ⟨[⟨s.cpu.pc, 0x03000001⟩]⟩ } }

theorem breakpoint_transparent_sethi :
    SameMachine (excute_one (Board.ram []) St.planted)
      (excute_one (Board.ram [])
        { St.planted with d := { St.planted.d with opcode := 0x03000001 } }) :=
  breakpoint_transparent (Board.ram []) St.planted _ 0x03000001 rfl rfl (by decide) (by decide)
    (by decide)

end SparcEmu
