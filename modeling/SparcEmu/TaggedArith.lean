import SparcEmu.AddSub

/-!
Tagged addition and subtraction. They go through the function of the plain instructions, which
takes the operand and the carry in from another bit of the code for them, but not the inversion
of the carry out.
-/

namespace SparcEmu

open Lib.Effect Lib.Adder

variable {δ : Type} (E : Board δ)

/-! ### The instructions and what they are to compute -/

structure Tagged where
  sub : Bool
  tv : Bool
deriving DecidableEq, Repr

namespace Tagged

def op3 (i : Tagged) : u32 := 0x20 ||| ofBool i.tv <<< 1 ||| ofBool i.sub

/-- The plain instruction with the same result. -/
def plain (i : Tagged) : AddSub := ⟨i.sub, false, true⟩

def value (i : Tagged) (x y : u32) : u32 := i.plain.value x y false

def tagged (x y : u32) : Bool := decide (x &&& 3 ≠ 0 ∨ y &&& 3 ≠ 0)

/-- A tag counts as an overflow. -/
def icc (i : Tagged) (x y : u32) : Icc :=
  { i.plain.icc x y false with v := (i.plain.icc x y false).v || tagged x y }

lemma op3_lt (i : Tagged) : i.op3 < FIRST_RS1_EVAL_IDX := by
  obtain ⟨sub, tv⟩ := i
  cases sub <;> cases tv <;> decide

lemma op3_function (i : Tagged) : format3.getD i.op3.toNat .UNIMP = .ADD := by
  obtain ⟨sub, tv⟩ := i
  cases sub <;> cases tv <;> rfl

/-! ### What the function computes -/

/-- The condition codes with the carry of the adder as it is. -/
def found (i : Tagged) (x y : u32) : Icc :=
  { i.icc x y with c := i.sub ^^ (i.icc x y).c }

lemma tag_inst (i : Tagged) : i.op3 &&& 0x20 ≠ 0 := by
  obtain ⟨sub, tv⟩ := i
  cases sub <;> cases tv <;> decide

lemma tag_sub (i : Tagged) :
    (if i.op3 &&& 0x20 ≠ 0 ∧ i.op3 &&& 1 ≠ 0 then (1 : u32) else 0) = ofBool i.sub := by
  obtain ⟨sub, tv⟩ := i
  cases sub <;> cases tv <;> rfl

lemma inverts_iff (i : Tagged) : i.op3 &&& 4 ≠ 0 ∨ ofBool i.sub ≠ 0 ↔ i.sub = true := by
  obtain ⟨sub, tv⟩ := i
  cases sub <;> cases tv <;> decide

lemma carry_eq (i : Tagged) (cc : u32) :
    ((i.op3 >>> 2 ||| ofBool i.sub) ^^^ (cc &&& (~~~ofBool i.sub &&& i.op3 >>> 3))) &&& 1
      = ofBool (i.plain.adderIn false) := by
  rw [and_one_eq, BitVec.getLsbD_xor, BitVec.getLsbD_and]
  obtain ⟨sub, tv⟩ := i
  cases sub <;> cases tv <;> cases cc.getLsbD 0 <;> rfl

lemma overflow_bits (a b z t : Bool) :
    ((ofBool a &&& ofBool b &&& ~~~ofBool z) ||| (~~~ofBool a &&& ~~~ofBool b &&& ofBool z)) &&& 1
      ||| ofBool t = ofBool (overflowTop a b z || t) := by
  cases a <;> cases b <;> cases z <;> cases t <;> rfl

lemma carry_bits (i : Tagged) (a b z : Bool) :
    (i.op3 >>> 2 ^^^ ((ofBool a &&& ofBool b) ||| (~~~ofBool z &&& (ofBool a ||| ofBool b)))) &&& 1
      = ofBool (carryTop a b z) := by
  obtain ⟨sub, tv⟩ := i
  cases sub <;> cases tv <;> cases a <;> cases b <;> cases z <;> rfl

theorem addSub_tagged (i : Tagged) {cc : u32} (hcc : Nibble cc) (x y : u32) :
    addSub i.op3 cc x y = (i.value x y, (i.found x y).bits) := by
  have hz : x + i.plain.addend y + ofBool (i.plain.adderIn false) = i.value x y := by
    rw [ofBool_eq]
    exact i.plain.sum_eq_value x y false
  have hy : (if i.op3 &&& 4 ≠ 0 ∨ ofBool i.sub ≠ 0 then ~~~y else y) = i.plain.addend y :=
    if_congr i.inverts_iff rfl rfl
  have ht : (if i.op3 &&& 0x20 ≠ 0 ∧ (x &&& 3 ≠ 0 ∨ y &&& 3 ≠ 0) then (1 : u32) else 0)
      = ofBool (tagged x y) := by
    unfold tagged ofBool
    simp only [i.tag_inst, ne_eq, not_false_eq_true, true_and, decide_eq_true_eq]
  have hc : carryTop x.msb (i.plain.addend y).msb (i.value x y).msb = (i.found x y).c := by
    have h : (i.sub ^^ carryTop x.msb (i.plain.addend y).msb (i.value x y).msb) = (i.icc x y).c :=
      i.plain.carryTop_eq x y false
    show _ = (i.sub ^^ (i.icc x y).c)
    rw [← h, ← Bool.xor_assoc, Bool.xor_self, Bool.false_xor]
  have hv : overflowTop x.msb (i.plain.addend y).msb (i.value x y).msb
      = (i.plain.icc x y false).v := i.plain.overflowTop_eq x y false
  unfold addSub
  dsimp only
  rw [tag_sub, hy, carry_eq, hz, ht, top_eq, top_eq, top_eq, overflow_bits, carry_bits, hc, hv,
    ccResult_bits hcc]
  rfl

/-! ### What a tagged instruction is to do -/

/-- The trap overflow of a form that traps is recorded, and nothing else changes. -/
structure Overflowed (c c' : CPU) : Prop where
  recorded : c'.trap_type = (c.trap_type &&& ~~~0xff#32) ||| SPARC_TAG_OVERFLOW
  frame : c' = CPU.update_cwp_bases { c with trap_type := c'.trap_type }

/-- The outcome of the instruction on the operands `x` and `y`. -/
def Meets (i : Tagged) (c c' : CPU) (opcode x y : u32) : Prop :=
  if i.tv = true ∧ (i.icc x y).v = true then Overflowed c c'
  else Retired c c' opcode (i.value x y) (some (i.icc x y))

/-- Where the emulator is right: a form that traps on an overflow finds traps enabled; every other
instruction is an addition. -/
def Works (i : Tagged) (psr x y : u32) : Prop :=
  if i.tv = true ∧ (i.icc x y).v = true then Psr.et psr = true else i.sub = false

instance (i : Tagged) (psr x y : u32) : Decidable (i.Works psr x y) :=
  inferInstanceAs (Decidable
    (if i.tv = true ∧ (i.icc x y).v = true then Psr.et psr = true else i.sub = false))

end Tagged

/-! ### The instruction -/

lemma SPARC_TAG_OVERFLOW_byte : SPARC_TAG_OVERFLOW &&& 0xff = SPARC_TAG_OVERFLOW := by decide

lemma ADD_tagged {s : St δ} {i : Tagged} (h : s.d.op_2_3 = i.op3) :
    ADD s = if i.tv = true ∧ (i.icc s.d.rs1_value s.d.ev).v = true then trap SPARC_TAG_OVERFLOW s
      else .ok () { s with d := ({ s.d with
        psr := Psr.withCodes s.d.psr (some (i.found s.d.rs1_value s.d.ev)) }.wb
          (i.value s.d.rs1_value s.d.ev)).next } := by
  have h0 : i.op3 ≠ 0 := by
    obtain ⟨sub, tv⟩ := i
    cases sub <;> cases tv <;> decide
  have htv : i.op3 &&& 0x22 = 0x22 ↔ i.tv = true := by
    obtain ⟨sub, tv⟩ := i
    cases sub <;> cases tv <;> decide
  have hv : (i.found s.d.rs1_value s.d.ev).bits &&& 2 ≠ 0 ↔
      (i.icc s.d.rs1_value s.d.ev).v = true := by
    show _ ↔ (i.found s.d.rs1_value s.d.ev).v = true
    obtain ⟨n, z, v, c⟩ := i.found s.d.rs1_value s.d.ev
    cases n <;> cases z <;> cases v <;> cases c <;> decide
  unfold ADD
  rw [getD_bind, h, if_neg h0, i.addSub_tagged (Psr.nibble_icc _)]
  dsimp only
  by_cases ht : i.tv = true ∧ (i.icc s.d.rs1_value s.d.ev).v = true
  · rw [if_pos ht, if_pos ⟨htv.mpr ht.1, hv.mpr ht.2⟩]
  · rw [if_neg ht, if_neg fun hc => ht ⟨htv.mp hc.1, hv.mp hc.2⟩]
    unfold modD
    simp only [h, if_pos (Or.inr i.tag_inst)]
    rfl

lemma write_back_trapped (c : CPU) (d : DecodeStruct) (trap_type : u32) :
    CPU.write_back { c with trap_type := trap_type } (decode c d)
      = CPU.update_cwp_bases { c with trap_type := trap_type } := by
  have hpc : (decode c d).pc = c.pc ∧ (decode c d).wb_type = .NO_WRITEBACK := by
    unfold decode
    dsimp only
    split_ifs <;> exact ⟨rfl, rfl⟩
  unfold CPU.write_back
  rw [hpc.1, hpc.2, decode_npc, decode_psr]
  rfl

lemma Tagged.found_iff (i : Tagged) (x y : u32) :
    (i.found x y).bits = (i.icc x y).bits ↔ i.sub = false := by
  constructor
  · intro h
    have hc := congrArg (fun b => BitVec.getLsbD b 0) h
    simp only [(Icc.getLsbD_bits _).2.2.2] at hc
    have hc : (i.sub ^^ (i.icc x y).c) = (i.icc x y).c := hc
    cases hs : i.sub
    · rfl
    · rw [hs] at hc
      cases hi : (i.icc x y).c <;> rw [hi] at hc <;> cases hc
  · intro h
    have hf : i.found x y = i.icc x y := by
      unfold found
      rw [h, Bool.false_xor]
    rw [hf]

/-- **Tagged arithmetic**: the outcome is the one to be computed just in the cases of `Works`. -/
theorem tagged_iff (i : Tagged) (s : St δ) (h : Format3 s.d.opcode i.op3) :
    (∃ t, excute_one E s = .ok () t ∧ t.mmu = s.mmu ∧ t.mem = s.mem ∧
        i.Meets s.cpu t.cpu s.d.opcode (s.cpu.operand1 s.d.opcode) (s.cpu.operand2 s.d.opcode)) ↔
      i.Works s.cpu.psr (s.cpu.operand1 s.d.opcode) (s.cpu.operand2 s.d.opcode) := by
  obtain ⟨-, hop, hx, hy, hrd⟩ := decode_format3 s.cpu h i.op3_lt
  have hadd := ADD_tagged (s := { s with d := decode s.cpu s.d }) hop
  have hrun := excute_one_format3 E h i.op3_lt i.op3_function
  rw [show Handler.ADD.exec E (throwHost .stack_overflow) = ADD from rfl, hadd] at hrun
  dsimp only at hrun
  rw [← hx, ← hy]
  unfold Tagged.Meets Tagged.Works
  by_cases ht : i.tv = true ∧
      (i.icc (decode s.cpu s.d).rs1_value (decode s.cpu s.d).ev).v = true
  · simp only [if_pos ht] at hrun ⊢
    rw [trap_eq] at hrun
    dsimp only at hrun
    by_cases het : Psr.et s.cpu.psr = true
    · rw [if_pos het, SPARC_TAG_OVERFLOW_byte] at hrun
      dsimp only at hrun
      rw [write_back_trapped] at hrun
      exact iff_of_true ⟨_, hrun, rfl, rfl, rfl, rfl⟩ het
    · rw [if_neg het] at hrun
      refine iff_of_false ?_ het
      rintro ⟨t, hok, -⟩
      exact nomatch hrun.symm.trans hok
  · simp only [if_neg ht] at hrun ⊢
    rw [write_back_retire s.cpu (decode_npc s.cpu s.d), hrd, decode_psr] at hrun
    have hcodes := i.found_iff (decode s.cpu s.d).rs1_value (decode s.cpu s.d).ev
    constructor
    · rintro ⟨t, hok, -, -, hR⟩
      cases hrun.symm.trans hok
      exact hcodes.mp ((retired_iff _ _ _ _ _ _).mp hR).2
    · intro hs
      exact ⟨_, hrun, rfl, rfl, (retired_iff _ _ _ _ _ _).mpr ⟨.inr rfl, hcodes.mpr hs⟩⟩

/-- `tsubcc %g0, 4, %g1` borrows, and clears `C`. -/
theorem tsubcc_borrow_lost :
    Format3 0x83082004 (Tagged.op3 ⟨true, false⟩) ∧
      ((Tagged.icc ⟨true, false⟩ 0 4).c = true) ∧
      ∃ t, excute_one (Board.ram []) (St.user 0x83082004) = .ok () t ∧
        t.cpu.read_reg 1 0 = Tagged.value ⟨true, false⟩ 0 4 ∧ Psr.carry t.cpu.psr = false := by
  refine ⟨by decide, by decide, ?_⟩
  obtain ⟨a, t, ht, h0⟩ := exists_ok (r := excute_one (Board.ram []) (St.user 0x83082004))
    (P := fun t => t.cpu.read_reg 1 0 = Tagged.value ⟨true, false⟩ 0 4 ∧
      Psr.carry t.cpu.psr = false) (by decide +kernel) (by decide +kernel)
  exact ⟨t, ht, h0⟩

/-- `taddcctv %g0, 4, %g1` meets no overflow. -/
theorem tagged_iff_taddcctv :
    Format3 0x83102004 (Tagged.op3 ⟨false, true⟩) ∧
      ∃ t, excute_one (Board.ram []) (St.user 0x83102004) = .ok () t ∧
        t.mmu = (St.user 0x83102004).mmu ∧ t.mem = (St.user 0x83102004).mem ∧
        Tagged.Meets ⟨false, true⟩ (St.user 0x83102004).cpu t.cpu 0x83102004
          ((St.user 0x83102004).cpu.operand1 0x83102004)
          ((St.user 0x83102004).cpu.operand2 0x83102004) :=
  ⟨by decide, (tagged_iff (Board.ram []) ⟨false, true⟩ (St.user 0x83102004) (by decide)).mpr
    (by decide +kernel)⟩

end SparcEmu
