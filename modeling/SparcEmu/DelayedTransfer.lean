import SparcEmu.ControlEffects
import SparcEmu.Retire
import SparcEmu.Lib.Delay

/-!
Delayed control transfer. The program counters that the branches, calls and jumps leave are
compared with a reference machine, over whole programs.
-/

namespace SparcEmu

open Lib Lib.Effect

variable {δ : Type} (E : Board δ)

/-! ### What the instructions ask for -/

inductive Transfer
  | bicc
  | fbfcc
  | call
  | jmpl
  deriving DecidableEq, Repr

def transferOf (opcode : u32) : Option Transfer :=
  if opcode >>> 30 = 0 ∧ (opcode >>> 22) &&& 7 = 2 then some .bicc
  else if opcode >>> 30 = 0 ∧ (opcode >>> 22) &&& 7 = 6 then some .fbfcc
  else if opcode >>> 30 = 1 then some .call
  else if Format3 opcode 0x38 then some .jmpl
  else none

/-- The instruction words of a transfer. -/
def Transfer.Coded (opcode : u32) : Transfer → Prop
  | .bicc => opcode >>> 30 = 0 ∧ (opcode >>> 22) &&& 7 = 2
  | .fbfcc => opcode >>> 30 = 0 ∧ (opcode >>> 22) &&& 7 = 6
  | .call => opcode >>> 30 = 1
  | .jmpl => Format3 opcode 0x38

variable {opcode : u32}

lemma transferOf_some {k : Transfer} (h : transferOf opcode = some k) : k.Coded opcode := by
  unfold transferOf at h
  split_ifs at h with h1 h2 h3 h4 <;> cases h <;> assumption

lemma transferOf_none (h : transferOf opcode = none) (k : Transfer) : ¬ k.Coded opcode := by
  unfold transferOf at h
  split_ifs at h with h1 h2 h3 h4
  cases k <;> assumption

/-- The number of the condition of a branch. -/
def condition (opcode : u32) : Nat := ((opcode >>> 25) &&& 0xf).toNat

def iccHolds (i : Icc) : Nat → Bool
  | 0 => false
  | 1 => i.z
  | 2 => i.z || (i.n ^^ i.v)
  | 3 => i.n ^^ i.v
  | 4 => i.c || i.z
  | 5 => i.c
  | 6 => i.n
  | 7 => i.v
  | 8 => true
  | 9 => !i.z
  | 10 => !(i.z || (i.n ^^ i.v))
  | 11 => !(i.n ^^ i.v)
  | 12 => !(i.c || i.z)
  | 13 => !i.c
  | 14 => !i.n
  | _ => !i.v

inductive FRelation
  | equal
  | less
  | greater
  | unordered
  deriving DecidableEq, Repr

def Fsr.relation (fsr : u32) : FRelation :=
  if (fsr >>> 10) &&& 3 = 0 then .equal
  else if (fsr >>> 10) &&& 3 = 1 then .less
  else if (fsr >>> 10) &&& 3 = 2 then .greater
  else .unordered

/-- The relations for which a floating-point branch is taken. -/
def fccRelations : Nat → List FRelation
  | 0 => []
  | 1 => [.less, .greater, .unordered]
  | 2 => [.less, .greater]
  | 3 => [.less, .unordered]
  | 4 => [.less]
  | 5 => [.greater, .unordered]
  | 6 => [.greater]
  | 7 => [.unordered]
  | 8 => [.equal, .less, .greater, .unordered]
  | 9 => [.equal]
  | 10 => [.equal, .unordered]
  | 11 => [.equal, .greater]
  | 12 => [.equal, .greater, .unordered]
  | 13 => [.equal, .less]
  | 14 => [.equal, .less, .unordered]
  | _ => [.equal, .less, .greater]

def unconditional (cond : Nat) : Bool := cond = 0 || cond = 8

/-- A branch to its displacement. With the annul bit its delay instruction is skipped if the branch
is not taken, and always for a branch without a condition. -/
def branchAsk (opcode pc : u32) (taken : Bool) : Delay.Ask u32 where
  target := if taken then some (pc + 4 * (opcode.setWidth 22).signExtend 32) else none
  annul := opcode.getLsbD 29 && (!taken || unconditional (condition opcode))

def Psr.codes (p : u32) : Icc := ⟨Psr.n p, Psr.z p, Psr.v p, Psr.c p⟩

def CPU.jumpTarget (c : CPU) (opcode : u32) : u32 := c.operand1 opcode + c.operand2 opcode

/-- What an instruction asks for on the registers `c`. -/
def asks (opcode : u32) (c : CPU) : Delay.Ask u32 :=
  match transferOf opcode with
  | some .bicc => branchAsk opcode c.pc (iccHolds (Psr.codes c.psr) (condition opcode))
  | some .fbfcc =>
    branchAsk opcode c.pc (decide (Fsr.relation c.fsr ∈ fccRelations (condition opcode)))
  | some .call => ⟨some (c.pc + 4 * (opcode &&& 0x3fffffff)), false⟩
  | some .jmpl => ⟨some (c.jumpTarget opcode), false⟩
  | none => ⟨none, false⟩

/-! ### Conditions -/

lemma fin_field {x : u32} {n : Nat} (h : x.toNat < n) : ∃ k : Fin n, x = BitVec.ofNat 32 k.val :=
  ⟨⟨x.toNat, h⟩, by simp⟩

lemma test_cc_eq (d : DecodeStruct) (h : d.rd.toNat < 32) :
    test_cc d = iccHolds (Psr.codes d.psr) (d.rd &&& 0xf).toNat := by
  obtain ⟨k, hk⟩ := fin_field h
  unfold test_cc Psr.codes
  rw [hk]
  dsimp only
  generalize Psr.n d.psr = n, Psr.z d.psr = z, Psr.v d.psr = v, Psr.c d.psr = c
  clear hk h
  revert k n z v c
  decide +kernel

lemma fbTaken_eq (cond fsr : u32) (h : cond.toNat < 16) :
    fbTaken cond ((fsr >>> 10) &&& 3) = decide (Fsr.relation fsr ∈ fccRelations cond.toNat) := by
  have hf : ((fsr >>> 10) &&& 3).toNat < 4 := Nat.lt_of_le_of_lt (toNat_and_le _ 3) (by decide)
  obtain ⟨k, rfl⟩ := fin_field h
  obtain ⟨f, hf⟩ := fin_field hf
  unfold Fsr.relation
  rw [hf]
  clear hf h
  revert k f
  decide +kernel

lemma getLsbD_disp22 (x : u32) (i : Nat) :
    (x &&& 0x3fffff).getLsbD i = (decide (i < 22) && x.getLsbD i) := by
  rw [show (0x3fffff : u32) = Bits.low 32 22 from rfl, BitVec.getLsbD_and, Bits.getLsbD_low]
  by_cases hi : i < 22
  · have h32 : i < 32 := by omega
    simp only [hi, h32, and_self, decide_true, Bool.and_true, Bool.true_and]
  · simp only [hi, and_false, decide_false, Bool.and_false, Bool.false_and]

lemma getLsbD_sign_ext22 (x : u32) {i : Nat} (hi : i < 32) :
    (sign_ext22 x).getLsbD i = (x.getLsbD i || (decide (22 ≤ i) && x.getLsbD 21)) := by
  have hbit : x &&& 0x200000 ≠ 0 ↔ x.getLsbD 21 = true := by
    rw [show (0x200000 : u32) = BitVec.twoPow 32 21 from rfl, BitVec.and_twoPow]
    cases x.getLsbD 21
    · simp
    · decide
  have hhigh : (0xffc00000 : u32).getLsbD i = decide (22 ≤ i) := by
    have hall : ∀ k : Fin 32, (0xffc00000 : u32).getLsbD k = decide (22 ≤ k.val) := by decide
    exact hall ⟨i, hi⟩
  unfold sign_ext22
  rw [if_congr hbit rfl rfl, BitVec.getLsbD_or]
  cases x.getLsbD 21 with
  | false =>
    rw [if_neg Bool.false_ne_true, Bool.and_false]
    exact congrArg _ BitVec.getLsbD_zero
  | true => rw [if_pos rfl, hhigh, Bool.and_true]

lemma msb_disp22 (x : u32) : (x.setWidth 22).msb = x.getLsbD 21 := by
  rw [BitVec.msb_setWidth]
  exact Bool.true_and _

lemma sign_ext22_eq (x : u32) : sign_ext22 (x &&& 0x3fffff) = (x.setWidth 22).signExtend 32 := by
  apply BitVec.eq_of_getLsbD_eq
  intro i hi
  rw [getLsbD_sign_ext22 _ hi, getLsbD_disp22, getLsbD_disp22, BitVec.getLsbD_signExtend,
    BitVec.getLsbD_setWidth, msb_disp22]
  by_cases h22 : i < 22
  · have h : ¬ 22 ≤ i := by omega
    simp only [h22, h, hi, if_true, decide_true, decide_false, Bool.true_and, Bool.false_and,
      Bool.or_false]
  · have h : 22 ≤ i := by omega
    simp only [h22, h, hi, if_false, decide_true, decide_false, Bool.true_and, Bool.false_and,
      Bool.false_or]
    exact Bool.true_and _

/-! ### The instruction -/

lemma transferOf_TA1 : transferOf TA1 = none := by decide

variable {s : St δ}

lemma instr_eq_decode (h : s.d.opcode ≠ TA1) : s.instr = decode s.cpu s.d := by
  unfold St.instr
  rw [entry_none]
  cases hb : breakpointAt s.cpu (decode s.cpu s.d) with
  | none => rfl
  | some bp =>
    rw [← decode_opcode s.cpu s.d] at h
    exact absurd (breakpointAt_some hb) h

def Goes (c c' : CPU) (opcode : u32) : Prop :=
  (c'.pc, c'.npc) = Delay.pairStep (· + 4) (asks opcode c) c.npc

lemma ne_TA1 {k : Transfer} (h : transferOf opcode = some k) : opcode ≠ TA1 := by
  intro hta
  rw [hta, transferOf_TA1] at h
  cases h

variable {d : DecodeStruct}

lemma transferred_of_exec (h : s.d.opcode ≠ TA1)
    (hexec : (decode s.cpu s.d).function.exec E (throwHost .stack_overflow)
      { s with d := decode s.cpu s.d } = .ok () { s with d := d })
    (hgoes : (d.pc, d.npc) = Delay.pairStep (· + 4) (asks s.d.opcode s.cpu) s.cpu.npc)
    (hpsr : d.psr = s.cpu.psr) :
    ∃ t, excute_one E s = .ok () t ∧ Goes s.cpu t.cpu s.d.opcode ∧ t.cpu.psr = s.cpu.psr := by
  have key := excute_one_instr E s
  rw [instr_eq_decode h, hexec] at key
  obtain ⟨hpc, hnpc, hp, -⟩ := write_back_control s.cpu d
  refine ⟨_, key, ?_, hp.trans hpsr⟩
  show ((s.cpu.write_back d).pc, (s.cpu.write_back d).npc) = _
  rw [hpc, hnpc, hgoes]

variable {c : CPU}

lemma branch_pairStep (hpc : d.pc = c.pc) (hnpc : d.npc = c.npc)
    (himm : d.imm_disp_rs2 = d.opcode &&& 0x3fffff) {taken annul : Bool}
    (ha : annul = (branchAsk d.opcode c.pc taken).annul) :
    ((d.branch taken annul).pc, (d.branch taken annul).npc) =
      Delay.pairStep (· + 4) (branchAsk d.opcode c.pc taken) c.npc := by
  unfold DecodeStruct.branch Delay.pairStep
  rw [hpc, hnpc, himm, sign_ext22_eq, ← ha]
  cases annul <;> cases taken <;> rfl

structure BranchDecoded (c : CPU) (d d' : DecodeStruct) : Prop where
  pc : d'.pc = c.pc
  npc : d'.npc = c.npc
  psr : d'.psr = c.psr
  opcode : d'.opcode = d.opcode
  rd : d'.rd = (d.opcode >>> 25) &&& 0x1f
  imm : d'.imm_disp_rs2 = d.opcode &&& 0x3fffff
  function : d'.function = format2.getD ((d.opcode >>> 22) &&& 7).toNat .UNIMP

lemma decode_format2 (c : CPU) (h : d.opcode >>> 30 = 0) : BranchDecoded c d (decode c d) := by
  have h1 : ¬ (d.opcode >>> 30) &&& 3 = 1 := by rw [h]; decide
  have h0 : (d.opcode >>> 30) &&& 3 = 0 := by rw [h]; decide
  have hd : decode c d = decodeFormat2 { d with
      pc := c.pc, npc := c.npc, psr := c.psr, wb_type := .NO_WRITEBACK } := by
    unfold decode
    dsimp only
    rw [if_neg h1, if_pos h0]
  rw [hd]
  exact ⟨rfl, rfl, rfl, rfl, rfl, rfl, rfl⟩

lemma condition_eq {rd : u32} (h : rd = (opcode >>> 25) &&& 0x1f) :
    (rd &&& 0xf).toNat = condition opcode := by
  unfold condition
  rw [h, BitVec.and_assoc]
  rfl

lemma unconditional_eq {rd : u32} (h : rd.toNat < 32) :
    unconditional (rd &&& 0xf).toNat = decide (rd &&& 7 = 0) := by
  obtain ⟨k, rfl⟩ := fin_field h
  clear h
  revert k
  decide +kernel

lemma bicc_annul (h : d.rd = (d.opcode >>> 25) &&& 0x1f) (taken : Bool) (pc : u32) :
    (d.rd.getLsbD 4 && ((!taken && decide (d.rd &&& 7 ≠ 0)) || decide (d.rd &&& 7 = 0))) =
      (branchAsk d.opcode pc taken).annul := by
  have hlt : d.rd.toNat < 32 := by
    rw [h]
    exact Nat.lt_of_le_of_lt (toNat_and_le _ 0x1f) (by decide)
  have hbit : d.rd.getLsbD 4 = d.opcode.getLsbD 29 := by rw [h]; simp
  unfold branchAsk
  dsimp only
  rw [hbit, ← condition_eq h, unconditional_eq hlt]
  cases taken <;> by_cases h7 : d.rd &&& 7 = 0 <;> simp

lemma bicc_taken (c : CPU) (h : transferOf d.opcode = some .bicc) :
    test_cc (decode c d) = iccHolds (Psr.codes c.psr) (condition d.opcode) := by
  have hd := decode_format2 c (transferOf_some h).1
  have hlt : (decode c d).rd.toNat < 32 := by
    rw [hd.rd]
    exact Nat.lt_of_le_of_lt (toNat_and_le _ 0x1f) (by decide)
  rw [test_cc_eq _ hlt, condition_eq hd.rd, hd.psr]

lemma goes_bicc (h : transferOf s.d.opcode = some .bicc) :
    ∃ t, excute_one E s = .ok () t ∧ Goes s.cpu t.cpu s.d.opcode ∧ t.cpu.psr = s.cpu.psr := by
  obtain ⟨h0, h2⟩ := transferOf_some h
  have hd := decode_format2 s.cpu h0
  have htaken := bicc_taken s.cpu h
  generalize hdec : decode s.cpu s.d = d at hd htaken
  have hrd : d.rd = (d.opcode >>> 25) &&& 0x1f := by rw [hd.rd, hd.opcode]
  refine transferred_of_exec E (ne_TA1 h) (d := d.branch (test_cc d) (d.rd.getLsbD 4 &&
    ((!test_cc d && decide (d.rd &&& 7 ≠ 0)) || decide (d.rd &&& 7 = 0)))) ?_ ?_ ?_
  · rw [hdec, hd.function, h2]
    rfl
  · have himm : d.imm_disp_rs2 = d.opcode &&& 0x3fffff := by rw [hd.imm, hd.opcode]
    rw [branch_pairStep hd.pc hd.npc himm (bicc_annul hrd _ _), htaken, hd.opcode]
    unfold asks
    rw [h]
  · rw [branch_psr, hd.psr]

lemma fbfcc_annul (opcode pc : u32) (taken : Bool) :
    (opcode.getLsbD 29 && !(taken && decide ((opcode >>> 25) &&& 0xf ≠ 0 ∧
      (opcode >>> 25) &&& 0xf ≠ 0b1000))) = (branchAsk opcode pc taken).annul := by
  have hcond : decide ((opcode >>> 25) &&& 0xf ≠ 0 ∧ (opcode >>> 25) &&& 0xf ≠ 0b1000) =
      !unconditional (condition opcode) := by
    unfold condition
    obtain ⟨k, hk⟩ := fin_field (n := 16)
      (Nat.lt_of_le_of_lt (toNat_and_le (opcode >>> 25) 0xf) (by decide))
    rw [hk]
    clear hk
    revert k
    decide +kernel
  unfold branchAsk
  dsimp only
  rw [hcond]
  cases taken <;> cases unconditional (condition opcode) <;> rfl

lemma fbfcc_taken (opcode fsr : u32) : fbTaken ((opcode >>> 25) &&& 0xf) ((fsr >>> 10) &&& 3) =
    decide (Fsr.relation fsr ∈ fccRelations (condition opcode)) :=
  fbTaken_eq _ _ (Nat.lt_of_le_of_lt (toNat_and_le _ 0xf) (by decide))

lemma goes_fbfcc (h : transferOf s.d.opcode = some .fbfcc) (hef : Psr.ef s.cpu.psr = true) :
    ∃ t, excute_one E s = .ok () t ∧ Goes s.cpu t.cpu s.d.opcode ∧ t.cpu.psr = s.cpu.psr := by
  obtain ⟨h0, h6⟩ := transferOf_some h
  have hd := decode_format2 s.cpu h0
  generalize hdec : decode s.cpu s.d = d at hd
  have htaken := fbfcc_taken d.opcode s.cpu.fsr
  refine transferred_of_exec E (ne_TA1 h) (d := d.branch
    (fbTaken ((d.opcode >>> 25) &&& 0xf) ((s.cpu.fsr >>> 10) &&& 3))
    (d.opcode.getLsbD 29 && !(fbTaken ((d.opcode >>> 25) &&& 0xf) ((s.cpu.fsr >>> 10) &&& 3) &&
      decide ((d.opcode >>> 25) &&& 0xf ≠ 0 ∧ (d.opcode >>> 25) &&& 0xf ≠ 0b1000)))) ?_ ?_ ?_
  · rw [hdec, hd.function, h6]
    show FBFCC_impl _ = _
    unfold FBFCC_impl
    rw [bind_ok (show getD { s with d := d } = .ok d { s with d := d } from rfl),
      bind_ok (show getCPU { s with d := d } = .ok s.cpu { s with d := d } from rfl), hd.psr, hef]
    rfl
  · have himm : d.imm_disp_rs2 = d.opcode &&& 0x3fffff := by rw [hd.imm, hd.opcode]
    rw [branch_pairStep hd.pc hd.npc himm (fbfcc_annul _ _ _), htaken, hd.opcode]
    unfold asks
    rw [h]
  · rw [branch_psr, hd.psr]

lemma goes_call (h : transferOf s.d.opcode = some .call) :
    ∃ t, excute_one E s = .ok () t ∧ Goes s.cpu t.cpu s.d.opcode ∧ t.cpu.psr = s.cpu.psr := by
  have h1 : (s.d.opcode >>> 30) &&& 3 = 1 := by
    rw [show s.d.opcode >>> 30 = 1 from transferOf_some h]
    rfl
  have hd : decode s.cpu s.d = decodeFormat1 { s.d with
      pc := s.cpu.pc, npc := s.cpu.npc, psr := s.cpu.psr, wb_type := .NO_WRITEBACK } := by
    unfold decode
    dsimp only
    rw [if_pos h1]
  refine transferred_of_exec E (ne_TA1 h) (d := { (decode s.cpu s.d).wb (decode s.cpu s.d).pc with
    rd := OUTREG7, pc := s.cpu.npc, npc := s.cpu.pc + 4 * (s.d.opcode &&& 0x3fffffff) }) ?_ ?_ ?_
  · rw [hd]
    rfl
  · unfold asks
    rw [h]
    rfl
  · rw [hd]
    rfl

lemma decode_jmpl (c : CPU) (h : Format3 d.opcode 0x38) :
    (decode c d).function = .JMPL ∧ (decode c d).ev = c.jumpTarget d.opcode ∧
      (decode c d).npc = c.npc ∧ (decode c d).psr = c.psr := by
  have h0 : ¬ (d.opcode >>> 30) &&& 3 = 0 := by rw [h.1]; decide
  have h1 : ¬ (d.opcode >>> 30) &&& 3 = 1 := by rw [h.1]; decide
  have h3 : ¬ (0x38 : u32) < FIRST_RS1_EVAL_IDX := by decide
  have hrs2 : d.opcode &&& 0x1fff &&& 0x1f = d.opcode &&& 0x1f := by
    rw [BitVec.and_assoc]; rfl
  simp only [decode, if_neg h1, if_neg h0, decodeOperands, decodeFields, h.formatIdx, if_neg h3,
    CPU.jumpTarget, CPU.operand1, CPU.operand2, hrs2]
  refine ⟨by decide, ?_, trivial, trivial⟩
  rw [read_reg_field c (d.opcode >>> 14) d.rs1_value 0]
  split_ifs
  · rfl
  · rw [read_reg_field c d.opcode d.ev 0]
    exact BitVec.add_comm _ _

lemma goes_jmpl (h : transferOf s.d.opcode = some .jmpl)
    (hal : s.cpu.jumpTarget s.d.opcode &&& 3 = 0) :
    ∃ t, excute_one E s = .ok () t ∧ Goes s.cpu t.cpu s.d.opcode ∧ t.cpu.psr = s.cpu.psr := by
  obtain ⟨hfun, hev, hnpc, hpsr⟩ := decode_jmpl s.cpu (transferOf_some h)
  generalize hdec : decode s.cpu s.d = d at *
  refine transferred_of_exec E (ne_TA1 h) (d := { d.wb d.pc with pc := d.npc, npc := d.ev }) ?_ ?_ ?_
  · rw [hdec, hfun]
    show JMPL _ = _
    unfold JMPL
    rw [bind_ok (show getD { s with d := d } = .ok d { s with d := d } from rfl),
      if_neg (by rw [hev, hal]; decide)]
    rfl
  · unfold asks
    rw [h, hnpc, hev]
    rfl
  · exact hpsr

/-! ### The instructions of a program -/

/-- An instruction that is no control transfer at all. -/
def NonBranching (opcode : u32) : Prop :=
  transferOf opcode = none ∧ ¬ Format3 opcode 0x39 ∧ ¬ Format3 opcode 0x3a

/-- The instruction is executed to its end: nothing is thrown, no trap is pending after it and the
loop goes on. -/
def Completes (s : St δ) : Prop :=
  ∃ t, excute_one E s = .ok () t ∧ t.cpu.trap_type = 0 ∧ ¬ t.cpu.rs.reason.Stops

/-- What a program may execute: branches and calls, jumps to aligned addresses, and instructions
that do not branch, complete and do not turn the floating-point unit off. -/
def Admitted (s : St δ) : Prop :=
  match transferOf s.d.opcode with
  | some .bicc | some .fbfcc | some .call => True
  | some .jmpl => s.cpu.jumpTarget s.d.opcode &&& 3 = 0
  | none => NonBranching s.d.opcode ∧ Completes E s ∧
      (Format3 s.d.opcode 0x31 →
        Psr.ef (s.cpu.operand1 s.d.opcode ^^^ s.cpu.operand2 s.d.opcode) = true)

lemma format_cases (opcode : u32) :
    opcode >>> 30 = 0 ∨ opcode >>> 30 = 1 ∨ opcode >>> 30 = 2 ∨ opcode >>> 30 = 3 := by
  have hx := opcode.isLt
  have hlt : (opcode >>> 30).toNat < 4 := by
    rw [BitVec.toNat_ushiftRight, Nat.shiftRight_eq_div_pow]
    omega
  obtain ⟨k, hk⟩ := fin_field hlt
  rw [hk]
  clear hk
  revert k
  decide

lemma format2_transfers {op2 : u32} (h : op2.toNat < 8)
    (hf : (format2.getD op2.toNat .UNIMP).Transfers) : op2 = 2 ∨ op2 = 6 := by
  obtain ⟨k, rfl⟩ := fin_field h
  clear h
  revert k
  decide +kernel

lemma format3_transfers {op3 : u32} (h : op3.toNat < 64)
    (hf : (format3.getD op3.toNat .UNIMP).Transfers) : op3 = 0x38 ∨ op3 = 0x39 := by
  obtain ⟨k, rfl⟩ := fin_field h
  clear h
  revert k
  decide +kernel

lemma memory_transfers {op3 : u32} (h : op3.toNat < 64) :
    ¬ (format3.getD (op3 + 64).toNat .UNIMP).Transfers := by
  obtain ⟨k, rfl⟩ := fin_field h
  clear h
  revert k
  decide +kernel

lemma decode_function (c : CPU) (d : DecodeStruct) :
    (d.opcode >>> 30 = 0 ∧
      (decode c d).function = format2.getD ((d.opcode >>> 22) &&& 7).toNat .UNIMP) ∨
    (d.opcode >>> 30 = 1 ∧ (decode c d).function = .CALL) ∨
    (d.opcode >>> 30 = 2 ∧
      (decode c d).function = format3.getD ((d.opcode >>> 19) &&& 0x3f).toNat .UNIMP) ∨
    (d.opcode >>> 30 = 3 ∧
      (decode c d).function = format3.getD (((d.opcode >>> 19) &&& 0x3f) + 64).toNat .UNIMP) := by
  rcases format_cases d.opcode with h0 | h1 | h2 | h3
  · exact .inl ⟨h0, (decode_format2 c h0).function⟩
  · refine .inr (.inl ⟨h1, ?_⟩)
    unfold decode
    dsimp only
    rw [h1, if_pos (by decide)]
    rfl
  · refine .inr (.inr (.inl ⟨h2, ?_⟩))
    unfold decode
    dsimp only
    rw [h2, if_neg (by decide), if_neg (by decide)]
    show format3.getD (formatIdx d.opcode).toNat .UNIMP = _
    rw [Format3.formatIdx ⟨h2, rfl⟩]
  · refine .inr (.inr (.inr ⟨h3, ?_⟩))
    unfold decode
    dsimp only
    rw [h3, if_neg (by decide), if_neg (by decide)]
    show format3.getD (formatIdx d.opcode).toNat .UNIMP = _
    unfold formatIdx
    rw [h3]
    rfl

lemma op3_lt (opcode : u32) : ((opcode >>> 19) &&& 0x3f).toNat < 64 :=
  Nat.lt_of_le_of_lt (toNat_and_le _ 0x3f) (by decide)

lemma op2_lt (opcode : u32) : ((opcode >>> 22) &&& 7).toNat < 8 :=
  Nat.lt_of_le_of_lt (toNat_and_le _ 7) (by decide)

lemma NonBranching.function (h : NonBranching d.opcode) : ¬ (decode c d).function.Transfers := by
  obtain ⟨hnone, hrett, -⟩ := h
  have hcoded := transferOf_none hnone
  rcases decode_function c d with ⟨h0, hd⟩ | ⟨h1, -⟩ | ⟨h2, hd⟩ | ⟨-, hd⟩
  · rw [hd]
    intro hf
    rcases format2_transfers (op2_lt _) hf with h2 | h6
    · exact hcoded .bicc ⟨h0, h2⟩
    · exact hcoded .fbfcc ⟨h0, h6⟩
  · exact absurd h1 (hcoded .call)
  · rw [hd]
    intro hf
    rcases format3_transfers (op3_lt _) hf with h38 | h39
    · exact hcoded .jmpl ⟨h2, h38⟩
    · exact hrett ⟨h2, h39⟩
  · rw [hd]
    exact memory_transfers (op3_lt _)

lemma decode_WRPSR (h : (decode c d).function = .WRPSR) : Format3 d.opcode 0x31 := by
  rcases decode_function c d with ⟨-, hd⟩ | ⟨-, hd⟩ | ⟨h2, hd⟩ | ⟨-, hd⟩
  · exfalso
    rw [hd] at h
    obtain ⟨k, hk⟩ := fin_field (op2_lt d.opcode)
    rw [hk] at h
    clear hd hk
    revert k
    decide +kernel
  · rw [hd] at h
    cases h
  · rw [hd] at h
    refine ⟨h2, ?_⟩
    obtain ⟨k, hk⟩ := fin_field (op3_lt d.opcode)
    rw [hk] at h ⊢
    clear hd hk
    revert k
    decide +kernel
  · exfalso
    rw [hd] at h
    obtain ⟨k, hk⟩ := fin_field (op3_lt d.opcode)
    rw [hk] at h
    clear hd hk
    revert k
    decide +kernel

/-! ### The floating-point unit stays on -/

namespace Psr

lemma ef_setIcc (p cc : u32) : ef (setIcc p cc) = ef p := by
  unfold ef setIcc
  simp

lemma ef_setCwp (p w : u32) : ef (setCwp p w) = ef p := by
  unfold ef setCwp
  simp

lemma ef_setEt (p : u32) (b : Bool) : ef (setEt p b) = ef p := by
  unfold ef setEt setBit
  cases b <;> simp

lemma ef_setS (p : u32) (b : Bool) : ef (setS p b) = ef p := by
  unfold ef setS setBit
  cases b <;> simp

end Psr

lemma ef_wrpsrValue (v : u32) : Psr.ef (wrpsrValue v) = Psr.ef v := by
  unfold Psr.ef wrpsrValue
  simp

lemma DecodeStruct.Sets.ef {p : u32} (h : d.Sets p) (hp : Psr.ef d.psr = true)
    (hw : d.function = .WRPSR → Psr.ef (d.rs1_value ^^^ d.ev) = true) : Psr.ef p = true := by
  cases h with
  | same => exact hp
  | codes hcc => rw [Psr.ef_setIcc, hp]
  | window w _ => rw [Psr.ef_setCwp, hp]
  | rett w _ => rw [Psr.ef_setCwp, Psr.ef_setEt, Psr.ef_setS, hp]
  | written hf _ _ => rw [ef_wrpsrValue, hw hf]

/-! ### One step -/

lemma Admitted.plain (hnone : transferOf s.d.opcode = none) (h : Admitted E s) :
    NonBranching s.d.opcode ∧ Completes E s ∧ (Format3 s.d.opcode 0x31 →
      Psr.ef (s.cpu.operand1 s.d.opcode ^^^ s.cpu.operand2 s.d.opcode) = true) := by
  unfold Admitted at h
  rw [hnone] at h
  exact h

lemma goes_plain (hnone : transferOf s.d.opcode = none) (h : Admitted E s)
    (hef : Psr.ef s.cpu.psr = true) :
    ∃ t, excute_one E s = .ok () t ∧ Goes s.cpu t.cpu s.d.opcode ∧ Psr.ef t.cpu.psr = true := by
  obtain ⟨hnb, ⟨t, ht, htrap, hgo⟩, hw⟩ := h.plain E hnone
  have hta : s.d.opcode ≠ TA1 := by
    intro hta
    refine hnb.2.2 ?_
    rw [hta]
    decide
  have hinstr := instr_eq_decode hta
  have hnpc : s.instr.npc = s.cpu.npc := by rw [hinstr, decode_npc]
  obtain ⟨hpc', hnpc'⟩ := excute_one_falls (by rw [hinstr]; exact hnb.function) ht htrap hgo
  have hctl := excute_one_control (E := E) s
  rw [ht] at hctl
  refine ⟨t, ht, ?_, ?_⟩
  · unfold Goes asks
    rw [hnone, hpc', hnpc', hnpc]
    rfl
  · refine hctl.status.ef (by rw [instr_psr]; exact hef) fun hf => ?_
    rw [hinstr] at hf ⊢
    have hf3 := decode_WRPSR hf
    obtain ⟨-, -, hx, hy, -⟩ := decode_format3 s.cpu hf3 (by decide)
    rw [hx, hy]
    exact hw hf3

theorem excute_one_goes (h : Admitted E s) (hef : Psr.ef s.cpu.psr = true) :
    ∃ t, excute_one E s = .ok () t ∧ Goes s.cpu t.cpu s.d.opcode ∧ Psr.ef t.cpu.psr = true := by
  cases hk : transferOf s.d.opcode with
  | none => exact goes_plain E hk h hef
  | some k =>
    have hrun : ∃ t, excute_one E s = .ok () t ∧ Goes s.cpu t.cpu s.d.opcode ∧
        t.cpu.psr = s.cpu.psr := by
      cases k with
      | bicc => exact goes_bicc E hk
      | fbfcc => exact goes_fbfcc E hk hef
      | call => exact goes_call E hk
      | jmpl =>
        unfold Admitted at h
        rw [hk] at h
        exact goes_jmpl E hk h
    obtain ⟨t, ht, hgoes, hpsr⟩ := hrun
    exact ⟨t, ht, hgoes, by rw [hpsr, hef]⟩

/-! ### Programs -/

section Programs

variable (program : u32 → u32)

/-- The state in which the instruction of the program is executed. -/
def St.fetched (s : St δ) : St δ := { s with d := { s.d with opcode := program s.cpu.pc } }

/-- The program counters of the first `n` instructions that the emulator executes. -/
def executed : Nat → St δ → List u32
  | 0, _ => []
  | n + 1, s => s.cpu.pc ::
    match excute_one E (s.fetched program) with
    | .ok _ t => executed n t
    | .error _ _ => []

/-- The first `n` instructions are admitted. -/
def AdmittedAlong : Nat → St δ → Prop
  | 0, _ => True
  | n + 1, s => Admitted E (s.fetched program) ∧
    ∀ t, excute_one E (s.fetched program) = .ok () t → AdmittedAlong n t

/-- The reference machine: control of its own, and the registers and the memory. -/
structure Reference (δ : Type) where
  ctl : Delay.Ctl u32
  data : St δ

namespace Reference

/-- Registers and memory with the control in place of their program counters. -/
def machine (r : Reference δ) : St δ :=
  { r.data with cpu := { r.data.cpu with pc := r.ctl.pc, npc := r.ctl.after (· + 4) } }

/-- The instruction computes on registers and memory; where it goes is for the control. -/
def step (r : Reference δ) : Reference δ where
  ctl := r.ctl.step (· + 4) (asks (program r.ctl.pc) r.machine.cpu)
  data := final (excute_one E (r.machine.fetched program))

/-- The program counters of the first `n` instructions. -/
def executed : Nat → Reference δ → List u32
  | 0, _ => []
  | n + 1, r => r.ctl.pc :: executed n (r.step E program)

/-- The machine in the state `s`, its second program counter a transfer under way. -/
def start (s : St δ) : Reference δ := ⟨⟨s.cpu.pc, some s.cpu.npc⟩, s⟩

/-- **One step** of both machines. -/
lemma step_machine {r : Reference δ} {t : St δ}
    (ht : excute_one E (r.machine.fetched program) = .ok () t)
    (hgoes : Goes r.machine.cpu t.cpu (program r.ctl.pc)) : (r.step E program).machine = t := by
  have hpair := Delay.step_eq_pairStep (· + 4) (asks (program r.ctl.pc) r.machine.cpu) r.ctl
  have hboth : (t.cpu.pc, t.cpu.npc) =
      ((r.step E program).ctl.pc, (r.step E program).ctl.after (· + 4)) := hgoes.trans hpair.symm
  obtain ⟨hpc, hnpc⟩ := Prod.mk.inj hboth
  have hdata : (r.step E program).data = t := by
    show final (excute_one E (r.machine.fetched program)) = t
    rw [ht]
    rfl
  unfold machine
  rw [hdata, ← hpc, ← hnpc]

end Reference

/-- **Many steps** of both machines. -/
lemma executed_machine (n : Nat) {r : Reference δ} (hef : Psr.ef r.machine.cpu.psr = true)
    (h : AdmittedAlong E program n r.machine) :
    executed E program n r.machine = r.executed E program n := by
  induction n generalizing r with
  | zero => rfl
  | succ n ih =>
    obtain ⟨hadm, hrest⟩ := h
    obtain ⟨t, ht, hgoes, hef'⟩ := excute_one_goes E hadm hef
    have hm : (r.step E program).machine = t := r.step_machine E program ht hgoes
    have hrec := ih (r := r.step E program) (by rw [hm]; exact hef') (by rw [hm]; exact hrest t ht)
    rw [hm] at hrec
    unfold executed Reference.executed
    rw [ht]
    exact congrArg (r.ctl.pc :: ·) hrec

/-- **Delayed control transfer**: the emulator executes what the reference machine does. -/
theorem delayed_transfer (n : Nat) (s : St δ) (hef : Psr.ef s.cpu.psr = true)
    (h : AdmittedAlong E program n s) :
    executed E program n s = (Reference.start s).executed E program n :=
  executed_machine E program n (r := Reference.start s) hef h

end Programs

/-- A machine in user mode with the floating-point unit on. -/
def St.fpuOn : St Unit :=
  { St.user 0 with cpu := { (St.user 0).cpu with psr := (St.user 0).cpu.psr ||| 0x1000 } }

/-- A branch in the delay slot of a branch; where the first one leads, a branch that is not taken and
annuls. -/
def couple (pc : u32) : u32 :=
  if pc = 0 then 0x10800004  -- ba 0x10
  else if pc = 4 then 0x10800006  -- ba 0x1c
  else if pc = 0x10 then 0x22800004  -- be,a 0x20
  else 0x00800000  -- bn

/-- The transfers follow each other by one instruction, and the one at `0x1c` is skipped. -/
theorem delayed_transfer_couple :
    AdmittedAlong (Board.ram []) couple 5 St.fpuOn ∧
      executed (Board.ram []) couple 5 St.fpuOn = [0, 4, 0x10, 0x20, 0x24] ∧
      executed (Board.ram []) couple 5 St.fpuOn =
        (Reference.start St.fpuOn).executed (Board.ram []) couple 5 := by
  have hop : ∀ pc, transferOf (couple pc) = some .bicc := by
    intro pc
    unfold couple
    split_ifs <;> decide
  have hadm : ∀ n (s : St Unit), AdmittedAlong (Board.ram []) couple n s := by
    intro n
    induction n with
    | zero => exact fun _ => trivial
    | succ n ih =>
      refine fun s => ⟨?_, fun t _ => ih t⟩
      unfold Admitted
      rw [show transferOf (s.fetched couple).d.opcode = some .bicc from hop _]
      trivial
  exact ⟨hadm 5 _, by decide +kernel, delayed_transfer (Board.ram []) _ 5 St.fpuOn (by decide) (hadm 5 _)⟩

end SparcEmu
