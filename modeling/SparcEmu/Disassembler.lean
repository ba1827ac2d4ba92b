import SparcEmu.DelayedTransfer

/-!
The disassembler of `dis.cpp`, and the targets of branches and calls that it prints compared with those
that the processor goes to.

A line is given by the conversions that `fprintf` is called with. The sums of two `int`s wrap around.
-/

namespace SparcEmu

open Lib

namespace Dis

/-! ### Tables -/

def format1_str : String := "call    "

def format2_str : List String :=
  ["unimp   ", "unimp   ", "b", "unimp   ", "sethi   ", "unimp   ", "fbfcc   ", "cbccc   "]

def format3_str : List String :=
  ["add     ", "and     ", "or      ", "xor     ", "sub     ", "andn    ", "orn     ", "xnor    ",
   "addx    ", "unimp   ", "umul    ", "smul    ", "subx    ", "unimp   ", "udiv    ", "sdiv    ",
   "addcc   ", "andcc   ", "orcc    ", "xorcc   ", "subcc   ", "andncc  ", "orncc   ", "xnorcc  ",
   "addxcc  ", "unimp   ", "umulcc  ", "smulcc  ", "subxcc  ", "unimp   ", "udivcc  ", "sdivcc  ",
   "taddcc  ", "tsubcc  ", "taddcctv", "tsubcctv", "mulscc  ", "sll     ", "srl     ", "sra     ",
   "rd      ", "rd      ", "rd      ", "rd      ", "unimp   ", "unimp   ", "unimp   ", "unimp   ",
   "wr      ", "wr      ", "wr      ", "wr      ", "fpop1   ", "fpop2   ", "cpop1   ", "cpop2   ",
   "jmpl    ", "rett    ", "ticc    ", "flush   ", "save    ", "restore ", "unimp   ", "unimp   ",
   "ld      ", "ldub    ", "lduh    ", "ldd     ", "st      ", "stb     ", "sth     ", "std     ",
   "unimp   ", "ldsb    ", "ldsh    ", "unimp   ", "unimp   ", "ldstub  ", "unimp   ", "swap    ",
   "lda     ", "lduba   ", "lduha   ", "ldda    ", "sta     ", "stba    ", "stha    ", "stda    ",
   "unimp   ", "ldsba   ", "ldsha   ", "unimp   ", "unimp   ", "ldstuba ", "unimp   ", "swapa   ",
   "ldf     ", "ldfsr   ", "unimp   ", "lddf    ", "stf     ", "stfsr   ", "stdfq   ", "stdf    ",
   "unimp   ", "unimp   ", "unimp   ", "unimp   ", "unimp   ", "unimp   ", "unimp   ", "unimp   ",
   "ldc     ", "ldcsr   ", "unimp   ", "lddc    ", "stc     ", "stcsr   ", "stdcq   ", "stdc    ",
   "unimp   ", "unimp   ", "unimp   ", "unimp   ", "unimp   ", "unimp   ", "unimp   ", "unimp   "]

def cond_byte : List String :=
  ["n  ", "e  ", "le ", "l  ", "leu", "cs ", "neg", "vs ",
   "a  ", "ne ", "g  ", "ge ", "gu ", "cc ", "pos", "vc"]

/-! ### Lines -/

/-- A part of a line: text, a number in hexadecimal with the width and the fill of its conversion, or a
decimal number. -/
inductive Piece
  | text (s : String)
  | hex (width : Nat) (fill : Char) (v : u32)
  | dec (v : Int)
  deriving DecidableEq, Repr

def Piece.x (v : u32) : Piece := .hex 0 ' ' v

/-- The static variables of `disDecodePrint`: the last `sethi`. -/
structure Sethi where
  last_sethi_value : u32 := 0
  last_sethi_reg : u32 := 0

def disShowRegName (regnum : u32) : List Piece :=
  let n := regnum &&& 7
  match ((regnum >>> 3) &&& 7).toNat with
  | 0 => [.text "%g", .dec n.toNat]
  | 1 => if n = 6 then [.text "%sp"] else [.text "%o", .dec n.toNat]
  | 2 => [.text "%l", .dec n.toNat]
  | 3 => if n = 6 then [.text "%fp"] else [.text "%i", .dec n.toNat]
  | 4 => [.text "%y"]
  | 5 => [.text "%psr"]
  | 6 => [.text "%wim"]
  | _ => [.text "%tbr"]

def disPrintOpcode (PC opcode : u32) (f c : String) : List Piece :=
  [.hex 12 ' ' PC, .text ":  ",
   .hex 2 '0' ((opcode &&& 0xff000000) >>> 24), .text " ",
   .hex 2 '0' ((opcode &&& 0x00ff0000) >>> 16), .text " ",
   .hex 2 '0' ((opcode &&& 0x0000ff00) >>> 8), .text " ",
   .hex 2 '0' (opcode &&& 0x000000ff), .text "\t",
   .text "   ", .text f, .text c, .text "\t"]

/-- The name without the blanks behind it. -/
def trimmed (function : String) : String :=
  String.ofList (function.toList.reverse.dropWhile (· = ' ')).reverse

def printCall (PC opcode : u32) : List Piece :=
  disPrintOpcode PC opcode format1_str "" ++
    [.text "0x", .hex 8 '0' (PC + (opcode &&& 0x3fffffff) * 4), .text "\n"]

def printFormat2 (PC opcode : u32) (st : Sethi) : List Piece × Sethi :=
  let function := format2_str.getD ((opcode >>> 22) &&& 7).toNat ""
  let imm_disp_rs2 := opcode &&& 0x3fffff
  let rd := (opcode >>> 25) &&& 0x1f
  if function = "unimp   " then
    (disPrintOpcode PC opcode function "" ++ [.text "0x", .x opcode, .text "\n"], st)
  else if function = "sethi   " then
    if opcode = NOP then (disPrintOpcode PC opcode "nop     " "" ++ [.text "\n"], st)
    else
      (disPrintOpcode PC opcode function "" ++ [.text "%hi(0x", .x (imm_disp_rs2 <<< 10), .text "), "] ++
        disShowRegName (rd &&& 0x1f) ++ [.text "\n"], ⟨imm_disp_rs2 <<< 10, rd⟩)
  else
    (disPrintOpcode PC opcode function (cond_byte.getD (rd &&& 0xf).toNat "") ++
      [.text "\t0x", .x (PC + sign_ext22 (imm_disp_rs2 * 4)), .text "\n"], st)

def printMemory (PC opcode : u32) : List Piece :=
  let function := format3_str.getD (formatIdx opcode).toNat ""
  let imm_disp_rs2 := opcode &&& 0x1fff
  let rd := (opcode >>> 25) &&& 0x1f
  let rs1 := (opcode >>> 14) &&& 0x1f
  let i := (opcode >>> 13) &&& 1
  disPrintOpcode PC opcode function "" ++
    (if trimmed function = "st" then disShowRegName (rd &&& 0x1f) ++ [.text ", "] else []) ++
    [.text "["] ++ disShowRegName (rs1 &&& 0x1f) ++
    (if imm_disp_rs2 ≠ 0 then .text " + " ::
      (if i = 0 then disShowRegName (imm_disp_rs2 &&& 0x1f) else [.dec imm_disp_rs2.toNat])
    else []) ++
    [.text "]"] ++
    (if trimmed function = "ld" then .text ", " :: disShowRegName (rd &&& 0x1f) else []) ++
    [.text "\n"]

/-- Format 3 without one. The flags are what the comparisons of the source give, which hold for every
name but the one that they are called after. -/
def printAlu (PC opcode : u32) (st : Sethi) : List Piece :=
  let function := format3_str.getD (formatIdx opcode).toNat ""
  let imm_disp_rs2 := opcode &&& 0x1fff
  let op3 := (opcode >>> 19) &&& 0x3f
  let rd := (opcode >>> 25) &&& 0x1f
  let rs1 := (opcode >>> 14) &&& 0x1f
  let i := (opcode >>> 13) &&& 1
  let is_cmp := decide (function ≠ "subcc   " ∧ rd = 0)
  let is_wr := decide (trimmed function ≠ "wr")
  let is_rd := decide (trimmed function ≠ "rd")
  let is_mov := decide (function ≠ "or      " ∧ rs1 = 0) || (is_wr && decide (rs1 = 0))
  let is_clr := decide (function ≠ "or      " ∧ rs1 = 0 ∧ i ≠ 0 ∧ imm_disp_rs2 = 0)
  let is_sethi_or := decide (function ≠ "or      " ∧ rs1 = st.last_sethi_reg ∧ i ≠ 0)
  let special := ((4 + (op3 &&& 3)) <<< 3) &&& 0x3f
  let rs1 := if is_rd then special else rs1
  let rd := if !is_rd && is_wr then special else rd
  disPrintOpcode PC opcode (if is_clr then "clr     " else if is_mov then "mov     "
      else if is_cmp then "cmp     " else function) "" ++
    (if !is_mov && !is_clr then disShowRegName rs1 ++ [.text ", "] else []) ++
    (if !is_rd then
      if i = 0 then disShowRegName (imm_disp_rs2 &&& 0x1f)
      else if !is_clr then
        if is_sethi_or then [.text "0x", .x (sign_ext13 imm_disp_rs2)]
        else [.dec (sign_ext13 imm_disp_rs2).toInt]
      else []
    else []) ++
    (if !is_cmp then (if !is_rd && !is_clr then [.text ", "] else []) ++ disShowRegName rd else []) ++
    (if is_sethi_or then [.text "\t! 0x", .x (st.last_sethi_value ||| imm_disp_rs2)] else []) ++
    [.text "\n"]

def disDecodePrint (PC opcode : u32) (st : Sethi) : List Piece × Sethi :=
  let fmt_bits := (opcode >>> 30) &&& 3
  if fmt_bits = 1 then (printCall PC opcode, st)
  else if fmt_bits = 0 then printFormat2 PC opcode st
  else if fmt_bits = 3 then (printMemory PC opcode, st)
  else (printAlu PC opcode st, st)

/-! ### Printed targets -/

def Piece.hexValue : Piece → Option u32
  | .hex _ _ v => some v
  | _ => none

/-- The last number in hexadecimal of the line, where the lines of branches and calls have the
target. -/
def printedTarget (PC opcode : u32) (st : Sethi) : Option u32 :=
  ((disDecodePrint PC opcode st).1.filterMap Piece.hexValue).getLast?

lemma getLast_hex (l : List Piece) (s t : String) (w : Nat) (c : Char) (v : u32) :
    ((l ++ [Piece.text s, .hex w c v, .text t]).filterMap Piece.hexValue).getLast? = some v := by
  rw [List.filterMap_append]
  exact List.getLast?_concat

lemma printed_call {opcode : u32} (h : opcode >>> 30 = 1) (PC : u32) (st : Sethi) :
    printedTarget PC opcode st = some (PC + (opcode &&& 0x3fffffff) * 4) := by
  have hline : (disDecodePrint PC opcode st).1 = printCall PC opcode := by
    unfold disDecodePrint
    rw [h]
    rfl
  unfold printedTarget
  rw [hline]
  exact getLast_hex ..

lemma printed_branch {opcode : u32} (h : opcode >>> 30 = 0)
    (hop : (opcode >>> 22) &&& 7 = 2 ∨ (opcode >>> 22) &&& 7 = 6) (PC : u32) (st : Sethi) :
    printedTarget PC opcode st = some (PC + sign_ext22 ((opcode &&& 0x3fffff) * 4)) := by
  obtain ⟨f, c, hline⟩ : ∃ f c, (disDecodePrint PC opcode st).1 = disPrintOpcode PC opcode f c ++
      [.text "\t0x", .x (PC + sign_ext22 ((opcode &&& 0x3fffff) * 4)), .text "\n"] := by
    unfold disDecodePrint printFormat2
    rw [h]
    rcases hop with h2 | h6
    · rw [h2]
      exact ⟨"b", _, rfl⟩
    · rw [h6]
      exact ⟨"fbfcc   ", _, rfl⟩
  unfold printedTarget
  rw [hline]
  exact getLast_hex ..

/-! ### Scaling and extending the displacement -/

/-- The displacement of a branch survives being scaled before its sign is extended: the bit that is then
taken for the sign is like the sign, and a negative displacement has nothing but ones above it. -/
def Near (opcode : u32) : Prop :=
  opcode.getLsbD 19 = opcode.getLsbD 21 ∧ (opcode.getLsbD 21 = true → opcode.getLsbD 20 = true)

instance (opcode : u32) : Decidable (Near opcode) := inferInstanceAs (Decidable (_ ∧ _))

lemma mul_four (x : u32) : x * (4 : u32) = x <<< 2 := by
  rw [BitVec.shiftLeft_eq_mul_twoPow]
  rfl

lemma getLsbD_scaled (x : u32) (i : Nat) : ((x &&& 0x3fffff) * 4).getLsbD i =
    (decide (2 ≤ i) && decide (i < 24) && x.getLsbD (i - 2)) := by
  rw [mul_four, BitVec.getLsbD_shiftLeft, getLsbD_disp22]
  by_cases h2 : 2 ≤ i
  · have h0 : ¬ i < 2 := by omega
    by_cases h24 : i < 24
    · have h1 : i - 2 < 22 := by omega
      have h3 : i < 32 := by omega
      simp only [h2, h0, h24, h1, h3, decide_true, decide_false, Bool.not_false, Bool.true_and]
    · have h1 : ¬ i - 2 < 22 := by omega
      simp only [h24, h1, decide_false, Bool.and_false, Bool.false_and]
  · have h0 : i < 2 := by omega
    simp only [h2, h0, decide_true, decide_false, Bool.not_true, Bool.and_false, Bool.false_and]

/-- The displacement as it is printed: bit 19 is taken for the sign. -/
lemma getLsbD_printed (x : u32) {i : Nat} (hi : i < 32) :
    (sign_ext22 ((x &&& 0x3fffff) * 4)).getLsbD i =
      ((decide (2 ≤ i) && decide (i < 24) && x.getLsbD (i - 2)) ||
        (decide (22 ≤ i) && x.getLsbD 19)) := by
  rw [getLsbD_sign_ext22 _ hi, getLsbD_scaled, getLsbD_scaled]
  rfl

lemma getLsbD_taken (x : u32) {i : Nat} (hi : i < 32) :
    (4 * (x.setWidth 22).signExtend 32).getLsbD i =
      (decide (2 ≤ i) && (if i < 24 then x.getLsbD (i - 2) else x.getLsbD 21)) := by
  rw [BitVec.mul_comm, mul_four, BitVec.getLsbD_shiftLeft, BitVec.getLsbD_signExtend,
    BitVec.getLsbD_setWidth, msb_disp22]
  by_cases h2 : 2 ≤ i
  · have h0 : ¬ i < 2 := by omega
    have h3 : i - 2 < 32 := by omega
    by_cases h24 : i < 24
    · have h1 : i - 2 < 22 := by omega
      simp only [h2, h0, h24, h1, h3, hi, if_true, decide_true, decide_false, Bool.not_false,
        Bool.true_and]
    · have h1 : ¬ i - 2 < 22 := by omega
      simp only [h2, h0, h24, h1, h3, hi, if_false, decide_true, decide_false, Bool.not_false,
        Bool.true_and]
  · have h0 : i < 2 := by omega
    simp only [h2, h0, decide_true, decide_false, Bool.not_true, Bool.and_false, Bool.false_and]

lemma scaled_iff (x : u32) :
    sign_ext22 ((x &&& 0x3fffff) * 4) = 4 * (x.setWidth 22).signExtend 32 ↔ Near x := by
  constructor
  · intro h
    -- the bits where the two signs reach
    have bit (i : Nat) (hi : i < 32) := congrArg (BitVec.getLsbD · i) h
    have h22 := bit 22 (by decide)
    have h23 := bit 23 (by decide)
    have h24 := bit 24 (by decide)
    simp only [getLsbD_printed x (i := 22) (by decide), getLsbD_taken x (i := 22) (by decide)] at h22
    simp only [getLsbD_printed x (i := 23) (by decide), getLsbD_taken x (i := 23) (by decide)] at h23
    simp only [getLsbD_printed x (i := 24) (by decide), getLsbD_taken x (i := 24) (by decide)] at h24
    simp at h22 h23 h24
    exact ⟨h24, fun h21 => h22 (h24.trans h21)⟩
  · rintro ⟨hsign, hones⟩
    apply BitVec.eq_of_getLsbD_eq
    intro i hi
    rw [getLsbD_printed x hi, getLsbD_taken x hi, hsign]
    by_cases h22 : 22 ≤ i
    · have h2 : 2 ≤ i := by omega
      by_cases h24 : i < 24
      · obtain rfl | rfl : i = 22 ∨ i = 23 := by omega
        · cases h21 : x.getLsbD 21 with
          | false => simp
          | true => simp [hones h21]
        · simp
      · simp [h22, h2, h24]
    · have h24 : i < 24 := by omega
      simp [h22, h24]

/-! ### Targets -/

variable {δ : Type} (E : Board δ)

/-- The instruction is a branch that is taken or a call. A floating-point branch needs the unit on. -/
def Transfers (s : St δ) : Prop :=
  match transferOf s.d.opcode with
  | some .bicc => test_cc (decode s.cpu s.d) = true
  | some .fbfcc => Psr.ef s.cpu.psr = true ∧
      fbTaken ((s.d.opcode >>> 25) &&& 0xf) ((s.cpu.fsr >>> 10) &&& 3) = true
  | some .call => True
  | _ => False

/-- Where a transfer leaves its target: in `pc` if the delay instruction is annulled, else in `npc`. -/
def landing (opcode : u32) (c c' : CPU) : u32 := if (asks opcode c).annul then c'.pc else c'.npc

lemma landing_eq {c c' : CPU} {opcode target : u32} (hgoes : Goes c c' opcode)
    (ht : (asks opcode c).target = some target) : landing opcode c c' = target := by
  unfold Goes Delay.pairStep at hgoes
  rw [ht] at hgoes
  unfold landing
  cases ha : (asks opcode c).annul with
  | true =>
    rw [ha, if_pos rfl] at hgoes
    exact (Prod.mk.inj hgoes).1
  | false =>
    rw [ha, if_neg Bool.false_ne_true] at hgoes
    exact (Prod.mk.inj hgoes).2

/-- A branch that is taken is printed with its target if and only if the displacement is near. -/
lemma branch_printed_iff {c c' : CPU} {opcode : u32} (hgoes : Goes c c' opcode)
    (hask : asks opcode c = branchAsk opcode c.pc true) (h0 : opcode >>> 30 = 0)
    (hop : (opcode >>> 22) &&& 7 = 2 ∨ (opcode >>> 22) &&& 7 = 6) (st : Sethi) :
    printedTarget c.pc opcode st = some (landing opcode c c') ↔ Near opcode := by
  have htarget : (asks opcode c).target = some (c.pc + 4 * (opcode.setWidth 22).signExtend 32) := by
    rw [hask]
    rfl
  rw [printed_branch h0 hop, landing_eq hgoes htarget, Option.some.injEq, BitVec.add_right_inj,
    scaled_iff]

/-- **Printed targets**: where a branch that is taken or a call goes to is what the disassembler prints,
for every call, and for a branch if and only if its displacement is near. -/
theorem printed_target_iff (s : St δ) (st : Sethi) (h : Transfers s) :
    ∃ t, excute_one E s = .ok () t ∧
      (printedTarget s.cpu.pc s.d.opcode st = some (landing s.d.opcode s.cpu t.cpu) ↔
        (transferOf s.d.opcode = some .call ∨ Near s.d.opcode)) := by
  unfold Transfers at h
  rcases hk : transferOf s.d.opcode with _ | k
  · rw [hk] at h
    exact h.elim
  rw [hk] at h
  have hcoded := transferOf_some hk
  cases k with
  | bicc =>
    obtain ⟨t, ht, hgoes, -⟩ := goes_bicc E hk
    have hask : asks s.d.opcode s.cpu = branchAsk s.d.opcode s.cpu.pc true := by
      unfold asks
      rw [hk, ← bicc_taken s.cpu hk, h]
    refine ⟨t, ht, ?_⟩
    rw [branch_printed_iff hgoes hask hcoded.1 (.inl hcoded.2)]
    simp
  | fbfcc =>
    obtain ⟨t, ht, hgoes, -⟩ := goes_fbfcc E hk h.1
    have hask : asks s.d.opcode s.cpu = branchAsk s.d.opcode s.cpu.pc true := by
      unfold asks
      rw [hk, ← fbfcc_taken, h.2]
    refine ⟨t, ht, ?_⟩
    rw [branch_printed_iff hgoes hask hcoded.1 (.inr hcoded.2)]
    simp
  | call =>
    obtain ⟨t, ht, hgoes, -⟩ := goes_call E hk
    have htarget : (asks s.d.opcode s.cpu).target =
        some (s.cpu.pc + 4 * (s.d.opcode &&& 0x3fffffff)) := by
      unfold asks
      rw [hk]
    refine ⟨t, ht, ?_⟩
    rw [printed_call hcoded, landing_eq hgoes htarget, BitVec.mul_comm 4]
    simp
  | jmpl => exact h.elim

/-- `ba .-16` -/
theorem printed_target_back : Transfers (St.user 0x10bffffc) ∧
    ∃ t, excute_one (Board.ram []) (St.user 0x10bffffc) = .ok () t ∧
      (printedTarget (St.user 0x10bffffc).cpu.pc 0x10bffffc {} =
          some (landing 0x10bffffc (St.user 0x10bffffc).cpu t.cpu) ↔
        (transferOf 0x10bffffc = some .call ∨ Near 0x10bffffc)) := by
  have h : Transfers (St.user 0x10bffffc) := by
    show test_cc (decode (St.user 0x10bffffc).cpu (St.user 0x10bffffc).d) = true
    decide
  exact ⟨h, printed_target_iff (Board.ram []) (St.user 0x10bffffc) {} h⟩

/-- `ba .+0x200000` is printed as `ba .-0x200000`. -/
theorem far_target_misprinted : ∃ t, excute_one (Board.ram []) (St.user 0x10880000) = .ok () t ∧
    Transfers (St.user 0x10880000) ∧
    landing 0x10880000 (St.user 0x10880000).cpu t.cpu = (St.user 0x10880000).cpu.pc + 0x200000 ∧
    printedTarget (St.user 0x10880000).cpu.pc 0x10880000 {} =
      some ((St.user 0x10880000).cpu.pc - 0x200000) := by
  obtain ⟨t, ht, hgoes, -⟩ := goes_bicc (Board.ram []) (s := St.user 0x10880000) (by decide)
  refine ⟨t, ht, ?_, landing_eq hgoes (by decide), by decide⟩
  show test_cc (decode (St.user 0x10880000).cpu (St.user 0x10880000).d) = true
  decide

end Dis

end SparcEmu
