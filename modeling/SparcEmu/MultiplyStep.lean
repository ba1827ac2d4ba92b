import SparcEmu.AddSub
import SparcEmu.Division
import SparcEmu.Lib.ShiftAdd

/-!
The multiply step. A step halves the partial product, with the sign `N xor V` shifted in, and adds
the operand when the bit that leaves `Y` is set. Thirty-two steps and one without an operand are
compared with the multiplication instructions.
-/

namespace SparcEmu

open Lib.Effect Lib.Adder Lib

variable {δ : Type} (E : Board δ)

/-! ### Shifting a bit in -/

/-- `x` shifted to the right by one, with `b` as its top bit. -/
def shiftIn (x : u32) (b : Bool) : u32 := x >>> 1 ||| ofBool b <<< 31

lemma shiftIn_toNat (x : u32) (b : Bool) :
    (shiftIn x b).toNat = x.toNat / 2 + 2 ^ 31 * b.toNat := by
  have hx := x.isLt
  have hhalf : (x >>> 1).toNat = x.toNat / 2 := by
    rw [BitVec.toNat_ushiftRight, Nat.shiftRight_eq_div_pow]
  cases b with
  | false =>
    show (x >>> 1 ||| 0#32).toNat = _
    rw [BitVec.or_zero, hhalf]
    rfl
  | true =>
    have hdisj : x >>> 1 &&& BitVec.twoPow 32 31 = 0#32 := by
      rw [BitVec.and_twoPow, if_neg]
      simp
    show (x >>> 1 ||| BitVec.twoPow 32 31).toNat = _
    rw [← BitVec.add_eq_or_of_and_eq_zero _ _ hdisj, BitVec.toNat_add, hhalf,
      show (BitVec.twoPow 32 31).toNat = 2 ^ 31 from rfl]
    simp only [Bool.toNat_true]
    omega

lemma shiftIn_toInt (x : u32) (b : Bool) :
    (shiftIn x b).toInt = (x.toNat - if b then ((2 ^ 32 : Nat) : Int) else 0) / 2 := by
  have hx := x.isLt
  have h := shiftIn_toNat x b
  rw [BitVec.toInt_eq_toNat_cond, h]
  cases b <;> simp only [Bool.toNat_true, Bool.toNat_false, if_true, if_false, Bool.false_eq_true] <;>
    split_ifs <;> omega

lemma getLsbD_zero_iff (x : u32) : x.getLsbD 0 = true ↔ x.toNat % 2 = 1 := by
  rw [BitVec.getLsbD, Nat.testBit_zero, decide_eq_true_iff]

/-! ### One step -/

def Psr.sign (p : u32) : Bool := Psr.n p ^^ Psr.v p

lemma Psr.sign_icc (p : u32) : Psr.sign p = ((Psr.icc p).getLsbD 1 ^^ (Psr.icc p).getLsbD 3) := by
  unfold Psr.sign Psr.n Psr.v Psr.icc
  rw [Bool.xor_comm]
  simp

/-- What is added: the operand, when the bit that leaves `Y` is set. -/
def mulAddend (y_reg a : u32) : u32 := if y_reg.getLsbD 0 then a else 0

def mulSum (psr y_reg x a : u32) : u32 := sum (shiftIn x (Psr.sign psr)) (mulAddend y_reg a) false

def mulIcc (psr y_reg x a : u32) : Icc where
  n := (mulSum psr y_reg x a).msb
  z := decide (mulSum psr y_reg x a = 0)
  v := overflowTop (shiftIn x (Psr.sign psr)).msb (mulAddend y_reg a).msb (mulSum psr y_reg x a).msb
  c := carryTop (shiftIn x (Psr.sign psr)).msb (mulAddend y_reg a).msb (mulSum psr y_reg x a).msb

lemma shift_top (x : u32) : x >>> 31 = ofBool x.msb := by
  rw [← top_eq]
  apply BitVec.eq_of_getLsbD_eq
  intro i hi
  rw [BitVec.getLsbD_and, BitVec.getLsbD_ushiftRight]
  by_cases h0 : i = 0
  · subst h0; simp
  · rw [BitVec.getLsbD_of_ge x (31 + i) (by omega)]
    simp

lemma MULSCC_eq (s : St δ) :
    MULSCC s = .ok () { s with
      cpu := { s.cpu with y_reg := shiftIn s.cpu.y_reg (s.d.rs1_value.getLsbD 0) }
      d := ({ s.d with
        psr := Psr.setIcc s.d.psr (mulIcc s.d.psr s.cpu.y_reg s.d.rs1_value s.d.ev).bits }.wb
          (mulSum s.d.psr s.cpu.y_reg s.d.rs1_value s.d.ev)).next } := by
  have hx : (s.d.rs1_value >>> 1) |||
      ((((Psr.icc s.d.psr >>> 1) ^^^ (Psr.icc s.d.psr >>> 3)) &&& 1) <<< 31)
        = shiftIn s.d.rs1_value (Psr.sign s.d.psr) := by
    rw [and_one_eq, BitVec.getLsbD_xor, BitVec.getLsbD_ushiftRight, BitVec.getLsbD_ushiftRight,
      Psr.sign_icc]
    rfl
  have hy : (if s.cpu.y_reg &&& 1 ≠ 0 then s.d.ev else 0) = mulAddend s.cpu.y_reg s.d.ev := by
    unfold mulAddend
    rw [and_one_eq]
    cases s.cpu.y_reg.getLsbD 0 <;> rfl
  have hz : shiftIn s.d.rs1_value (Psr.sign s.d.psr) + mulAddend s.cpu.y_reg s.d.ev
      = mulSum s.d.psr s.cpu.y_reg s.d.rs1_value s.d.ev := by
    unfold mulSum sum
    exact (BitVec.add_zero _).symm
  unfold MULSCC
  rw [getD_bind, getCPU_bind]
  dsimp only
  rw [bind_ok (show modCPU _ s = .ok () _ from rfl)]
  unfold modD
  dsimp only
  rw [hx, hy, hz, shift_top, shift_top, shift_top, overflowTop_bits, carryTop_bits,
    ccResult_bits (Psr.nibble_icc _), and_one_eq s.d.rs1_value]
  rfl

/-! ### The instruction -/

/-- `mulscc` with `r` as its first operand and its destination. -/
def MulStep (opcode r : u32) : Prop :=
  Format3 opcode 0x24 ∧ (opcode >>> 14) &&& 0x1f = r ∧ destination opcode = r

instance (opcode r : u32) : Decidable (MulStep opcode r) := inferInstanceAs (Decidable (_ ∧ _))

/-- The partial product, with its sign, and the register of the multiplier. -/
def CPU.multiplying (c : CPU) (r : u32) : ShiftAdd.Acc where
  p := (c.read_reg r 0).toNat - if Psr.sign c.psr then ((2 ^ 32 : Nat) : Int) else 0
  q := c.y_reg.toNat

lemma Psr.sign_setIcc (p : u32) (i : Icc) : Psr.sign (Psr.setIcc p i.bits) = (i.n ^^ i.v) := by
  obtain ⟨hn, -, hv, -⟩ := i.getLsbD_bits
  rw [Psr.sign_icc, Psr.icc_setIcc i.bits_nibble, hn, hv, Bool.xor_comm]

lemma mulSum_exact (psr y_reg x a : u32) :
    ((mulSum psr y_reg x a).toNat : Int) -
        (if (mulIcc psr y_reg x a).n ^^ (mulIcc psr y_reg x a).v then ((2 ^ 32 : Nat) : Int) else 0)
      = (x.toNat - if Psr.sign psr then ((2 ^ 32 : Nat) : Int) else 0) / 2 +
        if y_reg.toNat % 2 = 1 then a.toInt else 0 := by
  have hadd : (mulAddend y_reg a).toInt = if y_reg.toNat % 2 = 1 then a.toInt else 0 := by
    unfold mulAddend
    rw [if_congr (getLsbD_zero_iff y_reg) rfl rfl]
    split_ifs <;> rfl
  have h := sum_exact (by decide) (shiftIn x (Psr.sign psr)) (mulAddend y_reg a) false
  rw [shiftIn_toInt, hadd, Bool.toNat_false, Nat.cast_zero, add_zero] at h
  exact h

variable {r : u32}

lemma multiplying_retire (c : CPU) (psr value : u32) (i : Icc) (hr : r.toNat < 32) (h0 : r ≠ 0) :
    (c.retire (Psr.setIcc psr i.bits) value r).multiplying r =
      ⟨value.toNat - if i.n ^^ i.v then ((2 ^ 32 : Nat) : Int) else 0, c.y_reg.toNat⟩ := by
  have hread : (c.retire (Psr.setIcc psr i.bits) value r).read_reg r 0 = value := by
    unfold CPU.retire
    rw [read_write_reg _ value hr, if_neg h0]
  have hpsr : (c.retire (Psr.setIcc psr i.bits) value r).psr = Psr.setIcc psr i.bits :=
    (write_reg_fields _ value r).2.2.1
  unfold CPU.multiplying
  rw [hread, hpsr, Psr.sign_setIcc, retire_y_reg]

lemma multiplying_low (c : CPU) (r : u32) :
    ((c.multiplying r).p % 2).toNat = ((c.read_reg r 0).getLsbD 0).toNat := by
  have hbit := getLsbD_zero_iff (c.read_reg r 0)
  show (((c.read_reg r 0).toNat - if Psr.sign c.psr then ((2 ^ 32 : Nat) : Int) else 0) % 2).toNat = _
  cases hb : (c.read_reg r 0).getLsbD 0 <;> rw [hb] at hbit <;>
    simp only [Bool.false_eq_true, false_iff, true_iff] at hbit <;>
    simp only [Bool.toNat_false, Bool.toNat_true] <;> split_ifs <;> omega

variable {s : St δ}

theorem excute_one_mulStep (h : MulStep s.d.opcode r) (hr : r ≠ 0) :
    ∃ t, excute_one E s = .ok () t ∧
      t.cpu.multiplying r =
        ShiftAdd.step 32 (s.cpu.operand2 s.d.opcode).toInt (s.cpu.multiplying r) := by
  obtain ⟨hf, h1, hdest⟩ := h
  obtain ⟨-, -, hx, hy, hrd⟩ := decode_format3 s.cpu hf (by decide)
  have hr32 : r.toNat < 32 := by
    rw [← h1]
    exact Nat.lt_of_le_of_lt (toNat_and_le _ 0x1f) (by decide)
  have hrun := excute_one_format3 E hf (by decide) (f := .MULSCC) rfl
  rw [show Handler.exec E (throwHost .stack_overflow) .MULSCC = MULSCC from rfl, MULSCC_eq] at hrun
  dsimp only at hrun
  have hwb := write_back_retire
    { s.cpu with y_reg := shiftIn s.cpu.y_reg ((decode s.cpu s.d).rs1_value.getLsbD 0) }
    (decode_npc s.cpu s.d)
  rw [hwb, hrd, decode_psr, hx, hy, hdest] at hrun
  have hop1 : s.cpu.operand1 s.d.opcode = s.cpu.read_reg r 0 := by
    unfold CPU.operand1
    rw [h1]
  rw [hop1] at hrun
  refine ⟨_, hrun, ?_⟩
  dsimp only
  rw [multiplying_retire _ _ _ _ hr32 hr]
  apply ShiftAdd.Acc.ext
  · exact mulSum_exact ..
  · show (shiftIn _ _).toNat = s.cpu.y_reg.toNat / 2 + 2 ^ 31 * ((s.cpu.multiplying r).p % 2).toNat
    rw [shiftIn_toNat, multiplying_low]

/-! ### Many steps -/

def executes : List u32 → M δ Unit
  | [] => pure ()
  | opcode :: ops => do
    modD fun d => { d with opcode := opcode }
    excute_one E
    executes ops

/-- The instructions are steps on `r`, and each finds its operand of the first list. -/
def StepsWith (r : u32) : List u32 → List u32 → St δ → Prop
  | [], [], _ => True
  | a :: as, opcode :: ops, s =>
    (MulStep opcode r ∧ s.cpu.operand2 opcode = a) ∧
      ∀ t, excute_one E { s with d := { s.d with opcode := opcode } } = .ok () t →
        StepsWith r as ops t
  | _, _, _ => False

variable {ops : List u32}

lemma stepsWith_const (h : ∀ opcode ∈ ops, MulStep opcode r ∧ (opcode >>> 13) &&& 1 ≠ 0) (s : St δ) :
    StepsWith E r (ops.map fun opcode => sign_ext13 (opcode &&& 0x1fff)) ops s := by
  induction ops generalizing s with
  | nil => trivial
  | cons opcode ops ih =>
    obtain ⟨hstep, hi⟩ := h opcode List.mem_cons_self
    refine ⟨⟨hstep, ?_⟩, fun t _ => ih (fun op hop => h op (List.mem_cons_of_mem _ hop)) t⟩
    unfold CPU.operand2
    rw [if_pos hi]

lemma executes_cons {opcode : u32} {t : St δ}
    (h : excute_one E { s with d := { s.d with opcode := opcode } } = .ok () t) :
    executes E (opcode :: ops) s = executes E ops t := by
  show ((modD fun d => { d with opcode := opcode }) >>= fun _ => excute_one E >>= fun _ =>
    executes E ops) s = _
  rw [bind_ok (show modD (fun d => { d with opcode := opcode }) s = .ok () _ from rfl), bind_ok h]

theorem executes_mulSteps (hr : r ≠ 0) {as : List u32} (h : StepsWith E r as ops s) :
    ∃ t, executes E ops s = .ok () t ∧
      t.cpu.multiplying r = ShiftAdd.steps 32 (as.map BitVec.toInt) (s.cpu.multiplying r) := by
  induction as generalizing ops s with
  | nil =>
    cases ops with
    | nil => exact ⟨s, rfl, rfl⟩
    | cons => exact h.elim
  | cons a as ih =>
    cases ops with
    | nil => exact h.elim
    | cons opcode ops =>
      obtain ⟨⟨hstep, hop⟩, hrest⟩ := h
      obtain ⟨u, hu, hacc⟩ := excute_one_mulStep E
        (s := { s with d := { s.d with opcode := opcode } }) hstep hr
      obtain ⟨t, ht, hall⟩ := ih (hrest u hu)
      refine ⟨t, (executes_cons E hu).trans ht, ?_⟩
      have hop' : s.cpu.operand2 opcode = a := hop
      rw [hall, hacc]
      dsimp only
      rw [hop']
      rfl

/-! ### The multiplication instructions -/

structure Multiplication where
  signed : Bool
  cc : Bool
deriving DecidableEq, Repr

namespace Multiplication

def op3 (i : Multiplication) : u32 := ofBool i.cc <<< 4 ||| 0xa ||| ofBool i.signed

def product (i : Multiplication) (x y : u32) : Int :=
  if i.signed then x.toInt * y.toInt else x.toNat * y.toNat

lemma op3_lt (i : Multiplication) : i.op3 < FIRST_RS1_EVAL_IDX := by
  obtain ⟨signed, cc⟩ := i
  cases signed <;> cases cc <;> decide

lemma op3_function (i : Multiplication) : format3.getD i.op3.toNat .UNIMP = .MUL := by
  obtain ⟨signed, cc⟩ := i
  cases signed <;> cases cc <;> rfl

lemma signed_iff (i : Multiplication) : i.op3 &&& 1 ≠ 0 ↔ i.signed = true := by
  obtain ⟨signed, cc⟩ := i
  cases signed <;> cases cc <;> decide

lemma host_product (i : Multiplication) (x y : u32) :
    (if i.op3 &&& 1 ≠ 0 then sext64 (x.setWidth 64) * sext64 (y.setWidth 64)
      else x.setWidth 64 * y.setWidth 64) = BitVec.ofInt 64 (i.product x y) := by
  have hx := x.isLt
  have hy := y.isLt
  unfold product
  rw [if_congr i.signed_iff rfl rfl, sext64_eq, sext64_eq]
  split_ifs
  · rw [BitVec.ofInt_mul, ← BitVec.toInt_signExtend_of_le (show 32 ≤ 64 by decide),
      ← BitVec.toInt_signExtend_of_le (x := y) (show 32 ≤ 64 by decide), BitVec.ofInt_toInt,
      BitVec.ofInt_toInt]
  · rw [BitVec.ofInt_mul, BitVec.ofInt_natCast, BitVec.ofInt_natCast, BitVec.ofNat_toNat,
      BitVec.ofNat_toNat]

end Multiplication

lemma MUL_eq {i : Multiplication} (hop : s.d.op_2_3 = i.op3) :
    ∃ psr, MUL s = .ok () { s with
      cpu := { s.cpu with
        y_reg := (BitVec.ofInt 64 (i.product s.d.rs1_value s.d.ev) >>> 32).setWidth 32 }
      d := ({ s.d with psr := psr }.wb
        ((BitVec.ofInt 64 (i.product s.d.rs1_value s.d.ev)).setWidth 32)).next } := by
  have hlow (z : u64) : (z &&& 0xffffffff).setWidth 32 = z.setWidth 32 := by
    rw [BitVec.setWidth_and]
    exact BitVec.and_allOnes
  have hhost := i.host_product s.d.rs1_value s.d.ev
  rw [← hop] at hhost
  unfold MUL
  rw [getD_bind]
  dsimp only
  rw [bind_ok (show modCPU _ s = .ok () _ from rfl), hhost]
  unfold modD
  dsimp only
  rw [hlow]
  exact ⟨_, rfl⟩

lemma append_halves (z : u64) : ((z >>> 32).setWidth 32 ++ z.setWidth 32 : u64) = z := by
  apply BitVec.eq_of_getLsbD_eq
  intro i hi
  rw [BitVec.getLsbD_append]
  by_cases h : i < 32
  · simp [h]
  · have h1 : i - 32 < 32 := by omega
    have h2 : 32 + (i - 32) = i := by omega
    simp [h, h1, h2]

/-- **The multiplication instructions** leave the exact product in `Y` and the destination. -/
theorem excute_one_multiplication (i : Multiplication) (h : Format3 s.d.opcode i.op3)
    (hd : destination s.d.opcode ≠ 0) :
    ∃ t, excute_one E s = .ok () t ∧
      (t.cpu.y_reg ++ t.cpu.read_reg (destination s.d.opcode) 0 : u64) =
        BitVec.ofInt 64 (i.product (s.cpu.operand1 s.d.opcode) (s.cpu.operand2 s.d.opcode)) := by
  obtain ⟨-, hop, hx, hy, hrd⟩ := decode_format3 s.cpu h i.op3_lt
  have hrd32 : (destination s.d.opcode).toNat < 32 :=
    Nat.lt_of_le_of_lt (toNat_and_le _ 0x1f) (by decide)
  obtain ⟨psr, hmul⟩ := MUL_eq (s := { s with d := decode s.cpu s.d }) hop
  have hrun := excute_one_format3 E h i.op3_lt i.op3_function
  rw [show Handler.exec E (throwHost .stack_overflow) .MUL = MUL from rfl, hmul] at hrun
  dsimp only at hrun
  have hwb := write_back_retire
    { s.cpu with y_reg := (BitVec.ofInt 64
      (i.product (decode s.cpu s.d).rs1_value (decode s.cpu s.d).ev) >>> 32).setWidth 32 }
    (decode_npc s.cpu s.d)
  rw [hwb, hrd, hx, hy] at hrun
  refine ⟨_, hrun, ?_⟩
  dsimp only
  rw [retire_y_reg]
  unfold CPU.retire
  rw [read_write_reg _ _ hrd32, if_neg hd]
  exact append_halves _

/-! ### The product -/

lemma multiplying_append {c : CPU} {n : Int}
    (h : 2 ^ 32 * (c.multiplying r).p + (c.multiplying r).q = n) :
    (c.read_reg r 0 ++ c.y_reg : u64) = BitVec.ofInt 64 n := by
  have hr := (c.read_reg r 0).isLt
  have hy := c.y_reg.isLt
  have hcat : (c.read_reg r 0 ++ c.y_reg : u64).toNat
      = (c.read_reg r 0).toNat * 2 ^ 32 + c.y_reg.toNat := by
    rw [BitVec.toNat_append, ← Nat.shiftLeft_add_eq_or_of_lt hy, Nat.shiftLeft_eq]
  apply BitVec.eq_of_toNat_eq
  rw [hcat, BitVec.toNat_ofInt, ← h]
  unfold CPU.multiplying
  dsimp only
  split_ifs <;> omega

lemma Multiplication.product_eq (i : Multiplication) {a b : u32}
    (h : if i.signed then b.toNat < 2 ^ 31 else a.toNat < 2 ^ 31) :
    i.product a b = a.toInt * b.toNat := by
  unfold product
  split_ifs at h ⊢
  · rw [BitVec.toInt_eq_toNat_of_lt (x := b) (by omega)]
  · rw [BitVec.toInt_eq_toNat_of_lt (x := a) (by omega)]

lemma Multiplication.product_comm (i : Multiplication) (a b : u32) :
    i.product a b = i.product b a := by
  unfold product
  rw [Int.mul_comm a.toInt, Int.mul_comm (a.toNat : Int)]

/-- **Multiply step**: thirty-two steps with the operand `a` and one with zero leave the product of
`a`, signed, and `b`, unsigned, which is what the multiplication instructions compute where they
read the operands the same way. -/
theorem multiply_steps {r a b : u32} {ops : List u32} {s : St δ} (hr : r ≠ 0)
    (h : StepsWith E r (List.replicate 32 a ++ [0]) ops s) (hY : s.cpu.y_reg = b)
    (hp : s.cpu.read_reg r 0 = 0) (hN : Psr.n s.cpu.psr = false) (hV : Psr.v s.cpu.psr = false) :
    ∃ t, executes E ops s = .ok () t ∧
      (t.cpu.read_reg r 0 ++ t.cpu.y_reg : u64) = BitVec.ofInt 64 (a.toInt * b.toNat) ∧
      ∀ (i : Multiplication) (u : St δ), Format3 u.d.opcode i.op3 → destination u.d.opcode ≠ 0 →
        (u.cpu.operand1 u.d.opcode = a ∧ u.cpu.operand2 u.d.opcode = b ∨
          u.cpu.operand1 u.d.opcode = b ∧ u.cpu.operand2 u.d.opcode = a) →
        (if i.signed then b.toNat < 2 ^ 31 else a.toNat < 2 ^ 31) →
        ∃ v, excute_one E u = .ok () v ∧
          (v.cpu.y_reg ++ v.cpu.read_reg (destination u.d.opcode) 0 : u64) =
            t.cpu.read_reg r 0 ++ t.cpu.y_reg := by
  have hstart : s.cpu.multiplying r = ⟨0, b.toNat⟩ := by
    unfold CPU.multiplying Psr.sign
    rw [hp, hN, hV, hY]
    rfl
  obtain ⟨t, ht, hacc⟩ := executes_mulSteps E hr h
  have hmap : (List.replicate 32 a ++ [0]).map BitVec.toInt = List.replicate 32 a.toInt ++ [0] := by
    rw [List.map_append, List.map_replicate]
    rfl
  rw [hstart, hmap] at hacc
  have hmul : 2 ^ 32 * (t.cpu.multiplying r).p + (t.cpu.multiplying r).q = a.toInt * b.toNat := by
    rw [hacc]
    exact ShiftAdd.product (by decide) b.isLt
  have hprod := multiplying_append hmul
  refine ⟨t, ht, hprod, ?_⟩
  intro i u hf hd hops hrange
  obtain ⟨v, hv, hres⟩ := excute_one_multiplication E i hf hd
  refine ⟨v, hv, ?_⟩
  rw [hres, hprod, ← i.product_eq hrange]
  rcases hops with ⟨h1, h2⟩ | ⟨h1, h2⟩
  · rw [h1, h2]
  · rw [h1, h2, i.product_comm]

/-- A machine in user mode with a multiplier in `Y`. -/
def St.multiplier (b : u32) : St Unit :=
  { St.user 0 with cpu := { (St.user 0).cpu with y_reg := b } }

/-- `mulscc %g1, -3, %g1`, thirty-two times, and `mulscc %g1, 0, %g1`, on the multiplier 5. -/
theorem multiply_steps_five :
    StepsWith (Board.ram []) 1 (List.replicate 32 (-3) ++ [0])
        (List.replicate 32 0x83207ffd ++ [0x83206000]) (St.multiplier 5) ∧
      ∃ t, executes (Board.ram []) (List.replicate 32 0x83207ffd ++ [0x83206000])
          (St.multiplier 5) = .ok () t ∧
        (t.cpu.read_reg 1 0 ++ t.cpu.y_reg : u64) = -15 := by
  have h : StepsWith (Board.ram []) 1 (List.replicate 32 (-3) ++ [0])
      (List.replicate 32 0x83207ffd ++ [0x83206000]) (St.multiplier 5) := by
    have hmap : (List.replicate 32 (0x83207ffd : u32) ++ [0x83206000]).map
        (fun opcode => sign_ext13 (opcode &&& 0x1fff)) = List.replicate 32 (-3) ++ [0] := by
      rw [List.map_append, List.map_replicate]
      rfl
    rw [← hmap]
    refine stepsWith_const (Board.ram []) (fun opcode hop => ?_) _
    rcases List.mem_append.mp hop with hop | hop
    · rw [List.eq_of_mem_replicate hop]
      decide
    · rw [List.mem_singleton.mp hop]
      decide
  obtain ⟨t, ht, hprod, -⟩ :=
    multiply_steps (Board.ram []) (b := 5) (by decide) h rfl (by decide) (by decide) (by decide)
  exact ⟨h, t, ht, hprod⟩

end SparcEmu
