import SparcEmu.Retire
import SparcEmu.Lib.Adder

/-!
Division of `Y:rs1`. The emulator keeps the low half of the host's 64-bit quotient; a quotient
that does not fit in 32 bits is to be replaced by the nearest one that does, and the overflow
flag set. Here the two are compared.
-/

namespace SparcEmu

open Lib.Effect Lib.Adder

variable {δ : Type} (E : Board δ)

/-! ### The instructions and what they are to compute -/

structure Division where
  signed : Bool
  cc : Bool
deriving DecidableEq, Repr

namespace Division

def op3 (i : Division) : u32 := ofBool i.cc <<< 4 ||| 0xe ||| ofBool i.signed

/-- The exact quotient, rounded toward zero. -/
def quotient (i : Division) (x : u64) (y : u32) : Int :=
  if i.signed then x.toInt.tdiv y.toInt else x.toNat / y.toNat

/-- The quotient is a 32-bit number. -/
def InRange (i : Division) (q : Int) : Prop := if i.signed then Fits 32 q else q < 2 ^ 32

instance (i : Division) (q : Int) : Decidable (i.InRange q) :=
  inferInstanceAs (Decidable (if i.signed then Fits 32 q else q < 2 ^ 32))

/-- The 32-bit number nearest to a quotient out of range. -/
def saturated (i : Division) (q : Int) : u32 :=
  if i.signed then if 0 < q then 0x7fffffff else 0x80000000 else 0xffffffff

def value (i : Division) (x : u64) (y : u32) : u32 :=
  if i.InRange (i.quotient x y) then BitVec.ofInt 32 (i.quotient x y)
  else i.saturated (i.quotient x y)

/-- The condition codes that are to be set, if the instruction sets them. -/
def codes (i : Division) (x : u64) (y : u32) : Option Icc :=
  if i.cc then some
    { n := (i.value x y).msb
      z := decide (i.value x y = 0)
      v := decide (¬i.InRange (i.quotient x y))
      c := false }
  else none

def HostOk (i : Division) (x : u64) (y : u32) : Prop :=
  ¬(i.signed = true ∧ x = 0x8000000000000000 ∧ y = 0xffffffff)

instance (i : Division) (x : u64) (y : u32) : Decidable (i.HostOk x y) :=
  inferInstanceAs (Decidable ¬_)

lemma op3_lt (i : Division) : i.op3 < FIRST_RS1_EVAL_IDX := by
  obtain ⟨signed, cc⟩ := i
  cases signed <;> cases cc <;> decide

lemma op3_function (i : Division) : format3.getD i.op3.toNat .UNIMP = .DIV := by
  obtain ⟨signed, cc⟩ := i
  cases signed <;> cases cc <;> rfl

lemma signed_iff (i : Division) : i.op3 &&& 1 ≠ 0 ↔ i.signed = true := by
  obtain ⟨signed, cc⟩ := i
  cases signed <;> cases cc <;> decide

lemma sets_iff (i : Division) : i.op3 &&& 0x10 ≠ 0 ↔ i.cc = true := by
  obtain ⟨signed, cc⟩ := i
  cases signed <;> cases cc <;> decide

end Division

/-! ### The division of the host -/

lemma sext64_eq (y : u32) : sext64 (y.setWidth 64) = y.signExtend 64 := by
  have hbit : y.setWidth 64 &&& (0x80000000 : u64) ≠ 0 ↔ y.msb = true := by
    rw [show (0x80000000 : u64) = BitVec.twoPow 64 31 from rfl, BitVec.and_twoPow,
      BitVec.getLsbD_setWidth, BitVec.msb_eq_getLsbD_last]
    cases y.getLsbD 31
    · simp
    · decide
  have hhigh : (0xffffffff00000000 : u64) = BitVec.allOnes 64 <<< 32 := by decide
  unfold sext64
  rw [if_congr hbit rfl rfl]
  cases h : y.msb with
  | false =>
    rw [if_neg (by decide), BitVec.signExtend_eq_setWidth_of_msb_false h]
    exact BitVec.or_zero
  | true =>
    rw [if_pos rfl, hhigh]
    apply BitVec.eq_of_getLsbD_eq
    intro i hi
    rw [BitVec.getLsbD_signExtend, BitVec.getLsbD_or, BitVec.getLsbD_setWidth,
      BitVec.getLsbD_shiftLeft, BitVec.getLsbD_allOnes, h]
    by_cases h32 : i < 32
    · simp [h32, hi]
    · have : i - 32 < 64 := by omega
      simp [h32, hi, this]

lemma dividend_eq (y x : u32) : (y.setWidth 64 <<< 32) ||| x.setWidth 64 = (y ++ x : u64) := by
  have hy := y.isLt
  apply BitVec.eq_of_toNat_eq
  rw [BitVec.toNat_append, BitVec.toNat_or, BitVec.toNat_shiftLeft, BitVec.toNat_setWidth,
    BitVec.toNat_setWidth, Nat.mod_eq_of_lt (by omega), Nat.mod_eq_of_lt (by omega),
    Nat.shiftLeft_eq, Nat.mod_eq_of_lt (by omega)]

lemma setWidth_ofInt (q : Int) : (BitVec.ofInt 64 q).setWidth 32 = BitVec.ofInt 32 q := by
  apply BitVec.eq_of_toNat_eq
  rw [BitVec.toNat_setWidth, BitVec.toNat_ofInt, BitVec.toNat_ofInt]
  omega

structure Holds (z : u64) (q : Int) : Prop where
  word : z = BitVec.ofInt 64 q
  zero : z = 0 ↔ q = 0

lemma udiv_holds (x : u64) (y : u32) : Holds (x / y.setWidth 64) (x.toNat / y.toNat) := by
  have hy := y.isLt
  have hq : ((x / y.setWidth 64).toNat : Int) = x.toNat / y.toNat := by
    rw [BitVec.toNat_udiv, BitVec.toNat_setWidth, Nat.mod_eq_of_lt (by omega), Int.natCast_ediv]
  rw [← hq]
  constructor
  · rw [BitVec.ofInt_natCast, BitVec.ofNat_toNat, BitVec.setWidth_eq]
  · rw [Int.natCast_eq_zero]
    exact ⟨fun h => by rw [h]; rfl, fun h => BitVec.eq_of_toNat_eq h⟩

lemma signExtend_ones (y : u32) : y.signExtend 64 = (0xffffffffffffffff : u64) ↔ y = 0xffffffff := by
  constructor
  · intro h
    apply BitVec.eq_of_toInt_eq
    rw [← BitVec.toInt_signExtend_of_le (show 32 ≤ 64 by decide), h]
    decide
  · rintro rfl
    decide

variable {x : u64} {y : u32}

lemma sdiv_holds (h : ¬(x = 0x8000000000000000 ∧ y = 0xffffffff)) :
    Holds (x.sdiv (y.signExtend 64)) (x.toInt.tdiv y.toInt) := by
  have hne : x ≠ BitVec.intMin 64 ∨ y.signExtend 64 ≠ -1#64 := by
    by_cases hx : x = 0x8000000000000000
    · exact .inr fun hy => h ⟨hx, (signExtend_ones y).1 hy⟩
    · exact .inl hx
  have hq : (x.sdiv (y.signExtend 64)).toInt = x.toInt.tdiv y.toInt := by
    rw [BitVec.toInt_sdiv_of_ne_or_ne _ _ hne, BitVec.toInt_signExtend_of_le (by decide)]
  rw [← hq]
  constructor
  · rw [BitVec.ofInt_toInt]
  · exact ⟨fun h => by rw [h]; rfl, fun h => BitVec.eq_of_toInt_eq h⟩

variable {i : Division}

lemma hostDiv_ok (h : i.HostOk x y) :
    ∃ z r, hostDiv i.signed x (if i.signed then sext64 (y.setWidth 64) else y.setWidth 64) =
      .ok (z, r) ∧ Holds z (i.quotient x y) := by
  obtain ⟨signed, cc⟩ := i
  cases signed with
  | false => exact ⟨_, _, rfl, udiv_holds x y⟩
  | true =>
    have hne : ¬(x = 0x8000000000000000 ∧ y = 0xffffffff) := fun hxy => h ⟨rfl, hxy⟩
    unfold hostDiv
    simp only [if_true, sext64_eq, signExtend_ones, if_neg hne]
    exact ⟨_, _, rfl, sdiv_holds hne⟩

lemma hostDiv_traps (h : ¬i.HostOk x y) :
    hostDiv i.signed x (if i.signed then sext64 (y.setWidth 64) else y.setWidth 64) =
      .error .sigfpe := by
  obtain ⟨hs, hxy⟩ := not_not.1 h
  unfold hostDiv
  simp only [hs, if_true, sext64_eq, signExtend_ones, if_pos hxy]

/-! ### The function of the emulator -/

/-- The codes that the emulator sets are those of the low half of the quotient, without
overflow. -/
def Division.lowCodes (i : Division) (q : Int) : Option Icc :=
  if i.cc then some ⟨(BitVec.ofInt 32 q).msb, decide (q = 0), false, false⟩ else none

lemma Holds.bits {z : u64} {q : Int} (h : Holds z q) :
    z.setWidth 32 = BitVec.ofInt 32 q ∧
      Icc.mk (z.getLsbD 31) (decide (z = 0)) false false =
        ⟨(BitVec.ofInt 32 q).msb, decide (q = 0), false, false⟩ := by
  have hlow : z.setWidth 32 = BitVec.ofInt 32 q := by rw [h.word, setWidth_ofInt]
  refine ⟨hlow, ?_⟩
  rw [← hlow, BitVec.msb_eq_getLsbD_last, BitVec.getLsbD_setWidth, decide_eq_decide.2 h.zero]
  rfl

lemma divide_eq {c : CPU} {d : DecodeStruct} (hop : d.op_2_3 = i.op3) :
    divide c d = hostDiv i.signed (c.y_reg ++ d.rs1_value)
      (if i.signed then sext64 (d.ev.setWidth 64) else d.ev.setWidth 64) := by
  have hs : decide (i.op3 &&& 1 ≠ 0) = i.signed := by
    rw [Bool.eq_iff_iff, decide_eq_true_iff]
    exact i.signed_iff
  unfold divide
  rw [hop, hs, dividend_eq]

lemma operand_zero_iff (y : u32) : y.setWidth 64 = (0 : u64) ↔ y = 0 := by
  constructor
  · intro h
    have := congrArg (BitVec.setWidth 32) h
    simpa using this
  · rintro rfl
    rfl

variable {s : St δ}

lemma DIV_ok (hop : s.d.op_2_3 = i.op3) (hy : s.d.ev ≠ 0) {q : Int}
    (hq : i.quotient (s.cpu.y_reg ++ s.d.rs1_value) s.d.ev = q)
    (h : i.HostOk (s.cpu.y_reg ++ s.d.rs1_value) s.d.ev) :
    ∃ r, DIV s = .ok () { s with
      cpu := { s.cpu with y_reg := r }
      d := ({ s.d with
        psr := Psr.withCodes s.d.psr (i.lowCodes q) }.wb (BitVec.ofInt 32 q)).next } := by
  obtain ⟨z, r, hdiv, hz⟩ := hostDiv_ok h
  rw [hq] at hz
  rw [← divide_eq hop] at hdiv
  obtain ⟨hlow, hbits⟩ := hz.bits
  refine ⟨r.setWidth 32, ?_⟩
  unfold DIV Division.lowCodes
  rw [getD_bind, getCPU_bind,
    if_neg fun h0 => hy ((operand_zero_iff _).1 h0), hdiv]
  dsimp only
  rw [bind_ok (show modCPU _ s = .ok () _ from rfl)]
  unfold modD
  simp only [hop, if_congr i.sets_iff rfl rfl, ccWide_bits (Psr.nibble_icc _), hbits, hlow]
  split_ifs <;> rfl

lemma DIV_traps (hop : s.d.op_2_3 = i.op3) (hy : s.d.ev ≠ 0)
    (h : ¬i.HostOk (s.cpu.y_reg ++ s.d.rs1_value) s.d.ev) : DIV s = .error .sigfpe s := by
  unfold DIV
  rw [getD_bind, getCPU_bind,
    if_neg fun h0 => hy ((operand_zero_iff _).1 h0), divide_eq hop, hostDiv_traps h]
  rfl

/-! ### The instruction -/

namespace Division

/-- The dividend, the operand and the destination for which the emulator computes what it is to:
the quotient is in range, or the condition codes are left alone and the low half of the quotient
happens to be the saturated value or is not written. -/
def Works (i : Division) (x : u64) (y rd : u32) : Prop :=
  i.InRange (i.quotient x y) ∨
    i.cc = false ∧ (BitVec.ofInt 32 (i.quotient x y) = i.value x y ∨ rd = 0 ∧ i.HostOk x y)

lemma not_works_of_trap (h : ¬i.HostOk x y) (rd : u32) : ¬i.Works x y rd := by
  have hok := h
  obtain ⟨hs, rfl, rfl⟩ := not_not.1 h
  obtain ⟨signed, cc⟩ := i
  cases hs
  have hq : quotient ⟨true, cc⟩ 0x8000000000000000 0xffffffff = 2 ^ 63 := by cases cc <;> decide
  have hr : ¬InRange ⟨true, cc⟩ (2 ^ 63) := by cases cc <;> decide
  rintro (hin | ⟨-, hval | ⟨-, hok'⟩⟩)
  · exact hr (hq ▸ hin)
  · unfold value at hval
    rw [hq, if_neg hr] at hval
    exact absurd hval (by cases cc <;> decide)
  · exact hok hok'

lemma zero_iff (h : i.InRange (i.quotient x y)) :
    BitVec.ofInt 32 (i.quotient x y) = 0 ↔ i.quotient x y = 0 := by
  have hnat : BitVec.ofInt 32 (i.quotient x y) = 0 ↔ (i.quotient x y % 2 ^ 32).toNat = 0 := by
    rw [← BitVec.toNat_inj, BitVec.toNat_ofInt]
    rfl
  rw [hnat]
  unfold InRange Fits at h
  unfold quotient at h ⊢
  cases hs : i.signed with
  | false =>
    simp only [hs, Bool.false_eq_true, if_false] at h ⊢
    have : 0 ≤ (x.toNat : Int) / y.toNat := by positivity
    omega
  | true =>
    simp only [hs, if_true] at h ⊢
    omega

lemma lowCodes_iff (i : Division) (x : u64) (y psr : u32) :
    (i.lowCodes (i.quotient x y)).elim (Psr.icc psr) Icc.bits =
        (i.codes x y).elim (Psr.icc psr) Icc.bits ↔
      i.cc = false ∨ i.InRange (i.quotient x y) := by
  unfold lowCodes codes
  cases hcc : i.cc with
  | false => exact ⟨fun _ => .inl rfl, fun _ => rfl⟩
  | true =>
    simp only [if_true, Option.elim_some, Bool.true_eq_false, false_or]
    constructor
    · intro h
      have hv := congrArg (fun b => BitVec.getLsbD b 1) h
      simp only [(Icc.getLsbD_bits _).2.2.1] at hv
      exact not_not.1 (of_decide_eq_false hv.symm)
    · intro h
      have hval : i.value x y = BitVec.ofInt 32 (i.quotient x y) := if_pos h
      rw [hval, decide_eq_decide.2 (zero_iff h), decide_eq_false (not_not.2 h)]

lemma works_iff (h : i.HostOk x y) {rd : u32} :
    i.Works x y rd ↔ (rd = 0 ∨ BitVec.ofInt 32 (i.quotient x y) = i.value x y) ∧
      (i.cc = false ∨ i.InRange (i.quotient x y)) := by
  unfold Works
  constructor
  · rintro (hin | ⟨hcc, hval | ⟨hrd, -⟩⟩)
    · exact ⟨.inr (if_pos hin).symm, .inr hin⟩
    · exact ⟨.inr hval, .inl hcc⟩
    · exact ⟨.inl hrd, .inl hcc⟩
  · rintro ⟨hval, hcc | hin⟩
    · exact .inr ⟨hcc, hval.elim (fun hrd => .inr ⟨hrd, h⟩) .inl⟩
    · exact .inl hin

end Division

lemma excute_one_sigfpe (h : Format3 s.d.opcode i.op3) (hy : s.cpu.operand2 s.d.opcode ≠ 0)
    (hok : ¬i.HostOk (s.cpu.y_reg ++ s.cpu.operand1 s.d.opcode) (s.cpu.operand2 s.d.opcode)) :
    ∃ t, excute_one E s = .error .sigfpe t := by
  obtain ⟨-, hop, hx, hev, -⟩ := decode_format3 s.cpu h i.op3_lt
  have hrun := excute_one_format3 E h i.op3_lt i.op3_function
  have htrap := DIV_traps (s := { s with d := decode s.cpu s.d }) hop (by rw [hev]; exact hy)
    (by rw [hx, hev]; exact hok)
  rw [show Handler.DIV.exec E (throwHost .stack_overflow) = DIV from rfl, htrap] at hrun
  exact ⟨_, hrun⟩

/-- **Division**: the emulator writes the quotient, saturated, with its condition codes, just in
the cases of `Works`. -/
theorem division_iff (i : Division) (s : St δ) (h : Format3 s.d.opcode i.op3)
    (hy : s.cpu.operand2 s.d.opcode ≠ 0) :
    (∃ t y', excute_one E s = .ok () t ∧ t.mmu = s.mmu ∧ t.mem = s.mem ∧
        Retired { s.cpu with y_reg := y' } t.cpu s.d.opcode
          (i.value (s.cpu.y_reg ++ s.cpu.operand1 s.d.opcode) (s.cpu.operand2 s.d.opcode))
          (i.codes (s.cpu.y_reg ++ s.cpu.operand1 s.d.opcode) (s.cpu.operand2 s.d.opcode))) ↔
      i.Works (s.cpu.y_reg ++ s.cpu.operand1 s.d.opcode) (s.cpu.operand2 s.d.opcode)
        (destination s.d.opcode) := by
  obtain ⟨-, hop, hx, hev, hrd⟩ := decode_format3 s.cpu h i.op3_lt
  have hrun := excute_one_format3 E h i.op3_lt i.op3_function
  rw [show Handler.DIV.exec E (throwHost .stack_overflow) = DIV from rfl] at hrun
  by_cases hok : i.HostOk (s.cpu.y_reg ++ s.cpu.operand1 s.d.opcode) (s.cpu.operand2 s.d.opcode)
  · obtain ⟨r, hdiv⟩ := DIV_ok (s := { s with d := decode s.cpu s.d }) hop (by rw [hev]; exact hy)
      rfl (by rw [hx, hev]; exact hok)
    rw [hdiv] at hrun
    dsimp only at hrun
    rw [write_back_retire { s.cpu with y_reg := r } (decode_npc s.cpu s.d), hx, hev, hrd,
      decode_psr] at hrun
    have hiff := retired_iff { s.cpu with y_reg := r } s.d.opcode
      (BitVec.ofInt 32 (i.quotient (s.cpu.y_reg ++ s.cpu.operand1 s.d.opcode)
        (s.cpu.operand2 s.d.opcode)))
      (i.value (s.cpu.y_reg ++ s.cpu.operand1 s.d.opcode) (s.cpu.operand2 s.d.opcode))
      (i.lowCodes (i.quotient (s.cpu.y_reg ++ s.cpu.operand1 s.d.opcode)
        (s.cpu.operand2 s.d.opcode)))
      (i.codes (s.cpu.y_reg ++ s.cpu.operand1 s.d.opcode) (s.cpu.operand2 s.d.opcode))
    rw [i.lowCodes_iff, ← i.works_iff hok] at hiff
    rw [← hiff]
    constructor
    · rintro ⟨t, y', ht, -, -, hR⟩
      cases hrun.symm.trans ht
      -- The register `Y` of the outcome is the one that the division left.
      obtain ⟨_, _, -, -, heq⟩ := hR.frame
      have hy' := congrArg CPU.y_reg heq
      rw [retire_y_reg, retire_y_reg] at hy'
      cases hy'
      exact hR
    · exact fun hR => ⟨_, r, hrun, rfl, rfl, hR⟩
  · obtain ⟨u, hu⟩ := excute_one_sigfpe E h hy hok
    constructor
    · rintro ⟨t, y', ht, -⟩
      exact nomatch hu.symm.trans ht
    · exact fun hw => absurd hw (Division.not_works_of_trap hok _)

/-- A machine in user mode that has fetched `opcode`, with a value in `Y`. -/
def St.dividing (opcode y : u32) : St Unit :=
  { St.user opcode with cpu := { (St.user opcode).cpu with y_reg := y } }

/-- `udivcc %g0, 2, %g1` with `Y` one divides 2³² by two. -/
theorem division_iff_udivcc :
    Format3 (St.dividing 0x82f02002 1).d.opcode (Division.op3 ⟨false, true⟩) ∧
      (St.dividing 0x82f02002 1).cpu.operand2 (St.dividing 0x82f02002 1).d.opcode ≠ 0 ∧
      ∃ t y', excute_one (Board.ram []) (St.dividing 0x82f02002 1) = .ok () t ∧
        t.mmu = (St.dividing 0x82f02002 1).mmu ∧ t.mem = (St.dividing 0x82f02002 1).mem ∧
        Retired { (St.dividing 0x82f02002 1).cpu with y_reg := y' } t.cpu
          (St.dividing 0x82f02002 1).d.opcode
          (Division.value ⟨false, true⟩ ((St.dividing 0x82f02002 1).cpu.y_reg ++
            (St.dividing 0x82f02002 1).cpu.operand1 (St.dividing 0x82f02002 1).d.opcode)
            ((St.dividing 0x82f02002 1).cpu.operand2 (St.dividing 0x82f02002 1).d.opcode))
          (Division.codes ⟨false, true⟩ ((St.dividing 0x82f02002 1).cpu.y_reg ++
            (St.dividing 0x82f02002 1).cpu.operand1 (St.dividing 0x82f02002 1).d.opcode)
            ((St.dividing 0x82f02002 1).cpu.operand2 (St.dividing 0x82f02002 1).d.opcode)) :=
  ⟨by decide, by decide, (division_iff (Board.ram []) ⟨false, true⟩ (St.dividing 0x82f02002 1)
    (by decide) (by decide)).2 (.inl (by decide))⟩

/-- **A quotient out of range**: `udiv %g0, 1, %g1` with `Y` one writes zero, the low half of 2³²,
and `sdiv %g0, -1, %g1` with the least `Y` ends the emulator. -/
theorem quotient_not_saturated :
    (∃ t, excute_one (Board.ram []) (St.dividing 0x82702001 1) = .ok () t ∧
      t.cpu.read_reg 1 0 = 0) ∧
    Division.value ⟨false, false⟩ ((1 : u32) ++ (0 : u32)) 1 = 0xffffffff ∧
    ∃ t, excute_one (Board.ram []) (St.dividing 0x82783fff 0x80000000) = .error .sigfpe t := by
  refine ⟨?_, by decide, ?_⟩
  · obtain ⟨a, t, ht, h0⟩ := exists_ok (r := excute_one (Board.ram []) (St.dividing 0x82702001 1))
      (P := fun t => t.cpu.read_reg 1 0 = 0) (by decide +kernel) (by decide +kernel)
    exact ⟨t, ht, h0⟩
  · exact excute_one_sigfpe (i := ⟨true, false⟩) (Board.ram []) (by decide) (by decide) (by decide)

end SparcEmu
