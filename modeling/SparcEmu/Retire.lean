import SparcEmu.Transparency

/-!
Instructions of format 3 that compute a value from two operands: how they are decoded, the
condition codes they leave and the register they write.
-/

namespace SparcEmu

open Lib.Effect

variable {δ : Type} (E : Board δ)

/-! ### Decoding -/

def Format3 (opcode op3 : u32) : Prop := opcode >>> 30 = 2 ∧ (opcode >>> 19) &&& 0x3f = op3

instance (opcode op3 : u32) : Decidable (Format3 opcode op3) := inferInstanceAs (Decidable (_ ∧ _))

def CPU.operand1 (c : CPU) (opcode : u32) : u32 := c.read_reg ((opcode >>> 14) &&& 0x1f) 0

/-- The second operand: a register or the sign-extended constant. -/
def CPU.operand2 (c : CPU) (opcode : u32) : u32 :=
  if (opcode >>> 13) &&& 1 ≠ 0 then sign_ext13 (opcode &&& 0x1fff) else c.read_reg (opcode &&& 0x1f) 0

def destination (opcode : u32) : u32 := (opcode >>> 25) &&& 0x1f

lemma Format3.formatIdx {opcode op3 : u32} (h : Format3 opcode op3) : formatIdx opcode = op3 := by
  unfold SparcEmu.formatIdx
  rw [h.1]
  simpa using h.2

lemma decode_format3 (c : CPU) {d : DecodeStruct} {op3 : u32} (h : Format3 d.opcode op3)
    (h3 : op3 < FIRST_RS1_EVAL_IDX) :
    (decode c d).function = format3.getD op3.toNat .UNIMP ∧ (decode c d).op_2_3 = op3 ∧
      (decode c d).rs1_value = c.operand1 d.opcode ∧ (decode c d).ev = c.operand2 d.opcode ∧
      (decode c d).rd = destination d.opcode := by
  have h0 : ¬ (d.opcode >>> 30) &&& 3 = 0 := by rw [h.1]; decide
  have h1 : ¬ (d.opcode >>> 30) &&& 3 = 1 := by rw [h.1]; decide
  have hrs2 : d.opcode &&& 0x1fff &&& 0x1f = d.opcode &&& 0x1f := by
    rw [BitVec.and_assoc]; rfl
  simp only [decode, if_neg h1, if_neg h0, decodeOperands, decodeFields, h.formatIdx, if_pos h3,
    h.2, CPU.operand1, CPU.operand2, destination, hrs2]
  refine ⟨trivial, trivial, read_reg_field c _ _ _, ?_, trivial⟩
  split_ifs
  · exact BitVec.zero_add _
  · rw [read_reg_field c d.opcode d.ev 0]
    exact BitVec.add_zero _

lemma Format3.entry {s : St δ} {op3 : u32} (h : Format3 s.d.opcode op3)
    (h3 : op3 < FIRST_RS1_EVAL_IDX) : entry s = s := by
  apply entry_none
  cases hb : breakpointAt s.cpu (decode s.cpu s.d) with
  | none => rfl
  | some bp =>
    have hta : s.d.opcode = TA1 := by rw [← decode_opcode s.cpu s.d]; exact breakpointAt_some hb
    rw [hta] at h
    have : op3 = 0x3a := by rw [← h.2]; decide
    rw [this] at h3
    exact absurd h3 (by decide)

theorem excute_one_format3 {s : St δ} {op3 : u32} (h : Format3 s.d.opcode op3)
    (h3 : op3 < FIRST_RS1_EVAL_IDX) {f : Handler} (hf : format3.getD op3.toNat .UNIMP = f) :
    excute_one E s =
      match f.exec E (throwHost .stack_overflow) { s with d := decode s.cpu s.d } with
      | .ok _ t => .ok () { t with cpu := t.cpu.write_back t.d }
      | .error e t => .error e t := by
  have hinstr : s.instr = decode s.cpu s.d := by unfold St.instr; rw [h.entry h3]
  have key := excute_one_instr E s
  rw [hinstr, (decode_format3 s.cpu h h3).1, hf] at key
  exact key

@[simp] lemma decode_npc (c : CPU) (d : DecodeStruct) : (decode c d).npc = c.npc := by
  unfold decode; dsimp only; split_ifs <;> rfl

/-! ### Condition codes -/

structure Icc where
  n : Bool
  z : Bool
  v : Bool
  c : Bool
deriving DecidableEq, Repr

def Icc.bits (i : Icc) : u32 :=
  ofBool i.n <<< 3 ||| ofBool i.z <<< 2 ||| ofBool i.v <<< 1 ||| ofBool i.c

lemma Icc.bits_nibble (i : Icc) : Nibble i.bits := by
  obtain ⟨n, z, v, c⟩ := i
  cases n <;> cases z <;> cases v <;> cases c <;> rfl

lemma Icc.getLsbD_bits (i : Icc) :
    i.bits.getLsbD 3 = i.n ∧ i.bits.getLsbD 2 = i.z ∧ i.bits.getLsbD 1 = i.v ∧
      i.bits.getLsbD 0 = i.c := by
  obtain ⟨n, z, v, c⟩ := i
  cases n <;> cases z <;> cases v <;> cases c <;> decide

lemma nibble_high {x : u32} (h : Nibble x) {i : Nat} (hi : 4 ≤ i) : x.getLsbD i = false := by
  rw [← show x &&& 0xf = x from h, BitVec.getLsbD_and]
  by_cases hw : i < 32
  · interval_cases i <;> simp
  · rw [BitVec.getLsbD_of_ge x i (by omega)]
    rfl

lemma Icc.eq_bits {x : u32} (h : Nibble x) {i : Icc} (hn : x.getLsbD 3 = i.n)
    (hz : x.getLsbD 2 = i.z) (hv : x.getLsbD 1 = i.v) (hc : x.getLsbD 0 = i.c) : x = i.bits := by
  obtain ⟨bn, bz, bv, bc⟩ := i.getLsbD_bits
  apply BitVec.eq_of_getLsbD_eq
  intro k _
  rcases Nat.lt_or_ge k 4 with hk | hk
  · interval_cases k
    exacts [hc.trans bc.symm, hv.trans bv.symm, hz.trans bz.symm, hn.trans bn.symm]
  · rw [nibble_high h hk, nibble_high i.bits_nibble hk]

lemma getLsbD_ofBool (b : Bool) (i : Nat) : (ofBool b).getLsbD i = (decide (i = 0) && b) := by
  cases b
  · simp [ofBool]
  · simp [ofBool, BitVec.getLsbD_one]

lemma getLsbD_ccSet (cc : u32) {k : Nat} (b : Bool) {i : Nat} (hk : k < 32) (hi : i < 32) :
    (ccSet cc k (ofBool b)).getLsbD i = if i = k then b else cc.getLsbD i := by
  unfold ccSet
  rw [BitVec.getLsbD_or, BitVec.getLsbD_and, BitVec.getLsbD_not, BitVec.getLsbD_shiftLeft,
    BitVec.getLsbD_shiftLeft, getLsbD_ofBool, BitVec.getLsbD_one]
  rcases Nat.lt_trichotomy i k with h | rfl | h
  · simp [hi, h, Nat.ne_of_lt h]
  · simp [hi]
  · have h0 : i - k ≠ 0 := by omega
    simp [hi, Nat.not_lt_of_lt h, Nat.ne_of_gt h, h0]

lemma top_eq (x : u32) : x >>> 31 &&& 1 = ofBool x.msb := by
  have hx := x.isLt
  apply BitVec.eq_of_toNat_eq
  rw [BitVec.toNat_and, BitVec.toNat_ushiftRight, Nat.shiftRight_eq_div_pow,
    show (1 : u32).toNat = 2 ^ 1 - 1 from rfl, Nat.and_two_pow_sub_one_eq_mod, BitVec.msb_eq_decide]
  by_cases h : 2 ^ 31 ≤ x.toNat
  · simp only [show 32 - 1 = 31 from rfl, h, decide_true, ofBool, if_true]
    show _ = 1
    omega
  · simp only [show 32 - 1 = 31 from rfl, h, decide_false, ofBool]
    show _ = 0
    omega

lemma ccResult_bits {cc : u32} (hcc : Nibble cc) (v c : Bool) (z : u32) :
    ccResult cc (ofBool v) (ofBool c) z = Icc.bits ⟨z.msb, decide (z = 0), v, c⟩ := by
  have hn := nibble_ccResult hcc (oneBit_ofBool v) (oneBit_ofBool c) z
  apply Icc.eq_bits hn <;>
    (unfold ccResult; rw [top_eq]; simp (disch := decide) only [getLsbD_ccSet]; rfl)

lemma ccWide_bits {cc : u32} (hcc : Nibble cc) (z : u64) :
    ccWide cc z = Icc.bits ⟨z.getLsbD 31, decide (z = 0), false, false⟩ := by
  have hn := nibble_ccWide hcc z
  have htop : (z >>> 31).setWidth 32 &&& 1 = ofBool (z.getLsbD 31) := by
    apply BitVec.eq_of_getLsbD_eq
    intro i hi
    rw [getLsbD_ofBool]
    by_cases h0 : i = 0
    · subst h0; simp
    · simp [h0, BitVec.getLsbD_one]
  have h0 : (0 : u32) = ofBool false := rfl
  apply Icc.eq_bits hn <;>
    (unfold ccWide; rw [htop, h0]; simp (disch := decide) only [getLsbD_ccSet]; rfl)

lemma Psr.icc_setIcc {cc : u32} (h : Nibble cc) (p : u32) : Psr.icc (Psr.setIcc p cc) = cc := by
  have hn := Psr.nibble_icc (Psr.setIcc p cc)
  apply BitVec.eq_of_getLsbD_eq
  intro i _
  rcases Nat.lt_or_ge i 4 with hk | hk
  · unfold Psr.icc Psr.setIcc
    interval_cases i <;> simp
  · rw [nibble_high h hk, nibble_high hn hk]

/-! ### The register written -/

/-- The processor after an instruction that writes `value` to the register `rd` and goes on to
the next one. -/
def CPU.retire (c : CPU) (psr value rd : u32) : CPU :=
  CPU.write_reg (CPU.update_cwp_bases { c with pc := c.npc, npc := c.npc + 4, psr := psr }) value rd

lemma write_back_retire (c : CPU) {d : DecodeStruct} (h : d.npc = c.npc) (psr value : u32) :
    c.write_back ({ d with psr := psr }.wb value).next = c.retire psr value d.rd := by
  unfold CPU.retire
  rw [← h]
  rfl

lemma retire_y_reg (c : CPU) (psr value rd : u32) : (c.retire psr value rd).y_reg = c.y_reg := by
  unfold CPU.retire CPU.write_reg
  split_ifs <;> rfl

lemma upd_self (f : u32 → u32) (i v : u32) : CPU.upd f i v i = v := if_pos rfl

lemma and7_of_block {r : u32} (h : r >>> 3 = 0) : r &&& 7 = r := by
  apply BitVec.eq_of_toNat_eq
  have h8 : r.toNat / 2 ^ 3 = 0 := by
    rw [← Nat.shiftRight_eq_div_pow, ← BitVec.toNat_ushiftRight, h]
    rfl
  rw [BitVec.toNat_and, show (7 : u32).toNat = 2 ^ 3 - 1 from rfl,
    Nat.and_two_pow_sub_one_eq_mod]
  omega

lemma read_write_reg (c : CPU) (v : u32) {r : u32} (hr : r.toNat < 32) :
    (c.write_reg v r).read_reg r 0 = if r = 0 then 0 else v := by
  have hg : r ≠ GLOBALREG8 := by
    rintro rfl
    exact absurd hr (by decide)
  unfold CPU.write_reg CPU.read_reg
  rcases reg_block hr with h | h | h | h
  · -- `%g0` is cleared again by every write to a global register.
    have h7 := and7_of_block h
    simp only [if_neg hg, h, h7, if_true]
    show CPU.upd (CPU.upd c.globals r v) 0 0 r = _
    exact if_congr Iff.rfl rfl (upd_self _ _ _)
  · have h0 : r ≠ 0 := by rintro rfl; exact absurd h (by decide)
    simp only [if_neg hg, h, if_neg h0]
    exact upd_self _ _ _
  · have h0 : r ≠ 0 := by rintro rfl; exact absurd h (by decide)
    simp only [if_neg hg, h, if_neg h0]
    exact upd_self _ _ _
  · have h0 : r ≠ 0 := by rintro rfl; exact absurd h (by decide)
    simp only [if_neg hg, h, if_neg h0]
    exact upd_self _ _ _

/-- The status register with new condition codes, if there are any. -/
def Psr.withCodes (p : u32) : Option Icc → u32
  | some i => Psr.setIcc p i.bits
  | none => p

lemma Psr.icc_withCodes (p : u32) (k : Option Icc) :
    Psr.icc (Psr.withCodes p k) = k.elim (Psr.icc p) Icc.bits := by
  cases k with
  | none => rfl
  | some i => exact Psr.icc_setIcc i.bits_nibble p

/-- What an arithmetic instruction leaves of the processor `c`, for the value and the condition
codes that it is to compute. -/
structure Retired (c c' : CPU) (opcode value : u32) (codes : Option Icc) : Prop where
  /-- The register holds the value. -/
  result : c'.read_reg (destination opcode) 0 = if destination opcode = 0 then 0 else value
  /-- The condition codes are set, or left alone. -/
  codes : Psr.icc c'.psr = codes.elim (Psr.icc c.psr) Icc.bits
  /-- Nothing but the condition codes, the register and the program counters changes. -/
  frame : ∃ psr value, Psr.priv psr = Psr.priv c.psr ∧ Psr.cwp psr = Psr.cwp c.psr ∧
    c' = c.retire psr value (destination opcode)

theorem retired_iff (c : CPU) (opcode v value : u32) (k codes : Option Icc) :
    Retired c (c.retire (Psr.withCodes c.psr k) v (destination opcode)) opcode value codes ↔
      (destination opcode = 0 ∨ v = value) ∧
        k.elim (Psr.icc c.psr) Icc.bits = codes.elim (Psr.icc c.psr) Icc.bits := by
  have hrd : (destination opcode).toNat < 32 :=
    Nat.lt_of_le_of_lt (toNat_and_le _ 0x1f) (by decide)
  have hpsr : (c.retire (Psr.withCodes c.psr k) v (destination opcode)).psr =
      Psr.withCodes c.psr k := (write_reg_fields _ v _).2.2.1
  have hread : (c.retire (Psr.withCodes c.psr k) v (destination opcode)).read_reg
      (destination opcode) 0 = if destination opcode = 0 then 0 else v := read_write_reg _ v hrd
  constructor
  · intro h
    have hres := h.result
    have hcodes := h.codes
    rw [hread] at hres
    rw [hpsr, Psr.icc_withCodes] at hcodes
    refine ⟨?_, hcodes⟩
    by_cases h0 : destination opcode = 0
    · exact .inl h0
    · rw [if_neg h0, if_neg h0] at hres
      exact .inr hres
  · rintro ⟨hv, hk⟩
    refine ⟨?_, by rw [hpsr, Psr.icc_withCodes, hk], _, _, ?_, ?_, rfl⟩
    · rw [hread]
      split_ifs with h0
      · rfl
      · exact hv.resolve_left h0
    · cases k with
      | none => rfl
      | some i => exact Psr.priv_setIcc i.bits_nibble _
    · cases k with
      | none => rfl
      | some i => exact Psr.cwp_setIcc i.bits_nibble _

end SparcEmu
