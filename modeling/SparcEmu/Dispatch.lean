import SparcEmu.Steps

/-!
Every instruction function is made of the steps, one derivation for each.
-/

namespace SparcEmu

open Lib.Effect

/-! ### Changes that instruction functions make -/

variable {f : DecodeStruct → DecodeStruct}

section Changes

variable {U : Prop}

lemma goodC_write_reg (v r : u32) : GoodC U fun c => c.write_reg v r where
  trap_type c := by unfold CPU.write_reg; split_ifs <;> rfl
  psr c := by unfold CPU.write_reg; split_ifs <;> rfl
  cwp_base c := by unfold CPU.write_reg; split_ifs <;> rfl
  irl c := by unfold CPU.write_reg; split_ifs <;> rfl
  zero c h := by
    unfold CPU.write_reg CPU.upd
    split_ifs <;> first | rfl | exact h
  priv _ c := by unfold CPU.write_reg; split_ifs <;> exact ⟨rfl, rfl⟩

lemma goodC_setSwap (v : u32) : GoodC U fun c => c.setSwap v where
  trap_type _ := rfl
  psr _ := rfl
  cwp_base _ := rfl
  irl _ := rfl
  zero c h := by simpa [CPU.setSwap, CPU.upd] using h
  priv _ _ := ⟨rfl, rfl⟩

lemma GoodC.comp {f g : CPU → CPU} (hg : GoodC U g) (hf : GoodC U f) : GoodC U fun c => g (f c) where
  trap_type c := (hg.trap_type _).trans (hf.trap_type c)
  psr c := (hg.psr _).trans (hf.psr c)
  cwp_base c := (hg.cwp_base _).trans (hf.cwp_base c)
  irl c := (hg.irl _).trans (hf.irl c)
  zero c h := hg.zero _ (hf.zero c h)
  priv hu c := ⟨((hg.priv hu _).1).trans (hf.priv hu c).1, ((hg.priv hu _).2).trans (hf.priv hu c).2⟩

/-- A change outside the integer registers and what goes with them. -/
lemma goodC_elsewhere {f : CPU → CPU}
    (h : ∀ c, f c = { f c with
      trap_type := c.trap_type, psr := c.psr, cwp_base := c.cwp_base, irl := c.irl
      globals := c.globals })
    (hp : U → ∀ c, (f c).wim = c.wim ∧ (f c).tbr = c.tbr) : GoodC U f where
  trap_type c := by rw [h c]
  psr c := by rw [h c]
  cwp_base c := by rw [h c]
  irl c := by rw [h c]
  zero c h0 := by rw [h c]; exact h0
  priv := hp

lemma goodC_setFreg (i v : u32) : GoodC U fun c => setFreg c i v :=
  goodC_elsewhere (fun _ => rfl) fun _ _ => ⟨rfl, rfl⟩

lemma goodC_y (g : CPU → u32) : GoodC U fun c => { c with y_reg := g c } :=
  goodC_elsewhere (fun _ => rfl) fun _ _ => ⟨rfl, rfl⟩

lemma goodC_fsr (g : CPU → u32) : GoodC U fun c => { c with fsr := g c } :=
  goodC_elsewhere (fun _ => rfl) fun _ _ => ⟨rfl, rfl⟩

lemma goodC_rs (g : CPU → RunSummary) : GoodC U fun c => { c with rs := g c } :=
  goodC_elsewhere (fun _ => rfl) fun _ _ => ⟨rfl, rfl⟩

lemma goodD_of_psr (h : ∀ d, (f d).psr = d.psr) : GoodD U f where
  cwp d hd := by rw [h]; exact hd
  priv _ d := by rw [h]

lemma goodD_next : GoodD U DecodeStruct.next := goodD_of_psr fun _ => rfl

lemma goodD_of_icc {C : DecodeStruct → Prop} [∀ d, Decidable (C d)] {cc : DecodeStruct → u32}
    (h : ∀ d, (f d).psr = if C d then Psr.setIcc d.psr (cc d) else d.psr)
    (hcc : ∀ d, Nibble (cc d)) : GoodD U f where
  cwp d hd := by
    rw [h]
    split_ifs
    · rw [Psr.cwp_setIcc (hcc d)]; exact hd
    · exact hd
  priv _ d := by
    rw [h]
    split_ifs
    · exact Psr.priv_setIcc (hcc d) _
    · rfl

end Changes

/-! ### Rules for the derivations -/

variable {i : Phase}

section Rules

variable {δ α : Type} {E : Board δ} {K : Setup} {Q : α → Phase → Prop}

lemma prog_getD {k : DecodeStruct → M δ α} (h : Prog E K α .quiet (k K.d) Q) :
    Prog E K α .quiet (getD >>= k) Q :=
  .bind (.step .getD) (by rintro _ _ ⟨rfl, rfl⟩; exact h)

lemma prog_getCPU {k : CPU → M δ α} (h : Prog E K α .quiet (k K.c) Q) :
    Prog E K α .quiet (getCPU >>= k) Q :=
  .bind (.step .getCPU) (by rintro _ _ ⟨rfl, rfl⟩; exact h)

lemma prog_noFault {k : Bool → M δ α} (h : ∀ nf, Prog E K α i (k nf) Q) :
    Prog E K α i (noFault >>= k) Q :=
  .bind (.step .noFault) (by rintro nf _ rfl; exact h nf)

lemma prog_modCPU {f : CPU → CPU} {k : Unit → M δ α} (hi : K.Settles i) (hf : GoodC K.user f)
    (h : Prog E K α .done (k ()) Q) : Prog E K α i (modCPU f >>= k) Q :=
  .bind (.step (.modCPU hi hf)) (by rintro _ _ rfl; exact h)

lemma prog_mark {f : CPU → CPU} {k : Unit → M δ α} (hi : i.Early) (hf : ∀ c : CPU, c.Marked (f c))
    (h : Prog E K α .marked (k ()) Q) : Prog E K α i (modCPU f >>= k) Q :=
  .bind (.step (.mark hi hf)) (by rintro _ _ rfl; exact h)

lemma prog_finish (hi : K.Settles i) (hf : GoodD K.user f) : Prog E K Unit i (modD f) Ends :=
  .mono (.step (.modD hi hf)) fun _ _ h => Or.inl h

lemma prog_advance (hi : K.Settles i) : Prog E K Unit i advance Ends :=
  prog_finish hi goodD_next

lemma prog_traps {n : u32} (h : K.Traps i n) : Prog E K Unit i (trap n) Ends :=
  .mono (.step (.trap h)) fun _ _ h => Or.inr h

lemma prog_trap {n : u32} (hn : K.Idle) (h9 : n &&& 0xff ≠ 9) : Prog E K Unit .quiet (trap n) Ends :=
  prog_traps (.early hn (Or.inl rfl) h9)

lemma prog_throw {e : HostError} (h : K.throws) (hn : K.Idle) : Prog E K α i (throwHost e) Q :=
  .step (.throw h fun _ => hn)

end Rules

/-! ### Instructions that do not access memory -/

section Plain

variable {δ : Type} {E : Board δ} {K : Setup} (hn : K.Idle)

include hn

lemma prog_UNIMP : Prog E K Unit .quiet UNIMP fun _ j => j = .done :=
  prog_getD (.step (.modCPU hn.settles (goodC_rs _)))

lemma prog_CALL : Prog E K Unit .quiet CALL Ends :=
  prog_finish hn.settles (goodD_of_psr fun _ => rfl)

omit hn in
lemma branch_psr (d : DecodeStruct) (b a : Bool) : (d.branch b a).psr = d.psr := by
  unfold DecodeStruct.branch; dsimp only; split_ifs <;> rfl

lemma prog_BICC : Prog E K Unit .quiet BICC Ends :=
  prog_finish hn.settles (goodD_of_psr fun _ => branch_psr _ _ _)

lemma prog_SETHI : Prog E K Unit .quiet SETHI Ends :=
  prog_finish hn.settles (goodD_of_psr fun d => by
    simp only [DecodeStruct.next]; split_ifs <;> rfl)

lemma prog_JMPL : Prog E K Unit .quiet JMPL Ends := by
  refine prog_getD ?_
  split_ifs
  · exact prog_trap hn (by decide)
  · exact prog_finish hn.settles (goodD_of_psr fun _ => rfl)

lemma prog_RDY : Prog E K Unit .quiet RDY Ends := by
  refine prog_getD (prog_getCPU ?_)
  split_ifs
  · exact prog_advance hn.settles
  · exact prog_finish hn.settles (goodD_of_psr fun _ => rfl)
  · exact prog_finish hn.settles (goodD_of_psr fun _ => rfl)
  · exact .bind (prog_UNIMP hn) (by rintro _ _ rfl; exact prog_advance .done)

lemma prog_rdPriv (value : CPU → DecodeStruct → u32) :
    Prog E K Unit .quiet (rdPriv value) Ends := by
  refine prog_getD (prog_getCPU ?_)
  split_ifs
  · exact prog_finish hn.settles (goodD_of_psr fun _ => rfl)
  · exact prog_trap hn (by decide)

lemma prog_FLUSH : Prog E K Unit .quiet FLUSH Ends := prog_advance hn.settles

lemma prog_SLL : Prog E K Unit .quiet SLL Ends :=
  prog_finish hn.settles (goodD_of_psr fun _ => rfl)

lemma prog_SRL : Prog E K Unit .quiet SRL Ends :=
  prog_finish hn.settles (goodD_of_psr fun _ => rfl)

lemma prog_SRA : Prog E K Unit .quiet (SRA E) Ends :=
  prog_finish hn.settles (goodD_of_psr fun _ => rfl)

lemma prog_rotate {new_cwp : DecodeStruct → u32} (h : ∀ d, new_cwp d < 8) {n : u32}
    (h9 : n &&& 0xff ≠ 9) : Prog E K Unit .quiet (rotate new_cwp n) Ends := by
  refine prog_getD (prog_getCPU ?_)
  split_ifs
  · exact prog_trap hn h9
  · refine prog_finish hn.settles ⟨fun d _ => ?_, fun _ d => Psr.priv_setCwp _ _⟩
    show Psr.cwp (Psr.setCwp d.psr (new_cwp d)) < 8
    rw [Psr.cwp_setCwp]
    rw [BitVec.lt_def, BitVec.toNat_and]
    exact Nat.lt_of_le_of_lt Nat.and_le_left (BitVec.lt_def.mp (h d))

omit hn in
lemma mod_windows_lt (x : u32) : x % NWINDOWS < 8 := by
  rw [BitVec.lt_def, BitVec.toNat_umod]
  exact Nat.mod_lt _ (by decide)

lemma prog_SAVE : Prog E K Unit .quiet SAVE Ends := prog_rotate hn (fun _ => mod_windows_lt _) (by decide)

lemma prog_RESTORE : Prog E K Unit .quiet RESTORE Ends :=
  prog_rotate hn (fun _ => mod_windows_lt _) (by decide)

lemma prog_MULSCC : Prog E K Unit .quiet MULSCC Ends := by
  refine prog_getD (prog_getCPU (prog_modCPU hn.settles (goodC_y _) (prog_finish .done ?_)))
  exact goodD_of_icc (C := fun _ => True) (fun d => (if_pos trivial).symm)
    fun d => nibble_ccResult (Psr.nibble_icc _) (oneBit_and _) (oneBit_and _) _

lemma prog_MUL : Prog E K Unit .quiet MUL Ends := by
  refine prog_getD (prog_modCPU hn.settles (goodC_y _) (prog_finish .done ?_))
  exact goodD_of_icc (fun d => rfl) fun d => nibble_ccWide (Psr.nibble_icc _) _

lemma prog_ADD : Prog E K Unit .quiet ADD Ends := by
  refine prog_getD ?_
  split
  · exact prog_finish hn.settles (goodD_of_psr fun _ => rfl)
  · dsimp only
    split
    · exact prog_trap hn (by decide)
    · exact prog_finish hn.settles (goodD_of_icc (fun d => rfl)
        fun d => nibble_addSub (Psr.nibble_icc _) _ _ _)

lemma prog_AND : Prog E K Unit .quiet AND Ends := by
  obtain ⟨z, hz⟩ := AND_eq (δ := δ)
  rw [hz]
  exact prog_finish hn.settles (goodD_of_icc (fun d => rfl)
    fun d => nibble_ccResult (Psr.nibble_icc d.psr) (Or.inl rfl) (Or.inl rfl) _)

end Plain

/-! ### Exceptions -/

/-- The division whose quotient the host cannot represent. -/
def divOverflows (c : CPU) (d : DecodeStruct) : Prop :=
  d.op_2_3 &&& 1 ≠ 0 ∧ c.y_reg = 0x80000000 ∧ d.rs1_value = 0 ∧ d.ev = 0xffffffff

def compareUnknown (d : DecodeStruct) : Prop :=
  let rs2 := d.opcode &&& 0x1f
  let opf := (d.opcode >>> 5) &&& 0x1ff
  Psr.ef d.psr = true ∧
    if opf.getLsbD 1 then
      (d.rd &&& 1 = 0 ∧ rs2 &&& 1 = 0 ∧ d.rs1 &&& 1 = 0) ∧ opf ≠ 0b001010010 ∧ opf ≠ 0b001010110
    else opf ≠ 0b001010001 ∧ opf ≠ 0b001010101

/-- A power-down that nobody has ended before it begins, and nobody will end. -/
def neverWoken {δ : Type} (E : Board δ) (c : CPU) (d : DecodeStruct) : Prop :=
  d.rd = 19 ∧ c.power_down_enabled = true ∧ c.wakeup_flag = false ∧ E.wakes c.cpu_id = false

/-- The instructions that do not return whatever the mode: a queue store, an unknown comparison,
the overflowing division, a power-down for ever, and a breakpoint that hides a breakpoint. -/
def Crash {δ : Type} (E : Board δ) (c : CPU) (d : DecodeStruct) : Prop :=
  match d.function with
  | .STDFQ_impl => True
  | .FOP2_impl => compareUnknown d
  | .DIV => divOverflows c d
  | .WRY => neverWoken E c d
  | .TICC => breakpointAt c d ≠ none
  | _ => False

/-- An analysis whose setup fits the instruction. -/
structure Setup.Ok {δ : Type} (E : Board δ) (K : Setup) : Prop where
  psr : K.d.psr = K.c.psr
  user : K.user → Psr.s K.d.psr = false
  crash : Crash E K.c K.d → K.throws
  super : Psr.s K.d.psr = true → K.throws

/-! ### The division that traps -/

lemma join_high (a b : u32) :
    (((a.setWidth 64 <<< 32) ||| b.setWidth 64) >>> 32).setWidth 32 = a := by
  apply BitVec.eq_of_getLsbD_eq
  intro i hi
  simp only [BitVec.getLsbD_setWidth, BitVec.getLsbD_ushiftRight, BitVec.getLsbD_or,
    BitVec.getLsbD_shiftLeft]
  simp [hi, show 32 + i < 64 by omega, show i < 64 by omega]

lemma join_low (a b : u32) : ((a.setWidth 64 <<< 32) ||| b.setWidth 64).setWidth 32 = b := by
  apply BitVec.eq_of_getLsbD_eq
  intro i hi
  simp only [BitVec.getLsbD_setWidth, BitVec.getLsbD_or, BitVec.getLsbD_shiftLeft]
  simp [hi, show i < 64 by omega]

lemma sext64_low (x : u32) : (sext64 (x.setWidth 64)).setWidth 32 = x := by
  unfold sext64
  rw [BitVec.setWidth_or, BitVec.setWidth_setWidth_of_le _ (by decide), BitVec.setWidth_eq]
  split_ifs
  · rw [show BitVec.setWidth 32 (0xffffffff00000000 : u64) = 0 from by decide]; exact BitVec.or_zero
  · rw [show BitVec.setWidth 32 (0 : u64) = 0 from by decide]; exact BitVec.or_zero

lemma divide_error {c : CPU} {d : DecodeStruct} {e : HostError} (h : divide c d = .error e) :
    divOverflows c d := by
  unfold divide hostDiv at h
  dsimp only at h
  split_ifs at h with h1 h2
  · have hx := join_high c.y_reg d.rs1_value
    have hl := join_low c.y_reg d.rs1_value
    have he := sext64_low d.ev
    rw [h2.1] at hx hl
    rw [h2.2] at he
    exact ⟨by simpa using h1, hx.symm, hl.symm, he.symm⟩

/-! ### Software traps -/

lemma le_ticcTrap (d : DecodeStruct) : 128 ≤ (ticcTrap d &&& 0xff).toNat := by
  have key (x : u32) : 128 ≤ ((128 + (x &&& 0x7f)) &&& 0xff).toNat := by
    have hx : (x &&& 0x7f).toNat ≤ 127 := by
      rw [BitVec.toNat_and]
      exact Nat.and_le_right
    rw [BitVec.toNat_and, show (0xff : u32).toNat = 2 ^ 8 - 1 from rfl,
      Nat.and_two_pow_sub_one_eq_mod, BitVec.toNat_add, show (128 : u32).toNat = 128 from rfl]
    omega
  unfold ticcTrap
  split_ifs
  · exact key _
  · exact key _

/-! ### Privileged, dividing and trapping instructions -/

section Checked

variable {δ : Type} {E : Board δ} {K : Setup} (hK : K.Ok E) (hn : K.Idle)

include hK

lemma not_user (h : Psr.s K.d.psr = true) : ¬ K.user := fun hu => by
  rw [hK.user hu] at h; cases h

include hn

lemma prog_RETT : Prog E K Unit .quiet RETT Ends := by
  refine prog_getD (prog_getCPU ?_)
  dsimp only
  split_ifs with h1 h2
  · exact prog_trap hn (by decide)
  · exact prog_trap hn (by decide)
  · exact prog_trap hn (by decide)
  · exact prog_trap hn (by decide)
  · have hs : Psr.s K.d.psr = true := by
      cases hs : Psr.s K.d.psr
      · rw [hs] at h1; cases he : Psr.et K.d.psr <;> rw [he] at h1 <;> exact absurd rfl h1
      · rfl
    refine prog_finish hn.settles ⟨fun d _ => ?_, fun hu => absurd hu (not_user hK hs)⟩
    dsimp only
    rw [Psr.cwp_setCwp, BitVec.lt_def, BitVec.toNat_and, BitVec.toNat_and]
    exact Nat.lt_of_le_of_lt (Nat.le_trans Nat.and_le_left Nat.and_le_left)
      (BitVec.lt_def.mp (mod_windows_lt _))

lemma prog_WRPSR : Prog E K Unit .quiet WRPSR Ends := by
  refine prog_getD ?_
  dsimp only
  split_ifs with h1 h2
  · exact prog_trap hn (by decide)
  · refine prog_finish hn.settles ⟨fun d _ => ?_, fun hu => absurd hu (not_user hK h2)⟩
    have e : ∀ v : u32, Psr.cwp (((0xf0000000 ||| 0x03000000 ||| v) &&& ~~~(1#32 <<< 13)) &&&
        ~~~(0x3f#32 <<< 14)) = v &&& 0x1f := by
      intro v
      unfold Psr.cwp
      rw [BitVec.and_assoc, BitVec.and_assoc, BitVec.and_or_distrib_right]
      exact BitVec.zero_or
    show Psr.cwp _ < 8
    simp only [DecodeStruct.next]
    rw [e]
    exact BitVec.not_le.mp h1
  · exact prog_trap hn (by decide)

lemma prog_wrPriv {put : CPU → u32 → CPU} (h : ∀ v, ¬ K.user → GoodC K.user fun c => put c v) :
    Prog E K Unit .quiet (wrPriv put) Ends := by
  refine prog_getD ?_
  split_ifs with hs
  · exact prog_modCPU hn.settles (h _ (not_user hK hs)) (prog_advance .done)
  · exact prog_trap hn (by decide)

lemma prog_WRWIM : Prog E K Unit .quiet WRWIM Ends :=
  prog_wrPriv hK hn fun _ hu => goodC_elsewhere (fun _ => rfl) fun h => absurd h hu

lemma prog_WRTBR : Prog E K Unit .quiet WRTBR Ends :=
  prog_wrPriv hK hn fun _ hu => goodC_elsewhere (fun _ => rfl) fun h => absurd h hu

lemma prog_WRY (hf : K.d.function = .WRY) : Prog E K Unit .quiet (WRY E) Ends := by
  refine prog_getD (prog_getCPU ?_)
  split_ifs with h0 h19 hp
  · exact prog_modCPU hn.settles (goodC_y _) (prog_advance .done)
  · refine .bind (Q := fun _ j => j = .done) (prog_getCPU ?_) (by
      rintro _ _ rfl; exact prog_advance .done)
    split_ifs with hw
    · exact .step (.modCPU hn.settles (goodC_elsewhere (fun _ => rfl) fun _ _ => ⟨rfl, rfl⟩))
    · simp only [Bool.or_eq_true, not_or, Bool.not_eq_true] at hw
      exact prog_modCPU hn.settles (goodC_elsewhere (fun _ => rfl) fun _ _ => ⟨rfl, rfl⟩)
        (prog_throw (hK.crash (by simp only [Crash, hf]; exact ⟨h19, hp, hw⟩)) hn)
  · exact prog_advance hn.settles
  · exact .bind (prog_UNIMP hn) (by rintro _ _ rfl; exact prog_advance .done)

lemma prog_DIV (hf : K.d.function = .DIV) : Prog E K Unit .quiet DIV Ends := by
  refine prog_getD (prog_getCPU ?_)
  dsimp only
  split_ifs with h0
  · exact prog_trap hn (by decide)
  · cases hd : divide K.c K.d with
    | error e => exact prog_throw (hK.crash (by simp only [Crash, hf]; exact divide_error hd)) hn
    | ok q =>
      refine prog_modCPU hn.settles (goodC_y _) (prog_finish .done ?_)
      exact goodD_of_icc (fun d => rfl) fun d => nibble_ccWide (Psr.nibble_icc _) _

lemma prog_TICC (hf : K.d.function = .TICC) :
    Prog E K Unit .quiet (TICC (throwHost .stack_overflow)) Ends := by
  refine prog_getD (prog_getCPU ?_)
  cases hb : breakpointAt K.c K.d with
  | some bp =>
    refine .bind (.step (.modD hn.settles (goodD_of_psr fun _ => rfl))) ?_
    rintro _ _ rfl
    exact prog_throw (hK.crash (by simp [Crash, hf, hb])) hn
  | none =>
    dsimp only
    split_ifs
    · exact prog_trap hn fun h => absurd (le_ticcTrap K.d) (by rw [h]; decide)
    · exact prog_advance hn.settles

end Checked

/-! ### Loads and stores -/

section Memory

variable {δ : Type} {E : Board δ} {K : Setup} {a : DataOp}

/-- What a return code says about the phase: the access has been made, and a negative one tells of
its failure. -/
def RetOk (K : Setup) (ret : cint) (j : Phase) : Prop :=
  K.Settles j ∧ (ret.msb = true → j = .asked true)

lemma retOk_zero : RetOk K 0 .done := ⟨.done, fun h => by cases h⟩

lemma retOk_asked {ret : cint} {failed : Bool} (h : ret.msb = true → failed = true) :
    RetOk K ret (.asked failed) := ⟨.asked, fun h' => by rw [h h']⟩

lemma ne_zero_of_msb {x : cint} (h : x.msb = true) : x ≠ 0 := by
  rintro rfl
  cases h

lemma failed_of_msb {x : cint} (h : x.msb = true) : decide (x ≠ 0) = true :=
  decide_eq_true (ne_zero_of_msb h)

lemma failed_of_msb2 {x y : cint} (h : x.msb = true ∨ y.msb = true) :
    decide (x ≠ 0 ∨ y ≠ 0) = true :=
  decide_eq_true (h.imp ne_zero_of_msb ne_zero_of_msb)

lemma or_msb {x y : cint} (h : (x ||| y).msb = true) : x.msb = true ∨ y.msb = true := by
  rwa [BitVec.msb_or, Bool.or_eq_true] at h

/-- The test for the data access exception. -/
lemma prog_test {P : Prop} [Decidable P] {rest : M δ Unit} (hP : P → i = .asked true)
    (h : Prog E K Unit i rest Ends) :
    Prog E K Unit i (do
      let nf ← noFault
      if P ∧ !nf then trap SPARC_DATA_ACCESS_EXCEPTION else rest) Ends := by
  refine prog_noFault fun nf => ?_
  split_ifs with hc
  · obtain rfl := hP hc.1
    exact prog_traps .fault
  · exact h

lemma prog_endAccess {ret : cint} (h : RetOk K ret i) : Prog E K Unit i (endAccess ret) Ends :=
  prog_test h.2 (prog_advance h.1)

lemma prog_dataAccess {align : u32} {access : DecodeStruct → M δ cint}
    (hop : dataOp K.c K.d = if decide (K.d.ev &&& align = 0) then some a else none)
    (h : dataOp K.c K.d = some a → Prog E K cint .quiet (access K.d) (RetOk K)) :
    Prog E K Unit .quiet (dataAccess align access) Ends := by
  refine prog_getD ?_
  split_ifs with ha
  · exact prog_trap (hop.trans (if_neg fun h => ha (of_decide_eq_true h))) (by decide)
  · exact .bind (h (hop.trans (if_pos (decide_eq_true (not_not.mp ha))))) fun _ _ => prog_endAccess

lemma prog_dataAccess64 {access : DecodeStruct → M δ cint}
    (hop : dataOp K.c K.d =
      if decide (K.d.rd &&& 1 = 0) && decide (K.d.ev &&& 7 = 0) then some a else none)
    (h : dataOp K.c K.d = some a → Prog E K cint .quiet (access K.d) (RetOk K)) :
    Prog E K Unit .quiet (dataAccess64 access) Ends := by
  refine prog_getD ?_
  split_ifs with he
  · rw [decide_eq_false he, Bool.false_and] at hop
    exact prog_trap hop (by decide)
  · rw [decide_eq_true (not_not.mp he), Bool.true_and] at hop
    exact prog_dataAccess hop h

variable (hK : K.Ok E)

section Words

include hK

variable {rw : Intent} {size : AccessSize} {va v v₀ v₁ rd : u32}

lemma prog_memAccess (hop : dataOp K.c K.d = some (.word rw size va v (Psr.s K.d.psr))) :
    Prog E K _ .quiet (memAccess E rw size va v) fun r j =>
      j = .asked (decide (r.1 ≠ 0)) ∨ (rw = .store ∧ decide (r.1 ≠ 0) = false ∧ j = .done) :=
  .step (.access (Or.inl rfl) hop .word fun s hs => by rw [memAccess_eq, hs rfl, hK.psr])

lemma prog_memAccess2 (hop : dataOp K.c K.d = some (.pair rw va v₀ v₁ (Psr.s K.d.psr))) :
    Prog E K _ .quiet (memAccess2 E rw va v₀ v₁) fun r j =>
      j = .asked (decide (r.1.1 ≠ 0 ∨ r.2.1 ≠ 0)) ∨
        (rw = .store ∧ decide (r.1.1 ≠ 0 ∨ r.2.1 ≠ 0) = false ∧ j = .done) :=
  .step (.access (Or.inl rfl) hop .pair fun s hs => by rw [memAccess2_eq, hs rfl, hK.psr])

lemma prog_loadReg {ext : u32 → u32}
    (hop : dataOp K.c K.d = some (.word .load size va 0 (Psr.s K.d.psr))) :
    Prog E K cint .quiet (loadReg E size ext va rd) (RetOk K) := by
  refine .bind (prog_memAccess hK hop) ?_
  rintro r j (rfl | ⟨h, -⟩)
  · split_ifs with h0
    · refine prog_modCPU .asked (goodC_write_reg _ _) (.pure ?_)
      rw [h0]; exact retOk_zero
    · exact .pure (retOk_asked failed_of_msb)
  · cases h

lemma prog_storeReg
    (hop : dataOp K.c K.d = some (.word .store size va (K.c.read_reg rd 0) (Psr.s K.d.psr))) :
    Prog E K cint .quiet (storeReg E size va rd) (RetOk K) := by
  refine prog_getCPU (.bind (prog_memAccess hK hop) ?_)
  rintro r j (rfl | ⟨-, h0, rfl⟩)
  · exact .pure (retOk_asked failed_of_msb)
  · exact .pure (by rw [not_not.mp (of_decide_eq_false h0)]; exact retOk_zero)

lemma prog_load64 (hop : dataOp K.c K.d = some (.pair .load va 0 0 (Psr.s K.d.psr))) :
    Prog E K cint .quiet (load64 E va rd) (RetOk K) := by
  refine .bind (prog_memAccess2 hK hop) ?_
  rintro r j (rfl | ⟨h, -⟩)
  · split_ifs with h0
    · refine prog_modCPU .asked ((goodC_write_reg _ _).comp (goodC_write_reg _ _)) (.pure ?_)
      rw [h0.1, h0.2]; exact retOk_zero
    · exact .pure (retOk_asked fun h => failed_of_msb2 (or_msb h))
  · cases h

lemma prog_store64 (hop : dataOp K.c K.d = some (.pair .store va (K.c.read_reg rd 0)
      (K.c.read_reg (rd + 1) (K.c.read_reg rd 0)) (Psr.s K.d.psr))) :
    Prog E K cint .quiet (store64 E va rd) (RetOk K) := by
  refine prog_getCPU (.bind (prog_memAccess2 hK hop) ?_)
  rintro r j (rfl | ⟨-, h0, rfl⟩)
  · exact .pure (retOk_asked fun h => failed_of_msb2 (or_msb h))
  · obtain ⟨h1, h2⟩ := not_or.mp (of_decide_eq_false h0)
    exact .pure (by rw [not_not.mp h1, not_not.mp h2]; exact retOk_zero)

end Words

/-! ### Atomics -/

lemma prog_endAtomic {r : MMU.AtomicResult} {P : Prop}
    (h : i = .asked (!r.ok) ∨ (P ∧ (!r.ok) = false ∧ i = .done)) (rd : u32) :
    Prog E K Unit i (endAtomic r rd) Ends := by
  have hi : K.Settles i := by
    rcases h with rfl | ⟨-, -, rfl⟩
    · exact .asked
    · exact .done
  refine prog_test (P := (!r.ok) = true) (fun hc => ?_)
    (prog_modCPU hi (goodC_write_reg _ _) (prog_advance .done))
  rcases h with rfl | ⟨-, h0, -⟩
  · rw [hc]
  · rw [hc] at h0
    cases h0

lemma marked_setSwap (v : u32) (c : CPU) : c.Marked (c.setSwap v) := by
  refine ⟨rfl, fun i hi => ?_, rfl⟩
  simp only [CPU.setSwap, CPU.upd, if_neg hi]

lemma prog_swapWord (hop : dataOp K.c K.d = if decide (K.d.ev &&& 3 = 0) then
      some (.swap K.d.ev K.d.value (Psr.s K.d.psr)) else none) :
    Prog E K Unit .quiet (swapWord E) Ends := by
  refine prog_getD ?_
  split_ifs with ha
  · exact prog_trap (hop.trans (if_neg fun h => ha (of_decide_eq_true h))) (by decide)
  · have hop := hop.trans (if_pos (decide_eq_true (not_not.mp ha)))
    exact prog_mark (Or.inl rfl) (marked_setSwap _)
      (.bind (.step (.access (Or.inr rfl) hop .swap fun _ _ => rfl)) fun _ _ h => prog_endAtomic h _)

lemma prog_SWAPA (hop : dataOp K.c K.d = if decide ((K.d.opcode >>> 5) &&& 0xff = 1) &&
      Psr.s K.d.psr && decide (K.d.ev &&& 3 = 0) then
      some (.swap K.d.ev K.d.value (Psr.s K.d.psr)) else none) :
    Prog E K Unit .quiet (SWAPA E) Ends := by
  refine prog_getD ?_
  split_ifs with ha hs
  · exact prog_swapWord (by simpa only [ha, hs, decide_true, Bool.true_and] using hop)
  · exact prog_trap (hop.trans (if_neg (by simp [hs]))) (by decide)
  · rw [decide_eq_false ha] at hop
    exact .mono (prog_UNIMP hop) fun _ _ h => Or.inl h

lemma prog_LDSTUB (hop : dataOp K.c K.d = some (.ldstub K.d.ev (Psr.s K.d.psr))) :
    Prog E K Unit .quiet (LDSTUB E) Ends := by
  refine prog_getD (.bind (.step (.access (Or.inl rfl) hop .ldstub fun _ _ => rfl)) fun r j h => ?_)
  cases r with
  | none =>
    rcases h with rfl | ⟨-, h, -⟩
    · exact prog_traps .fault
    · cases h
  | some v =>
    have hi : K.Settles j := by
      rcases h with rfl | ⟨-, -, rfl⟩
      · exact .asked
      · exact .done
    exact prog_modCPU hi ((goodC_setSwap _).comp (goodC_write_reg _ _)) (prog_advance .done)

include hK

lemma prog_CASA (hop : dataOp K.c K.d =
      let va := K.c.read_reg (K.d.rs1 &&& 0x1f) 0
      let asi := (K.d.imm_disp_rs2 >>> 5) &&& 0xff
      if decide (asi = 0xa ∨ (asi = 0xb ∧ Psr.s K.d.psr)) && decide (va &&& 3 = 0) then
        some (.casa va (K.c.read_reg (K.d.imm_disp_rs2 &&& 0x1f &&& 0x1f) 0)
          (K.c.read_reg (K.d.rd &&& 0x1f) 0) (decide (asi = 0xb))) else none) :
    Prog E K Unit .quiet (CASA E) Ends := by
  refine prog_getD (prog_getCPU ?_)
  dsimp only
  -- the branches with an access are those where the checks that make it ready have passed
  have hasi {asi : u32} {s : Bool} (h1 : ¬ ((!s) = true ∧ asi ≠ 0xA)) (h3 : asi = 0xB ∨ asi = 0xA) :
      asi = 0xA ∨ (asi = 0xB ∧ s = true) := by
    rcases h3 with h3 | h3
    · cases s with
      | false => exact absurd ⟨rfl, by rw [h3]; decide⟩ h1
      | true => exact Or.inr ⟨h3, rfl⟩
    · exact Or.inl h3
  split_ifs with h1 h2 h3
  · refine prog_trap (hop.trans (if_neg fun h => ?_)) (by decide)
    simp only [Bool.and_eq_true, decide_eq_true_eq] at h
    rcases h.1 with h | ⟨-, h⟩
    · exact h1.2 h
    · rw [h] at h1
      exact Bool.false_ne_true h1.1
  · refine prog_trap (hop.trans (if_neg fun h => ?_)) (by decide)
    simp only [Bool.and_eq_true, decide_eq_true_eq] at h
    exact h2 h.2
  · have hop := hop.trans (if_pos (by
      simp only [Bool.and_eq_true, decide_eq_true_eq]
      exact ⟨hasi h1 h3, not_not.mp h2⟩))
    exact .bind (.step (.access (Or.inl rfl) hop .casa fun _ _ => rfl))
      fun _ _ h => prog_endAtomic h _
  · have hs : Psr.s K.d.psr = true := by
      cases hs : Psr.s K.d.psr
      · exact absurd ⟨by simp [hs], fun h => h3 (Or.inr h)⟩ h1
      · rfl
    refine prog_throw (hK.super hs) (hop.trans (if_neg fun h => ?_))
    simp only [Bool.and_eq_true, decide_eq_true_eq] at h
    exact h3 (h.1.symm.imp_left And.left)

/-! ### Alternate spaces -/

section Alternate

variable (hn : K.Idle) (hf : K.d.function = .LDA_impl ∨ K.d.function = .STA_impl)

include hn hf

variable (hs : Psr.s K.d.psr = true) (address value : u32)

section Registers

include hs

omit hn in
lemma prog_priv {α : Type} (m : MmuM δ α) : Prog E K α .quiet (onMMU m) fun _ j => j = .done :=
  .step (.priv (not_user hK hs) hf)

lemma prog_readMMUReg : Prog E K u32 .quiet (readMMUReg address) fun _ j => j = .done := by
  unfold readMMUReg
  split_ifs
  iterate 5 exact prog_priv hK hf hs _
  exact prog_throw (hK.super hs) hn

lemma prog_readCacheReg : Prog E K u32 .quiet (readCacheReg address) fun _ j => j = .done := by
  unfold readCacheReg
  split_ifs
  iterate 3 exact prog_priv hK hf hs _
  exact prog_throw (hK.super hs) hn

lemma prog_writeMMUReg : Prog E K Unit .quiet (writeMMUReg address value) fun _ j => j = .done := by
  unfold writeMMUReg
  split_ifs
  iterate 3 exact prog_priv hK hf hs _
  exact prog_throw (hK.super hs) hn

lemma prog_writeCacheReg :
    Prog E K Unit .quiet (writeCacheReg address value) fun _ j => j = .done := by
  unfold writeCacheReg
  split_ifs
  iterate 3 exact prog_priv hK hf hs _
  exact prog_throw (hK.super hs) hn

end Registers

lemma prog_LDA : Prog E K Unit .quiet (LDA_impl E) Ends := by
  have hend {m : M δ u32} (h : Prog E K u32 .quiet m fun _ j => j = .done) :
      Prog E K Unit .quiet (m >>= fun v => modD fun d => (d.wb v).next) Ends := by
    refine .bind h ?_
    rintro v _ rfl
    exact prog_finish .done (goodD_of_psr fun _ => rfl)
  refine prog_getD (prog_getCPU ?_)
  split_ifs with hs
  · exact prog_trap hn (by decide)
  · exact prog_trap hn (by decide)
  · exact prog_throw (hK.super (by simpa using hs)) hn
  all_goals have hs' : Psr.s K.d.psr = true := by simpa using hs
  · exact hend (prog_readMMUReg hK hn hf hs' _)
  · exact hend (prog_readCacheReg hK hn hf hs' _)
  · exact hend (prog_priv hK hf hs' _)
  · exact hend (prog_throw (hK.super hs') hn)

lemma prog_STA : Prog E K Unit .quiet (STA_impl E) Ends := by
  have hend {m : M δ Unit} (h : Prog E K Unit .quiet m fun _ j => j = .done) :
      Prog E K Unit .quiet (m >>= fun _ => advance) Ends := by
    refine .bind h ?_
    rintro _ _ rfl
    exact prog_advance .done
  refine prog_getD (prog_getCPU ?_)
  dsimp only
  split_ifs with hs
  · exact prog_trap hn (by decide)
  · exact prog_trap hn (by decide)
  · exact prog_trap hn (by decide)
  all_goals have hs' : Psr.s K.d.psr = true := by simpa using hs
  · exact hend (prog_writeMMUReg hK hn hf hs' _ _)
  · exact hend (prog_writeCacheReg hK hn hf hs' _ _)
  · exact prog_advance hn.settles
  · exact hend (prog_priv hK hf hs' _)
  · exact hend (prog_priv hK hf hs' _)
  · exact hend (prog_throw (hK.super hs') hn)

end Alternate

end Memory

/-! ### Floating point -/

section Fpu

variable {δ : Type} {E : Board δ} {K : Setup}

lemma marked_setFtt (ftt : u32) (c : CPU) : c.Marked (c.setFtt ftt) := by
  refine ⟨rfl, fun _ _ => rfl, ?_⟩
  unfold CPU.setFtt fsrKept
  refine Lib.Bits.field_other (by decide) ?_
  rw [BitVec.shiftLeft_and_distrib, BitVec.and_assoc,
    show (7 : u32) <<< 14 &&& 0xfffe3fe0 = 0 from by decide]
  exact BitVec.and_zero

lemma marked_nvc (c : CPU) : c.Marked { c with fsr := (c.fsr &&& ~~~0x1f#32) ||| (1 <<< 4) } :=
  ⟨rfl, fun _ _ => rfl, Lib.Bits.field_other (by decide) (by decide)⟩

lemma prog_invalidFpRegister (hn : K.Idle) : Prog E K Unit .quiet invalidFpRegister Ends :=
  prog_mark (Or.inl rfl) (marked_setFtt _) (prog_traps (.early hn (Or.inr rfl) (by decide)))

section Access

variable {a : DataOp} {access : DecodeStruct → M δ Unit}
  (h : dataOp K.c K.d = some a → Prog E K Unit .quiet (access K.d) Ends)

include h

lemma prog_fpAccess {align : u32} {pair ready : Bool}
    (hop : dataOp K.c K.d = if ready then some a else none)
    (hr : ready = true ↔ Psr.ef K.d.psr = true ∧ (pair = true → K.d.rd &&& 1 = 0) ∧
      K.d.ev &&& align = 0) : Prog E K Unit .quiet (fpAccess align pair access) Ends := by
  have hn (hc : ready = true → False) : K.Idle := hop.trans (if_neg hc)
  refine prog_getD ?_
  split_ifs with h1 h2 h3
  · exact prog_trap (hn fun hc => by simp [(hr.mp hc).1] at h1) (by decide)
  · exact prog_trap (hn fun hc => h2 (hr.mp hc).2.2) (by decide)
  · exact prog_invalidFpRegister (hn fun hc => h3.2 ((hr.mp hc).2.1 h3.1))
  · exact h (hop.trans (if_pos (hr.mpr ⟨by simpa using h1, fun hp => by simpa [hp] using h3,
      not_not.mp h2⟩)))

lemma prog_fpSingle (hop : dataOp K.c K.d =
      if Psr.ef K.d.psr && decide (K.d.ev &&& 3 = 0) then some a else none) :
    Prog E K Unit .quiet (fpAccess 3 false access) Ends :=
  prog_fpAccess h hop (by simp)

lemma prog_fpPair (hop : dataOp K.c K.d =
      if Psr.ef K.d.psr && decide (K.d.rd &&& 1 = 0) && decide (K.d.ev &&& 7 = 0) then some a
      else none) : Prog E K Unit .quiet (fpAccess 7 true access) Ends :=
  prog_fpAccess h hop (by simp [and_assoc])

end Access

section Words

variable (hK : K.Ok E)

include hK

lemma prog_LDF (hf : K.d.function = .LDF_impl) : Prog E K Unit .quiet (LDF_impl E) Ends := by
  refine prog_fpSingle (fun hop => .bind (prog_memAccess hK hop) ?_) (by simp only [dataOp, hf])
  rintro r j (rfl | ⟨h, -⟩)
  · exact prog_test (fun h => by rw [failed_of_msb h])
      (prog_modCPU .asked (goodC_setFreg _ _) (prog_advance .done))
  · cases h

lemma prog_LDDF (hf : K.d.function = .LDDF_impl) : Prog E K Unit .quiet (LDDF_impl E) Ends := by
  refine prog_fpPair (fun hop => .bind (prog_memAccess2 hK hop) ?_) (by simp only [dataOp, hf])
  rintro r j (rfl | ⟨h, -⟩)
  · exact prog_test (fun h => by rw [failed_of_msb2 h])
      (prog_modCPU .asked ((goodC_setFreg _ _).comp (goodC_setFreg _ _)) (prog_advance .done))
  · cases h

lemma prog_STF (hf : K.d.function = .STF_impl) : Prog E K Unit .quiet (STF_impl E) Ends := by
  refine prog_fpSingle (fun hop => prog_getCPU (.bind (prog_memAccess hK hop) ?_))
    (by simp only [dataOp, hf])
  rintro r j (rfl | ⟨-, h0, rfl⟩)
  · exact prog_endAccess (retOk_asked failed_of_msb)
  · exact prog_endAccess (by rw [not_not.mp (of_decide_eq_false h0)]; exact retOk_zero)

lemma prog_STDF (hf : K.d.function = .STDF_impl) : Prog E K Unit .quiet (STDF_impl E) Ends := by
  refine prog_fpPair (fun hop => prog_getCPU (.bind (prog_memAccess2 hK hop) ?_))
    (by simp only [dataOp, hf])
  rintro r j (rfl | ⟨-, h0, rfl⟩)
  · exact prog_test (fun h => by rw [failed_of_msb2 h]) (prog_advance .asked)
  · exact prog_test (fun h => absurd (failed_of_msb2 h) (by rw [h0]; decide)) (prog_advance .done)

omit hK

lemma prog_LDFSR (hf : K.d.function = .LDFSR_impl) : Prog E K Unit .quiet (LDFSR_impl E) Ends := by
  refine prog_fpSingle (fun hop => .bind (.step (.access (Or.inl rfl) hop .word fun _ _ => rfl)) ?_)
    (by simp only [dataOp, hf])
  rintro r j (rfl | ⟨-, -, rfl⟩)
  · exact prog_modCPU .asked (goodC_fsr _) (prog_advance .done)
  · exact prog_modCPU .done (goodC_fsr _) (prog_advance .done)

lemma prog_STFSR (hf : K.d.function = .STFSR_impl) : Prog E K Unit .quiet (STFSR_impl E) Ends := by
  refine prog_fpSingle (fun hop => prog_getCPU
    (.bind (.step (.access (Or.inl rfl) hop .word fun _ _ => rfl)) ?_)) (by simp only [dataOp, hf])
  rintro r j (rfl | ⟨-, -, rfl⟩)
  · exact prog_advance .asked
  · exact prog_advance .done

end Words

section Operations

variable (hn : K.Idle)

include hn

lemma prog_FBFCC : Prog E K Unit .quiet FBFCC_impl Ends := by
  refine prog_getD (prog_getCPU ?_)
  split_ifs
  · exact prog_trap hn (by decide)
  · exact prog_finish hn.settles (goodD_of_psr fun _ => branch_psr _ _ _)

lemma prog_FOP1 : Prog E K Unit .quiet (FOP1_impl E) Ends := by
  refine prog_getD (prog_getCPU ?_)
  dsimp only
  split
  · exact prog_trap hn (by decide)
  · split
    · split
      · exact prog_invalidFpRegister hn
      · exact prog_modCPU hn.settles (goodC_setFreg _ _) (prog_advance .done)
    · split
      · exact prog_modCPU hn.settles (goodC_setFreg _ _) (prog_advance .done)
      · split
        · split
          · exact prog_invalidFpRegister hn
          · exact prog_modCPU hn.settles ((goodC_setFreg _ _).comp (goodC_setFreg _ _))
              (prog_advance .done)
        · exact prog_trap hn (by decide)

lemma prog_compare {opf quiet signal fcc : u32} {nan : Bool}
    (h : opf ≠ quiet → opf ≠ signal → K.throws) :
    Prog E K Unit .quiet (compare opf quiet signal fcc nan) Ends := by
  have hset : Prog E K Unit .quiet (do
      modCPU fun c => { c with fsr := (c.fsr &&& ~~~(3#32 <<< 10)) ||| ((fcc &&& 3) <<< 10) }
      advance) Ends := prog_modCPU hn.settles (goodC_fsr _) (prog_advance .done)
  unfold compare
  dsimp only
  split_ifs with h1 h2
  · exact hset
  · exact prog_mark (Or.inl rfl) (marked_setFtt _) (prog_mark (Or.inr rfl) marked_nvc
      (prog_traps (.early hn (Or.inr rfl) (by decide))))
  · exact hset
  · exact prog_mark (Or.inl rfl) (marked_setFtt _) (.bind
      (prog_traps (.early hn (Or.inr rfl) (by decide))) fun _ _ _ => prog_throw (h h1 h2) hn)

lemma prog_FOP2 (hK : K.Ok E) (hf : K.d.function = .FOP2_impl) :
    Prog E K Unit .quiet (FOP2_impl E) Ends := by
  refine prog_getD (prog_getCPU ?_)
  dsimp only
  split_ifs with h1 h2 h3
  · exact prog_trap hn (by decide)
  · exact prog_invalidFpRegister hn
  · refine prog_compare hn fun hq hs => hK.crash ?_
    simp only [not_or, not_not] at h3
    simp only [Crash, hf, compareUnknown, if_pos h2]
    exact ⟨by simpa using h1, h3, hq, hs⟩
  · refine prog_compare hn fun hq hs => hK.crash ?_
    simp only [Crash, hf, compareUnknown, if_neg h2]
    exact ⟨by simpa using h1, hq, hs⟩

end Operations

end Fpu

/-! ### All of them -/

theorem prog_exec {δ : Type} {E : Board δ} {K : Setup} (hK : K.Ok E) :
    Prog E K Unit .quiet (K.d.function.exec E (throwHost .stack_overflow)) Ends := by
  have hn : K.d.function.isData = false → K.Idle := dataOp_none
  cases hf : K.d.function <;> rw [hf] at hn
  case UNIMP => exact .mono (prog_UNIMP (hn rfl)) fun _ _ h => Or.inl h
  case CALL => exact prog_CALL (hn rfl)
  case BICC => exact prog_BICC (hn rfl)
  case SETHI => exact prog_SETHI (hn rfl)
  case SLL => exact prog_SLL (hn rfl)
  case SRL => exact prog_SRL (hn rfl)
  case SRA => exact prog_SRA (hn rfl)
  case RDY => exact prog_RDY (hn rfl)
  case RDPSR | RDWIM | RDTBR => exact prog_rdPriv (hn rfl) _
  case WRY => exact prog_WRY hK (hn rfl) hf
  case WRPSR => exact prog_WRPSR hK (hn rfl)
  case WRWIM => exact prog_WRWIM hK (hn rfl)
  case WRTBR => exact prog_WRTBR hK (hn rfl)
  case JMPL => exact prog_JMPL (hn rfl)
  case RETT => exact prog_RETT hK (hn rfl)
  case TICC => exact prog_TICC hK (hn rfl) hf
  case SAVE => exact prog_SAVE (hn rfl)
  case RESTORE => exact prog_RESTORE (hn rfl)
  case FLUSH => exact prog_FLUSH (hn rfl)
  case MULSCC => exact prog_MULSCC (hn rfl)
  case LD | LDUB | LDUH | LDSB | LDSH =>
    exact prog_dataAccess (by simp only [dataOp, hf]) fun hop => prog_loadReg hK hop
  case ST | STB | STH =>
    exact prog_dataAccess (by simp only [dataOp, hf]) fun hop => prog_storeReg hK hop
  case LDD => exact prog_dataAccess64 (by simp only [dataOp, hf]) fun hop => prog_load64 hK hop
  case STD => exact prog_dataAccess64 (by simp only [dataOp, hf]) fun hop => prog_store64 hK hop
  case SWAP => exact prog_swapWord (by simp only [dataOp, hf])
  case SWAPA => exact prog_SWAPA (by simp only [dataOp, hf])
  case LDSTUB => exact prog_LDSTUB (by simp only [dataOp, hf])
  case CASA => exact prog_CASA hK (by simp only [dataOp, hf])
  case MUL => exact prog_MUL (hn rfl)
  case DIV => exact prog_DIV hK (hn rfl) hf
  case ADD => exact prog_ADD (hn rfl)
  case AND => exact prog_AND (hn rfl)
  case STA_impl => exact prog_STA hK (hn rfl) (Or.inr hf)
  case LDA_impl => exact prog_LDA hK (hn rfl) (Or.inl hf)
  case LDF_impl => exact prog_LDF hK hf
  case LDDF_impl => exact prog_LDDF hK hf
  case LDFSR_impl => exact prog_LDFSR hf
  case STF_impl => exact prog_STF hK hf
  case STDF_impl => exact prog_STDF hK hf
  case STFSR_impl => exact prog_STFSR hf
  case STDFQ_impl => exact prog_throw (hK.crash (by simp [Crash, hf])) (hn rfl)
  case FBFCC_impl => exact prog_FBFCC (hn rfl)
  case FOP1_impl => exact prog_FOP1 (hn rfl)
  case FOP2_impl => exact prog_FOP2 (hn rfl) hK hf

end SparcEmu
