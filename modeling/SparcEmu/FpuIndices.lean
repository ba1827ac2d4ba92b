import SparcEmu.Entry
import SparcEmu.Lib.Trace
import Mathlib.Tactic.IntervalCases

/-!
The indices that an instruction uses in `freg`, which has 32 elements. The functions of
`FPU_instructions.cpp` that access the array are written again with a record of their accesses;
without the record they are the functions of the model.
-/

namespace SparcEmu

open Lib.Effect Lib.Trace

variable {δ : Type} (E : Board δ)

/-- Instruction functions with a record of the elements of `freg` that they access. -/
abbrev FpM (δ : Type) := TraceM HostError (St δ) u32

/-! ### The functions with their accesses -/

def fpAccessT (align : u32) (pair : Bool) (access : DecodeStruct → FpM δ Unit) : FpM δ Unit := do
  let d ← lift getD
  if !Psr.ef d.psr then lift (trap SPARC_FP_DISABLED)
  else if d.ev &&& align ≠ 0 then lift (trap SPARC_MEMORY_ADDR_NOT_ALIGNED)
  else if pair ∧ d.rd &&& 1 ≠ 0 then lift invalidFpRegister
  else access d

def LDF_implT : FpM δ Unit := fpAccessT 3 false fun d => do
  let r ← lift (memAccess E .load .b4 d.ev 0)
  let nf ← lift noFault
  if r.1.msb ∧ !nf then lift (trap SPARC_DATA_ACCESS_EXCEPTION)
  else do
    touch d.rd
    lift (modCPU fun c => setFreg c d.rd r.2)
    lift advance

def LDDF_implT : FpM δ Unit := fpAccessT 7 true fun d => do
  let r ← lift (memAccess2 E .load d.ev 0 0)
  let nf ← lift noFault
  if (r.1.1.msb ∨ r.2.1.msb) ∧ !nf then lift (trap SPARC_DATA_ACCESS_EXCEPTION)
  else do
    touch d.rd
    touch (d.rd + 1)
    lift (modCPU fun c => setFreg (setFreg c d.rd r.1.2) (d.rd + 1) r.2.2)
    lift advance

def STF_implT : FpM δ Unit := fpAccessT 3 false fun d => do
  touch d.rd
  let c ← lift getCPU
  let r ← lift (memAccess E .store .b4 d.ev (c.freg d.rd))
  lift (endAccess r.1)

def STDF_implT : FpM δ Unit := fpAccessT 7 true fun d => do
  touch d.rd
  touch (d.rd + 1)
  let c ← lift getCPU
  let r ← lift (memAccess2 E .store d.ev (c.freg d.rd) (c.freg (d.rd + 1)))
  let nf ← lift noFault
  if (r.1.1.msb ∨ r.2.1.msb) ∧ !nf then lift (trap SPARC_DATA_ACCESS_EXCEPTION)
  else lift advance

def touchPair (i : u32) : FpM δ Unit := do
  touch i
  touch (i + 1)

/-- The accesses of a double operation whose registers have been checked: both pairs, the single
word of `rs2`, and the result. -/
def fop1Pairs (d : DecodeStruct) (v : u64) : FpM δ Unit := do
  touchPair d.rs1
  touchPair (d.opcode &&& 0x1f)
  touch (d.opcode &&& 0x1f)
  touchPair d.rd
  lift (modCPU fun c => setFregPair c d.rd v)
  lift advance

/-- The source reads `freg[rs1]` and `freg[rs2]` before it looks at `opf`, and for every double
result it reads both pairs, also for `fsmuld`, `fitod` and `fstod`, which use single operands. -/
def FOP1_implT : FpM δ Unit := do
  let d ← lift getD
  let c ← lift getCPU
  let rs2 := d.opcode &&& 0x1f
  let opf := (d.opcode >>> 5) &&& 0x1ff
  if !Psr.ef d.psr then lift (trap SPARC_FP_DISABLED)
  else do
    touch d.rs1
    touch rs2
    if opf = 0b011010010 ∨ opf = 0b011000110 then
      if rs2 &&& 1 ≠ 0 then lift invalidFpRegister
      else do
        touchPair rs2
        touch d.rd
        let x := fregPair c rs2
        lift (modCPU fun c => setFreg c d.rd (if opf = 0b011010010 then E.fpu.dtoi x else E.fpu.dtos x))
        lift advance
    else match fop1Single E c d.rs1 rs2 opf with
      | some v => do
        touch d.rd
        lift (modCPU fun c => setFreg c d.rd v)
        lift advance
      | none => match fop1Double E c d.rs1 rs2 opf with
        | some v =>
          if oddPair d.rd d.rs1 rs2 opf then lift invalidFpRegister
          else fop1Pairs d v
        | none => lift (trap SPARC_ILLEGAL_INSTRUCTION)

def FOP2_implT : FpM δ Unit := do
  let d ← lift getD
  let c ← lift getCPU
  let rs2 := d.opcode &&& 0x1f
  let opf := (d.opcode >>> 5) &&& 0x1ff
  if !Psr.ef d.psr then lift (trap SPARC_FP_DISABLED)
  else if opf.getLsbD 1 then
    if d.rd &&& 1 ≠ 0 ∨ rs2 &&& 1 ≠ 0 ∨ d.rs1 &&& 1 ≠ 0 then lift invalidFpRegister
    else do
      touchPair d.rs1
      touchPair rs2
      let v1 := fregPair c d.rs1
      let v2 := fregPair c rs2
      lift (compare opf 0b001010010 0b001010110 (get_fccd E v1 v2)
        (E.fpu.isnanD v1 || E.fpu.isnanD v2))
  else do
    touch d.rs1
    touch rs2
    let v1 := c.freg d.rs1
    let v2 := c.freg rs2
    lift (compare opf 0b001010001 0b001010101 (get_fcc E v1 v2)
      (E.fpu.isnanS v1 || E.fpu.isnanS v2))

/-- A breakpoint makes `TICC` execute another instruction, which may access the array. -/
def TICC_T (excute_one : FpM δ Unit) : FpM δ Unit := do
  let d ← lift getD
  let c ← lift getCPU
  match breakpointAt c d with
  | some bp_i => do
    lift (modD fun d => { d with opcode := bp_i })
    excute_one
  | none =>
    if test_cc d then lift (trap (ticcTrap d))
    else lift advance

/-- No other function accesses the array. -/
def Handler.execT (excute_one : FpM δ Unit) : Handler → FpM δ Unit
  | .LDF_impl => LDF_implT E
  | .LDDF_impl => LDDF_implT E
  | .STF_impl => STF_implT E
  | .STDF_impl => STDF_implT E
  | .FOP1_impl => FOP1_implT E
  | .FOP2_impl => FOP2_implT E
  | .TICC => TICC_T excute_one
  | f => lift (f.exec E (throwHost .stack_overflow))

def excuteOneT : Nat → FpM δ Unit
  | 0 => lift (throwHost .stack_overflow)
  | n + 1 => do
    let c ← lift getCPU
    lift (modD (decode c))
    let d ← lift getD
    d.function.execT E (excuteOneT n)
    let d ← lift getD
    lift (modCPU fun c => c.write_back d)

/-- The elements of `freg` that a call of `excute_one` accesses. -/
def fregIndices (s : St δ) : List u32 := (final (excuteOneT E 2 ⟨s, []⟩)).used

/-! ### Without the record -/

variable {i : u32} {k : Unit → FpM δ Unit} {t : FpM δ Unit}

section Erasing

variable {E} {m : M δ Unit}

lemma erases_touchPair (h : Erases (k ()) m) : Erases (touchPair i >>= k) m :=
  fun x => h { x with used := x.used ++ [i] ++ [i + 1] }

lemma erases_fpAccess {align : u32} {pair : Bool} {t : DecodeStruct → FpM δ Unit}
    {m : DecodeStruct → M δ Unit} (h : ∀ d, Erases (t d) (m d)) :
    Erases (fpAccessT align pair t) (fpAccess align pair m) :=
  (erases_lift _).bind fun d => .ite (erases_lift _) (.ite (erases_lift _)
    (.ite (erases_lift _) (h d)))

lemma erases_LDF : Erases (LDF_implT E) (LDF_impl E) :=
  erases_fpAccess fun _ => (erases_lift _).bind fun _ => (erases_lift _).bind fun _ =>
    .ite (erases_lift _) (erases_touch ((erases_lift _).bind fun _ => erases_lift _))

lemma erases_LDDF : Erases (LDDF_implT E) (LDDF_impl E) :=
  erases_fpAccess fun _ => (erases_lift _).bind fun _ => (erases_lift _).bind fun _ =>
    .ite (erases_lift _) (erases_touch (erases_touch ((erases_lift _).bind fun _ => erases_lift _)))

lemma erases_STF : Erases (STF_implT E) (STF_impl E) :=
  erases_fpAccess fun _ => erases_touch ((erases_lift _).bind fun _ => (erases_lift _).bind fun _ =>
    erases_lift _)

lemma erases_STDF : Erases (STDF_implT E) (STDF_impl E) :=
  erases_fpAccess fun _ => erases_touch (erases_touch ((erases_lift _).bind fun _ =>
    (erases_lift _).bind fun _ => (erases_lift _).bind fun _ =>
      .ite (erases_lift _) (erases_lift _)))

lemma erases_FOP1 : Erases (FOP1_implT E) (FOP1_impl E) := by
  refine (erases_lift _).bind fun d => (erases_lift _).bind fun c => .ite (erases_lift _) ?_
  refine erases_touch (erases_touch (.ite (.ite (erases_lift _) ?_) ?_))
  · exact erases_touchPair (erases_touch ((erases_lift _).bind fun _ => erases_lift _))
  · cases fop1Single E c d.rs1 (d.opcode &&& 0x1f) ((d.opcode >>> 5) &&& 0x1ff) with
    | some v => exact erases_touch ((erases_lift _).bind fun _ => erases_lift _)
    | none =>
      cases fop1Double E c d.rs1 (d.opcode &&& 0x1f) ((d.opcode >>> 5) &&& 0x1ff) with
      | none => exact erases_lift _
      | some v =>
        exact .ite (erases_lift _) (erases_touchPair (erases_touchPair (erases_touch
          (erases_touchPair ((erases_lift _).bind fun _ => erases_lift _)))))

lemma erases_FOP2 : Erases (FOP2_implT E) (FOP2_impl E) :=
  (erases_lift _).bind fun _ => (erases_lift _).bind fun _ => .ite (erases_lift _)
    (.ite (.ite (erases_lift _) (erases_touchPair (erases_touchPair (erases_lift _))))
      (erases_touch (erases_touch (erases_lift _))))

lemma erases_TICC (h : Erases t m) : Erases (TICC_T t) (TICC m) := by
  refine (erases_lift _).bind fun d => (erases_lift _).bind fun c => ?_
  cases breakpointAt c d with
  | some bp => exact (erases_lift _).bind fun _ => h
  | none => exact .ite (erases_lift _) (erases_lift _)

lemma erases_exec (h : Erases t m) (f : Handler) : Erases (f.execT E t) (f.exec E m) := by
  cases f with
  | LDF_impl => exact erases_LDF
  | LDDF_impl => exact erases_LDDF
  | STF_impl => exact erases_STF
  | STDF_impl => exact erases_STDF
  | FOP1_impl => exact erases_FOP1
  | FOP2_impl => exact erases_FOP2
  | TICC => exact erases_TICC h
  | _ => simp only [Handler.execT, Handler.exec, erases_lift]

/-- **The record is only a record**: without it, a call is the call of the model. -/
theorem excuteOneT_erases (n : Nat) : Erases (excuteOneT E n) (excuteOneN E n) := by
  induction n with
  | zero => exact erases_lift _
  | succ n ih =>
    exact (erases_lift _).bind fun _ => (erases_lift _).bind fun _ => (erases_lift _).bind fun d =>
      (erases_exec ih d.function).bind fun _ => (erases_lift _).bind fun _ => erases_lift _

end Erasing

/-! ### The accesses of one function -/

variable {s : St δ}

section Accesses

variable {E} {P : u32 → Prop}

structure DecodeStruct.Fields (d : DecodeStruct) : Prop where
  rd : d.rd.toNat ≤ 31
  rs1 : d.rs1.toNat ≤ 31

def InFreg (i : u32) : Prop := i.toNat ≤ 31

instance (i : u32) : Decidable (InFreg i) := inferInstanceAs (Decidable (_ ≤ _))

lemma inFreg_field (x : u32) : InFreg (x &&& 0x1f) := by
  unfold InFreg
  rw [BitVec.toNat_and]
  exact Nat.and_le_right

lemma inFreg_succ (h : InFreg i) : InFreg (i + 1) ↔ i ≠ 31 := by
  have h' : i.toNat ≤ 31 := h
  have hs : (i + 1).toNat = i.toNat + 1 := by
    rw [BitVec.toNat_add]
    show (i.toNat + 1) % 2 ^ 32 = _
    omega
  have hne : i ≠ 31 ↔ i.toNat ≠ 31 := by
    rw [Ne, ← BitVec.toNat_inj]
    rfl
  unfold InFreg
  rw [hs, hne]
  omega

lemma inFreg_pair (h : InFreg i) (heven : ¬ i &&& 1 ≠ 0) : InFreg (i + 1) := by
  refine (inFreg_succ h).mpr ?_
  rintro rfl
  exact heven (by decide)

lemma uses_touchPair (hi : InFreg i) (hi' : InFreg (i + 1)) (h : Uses InFreg (k ())) :
    Uses InFreg (touchPair i >>= k) :=
  fun x hx => uses_touch (k := fun _ => touch (i + 1) >>= k) hi (uses_touch hi' h) x hx

lemma grows_touchPair (i : u32) : Grows (touchPair i : FpM δ Unit) :=
  (grows_touch i).bind fun _ => grows_touch (i + 1)

lemma mem_touchPair (h : Grows (k ())) (x : Traced (St δ) u32) :
    i + 1 ∈ (final ((touchPair i >>= k) x)).used :=
  mem_touch h { x with used := x.used ++ [i] }

/-- The record that `t` leaves from `x`, when `x` has none, is in the array. -/
def InBounds (t : FpM δ Unit) (s : St δ) : Prop := ∀ i ∈ (final (t ⟨s, []⟩)).used, InFreg i

lemma inBounds_of_uses (h : Uses InFreg t) (s : St δ) : InBounds t s :=
  h ⟨s, []⟩ fun _ hi => absurd hi List.not_mem_nil

lemma inBounds_getD {k : DecodeStruct → FpM δ Unit} (h : Uses InFreg (k s.d)) :
    InBounds (lift getD >>= k) s := inBounds_of_uses h s

lemma inBounds_fpAccess {align : u32} {pair : Bool} {access : DecodeStruct → FpM δ Unit}
    (h : ¬ (pair = true ∧ s.d.rd &&& 1 ≠ 0) → Uses InFreg (access s.d)) :
    InBounds (fpAccessT align pair access) s := by
  refine inBounds_getD ?_
  split_ifs with _ _ hp
  · exact uses_lift _
  · exact uses_lift _
  · exact uses_lift _
  · exact h hp

lemma inBounds_LDF (h : s.d.Fields) : InBounds (LDF_implT E) s := by
  refine inBounds_fpAccess fun _ => (uses_lift _).bind fun r => (uses_lift _).bind fun nf => ?_
  split_ifs
  · exact uses_lift _
  · exact uses_touch h.rd ((uses_lift _).bind fun _ => uses_lift _)

lemma inBounds_LDDF (h : s.d.Fields) : InBounds (LDDF_implT E) s := by
  refine inBounds_fpAccess fun hp => (uses_lift _).bind fun r => (uses_lift _).bind fun nf => ?_
  have heven : ¬ s.d.rd &&& 1 ≠ 0 := fun ho => hp ⟨rfl, ho⟩
  split_ifs
  · exact uses_lift _
  · exact uses_touch h.rd (uses_touch (inFreg_pair h.rd heven)
      ((uses_lift _).bind fun _ => uses_lift _))

lemma inBounds_STF (h : s.d.Fields) : InBounds (STF_implT E) s :=
  inBounds_fpAccess fun _ => uses_touch h.rd ((uses_lift _).bind fun _ => (uses_lift _).bind fun _ =>
    uses_lift _)

lemma inBounds_STDF (h : s.d.Fields) : InBounds (STDF_implT E) s := by
  refine inBounds_fpAccess fun hp => ?_
  have heven : ¬ s.d.rd &&& 1 ≠ 0 := fun ho => hp ⟨rfl, ho⟩
  refine uses_touch h.rd (uses_touch (inFreg_pair h.rd heven) ((uses_lift _).bind fun c =>
    (uses_lift _).bind fun r => (uses_lift _).bind fun nf => ?_))
  split_ifs <;> exact uses_lift _

lemma inBounds_FOP2 (h : s.d.Fields) : InBounds (FOP2_implT E) s := by
  refine inBounds_getD ((uses_lift _).bind fun c => ?_)
  have hrs2 := inFreg_field s.d.opcode
  dsimp only
  split_ifs with _ _ hodd
  · exact uses_lift _
  · exact uses_lift _
  · have h1 : InFreg (s.d.rs1 + 1) := inFreg_pair h.rs1 fun ho => hodd (Or.inr (Or.inr ho))
    have h2 : InFreg ((s.d.opcode &&& 0x1f) + 1) :=
      inFreg_pair hrs2 fun ho => hodd (Or.inr (Or.inl ho))
    exact uses_touchPair h.rs1 h1 (uses_touchPair hrs2 h2 (uses_lift _))
  · exact uses_touch h.rs1 (uses_touch hrs2 (uses_lift _))

end Accesses

/-! ### `FOP1` -/

variable {d : DecodeStruct}

section Fop1

variable {E}

/-- `fsmuld`, `fitod` and `fstod`: the operands are single, the result is double. -/
def Widens (opf : u32) : Prop := opf = 0b001101001 ∨ opf = 0b011001000 ∨ opf = 0b011001001

instance (opf : u32) : Decidable (Widens opf) := inferInstanceAs (Decidable (_ ∨ _))

structure DecodeStruct.PastEnd (d : DecodeStruct) : Prop where
  function : d.function = .FOP1_impl
  ef : Psr.ef d.psr = true
  opf : Widens ((d.opcode >>> 5) &&& 0x1ff)
  rd : d.rd &&& 1 = 0
  operand : d.rs1 = 31 ∨ d.opcode &&& 0x1f = 31

lemma fop1_widens (c : CPU) (rs1 rs2 : u32) {opf : u32} (h : Widens opf) :
    fop1Single E c rs1 rs2 opf = none ∧ ∃ v, fop1Double E c rs1 rs2 opf = some v := by
  rcases h with rfl | rfl | rfl
  · exact ⟨rfl, _, rfl⟩
  · exact ⟨rfl, _, rfl⟩
  · exact ⟨rfl, _, rfl⟩

lemma oddPair_false {rd rs1 rs2 opf : u32} (h : ¬ oddPair rd rs1 rs2 opf = true) :
    ¬ rd &&& 1 ≠ 0 ∧ (Widens opf ∨ ¬ rs1 &&& 1 ≠ 0 ∧ ¬ rs2 &&& 1 ≠ 0) := by
  unfold oddPair at h
  simp only [Bool.or_eq_true, Bool.and_eq_true, decide_eq_true_eq, not_or, not_and] at h
  refine ⟨h.1, ?_⟩
  by_cases hw : Widens opf
  · exact Or.inl hw
  · have hw' : opf ≠ 0b001101001 ∧ opf ≠ 0b011001000 ∧ opf ≠ 0b011001001 := by
      unfold Widens at hw
      tauto
    exact Or.inr ⟨(h.2 hw').2, (h.2 hw').1⟩

lemma uses_fop1Pairs (h : d.Fields) (hd : ¬ d.rd &&& 1 ≠ 0) (h1 : d.rs1 ≠ 31)
    (h2 : d.opcode &&& 0x1f ≠ 31) (v : u64) : Uses InFreg (fop1Pairs d v : FpM δ Unit) := by
  have hrs2 := inFreg_field d.opcode
  refine uses_touchPair h.rs1 ((inFreg_succ h.rs1).mpr h1) ?_
  refine uses_touchPair hrs2 ((inFreg_succ hrs2).mpr h2) (uses_touch hrs2 ?_)
  exact uses_touchPair h.rd (inFreg_pair h.rd hd) ((uses_lift _).bind fun _ => uses_lift _)

lemma mem_fop1Pairs (d : DecodeStruct) (v : u64) (x : Traced (St δ) u32) :
    d.rs1 + 1 ∈ (final (fop1Pairs d v x)).used ∧
      (d.opcode &&& 0x1f) + 1 ∈ (final (fop1Pairs d v x)).used := by
  let last : FpM δ Unit := do
    touch (d.opcode &&& 0x1f)
    touchPair d.rd
    lift (modCPU fun c => setFregPair c d.rd v)
    lift advance
  have hlast : Grows last :=
    (grows_touch _).bind fun _ => (grows_touchPair _).bind fun _ => (grows_lift _).bind fun _ =>
      grows_lift _
  constructor
  · exact mem_touchPair (k := fun _ => touchPair (d.opcode &&& 0x1f) >>= fun _ => last)
      ((grows_touchPair _).bind fun _ => hlast) x
  · exact mem_touchPair (k := fun _ => last) hlast
      { x with used := x.used ++ [d.rs1] ++ [d.rs1 + 1] }

lemma FOP1_past (h : s.d.PastEnd) : ∃ v : u64, FOP1_implT E ⟨s, []⟩ =
    fop1Pairs s.d v ⟨s, [s.d.rs1, s.d.opcode &&& 0x1f]⟩ := by
  obtain ⟨hs, v, hv⟩ := fop1_widens (E := E) s.cpu s.d.rs1
    (s.d.opcode &&& 0x1f) h.opf
  have hconv : ¬ ((s.d.opcode >>> 5) &&& 0x1ff = 0b011010010 ∨
      (s.d.opcode >>> 5) &&& 0x1ff = 0b011000110) := by
    rcases h.opf with ho | ho | ho <;> rw [ho] <;> decide
  have hodd : ¬ oddPair s.d.rd s.d.rs1 (s.d.opcode &&& 0x1f) ((s.d.opcode >>> 5) &&& 0x1ff)
      = true := by
    unfold oddPair
    rw [h.rd]
    rcases h.opf with ho | ho | ho <;> rw [ho] <;> simp
  refine ⟨v, ?_⟩
  unfold FOP1_implT
  rw [bind_ok (show lift getD ⟨s, []⟩ = .ok s.d (⟨s, []⟩ : Traced (St δ) u32) from rfl),
    bind_ok (show lift getCPU ⟨s, []⟩ = .ok s.cpu (⟨s, []⟩ : Traced (St δ) u32) from rfl)]
  dsimp only
  rw [if_neg (by rw [h.ef]; decide),
    bind_ok (show touch s.d.rs1 ⟨s, []⟩ = .ok () (⟨s, [s.d.rs1]⟩ : Traced (St δ) u32) from rfl),
    bind_ok (show touch (s.d.opcode &&& 0x1f) ⟨s, [s.d.rs1]⟩ =
      .ok () (⟨s, [s.d.rs1, s.d.opcode &&& 0x1f]⟩ : Traced (St δ) u32) from rfl),
    if_neg hconv, hs]
  dsimp only
  rw [hv]
  dsimp only
  rw [if_neg hodd]

lemma uses_fop1Double (h : d.Fields) (hp : ¬ d.PastEnd) (hf : d.function = .FOP1_impl)
    (hef : Psr.ef d.psr = true)
    (hodd : ¬ oddPair d.rd d.rs1 (d.opcode &&& 0x1f) ((d.opcode >>> 5) &&& 0x1ff) = true) (v : u64) :
    Uses InFreg (fop1Pairs d v : FpM δ Unit) := by
  obtain ⟨hrd, hw⟩ := oddPair_false hodd
  have hne : d.rs1 ≠ 31 ∧ d.opcode &&& 0x1f ≠ 31 := by
    rcases hw with hw | ⟨h1, h2⟩
    · refine ⟨fun h31 => hp ⟨hf, hef, hw, not_not.mp hrd, Or.inl h31⟩, fun h31 => ?_⟩
      exact hp ⟨hf, hef, hw, not_not.mp hrd, Or.inr h31⟩
    · refine ⟨fun h31 => h1 ?_, fun h31 => h2 ?_⟩
      · rw [h31]; decide
      · rw [h31]; decide
  exact uses_fop1Pairs h hrd hne.1 hne.2 v

lemma inBounds_FOP1 (h : s.d.Fields) (hf : s.d.function = .FOP1_impl) :
    InBounds (FOP1_implT E) s ↔ ¬ s.d.PastEnd := by
  have hrs2 := inFreg_field s.d.opcode
  constructor
  · intro hb hp
    obtain ⟨v, hv⟩ := FOP1_past (E := E) hp
    obtain ⟨h1, h2⟩ := mem_fop1Pairs s.d v ⟨s, [s.d.rs1, s.d.opcode &&& 0x1f]⟩
    rw [← hv] at h1 h2
    rcases hp.operand with ho | ho
    · exact (inFreg_succ h.rs1).mp (hb _ h1) ho
    · exact (inFreg_succ hrs2).mp (hb _ h2) ho
  · intro hp
    refine inBounds_getD ((uses_lift _).bind fun c => ?_)
    dsimp only
    by_cases hef : (!Psr.ef s.d.psr) = true
    · rw [if_pos hef]
      exact uses_lift _
    rw [if_neg hef]
    refine uses_touch h.rs1 (uses_touch hrs2 ?_)
    by_cases hop : (s.d.opcode >>> 5) &&& 0x1ff = 0b011010010 ∨
        (s.d.opcode >>> 5) &&& 0x1ff = 0b011000110
    · rw [if_pos hop]
      by_cases hodd : s.d.opcode &&& 0x1f &&& 1 ≠ 0
      · rw [if_pos hodd]
        exact uses_lift _
      · rw [if_neg hodd]
        exact uses_touchPair hrs2 (inFreg_pair hrs2 hodd)
          (uses_touch h.rd ((uses_lift _).bind fun _ => uses_lift _))
    rw [if_neg hop]
    cases fop1Single E c s.d.rs1 (s.d.opcode &&& 0x1f) ((s.d.opcode >>> 5) &&& 0x1ff) with
    | some v => exact uses_touch h.rd ((uses_lift _).bind fun _ => uses_lift _)
    | none =>
      cases fop1Double E c s.d.rs1 (s.d.opcode &&& 0x1f) ((s.d.opcode >>> 5) &&& 0x1ff) with
      | none => exact uses_lift _
      | some v =>
        dsimp only
        split_ifs with hodd
        · exact uses_lift _
        · exact uses_fop1Double h hp hf (by simpa using hef) hodd v

end Fop1

/-! ### A call -/

section Call

def Handler.accessesFreg : Handler → Bool
  | .LDF_impl | .LDDF_impl | .STF_impl | .STDF_impl | .FOP1_impl | .FOP2_impl => true
  | _ => false

lemma format2_accesses (k : Nat) (h : k < 8) : (format2.getD k .UNIMP).accessesFreg = false := by
  interval_cases k <;> rfl

lemma decode_fields {c : CPU} (h : (decode c d).function.accessesFreg = true) :
    (decode c d).Fields := by
  unfold decode at h ⊢
  dsimp only at h ⊢
  split_ifs at h ⊢
  · cases h
  · have hk : ((d.opcode >>> 22) &&& 7).toNat < 8 := by
      rw [BitVec.toNat_and]
      exact Nat.lt_succ_of_le Nat.and_le_right
    have hn := format2_accesses _ hk
    rw [show (format2.getD ((d.opcode >>> 22) &&& 7).toNat .UNIMP).accessesFreg = true from h] at hn
    cases hn
  · exact ⟨inFreg_field _, inFreg_field _⟩

variable {E}

lemma inBounds_other {f : Handler} (h : f.accessesFreg = false) (s : St δ) (e : HostError) :
    InBounds (f.execT E (lift (throwHost e))) s := by
  refine inBounds_of_uses ?_ s
  cases f with
  | LDF_impl | LDDF_impl | STF_impl | STDF_impl | FOP1_impl | FOP2_impl => cases h
  | TICC =>
    refine (uses_lift _).bind fun d => (uses_lift _).bind fun c => ?_
    cases breakpointAt c d with
    | some bp => exact (uses_lift _).bind fun _ => uses_lift _
    | none =>
      dsimp only
      split_ifs <;> exact uses_lift _
  | _ => simp only [Handler.execT, uses_lift]

lemma inBounds_exec (h : s.d.function.accessesFreg = true → s.d.Fields) (e : HostError) :
    InBounds (s.d.function.execT E (lift (throwHost e))) s ↔ ¬ s.d.PastEnd := by
  by_cases hf : s.d.function = .FOP1_impl
  · rw [hf] at h ⊢
    exact inBounds_FOP1 (h rfl) hf
  · refine iff_of_true ?_ fun hp => hf hp.function
    by_cases ha : s.d.function.accessesFreg = true
    · have hd := h ha
      cases hs : s.d.function with
      | LDF_impl => exact inBounds_LDF hd
      | LDDF_impl => exact inBounds_LDDF hd
      | STF_impl => exact inBounds_STF hd
      | STDF_impl => exact inBounds_STDF hd
      | FOP2_impl => exact inBounds_FOP2 hd
      | FOP1_impl => exact absurd hs hf
      | _ => rw [hs] at ha; cases ha
    · exact inBounds_other (by simpa using ha) s e

lemma used_excuteOneT (n : Nat) (x : Traced (St δ) u32) :
    (final (excuteOneT E (n + 1) x)).used =
      (final ((decode x.st.cpu x.st.d).function.execT E (excuteOneT E n)
        ⟨{ x.st with d := decode x.st.cpu x.st.d }, x.used⟩)).used := by
  rw [excuteOneT]
  rw [bind_ok (show lift getCPU x = .ok x.st.cpu x from rfl),
    bind_ok (show lift (modD (decode x.st.cpu)) x =
      .ok () ⟨{ x.st with d := decode x.st.cpu x.st.d }, x.used⟩ from rfl),
    bind_ok (show lift getD ⟨{ x.st with d := decode x.st.cpu x.st.d }, x.used⟩ =
      .ok (decode x.st.cpu x.st.d) (⟨_, x.used⟩ : Traced (St δ) u32) from rfl)]
  rcases h : (decode x.st.cpu x.st.d).function.execT E (excuteOneT E n)
    ⟨{ x.st with d := decode x.st.cpu x.st.d }, x.used⟩ with ⟨a, y⟩ | ⟨e, y⟩
  · rw [bind_ok h]; rfl
  · rw [bind_error h]

lemma execT_no_breakpoint (h : breakpointAt s.cpu s.d = none) (f : Handler) (k k' : FpM δ Unit)
    (l : List u32) : f.execT E k ⟨s, l⟩ = f.execT E k' ⟨s, l⟩ := by
  cases f
  case TICC =>
    show TICC_T k _ = TICC_T k' _
    unfold TICC_T
    rw [bind_ok (show lift getD (⟨s, l⟩ : Traced (St δ) u32) = .ok s.d _ from rfl),
      bind_ok (show lift getCPU (⟨s, l⟩ : Traced (St δ) u32) = .ok s.cpu _ from rfl),
      bind_ok (show lift getD (⟨s, l⟩ : Traced (St δ) u32) = .ok s.d _ from rfl),
      bind_ok (show lift getCPU (⟨s, l⟩ : Traced (St δ) u32) = .ok s.cpu _ from rfl), h]
  all_goals rfl

lemma fregIndices_eq (s : St δ) : fregIndices E s =
    (final (s.instr.function.execT E (lift (throwHost .stack_overflow))
      ⟨{ s with d := s.instr }, []⟩)).used := by
  unfold fregIndices
  rw [used_excuteOneT]
  dsimp only
  cases hb : breakpointAt s.cpu (decode s.cpu s.d) with
  | none =>
    rw [execT_no_breakpoint (s := { s with d := decode s.cpu s.d }) hb _ (excuteOneT E 1)
      (lift (throwHost .stack_overflow)), St.instr, entry_none hb]
  | some bp =>
    have hop : s.d.opcode = TA1 := by
      rw [← decode_opcode s.cpu s.d]; exact breakpointAt_some hb
    have hinstr : s.instr = decode s.cpu (hidden s bp).d := by rw [St.instr, entry_some hb]
    have hcall : (decode s.cpu s.d).function.execT E (excuteOneT E 1)
        ⟨{ s with d := decode s.cpu s.d }, []⟩ = excuteOneT E 1 ⟨hidden s bp, []⟩ := by
      rw [show (decode s.cpu s.d).function = .TICC by rw [decode_TA1 _ hop]]
      show TICC_T _ _ = _
      unfold TICC_T
      rw [bind_ok (show lift getD (⟨{ s with d := decode s.cpu s.d }, []⟩ : Traced (St δ) u32) =
          .ok (decode s.cpu s.d) _ from rfl),
        bind_ok (show lift getCPU (⟨{ s with d := decode s.cpu s.d }, []⟩ : Traced (St δ) u32) =
          .ok s.cpu _ from rfl), hb]
      rfl
    rw [hcall, used_excuteOneT, hinstr]
    rfl

end Call

/-- Every index into `freg` is in bounds, unless the instruction is an `fsmuld`, `fitod` or `fstod`
with an even destination and an operand in register 31. -/
theorem freg_in_bounds_iff (s : St δ) :
    (∀ i ∈ fregIndices E s, i.toNat ≤ 31) ↔ ¬ s.instr.PastEnd := by
  rw [fregIndices_eq]
  exact inBounds_exec (s := { s with d := s.instr }) (fun h => decode_fields h) .stack_overflow

/-- `fitod %f31, %f0` reads the element after the last. -/
theorem fitod_past_end : (32 : u32) ∈ fregIndices (Board.ram []) (St.user 0x81a0191f) := by
  decide +kernel

end SparcEmu
