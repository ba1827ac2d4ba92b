import SparcEmu.Entry
import SparcEmu.Lib.Oblivious
import Mathlib.Data.List.GetD

/-!
Decoding leaves no residue: what an earlier instruction has left in the decode structure does not show
in what the next one does.

Format 3 fills in every field that its functions read, up to `value` and `value1`. These are not read
before they are written, save by the exchanges and the conditional trap, for which the decoder sets
`value`. Formats 1 and 2 leave the operands of the earlier instruction as well, and their functions do
not read them.
-/

namespace SparcEmu

open Lib.Effect Lib.Oblivious

variable {δ α : Type} {E : Board δ}

/-! ### Register fields -/

lemma toNat_and_le (x m : u32) : (x &&& m).toNat ≤ m.toNat := by
  rw [BitVec.toNat_and]
  exact Nat.and_le_right

lemma reg_block {r : u32} (hr : r.toNat < 32) :
    r >>> 3 = 0 ∨ r >>> 3 = 1 ∨ r >>> 3 = 2 ∨ r >>> 3 = 3 := by
  bv_omega

lemma read_reg_old (c : CPU) {r : u32} (hr : r.toNat < 32) (a b : u32) :
    c.read_reg r a = c.read_reg r b := by
  have hblock := reg_block hr
  unfold CPU.read_reg
  split_ifs with _ h0 h1 h2 h3
  · rfl
  · rfl
  · rfl
  · rfl
  · rfl
  · rcases hblock with h | h | h | h
    exacts [absurd h h0, absurd h h1, absurd h h2, absurd h h3]

lemma read_reg_field (c : CPU) (x a b : u32) :
    c.read_reg (x &&& 0x1f) a = c.read_reg (x &&& 0x1f) b :=
  read_reg_old c (Nat.lt_of_le_of_lt (toNat_and_le x 0x1f) (by decide)) a b

/-! ### Two ends -/

/-- The two runs end in the same way, with the same processor, MMU and memory. -/
def SameMachine : EStateM.Result HostError (St δ) Unit → EStateM.Result HostError (St δ) Unit → Prop
  | .ok _ s, .ok _ t => s.cpu = t.cpu ∧ s.mmu = t.mmu ∧ s.mem = t.mem
  | .error e s, .error e' t => e = e' ∧ s.cpu = t.cpu ∧ s.mmu = t.mmu ∧ s.mem = t.mem
  | _, _ => False

lemma SameMachine.symm {r r' : EStateM.Result HostError (St δ) Unit} (h : SameMachine r r') :
    SameMachine r' r := by
  cases r with
  | ok a s =>
    cases r' with
    | ok b t => exact ⟨h.1.symm, h.2.1.symm, h.2.2.symm⟩
    | error e t => exact h
  | error e s =>
    cases r' with
    | ok b t => exact h
    | error e' t => exact ⟨h.1.symm, h.2.1.symm, h.2.2.1.symm, h.2.2.2.symm⟩

/-! ### Values of another instruction -/

/-- The second value of another instruction. -/
def DecodeStruct.refill1 (x d : DecodeStruct) : DecodeStruct := { d with value1 := x.value1 }

/-- Both values of another instruction, unless the instruction has a value for its register. -/
def DecodeStruct.refill (x d : DecodeStruct) : DecodeStruct :=
  { d with value := if d.wb_type = .WRITEBACKREG then d.value else x.value, value1 := x.value1 }

/-- A change of the decode structure that the steps of a function do not see. -/
class Unseen (g : DecodeStruct → DecodeStruct) : Prop where
  opcode : ∀ d, (g d).opcode = d.opcode
  next : ∀ d, (g d).next = g d.next

instance (x : DecodeStruct) : Unseen x.refill1 := ⟨fun _ => rfl, fun _ => rfl⟩

instance (x : DecodeStruct) : Unseen x.refill := ⟨fun _ => rfl, fun _ => rfl⟩

/-- The program does not notice the change of the decode structure. -/
def Ignores (g : DecodeStruct → DecodeStruct) (m : M δ α) : Prop :=
  Blind (fun s : St δ => { s with d := g s.d }) m

/-! ### Rules -/

section Rules

variable {β : Type} {g : DecodeStruct → DecodeStruct}

lemma Ignores.bind {m : M δ α} {k : α → M δ β} (hm : Ignores g m) (hk : ∀ a, Ignores g (k a)) :
    Ignores g (m >>= k) := Blind.bind hm hk

lemma Ignores.ite {c : Prop} [Decidable c] {m m' : M δ α} (h : Ignores g m) (h' : Ignores g m') :
    Ignores g (if c then m else m') := Blind.ite h h'

lemma ignores_pure (a : α) : Ignores g (pure a : M δ α) := Blind.pure a

lemma ignores_getD {k : DecodeStruct → M δ α} (hg : ∀ d, k (g d) = k d) (hk : ∀ d, Ignores g (k d)) :
    Ignores g (getD >>= k) :=
  Blind.read (f := fun s : St δ => s.d) (fun s => hg s.d) hk

lemma ignores_getCPU {k : CPU → M δ α} (hk : ∀ c, Ignores g (k c)) : Ignores g (getCPU >>= k) :=
  Blind.read (f := fun s : St δ => s.cpu) (fun _ => rfl) hk

lemma ignores_noFault {k : Bool → M δ α} (hk : ∀ nf, Ignores g (k nf)) : Ignores g (noFault >>= k) :=
  Blind.read (f := fun s : St δ => s.mmu.get_no_fault) (fun _ => rfl) hk

lemma ignores_modD {f : DecodeStruct → DecodeStruct} (hf : ∀ d, f (g d) = g (f d)) :
    Ignores g (modD f : M δ Unit) := by
  intro s
  show EStateM.Result.ok () { s with d := f (g s.d) } = .ok () { s with d := g (f s.d) }
  rw [hf]

lemma ignores_modCPU (f : CPU → CPU) : Ignores g (modCPU f : M δ Unit) := fun _ => rfl

lemma ignores_throw (e : HostError) : Ignores g (throwHost e : M δ α) := fun _ => rfl

lemma ignores_onMMU (m : MmuM δ α) : Ignores g (onMMU m) := by
  intro s
  unfold onMMU
  dsimp only
  cases m ⟨s.mmu, s.mem⟩ <;> rfl

lemma ignores_memAccess (rw : Intent) (size : AccessSize) (va v : u32) :
    Ignores g (memAccess E rw size va v) := ignores_getCPU fun _ => ignores_onMMU _

lemma ignores_memAccess2 (rw : Intent) (va v₀ v₁ : u32) : Ignores g (memAccess2 E rw va v₀ v₁) :=
  (ignores_memAccess _ _ _ _).bind fun _ => (ignores_memAccess _ _ _ _).bind fun _ => ignores_pure _

variable [Unseen g]

lemma ignores_advance : Ignores g (advance : M δ Unit) := ignores_modD Unseen.next

lemma ignores_finish (f : CPU → CPU) : Ignores g (modCPU f >>= fun _ => advance : M δ Unit) :=
  (ignores_modCPU f).bind fun _ => ignores_advance

lemma ignores_trap (n : u32) : Ignores g (trap n : M δ Unit) := by
  refine ignores_getCPU fun c => ignores_getD (fun d => ?_) fun d => ?_
  · simp only [Unseen.opcode]
  · exact .ite (ignores_modCPU _) ((ignores_modCPU _).bind fun _ => ignores_throw _)

lemma ignores_UNIMP : Ignores g (UNIMP : M δ Unit) := by
  refine ignores_getD (fun d => ?_) fun d => ignores_modCPU _
  simp only [Unseen.opcode]

lemma ignores_endAccess (ret : cint) : Ignores g (endAccess ret : M δ Unit) :=
  ignores_noFault fun _ => .ite (ignores_trap _) ignores_advance

lemma ignores_endAtomic (r : MMU.AtomicResult) (rd : u32) : Ignores g (endAtomic r rd : M δ Unit) :=
  ignores_noFault fun _ => .ite (ignores_trap _) (ignores_finish _)

lemma ignores_invalidFpRegister : Ignores g (invalidFpRegister : M δ Unit) :=
  (ignores_modCPU _).bind fun _ => ignores_trap _

end Rules

/-! ### The functions of format 2 -/

/-- The operands of another instruction in the fields that formats 1 and 2 leave alone. -/
def DecodeStruct.stale (d x : DecodeStruct) : DecodeStruct :=
  { d with rs1 := x.rs1, rs1_value := x.rs1_value, ev := x.ev, i := x.i }

instance (x : DecodeStruct) : Unseen fun d => (x.refill d).stale x := ⟨fun _ => rfl, fun _ => rfl⟩

lemma branch_stale (d x : DecodeStruct) (branch annul : Bool) :
    ((x.refill d).stale x).branch branch annul = (x.refill (d.branch branch annul)).stale x := by
  cases annul <;> rfl

lemma format2_functions (n : ℕ) :
    format2.getD n .UNIMP ∈ [Handler.UNIMP, .BICC, .SETHI, .FBFCC_impl] := by
  rcases n with _ | _ | _ | _ | _ | _ | _ | _ | n <;> simp [format2]

lemma ignores_format2 (x : DecodeStruct) {f : Handler}
    (hf : f ∈ [Handler.UNIMP, .BICC, .SETHI, .FBFCC_impl]) (k : M δ Unit) :
    Ignores (fun d => (x.refill d).stale x) (f.exec E k) := by
  simp only [List.mem_cons, List.not_mem_nil, or_false] at hf
  rcases hf with rfl | rfl | rfl | rfl
  · exact ignores_UNIMP
  · show Ignores _ (BICC : M δ Unit)
    exact ignores_modD fun d => branch_stale d x _ _
  · show Ignores _ (SETHI : M δ Unit)
    refine ignores_modD fun d => ?_
    show (if d.opcode = NOP then (x.refill d).stale x
      else ((x.refill d).stale x).wb (d.imm_disp_rs2 <<< 10)).next = _
    split_ifs <;> rfl
  · show Ignores _ (FBFCC_impl : M δ Unit)
    exact ignores_getD (fun _ => rfl) fun _ => ignores_getCPU fun _ =>
      .ite (ignores_trap _) (ignores_modD fun d => branch_stale d x _ _)

def decoded (E : Board δ) (d : DecodeStruct) (s : St δ) : EStateM.Result HostError (St δ) Unit :=
  match d.function.exec E (throwHost .stack_overflow) { s with d := d } with
  | .ok _ t => .ok () { t with cpu := t.cpu.write_back t.d }
  | .error e t => .error e t

/-! ### Functions that read no value -/

variable {g : DecodeStruct → DecodeStruct}

section Functions

variable (x : DecodeStruct)

lemma ignores_JMPL : Ignores x.refill (JMPL : M δ Unit) :=
  ignores_getD (fun _ => rfl) fun _ =>
    .ite (ignores_trap _) (ignores_modD fun _ => rfl)

lemma ignores_RETT : Ignores x.refill (RETT : M δ Unit) :=
  ignores_getD (fun _ => rfl) fun _ => ignores_getCPU fun _ =>
    .ite (ignores_trap _) <| .ite (ignores_trap _) <| .ite (ignores_trap _) <|
      .ite (ignores_trap _) <| ignores_modD fun _ => rfl

lemma ignores_RDY : Ignores x.refill (RDY : M δ Unit) :=
  ignores_getD (fun _ => rfl) fun _ => ignores_getCPU fun _ =>
    .ite ignores_advance <| .ite (ignores_modD fun _ => rfl) <| .ite (ignores_modD fun _ => rfl) <|
      ignores_UNIMP.bind fun _ => ignores_advance

lemma ignores_rdPriv {value : CPU → DecodeStruct → u32} (hv : ∀ c d, value c (x.refill d) = value c d) :
    Ignores x.refill (rdPriv value : M δ Unit) := by
  refine ignores_getD (fun _ => rfl) fun _ => ignores_getCPU fun c =>
    .ite (ignores_modD fun d => ?_) (ignores_trap _)
  rw [hv]
  rfl

lemma ignores_enter_powerdown : Ignores x.refill (enter_powerdown E) :=
  ignores_getCPU fun _ => .ite (ignores_modCPU _) ((ignores_modCPU _).bind fun _ => ignores_throw _)

lemma ignores_WRY : Ignores x.refill (WRY E) :=
  ignores_getD (fun _ => rfl) fun _ => ignores_getCPU fun _ => .ite (ignores_finish _) <|
    .ite (.ite ((ignores_enter_powerdown x).bind fun _ => ignores_advance) ignores_advance) <|
      ignores_UNIMP.bind fun _ => ignores_advance

lemma ignores_WRPSR : Ignores x.refill (WRPSR : M δ Unit) :=
  ignores_getD (fun _ => rfl) fun _ => .ite (ignores_trap _) <|
    .ite (ignores_modD fun _ => rfl) (ignores_trap _)

lemma ignores_wrPriv (put : CPU → u32 → CPU) : Ignores x.refill (wrPriv put : M δ Unit) :=
  ignores_getD (fun _ => rfl) fun _ =>
    .ite (ignores_finish _) (ignores_trap _)

lemma ignores_rotate {new_cwp : DecodeStruct → u32} (hn : ∀ d, new_cwp (x.refill d) = new_cwp d)
    (n : u32) : Ignores x.refill (rotate new_cwp n : M δ Unit) := by
  refine ignores_getD (fun d => ?_) fun _ => ignores_getCPU fun _ =>
    .ite (ignores_trap _) (ignores_modD fun d => ?_)
  · rw [hn]
  · rw [hn]
    rfl

lemma ignores_SLL : Ignores x.refill (SLL : M δ Unit) := ignores_modD fun _ => rfl

lemma ignores_SRL : Ignores x.refill (SRL : M δ Unit) := ignores_modD fun _ => rfl

lemma ignores_SRA : Ignores x.refill (SRA E) := ignores_modD fun _ => rfl

lemma ignores_MULSCC : Ignores x.refill (MULSCC : M δ Unit) :=
  ignores_getD (fun _ => rfl) fun _ => ignores_getCPU fun _ =>
    (ignores_modCPU _).bind fun _ => ignores_modD fun _ => rfl

lemma ignores_MUL : Ignores x.refill (MUL : M δ Unit) :=
  ignores_getD (fun _ => rfl) fun _ => (ignores_modCPU _).bind fun _ => ignores_modD fun _ => rfl

lemma ignores_DIV : Ignores x.refill (DIV : M δ Unit) := by
  refine ignores_getD (fun _ => rfl) fun d => ignores_getCPU fun c =>
    .ite (ignores_trap _) ?_
  cases divide c d with
  | error e => exact ignores_throw e
  | ok r => exact (ignores_modCPU _).bind fun _ => ignores_modD fun _ => rfl

lemma ignores_ADD : Ignores x.refill (ADD : M δ Unit) :=
  ignores_getD (fun _ => rfl) fun _ => .ite (ignores_modD fun _ => rfl) <|
    .ite (ignores_trap _) (ignores_modD fun _ => rfl)

lemma ignores_AND : Ignores x.refill (AND : M δ Unit) := by
  refine ignores_modD fun d => ?_
  by_cases h : d.op_2_3 &&& 0x14 = 0
  · have h' : (x.refill d).op_2_3 &&& 0x14 = 0 := h
    simp only [if_pos h, if_pos h']
    rfl
  · have h' : ¬ (x.refill d).op_2_3 &&& 0x14 = 0 := h
    simp only [if_neg h, if_neg h']
    rfl

/-! ### Accesses to memory -/

lemma ignores_loadReg (size : AccessSize) (ext : u32 → u32) (va rd : u32) :
    Ignores g (loadReg E size ext va rd) :=
  (ignores_memAccess _ _ _ _).bind fun _ =>
    .ite ((ignores_modCPU _).bind fun _ => ignores_pure _) (ignores_pure _)

lemma ignores_load64 (va rd : u32) : Ignores g (load64 E va rd) :=
  (ignores_memAccess2 _ _ _ _).bind fun _ =>
    .ite ((ignores_modCPU _).bind fun _ => ignores_pure _) (ignores_pure _)

lemma ignores_storeReg (size : AccessSize) (va rd : u32) : Ignores g (storeReg E size va rd) :=
  ignores_getCPU fun _ => (ignores_memAccess _ _ _ _).bind fun _ => ignores_pure _

lemma ignores_store64 (va rd : u32) : Ignores g (store64 E va rd) :=
  ignores_getCPU fun _ => (ignores_memAccess2 _ _ _ _).bind fun _ => ignores_pure _

section Access

variable {access : DecodeStruct → M δ cint} (ha : ∀ d, access (x.refill d) = access d)
  (hi : ∀ d, Ignores x.refill (access d))
include ha hi

lemma ignores_dataAccess (align : u32) : Ignores x.refill (dataAccess align access) := by
  refine ignores_getD (fun d => ?_) fun d => .ite (ignores_trap _) <|
    (hi d).bind fun _ => ignores_endAccess _
  show (if d.ev &&& align ≠ 0 then _ else access (x.refill d) >>= endAccess) = _
  rw [ha]

lemma ignores_dataAccess64 : Ignores x.refill (dataAccess64 access) :=
  ignores_getD (fun _ => rfl) fun _ =>
    .ite (ignores_trap _) (ignores_dataAccess x ha hi 7)

end Access

lemma ignores_fpAccess {access : DecodeStruct → M δ Unit} (ha : ∀ d, access (x.refill d) = access d)
    (hi : ∀ d, Ignores x.refill (access d)) (align : u32) (pair : Bool) :
    Ignores x.refill (fpAccess align pair access) := by
  refine ignores_getD (fun d => ?_) fun d => .ite (ignores_trap _) <| .ite (ignores_trap _) <|
    .ite ignores_invalidFpRegister (hi d)
  show (if !Psr.ef d.psr then _ else if d.ev &&& align ≠ 0 then _
    else if pair ∧ d.rd &&& 1 ≠ 0 then _ else access (x.refill d)) = _
  rw [ha]

lemma ignores_LDF : Ignores x.refill (LDF_impl E) :=
  ignores_fpAccess x (fun _ => rfl) (fun _ => (ignores_memAccess _ _ _ _).bind fun _ =>
    ignores_noFault fun _ => .ite (ignores_trap _) (ignores_finish _)) 3 false

lemma ignores_LDDF : Ignores x.refill (LDDF_impl E) :=
  ignores_fpAccess x (fun _ => rfl) (fun _ => (ignores_memAccess2 _ _ _ _).bind fun _ =>
    ignores_noFault fun _ => .ite (ignores_trap _) (ignores_finish _)) 7 true

lemma ignores_LDFSR : Ignores x.refill (LDFSR_impl E) :=
  ignores_fpAccess x (fun _ => rfl) (fun _ => (ignores_onMMU _).bind fun _ =>
    ignores_finish _) 3 false

lemma ignores_STF : Ignores x.refill (STF_impl E) :=
  ignores_fpAccess x (fun _ => rfl) (fun _ => ignores_getCPU fun _ =>
    (ignores_memAccess _ _ _ _).bind fun _ => ignores_endAccess _) 3 false

lemma ignores_STDF : Ignores x.refill (STDF_impl E) :=
  ignores_fpAccess x (fun _ => rfl) (fun _ => ignores_getCPU fun _ =>
    (ignores_memAccess2 _ _ _ _).bind fun _ => ignores_noFault fun _ =>
      .ite (ignores_trap _) ignores_advance) 7 true

lemma ignores_STFSR : Ignores x.refill (STFSR_impl E) :=
  ignores_fpAccess x (fun _ => rfl) (fun _ => ignores_getCPU fun _ =>
    (ignores_onMMU _).bind fun _ => ignores_advance) 3 false

lemma ignores_LDSTUB : Ignores x.refill (LDSTUB E) := by
  refine ignores_getD (fun _ => rfl) fun d => (ignores_onMMU _).bind fun old => ?_
  cases old with
  | none => exact ignores_trap _
  | some v => exact ignores_finish _

lemma ignores_CASA : Ignores x.refill (CASA E) :=
  ignores_getD (fun _ => rfl) fun _ => ignores_getCPU fun _ =>
    .ite (ignores_trap _) <| .ite (ignores_trap _) <|
      .ite ((ignores_onMMU _).bind fun _ => ignores_endAtomic _ _) <| ignores_throw _

lemma ignores_readMMUReg (a : u32) : Ignores g (readMMUReg a : M δ u32) :=
  .ite (ignores_onMMU _) <| .ite (ignores_onMMU _) <| .ite (ignores_onMMU _) <|
    .ite (ignores_onMMU _) <| .ite (ignores_onMMU _) <| ignores_throw _

lemma ignores_readCacheReg (a : u32) : Ignores g (readCacheReg a : M δ u32) :=
  .ite (ignores_onMMU _) <| .ite (ignores_onMMU _) <| .ite (ignores_onMMU _) <| ignores_throw _

lemma ignores_LDA : Ignores x.refill (LDA_impl E) := by
  have hend : ∀ v, Ignores x.refill (modD fun d => (d.wb v).next : M δ Unit) :=
    fun _ => ignores_modD fun _ => rfl
  exact ignores_getD (fun _ => rfl) fun _ => ignores_getCPU fun _ =>
    .ite (ignores_trap _) <| .ite (ignores_trap _) <|
      .ite (ignores_throw _) <| .ite ((ignores_readMMUReg _).bind hend) <|
        .ite ((ignores_readCacheReg _).bind hend) <| .ite ((ignores_onMMU _).bind hend) <|
          (ignores_throw _).bind hend

lemma ignores_writeMMUReg (a v : u32) : Ignores g (writeMMUReg a v : M δ Unit) :=
  .ite (ignores_onMMU _) <| .ite (ignores_onMMU _) <| .ite (ignores_onMMU _) <| ignores_throw _

lemma ignores_writeCacheReg (a v : u32) : Ignores g (writeCacheReg a v : M δ Unit) :=
  .ite (ignores_onMMU _) <| .ite (ignores_onMMU _) <| .ite (ignores_onMMU _) <| ignores_throw _

lemma ignores_STA : Ignores x.refill (STA_impl E) := by
  have hend : ∀ _ : Unit, Ignores x.refill (advance : M δ Unit) := fun _ => ignores_advance
  exact ignores_getD (fun _ => rfl) fun _ => ignores_getCPU fun _ =>
    .ite (ignores_trap _) <| .ite (ignores_trap _) <|
      .ite (ignores_trap _) <| .ite ((ignores_writeMMUReg _ _).bind hend) <|
        .ite ((ignores_writeCacheReg _ _).bind hend) <| .ite (hend ()) <|
          .ite ((ignores_onMMU _).bind hend) <| .ite ((ignores_onMMU _).bind hend) <|
            (ignores_throw _).bind hend

/-! ### Floating point -/

lemma ignores_FOP1 : Ignores x.refill (FOP1_impl E) := by
  refine ignores_getD (fun _ => rfl) fun d => ignores_getCPU fun c =>
    .ite (ignores_trap _) <| .ite (.ite ignores_invalidFpRegister (ignores_finish _)) ?_
  split
  · exact ignores_finish _
  · split
    · exact .ite ignores_invalidFpRegister (ignores_finish _)
    · exact ignores_trap _

lemma ignores_compare (opf quiet signal fcc : u32) (nan : Bool) :
    Ignores x.refill (compare opf quiet signal fcc nan : M δ Unit) := by
  have hset : Ignores x.refill (do
      modCPU fun c => { c with fsr := (c.fsr &&& ~~~(3#32 <<< 10)) ||| ((fcc &&& 3) <<< 10) }
      advance : M δ Unit) := ignores_finish _
  exact .ite hset <| .ite (.ite ((ignores_modCPU _).bind fun _ => (ignores_modCPU _).bind fun _ =>
      ignores_trap _) hset) <|
    (ignores_modCPU _).bind fun _ => (ignores_trap _).bind fun _ => ignores_throw _

lemma ignores_FOP2 : Ignores x.refill (FOP2_impl E) :=
  ignores_getD (fun _ => rfl) fun _ => ignores_getCPU fun _ =>
    .ite (ignores_trap _) <| .ite (.ite ignores_invalidFpRegister (ignores_compare x _ _ _ _ _))
      (ignores_compare x _ _ _ _ _)

def Handler.readsValue (f : Handler) : Prop := f = .SWAP ∨ f = .SWAPA ∨ f = .TICC

theorem ignores_format3 {f : Handler} (hm : f ∈ Handler.UNIMP :: format3) (hf : ¬ f.readsValue)
    (k : M δ Unit) : Ignores x.refill (f.exec E k) := by
  cases f with
  | CALL | BICC | SETHI | FBFCC_impl => exact absurd hm (by decide)
  | UNIMP => exact ignores_UNIMP
  | SLL => exact ignores_SLL x
  | SRL => exact ignores_SRL x
  | SRA => exact ignores_SRA x
  | RDY => exact ignores_RDY x
  | RDPSR | RDWIM | RDTBR => exact ignores_rdPriv x fun _ _ => rfl
  | WRY => exact ignores_WRY x
  | WRPSR => exact ignores_WRPSR x
  | WRWIM => exact ignores_wrPriv x fun c v => { c with wim := v &&& 0xff }
  | WRTBR => exact ignores_wrPriv x fun c v => { c with tbr := v }
  | JMPL => exact ignores_JMPL x
  | RETT => exact ignores_RETT x
  | SAVE | RESTORE => exact ignores_rotate x (fun _ => rfl) _
  | FLUSH => exact ignores_advance
  | MULSCC => exact ignores_MULSCC x
  | LD | LDUB | LDUH | LDSB | LDSH =>
    exact ignores_dataAccess x (fun _ => rfl) (fun _ => ignores_loadReg _ _ _ _) _
  | LDD => exact ignores_dataAccess64 x (fun _ => rfl) fun _ => ignores_load64 _ _
  | ST | STB | STH => exact ignores_dataAccess x (fun _ => rfl) (fun _ => ignores_storeReg _ _ _) _
  | STD => exact ignores_dataAccess64 x (fun _ => rfl) fun _ => ignores_store64 _ _
  | LDSTUB => exact ignores_LDSTUB x
  | MUL => exact ignores_MUL x
  | DIV => exact ignores_DIV x
  | ADD => exact ignores_ADD x
  | AND => exact ignores_AND x
  | STA_impl => exact ignores_STA x
  | LDA_impl => exact ignores_LDA x
  | CASA => exact ignores_CASA x
  | LDF_impl => exact ignores_LDF x
  | LDDF_impl => exact ignores_LDDF x
  | LDFSR_impl => exact ignores_LDFSR x
  | STF_impl => exact ignores_STF x
  | STDF_impl => exact ignores_STDF x
  | STFSR_impl => exact ignores_STFSR x
  | STDFQ_impl => exact ignores_throw _
  | FOP1_impl => exact ignores_FOP1 x
  | FOP2_impl => exact ignores_FOP2 x
  | SWAP | SWAPA | TICC => exact absurd (by simp [Handler.readsValue]) hf

end Functions

/-! ### Functions that read a value -/

section Readers

variable (x : DecodeStruct)

lemma ignores_swapWord : Ignores x.refill1 (swapWord E) :=
  ignores_getD (fun _ => rfl) fun _ => .ite (ignores_trap _) <|
    (ignores_modCPU _).bind fun _ => (ignores_onMMU _).bind fun _ => ignores_endAtomic _ _

lemma ignores_SWAPA : Ignores x.refill1 (SWAPA E) :=
  ignores_getD (fun _ => rfl) fun _ =>
    .ite (.ite (ignores_swapWord x) (ignores_trap _)) ignores_UNIMP

/-- `TICC` with the decode structure and the processor that it has read. -/
def ticcBody (e : HostError) (c : CPU) (d : DecodeStruct) (n : u32) : M δ Unit :=
  match breakpointAt c d with
  | some bp_i => do
    modD fun d => { d with opcode := bp_i }
    throwHost e
  | none =>
    if test_cc d then trap n
    else advance

lemma ticc_eq (e : HostError) (s : St δ) :
    TICC (throwHost e) s = ticcBody e s.cpu s.d (ticcTrap s.d) s := rfl

lemma ignores_ticcBody [Unseen g] (ho : ∀ d o, { g d with opcode := o } = g { d with opcode := o })
    (e : HostError) (c : CPU) (d : DecodeStruct) (n : u32) :
    Ignores g (ticcBody e c d n : M δ Unit) := by
  unfold ticcBody
  split
  · exact (ignores_modD fun d => ho d _).bind fun _ => ignores_throw e
  · exact .ite (ignores_trap n) ignores_advance

lemma ignores_TICC (e : HostError) : Ignores x.refill1 (TICC (throwHost e) : M δ Unit) :=
  fun s => ignores_ticcBody (fun _ _ => rfl) e s.cpu s.d (ticcTrap s.d) s

lemma ticc_immediate (e : HostError) {s : St δ} (hi : s.d.i ≠ 0) :
    TICC (throwHost e) { s with d := x.refill s.d } =
      after (fun t => { t with d := x.refill t.d }) (TICC (throwHost e) s) := by
  have hn : ticcTrap (x.refill s.d) = ticcTrap s.d := by
    unfold ticcTrap
    rw [if_pos hi, if_pos (show (x.refill s.d).i ≠ 0 from hi)]
    rfl
  rw [ticc_eq, ticc_eq]
  show ticcBody e s.cpu s.d (ticcTrap (x.refill s.d)) _ = _
  rw [hn]
  exact ignores_ticcBody (fun _ _ => rfl) e s.cpu s.d (ticcTrap s.d) s

end Readers

/-! ### What the decoder sets -/

section Decoder

variable (c : CPU) {d d₁ d₂ : DecodeStruct}

lemma format3_mem (n : Nat) : format3.getD n .UNIMP ∈ Handler.UNIMP :: format3 := by
  rw [List.getD_eq_getElem?_getD]
  cases h : format3[n]? with
  | none => exact .head _
  | some f => exact .tail _ (List.mem_of_getElem? h)

lemma format3_TICC (n : Nat) (h : format3.getD n .UNIMP = .TICC) : n = 58 := by
  rcases Nat.lt_or_ge n 128 with hn | hn
  · have : ∀ n : Fin 128, format3.getD n .UNIMP = .TICC → n.val = 58 := by decide +kernel
    exact this ⟨n, hn⟩ h
  · rw [List.getD_eq_default _ _ hn] at h
    cases h

lemma format3_swap (n : Nat) (h : format3.getD n .UNIMP = .SWAP ∨ format3.getD n .UNIMP = .SWAPA) :
    64 ≤ n := by
  by_contra hn
  have : ∀ n : Fin 64, ¬ (format3.getD n .UNIMP = .SWAP ∨ format3.getD n .UNIMP = .SWAPA) := by
    decide +kernel
  exact this ⟨n, by omega⟩ h

lemma decode_eq_format3 (h1 : ¬ (d.opcode >>> 30) &&& 3 = 1) (h0 : ¬ (d.opcode >>> 30) &&& 3 = 0) :
    decode c d = decodeOperands c (decodeFields
      { d with pc := c.pc, npc := c.npc, psr := c.psr, wb_type := .NO_WRITEBACK }) := by
  unfold decode
  dsimp only
  rw [if_neg h1, if_neg h0]

lemma decode_refill (ho : d₁.opcode = d₂.opcode) (h1 : ¬ (d₁.opcode >>> 30) &&& 3 = 1)
    (h0 : ¬ (d₁.opcode >>> 30) &&& 3 = 0) : decode c d₂ = (decode c d₂).refill (decode c d₁) := by
  rw [decode_eq_format3 c h1 h0, decode_eq_format3 c (ho ▸ h1) (ho ▸ h0)]
  unfold DecodeStruct.refill decodeOperands decodeFields
  dsimp only
  rw [ho, read_reg_field c (d₂.opcode >>> 14) d₁.rs1_value d₂.rs1_value,
    read_reg_field c (d₂.opcode &&& 0x1fff) d₁.ev d₂.ev]
  rfl

lemma decode_value (ho : d₁.opcode = d₂.opcode) (h1 : ¬ (d₁.opcode >>> 30) &&& 3 = 1)
    (h0 : ¬ (d₁.opcode >>> 30) &&& 3 = 0)
    (hv : (d₁.opcode >>> 30) &&& 1 ≠ 0 ∨ (formatIdx d₁.opcode = TICC_IDX ∧ (decode c d₁).i = 0)) :
    (decode c d₁).value = (decode c d₂).value := by
  rw [decode_eq_format3 c h1 h0] at hv ⊢
  rw [decode_eq_format3 c (ho ▸ h1) (ho ▸ h0)]
  unfold decodeOperands decodeFields at hv ⊢
  dsimp only at hv ⊢
  rw [← ho]
  have hrd : (d₁.opcode >>> 25 &&& 0x1f &&& ~~~1#32).toNat < 32 :=
    Nat.lt_of_le_of_lt (by rw [BitVec.toNat_and]; exact Nat.and_le_left)
      (Nat.lt_of_le_of_lt (toNat_and_le (d₁.opcode >>> 25) 0x1f) (by decide))
  split_ifs with hdbl hticc hmem
  · exact read_reg_old c hrd _ _
  · exact read_reg_field c _ _ _
  · exact read_reg_field c _ _ _
  · exact absurd hv (by simp only [hmem, hticc, or_self, not_false_eq_true])

lemma function_format3 (h1 : ¬ (d.opcode >>> 30) &&& 3 = 1) (h0 : ¬ (d.opcode >>> 30) &&& 3 = 0) :
    (decode c d).function = format3.getD (formatIdx d.opcode).toNat .UNIMP := by
  rw [decode_eq_format3 c h1 h0]
  rfl

lemma format_bit {o : u32} (h : 64 ≤ (formatIdx o).toNat) : (o >>> 30) &&& 1 ≠ 0 := by
  intro hz
  have hidx : formatIdx o = (o >>> 19) &&& 0x3f := by
    unfold formatIdx
    rw [BitVec.and_assoc, show (3 : u32) &&& 1 = 1 from rfl, hz]
    simp
  rw [hidx] at h
  have := toNat_and_le (o >>> 19) 0x3f
  have h63 : (0x3f : u32).toNat = 63 := rfl
  omega

end Decoder

/-! ### One instruction -/

section One

variable {d : DecodeStruct} {g : DecodeStruct → DecodeStruct}

lemma write_back_refill (c : CPU) (x d : DecodeStruct) : c.write_back (x.refill d) = c.write_back d := by
  unfold CPU.write_back
  by_cases h : d.wb_type = .WRITEBACKREG
  · have h' : (x.refill d).wb_type = .WRITEBACKREG := h
    have hv : (x.refill d).value = d.value := if_pos h
    dsimp only
    rw [if_pos h, if_pos h', hv]
    rfl
  · have h' : ¬ (x.refill d).wb_type = .WRITEBACKREG := h
    dsimp only
    rw [if_neg h, if_neg h']
    rfl

lemma decoded_unnoticed (hw : ∀ (c : CPU) d, c.write_back (g d) = c.write_back d)
    (hf : (g d).function = d.function) (s : St δ)
    (hx : d.function.exec E (throwHost .stack_overflow) { s with d := g d } =
      after (fun t => { t with d := g t.d })
        (d.function.exec E (throwHost .stack_overflow) { s with d := d })) :
    SameMachine (decoded E (g d) s) (decoded E d s) := by
  unfold decoded
  rw [hf, hx]
  cases d.function.exec E (throwHost .stack_overflow) { s with d := d } with
  | ok a t => exact ⟨hw _ _, rfl, rfl⟩
  | error e t => exact ⟨rfl, rfl, rfl, rfl⟩

lemma refill_eq_refill1 {x : DecodeStruct} (hw : d.wb_type = .NO_WRITEBACK) (hv : d.value = x.value) :
    x.refill d = x.refill1 d := by
  unfold DecodeStruct.refill DecodeStruct.refill1
  rw [hw, hv]
  rfl

lemma decode_wb_type (c : CPU) (d : DecodeStruct) : (decode c d).wb_type = .NO_WRITEBACK := by
  unfold decode
  dsimp only
  split_ifs <;> rfl

variable {d₁ d₂ : DecodeStruct}

lemma decoded_format3 (c : CPU) (ho : d₁.opcode = d₂.opcode) (h1 : ¬ (d₁.opcode >>> 30) &&& 3 = 1)
    (h0 : ¬ (d₁.opcode >>> 30) &&& 3 = 0) (s : St δ) :
    SameMachine (decoded E (decode c d₂) s) (decoded E (decode c d₁) s) := by
  set x := decode c d₂ with hx
  have hd : x = x.refill (decode c d₁) := decode_refill c ho h1 h0
  have hfun := function_format3 c h1 h0
  -- where the decoder has set the value, only the second one differs
  have hone (hv : (d₁.opcode >>> 30) &&& 1 ≠ 0 ∨
      (formatIdx d₁.opcode = TICC_IDX ∧ (decode c d₁).i = 0)) : x = x.refill1 (decode c d₁) :=
    hd.trans (refill_eq_refill1 (decode_wb_type c d₁) (decode_value c ho h1 h0 hv))
  by_cases hr : (decode c d₁).function.readsValue
  · rcases hr with hf | hf | hf
    · rw [hone (Or.inl (format_bit (format3_swap _ (Or.inl (hfun ▸ hf)))))]
      refine decoded_unnoticed (g := x.refill1) (fun _ _ => rfl) rfl s ?_
      rw [hf]
      exact ignores_swapWord x { s with d := decode c d₁ }
    · rw [hone (Or.inl (format_bit (format3_swap _ (Or.inr (hfun ▸ hf)))))]
      refine decoded_unnoticed (g := x.refill1) (fun _ _ => rfl) rfl s ?_
      rw [hf]
      exact ignores_SWAPA x { s with d := decode c d₁ }
    · by_cases hi : (decode c d₁).i = 0
      · have hidx : formatIdx d₁.opcode = TICC_IDX :=
          BitVec.eq_of_toNat_eq (format3_TICC _ (hfun ▸ hf))
        rw [hone (Or.inr ⟨hidx, hi⟩)]
        refine decoded_unnoticed (g := x.refill1) (fun _ _ => rfl) rfl s ?_
        rw [hf]
        exact ignores_TICC x _ { s with d := decode c d₁ }
      · rw [hd]
        refine decoded_unnoticed (fun _ _ => write_back_refill _ _ _) rfl s ?_
        rw [hf]
        exact ticc_immediate x _ (s := { s with d := decode c d₁ }) hi
  · have hm : (decode c d₁).function ∈ Handler.UNIMP :: format3 := hfun ▸ format3_mem _
    rw [hd]
    exact decoded_unnoticed (fun _ _ => write_back_refill _ _ _) rfl s
      (ignores_format3 x hm hr _ { s with d := decode c d₁ })

lemma decoded_format2 (c : CPU) (ho : d₁.opcode = d₂.opcode) (h1 : ¬ (d₁.opcode >>> 30) &&& 3 = 1)
    (h0 : (d₁.opcode >>> 30) &&& 3 = 0) (s : St δ) :
    SameMachine (decoded E (decode c d₂) s) (decoded E (decode c d₁) s) := by
  have hf : (decode c d₁).function ∈ [Handler.UNIMP, .BICC, .SETHI, .FBFCC_impl] := by
    simp only [decode, if_neg h1, if_pos h0, decodeFormat2]
    exact format2_functions _
  set x := decode c d₂ with hx
  have hd : x = (x.refill (decode c d₁)).stale x := by
    rw [hx]
    unfold decode
    dsimp only
    rw [← ho, if_neg h1, if_neg h1, if_pos h0, if_pos h0]
    rfl
  rw [hd]
  exact decoded_unnoticed (g := fun d => (x.refill d).stale x)
    (fun c d => write_back_refill c x d) rfl s (ignores_format2 x hf _ { s with d := decode c d₁ })

lemma decoded_format1 (c : CPU) (ho : d₁.opcode = d₂.opcode) (h1 : (d₁.opcode >>> 30) &&& 3 = 1)
    (s : St δ) : SameMachine (decoded E (decode c d₂) s) (decoded E (decode c d₁) s) := by
  unfold decode
  dsimp only
  rw [← ho, if_pos h1, if_pos h1]
  exact ⟨rfl, rfl, rfl⟩

lemma decoded_same (c : CPU) (ho : d₁.opcode = d₂.opcode) (s : St δ) :
    SameMachine (decoded E (decode c d₁) s) (decoded E (decode c d₂) s) := by
  apply SameMachine.symm
  by_cases h1 : (d₁.opcode >>> 30) &&& 3 = 1
  · exact decoded_format1 c ho h1 s
  · by_cases h0 : (d₁.opcode >>> 30) &&& 3 = 0
    · exact decoded_format2 c ho h1 h0 s
    · exact decoded_format3 c ho h1 h0 s

end One

/-! ### Any two structures -/

/-- A breakpoint is recognised by the opcode, so both calls execute the same instruction. -/
lemma entry_opcode (s : St δ) {d₁ d₂ : DecodeStruct} (ho : d₁.opcode = d₂.opcode) :
    (entry { s with d := d₁ }).d.opcode = (entry { s with d := d₂ }).d.opcode := by
  have hb : breakpointAt s.cpu (decode s.cpu d₁) = breakpointAt s.cpu (decode s.cpu d₂) := by
    unfold breakpointAt
    rw [decode_opcode, decode_opcode, ho]
  unfold entry
  dsimp only
  rw [← hb]
  cases breakpointAt s.cpu (decode s.cpu d₁) with
  | none => exact ho
  | some bp => rfl

/-- **No residue**: two decode structures with the same opcode lead to the same end, whatever earlier
instructions have left in them. -/
theorem excute_one_no_residue (E : Board δ) (s : St δ) (d₁ d₂ : DecodeStruct)
    (ho : d₁.opcode = d₂.opcode) :
    SameMachine (excute_one E { s with d := d₁ }) (excute_one E { s with d := d₂ }) := by
  rw [excute_one_instr, excute_one_instr]
  exact decoded_same s.cpu (entry_opcode s ho) s

/-- A `swap` after a structure full of ones and after an empty one. -/
theorem excute_one_no_residue_swap :
    SameMachine (excute_one (Board.ram [(0, 64)]) (St.user 0xc2782008))
      (excute_one (Board.ram [(0, 64)]) { St.user 0xc2782008 with
        d := ⟨0xc2782008, .CALL, 1, 1, 1, 1, 1, 1, 1, 1, 1, 1, .WRITEBACKREG, 1, 1⟩ }) :=
  excute_one_no_residue _ (St.user 0xc2782008) (St.user 0xc2782008).d
    ⟨0xc2782008, .CALL, 1, 1, 1, 1, 1, 1, 1, 1, 1, 1, .WRITEBACKREG, 1, 1⟩ rfl

end SparcEmu
