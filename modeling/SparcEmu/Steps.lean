import SparcEmu.Execute
import SparcEmu.Access
import SparcEmu.PsrFields

/-!
The steps that instruction functions are made of.

An instruction function starts with the processor and the decoded instruction as the decoder
left them. These decide which access to memory it makes, if any. It makes that one access, and then
either records a trap or finishes. Five phases say how far it has come, and what is known of the
state then.
-/

namespace SparcEmu

open Lib.Effect

variable {δ : Type}

/-! ### The access of an instruction -/

inductive DataOp
  | word (rw : Intent) (size : AccessSize) (va v : u32) (sup : Bool)
  | pair (rw : Intent) (va v₀ v₁ : u32) (sup : Bool)
  | swap (va v : u32) (sup : Bool)
  | casa (va e v : u32) (sup : Bool)
  | ldstub (va : u32) (sup : Bool)
  deriving DecidableEq

def DataOp.va : DataOp → u32
  | .word _ _ va _ _ | .pair _ va _ _ _ | .swap va _ _ | .casa va _ _ _ | .ldstub va _ => va

def DataOp.sup : DataOp → Bool
  | .word _ _ _ _ sup | .pair _ _ _ _ sup | .swap _ _ sup | .casa _ _ _ sup | .ldstub _ sup => sup

/-- Makes the access; the result is whether a failure is reported. -/
def DataOp.fails (mc : MCtrl δ) : DataOp → MmuM δ Bool
  | .word rw size va v sup => do
    let r ← MMU.MemAccess mc rw size va v sup true
    pure (decide (r.1 ≠ 0))
  | .pair rw va v₀ v₁ sup => do
    let r ← MMU.pairAccess mc rw va v₀ v₁ sup
    pure (decide (r.1.1 ≠ 0 ∨ r.2.1 ≠ 0))
  | .swap va v sup => do
    let r ← MMU.atomic_swap32 mc va sup v
    pure (!r.ok)
  | .casa va e v sup => do
    let r ← MMU.atomic_casa32 mc va sup e v
    pure (!r.ok)
  | .ldstub va sup => do
    let r ← MMU.ldstub mc va sup
    pure r.isNone

/-- The access that a data instruction makes when nothing else makes it trap: the address is
aligned, the registers of a pair are even, the mode and the FPU allow it. -/
def dataOp (c : CPU) (d : DecodeStruct) : Option DataOp :=
  let sup := Psr.s d.psr
  let fp := Psr.ef d.psr
  let even := decide (d.rd &&& 1 = 0)
  let aligned (mask : u32) := decide (d.ev &&& mask = 0)
  let only (ready : Bool) (a : DataOp) : Option DataOp := if ready then some a else none
  match d.function with
  | .LD => only (aligned 3) (.word .load .b4 d.ev 0 sup)
  | .LDUB | .LDSB => only (aligned 0) (.word .load .b1 d.ev 0 sup)
  | .LDUH | .LDSH => only (aligned 1) (.word .load .b2 d.ev 0 sup)
  | .ST => only (aligned 3) (.word .store .b4 d.ev (c.read_reg d.rd 0) sup)
  | .STB => only (aligned 0) (.word .store .b1 d.ev (c.read_reg d.rd 0) sup)
  | .STH => only (aligned 1) (.word .store .b2 d.ev (c.read_reg d.rd 0) sup)
  | .LDD => only (even && aligned 7) (.pair .load d.ev 0 0 sup)
  | .STD => only (even && aligned 7)
      (.pair .store d.ev (c.read_reg d.rd 0) (c.read_reg (d.rd + 1) (c.read_reg d.rd 0)) sup)
  | .LDF_impl => only (fp && aligned 3) (.word .load .b4 d.ev 0 sup)
  | .STF_impl => only (fp && aligned 3) (.word .store .b4 d.ev (c.freg d.rd) sup)
  | .LDDF_impl => only (fp && even && aligned 7) (.pair .load d.ev 0 0 sup)
  | .STDF_impl => only (fp && even && aligned 7)
      (.pair .store d.ev (c.freg d.rd) (c.freg (d.rd + 1)) sup)
  | .LDFSR_impl => only (fp && aligned 3) (.word .load .b4 d.ev 0 true)
  | .STFSR_impl => only (fp && aligned 3) (.word .store .b4 d.ev c.fsr true)
  | .SWAP => only (aligned 3) (.swap d.ev d.value sup)
  | .SWAPA => only (decide ((d.opcode >>> 5) &&& 0xff = 1) && sup && aligned 3)
      (.swap d.ev d.value sup)
  | .LDSTUB => some (.ldstub d.ev sup)
  | .CASA =>
    let va := c.read_reg (d.rs1 &&& 0x1f) 0
    let asi := (d.imm_disp_rs2 >>> 5) &&& 0xff
    only (decide (asi = 0xa ∨ (asi = 0xb ∧ sup)) && decide (va &&& 3 = 0))
      (.casa va (c.read_reg (d.imm_disp_rs2 &&& 0x1f &&& 0x1f) 0) (c.read_reg (d.rd &&& 0x1f) 0)
        (decide (asi = 0xb)))
  | _ => none

/-- The call of the MMU that makes the access, and the results with which it fails. -/
inductive DataOp.Call (mc : MCtrl δ) : DataOp → ∀ α : Type, MmuM δ α → (α → Bool) → Prop
  | word {rw : Intent} {size : AccessSize} {va v : u32} {sup : Bool} :
      Call mc (.word rw size va v sup) _ (MMU.MemAccess mc rw size va v sup true)
        fun r => decide (r.1 ≠ 0)
  | pair {rw : Intent} {va v₀ v₁ : u32} {sup : Bool} :
      Call mc (.pair rw va v₀ v₁ sup) _ (MMU.pairAccess mc rw va v₀ v₁ sup)
        fun r => decide (r.1.1 ≠ 0 ∨ r.2.1 ≠ 0)
  | swap {va v : u32} {sup : Bool} :
      Call mc (.swap va v sup) _ (MMU.atomic_swap32 mc va sup v) fun r => !r.ok
  | casa {va e v : u32} {sup : Bool} :
      Call mc (.casa va e v sup) _ (MMU.atomic_casa32 mc va sup e v) fun r => !r.ok
  | ldstub {va : u32} {sup : Bool} :
      Call mc (.ldstub va sup) _ (MMU.ldstub mc va sup) fun r => r.isNone

/-- The access may change memory. -/
def DataOp.writes : DataOp → Prop
  | .word rw _ _ _ _ | .pair rw _ _ _ _ => rw = .store
  | _ => True

/-- The address bits that must be zero in an aligned access. -/
def AccessSize.mask : AccessSize → u32
  | .b1 => 0
  | .b2 => 1
  | .b4 => 3

/-- An aligned access of a load or a store. -/
def DataOp.Fit : DataOp → Prop
  | .word rw size va _ _ => rw ≠ .execute ∧ va &&& size.mask = 0
  | .pair rw va _ _ _ => rw ≠ .execute ∧ va &&& 7 = 0
  | .swap va _ _ | .casa va _ _ _ => va &&& 3 = 0
  | .ldstub _ _ => True

section Access

variable {mc : MCtrl δ} {a : DataOp} {c : CPU} {d : DecodeStruct}

lemma DataOp.Call.fails {α : Type} {op : MmuM δ α} {bad : α → Bool} (h : a.Call mc α op bad) :
    a.fails mc = (do let r ← op; pure (bad r)) := by
  cases h <;> rfl

lemma DataOp.Call.keepsPriv {α : Type} {op : MmuM δ α} {bad : α → Bool}
    (h : a.Call mc α op bad) : MMU.KeepsPriv op := by
  cases h with
  | word => exact MMU.keepsPriv_MemAccess _ _ _ _ _ _
  | pair => exact MMU.keepsPriv_pairAccess _ _ _ _ _
  | swap => exact MMU.keepsPriv_atomic_swap32 _ _ _
  | casa => exact MMU.keepsPriv_atomic_casa32 _ _ _ _
  | ldstub => exact MMU.keepsPriv_ldstub _ _

lemma dataOp_fit (h : dataOp c d = some a) : a.Fit := by
  unfold dataOp at h
  cases hf : d.function <;> rw [hf] at h <;>
    simp only [Option.ite_none_right_eq_some, Option.some.injEq, decide_eq_true_eq,
      Bool.and_eq_true, reduceCtorEq] at h
  case LDSTUB => subst h; trivial
  case SWAP | SWAPA | CASA => obtain ⟨h, rfl⟩ := h; first | exact h | exact h.2
  all_goals
    obtain ⟨h, rfl⟩ := h
    first | exact ⟨by decide, h⟩ | exact ⟨by decide, h.2⟩

/-- The instructions that access data, but for the alternate spaces. -/
def Handler.isData : Handler → Bool
  | .LD | .LDUB | .LDUH | .LDSB | .LDSH | .ST | .STB | .STH | .LDD | .STD | .LDF_impl | .STF_impl
  | .LDDF_impl | .STDF_impl | .LDFSR_impl | .STFSR_impl | .SWAP | .SWAPA | .LDSTUB | .CASA => true
  | _ => false

lemma dataOp_none (h : d.function.isData = false) : dataOp c d = none := by
  unfold dataOp
  cases hf : d.function <;> rw [hf] at h <;> first | rfl | cases h

end Access

/-! ### Phases -/

/-- `quiet`: nothing has changed. `marked`: nor anything but the swap register and the trap
type and exception fields of the FSR. `asked`: the one access has been made, and has changed
nothing but the MMU's caches and fault registers. `done`: the instruction has taken effect.
`trapped`: it has recorded a trap instead. -/
inductive Phase | quiet | marked | asked (failed : Bool) | done | trapped
  deriving DecidableEq

namespace Phase

/-- The access to memory is still to come. -/
def Early (i : Phase) : Prop := i = .quiet ∨ i = .marked

/-- The instruction has not taken effect yet. -/
def Open : Phase → Prop
  | .done | .trapped => False
  | _ => True

lemma Early.open {i : Phase} (h : i.Early) : i.Open := by
  rcases h with rfl | rfl <;> trivial

lemma not_early_asked {failed : Bool} : ¬ Early (.asked failed) := by rintro (h | h) <;> cases h

end Phase

/-- What an analysis of an instruction function starts from: the processor, the decoded
instruction, whether it runs in user mode, and whether it may throw. -/
structure Setup where
  c : CPU
  d : DecodeStruct
  user : Prop
  throws : Prop

namespace Setup

variable (K : Setup)

/-- There is no access to make. -/
def Idle : Prop := dataOp K.c K.d = none

/-- The instruction may take effect: its access has been made, or there is none to make. -/
inductive Settles : Phase → Prop
  | idle {i : Phase} : K.Idle → i.Early → Settles i
  | asked {failed : Bool} : Settles (.asked failed)
  | done : Settles .done

/-- A failed access leads to the data access exception, and nothing else does. -/
inductive Traps : Phase → u32 → Prop
  | early {i : Phase} {n : u32} : K.Idle → i.Early → n &&& 0xff ≠ 9 → Traps i n
  | fault : Traps (.asked true) SPARC_DATA_ACCESS_EXCEPTION

variable {K} {i : Phase}

lemma Idle.settles (h : K.Idle) : K.Settles .quiet := .idle h (Or.inl rfl)

lemma Settles.ne_trapped (h : K.Settles i) : i ≠ .trapped := by
  rcases h with ⟨-, rfl | rfl⟩ | _ | _ <;> exact fun h => by cases h

lemma Traps.open {n : u32} (h : K.Traps i n) : i.Open := by
  cases h with
  | early _ hi _ => exact hi.open
  | fault => trivial

end Setup

/-! ### Changes of the processor and of the decoded instruction -/

/-- The bits of the FSR other than the trap type and the current exceptions. -/
def fsrKept (f : u32) : u32 := f &&& 0xfffe3fe0

structure CPU.SameRegs (c c' : CPU) : Prop where
  psr : c'.psr = c.psr
  cwp_base : c'.cwp_base = c.cwp_base
  globals : ∀ i, i ≠ 8 → c'.globals i = c.globals i
  locals : c'.locals = c.locals
  outs : c'.outs = c.outs

/-- The change leaves alone what no instruction function may write into the processor. -/
structure GoodC (user : Prop) (f : CPU → CPU) : Prop where
  trap_type : ∀ c, (f c).trap_type = c.trap_type
  psr : ∀ c, (f c).psr = c.psr
  cwp_base : ∀ c, (f c).cwp_base = c.cwp_base
  irl : ∀ c, (f c).irl = c.irl
  zero : ∀ c, c.globals 0 = 0 → (f c).globals 0 = 0
  priv : user → ∀ c, (f c).wim = c.wim ∧ (f c).tbr = c.tbr

/-- The change keeps the window pointer in range, and in user mode the privileged bits. -/
structure GoodD (user : Prop) (f : DecodeStruct → DecodeStruct) : Prop where
  cwp : ∀ d, Psr.cwp d.psr < 8 → Psr.cwp (f d).psr < 8
  priv : user → ∀ d, Psr.priv (f d).psr = Psr.priv d.psr

/-- The processors differ at most in the swap register and in the trap type and current
exceptions of the FSR. -/
def CPU.Marked (c c' : CPU) : Prop :=
  c' = { c with globals := c'.globals, fsr := c'.fsr } ∧
    (∀ i, i ≠ 8 → c'.globals i = c.globals i) ∧ fsrKept c'.fsr = fsrKept c.fsr

lemma CPU.Marked.refl (c : CPU) : c.Marked c := ⟨rfl, fun _ _ => rfl, rfl⟩

lemma CPU.Marked.psr {c c' : CPU} (h : c.Marked c') : c'.psr = c.psr := by rw [h.1]

lemma CPU.Marked.trap_type {c c' : CPU} (h : c.Marked c') : c'.trap_type = c.trap_type := by
  rw [h.1]

lemma CPU.Marked.sameRegs {c c' : CPU} (h : c.Marked c') : c.SameRegs c' := by
  rw [h.1]
  exact ⟨rfl, rfl, h.2.1, rfl, rfl⟩

lemma CPU.Marked.trans {a b c : CPU} (h : a.Marked b) (h' : b.Marked c) : a.Marked c := by
  refine ⟨?_, fun i hi => (h'.2.1 i hi).trans (h.2.1 i hi), h'.2.2.trans h.2.2⟩
  rw [h'.1, h.1]

/-! ### The steps -/

/-- The steps of an instruction function, with the phase each starts from and what its result
says about the phase it ends in. -/
inductive Step (E : Board δ) (K : Setup) : Kind HostError (St δ) Phase
  | getCPU : Step E K CPU .quiet getCPU fun c j => c = K.c ∧ j = .quiet
  | getD : Step E K DecodeStruct .quiet getD fun d j => d = K.d ∧ j = .quiet
  | noFault {i : Phase} : Step E K Bool i noFault fun _ j => j = i
  | modD {i : Phase} {f : DecodeStruct → DecodeStruct} :
      K.Settles i → GoodD K.user f → Step E K Unit i (modD f) fun _ j => j = .done
  | modCPU {i : Phase} {f : CPU → CPU} :
      K.Settles i → GoodC K.user f → Step E K Unit i (modCPU f) fun _ j => j = .done
  | mark {i : Phase} {f : CPU → CPU} :
      i.Early → (∀ c : CPU, c.Marked (f c)) → Step E K Unit i (modCPU f) fun _ j => j = .marked
  | trap {i : Phase} {n : u32} : K.Traps i n → Step E K Unit i (trap n) fun _ j => j = .trapped
  | throw {α : Type} {i : Phase} {e : HostError} {Q : α → Phase → Prop} :
      K.throws → (i.Early → K.Idle) → Step E K α i (throwHost e) Q
  | access {α : Type} {i : Phase} {m : M δ α} {a : DataOp} {op : MmuM δ α} {bad : α → Bool} :
      i.Early → dataOp K.c K.d = some a → a.Call E.mc α op bad →
      (∀ s : St δ, (i = .quiet → s.cpu = K.c) → m s = onMMU op s) →
      Step E K α i m fun r j => j = .asked (bad r) ∨ (a.writes ∧ bad r = false ∧ j = .done)
  | priv {α : Type} {m : MmuM δ α} : ¬ K.user → K.d.function = .LDA_impl ∨ K.d.function = .STA_impl →
      Step E K α .quiet (onMMU m) fun _ j => j = .done

/-- A program made of these steps. -/
abbrev Prog (E : Board δ) (K : Setup) : Kind HostError (St δ) Phase := Built (Step E K)

/-- How an instruction function ends. -/
def Ends (_ : Unit) (j : Phase) : Prop := j = .done ∨ j = .trapped

/-! ### What the steps that call others do -/

section Meaning

variable {E : Board δ}

lemma trap_eq (n : u32) (s : St δ) : trap n s =
    if Psr.et s.cpu.psr then
      .ok () { s with cpu := { s.cpu with
        trap_type := (s.cpu.trap_type &&& ~~~0xff#32) ||| (n &&& 0xff) } }
    else
      .error (.runtime_error "Trap in trap") { s with cpu := { s.cpu with rs :=
        { s.cpu.rs with last_opcode := s.d.opcode, reason := .TRAP_CONDITIONAL } } } := by
  unfold trap
  rw [getCPU_bind, getD_bind]
  split_ifs <;> rfl

lemma memAccess_eq (rw : Intent) (size : AccessSize) (va v : u32) (s : St δ) :
    memAccess E rw size va v s
      = onMMU (MMU.MemAccess E.mc rw size va v (Psr.s s.cpu.psr) true) s :=
  bind_ok rfl

lemma memAccess2_eq (rw : Intent) (va v₀ v₁ : u32) (s : St δ) :
    memAccess2 E rw va v₀ v₁ s = onMMU (MMU.pairAccess E.mc rw va v₀ v₁ (Psr.s s.cpu.psr)) s := by
  unfold memAccess2 MMU.pairAccess
  have e := memAccess_eq (E := E) rw .b4 va v₀ s
  unfold onMMU at e ⊢
  rcases h : MMU.MemAccess E.mc rw .b4 va v₀ (Psr.s s.cpu.psr) true ⟨s.mmu, s.mem⟩
    with ⟨r, t⟩ | ⟨x, t⟩
  · rw [h] at e
    rw [bind_ok e, bind_ok h]
    have e' := memAccess_eq (E := E) rw .b4 (va + 4) v₁ { s with mmu := t.mmu, mem := t.mem }
    unfold onMMU at e'
    dsimp only at e'
    rcases h' : MMU.MemAccess E.mc rw .b4 (va + 4) v₁ (Psr.s s.cpu.psr) true ⟨t.mmu, t.mem⟩
      with ⟨r', t'⟩ | ⟨x', t'⟩
    · rw [h'] at e'
      rw [bind_ok e', bind_ok h']
      rfl
    · rw [h'] at e'
      rw [bind_error e', bind_error h']
  · rw [h] at e
    rw [bind_error e, bind_error h]

end Meaning

end SparcEmu
