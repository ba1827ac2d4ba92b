import SparcEmu.Entry

/-!
The access of an instruction: what it leaves of memory, and what a data instruction does when memory
or the MMU refuses it.
-/

namespace SparcEmu

open Lib.Effect

variable {δ : Type}

/-! ### What the access leaves -/

section Accesses

variable {E : Board δ} {s₀ s : St δ}

/-- The MMU, memory and the devices after the access, if there is one. -/
def accessLeaves (mc : MCtrl δ) (o : Option DataOp) (t : MMUSt δ) : MMUSt δ :=
  match o with
  | none => t
  | some a => final (a.fails mc t)

/-- The access has been made and left `t'`, or there is none to make. -/
def Accessed (mc : MCtrl δ) (o : Option DataOp) (t t' : MMUSt δ) : Prop :=
  match o with
  | none => t' = t
  | some a => ∃ failed, a.fails mc t = .ok failed t'

lemma Accessed.leaves {mc : MCtrl δ} {o : Option DataOp} {t t' : MMUSt δ}
    (h : Accessed mc o t t') : t' = accessLeaves mc o t := by
  cases o with
  | none => exact h
  | some a =>
    obtain ⟨b, h⟩ := h
    exact (congrArg final h).symm

/-- The access has failed, and this is what it has left. -/
def AccessFailed (E : Board δ) (s₀ s : St δ) : Prop :=
  ∃ a, dataOp s₀.cpu s₀.instr = some a ∧ a.fails E.mc s₀.bus = .ok true s.bus

/-- What is known in each phase of the access and of the trap. -/
def Making (E : Board δ) (s₀ : St δ) (i : Phase) (s : St δ) : Prop :=
  match i with
  | .quiet => s = { s₀ with d := s₀.instr }
  | .marked => s.bus = s₀.bus ∧ s.cpu.trap_type = s₀.cpu.trap_type
  | .asked failed => (∃ a, dataOp s₀.cpu s₀.instr = some a ∧
      a.fails E.mc s₀.bus = .ok failed s.bus) ∧ s.cpu.trap_type = s₀.cpu.trap_type
  | .done => Accessed E.mc (dataOp s₀.cpu s₀.instr) s₀.bus s.bus ∧
      s.cpu.trap_type = s₀.cpu.trap_type
  | .trapped => Accessed E.mc (dataOp s₀.cpu s₀.instr) s₀.bus s.bus ∧
      (s.cpu.trap_type &&& 0xff = 9 → AccessFailed E s₀ s)

variable {i : Phase}

lemma Making.early (h : Making E s₀ i s) (hi : i.Early) :
    s.bus = s₀.bus ∧ s.cpu.trap_type = s₀.cpu.trap_type := by
  rcases hi with rfl | rfl
  · obtain rfl : s = _ := h
    exact ⟨rfl, rfl⟩
  · exact h

lemma Making.accessed (h : Making E s₀ i s) (hn : i.Early → dataOp s₀.cpu s₀.instr = none) :
    Accessed E.mc (dataOp s₀.cpu s₀.instr) s₀.bus s.bus := by
  by_cases hi : i.Early
  · rw [hn hi]
    exact (h.early hi).1
  · cases i with
    | quiet => exact absurd (Or.inl rfl) hi
    | marked => exact absurd (Or.inr rfl) hi
    | asked failed =>
      obtain ⟨⟨a, ha, hf⟩, -⟩ := h
      rw [ha]
      exact ⟨failed, hf⟩
    | done | trapped => exact h.1

lemma Making.settled {user throws : Prop} (h : Making E s₀ i s)
    (hi : (Setup.of s₀ user throws).Settles i) :
    Accessed E.mc (dataOp s₀.cpu s₀.instr) s₀.bus s.bus ∧ s.cpu.trap_type = s₀.cpu.trap_type := by
  cases hi with
  | idle hn hi => exact ⟨h.accessed fun _ => hn, (h.early hi).2⟩
  | asked => exact ⟨h.accessed fun hi => (Phase.not_early_asked hi).elim, h.2⟩
  | done => exact h

lemma DataOp.Call.fails_ok {α : Type} {a : DataOp} {mc : MCtrl δ} {op : MmuM δ α} {bad : α → Bool}
    (h : a.Call mc α op bad) {t t' : MMUSt δ} {r : α} (hx : op t = .ok r t') :
    a.fails mc t = .ok (bad r) t' := by
  rw [h.fails, bind_ok hx]
  rfl

lemma making_step (hf : s₀.instr.function ≠ .LDA_impl ∧ s₀.instr.function ≠ .STA_impl)
    {user throws : Prop} {α : Type} {m : M δ α} {Q : α → Phase → Prop}
    (h : Step E (Setup.of s₀ user throws) α i m Q) :
    Spec (Making E s₀) (fun _ s => s.bus = accessLeaves E.mc (dataOp s₀.cpu s₀.instr) s₀.bus)
      α i m Q := by
  cases h with
  | getCPU | getD => exact fun s hs => ⟨.quiet, ⟨by rw [show s = _ from hs]; rfl, rfl⟩, hs⟩
  | noFault => exact fun s hs => ⟨_, rfl, hs⟩
  | modD hi _ => exact fun s hs => ⟨.done, rfl, Making.settled (s := s) hs hi⟩
  | modCPU hi hf =>
    intro s hs
    obtain ⟨ha, ht⟩ := Making.settled hs hi
    exact ⟨.done, rfl, ha, (hf.trap_type _).trans ht⟩
  | mark hi hf =>
    intro s hs
    obtain ⟨hb, ht⟩ := Making.early hs hi
    exact ⟨.marked, rfl, hb, (hf s.cpu).trap_type.trans ht⟩
  | trap htr =>
    intro s hs
    have hacc : Accessed E.mc (dataOp s₀.cpu s₀.instr) s₀.bus s.bus := by
      refine Making.accessed hs fun hi => ?_
      cases htr with
      | early hn _ _ => exact hn
      | fault => exact (Phase.not_early_asked hi).elim
    rw [trap_eq]
    split_ifs
    · refine ⟨.trapped, rfl, hacc, fun h9 => ?_⟩
      cases htr with
      | fault => exact hs.1
      | early _ _ hn =>
        dsimp only at h9
        rw [Lib.Bits.field_self (by decide), BitVec.and_assoc] at h9
        exact absurd h9 hn
    · exact hacc.leaves
  | throw _ hn => exact fun s hs => (Making.accessed hs hn).leaves
  | @access _ _ _ a op _ hi hop hcall hm =>
    refine Spec.access hm (fun s hs => by rw [show s = _ from hs]; rfl) fun s hs => ?_
    obtain ⟨hb, ht⟩ := Making.early hs hi
    unfold onMMU
    rw [show (⟨s.mmu, s.mem⟩ : MMUSt δ) = s₀.bus from hb]
    cases hx : op s₀.bus with
    | ok r t => exact ⟨_, Or.inl rfl, ⟨a, hop, hcall.fails_ok hx⟩, ht⟩
    | error e t =>
      rw [show dataOp s₀.cpu s₀.instr = some a from hop]
      show t = final (a.fails E.mc s₀.bus)
      rw [hcall.fails, bind_error hx]
      rfl
  | priv _ h => exact (h.elim hf.1 hf.2).elim

/-- **Accesses**: an instruction outside the alternate spaces leaves of memory what its one access
does, and records the data access exception only where that has failed. -/
theorem excute_one_accesses (hf : s.instr.function ≠ .LDA_impl ∧ s.instr.function ≠ .STA_impl) :
    match excute_one E s with
    | .ok _ u => Accessed E.mc (dataOp s.cpu s.instr) s.bus u.bus ∧
        (s.cpu.trap_type &&& 0xff ≠ 9 → u.cpu.trap_type &&& 0xff = 9 → AccessFailed E s u)
    | .error _ u => u.bus = accessLeaves E.mc (dataOp s.cpu s.instr) s.bus := by
  have hK : (Setup.of s False True).Ok E :=
    ⟨instr_psr s, False.elim, fun _ => trivial, fun _ => trivial⟩
  have h := excute_one_spec E hK (making_step hf) (show Making E s .quiet _ from rfl)
  cases hx : excute_one E s with
  | error e u => rw [hx] at h; exact h
  | ok r u =>
    rw [hx] at h
    obtain ⟨w, rfl, hw | hw⟩ := h
    · exact ⟨hw.1, fun h0 h9 => absurd (by rw [← hw.2, ← write_back_trap_type]; exact h9) h0⟩
    · exact ⟨hw.1, fun _ h9 => hw.2 (by rw [← write_back_trap_type]; exact h9)⟩

lemma excute_one_leaves (hf : s.instr.function ≠ .LDA_impl ∧ s.instr.function ≠ .STA_impl) :
    (final (excute_one E s)).bus = accessLeaves E.mc (dataOp s.cpu s.instr) s.bus := by
  have h := excute_one_accesses (E := E) hf
  cases hx : excute_one E s with
  | ok r u => rw [hx] at h; exact h.1.leaves
  | error e u => rw [hx] at h; exact h

end Accesses

/-! ### Return codes -/

/-- A return code is zero or negative. -/
def Code (r : cint × u32) : Prop := r.1 = 0 ∨ r.1.msb = true

namespace MMU

variable {mc : MCtrl δ}

lemma neg_msb {x : u32} (h : x &&& 7 = x) : -x = 0 ∨ (-x).msb = true := by
  have : x.toNat < 8 := by
    rw [← h, BitVec.toNat_and]; exact Nat.lt_of_le_of_lt Nat.and_le_right (by decide)
  rw [BitVec.msb_eq_decide, BitVec.toNat_neg]
  by_cases h0 : x = 0
  · left; rw [h0]; rfl
  · right
    have : x.toNat ≠ 0 := fun e => h0 (BitVec.eq_of_toNat_eq e)
    simp only [decide_eq_true_eq]
    omega

lemma ptrAccess_code (rw : Intent) (size : AccessSize) (p : HostPtr) (v : u32) :
    Yields Code (ptrAccess rw size p v : MmuM δ _) := by
  cases rw <;> exact Yields.bind fun _ => Yields.pure (Or.inl rfl)

lemma bankAccess_code (rw : Intent) (size : AccessSize) (i : Nat) (b : IMemoryBank) (pa v : u32) :
    Yields Code (bankAccess mc rw size i b pa v) := by
  cases rw <;> exact Yields.bind fun _ => Yields.pure (Or.inl rfl)

lemma busAccess_code (rw : Intent) (size : AccessSize) (va v pa : u32) (sup rep on : Bool) :
    Yields Code (busAccess mc rw size va v pa sup rep on) := by
  unfold busAccess
  split
  · have h : Code (-5, v) := Or.inr (show BitVec.msb (-5 : cint) = true by decide)
    unfold bus_fault
    split_ifs
    · exact Yields.bind fun _ => Yields.pure h
    · exact Yields.pure h
  · split_ifs
    · refine Yields.bind fun bdata => ?_
      split_ifs
      · exact Yields.bind fun _ => ptrAccess_code _ _ _ _
      · exact bankAccess_code _ _ _ _ _ _
    · exact bankAccess_code _ _ _ _ _ _

lemma MemAccess_code (rw : Intent) (size : AccessSize) (va v : u32) (sup rep : Bool) :
    Yields Code (MemAccess mc rw size va v sup rep) := by
  unfold MemAccess
  refine Yields.bind fun m => ?_
  split
  · split
    · exact ptrAccess_code _ _ _ _
    · refine Yields.bind fun res => ?_
      split
      · exact busAccess_code _ _ _ _ _ _ _ _
      · refine Yields.bind fun m => Yields.pure (neg_msb ?_)
        split_ifs
        · rw [BitVec.and_assoc]; rfl
        · rfl
  · exact busAccess_code _ _ _ _ _ _ _ _

end MMU

/-! ### What a reported failure is -/

variable {α : Type}

section Reports

variable {mc : MCtrl δ} {s t : MMUSt δ}

lemma map_ok_iff {m : MmuM δ α} {f : α → Bool} :
    (do let r ← m; pure (f r) : MmuM δ Bool) s = .ok true t ↔ ∃ r, m s = .ok r t ∧ f r = true := by
  rw [bind_ok_iff]
  constructor
  · rintro ⟨r, s₁, h, h'⟩
    simp only [pure_apply, EStateM.Result.ok.injEq] at h'
    exact ⟨r, by rw [h, h'.2], h'.1⟩
  · rintro ⟨r, h, hr⟩
    exact ⟨r, t, h, by rw [hr]; rfl⟩

lemma word_fails {rw : Intent} {size : AccessSize} {va v : u32} {sup : Bool}
    (h : (DataOp.word rw size va v sup).fails mc s = .ok true t) :
    ∃ r, MMU.MemAccess mc rw size va v sup true s = .ok r t ∧ r.1 ≠ 0 ∧ r.1.msb = true := by
  obtain ⟨r, hr, h0⟩ := map_ok_iff.mp h
  have h0 := of_decide_eq_true h0
  exact ⟨r, hr, h0, (MMU.MemAccess_code _ _ _ _ _ _ _ _ _ hr).resolve_left h0⟩

lemma pair_fails {rw : Intent} {va v₀ v₁ : u32} {sup : Bool}
    (h : (DataOp.pair rw va v₀ v₁ sup).fails mc s = .ok true t) :
    ∃ r, MMU.pairAccess mc rw va v₀ v₁ sup s = .ok r t ∧ ¬(r.1.1 = 0 ∧ r.2.1 = 0) ∧
      (r.1.1.msb = true ∨ r.2.1.msb = true) := by
  obtain ⟨r, hr, h0⟩ := map_ok_iff.mp h
  have h0 := of_decide_eq_true h0
  obtain ⟨r₀, s₁, h₀, h'⟩ := bind_ok_iff.mp hr
  obtain ⟨r₁, s₂, h₁, h'⟩ := bind_ok_iff.mp h'
  simp only [pure_apply, EStateM.Result.ok.injEq] at h'
  obtain ⟨rfl, rfl⟩ := h'
  refine ⟨_, hr, fun h => h0.elim (fun h' => h' h.1) fun h' => h' h.2, ?_⟩
  exact h0.imp (fun h => (MMU.MemAccess_code _ _ _ _ _ _ _ _ _ h₀).resolve_left h)
    fun h => (MMU.MemAccess_code _ _ _ _ _ _ _ _ _ h₁).resolve_left h

end Reports

/-! ### Refused instructions -/

section Refuse

variable {E : Board δ} {s : St δ} {t : MMUSt δ}

/-- The state after an operation of the MMU. -/
def St.after (s : St δ) (t : MMUSt δ) : St δ := { s with mmu := t.mmu, mem := t.mem }

lemma onMMU_ok {m : MmuM δ α} {r : α} (h : m ⟨s.mmu, s.mem⟩ = .ok r t) :
    onMMU m s = .ok r (s.after t) := by
  unfold onMMU; rw [h]; rfl

/-- The function goes on to the data access exception; but for marks it has only made its
access. -/
def Refuses (m : M δ Unit) (s : St δ) (t : MMUSt δ) : Prop :=
  ∃ c : CPU, s.cpu.Marked c ∧
    m s = trap SPARC_DATA_ACCESS_EXCEPTION { s.after t with cpu := c }

lemma trap_refuses : Refuses (trap SPARC_DATA_ACCESS_EXCEPTION) (s.after t) t :=
  ⟨s.cpu, .refl _, rfl⟩

variable (hnf : t.mmu.get_no_fault = false)

include hnf

lemma test_refuses {P : Prop} [Decidable P] (hP : P) (rest : M δ Unit) :
    Refuses (do
      let nf ← noFault
      if P ∧ !nf then trap SPARC_DATA_ACCESS_EXCEPTION else rest) (s.after t) t := by
  unfold Refuses
  rw [bind_ok (show noFault (s.after t) = .ok false _ from by
    unfold noFault; rw [show (s.after t).mmu.get_no_fault = false from hnf])]
  rw [if_pos ⟨hP, rfl⟩]
  exact trap_refuses

variable {align : u32}

lemma dataAccess_refuses {access : DecodeStruct → M δ cint} {ret : cint}
    (ha : s.d.ev &&& align = 0) (h : access s.d s = .ok ret (s.after t)) (hr : ret.msb = true) :
    Refuses (dataAccess align access) s t := by
  unfold dataAccess Refuses
  rw [getD_bind, if_neg (not_not.mpr ha), bind_ok h]
  exact test_refuses hnf hr _

lemma dataAccess64_refuses {access : DecodeStruct → M δ cint} {ret : cint}
    (he : s.d.rd &&& 1 = 0) (ha : s.d.ev &&& 7 = 0) (h : access s.d s = .ok ret (s.after t))
    (hr : ret.msb = true) : Refuses (dataAccess64 access) s t := by
  unfold dataAccess64 Refuses
  rw [getD_bind, if_neg (not_not.mpr he)]
  exact dataAccess_refuses hnf ha h hr

lemma endAtomic_refuses {r : MMU.AtomicResult} (hr : r.ok = false) (rd : u32) :
    Refuses (endAtomic r rd) (s.after t) t :=
  test_refuses hnf (P := (!r.ok) = true) (by rw [hr]; rfl) _

omit hnf

variable {access : DecodeStruct → M δ Unit} {pair : Bool}

lemma fpAccess_ready (hf : Psr.ef s.d.psr = true) (ha : s.d.ev &&& align = 0)
    (he : pair = true → s.d.rd &&& 1 = 0) : fpAccess align pair access s = access s.d s := by
  unfold fpAccess
  rw [getD_bind, if_neg (by rw [hf]; decide),
    if_neg (not_not.mpr ha), if_neg fun h => h.2 (he h.1)]

lemma fpAccess_made {m : M δ α} {k : α → M δ Unit} {r : α} (hf : Psr.ef s.d.psr = true)
    (ha : s.d.ev &&& align = 0) (he : pair = true → s.d.rd &&& 1 = 0)
    (hk : access s.d s = (m >>= k) s) (hm : m s = .ok r (s.after t)) :
    fpAccess align pair access s = k r (s.after t) := by
  rw [fpAccess_ready hf ha he, hk, bind_ok hm]

lemma fp_refuses {m : M δ α} {k : α → M δ Unit} {r : α} (hf : Psr.ef s.d.psr = true)
    (ha : s.d.ev &&& align = 0) (he : pair = true → s.d.rd &&& 1 = 0)
    (hk : access s.d s = (m >>= k) s) (hm : m s = .ok r (s.after t))
    (hr : Refuses (k r) (s.after t) t) : Refuses (fpAccess align pair access) s t := by
  unfold Refuses
  rw [fpAccess_made hf ha he hk hm]
  exact hr

variable {rw : Intent} {size : AccessSize} {va v v₀ v₁ rd : u32} {r : cint × u32}

lemma memAccess_ok
    (h : MMU.MemAccess E.mc rw size va v (Psr.s s.cpu.psr) true ⟨s.mmu, s.mem⟩ = .ok r t) :
    memAccess E rw size va v s = .ok r (s.after t) := by
  rw [memAccess_eq]; exact onMMU_ok h

lemma memAccess2_ok {r : (cint × u32) × (cint × u32)}
    (h : MMU.pairAccess E.mc rw va v₀ v₁ (Psr.s s.cpu.psr) ⟨s.mmu, s.mem⟩ = .ok r t) :
    memAccess2 E rw va v₀ v₁ s = .ok r (s.after t) := by
  rw [memAccess2_eq]; exact onMMU_ok h

lemma loadReg_fails {ext : u32 → u32}
    (h : MMU.MemAccess E.mc .load size va 0 (Psr.s s.cpu.psr) true ⟨s.mmu, s.mem⟩ = .ok r t)
    (hr : r.1 ≠ 0) : loadReg E size ext va rd s = .ok r.1 (s.after t) := by
  unfold loadReg
  rw [bind_ok (memAccess_ok h), if_neg hr]
  rfl

lemma storeReg_fails
    (h : MMU.MemAccess E.mc .store size va (s.cpu.read_reg rd 0) (Psr.s s.cpu.psr) true
      ⟨s.mmu, s.mem⟩ = .ok r t) : storeReg E size va rd s = .ok r.1 (s.after t) := by
  unfold storeReg
  rw [getCPU_bind, bind_ok (memAccess_ok h)]
  rfl

lemma load64_fails {r : (cint × u32) × (cint × u32)}
    (h : MMU.pairAccess E.mc .load va 0 0 (Psr.s s.cpu.psr) ⟨s.mmu, s.mem⟩ = .ok r t)
    (hr : ¬(r.1.1 = 0 ∧ r.2.1 = 0)) : load64 E va rd s = .ok (r.1.1 ||| r.2.1) (s.after t) := by
  unfold load64
  rw [bind_ok (memAccess2_ok h), if_neg hr]
  rfl

lemma store64_fails {r : (cint × u32) × (cint × u32)}
    (h : MMU.pairAccess E.mc .store va (s.cpu.read_reg rd 0)
      (s.cpu.read_reg (rd + 1) (s.cpu.read_reg rd 0)) (Psr.s s.cpu.psr) ⟨s.mmu, s.mem⟩ = .ok r t) :
    store64 E va rd s = .ok (r.1.1 ||| r.2.1) (s.after t) := by
  unfold store64
  rw [getCPU_bind, bind_ok (memAccess2_ok h)]
  rfl

lemma keepsPriv_fails (mc : MCtrl δ) (a : DataOp) : MMU.KeepsPriv (a.fails mc) := by
  have key {α : Type} {op : MmuM δ α} {bad : α → Bool} (h : a.Call mc α op bad) :
      MMU.KeepsPriv (a.fails mc) := by
    rw [h.fails]
    exact Fixes.bind h.keepsPriv fun _ => Fixes.pure _
  cases a with
  | word => exact key .word
  | pair => exact key .pair
  | swap => exact key .swap
  | casa => exact key .casa
  | ldstub => exact key .ldstub

lemma msb_or {x y : cint} (h : x.msb = true ∨ y.msb = true) : (x ||| y).msb = true := by
  rw [BitVec.msb_or]
  rcases h with h | h <;> simp [h]

lemma LDSTUB_refuses
    (h : (DataOp.ldstub s.d.ev (Psr.s s.d.psr)).fails E.mc ⟨s.mmu, s.mem⟩ = .ok true t) :
    Refuses (LDSTUB E) s t := by
  obtain ⟨r, hr, h0⟩ := map_ok_iff.mp h
  obtain rfl : r = none := by simpa using h0
  unfold LDSTUB Refuses
  rw [getD_bind, bind_ok (onMMU_ok hr)]
  exact trap_refuses

lemma CASA_ready
    (hok : (s.d.imm_disp_rs2 >>> 5) &&& 0xff = 0xa ∨
      ((s.d.imm_disp_rs2 >>> 5) &&& 0xff = 0xb ∧ Psr.s s.d.psr = true))
    (ha : s.cpu.read_reg (s.d.rs1 &&& 0x1f) 0 &&& 3 = 0) : CASA E s =
      (onMMU (MMU.atomic_casa32 E.mc (s.cpu.read_reg (s.d.rs1 &&& 0x1f) 0)
        (decide ((s.d.imm_disp_rs2 >>> 5) &&& 0xff = 0xb))
        (s.cpu.read_reg (s.d.imm_disp_rs2 &&& 0x1f &&& 0x1f) 0)
        (s.cpu.read_reg (s.d.rd &&& 0x1f) 0)) >>= fun r => endAtomic r (s.d.rd &&& 0x1f)) s := by
  unfold CASA
  rw [getD_bind, getCPU_bind]
  dsimp only
  rw [if_neg, if_neg (not_not.mpr ha), if_pos]
  · exact hok.symm.imp And.left id
  · rintro ⟨hs, hne⟩
    rcases hok with h | ⟨-, h⟩
    · exact hne h
    · rw [h] at hs; cases hs

include hnf

variable (hpsr : s.d.psr = s.cpu.psr)

include hpsr in
lemma load_refuses {ext : u32 → u32} (ha : s.d.ev &&& align = 0)
    (h : (DataOp.word .load size s.d.ev 0 (Psr.s s.d.psr)).fails E.mc ⟨s.mmu, s.mem⟩
      = .ok true t) : Refuses (dataAccess align fun d => loadReg E size ext d.ev d.rd) s t := by
  rw [hpsr] at h
  obtain ⟨r, hr, h0, hm⟩ := word_fails h
  exact dataAccess_refuses hnf ha (loadReg_fails hr h0) hm

include hpsr in
lemma store_refuses (ha : s.d.ev &&& align = 0)
    (h : (DataOp.word .store size s.d.ev (s.cpu.read_reg s.d.rd 0) (Psr.s s.d.psr)).fails E.mc
      ⟨s.mmu, s.mem⟩ = .ok true t) :
    Refuses (dataAccess align fun d => storeReg E size d.ev d.rd) s t := by
  rw [hpsr] at h
  obtain ⟨r, hr, -, hm⟩ := word_fails h
  exact dataAccess_refuses hnf ha (storeReg_fails hr) hm

lemma swapWord_refuses (ha : s.d.ev &&& 3 = 0)
    (h : (DataOp.swap s.d.ev s.d.value (Psr.s s.d.psr)).fails E.mc ⟨s.mmu, s.mem⟩ = .ok true t) :
    Refuses (swapWord E) s t := by
  obtain ⟨r, hr, h0⟩ := map_ok_iff.mp h
  have hr : MMU.atomic_swap32 E.mc s.d.ev (Psr.s s.d.psr) s.d.value ⟨s.mmu, s.mem⟩ = .ok r t := hr
  have hs : modCPU (fun c => c.setSwap s.d.value) s
      = .ok () { s with cpu := s.cpu.setSwap s.d.value } := rfl
  have hm := onMMU_ok (s := { s with cpu := s.cpu.setSwap s.d.value }) hr
  obtain ⟨c, hk, hc⟩ := endAtomic_refuses (s := { s with cpu := s.cpu.setSwap s.d.value })
    hnf (by simpa using h0) s.d.rd
  refine ⟨c, (marked_setSwap _ _).trans hk, ?_⟩
  unfold swapWord
  rw [getD_bind, if_neg (not_not.mpr ha), bind_ok hs, bind_ok hm]
  exact hc

lemma CASA_refuses
    (hok : (s.d.imm_disp_rs2 >>> 5) &&& 0xff = 0xa ∨
      ((s.d.imm_disp_rs2 >>> 5) &&& 0xff = 0xb ∧ Psr.s s.d.psr = true))
    (ha : s.cpu.read_reg (s.d.rs1 &&& 0x1f) 0 &&& 3 = 0)
    (h : (DataOp.casa (s.cpu.read_reg (s.d.rs1 &&& 0x1f) 0)
      (s.cpu.read_reg (s.d.imm_disp_rs2 &&& 0x1f &&& 0x1f) 0) (s.cpu.read_reg (s.d.rd &&& 0x1f) 0)
      (decide ((s.d.imm_disp_rs2 >>> 5) &&& 0xff = 0xb))).fails E.mc ⟨s.mmu, s.mem⟩
      = .ok true t) : Refuses (CASA E) s t := by
  obtain ⟨r, hr, h0⟩ := map_ok_iff.mp h
  unfold Refuses
  rw [CASA_ready hok ha, bind_ok (onMMU_ok hr)]
  exact endAtomic_refuses hnf (by simpa using h0) _

include hpsr in
/-- **Refusal**: a data instruction that is ready records the data access exception when its
access fails, the accesses of the FSR excepted. -/
theorem exec_refuses {a : DataOp} (h : dataOp s.cpu s.d = some a)
    (ha : a.fails E.mc ⟨s.mmu, s.mem⟩ = .ok true t)
    (hf : s.d.function ≠ .LDFSR_impl ∧ s.d.function ≠ .STFSR_impl) (k : M δ Unit) :
    Refuses (s.d.function.exec E k) s t := by
  unfold dataOp at h
  cases hfn : s.d.function <;> rw [hfn] at h hf <;>
    simp only [Option.ite_none_right_eq_some, Option.some.injEq, decide_eq_true_eq,
      Bool.and_eq_true, reduceCtorEq] at h
  case LD | LDUB | LDUH | LDSB | LDSH => obtain ⟨hr, rfl⟩ := h; exact load_refuses hnf hpsr hr ha
  case ST | STB | STH => obtain ⟨hr, rfl⟩ := h; exact store_refuses hnf hpsr hr ha
  case LDD =>
    obtain ⟨⟨he, hr⟩, rfl⟩ := h
    rw [hpsr] at ha
    obtain ⟨r, hx, h0, hm⟩ := pair_fails ha
    exact dataAccess64_refuses hnf he hr (load64_fails hx h0) (msb_or hm)
  case STD =>
    obtain ⟨⟨he, hr⟩, rfl⟩ := h
    rw [hpsr] at ha
    obtain ⟨r, hx, -, hm⟩ := pair_fails ha
    exact dataAccess64_refuses hnf he hr (store64_fails hx) (msb_or hm)
  case LDF_impl =>
    obtain ⟨⟨hfp, hr⟩, rfl⟩ := h
    rw [hpsr] at ha
    obtain ⟨r, hx, -, hm⟩ := word_fails ha
    exact fp_refuses hfp hr (fun h => by cases h) rfl (memAccess_ok hx) (test_refuses hnf hm _)
  case STF_impl =>
    obtain ⟨⟨hfp, hr⟩, rfl⟩ := h
    rw [hpsr] at ha
    obtain ⟨r, hx, -, hm⟩ := word_fails ha
    exact fp_refuses hfp hr (fun h => by cases h) (bind_ok rfl) (memAccess_ok hx)
      (test_refuses hnf hm _)
  case LDDF_impl =>
    obtain ⟨⟨⟨hfp, he⟩, hr⟩, rfl⟩ := h
    rw [hpsr] at ha
    obtain ⟨r, hx, -, hm⟩ := pair_fails ha
    exact fp_refuses hfp hr (fun _ => he) rfl (memAccess2_ok hx) (test_refuses hnf hm _)
  case STDF_impl =>
    obtain ⟨⟨⟨hfp, he⟩, hr⟩, rfl⟩ := h
    rw [hpsr] at ha
    obtain ⟨r, hx, -, hm⟩ := pair_fails ha
    exact fp_refuses hfp hr (fun _ => he) (bind_ok rfl) (memAccess2_ok hx)
      (test_refuses hnf hm _)
  case SWAP => obtain ⟨hr, rfl⟩ := h; exact swapWord_refuses hnf hr ha
  case SWAPA =>
    obtain ⟨⟨⟨hasi, hs⟩, hr⟩, rfl⟩ := h
    have : SWAPA E s = swapWord E s := by
      unfold SWAPA
      rw [getD_bind, if_pos hasi, if_pos hs]
    unfold Refuses
    simp only [Handler.exec]
    rw [this]
    exact swapWord_refuses hnf hr ha
  case LDSTUB => subst h; exact LDSTUB_refuses ha
  case CASA =>
    obtain ⟨⟨hok, hr⟩, rfl⟩ := h
    exact CASA_refuses hnf hok hr ha
  case LDFSR_impl => exact absurd rfl hf.1
  case STFSR_impl => exact absurd rfl hf.2

end Refuse

/-- The trap type once the data access exception is recorded. -/
def recorded (tt : u32) : u32 := (tt &&& ~~~0xff#32) ||| 9

lemma Refuses.taken {m : M δ Unit} {s : St δ} {t : MMUSt δ} (h : Refuses m s t)
    (het : Psr.et s.cpu.psr = true) : ∃ c : CPU, s.cpu.Marked c ∧
      m s = .ok () { s.after t with cpu := { c with trap_type := recorded s.cpu.trap_type } } := by
  obtain ⟨c, hk, hc⟩ := h
  refine ⟨c, hk, ?_⟩
  rw [hc, trap_eq, if_pos (by rw [hk.psr]; exact het), hk.trap_type]
  rfl

lemma Refuses.throws {m : M δ Unit} {s : St δ} {t : MMUSt δ} (h : Refuses m s t)
    (het : Psr.et s.cpu.psr = false) : ¬ Returns (m s) := by
  obtain ⟨c, hk, hc⟩ := h
  rw [hc, trap_eq, if_neg (by rw [hk.psr, het]; decide)]
  exact id

/-! ### The FSR -/

lemma exec_fsr_completes {E : Board δ} {s : St δ} {t : MMUSt δ} {a : DataOp}
    (h : dataOp s.cpu s.d = some a) {b : Bool} (ha : a.fails E.mc ⟨s.mmu, s.mem⟩ = .ok b t)
    (hf : s.d.function = .LDFSR_impl ∨ s.d.function = .STFSR_impl) (k : M δ Unit) :
    ∃ u, s.d.function.exec E k s = .ok () u ∧ u.d = s.d.next := by
  unfold dataOp at h
  rcases hf with hf | hf <;> rw [hf] at h ⊢ <;>
    simp only [Option.ite_none_right_eq_some, Option.some.injEq, decide_eq_true_eq,
      Bool.and_eq_true] at h <;>
    obtain ⟨⟨hfp, hr⟩, rfl⟩ := h <;>
    obtain ⟨r, s₁, hx, hp⟩ := bind_ok_iff.mp ha
  · exact ⟨_, (fpAccess_made hfp hr (fun h => by cases h) rfl (onMMU_ok hx)).trans rfl, rfl⟩
  · exact ⟨_, (fpAccess_made hfp hr (fun h => by cases h) (bind_ok rfl) (onMMU_ok hx)).trans rfl, rfl⟩

/-! ### The instruction -/

/-- The data access exception is recorded and the program counters have not advanced. -/
def FaultTaken (s u : St δ) : Prop :=
  u.cpu.trap_type = recorded s.cpu.trap_type ∧ u.cpu.pc = s.cpu.pc ∧ u.cpu.npc = s.cpu.npc

lemma write_back_pc (c : CPU) (d : DecodeStruct) :
    (c.write_back d).pc = d.pc ∧ (c.write_back d).npc = d.npc := by
  unfold CPU.write_back CPU.write_reg
  dsimp only
  split_ifs <;> exact ⟨rfl, rfl⟩

/-- **Failed accesses**: with traps enabled and the no-fault bit clear, a data instruction that
is ready and whose access reports a failure takes the data access exception and does not
advance, unless it loads or stores the FSR. -/
theorem failed_access_traps_iff {E : Board δ} {s : St δ} (het : Psr.et s.cpu.psr = true)
    (hnf : s.mmu.get_no_fault = false) {a : DataOp} (h : dataOp s.cpu s.instr = some a)
    {t : MMUSt δ} (ha : a.fails E.mc ⟨s.mmu, s.mem⟩ = .ok true t) :
    (∃ u, excute_one E s = .ok () u ∧ FaultTaken s u) ↔
      s.instr.function ≠ .LDFSR_impl ∧ s.instr.function ≠ .STFSR_impl := by
  obtain ⟨hpc, hnpc, -⟩ := instr_kept s
  rw [excute_one_instr]
  constructor
  · rintro ⟨u, hu, -, -, hn⟩
    refine not_or.mp fun hf => ?_
    -- The FSR access has gone on to the next instruction.
    obtain ⟨w, hw, hd⟩ := exec_fsr_completes (s := { s with d := s.instr }) h ha hf
      (throwHost .stack_overflow)
    rw [hw] at hu
    cases hu
    have := (write_back_pc w.cpu w.d).2
    rw [hn, hd] at this
    have h4 : s.cpu.npc = s.cpu.npc + 4 := this.trans (congrArg (· + 4) hnpc)
    have := BitVec.self_eq_add_right.mp h4
    cases this
  · intro hf
    have hnf' : t.mmu.get_no_fault = false := by
      unfold MMU.get_no_fault at hnf ⊢
      rw [(MMU.priv_ctx ((keepsPriv_fails E.mc a).ok ha)).2.2]
      exact hnf
    obtain ⟨c, -, hx⟩ := (exec_refuses (s := { s with d := s.instr }) hnf' (instr_psr s) h ha hf
      (throwHost .stack_overflow)).taken het
    rw [hx]
    obtain ⟨h1, h2⟩ := write_back_pc { c with trap_type := recorded s.cpu.trap_type } s.instr
    exact ⟨_, rfl, write_back_trap_type _ _, h1.trans hpc, h2.trans hnpc⟩

/-- A load from an unmapped address. -/
theorem failed_access_traps_iff_ld :
    (∃ u, excute_one (Board.ram []) (St.user 0xc0002100) = .ok () u ∧
      FaultTaken (St.user 0xc0002100) u) ↔
    (St.user 0xc0002100).instr.function ≠ .LDFSR_impl ∧
      (St.user 0xc0002100).instr.function ≠ .STFSR_impl :=
  failed_access_traps_iff (by decide) (by decide) (a := .word .load .b4 0x100 0 false) (by decide)
    rfl

/-- A load of the FSR from an unmapped address: the failure is reported, yet the instruction
completes. -/
theorem failed_ldfsr_completes :
    Psr.et (St.user 0xc1082100).cpu.psr = true ∧
      (St.user 0xc1082100).mmu.get_no_fault = false ∧
      dataOp (St.user 0xc1082100).cpu (St.user 0xc1082100).instr
        = some (.word .load .b4 0x100 0 true) ∧
      (∃ t, (DataOp.word .load .b4 0x100 0 true).fails (Board.ram []).mc
        ⟨(St.user 0xc1082100).mmu, (St.user 0xc1082100).mem⟩ = .ok true t) ∧
      ∃ u, excute_one (Board.ram []) (St.user 0xc1082100) = .ok () u ∧ u.cpu.trap_type = 0 ∧
        u.cpu.pc = 4 ∧ u.cpu.npc = 8 ∧ u.cpu.fsr = 0 :=
  ⟨by decide, by decide, by decide, ⟨_, rfl⟩, _, rfl, by decide, by decide, by decide, by decide⟩

end SparcEmu
