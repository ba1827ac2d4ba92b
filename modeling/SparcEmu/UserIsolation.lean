import SparcEmu.Faults
import SparcEmu.Isolation

/-!
User-mode isolation. An instruction of the user neither changes nor sees what the current context
maps without user access, but for two: loading and storing the FSR access memory as the supervisor.
-/

namespace SparcEmu

open Lib.Effect Lib.Bits

variable {δ : Type} {E : Board δ}

/-! ### Instructions side by side -/

/-- The processors agree, and the kept bytes are those of the start. Until the one access to memory
neither MMU nor memory has changed. -/
structure Beside (Kp : Nat → Int → Prop) (s₀ t₀ : St δ) (i : Phase) (s t : St δ) : Prop where
  cpu : s.cpu = t.cpu
  d : s.d = t.d
  control : s.mmu.control_reg = t.mmu.control_reg
  keeps : Keeps Kp s₀.mem.bytes t₀.mem.bytes s.mem.bytes t.mem.bytes
  early : i.Early → s.bus = s₀.bus ∧ t.bus = t₀.bus
  quiet : i = .quiet → s.cpu = s₀.cpu ∧ s.d = s₀.instr

/-- A program that takes the same course in both machines. -/
abbrev Lockstep (Kp : Nat → Int → Prop) (s₀ t₀ : St δ) : Kind HostError (St δ) Phase :=
  Sim (Beside Kp s₀ t₀) fun s t =>
    s.cpu = t.cpu ∧ Keeps Kp s₀.mem.bytes t₀.mem.bytes s.mem.bytes t.mem.bytes

variable {α : Type}

section Steps

variable {Kp : Nat → Int → Prop} {s₀ t₀ : St δ} {i : Phase}

lemma Beside.change {s t : St δ} (h : Beside Kp s₀ t₀ i s t) {j : Phase} (hj : j ≠ .quiet)
    (he : j.Early → i.Early) (f : CPU → CPU) (g : DecodeStruct → DecodeStruct) :
    Beside Kp s₀ t₀ j { s with cpu := f s.cpu, d := g s.d } { t with cpu := f t.cpu, d := g t.d } where
  cpu := by rw [h.cpu]
  d := by rw [h.d]
  control := h.control
  keeps := h.keeps
  early hi := h.early (he hi)
  quiet hi := absurd hi hj

lemma not_early_done : ¬ Phase.Early .done := by rintro (h | h) <;> cases h

lemma lockstep_getD :
    Lockstep Kp s₀ t₀ DecodeStruct .quiet getD fun d j => d = s₀.instr ∧ j = .quiet := by
  intro s t h
  refine Or.inl ⟨_, s, t, .quiet, rfl, ?_, ⟨(h.quiet rfl).2, rfl⟩, h⟩
  rw [h.d]
  rfl

lemma lockstep_getCPU :
    Lockstep Kp s₀ t₀ CPU .quiet getCPU fun c j => c = s₀.cpu ∧ j = .quiet := by
  intro s t h
  refine Or.inl ⟨_, s, t, .quiet, rfl, ?_, ⟨(h.quiet rfl).1, rfl⟩, h⟩
  rw [h.cpu]
  rfl

lemma lockstep_modD (f : DecodeStruct → DecodeStruct) :
    Lockstep Kp s₀ t₀ Unit i (modD f) fun _ j => j = .done :=
  fun s t h => Or.inl ⟨(), _, _, .done, rfl, rfl, rfl,
    h.change (by decide) (fun h => absurd h not_early_done) id f⟩

lemma lockstep_modCPU (f : CPU → CPU) :
    Lockstep Kp s₀ t₀ Unit i (modCPU f) fun _ j => j = .done :=
  fun s t h => Or.inl ⟨(), _, _, .done, rfl, rfl, rfl,
    h.change (by decide) (fun h => absurd h not_early_done) f id⟩

lemma lockstep_trap (n : u32) :
    Lockstep Kp s₀ t₀ Unit i (trap n) fun _ j => j = .trapped := by
  intro s t h
  rw [trap_eq, trap_eq, ← h.cpu, ← h.d]
  split_ifs
  · refine Or.inl ⟨(), _, _, .trapped, rfl, rfl, rfl, rfl, rfl, h.control, h.keeps, ?_, ?_⟩
    · rintro (e | e) <;> cases e
    · intro e
      cases e
  · exact Or.inr ⟨_, _, _, rfl, rfl, rfl, h.keeps⟩

lemma lockstep_onMMU {m : MmuM δ α} {Q : α → Phase → Prop} (hi : i.Early)
    (hm : MMU.Both Kp s₀.mem.bytes t₀.mem.bytes m s₀.bus t₀.bus) (hp : MMU.KeepsPriv m)
    (h₀ : s₀.mmu = t₀.mmu) {b : α → Bool} (hQ : ∀ a, Q a (.asked (b a))) :
    Lockstep Kp s₀ t₀ α i (onMMU m) Q := by
  intro s t h
  obtain ⟨hs, ht⟩ := h.early hi
  unfold onMMU
  rw [show (⟨s.mmu, s.mem⟩ : MMUSt δ) = s₀.bus from hs,
    show (⟨t.mmu, t.mem⟩ : MMUSt δ) = t₀.bus from ht]
  rcases hm with ⟨a, s', t', e1, e2, hk⟩ | ⟨e, s', t', e1, e2, hk⟩
  · have c1 := (MMU.priv_ctx (hp.ok e1)).2.2
    have c2 := (MMU.priv_ctx (hp.ok e2)).2.2
    rw [e1, e2]
    refine Or.inl ⟨a, _, _, .asked (b a), rfl, rfl, hQ a, h.cpu, h.d, ?_, hk, ?_, ?_⟩
    · show s'.mmu.control_reg = t'.mmu.control_reg
      rw [c1, c2]
      exact congrArg MMU.control_reg h₀
    · rintro (e | e) <;> cases e
    · intro e
      cases e
  · rw [e1, e2]
    exact Or.inr ⟨e, _, _, rfl, rfl, h.cpu, hk⟩

end Steps

/-! ### Accesses as the supervisor -/

namespace MMU

variable {mc : MCtrl δ} {s t : MMUSt δ} {rw : Intent} {va : u32} {r : u32 × u8} {sup : Bool}

/-- The access goes to memory, through this pointer: the L0 cache has it, or the entry of the
address grants the access, the translation does not throw and the bank is memory. -/
def Reaches (mc : MCtrl δ) (s : MMUSt δ) (rw : Intent) (va : u32) (sup : Bool) (p : HostPtr) :
    Prop :=
  s.mmu.l0Hit rw va sup = some p ∨
  (s.mmu.l0Hit rw va sup = none ∧ ∃ r i b, (tables mc s).leaf s.mmu.ctx_n va = some r ∧
    permFault r.1 rw sup r.2 = 0 ∧
    (((s.mmu.tlb rw).lookup s.mmu.ctx_n va).1 = none → s.mmu.ctx_n ≤ 255 ∧ r.2 ≠ 0) ∧
    mc.get_bank (physAddr va r.1 r.2) = some (i, b) ∧ b.isDevice = false ∧
    p = ⟨i, b.offset (physAddr va r.1 r.2)⟩)

lemma xlat_grants (hS : Settled mc s.mmu r rw va sup)
    (hl : (tables mc s).leaf s.mmu.ctx_n va = some r) (rep : Bool) :
    (∃ res m, s.mmu.xlat r va sup rw rep = .ok (res, m) ∧ res.ok = true) ↔
      permFault r.1 rw sup r.2 = 0 ∧
      (((s.mmu.tlb rw).lookup s.mmu.ctx_n va).1 = none → s.mmu.ctx_n ≤ 255 ∧ r.2 ≠ 0) := by
  constructor
  · rintro ⟨res, m, hx, hok⟩
    obtain ⟨h0, -⟩ := hS.granted hx hok
    refine ⟨h0, fun hn => ?_⟩
    unfold xlat at hx
    split at hx
    · next hf => rw [hf] at hn; cases hn
    · split_ifs at hx with hc
      refine ⟨BitVec.not_lt.mp hc, fun hr => ?_⟩
      have h2 := Tables.leaf_granted hl h0
      have hi : (s.mmu.tlb rw).insert s.mmu.ctx_n va r.2 r.1
          = .error (.logic_error "Level !=1,2,3 not allowed") := by
        unfold TLB.insert
        rw [if_pos (by simpa [TLB.is_valid] using h2), hr]
        rfl
      rw [hi] at hx
      cases hx
  · rintro ⟨h0, hn⟩
    have h2 := Tables.leaf_granted hl h0
    unfold xlat
    rcases hf : (s.mmu.tlb rw).lookup s.mmu.ctx_n va with ⟨_ | q, t⟩
    · obtain ⟨hc, hr⟩ := hn (by rw [hf])
      obtain ⟨t', ht⟩ := insert_of_leaf hl (fun _ => hr) (s.mmu.tlb rw)
      dsimp only
      rw [if_neg (BitVec.not_lt.mpr hc), ht]
      exact ⟨_, _, rfl, by unfold outcome; rw [if_pos h0]⟩
    · obtain ⟨rfl, -⟩ := hS.tlb q (by rw [hf])
      have hk := (permOk_iff h2 rw sup q.2).mpr h0
      exact ⟨_, _, rfl, by unfold hitOutcome; rw [if_pos hk]⟩

theorem plan_ptr_iff (hC : Consistent mc s) (hl : (tables mc s).leaf s.mmu.ctx_n va = some r)
    (rep : Bool) (p : HostPtr) :
    (s.mmu.plan mc r rw va sup rep).1 = .ptr p ↔ Reaches mc s rw va sup p := by
  have hS := hC.settled hl rw sup
  have hg := xlat_grants hS hl rep
  unfold MMU.plan Reaches
  cases h0 : s.mmu.l0Hit rw va sup with
  | some q => simp
  | none =>
    simp only [reduceCtorEq, false_or, true_and]
    constructor
    · intro hp
      cases hx : s.mmu.xlat r va sup rw rep with
      | error e => rw [hx] at hp; cases hp
      | ok z =>
        obtain ⟨res, m⟩ := z
        rw [hx] at hp
        dsimp only at hp
        by_cases hok : res.ok = true
        · rw [if_pos hok] at hp
          obtain ⟨hpf, hpa⟩ := hS.granted hx hok
          have hr := (hg.mp ⟨res, m, hx, hok⟩).2
          rw [hpa] at hp
          unfold busPlan at hp
          cases hb : mc.get_bank (physAddr va r.1 r.2) with
          | none => rw [hb] at hp; cases hp
          | some w =>
            obtain ⟨i, b⟩ := w
            rw [hb] at hp
            dsimp only at hp
            cases hk : b.get_ptr with
            | error e => rw [hk] at hp; cases hp
            | ok v =>
              have hd := IMemoryBank.get_ptr_eq (b := b) (by rw [hk]; rfl)
              rw [hd] at hp
              cases hv : b.isDevice with
              | true => rw [hv] at hp; cases hp
              | false =>
                rw [hv] at hp
                cases hp
                exact ⟨r, i, b, hl, hpf, hr, hb, hv, rfl⟩
        · rw [if_neg hok] at hp
          cases hp
    · rintro ⟨r', i, b, hl', hpf, hr, hb, hd, rfl⟩
      obtain rfl := Option.some.inj (hl'.symm.trans hl)
      obtain ⟨res, m, hx, hok⟩ := hg.mpr ⟨hpf, hr⟩
      rw [hx]
      dsimp only
      rw [if_pos hok, (hS.granted hx hok).2]
      unfold busPlan
      rw [hb]
      dsimp only
      rw [IMemoryBank.get_ptr_memory hd]

/-! ### An access of either mode in two machines -/

section Either

variable {Kp : Nat → Int → Prop} {size : AccessSize} {v : u32}

structure SameView (mc : MCtrl δ) (s t : MMUSt δ) : Prop where
  mmu : s.mmu = t.mmu
  dev : s.mem.dev = t.mem.dev
  leaf : ∀ va, (tables mc t).leaf t.mmu.ctx_n va = (tables mc s).leaf s.mmu.ctx_n va

lemma SameView.refl (s : MMUSt δ) : SameView mc s s := ⟨rfl, rfl, fun _ => rfl⟩

lemma Apart.sameView {Hid : Nat → Int → Prop} (h : Apart mc Hid s t) : SameView mc s t :=
  ⟨h.mmu, h.dev, h.leaf⟩

lemma Both.mono {Kp' : Nat → Int → Prop} {x y : HostBytes} {m : MmuM δ α} (h : Both Kp' x y m s t)
    (hk : ∀ i o, Kp i o → Kp' i o) : Both Kp x y m s t := by
  rcases h with ⟨a, s', t', e1, e2, h⟩ | ⟨e, s', t', e1, e2, h⟩
  · exact Or.inl ⟨a, s', t', e1, e2, fun hh => h.left (hk _ _ hh), fun hh => h.right (hk _ _ hh)⟩
  · exact Or.inr ⟨e, s', t', e1, e2, fun hh => h.left (hk _ _ hh), fun hh => h.right (hk _ _ hh)⟩

lemma both_of_ptr (hV : SameView mc s t) (hC : Consistent mc s) (he : s.mmu.get_enabled = true)
    (hrw : rw ≠ .execute)
    (hptr : ∀ p m, Reaches mc s rw va sup p →
      Both Kp s.mem.bytes t.mem.bytes (ptrAccess rw size p v) ⟨m, s.mem⟩ ⟨m, t.mem⟩) :
    Both Kp s.mem.bytes t.mem.bytes (MemAccess mc rw size va v sup true) s t := by
  obtain ⟨r, hl⟩ := hC.leaf va
  have hs : MemAccess mc rw size va v sup true s = _ := MemAccess_plan he (fun _ => hl) size v true
  have ht : MemAccess mc rw size va v sup true t = _ :=
    MemAccess_plan (by rw [← hV.mmu]; exact he) (fun _ => (hV.leaf va).trans hl) size v true
  rw [← hV.mmu] at ht
  have hP := ((hC.settled hl rw sup).plan true).2
  have hr : ∀ p, (s.mmu.plan mc r rw va sup true).1 = .ptr p → _ := fun p =>
    (plan_ptr_iff hC hl true p).mp
  unfold Both
  rw [hs, ht]
  generalize (s.mmu.plan mc r rw va sup true).2 = m at hP
  cases hp : (s.mmu.plan mc r rw va sup true).1 with
  | throws e => exact Or.inr ⟨e, _, _, rfl, rfl, fun _ => rfl, fun _ => rfl⟩
  | fails code => exact Or.inl ⟨_, _, _, rfl, rfl, fun _ => rfl, fun _ => rfl⟩
  | ptr p => exact hptr p m (hr p hp)
  | bank i b pa =>
    -- a device: no byte of memory is touched, so all of them may be hidden
    have hd : b.isDevice = true := by rw [hp] at hP; exact hP
    have h2 : Two mc (fun _ _ => True) s.mem.bytes t.mem.bytes .same ⟨m, s.mem⟩ ⟨m, t.mem⟩ :=
      ⟨⟨fun _ => rfl, fun _ => rfl⟩, rfl, hV.dev, fun h => absurd trivial h⟩
    exact Both.mono (m := bankAccess mc rw size i b pa v)
      (both_of_side (side_bankAccess hd hrw (Or.inl rfl)) h2) fun _ _ _ => trivial

lemma both_load (hV : SameView mc s t) (hC : Consistent mc s) (he : s.mmu.get_enabled = true)
    (hread : ∀ p, Reaches mc s .load va sup p →
      ptrRead s.mem.bytes p size = ptrRead t.mem.bytes p size) :
    Both Kp s.mem.bytes t.mem.bytes (MemAccess mc .load size va v sup true) s t := by
  refine both_of_ptr hV hC he (by decide) fun p m hp => ?_
  have ht : ptrAccess .load size p v (⟨m, t.mem⟩ : MMUSt δ)
      = .ok (0, ptrRead s.mem.bytes p size) ⟨m, t.mem⟩ := by
    rw [hread p hp]
    rfl
  exact Or.inl ⟨_, _, _, rfl, ht, fun _ => rfl, fun _ => rfl⟩

lemma both_store (hV : SameView mc s t) (hC : Consistent mc s) (he : s.mmu.get_enabled = true)
    (hkeep : ∀ p, Reaches mc s .store va sup p → ∀ i o, Kp i o →
      ptrWrite s.mem.bytes p v size i o = s.mem.bytes i o ∧
      ptrWrite t.mem.bytes p v size i o = t.mem.bytes i o) :
    Both Kp s.mem.bytes t.mem.bytes (MemAccess mc .store size va v sup true) s t := by
  refine both_of_ptr hV hC he (by decide) fun p m hp => ?_
  exact Or.inl ⟨(0, v), _, _, rfl, rfl, fun hk => (hkeep p hp _ _ hk).1,
    fun hk => (hkeep p hp _ _ hk).2⟩

end Either

end MMU

/-! ### Instructions of the user -/

section User

variable {Hid Kp : Nat → Int → Prop} {s₀ t₀ : St δ} (hC : MMU.Consistent E.mc s₀.bus)
  (hA : MMU.Apart E.mc Hid s₀.bus t₀.bus) (he : s₀.mmu.get_enabled = true)
  (hu : Psr.s s₀.cpu.psr = false) (hKp : ∀ i o, Kp i o → Hid i o)

/-- In user mode only the FSR is accessed as the supervisor. -/
lemma dataOp_user {c : CPU} {d : DecodeStruct} {a : DataOp} (h : dataOp c d = some a)
    (hu : Psr.s d.psr = false) (hs : a.sup = true) :
    (Psr.ef d.psr = true ∧ d.ev &&& 3 = 0) ∧
      (d.function = .LDFSR_impl ∧ a = .word .load .b4 d.ev 0 true ∨
        d.function = .STFSR_impl ∧ a = .word .store .b4 d.ev c.fsr true) := by
  unfold dataOp at h
  cases hf : d.function <;> rw [hf] at h <;>
    simp only [Option.ite_none_right_eq_some, Option.some.injEq, decide_eq_true_eq,
      Bool.and_eq_true, reduceCtorEq] at h
  case LDFSR_impl => obtain ⟨hr, rfl⟩ := h; exact ⟨hr, Or.inl ⟨rfl, rfl⟩⟩
  case STFSR_impl => obtain ⟨hr, rfl⟩ := h; exact ⟨hr, Or.inr ⟨rfl, rfl⟩⟩
  case LDSTUB => subst h; exact absurd hs (by rw [DataOp.sup, hu]; decide)
  case CASA =>
    obtain ⟨⟨ha | ⟨-, ha⟩, -⟩, rfl⟩ := h
    · exact absurd (ha.symm.trans (of_decide_eq_true hs)) (by decide)
    · rw [hu] at ha
      cases ha
  all_goals
    obtain ⟨-, rfl⟩ := h
    exact absurd hs (by rw [DataOp.sup, hu]; decide)

section Steps

variable (hL : s₀.instr.function = .LDFSR_impl → Psr.ef s₀.instr.psr = true ∧ s₀.instr.ev &&& 3 = 0 →
    MMU.Both Kp s₀.mem.bytes t₀.mem.bytes
      (MMU.MemAccess E.mc .load .b4 s₀.instr.ev 0 true true) s₀.bus t₀.bus)
  (hS : s₀.instr.function = .STFSR_impl → Psr.ef s₀.instr.psr = true ∧ s₀.instr.ev &&& 3 = 0 →
    MMU.Both Kp s₀.mem.bytes t₀.mem.bytes
      (MMU.MemAccess E.mc .store .b4 s₀.instr.ev s₀.cpu.fsr true true) s₀.bus t₀.bus)

include hC hA he hu hKp hL hS

lemma both_call {a : DataOp} {op : MmuM δ α} {bad : α → Bool}
    (hop : dataOp s₀.cpu s₀.instr = some a) (hcall : a.Call E.mc α op bad) :
    MMU.Both Kp s₀.mem.bytes t₀.mem.bytes op s₀.bus t₀.bus := by
  have hfit := dataOp_fit hop
  cases hsup : a.sup with
  | true =>
    obtain ⟨hr, ⟨hf, rfl⟩ | ⟨hf, rfl⟩⟩ := dataOp_user hop (by rw [instr_psr]; exact hu) hsup
    · cases hcall
      exact hL hf hr
    · cases hcall
      exact hS hf hr
  | false =>
    cases hcall with
    | word => obtain rfl := hsup; exact (MMU.both_MemAccess hC hA he hfit.1 hfit.2 _).mono hKp
    | pair => obtain rfl := hsup; exact (MMU.both_pairAccess hC hA he hfit.1 hfit.2 _ _).mono hKp
    | swap => obtain rfl := hsup; exact (MMU.both_swap32 hC hA he hfit _).mono hKp
    | casa => obtain rfl := hsup; exact (MMU.both_casa32 hC hA he hfit _ _).mono hKp
    | ldstub => obtain rfl := hsup; exact (MMU.both_ldstub hC hA he _).mono hKp

/-- **Steps** of the user take the same course in both machines. -/
lemma lockstep_step {i : Phase} {m : M δ α} {Q : α → Phase → Prop}
    (h : Step E (Setup.of s₀ True True) α i m Q) : Lockstep Kp s₀ t₀ α i m Q := by
  cases h with
  | getCPU => exact lockstep_getCPU
  | getD => exact lockstep_getD
  | noFault =>
    intro s t h
    refine Or.inl ⟨_, s, t, _, rfl, ?_, rfl, h⟩
    unfold noFault MMU.get_no_fault
    rw [h.control]
  | modD _ _ => exact lockstep_modD _
  | modCPU _ _ => exact lockstep_modCPU _
  | mark hi _ =>
    exact fun s t h => Or.inl ⟨(), _, _, .marked, rfl, rfl, rfl,
      h.change (by decide) (fun _ => hi) _ id⟩
  | trap _ => exact lockstep_trap _
  | throw _ _ => exact fun s t h => Or.inr ⟨_, s, t, rfl, rfl, h.cpu, h.keeps⟩
  | access hi hop hcall hm =>
    intro s t h
    rw [hm s fun e => (h.quiet e).1, hm t fun e => h.cpu.symm.trans (h.quiet e).1]
    exact lockstep_onMMU hi (both_call hC hA he hu hKp hL hS hop hcall) hcall.keepsPriv hA.mmu
      (fun _ => Or.inl rfl) s t h
  | priv hn _ => exact absurd trivial hn

lemma lockstep_exec :
    Lockstep Kp s₀ t₀ Unit .quiet (s₀.instr.function.exec E (throwHost .stack_overflow)) Ends := by
  have hK : (Setup.of s₀ True True).Ok E :=
    ⟨instr_psr s₀, fun _ => (congrArg Psr.s (instr_psr s₀)).trans hu, fun _ => trivial,
      fun _ => trivial⟩
  exact (prog_exec hK).elim (sim_closed _ _) (lockstep_step hC hA he hu hKp hL hS)

end Steps

end User

/-! ### Isolation -/

structure CPU.SameValues (c c' : CPU) : Prop where
  globals : c.globals = c'.globals
  locals : c.locals = c'.locals
  outs : c.outs = c'.outs
  freg : c.freg = c'.freg
  fsr : c.fsr = c'.fsr
  y_reg : c.y_reg = c'.y_reg
  psr : c.psr = c'.psr
  pc : c.pc = c'.pc
  npc : c.npc = c'.npc
  trap_type : c.trap_type = c'.trap_type

lemma CPU.SameValues.of_eq {c c' : CPU} (h : c = c') : c.SameValues c' := by
  subst h
  exact ⟨rfl, rfl, rfl, rfl, rfl, rfl, rfl, rfl, rfl, rfl⟩

/-- Both instructions return, or both throw the same, with the same values in the processor. -/
def SameEnd : EStateM.Result HostError (St δ) Unit → EStateM.Result HostError (St δ) Unit → Prop
  | .ok _ s, .ok _ t => s.cpu.SameValues t.cpu
  | .error e s, .error e' t => e = e' ∧ s.cpu.SameValues t.cpu
  | _, _ => False

/-- The byte belongs to a page that the current context maps only without user access. The registers of
devices are no bytes: pages of them are left out here, and in `Secret` and `Reaches`. -/
def Guarded (E : Board δ) (s : St δ) (i : Nat) (o : Int) : Prop :=
  ∃ pa, E.mc.ByteOf pa i o ∧ (MMU.tables E.mc s.bus).Guarded s.mmu.ctx_n pa

/-- It belongs to such a page, and that page holds no page tables. -/
def Secret (E : Board δ) (s : St δ) (i : Nat) (o : Int) : Prop :=
  ∃ pa, E.mc.ByteOf pa i o ∧ (MMU.tables E.mc s.bus).Guarded s.mmu.ctx_n pa ∧
    (MMU.tables E.mc s.bus).TableFree s.mmu.ctx_n pa

/-- The machine with other bytes in its memory. -/
def St.withBytes (s : St δ) (h : HostBytes) : St δ := { s with mem := { s.mem with bytes := h } }

/-- The instruction changes no byte of the guarded pages, and machines that differ in secret bytes
only end with the same values. -/
structure Isolated (E : Board δ) (s : St δ) : Prop where
  unchanged : ∀ i o, Guarded E s i o →
    (final (excute_one E s)).mem.bytes i o = s.mem.bytes i o
  unseen : ∀ h : HostBytes, (∀ i o, ¬ Secret E s i o → h i o = s.mem.bytes i o) →
    SameEnd (excute_one E s) (excute_one E (s.withBytes h))

/-- The instruction loads the FSR from a word with a secret byte in it. -/
def LeaksFsr (E : Board δ) (s : St δ) : Prop :=
  s.instr.function = .LDFSR_impl ∧ Psr.ef s.cpu.psr = true ∧ s.instr.ev &&& 3 = 0 ∧
    ∃ p, MMU.Reaches E.mc s.bus .load s.instr.ev true p ∧
      ∃ k : Nat, k < 4 ∧ Secret E s p.bank (p.off + k)

/-- The instruction stores the FSR into a word with a guarded byte in it, and that byte differs
from the one stored there. -/
def SpoilsFsr (E : Board δ) (s : St δ) : Prop :=
  s.instr.function = .STFSR_impl ∧ Psr.ef s.cpu.psr = true ∧ s.instr.ev &&& 3 = 0 ∧
    ∃ p, MMU.Reaches E.mc s.bus .store s.instr.ev true p ∧
      ∃ k : Nat, k < 4 ∧ Guarded E s p.bank (p.off + k) ∧
        s.mem.bytes p.bank (p.off + k) ≠ (s.cpu.fsr >>> (8 * (3 - k))).setWidth 8

/-! ### One instruction in two machines -/

lemma instr_congr {s t : St δ} (hc : t.cpu = s.cpu) (hd : t.d = s.d) : t.instr = s.instr := by
  unfold St.instr entry hidden
  rw [hc, hd]
  cases breakpointAt s.cpu (decode s.cpu s.d) with
  | none => dsimp only; rw [hd]
  | some bp => rfl

lemma ends_lockstep {Kp : Nat → Int → Prop} {s t : St δ}
    (h : Lockstep Kp s t Unit .quiet (s.instr.function.exec E (throwHost .stack_overflow)) Ends)
    (hc : t.cpu = s.cpu) (hd : t.d = s.d) (hm : s.mmu = t.mmu) :
    SameEnd (excute_one E s) (excute_one E t) ∧ ∀ i o, Kp i o →
      (final (excute_one E s)).mem.bytes i o = s.mem.bytes i o := by
  have hi := instr_congr hc hd
  have h0 : Beside Kp s t .quiet { s with d := s.instr } { t with d := t.instr } := by
    refine ⟨hc.symm, hi.symm, by rw [hm], ⟨fun _ => rfl, fun _ => rfl⟩, fun _ => ⟨rfl, rfl⟩,
      fun _ => ⟨rfl, rfl⟩⟩
  rw [excute_one_instr, excute_one_instr, hi]
  rw [hi] at h0
  rcases h _ _ h0 with ⟨a, s', t', j, e1, e2, -, hj⟩ | ⟨e, s', t', e1, e2, hcpu, hk⟩
  · rw [e1, e2]
    refine ⟨?_, fun i o hko => hj.keeps.left hko⟩
    show CPU.SameValues (s'.cpu.write_back s'.d) (t'.cpu.write_back t'.d)
    exact .of_eq (by rw [hj.cpu, hj.d])
  · rw [e1, e2]
    exact ⟨⟨rfl, .of_eq hcpu⟩, fun i o hko => hk.left hko⟩

/-! ### The word of the FSR -/

variable {p : HostPtr}

namespace MMU

variable {mc : MCtrl δ} {s t : MMUSt δ} {rw : Intent} {va : u32} {sup : Bool}

lemma MemAccess_reaches (hC : Consistent mc s) (hV : SameView mc s t)
    (he : s.mmu.get_enabled = true) (hp : Reaches mc s rw va sup p) (size : AccessSize) (v : u32) :
    ∃ m, MemAccess mc rw size va v sup true t = ptrAccess rw size p v ⟨m, t.mem⟩ := by
  obtain ⟨r, hl⟩ := hC.leaf va
  have ht : MemAccess mc rw size va v sup true t = _ :=
    MemAccess_plan (by rw [← hV.mmu]; exact he) (fun _ => (hV.leaf va).trans hl) size v true
  rw [← hV.mmu, (plan_ptr_iff hC hl true p).mpr hp] at ht
  exact ⟨_, ht⟩

end MMU

lemma write_back_fsr (c : CPU) (d : DecodeStruct) : (c.write_back d).fsr = c.fsr := by
  unfold CPU.write_back CPU.write_reg
  dsimp only
  split_ifs <;> rfl

section Words

variable {s : St δ}

lemma excute_LDFSR (hf : s.instr.function = .LDFSR_impl) (hef : Psr.ef s.cpu.psr = true)
    (ha : s.instr.ev &&& 3 = 0) {m : MMU}
    (hx : MMU.MemAccess E.mc .load .b4 s.instr.ev 0 true true s.bus
      = MMU.ptrAccess .load .b4 p 0 ⟨m, s.mem⟩) :
    ∃ t, excute_one E s = .ok () t ∧ t.cpu.fsr = ptrRead s.mem.bytes p .b4 := by
  have ho := onMMU_ok (s := { s with d := s.instr }) (r := (0, ptrRead s.mem.bytes p .b4)) hx
  have h1 : Handler.exec E (throwHost .stack_overflow) .LDFSR_impl { s with d := s.instr } = _ :=
    fpAccess_made (by rw [instr_psr]; exact hef) ha (fun h => by cases h) rfl ho
  rw [excute_one_instr, hf, h1]
  exact ⟨_, rfl, write_back_fsr _ _⟩

lemma excute_STFSR (hf : s.instr.function = .STFSR_impl) (hef : Psr.ef s.cpu.psr = true)
    (ha : s.instr.ev &&& 3 = 0) {m : MMU}
    (hx : MMU.MemAccess E.mc .store .b4 s.instr.ev s.cpu.fsr true true s.bus
      = MMU.ptrAccess .store .b4 p s.cpu.fsr ⟨m, s.mem⟩) :
    (final (excute_one E s)).mem.bytes = ptrWrite s.mem.bytes p s.cpu.fsr .b4 := by
  have ho := onMMU_ok (s := { s with d := s.instr }) (r := (0, s.cpu.fsr)) hx
  have h1 : Handler.exec E (throwHost .stack_overflow) .STFSR_impl { s with d := s.instr } = _ :=
    fpAccess_made (by rw [instr_psr]; exact hef) ha (fun h => by cases h) (bind_ok rfl) ho
  rw [excute_one_instr, hf, h1]
  rfl

end Words

/-! ### The theorem -/

section Isolation

variable {s : St δ}

lemma guarded_apart (E : Board δ) (s : St δ) : MMU.Apart E.mc (Guarded E s) s.bus s.bus :=
  ⟨rfl, rfl, fun _ => rfl, fun _ => rfl, fun h => h⟩

lemma secret_apart {h : HostBytes} (hh : ∀ i o, ¬ Secret E s i o → h i o = s.mem.bytes i o) :
    MMU.Apart E.mc (Secret E s) s.bus (s.withBytes h).bus where
  mmu := rfl
  dev := rfl
  off hn := (hh _ _ hn).symm
  leaf va := by
    refine Tables.leaf_congr rfl fun a ha => MCtrl.wordAt_congr ha.aligned fun i o hne => ?_
    by_contra hn
    refine hne (hh i o fun hs => hn ?_)
    obtain ⟨pa, hb, -, hfree⟩ := hs
    exact ⟨pa, hb, hfree va a ha⟩
  guarded := by
    rintro i o ⟨pa, hb, hg, -⟩
    exact ⟨pa, hb, hg⟩

variable (hu : Psr.s s.cpu.psr = false) (he : s.mmu.get_enabled = true)
  (hC : MMU.Consistent E.mc s.bus)

include hu he hC

lemma unchanged_of_safe (hs : ¬ SpoilsFsr E s) {i : Nat} {o : Int} (hg : Guarded E s i o) :
    (final (excute_one E s)).mem.bytes i o = s.mem.bytes i o := by
  refine (ends_lockstep (lockstep_exec hC (guarded_apart E s) he hu (fun _ _ h => h) (fun _ _ =>
    MMU.both_load (MMU.SameView.refl _) hC he fun _ _ => rfl) fun hf hr => ?_) rfl rfl rfl).2 i o hg
  refine MMU.both_store (MMU.SameView.refl _) hC he fun p hp i o hg => ?_
  rw [and_self]
  rcases ptrWrite_cases s.mem.bytes p s.cpu.fsr i o with h | ⟨k, hk, rfl, rfl⟩
  · exact h
  · rw [ptrWrite_byte _ _ _ hk]
    by_contra hne
    rw [instr_psr] at hr
    exact hs ⟨hf, hr.1, hr.2, p, hp, k, hk, hg, fun h => hne h.symm⟩

lemma unseen_of_safe (hs : ¬ LeaksFsr E s) {h : HostBytes}
    (hh : ∀ i o, ¬ Secret E s i o → h i o = s.mem.bytes i o) :
    SameEnd (excute_one E s) (excute_one E (s.withBytes h)) := by
  have hA := secret_apart hh
  -- what is stored where does not depend on memory, so no byte need be kept
  refine (ends_lockstep (lockstep_exec hC hA he hu (fun _ _ (h : False) => h.elim)
    (fun hl hr => ?_) fun _ _ => MMU.both_store hA.sameView hC he fun _ _ _ _ hk => hk.elim)
    rfl rfl rfl).1
  refine MMU.both_load hA.sameView hC he fun p hp => ?_
  refine ptrRead_congr fun q h1 h2 => (hh p.bank q fun hsec => hs ?_).symm
  rw [instr_psr] at hr
  change q < p.off + (4 : Nat) at h2
  refine ⟨hl, hr.1, hr.2, p, hp, (q - p.off).toNat, by omega, ?_⟩
  rw [show p.off + ((q - p.off).toNat : Int) = q by omega]
  exact hsec

omit hu in
lemma not_leaks (h : Isolated E s) : ¬ LeaksFsr E s := by
  rintro ⟨hf, hef, ha, p, hp, k, hk, hsec⟩
  set g := setByte s.mem.bytes p.bank (p.off + k) (s.mem.bytes p.bank (p.off + k) + 1) with hgd
  have hg : ∀ i o, ¬ Secret E s i o → g i o = s.mem.bytes i o := by
    intro i o hn
    refine if_neg ?_
    rintro ⟨rfl, rfl⟩
    exact hn hsec
  have hV := (secret_apart hg).sameView
  obtain ⟨m, hx⟩ := MMU.MemAccess_reaches hC (MMU.SameView.refl _) he hp .b4 0
  obtain ⟨m', hx'⟩ := MMU.MemAccess_reaches hC hV he hp .b4 0
  have hi : (s.withBytes g).instr = s.instr := instr_congr rfl rfl
  obtain ⟨t, e1, f1⟩ := excute_LDFSR hf hef ha hx
  obtain ⟨t', e2, f2⟩ := excute_LDFSR (s := s.withBytes g) (by rw [hi]; exact hf) hef
    (by rw [hi]; exact ha) (by rw [hi]; exact hx')
  have hsame := h.unseen g hg
  rw [e1, e2] at hsame
  have hfsr : ptrRead s.mem.bytes p .b4 = ptrRead g p .b4 := by
    rw [← f1, hsame.fsr, f2]
    rfl
  have hb := ptrRead_byte s.mem.bytes p hk
  rw [hfsr, ptrRead_byte g p hk, hgd, setByte, if_pos ⟨rfl, rfl⟩] at hb
  generalize s.mem.bytes p.bank (p.off + k) = b at hb
  bv_omega

omit hu in
lemma not_spoils (h : Isolated E s) : ¬ SpoilsFsr E s := by
  rintro ⟨hf, hef, ha, p, hp, k, hk, hg, hne⟩
  obtain ⟨m, hx⟩ := MMU.MemAccess_reaches hC (MMU.SameView.refl _) he hp .b4 s.cpu.fsr
  have hw := h.unchanged _ _ hg
  rw [excute_STFSR hf hef ha hx, ptrWrite_byte _ _ _ hk] at hw
  exact hne hw.symm

end Isolation

/-- **User-mode isolation**: in user mode with the MMU on and caches that are consistent with the
tables, every instruction changes no guarded byte and shows no secret one, but for a load of the
FSR from a secret word and a store of the FSR over a guarded word. -/
theorem user_isolation {s : St δ} (hu : Psr.s s.cpu.psr = false) (he : s.mmu.get_enabled = true)
    (hC : MMU.Consistent E.mc s.bus) :
    Isolated E s ↔ ¬ LeaksFsr E s ∧ ¬ SpoilsFsr E s := by
  constructor
  · intro h
    exact ⟨not_leaks he hC h, not_spoils he hC h⟩
  · rintro ⟨hl, hs⟩
    exact ⟨fun _ _ hg => unchanged_of_safe hu he hC hs hg,
      fun _ hh => unseen_of_safe hu he hC hl hh⟩

/-! ### A machine whose memory belongs to the supervisor -/

def superBoard : Board Unit := Board.ram [(0x40000000, 0x1000000)]

/-- A processor in user mode that has fetched `opcode`; the MMU is on and its caches are empty. -/
def St.superPage (opcode : u32) : St Unit :=
  { St.user opcode with
    mmu := ({ MMU.init with control_reg := 1, ctx_tbl_ptr := 0x04000100 } : MMU).flush
    mem := ⟨superBytes, ()⟩ }

lemma superPage_consistent (opcode : u32) :
    MMU.Consistent superBoard.mc (St.superPage opcode).bus := by
  have hr : superBoard.mc.RamOnly := MCtrl.ram_ramOnly _
  exact MMU.Coherent.consistent (MMU.coherent_flush _ _) (show (0 : u32) ≤ 255 by decide)
    fun va => hr.leaf _ _ va

section SuperPage

variable (opcode va : u32)

abbrev superTables : Tables := MMU.tables superBoard.mc (St.superPage opcode).bus

lemma superTables_super : SuperTables superBytes := fun _ _ => rfl

lemma superTables_eq : superTables opcode = ⟨superMap.wordAt superBytes, 0x04000100⟩ := rfl

lemma superPage_root : (superTables opcode).word ((superTables opcode).root 0) = some 0x04000201 := by
  rw [superTables_eq]
  exact superTables_super.root (c := 0) (by decide)

lemma superPage_word :
    (superTables opcode).word (MMU.tableAddr 0x04000201 (MMU.ind1 va)) = some 0x0400001e := by
  rw [superTables_eq]
  exact superTables_super.entry va

lemma superPage_leaf : (superTables opcode).leaf 0 va = some (0x0400001e, 1) := by
  rw [superTables_eq]
  exact superTables_super.leaf (by decide) va

lemma superPage_guarded (pa : u32) : (superTables opcode).Guarded 0 pa := by
  intro va r hl _ _
  obtain rfl := Option.some.inj ((superPage_leaf opcode va).symm.trans hl)
  exact Or.inr rfl

lemma superPage_tableFree : (superTables opcode).TableFree 0 0x40000000 := by
  intro va a ha
  -- the walk ends at level 1
  have hend : ∀ {l0 l1 : u32}, (superTables opcode).word ((superTables opcode).root 0) = some l0 →
      (superTables opcode).word (MMU.tableAddr l0 (MMU.ind1 va)) = some l1 → ¬ l1 &&& 3 = 1 := by
    intro l0 l1 e0 e1
    obtain rfl := Option.some.inj ((superPage_root opcode).symm.trans e0)
    obtain rfl := Option.some.inj ((superPage_word opcode va).symm.trans e1)
    decide
  cases ha with
  | level0 =>
    intro h
    exact absurd (show (0x40001000 : u32) >>> 12 = 0x40000000 >>> 12 from h) (by decide)
  | level1 e0 _ =>
    obtain rfl := Option.some.inj ((superPage_root opcode).symm.trans e0)
    intro h
    have hd := toNat_shift h
    have hi := SuperTables.ind1_le va
    rw [SuperTables.addr, show BitVec.toNat (0x40000000 : u32) = 0x40000000 from rfl] at hd
    omega
  | level2 e0 _ e1 n1 | level3 e0 _ e1 n1 => exact absurd n1 (hend e0 e1)

lemma superPage_reaches {rw : Intent} (hrw : rw ≠ .execute) :
    MMU.Reaches superBoard.mc (St.superPage opcode).bus rw 0 true ⟨0, 0⟩ := by
  refine Or.inr ⟨?_, (0x0400001e, 1), 0, ⟨.RamBank, 0x40000000, 0x1000000, .Big⟩,
    superPage_leaf opcode 0, ?_, fun _ => ⟨show (0 : u32) ≤ 255 by decide, by decide⟩, rfl, rfl, rfl⟩
  · cases rw with
    | load => rfl
    | store => rfl
    | execute => exact absurd rfl hrw
  · cases rw <;> decide

end SuperPage

/-- An ordinary load, `ld [%g0], %g0`. -/
theorem user_isolation_load :
    Psr.s (St.superPage 0xc0002000).cpu.psr = false ∧
    (St.superPage 0xc0002000).mmu.get_enabled = true ∧
    MMU.Consistent superBoard.mc (St.superPage 0xc0002000).bus ∧
    Isolated superBoard (St.superPage 0xc0002000) := by
  have hf : (St.superPage 0xc0002000).instr.function = .LD := by decide
  refine ⟨by decide, by decide, superPage_consistent _, ?_⟩
  refine (user_isolation (by decide) (by decide) (superPage_consistent _)).mpr ⟨?_, ?_⟩
  · rintro ⟨h, -⟩
    rw [hf] at h
    cases h
  · rintro ⟨h, -⟩
    rw [hf] at h
    cases h

/-- `ld [%g0], %fsr` of the user shows a word of the supervisor's memory. -/
lemma ldfsr_crosses : ¬ Isolated superBoard (St.superPage 0xc1082000) := by
  intro h
  refine not_leaks (by decide) (superPage_consistent _) h ⟨by decide, by decide, by decide,
    ⟨0, 0⟩, superPage_reaches _ (by decide), 0, by decide, 0x40000000,
    ⟨⟨.RamBank, 0x40000000, 0x1000000, .Big⟩, rfl, rfl, rfl⟩, superPage_guarded _ _,
    superPage_tableFree _⟩

/-- `st %fsr, [%g0]` of the user overwrites it. -/
lemma stfsr_crosses : ¬ Isolated superBoard (St.superPage 0xc1282000) := by
  intro h
  -- the second byte of the FSR after reset is 6
  refine not_spoils (by decide) (superPage_consistent _) h ⟨by decide, by decide, by decide,
    ⟨0, 0⟩, superPage_reaches _ (by decide), 1, by decide, ⟨0x40000001,
      ⟨⟨.RamBank, 0x40000000, 0x1000000, .Big⟩, rfl, rfl, rfl⟩, superPage_guarded _ _⟩, ?_⟩
  decide

theorem fsr_crosses :
    (Psr.s (St.superPage 0xc1082000).cpu.psr = false ∧
      (St.superPage 0xc1082000).mmu.get_enabled = true ∧
      MMU.Consistent superBoard.mc (St.superPage 0xc1082000).bus ∧
      ¬ Isolated superBoard (St.superPage 0xc1082000)) ∧
    Psr.s (St.superPage 0xc1282000).cpu.psr = false ∧
      (St.superPage 0xc1282000).mmu.get_enabled = true ∧
      MMU.Consistent superBoard.mc (St.superPage 0xc1282000).bus ∧
      ¬ Isolated superBoard (St.superPage 0xc1282000) :=
  ⟨⟨by decide, by decide, superPage_consistent _, ldfsr_crosses⟩,
    by decide, by decide, superPage_consistent _, stfsr_crosses⟩

end SparcEmu
