import SparcEmu.Entry
import SparcEmu.RamAccess

/-!
The instructions with which a program in user mode can end the emulator, and that there are no
others: where all banks are RAM and the context table is in order, nothing else throws.
-/

namespace SparcEmu

open Lib.Effect

variable {δ : Type}

/-! ### Accesses that return -/

variable {α : Type}

namespace MMU

variable {mc : MCtrl δ} (hram : mc.RamOnly)

lemma XlatSafe.congr {s s' : MMUSt δ} (h : XlatSafe mc s) (hp : s'.mmu.priv = s.mmu.priv)
    (hm : s'.mem = s.mem) : XlatSafe mc s' := by
  obtain ⟨hctx, hptr, -⟩ := priv_ctx hp
  have ht : tables mc s' = tables mc s := by unfold tables; rw [hptr, hm]
  unfold XlatSafe
  rw [ht, hctx]
  exact h

lemma Clean.returns {success : α → Prop} {op : MmuM δ α} (h : Clean mc success op) {s : MMUSt δ}
    (hs : XlatSafe mc s) : Returns (op s) := by
  have := h s
  cases hx : op s with
  | ok r t => trivial
  | error e t => rw [hx] at this; exact absurd hs this

include hram

lemma MemAccess_cached_or {rw : Intent} {size : AccessSize} {va v : u32} {sup rep : Bool}
    {s s₁ : MMUSt δ} {r : cint × u32} (he : s.mmu.get_enabled = true)
    (h : MemAccess mc rw size va v sup rep s = .ok r s₁) :
    (s₁.mmu.l0Hit rw va sup).isSome = true ∨ s₁.mem = s.mem := by
  rcases hl0 : s.mmu.l0Hit rw va sup with _ | p
  · rcases ht : translate_va mc va sup rw rep s with ⟨res, s'⟩ | ⟨e, s'⟩
    · have hmem : s'.mem = s.mem := (fixesMem_translate_va hram _ _ _ _).ok ht
      rw [MemAccess_miss he hl0 ht] at h
      split_ifs at h with hok
      · rcases hb : mc.get_bank res.pa with _ | ⟨i, b⟩
        · obtain ⟨m, -, h₀⟩ := busAccess_none hb rw size va v sup rep true s'
          rw [h₀] at h
          cases h
          exact Or.inr hmem
        · obtain ⟨w, mem, h₀, -⟩ := busAccess_ram hram hb rw size va v sup rep true s'
          rw [h₀] at h
          cases h
          exact Or.inl (l0Fill_hit ..)
      all_goals
        cases h
        exact Or.inr hmem
    · rw [MemAccess_throws he hl0 ht] at h
      cases h
  · obtain ⟨w, mem, h₀, -⟩ := ptrAccess_ok p rw size v s
    rw [MemAccess_hit he hl0, h₀] at h
    cases h
    exact Or.inl (by rw [hl0]; rfl)

lemma returns_pairAccess {rw : Intent} {va v₀ v₁ : u32} {sup : Bool} (ha : va &&& 7 = 0)
    {s : MMUSt δ} (hs : XlatSafe mc s) : Returns (pairAccess mc rw va v₀ v₁ sup s) := by
  have second : ∀ r₀ s₁, MemAccess mc rw .b4 va v₀ sup true s = .ok r₀ s₁ →
      ∃ r₁ s₂, MemAccess mc rw .b4 (va + 4) v₁ sup true s₁ = .ok r₁ s₂ := by
    intro r₀ s₁ h
    have hpriv := (keepsPriv_MemAccess _ _ _ _ _ _).ok h
    have hen : s₁.mmu.get_enabled = s.mmu.get_enabled := by
      unfold get_enabled; rw [(priv_ctx hpriv).2.2]
    have of_mem : s₁.mem = s.mem →
        ∃ r₁ s₂, MemAccess mc rw .b4 (va + 4) v₁ sup true s₁ = .ok r₁ s₂ := by
      intro hm
      have := (clean_MemAccess hram rw .b4 (va + 4) v₁ sup true).returns (hs.congr hpriv hm)
      cases hx : MemAccess mc rw .b4 (va + 4) v₁ sup true s₁ with
      | ok r t => exact ⟨r, t, rfl⟩
      | error e t => rw [hx] at this; exact this.elim
    cases he : s.mmu.get_enabled with
    | false =>
      obtain ⟨r, t, h', -⟩ := busAccess_clean hram rw .b4 (va + 4) v₁ (va + 4) sup true false s₁
      exact ⟨r, t, by rw [MemAccess_off (by rw [hen, he]), h']⟩
    | true =>
      rcases MemAccess_cached_or hram he h with hl0 | hm
      · obtain ⟨r, t, h', -⟩ := MemAccess_cached (samePage_add_four ha) (by rw [hen, he]) hl0 mc v₁
          true
        exact ⟨r, t, h'⟩
      · exact of_mem hm
  have first := (clean_MemAccess hram rw .b4 va v₀ sup true).returns hs
  unfold pairAccess
  cases h : MemAccess mc rw .b4 va v₀ sup true s with
  | ok r₀ s₁ =>
    obtain ⟨r₁, s₂, h'⟩ := second r₀ s₁ h
    rw [bind_ok h, bind_ok h']
    trivial
  | error e s₁ => rw [h] at first; exact first.elim

end MMU

/-! ### Nothing else throws -/

section Steps

variable {E : Board δ} {s₀ : St δ}

/-- Until the access the MMU and memory are those of `s₀`; until the instruction has taken
effect, traps are enabled as in `s₀`. -/
def Enabled (s₀ : St δ) (i : Phase) (s : St δ) : Prop :=
  match i with
  | .quiet => s = { s₀ with d := s₀.instr }
  | .marked => s.cpu.psr = s₀.cpu.psr ∧ s.mmu = s₀.mmu ∧ s.mem = s₀.mem
  | .asked _ => s.cpu.psr = s₀.cpu.psr
  | .done | .trapped => True

variable {i : Phase}

lemma Enabled.psr {s : St δ} (h : Enabled s₀ i s) (hi : i.Open) : s.cpu.psr = s₀.cpu.psr := by
  cases i with
  | quiet => unfold Enabled at h; rw [h]
  | marked => exact h.1
  | asked => exact h
  | done | trapped => exact hi.elim

lemma Enabled.early {s : St δ} (h : Enabled s₀ i s) (hi : i.Early) :
    s.mmu = s₀.mmu ∧ s.mem = s₀.mem := by
  rcases hi with rfl | rfl
  · unfold Enabled at h; rw [h]; exact ⟨rfl, rfl⟩
  · exact h.2

variable (hram : E.mc.RamOnly) (hsafe : MMU.XlatSafe E.mc ⟨s₀.mmu, s₀.mem⟩)
  (het : Psr.et s₀.cpu.psr = true)

include hram hsafe het

omit het in
lemma DataOp.Call.returns {a : DataOp} {op : MmuM δ α} {bad : α → Bool} (h : a.Call E.mc α op bad)
    (hfit : a.Fit) : Returns (op ⟨s₀.mmu, s₀.mem⟩) := by
  cases h with
  | word => exact (MMU.clean_MemAccess hram _ _ _ _ _ _).returns hsafe
  | pair => exact MMU.returns_pairAccess hram hfit.2 hsafe
  | swap => exact (MMU.clean_atomic_swap32 hram _ _ _).returns hsafe
  | casa => exact (MMU.clean_atomic_casa32 hram _ _ _ _).returns hsafe
  | ldstub => exact (MMU.clean_ldstub hram _ _).returns hsafe

lemma enabled_step {m : M δ α} {Q : α → Phase → Prop}
    (h : Step E (Setup.of s₀ True False) α i m Q) :
    Spec (Enabled s₀) (fun _ _ => False) α i m Q := by
  cases h with
  | getCPU | getD => exact fun s hs => ⟨.quiet, ⟨by rw [show s = _ from hs]; rfl, rfl⟩, hs⟩
  | noFault => exact fun s hs => ⟨_, rfl, hs⟩
  | modD hi hf | modCPU hi hf => exact fun s hs => ⟨.done, rfl, trivial⟩
  | mark hi hf =>
    intro s hs
    refine ⟨.marked, rfl, ?_, Enabled.early (s := s) hs hi⟩
    exact (congrArg CPU.psr (hf s.cpu).1).trans (Enabled.psr hs hi.open)
  | trap hi =>
    intro s hs
    rw [trap_eq, Enabled.psr hs hi.open, if_pos het]
    exact ⟨.trapped, rfl, trivial⟩
  | throw h _ => exact h.elim
  | @access _ _ _ _ op _ hi hop hcall hm =>
    refine Spec.access hm (fun s hs => by rw [show s = _ from hs]; rfl) fun s hs => ?_
    have hret := hcall.returns hram hsafe (dataOp_fit hop)
    obtain ⟨h1, h2⟩ := Enabled.early hs hi
    unfold onMMU
    rw [h1, h2]
    cases hx : op ⟨s₀.mmu, s₀.mem⟩ with
    | ok r t => exact ⟨_, Or.inl rfl, Enabled.psr (s := s) hs hi.open⟩
    | error e t => rw [hx] at hret; exact hret
  | priv hu _ => exact absurd trivial hu

end Steps

/-! ### The instructions that do -/

section Crashes

variable {E : Board δ} {s : St δ}

lemma throws_bind {β : Type} {m : M δ α} {f : α → M δ β} {s : St δ}
    (h : ∀ a t, m s = .ok a t → ¬ Returns (f a t)) : ¬ Returns ((m >>= f) s) := by
  cases hx : m s with
  | ok a t => rw [bind_ok hx]; exact h a t hx
  | error e t => rw [bind_error hx]; exact id

lemma compare_throws {opf quiet signal fcc : u32} {nan : Bool} (hq : opf ≠ quiet)
    (hs : opf ≠ signal) (s : St δ) : ¬ Returns (compare opf quiet signal fcc nan s) := by
  unfold compare
  rw [if_neg hq, if_neg hs]
  exact throws_bind fun _ _ _ => throws_bind fun _ _ _ => id

lemma FOP2_throws (h : compareUnknown s.d) : ¬ Returns (FOP2_impl E s) := by
  unfold compareUnknown at h
  dsimp only at h
  unfold FOP2_impl
  rw [getD_bind, getCPU_bind]
  dsimp only
  rw [if_neg (by rw [h.1]; decide)]
  have h2 := h.2
  split_ifs at h2 ⊢ with hw hr
  · obtain ⟨⟨h1, h2, h3⟩, -⟩ := h2
    rcases hr with hr | hr | hr
    · exact absurd h1 hr
    · exact absurd h2 hr
    · exact absurd h3 hr
  · exact compare_throws h2.2.1 h2.2.2 s
  · exact compare_throws h2.1 h2.2 s

lemma DIV_throws (h : divOverflows s.cpu s.d) : ¬ Returns (DIV s) := by
  have hd : divide s.cpu s.d = .error .sigfpe := by
    unfold divide hostDiv
    rw [h.2.1, h.2.2.1, h.2.2.2]
    simp only [ne_eq, h.1, not_false_eq_true, decide_true]
    decide
  unfold DIV
  rw [getD_bind, getCPU_bind,
    hd, h.2.2.2, if_neg (by decide)]
  exact id

lemma WRY_blocks (h : neverWoken E s.cpu s.d) : ¬ Returns (WRY E s) := by
  unfold WRY enter_powerdown
  rw [getD_bind, getCPU_bind, h.1, if_neg (by decide), if_pos rfl, if_pos h.2.1]
  refine throws_bind fun _ _ hx => ?_
  rw [getCPU_bind, h.2.2.1, h.2.2.2] at hx
  cases hx

/-- The instruction that a call in state `s` executes is one that does not return. -/
def Crashes (E : Board δ) (s : St δ) : Prop := Crash E s.cpu s.instr

/-- **Crashing instructions** throw, in every state. -/
lemma Crashes.throws (h : Crashes E s) : ¬ Returns (excute_one E s) := by
  suffices hx : ¬ Returns (s.instr.function.exec E (throwHost .stack_overflow)
      { s with d := s.instr }) by
    rw [excute_one_instr]
    cases hy : s.instr.function.exec E (throwHost .stack_overflow) { s with d := s.instr } with
    | ok a t => rw [hy] at hx; exact absurd trivial hx
    | error e t => exact id
  unfold Crashes Crash at h
  split at h
  · next hf => rw [hf]; exact id
  · next hf => rw [hf]; exact FOP2_throws (s := { s with d := s.instr }) h
  · next hf => rw [hf]; exact DIV_throws (s := { s with d := s.instr }) h
  · next hf => rw [hf]; exact WRY_blocks (s := { s with d := s.instr }) h
  · obtain ⟨bp, hb⟩ := Option.ne_none_iff_exists'.mp h
    have := exec_breakpoint E (s := entry s) (by rw [(entry_same s).1]; exact hb)
      (throwHost .stack_overflow)
    obtain ⟨hc, hm, hmem⟩ := entry_same s
    rw [hc, hm, hmem] at this
    rw [show s.instr = decode s.cpu (entry s).d from rfl, this]
    exact id
  · exact h.elim

end Crashes

/-! ### The instruction -/

/-- **Throwing in user mode**: with traps enabled, RAM banks only, and no PTE in the context
table, the instruction returns unless it is one of the crashing ones. -/
theorem user_returns_iff {E : Board δ} (hram : E.mc.RamOnly) {s : St δ}
    (hu : Psr.s s.cpu.psr = false) (het : Psr.et s.cpu.psr = true)
    (hsafe : MMU.XlatSafe E.mc ⟨s.mmu, s.mem⟩) :
    Returns (excute_one E s) ↔ ¬ Crashes E s := by
  refine ⟨fun hr hcr => hcr.throws hr, fun hcr => ?_⟩
  have hK : (Setup.of s True False).Ok E :=
    ⟨instr_psr s, fun _ => (congrArg Psr.s (instr_psr s)).trans hu, hcr,
      fun h => by rw [Setup.of, instr_psr, hu] at h; cases h⟩
  have h := excute_one_spec E hK (enabled_step hram hsafe het) rfl
  cases hx : excute_one E s with
  | ok a t => trivial
  | error e t => rw [hx] at h; exact h.elim

section Samples

lemma user_safe : MMU.XlatSafe (Board.ram [(0x40000000, 0x8000000)]).mc
    ⟨(St.user 0).mmu, (St.user 0).mem⟩ := by
  refine ⟨by decide, fun w hw => ?_⟩
  have h : (MMU.tables (Board.ram [(0x40000000, 0x8000000)]).mc
      ⟨(St.user 0).mmu, (St.user 0).mem⟩).word ((MMU.tables (Board.ram [(0x40000000, 0x8000000)]).mc
      ⟨(St.user 0).mmu, (St.user 0).mem⟩).root (St.user 0).mmu.ctx_n) = some 0 := by decide
  rw [h] at hw
  cases hw
  decide

/-- `wr %g0, %asr19` returns where another thread wakes the processor. -/
theorem user_returns_iff_powerdown : Psr.s (St.user 0xa7802000).cpu.psr = false ∧
    Psr.et (St.user 0xa7802000).cpu.psr = true ∧
    Returns (excute_one { Board.ram [(0x40000000, 0x8000000)] with wakes := fun _ => true }
      (St.user 0xa7802000)) ∧
    ¬ Returns (excute_one (Board.ram [(0x40000000, 0x8000000)]) (St.user 0xa7802000)) := by
  have hf : (St.user 0xa7802000).instr.function = .WRY := by decide
  have key (b : Bool) : Returns (excute_one
      { Board.ram [(0x40000000, 0x8000000)] with wakes := fun _ => b } (St.user 0xa7802000)) ↔
      b = true := by
    refine (user_returns_iff (E := { Board.ram [(0x40000000, 0x8000000)] with wakes := fun _ => b })
      (s := St.user 0xa7802000) (MCtrl.ram_ramOnly _) (by decide) (by decide) user_safe).trans ?_
    unfold Crashes Crash neverWoken
    rw [hf]
    cases b <;> decide
  exact ⟨by decide, by decide, (key true).mpr rfl, fun h => Bool.false_ne_true ((key false).mp h)⟩

/-- A program in user mode executes `stdfq`, and the emulator throws. -/
theorem user_stdfq_throws :
    (Board.ram [(0x40000000, 0x8000000)]).mc.RamOnly ∧
      Psr.s (St.user 0xc1300000).cpu.psr = false ∧ Psr.et (St.user 0xc1300000).cpu.psr = true ∧
      MMU.XlatSafe (Board.ram [(0x40000000, 0x8000000)]).mc
        ⟨(St.user 0xc1300000).mmu, (St.user 0xc1300000).mem⟩ ∧
      ¬ Returns (excute_one (Board.ram [(0x40000000, 0x8000000)]) (St.user 0xc1300000)) :=
  ⟨MCtrl.ram_ramOnly _, by decide, by decide, user_safe, Crashes.throws (by
    unfold Crashes Crash
    rw [show (St.user 0xc1300000).instr.function = .STDFQ_impl from by decide]
    trivial)⟩

end Samples

end SparcEmu
