import SparcEmu.Entry
import SparcEmu.RamAccess

/-!
Precise traps: an instruction that records a trap has not taken effect.
-/

namespace SparcEmu

open Lib.Effect

variable {δ : Type}

/-! ### The steps before the trap -/

variable {s : St δ}

section Steps

variable {E : Board δ} {s₀ : St δ}

/-- The instruction has not taken effect: the processor is the one of `s₀` but for the marks,
and for the trap type in a state with a trap. -/
structure Untouched (s₀ s : St δ) : Prop where
  cpu : s₀.cpu.Marked { s.cpu with trap_type := s₀.cpu.trap_type }
  d : s.d = s₀.instr
  mem : s.mem = s₀.mem
  priv : s.mmu.priv = s₀.mmu.priv

/-- What holds in each phase. -/
def UntilTrap (s₀ : St δ) (i : Phase) (s : St δ) : Prop :=
  match i with
  | .quiet => Untouched s₀ s ∧ s.cpu = s₀.cpu
  | .marked | .asked _ => Untouched s₀ s ∧ s.cpu.trap_type = s₀.cpu.trap_type
  | .done => s.cpu.trap_type = s₀.cpu.trap_type
  | .trapped => Untouched s₀ s

variable {i : Phase}

lemma UntilTrap.untouched (h : UntilTrap s₀ i s) (hi : i.Open) :
    Untouched s₀ s ∧ s.cpu.trap_type = s₀.cpu.trap_type := by
  cases i with
  | quiet => exact ⟨h.1, congrArg CPU.trap_type h.2⟩
  | marked | asked => exact h
  | done | trapped => exact hi.elim

lemma UntilTrap.trap_type (h : UntilTrap s₀ i s) (hi : i ≠ .trapped) :
    s.cpu.trap_type = s₀.cpu.trap_type := by
  cases i with
  | quiet => exact congrArg CPU.trap_type h.2
  | marked | asked => exact h.2
  | done => exact h
  | trapped => exact absurd rfl hi

variable {α : Type}

lemma Clean.ok {mc : MCtrl δ} {success : α → Prop} {op : MmuM δ α} (h : MMU.Clean mc success op)
    (s : MMUSt δ) (r : α) (s' : MMUSt δ) (e : op s = .ok r s') : success r ∨ s'.mem = s.mem := by
  have := h s; rwa [e] at this

variable (hram : E.mc.RamOnly) (h8 : E.mc.Aligned8)

include hram h8

/-- An access that does not write successfully leaves memory as it is. -/
lemma DataOp.Call.clean {a : DataOp} {op : MmuM δ α} {bad : α → Bool} (h : a.Call E.mc α op bad)
    (hfit : a.Fit) {t t' : MMUSt δ} {r : α} (hx : op t = .ok r t') :
    (a.writes ∧ bad r = false) ∨ t'.mem = t.mem := by
  have key {P : Prop} (hc : P ∨ t'.mem = t.mem) (hP : P → bad r = false) (hw : a.writes) :
      (a.writes ∧ bad r = false) ∨ t'.mem = t.mem := hc.imp_left fun h => ⟨hw, hP h⟩
  cases h with
  | @word rw =>
    by_cases hst : rw = .store
    · exact key (Clean.ok (MMU.clean_MemAccess hram _ _ _ _ _ _) _ _ _ hx) (by simp) hst
    · exact Or.inr ((MMU.fixesMem_load hram hst _ _ _ _ _).ok hx)
  | @pair rw =>
    by_cases hst : rw = .store
    · exact key (Clean.ok (MMU.clean_pairAccess hram h8 _ hfit.2 _ _ _) _ _ _ hx) (by simp) hst
    · exact Or.inr ((Fixes.bind (MMU.fixesMem_load hram hst _ _ _ _ _) fun _ =>
        Fixes.bind (MMU.fixesMem_load hram hst _ _ _ _ _) fun _ => Fixes.pure _).ok hx)
  | swap => exact key (Clean.ok (MMU.clean_atomic_swap32 hram _ _ _) _ _ _ hx) (by simp) trivial
  | casa => exact key (Clean.ok (MMU.clean_atomic_casa32 hram _ _ _ _) _ _ _ hx) (by simp) trivial
  | ldstub =>
    exact key (Clean.ok (MMU.clean_ldstub hram _ _) _ _ _ hx)
      (fun h => by simpa [Option.isSome_iff_ne_none] using h) trivial

/-- **Steps**: each leaves the state untouched until the instruction takes effect. -/
lemma untilTrap_step {user throws : Prop} {m : M δ α} {Q : α → Phase → Prop}
    (h : Step E (Setup.of s₀ user throws) α i m Q) :
    Spec (UntilTrap s₀) (fun _ _ => True) α i m Q := by
  cases h with
  | getCPU => exact fun s hs => ⟨.quiet, ⟨hs.2, rfl⟩, hs⟩
  | getD => exact fun s hs => ⟨.quiet, ⟨hs.1.d, rfl⟩, hs⟩
  | noFault => exact fun s hs => ⟨_, rfl, hs⟩
  | modD hi hf => exact fun s hs => ⟨.done, rfl, UntilTrap.trap_type (s := s) hs hi.ne_trapped⟩
  | modCPU hi hf =>
    exact fun s hs => ⟨.done, rfl, (hf.trap_type _).trans (UntilTrap.trap_type (s := s) hs hi.ne_trapped)⟩
  | mark hi hf =>
    intro s hs
    obtain ⟨hu, ht⟩ := UntilTrap.untouched hs hi.open
    have e : ({ s.cpu with trap_type := s₀.cpu.trap_type } : CPU) = s.cpu := by rw [← ht]
    have ht' := (congrArg CPU.trap_type (hf s.cpu).1).trans ht
    refine ⟨.marked, rfl, ⟨?_, hu.d, hu.mem, hu.priv⟩, ht'⟩
    have hc := hu.cpu
    rw [e] at hc
    rw [← ht']
    exact hc.trans (hf s.cpu)
  | trap hi =>
    intro s hs
    obtain ⟨hu, -⟩ := UntilTrap.untouched hs hi.open
    rw [trap_eq]
    split_ifs
    · exact ⟨.trapped, rfl, hu.cpu, hu.d, hu.mem, hu.priv⟩
    · trivial
  | throw _ _ => exact fun s hs => trivial
  | @access _ _ _ a op _ hi hop hcall hm =>
    refine Spec.access hm (fun _ hs => hs.2) fun s hs => ?_
    obtain ⟨hu, htt⟩ := UntilTrap.untouched hs hi.open
    unfold onMMU
    cases hx : op ⟨s.mmu, s.mem⟩ with
    | error e t => trivial
    | ok r t =>
      rcases hcall.clean hram h8 (dataOp_fit hop) hx with hw | hmem
      · exact ⟨.done, Or.inr ⟨hw.1, hw.2, rfl⟩, htt⟩
      · exact ⟨_, Or.inl rfl, ⟨hu.cpu, hu.d, hmem.trans hu.mem, (hcall.keepsPriv.ok hx).trans hu.priv⟩,
          htt⟩
  | @priv _ m _ _ =>
    intro s hs
    unfold onMMU
    rcases m ⟨s.mmu, s.mem⟩ with ⟨r, t⟩ | ⟨e, t⟩
    · exact ⟨.done, rfl, UntilTrap.trap_type (s := s) hs (by decide)⟩
    · trivial

end Steps

/-! ### The instruction -/

/-- Between the states an instruction has recorded a trap and done nothing else: only the trap
type, the swap register, the trap type and current exceptions of the FSR and the MMU's caches
and fault registers may differ. -/
structure OnlyTrapped (s t : St δ) : Prop where
  cpu : t.cpu = { s.cpu with
    trap_type := t.cpu.trap_type, globals := t.cpu.globals, fsr := t.cpu.fsr
    cwp_base := (s.cpu.psr &&& 0x1f) <<< 3 }
  globals : ∀ i, i ≠ 8 → t.cpu.globals i = s.cpu.globals i
  fsr : fsrKept t.cpu.fsr = fsrKept s.cpu.fsr
  mem : t.mem = s.mem
  mmu : t.mmu.priv = s.mmu.priv

lemma Untouched.write_back {u : St δ} (h : Untouched s u) :
    OnlyTrapped s { u with cpu := u.cpu.write_back u.d } := by
  obtain ⟨hpc, hnpc, hwb⟩ := instr_kept s
  have hw : u.cpu.write_back u.d = { u.cpu with
      pc := s.cpu.pc, npc := s.cpu.npc, psr := s.cpu.psr, cwp_base := (s.cpu.psr &&& 0x1f) <<< 3 } := by
    unfold CPU.write_back CPU.update_cwp_bases
    rw [h.d, hpc, hnpc, hwb, instr_psr]
    rfl
  obtain ⟨hc, hg, hf⟩ := h.cpu
  refine ⟨?_, ?_, ?_, h.mem, h.priv⟩ <;> dsimp only <;> rw [hw]
  · have := congrArg (fun c : CPU => { c with
      trap_type := u.cpu.trap_type, cwp_base := (s.cpu.psr &&& 0x1f) <<< 3
      pc := s.cpu.pc, npc := s.cpu.npc, psr := s.cpu.psr }) hc
    exact this
  · exact hg
  · exact hf

/-- **Precise traps**: where all banks are RAM with base and size multiples of 8, an
instruction that returns with a trap recorded, and found none, has done nothing else. -/
theorem precise_trap {E : Board δ} (hram : E.mc.RamOnly) (h8 : E.mc.Aligned8) {s t : St δ}
    (h0 : s.cpu.trap_type = 0) (h : excute_one E s = .ok () t) (ht : t.cpu.trap_type ≠ 0) :
    OnlyTrapped s t := by
  have hK : (Setup.of s False True).Ok E :=
    ⟨instr_psr s, False.elim, fun _ => trivial, fun _ => trivial⟩
  have hq : UntilTrap s .quiet { s with d := s.instr } := ⟨⟨CPU.Marked.refl _, rfl, rfl, rfl⟩, rfl⟩
  have hr := excute_one_spec E hK (untilTrap_step hram h8) hq
  rw [h] at hr
  obtain ⟨u, rfl, hu | hu⟩ := hr
  · -- The instruction took effect, so the trap type is the one it started with.
    have hu : u.cpu.trap_type = s.cpu.trap_type := hu
    exact absurd ((write_back_trap_type _ _).trans (hu.trans h0)) ht
  · exact Untouched.write_back hu

/-- `wr %g0, %psr` in user mode. -/
theorem precise_trap_wrpsr : ∃ t,
    excute_one (Board.ram [(0x40000000, 0x8000000)]) (St.user 0x81880000) = .ok () t ∧
      t.cpu.trap_type ≠ 0 ∧ OnlyTrapped (St.user 0x81880000) t :=
  ⟨_, rfl, by decide, precise_trap (E := Board.ram [(0x40000000, 0x8000000)]) (MCtrl.ram_ramOnly _)
    (MCtrl.ram_aligned8 (by decide)) rfl rfl (by decide)⟩

end SparcEmu
