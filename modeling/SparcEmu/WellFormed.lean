import SparcEmu.Entry
import SparcEmu.RunLoop

/-!
What every processor has that came out of reset and went through the loop: a window pointer in
range and its cached base, a zero in `%g0`, a trap type of one byte, an interrupt level of four
bits.
-/

namespace SparcEmu

open Lib.Effect

variable {δ : Type}

structure CPU.Wf (c : CPU) : Prop where
  cwp : Psr.cwp c.psr < 8
  base : c.cwp_base = (c.psr &&& 0x1f) <<< 3
  zero : c.globals 0 = 0
  trap : c.trap_type &&& ~~~0xff#32 = 0
  irl : c.irl < 16

lemma CPU.wf_reset (cpu_id entry_va : u32) : (CPU.reset cpu_id entry_va).Wf := by
  have h : (CPU.reset cpu_id entry_va).psr = (CPU.reset 0 0).psr := rfl
  refine ⟨?_, ?_, rfl, BitVec.zero_and, ?_⟩
  · rw [h]; decide
  · rw [h]; show (0 : u32) = _; decide
  · show (0 : u32) < 16; decide

lemma CPU.Wf.good {U : Prop} {f : CPU → CPU} (hf : GoodC U f) {c : CPU} (h : c.Wf) : (f c).Wf where
  cwp := by rw [hf.psr]; exact h.cwp
  base := by rw [hf.cwp_base, hf.psr]; exact h.base
  zero := hf.zero c h.zero
  trap := by rw [hf.trap_type]; exact h.trap
  irl := by rw [hf.irl]; exact h.irl

lemma CPU.Wf.marked {c c' : CPU} (h : c.Wf) (hm : c.Marked c') : c'.Wf := by
  have h0 := hm.2.1 0 (by decide)
  rw [hm.1]
  exact ⟨h.cwp, h.base, h0.trans h.zero, h.trap, h.irl⟩

lemma CPU.Wf.trapped {c : CPU} (h : c.Wf) (n : u32) :
    { c with trap_type := (c.trap_type &&& ~~~0xff#32) ||| (n &&& 0xff) : CPU }.Wf := by
  refine ⟨h.cwp, h.base, h.zero, ?_, h.irl⟩
  show ((c.trap_type &&& ~~~0xff#32) ||| (n &&& 0xff)) &&& ~~~0xff#32 = 0
  rw [h.trap, BitVec.and_or_distrib_right, BitVec.and_assoc,
    show (0xff : u32) &&& ~~~0xff#32 = 0 from by decide]
  simp

/-! ### One instruction -/

/-- A property of the processor that no step of an instruction function breaks. -/
structure CPU.Kept (P : CPU → Prop) : Prop where
  good : ∀ {c : CPU} {f : CPU → CPU}, GoodC False f → P c → P (f c)
  marked : ∀ {c c' : CPU}, c.Marked c' → P c → P c'
  trapped : ∀ {c : CPU} (n : u32), P c →
    P { c with trap_type := (c.trap_type &&& ~~~0xff#32) ||| (n &&& 0xff) }

lemma CPU.kept_wf : CPU.Kept CPU.Wf :=
  ⟨fun hf h => h.good hf, fun hm h => h.marked hm, fun n h => h.trapped n⟩

variable {α : Type}

section Steps

variable {E : Board δ} {s₀ : St δ} {P : CPU → Prop}

/-- The processor has the property, and the window pointer that will be written back is in
range if the one it started with was. -/
structure Held (P : CPU → Prop) (s₀ : St δ) (i : Phase) (s : St δ) : Prop where
  cpu : P s.cpu
  cwp : Psr.cwp s₀.cpu.psr < 8 → Psr.cwp s.d.psr < 8
  quiet : i = .quiet → s.cpu = s₀.cpu ∧ s.d = s₀.instr

lemma held_onMMU {m : MmuM δ α} {i : Phase} {Q : α → Phase → Prop}
    (hQ : ∀ a, ∃ j, j ≠ .quiet ∧ Q a j) : Spec (Held P s₀) (fun _ _ => True) α i (onMMU m) Q := by
  intro s hs
  unfold onMMU
  rcases m ⟨s.mmu, s.mem⟩ with ⟨a, t⟩ | ⟨e, t⟩
  · obtain ⟨j, hj, h⟩ := hQ a
    exact ⟨j, h, hs.cpu, hs.cwp, fun e => absurd e hj⟩
  · trivial

lemma held_step (hP : CPU.Kept P) {throws : Prop} {i : Phase} {m : M δ α}
    {Q : α → Phase → Prop} (h : Step E (Setup.of s₀ False throws) α i m Q) :
    Spec (Held P s₀) (fun _ _ => True) α i m Q := by
  cases h with
  | getCPU => exact fun s hs => ⟨.quiet, ⟨(hs.quiet rfl).1, rfl⟩, hs⟩
  | getD => exact fun s hs => ⟨.quiet, ⟨(hs.quiet rfl).2, rfl⟩, hs⟩
  | noFault => exact fun s hs => ⟨_, rfl, hs⟩
  | modD hi hf =>
    exact fun s hs => ⟨.done, rfl, hs.cpu, fun h => hf.cwp _ (hs.cwp h), fun e => by cases e⟩
  | modCPU hi hf =>
    exact fun s hs => ⟨.done, rfl, hP.good hf hs.cpu, hs.cwp, fun e => by cases e⟩
  | mark hi hf =>
    exact fun s hs => ⟨.marked, rfl, hP.marked (hf _) hs.cpu, hs.cwp, fun e => by cases e⟩
  | trap hi =>
    intro s hs
    rw [trap_eq]
    split_ifs
    · exact ⟨.trapped, rfl, hP.trapped _ hs.cpu, hs.cwp, fun e => by cases e⟩
    · trivial
  | throw _ _ => exact fun s hs => trivial
  | access _ _ _ hm =>
    exact Spec.access hm (fun _ hs => (hs.quiet rfl).1)
      (held_onMMU fun _ => ⟨_, Phase.noConfusion, Or.inl rfl⟩)
  | priv _ _ => exact held_onMMU fun _ => ⟨.done, by decide, rfl⟩

theorem excute_one_kept (hP : CPU.Kept P) {s t : St δ} (h : P s.cpu)
    (hx : excute_one E s = .ok () t) : ∃ c d, P c ∧
      (Psr.cwp s.cpu.psr < 8 → Psr.cwp d.psr < 8) ∧ t.cpu = c.write_back d := by
  have hK : (Setup.of s False True).Ok E :=
    ⟨instr_psr s, False.elim, fun _ => trivial, fun _ => trivial⟩
  have hq : Held P s .quiet { s with d := s.instr } :=
    ⟨h, fun hc => by rw [instr_psr]; exact hc, fun _ => ⟨rfl, rfl⟩⟩
  have hr := excute_one_spec E hK (held_step hP) hq
  rw [hx] at hr
  obtain ⟨u, rfl, hu | hu⟩ := hr <;> exact ⟨u.cpu, u.d, hu.cpu, hu.cwp, rfl⟩

end Steps

lemma CPU.Wf.write_back {c : CPU} {d : DecodeStruct} (h : c.Wf) (hd : Psr.cwp d.psr < 8) :
    (c.write_back d).Wf := by
  have hw : (CPU.update_cwp_bases { c with pc := d.pc, npc := d.npc, psr := d.psr }).Wf :=
    ⟨hd, rfl, h.zero, h.trap, h.irl⟩
  unfold CPU.write_back
  dsimp only
  split_ifs
  · exact hw.good (goodC_write_reg (U := False) _ _)
  · exact hw

theorem excute_one_wf {E : Board δ} {s t : St δ} (h : s.cpu.Wf) (hx : excute_one E s = .ok () t) :
    t.cpu.Wf := by
  obtain ⟨c, d, hc, hd, ht⟩ := excute_one_kept CPU.kept_wf h hx
  rw [ht]
  exact hc.write_back (hd h.cwp)

/-! ### The loop -/

lemma pollIrq_wf {c : CPU} (h : c.Wf) (hint : u32) : (pollIrq c hint).Wf := by
  unfold pollIrq
  split_ifs
  · have hi : hint &&& 0xf < 16 := by
      have h1 : (hint &&& 0xf).toNat ≤ 15 := by
        rw [BitVec.toNat_and]; exact Nat.and_le_right
      rw [BitVec.lt_def]
      exact Nat.lt_succ_of_le h1
    exact ⟨h.cwp, h.base, h.zero, h.trap, hi⟩
  · exact h

lemma irq_trap {x : u32} (h : x < 16) : (x + SPARC_INTERRUPT) &&& ~~~0xff#32 = 0 := by
  obtain ⟨n, hn, rfl⟩ : ∃ n : Nat, n < 16 ∧ x = BitVec.ofNat 32 n :=
    ⟨x.toNat, h, by simp⟩
  interval_cases n <;> decide

def St.Wf (s : St δ) : Prop := s.cpu.Wf

lemma takeIrq_wf (E : Board δ) : Preserves St.Wf (takeIrq E) := by
  intro s h _ s' hx
  unfold takeIrq at hx
  split_ifs at hx <;> cases hx
  · exact ⟨h.cwp, h.base, h.zero, irq_trap h.irl, by show (0 : u32) < 16; decide⟩
  · exact h

lemma window_below_lt (w : u32) : ((w - 1) &&& 0x1f) % NWINDOWS &&& 0x1f < 8 := by
  have h1 : (((w - 1) &&& 0x1f) % NWINDOWS).toNat < 8 := by
    rw [BitVec.toNat_umod]; exact Nat.mod_lt _ (by decide)
  have h2 : (((w - 1) &&& 0x1f) % NWINDOWS &&& 0x1f).toNat ≤ (((w - 1) &&& 0x1f) % NWINDOWS).toNat := by
    rw [BitVec.toNat_and]; exact Nat.and_le_left
  rw [BitVec.lt_def]
  exact Nat.lt_of_le_of_lt h2 h1

lemma enterTrap_wf {c : CPU} (h : c.Wf) : (enterTrap c).Wf := by
  have hp : Psr.cwp (trapPsr c.psr) < 8 := by
    unfold trapPsr; rw [Psr.cwp_setCwp]; exact window_below_lt _
  have hw : (CPU.update_cwp_bases { c with psr := trapPsr c.psr }).Wf :=
    ⟨hp, rfl, h.zero, h.trap, h.irl⟩
  have h1 := (hw.good (goodC_write_reg (U := False) c.pc LOCALREG1)).good
    (goodC_write_reg (U := False) c.npc LOCALREG2)
  refine ⟨h1.cwp, h1.base, h1.zero, ?_, h1.irl⟩
  show c.trap_type &&& ~~~0xff#32 &&& ~~~0xff#32 = 0
  rw [h.trap]; decide

section Fetch

variable {P : CPU → Prop}

lemma onMMU_kept (m : MmuM δ α) : Preserves (fun s : St δ => P s.cpu) (onMMU m) := by
  intro s h a s' hx
  unfold onMMU at hx
  split at hx <;> cases hx
  exact h

lemma getCPU_kept : Preserves (fun s : St δ => P s.cpu) getCPU := by
  rintro s h _ _ ⟨⟩; exact h

lemma throwHost_kept (e : HostError) :
    Preserves (fun s : St δ => P s.cpu) (throwHost (α := α) e) := by
  rintro s h _ _ ⟨⟩

variable (hP : ∀ {c : CPU} (n : u32), P c →
  P { c with trap_type := (c.trap_type &&& ~~~0xff#32) ||| (n &&& 0xff) })

include hP

lemma trap_kept (n : u32) : Preserves (fun s : St δ => P s.cpu) (trap n) := by
  intro s h _ s' hx
  rw [trap_eq] at hx
  split_ifs at hx
  cases hx
  exact hP n h

lemma instr_fetch_kept (E : Board δ) (va : u32) :
    Preserves (fun s : St δ => P s.cpu) (instr_fetch E va) := by
  refine Preserves.bind (by rintro s h _ _ ⟨⟩; exact h) fun d => ?_
  refine Preserves.bind (fun s h a s' hx => onMMU_kept _ s h a s' (by rwa [memAccess_eq] at hx))
    fun r => ?_
  refine Preserves.bind (m := modD _) (by rintro s h _ _ ⟨⟩; exact h) fun _ => ?_
  refine Preserves.ite (fun _ => ?_) fun _ => Preserves.pure _
  refine Preserves.bind (onMMU_kept _) fun m => ?_
  exact Preserves.ite (fun _ => throwHost_kept _) fun _ =>
    Preserves.ite (fun _ => throwHost_kept _) fun _ =>
      Preserves.bind (trap_kept hP _) fun _ => Preserves.pure _

end Fetch

lemma stepInstr_wf (E : Board δ) : Preserves St.Wf (stepInstr E) := by
  refine Preserves.bind (takeIrq_wf E) fun _ => ?_
  refine Preserves.bind (m := modCPU _) ?_ fun _ => ?_
  · rintro s h _ _ ⟨⟩
    show (if s.cpu.trap_type ≠ 0 then enterTrap s.cpu else s.cpu).Wf
    split_ifs
    · exact enterTrap_wf h
    · exact h
  refine Preserves.bind getCPU_kept fun c =>
    Preserves.bind (instr_fetch_kept CPU.kept_wf.trapped E c.pc) fun fetched => ?_
  refine Preserves.ite (fun _ s h a s' hx => excute_one_wf h hx) fun _ => ?_
  exact Preserves.bind getCPU_kept fun c =>
    Preserves.ite (fun _ => throwHost_kept _) fun _ => Preserves.pure _

lemma leaveLoop_wf : Preserves St.Wf (leaveLoop (δ := δ)) := by
  intro s h _ s' hx
  unfold leaveLoop at hx
  split_ifs at hx <;> cases hx
  · exact ⟨h.cwp, h.base, h.zero, h.trap, h.irl⟩
  · exact h

lemma onSt_kept {m : M δ α} {P : St δ → Prop} (hm : Preserves P m) :
    Preserves (fun l : LoopSt δ => P l.st) (onSt m) := by
  intro l h a l' hx
  unfold onSt at hx
  split at hx <;> cases hx
  rename_i s hs
  exact hm _ h _ _ hs

lemma checkIrq_wf (E : Board δ) : Preserves (fun l : LoopSt δ => l.st.Wf) (checkIrq E) := by
  intro l h _ l' hx
  unfold checkIrq at hx
  split_ifs at hx <;> cases hx
  · exact pollIrq_wf h _
  · exact h

theorem runOnce_wf (E : Board δ) : Preserves (fun l : LoopSt δ => l.st.Wf) (runOnce E) :=
  Preserves.bind (checkIrq_wf E) fun _ => Preserves.bind (onSt_kept (stepInstr_wf E)) fun _ =>
    onSt_kept leaveLoop_wf

theorem runLoop_wf (E : Board δ) (n : Nat) :
    Preserves (fun l : LoopSt δ => l.st.Wf) (runLoop E n) := by
  induction n with
  | zero => exact Preserves.pure _
  | succ n ih =>
    exact Preserves.bind (runOnce_wf E) fun stop =>
      Preserves.ite (fun _ => Preserves.pure _) fun _ => ih

end SparcEmu
