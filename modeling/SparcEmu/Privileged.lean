import SparcEmu.Entry

/-!
User mode cannot change privileged state: whatever the instruction, and however it ends.
-/

namespace SparcEmu

open Lib.Effect

/-! ### The privileged fields of the PSR -/

namespace Psr

def ec (p : u32) : Bool := p.getLsbD 13
def ver (p : u32) : u32 := (p >>> 24) &&& 0xf
def impl (p : u32) : u32 := (p >>> 28) &&& 0xf

end Psr

structure Privileged where
  impl : u32
  ver : u32
  ec : Bool
  ef : Bool
  pil : u32
  s : Bool
  ps : Bool
  et : Bool
  wim : u32
  tbr : u32
  control_reg : u32
  ctx_tbl_ptr : u32
  ctx_n : u32
  ccr : u32
  iccr : u32
  dccr : u32

variable {δ : Type}

def St.privileged (s : St δ) : Privileged where
  impl := Psr.impl s.cpu.psr
  ver := Psr.ver s.cpu.psr
  ec := Psr.ec s.cpu.psr
  ef := Psr.ef s.cpu.psr
  pil := Psr.pil s.cpu.psr
  s := Psr.s s.cpu.psr
  ps := Psr.ps s.cpu.psr
  et := Psr.et s.cpu.psr
  wim := s.cpu.wim
  tbr := s.cpu.tbr
  control_reg := s.mmu.control_reg
  ctx_tbl_ptr := s.mmu.ctx_tbl_ptr
  ctx_n := s.mmu.ctx_n
  ccr := s.mmu.ccr
  iccr := s.mmu.iccr
  dccr := s.mmu.dccr

/-- The states agree on privileged state, with the PSR as `p` and `q` have it. -/
def PrivAs (p q : u32) (s t : St δ) : Prop :=
  Psr.priv q = Psr.priv p ∧ t.cpu.wim = s.cpu.wim ∧ t.cpu.tbr = s.cpu.tbr ∧
    t.mmu.priv = s.mmu.priv

lemma Psr.getLsbD_of_priv {p q : u32} (h : priv q = priv p) {i : Nat}
    (hi : (0xff0fffe0 : u32).getLsbD i = true) : q.getLsbD i = p.getLsbD i := by
  have := congrArg (·.getLsbD i) h
  simp only [priv] at this
  rwa [BitVec.getLsbD_and, BitVec.getLsbD_and, hi, Bool.and_true, Bool.and_true] at this

lemma Psr.field_of_priv {p q : u32} (h : priv q = priv p) {n : Nat} {m : u32}
    (hm : ∀ i < 32, m.getLsbD i = true → (0xff0fffe0 : u32).getLsbD (n + i) = true) :
    (q >>> n) &&& m = (p >>> n) &&& m := by
  apply BitVec.eq_of_getLsbD_eq
  intro i hi
  rw [BitVec.getLsbD_and, BitVec.getLsbD_and, BitVec.getLsbD_ushiftRight,
    BitVec.getLsbD_ushiftRight]
  cases hmi : m.getLsbD i
  · rw [Bool.and_false, Bool.and_false]
  · rw [Psr.getLsbD_of_priv h (hm i hi hmi)]

lemma PrivAs.privileged {s t : St δ} (h : PrivAs s.cpu.psr t.cpu.psr s t) :
    t.privileged = s.privileged := by
  obtain ⟨hp, hw, ht, hm⟩ := h
  simp only [MMU.priv, Prod.mk.injEq] at hm
  obtain ⟨h1, h2, h3, h4, h5, h6⟩ := hm
  unfold St.privileged
  rw [show Psr.impl t.cpu.psr = Psr.impl s.cpu.psr from Psr.field_of_priv hp (by decide),
    show Psr.ver t.cpu.psr = Psr.ver s.cpu.psr from Psr.field_of_priv hp (by decide),
    show Psr.pil t.cpu.psr = Psr.pil s.cpu.psr from Psr.field_of_priv hp (by decide),
    show Psr.ec t.cpu.psr = Psr.ec s.cpu.psr from Psr.getLsbD_of_priv hp (by decide),
    show Psr.ef t.cpu.psr = Psr.ef s.cpu.psr from Psr.getLsbD_of_priv hp (by decide),
    show Psr.s t.cpu.psr = Psr.s s.cpu.psr from Psr.getLsbD_of_priv hp (by decide),
    show Psr.ps t.cpu.psr = Psr.ps s.cpu.psr from Psr.getLsbD_of_priv hp (by decide),
    show Psr.et t.cpu.psr = Psr.et s.cpu.psr from Psr.getLsbD_of_priv hp (by decide),
    hw, ht, h1, h2, h3, h4, h5, h6]

/-! ### The steps -/

section Steps

variable {E : Board δ} {s₀ : St δ}

/-- Privileged state is as it was in `s₀`, in the processor and for the write-back. -/
def KeptPriv (s₀ : St δ) (i : Phase) (s : St δ) : Prop :=
  PrivAs s₀.cpu.psr s.cpu.psr s₀ s ∧ PrivAs s₀.cpu.psr s.d.psr s₀ s ∧
    (i = .quiet → s.cpu = s₀.cpu ∧ s.d = s₀.instr)

lemma kept_onMMU {α : Type} {m : MmuM δ α} (hm : MMU.KeepsPriv m) {i : Phase}
    {Q : α → Phase → Prop} (hQ : ∀ a, ∃ b, Q a (.asked b)) :
    Spec (KeptPriv s₀) (fun _ s => ∃ i, KeptPriv s₀ i s) α i (onMMU m) Q := by
  intro s hs
  have key : ∀ t : MMUSt δ, t.mmu.priv = s.mmu.priv →
      ∀ j, j ≠ .quiet → KeptPriv s₀ j { s with mmu := t.mmu, mem := t.mem } := by
    intro t e j hj
    obtain ⟨⟨h1, h2, h3, h4⟩, ⟨h5, h6⟩, -⟩ := hs
    exact ⟨⟨h1, h2, h3, e.trans h4⟩, ⟨h5, h2, h3, e.trans h4⟩, fun e => absurd e hj⟩
  unfold onMMU
  rcases hx : m ⟨s.mmu, s.mem⟩ with ⟨a, t⟩ | ⟨e, t⟩
  · obtain ⟨b, h⟩ := hQ a
    exact ⟨.asked b, h, key t (hm.ok hx) _ fun e => by cases e⟩
  · exact ⟨.done, key t (hm.error hx) _ (by decide)⟩

/-- **Steps**: each keeps privileged state in user mode. -/
lemma kept_step {throws : Prop} {α : Type} {i : Phase} {m : M δ α} {Q : α → Phase → Prop}
    (h : Step E (Setup.of s₀ True throws) α i m Q) :
    Spec (KeptPriv s₀) (fun _ s => ∃ i, KeptPriv s₀ i s) α i m Q := by
  cases h with
  | getCPU => exact fun s hs => ⟨.quiet, ⟨(hs.2.2 rfl).1, rfl⟩, hs⟩
  | getD => exact fun s hs => ⟨.quiet, ⟨(hs.2.2 rfl).2, rfl⟩, hs⟩
  | noFault => exact fun s hs => ⟨_, rfl, hs⟩
  | modD hi hf =>
    intro s hs
    refine ⟨.done, rfl, hs.1, ⟨?_, hs.2.1.2⟩, fun e => by cases e⟩
    exact (hf.priv trivial s.d).trans hs.2.1.1
  | modCPU hi hf =>
    intro s ⟨h1, h2, _⟩
    obtain ⟨hw, ht⟩ := hf.priv trivial s.cpu
    refine ⟨.done, rfl, ⟨?_, hw.trans h1.2.1, ht.trans h1.2.2.1, h1.2.2.2⟩,
      ⟨h2.1, hw.trans h1.2.1, ht.trans h1.2.2.1, h1.2.2.2⟩, fun e => by cases e⟩
    show Psr.priv _ = _
    rw [hf.psr]
    exact h1.1
  | mark hi hf =>
    intro s ⟨h1, h2, _⟩
    refine ⟨.marked, rfl, ?_, ?_, fun e => by cases e⟩ <;> unfold PrivAs <;> rw [(hf s.cpu).1]
    · exact h1
    · exact h2
  | trap hi =>
    intro s hs
    rw [trap_eq]
    split_ifs
    · exact ⟨.trapped, rfl, hs.1, hs.2.1, fun e => by cases e⟩
    · exact ⟨.trapped, hs.1, hs.2.1, fun e => by cases e⟩
  | throw _ _ => exact fun s hs => ⟨_, hs⟩
  | access _ _ hcall hm =>
    exact Spec.access hm (fun _ hs => (hs.2.2 rfl).1)
      (kept_onMMU hcall.keepsPriv fun _ => ⟨_, Or.inl rfl⟩)
  | priv hu _ => exact absurd trivial hu

end Steps

/-! ### The instruction -/

lemma write_back_priv (c : CPU) (d : DecodeStruct) :
    (c.write_back d).psr = d.psr ∧ (c.write_back d).wim = c.wim ∧ (c.write_back d).tbr = c.tbr := by
  unfold CPU.write_back CPU.write_reg
  dsimp only
  split_ifs <;> exact ⟨rfl, rfl, rfl⟩

/-- **User mode keeps privileged state**: executed with `S = 0`, no instruction changes a
privileged field, whether it completes, traps or throws; of the PSR only the window pointer and
the condition codes can differ. -/
theorem user_keeps_privileged (E : Board δ) {s : St δ} (hs : Psr.s s.cpu.psr = false) :
    (final (excute_one E s)).privileged = s.privileged ∧
      Psr.priv (final (excute_one E s)).cpu.psr = Psr.priv s.cpu.psr := by
  have hK : (Setup.of s True True).Ok E :=
    ⟨instr_psr s, fun _ => (congrArg Psr.s (instr_psr s)).trans hs, fun _ => trivial,
      fun _ => trivial⟩
  have h0 : KeptPriv s .quiet { s with d := s.instr } :=
    ⟨⟨rfl, rfl, rfl, rfl⟩, ⟨congrArg Psr.priv (instr_psr s), rfl, rfl, rfl⟩, fun _ => ⟨rfl, rfl⟩⟩
  have h := excute_one_spec E hK kept_step h0
  suffices h' : PrivAs s.cpu.psr (final (excute_one E s)).cpu.psr s (final (excute_one E s)) from
    ⟨h'.privileged, h'.1⟩
  cases hx : excute_one E s with
  | ok a t =>
    rw [hx] at h
    obtain ⟨u, rfl, hu⟩ := h
    obtain ⟨hp, hw, ht⟩ := write_back_priv u.cpu u.d
    have hd : PrivAs s.cpu.psr u.d.psr s u := by rcases hu with hu | hu <;> exact hu.2.1
    exact ⟨(congrArg Psr.priv hp).trans hd.1, hw.trans hd.2.1, ht.trans hd.2.2.1, hd.2.2.2⟩
  | error e t =>
    rw [hx] at h
    obtain ⟨i, hi⟩ := h
    exact hi.1

/-- `wr %g0, %psr` in user mode. -/
theorem user_keeps_privileged_wrpsr :
    Psr.s (St.user 0x81880000).cpu.psr = false ∧
      (final (excute_one (Board.ram []) (St.user 0x81880000))).privileged
        = (St.user 0x81880000).privileged :=
  ⟨by decide, (user_keeps_privileged _ (by decide)).1⟩

end SparcEmu
