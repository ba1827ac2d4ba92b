import SparcEmu.WellFormed

/-!
A trap and the return from it: the handler that only returns gives the interrupted program
its registers back.
-/

namespace SparcEmu

open Lib.Effect Lib.Bits

variable {δ : Type}

/-! ### The PSR through a trap and back -/

namespace Psr

lemma getLsbD_setBit (p : u32) {i j : Nat} (b : Bool) (hi : i < 32) :
    (setBit p i b).getLsbD j = if j = i then b else p.getLsbD j := by
  have hone : (1#32 <<< i).getLsbD j = decide (j = i) := by
    rw [BitVec.getLsbD_shiftLeft, BitVec.getLsbD_one]
    by_cases h : j = i
    · simp [h, hi]
    · rcases Nat.lt_or_gt_of_ne h with hlt | hgt
      · simp [h, hlt]
      · simp [h, show j - i ≠ 0 by omega]
  have hif : (if b then 1#32 <<< i else 0#32).getLsbD j = (b && decide (j = i)) := by
    cases b
    · simp
    · simpa using hone
  rw [setBit, BitVec.getLsbD_or, BitVec.getLsbD_and, BitVec.getLsbD_not, hone, hif]
  by_cases h : j = i
  · simp [h]
  · by_cases hj : j < 32
    · simp [h, hj]
    · simp [h, BitVec.getLsbD_of_ge p j (Nat.le_of_not_lt hj)]

lemma getLsbD_setCwp (p w : u32) (j : Nat) :
    (setCwp p w).getLsbD j = if j < 5 then w.getLsbD j else p.getLsbD j := by
  rw [setCwp, show (0x1f : u32) = low 32 5 from by decide, show 0x1f#32 = low 32 5 from by decide,
    BitVec.getLsbD_or, BitVec.getLsbD_and, BitVec.getLsbD_and, BitVec.getLsbD_not, getLsbD_low]
  by_cases h : j < 5
  · simp [h, Nat.lt_trans h (by decide : 5 < 32)]
  · by_cases hj : j < 32
    · simp [h, hj]
    · simp [h, BitVec.getLsbD_of_ge p j (Nat.le_of_not_lt hj)]

lemma getLsbD_cwp (p : u32) (j : Nat) : (cwp p).getLsbD j = (p.getLsbD j && decide (j < 5)) := by
  rw [cwp, show (0x1f : u32) = low 32 5 from by decide, BitVec.getLsbD_and, getLsbD_low]
  by_cases h : j < 5
  · simp [h, Nat.lt_trans h (by decide : 5 < 32)]
  · simp [h]

end Psr

/-- The window that a trap is taken in. -/
def trapWindow (p : u32) : u32 := Psr.cwp (trapPsr p)

def rettPsr (p : u32) : u32 :=
  Psr.setCwp (Psr.setEt (Psr.setS p (Psr.ps p)) true) (((Psr.cwp p + 1) % NWINDOWS) &&& 0x1f)

variable {p : u32}

lemma window_back (h : Psr.cwp p < 8) : (trapWindow p + 1) % NWINDOWS = Psr.cwp p := by
  unfold trapWindow trapPsr
  rw [Psr.cwp_setCwp]
  obtain ⟨n, hn, e⟩ : ∃ n : Nat, n < 8 ∧ Psr.cwp p = BitVec.ofNat 32 n :=
    ⟨(Psr.cwp p).toNat, h, by simp⟩
  rw [e]
  interval_cases n <;> decide

lemma trapPsr_et (p : u32) : Psr.et (trapPsr p) = false := by
  unfold Psr.et trapPsr Psr.setS Psr.setPs Psr.setEt
  rw [Psr.getLsbD_setCwp, if_neg (by decide), Psr.getLsbD_setBit _ _ (by decide),
    Psr.getLsbD_setBit _ _ (by decide), Psr.getLsbD_setBit _ _ (by decide)]
  rfl

lemma trapPsr_s (p : u32) : Psr.s (trapPsr p) = true := by
  unfold Psr.s trapPsr Psr.setS
  rw [Psr.getLsbD_setCwp, if_neg (by decide), Psr.getLsbD_setBit _ _ (by decide)]
  rfl

lemma trapPsr_ps (p : u32) : Psr.ps (trapPsr p) = Psr.s p := by
  unfold Psr.ps trapPsr Psr.setS Psr.setPs
  rw [Psr.getLsbD_setCwp, if_neg (by decide), Psr.getLsbD_setBit _ _ (by decide),
    Psr.getLsbD_setBit _ _ (by decide)]
  rfl

/-- **The PSR comes back**, but for PS, which holds the old S. -/
lemma rettPsr_trapPsr (het : Psr.et p) (h : Psr.cwp p < 8) :
    rettPsr (trapPsr p) = Psr.setPs p (Psr.s p) := by
  have hw : (Psr.cwp (trapPsr p) + 1) % NWINDOWS = Psr.cwp p := window_back h
  apply BitVec.eq_of_getLsbD_eq
  intro j _
  rw [rettPsr, hw, trapPsr_ps, Psr.getLsbD_setCwp, BitVec.getLsbD_and, Psr.getLsbD_cwp,
    show (0x1f : u32) = low 32 5 from by decide, getLsbD_low]
  simp only [Psr.setEt, Psr.setS, Psr.setPs, trapPsr, Psr.getLsbD_setBit _ _ (by decide : 5 < 32),
    Psr.getLsbD_setBit _ _ (by decide : 6 < 32), Psr.getLsbD_setBit _ _ (by decide : 7 < 32),
    Psr.getLsbD_setCwp]
  have h5 : p.getLsbD 5 = true := het
  by_cases hj : j < 5
  · simp [hj, show j < 32 by omega, show j ≠ 6 by omega]
  · by_cases e5 : j = 5
    · simp [e5, h5]
    · by_cases e7 : j = 7
      · simp [e7, Psr.s]
      · simp [hj, e5, e7]

lemma setPs_shift (p : u32) (b : Bool) {k : Nat} (hk : 6 < k) : Psr.setPs p b >>> k = p >>> k := by
  apply BitVec.eq_of_getLsbD_eq
  intro j _
  rw [BitVec.getLsbD_ushiftRight, BitVec.getLsbD_ushiftRight, Psr.setPs,
    Psr.getLsbD_setBit _ _ (by decide), if_neg (by omega)]

lemma setPs_cwp (p : u32) (b : Bool) : Psr.cwp (Psr.setPs p b) = Psr.cwp p := by
  apply BitVec.eq_of_getLsbD_eq
  intro j _
  rw [Psr.getLsbD_cwp, Psr.getLsbD_cwp, Psr.setPs, Psr.getLsbD_setBit _ _ (by decide)]
  by_cases h : j < 5
  · rw [if_neg (by omega)]
  · simp [h]

/-! ### The two instructions of the handler -/

/-- A format 3 instruction word of the group `op = 2` whose second operand is zero: an
immediate of zero, or `%g0`. -/
def ZeroOffset (op op3 rs1 : u32) : Prop :=
  (op >>> 30) &&& 3 = 2 ∧ (op >>> 19) &&& 0x3f = op3 ∧ (op >>> 14) &&& 0x1f = rs1 ∧
    ((op >>> 13) &&& 1 = 1 ∧ op &&& 0x1fff = 0 ∨ (op >>> 13) &&& 1 = 0 ∧ op &&& 0x1f = 0)

/-- `jmpl %l1, %g0`. -/
def JmplL1 (op : u32) : Prop := ZeroOffset op 0x38 0x11 ∧ (op >>> 25) &&& 0x1f = 0

/-- `rett %l2`. -/
def RettL2 (op : u32) : Prop := ZeroOffset op 0x39 0x12

variable {op3 rs1 : u32}

lemma ZeroOffset.formatIdx {op : u32} (h : ZeroOffset op op3 rs1) : formatIdx op = op3 := by
  have h3 : (op >>> 19) &&& ((0x3f : Nat) : u32) = op3 := h.2.1
  unfold SparcEmu.formatIdx
  rw [h.1, h3]
  exact BitVec.add_zero _

variable {c : CPU}

lemma ZeroOffset.decode {d : DecodeStruct} (h : ZeroOffset d.opcode op3 rs1)
    (h3 : ¬op3 < FIRST_RS1_EVAL_IDX) (h0 : c.globals 0 = 0) :
    (decode c d).function = format3.getD op3.toNat .UNIMP ∧
      (decode c d).rd = (d.opcode >>> 25) &&& 0x1f ∧
      (decode c d).ev = c.read_reg rs1 d.rs1_value := by
  unfold SparcEmu.decode
  rw [if_neg (by rw [h.1]; decide), if_neg (by rw [h.1]; decide)]
  unfold decodeOperands decodeFields
  simp only [h.formatIdx, if_neg h3, h.2.2.1, true_and]
  rcases h.2.2.2 with ⟨hi, hm⟩ | ⟨hi, hm⟩
  · rw [if_pos (by rw [hi]; decide), hm]
    exact BitVec.add_zero _
  · have hr : d.opcode &&& 0x1fff &&& 0x1f = 0 := by
      rw [BitVec.and_assoc]; exact hm
    rw [if_neg (by rw [hi]; decide), hr]
    show c.globals 0 + _ = _
    rw [h0]
    exact BitVec.zero_add _

variable {s : St δ}

lemma ZeroOffset.entry (h : ZeroOffset s.d.opcode op3 rs1) (h3 : op3 ≠ 0x3a) :
    s.instr = SparcEmu.decode s.cpu s.d := by
  have hn : breakpointAt s.cpu (SparcEmu.decode s.cpu s.d) = none := by
    cases hb : breakpointAt s.cpu (SparcEmu.decode s.cpu s.d) with
    | none => rfl
    | some bp =>
      have hop := breakpointAt_some hb
      rw [decode_opcode] at hop
      rw [hop] at h
      exact absurd h.2.1.symm h3
  unfold St.instr
  rw [entry_none hn]

/-- `%l1` and `%l2` of the current window. -/
def CPU.l1 (c : CPU) : u32 := c.locals (c.cwp_base ||| 1)
def CPU.l2 (c : CPU) : u32 := c.locals (c.cwp_base ||| 2)

lemma write_g0 (h0 : c.globals 0 = 0) (v : u32) : c.write_reg v 0 = c := by
  have hg : CPU.upd (CPU.upd c.globals 0 v) 0 0 = c.globals := by
    funext j
    unfold CPU.upd
    split_ifs with hj
    · rw [hj, h0]
    · rfl
  show { c with globals := CPU.upd (CPU.upd c.globals 0 v) 0 0 : CPU } = c
  rw [hg]

def CPU.jmpl (c : CPU) : CPU := { c with pc := c.npc, npc := c.l1 }

def CPU.rett (c : CPU) : CPU :=
  { c with pc := c.npc, npc := c.l2, psr := rettPsr c.psr }.update_cwp_bases

/-- **JMPL** through `%l1`. -/
lemma excute_one_jmpl (E : Board δ) (hw : s.cpu.Wf) (h : JmplL1 s.d.opcode)
    (ha : s.cpu.l1 &&& 3 = 0) :
    ∃ d, excute_one E s = .ok () { s with cpu := s.cpu.jmpl, d := d } := by
  obtain ⟨hf, hrd, hev⟩ := h.1.decode (c := s.cpu) (by decide) hw.zero
  have hi := h.1.entry (by decide)
  obtain ⟨-, hnpc, -⟩ := instr_kept s
  have hev : s.instr.ev = s.cpu.l1 := by rw [hi, hev]; rfl
  have hrd : s.instr.rd = 0 := by rw [hi, hrd]; exact h.2
  have hx : s.instr.function.exec E (throwHost .stack_overflow) { s with d := s.instr }
      = .ok () { s with d := { s.instr.wb s.instr.pc with pc := s.instr.npc, npc := s.instr.ev } } := by
    rw [show s.instr.function = .JMPL by rw [hi, hf]; rfl]
    show JMPL _ = _
    unfold JMPL
    rw [bind_ok (show getD { s with d := s.instr } = .ok s.instr _ from rfl),
      if_neg (by rw [hev]; exact fun hne => hne ha)]
    rfl
  have hb : s.cpu.write_back { s.instr.wb s.instr.pc with pc := s.instr.npc, npc := s.instr.ev }
      = s.cpu.jmpl := by
    show CPU.write_reg (CPU.update_cwp_bases { s.cpu with
      pc := s.instr.npc, npc := s.instr.ev, psr := s.instr.psr }) s.instr.pc s.instr.rd = _
    rw [hrd, write_g0 (by exact hw.zero), hnpc, hev, instr_psr]
    unfold CPU.update_cwp_bases CPU.jmpl
    rw [← hw.base]
  exact ⟨_, by rw [excute_one_instr, hx]; show EStateM.Result.ok _ _ = _; rw [hb]⟩

lemma clear_low {a : u32} (h : a &&& 3 = 0) : a &&& ~~~3#32 = a := by
  have ho : a &&& (3 ||| ~~~3#32) = (a &&& 3) ||| (a &&& ~~~3#32) := BitVec.and_or_distrib_left
  rw [h, show (3 : u32) ||| ~~~3#32 = BitVec.allOnes 32 from by decide, BitVec.and_allOnes] at ho
  exact (ho.trans BitVec.zero_or).symm

/-- **RETT** through `%l2`. -/
lemma excute_one_rett (E : Board δ) (hw : s.cpu.Wf) (h : RettL2 s.d.opcode)
    (het : Psr.et s.cpu.psr = false) (hS : Psr.s s.cpu.psr = true) (ha : s.cpu.l2 &&& 3 = 0)
    (hwim : (s.cpu.wim >>> ((Psr.cwp s.cpu.psr + 1) % NWINDOWS)) &&& 1 = 0) :
    ∃ d, excute_one E s = .ok () { s with cpu := s.cpu.rett, d := d } := by
  obtain ⟨hf, -, hev⟩ := ZeroOffset.decode (c := s.cpu) h (by decide) hw.zero
  have hi := ZeroOffset.entry h (by decide)
  obtain ⟨-, hnpc, hwb⟩ := instr_kept s
  have hev : s.instr.ev = s.cpu.l2 := by rw [hi, hev]; rfl
  have hx : s.instr.function.exec E (throwHost .stack_overflow) { s with d := s.instr }
      = .ok () { s with d := { s.instr with
          pc := s.instr.npc, npc := s.instr.ev &&& ~~~3#32, psr := rettPsr s.instr.psr } } := by
    rw [show s.instr.function = .RETT by rw [hi, hf]; rfl]
    show RETT _ = _
    unfold RETT
    rw [bind_ok (show getD { s with d := s.instr } = .ok s.instr _ from rfl),
      bind_ok (show getCPU { s with d := s.instr } = .ok s.cpu _ from rfl),
      if_neg (by rw [instr_psr, het, hS]; decide), if_neg (by rw [instr_psr, het, hS]; decide),
      if_neg (by rw [hev]; exact fun hne => hne ha),
      if_neg (by rw [instr_psr]; exact fun hne => hne hwim)]
    rfl
  have hb : s.cpu.write_back { s.instr with
      pc := s.instr.npc, npc := s.instr.ev &&& ~~~3#32, psr := rettPsr s.instr.psr } = s.cpu.rett := by
    unfold CPU.write_back
    rw [if_neg (by rw [hwb]; decide), hnpc, hev, clear_low ha, instr_psr]
    rfl
  exact ⟨_, by rw [excute_one_instr, hx]; show EStateM.Result.ok _ _ = _; rw [hb]⟩

/-! ### Two iterations of the loop -/

/-- The state after the look at the interrupt controller and at the interrupt level. -/
def irqSt (E : Board δ) (l : LoopSt δ) : St δ := final (takeIrq E (final (checkIrq E l)).st)

/-- The state in which the next instruction is fetched: a pending trap has been entered. -/
def atFetch (E : Board δ) (l : LoopSt δ) : St δ :=
  { irqSt E l with
    cpu := if (irqSt E l).cpu.trap_type ≠ 0 then enterTrap (irqSt E l).cpu else (irqSt E l).cpu }

/-- The next instruction is fetched, and it is one of `I`. -/
def Fetches (E : Board δ) (l : LoopSt δ) (I : u32 → Prop) : Prop :=
  ∃ t, instr_fetch E (atFetch E l).cpu.pc (atFetch E l) = .ok true t ∧ I t.d.opcode

lemma checkIrq_ok (E : Board δ) (l : LoopSt δ) : checkIrq E l = .ok () (final (checkIrq E l)) := by
  unfold checkIrq; split_ifs <;> rfl

lemma takeIrq_ok (E : Board δ) (s : St δ) : takeIrq E s = .ok () (final (takeIrq E s)) := by
  unfold takeIrq; split_ifs <;> rfl

lemma irqSt_cpu (E : Board δ) (l : LoopSt δ) : ∃ x tt, (irqSt E l).cpu =
    { l.st.cpu with irl := x, trap_type := tt } ∧
      (Psr.et l.st.cpu.psr = false → tt = l.st.cpu.trap_type) := by
  obtain ⟨x, hx⟩ : ∃ x, (final (checkIrq E l)).st.cpu = { l.st.cpu with irl := x } := by
    unfold checkIrq pollIrq
    split_ifs <;> exact ⟨_, rfl⟩
  unfold irqSt takeIrq takesIrq
  rw [hx]
  split_ifs with h
  · refine ⟨_, _, rfl, fun het => ?_⟩
    simp [het] at h
  · exact ⟨_, _, by rw [final_ok, hx], fun _ => rfl⟩

variable {l : LoopSt δ}

lemma irqSt_wf (E : Board δ) (h : l.st.cpu.Wf) : (irqSt E l).cpu.Wf :=
  takeIrq_wf E _ (checkIrq_wf E l h _ _ (checkIrq_ok E l)) _ _ (takeIrq_ok E _)

variable {t : St δ}

lemma onMMU_cpu {α : Type} {m : MmuM δ α} {a : α} (h : onMMU m s = .ok a t) : t.cpu = s.cpu := by
  unfold onMMU at h
  split at h <;> cases h
  rfl

lemma instr_fetch_cpu {E : Board δ} {va : u32} (h : instr_fetch E va s = .ok true t) :
    t.cpu = s.cpu := by
  unfold instr_fetch at h
  rw [getD_bind] at h
  obtain ⟨r, s₁, h1, h⟩ := bind_ok_iff.1 h
  rw [memAccess_eq] at h1
  rw [bind_ok (show modD _ s₁ = .ok () _ from rfl)] at h
  split at h
  · obtain ⟨m, s₂, -, h⟩ := bind_ok_iff.1 h
    split at h
    · cases h
    · split at h
      · cases h
      · obtain ⟨_, s₃, -, h⟩ := bind_ok_iff.1 h
        cases h
  · cases h
    exact (onMMU_cpu h1 : s₁.cpu = s.cpu)

lemma runOnce_fetched {E : Board δ} {u : St δ}
    (hf : instr_fetch E (atFetch E l).cpu.pc (atFetch E l) = .ok true t)
    (hx : excute_one E t = .ok () u) : ∃ stop l' i r, runOnce E l = .ok stop l' ∧
      l'.st.cpu = { u.cpu with interrupt := i, rs := r } := by
  have hs : stepInstr E (final (checkIrq E l)).st = .ok () u := by
    unfold stepInstr
    rw [bind_ok (show takeIrq E _ = .ok () (irqSt E l) from takeIrq_ok E _),
      bind_ok (show modCPU (fun c => if c.trap_type ≠ 0 then enterTrap c else c) (irqSt E l)
        = .ok () (atFetch E l) from rfl),
      bind_ok (show getCPU (atFetch E l) = .ok (atFetch E l).cpu _ from rfl), bind_ok hf]
    exact hx
  have hst : onSt (stepInstr E) (final (checkIrq E l))
      = .ok () { final (checkIrq E l) with st := u } := by
    unfold onSt; rw [hs]
  unfold runOnce
  rw [bind_ok (checkIrq_ok E l), bind_ok hst]
  unfold onSt leaveLoop
  dsimp only
  split_ifs
  · exact ⟨_, _, _, _, rfl, rfl⟩
  · exact ⟨_, _, _, _, rfl, rfl⟩

/-! ### The interrupted program -/

/-- The processor as a program in window `w` sees it. -/
def CPU.inWindow (c : CPU) (w : u32) : CPU := { c with cwp_base := w <<< 3 }

/-- The program that was interrupted in `c` goes on in `c'` as if nothing had happened: only
`%l1` and `%l2` of the trap window, and PS, are new. -/
structure Resumed (c c' : CPU) : Prop where
  pc : c'.pc = c.pc
  npc : c'.npc = c.npc
  s : Psr.s c'.psr = Psr.s c.psr
  cwp : Psr.cwp c'.psr = Psr.cwp c.psr
  icc : Psr.icc c'.psr = Psr.icc c.psr
  pil : Psr.pil c'.psr = Psr.pil c.psr
  ef : Psr.ef c'.psr = Psr.ef c.psr
  et : Psr.et c'.psr = true
  ps : Psr.ps c'.psr = Psr.s c.psr
  y_reg : c'.y_reg = c.y_reg
  wim : c'.wim = c.wim
  regs : ∀ w r old, w < NWINDOWS →
    ¬(w = trapWindow c.psr ∧ (r = LOCALREG1 ∨ r = LOCALREG2)) →
      (c'.inWindow w).read_reg r old = (c.inWindow w).read_reg r old

lemma enterTrap_eq (c : CPU) : enterTrap c = { c with
    psr := trapPsr c.psr
    cwp_base := trapWindow c.psr <<< 3
    locals := CPU.upd (CPU.upd c.locals (trapWindow c.psr <<< 3 ||| 1) c.pc)
      (trapWindow c.psr <<< 3 ||| 2) c.npc
    tbr := trapTbr c
    pc := trapTbr c
    npc := trapTbr c + 4
    trap_type := c.trap_type &&& ~~~0xff#32 } := rfl

lemma local_inj {w w' i j : u32} (hw : w < 8) (hw' : w' < 8) (hi : i < 8) (hj : j < 8)
    (h : w <<< 3 ||| i = w' <<< 3 ||| j) : w = w' ∧ i = j := by
  have hn : ∀ {x k : u32}, x < 8 → k < 8 → (x <<< 3 ||| k).toNat = x.toNat * 8 + k.toNat := by
    intro x k hx hk
    have hx : x.toNat < 8 := hx
    have hk : k.toNat < 8 := hk
    rw [BitVec.toNat_or, BitVec.toNat_shiftLeft, Nat.mod_eq_of_lt (by rw [Nat.shiftLeft_eq]; omega),
      ← Nat.shiftLeft_add_eq_or_of_lt (by exact hk : k.toNat < 2 ^ 3), Nat.shiftLeft_eq]
  have h1 := congrArg BitVec.toNat h
  have hi' : i.toNat < 8 := hi
  have hj' : j.toNat < 8 := hj
  rw [hn hw hi, hn hw' hj] at h1
  exact ⟨BitVec.eq_of_toNat_eq (by omega), BitVec.eq_of_toNat_eq (by omega)⟩

lemma trapWindow_lt (p : u32) : trapWindow p < 8 := by
  unfold trapWindow trapPsr
  rw [Psr.cwp_setCwp]
  exact window_below_lt _

lemma enterTrap_locals (c : CPU) : (enterTrap c).l1 = c.pc ∧ (enterTrap c).l2 = c.npc ∧
    ∀ w r, w < 8 → r < 8 → ¬(w = trapWindow c.psr ∧ (r = 1 ∨ r = 2)) →
      (enterTrap c).locals (w <<< 3 ||| r) = c.locals (w <<< 3 ||| r) := by
  have hne : trapWindow c.psr <<< 3 ||| (1 : u32) ≠ trapWindow c.psr <<< 3 ||| 2 := fun h =>
    absurd (local_inj (trapWindow_lt _) (trapWindow_lt _) (by decide) (by decide) h).2 (by decide)
  rw [enterTrap_eq]
  refine ⟨?_, if_pos rfl, fun w r hw hr hn => ?_⟩
  · exact (if_neg hne).trans (if_pos rfl)
  · have h1 : w <<< 3 ||| r ≠ trapWindow c.psr <<< 3 ||| 1 := fun h =>
      have e := local_inj hw (trapWindow_lt _) hr (by decide) h
      hn ⟨e.1, Or.inl e.2⟩
    have h2 : w <<< 3 ||| r ≠ trapWindow c.psr <<< 3 ||| 2 := fun h =>
      have e := local_inj hw (trapWindow_lt _) hr (by decide) h
      hn ⟨e.1, Or.inr e.2⟩
    exact (if_neg h2).trans (if_neg h1)

lemma resumed_regs {c' : CPU} (hg : c'.globals = c.globals) (ho : c'.outs = c.outs)
    (hl : c'.locals = (enterTrap c).locals) (w r old : u32) (hw : w < NWINDOWS)
    (hn : ¬(w = trapWindow c.psr ∧ (r = LOCALREG1 ∨ r = LOCALREG2))) :
    (c'.inWindow w).read_reg r old = (c.inWindow w).read_reg r old := by
  unfold CPU.read_reg CPU.inWindow CPU.outIdx CPU.inIdx
  dsimp only
  rw [hg, ho, hl]
  by_cases h2 : r >>> 3 = 2
  · have hr : r &&& 7 < 8 := by
      have h7 : (r &&& 7).toNat ≤ 7 := by rw [BitVec.toNat_and]; exact Nat.and_le_right
      rw [BitVec.lt_def]
      exact Nat.lt_succ_of_le h7
    have hl1 : r &&& 7 = 1 → r = LOCALREG1 := fun h => eq_of_parts (n := 3) h2 h
    have hl2 : r &&& 7 = 2 → r = LOCALREG2 := fun h => eq_of_parts (n := 3) h2 h
    rw [(enterTrap_locals c).2.2 w (r &&& 7) hw hr fun h => hn ⟨h.1, h.2.imp hl1 hl2⟩]
  · simp only [if_neg h2]

/-- **Into the handler**: the iteration that finds the trap pending enters it and jumps to the
saved program counter. -/
lemma enters_handler (E : Board δ) (hw : l.st.cpu.Wf) (hpc : l.st.cpu.pc &&& 3 = 0)
    (htrap : (irqSt E l).cpu.trap_type ≠ 0) (hj : Fetches E l JmplL1) :
    ∃ stop l₁ i r, runOnce E l = .ok stop l₁ ∧
      l₁.st.cpu = { (enterTrap (irqSt E l).cpu).jmpl with interrupt := i, rs := r } := by
  obtain ⟨x, tt, hirq, -⟩ := irqSt_cpu E l
  obtain ⟨t, hft, hop⟩ := hj
  have htc : t.cpu = enterTrap (irqSt E l).cpu := by
    rw [instr_fetch_cpu hft]
    exact if_pos htrap
  have hl1 : t.cpu.l1 = l.st.cpu.pc := by
    rw [htc, (enterTrap_locals _).1, hirq]
  obtain ⟨d, hx⟩ := excute_one_jmpl E (s := t) (by rw [htc]; exact enterTrap_wf (irqSt_wf E hw)) hop
    (by rw [hl1]; exact hpc)
  obtain ⟨stop, l₁, i, r, hrun, hl⟩ := runOnce_fetched hft hx
  exact ⟨stop, l₁, i, r, hrun, by rw [hl, ← htc]⟩

/-- **Out of the handler**: with traps disabled no interrupt comes between. -/
lemma leaves_handler (E : Board δ) (hw : l.st.cpu.Wf) (h0 : l.st.cpu.trap_type = 0)
    (het : Psr.et l.st.cpu.psr = false) (hS : Psr.s l.st.cpu.psr = true)
    (ha : l.st.cpu.l2 &&& 3 = 0)
    (hwim : (l.st.cpu.wim >>> ((Psr.cwp l.st.cpu.psr + 1) % NWINDOWS)) &&& 1 = 0)
    (hr : Fetches E l RettL2) :
    ∃ stop l₂ x i r, runOnce E l = .ok stop l₂ ∧
      l₂.st.cpu = { l.st.cpu.rett with irl := x, interrupt := i, rs := r } := by
  obtain ⟨x, tt, hirq, htt⟩ := irqSt_cpu E l
  obtain ⟨t, hft, hop⟩ := hr
  have hti : t.cpu = (irqSt E l).cpu := by
    rw [instr_fetch_cpu hft]
    exact if_neg (by rw [hirq, htt het, h0]; decide)
  have htc : t.cpu = { l.st.cpu with irl := x } := by rw [hti, hirq, htt het]
  obtain ⟨d, hx⟩ := excute_one_rett E (s := t) (by rw [hti]; exact irqSt_wf E hw) hop
    (by rw [htc]; exact het) (by rw [htc]; exact hS) (by rw [htc]; exact ha)
    (by rw [htc]; exact hwim)
  obtain ⟨stop, l₂, i, r, hrun, hl⟩ := runOnce_fetched hft hx
  exact ⟨stop, l₂, x, i, r, hrun, by rw [hl, htc]; rfl⟩

lemma resumed_psr {p' : u32} (het : Psr.et p) (h : p' = Psr.setPs p (Psr.s p)) :
    Psr.s p' = Psr.s p ∧ Psr.cwp p' = Psr.cwp p ∧ Psr.icc p' = Psr.icc p ∧
      Psr.pil p' = Psr.pil p ∧ Psr.ef p' = Psr.ef p ∧ Psr.et p' = true ∧ Psr.ps p' = Psr.s p := by
  have hbit : ∀ j, p'.getLsbD j = if j = 6 then Psr.s p else p.getLsbD j := fun j => by
    rw [h, Psr.setPs, Psr.getLsbD_setBit _ _ (by decide)]
  refine ⟨hbit 7, by rw [h, setPs_cwp], ?_, ?_, hbit 12, (hbit 5).trans het, hbit 6⟩
  · unfold Psr.icc; rw [h, setPs_shift _ _ (by decide)]
  · unfold Psr.pil; rw [h, setPs_shift _ _ (by decide)]

/-- **Trap and return**: entering a trap, `jmpl %l1, %g0` and `rett %l2` resume the program. -/
theorem trap_return (E : Board δ) (l : LoopSt δ) (hw : l.st.cpu.Wf) (het : Psr.et l.st.cpu.psr)
    (hpc : l.st.cpu.pc &&& 3 = 0) (hnpc : l.st.cpu.npc &&& 3 = 0)
    (hwim : (l.st.cpu.wim >>> Psr.cwp l.st.cpu.psr) &&& 1 = 0)
    (htrap : (irqSt E l).cpu.trap_type ≠ 0) (hj : Fetches E l JmplL1)
    (hr : ∀ stop l₁, runOnce E l = .ok stop l₁ → Fetches E l₁ RettL2) :
    ∃ stop₁ l₁ stop₂ l₂, runOnce E l = .ok stop₁ l₁ ∧ runOnce E l₁ = .ok stop₂ l₂ ∧
      Resumed l.st.cpu l₂.st.cpu := by
  obtain ⟨stop₁, l₁, i, r, hrun₁, h1⟩ := enters_handler E hw hpc htrap hj
  obtain ⟨x, tt, hirq, -⟩ := irqSt_cpu E l
  obtain ⟨hl1, hl2, -⟩ := enterTrap_locals (irqSt E l).cpu
  have h0 : l₁.st.cpu.trap_type = 0 := by
    rw [h1]
    exact (irqSt_wf E hw).trap
  -- From here on the interrupt's own fields no longer matter.
  rw [hirq] at h1 hl1 hl2
  have hp1 : l₁.st.cpu.psr = trapPsr l.st.cpu.psr := by rw [h1]; rfl
  have hnpc₁ : l₁.st.cpu.npc = l.st.cpu.pc := by rw [h1]; exact hl1
  have hl2₁ : l₁.st.cpu.l2 = l.st.cpu.npc := by rw [h1]; exact hl2
  have hwim₁ : l₁.st.cpu.wim = l.st.cpu.wim := by rw [h1]; rfl
  have hback : (Psr.cwp (trapPsr l.st.cpu.psr) + 1) % NWINDOWS = Psr.cwp l.st.cpu.psr :=
    window_back hw.cwp
  obtain ⟨stop₂, l₂, x₂, i₂, r₂, hrun₂, h2⟩ := leaves_handler E (runOnce_wf E l hw _ _ hrun₁) h0
    (by rw [hp1, trapPsr_et]) (by rw [hp1, trapPsr_s]) (by rw [hl2₁]; exact hnpc)
    (by rw [hp1, hwim₁, hback]; exact hwim) (hr _ _ hrun₁)
  have hp2 : l₂.st.cpu.psr = Psr.setPs l.st.cpu.psr (Psr.s l.st.cpu.psr) := by
    rw [h2, ← rettPsr_trapPsr het hw.cwp, ← hp1]
    rfl
  obtain ⟨hS, hcwp, hicc, hpil, hef, het', hps⟩ := resumed_psr het hp2
  refine ⟨stop₁, l₁, stop₂, l₂, hrun₁, hrun₂, ?_⟩
  exact {
    pc := by rw [h2]; exact hnpc₁
    npc := by rw [h2]; exact hl2₁
    s := hS, cwp := hcwp, icc := hicc, pil := hpil, ef := hef, et := het', ps := hps
    y_reg := by rw [h2]; show l₁.st.cpu.y_reg = _; rw [h1]; rfl
    wim := by rw [h2]; exact hwim₁
    regs := resumed_regs (by rw [h2]; show l₁.st.cpu.globals = _; rw [h1]; rfl)
      (by rw [h2]; show l₁.st.cpu.outs = _; rw [h1]; rfl)
      (by rw [h2]; show l₁.st.cpu.locals = _; rw [h1]; rfl) }

/-- A data access exception is pending, and the handler of that trap does nothing but return. -/
def LoopSt.sample : LoopSt Unit := enterRun
  { cpu := { CPU.reset 0 0x40000100 with trap_type := 9, tbr := 0x40000000 }
    mmu := MMU.init
    mem := ⟨fun _ off =>
      [0x81, 0xc4, 0x60, 0x00, 0x81, 0xcc, 0xa0, 0x00].getD (off.toNat - 0x90) 0, ()⟩
    d := {} }

theorem trap_return_sample : ∃ stop₁ l₁ stop₂ l₂,
    runOnce (Board.ram [(0x40000000, 0x1000)]) LoopSt.sample = .ok stop₁ l₁ ∧
      runOnce (Board.ram [(0x40000000, 0x1000)]) l₁ = .ok stop₂ l₂ ∧
        Resumed LoopSt.sample.st.cpu l₂.st.cpu := by
  have hw := CPU.wf_reset 0 0x40000100
  refine trap_return _ _ ⟨hw.cwp, hw.base, hw.zero, by decide, hw.irl⟩ (by decide) (by decide)
    (by decide) (by decide) (by decide) ⟨_, rfl, ?_⟩ fun stop l₁ h => ?_
  · show JmplL1 0x81c46000
    exact ⟨⟨by decide, by decide, by decide, by decide⟩, by decide⟩
  · have hx : runOnce (Board.ram [(0x40000000, 0x1000)]) LoopSt.sample = .ok false _ := rfl
    rw [hx] at h
    cases h
    refine ⟨_, rfl, ?_⟩
    show RettL2 0x81cca000
    exact ⟨by decide, by decide, by decide, by decide⟩

end SparcEmu
