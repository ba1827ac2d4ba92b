import SparcEmu.ControlEffects
import SparcEmu.WellFormed
import SparcEmu.Lib.Windows

/-!
The register arrays of the processor, behind `read_reg` and `write_reg`, as a file with eight
overlapping windows.
-/

namespace SparcEmu

open Lib.Effect Lib.Windows

variable {δ : Type}

/-- The window that a status register points at. -/
def Psr.window (p : u32) : Fin 8 := Fin.ofNat 8 (Psr.cwp p).toNat

/-- Index of register `i` of window `w` in the arrays. -/
def regIdx (w i : Fin 8) : u32 := BitVec.ofNat 32 (8 * w.val + i.val)

variable {i : Fin 8} {c' : CPU}

namespace CPU

structure Windowed (c : CPU) : Prop where
  cwp : Psr.cwp c.psr < 8
  base : c.cwp_base = 8 * Psr.cwp c.psr
  zero : c.globals 0 = 0

/-- The register file that the arrays stand for. -/
def v8 (c : CPU) : File 8 u32 where
  cwp := Psr.window c.psr
  reg
    | .global i => c.globals (BitVec.ofNat 32 i.val)
    | .loc w i => c.locals (regIdx w i)
    | .out w i => c.outs (regIdx w i)

/-- The processors have the same window and, within their bounds, the same register arrays. -/
structure SameArrays (c c' : CPU) : Prop where
  base : c'.cwp_base = c.cwp_base
  globals : ∀ i < 9, c'.globals i = c.globals i
  locals : ∀ i < 64, c'.locals i = c.locals i
  outs : ∀ i < 64, c'.outs i = c.outs i

/-- For this register, nothing is read or written beyond the ends of the arrays. -/
structure InBounds (c : CPU) (reg_no : u32) : Prop where
  read : ∀ c' : CPU, c.SameArrays c' → ∀ old, c'.read_reg reg_no old = c.read_reg reg_no old
  globals : ∀ value i, 9 ≤ i → (c.write_reg value reg_no).globals i = c.globals i
  locals : ∀ value i, 64 ≤ i → (c.write_reg value reg_no).locals i = c.locals i
  outs : ∀ value i, 64 ≤ i → (c.write_reg value reg_no).outs i = c.outs i

variable {c : CPU}

/-! ### Indices -/

lemma regIdx_inj {w w' i' : Fin 8} : regIdx w i = regIdx w' i' ↔ w = w' ∧ i = i' := by
  constructor
  · intro h
    have h := congrArg BitVec.toNat h
    simp only [regIdx, BitVec.toNat_ofNat] at h
    omega
  · rintro ⟨rfl, rfl⟩
    rfl

lemma global_inj {j : Fin 8} : BitVec.ofNat 32 i.val = BitVec.ofNat 32 j.val ↔ i = j := by
  constructor
  · intro h
    have h := congrArg BitVec.toNat h
    simp only [BitVec.toNat_ofNat] at h
    omega
  · rintro rfl
    rfl

lemma Windowed.window (h : c.Windowed) : Psr.cwp c.psr = BitVec.ofNat 32 c.v8.cwp.val := by
  have hlt : (Psr.cwp c.psr).toNat < 8 := h.cwp
  apply BitVec.eq_of_toNat_eq
  simp only [v8, Psr.window, Fin.val_ofNat, BitVec.toNat_ofNat]
  omega

lemma Windowed.outIdx_eq (h : c.Windowed) (r : Fin 32) :
    c.outIdx (BitVec.ofNat 32 r.val) = regIdx c.v8.cwp (Fin.ofNat 8 r.val) := by
  have key : ∀ (w : Fin 8) (r : Fin 32), 8 * BitVec.ofNat 32 w.val ||| (BitVec.ofNat 32 r.val &&& 7)
      = regIdx w (Fin.ofNat 8 r.val) := by decide
  unfold outIdx
  rw [h.base, h.window]
  exact key _ r

lemma Windowed.inIdx_eq (h : c.Windowed) (r : Fin 32) :
    c.inIdx (BitVec.ofNat 32 r.val) = regIdx (c.v8.cwp + 1) (Fin.ofNat 8 r.val) := by
  have key : ∀ (w : Fin 8) (r : Fin 32),
      ((8 * BitVec.ofNat 32 w.val + 8) &&& (NWINDOWS * 8 - 1)) ||| (BitVec.ofNat 32 r.val &&& 7)
        = regIdx (w + 1) (Fin.ofNat 8 r.val) := by decide
  unfold inIdx
  rw [h.base, h.window]
  exact key _ r

lemma or_lt_64 {a b : u32} (ha : a.toNat < 64) (hb : b.toNat < 64) : (a ||| b).toNat < 64 := by
  rw [BitVec.toNat_or]
  exact Nat.or_lt_two_pow (n := 6) ha hb

lemma and_le_right (a b : u32) : (a &&& b).toNat ≤ b.toNat := by
  rw [BitVec.toNat_and]
  exact Nat.and_le_right

lemma Windowed.idx_lt (h : c.Windowed) (reg_no : u32) :
    c.outIdx reg_no < 64 ∧ c.inIdx reg_no < 64 := by
  have hw : (Psr.cwp c.psr).toNat < 8 := h.cwp
  have h7 : (reg_no &&& 7).toNat ≤ 7 := and_le_right _ _
  have hb : c.cwp_base.toNat < 64 := by
    rw [h.base, BitVec.toNat_mul]
    show 8 * (Psr.cwp c.psr).toNat % 2 ^ 32 < 64
    omega
  have hn : ((c.cwp_base + 8) &&& (NWINDOWS * 8 - 1)).toNat ≤ 63 := and_le_right _ _
  exact ⟨or_lt_64 hb (by omega), or_lt_64 (by omega) (by omega)⟩

lemma upd_beyond {g : u32 → u32} {i k n : u32} (hi : i < n) (hk : n ≤ k) (v : u32) :
    upd g i v k = g k :=
  if_neg fun e => absurd (e ▸ hi) (BitVec.not_lt.mpr hk)

theorem Windowed.inBounds (h : c.Windowed) (reg_no : u32) : c.InBounds reg_no := by
  obtain ⟨ho, hi⟩ := h.idx_lt reg_no
  have hg : reg_no &&& 7 < 9 := Nat.lt_of_le_of_lt (and_le_right _ 7) (by decide)
  refine ⟨fun c' hc old => ?_, fun v k hk => ?_, fun v k hk => ?_, fun v k hk => ?_⟩
  · unfold read_reg
    rw [show c'.outIdx reg_no = c.outIdx reg_no by unfold outIdx; rw [hc.base],
      show c'.inIdx reg_no = c.inIdx reg_no by unfold inIdx; rw [hc.base], hc.globals 8 (by decide),
      hc.globals _ hg, hc.outs _ ho, hc.locals _ ho, hc.outs _ hi]
  all_goals
    unfold write_reg
    split_ifs
  · exact upd_beyond (by decide) hk v
  · exact (upd_beyond (by decide) hk 0).trans (upd_beyond hg hk v)
  all_goals first | rfl | exact upd_beyond ho hk v | exact upd_beyond hi hk v

/-! ### Reading and writing -/

lemma block_eq : ∀ r : Fin 32, BitVec.ofNat 32 r.val >>> 3 = BitVec.ofNat 32 (r.val / 8) := by
  decide

lemma low_eq : ∀ r : Fin 32, BitVec.ofNat 32 r.val &&& 7 = BitVec.ofNat 32 (r.val % 8) := by
  decide

lemma ne_swap : ∀ r : Fin 32, BitVec.ofNat 32 r.val ≠ GLOBALREG8 := by decide

lemma block_cases (r : Fin 32) : r.val / 8 = 0 ∧ r.val < 8 ∨ r.val / 8 = 1 ∧ 8 ≤ r.val ∧ r.val < 16 ∨
    r.val / 8 = 2 ∧ 16 ≤ r.val ∧ r.val < 24 ∨ r.val / 8 = 3 ∧ 24 ≤ r.val := by omega

lemma Windowed.read (h : c.Windowed) (r : Fin 32) (old : u32) :
    c.read_reg (BitVec.ofNat 32 r.val) old = c.v8.read r := by
  unfold read_reg File.read
  rw [if_neg (ne_swap r), block_eq]
  rcases block_cases r with ⟨hb, hr⟩ | ⟨hb, hr⟩ | ⟨hb, hr⟩ | ⟨hb, hr⟩
  · rw [hb, if_pos (by decide), low_eq]
    by_cases h0 : r = 0
    · subst h0
      exact h.zero
    · rw [if_neg h0]
      simp only [Reg.named, if_pos hr]
      rfl
  all_goals rw [hb, if_neg (show r ≠ 0 by rintro rfl; omega)]
  · simp only [Reg.named, if_neg (show ¬ r.val < 8 by omega), if_pos hr.2]
    exact congrArg c.outs (h.outIdx_eq r)
  · simp only [Reg.named, if_neg (show ¬ r.val < 8 by omega),
      if_neg (show ¬ r.val < 16 by omega), if_pos hr.2]
    exact congrArg c.locals (h.outIdx_eq r)
  · simp only [Reg.named, if_neg (show ¬ r.val < 8 by omega),
      if_neg (show ¬ r.val < 16 by omega), if_neg (show ¬ r.val < 24 by omega)]
    exact congrArg c.outs (h.inIdx_eq r)

lemma v8_out (c : CPU) (w i : Fin 8) (value : u32) :
    { c with outs := upd c.outs (regIdx w i) value }.v8
      = { c.v8 with reg := Function.update c.v8.reg (.out w i) value } := by
  refine File.ext rfl (funext fun x => ?_)
  cases x <;> simp [v8, upd, Function.update_apply, regIdx_inj]

lemma v8_loc (c : CPU) (w i : Fin 8) (value : u32) :
    { c with locals := upd c.locals (regIdx w i) value }.v8
      = { c.v8 with reg := Function.update c.v8.reg (.loc w i) value } := by
  refine File.ext rfl (funext fun x => ?_)
  cases x <;> simp [v8, upd, Function.update_apply, regIdx_inj]

lemma v8_global (hz : c.globals 0 = 0) (hi : i ≠ 0) (value : u32) :
    { c with globals := upd (upd c.globals (BitVec.ofNat 32 i.val) value) 0 0 }.v8
      = { c.v8 with reg := Function.update c.v8.reg (.global i) value } := by
  refine File.ext rfl (funext fun x => ?_)
  cases x with
  | loc | out =>
    dsimp only
    rw [Function.update_of_ne fun e => by cases e]
    rfl
  | global j =>
    show upd (upd c.globals (BitVec.ofNat 32 i.val) value) 0 0 (BitVec.ofNat 32 j.val)
      = Function.update c.v8.reg (.global i) value (.global j)
    by_cases hj : j = 0
    · subst hj
      rw [Function.update_of_ne fun e => hi (by cases e; rfl)]
      exact hz.symm
    · have h0 : BitVec.ofNat 32 j.val ≠ 0 := fun e => hj (global_inj.mp (e.trans rfl))
      unfold upd
      rw [if_neg h0]
      by_cases hx : j = i
      · subst hx
        rw [if_pos rfl, Function.update_self]
      · rw [if_neg fun e => hx (global_inj.mp e), Function.update_of_ne fun e => hx (by cases e; rfl)]
        rfl

lemma block_and_eq : ∀ r : Fin 32,
    BitVec.ofNat 32 r.val >>> 3 &&& 3 = BitVec.ofNat 32 (r.val / 8) := by
  decide

lemma upd_zero_zero {f : u32 → u32} (hz : f 0 = 0) (value : u32) :
    upd (upd f 0 value) 0 0 = f := by
  funext j
  unfold upd
  split_ifs with h
  · rw [h, hz]
  · rfl

lemma Windowed.write (h : c.Windowed) (value : u32) (r : Fin 32) :
    (c.write_reg value (BitVec.ofNat 32 r.val)).v8 = c.v8.write r value := by
  unfold write_reg File.write
  rw [if_neg (ne_swap r), block_and_eq]
  rcases block_cases r with ⟨hb, hr⟩ | ⟨hb, hr⟩ | ⟨hb, hr⟩ | ⟨hb, hr⟩
  · rw [hb, if_pos (by decide), low_eq]
    by_cases h0 : r = 0
    · subst h0
      rw [if_pos rfl]
      exact congrArg (fun g => { c with globals := g }.v8) (upd_zero_zero h.zero value)
    · rw [if_neg h0]
      simp only [Reg.named, if_pos hr]
      exact v8_global h.zero (i := Fin.ofNat 8 r.val)
        (fun e => h0 (by have := congrArg Fin.val e; simp at this; omega)) value
  all_goals rw [hb, if_neg (show r ≠ 0 by rintro rfl; omega)]
  · simp only [Reg.named, if_neg (show ¬ r.val < 8 by omega), if_pos hr.2]
    rw [h.outIdx_eq r]
    exact v8_out c _ _ value
  · simp only [Reg.named, if_neg (show ¬ r.val < 8 by omega),
      if_neg (show ¬ r.val < 16 by omega), if_pos hr.2]
    rw [h.outIdx_eq r]
    exact v8_loc c _ _ value
  · simp only [Reg.named, if_neg (show ¬ r.val < 8 by omega),
      if_neg (show ¬ r.val < 16 by omega), if_neg (show ¬ r.val < 24 by omega)]
    rw [h.inIdx_eq r]
    exact v8_out c _ _ value

lemma write_reg_low {reg_no : u32} (h : reg_no ≠ GLOBALREG8) (c : CPU) (value : u32) :
    c.write_reg value reg_no
      = c.write_reg value (BitVec.ofNat 32 (Fin.ofNat 32 reg_no.toNat).val) := by
  have hr : BitVec.ofNat 32 (Fin.ofNat 32 reg_no.toNat).val = reg_no &&& 0x1f := by
    apply BitVec.eq_of_toNat_eq
    have hl : (reg_no &&& 0x1f).toNat = reg_no.toNat % 32 := Lib.Bits.toNat_low (n := 5) (by decide)
    rw [hl, BitVec.toNat_ofNat, Fin.val_ofNat]
    omega
  have h7 : reg_no &&& 0x1f &&& 7 = reg_no &&& 7 := by
    rw [BitVec.and_assoc]
    rfl
  have h3 : (reg_no &&& 0x1f) >>> 3 &&& (3 : u32) = reg_no >>> 3 &&& 3 := by
    rw [BitVec.ushiftRight_and_distrib, BitVec.and_assoc]
    rfl
  unfold write_reg outIdx inIdx
  rw [if_neg h, if_neg (ne_swap _), hr, h7, h3]

/-! ### Steps and paths -/

lemma Windowed.write_reg (h : c.Windowed) (value reg_no : u32) :
    (c.write_reg value reg_no).Windowed := by
  have hg := goodC_write_reg (U := False) value reg_no
  exact ⟨by rw [hg.psr]; exact h.cwp, by rw [hg.cwp_base, hg.psr]; exact h.base, hg.zero c h.zero⟩

lemma SameRegs.v8 (h : c.SameRegs c') : c'.v8 = c.v8 := by
  have h8 : ∀ i : Fin 8, BitVec.ofNat 32 i.val ≠ 8 := by decide
  refine File.ext (by simp only [CPU.v8, h.psr]) (funext fun x => ?_)
  cases x with
  | global i => exact h.globals _ (h8 i)
  | loc w i => exact congrFun h.locals _
  | out w i => exact congrFun h.outs _

lemma Windowed.sameRegs (h : c.Windowed) (hs : c.SameRegs c') : c'.Windowed where
  cwp := by rw [hs.psr]; exact h.cwp
  base := by rw [hs.cwp_base, hs.psr]; exact h.base
  zero := by rw [hs.globals 0 (by decide)]; exact h.zero

/-- A call of `write_reg` writes its register, or none if it is for the swap register. -/
lemma Windowed.written (h : c.Windowed) (value reg_no : u32) : ∃ l : List (Fin 32 × u32),
    (∀ x ∈ l, x.1 = regNo reg_no) ∧ (c.write_reg value reg_no).v8 = c.v8.writes l := by
  by_cases hr : reg_no = GLOBALREG8
  · refine ⟨[], by simp, ?_⟩
    unfold CPU.write_reg
    rw [if_pos hr]
    exact SameRegs.v8 ⟨rfl, rfl, fun i hi => if_neg hi, rfl, rfl⟩
  · refine ⟨[(regNo reg_no, value)], by simp, ?_⟩
    rw [write_reg_low hr]
    exact h.write value _

lemma Windowed.regPath {W : u32 → Prop} {dests : List (Fin 32)} (h : c.Windowed)
    (hW : ∀ r, W r → regNo r ∈ dests) (hs : c.RegPath W c') : c'.Windowed ∧
      ∃ l : List (Fin 32 × u32), (∀ x ∈ l, x.1 ∈ dests) ∧ c'.v8 = c.v8.writes l := by
  induction hs with
  | refl => exact ⟨h, [], by simp, rfl⟩
  | tail _ hs ih =>
    obtain ⟨hw, l, hl, hv⟩ := ih
    cases hs with
    | @write value reg_no hr =>
      obtain ⟨l', hl', hv'⟩ := hw.written value reg_no
      refine ⟨hw.write_reg value reg_no, l ++ l', fun x hx => ?_, ?_⟩
      · rcases List.mem_append.mp hx with hx | hx
        · exact hl x hx
        · rw [hl' x hx]
          exact hW _ hr
      · rw [hv', hv, File.writes_append]
    | other hs => exact ⟨hw.sameRegs hs, l, hl, by rw [hs.v8, hv]⟩

lemma windowed_update {p : u32} (hp : Psr.cwp p < 8) (hz : c.globals 0 = 0) (hc : c.psr = p) :
    c.update_cwp_bases.Windowed := by
  refine ⟨by rw [← hc] at hp; exact hp, ?_, hz⟩
  show Psr.cwp c.psr <<< 3 = 8 * Psr.cwp c.psr
  apply BitVec.eq_of_toNat_eq
  rw [BitVec.toNat_shiftLeft, BitVec.toNat_mul, Nat.shiftLeft_eq, Nat.mul_comm]
  rfl

lemma Windowed.write_back (h : c.Windowed) {d : DecodeStruct} (hd : Psr.cwp d.psr < 8) :
    (c.write_back d).Windowed ∧ ∃ l : List (Fin 32 × u32),
      (∀ x ∈ l, d.wb_type = .WRITEBACKREG ∧ x.1 = regNo d.rd) ∧
      (c.write_back d).v8 = (c.v8.window (Psr.window d.psr)).writes l := by
  have hw : (update_cwp_bases { c with pc := d.pc, npc := d.npc, psr := d.psr }).Windowed :=
    windowed_update hd h.zero rfl
  unfold CPU.write_back
  dsimp only
  split_ifs with hwb
  · obtain ⟨l, hl, he⟩ := hw.written d.value d.rd
    exact ⟨hw.write_reg _ _, l, fun x hx => ⟨hwb, hl x hx⟩, he⟩
  · exact ⟨hw, [], by simp, rfl⟩

/-- **Trap entry** is a trap of the file. -/
lemma Windowed.enterTrap (h : c.Windowed) :
    (enterTrap c).Windowed ∧ c.v8.Step (.trap c.pc c.npc) (SparcEmu.enterTrap c).v8 := by
  have hp : Psr.cwp (trapPsr c.psr) < 8 := by
    unfold trapPsr
    rw [Psr.cwp_setCwp]
    exact window_below_lt _
  set w := update_cwp_bases { c with psr := trapPsr c.psr } with hwd
  have hw : w.Windowed := windowed_update hp h.zero rfl
  have hw1 := hw.write_reg c.pc LOCALREG1
  have hw2 := hw1.write_reg c.npc LOCALREG2
  refine ⟨⟨hw2.cwp, hw2.base, hw2.zero⟩, ?_⟩
  have hcwp : w.v8.cwp = c.v8.cwp - 1 := by
    have key : ∀ v : Fin 8, Fin.ofNat 8
        (((BitVec.ofNat 32 v.val - 1) &&& 0x1f) % NWINDOWS &&& 0x1f).toNat = v - 1 := by decide
    show Fin.ofNat 8 (Psr.cwp (trapPsr c.psr)).toNat = _
    unfold trapPsr
    rw [Psr.cwp_setCwp, h.window]
    exact key _
  have hv : w.v8 = c.v8.window (c.v8.cwp - 1) := File.ext hcwp rfl
  have h17 : (w.write_reg c.pc LOCALREG1).v8 = w.v8.write 17 c.pc := hw.write c.pc 17
  have h18 : ((w.write_reg c.pc LOCALREG1).write_reg c.npc LOCALREG2).v8
      = (w.write_reg c.pc LOCALREG1).v8.write 18 c.npc := hw1.write c.npc 18
  show c.v8.Step _ ((w.write_reg c.pc LOCALREG1).write_reg c.npc LOCALREG2).v8
  rw [h18, h17, hv]
  exact .trap _ _

end CPU

/-! ### Instructions that move the window -/

variable {E : Board δ} {s u : St δ}

/-- The instruction has recorded a trap instead. -/
structure Refused (s u : St δ) : Prop where
  d : u.d = s.d
  regs : s.cpu.SameRegs u.cpu
  trap : u.cpu.trap_type ≠ 0

lemma trap_refused {n : u32} (hn : n &&& 0xff ≠ 0) (h : trap n s = .ok () u) : Refused s u := by
  rw [trap_eq] at h
  split_ifs at h
  cases h
  exact ⟨rfl, ⟨rfl, rfl, fun _ _ => rfl, rfl, rfl⟩, recorded_ne_zero _ hn⟩

/-- What a recorded trap leaves is the file as it was. -/
lemma Refused.file (h : Refused { s with d := s.instr } u) : (u.cpu.write_back u.d).v8 = s.cpu.v8 := by
  have hwb : u.d.wb_type ≠ .WRITEBACKREG := by
    rw [h.d, (instr_kept s).2.2]
    decide
  unfold CPU.write_back
  rw [if_neg hwb]
  show u.cpu.v8.window (Psr.window u.d.psr) = s.cpu.v8
  rw [h.regs.v8, h.d, instr_psr]
  rfl

/-- The instruction has left the processor alone, and the window pointer it will have is `w`. -/
structure Turned (s u : St δ) (w : u32) : Prop where
  cpu : u.cpu = s.cpu
  psr : Psr.cwp u.d.psr = w

lemma rotate_turns {new_cwp : DecodeStruct → u32} {n : u32} (hn : n &&& 0xff ≠ 0)
    (h : rotate new_cwp n s = .ok () u) : Refused s u ∨ Turned s u (new_cwp s.d &&& 0x1f) := by
  unfold rotate at h
  rw [getD_bind, getCPU_bind] at h
  split_ifs at h
  · exact .inl (trap_refused hn h)
  · cases h
    exact .inr ⟨rfl, Psr.cwp_setCwp _ _⟩

lemma RETT_turns (h : RETT s = .ok () u) :
    Refused s u ∨ Turned s u ((Psr.cwp s.d.psr + 1) % NWINDOWS &&& 0x1f) := by
  unfold RETT at h
  rw [getD_bind, getCPU_bind] at h
  split_ifs at h
  iterate 4 exact .inl (trap_refused (by decide) h)
  cases h
  refine .inr ⟨rfl, (Psr.cwp_setCwp _ _).trans ?_⟩
  rw [BitVec.and_assoc]
  rfl

lemma cwp_wrpsrValue (v : u32) : Psr.cwp (wrpsrValue v) = v &&& 0x1f := by
  unfold Psr.cwp wrpsrValue
  rw [BitVec.and_assoc, BitVec.and_assoc, BitVec.and_or_distrib_right]
  exact BitVec.zero_or

lemma WRPSR_turns (h : WRPSR s = .ok () u) :
    Refused s u ∨ Turned s u ((s.d.rs1_value ^^^ s.d.ev) &&& 0x1f) := by
  unfold WRPSR at h
  rw [getD_bind] at h
  split_ifs at h
  · exact .inl (trap_refused (by decide) h)
  · cases h
    exact .inr ⟨rfl, cwp_wrpsrValue _⟩
  · exact .inl (trap_refused (by decide) h)

/-- What an instruction is for the register file. -/
def DecodeStruct.windows (d : DecodeStruct) : Instr 8 where
  move := match d.function with
    | .SAVE => fun w => w - 1
    | .RESTORE | .RETT => fun w => w + 1
    | .WRPSR => fun _ => Fin.ofNat 8 ((d.rs1_value ^^^ d.ev) &&& 0x1f).toNat
    | _ => id
  dests := d.function.targets (regNo d.rd)

lemma DecodeStruct.Sets.cwp {d : DecodeStruct} {p : u32} (h : d.Sets p) (hm : d.windows.move = id) :
    Psr.cwp p = Psr.cwp d.psr := by
  have h0 := congrFun hm 0
  have h1 := congrFun hm 1
  unfold DecodeStruct.windows at h0 h1
  cases h with
  | same => rfl
  | codes hcc => exact Psr.cwp_setIcc hcc _
  | window w hf =>
    rcases hf with hf | hf <;> rw [hf] at h0
    · exact absurd (show (0 - 1 : Fin 8) = 0 from h0) (by decide)
    · exact absurd (show (0 + 1 : Fin 8) = 0 from h0) (by decide)
  | rett w hf =>
    rw [hf] at h0
    exact absurd (show (0 + 1 : Fin 8) = 0 from h0) (by decide)
  | written hf => rw [hf] at h0 h1; exact absurd (h0.symm.trans h1) (by decide)

lemma window_below : ∀ w : Fin 8,
    Fin.ofNat 8 ((BitVec.ofNat 32 w.val - 1) % NWINDOWS &&& 0x1f).toNat = w - 1 := by decide

lemma window_above : ∀ w : Fin 8,
    Fin.ofNat 8 ((BitVec.ofNat 32 w.val + 1) % NWINDOWS &&& 0x1f).toNat = w + 1 := by decide

lemma Turned.window {s u : St δ} {w : u32} {v : Fin 8} (hw : Fin.ofNat 8 w.toNat = v)
    (h : Refused s u ∨ Turned s u w) :
    Refused s u ∨ (u.cpu = s.cpu ∧ Psr.window u.d.psr = v) := by
  refine h.imp_right fun ht => ⟨ht.cpu, ?_⟩
  unfold Psr.window
  rw [ht.psr, hw]

/-- An instruction leaves the window, or is one that moves it and has done so or trapped. -/
lemma exec_turns (h : s.cpu.Windowed)
    (hx : s.instr.function.exec E (throwHost .stack_overflow) { s with d := s.instr } = .ok () u) :
    s.instr.windows.move = id ∨ Refused { s with d := s.instr } u ∨
      (u.cpu = s.cpu ∧ Psr.window u.d.psr = s.instr.windows.move s.cpu.v8.cwp) := by
  have hcwp : Psr.cwp s.instr.psr = BitVec.ofNat 32 s.cpu.v8.cwp.val := by
    rw [instr_psr, h.window]
  unfold DecodeStruct.windows
  cases hf : s.instr.function
  case SAVE =>
    rw [hf] at hx
    refine .inr (Turned.window ?_ (rotate_turns (by decide) hx))
    show Fin.ofNat 8 ((Psr.cwp s.instr.psr - 1) % NWINDOWS &&& 0x1f).toNat = _
    rw [hcwp]
    exact window_below _
  case RESTORE =>
    rw [hf] at hx
    refine .inr (Turned.window ?_ (rotate_turns (by decide) hx))
    show Fin.ofNat 8 ((Psr.cwp s.instr.psr + 1) % NWINDOWS &&& 0x1f).toNat = _
    rw [hcwp]
    exact window_above _
  case RETT =>
    rw [hf] at hx
    refine .inr (Turned.window ?_ (RETT_turns hx))
    dsimp only
    rw [hcwp]
    exact window_above _
  case WRPSR =>
    rw [hf] at hx
    exact .inr (Turned.window rfl (WRPSR_turns hx))
  all_goals exact .inl rfl

/-! ### Runs -/

/-- **One instruction** is an instruction of the file: the one that is executed. -/
lemma excute_one_step {t : St δ} (h : s.cpu.Windowed) (hx : excute_one E s = .ok () t) :
    t.cpu.Windowed ∧
      s.cpu.v8.Step (.instr s.instr.windows (decide (t.cpu.trap_type ≠ 0))) t.cpu.v8 := by
  obtain ⟨_, d', -, hd', ht'⟩ := excute_one_kept (P := fun _ => True)
    ⟨fun _ _ => trivial, fun _ _ => trivial, fun _ _ => trivial⟩ trivial hx
  rw [excute_one_instr] at hx
  have he := leads_exec (E := E) .stack_overflow { s with d := s.instr } (pending_start s)
  cases hu : s.instr.function.exec E (throwHost .stack_overflow) { s with d := s.instr } with
  | error e u => rw [hu] at hx; cases hx
  | ok a u =>
    rw [hu] at hx he
    cases hx
    have he : Effect s.instr s.cpu u := he
    have hpsr : u.d.psr = d'.psr := by
      rw [← (write_back_control u.cpu u.d).2.2.1, ← (write_back_control _ d').2.2.1, ← ht']
    obtain ⟨hw, l, hl, hv⟩ := h.regPath (fun _ hr => hr) he.regs
    obtain ⟨hw', l', hl', hv'⟩ := hw.write_back (d := u.d) (by rw [hpsr]; exact hd' h.cwp)
    refine ⟨hw', ?_⟩
    have hdest : ∀ x ∈ l', x.1 ∈ s.instr.windows.dests := by
      intro x hx
      obtain ⟨hwb, hrd⟩ := hl' x hx
      rcases he.dest with hno | hd
      · rw [hwb, (instr_kept s).2.2] at hno
        cases hno
      · rw [hrd]
        exact hd
    show s.cpu.v8.Step _ (u.cpu.write_back u.d).v8
    rcases exec_turns h hu with hm | hr | ⟨hc, hwin⟩
    · have hwin : Psr.window u.d.psr = s.cpu.v8.cwp := by
        unfold Psr.window
        rw [he.status.cwp hm, instr_psr]
        rfl
      rw [hv', hv, hwin]
      exact .stays hm hl hdest
    · rw [hr.file, write_back_trap_type, decide_eq_true hr.trap]
      exact .refused _
    · rw [hv', hc, hwin]
      exact .instr l' hdest

/-- The states from reset on, with what has happened, the latest first: any instructions and trap
entries, in any order, and whatever else happens to the machine in between that leaves the integer
registers alone. -/
inductive St.Ran (E : Board δ) : List (Event 8 u32) → St δ → Prop
  | reset {s : St δ} (cpu_id entry_va : u32) : s.cpu = CPU.reset cpu_id entry_va → Ran E [] s
  | trap {s : St δ} {l : List (Event 8 u32)} :
      Ran E l s → Ran E (.trap s.cpu.pc s.cpu.npc :: l) { s with cpu := enterTrap s.cpu }
  | instr {s t : St δ} {l : List (Event 8 u32)} : Ran E l s → excute_one E s = .ok () t →
      Ran E (.instr s.instr.windows (decide (t.cpu.trap_type ≠ 0)) :: l) t
  | other {s t : St δ} {l : List (Event 8 u32)} : Ran E l s → s.cpu.SameRegs t.cpu → Ran E l t

lemma v8_reset (cpu_id entry_va : u32) : (CPU.reset cpu_id entry_va).v8 = File.start := by
  refine File.ext ?_ (funext fun x => by cases x <;> rfl)
  show Fin.ofNat 8 (Psr.cwp (CPU.reset 0 0).psr).toNat = 0
  decide

lemma windowed_reset (cpu_id entry_va : u32) : (CPU.reset cpu_id entry_va).Windowed := by
  refine ⟨(CPU.wf_reset cpu_id entry_va).cwp, ?_, rfl⟩
  show (0 : u32) = 8 * Psr.cwp (CPU.reset 0 0).psr
  decide

variable {l : List (Event 8 u32)}

/-- The file does what the machine does. -/
lemma St.Ran.runs (h : s.Ran E l) : s.cpu.Windowed ∧ File.Runs l s.cpu.v8 := by
  induction h with
  | reset cpu_id entry_va hs =>
    rw [hs, v8_reset]
    exact ⟨windowed_reset _ _, .start⟩
  | trap _ ih =>
    obtain ⟨hw, hs⟩ := ih.1.enterTrap
    exact ⟨hw, ih.2.step hs⟩
  | instr _ hx ih =>
    obtain ⟨hw, hs⟩ := excute_one_step ih.1 hx
    exact ⟨hw, ih.2.step hs⟩
  | other _ hs ih =>
    refine ⟨ih.1.sameRegs hs, ?_⟩
    rw [hs.v8]
    exact ih.2

/-- **Register windows**: from reset on, the arrays stand for a file with eight overlapping windows
that does what the machine does: `SAVE` and traps go to the window below, `RESTORE` and `RETT` to the
one above, and an instruction writes its destination at most. `read_reg` reads the file and
`write_reg` writes one register of it. The window pointer is in range, the cached base is the
window's, and no access leaves its array. -/
theorem St.Ran.registers {s : St δ} (h : s.Ran E l) :
    File.Runs l s.cpu.v8 ∧
    (∀ (r : Fin 32) (old : u32),
      s.cpu.read_reg (BitVec.ofNat 32 r.val) old = s.cpu.v8.read r) ∧
    (∀ (value : u32) (r : Fin 32),
      (s.cpu.write_reg value (BitVec.ofNat 32 r.val)).v8 = s.cpu.v8.write r value ∧
      ∀ x, x ≠ Reg.named s.cpu.v8.cwp r →
        (s.cpu.write_reg value (BitVec.ofNat 32 r.val)).v8.reg x = s.cpu.v8.reg x) ∧
    Psr.cwp s.cpu.psr < 8 ∧ s.cpu.cwp_base = 8 * Psr.cwp s.cpu.psr ∧
    ∀ reg_no, s.cpu.InBounds reg_no := by
  obtain ⟨hw, hr⟩ := h.runs
  refine ⟨hr, hw.read, fun value r => ⟨hw.write value r, fun x hx => ?_⟩, hw.cwp, hw.base,
    hw.inBounds⟩
  rw [hw.write]
  exact File.write_other hx

/-- `save` to window 7, and a trap from there. -/
theorem St.Ran.registers_save : ∃ (s : St Unit) (l : List (Event 8 u32)), s.Ran (Board.ram []) l ∧
    l.length = 2 ∧ s.cpu.v8.cwp = 6 ∧ File.Runs l s.cpu.v8 := by
  have hreset : St.Ran (Board.ram []) [] { St.user 0x9de3bfa0 with cpu := CPU.reset 0 0 } :=
    .reset 0 0 rfl
  have h := (hreset.instr rfl).trap
  exact ⟨_, _, h, rfl, by decide, h.registers.1⟩

/-! ### The loop -/

/-- What a turn of the loop does to the registers, the latest first: it enters a pending trap, and
executes the instruction that it has fetched. -/
def St.events (E : Board δ) (s : St δ) : List (Event 8 u32) :=
  let s₁ := final (takeIrq E s)
  let s₂ := { s₁ with cpu := if s₁.cpu.trap_type ≠ 0 then enterTrap s₁.cpu else s₁.cpu }
  let entered := if s₁.cpu.trap_type ≠ 0 then [Event.trap s₁.cpu.pc s₁.cpu.npc] else []
  match instr_fetch E s₂.cpu.pc s₂ with
  | .ok true s₃ => .instr s₃.instr.windows
      (decide ((final (excute_one E s₃)).cpu.trap_type ≠ 0)) :: entered
  | _ => entered

def loopEvents (E : Board δ) : Nat → LoopSt δ → List (Event 8 u32)
  | 0, _ => []
  | n + 1, l =>
    match runOnce E l with
    | .ok false l' => loopEvents E n l' ++ (final (checkIrq E l)).st.events E
    | _ => (final (checkIrq E l)).st.events E

lemma instr_fetch_sameRegs {va : u32} {t : St δ} {fetched : Bool}
    (hx : instr_fetch E va s = .ok fetched t) : s.cpu.SameRegs t.cpu :=
  instr_fetch_kept (P := s.cpu.SameRegs)
    (fun _ h => ⟨h.psr, h.cwp_base, h.globals, h.locals, h.outs⟩) E va s
    ⟨rfl, rfl, fun _ _ => rfl, rfl, rfl⟩ fetched t hx

lemma stepInstr_ran {t : St δ} (h : s.Ran E l) (hx : stepInstr E s = .ok () t) :
    t.Ran E (s.events E ++ l) := by
  obtain ⟨s₁, h₁, hs₁⟩ : ∃ s₁, takeIrq E s = .ok () s₁ ∧ s.cpu.SameRegs s₁.cpu := by
    unfold takeIrq
    split_ifs <;> exact ⟨_, rfl, rfl, rfl, fun _ _ => rfl, rfl, rfl⟩
  have hran := h.other hs₁
  unfold stepInstr at hx
  rw [bind_ok h₁, bind_ok (show modCPU _ s₁ = .ok () _ from rfl), getCPU_bind] at hx
  obtain ⟨fetched, s₃, hf, hx⟩ := bind_ok_iff.mp hx
  have h₃ : s₃.Ran E ((if s₁.cpu.trap_type ≠ 0 then [.trap s₁.cpu.pc s₁.cpu.npc] else []) ++ l) := by
    refine St.Ran.other ?_ (instr_fetch_sameRegs hf)
    split_ifs
    · exact hran.trap
    · exact hran
  unfold St.events
  rw [h₁]
  dsimp only [final_ok]
  rw [hf]
  cases fetched with
  | true =>
    have hx : excute_one E s₃ = .ok () t := hx
    have hi := h₃.instr hx
    rwa [← show (final (excute_one E s₃)).cpu.trap_type = t.cpu.trap_type by rw [hx]; rfl] at hi
  | false =>
    rw [if_neg Bool.false_ne_true, getCPU_bind] at hx
    split_ifs at hx <;> cases hx
    all_goals exact h₃

lemma runOnce_ran {x y : LoopSt δ} {stop : Bool} (h : x.st.Ran E l) (hx : runOnce E x = .ok stop y) :
    y.st.Ran E ((final (checkIrq E x)).st.events E ++ l) := by
  obtain ⟨x₁, h₁, hs₁⟩ : ∃ x₁, checkIrq E x = .ok () x₁ ∧ x.st.cpu.SameRegs x₁.st.cpu := by
    unfold checkIrq pollIrq
    split_ifs <;> exact ⟨_, rfl, rfl, rfl, fun _ _ => rfl, rfl, rfl⟩
  unfold runOnce at hx
  rw [bind_ok h₁] at hx
  obtain ⟨_, x₂, h₂, hx⟩ := bind_ok_iff.mp hx
  rw [h₁]
  unfold onSt at h₂ hx
  split at h₂ <;> cases h₂
  next s₂ h₂ =>
    refine (stepInstr_ran (h.other hs₁) h₂).other ?_
    unfold leaveLoop at hx
    split_ifs at hx <;> cases hx
    all_goals exact ⟨rfl, rfl, fun _ _ => rfl, rfl, rfl⟩

theorem runLoop_ran (E : Board δ) (n : Nat) {x y : LoopSt δ} (h : x.st.Ran E l)
    (hx : runLoop E n x = .ok () y) : y.st.Ran E (loopEvents E n x ++ l) := by
  induction n generalizing x l with
  | zero => cases hx; exact h
  | succ n ih =>
    obtain ⟨stop, x₁, h₁, hx⟩ := bind_ok_iff.mp hx
    have hran := runOnce_ran h h₁
    unfold loopEvents
    rw [h₁]
    cases stop with
    | true => cases hx; exact hran
    | false => rw [List.append_assoc]; exact ih hran hx

/-- **From reset**, whatever the program, the devices and their interrupts are: the processor stays
well-formed, and its registers are those of a file that has gone through the traps that the loop has
entered and the instructions that it has executed. -/
theorem run_registers (E : Board δ) (n : Nat) {s : St δ} {cpu_id entry_va : u32} {t : LoopSt δ}
    (hs : s.cpu = CPU.reset cpu_id entry_va) (h : runLoop E n (enterRun s) = .ok () t) :
    t.st.cpu.Wf ∧ File.Runs (loopEvents E n (enterRun s)) t.st.cpu.v8 ∧
    ∀ (r : Fin 32) old, t.st.cpu.read_reg (BitVec.ofNat 32 r.val) old = t.st.cpu.v8.read r := by
  have hran : (enterRun s).st.Ran E [] :=
    (St.Ran.reset cpu_id entry_va hs).other ⟨rfl, rfl, fun _ _ => rfl, rfl, rfl⟩
  have hwf : (enterRun s).st.Wf := by
    obtain ⟨hc, hb, hz, ht, hi⟩ := hs ▸ CPU.wf_reset cpu_id entry_va
    exact ⟨hc, hb, hz, ht, hi⟩
  obtain ⟨hw, hv⟩ := (runLoop_ran E n hran h).runs
  rw [List.append_nil] at hv
  exact ⟨runLoop_wf E n _ hwf _ _ h, hv, fun r old => hw.read r old⟩

/-- Memory with `save %sp, -96, %sp`, `ta 0` and a third word. -/
def saveTrap : St Unit where
  cpu := CPU.reset 0 0
  mmu := MMU.init
  mem := ⟨fun _ i => [0x9d, 0xe3, 0xbf, 0xa0, 0x91, 0xd0, 0x20, 0].getD i.toNat 0, ()⟩
  d := {}

/-- The `save` goes to window 7, the trap after `ta 0` to window 6. -/
theorem run_registers_save : ∃ t, runLoop (Board.ram [(0, 0x1000)]) 3 (enterRun saveTrap) = .ok () t ∧
    t.st.cpu.v8.cwp = 6 ∧ (loopEvents (Board.ram [(0, 0x1000)]) 3 (enterRun saveTrap)).length = 4 ∧
    File.Runs (loopEvents (Board.ram [(0, 0x1000)]) 3 (enterRun saveTrap)) t.st.cpu.v8 := by
  obtain ⟨_, t, h, hcwp⟩ := exists_ok (P := fun t => t.st.cpu.v8.cwp = 6)
    (r := runLoop (Board.ram [(0, 0x1000)]) 3 (enterRun saveTrap)) (by decide +kernel)
    (by decide +kernel)
  exact ⟨t, h, hcwp, by decide +kernel, (run_registers _ 3 rfl h).2.1⟩

end SparcEmu
