import SparcEmu.RunSteps

/-!
What holds of the control registers in every state of a run: the alignment of the program
counters, and the fields of the PSR and the WIM that are fixed.
-/

namespace SparcEmu

open Lib.Effect Lib.System Lib.Bits

variable {δ : Type} {E : Board δ}

/-! ### Alignment -/

lemma four_dvd_iff (x : u32) : 4 ∣ x.toNat ↔ x &&& 3 = 0 := by
  have h3 : (x &&& 3).toNat = x.toNat % 4 := toNat_low (n := 2) (by decide)
  constructor
  · intro h
    apply BitVec.eq_of_toNat_eq
    rw [h3]
    exact Nat.mod_eq_zero_of_dvd h
  · intro h
    rw [h] at h3
    exact Nat.dvd_of_mod_eq_zero h3.symm

/-- The program counters, and the address that trap entries start from. -/
structure CPU.WordAligned (c : CPU) : Prop where
  pc : 4 ∣ c.pc.toNat
  npc : 4 ∣ c.npc.toNat
  tbr : 4 ∣ c.tbr.toNat

lemma four_dvd_next {x : u32} (h : 4 ∣ x.toNat) : 4 ∣ (x + 4).toNat := by
  rw [BitVec.toNat_add]
  show 4 ∣ (x.toNat + 4) % 2 ^ 32
  omega

lemma four_dvd_branch {x : u32} (h : 4 ∣ x.toNat) (k : u32) : 4 ∣ (x + 4 * k).toNat := by
  rw [BitVec.toNat_add, BitVec.toNat_mul]
  show 4 ∣ (x.toNat + 4 * k.toNat % 2 ^ 32) % 2 ^ 32
  omega

lemma DecodeStruct.Goes.aligned {d : DecodeStruct} {pc npc : u32} (h : d.Goes pc npc)
    (hpc : 4 ∣ d.pc.toNat) (hnpc : 4 ∣ d.npc.toNat) : 4 ∣ pc.toNat ∧ 4 ∣ npc.toNat := by
  cases h with
  | stay => exact ⟨hpc, hnpc⟩
  | next => exact ⟨hnpc, four_dvd_next hnpc⟩
  | branch k => exact ⟨hnpc, four_dvd_branch hpc k⟩
  | annul => exact ⟨four_dvd_next hnpc, four_dvd_next (four_dvd_next hnpc)⟩
  | branchAnnul k => exact ⟨four_dvd_branch hpc k, four_dvd_next (four_dvd_branch hpc k)⟩
  | jump ht => exact ⟨hnpc, (four_dvd_iff _).mpr ht⟩

lemma DecodeStruct.Bases.aligned {d : DecodeStruct} {tbr t : u32} (h : d.Bases tbr t)
    (ht : 4 ∣ tbr.toNat) (hw : d.function = .WRTBR → Psr.s d.psr = true →
      (d.rs1_value ^^^ d.ev) &&& 3 = 0) : 4 ∣ t.toNat := by
  cases h with
  | same => exact ht
  | written hf hs => exact (four_dvd_iff _).mpr (hw hf hs)

lemma four_dvd_trapTbr {c : CPU} (h : 4 ∣ c.tbr.toNat) : 4 ∣ (trapTbr c).toNat := by
  rw [four_dvd_iff] at h ⊢
  unfold trapTbr
  have hx : ((c.trap_type &&& 0xff) <<< 4) &&& 3 = 0 := by
    rw [BitVec.shiftLeft_and_distrib, BitVec.and_assoc,
      show (0xff : u32) <<< 4 &&& 3 = 0 from by decide]
    exact BitVec.and_zero
  rw [field_other (by decide) hx, h]

lemma enterTrap_control (c : CPU) : (enterTrap c).pc = trapTbr c ∧
    (enterTrap c).npc = trapTbr c + 4 ∧ (enterTrap c).tbr = trapTbr c ∧
    (enterTrap c).psr = trapPsr c.psr ∧ (enterTrap c).wim = c.wim := by
  have h1 := write_reg_control { c with psr := trapPsr c.psr }.update_cwp_bases c.pc LOCALREG1
  have h := h1.trans (write_reg_control _ c.npc LOCALREG2)
  exact ⟨rfl, rfl, rfl, h.psr, h.wim⟩

/-- An executed `WRTBR` in supervisor mode writes an aligned trap base. -/
def RunEvent.BaseAligned : RunEvent δ → St δ → Prop
  | .execute, s => s.instr.function = .WRTBR → Psr.s s.cpu.psr = true →
      (s.instr.rs1_value ^^^ s.instr.ev) &&& 3 = 0
  | _, _ => True

/-- From reset at an aligned entry, the counters are aligned in every state of a run that never
writes a misaligned trap base. -/
theorem pc_aligned (E : Board δ) (cpu_id entry_va : u32) (hentry : 4 ∣ entry_va.toNat)
    {s₀ s : St δ} (h₀ : s₀.cpu = CPU.reset cpu_id entry_va)
    (h : Runs E RunEvent.BaseAligned s₀ s) : 4 ∣ s.cpu.pc.toNat ∧ 4 ∣ s.cpu.npc.toNat := by
  have hinv : s.cpu.WordAligned := by
    refine Runs.inv h ?_ ?_ ?_ ?_
    · rw [h₀]
      exact ⟨hentry, four_dvd_next hentry, Nat.dvd_zero 4⟩
    · intro c c' hc hs
      exact ⟨hs.pc ▸ hc.pc, hs.npc ▸ hc.npc, hs.tbr ▸ hc.tbr⟩
    · intro c hc
      have ht := four_dvd_trapTbr hc.tbr
      exact ⟨ht, four_dvd_next ht, ht⟩
    · intro s c hc hC hi
      obtain ⟨hpc, hnpc, -⟩ := instr_kept s
      obtain ⟨h1, h2⟩ := hi.flow.aligned (by rw [hpc]; exact hc.pc) (by rw [hnpc]; exact hc.npc)
      exact ⟨h1, h2, hi.base.aligned hc.tbr (by rw [instr_psr]; exact hC)⟩
  exact ⟨hinv.pc, hinv.npc⟩

/-- A machine after reset at address 0, with these bytes at the start of its memory. -/
def St.program (bytes : List u8) : St Unit where
  cpu := CPU.reset 0 0
  mmu := MMU.init
  mem := ⟨fun _ off => bytes.getD off.toNat 0, ()⟩
  d := {}

/-- `wr %g0, 1, %tbr` and then `ta 0`. -/
def St.oddBase : St Unit := St.program [0x81, 0x98, 0x20, 0x01, 0x91, 0xd0, 0x20, 0x00]

/-- The third iteration enters the trap at an odd address. -/
theorem odd_trap_base :
    let r := runLoop (Board.ram [(0, 0x1000)]) 3 (enterRun St.oddBase)
    Returns r ∧ (final r).st.cpu.pc = 0x801 ∧ ¬ 4 ∣ (final r).st.cpu.pc.toNat := by
  decide +kernel

/-- `call .+8`, entered and fetched. -/
def St.calling : St Unit :=
  final (RunEvent.fetch.act (Board.ram [(0, 0x1000)])
    (enterRun (St.program [0x40, 0x00, 0x00, 0x02])).st)

lemma calling_function : St.calling.instr.function = .CALL := by decide +kernel

lemma runs_calling {C : RunEvent Unit → St Unit → Prop} (he : ∀ s, C .enter s)
    (hf : ∀ s, C .fetch s) (hx : C .execute St.calling) :
    Runs (Board.ram [(0, 0x1000)]) C (St.program [0x40, 0x00, 0x00, 0x02])
      (final (excute_one (Board.ram [(0, 0x1000)]) St.calling)) := by
  refine Reach.tail (k := RunEvent.execute) ?_ hx rfl
  refine Reach.tail (k := RunEvent.fetch) ?_ (hf _) rfl
  exact Reach.tail (k := RunEvent.enter) .start (he _) rfl

theorem pc_aligned_call :
    4 ∣ (final (excute_one (Board.ram [(0, 0x1000)]) St.calling)).cpu.pc.toNat ∧
      4 ∣ (final (excute_one (Board.ram [(0, 0x1000)]) St.calling)).cpu.npc.toNat := by
  refine pc_aligned (Board.ram [(0, 0x1000)]) 0 0 (by decide) rfl
    (runs_calling (fun _ => trivial) (fun _ => trivial) fun h => ?_)
  rw [calling_function] at h
  cases h

/-! ### Fixed fields -/

/-- The bits 31:24 and 19:13 of the PSR. -/
def Psr.fixed (p : u32) : u32 := p &&& 0xff0fe000

namespace Psr

lemma fixed_of_priv {p q : u32} (h : priv p = priv q) : fixed p = fixed q := by
  have hf : ∀ p, fixed p = priv p &&& 0xff0fe000 := by
    intro p
    unfold fixed priv
    rw [BitVec.and_assoc]
    rfl
  rw [hf p, hf q, h]

lemma fixed_setCwp (p w : u32) : fixed (setCwp p w) = fixed p := fixed_of_priv (priv_setCwp p w)

lemma fixed_setIcc {cc : u32} (h : Nibble cc) (p : u32) : fixed (setIcc p cc) = fixed p :=
  fixed_of_priv (priv_setIcc h p)

lemma fixed_setEt (p : u32) (b : Bool) : fixed (setEt p b) = fixed p :=
  field_other (by decide) (by cases b <;> decide)

lemma fixed_setPs (p : u32) (b : Bool) : fixed (setPs p b) = fixed p :=
  field_other (by decide) (by cases b <;> decide)

lemma fixed_setS (p : u32) (b : Bool) : fixed (setS p b) = fixed p :=
  field_other (by decide) (by cases b <;> decide)

end Psr

lemma fixed_trapPsr (p : u32) : Psr.fixed (trapPsr p) = Psr.fixed p := by
  unfold trapPsr
  rw [Psr.fixed_setCwp, Psr.fixed_setS, Psr.fixed_setPs, Psr.fixed_setEt]

/-- `WRPSR` puts bits 27 and 26 of its operand into the version. -/
lemma fixed_wrpsrValue (v : u32) :
    Psr.fixed (wrpsrValue v) = 0xf3000000 ||| (v &&& 0x0c000000) := by
  have hself : ∀ a : u32, a ||| (v &&& a) = a := by
    intro a
    apply BitVec.eq_of_getLsbD_eq
    intro i _
    rw [BitVec.getLsbD_or, BitVec.getLsbD_and]
    cases a.getLsbD i <;> simp
  unfold Psr.fixed wrpsrValue
  calc _ = (0xf3000000 ||| v) &&& (0xf3000000 ||| 0x0c000000) := by
        rw [BitVec.and_assoc, BitVec.and_assoc]
        rfl
    _ = 0xf3000000 ||| (v &&& 0xf3000000) ||| (v &&& 0x0c000000) := by
        rw [BitVec.and_or_distrib_right, BitVec.and_or_distrib_left (x := v),
          ← BitVec.or_assoc]
        rfl
    _ = 0xf3000000 ||| (v &&& 0x0c000000) := by rw [hself]

structure CPU.FixedFields (c : CPU) : Prop where
  impl : (c.psr >>> 28) &&& 0xf = 0xf
  ver : (c.psr >>> 24) &&& 0xf = 3
  ec : (c.psr >>> 13) &&& 1 = 0
  reserved : (c.psr >>> 14) &&& 0x3f = 0
  wim : ∀ i, NWINDOWS.toNat ≤ i → c.wim.getLsbD i = false

structure CPU.Fixed (c : CPU) : Prop where
  psr : Psr.fixed c.psr = 0xf3000000
  wim : c.wim &&& 0xff = c.wim

lemma field_of_mask {p k v m : u32} {n : Nat} (h : p &&& k = v) (hm : (k >>> n) &&& m = m) :
    (p >>> n) &&& m = (v >>> n) &&& m := by
  rw [← h, BitVec.ushiftRight_and_distrib, BitVec.and_assoc, hm]

lemma CPU.Fixed.fields {c : CPU} (h : c.Fixed) : c.FixedFields where
  impl := field_of_mask h.psr (by decide)
  ver := field_of_mask h.psr (by decide)
  ec := field_of_mask h.psr (by decide)
  reserved := field_of_mask h.psr (by decide)
  wim i hi := by
    have hlow : (0xff : u32).getLsbD i = false := by
      rw [show (0xff : u32) = BitVec.ofNat 32 0xff from rfl, BitVec.getLsbD_ofNat,
        Nat.testBit_lt_two_pow (Nat.lt_of_lt_of_le (by decide : 0xff < 2 ^ 8)
          (Nat.pow_le_pow_right (by decide) hi)), Bool.and_false]
    rw [← h.wim, BitVec.getLsbD_and, hlow, Bool.and_false]

lemma DecodeStruct.Sets.fixed {d : DecodeStruct} {p : u32} (h : d.Sets p)
    (hp : Psr.fixed d.psr = 0xf3000000) (hw : d.function = .WRPSR → Psr.s d.psr = true →
      (d.rs1_value ^^^ d.ev) &&& 0x1f < NWINDOWS → (d.rs1_value ^^^ d.ev) &&& 0x0c000000 = 0) :
    Psr.fixed p = 0xf3000000 := by
  cases h with
  | same => exact hp
  | codes hcc => rw [Psr.fixed_setIcc hcc, hp]
  | window w _ => rw [Psr.fixed_setCwp, hp]
  | rett w _ => rw [Psr.fixed_setCwp, Psr.fixed_setEt, Psr.fixed_setS, hp]
  | written hf hs hcwp =>
    rw [fixed_wrpsrValue, hw hf hs hcwp]
    rfl

lemma Masks.low {w w' : u32} (h : Masks w w') (hw : w &&& 0xff = w) : w' &&& 0xff = w' := by
  cases h with
  | same => exact hw
  | written v => rw [BitVec.and_assoc, BitVec.and_self]

/-- An executed `WRPSR` that is legal has zeros in bits 27 and 26 of its operand. -/
def RunEvent.VersionKept : RunEvent δ → St δ → Prop
  | .execute, s => s.instr.function = .WRPSR → Psr.s s.cpu.psr = true →
      (s.instr.rs1_value ^^^ s.instr.ev) &&& 0x1f < NWINDOWS →
        (s.instr.rs1_value ^^^ s.instr.ev) &&& 0x0c000000 = 0
  | _, _ => True

/-- From reset, the fixed fields hold their values in every state of a run in which no `WRPSR`
writes the upper half of the version. -/
theorem fields_fixed (E : Board δ) (cpu_id entry_va : u32) {s₀ s : St δ}
    (h₀ : s₀.cpu = CPU.reset cpu_id entry_va) (h : Runs E RunEvent.VersionKept s₀ s) :
    s.cpu.FixedFields := by
  refine CPU.Fixed.fields (Runs.inv h ?_ ?_ ?_ ?_)
  · rw [h₀]
    exact ⟨by dsimp only [CPU.reset]; decide, by dsimp only [CPU.reset]; decide⟩
  · intro c c' hc hs
    exact ⟨hs.psr ▸ hc.psr, hs.wim ▸ hc.wim⟩
  · intro c hc
    obtain ⟨-, -, -, hpsr, hwim⟩ := enterTrap_control c
    exact ⟨by rw [hpsr, fixed_trapPsr, hc.psr], by rw [hwim, hc.wim]⟩
  · intro s c hc hC hi
    refine ⟨hi.status.fixed ?_ (by rw [instr_psr]; exact hC), hi.mask.low hc.wim⟩
    rw [instr_psr]
    exact hc.psr

/-- `sethi %hi(0x04000000), %g1` and then `wr %g1, 0xa0, %psr`. -/
def St.oddVersion : St Unit := St.program [0x03, 0x01, 0x00, 0x00, 0x81, 0x88, 0x60, 0xa0]

/-- After two iterations the version is 7. -/
theorem version_written :
    let r := runLoop (Board.ram [(0, 0x1000)]) 2 (enterRun St.oddVersion)
    Returns r ∧ (final r).st.cpu.psr = 0xf70000a0 ∧ ¬ (final r).st.cpu.FixedFields := by
  refine ⟨by decide +kernel, by decide +kernel, fun h => ?_⟩
  have hv := h.ver
  rw [show (final (runLoop (Board.ram [(0, 0x1000)]) 2 (enterRun St.oddVersion))).st.cpu.psr
    = 0xf70000a0 from by decide +kernel] at hv
  exact absurd hv (by decide)

theorem fields_fixed_call :
    (final (excute_one (Board.ram [(0, 0x1000)]) St.calling)).cpu.FixedFields := by
  refine fields_fixed (Board.ram [(0, 0x1000)]) 0 0 rfl
    (runs_calling (fun _ => trivial) (fun _ => trivial) fun h => ?_)
  rw [calling_function] at h
  cases h

end SparcEmu
