import SparcEmu.Peripherals
import SparcEmu.Lib.LastWrite
import Mathlib.Tactic.IntervalCases

/-!
The configuration space of the sound device, as the guest reaches it through the bridge.

The bridge swaps the bytes of what goes either way. Behind it the two base address registers answer
a probe with the size of their window, and everything else is plain storage.
-/

namespace SparcEmu

open Lib.LastWrite

/-! ### The swap -/

lemma getLsbD_bswap32 (x : u32) {i : Nat} (hi : i < 32) :
    (bswap32 x).getLsbD i = x.getLsbD (8 * (3 - i / 8) + i % 8) := by
  unfold bswap32
  interval_cases i <;> simp

lemma bswap32_bswap32 (x : u32) : bswap32 (bswap32 x) = x := by
  apply BitVec.eq_of_getLsbD_eq
  intro i hi
  rw [getLsbD_bswap32 _ hi, getLsbD_bswap32 _ (by omega)]
  congr 1
  omega

/-! ### Registers of the device -/

namespace AC97Pci

/-- What a register reads after a write to it. -/
def stored (off v : u32) : u32 :=
  match barAt off with
  | some _ => if v = 0xffffffff then 0xffffff00 else v &&& 0xfffffff0
  | none => v

/-- The offsets of registers are multiples of four. -/
def Aligned (off : u32) : Prop := off.toNat % 4 = 0 ∧ off.toNat < 256

lemma aligned_cfgReg (addr : u32) : Aligned (Devices.cfgReg addr) := by
  unfold Devices.cfgReg Aligned
  rw [BitVec.toNat_and, show (0xfc : u32).toNat = 252 from rfl]
  constructor
  · rw [show 4 = 2 ^ 2 from rfl, Nat.and_mod_two_pow]
    exact Nat.and_zero _
  · exact Nat.lt_of_le_of_lt Nat.and_le_right (by decide)

variable {off off' v : u32} {s : AC97Pci}

lemma byte_ne {k k' : u32} (ho : Aligned off) (ho' : Aligned off') (hk : k.toNat < 4) (hk' : k'.toNat < 4)
    (hne : off ≠ off' ∨ k ≠ k') : (off + k).setWidth 8 ≠ (off' + k').setWidth 8 := by
  obtain ⟨hm, hlt⟩ := ho
  obtain ⟨hm', hlt'⟩ := ho'
  intro heq
  have hval := congrArg BitVec.toNat heq
  rw [BitVec.toNat_setWidth, BitVec.toNat_setWidth, BitVec.toNat_add, BitVec.toNat_add] at hval
  have hoff : off = off' := by
    apply BitVec.eq_of_toNat_eq
    omega
  have hbyte : k = k' := by
    apply BitVec.eq_of_toNat_eq
    omega
  exact hne.elim (fun h => h hoff) fun h => h hbyte

lemma join_bytes (v : u32) : (v.setWidth 8).setWidth 32 ||| (((v >>> 8).setWidth 8).setWidth 32 <<< 8) |||
    (((v >>> 16).setWidth 8).setWidth 32 <<< 16) ||| (((v >>> 24).setWidth 8).setWidth 32 <<< 24)
      = v := by
  apply BitVec.eq_of_getLsbD_eq
  intro i hi
  interval_cases i <;> simp

lemma barAt_inj {b : Bool} (h : barAt off = some b) (h' : barAt off' = some b) : off = off' := by
  unfold barAt at h h'
  split_ifs at h with h0 h1 <;> split_ifs at h' with h0' h1' <;> cases h <;> cases h'
  · exact h0.trans h0'.symm
  · exact h1.trans h1'.symm

def barRead (b : Bool) (s : AC97Pci) : u32 := if s.probing_bar b then 0xffffff00 else s.bar_values b

lemma barRead_setBar (b c : Bool) (v : u32) (s : AC97Pci) :
    barRead c (s.setBar b v) = if b = c then v else barRead c s := by
  unfold setBar barRead
  cases b <;> cases c <;> rfl

lemma barRead_config_write32 {b c : Bool} (hb : barAt off = some b) (v : u32) (s : AC97Pci) :
    barRead c (s.config_write32 off v) = if b = c then stored off v else barRead c s := by
  unfold config_write32 stored
  simp only [hb]
  by_cases hones : v = 0xffffffff
  · rw [if_pos hones, if_pos hones]
    unfold barRead
    cases b <;> cases c <;> rfl
  rw [if_neg hones, if_neg hones]
  by_cases hzero : v = 0
  · rw [if_pos hzero, barRead_setBar, hzero]
    rfl
  · rw [if_neg hzero, barRead_setBar]

lemma config_config_write32 {b : Bool} (hb : barAt off = some b) (v : u32) (s : AC97Pci) :
    (s.config_write32 off v).config = s.config := by
  have hset : ∀ x, (s.setBar b x).config = s.config := by
    intro x
    cases b <;> rfl
  unfold config_write32
  simp only [hb]
  split_ifs
  · rfl
  · exact hset 0
  · exact hset _

lemma byte_config_write32 (ho : Aligned off) (ho' : Aligned off') (hb : barAt off = none) {k : u32}
    (hk : k.toNat < 4) :
    (s.config_write32 off v).config ((off' + k).setWidth 8) =
      if off = off' then (v >>> (8 * k.toNat)).setWidth 8 else s.config ((off' + k).setWidth 8) := by
  have hk4 : k = 0 ∨ k = 1 ∨ k = 2 ∨ k = 3 := by
    simp only [← BitVec.toNat_inj]
    show k.toNat = 0 ∨ k.toNat = 1 ∨ k.toNat = 2 ∨ k.toNat = 3
    omega
  unfold config_write32
  simp only [hb]
  by_cases heq : off = off'
  · subst heq
    have hne : ∀ {j j' : u32}, j.toNat < 4 → j'.toNat < 4 → j ≠ j' →
        (off + j).setWidth 8 ≠ (off + j').setWidth 8 := fun hj hj' hjj =>
      byte_ne ho ho hj hj' (Or.inr hjj)
    rw [if_pos rfl]
    rcases hk4 with rfl | rfl | rfl | rfl
    · rw [Function.update_of_ne (hne (by decide) (by decide) (by decide)),
        Function.update_of_ne (hne (by decide) (by decide) (by decide)),
        Function.update_of_ne (hne (by decide) (by decide) (by decide)), Function.update_self]
      rfl
    · rw [Function.update_of_ne (hne (by decide) (by decide) (by decide)),
        Function.update_of_ne (hne (by decide) (by decide) (by decide)), Function.update_self]
      rfl
    · rw [Function.update_of_ne (hne (by decide) (by decide) (by decide)), Function.update_self]
      rfl
    · rw [Function.update_self]
      rfl
  · have hne : ∀ {j : u32}, j.toNat < 4 → (off' + k).setWidth 8 ≠ (off + j).setWidth 8 := fun hj =>
      byte_ne ho' ho hk hj (Or.inl (Ne.symm heq))
    rw [if_neg heq, Function.update_of_ne (hne (by decide)), Function.update_of_ne (hne (by decide)),
      Function.update_of_ne (hne (by decide)), Function.update_of_ne (hne (by decide))]

theorem config_read32_write32 (ho : Aligned off) (ho' : Aligned off') (v : u32) (s : AC97Pci) :
    (s.config_write32 off v).config_read32 off' =
      if off = off' then stored off v else s.config_read32 off' := by
  cases hb : barAt off with
  | some b =>
    cases hb' : barAt off' with
    | some c =>
      have hiff : b = c ↔ off = off' := by
        constructor
        · rintro rfl
          exact barAt_inj hb hb'
        · rintro rfl
          exact Option.some.inj (hb.symm.trans hb')
      have hread : ∀ u : AC97Pci, u.config_read32 off' = barRead c u := by
        intro u
        unfold config_read32
        rw [hb']
        rfl
      rw [hread, hread, barRead_config_write32 hb]
      simp only [hiff]
    | none =>
      have hne : off ≠ off' := by
        rintro rfl
        cases hb.symm.trans hb'
      rw [if_neg hne]
      unfold config_read32
      rw [hb', config_config_write32 hb]
  | none =>
    cases hb' : barAt off' with
    | some c =>
      have hne : off ≠ off' := by
        rintro rfl
        cases hb.symm.trans hb'
      rw [if_neg hne]
      unfold config_read32 config_write32
      rw [hb, hb']
    | none =>
      unfold config_read32
      rw [hb']
      dsimp only
      rw [byte_config_write32 ho ho' hb (by decide), byte_config_write32 ho ho' hb (by decide),
        byte_config_write32 ho ho' hb (by decide), byte_config_write32 ho ho' hb (by decide)]
      split_ifs with heq
      · unfold stored
        rw [hb]
        exact join_bytes v
      · rfl

end AC97Pci

/-! ### Through the bridge -/

namespace Devices

/-- A word of the configuration space, in the byte order of the device. -/
def configWord (addr : u32) (d : Devices) : u32 := d.ac97.config_read32 (cfgReg addr)

/-- A write of a word, in the byte order of the device. -/
def configStore (w : u32 × u32) (d : Devices) : Devices :=
  cfgDone { d with ac97 := d.ac97.config_write32 (cfgReg w.1) w.2 }

lemma config_read_word {addr : u32} (hslot : cfgSlot addr = 6) (d : Devices) :
    d.config_read .b4 addr = .ok (bswap32 (configWord addr d), d.cfgDone) := by
  unfold config_read
  rw [if_neg (not_not.mpr hslot)]
  rfl

lemma config_write_word {addr : u32} (hslot : cfgSlot addr = 6) (v : u32) (d : Devices) :
    d.config_write .b4 addr (bswap32 v) = .ok (configStore (addr, v) d) := by
  unfold config_write
  rw [if_neg (not_not.mpr hslot)]
  dsimp only
  rw [bswap32_bswap32]
  rfl

/-- Writes of words to the configuration space, one after the other. -/
def configWrites (ws : List (u32 × u32)) (d : Devices) : Except HostError Devices :=
  ws.foldlM (fun d w => d.config_write .b4 w.1 (bswap32 w.2)) d

lemma configWrites_eq {ws : List (u32 × u32)} (hslot : ∀ w ∈ ws, cfgSlot w.1 = 6) (d : Devices) :
    configWrites ws d = .ok (ws.foldl (fun d w => configStore w d) d) := by
  induction ws generalizing d with
  | nil => rfl
  | cons w ws ih =>
    unfold configWrites
    rw [List.foldlM_cons, config_write_word (hslot w List.mem_cons_self)]
    exact ih (fun w' hw' => hslot w' (List.mem_cons_of_mem w hw')) (configStore w d)

/-- **The configuration protocol**: however many words are written to the device, a register that is
among them reads as the last write to it leaves it, and every other one as before. A base address
register answers all ones with the size of its window and keeps the address of anything else, and
the others are plain storage. -/
theorem config_protocol (d : Devices) (ws : List (u32 × u32)) (hslot : ∀ w ∈ ws, cfgSlot w.1 = 6) :
    ∃ d', configWrites ws d = .ok d' ∧ ∀ addr, cfgSlot addr = 6 →
      d'.config_read .b4 addr = .ok (bswap32 (configWord addr d'), d'.cfgDone) ∧
      ((∀ w ∈ ws, cfgReg w.1 ≠ cfgReg addr) → configWord addr d' = configWord addr d) ∧
      ∀ us w vs, ws = us ++ w :: vs → cfgReg w.1 = cfgReg addr →
        (∀ w' ∈ vs, cfgReg w'.1 ≠ cfgReg addr) →
        configWord addr d' =
          if cfgReg addr = 0x10 ∨ cfgReg addr = 0x14 then
            if w.2 = 0xffffffff then 0xffffff00 else w.2 &&& 0xfffffff0
          else w.2 := by
  refine ⟨_, configWrites_eq hslot d, fun addr haddr => ⟨config_read_word haddr _, ?_⟩⟩
  have hreplay : configWord addr (ws.foldl (fun d w => configStore w d) d) =
      reads (fun w : u32 × u32 => cfgReg w.1) (fun w => AC97Pci.stored (cfgReg w.1) w.2) (cfgReg addr)
        (configWord addr d) ws := by
    refine read_foldl configStore (fun r (d : Devices) => d.ac97.config_read32 r) (fun w d => ?_) d
    exact AC97Pci.config_read32_write32 (AC97Pci.aligned_cfgReg _) (AC97Pci.aligned_cfgReg _) w.2 d.ac97
  rw [hreplay]
  refine ⟨fun hnone => reads_of_none hnone, fun us w vs hws hw hlast => ?_⟩
  have hval : reads (fun w : u32 × u32 => cfgReg w.1) (fun w => AC97Pci.stored (cfgReg w.1) w.2)
      (cfgReg addr) (configWord addr d) (us ++ w :: vs) = AC97Pci.stored (cfgReg w.1) w.2 :=
    reads_of_last hw hlast
  rw [hws, hval, hw]
  unfold AC97Pci.stored AC97Pci.barAt
  by_cases h10 : cfgReg addr = 0x10
  · rw [if_pos h10, if_pos (Or.inl h10)]
  · by_cases h14 : cfgReg addr = 0x14
    · rw [if_neg h10, if_pos h14, if_pos (Or.inr h14)]
    · rw [if_neg h10, if_neg h14, if_neg (not_or.mpr ⟨h10, h14⟩)]

/-- The device in slot 6. -/
def cfgAddr (reg : u32) : u32 := PCI_CONF_BASE + 0x3000 + reg

/-- A probe of the first base address register: the other registers read as before. -/
theorem config_protocol_probe :
    ∃ d', configWrites [(cfgAddr 0x10, 0xffffffff)] reset = .ok d' ∧
      configWord (cfgAddr 0x10) d' = 0xffffff00 ∧ configWord (cfgAddr 0x14) d' = 0 ∧
      configWord (cfgAddr 0) d' = 0x24158086 := by
  obtain ⟨d', hd, hread⟩ := config_protocol reset [(cfgAddr 0x10, 0xffffffff)]
    (List.forall_mem_singleton.mpr (by decide))
  refine ⟨d', hd, ?_, ?_, ?_⟩
  · exact (hread (cfgAddr 0x10) (by decide)).2.2 [] _ [] rfl rfl nofun
  · have hkept := (hread (cfgAddr 0x14) (by decide)).2.1 (List.forall_mem_singleton.mpr (by decide))
    exact hkept.trans (by decide +kernel)
  · have hkept := (hread (cfgAddr 0) (by decide)).2.1 (List.forall_mem_singleton.mpr (by decide))
    exact hkept.trans (by decide +kernel)

/-- The identification is overwritten like any other register, and a base address keeps bits below
the size of the window. -/
theorem config_ids_overwritten :
    configWord (cfgAddr 0) reset = 0x24158086 ∧ configWord (cfgAddr 8) reset = 0x04010001 ∧
    (configWrites [(cfgAddr 0, 0), (cfgAddr 8, 0), (cfgAddr 0x10, 0x80000050)] reset).map
      (fun d => (configWord (cfgAddr 0) d, configWord (cfgAddr 8) d, configWord (cfgAddr 0x10) d))
      = .ok (0, 0, 0x80000050) := by
  decide +kernel

end Devices

end SparcEmu
