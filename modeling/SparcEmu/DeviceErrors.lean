import SparcEmu.Peripherals

/-!
Which accesses to the devices throw. For reads this is a matter of address and size alone; a write
throws by address and size too, but for the frame buffer address, where the value decides, and for
a request to start playback, where the descriptor must be readable.
-/

namespace SparcEmu

variable {α : Type}

lemma isOk_map {β : Type} (f : α → β) (x : Except HostError α) : (x.map f).isOk = x.isOk := by
  cases x <;> rfl

variable {x : Except HostError α}

lemma isOk_iff : x.isOk = true ↔ ∃ a, x = .ok a := by
  cases x <;> simp [Except.isOk, Except.toBool]

@[simp] lemma isOk_ok (a : α) : (Except.ok a : Except HostError α).isOk = true := rfl

@[simp] lemma isOk_error (e : HostError) : (Except.error e : Except HostError α).isOk = false := rfl

variable {c : Prop}

lemma isOk_ite [Decidable c] (x y : Except HostError α) :
    (if c then x else y).isOk = if c then x.isOk else y.isOk := apply_ite ..

lemma isOk_decode [Decidable c] (a : α) (x : Except HostError α) :
    (if c then .ok a else x).isOk = (decide c || x.isOk) := by
  split_ifs with h <;> simp [h]

/-- What the decoder returns, if it returns, has `P`. -/
def AllOk {α : Type} (P : α → Prop) (x : Except HostError α) : Prop := ∀ a, x = .ok a → P a

variable {P : α → Prop}

lemma allOk_decode [Decidable c] {a : α} (ha : c → P a) (hx : AllOk P x) :
    AllOk P (if c then .ok a else x) := by
  split_ifs with h
  · rintro _ ⟨⟩; exact ha h
  · exact hx

lemma allOk_ite [Decidable c] {y : Except HostError α} (hx : c → AllOk P x) (hy : AllOk P y) :
    AllOk P (if c then x else y) := by
  split_ifs with hc
  · exact hx hc
  · exact hy

lemma allOk_ok {a : α} (h : P a) : AllOk P (.ok a) := by
  rintro _ ⟨⟩; exact h

lemma allOk_error (e : HostError) : AllOk P (.error e) := by
  rintro _ ⟨⟩

lemma allOk_map {β : Type} {P : β → Prop} {f : α → β} (h : AllOk (fun a => P (f a)) x) :
    AllOk P (x.map f) := by
  cases x with
  | error e => exact allOk_error e
  | ok a => exact allOk_ok (h a rfl)

/-! ### The register decoders -/

def APBUART.hasReg (reg : u32) : Bool := reg ∈ [0x0, 0x4, 0x8, (0xc : u32)]

lemma APBUART.read_isOk (reg : u32) (s : APBUART) : (s.read reg).isOk = hasReg reg := by
  simp only [APBUART.read, hasReg, isOk_ite, isOk_ok, isOk_error, ite_self]
  rw [Bool.eq_iff_iff]
  simp

lemma APBUART.write_isOk (reg v : u32) (s : APBUART) : (s.write reg v).isOk = hasReg reg := by
  simp only [APBUART.write, hasReg, isOk_decode, isOk_error]
  rw [Bool.eq_iff_iff]
  simp

/-- The registers of the interrupt controller that can be written. -/
def IRQMP.hasReg (reg : u32) : Bool :=
  decide (0x40 ≤ reg ∧ reg < 0x60) || decide (0x80 ≤ reg ∧ reg < 0xa0) ||
    decide (reg ∈ [ILEVEL_OS, IPEND_OS, IFORCE_OS, ICLEAR_OS, MPSTAT_OS, BRDCST_OS, ERRSTAT_OS])

lemma IRQMP.write_isOk (reg v : u32) (s : IRQMP) : (s.write reg v).isOk = hasReg reg := by
  simp only [IRQMP.write, hasReg, isOk_decode, isOk_error]
  rw [Bool.eq_iff_iff]
  simp [or_assoc]

/-- A frame buffer address is accepted unless its bank refuses `get_ptr`. -/
def SVGA.fbufOk (banks : List IMemoryBank) (v : u32) : Bool :=
  match MCtrl.findFrom v banks 0 with
  | none => true
  | some (_, b) => b.get_ptr.isOk

lemma SVGA.write_isOk (banks : List IMemoryBank) (reg v : u32) (s : SVGA) :
    (s.write banks reg v).isOk = (decide (reg ≠ 0x14) || fbufOk banks v) := by
  have hfb : (s.write_fbuf banks v).isOk = fbufOk banks v := by
    unfold SVGA.write_fbuf fbufOk
    rcases MCtrl.findFrom v banks 0 with _ | ⟨i, b⟩
    · rfl
    · dsimp only
      cases b.get_ptr <;> rfl
  unfold SVGA.write
  by_cases h : reg = 0x14#32
  · subst h
    simpa using hfb
  · simp [h, isOk_decode]

variable {addr : u32}

namespace AC97Pci

@[simp] lemma eff_nam_eq (s : AC97Pci) : s.eff_nam = phys_nam_base := rfl

@[simp] lemma eff_nabm_eq (s : AC97Pci) : s.eff_nabm = phys_nabm_base := rfl

lemma window_nabm_of_nam {of : u32} (h : window phys_nam_base addr = some of) :
    window phys_nabm_base addr = none := by
  unfold window phys_nam_base at h
  unfold window phys_nabm_base
  split_ifs at h with hw
  have h1 : addr.toNat < 0x24000900 := BitVec.lt_def.mp hw.2
  rw [if_neg]
  rintro ⟨h2, -⟩
  have h3 : 0x24000900 ≤ addr.toNat := BitVec.le_def.mp h2
  omega

/-- The bus master registers that can be read with the size. -/
def nabmReadable : AccessSize → List u32
  | .b1 => [0x16, 0x17, 0x06, 0x07, 0x26, 0x27, 0x0b, 0x1b, 0x2b, 0x04, 0x14, 0x24, 0x05, 0x15, 0x25, 0x34]
  | .b2 => [0x16, 0x06, 0x26, 0x18, 0x08, 0x28]
  | .b4 => [0x10, 0x00, 0x20, 0x2c, 0x30]

lemma read_nabm8_isOk (of : u32) (s : AC97Pci) :
    (s.read_nabm8 of).isOk = decide (of ∈ nabmReadable .b1) := by
  simp only [read_nabm8, isOk_decode, isOk_error]
  rw [Bool.eq_iff_iff]
  simp [nabmReadable, or_assoc]

lemma read_nabm16_isOk (of : u32) (s : AC97Pci) :
    (s.read_nabm16 of).isOk = decide (of ∈ nabmReadable .b2) := by
  simp only [read_nabm16, isOk_decode, isOk_error]
  rw [Bool.eq_iff_iff]
  simp [nabmReadable]

lemma read_nabm32_isOk (of : u32) (s : AC97Pci) :
    (s.read_nabm32 of).isOk = decide (of ∈ nabmReadable .b4) := by
  simp only [read_nabm32, isOk_decode, isOk_error]
  rw [Bool.eq_iff_iff]
  simp [nabmReadable]

/-- The bus master registers that can be written with the size; a halfword goes anywhere. -/
def nabmWritable : AccessSize → u32 → Bool
  | .b1, of => of ∈
      [0x16, 0x17, 0x06, 0x07, 0x26, 0x27, 0x0b, 0x1b, 0x2b, 0x14, 0x04, 0x24, 0x05, 0x15, (0x25 : u32)]
  | .b2, _ => true
  | .b4, of => of ∈ [0x10, 0x00, 0x20, 0x2c, (0x30 : u32)]

lemma write_nabm8_isOk (mapped : u32 → Bool) (of : u32) (v : u8) (s : AC97Pci) :
    (s.write_nabm8 mapped of v).isOk = nabmWritable .b1 of := by
  simp only [write_nabm8, isOk_decode, isOk_error]
  rw [Bool.eq_iff_iff]
  simp [nabmWritable, or_assoc]

lemma write_nabm32_isOk (of v : u32) (s : AC97Pci) :
    (s.write_nabm32 of v).isOk = nabmWritable .b4 of := by
  simp only [write_nabm32, isOk_decode, isOk_error]
  rw [Bool.eq_iff_iff]
  simp [nabmWritable]

end AC97Pci

variable {d : Devices}

namespace Devices

/-! ### Reads -/

/-- The sound device answers. -/
def mmioReadable (size : AccessSize) (addr : u32) : Bool :=
  match AC97Pci.window AC97Pci.phys_nabm_base addr with
  | none => true
  | some of => of ∈ AC97Pci.nabmReadable size

/-- The bridge answers: a word, in a register that the slave has. -/
def apbReadable (size : AccessSize) (va : u32) : Bool :=
  decide (size = .b4) && apbRange va &&
    (decide (apbSlave va ≠ 0x001 ∧ apbSlave va ≠ 0x009) || APBUART.hasReg (apbReg va))

/-- The configuration space answers: the one device that is there has words only. -/
def cfgAnswers (size : AccessSize) (addr : u32) : Bool :=
  if inArea PCI_CONF_BASE addr then decide (cfgSlot addr ≠ 6 ∨ size = .b4)
  else inArea PCI_IO_BASE addr

def readable (align : Bool) (id : Nat) (size : AccessSize) (addr : u32) : Bool :=
  match id with
  | 0 => apbReadable size addr
  | 1 | 2 => mmioReadable size addr
  | 3 => !(align && misaligned size addr) && cfgAnswers size addr
  | _ => true

lemma apbRead_isOk (size : AccessSize) (va : u32) (d : Devices) :
    (d.apbRead size va).isOk = apbReadable size va := by
  have h4 : (d.apbRead32 va).isOk = apbReadable .b4 va := by
    simp only [apbRead32, apbReadable, isOk_ite, isOk_map, APBUART.read_isOk, isOk_ok, isOk_error]
    cases apbRange va
    · rfl
    · by_cases h1 : apbSlave va = 0x001#32
      · simp [h1]
      · by_cases h9 : apbSlave va = 0x009#32 <;> simp [h1, h9]
  cases size
  · rfl
  · rfl
  · exact h4

lemma mmioRead_isOk (size : AccessSize) (addr : u32) (d : Devices) :
    (d.mmioRead size addr).isOk = mmioReadable size addr := by
  cases size with
  | b1 =>
    simp only [mmioRead, isOk_map, AC97Pci.io_read8, AC97Pci.eff_nabm_eq, mmioReadable]
    cases AC97Pci.window AC97Pci.phys_nabm_base addr with
    | none => rfl
    | some of => simp only [isOk_map, AC97Pci.read_nabm8_isOk]
  | b2 =>
    simp only [mmioRead, isOk_map, AC97Pci.io_read16, AC97Pci.eff_nam_eq, AC97Pci.eff_nabm_eq,
      mmioReadable]
    cases hn : AC97Pci.window AC97Pci.phys_nam_base addr with
    | some of => rw [AC97Pci.window_nabm_of_nam hn]; rfl
    | none =>
      cases AC97Pci.window AC97Pci.phys_nabm_base addr with
      | none => rfl
      | some of => simp only [isOk_map, AC97Pci.read_nabm16_isOk]
  | b4 =>
    simp only [mmioRead, isOk_map, AC97Pci.io_read32, AC97Pci.eff_nam_eq, AC97Pci.eff_nabm_eq,
      mmioReadable]
    cases hn : AC97Pci.window AC97Pci.phys_nam_base addr with
    | some of => rw [AC97Pci.window_nabm_of_nam hn]; rfl
    | none =>
      cases AC97Pci.window AC97Pci.phys_nabm_base addr with
      | none => rfl
      | some of => exact AC97Pci.read_nabm32_isOk of d.ac97

lemma cfgRead_isOk (align : Bool) (size : AccessSize) (addr : u32) (d : Devices) :
    (d.cfgRead align size addr).isOk = (!(align && misaligned size addr) && cfgAnswers size addr) := by
  simp only [cfgRead, cfgAnswers, config_read, isOk_ite]
  cases align && misaligned size addr
  · cases inArea PCI_CONF_BASE addr
    · cases inArea PCI_IO_BASE addr <;> rfl
    · by_cases h6 : cfgSlot addr = 6#32 <;> cases size <;> simp [h6]
  · rfl

theorem read_isOk (align : Bool) (id : Nat) (size : AccessSize) (addr : u32) (d : Devices) :
    (d.read align id size addr).isOk = readable align id size addr :=
  match id with
  | 0 => apbRead_isOk size addr d
  | 1 | 2 => mmioRead_isOk size addr d
  | 3 => cfgRead_isOk align size addr d
  | _ + 4 => rfl

/-! ### Descriptors -/

/-- The bus answers the sound device. -/
def busReadable (banks : List IMemoryBank) (size : AccessSize) (addr : u32) : Bool :=
  match MCtrl.findFrom addr banks 0 with
  | none => false
  | some (_, b) =>
    match b.kind with
    | .device id _ => readable true id size addr
    | _ => true

def descriptorReadable (banks : List IMemoryBank) (bd_addr : u32) : Bool :=
  busReadable banks .b4 bd_addr && busReadable banks .b2 (bd_addr + 4) &&
    busReadable banks .b2 (bd_addr + 6)

lemma busRead_isOk (banks : List IMemoryBank) (size : AccessSize) (addr : u32) (d : Devices) :
    (d.busRead banks size addr).isOk = busReadable banks size addr := by
  unfold busRead busReadable
  rcases MCtrl.findFrom addr banks 0 with _ | ⟨i, b⟩
  · rfl
  · dsimp only
    cases b.kind with
    | RamBank => rfl
    | RomBank w => rfl
    | device id p => simp only [isOk_map, read_isOk]

lemma startPlayback_isOk (banks : List IMemoryBank) (bd_addr : u32) (d : Devices) :
    (d.startPlayback banks bd_addr).isOk = descriptorReadable banks bd_addr := by
  unfold startPlayback descriptorReadable
  rw [← busRead_isOk banks .b4 bd_addr d]
  rcases d.busRead banks .b4 bd_addr with e | ⟨ptr, d₁⟩
  · rfl
  rw [← busRead_isOk banks .b2 (bd_addr + 4) d₁]
  show Except.isOk (d₁.busRead banks .b2 (bd_addr + 4) >>= _) = _
  rcases d₁.busRead banks .b2 (bd_addr + 4) with e | ⟨len, d₂⟩
  · rfl
  rw [← busRead_isOk banks .b2 (bd_addr + 6) d₂]
  show Except.isOk (d₂.busRead banks .b2 (bd_addr + 6) >>= _) = _
  rcases d₂.busRead banks .b2 (bd_addr + 6) with e | ⟨ctl, d₃⟩
  · rfl
  · rfl

/-! ### Writes -/

/-- The descriptor that a value written to the control register makes the device fetch. -/
def fetches (banks : List IMemoryBank) (v : u8) (a : AC97Pci) : Option u32 :=
  if v.getLsbD 0 && !v.getLsbD 1 && !a.po_running && decide (a.bdbar_playback ≠ 0) &&
      (MCtrl.findFrom a.bdbar_playback banks 0).isSome then
    some (a.bdbar_playback + a.po_civ.setWidth 32 * 8)
  else none

def PO_CR : u32 := 0x1b

def mmioWritable (banks : List IMemoryBank) (size : AccessSize) (addr v : u32) (a : AC97Pci) : Bool :=
  match AC97Pci.window AC97Pci.phys_nabm_base addr with
  | none => true
  | some of =>
    AC97Pci.nabmWritable size of &&
      (if size = .b1 ∧ of = PO_CR then
        (fetches banks (v.setWidth 8) a).all (descriptorReadable banks)
      else true)

def apbWritable (banks : List IMemoryBank) (size : AccessSize) (va v : u32) : Bool :=
  decide (size = .b4) && apbRange va &&
    (if apbSlave va = 0x001 ∨ apbSlave va = 0x009 then APBUART.hasReg (apbReg va)
    else if apbSlave va = 0x002 then IRQMP.hasReg (apbReg va)
    else if apbSlave va = 0x005 then decide (apbReg va ≠ 0x14) || SVGA.fbufOk banks v
    else true)

def writable (banks : List IMemoryBank) (id : Nat) (size : AccessSize) (addr v : u32) (d : Devices) :
    Bool :=
  match id with
  | 0 => apbWritable banks size addr v
  | 1 | 2 => mmioWritable banks size addr v d.ac97
  | 3 => cfgAnswers size addr
  | _ => true

lemma apbWrite_isOk (banks : List IMemoryBank) (size : AccessSize) (va v : u32) (d : Devices) :
    (d.apbWrite banks size va v).isOk = apbWritable banks size va v := by
  have h4 : (d.apbWrite32 banks va v).isOk = apbWritable banks .b4 va v := by
    simp only [apbWrite32, apbWritable, isOk_ite, isOk_map, APBUART.write_isOk, IRQMP.write_isOk,
      SVGA.write_isOk, isOk_ok, isOk_error]
    cases apbRange va
    · rfl
    · by_cases h1 : apbSlave va = 0x001#32
      · simp [h1]
      · by_cases h9 : apbSlave va = 0x009#32
        · simp [h9]
        · by_cases h2 : apbSlave va = 0x002#32
          · simp [h2]
          · by_cases h5 : apbSlave va = 0x005#32 <;> simp [h1, h2, h5, h9]
  cases size
  · rfl
  · rfl
  · exact h4

lemma cfgWrite_isOk (size : AccessSize) (addr v : u32) (d : Devices) :
    (d.cfgWrite size addr v).isOk = cfgAnswers size addr := by
  simp only [cfgWrite, cfgAnswers, config_write, isOk_ite]
  cases inArea PCI_CONF_BASE addr
  · cases inArea PCI_IO_BASE addr <;> rfl
  · by_cases h6 : cfgSlot addr = 6#32 <;> cases size <;> simp [h6]

lemma write_po_cr_fetch (banks : List IMemoryBank) (v : u8) (a : AC97Pci) :
    (a.write_po_cr (fun p => (MCtrl.findFrom p banks 0).isSome) v).2 = fetches banks v a := by
  have h0 : (v &&& 0x1f).getLsbD 0 = v.getLsbD 0 := by simp
  have h1 : (v &&& 0x1f).getLsbD 1 = v.getLsbD 1 := by simp
  unfold AC97Pci.write_po_cr fetches
  simp only [h0, h1]
  cases v.getLsbD 1
  · cases v.getLsbD 0
    · simp
    · cases a.po_running
      · by_cases hb : a.bdbar_playback = 0#32
        · simp [hb]
        · cases (MCtrl.findFrom a.bdbar_playback banks 0).isSome <;> simp [hb]
      · simp
  · simp

lemma write_nabm8_po_cr (mapped : u32 → Bool) (v : u8) (s : AC97Pci) :
    s.write_nabm8 mapped PO_CR v = .ok (s.write_po_cr mapped v) := rfl

lemma write_nabm8_none {of : u32} (hr : of ≠ PO_CR) (mapped : u32 → Bool) (v : u8) (s : AC97Pci) :
    AllOk (fun r => r.2 = none) (s.write_nabm8 mapped of v) := by
  unfold AC97Pci.write_nabm8
  iterate 7 refine allOk_decode (fun _ => rfl) ?_
  refine allOk_decode (fun h => absurd h hr) ?_
  iterate 5 refine allOk_decode (fun _ => rfl) ?_
  exact allOk_error _

lemma mmioWrite_isOk (banks : List IMemoryBank) (size : AccessSize) (addr v : u32) (d : Devices) :
    (d.mmioWrite banks size addr v).isOk = mmioWritable banks size addr v d.ac97 := by
  cases size with
  | b1 =>
    simp only [mmioWrite, AC97Pci.io_write8, AC97Pci.eff_nabm_eq, mmioWritable]
    cases AC97Pci.window AC97Pci.phys_nabm_base addr with
    | none => rfl
    | some of =>
      dsimp only
      by_cases hr : of = PO_CR
      · subst hr
        have hw := write_po_cr_fetch banks (v.setWidth 8) d.ac97
        rw [if_pos ⟨trivial, rfl⟩, ← hw]
        rw [write_nabm8_po_cr]
        rcases AC97Pci.write_po_cr (fun p => (MCtrl.findFrom p banks 0).isSome) (v.setWidth 8) d.ac97
          with ⟨a, _ | bd⟩
        · rfl
        · exact startPlayback_isOk banks bd _
      · rw [if_neg (fun h => hr h.2), Bool.and_true, ← AC97Pci.write_nabm8_isOk]
        rcases hw : AC97Pci.write_nabm8 _ of (v.setWidth 8) d.ac97 with e | ⟨a, o⟩
        · rfl
        · have : o = none := write_nabm8_none hr _ _ _ _ hw
          subst this
          rfl
  | b2 =>
    unfold mmioWrite mmioWritable
    cases AC97Pci.window AC97Pci.phys_nabm_base addr <;> simp [AC97Pci.nabmWritable]
  | b4 =>
    simp only [mmioWrite, isOk_map, AC97Pci.io_write32, AC97Pci.eff_nam_eq, AC97Pci.eff_nabm_eq,
      mmioWritable]
    cases hn : AC97Pci.window AC97Pci.phys_nam_base addr with
    | some of => rw [AC97Pci.window_nabm_of_nam hn]; rfl
    | none =>
      cases AC97Pci.window AC97Pci.phys_nabm_base addr with
      | none => rfl
      | some of =>
        dsimp only
        rw [if_neg (by simp), Bool.and_true]
        exact AC97Pci.write_nabm32_isOk of _ d.ac97

theorem write_isOk (banks : List IMemoryBank) (id : Nat) (size : AccessSize) (addr v : u32)
    (d : Devices) : (d.write banks id size addr v).isOk = writable banks id size addr v d :=
  match id with
  | 0 => (isOk_map ..).trans (apbWrite_isOk banks size addr v d)
  | 1 | 2 => mmioWrite_isOk banks size addr v d
  | 3 => (isOk_map ..).trans (cfgWrite_isOk size addr v d)
  | _ + 4 => rfl

/-! ### What has been fetched does not matter -/

/-- What the devices know about playback. -/
def playback (d : Devices) : Bool × u32 × u8 :=
  (d.ac97.po_running, d.ac97.bdbar_playback, d.ac97.po_civ)

section Reads

variable {d : Devices}

/-- A read of `d` has left the sound device as it was, but for the global status. -/
def SoundKept {α : Type} (d : Devices) (r : α × Devices) : Prop :=
  ∃ g, r.2.ac97 = { d.ac97 with glob_sta := g }

lemma SoundKept.playback {r : α × Devices} (h : SoundKept d r) : r.2.playback = d.playback := by
  obtain ⟨g, hg⟩ := h
  unfold Devices.playback
  rw [hg]

/-- A read changes two bits of the global status at most: the busy flag and the sticky bit. -/
def GlobRead (g g' : u32) : Prop := ∀ i, i ≠ 2 → i ≠ 15 → g'.getLsbD i = g.getLsbD i

lemma globRead_refl (g : u32) : GlobRead g g := fun _ _ _ => rfl

lemma globRead_command (a : AC97Pci) : GlobRead a.glob_sta a.codec_command.glob_sta := by
  intro i h2 _
  have hb : AC97Pci.GS_BUSY.getLsbD i = false := by
    have hlit : AC97Pci.GS_BUSY = BitVec.twoPow 32 2 := rfl
    rw [hlit, BitVec.getLsbD_twoPow]
    simp [Ne.symm h2]
  show ((a.glob_sta ||| AC97Pci.GS_BUSY) &&& ~~~AC97Pci.GS_BUSY).getLsbD i = _
  by_cases hi : i < 32
  · simp only [BitVec.getLsbD_and, BitVec.getLsbD_or, BitVec.getLsbD_not, hb, hi, decide_true,
      Bool.not_false, Bool.and_true, Bool.or_false]
  · rw [BitVec.getLsbD_of_ge _ _ (Nat.le_of_not_lt hi), BitVec.getLsbD_of_ge _ _ (Nat.le_of_not_lt hi)]

lemma globRead_sta (a : AC97Pci) : GlobRead a.glob_sta a.read_glob_sta.2.glob_sta := by
  intro i _ h15
  have hb : (0x8000#32).getLsbD i = false := by
    have hlit : 0x8000#32 = BitVec.twoPow 32 15 := rfl
    rw [hlit, BitVec.getLsbD_twoPow]
    simp [Ne.symm h15]
  show (a.glob_sta &&& ~~~0x8000#32).getLsbD i = _
  by_cases hi : i < 32
  · simp only [BitVec.getLsbD_and, BitVec.getLsbD_not, hb, hi, decide_true, Bool.not_false,
      Bool.and_true]
  · rw [BitVec.getLsbD_of_ge _ _ (Nat.le_of_not_lt hi), BitVec.getLsbD_of_ge _ _ (Nat.le_of_not_lt hi)]

/-- The sound device as a read of it leaves it. -/
def SoundRead (a a' : AC97Pci) : Prop := ∃ g, GlobRead a.glob_sta g ∧ a' = { a with glob_sta := g }

lemma soundKept_of_read {r : α × Devices} (h : SoundRead d.ac97 r.2.ac97) : SoundKept d r := by
  obtain ⟨g, -, hg⟩ := h
  exact ⟨g, hg⟩

lemma soundRead_refl (a : AC97Pci) : SoundRead a a := ⟨_, globRead_refl _, rfl⟩

lemma apbRead_sound (size : AccessSize) (va : u32) :
    AllOk (fun r => SoundRead d.ac97 r.2.ac97) (d.apbRead size va) := by
  have h4 : AllOk (fun r => SoundRead d.ac97 r.2.ac97) (d.apbRead32 va) := by
    unfold apbRead32
    by_cases hr : (!apbRange va) = true
    · rw [if_pos hr]
      exact allOk_error _
    rw [if_neg hr]
    refine allOk_decode (fun _ => soundRead_refl _) ?_
    refine allOk_ite (fun _ => allOk_map fun _ _ => soundRead_refl _) ?_
    iterate 3 refine allOk_decode (fun _ => soundRead_refl _) ?_
    refine allOk_ite (fun _ => allOk_map fun _ _ => soundRead_refl _) ?_
    iterate 2 refine allOk_decode (fun _ => soundRead_refl _) ?_
    exact allOk_ok (soundRead_refl _)
  cases size
  · exact allOk_error _
  · exact allOk_error _
  · exact h4

lemma read_nam_sound (of : u32) (a : AC97Pci) : SoundRead a (a.read_nam of).2 := by
  have hcmd : SoundRead a a.codec_command := ⟨_, globRead_command a, rfl⟩
  unfold AC97Pci.read_nam
  split_ifs
  · exact soundRead_refl a
  all_goals exact hcmd

lemma read_nabm32_sound (of : u32) (a : AC97Pci) :
    AllOk (fun r => SoundRead a r.2) (a.read_nabm32 of) := by
  unfold AC97Pci.read_nabm32
  iterate 4 refine allOk_decode (fun _ => soundRead_refl a) ?_
  exact allOk_decode (fun _ => ⟨_, globRead_sta a, rfl⟩) (allOk_error _)

lemma io_read_sound {x : Except HostError (u32 × AC97Pci)} (f : u32 → u32)
    (h : AllOk (fun r => SoundRead d.ac97 r.2) x) :
    AllOk (fun r => SoundRead d.ac97 r.2.ac97) (x.map fun r => (f r.1, { d with ac97 := r.2 })) :=
  allOk_map fun r hr => h r hr

lemma io_read_glob (size : AccessSize) (addr : u32) (a : AC97Pci) :
    AllOk (fun r => SoundRead a r.2)
      (match size with
        | .b4 => a.io_read32 addr
        | .b2 => a.io_read16 addr
        | .b1 => a.io_read8 addr) := by
  cases size with
  | b1 =>
    dsimp only
    unfold AC97Pci.io_read8
    split
    · exact allOk_map fun _ _ => soundRead_refl a
    · exact allOk_ok (soundRead_refl a)
  | b2 =>
    dsimp only
    unfold AC97Pci.io_read16
    split
    · exact allOk_ok (read_nam_sound _ a)
    · exact allOk_map fun _ _ => soundRead_refl a
    · exact allOk_ok (soundRead_refl a)
  | b4 =>
    dsimp only
    unfold AC97Pci.io_read32
    split
    · exact allOk_ok (read_nam_sound _ a)
    · exact read_nabm32_sound _ a
    · exact allOk_ok (soundRead_refl a)

lemma mmioRead_sound (size : AccessSize) (addr : u32) :
    AllOk (fun r => SoundRead d.ac97 r.2.ac97) (d.mmioRead size addr) := by
  have h := io_read_glob size addr d.ac97
  cases size
  · exact io_read_sound (fun v => v) h
  · exact io_read_sound (fun v => (bswap16 (v.setWidth 16)).setWidth 32) h
  · exact io_read_sound bswap32 h

lemma cfgRead_sound (align : Bool) (size : AccessSize) (addr : u32) :
    AllOk (fun r => SoundRead d.ac97 r.2.ac97) (d.cfgRead align size addr) := by
  unfold cfgRead config_read
  split_ifs
  · exact allOk_error _
  · exact allOk_ok (soundRead_refl _)
  · cases size
    · exact allOk_error _
    · exact allOk_error _
    · exact allOk_ok (soundRead_refl _)
  · exact allOk_ok (soundRead_refl _)
  · exact allOk_error _

theorem read_sound (align : Bool) (id : Nat) (size : AccessSize) (addr : u32) :
    AllOk (fun r => SoundRead d.ac97 r.2.ac97) (d.read align id size addr) :=
  match id with
  | 0 => apbRead_sound size addr
  | 1 | 2 => mmioRead_sound size addr
  | 3 => cfgRead_sound align size addr
  | _ + 4 => allOk_ok (soundRead_refl _)

lemma busRead_glob (banks : List IMemoryBank) (size : AccessSize) (addr : u32) :
    AllOk (fun r => SoundRead d.ac97 r.2.ac97) (d.busRead banks size addr) := by
  unfold busRead
  split
  · exact allOk_error _
  · split
    · exact allOk_map (read_sound true _ size addr)
    · exact allOk_ok (soundRead_refl _)

lemma busRead_sound (banks : List IMemoryBank) (size : AccessSize) (addr : u32) :
    AllOk (SoundKept d) (d.busRead banks size addr) := fun r hr =>
  soundKept_of_read (busRead_glob banks size addr r hr)

end Reads

variable {banks : List IMemoryBank} {a : AC97Pci}

lemma fetches_congr {a' : AC97Pci} (hr : a'.po_running = a.po_running)
    (hb : a'.bdbar_playback = a.bdbar_playback) (hc : a'.po_civ = a.po_civ) (v : u8) :
    fetches banks v a' = fetches banks v a := by
  unfold fetches
  rw [hr, hb, hc]

variable {d' : Devices}

lemma writable_congr (h : d'.playback = d.playback) (id : Nat) (size : AccessSize) (addr v : u32) :
    writable banks id size addr v d' = writable banks id size addr v d := by
  simp only [playback, Prod.mk.injEq] at h
  unfold writable mmioWritable
  simp only [fetches_congr h.1 h.2.1 h.2.2]

/-- The descriptor that playback would fetch next. -/
def nextDescriptor (a : AC97Pci) : u32 := a.bdbar_playback + a.po_civ.setWidth 32 * 8

lemma fetches_all (h : descriptorReadable banks (nextDescriptor a) = true) (v : u8) :
    (fetches banks v a).all (descriptorReadable banks) = true := by
  unfold fetches
  split_ifs
  · exact h
  · rfl

lemma writable_of_descriptor (h : descriptorReadable banks (nextDescriptor d.ac97) = true)
    (h' : descriptorReadable banks (nextDescriptor d'.ac97) = true) (id : Nat) (size : AccessSize)
    (addr v : u32) : writable banks id size addr v d' = writable banks id size addr v d := by
  unfold writable mmioWritable
  simp only [fetches_all h, fetches_all h']

lemma write_po_cr_next {mapped : u32 → Bool} {v : u8} {a' : AC97Pci} {bd : u32}
    (h : a.write_po_cr mapped v = (a', some bd)) : bd = nextDescriptor a' := by
  unfold AC97Pci.write_po_cr at h
  dsimp only at h
  split_ifs at h
  all_goals first
    | (simp only [Prod.mk.injEq, reduceCtorEq, and_false] at h; done)
    | (cases h; rfl)

lemma po_start_next (ptr : u32) (len ctl : u16) (a : AC97Pci) :
    nextDescriptor (a.po_start ptr len ctl) = nextDescriptor a := by
  unfold AC97Pci.po_start
  split_ifs <;> rfl

lemma nextDescriptor_congr (h : d'.playback = d.playback) :
    nextDescriptor d'.ac97 = nextDescriptor d.ac97 := by
  simp only [playback, Prod.mk.injEq] at h
  unfold nextDescriptor
  rw [h.2.1, h.2.2]

variable {f : HostBytes → Devices}

lemma startPlayback_next {bd : u32} (h : d.startPlayback banks bd = .ok f) (hb : HostBytes) :
    nextDescriptor (f hb).ac97 = nextDescriptor d.ac97 := by
  unfold startPlayback at h
  rcases h1 : d.busRead banks .b4 bd with e | ⟨ptr, d₁⟩ <;> rw [h1] at h
  · cases h
  change (d₁.busRead banks .b2 (bd + 4) >>= _) = _ at h
  rcases h2 : d₁.busRead banks .b2 (bd + 4) with e | ⟨len, d₂⟩ <;> rw [h2] at h
  · cases h
  change (d₂.busRead banks .b2 (bd + 6) >>= _) = _ at h
  rcases h3 : d₂.busRead banks .b2 (bd + 6) with e | ⟨ctl, d₃⟩ <;> rw [h3] at h
  · cases h
  cases h
  have k : d₃.playback = d.playback :=
    (busRead_sound _ _ _ _ h3).playback.trans <| (busRead_sound _ _ _ _ h2).playback.trans <|
      (busRead_sound _ _ _ _ h1).playback
  exact (po_start_next ..).trans (nextDescriptor_congr k)

lemma mmioWrite_fetched {size : AccessSize} {v : u32} (h : d.mmioWrite banks size addr v = .ok f) :
    (∀ h h', f h = f h') ∨ ∀ h, descriptorReadable banks (nextDescriptor (f h).ac97) = true := by
  cases size with
  | b1 =>
    unfold mmioWrite at h
    dsimp only at h
    rcases hw : d.ac97.io_write8 _ addr (v.setWidth 8) with e | ⟨a, _ | bd⟩ <;> rw [hw] at h
    · cases h
    · cases h
      exact Or.inl fun _ _ => rfl
    · have hn : bd = nextDescriptor a := by
        unfold AC97Pci.io_write8 at hw
        split at hw
        · next of _ =>
          by_cases hr : of = PO_CR
          · subst hr
            rw [write_nabm8_po_cr] at hw
            exact write_po_cr_next (Except.ok.inj hw)
          · cases write_nabm8_none hr _ _ _ _ hw
        · cases hw
      refine Or.inr fun hb => ?_
      rw [startPlayback_next h hb, ← startPlayback_isOk banks _ { d with ac97 := a }, ← hn]
      exact isOk_iff.mpr ⟨f, h⟩
  | b2 =>
    cases h
    exact Or.inl fun _ _ => rfl
  | b4 =>
    refine Or.inl ?_
    unfold mmioWrite at h
    rcases hw : d.ac97.io_write32 addr (bswap32 v) with e | a <;> rw [hw] at h <;> cases h
    exact fun _ _ => rfl

lemma write_fetched {id : Nat} {size : AccessSize} {v : u32}
    (h : d.write banks id size addr v = .ok f) :
    (∀ h h', f h = f h') ∨ ∀ h, descriptorReadable banks (nextDescriptor (f h).ac97) = true := by
  have const : ∀ x : Except HostError Devices, x.map (fun d _ => d) = .ok f → ∀ h h', f h = f h' := by
    rintro (e | d) hx <;> cases hx
    exact fun _ _ => rfl
  match id with
  | 0 => exact Or.inl (const _ h)
  | 1 | 2 => exact mmioWrite_fetched h
  | 3 => exact Or.inl (const _ h)
  | _ + 4 => cases h; exact Or.inl fun _ _ => rfl

/-- The devices as the memory controller sees them, on a bus with the given banks. -/
def ops (banks : List IMemoryBank) : DeviceOps Devices where
  read id size addr d := d.read false id size addr
  write id size addr v d := d.write banks id size addr v
  write_throws id size addr v d f hf id' size' addr' v' h h' := by
    rw [write_isOk, write_isOk]
    rcases write_fetched hf with hc | hc
    · rw [hc h h']
    · exact writable_of_descriptor (hc h') (hc h) id' size' addr' v'

end Devices

namespace MCtrl

def mainBanks (enable_vga : Bool) : List IMemoryBank := (MCtrl.main enable_vga (Devices.ops [])).banks

/-- The machine of `main`, with its devices. -/
def leon (enable_vga : Bool) : MCtrl Devices := MCtrl.main enable_vga (Devices.ops (mainBanks enable_vga))

lemma leon_dev (enable_vga : Bool) : (leon enable_vga).dev = Devices.ops (leon enable_vga).banks := rfl

end MCtrl

end SparcEmu
