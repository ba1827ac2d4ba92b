import SparcEmu.Irqmp

/-!
The sound device of `ac97.hpp` and `ac97.cpp`: its configuration space, the codec registers (NAM)
and the bus master registers (NABM), as the guest sees them.
-/

namespace SparcEmu

open IRQMP (to_hex)

structure AC97Pci where
  config : u8 → u8 := fun _ => 0
  bar_values : Bool → u32 := fun _ => 0
  probing_bar : Bool → Bool := fun _ => false
  nam_base : u32 := 0
  nabm_base : u32 := 0
  codec_regs : Fin 64 → u16 := fun _ => 0
  bdbar_playback : u32 := 0
  bdbar_capture : u32 := 0
  glob_cnt : u32 := 0
  glob_sta : u32 := 0x100
  pi_control : u8 := 0
  po_control : u8 := 0
  mc_control : u8 := 0
  pi_status : u16 := 0
  po_status : u16 := 0
  mc_status : u16 := 0
  pi_civ : u8 := 0
  po_civ : u8 := 0
  mc_civ : u8 := 0
  pi_lvi : u8 := 0
  po_lvi : u8 := 0
  mc_lvi : u8 := 0
  po_picb : u16 := 0
  power_ctrl : u16 := 0
  power_status : u16 := 0
  po_cur_ptr : u32 := 0
  po_cur_len : u32 := 0
  po_cur_ctl : u16 := 0
  po_cur_bd_frame_offset_bytes : u32 := 0
  po_running : Bool := false
  po_lvbci_halted : Bool := false

namespace AC97Pci

/-- The level of the interrupt line. -/
def inta_asserted (s : AC97Pci) : Bool :=
  decide (s.po_status &&& 0x0c ≠ 0) && decide (s.po_control &&& 0x10 ≠ 0)

/-! ### Configuration space -/

/-- The two base address registers, at `0x10` and `0x14`. -/
def barAt (off : u32) : Option Bool :=
  if off = 0x10 then some false else if off = 0x14 then some true else none

def config_read32 (off : u32) (s : AC97Pci) : u32 :=
  match barAt off with
  | some b => if s.probing_bar b then 0xffffff00 else s.bar_values b
  | none =>
    let byte (k : u32) : u32 := (s.config ((off + k).setWidth 8)).setWidth 32
    byte 0 ||| (byte 1 <<< 8) ||| (byte 2 <<< 16) ||| (byte 3 <<< 24)

/-- What a base address register is set to: the address that the accesses then go by. -/
def setBar (b : Bool) (v : u32) (s : AC97Pci) : AC97Pci :=
  let s := { s with
    probing_bar := Function.update s.probing_bar b false
    bar_values := Function.update s.bar_values b v }
  if b then { s with nabm_base := v } else { s with nam_base := v }

def config_write32 (off v : u32) (s : AC97Pci) : AC97Pci :=
  match barAt off with
  | some b =>
    if v = 0xffffffff then { s with probing_bar := Function.update s.probing_bar b true }
    else if v = 0 then s.setBar b 0
    else s.setBar b (v &&& 0xfffffff0)
  | none =>
    let put (c : u8 → u8) (k : u32) (x : u32) : u8 → u8 :=
      Function.update c ((off + k).setWidth 8) (x.setWidth 8)
    { s with config := put (put (put (put s.config 0 v) 1 (v >>> 8)) 2 (v >>> 16)) 3 (v >>> 24) }

/-! ### Codec registers -/

def VALID_NAM_REGS : List u32 :=
  [0x00, 0x02, 0x04, 0x06, 0x18, 0x1a, 0x1c, 0x20, 0x26, 0x28, 0x2a, 0x2c, 0x32, 0x7c, 0x7e]

def GS_BUSY : u32 := 1 <<< 2
def GS_PR : u32 := 1 <<< 8

/-- The busy flag goes up and down again in a codec command. -/
def codec_command (s : AC97Pci) : AC97Pci :=
  { s with glob_sta := (s.glob_sta ||| GS_BUSY) &&& ~~~GS_BUSY }

def codecIdx (offset : u32) : Fin 64 := Fin.ofNat 64 (offset >>> 1).toNat

def read_nam (offset : u32) (s : AC97Pci) : u16 × AC97Pci :=
  if 0x80 ≤ offset then (0xffff, s)
  else if offset ∉ VALID_NAM_REGS then (0xffff, s.codec_command)
  else if offset = 0x00 then (0x0a00, s.codec_command)
  else if offset = 0x26 then (s.power_status, s.codec_command)
  else (s.codec_regs (codecIdx offset), s.codec_command)

def setCodec (offset : u32) (value : u16) (s : AC97Pci) : AC97Pci :=
  { s with codec_regs := Function.update s.codec_regs (codecIdx offset) value }

/-- The codec is ready and not busy. -/
def codecReady (s : AC97Pci) : AC97Pci :=
  { s with glob_sta := (s.glob_sta ||| GS_PR) &&& ~~~GS_BUSY }

def init_codec_warm (s : AC97Pci) : AC97Pci :=
  ((((s.setCodec 0x02 0x0000).setCodec 0x04 0x0000).setCodec 0x18 0x0808).setCodec 0x1a
    0x0808).codecReady

def init_codec_cold (s : AC97Pci) : AC97Pci :=
  let s := { s with codec_regs := fun _ => 0 }
  let s := (s.setCodec 0x7c 0x4144).setCodec 0x7e 0x5348
  let s := ((s.setCodec 0x26 0x000f).setCodec 0x28 0x0003).setCodec 0x2a 0x0003
  let s := (s.setCodec 0x2c 48000).setCodec 0x32 48000
  let s := (((s.setCodec 0x02 0x0000).setCodec 0x04 0x0000).setCodec 0x18 0x0808).setCodec 0x1a 0x0808
  { (s.setCodec 0x20 0x0008).codecReady with power_status := 0x000f }

def handle_0x26_power (value : u16) (s : AC97Pci) : AC97Pci :=
  { s with
    power_ctrl := value
    power_status := if value = 0 then 0x000f else ~~~value &&& 0x000f }

def handle_0x2A_ext_audio_status (value : u16) (s : AC97Pci) : AC97Pci :=
  s.setCodec 0x2a ((s.codec_regs (codecIdx 0x28) &&& 0xfffe) ||| (value &&& 1))

def mask_volume_reg (value : u16) : u16 :=
  (value &&& 0x8000) ||| (value &&& 0x1f00) ||| (value &&& 0x001f)

def write_nam (offset : u32) (value : u16) (s : AC97Pci) : AC97Pci :=
  if 0x80 ≤ offset then s
  else if offset ∉ VALID_NAM_REGS then s.codec_command
  else
    let s := { s with glob_sta := s.glob_sta ||| GS_BUSY }
    codec_command <|
      if offset = 0x00 then s.init_codec_warm
      else if offset = 0x26 then s.handle_0x26_power value
      else if offset = 0x28 then s
      else if offset = 0x2a then s.handle_0x2A_ext_audio_status value
      else if offset = 0x02 ∨ offset = 0x04 ∨ offset = 0x18 ∨ offset = 0x1a then
        s.setCodec offset (mask_volume_reg value)
      else s.setCodec offset value

/-! ### Bus master registers -/

/-- Bits of the global status that can be read; the sticky bit 15 clears on read. -/
def read_glob_sta (s : AC97Pci) : u32 × AC97Pci :=
  let allowed : u32 := 0x1 ||| 0x2 ||| 0x4 ||| 0x20 ||| 0x40 ||| 0x80 ||| 0x100 ||| 0x8000
  (s.glob_sta &&& allowed, { s with glob_sta := s.glob_sta &&& ~~~0x8000#32 })

/-- A byte register: low or high half of a status register. -/
def statusByte (offset : u32) (low high : u16) : u32 :=
  if offset.getLsbD 0 then high.setWidth 32 else (low &&& 0xff).setWidth 32

def read_nabm8 (offset : u32) (s : AC97Pci) : Except HostError u32 :=
  if offset = 0x16 ∨ offset = 0x17 then .ok (statusByte offset s.po_status (s.po_status >>> 8))
  else if offset = 0x06 ∨ offset = 0x07 then .ok (statusByte offset (s.pi_status &&& 0x1f) 0)
  else if offset = 0x26 ∨ offset = 0x27 then .ok (statusByte offset (s.mc_status &&& 0x1f) 0)
  else if offset = 0x0b then .ok (s.pi_control.setWidth 32)
  else if offset = 0x1b then .ok ((s.po_control &&& 0x1d).setWidth 32)
  else if offset = 0x2b then .ok (s.mc_control.setWidth 32)
  else if offset = 0x04 then .ok (s.pi_civ.setWidth 32)
  else if offset = 0x14 then .ok (s.po_civ.setWidth 32)
  else if offset = 0x24 then .ok (s.mc_civ.setWidth 32)
  else if offset = 0x05 then .ok (s.pi_lvi.setWidth 32)
  else if offset = 0x15 then .ok (s.po_lvi.setWidth 32)
  else if offset = 0x25 then .ok (s.mc_lvi.setWidth 32)
  else if offset = 0x34 then .ok 0
  else .error (.runtime_error ("[AC97 NABM] read8 not valid for register " ++ to_hex offset))

def read_nabm16 (offset : u32) (s : AC97Pci) : Except HostError u32 :=
  if offset = 0x16 then .ok (s.po_status.setWidth 32)
  else if offset = 0x06 then .ok (s.pi_status.setWidth 32)
  else if offset = 0x26 then .ok (s.mc_status.setWidth 32)
  else if offset = 0x18 then .ok (s.po_picb.setWidth 32 * 2)
  else if offset = 0x08 ∨ offset = 0x28 then .ok 0
  else .error (.runtime_error ("[AC97 NABM] read16 not valid for register " ++ to_hex offset))

def read_nabm32 (offset : u32) (s : AC97Pci) : Except HostError (u32 × AC97Pci) :=
  if offset = 0x10 then .ok (s.bdbar_playback, s)
  else if offset = 0x00 then .ok (s.bdbar_capture, s)
  else if offset = 0x20 then .ok (0, s)
  else if offset = 0x2c then .ok (s.glob_cnt, s)
  else if offset = 0x30 then .ok s.read_glob_sta
  else .error (.runtime_error ("[AC97 NABM] read32 not valid for register " ++ to_hex offset))

/-- Stops playback and forgets the descriptor in use. -/
def resetPlayback (s : AC97Pci) : AC97Pci :=
  { s with
    po_running := false
    po_lvbci_halted := false
    po_civ := 0
    po_cur_ptr := 0
    po_cur_len := 0
    po_cur_ctl := 0
    po_cur_bd_frame_offset_bytes := 0
    po_picb := 0
    po_status := 1 }

/-- `PO_CR`. The second component is the address of the descriptor that a start request goes on to
read; `po_start` is the rest of the call. -/
def write_po_cr (mapped : u32 → Bool) (value : u8) (s : AC97Pci) : AC97Pci × Option u32 :=
  let ctl := value &&& 0x1f
  let s := { s with po_control := ctl &&& ~~~2#8 }
  if ctl.getLsbD 1 then (s.resetPlayback, none)
  else if !ctl.getLsbD 0 then
    ({ s with
      po_running := false
      po_lvbci_halted := false
      po_status := (s.po_status &&& ~~~0x0c#16) ||| 1 }, none)
  else if s.po_running then (s, none)
  else if s.bdbar_playback = 0 || !mapped s.bdbar_playback then
    ({ s with po_running := false, po_status := s.po_status ||| 1 }, none)
  else (s, some (s.bdbar_playback + s.po_civ.setWidth 32 * 8))

/-- A start request with the descriptor it has read. -/
def po_start (ptr : u32) (len ctl : u16) (s : AC97Pci) : AC97Pci :=
  if ptr = 0 ∨ len = 0 then { s with po_running := false, po_status := s.po_status ||| 1 }
  else
    { s with
      po_running := true
      po_status := s.po_status &&& ~~~1#16
      po_cur_ptr := ptr
      po_cur_len := len.setWidth 32
      po_cur_ctl := ctl
      po_cur_bd_frame_offset_bytes := 0
      po_picb := len / 2 }

/-- `PO_LVI`: an engine that halted at the last valid descriptor resumes. -/
def write_po_lvi (value : u8) (s : AC97Pci) : AC97Pci :=
  let s := { s with po_lvi := value &&& 0x1f }
  if !s.po_running && s.po_lvbci_halted &&
      decide (s.po_lvi.setWidth 32 ≠ (s.po_civ.setWidth 32 - 1 + 32) &&& 0x1f#32) then
    { s with
      po_running := true
      po_lvbci_halted := false
      po_status := (s.po_status &&& ~~~1#16) ||| 2 }
  else s

/-- A status register of capture: the low bits are stored, and those written as one cleared. -/
def captureStatus (value : u8) : u16 := ((value &&& 0x1f) &&& ~~~(value &&& 0x1c)).setWidth 16

def captureControl (value : u8) : u8 := (value &&& 0x1f) &&& ~~~2#8

def write_nabm8 (mapped : u32 → Bool) (offset : u32) (value : u8) (s : AC97Pci) :
    Except HostError (AC97Pci × Option u32) :=
  if offset = 0x16 then
    .ok ({ s with po_status := s.po_status &&& ~~~((value &&& 0x1e).setWidth 16) }, none)
  else if offset = 0x17 then .ok (s, none)
  else if offset = 0x06 then .ok ({ s with pi_status := captureStatus value }, none)
  else if offset = 0x07 then .ok (s, none)
  else if offset = 0x26 then .ok ({ s with mc_status := captureStatus value }, none)
  else if offset = 0x27 then .ok (s, none)
  else if offset = 0x0b then .ok ({ s with pi_control := captureControl value }, none)
  else if offset = 0x1b then .ok (s.write_po_cr mapped value)
  else if offset = 0x2b then .ok ({ s with mc_control := captureControl value }, none)
  else if offset = 0x14 ∨ offset = 0x04 ∨ offset = 0x24 then .ok (s, none)
  else if offset = 0x05 then .ok ({ s with pi_lvi := value &&& 0x1f }, none)
  else if offset = 0x15 then .ok (s.write_po_lvi value, none)
  else if offset = 0x25 then .ok ({ s with mc_lvi := value &&& 0x1f }, none)
  else .error (.runtime_error ("[AC97 NABM] Write not valid for register " ++ to_hex offset))

def write_nabm16 (offset : u32) (value : u16) (s : AC97Pci) : AC97Pci :=
  if offset = 0x16 then { s with po_status := s.po_status &&& ~~~(value &&& 0x1e) } else s

def cold_reset (s : AC97Pci) : AC97Pci :=
  { s.init_codec_cold.resetPlayback with
    bdbar_playback := 0
    bdbar_capture := 0
    po_control := 0
    glob_sta := GS_PR
    glob_cnt := 1 <<< 18 }

def warm_reset (s : AC97Pci) : AC97Pci :=
  let s := s.init_codec_warm
  { s with po_status := 0, mc_status := 0, glob_sta := (s.glob_sta ||| GS_PR) &&& ~~~GS_BUSY }

/-- `GLOB_CNT`: the reset bits act when they rise, and clear themselves. -/
def write_glob_cnt (value : u32) (s : AC97Pci) : AC97Pci :=
  let old := s.glob_cnt
  let s := { s with glob_cnt := value }
  let s :=
    if !old.getLsbD 1 && value.getLsbD 1 then
      let s := s.cold_reset
      { s with glob_cnt := s.glob_cnt &&& ~~~2#32 }
    else s
  if !old.getLsbD 2 && value.getLsbD 2 then
    let s := s.warm_reset
    { s with glob_cnt := s.glob_cnt &&& ~~~4#32 }
  else s

def write_nabm32 (offset value : u32) (s : AC97Pci) : Except HostError AC97Pci :=
  if offset = 0x10 then .ok { s with bdbar_playback := value }
  else if offset = 0x00 then .ok { s with bdbar_capture := value }
  else if offset = 0x20 then .ok s
  else if offset = 0x2c then .ok (s.write_glob_cnt value)
  else if offset = 0x30 then .ok { s with glob_sta := s.glob_sta &&& ~~~(value &&& 0xff) }
  else .error (.runtime_error ("[AC97 NABM] Read16 not valid for register " ++ to_hex offset))

/-- The constructor, which runs `init_pci_config`. -/
def init_pci_config : AC97Pci :=
  let id := (({} : AC97Pci).config_write32 0x00 0x24158086).config_write32 0x08 0x04010001
  let sub := (id.config_write32 0x2c 0x0000000c).config_write32 0x34 0x50
  { (sub.config_write32 0x3c 0x01ff).init_codec_cold with po_status := 0 }

/-! ### Accesses by address -/

/-- The physical bases that `main` sets; where one is not zero it stands in for the base address
register. -/
def phys_nam_base : u32 := 0x24000800
def phys_nabm_base : u32 := 0x24000900

def eff_nam (s : AC97Pci) : u32 := if phys_nam_base ≠ 0 then phys_nam_base else s.nam_base

def eff_nabm (s : AC97Pci) : u32 := if phys_nabm_base ≠ 0 then phys_nabm_base else s.nabm_base

/-- Offset in a window of 256 bytes. -/
def window (base addr : u32) : Option u32 :=
  if base ≤ addr ∧ addr < base + 0x100 then some ((addr - base) &&& 0xff) else none

def io_read32 (addr : u32) (s : AC97Pci) : Except HostError (u32 × AC97Pci) :=
  match window s.eff_nam addr, window s.eff_nabm addr with
  | some of, _ =>
    let r := s.read_nam of
    .ok (0xffff0000 ||| r.1.setWidth 32, r.2)
  | none, some of => s.read_nabm32 of
  | none, none => .ok (0xffffffff, s)

def io_read16 (addr : u32) (s : AC97Pci) : Except HostError (u32 × AC97Pci) :=
  match window s.eff_nam addr, window s.eff_nabm addr with
  | some of, _ =>
    let r := s.read_nam of
    .ok (r.1.setWidth 32, r.2)
  | none, some of => (s.read_nabm16 of).map fun v => (v &&& 0xffff, s)
  | none, none => .ok (0xffff, s)

/-- The byte accesses do not look at the codec window. -/
def io_read8 (addr : u32) (s : AC97Pci) : Except HostError (u32 × AC97Pci) :=
  match window s.eff_nabm addr with
  | some of => (s.read_nabm8 of).map fun v => (v &&& 0xff, s)
  | none => .ok (0xff, s)

def io_write32 (addr v : u32) (s : AC97Pci) : Except HostError AC97Pci :=
  match window s.eff_nam addr, window s.eff_nabm addr with
  | some of, _ => .ok (s.write_nam of (v.setWidth 16))
  | none, some of => s.write_nabm32 of v
  | none, none => .ok s

def io_write16 (addr : u32) (v : u16) (s : AC97Pci) : AC97Pci :=
  match window s.eff_nam addr, window s.eff_nabm addr with
  | some of, _ => s.write_nam of v
  | none, some of => s.write_nabm16 of v
  | none, none => s

def io_write8 (mapped : u32 → Bool) (addr : u32) (v : u8) (s : AC97Pci) :
    Except HostError (AC97Pci × Option u32) :=
  match window s.eff_nabm addr with
  | some of => s.write_nabm8 mapped of v
  | none => .ok (s, none)

end AC97Pci

end SparcEmu
