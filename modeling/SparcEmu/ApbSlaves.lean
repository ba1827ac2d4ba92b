import SparcEmu.Bank
import SparcEmu.Irqmp

/-!
The register accesses of the devices behind the APB bridge. What they print, and the threads of
the display and of the console, are left out.
-/

namespace SparcEmu

/-! ### The serial port -/

lemma zero_le_eight : 0 ≤ 8 := by decide

/-- `in` is a ring of eight bytes, `len` of them waiting. -/
structure APBUART where
  enabled : Bool := false
  r_ints_enabled : Bool := false
  t_ints_enabled : Bool := false
  tx_emptied_int_pending : Bool := false
  overrun : Bool := false
  len : Nat := 0
  pos : u8 := 0
  fifo : Fin 8 → u8 := fun _ => 0
  scaler : u32 := 0xfff
  len_le : len ≤ 8 := by exact zero_le_eight

namespace APBUART

def flag (b : Bool) (v : u32) : u32 := if b then v else 0

def read (offset : u32) (s : APBUART) : Except HostError (u32 × APBUART) :=
  if offset = 0x0 then
    if 0 < s.len then
      .ok ((s.fifo (Fin.ofNat 8 (s.pos.toNat + 8 - s.len))).setWidth 32,
        { s with len := s.len - 1, len_le := Nat.le_trans (Nat.sub_le ..) s.len_le })
    else .ok (0, s)
  else if offset = 0x4 then
    .ok (flag (decide (0 < s.len)) 1 ||| 2 ||| 4 ||| flag s.overrun 16 |||
      (BitVec.ofNat 32 s.len <<< 26), { s with overrun := false })
  else if offset = 0x8 then
    .ok (flag s.enabled 3 ||| flag s.r_ints_enabled 4 ||| flag s.t_ints_enabled 8 |||
      (1#32 <<< 31), s)
  else if offset = 0xc then .ok (s.scaler, s)
  else .error (.not_implemented_leon_exception "UART Read offset > 0xC")

def write (offset value : u32) (s : APBUART) : Except HostError APBUART :=
  if offset = 0x0 then .ok { s with tx_emptied_int_pending := true }
  else if offset = 0x4 then .ok s
  else if offset = 0x8 then
    .ok { s with
      r_ints_enabled := value.getLsbD 2
      t_ints_enabled := value.getLsbD 3
      enabled := decide (value &&& 3 ≠ 0) }
  else if offset = 0xc then .ok { s with scaler := value &&& 0xfff }
  else .error (.not_implemented_leon_exception "Test - write UART other reg")

end APBUART

/-! ### The interrupt controller -/

/-- `read`; the register at `0x20` is always zero. -/
def IRQMP.read (offset : u32) (s : IRQMP) : u32 :=
  if 0x40 ≤ offset ∧ offset < 0x60 then s.pimask (cpuReg offset 0x40)
  else if offset = ILEVEL_OS then s.ilevel
  else if offset = IPEND_OS then s.ipend
  else if offset = IFORCE_OS then s.iforce
  else if offset = ICLEAR_OS then s.iclear
  else if offset = MPSTAT_OS then s.mpstat
  else if offset = BRDCST_OS then s.brdcst
  else if offset = ERRSTAT_OS then s.errstat
  else 0

/-! ### The timers -/

structure GPTIMER.timer_impl where
  TCNTVAL : u32 := 0x270f
  TRLDVAL : u32 := 0x270f
  TCTRL : u32 := 2
  TLATCH : u32 := 0

structure GPTIMER where
  SCALER : u32
  SRELOAD : u32
  CONFIG : u32
  CATCHCFG : u32
  timers : Fin 2 → GPTIMER.timer_impl

namespace GPTIMER

/-- The timer that an offset is in, if it is implemented. -/
def timerAt (offset : u32) : Option (Fin 2) :=
  let n := (offset - 0x10) / 0x10
  if 0x7c < offset then none else if n = 0 then some 0 else if n = 1 then some 1 else none

def timer_impl.read (o : u32) (t : timer_impl) : u32 :=
  if o = 0x0 then t.TCNTVAL
  else if o = 0x4 then t.TRLDVAL
  else if o = 0x8 then t.TCTRL
  else if o = 0xc then t.TLATCH
  else 0

def read (offset : u32) (s : GPTIMER) : u32 :=
  if offset = 0x0 then s.SCALER
  else if offset = 0x4 then s.SRELOAD
  else if offset = 0x8 then s.CONFIG &&& ~~~(0x7f#32 <<< 16)
  else if offset = 0xc then s.CATCHCFG
  else
    match timerAt offset with
    | none => 0
    | some n => (s.timers n).read (offset % 0x10)

/-- The write to `TCTRL`: a one clears the pending bit and a zero keeps it; the load bit reloads
the counter. -/
def timer_impl.setTctrl (value : u32) (t : timer_impl) : timer_impl :=
  let v := if value.getLsbD 4 then value &&& ~~~(1#32 <<< 4) else value ||| (t.TCTRL &&& (1#32 <<< 4))
  if v.getLsbD 2 then { t with TCTRL := v &&& ~~~(1#32 <<< 2), TCNTVAL := t.TRLDVAL }
  else { t with TCTRL := v }

def timer_impl.write (o value : u32) (t : timer_impl) : timer_impl :=
  if o = 0x0 then { t with TCNTVAL := value }
  else if o = 0x4 then { t with TRLDVAL := value }
  else if o = 0x8 then t.setTctrl value
  else if o = 0xc then { t with TLATCH := value }
  else t

def write (offset value : u32) (s : GPTIMER) : GPTIMER :=
  if offset = 0x0 then { s with SCALER := value }
  else if offset = 0x4 then { s with SRELOAD := value }
  else if offset = 0x8 then { s with CONFIG := value }
  else if offset = 0xc then { s with CATCHCFG := value }
  else
    match timerAt offset with
    | none => s
    | some n =>
      { s with
        timers := Function.update s.timers n ((s.timers n).write (offset % 0x10) value)
        CONFIG :=
          if offset % 0x10 = 0x8 ∧ value.getLsbD 0 then s.CONFIG ||| (1#32 <<< (16 + n.val))
          else s.CONFIG }

end GPTIMER

/-! ### The PCI bridge -/

structure GRPCI2 where
  ctrl : u32 := 0
  sts_cap : u32 := (1#32 <<< 30) ||| (1#32 <<< 24) ||| (1#32 <<< 28)
  dma_ctrl : u32 := 1#32 <<< 31
  dma_base : u32 := 0
  io_map : u32 := 0
  ahbm2pci : Fin 16 → u32 := fun _ => 0

namespace GRPCI2

/-- `inta`: the PCI device asserts its interrupt, which is active low in the register. -/
def read (inta : Bool) (offset : u32) (s : GRPCI2) : u32 :=
  if offset = 0x0 then s.ctrl
  else if offset = 0x04 then
    (s.sts_cap &&& ~~~0xf00#32) ||| (if inta then 0xf00 &&& ~~~(1#32 <<< 8) else 0xf00)
  else if offset = 0x0c then s.io_map
  else if offset = 0x10 then s.dma_ctrl
  else if offset = 0x14 then s.dma_base
  else if 0x40 ≤ offset ∧ offset ≤ 0x7c then s.ahbm2pci (Fin.ofNat 16 ((offset - 0x40) / 4).toNat)
  else 0

def write_sts_cap (old val : u32) : u32 :=
  let MASK_R : u32 := (0x7ff <<< 21) ||| 0xfff
  let MASK_WC : u32 := 0x1ff <<< 12
  (old &&& MASK_R) ||| (old &&& MASK_WC &&& ~~~(val &&& MASK_WC))

def write_dma_ctrl (old val : u32) : u32 :=
  let val := if val.getLsbD 31 then val else val &&& ~~~((1#32 <<< 1) ||| (7#32 <<< 4))
  let MASK_RW : u32 := (1 <<< 31) ||| (7 <<< 4) ||| 7
  let MASK_R : u32 := (0x7ff <<< 20) ||| (1 <<< 3)
  let MASK_WC : u32 := 0x1fff <<< 7
  (old &&& MASK_R) ||| (val &&& MASK_RW) ||| (old &&& MASK_WC &&& ~~~(val &&& MASK_WC))

def write (offset value : u32) (s : GRPCI2) : GRPCI2 :=
  if offset = 0x0 then
    { s with ctrl := value &&& ~~~((1#32 <<< 28) ||| (0xf#32 <<< 12)) &&&
      ~~~(1#32 <<< 30) &&& ~~~(1#32 <<< 29) }
  else if offset = 0x4 then { s with sts_cap := write_sts_cap s.sts_cap value }
  else if offset = 0xc then { s with io_map := value &&& 0xffff0000 }
  else if offset = 0x10 then { s with dma_ctrl := write_dma_ctrl s.dma_ctrl value }
  else if offset = 0x14 then { s with dma_base := value }
  else if 0x40 ≤ offset ∧ offset ≤ 0x7c then
    { s with ahbm2pci :=
        Function.update s.ahbm2pci (Fin.ofNat 16 ((offset - 0x40) / 4).toNat) value }
  else s

/-- Clears the error flag and sets the done flag of a configuration access. -/
def signal_pci_cfg_access_complete (s : GRPCI2) : GRPCI2 :=
  { s with sts_cap := (s.sts_cap &&& ~~~(1#32 <<< 19)) ||| (1#32 <<< 20) }

end GRPCI2

/-! ### The display -/

/-- What the writes to the video registers tell the display. -/
structure Display where
  width : u32 := 640
  height : u32 := 480
  bpp : Nat := 32
  framebuffer : Option HostPtr := none
  running : Bool := false
  enabled : Bool := false
  hideWindowWhenDisabled : Bool := false
  resolution_changed : Bool := false
  palette : u8 → u32 := fun _ => 0

structure SVGA where
  stat : u32 := 0
  vlen : u32 := 0
  fporch : u32 := 0
  synlen : u32 := 0
  linlen : u32 := 0
  fbuf : u32 := 0
  dclk0 : u32 := 40000
  dclk1 : u32 := 20000
  dclk2 : u32 := 15385
  dclk3 : u32 := 31746
  palette : u8 → u32 := fun _ => 0
  bpp : Nat := 32
  display : Display := {}
  display_started : Bool := false

namespace SVGA

def reset (s : SVGA) : SVGA :=
  { s with
    stat := s.stat &&& ((3 <<< 4) ||| (3 <<< 8))
    vlen := 0
    fporch := 0
    synlen := 0
    linlen := 0
    fbuf := 0
    display :=
      if s.display.enabled then { s.display with enabled := false, hideWindowWhenDisabled := true }
      else s.display }

def read (offset : u32) (s : SVGA) : u32 :=
  if offset = 0x0 then s.stat
  else if offset = 0x4 then s.vlen
  else if offset = 0x8 then s.fporch
  else if offset = 0xc then s.synlen
  else if offset = 0x10 then s.linlen
  else if offset = 0x14 then s.fbuf
  else if offset = 0x18 then s.dclk0
  else if offset = 0x1c then s.dclk1
  else if offset = 0x20 then s.dclk2
  else if offset = 0x24 then s.dclk3
  else 0

/-- The status register, when the write does not reset the device. -/
def write_stat (value : u32) (s : SVGA) : SVGA :=
  let bpp := if (value >>> 4) &&& 3 = 1 then 8 else 32
  let d := { s.display with bpp := bpp }
  if value.getLsbD 0 && !s.stat.getLsbD 0 then
    let d :=
      if s.vlen ≠ 0 then
        { d with
          width := (s.vlen &&& 0xffff) + 1
          height := ((s.vlen >>> 16) &&& 0xffff) + 1
          resolution_changed := true }
      else d
    { s with
      stat := value
      bpp := bpp
      display_started := true
      display := { d with running := d.running || !s.display_started, enabled := true } }
  else if !value.getLsbD 0 && s.stat.getLsbD 0 then
    { s with
      stat := value
      bpp := bpp
      display := { d with enabled := false, hideWindowWhenDisabled := false } }
  else { s with stat := value, bpp := bpp, display := d }

/-- The frame buffer address: a pointer into the bank that holds it, computed from `get_ptr`. -/
def write_fbuf (banks : List IMemoryBank) (value : u32) (s : SVGA) : Except HostError SVGA :=
  let s := { s with fbuf := value }
  match MCtrl.findFrom value banks 0 with
  | none => .ok s
  | some (i, b) =>
    match b.get_ptr with
    | .error e => .error e
    | .ok _ => .ok { s with display := { s.display with framebuffer := some ⟨i, b.offset value⟩ } }

def write (banks : List IMemoryBank) (offset value : u32) (s : SVGA) : Except HostError SVGA :=
  if offset = 0x0 then .ok (if value.getLsbD 1 then s.reset else s.write_stat value)
  else if offset = 0x4 then .ok { s with vlen := value }
  else if offset = 0x8 then .ok { s with fporch := value }
  else if offset = 0xc then .ok { s with synlen := value }
  else if offset = 0x10 then .ok { s with linlen := value }
  else if offset = 0x14 then s.write_fbuf banks value
  else if offset = 0x18 then .ok { s with dclk0 := value }
  else if offset = 0x1c then .ok { s with dclk1 := value }
  else if offset = 0x20 then .ok { s with dclk2 := value }
  else if offset = 0x24 then .ok { s with dclk3 := value }
  else if offset = 0x28 then
    let p := Function.update s.palette ((value >>> 24).setWidth 8)
      (0xff000000 ||| (value &&& 0xffffff))
    .ok { s with palette := p, display := { s.display with palette := p } }
  else .ok s

end SVGA

/-! ### The keyboard -/

inductive TxState | IDLE | WAIT_F0 | WAIT_ED | WAIT_F3
  deriving DecidableEq

structure APBPS2 where
  ctrl : u32 := 0
  tx_state : TxState := .IDLE
  rxq : List u8 := []

namespace APBPS2

def push (b : u8) (s : APBPS2) : APBPS2 := if s.rxq.length < 32 then { s with rxq := s.rxq ++ [b] } else s

def ack (s : APBPS2) : APBPS2 := s.push 0xfa

def tx_respond (cmd : u8) (s : APBPS2) : APBPS2 :=
  match s.tx_state with
  | .WAIT_F0 =>
    let s := ack { s with tx_state := .IDLE }
    if cmd = 0x00 then s.push 0x02 else s
  | .WAIT_ED | .WAIT_F3 => ack { s with tx_state := .IDLE }
  | .IDLE =>
    if cmd = 0xff then s.ack.push 0xaa
    else if cmd = 0xf2 then (s.ack.push 0xab).push 0x83
    else if cmd = 0xf0 then { s.ack with tx_state := .WAIT_F0 }
    else if cmd = 0xed then { s.ack with tx_state := .WAIT_ED }
    else if cmd = 0xf3 then { s.ack with tx_state := .WAIT_F3 }
    else if cmd = 0xee then s.push 0xee
    else s.ack

def read (offset : u32) (s : APBPS2) : u32 × APBPS2 :=
  if offset &&& 0xc = 0x0 then
    match s.rxq with
    | [] => (0, s)
    | b :: q => (b.setWidth 32, { s with rxq := q })
  else if offset &&& 0xc = 0x4 then
    (APBUART.flag (!s.rxq.isEmpty) 1 ||| (BitVec.ofNat 32 (min s.rxq.length 31) <<< 27), s)
  else if offset &&& 0xc = 0x8 then (s.ctrl, s)
  else (0, s)

/-- `write`, and whether it triggers the interrupt line. -/
def write (offset value : u32) (s : APBPS2) : APBPS2 × Bool :=
  if offset &&& 0xc = 0x0 then (s.tx_respond (value.setWidth 8), s.ctrl.getLsbD 2)
  else if offset &&& 0xc = 0x8 then ({ s with ctrl := value &&& 0xf }, false)
  else (s, false)

end APBPS2

end SparcEmu
