import SparcEmu.DeviceErrors
import SparcEmu.Lib.Effect

/-!
The playback engine of the sound device: `AC97Pci::tick` and the writes to its bus master
registers, over the devices and the host bytes.

The engine walks a ring of 32 descriptors in guest memory. Every tick takes some frames from the
buffer of the current descriptor to the host's sound output; behind the descriptor at `LVI` it
halts.
-/

namespace SparcEmu

open Lib.Effect

/-- An entry of the descriptor ring; the length is in samples of 16 bits. -/
structure Descriptor where
  ptr : u32
  len : u16
  ctl : u16
  deriving DecidableEq, Repr

def Descriptor.empty (bd : Descriptor) : Bool := decide (bd.ptr = 0) || decide (bd.len = 0)

variable {bd : Descriptor}

namespace AC97Pci

def GS_POINT : u32 := 1 <<< 6

/-- The descriptor becomes the current one; playback starts at its first frame. -/
def load (bd : Descriptor) (s : AC97Pci) : AC97Pci :=
  { s with
    po_cur_ptr := bd.ptr
    po_cur_len := bd.len.setWidth 32
    po_cur_ctl := bd.ctl
    po_cur_bd_frame_offset_bytes := 0
    po_picb := bd.len / 2 }

lemma load_load (bd : Descriptor) (s : AC97Pci) : (s.load bd).load bd = s.load bd := rfl

/-- The engine stops: `DCH` is set and `CIP` clear. -/
def halt (s : AC97Pci) : AC97Pci :=
  { s with
    po_running := false
    po_status := (s.po_status &&& ~~~2#16) ||| 1 }

/-- Frames of four bytes have been played. -/
def advance (todo : u32) (s : AC97Pci) : AC97Pci :=
  { s with
    po_cur_bd_frame_offset_bytes := s.po_cur_bd_frame_offset_bytes + todo * 4
    po_picb := s.po_picb - todo.setWidth 16 }

/-- The current descriptor is done: `BCIS` if it asks for it, and on to the next index. -/
def complete (s : AC97Pci) : AC97Pci :=
  { s with
    po_status := if s.po_cur_ctl.getLsbD 15 then s.po_status ||| 8 else s.po_status
    po_civ := (s.po_civ + 1) &&& 0x1f }

/-- The index is the one behind the last valid. -/
def pastLast (s : AC97Pci) : Bool := decide (s.po_civ = (s.po_lvi + 1) &&& 0x1f)

/-- The halt behind the last valid descriptor, with `LVBCI`. -/
def haltLast (s : AC97Pci) : AC97Pci :=
  { s with
    po_status := ((s.po_status ||| 4) &&& ~~~2#16) ||| 1
    po_running := false
    po_lvbci_halted := true
    po_cur_len := 0 }

lemma po_start_eq (he : bd.empty = false) (s : AC97Pci) :
    s.po_start bd.ptr bd.len bd.ctl =
      { s.load bd with po_running := true, po_status := s.po_status &&& ~~~1#16 } := by
  unfold po_start
  rw [if_neg]
  · rfl
  · simpa [Descriptor.empty] using he

end AC97Pci

/-- What the clock grants a tick. In test mode this is a fixed number of frames. Otherwise the
first tick only seeds the clock, and later ones have the whole frames of the credit. -/
inductive Pace
  | fixed (frames : u32)
  | seed
  | credit (frames : u32)

/-- `std::min` of what is granted and what the descriptor has left. -/
def Pace.within (picb : u16) (frames : u32) : u32 :=
  if picb.setWidth 32 < frames then picb.setWidth 32 else frames

/-- The frames to process; `none` where the tick ends without. -/
def Pace.todo (picb : u16) : Pace → Option u32
  | .fixed frames => some (within picb frames)
  | .seed => none
  | .credit frames => if within picb frames = 0 then none else some (within picb frames)

/-- The devices, and the samples that have gone to the host's sound output. -/
structure Sound where
  dev : Devices
  host_audio : List u16 := []

abbrev SoundM := EStateM HostError Sound

namespace Sound

def ac97 (s : Sound) : AC97Pci := s.dev.ac97

def setAc97 (a : AC97Pci) (s : Sound) : Sound := { s with dev := { s.dev with ac97 := a } }

def getAc97 : SoundM AC97Pci := fun s => .ok s.ac97 s

def modAc97 (f : AC97Pci → AC97Pci) : SoundM Unit := fun s => .ok () (s.setAc97 (f s.ac97))

def pushSamples (samples : List u16) : SoundM Unit := fun s =>
  .ok () { s with host_audio := s.host_audio ++ samples }

/-- `raise_intx_`, which is `GRPCI2::raise_pci_irq`, if the interrupt line is up. -/
def raised (s : Sound) : Sound :=
  if s.ac97.inta_asserted then
    let s := s.setAc97 { s.ac97 with glob_sta := s.ac97.glob_sta ||| AC97Pci.GS_POINT }
    { s with dev := s.dev.trigger 2 }
  else s

def raise_intx : SoundM Unit := fun s => .ok () s.raised

section Engine

variable (banks : List IMemoryBank) (h : HostBytes)

def bus_read (size : AccessSize) (addr : u32) : SoundM u32 := fun s =>
  match s.dev.busRead banks size addr with
  | .ok (v, d) => .ok (v h) { s with dev := d }
  | .error e => .error e s

def mem_read32 (addr : u32) : SoundM u32 := do
  let v ← bus_read banks h .b4 addr
  pure (bswap32 v)

def mem_read16 (addr : u32) : SoundM u16 := do
  let v ← bus_read banks h .b2 addr
  pure (bswap16 (v.setWidth 16))

def readDescriptor (bd_addr : u32) : SoundM Descriptor := do
  let ptr ← mem_read32 banks h bd_addr
  let len ← mem_read16 banks h (bd_addr + 4)
  let ctl ← mem_read16 banks h (bd_addr + 6)
  pure ⟨ptr, len, ctl⟩

/-- The samples from an address on. -/
def readSamples : Nat → u32 → SoundM (List u16)
  | 0, _ => pure []
  | n + 1, sample_ptr => do
    let x ← mem_read16 banks h sample_ptr
    let xs ← readSamples n (sample_ptr + 2)
    pure (x :: xs)

/-! ### A tick -/

/-- Loads the current descriptor unless there is one; tells whether there is one now. -/
def loadCurrent : SoundM Bool := do
  let a ← getAc97
  if a.po_cur_len = 0 then do
    let bd ← readDescriptor banks h (Devices.nextDescriptor a)
    if bd.empty then do
      modAc97 AC97Pci.halt
      pure false
    else do
      modAc97 (AC97Pci.load bd)
      pure true
  else pure true

/-- Loads the descriptor behind one that is done. -/
def loadNext : SoundM Unit := do
  let a ← getAc97
  let bd ← readDescriptor banks h (Devices.nextDescriptor a)
  if bd.empty then modAc97 fun a => { a.halt with po_cur_len := 0 }
  else modAc97 (AC97Pci.load bd)

def finishDescriptor : SoundM Unit := do
  modAc97 AC97Pci.complete
  let a ← getAc97
  if a.pastLast then do
    modAc97 AC97Pci.haltLast
    raise_intx
  else do
    raise_intx
    loadNext banks h

def playFrames (todo : u32) : SoundM Unit := do
  let a ← getAc97
  let samples ← readSamples banks h (2 * todo.toNat) (a.po_cur_ptr + a.po_cur_bd_frame_offset_bytes)
  pushSamples samples
  modAc97 (AC97Pci.advance todo)
  let a ← getAc97
  if a.po_picb = 0 then finishDescriptor banks h else pure ()

def playGranted (pace : Pace) : SoundM Unit := do
  let a ← getAc97
  match pace.todo a.po_picb with
  | none => pure ()
  | some todo => playFrames banks h todo

def tick (pace : Pace) : SoundM Unit := do
  let a ← getAc97
  if !a.po_running || decide (a.bdbar_playback = 0) then pure ()
  else do
    let loaded ← loadCurrent banks h
    if loaded then playGranted banks h pace else pure ()

/-! ### Register writes -/

def mapped (addr : u32) : Bool := (MCtrl.findFrom addr banks 0).isSome

/-- The registers of one byte; a start request goes on to the descriptor. -/
def write_nabm8 (offset : u32) (value : u8) : SoundM Unit := fun s =>
  match s.ac97.write_nabm8 (mapped banks) offset value with
  | .error e => .error e s
  | .ok (a, none) => .ok () (s.setAc97 a)
  | .ok (a, some bd_addr) =>
    (do
      let bd ← readDescriptor banks h bd_addr
      modAc97 (AC97Pci.po_start bd.ptr bd.len bd.ctl)) (s.setAc97 a)

def write_nabm (size : AccessSize) (offset value : u32) : SoundM Unit :=
  match size with
  | .b1 => write_nabm8 banks h offset (value.setWidth 8)
  | .b2 => modAc97 (AC97Pci.write_nabm16 offset (value.setWidth 16))
  | .b4 => fun s =>
    match s.ac97.write_nabm32 offset value with
    | .error e => .error e s
    | .ok a => .ok () (s.setAc97 a)

end Engine

variable {banks : List IMemoryBank} {h : HostBytes} {s : Sound} {a : AC97Pci} {addr : u32}

@[simp] lemma ac97_setAc97 (a : AC97Pci) (s : Sound) : (s.setAc97 a).ac97 = a := rfl

@[simp] lemma host_audio_setAc97 (a : AC97Pci) (s : Sound) :
    (s.setAc97 a).host_audio = s.host_audio := rfl

lemma raised_ac97 (s : Sound) : ∃ g, s.raised.ac97 = { s.ac97 with glob_sta := g } := by
  unfold raised
  split_ifs
  · exact ⟨_, rfl⟩
  · exact ⟨s.ac97.glob_sta, rfl⟩

@[simp] lemma host_audio_raised (s : Sound) : s.raised.host_audio = s.host_audio := by
  unfold raised
  split_ifs <;> rfl

/-! ### Guest memory -/

section Memory

variable (banks h)

/-- What memory holds at an address; `none` where there is no memory. -/
def memWord (size : AccessSize) (addr : u32) : Option u32 :=
  match MCtrl.findFrom addr banks 0 with
  | some (i, b) => if b.isDevice then none else some (memRead h b i addr size)
  | none => none

def descriptorAt (bd_addr : u32) : Option Descriptor := do
  let ptr ← memWord banks h .b4 bd_addr
  let len ← memWord banks h .b2 (bd_addr + 4)
  let ctl ← memWord banks h .b2 (bd_addr + 6)
  pure ⟨bswap32 ptr, bswap16 (len.setWidth 16), bswap16 (ctl.setWidth 16)⟩

def samplesAt : Nat → u32 → Option (List u16)
  | 0, _ => some []
  | n + 1, ptr => do
    let x ← memWord banks h .b2 ptr
    let xs ← samplesAt n (ptr + 2)
    pure (bswap16 (x.setWidth 16) :: xs)

/-- No device answers at the address: there is memory or nothing. -/
def NoDevice (addr : u32) : Prop :=
  ∀ i b, MCtrl.findFrom addr banks 0 = some (i, b) → b.isDevice = false

end Memory

variable {size : AccessSize} {v : u32}

lemma bus_read_mem (hm : memWord banks h size addr = some v) (s : Sound) :
    bus_read banks h size addr s = .ok v s := by
  unfold memWord at hm
  unfold bus_read Devices.busRead
  rcases hf : MCtrl.findFrom addr banks 0 with _ | ⟨i, b⟩ <;> rw [hf] at hm
  · cases hm
  · unfold IMemoryBank.isDevice at hm
    dsimp only at hm ⊢
    cases hk : b.kind <;> rw [hk] at hm <;> cases hm <;> rfl

lemma bus_read_none (hd : NoDevice banks addr) (hm : memWord banks h size addr = none) :
    ∃ e, ∀ s, bus_read banks h size addr s = .error e s := by
  unfold memWord at hm
  unfold bus_read Devices.busRead
  rcases hf : MCtrl.findFrom addr banks 0 with _ | ⟨i, b⟩
  · exact ⟨_, fun _ => rfl⟩
  · rw [hf] at hm
    dsimp only at hm
    rw [hd i b hf] at hm
    cases hm

lemma mem_read32_mem (hm : memWord banks h .b4 addr = some v) (s : Sound) :
    mem_read32 banks h addr s = .ok (bswap32 v) s := by
  unfold mem_read32
  rw [bind_ok (bus_read_mem hm s), pure_apply]

lemma mem_read32_none (hd : NoDevice banks addr) (hm : memWord banks h .b4 addr = none) :
    ∃ e, ∀ s, mem_read32 banks h addr s = .error e s := by
  obtain ⟨e, he⟩ := bus_read_none hd hm
  exact ⟨e, fun s => bind_error (he s)⟩

lemma mem_read16_mem (hm : memWord banks h .b2 addr = some v) (s : Sound) :
    mem_read16 banks h addr s = .ok (bswap16 (v.setWidth 16)) s := by
  unfold mem_read16
  rw [bind_ok (bus_read_mem hm s), pure_apply]

lemma mem_read16_none (hd : NoDevice banks addr) (hm : memWord banks h .b2 addr = none) :
    ∃ e, ∀ s, mem_read16 banks h addr s = .error e s := by
  obtain ⟨e, he⟩ := bus_read_none hd hm
  exact ⟨e, fun s => bind_error (he s)⟩

lemma readDescriptor_mem (hm : descriptorAt banks h addr = some bd) (s : Sound) :
    readDescriptor banks h addr s = .ok bd s := by
  unfold descriptorAt at hm
  obtain ⟨ptr, hp, hm⟩ := Option.bind_eq_some_iff.mp hm
  obtain ⟨len, hl, hm⟩ := Option.bind_eq_some_iff.mp hm
  obtain ⟨ctl, hc, hm⟩ := Option.bind_eq_some_iff.mp hm
  cases hm
  unfold readDescriptor
  rw [bind_ok (mem_read32_mem hp s), bind_ok (mem_read16_mem hl s), bind_ok (mem_read16_mem hc s),
    pure_apply]

lemma readDescriptor_none (h0 : NoDevice banks addr) (h4 : NoDevice banks (addr + 4))
    (h6 : NoDevice banks (addr + 6)) (hm : descriptorAt banks h addr = none) :
    ∃ e, ∀ s, readDescriptor banks h addr s = .error e s := by
  unfold descriptorAt at hm
  unfold readDescriptor
  cases hp : memWord banks h .b4 addr with
  | none =>
    obtain ⟨e, he⟩ := mem_read32_none h0 hp
    exact ⟨e, fun s => bind_error (he s)⟩
  | some ptr =>
    cases hl : memWord banks h .b2 (addr + 4) with
    | none =>
      obtain ⟨e, he⟩ := mem_read16_none h4 hl
      exact ⟨e, fun s => (bind_ok (mem_read32_mem hp s)).trans (bind_error (he s))⟩
    | some len =>
      cases hc : memWord banks h .b2 (addr + 6) with
      | none =>
        obtain ⟨e, he⟩ := mem_read16_none h6 hc
        exact ⟨e, fun s => (bind_ok (mem_read32_mem hp s)).trans <|
          (bind_ok (mem_read16_mem hl s)).trans (bind_error (he s))⟩
      | some ctl =>
        rw [hp, hl, hc] at hm
        cases hm

lemma readSamples_mem : ∀ {n : Nat} {ptr : u32} {xs : List u16}, samplesAt banks h n ptr = some xs →
    ∀ s, readSamples banks h n ptr s = .ok xs s := by
  intro n
  induction n with
  | zero =>
    intro ptr xs hm s
    cases hm
    rfl
  | succ n ih =>
    intro ptr xs hm s
    obtain ⟨x, hx, hm⟩ := Option.bind_eq_some_iff.mp hm
    obtain ⟨ys, hy, hm⟩ := Option.bind_eq_some_iff.mp hm
    cases hm
    unfold readSamples
    rw [bind_ok (mem_read16_mem hx s), bind_ok (ih hy s), pure_apply]

lemma two_mul_succ (ptr : u32) (j : Nat) :
    ptr + 2 + 2 * BitVec.ofNat 32 j = ptr + 2 * BitVec.ofNat 32 (j + 1) := by
  rw [BitVec.ofNat_add, BitVec.mul_add, BitVec.add_comm (2 * BitVec.ofNat 32 j), ← BitVec.add_assoc]
  rfl

lemma readSamples_none : ∀ {n : Nat} {ptr : u32},
    (∀ j < n, NoDevice banks (ptr + 2 * BitVec.ofNat 32 j)) → samplesAt banks h n ptr = none →
    ∃ e, ∀ s, readSamples banks h n ptr s = .error e s := by
  intro n
  induction n with
  | zero =>
    intro ptr _ hm
    cases hm
  | succ n ih =>
    intro ptr hd hm
    have hd0 : NoDevice banks ptr := by simpa using hd 0 n.succ_pos
    have hd' : ∀ j < n, NoDevice banks (ptr + 2 + 2 * BitVec.ofNat 32 j) := by
      intro j hj
      rw [two_mul_succ]
      exact hd (j + 1) (Nat.succ_lt_succ hj)
    unfold samplesAt at hm
    unfold readSamples
    cases hx : memWord banks h .b2 ptr with
    | none =>
      obtain ⟨e, he⟩ := mem_read16_none hd0 hx
      exact ⟨e, fun s => bind_error (he s)⟩
    | some x =>
      cases hy : samplesAt banks h n (ptr + 2) with
      | none =>
        obtain ⟨e, he⟩ := ih hd' hy
        exact ⟨e, fun s => (bind_ok (mem_read16_mem hx s)).trans (bind_error (he s))⟩
      | some ys =>
        rw [hx, hy] at hm
        cases hm

lemma samplesAt_length : ∀ {n : Nat} {ptr : u32} {xs : List u16}, samplesAt banks h n ptr = some xs →
    xs.length = n := by
  intro n
  induction n with
  | zero =>
    intro ptr xs hm
    cases hm
    rfl
  | succ n ih =>
    intro ptr xs hm
    obtain ⟨x, -, hm⟩ := Option.bind_eq_some_iff.mp hm
    obtain ⟨ys, hy, hm⟩ := Option.bind_eq_some_iff.mp hm
    cases hm
    rw [List.length_cons, ih hy]

lemma samplesAt_succ (n : Nat) (ptr : u32) : samplesAt banks h (n + 1) ptr =
    (memWord banks h .b2 ptr).bind fun x =>
      (samplesAt banks h n (ptr + 2)).map (bswap16 (x.setWidth 16) :: ·) := by
  show ((memWord banks h .b2 ptr).bind fun x => (samplesAt banks h n (ptr + 2)).bind _) = _
  simp only [Option.map_eq_bind]
  rfl

lemma samplesAt_add (m n : Nat) : ∀ (ptr : u32), samplesAt banks h (m + n) ptr =
    (samplesAt banks h m ptr).bind fun xs =>
      (samplesAt banks h n (ptr + 2 * BitVec.ofNat 32 m)).map (xs ++ ·) := by
  induction m with
  | zero =>
    intro ptr
    simp [samplesAt]
  | succ m ih =>
    intro ptr
    rw [Nat.succ_add, samplesAt_succ, samplesAt_succ, ih (ptr + 2), two_mul_succ]
    cases memWord banks h .b2 ptr with
    | none => rfl
    | some x =>
      cases samplesAt banks h m (ptr + 2) with
      | none => rfl
      | some xs => cases samplesAt banks h n (ptr + 2 * BitVec.ofNat 32 (m + 1)) <;> simp

/-! ### The parts of a tick -/

lemma getAc97_apply (s : Sound) : getAc97 s = .ok s.ac97 s := rfl

lemma modAc97_apply (f : AC97Pci → AC97Pci) (s : Sound) : modAc97 f s = .ok () (s.setAc97 (f s.ac97)) :=
  rfl

variable {pace : Pace}

lemma tick_stopped (hs : s.ac97.po_running = false ∨ s.ac97.bdbar_playback = 0) :
    tick banks h pace s = .ok () s := by
  unfold tick
  rw [bind_ok (getAc97_apply s), if_pos (by simpa using hs), pure_apply]

lemma tick_running (hr : s.ac97.po_running = true) (hb : s.ac97.bdbar_playback ≠ 0) :
    tick banks h pace s = (do
      let loaded ← loadCurrent banks h
      if loaded then playGranted banks h pace else pure ()) s := by
  unfold tick
  rw [bind_ok (getAc97_apply s), if_neg (by simpa [hr] using hb)]

lemma loadCurrent_loaded (hl : s.ac97.po_cur_len ≠ 0) : loadCurrent banks h s = .ok true s := by
  unfold loadCurrent
  rw [bind_ok (getAc97_apply s), if_neg hl, pure_apply]

variable {t : Sound}

lemma loadCurrent_read (hl : s.ac97.po_cur_len = 0)
    (hd : readDescriptor banks h (Devices.nextDescriptor s.ac97) s = .ok bd t) :
    loadCurrent banks h s =
      if bd.empty then .ok false (t.setAc97 t.ac97.halt) else .ok true (t.setAc97 (t.ac97.load bd)) := by
  unfold loadCurrent
  rw [bind_ok (getAc97_apply s), if_pos hl, bind_ok hd]
  split_ifs <;> rfl

lemma loadCurrent_error {e : HostError} (hl : s.ac97.po_cur_len = 0)
    (hd : readDescriptor banks h (Devices.nextDescriptor s.ac97) s = .error e t) :
    loadCurrent banks h s = .error e t := by
  unfold loadCurrent
  rw [bind_ok (getAc97_apply s), if_pos hl, bind_error hd]

lemma tick_loaded {todo : u32} (hr : s.ac97.po_running = true) (hb : s.ac97.bdbar_playback ≠ 0)
    (hl : s.ac97.po_cur_len ≠ 0) (ht : pace.todo s.ac97.po_picb = some todo) :
    tick banks h pace s = playFrames banks h todo s := by
  rw [tick_running hr hb, bind_ok (loadCurrent_loaded hl), if_pos rfl, playGranted,
    bind_ok (getAc97_apply s), ht]

/-- Frames have been played. -/
def played (todo : u32) (samples : List u16) (s : Sound) : Sound :=
  { s.setAc97 (s.ac97.advance todo) with host_audio := s.host_audio ++ samples }

@[simp] lemma ac97_played (todo : u32) (xs : List u16) (s : Sound) :
    (s.played todo xs).ac97 = s.ac97.advance todo := rfl

@[simp] lemma host_audio_played (todo : u32) (xs : List u16) (s : Sound) :
    (s.played todo xs).host_audio = s.host_audio ++ xs := rfl

/-- Where the engine reads the next sample. -/
def sample_ptr (s : Sound) : u32 := s.ac97.po_cur_ptr + s.ac97.po_cur_bd_frame_offset_bytes

lemma playFrames_eq {todo : u32} {xs : List u16}
    (hx : readSamples banks h (2 * todo.toNat) s.sample_ptr s = .ok xs t) :
    playFrames banks h todo s =
      (if (t.ac97.advance todo).po_picb = 0 then finishDescriptor banks h else pure ())
        (t.played todo xs) := by
  unfold sample_ptr at hx
  unfold playFrames
  rw [bind_ok (getAc97_apply s), bind_ok hx, bind_ok (show pushSamples xs t = .ok () _ from rfl),
    bind_ok (modAc97_apply ..), bind_ok (getAc97_apply _)]
  rfl

lemma finish_last (hl : s.ac97.complete.pastLast = true) :
    finishDescriptor banks h s = .ok () (s.setAc97 s.ac97.complete.haltLast).raised := by
  unfold finishDescriptor
  rw [bind_ok (modAc97_apply ..), bind_ok (getAc97_apply _), ac97_setAc97, if_pos hl,
    bind_ok (modAc97_apply ..)]
  rfl

lemma finish_next (hl : s.ac97.complete.pastLast = false) :
    finishDescriptor banks h s = loadNext banks h (s.setAc97 s.ac97.complete).raised := by
  unfold finishDescriptor
  rw [bind_ok (modAc97_apply ..), bind_ok (getAc97_apply _), ac97_setAc97, if_neg (by simp [hl]),
    bind_ok (show raise_intx _ = .ok () _ from rfl)]

lemma loadNext_empty (he : bd.empty = true)
    (hd : readDescriptor banks h (Devices.nextDescriptor s.ac97) s = .ok bd t) :
    loadNext banks h s = .ok () (t.setAc97 { t.ac97.halt with po_cur_len := 0 }) := by
  unfold loadNext
  rw [bind_ok (getAc97_apply s), bind_ok hd, if_pos he, modAc97_apply]

lemma loadNext_load (he : bd.empty = false)
    (hd : readDescriptor banks h (Devices.nextDescriptor s.ac97) s = .ok bd t) :
    loadNext banks h s = .ok () (t.setAc97 (t.ac97.load bd)) := by
  unfold loadNext
  rw [bind_ok (getAc97_apply s), bind_ok hd, if_neg (by simp [he]), modAc97_apply]

/-! ### The control register -/

lemma run_bit (v : u32) : (v.setWidth 8 &&& 0x1f).getLsbD 0 = v.getLsbD 0 := by simp

lemma reset_bit (v : u32) : (v.setWidth 8 &&& 0x1f).getLsbD 1 = v.getLsbD 1 := by simp

lemma start_eq (hv0 : v.getLsbD 0 = true) (hv1 : v.getLsbD 1 = false)
    (hr : s.ac97.po_running = false) (hb : s.ac97.bdbar_playback ≠ 0)
    (hm : mapped banks s.ac97.bdbar_playback = true) :
    ∃ c, write_nabm banks h .b1 Devices.PO_CR v s =
      (do
        let bd ← readDescriptor banks h (Devices.nextDescriptor s.ac97)
        modAc97 (AC97Pci.po_start bd.ptr bd.len bd.ctl)) (s.setAc97 { s.ac97 with po_control := c }) := by
  have hcr : s.ac97.write_po_cr (mapped banks) (v.setWidth 8) =
      ({ s.ac97 with po_control := (v.setWidth 8 &&& 0x1f) &&& ~~~2#8 },
        some (Devices.nextDescriptor s.ac97)) := by
    unfold AC97Pci.write_po_cr
    simp only [run_bit, reset_bit, hv0, hv1, hr, hm]
    rw [if_neg (by decide), if_neg (by decide), if_neg (by decide), if_neg (by simpa using hb)]
    rfl
  refine ⟨(v.setWidth 8 &&& 0x1f) &&& ~~~2#8, ?_⟩
  simp only [write_nabm, write_nabm8, Devices.write_nabm8_po_cr, hcr]

lemma start_mem {v : u32} {bd : Descriptor} (hv0 : v.getLsbD 0 = true) (hv1 : v.getLsbD 1 = false)
    (hr : s.ac97.po_running = false) (hb : s.ac97.bdbar_playback ≠ 0)
    (hm : mapped banks s.ac97.bdbar_playback = true) (he : bd.empty = false)
    (hd : descriptorAt banks h (Devices.nextDescriptor s.ac97) = some bd) :
    ∃ c, write_nabm banks h .b1 Devices.PO_CR v s = .ok () (s.setAc97
      { s.ac97.load bd with
        po_running := true
        po_status := s.ac97.po_status &&& ~~~1#16
        po_control := c }) := by
  obtain ⟨c, hw⟩ := start_eq (h := h) hv0 hv1 hr hb hm
  refine ⟨c, hw.trans ?_⟩
  rw [bind_ok (readDescriptor_mem hd _), modAc97_apply, ac97_setAc97, AC97Pci.po_start_eq he]
  rfl

lemma start_unmapped (hv0 : v.getLsbD 0 = true) (hv1 : v.getLsbD 1 = false)
    (hr : s.ac97.po_running = false)
    (hm : s.ac97.bdbar_playback = 0 ∨ mapped banks s.ac97.bdbar_playback = false) :
    ∃ c, write_nabm banks h .b1 Devices.PO_CR v s = .ok () (s.setAc97
      { s.ac97 with
        po_running := false
        po_status := s.ac97.po_status ||| 1
        po_control := c }) := by
  have hcr : s.ac97.write_po_cr (mapped banks) (v.setWidth 8) =
      ({ s.ac97 with
        po_running := false
        po_status := s.ac97.po_status ||| 1
        po_control := (v.setWidth 8 &&& 0x1f) &&& ~~~2#8 }, none) := by
    unfold AC97Pci.write_po_cr
    simp only [run_bit, reset_bit, hv0, hv1, hr]
    rw [if_neg (by decide), if_neg (by decide), if_neg (by decide), if_pos (by simpa using hm)]
  refine ⟨(v.setWidth 8 &&& 0x1f) &&& ~~~2#8, ?_⟩
  simp only [write_nabm, write_nabm8, Devices.write_nabm8_po_cr, hcr]

/-! ### The bus master registers on the bus -/

/-- What the bridge makes of a value: the device is little endian. -/
def bridged : AccessSize → u32 → u32
  | .b1, v => v
  | .b2, v => (bswap16 (v.setWidth 16)).setWidth 32
  | .b4, v => bswap32 v

lemma mem_read32_eq {v : HostBytes → u32} {d : Devices}
    (hr : s.dev.busRead banks .b4 addr = .ok (v, d)) :
    mem_read32 banks h addr s = .ok (bswap32 (v h)) { s with dev := d } := by
  have hb : bus_read banks h .b4 addr s = .ok (v h) { s with dev := d } := by
    unfold bus_read
    rw [hr]
  exact bind_ok hb

lemma mem_read16_eq {v : HostBytes → u32} {d : Devices}
    (hr : s.dev.busRead banks .b2 addr = .ok (v, d)) :
    mem_read16 banks h addr s = .ok (bswap16 ((v h).setWidth 16)) { s with dev := d } := by
  have hb : bus_read banks h .b2 addr s = .ok (v h) { s with dev := d } := by
    unfold bus_read
    rw [hr]
  exact bind_ok hb

lemma startPlayback_eq {bd_addr : u32} {f : HostBytes → Devices}
    (hs : s.dev.startPlayback banks bd_addr = .ok f) :
    (do
      let bd ← readDescriptor banks h bd_addr
      modAc97 (AC97Pci.po_start bd.ptr bd.len bd.ctl)) s = .ok () { s with dev := f h } := by
  unfold Devices.startPlayback at hs
  rcases h1 : s.dev.busRead banks .b4 bd_addr with e | ⟨ptr, d₁⟩ <;> rw [h1] at hs
  · cases hs
  change (d₁.busRead banks .b2 (bd_addr + 4) >>= _) = _ at hs
  rcases h2 : d₁.busRead banks .b2 (bd_addr + 4) with e | ⟨len, d₂⟩ <;> rw [h2] at hs
  · cases hs
  change (d₂.busRead banks .b2 (bd_addr + 6) >>= _) = _ at hs
  rcases h3 : d₂.busRead banks .b2 (bd_addr + 6) with e | ⟨ctl, d₃⟩ <;> rw [h3] at hs
  · cases hs
  cases hs
  have hbd : readDescriptor banks h bd_addr s = .ok
      ⟨bswap32 (ptr h), bswap16 ((len h).setWidth 16), bswap16 ((ctl h).setWidth 16)⟩
      { s with dev := d₃ } := by
    unfold readDescriptor
    rw [bind_ok (mem_read32_eq h1), bind_ok (mem_read16_eq (s := { s with dev := d₁ }) h2),
      bind_ok (mem_read16_eq (s := { s with dev := d₂ }) h3), pure_apply]
  rw [bind_ok hbd, modAc97_apply]
  rfl

/-- **A write on the bus** to the window of the bus master registers is a register write. -/
theorem write_nabm_of_mmio {offset : u32} {f : HostBytes → Devices}
    (hw : AC97Pci.window AC97Pci.phys_nabm_base addr = some offset)
    (hm : s.dev.mmioWrite banks size addr v = .ok f) :
    write_nabm banks h size offset (bridged size v) s = .ok () { s with dev := f h } := by
  have hnam : AC97Pci.window AC97Pci.phys_nam_base addr = none := by
    cases hn : AC97Pci.window AC97Pci.phys_nam_base addr with
    | none => rfl
    | some of => cases (AC97Pci.window_nabm_of_nam hn).symm.trans hw
  unfold Devices.mmioWrite at hm
  cases size with
  | b1 =>
    simp only [AC97Pci.io_write8, AC97Pci.eff_nabm_eq, hw] at hm
    simp only [write_nabm, write_nabm8, bridged]
    rcases hr : s.ac97.write_nabm8 (mapped banks) offset (v.setWidth 8) with e | ⟨a, _ | bd_addr⟩ <;>
      rw [show s.dev.ac97.write_nabm8 (fun a => (MCtrl.findFrom a banks 0).isSome) offset
        (v.setWidth 8) = _ from hr] at hm
    · cases hm
    · cases hm
      rfl
    · exact startPlayback_eq (s := s.setAc97 a) hm
  | b2 =>
    simp only [AC97Pci.io_write16, AC97Pci.eff_nam_eq, AC97Pci.eff_nabm_eq, hw, hnam] at hm
    cases hm
    simp only [write_nabm, bridged, modAc97_apply]
    rw [BitVec.setWidth_setWidth_of_le _ (by decide), BitVec.setWidth_eq]
    rfl
  | b4 =>
    simp only [AC97Pci.io_write32, AC97Pci.eff_nam_eq, AC97Pci.eff_nabm_eq, hw, hnam] at hm
    simp only [write_nabm, bridged]
    rcases hr : s.ac97.write_nabm32 offset (bswap32 v) with e | a <;>
      rw [show s.dev.ac97.write_nabm32 offset (bswap32 v) = _ from hr] at hm <;> cases hm
    rfl

variable (banks h) in
lemma stop_eq (hv0 : v.getLsbD 0 = false) (hv1 : v.getLsbD 1 = false) :
    ∃ c, write_nabm banks h .b1 Devices.PO_CR v s = .ok () (s.setAc97
      { s.ac97 with
        po_running := false
        po_lvbci_halted := false
        po_status := (s.ac97.po_status &&& ~~~0x0c#16) ||| 1
        po_control := c }) := by
  have hcr : s.ac97.write_po_cr (mapped banks) (v.setWidth 8) =
      ({ s.ac97 with
        po_running := false
        po_lvbci_halted := false
        po_status := (s.ac97.po_status &&& ~~~0x0c#16) ||| 1
        po_control := (v.setWidth 8 &&& 0x1f) &&& ~~~2#8 }, none) := by
    unfold AC97Pci.write_po_cr
    simp only [run_bit, reset_bit, hv0, hv1]
    rw [if_neg (by decide), if_pos (by decide)]
  refine ⟨(v.setWidth 8 &&& 0x1f) &&& ~~~2#8, ?_⟩
  simp only [write_nabm, write_nabm8, Devices.write_nabm8_po_cr, hcr]

end Sound

end SparcEmu
