import SparcEmu.AudioStream
import SparcEmu.Lib.Run

/-!
Runs of the playback engine: ticks and register writes in any order, over memory that may change
from one to the next.

What a run reads goes through accessors that throw, and only the base of the ring is looked at
beforehand. A halt behind `LVI` is a halt until a write starts the engine again: one to `LVI`, or
one to the control register.
-/

namespace SparcEmu

open Lib.Effect Lib.Run

namespace Sound

variable {banks : List IMemoryBank} {h : HostBytes} {s s' : Sound}

inductive Op
  | tick (pace : Pace)
  | write (size : AccessSize) (offset value : u32)

def step (banks : List IMemoryBank) : HostBytes × Op → SoundM Unit
  | (h, .tick pace) => tick banks h pace
  | (h, .write size offset value) => write_nabm banks h size offset value

def run (banks : List IMemoryBank) : List (HostBytes × Op) → SoundM Unit
  | [] => pure ()
  | o :: os => do
    step banks o
    run banks os

/-! ### Reads -/

/-- What reads leave alone: the sound device but for the global status, and the output. -/
def core (s : Sound) : AC97Pci × List u16 := ({ s.ac97 with glob_sta := 0 }, s.host_audio)

lemma fixesCore_bus_read (size : AccessSize) (addr : u32) : Fixes core (bus_read banks h size addr) := by
  intro s
  unfold bus_read
  rcases hr : s.dev.busRead banks size addr with e | ⟨v, d⟩
  · rfl
  · obtain ⟨g, hg⟩ := Devices.busRead_sound banks size addr _ hr
    show (({ d.ac97 with glob_sta := 0 } : AC97Pci), s.host_audio) = _
    rw [show d.ac97 = _ from hg]
    rfl

lemma fixesCore_mem_read16 (addr : u32) : Fixes core (mem_read16 banks h addr) :=
  (fixesCore_bus_read .b2 addr).bind fun _ => .pure _

lemma fixesCore_readDescriptor (addr : u32) : Fixes core (readDescriptor banks h addr) :=
  ((fixesCore_bus_read .b4 addr).bind fun _ => .pure _).bind fun _ =>
    (fixesCore_mem_read16 _).bind fun _ => (fixesCore_mem_read16 _).bind fun _ => .pure _

lemma fixesCore_readSamples : ∀ (n : Nat) (ptr : u32), Fixes core (readSamples banks h n ptr) := by
  intro n
  induction n with
  | zero => exact fun _ => .pure _
  | succ n ih =>
    exact fun ptr => (fixesCore_mem_read16 ptr).bind fun _ => (ih _).bind fun _ => .pure _

lemma core_ac97 (hc : s'.core = s.core) : ∃ g, s'.ac97 = { s.ac97 with glob_sta := g } := by
  refine ⟨s'.ac97.glob_sta, ?_⟩
  have ha : ({ s'.ac97 with glob_sta := 0 } : AC97Pci) = { s.ac97 with glob_sta := 0 } :=
    congrArg Prod.fst hc
  calc s'.ac97 = { ({ s'.ac97 with glob_sta := 0 } : AC97Pci) with glob_sta := s'.ac97.glob_sta } := rfl
    _ = _ := by rw [ha]

lemma core_audio (hc : s'.core = s.core) : s'.host_audio = s.host_audio := congrArg Prod.snd hc

lemma returns_bus_read (size : AccessSize) (addr : u32) (s : Sound) :
    Returns (bus_read banks h size addr s) ↔ Devices.busReadable banks size addr = true := by
  rw [← Devices.busRead_isOk banks size addr s.dev]
  unfold bus_read
  cases s.dev.busRead banks size addr with
  | error e => simp [Returns]
  | ok r => simp [Returns]

lemma returns_mem_read32 (addr : u32) (s : Sound) :
    Returns (mem_read32 banks h addr s) ↔ Devices.busReadable banks .b4 addr = true :=
  (returns_bind_of fun _ _ => returns_pure ..).trans (returns_bus_read ..)

lemma returns_mem_read16 (addr : u32) (s : Sound) :
    Returns (mem_read16 banks h addr s) ↔ Devices.busReadable banks .b2 addr = true :=
  (returns_bind_of fun _ _ => returns_pure ..).trans (returns_bus_read ..)

lemma returns_readDescriptor (addr : u32) (s : Sound) :
    Returns (readDescriptor banks h addr s) ↔ Devices.descriptorReadable banks addr = true := by
  unfold readDescriptor Devices.descriptorReadable
  rw [Bool.and_eq_true, Bool.and_eq_true, and_assoc]
  refine returns_and (returns_mem_read32 addr) (fun _ => ?_) s
  refine returns_and (returns_mem_read16 _) fun _ => ?_
  exact fun s => (returns_bind_of fun _ _ => returns_pure ..).trans (returns_mem_read16 _ s)

lemma returns_readSamples : ∀ (n : Nat) (ptr : u32) (s : Sound),
    Returns (readSamples banks h n ptr s) ↔
      ∀ i < n, Devices.busReadable banks .b2 (ptr + 2 * BitVec.ofNat 32 i) = true := by
  intro n
  induction n with
  | zero => exact fun ptr s => ⟨fun _ i hi => absurd hi (Nat.not_lt_zero i), fun _ => trivial⟩
  | succ n ih =>
    intro ptr s
    unfold readSamples
    rw [returns_and (returns_mem_read16 ptr)
      fun _ s => (returns_bind_of fun _ _ => returns_pure ..).trans (ih (ptr + 2) s)]
    constructor
    · rintro ⟨h0, hn⟩ (_ | i) hi
      · simpa using h0
      · rw [← two_mul_succ]
        exact hn i (Nat.lt_of_succ_lt_succ hi)
    · intro hall
      refine ⟨by simpa using hall 0 n.succ_pos, fun i hi => ?_⟩
      rw [two_mul_succ]
      exact hall (i + 1) (Nat.succ_lt_succ hi)

/-! ### Ticks that return -/

lemma returns_loadNext (s : Sound) : Returns (loadNext banks h s) ↔
    Devices.descriptorReadable banks (Devices.nextDescriptor s.ac97) = true := by
  unfold loadNext
  rw [bind_ok (getAc97_apply s), returns_bind_of, returns_readDescriptor]
  intro bd t
  split_ifs <;> trivial

lemma returns_finish (s : Sound) : Returns (finishDescriptor banks h s) ↔
    (s.ac97.complete.pastLast = false →
      Devices.descriptorReadable banks (Devices.nextDescriptor s.ac97.complete) = true) := by
  cases hl : s.ac97.complete.pastLast with
  | true =>
    rw [finish_last hl]
    simp [Returns]
  | false =>
    obtain ⟨g, hg⟩ := raised_ac97 (s.setAc97 s.ac97.complete)
    rw [finish_next hl, returns_loadNext, hg]
    exact ⟨fun hr _ => hr, fun hr => hr rfl⟩

/-- What `todo` frames from `a` on make the engine read is there. -/
def FramesReadable (banks : List IMemoryBank) (todo : u32) (a : AC97Pci) : Prop :=
  (∀ i < 2 * todo.toNat, Devices.busReadable banks .b2
    (a.po_cur_ptr + a.po_cur_bd_frame_offset_bytes + 2 * BitVec.ofNat 32 i) = true) ∧
  ((a.advance todo).po_picb = 0 → a.complete.pastLast = false →
    Devices.descriptorReadable banks (Devices.nextDescriptor a.complete) = true)

lemma returns_playFrames (todo : u32) (s : Sound) :
    Returns (playFrames banks h todo s) ↔ FramesReadable banks todo s.ac97 := by
  unfold playFrames FramesReadable
  rw [bind_ok (getAc97_apply s)]
  cases hx : readSamples banks h (2 * todo.toNat)
      (s.ac97.po_cur_ptr + s.ac97.po_cur_bd_frame_offset_bytes) s with
  | error e t =>
    rw [bind_error hx, ← returns_readSamples (h := h) _ _ s, hx]
    simp [Returns]
  | ok xs t =>
    obtain ⟨g, hg⟩ := core_ac97 ((fixesCore_readSamples _ _).ok hx)
    have hread := (returns_readSamples _ _ s).mp (returns_iff.mpr ⟨xs, t, hx⟩)
    rw [bind_ok hx, bind_ok (show pushSamples xs t = .ok () _ from rfl), bind_ok (modAc97_apply ..),
      bind_ok (getAc97_apply _), ac97_setAc97, and_iff_right hread]
    have hpicb : (AC97Pci.advance todo t.ac97).po_picb = (s.ac97.advance todo).po_picb := by
      rw [hg]
      rfl
    split_ifs with h0
    · have hlast : (AC97Pci.advance todo t.ac97).complete.pastLast = s.ac97.complete.pastLast := by
        rw [hg]
        rfl
      have hnext : Devices.nextDescriptor (AC97Pci.advance todo t.ac97).complete
          = Devices.nextDescriptor s.ac97.complete := by
        rw [hg]
        rfl
      rw [returns_finish, ← hpicb, ← hlast, ← hnext]
      exact ⟨fun hr _ => hr, fun hr => hr h0⟩
    · exact ⟨fun _ hp => absurd (hpicb.trans hp) h0, fun _ => trivial⟩

/-- The engine that a tick plays from: the descriptor is there, or is loaded first. -/
def Current (banks : List IMemoryBank) (h : HostBytes) (s : Sound) (a : AC97Pci) : Prop :=
  if s.ac97.po_cur_len = 0 then
    ∃ bd s', readDescriptor banks h (Devices.nextDescriptor s.ac97) s = .ok bd s' ∧
      bd.empty = false ∧ a = s.ac97.load bd
  else a = s.ac97

/-- All that the tick reads is there. -/
def TickReadable (banks : List IMemoryBank) (h : HostBytes) (pace : Pace) (s : Sound) : Prop :=
  s.ac97.po_running = true → s.ac97.bdbar_playback ≠ 0 →
    (s.ac97.po_cur_len = 0 →
      Devices.descriptorReadable banks (Devices.nextDescriptor s.ac97) = true) ∧
    ∀ a todo, Current banks h s a → pace.todo a.po_picb = some todo → FramesReadable banks todo a

lemma returns_playGranted (pace : Pace) (s : Sound) : Returns (playGranted banks h pace s) ↔
    ∀ todo, pace.todo s.ac97.po_picb = some todo → FramesReadable banks todo s.ac97 := by
  unfold playGranted
  rw [bind_ok (getAc97_apply s)]
  cases pace.todo s.ac97.po_picb with
  | none => simp [Returns]
  | some todo =>
    dsimp only
    rw [returns_playFrames]
    simp

theorem returns_tick (pace : Pace) (s : Sound) :
    Returns (tick banks h pace s) ↔ TickReadable banks h pace s := by
  unfold TickReadable
  by_cases hs : s.ac97.po_running = false ∨ s.ac97.bdbar_playback = 0
  · rw [tick_stopped hs]
    refine ⟨fun _ hr hb => ?_, fun _ => trivial⟩
    rcases hs with hs | hs
    · cases hs.symm.trans hr
    · exact absurd hs hb
  · rw [not_or, Bool.not_eq_false] at hs
    rw [forall_prop_of_true hs.1, forall_prop_of_true hs.2, tick_running hs.1 hs.2]
    by_cases hl : s.ac97.po_cur_len = 0
    · rw [forall_prop_of_true hl, ← returns_readDescriptor (h := h) _ s]
      simp only [Current, if_pos hl]
      cases hd : readDescriptor banks h (Devices.nextDescriptor s.ac97) s with
      | error e t =>
        rw [bind_error (loadCurrent_error hl hd)]
        simp [Returns]
      | ok bd t =>
        have hload := loadCurrent_read hl hd
        obtain ⟨g, hg⟩ := core_ac97 ((fixesCore_readDescriptor _).ok hd)
        cases he : bd.empty with
        | true =>
          rw [he, if_pos rfl] at hload
          rw [bind_ok hload]
          refine ⟨fun _ => ⟨trivial, ?_⟩, fun _ => trivial⟩
          rintro _ _ ⟨bd', t', ⟨⟩, he', -⟩
          cases he.symm.trans he'
        | false =>
          rw [he, if_neg Bool.false_ne_true] at hload
          rw [bind_ok hload, if_pos rfl, returns_playGranted, ac97_setAc97, hg]
          constructor
          · intro hall
            refine ⟨trivial, ?_⟩
            rintro _ todo ⟨bd', t', ⟨⟩, -, rfl⟩ ht
            exact hall todo ht
          · exact fun hall todo ht => hall.2 (s.ac97.load bd) todo ⟨bd, t, rfl, he, rfl⟩ ht
    · simp only [Current, if_neg hl]
      rw [bind_ok (loadCurrent_loaded hl), if_pos rfl, returns_playGranted]
      constructor
      · intro hall
        refine ⟨fun h0 => absurd h0 hl, ?_⟩
        rintro _ todo rfl ht
        exact hall todo ht
      · exact fun hall todo ht => hall.2 _ todo rfl ht

/-! ### Writes that return -/

/-- The descriptor that the write makes the engine fetch is there. -/
def WriteReadable (banks : List IMemoryBank) (size : AccessSize) (offset value : u32) (s : Sound) : Prop :=
  size = .b1 → offset = Devices.PO_CR →
    (Devices.fetches banks (value.setWidth 8) s.ac97).all (Devices.descriptorReadable banks) = true

lemma returns_start (bd_addr : u32) (s : Sound) :
    Returns ((do
      let bd ← readDescriptor banks h bd_addr
      modAc97 (AC97Pci.po_start bd.ptr bd.len bd.ctl)) s) ↔
    Devices.descriptorReadable banks bd_addr = true := by
  rw [returns_bind_of, returns_readDescriptor]
  exact fun _ _ => trivial

variable {offset : u32}

lemma returns_write_nabm8 (hv : AC97Pci.nabmWritable .b1 offset = true) (value : u8) (s : Sound) :
    Returns (write_nabm8 banks h offset value s) ↔
      (offset = Devices.PO_CR →
        (Devices.fetches banks value s.ac97).all (Devices.descriptorReadable banks) = true) := by
  unfold write_nabm8
  by_cases hr : offset = Devices.PO_CR
  · subst hr
    rw [← Devices.write_po_cr_fetch banks value s.ac97, Devices.write_nabm8_po_cr,
      forall_prop_of_true rfl]
    rcases hw : s.ac97.write_po_cr (mapped banks) value with ⟨a, _ | bd_addr⟩
    · rw [show s.ac97.write_po_cr (fun p => (MCtrl.findFrom p banks 0).isSome) value = _ from hw]
      simp [Returns]
    · rw [show s.ac97.write_po_cr (fun p => (MCtrl.findFrom p banks 0).isSome) value = _ from hw]
      exact returns_start bd_addr (s.setAc97 a)
  · obtain ⟨⟨a, o⟩, hw⟩ := isOk_iff.mp
      ((AC97Pci.write_nabm8_isOk (mapped banks) offset value s.ac97).trans hv)
    obtain rfl : o = none := Devices.write_nabm8_none hr _ _ _ _ hw
    rw [hw]
    simp [Returns, hr]

lemma returns_write {size : AccessSize} (hv : AC97Pci.nabmWritable size offset = true)
    (value : u32) (s : Sound) :
    Returns (write_nabm banks h size offset value s) ↔ WriteReadable banks size offset value s := by
  unfold WriteReadable
  cases size with
  | b1 =>
    rw [forall_prop_of_true rfl]
    exact returns_write_nabm8 hv _ s
  | b2 => simp [write_nabm, modAc97, Returns]
  | b4 =>
    obtain ⟨a, hw⟩ := isOk_iff.mp ((AC97Pci.write_nabm32_isOk offset value s.ac97).trans hv)
    simp [write_nabm, hw, Returns]

/-! ### Runs that return -/

/-- The register takes writes of the size. -/
def Op.Valid : Op → Prop
  | .tick _ => True
  | .write size offset _ => AC97Pci.nabmWritable size offset = true

def Readable (banks : List IMemoryBank) : HostBytes × Op → Sound → Prop
  | (h, .tick pace), s => TickReadable banks h pace s
  | (_, .write size offset value), s => WriteReadable banks size offset value s

lemma returns_step {o : HostBytes × Op} (hv : o.2.Valid) (s : Sound) :
    Returns (step banks o s) ↔ Readable banks o s := by
  obtain ⟨h, _ | ⟨size, offset, value⟩⟩ := o
  · exact returns_tick _ s
  · exact returns_write hv value s

/-- **Throws**: a run of ticks and valid writes returns exactly if, at every step, all that the
engine reads is there. -/
theorem run_returns_iff {os : List (HostBytes × Op)} (hvalid : ∀ o ∈ os, o.2.Valid) (s : Sound) :
    Returns (run banks os s) ↔ Along (step banks) (fun o _ s => Readable banks o s) os s := by
  induction os generalizing s with
  | nil => exact ⟨fun _ => trivial, fun _ => trivial⟩
  | cons o os ih =>
    have hos : ∀ o' ∈ os, o'.2.Valid := fun o' ho' => hvalid o' (List.mem_cons_of_mem o ho')
    have ho : Returns (step banks o s) ↔ Readable banks o s :=
      returns_step (hvalid o (List.mem_cons_self ..)) s
    unfold run Along
    rw [returns_bind]
    constructor
    · rintro ⟨a, s₁, hs, hr⟩
      refine ⟨ho.mp (returns_iff.mpr ⟨a, s₁, hs⟩), fun a' s' hs' => ?_⟩
      cases hs.symm.trans hs'
      exact (ih hos s₁).mp hr
    · rintro ⟨hread, hrest⟩
      obtain ⟨a, s₁, hs⟩ := returns_iff.mp (ho.mpr hread)
      exact ⟨a, s₁, hs, (ih hos s₁).mpr (hrest a s₁ hs)⟩

/-- A start request. -/
theorem run_returns_iff_start :
    Op.Valid (.write .b1 Devices.PO_CR 1) ∧
      (Returns (run oneBank [(oneBuffer, .write .b1 Devices.PO_CR 1)] (soundAt 0x1000)) ↔
        Along (step oneBank) (fun o _ s => Readable oneBank o s)
          [(oneBuffer, .write .b1 Devices.PO_CR 1)] (soundAt 0x1000)) :=
  have hv : Op.Valid (.write .b1 Devices.PO_CR 1) := by
    show AC97Pci.nabmWritable .b1 Devices.PO_CR = true
    decide
  ⟨hv, run_returns_iff (by rintro _ (_ | ⟨_, ⟨⟩⟩); exact hv) _⟩

/-- A ring with one descriptor, whose buffer is in no bank. -/
def lostBuffer : HostBytes := fun _ o => if o = 3 then 0x80 else if o = 4 then 2 else 0

/-- The first tick throws where the buffer is in no bank, and the start request where the bank ends
in the middle of the descriptor. -/
theorem lost_buffer_throws :
    AC97Pci.nabmWritable .b1 Devices.PO_CR = true ∧
    Returns (run oneBank [(lostBuffer, .write .b1 Devices.PO_CR 1)] (soundAt 0x1000)) ∧
    ¬ Returns (run oneBank [(lostBuffer, .write .b1 Devices.PO_CR 1), (lostBuffer, .tick (.fixed 48))]
      (soundAt 0x1000)) ∧
    ¬ Returns (run [⟨.RamBank, 0x1000, 4, .Big⟩] [(lostBuffer, .write .b1 Devices.PO_CR 1)]
      (soundAt 0x1000)) := by
  decide +kernel

/-! ### The halt behind `LVI` -/

def PO_LVI : u32 := 0x15
def GLOB_CNT : u32 := 0x2c

/-- The software ends the halt at `lvi`: another last valid index, or a reset. -/
def Ends (lvi : u8) : HostBytes × Op → Sound → Prop
  | (_, .write .b1 offset value), _ =>
    (offset = PO_LVI ∧ value.setWidth 8 &&& 0x1f ≠ lvi) ∨
      (offset = Devices.PO_CR ∧ value.getLsbD 1 = true)
  | (_, .write .b4 offset value), s =>
    offset = GLOB_CNT ∧ s.ac97.glob_cnt.getLsbD 1 = false ∧ value.getLsbD 1 = true
  | _, _ => False

/-- The write is a start request, and there is a descriptor at `CIV`. -/
def Starts (banks : List IMemoryBank) : HostBytes × Op → Sound → Prop
  | (h, .write .b1 offset value), s =>
    offset = Devices.PO_CR ∧ ∃ bd_addr bd t,
      Devices.fetches banks (value.setWidth 8) s.ac97 = some bd_addr ∧
      readDescriptor banks h bd_addr
        (s.setAc97 (s.ac97.write_po_cr (mapped banks) (value.setWidth 8)).1) = .ok bd t ∧
      bd.empty = false
  | _, _ => False

structure Halted (lvi : u8) (a : AC97Pci) : Prop where
  stopped : a.po_running = false
  index : a.po_civ = (lvi + 1) &&& 0x1f

variable {lvi : u8} {a a' : AC97Pci} {value : u8}

lemma Halted.write_po_lvi (ha : Halted lvi a) (hv : value &&& 0x1f = lvi) :
    Halted lvi (a.write_po_lvi value) := by
  have hback : lvi.setWidth 32 = (a.po_civ.setWidth 32 - 1 + 32) &&& 0x1f#32 := by
    have hlt : lvi.toNat < 32 := hv ▸ toNat_and31 value ▸ Nat.mod_lt _ (by decide)
    have hciv : a.po_civ.toNat = (lvi.toNat + 1) % 32 := ha.index ▸ toNat_next
    apply BitVec.eq_of_toNat_eq
    rw [BitVec.toNat_and, show (0x1f#32).toNat = 2 ^ 5 - 1 from rfl, Nat.and_two_pow_sub_one_eq_mod,
      BitVec.toNat_add, BitVec.toNat_sub, BitVec.toNat_setWidth, BitVec.toNat_setWidth,
      show (1 : u32).toNat = 1 from rfl, show (32 : u32).toNat = 32 from rfl, hciv]
    omega
  unfold AC97Pci.write_po_lvi
  simp only [hv, ← hback]
  simpa using ⟨ha.stopped, ha.index⟩

lemma Halted.write_nabm8 (ha : Halted lvi a) (hcr : offset ≠ Devices.PO_CR)
    (hlvi : offset = PO_LVI → value &&& 0x1f = lvi) (mp : u32 → Bool) :
    AllOk (fun r => Halted lvi r.1) (a.write_nabm8 mp offset value) := by
  unfold AC97Pci.write_nabm8
  iterate 7 refine allOk_decode (fun _ => ⟨ha.stopped, ha.index⟩) ?_
  refine allOk_decode (fun h => absurd h hcr) ?_
  iterate 3 refine allOk_decode (fun _ => ⟨ha.stopped, ha.index⟩) ?_
  refine allOk_decode (fun h => ha.write_po_lvi (hlvi h)) ?_
  refine allOk_decode (fun _ => ⟨ha.stopped, ha.index⟩) ?_
  exact allOk_error _

def place (a : AC97Pci) : Bool × u8 := (a.po_running, a.po_civ)

@[simp] lemma place_setCodec (offset : u32) (value : u16) (a : AC97Pci) :
    place (a.setCodec offset value) = place a := rfl

@[simp] lemma place_codecReady (a : AC97Pci) : place a.codecReady = place a := rfl

lemma place_warm_reset (a : AC97Pci) : place a.warm_reset = place a := by
  have hinit : place a.init_codec_warm = place a := by simp [AC97Pci.init_codec_warm]
  rw [← hinit]
  unfold AC97Pci.warm_reset
  generalize a.init_codec_warm = b
  rfl

lemma Halted.of_place (ha : Halted lvi a) (hp : place a' = place a) : Halted lvi a' :=
  ⟨(congrArg Prod.fst hp).trans ha.stopped, (congrArg Prod.snd hp).trans ha.index⟩

lemma Halted.write_nabm32 (ha : Halted lvi a) {value : u32}
    (hcold : ¬(offset = GLOB_CNT ∧ a.glob_cnt.getLsbD 1 = false ∧ value.getLsbD 1 = true)) :
    AllOk (Halted lvi) (a.write_nabm32 offset value) := by
  unfold AC97Pci.write_nabm32
  iterate 3 refine allOk_decode (fun _ => ⟨ha.stopped, ha.index⟩) ?_
  refine allOk_decode (fun hoff => ?_) ?_
  · have hno : ¬(!a.glob_cnt.getLsbD 1 && value.getLsbD 1) = true := by
      intro hc
      rw [Bool.and_eq_true, Bool.not_eq_true'] at hc
      exact hcold ⟨hoff, hc⟩
    unfold AC97Pci.write_glob_cnt
    dsimp only
    rw [if_neg hno]
    split_ifs
    · exact ha.of_place (place_warm_reset { a with glob_cnt := value })
    · exact ⟨ha.stopped, ha.index⟩
  · exact allOk_decode (fun _ => ⟨ha.stopped, ha.index⟩) (allOk_error _)

lemma Halted.write_po_cr (ha : Halted lvi a) (hv : value.getLsbD 1 = false) (mp : u32 → Bool) :
    Halted lvi (a.write_po_cr mp value).1 := by
  have h1 : (value &&& 0x1f).getLsbD 1 = value.getLsbD 1 := by simp
  unfold AC97Pci.write_po_cr
  simp only [h1, hv]
  rw [if_neg Bool.false_ne_true]
  split_ifs
  · exact ⟨rfl, ha.index⟩
  · exact ⟨ha.stopped, ha.index⟩
  · exact ⟨rfl, ha.index⟩
  · exact ⟨ha.stopped, ha.index⟩

lemma halted_write8 (ha : Halted lvi s.ac97) {value : u32}
    (hends : ¬ Ends lvi (h, .write .b1 offset value) s)
    (hstarts : ¬ Starts banks (h, .write .b1 offset value) s) :
    (final (write_nabm8 banks h offset (value.setWidth 8) s)).host_audio = s.host_audio ∧
      ∀ s', write_nabm8 banks h offset (value.setWidth 8) s = .ok () s' → Halted lvi s'.ac97 := by
  obtain ⟨hlvi, hreset⟩ := not_or.mp hends
  unfold write_nabm8
  by_cases hcr : offset = Devices.PO_CR
  · subst hcr
    have hv : (value.setWidth 8).getLsbD 1 = false := by simpa using hreset
    have ha' := ha.write_po_cr hv (mapped banks)
    have hfetch := Devices.write_po_cr_fetch banks (value.setWidth 8) s.ac97
    have hst : ∀ bd_addr bd t, (s.ac97.write_po_cr (mapped banks) (value.setWidth 8)).2 = some bd_addr →
        readDescriptor banks h bd_addr
          (s.setAc97 (s.ac97.write_po_cr (mapped banks) (value.setWidth 8)).1) = .ok bd t →
        bd.empty = true := by
      intro bd_addr bd t hb hd
      by_contra he
      exact hstarts ⟨rfl, bd_addr, bd, t, hfetch.symm.trans hb, hd, by simpa using he⟩
    rw [Devices.write_nabm8_po_cr]
    rcases hw : s.ac97.write_po_cr (mapped banks) (value.setWidth 8) with ⟨a, _ | bd_addr⟩ <;>
      rw [hw] at ha' hst
    · refine ⟨rfl, ?_⟩
      rintro _ ⟨⟩
      exact ha'
    · dsimp only at ha' hst ⊢
      cases hd : readDescriptor banks h bd_addr (s.setAc97 a) with
      | error e t =>
        rw [bind_error hd]
        refine ⟨core_audio (s := s.setAc97 a) ((fixesCore_readDescriptor _).error hd), ?_⟩
        rintro _ ⟨⟩
      | ok bd t =>
        have he := hst bd_addr bd t rfl hd
        have hc : t.core = (s.setAc97 a).core := (fixesCore_readDescriptor _).ok hd
        obtain ⟨g, hg⟩ := core_ac97 hc
        rw [bind_ok hd, modAc97_apply, AC97Pci.po_start, if_pos (by simpa [Descriptor.empty] using he)]
        have haud : t.host_audio = s.host_audio := congrArg Prod.snd hc
        refine ⟨haud, ?_⟩
        rintro _ ⟨⟩
        refine ⟨rfl, ?_⟩
        show t.ac97.po_civ = _
        rw [hg]
        exact ha'.index
  · have hsame : offset = PO_LVI → value.setWidth 8 &&& 0x1f = lvi :=
      fun ho => not_not.mp fun hne => hlvi ⟨ho, hne⟩
    have hkeep := ha.write_nabm8 hcr hsame (mapped banks)
    cases hw : s.ac97.write_nabm8 (mapped banks) offset (value.setWidth 8) with
    | error e =>
      refine ⟨rfl, ?_⟩
      rintro _ ⟨⟩
    | ok r =>
      obtain ⟨a, o⟩ := r
      obtain rfl : o = none := Devices.write_nabm8_none hcr _ _ _ _ hw
      refine ⟨rfl, ?_⟩
      rintro _ ⟨⟩
      exact hkeep _ hw

/-- **One step** of a halted engine puts out nothing, and leaves it halted. -/
lemma halted_step (ha : Halted lvi s.ac97) {o : HostBytes × Op} (hends : ¬ Ends lvi o s)
    (hstarts : ¬ Starts banks o s) :
    (final (step banks o s)).host_audio = s.host_audio ∧
      ∀ s', step banks o s = .ok () s' → Halted lvi s'.ac97 := by
  obtain ⟨h, pace | ⟨size, offset, value⟩⟩ := o
  · have ht : step banks (h, .tick pace) s = .ok () s := tick_stopped (.inl ha.stopped)
    rw [ht]
    refine ⟨rfl, ?_⟩
    rintro _ ⟨⟩
    exact ha
  · cases size with
    | b1 => exact halted_write8 ha hends hstarts
    | b2 =>
      refine ⟨rfl, ?_⟩
      rintro _ ⟨⟩
      refine ha.of_place ?_
      show place (s.ac97.write_nabm16 offset (value.setWidth 16)) = _
      unfold AC97Pci.write_nabm16
      split_ifs <;> rfl
    | b4 =>
      simp only [step, write_nabm]
      cases hw : s.ac97.write_nabm32 offset value with
      | error e =>
        refine ⟨rfl, ?_⟩
        rintro _ ⟨⟩
      | ok a =>
        refine ⟨rfl, ?_⟩
        rintro _ ⟨⟩
        exact ha.write_nabm32 hends a hw

/-- **Whole runs**: until the software ends the halt or starts the engine, nothing is put out. -/
lemma halted_run {os : List (HostBytes × Op)} : ∀ {s : Sound}, Halted lvi s.ac97 →
    Along (step banks) (fun o _ t => ¬ Ends lvi o t ∧ ¬ Starts banks o t) os s →
    (final (run banks os s)).host_audio = s.host_audio := by
  induction os with
  | nil => exact fun _ _ => rfl
  | cons o os ih =>
    rintro s ha ⟨⟨hends, hstarts⟩, hrest⟩
    obtain ⟨hout, hkeep⟩ := halted_step ha hends hstarts
    unfold run
    cases hs : step banks o s with
    | error e t =>
      rw [hs] at hout
      rw [bind_error hs]
      exact hout
    | ok x t =>
      rw [hs] at hout
      rw [bind_ok hs]
      exact (ih (hkeep t hs) (hrest x t hs)).trans hout

/-! ### How the engine gets there -/

def indices (s : Sound) : u8 × u8 := (s.ac97.po_civ, s.ac97.po_lvi)

lemma indices_of_core (hc : s'.core = s.core) : s'.indices = s.indices := by
  obtain ⟨g, hg⟩ := core_ac97 hc
  unfold indices
  rw [hg]

lemma indices_loadCurrent {b : Bool} (hl : loadCurrent banks h s = .ok b s') :
    s'.indices = s.indices := by
  by_cases h0 : s.ac97.po_cur_len = 0
  · cases hd : readDescriptor banks h (Devices.nextDescriptor s.ac97) s with
    | error e t => cases (loadCurrent_error h0 hd).symm.trans hl
    | ok bd t =>
      have hc : t.indices = s.indices := indices_of_core ((fixesCore_readDescriptor _).ok hd)
      rw [loadCurrent_read h0 hd] at hl
      split_ifs at hl <;> cases hl <;> exact hc
  · rw [loadCurrent_loaded h0] at hl
    cases hl
    rfl

lemma playFrames_halts {todo : u32} (hat : s.ac97.po_civ = s.ac97.po_lvi)
    (ht : playFrames banks h todo s = .ok () s') (hpast : s'.ac97.po_civ ≠ s.ac97.po_civ) :
    Halted s.ac97.po_lvi s'.ac97 := by
  unfold playFrames at ht
  rw [bind_ok (getAc97_apply s)] at ht
  obtain ⟨xs, t, hx, ht⟩ := bind_ok_iff.mp ht
  have hi : t.indices = s.indices := indices_of_core ((fixesCore_readSamples _ _).ok hx)
  have hciv : t.ac97.po_civ = s.ac97.po_civ := congrArg Prod.fst hi
  have hlvi : t.ac97.po_lvi = s.ac97.po_lvi := congrArg Prod.snd hi
  rw [bind_ok (show pushSamples xs t = .ok () _ from rfl), bind_ok (modAc97_apply ..),
    bind_ok (getAc97_apply _)] at ht
  split_ifs at ht with h0
  · have hlast : ((t.ac97.advance todo).complete).pastLast = true := by
      unfold AC97Pci.pastLast AC97Pci.complete AC97Pci.advance
      rw [hciv, hlvi, hat]
      exact decide_eq_true rfl
    change finishDescriptor banks h (t.played todo xs) = _ at ht
    rw [finish_last (s := t.played todo xs) hlast] at ht
    cases ht
    obtain ⟨g, hg⟩ := raised_ac97 ((t.played todo xs).setAc97 (t.played todo xs).ac97.complete.haltLast)
    rw [hg]
    refine ⟨rfl, ?_⟩
    show (t.ac97.po_civ + 1) &&& 0x1f = _
    rw [hciv, hat]
  · cases ht
    exact absurd hciv hpast

lemma tick_halts {pace : Pace} (hr : s.ac97.po_running = true) (hat : s.ac97.po_civ = s.ac97.po_lvi)
    (ht : tick banks h pace s = .ok () s') (hpast : s'.ac97.po_civ ≠ s.ac97.po_civ) :
    Halted s.ac97.po_lvi s'.ac97 := by
  by_cases hb : s.ac97.bdbar_playback = 0
  · rw [tick_stopped (.inr hb)] at ht
    cases ht
    exact absurd rfl hpast
  · rw [tick_running hr hb] at ht
    obtain ⟨b, t, hl, ht⟩ := bind_ok_iff.mp ht
    have hi := indices_loadCurrent hl
    have hciv : t.ac97.po_civ = s.ac97.po_civ := congrArg Prod.fst hi
    have hlvi : t.ac97.po_lvi = s.ac97.po_lvi := congrArg Prod.snd hi
    cases b with
    | false =>
      cases ht
      exact absurd hciv hpast
    | true =>
      rw [if_pos rfl, playGranted, bind_ok (getAc97_apply t)] at ht
      cases htodo : pace.todo t.ac97.po_picb with
      | none =>
        rw [htodo] at ht
        cases ht
        exact absurd hciv hpast
      | some todo =>
        rw [htodo] at ht
        rw [← hlvi]
        exact playFrames_halts (hciv.trans (hat.trans hlvi.symm)) ht (hciv.symm ▸ hpast)

/-- **The halt holds**: once a tick has taken the index on from `LVI`, no run puts out a sample
before the software writes another `LVI` or resets the engine, if no write starts the engine. -/
theorem halt_holds {pace : Pace} {os : List (HostBytes × Op)} (hrun : s.ac97.po_running = true)
    (hat : s.ac97.po_civ = s.ac97.po_lvi) (htick : tick banks h pace s = .ok () s')
    (hpast : s'.ac97.po_civ ≠ s.ac97.po_civ)
    (hos : Along (step banks)
      (fun o _ t => ¬ Ends s.ac97.po_lvi o t ∧ ¬ Starts banks o t) os s') :
    (final (run banks os s')).host_audio = s'.host_audio :=
  halted_run (tick_halts hrun hat htick hpast) hos

/-- The ring with one descriptor, playing. -/
def playing : Sound := final (write_nabm oneBank oneBuffer .b1 Devices.PO_CR 1 (soundAt 0x1000))

theorem halt_holds_tick :
    (final (run oneBank [(oneBuffer, .tick (.fixed 48))]
      (final (tick oneBank oneBuffer (.fixed 48) playing)))).host_audio =
    (final (tick oneBank oneBuffer (.fixed 48) playing)).host_audio :=
  halt_holds (s := playing) (by decide +kernel) (by decide +kernel)
    (eq_ok_final (by decide +kernel)) (by decide +kernel) ⟨⟨id, id⟩, fun _ _ _ => trivial⟩

/-- A ring with two descriptors. -/
def twoBuffers : HostBytes := fun _ o =>
  if o = 0 ∨ o = 1 ∨ o = 8 ∨ o = 9 then 0x10 else if o = 4 ∨ o = 12 then 2
  else if o = 16 then 0x34 else if o = 17 then 0x12 else 0

/-- With `LVI` at the first descriptor, `RUN` written again after the halt plays the second. -/
theorem restart_plays_past_lvi :
    heard (run oneBank [(twoBuffers, .write .b1 Devices.PO_CR 1), (twoBuffers, .tick (.fixed 48))]
      (soundAt 0x1000)) = some (false, [0x1234, 0]) ∧
    (final (run oneBank [(twoBuffers, .write .b1 Devices.PO_CR 1), (twoBuffers, .tick (.fixed 48))]
      (soundAt 0x1000))).ac97.po_lvbci_halted = true ∧
    heard (run oneBank [(twoBuffers, .write .b1 Devices.PO_CR 1), (twoBuffers, .tick (.fixed 48)),
      (twoBuffers, .write .b1 Devices.PO_CR 1), (twoBuffers, .tick (.fixed 48))]
      (soundAt 0x1000)) = some (false, [0x1234, 0, 0x1234, 0]) := by
  decide +kernel

end Sound

end SparcEmu
