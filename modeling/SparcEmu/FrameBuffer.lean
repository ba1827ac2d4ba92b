import SparcEmu.DeviceErrors
import SparcEmu.Lib.Run

/-!
The picture that the renderer reads.

The video registers latch the resolution, the depth and the address of the frame buffer at different
times: the depth with every write to the status, the resolution when the display goes on, and the
address when it is written. None of them looks at how long the bank of the frame buffer is.
-/

namespace SparcEmu

open Lib.Run

/-- The bytes that the renderer reads for one picture. -/
def Display.frame (d : Display) : Nat := d.width.toNat * d.height.toNat * (d.bpp / 8)

namespace SVGA

variable {banks : List IMemoryBank} {n : Nat} {p : HostPtr} {offset v : u32} {s s' : SVGA}

/-- The constructor; a display that is enabled opens its window at once. -/
def construct (enable : Bool) : SVGA :=
  if enable then { display_started := true, display := { running := true, enabled := true } } else {}

/-! ### Pictures -/

variable (banks) in
/-- The pointer is null: `get_ptr` gave `nullptr`, and the address is the base of the bank. -/
def IsNull (p : HostPtr) : Prop := ∃ b, banks[p.bank]? = some b ∧ b.get_ptr = .ok false ∧ p.off = 0

variable (banks) in
/-- Unless the pointer is null, `n` bytes from there on are host memory of its bank. -/
def Holds (n : Nat) (p : HostPtr) : Prop :=
  ¬ IsNull banks p → ∃ b, banks[p.bank]? = some b ∧ b.get_ptr = .ok true ∧ 0 ≤ p.off ∧ p.off + n ≤ b.size

variable (banks) in
/-- While the display is on with a frame buffer, all that the renderer reads is in the bank. -/
def Safe (s : SVGA) : Prop :=
  s.display.enabled = true → ∀ p, s.display.framebuffer = some p → Holds banks s.display.frame p

/-- The pixels of the picture behind a write to the status: the resolution is taken over when the
display goes on, if there is one. -/
def pixels (v : u32) (s : SVGA) : Nat :=
  if v.getLsbD 0 && !s.stat.getLsbD 0 && decide (s.vlen ≠ 0) then
    ((s.vlen &&& 0xffff) + 1).toNat * (((s.vlen >>> 16) &&& 0xffff) + 1).toNat
  else s.display.width.toNat * s.display.height.toNat

def pixelBytes (v : u32) : Nat := if (v >>> 4) &&& 3 = 1 then 1 else 4

/-- The display is on behind a write to the status. -/
def on (v : u32) (s : SVGA) : Bool :=
  if v.getLsbD 0 = s.stat.getLsbD 0 then s.display.enabled else v.getLsbD 0

variable (banks) in
/-- A write to the status that leaves the display on finds the picture of its mode in the bank, and
so does a write of the address while the display is on. -/
def Fits (offset v : u32) (s : SVGA) : Prop :=
  (offset = 0 → v.getLsbD 1 = false → on v s = true → ∀ p, s.display.framebuffer = some p →
    Holds banks (pixels v s * pixelBytes v) p) ∧
  (offset = 0x14 → s.display.enabled = true → ∀ i b, MCtrl.findFrom v banks 0 = some (i, b) →
    Holds banks s.display.frame ⟨i, b.offset v⟩)

/-! ### Writes -/

/-- What the renderer takes from the display. -/
def mode (s : SVGA) : Bool × Option HostPtr × Nat :=
  (s.display.enabled, s.display.framebuffer, s.display.frame)

lemma safe_congr (hm : mode s' = mode s) : Safe banks s' ↔ Safe banks s := by
  simp only [mode, Prod.mk.injEq] at hm
  unfold Safe
  rw [hm.1, hm.2.1, hm.2.2]

lemma mode_write_stat (v : u32) (s : SVGA) :
    mode (s.write_stat v) = (on v s, s.display.framebuffer, pixels v s * pixelBytes v) := by
  have hbytes : (if (v >>> 4) &&& 3 = 1 then 8 else 32) / 8 = pixelBytes v := by
    unfold pixelBytes
    split_ifs <;> rfl
  unfold write_stat mode on pixels Display.frame
  dsimp only
  rw [← hbytes]
  cases hv : v.getLsbD 0 <;> cases hs : s.stat.getLsbD 0
  · rfl
  · rfl
  · by_cases hl : s.vlen ≠ 0
    · simp only [if_pos hl, decide_eq_true hl]
      rfl
    · simp only [if_neg hl, decide_eq_false hl]
      rfl
  · rfl

lemma safe_reset (s : SVGA) : Safe banks s.reset := by
  have hoff : s.reset.display.enabled = false := by
    unfold reset
    cases he : s.display.enabled <;> simp [he]
  intro hon
  rw [hoff] at hon
  cases hon

lemma safe_write_stat (v : u32) (s : SVGA) : Safe banks (s.write_stat v) ↔
    (on v s = true → ∀ p, s.display.framebuffer = some p → Holds banks (pixels v s * pixelBytes v) p) := by
  have hm := mode_write_stat v s
  simp only [mode, Prod.mk.injEq] at hm
  unfold Safe
  rw [hm.1, hm.2.1, hm.2.2]

lemma safe_write_fbuf (hs : Safe banks s) (hw : s.write_fbuf banks v = .ok s') : Safe banks s' ↔
    (s.display.enabled = true → ∀ i b, MCtrl.findFrom v banks 0 = some (i, b) →
      Holds banks s.display.frame ⟨i, b.offset v⟩) := by
  unfold write_fbuf at hw
  rcases hf : MCtrl.findFrom v banks 0 with _ | ⟨i, b⟩
  · rw [hf] at hw
    cases hw
    exact iff_of_true hs nofun
  · rw [hf] at hw
    dsimp only at hw
    cases hp : b.get_ptr with
    | error e =>
      rw [hp] at hw
      cases hw
    | ok x =>
      rw [hp] at hw
      cases hw
      constructor
      · rintro hsafe hon _ _ ⟨⟩
        exact hsafe hon _ rfl
      · rintro hfit hon _ ⟨⟩
        exact hfit hon i b rfl

lemma mode_write_other (h0 : offset ≠ 0) (h14 : offset ≠ 0x14) :
    AllOk (fun s' => mode s' = mode s) (s.write banks offset v) := by
  unfold write
  refine allOk_decode (fun h => absurd h h0) ?_
  iterate 4 refine allOk_decode (fun _ => rfl) ?_
  rw [if_neg h14]
  iterate 5 refine allOk_decode (fun _ => rfl) ?_
  exact allOk_ok rfl

theorem safe_write (hs : Safe banks s) (hw : s.write banks offset v = .ok s') :
    Safe banks s' ↔ Fits banks offset v s := by
  by_cases h0 : offset = 0
  · subst h0
    have hfit : Fits banks 0 v s ↔ (v.getLsbD 1 = false → on v s = true →
        ∀ p, s.display.framebuffer = some p → Holds banks (pixels v s * pixelBytes v) p) :=
      ⟨fun h => h.1 rfl, fun h => ⟨fun _ => h, fun h14 => absurd h14 (by decide)⟩⟩
    have hw' : s' = if v.getLsbD 1 then s.reset else s.write_stat v := by
      cases hw
      rfl
    rw [hfit, hw']
    cases v.getLsbD 1 with
    | true => exact iff_of_true (safe_reset s) nofun
    | false => exact (safe_write_stat v s).trans ⟨fun h _ => h, fun h => h rfl⟩
  · by_cases h14 : offset = 0x14
    · subst h14
      have hfit : Fits banks 0x14 v s ↔ (s.display.enabled = true → ∀ i b,
          MCtrl.findFrom v banks 0 = some (i, b) → Holds banks s.display.frame ⟨i, b.offset v⟩) :=
        ⟨fun h => h.2 rfl, fun h => ⟨fun h0 => absurd h0 (by decide), fun _ => h⟩⟩
      rw [hfit]
      exact safe_write_fbuf hs hw
    · refine iff_of_true ((safe_congr (mode_write_other h0 h14 _ hw)).mpr hs) ?_
      exact ⟨fun h => absurd h h0, fun h => absurd h h14⟩

/-! ### Runs -/

variable (banks) in
/-- A write as an operation on the device. Where `get_ptr` throws, the address has been stored. -/
def op (w : u32 × u32) : EStateM HostError SVGA Unit := fun s =>
  match s.write banks w.1 w.2 with
  | .ok s' => .ok () s'
  | .error e => .error e { s with fbuf := w.2 }

lemma safe_construct (enable : Bool) : Safe banks (construct enable) := by
  cases enable with
  | true => exact fun _ _ h => nomatch h
  | false => exact fun h => nomatch h

variable (banks) in
/-- **The frame buffer**: a device starts safe, a write that returns keeps it safe exactly if the
picture of the mode it leaves fits into the bank, and a run of such writes is safe throughout. -/
theorem framebuffer_safe_iff :
    (∀ enable, Safe banks (construct enable)) ∧
    (∀ offset v s s', Safe banks s → s.write banks offset v = .ok s' →
      (Safe banks s' ↔ Fits banks offset v s)) ∧
    ∀ ws enable s', Along (op banks) (fun w _ s => Fits banks w.1 w.2 s) ws (construct enable) →
      runAll (op banks) ws (construct enable) = .ok () s' → Safe banks s' := by
  refine ⟨safe_construct, fun offset v s s' hs hw => safe_write hs hw, fun ws enable s' hl hr => ?_⟩
  refine Along.at_end (Safe banks) (fun w _ s _ s' hs hfit ho => ?_) (safe_construct enable) hl hr
  unfold op at ho
  cases hw : s.write banks w.1 w.2 with
  | error e =>
    rw [hw] at ho
    cases ho
  | ok t =>
    rw [hw] at ho
    cases ho
    exact (safe_write hs hw).mpr hfit

def mainMemory : List IMemoryBank := [⟨.RamBank, 0x40000000, 0x4000000, .Big⟩]

/-- A picture of 640 by 480 at the start of memory. -/
theorem framebuffer_safe_start :
    ∃ s', runAll (op mainMemory) [(0x14, 0x40000000)] (construct true) = .ok () s' ∧
      s'.display.enabled = true ∧ s'.display.framebuffer = some ⟨0, 0⟩ ∧ Safe mainMemory s' := by
  refine ⟨_, rfl, rfl, rfl, ?_⟩
  refine (framebuffer_safe_iff mainMemory).2.2 [(0x14, 0x40000000)] true _
    ⟨⟨nofun, ?_⟩, fun _ _ _ => trivial⟩ rfl
  rintro - - i b hf -
  cases hf
  exact ⟨_, rfl, rfl, by decide, by decide⟩

/-- The registers of the APB bridge, which have no host memory. -/
def bridgeOnly : List IMemoryBank := [⟨.device 0 .nullptr, 0x80000000, 0xfe000, .Big⟩]

/-- The same picture at the last page of memory goes beyond its end, and one among the registers of a
device is not in memory at all. -/
theorem framebuffer_overruns :
    (∃ s', runAll (op mainMemory) [(0x14, 0x43fff000), (0, 1)] (construct false) = .ok () s' ∧
      ¬ Safe mainMemory s') ∧
    ∃ s', runAll (op bridgeOnly) [(0x14, 0x80000500), (0, 1)] (construct false) = .ok () s' ∧
      ¬ Safe bridgeOnly s' := by
  refine ⟨⟨_, rfl, fun hsafe => ?_⟩, ⟨_, rfl, fun hsafe => ?_⟩⟩
  · have hnull : ¬ IsNull mainMemory ⟨0, 0x3fff000⟩ := by
      rintro ⟨b, hb, -, h0⟩
      exact absurd h0 (by decide)
    obtain ⟨b, hb, -, -, hin⟩ := hsafe rfl ⟨0, 0x3fff000⟩ rfl hnull
    cases hb
    exact absurd hin (by decide)
  · have hnull : ¬ IsNull bridgeOnly ⟨0, 0x500⟩ := by
      rintro ⟨b, hb, -, h0⟩
      exact absurd h0 (by decide)
    obtain ⟨b, hb, hmem, -⟩ := hsafe rfl ⟨0, 0x500⟩ rfl hnull
    cases hb
    cases hmem

end SVGA

end SparcEmu
