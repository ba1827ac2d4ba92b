import SparcEmu.AudioSafety
import SparcEmu.Lib.Bits

/-!
The status that the sound device shows of its engine: whether it is halted, whether it asks for an
interrupt, and how much is left of the descriptor.
-/

namespace SparcEmu

open Lib.Bits Lib.Effect Lib.Run

namespace Sound

variable {banks : List IMemoryBank} {h : HostBytes} {s s' : Sound} {P : AC97Pci → Prop}

/-! ### Invariants of the device -/

/-- The program keeps `P` of the sound device, however it ends. -/
abbrev KeepsDev {α : Type} (P : AC97Pci → Prop) (m : SoundM α) : Prop := Keeps (fun s => P s.ac97) m

lemma keeps_getAc97 : KeepsDev P getAc97 := fun _ hs => hs

lemma keeps_modAc97 {f : AC97Pci → AC97Pci} (hf : ∀ a, P a → P (f a)) : KeepsDev P (modAc97 f) :=
  fun _ hs => hf _ hs

section Reads

variable (hread : ∀ a a', Devices.SoundRead a a' → P a → P a')

include hread

lemma keeps_bus_read (size : AccessSize) (addr : u32) : KeepsDev P (bus_read banks h size addr) := by
  intro s hs
  unfold bus_read
  rcases hr : s.dev.busRead banks size addr with e | ⟨v, d⟩
  · exact hs
  · exact hread _ _ (Devices.busRead_glob banks size addr _ hr) hs

lemma keeps_mem_read16 (addr : u32) : KeepsDev P (mem_read16 banks h addr) :=
  (keeps_bus_read hread .b2 addr).bind fun _ => .pure _

lemma keeps_readDescriptor (addr : u32) : KeepsDev P (readDescriptor banks h addr) :=
  ((keeps_bus_read hread .b4 addr).bind fun _ => .pure _).bind fun _ =>
    (keeps_mem_read16 hread _).bind fun _ => (keeps_mem_read16 hread _).bind fun _ => .pure _

lemma keeps_readSamples (n : Nat) (ptr : u32) : KeepsDev P (readSamples banks h n ptr) := by
  induction n generalizing ptr with
  | zero => exact .pure _
  | succ n ih => exact (keeps_mem_read16 hread ptr).bind fun _ => (ih _).bind fun _ => .pure _

lemma keeps_tick (hload : ∀ bd a, P a → P (a.load bd)) (hhalt : ∀ a, P a → P a.halt)
    (hadvance : ∀ todo a, P a → P (a.advance todo)) (hfinish : KeepsDev P (finishDescriptor banks h))
    (pace : Pace) : KeepsDev P (tick banks h pace) := by
  have hcurrent : KeepsDev P (loadCurrent banks h) :=
    keeps_getAc97.bind fun a => .ite (fun _ => (keeps_readDescriptor hread _).bind fun bd =>
      .ite (fun _ => (keeps_modAc97 hhalt).bind fun _ => .pure _)
        fun _ => (keeps_modAc97 (hload bd)).bind fun _ => .pure _) fun _ => .pure _
  have hplay : ∀ todo, KeepsDev P (playFrames banks h todo) := fun todo =>
    keeps_getAc97.bind fun a => (keeps_readSamples hread _ _).bind fun xs =>
      Keeps.bind (fun _ hs => hs) fun _ => (keeps_modAc97 (hadvance todo)).bind fun _ =>
        keeps_getAc97.bind fun a => .ite (fun _ => hfinish) fun _ => .pure _
  refine keeps_getAc97.bind fun a => .ite (fun _ => .pure _) fun _ => hcurrent.bind fun loaded =>
    .ite (fun _ => keeps_getAc97.bind fun a => ?_) fun _ => .pure _
  cases pace.todo a.po_picb with
  | none => exact .pure _
  | some todo => exact hplay todo

end Reads

/-! ### Register writes -/

def PO_SR : u32 := 0x16
def GLOB_STA : u32 := 0x30

/-- What the status of playback is made of. -/
def shown (a : AC97Pci) : u16 × u8 × Bool × Bool × u8 × u32 × u16 × u32 :=
  (a.po_status, a.po_control, a.po_running, a.po_lvbci_halted, a.po_civ, a.po_cur_len, a.po_picb,
    a.glob_sta)

/-- What an accepted register write makes of the device: the registers of playback have their
handlers, and all others leave the status alone. An address stands for the descriptor that the write
goes on to read. -/
inductive Written (mapped : u32 → Bool) (a : AC97Pci) :
    AccessSize → u32 → u32 → AC97Pci → Option u32 → Prop
  | sr8 (v : u32) : Written mapped a .b1 PO_SR v
      { a with po_status := a.po_status &&& ~~~((v.setWidth 8 &&& 0x1e#8).setWidth 16) } none
  | sr16 (v : u32) : Written mapped a .b2 PO_SR v
      { a with po_status := a.po_status &&& ~~~(v.setWidth 16 &&& 0x1e#16) } none
  | cr (v : u32) : Written mapped a .b1 Devices.PO_CR v (a.write_po_cr mapped (v.setWidth 8)).1
      (a.write_po_cr mapped (v.setWidth 8)).2
  | lvi (v : u32) : Written mapped a .b1 PO_LVI v (a.write_po_lvi (v.setWidth 8)) none
  | glob_cnt (v : u32) : Written mapped a .b4 GLOB_CNT v (a.write_glob_cnt v) none
  | glob_sta (v : u32) : Written mapped a .b4 GLOB_STA v
      { a with glob_sta := a.glob_sta &&& ~~~(v &&& 0xff) } none
  | other {size : AccessSize} {offset v : u32} {a' : AC97Pci} (hs : shown a' = shown a)
      (hcr : ¬ (size = .b1 ∧ offset = Devices.PO_CR)) (hcnt : ¬ (size = .b4 ∧ offset = GLOB_CNT))
      (hsta : ¬ (size = .b4 ∧ offset = GLOB_STA)) : Written mapped a size offset v a' none

section Writes

variable (mapped : u32 → Bool) (offset v : u32) (a : AC97Pci)

lemma written8 : AllOk (fun r => Written mapped a .b1 offset v r.1 r.2)
    (a.write_nabm8 mapped offset (v.setWidth 8)) := by
  have hother : ∀ {a' : AC97Pci}, shown a' = shown a → offset ≠ Devices.PO_CR →
      Written mapped a .b1 offset v a' none := fun hs hne =>
    .other hs (fun h => hne h.2) (fun h => by cases h.1) fun h => by cases h.1
  unfold AC97Pci.write_nabm8
  refine allOk_decode (fun h => by subst h; exact .sr8 v) ?_
  iterate 6 refine allOk_decode (fun h => hother rfl (by rw [h]; decide)) ?_
  refine allOk_decode (fun h => by subst h; exact .cr v) ?_
  refine allOk_decode (fun h => hother rfl (by rw [h]; decide)) ?_
  refine allOk_decode (fun h => hother rfl ?_) ?_
  · rcases h with h | h | h <;> rw [h] <;> decide
  refine allOk_decode (fun h => hother rfl (by rw [h]; decide)) ?_
  refine allOk_decode (fun h => by subst h; exact .lvi v) ?_
  exact allOk_decode (fun h => hother rfl (by rw [h]; decide)) (allOk_error _)

lemma written16 : Written mapped a .b2 offset v (a.write_nabm16 offset (v.setWidth 16)) none := by
  unfold AC97Pci.write_nabm16
  split_ifs with h
  · subst h
    exact .sr16 v
  · exact .other rfl (fun h => by cases h.1) (fun h => by cases h.1) fun h => by cases h.1

lemma written32 : AllOk (fun a' => Written mapped a .b4 offset v a' none)
    (a.write_nabm32 offset v) := by
  have hother : ∀ {a' : AC97Pci}, shown a' = shown a → offset ≠ GLOB_CNT → offset ≠ GLOB_STA →
      Written mapped a .b4 offset v a' none := fun hs hcnt hsta =>
    .other hs (fun h => by cases h.1) (fun h => hcnt h.2) fun h => hsta h.2
  unfold AC97Pci.write_nabm32
  iterate 3
    refine allOk_decode (fun h => hother rfl (by rw [h]; decide) (by rw [h]; decide)) ?_
  refine allOk_decode (fun h => by subst h; exact .glob_cnt v) ?_
  exact allOk_decode (fun h => by subst h; exact .glob_sta v) (allOk_error _)

end Writes

/-- How a register write ends: it is not accepted, or the device is written, and a start request
goes on to the descriptor. -/
lemma write_cases (size : AccessSize) (offset v : u32) (s : Sound) :
    (∃ e, write_nabm banks h size offset v s = .error e s) ∨
    ∃ a' bd, Written (mapped banks) s.ac97 size offset v a' bd ∧
      write_nabm banks h size offset v s =
        (match bd with
        | none => (pure () : SoundM Unit)
        | some bd_addr => do
          let bd ← readDescriptor banks h bd_addr
          modAc97 (AC97Pci.po_start bd.ptr bd.len bd.ctl)) (s.setAc97 a') := by
  cases size with
  | b1 =>
    unfold write_nabm write_nabm8
    dsimp only
    have hw := written8 (mapped banks) offset v s.ac97
    rcases hr : s.ac97.write_nabm8 (mapped banks) offset (v.setWidth 8) with e | ⟨a', bd⟩
    · exact Or.inl ⟨e, rfl⟩
    · refine Or.inr ⟨a', bd, hw _ hr, ?_⟩
      cases bd <;> rfl
  | b2 => exact Or.inr ⟨_, none, written16 (mapped banks) offset v s.ac97, rfl⟩
  | b4 =>
    unfold write_nabm
    dsimp only
    have hw := written32 (mapped banks) offset v s.ac97
    cases hr : s.ac97.write_nabm32 offset v with
    | error e => exact Or.inl ⟨e, rfl⟩
    | ok a' => exact Or.inr ⟨a', none, hw _ hr, rfl⟩

/-- The resets that a write to `GLOB_CNT` does. -/
def coldRises (v : u32) (a : AC97Pci) : Bool := !a.glob_cnt.getLsbD 1 && v.getLsbD 1
def warmRises (v : u32) (a : AC97Pci) : Bool := !a.glob_cnt.getLsbD 2 && v.getLsbD 2

section GlobCnt

variable {v : u32} {a : AC97Pci}

lemma warm_reset_po_status (a : AC97Pci) : a.warm_reset.po_status = 0 := rfl

lemma warm_reset_po_running (a : AC97Pci) : a.warm_reset.po_running = a.po_running := by
  simp only [AC97Pci.warm_reset, AC97Pci.init_codec_warm, AC97Pci.codecReady, AC97Pci.setCodec]

lemma cold_reset_po_running (a : AC97Pci) : a.cold_reset.po_running = false := rfl

lemma write_glob_cnt_warm (hw : warmRises v a = true) : (a.write_glob_cnt v).po_status = 0 ∧
    (a.write_glob_cnt v).po_running = (!coldRises v a && a.po_running) := by
  unfold warmRises at hw
  unfold AC97Pci.write_glob_cnt coldRises
  cases hc : (!a.glob_cnt.getLsbD 1 && v.getLsbD 1) with
  | true =>
    simp only [hc, hw, if_true, warm_reset_po_status, warm_reset_po_running, cold_reset_po_running]
    exact ⟨trivial, rfl⟩
  | false =>
    simp only [hc, hw, if_true, Bool.false_eq_true, if_false, warm_reset_po_status,
      warm_reset_po_running]
    exact ⟨trivial, rfl⟩

lemma write_glob_cnt_cold (hw : warmRises v a = false) (hc : coldRises v a = true) :
    (a.write_glob_cnt v).po_status = 1 ∧ (a.write_glob_cnt v).po_running = false := by
  unfold warmRises at hw
  unfold coldRises at hc
  unfold AC97Pci.write_glob_cnt
  simp only [hc, hw, if_true, Bool.false_eq_true, if_false]
  exact ⟨rfl, rfl⟩

lemma write_glob_cnt_plain (hw : warmRises v a = false) (hc : coldRises v a = false) :
    shown (a.write_glob_cnt v) = shown a := by
  unfold warmRises at hw
  unfold coldRises at hc
  unfold AC97Pci.write_glob_cnt
  simp only [hc, hw, Bool.false_eq_true, if_false]
  rfl

end GlobCnt

/-! ### Runs -/

/-- What every operation but the bad ones keeps holds at the end of a run without bad ones. -/
lemma runs_keep {B : Op → AC97Pci → Prop}
    (hstep : ∀ h o s, P s.ac97 → ¬ B o s.ac97 → P (final (step banks (h, o) s)).ac97)
    {os : List (HostBytes × Op)} {t : Sound} (hs : P s.ac97)
    (hl : Along (step banks) (fun o _ s => ¬ B o.2 s.ac97) os s)
    (hr : runAll (step banks) os s = .ok () t) : P t.ac97 := by
  refine Along.at_end (fun s => P s.ac97) (fun o _ s u s' hs hgood ho => ?_) hs hl hr
  have hs' := hstep o.1 o.2 s hs hgood
  rw [show step banks (o.1, o.2) s = .ok u s' from ho] at hs'
  exact hs'

/-! ### Halted -/

/-- `DCH` is set exactly while the engine does not run. -/
def HaltShown (a : AC97Pci) : Prop := a.po_status.getLsbD 0 = !a.po_running

instance (a : AC97Pci) : Decidable (HaltShown a) := inferInstanceAs (Decidable (_ = _))

section Halted

variable {a a' : AC97Pci}

lemma HaltShown.congr (ha : HaltShown a) (hs : a'.po_status = a.po_status)
    (hr : a'.po_running = a.po_running) : HaltShown a' := by
  unfold HaltShown
  rw [hs, hr]
  exact ha

lemma HaltShown.of_shown (ha : HaltShown a) (hs : shown a' = shown a) : HaltShown a' := by
  simp only [shown, Prod.mk.injEq] at hs
  exact ha.congr hs.1 hs.2.2.1

lemma haltShown_cold (a : AC97Pci) : HaltShown a.cold_reset :=
  show (1 : u16).getLsbD 0 = true from rfl

lemma HaltShown.status (ha : HaltShown a) {st : u16} (hst : st.getLsbD 0 = a.po_status.getLsbD 0) :
    HaltShown { a with po_status := st } := hst.trans ha

lemma HaltShown.halt (a : AC97Pci) : HaltShown a.halt := by
  show ((a.po_status &&& ~~~2#16) ||| 1).getLsbD 0 = true
  simp

lemma HaltShown.po_start (ptr : u32) (len ctl : u16) (a : AC97Pci) :
    HaltShown (a.po_start ptr len ctl) := by
  unfold AC97Pci.po_start
  split_ifs
  · show (a.po_status ||| 1).getLsbD 0 = true
    simp
  · show (a.po_status &&& ~~~1#16).getLsbD 0 = false
    simp

lemma HaltShown.write_po_cr (ha : HaltShown a) (mapped : u32 → Bool) (v : u8) :
    HaltShown (a.write_po_cr mapped v).1 := by
  unfold AC97Pci.write_po_cr
  dsimp only
  split_ifs
  · exact (show (1 : u16).getLsbD 0 = true from rfl)
  · show ((a.po_status &&& ~~~0x0c#16) ||| 1).getLsbD 0 = true
    simp
  · exact ha
  · show (a.po_status ||| 1).getLsbD 0 = true
    simp
  · exact ha

lemma HaltShown.write_po_lvi (ha : HaltShown a) (v : u8) : HaltShown (a.write_po_lvi v) := by
  unfold AC97Pci.write_po_lvi
  dsimp only
  split_ifs
  · show ((a.po_status &&& ~~~1#16) ||| 2).getLsbD 0 = false
    simp
  · exact ha

/-- A warm reset that finds the engine stopped, or comes with a cold one. -/
def StopsWarm : Op → AC97Pci → Prop
  | .write .b4 offset v, a =>
    offset = GLOB_CNT ∧ warmRises v a = true ∧ (a.po_running = false ∨ coldRises v a = true)
  | _, _ => False

lemma stopsWarm_glob_cnt (v : u32) : StopsWarm (.write .b4 GLOB_CNT v) a ↔
    warmRises v a = true ∧ (a.po_running = false ∨ coldRises v a = true) := and_iff_right rfl

lemma haltShown_glob_cnt (ha : HaltShown a) (v : u32) :
    HaltShown (a.write_glob_cnt v) ↔ ¬ StopsWarm (.write .b4 GLOB_CNT v) a := by
  cases hw : warmRises v a with
  | true =>
    obtain ⟨hst, hr⟩ := write_glob_cnt_warm hw
    unfold HaltShown
    rw [hst, hr, stopsWarm_glob_cnt, and_iff_right hw]
    cases coldRises v a <;> cases a.po_running <;> simp
  | false =>
    refine iff_of_true ?_ fun h => ?_
    swap
    · have hrise := ((stopsWarm_glob_cnt v).mp h).1
      rw [hw] at hrise
      cases hrise
    cases hc : coldRises v a with
    | true =>
      obtain ⟨hst, hr⟩ := write_glob_cnt_cold hw hc
      unfold HaltShown
      rw [hst, hr]
      rfl
    | false => exact ha.of_shown (write_glob_cnt_plain hw hc)

lemma haltShown_finish : KeepsDev HaltShown (finishDescriptor banks h) := by
  have hread : ∀ a a', Devices.SoundRead a a' → HaltShown a → HaltShown a' := by
    rintro a _ ⟨g, -, rfl⟩ ha
    exact ha
  have hnext : KeepsDev HaltShown (loadNext banks h) :=
    keeps_getAc97.bind fun a => (keeps_readDescriptor hread _).bind fun bd =>
      .ite (fun _ => keeps_modAc97 fun a _ => HaltShown.halt a) fun _ => keeps_modAc97 fun _ ha => ha
  have hraise : KeepsDev HaltShown raise_intx := by
    intro s hs
    obtain ⟨g, hg⟩ := raised_ac97 s
    show HaltShown s.raised.ac97
    rw [hg]
    exact hs
  have hcomplete : KeepsDev HaltShown (modAc97 AC97Pci.complete) := by
    refine keeps_modAc97 fun a ha => ?_
    refine HaltShown.congr (ha.status ?_) rfl rfl
    unfold AC97Pci.complete
    dsimp only
    split_ifs
    · simp
    · rfl
  refine hcomplete.bind fun _ => keeps_getAc97.bind fun a => .ite (fun _ => ?_) fun _ => ?_
  · refine Keeps.bind (keeps_modAc97 fun a _ => ?_) fun _ => hraise
    show (((a.po_status ||| 4) &&& ~~~2#16) ||| 1).getLsbD 0 = true
    simp
  · exact hraise.bind fun _ => hnext

/-- **One operation** keeps `DCH` right unless it is such a warm reset, and then it does not. -/
theorem haltShown_step (hs : HaltShown s.ac97) (o : Op) :
    HaltShown (final (step banks (h, o) s)).ac97 ↔ ¬ StopsWarm o s.ac97 := by
  have hread : ∀ a a', Devices.SoundRead a a' → HaltShown a → HaltShown a' := by
    rintro a _ ⟨g, -, rfl⟩ ha
    exact ha
  cases o with
  | tick pace =>
    refine iff_of_true (keeps_tick hread (fun _ _ ha => ha) (fun a _ => HaltShown.halt a)
      (fun _ _ ha => ha) haltShown_finish pace s hs) fun h => h
  | write size offset v =>
    show HaltShown (final (write_nabm banks h size offset v s)).ac97 ↔ _
    obtain ⟨e, he⟩ | ⟨a', bd, hw, he⟩ := write_cases size offset v s
    · rw [he]
      refine iff_of_true hs fun hstop => ?_
      cases size with
      | b1 => exact hstop
      | b2 => exact hstop
      | b4 =>
        obtain ⟨rfl, -⟩ := hstop
        cases he
    · rw [he]
      cases hw with
      | sr8 v =>
        refine iff_of_true (hs.status ?_) fun h => h
        simp
      | sr16 v =>
        refine iff_of_true (hs.status ?_) fun h => h
        simp
      | cr v =>
        refine iff_of_true ?_ fun h => h
        have hcr := hs.write_po_cr (mapped banks) (v.setWidth 8)
        cases hbd : (s.ac97.write_po_cr (mapped banks) (v.setWidth 8)).2 with
        | none => exact hcr
        | some bd_addr =>
          exact ((keeps_readDescriptor hread bd_addr).bind fun bd =>
            keeps_modAc97 fun a _ => HaltShown.po_start bd.ptr bd.len bd.ctl a) _ hcr
      | lvi v => exact iff_of_true (hs.write_po_lvi _) fun h => h
      | glob_cnt v => exact haltShown_glob_cnt hs v
      | glob_sta v =>
        refine iff_of_true (hs.congr rfl rfl) ?_
        rintro ⟨h, -⟩
        exact absurd h (by decide)
      | other hsh hcr hcnt hsta =>
        refine iff_of_true (hs.of_shown hsh) fun hstop => ?_
        cases size with
        | b1 => exact hstop
        | b2 => exact hstop
        | b4 => exact hcnt ⟨rfl, hstop.1⟩

variable (banks) in
/-- **The halted flag** is right after a cold reset. From a state where it is right, an operation
keeps it right unless it is a warm reset that finds the engine stopped or comes with a cold one, and
then it does not; so it is right at the end of every run without such a reset. -/
theorem halted_flag_iff :
    (∀ a : AC97Pci, HaltShown a.cold_reset) ∧
    (∀ h o s, HaltShown s.ac97 →
      (HaltShown (final (step banks (h, o) s)).ac97 ↔ ¬ StopsWarm o s.ac97)) ∧
    ∀ os s t, HaltShown s.ac97 →
      Along (step banks) (fun o _ s => ¬ StopsWarm o.2 s.ac97) os s →
      runAll (step banks) os s = .ok () t → HaltShown t.ac97 := by
  refine ⟨haltShown_cold, fun h o s hs => haltShown_step hs o, fun os s t hs hl hr => ?_⟩
  exact runs_keep (fun h o s hs hwarm => (haltShown_step hs o).mpr hwarm) hs hl hr

/-- A warm reset while the engine runs. -/
theorem halted_flag_running :
    playing.ac97.po_running = true ∧ HaltShown
      (final (runAll (step oneBank) [(oneBuffer, .write .b4 GLOB_CNT 4)] playing)).ac97 := by
  refine ⟨by decide +kernel, ?_⟩
  refine (halted_flag_iff oneBank).2.2 [(oneBuffer, .write .b4 GLOB_CNT 4)] playing _
    (by decide +kernel) ⟨?_, fun _ _ _ => trivial⟩ (eq_ok_final (by decide +kernel))
  rintro ⟨-, -, hstop⟩
  exact absurd hstop (by decide +kernel)

/-- A warm reset of the stopped engine: `DCH` is clear and nothing runs. So it is at first. -/
theorem warm_reset_clears_halted :
    (let s := (soundAt 0).setAc97 (soundAt 0).ac97.cold_reset
    let t := final (write_nabm oneBank oneBuffer .b4 GLOB_CNT 4 s)
    HaltShown s.ac97 ∧ t.ac97.po_status.getLsbD 0 = false ∧ t.ac97.po_running = false) ∧
    AC97Pci.init_pci_config.po_status.getLsbD 0 = false ∧
    AC97Pci.init_pci_config.po_running = false := by
  decide +kernel

end Halted

/-! ### The interrupt -/

/-- While the interrupt line is up, `POINT` is set in the global status. -/
def PointShown (a : AC97Pci) : Prop := a.inta_asserted = true → a.glob_sta.getLsbD 6 = true

instance (a : AC97Pci) : Decidable (PointShown a) := inferInstanceAs (Decidable (_ → _))

section Interrupt

variable {a a' : AC97Pci}

lemma PointShown.mono (ha : PointShown a) (hline : a'.inta_asserted = true → a.inta_asserted = true)
    (hg : a'.glob_sta.getLsbD 6 = a.glob_sta.getLsbD 6) : PointShown a' := by
  intro h
  rw [hg]
  exact ha (hline h)

lemma inta_congr (hs : a'.po_status &&& 0x0c = a.po_status &&& 0x0c)
    (hc : a'.po_control = a.po_control) : a'.inta_asserted = a.inta_asserted := by
  unfold AC97Pci.inta_asserted
  rw [hs, hc]

lemma inta_idle (hs : a.po_status &&& 0x0c = 0) : a.inta_asserted = false := by
  unfold AC97Pci.inta_asserted
  rw [hs]
  rfl

lemma pointShown_idle (hs : a.po_status &&& 0x0c = 0) : PointShown a := by
  intro h
  rw [inta_idle hs] at h
  cases h

lemma inta_clear {k : u16} (h : ({ a with po_status := a.po_status &&& ~~~k }).inta_asserted = true) :
    a.inta_asserted = true := by
  by_contra hn
  simp only [AC97Pci.inta_asserted, Bool.and_eq_true, decide_eq_true_eq, not_and_or, not_not] at h hn
  rcases hn with h0 | h0
  · refine h.1 ?_
    rw [BitVec.and_assoc, BitVec.and_comm (~~~k), ← BitVec.and_assoc, h0]
    exact BitVec.zero_and
  · exact h.2 h0

lemma PointShown.of_shown (ha : PointShown a) (hs : shown a' = shown a) : PointShown a' := by
  simp only [shown, Prod.mk.injEq] at hs
  obtain ⟨hst, hc, -, -, -, -, -, hg⟩ := hs
  refine ha.mono ?_ (by rw [hg])
  rw [inta_congr (by rw [hst]) hc]
  exact fun h => h

lemma pointShown_read (a a' : AC97Pci) (hr : Devices.SoundRead a a') (ha : PointShown a) :
    PointShown a' := by
  obtain ⟨g, hg, rfl⟩ := hr
  exact ha.mono (fun h => h) (hg 6 (by decide) (by decide))

lemma pointShown_raised (s : Sound) : PointShown s.raised.ac97 := by
  unfold raised
  split_ifs with hline
  · intro _
    show (s.ac97.glob_sta ||| AC97Pci.GS_POINT).getLsbD 6 = true
    rw [BitVec.getLsbD_or]
    exact Bool.or_eq_true_iff.mpr (Or.inr rfl)
  · exact fun h => absurd h hline

lemma inta_field {k x : u16} (hk : k &&& 0x0c = 0x0c) (hx : x &&& 0x0c = 0) :
    ({ a with po_status := (a.po_status &&& k) ||| x }).inta_asserted = a.inta_asserted :=
  inta_congr (field_other hk hx) rfl

lemma inta_set {x : u16} (hx : x &&& 0x0c = 0) :
    ({ a with po_status := a.po_status ||| x }).inta_asserted = a.inta_asserted := by
  refine inta_congr ?_ rfl
  show (a.po_status ||| x) &&& 0x0c = _
  rw [BitVec.and_or_distrib_right, hx]
  exact BitVec.or_zero

lemma inta_mask {k : u16} (hk : k &&& 0x0c = 0x0c) :
    ({ a with po_status := a.po_status &&& k }).inta_asserted = a.inta_asserted := by
  refine inta_congr ?_ rfl
  show (a.po_status &&& k) &&& 0x0c = _
  rw [BitVec.and_assoc, hk]

/-- The line and `POINT`. -/
def line (a : AC97Pci) : Bool × Bool := (a.inta_asserted, a.glob_sta.getLsbD 6)

lemma line_idle {x : Bool} (hs : a.po_status &&& 0x0c = 0) (hx : x = false) :
    line a = (x, a.glob_sta.getLsbD 6) := Prod.ext ((inta_idle hs).trans hx.symm) rfl

lemma line_read (a a' : AC97Pci) (hr : Devices.SoundRead a a') : line a' = line a := by
  obtain ⟨g, hg, rfl⟩ := hr
  unfold line
  rw [hg 6 (by decide) (by decide)]
  rfl

lemma line_halt (a : AC97Pci) : line a.halt = line a :=
  Prod.ext (inta_field (by decide) (by decide)) rfl

lemma line_po_start (ptr : u32) (len ctl : u16) (a : AC97Pci) :
    line (a.po_start ptr len ctl) = line a := by
  unfold AC97Pci.po_start
  split_ifs
  · exact Prod.ext (inta_set (by decide)) rfl
  · exact Prod.ext (inta_mask (by decide)) rfl

lemma line_write_po_lvi (v : u8) (a : AC97Pci) : line (a.write_po_lvi v) = line a := by
  unfold AC97Pci.write_po_lvi
  dsimp only
  split_ifs
  · exact Prod.ext (inta_field (by decide) (by decide)) rfl
  · rfl

lemma PointShown.of_line (ha : PointShown a) (hl : line a' = line a) : PointShown a' := by
  obtain ⟨hi, hg⟩ := Prod.mk.inj hl
  refine ha.mono ?_ hg
  rw [hi]
  exact fun h => h

lemma control_enables (v : u8) : decide (((v &&& 0x1f) &&& ~~~2#8) &&& 0x10 ≠ 0) = v.getLsbD 4 := by
  revert v
  decide

/-- What a write to the control register makes of the line: a reset and a stop clear the completion
bits, and a start request leaves them. -/
lemma line_write_po_cr (mapped : u32 → Bool) (v : u8) (a : AC97Pci) :
    line (a.write_po_cr mapped v).1 =
      (v.getLsbD 0 && !v.getLsbD 1 && v.getLsbD 4 && decide (a.po_status &&& 0x0c ≠ 0),
        a.glob_sta.getLsbD 6) := by
  have hrun : (v &&& 0x1f).getLsbD 0 = v.getLsbD 0 := by simp
  have hreset : (v &&& 0x1f).getLsbD 1 = v.getLsbD 1 := by simp
  -- the line of a start request, with the status that it leaves
  have hstart : ∀ st : u16, st &&& 0x0c = a.po_status &&& 0x0c →
      (decide (st &&& 0x0c ≠ 0) && decide (((v &&& 0x1f) &&& ~~~2#8) &&& 0x10 ≠ 0)) =
        (v.getLsbD 4 && decide (a.po_status &&& 0x0c ≠ 0)) := by
    intro st hst
    rw [hst, control_enables, Bool.and_comm]
  unfold AC97Pci.write_po_cr
  dsimp only
  rw [hrun, hreset]
  cases h1 : v.getLsbD 1 with
  | true =>
    rw [if_pos rfl]
    exact line_idle (show (1 : u16) &&& 0x0c = 0 by decide) (by simp)
  | false =>
    rw [if_neg Bool.false_ne_true]
    cases h0 : v.getLsbD 0 with
    | false =>
      rw [if_pos (by decide)]
      have hst : ((a.po_status &&& ~~~0x0c#16) ||| 1) &&& 0x0c = 0 := field_self (by decide)
      exact line_idle hst (by simp)
    | true =>
      rw [if_neg (by decide)]
      simp only [Bool.not_false, Bool.and_true, Bool.true_and]
      split_ifs
      · exact Prod.ext (hstart _ rfl) rfl
      · refine Prod.ext (hstart _ ?_) rfl
        show (a.po_status ||| 1) &&& 0x0c = _
        rw [BitVec.and_or_distrib_right]
        exact BitVec.or_zero
      · exact Prod.ext (hstart _ rfl) rfl

/-- A start request that enables the interrupt of a completion that is not in the global status, or
a write to the global status that clears `POINT` while the line is up. -/
def MissesPoint : Op → AC97Pci → Prop
  | .write .b1 offset v, a => offset = Devices.PO_CR ∧ v.getLsbD 0 = true ∧ v.getLsbD 1 = false ∧
      v.getLsbD 4 = true ∧ a.po_status &&& 0x0c ≠ 0 ∧ a.glob_sta.getLsbD 6 = false
  | .write .b4 offset v, a => offset = GLOB_STA ∧ v.getLsbD 6 = true ∧ a.inta_asserted = true
  | _, _ => False

lemma pointShown_iff (a : AC97Pci) : PointShown a ↔ ¬ ((line a).1 = true ∧ (line a).2 = false) := by
  unfold PointShown line
  cases a.inta_asserted <;> cases a.glob_sta.getLsbD 6 <;> simp

lemma pointShown_finish : KeepsDev PointShown (finishDescriptor banks h) := by
  have hnext : KeepsDev PointShown (loadNext banks h) :=
    keeps_getAc97.bind fun a => (keeps_readDescriptor pointShown_read _).bind fun bd =>
      .ite (fun _ => keeps_modAc97 fun a ha => ha.of_line (line_halt a)) fun _ =>
        keeps_modAc97 fun _ ha => ha
  intro s _
  cases hl : s.ac97.complete.pastLast with
  | true =>
    rw [finish_last hl]
    exact pointShown_raised _
  | false =>
    rw [finish_next hl]
    exact hnext _ (pointShown_raised _)

lemma pointShown_glob_sta (ha : PointShown a) (v : u32) :
    PointShown { a with glob_sta := a.glob_sta &&& ~~~(v &&& 0xff) } ↔
      ¬ MissesPoint (.write .b4 GLOB_STA v) a := by
  have hbit : (a.glob_sta &&& ~~~(v &&& 0xff)).getLsbD 6 = (a.glob_sta.getLsbD 6 && !v.getLsbD 6) := by
    simp
  have hmiss : MissesPoint (.write .b4 GLOB_STA v) a ↔ v.getLsbD 6 = true ∧ a.inta_asserted = true :=
    and_iff_right rfl
  rw [hmiss]
  constructor
  · rintro hkept ⟨hv, hline⟩
    have hset := hbit.symm.trans (hkept hline)
    rw [hv] at hset
    simp at hset
  · intro hgood hline
    cases hv : v.getLsbD 6 with
    | true => exact absurd ⟨hv, hline⟩ hgood
    | false =>
      refine hbit.trans ?_
      rw [hv, ha hline]
      rfl

lemma line_cr (v : u32) (s : Sound) :
    line (final (write_nabm banks h .b1 Devices.PO_CR v s)).ac97 =
      (v.getLsbD 0 && !v.getLsbD 1 && v.getLsbD 4 && decide (s.ac97.po_status &&& 0x0c ≠ 0),
        s.ac97.glob_sta.getLsbD 6) := by
  have hcr := line_write_po_cr (mapped banks) (v.setWidth 8) s.ac97
  simp only [BitVec.getLsbD_setWidth, show (0 : Nat) < 8 by decide, show 1 < 8 by decide,
    show 4 < 8 by decide, decide_true, Bool.true_and] at hcr
  unfold write_nabm write_nabm8
  dsimp only
  rw [Devices.write_nabm8_po_cr]
  generalize hw : s.ac97.write_po_cr (mapped banks) (v.setWidth 8) = r at hcr
  obtain ⟨a', _ | bd_addr⟩ := r
  · exact hcr
  · have hkeep : KeepsDev (fun a => line a = line a') (do
        let bd ← readDescriptor banks h bd_addr
        modAc97 (AC97Pci.po_start bd.ptr bd.len bd.ctl)) :=
      (keeps_readDescriptor (fun a a' hr ha => (line_read a a' hr).trans ha) bd_addr).bind fun bd =>
        keeps_modAc97 fun a ha => (line_po_start bd.ptr bd.len bd.ctl a).trans ha
    exact (hkeep (s.setAc97 a') rfl).trans hcr

/-- **One operation** keeps the interrupt in the global status unless it is one of these, and then it
does not. -/
theorem pointShown_step (hs : PointShown s.ac97) (o : Op) :
    PointShown (final (step banks (h, o) s)).ac97 ↔ ¬ MissesPoint o s.ac97 := by
  cases o with
  | tick pace =>
    exact iff_of_true (keeps_tick pointShown_read (fun _ _ ha => ha)
      (fun a ha => ha.of_line (line_halt a)) (fun _ _ ha => ha) pointShown_finish pace s hs) fun h => h
  | write size offset v =>
    by_cases hcr : size = .b1 ∧ offset = Devices.PO_CR
    · obtain ⟨rfl, rfl⟩ := hcr
      rw [pointShown_iff]
      refine not_congr ?_
      rw [show step banks (h, .write .b1 Devices.PO_CR v) s =
        write_nabm banks h .b1 Devices.PO_CR v s from rfl, line_cr]
      simp only [MissesPoint, Bool.and_eq_true, Bool.not_eq_true', decide_eq_true_eq, true_and,
        and_assoc]
    · show PointShown (final (write_nabm banks h size offset v s)).ac97 ↔ _
      obtain ⟨e, he⟩ | ⟨a', bd, hw, he⟩ := write_cases size offset v s
      · rw [he]
        refine iff_of_true hs fun hmiss => ?_
        cases size with
        | b1 => exact hcr ⟨rfl, hmiss.1⟩
        | b2 => exact hmiss
        | b4 =>
          obtain ⟨rfl, -⟩ := hmiss
          cases he
      · rw [he]
        cases hw with
        | sr8 v => exact iff_of_true (hs.mono inta_clear rfl) fun hmiss => hcr ⟨rfl, hmiss.1⟩
        | sr16 v => exact iff_of_true (hs.mono inta_clear rfl) fun hmiss => hmiss
        | cr v => exact absurd ⟨rfl, rfl⟩ hcr
        | lvi v =>
          exact iff_of_true (hs.of_line (line_write_po_lvi _ _)) fun hmiss => hcr ⟨rfl, hmiss.1⟩
        | glob_cnt v =>
          refine iff_of_true ?_ fun hmiss => absurd hmiss.1 (by decide)
          cases hwarm : warmRises v s.ac97 with
          | true =>
            refine pointShown_idle ?_
            show (s.ac97.write_glob_cnt v).po_status &&& 0x0c = 0
            rw [(write_glob_cnt_warm hwarm).1]
            rfl
          | false =>
            cases hcold : coldRises v s.ac97 with
            | true =>
              refine pointShown_idle ?_
              show (s.ac97.write_glob_cnt v).po_status &&& 0x0c = 0
              rw [(write_glob_cnt_cold hwarm hcold).1]
              rfl
            | false => exact hs.of_shown (write_glob_cnt_plain hwarm hcold)
        | glob_sta v => exact pointShown_glob_sta hs v
        | other hsh hcr' hcnt hsta =>
          refine iff_of_true (hs.of_shown hsh) fun hmiss => ?_
          cases size with
          | b1 => exact hcr ⟨rfl, hmiss.1⟩
          | b2 => exact hmiss
          | b4 => exact hsta ⟨rfl, hmiss.1⟩

variable (banks) in
/-- **Interrupt coherence**: in a run from the construction or from a cold reset that does not enable
the interrupt of a completion that is not in the global status, and does not clear `POINT` while the
line is up, the line is never up without `POINT`. -/
theorem interrupt_coherence (os : List (HostBytes × Op)) (s t : Sound)
    (hs : s.ac97 = AC97Pci.init_pci_config ∨ ∃ a : AC97Pci, s.ac97 = a.cold_reset)
    (hl : Along (step banks) (fun o _ s => ¬ MissesPoint o.2 s.ac97) os s)
    (hr : runAll (step banks) os s = .ok () t) :
    t.ac97.inta_asserted = true → t.ac97.glob_sta.getLsbD 6 = true := by
  have hinit : PointShown s.ac97 := by
    rcases hs with hs | ⟨a, hs⟩
    · rw [hs]
      exact pointShown_idle (show (0 : u16) &&& 0x0c = 0 from rfl)
    · rw [hs]
      exact pointShown_idle (show (1 : u16) &&& 0x0c = 0 from rfl)
  exact runs_keep (fun h o s hs hgood => (pointShown_step hs o).mpr hgood) hinit hl hr

/-- Operations over a ring with one descriptor, the last valid one. -/
def ringOps (os : List Op) : List (HostBytes × Op) :=
  (oneBuffer, .write .b4 0x10 0x1000) :: os.map fun o => (oneBuffer, o)

def afterOps (os : List Op) : AC97Pci := (final (runAll (step oneBank) (ringOps os) (soundAt 0))).ac97

/-- A descriptor is done with its interrupt enabled: the line is up and `POINT` is set. -/
theorem interrupt_coherence_done :
    (afterOps [.write .b1 Devices.PO_CR 0x11, .tick (.fixed 48)]).inta_asserted = true ∧
    (afterOps [.write .b1 Devices.PO_CR 0x11, .tick (.fixed 48)]).glob_sta.getLsbD 6 = true := by
  have hline : (afterOps [.write .b1 Devices.PO_CR 0x11, .tick (.fixed 48)]).inta_asserted = true := by
    decide +kernel
  refine ⟨hline, interrupt_coherence oneBank
    (ringOps [.write .b1 Devices.PO_CR 0x11, .tick (.fixed 48)]) (soundAt 0) _ (Or.inl rfl) ?_
    (eq_ok_final (by decide +kernel)) hline⟩
  refine ⟨fun h => absurd h.1 (by decide), fun _ s₁ h₁ =>
    ⟨?_, fun _ _ _ => ⟨fun h => h, fun _ _ _ => trivial⟩⟩⟩
  cases h₁
  rintro ⟨-, -, -, -, hst, -⟩
  exact absurd hst (by decide +kernel)

/-- The line goes up without `POINT` when the interrupt is enabled after the descriptor is done, and
stays up when `POINT` is cleared first. -/
theorem line_without_point :
    line (afterOps [.write .b1 Devices.PO_CR 1, .tick (.fixed 48), .write .b1 Devices.PO_CR 0x11]) =
      (true, false) ∧
    line (afterOps [.write .b1 Devices.PO_CR 0x11, .tick (.fixed 48), .write .b4 GLOB_STA 0x40]) =
      (true, false) := by
  decide +kernel

end Interrupt

end Sound

end SparcEmu
