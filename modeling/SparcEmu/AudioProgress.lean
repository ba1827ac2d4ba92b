import SparcEmu.AudioStatus

/-!
What is left of the descriptor that the sound device plays.

A descriptor counts samples and `PICB` frames of two samples, so a descriptor of one sample has no
frame: loaded, it leaves the engine with nothing to play and nothing to finish.
-/

namespace SparcEmu

open Lib.Effect Lib.Run

namespace Sound

variable {banks : List IMemoryBank} {h : HostBytes} {s t : Sound} {a : AC97Pci} {L : u32 → Prop}

/-- The invariant of the engine between operations; the lengths of descriptors are in `L`. -/
structure Stands (L : u32 → Prop) (a : AC97Pci) : Prop where
  /-- A halt behind the last valid descriptor leaves none loaded. -/
  parked : a.po_running = false → a.po_lvbci_halted = true → a.po_cur_len = 0
  length : a.po_cur_len = 0 ∨ L a.po_cur_len
  left : a.po_running = true → a.po_cur_len ≠ 0 → (a.po_picb = 0 ↔ a.po_cur_len = 1)

lemma half_eq_zero {len : u16} (hne : len ≠ 0) : len / 2 = 0 ↔ len.setWidth 32 = (1 : u32) := by
  rw [← BitVec.toNat_inj, ← BitVec.toNat_inj, BitVec.toNat_udiv, BitVec.toNat_setWidth]
  have hpos : len.toNat ≠ 0 := fun h0 => hne (BitVec.eq_of_toNat_eq h0)
  have hlt := len.isLt
  show len.toNat / 2 = 0 ↔ len.toNat % 2 ^ 32 = 1
  omega

lemma Stands.load {bd : Descriptor} (he : bd.empty = false) (hL : L (bd.len.setWidth 32))
    (hr : a.po_running = true) : Stands L (a.load bd) where
  parked hstop := by
    rw [show a.po_running = false from hstop] at hr
    cases hr
  length := Or.inr hL
  left _ _ := by
    simp only [Descriptor.empty, Bool.or_eq_false_iff, decide_eq_false_iff_not] at he
    exact half_eq_zero he.2

lemma stands_idle (hr : a.po_running = false) (hl : a.po_cur_len = 0) : Stands L a where
  parked _ _ := hl
  length := Or.inl hl
  left hrun := by
    rw [hr] at hrun
    cases hrun

/-- What the invariant looks at. -/
def held (a : AC97Pci) : Bool × Bool × u32 × u16 :=
  (a.po_running, a.po_lvbci_halted, a.po_cur_len, a.po_picb)

lemma Stands.congr {a' : AC97Pci} (ha : Stands L a) (hh : held a' = held a) : Stands L a' := by
  simp only [held, Prod.mk.injEq] at hh
  obtain ⟨hr, hh, hl, hp⟩ := hh
  refine ⟨?_, ?_, ?_⟩ <;> rw [hl]
  · rw [hr, hh]
    exact ha.parked
  · exact ha.length
  · rw [hr, hp]
    exact ha.left

lemma held_shown {a' : AC97Pci} (hs : shown a' = shown a) : held a' = held a := by
  simp only [shown, Prod.mk.injEq] at hs
  obtain ⟨-, -, hr, hh, -, hl, hp, -⟩ := hs
  simp only [held, hr, hh, hl, hp]

/-! ### Register writes -/

lemma Stands.po_start {bd : Descriptor} (ha : Stands L a) (hstop : a.po_running = false)
    (hL : bd.empty = false → L (bd.len.setWidth 32)) : Stands L (a.po_start bd.ptr bd.len bd.ctl) := by
  cases he : bd.empty with
  | true =>
    have hempty : bd.ptr = 0 ∨ bd.len = 0 := by simpa [Descriptor.empty] using he
    unfold AC97Pci.po_start
    rw [if_pos hempty]
    refine ⟨fun _ => ha.parked hstop, ha.length, fun hrun => ?_⟩
    cases hrun
  | false =>
    rw [AC97Pci.po_start_eq he]
    obtain ⟨-, hlen, hleft⟩ := Stands.load (a := { a with po_running := true }) he (hL he) rfl
    refine ⟨fun hrun => ?_, hlen, hleft⟩
    cases hrun

lemma Stands.write_po_cr (ha : Stands L a) (mapped : u32 → Bool) (v : u8) :
    Stands L (a.write_po_cr mapped v).1 ∧
      ∀ addr, (a.write_po_cr mapped v).2 = some addr →
        (a.write_po_cr mapped v).1.po_running = false ∧ addr = Devices.nextDescriptor a := by
  unfold AC97Pci.write_po_cr
  dsimp only
  split_ifs with hreset hstop hrun hbase
  · exact ⟨stands_idle rfl rfl, nofun⟩
  · exact ⟨⟨nofun, ha.length, nofun⟩, nofun⟩
  · exact ⟨⟨ha.parked, ha.length, ha.left⟩, nofun⟩
  · exact ⟨⟨fun _ => ha.parked (by simpa using hrun), ha.length, nofun⟩,
      nofun⟩
  · refine ⟨⟨ha.parked, ha.length, ha.left⟩, ?_⟩
    rintro _ ⟨⟩
    exact ⟨by simpa using hrun, rfl⟩

lemma Stands.write_po_lvi (ha : Stands L a) (v : u8) : Stands L (a.write_po_lvi v) := by
  unfold AC97Pci.write_po_lvi
  dsimp only
  split_ifs with hresume
  · simp only [Bool.and_eq_true, Bool.not_eq_true'] at hresume
    have hnone := ha.parked hresume.1.1 hresume.1.2
    exact ⟨nofun, ha.length, fun _ hl => absurd hnone hl⟩
  · exact ⟨ha.parked, ha.length, ha.left⟩

@[simp] lemma held_setCodec (offset : u32) (v : u16) (a : AC97Pci) :
    held (a.setCodec offset v) = held a := rfl

@[simp] lemma held_codecReady (a : AC97Pci) : held a.codecReady = held a := rfl

lemma held_glob_cnt (g : u32) (a : AC97Pci) : held { a with glob_cnt := g } = held a := rfl

lemma held_warm_reset (a : AC97Pci) : held a.warm_reset = held a := by
  have hstatus : ∀ (b : AC97Pci) (x y : u16) (g : u32),
      held { b with po_status := x, mc_status := y, glob_sta := g } = held b := fun _ _ _ _ => rfl
  refine (hstatus a.init_codec_warm _ _ _).trans ?_
  simp [AC97Pci.init_codec_warm]

/-- A cold reset forgets the descriptor; a warm one does not touch it. -/
lemma held_write_glob_cnt (v : u32) (a : AC97Pci) :
    held (a.write_glob_cnt v) = if coldRises v a then (false, false, 0, 0) else held a := by
  have hwarm : ∀ (w : Bool) (b : AC97Pci),
      held (if w then { b.warm_reset with glob_cnt := b.warm_reset.glob_cnt &&& ~~~4#32 } else b)
        = held b := by
    intro w b
    cases w with
    | false => rfl
    | true => exact (held_glob_cnt _ _).trans (held_warm_reset b)
  unfold AC97Pci.write_glob_cnt
  refine (hwarm _ _).trans ?_
  unfold coldRises
  split_ifs
  · exact (held_glob_cnt _ _).trans rfl
  · exact held_glob_cnt _ _

lemma Stands.write_glob_cnt (ha : Stands L a) (v : u32) : Stands L (a.write_glob_cnt v) := by
  have hheld := held_write_glob_cnt v a
  cases hc : coldRises v a with
  | true =>
    rw [hc, if_pos rfl] at hheld
    simp only [held, Prod.mk.injEq] at hheld
    exact stands_idle hheld.1 hheld.2.2.1
  | false =>
    rw [hc, if_neg Bool.false_ne_true] at hheld
    exact ha.congr hheld

/-! ### Operations -/

lemma held_core (hc : t.core = s.core) : held t.ac97 = held s.ac97 := by
  obtain ⟨g, hg⟩ := core_ac97 hc
  rw [hg]
  rfl

lemma held_raised (s : Sound) : held s.raised.ac97 = held s.ac97 := by
  obtain ⟨g, hg⟩ := raised_ac97 s
  rw [hg]
  rfl

variable (banks h L) in
/-- A descriptor at the address has a length in `L`, unless it is empty. -/
def Fits (addr : u32) : Prop :=
  ∀ s bd s', readDescriptor banks h addr s = .ok bd s' → bd.empty = false → L (bd.len.setWidth 32)

lemma Stands.finish (hr : s.ac97.po_running = true)
    (hfit : Fits banks h L (Devices.nextDescriptor s.ac97.complete))
    (ht : finishDescriptor banks h s = .ok () t) : Stands L t.ac97 := by
  cases hl : s.ac97.complete.pastLast with
  | true =>
    rw [finish_last hl] at ht
    cases ht
    have hpark : Stands L s.ac97.complete.haltLast := stands_idle rfl rfl
    exact hpark.congr (held_raised _)
  | false =>
    rw [finish_next hl] at ht
    obtain ⟨g, hg⟩ := raised_ac97 (s.setAc97 s.ac97.complete)
    rw [ac97_setAc97] at hg
    obtain ⟨_, u, hget, ht'⟩ := bind_ok_iff.mp ht
    obtain ⟨bd, v, hd, -⟩ := bind_ok_iff.mp ht'
    cases hget
    have hnext : Devices.nextDescriptor (s.setAc97 s.ac97.complete).raised.ac97
        = Devices.nextDescriptor s.ac97.complete := by
      rw [hg]
      rfl
    cases he : bd.empty with
    | true =>
      rw [loadNext_empty he hd] at ht
      cases ht
      exact stands_idle rfl rfl
    | false =>
      rw [loadNext_load he hd] at ht
      cases ht
      have hheld := held_core ((fixesCore_readDescriptor _).ok hd)
      rw [held_raised] at hheld
      rw [hnext] at hd
      exact Stands.load he (hfit _ _ _ hd he) ((congrArg Prod.fst hheld).trans hr)

lemma Stands.play {todo : u32} (hs : Stands L s.ac97) (hr : s.ac97.po_running = true)
    (hl : s.ac97.po_cur_len ≠ 0) (hle : todo.toNat ≤ s.ac97.po_picb.toNat)
    (hfit : Fits banks h L (Devices.nextDescriptor s.ac97.complete))
    (ht : playFrames banks h todo s = .ok () t) : Stands L t.ac97 := by
  obtain ⟨xs, u, hx⟩ : ∃ xs u, readSamples banks h (2 * todo.toNat) s.sample_ptr s = .ok xs u := by
    obtain ⟨_, _, hget, ht'⟩ := bind_ok_iff.mp ht
    obtain ⟨xs, u, hx, -⟩ := bind_ok_iff.mp ht'
    cases hget
    exact ⟨xs, u, hx⟩
  obtain ⟨g, hg⟩ := core_ac97 ((fixesCore_readSamples _ _).ok hx)
  rw [playFrames_eq hx] at ht
  split_ifs at ht with h0
  · refine Stands.finish ?_ ?_ ht
    · rw [ac97_played, hg]
      exact hr
    · rw [ac97_played, hg]
      exact hfit
  · cases ht
    rw [ac97_played, hg] at *
    -- something is left, so there were frames before
    have hpicb := advance_picb hle
    have hne : (s.ac97.advance todo).po_picb ≠ 0 := h0
    have hfull : s.ac97.po_picb ≠ 0 := by
      intro hz
      refine hne (BitVec.eq_of_toNat_eq ?_)
      rw [hpicb, hz]
      exact Nat.zero_sub _
    refine ⟨hs.parked, hs.length, fun _ _ => ⟨fun hz => absurd hz hne, fun hone => ?_⟩⟩
    exact absurd ((hs.left hr hl).mpr hone) hfull

lemma todo_le {pace : Pace} {picb : u16} {todo : u32} (ht : pace.todo picb = some todo) :
    todo.toNat ≤ picb.toNat := by
  have hmin : ∀ f : u32, (Pace.within picb f).toNat ≤ picb.toNat := by
    intro f
    rw [toNat_within]
    exact Nat.min_le_right ..
  cases pace with
  | fixed f =>
    cases ht
    exact hmin f
  | seed => cases ht
  | credit f =>
    simp only [Pace.todo] at ht
    split_ifs at ht
    cases ht
    exact hmin f

lemma Stands.granted {pace : Pace} (hs : Stands L s.ac97) (hr : s.ac97.po_running = true)
    (hl : s.ac97.po_cur_len ≠ 0) (hfit : Fits banks h L (Devices.nextDescriptor s.ac97.complete))
    (ht : playGranted banks h pace s = .ok () t) : Stands L t.ac97 := by
  unfold playGranted at ht
  rw [bind_ok (getAc97_apply s)] at ht
  cases hp : pace.todo s.ac97.po_picb with
  | none =>
    rw [hp] at ht
    cases ht
    exact hs
  | some todo =>
    rw [hp] at ht
    exact hs.play hr hl (todo_le hp) hfit ht

lemma Stands.tick {pace : Pace} (hs : Stands L s.ac97)
    (hcur : Fits banks h L (Devices.nextDescriptor s.ac97))
    (hnext : Fits banks h L (Devices.nextDescriptor s.ac97.complete))
    (ht : tick banks h pace s = .ok () t) : Stands L t.ac97 := by
  by_cases hoff : s.ac97.po_running = false ∨ s.ac97.bdbar_playback = 0
  · rw [tick_stopped hoff] at ht
    cases ht
    exact hs
  rw [not_or, Bool.not_eq_false] at hoff
  obtain ⟨hr, hb⟩ := hoff
  rw [tick_running hr hb] at ht
  by_cases hl : s.ac97.po_cur_len = 0
  · -- the descriptor is loaded first
    obtain ⟨loaded, u, hload, ht⟩ := bind_ok_iff.mp ht
    cases hd : readDescriptor banks h (Devices.nextDescriptor s.ac97) s with
    | error e v =>
      rw [loadCurrent_error hl hd] at hload
      cases hload
    | ok bd v =>
      obtain ⟨g, hg⟩ := core_ac97 ((fixesCore_readDescriptor _).ok hd)
      rw [loadCurrent_read hl hd] at hload
      cases he : bd.empty with
      | true =>
        rw [he, if_pos rfl] at hload
        cases hload
        cases ht
        rw [ac97_setAc97, hg]
        exact stands_idle rfl hl
      | false =>
        rw [he, if_neg Bool.false_ne_true] at hload
        cases hload
        have hr' : v.ac97.po_running = true := by
          rw [hg]
          exact hr
        refine Stands.granted (s := v.setAc97 (v.ac97.load bd)) ?_ hr' (len_ne_zero he) ?_ ht
        · exact Stands.load he (hcur _ _ _ hd he) hr'
        · rw [ac97_setAc97, hg]
          exact hnext
  · rw [bind_ok (loadCurrent_loaded hl), if_pos rfl] at ht
    exact hs.granted hr hl hnext ht

/-- The addresses that an operation may load a descriptor from. -/
def loads : Op → AC97Pci → List u32
  | .tick _, a => [Devices.nextDescriptor a, Devices.nextDescriptor a.complete]
  | .write .., a => [Devices.nextDescriptor a]

theorem stands_step {o : Op} (hs : Stands L s.ac97) (hfit : ∀ addr ∈ loads o s.ac97, Fits banks h L addr)
    (ht : step banks (h, o) s = .ok () t) : Stands L t.ac97 := by
  cases o with
  | tick pace =>
    exact hs.tick (hfit _ (List.mem_cons_self ..))
      (hfit _ (List.mem_cons_of_mem _ (List.mem_cons_self ..))) ht
  | write size offset v =>
    have ht : write_nabm banks h size offset v s = .ok () t := ht
    obtain ⟨e, he⟩ | ⟨a', bd, hw, he⟩ := write_cases size offset v s
    · rw [he] at ht
      cases ht
    rw [he] at ht
    cases hw with
    | sr8 v =>
      cases ht
      exact ⟨hs.parked, hs.length, hs.left⟩
    | sr16 v =>
      cases ht
      exact ⟨hs.parked, hs.length, hs.left⟩
    | cr v =>
      obtain ⟨hcr, hstart⟩ := hs.write_po_cr (mapped banks) (v.setWidth 8)
      cases hbd : (s.ac97.write_po_cr (mapped banks) (v.setWidth 8)).2 with
      | none =>
        rw [hbd] at ht
        cases ht
        exact hcr
      | some addr =>
        obtain ⟨hstop, rfl⟩ := hstart addr hbd
        rw [hbd] at ht
        obtain ⟨bd, u, hd, hmod⟩ := bind_ok_iff.mp ht
        cases hmod
        have hheld := held_core ((fixesCore_readDescriptor _).ok hd)
        rw [ac97_setAc97] at hheld
        refine Stands.po_start (hcr.congr hheld) ((congrArg Prod.fst hheld).trans hstop) ?_
        exact hfit _ (List.mem_cons_self ..) _ _ _ hd
    | lvi v =>
      cases ht
      exact hs.write_po_lvi _
    | glob_cnt v =>
      cases ht
      exact hs.write_glob_cnt v
    | glob_sta v =>
      cases ht
      exact ⟨hs.parked, hs.length, hs.left⟩
    | other hsh =>
      cases ht
      exact hs.congr (held_shown hsh)

/-! ### Output -/

lemma yields_readSamples (n : Nat) (ptr : u32) :
    Yields (fun xs => xs.length = n) (readSamples banks h n ptr) := by
  induction n generalizing ptr with
  | zero => exact .pure rfl
  | succ n ih =>
    refine .bind fun x s xs s' hx => ?_
    obtain ⟨ys, u, hy, hpure⟩ := bind_ok_iff.mp hx
    cases hpure
    exact congrArg Nat.succ (ih _ _ _ _ hy)

lemma fixes_audio_finish : Fixes host_audio (finishDescriptor banks h) := by
  have hmod : ∀ f, Fixes host_audio (modAc97 f) := fun _ _ => rfl
  have hread : ∀ addr, Fixes host_audio (readDescriptor banks h addr) := fun addr s =>
    core_audio (fixesCore_readDescriptor addr s)
  have hraise : Fixes host_audio raise_intx := host_audio_raised
  have hnext : Fixes host_audio (loadNext banks h) :=
    Fixes.bind (fun _ => rfl) fun a => (hread _).bind fun bd => .ite (fun _ => hmod _) fun _ => hmod _
  exact (hmod _).bind fun _ => Fixes.bind (fun _ => rfl) fun a =>
    .ite (fun _ => (hmod _).bind fun _ => hraise) fun _ => hraise.bind fun _ => hnext

variable (banks) in
/-- The samples of the next `n` frames can be read. -/
def SamplesReadable (n : Nat) (s : Sound) : Prop :=
  ∀ i < 2 * n, Devices.busReadable banks .b2 (s.sample_ptr + 2 * BitVec.ofNat 32 i) = true

variable (banks h) in
/-- A tick by the clock, with credit for some frames, puts samples out. -/
def Pushes (f : u32) (s : Sound) : Prop :=
  s.host_audio.length < (final (tick banks h (.credit f) s)).host_audio.length

/-- **A tick by the clock** puts samples out exactly if there are frames left and their samples can
be read. -/
lemma pushes_iff {f : u32} (hf : f ≠ 0) (hr : s.ac97.po_running = true) (hl : s.ac97.po_cur_len ≠ 0) :
    Pushes banks h f s ↔ s.ac97.po_picb ≠ 0 ∧ s.ac97.bdbar_playback ≠ 0 ∧
      SamplesReadable banks (min f.toNat s.ac97.po_picb.toNat) s := by
  have hwithin := toNat_within s.ac97.po_picb f
  have hfpos : f.toNat ≠ 0 := fun h0 => hf (BitVec.eq_of_toNat_eq h0)
  unfold Pushes
  by_cases hb : s.ac97.bdbar_playback = 0
  · rw [tick_stopped (Or.inr hb)]
    exact iff_of_false (Nat.lt_irrefl _) fun h => h.2.1 hb
  by_cases hp : s.ac97.po_picb = 0
  · have hnone : (Pace.credit f).todo s.ac97.po_picb = none := by
      refine if_pos (BitVec.eq_of_toNat_eq ?_)
      rw [hwithin, hp]
      exact Nat.min_zero _
    rw [tick_running hr hb, bind_ok (loadCurrent_loaded hl), if_pos rfl, playGranted,
      bind_ok (getAc97_apply s), hnone]
    exact iff_of_false (Nat.lt_irrefl _) fun h => h.1 hp
  have hppos : s.ac97.po_picb.toNat ≠ 0 := fun h0 => hp (BitVec.eq_of_toNat_eq h0)
  have htodo : (Pace.credit f).todo s.ac97.po_picb = some (Pace.within s.ac97.po_picb f) := by
    refine if_neg fun h0 => ?_
    rw [h0] at hwithin
    have hzero : (0 : u32).toNat = 0 := rfl
    omega
  rw [tick_loaded hr hb hl htodo, and_iff_right hp, and_iff_right hb]
  unfold SamplesReadable
  rw [← hwithin, ← returns_readSamples (h := h) _ _ s]
  cases hx : readSamples banks h (2 * (Pace.within s.ac97.po_picb f).toNat) s.sample_ptr s with
  | error e u =>
    have hplay : playFrames banks h (Pace.within s.ac97.po_picb f) s = .error e u := by
      unfold playFrames
      rw [bind_ok (getAc97_apply s)]
      exact bind_error hx
    have hsame : u.host_audio = s.host_audio := core_audio ((fixesCore_readSamples _ _).error hx)
    rw [hplay]
    refine iff_of_false ?_ fun h => h
    show ¬ s.host_audio.length < u.host_audio.length
    rw [hsame]
    exact Nat.lt_irrefl _
  | ok xs u =>
    have hlen := yields_readSamples _ _ _ _ _ hx
    have hsame : u.host_audio = s.host_audio := core_audio ((fixesCore_readSamples _ _).ok hx)
    have hend : Fixes host_audio (if (u.ac97.advance (Pace.within s.ac97.po_picb f)).po_picb = 0 then
        finishDescriptor banks h else pure ()) :=
      .ite (fun _ => fixes_audio_finish) fun _ => .pure _
    rw [playFrames_eq hx, hend, host_audio_played, hsame, List.length_append]
    refine iff_of_true ?_ trivial
    omega

/-! ### Runs -/

variable (banks h) in
/-- Guest memory has a descriptor of one sample at the address. -/
def SingleAt (addr : u32) : Prop :=
  ∃ s bd s', readDescriptor banks h addr s = .ok bd s' ∧ bd.empty = false ∧ bd.len = 1

lemma fits_of_not_single {addr : u32} (hn : ¬ SingleAt banks h addr) : Fits banks h (· ≠ 1) addr := by
  intro s bd s' hd he hone
  refine hn ⟨s, bd, s', hd, he, ?_⟩
  have hlow := congrArg (BitVec.setWidth 16) hone
  rwa [BitVec.setWidth_setWidth_of_le _ (by decide), BitVec.setWidth_eq] at hlow

/-- The device as it is constructed, or after a cold reset. -/
def Fresh (a : AC97Pci) : Prop := a = AC97Pci.init_pci_config ∨ ∃ b : AC97Pci, a = b.cold_reset

lemma stands_fresh (ha : Fresh a) : Stands L a := by
  rcases ha with rfl | ⟨b, rfl⟩
  · exact stands_idle rfl rfl
  · exact stands_idle rfl rfl

lemma stands_run {os : List (HostBytes × Op)} (hs : Fresh s.ac97)
    (hl : Along (step banks) (fun o _ s => ∀ addr ∈ loads o.2 s.ac97, Fits banks o.1 L addr) os s)
    (hr : runAll (step banks) os s = .ok () t) : Stands L t.ac97 := by
  refine Along.at_end (fun s => Stands L s.ac97) ?_ (stands_fresh hs) hl hr
  intro o _ s _ s' hs hfit ho
  exact stands_step hs hfit ho

variable (banks) in
/-- **Progress**: in every state of a run where playback is running with a descriptor loaded, frames
are left exactly if the descriptor is not a single sample, and exactly then a tick by the clock puts
samples out, if the base of the ring is set and the samples can be read. So they are left in every
state of a run that loads no single sample. -/
theorem loaded_frames_left_iff (os : List (HostBytes × Op)) (s t : Sound) (hs : Fresh s.ac97)
    (ht : runAll (step banks) os s = .ok () t) (hr : t.ac97.po_running = true)
    (hl : t.ac97.po_cur_len ≠ 0) :
    (0 < t.ac97.po_picb.toNat ↔ t.ac97.po_cur_len ≠ 1) ∧
    (∀ h f, f ≠ 0 → t.ac97.bdbar_playback ≠ 0 →
      SamplesReadable banks (min f.toNat t.ac97.po_picb.toNat) t →
      (Pushes banks h f t ↔ t.ac97.po_cur_len ≠ 1)) ∧
    (Along (step banks) (fun o _ s => ∀ addr ∈ loads o.2 s.ac97, ¬ SingleAt banks o.1 addr) os s →
      0 < t.ac97.po_picb.toNat ∧
      ∀ h f, f ≠ 0 → t.ac97.bdbar_playback ≠ 0 →
        SamplesReadable banks (min f.toNat t.ac97.po_picb.toNat) t → Pushes banks h f t) := by
  have hpush : ∀ h f, f ≠ 0 → t.ac97.bdbar_playback ≠ 0 →
      SamplesReadable banks (min f.toNat t.ac97.po_picb.toNat) t →
      (Pushes banks h f t ↔ t.ac97.po_picb ≠ 0) := fun h f hf hb hread =>
    (pushes_iff hf hr hl).trans (and_iff_left ⟨hb, hread⟩)
  have hpos : 0 < t.ac97.po_picb.toNat ↔ t.ac97.po_picb ≠ 0 := by
    rw [Nat.pos_iff_ne_zero]
    exact not_congr ⟨fun h0 => BitVec.eq_of_toNat_eq h0, fun h0 => congrArg BitVec.toNat h0⟩
  have hleft : t.ac97.po_picb ≠ 0 ↔ t.ac97.po_cur_len ≠ 1 := by
    have hstands : Stands (fun _ => True) t.ac97 :=
      stands_run hs (Along.of_forall fun _ _ _ _ _ _ _ _ _ _ => trivial) ht
    exact not_congr (hstands.left hr hl)
  refine ⟨hpos.trans hleft, fun h f hf hb hread => (hpush h f hf hb hread).trans hleft, fun hrun => ?_⟩
  have hstands : Stands (· ≠ 1) t.ac97 := by
    refine stands_run hs ?_ ht
    exact Along.of_inv (fun _ _ => True)
      (fun o _ s _ hno addr ha => fits_of_not_single (hno addr ha)) (fun _ _ _ _ _ _ _ _ => trivial)
      trivial hrun
  have hne : t.ac97.po_picb ≠ 0 := hleft.mpr (hstands.length.resolve_left hl)
  exact ⟨hpos.mpr hne, fun h f hf hb hread => (hpush h f hf hb hread).mpr hne⟩

/-- A ring whose first descriptor has the length given. -/
def ringOf (len : u8) : HostBytes := fun _ o =>
  if o = 0 then 0x10 else if o = 1 then 0x10 else if o = 4 then len else 0

/-- The device after playback has been started on the ring. -/
def started (len : u8) : Sound :=
  final (runAll (step oneBank) [(ringOf len, .write .b4 0x10 0x1000),
    (ringOf len, .write .b1 Devices.PO_CR 1)] (soundAt 0))

/-- Four samples are two frames, and a tick plays one of them. -/
theorem loaded_frames_left_two :
    0 < (started 4).ac97.po_picb.toNat ∧ Pushes oneBank (ringOf 4) 1 (started 4) := by
  obtain ⟨hleft, hpush, -⟩ := loaded_frames_left_iff oneBank [(ringOf 4, .write .b4 0x10 0x1000),
    (ringOf 4, .write .b1 Devices.PO_CR 1)] (soundAt 0) (started 4) (Or.inl rfl)
    (eq_ok_final (by decide +kernel)) (by decide +kernel) (by decide +kernel)
  refine ⟨hleft.mpr (by decide +kernel), ?_⟩
  exact (hpush (ringOf 4) 1 (by decide) (by decide +kernel)
    (by unfold SamplesReadable; decide +kernel)).mpr (by decide +kernel)

/-- One sample: playback is running with the descriptor loaded, and no tick by the clock puts
anything out or moves on. -/
theorem single_sample_stalls :
    (started 1).ac97.po_running = true ∧ (started 1).ac97.po_cur_len = 1 ∧
    (started 1).ac97.bdbar_playback ≠ 0 ∧ (started 1).ac97.po_picb = 0 ∧
    (final (tick oneBank (ringOf 1) (.credit 4096) (started 1))).host_audio = [] ∧
    (final (tick oneBank (ringOf 1) (.credit 4096) (started 1))).ac97.po_civ = 0 := by
  decide +kernel

end Sound

end SparcEmu
