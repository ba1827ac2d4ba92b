import SparcEmu.AudioStream

/-!
Pausing playback: `RUN` is written as zero and later as one.

The start request loads the descriptor at `CIV` again, from its first frame. What the engine has
played of the buffer before the pause it plays once more.
-/

namespace SparcEmu

open Lib.Effect

/-- What decides on the samples of the ticks to come. -/
structure Engine where
  running : Bool
  bdbar : u32
  civ : u8
  lvi : u8
  ptr : u32
  len : u32
  offset : u32
  picb : u16

namespace Engine

/-- A chunk has been played and the buffer goes on. -/
def advance (f : u32) (e : Engine) : Engine :=
  { e with
    offset := e.offset + f * 4
    picb := e.picb - f.setWidth 16 }

def next (e : Engine) : Engine := { e with civ := (e.civ + 1) &&& 0x1f }

/-- The descriptor is in place, nothing of its buffer played. -/
def load (bd : Descriptor) (e : Engine) : Engine :=
  { e with
    ptr := bd.ptr
    len := bd.len.setWidth 32
    offset := 0
    picb := bd.len / 2 }

def stop (e : Engine) : Engine := { e with running := false, len := 0 }

/-- What is left to do: descriptors first, then frames. -/
def left (e : Engine) : Nat := 65536 * Sound.ahead e.civ e.lvi + e.picb.toNat

lemma advance_picb {f : u32} {e : Engine} (hlt : f.toNat ≤ e.picb.toNat) :
    (e.advance f).picb.toNat = e.picb.toNat - f.toNat := by
  have := e.picb.isLt
  unfold advance
  rw [BitVec.toNat_sub, BitVec.toNat_setWidth]
  omega

end Engine

namespace Sound

variable (banks : List IMemoryBank) (h : HostBytes)

def engine (s : Sound) : Engine where
  running := s.ac97.po_running
  bdbar := s.ac97.bdbar_playback
  civ := s.ac97.po_civ
  lvi := s.ac97.po_lvi
  ptr := s.ac97.po_cur_ptr
  len := s.ac97.po_cur_len
  offset := s.ac97.po_cur_bd_frame_offset_bytes
  picb := s.ac97.po_picb

/-- The ring and its buffers are in memory or nowhere: no device answers for them. -/
def InMemory (bdbar : u32) : Prop :=
  ∀ i : u8, i.toNat < 32 →
    NoDevice banks (bdbar + i.setWidth 32 * 8) ∧ NoDevice banks (bdbar + i.setWidth 32 * 8 + 4) ∧
    NoDevice banks (bdbar + i.setWidth 32 * 8 + 6) ∧
    ∀ bd, descriptorAt banks h (bdbar + i.setWidth 32 * 8) = some bd →
      ∀ j < 2 * (bd.len / 2).toNat, NoDevice banks (bd.ptr + 2 * BitVec.ofNat 32 j)

/-- The engine has played `j` chunks of the buffer of `bd`, and the buffer goes on. -/
structure Frame (f : u32) (j : Nat) (bd : Descriptor) (e : Engine) : Prop where
  running : e.running = true
  base : e.bdbar ≠ 0
  mapped : mapped banks e.bdbar = true
  index : e.civ.toNat < 32
  last : e.lvi.toNat < 32
  found : descriptorAt banks h (e.bdbar + e.civ.setWidth 32 * 8) = some bd
  valid : bd.empty = false
  ptr : e.ptr = bd.ptr
  len : e.len = bd.len.setWidth 32
  offset : e.offset = 2 * BitVec.ofNat 32 (2 * (j * f.toNat))
  picb : j * f.toNat + e.picb.toNat = (bd.len / 2).toNat
  midway : j = 0 ∨ e.picb ≠ 0
  played : ∃ xs, samplesAt banks h (2 * (j * f.toNat)) bd.ptr = some xs

/-- The engine stands somewhere in a buffer, or has stopped. -/
def Alive (f : u32) (e : Engine) : Prop := e.running = false ∨ ∃ j bd, Frame banks h f j bd e

/-- A tick from `t` puts out `out` and ends in `next`, or throws. -/
def Does (r : EStateM.Result HostError Sound Unit) (t : Sound) (out : List u16) :
    Option Engine → Prop
  | some e => ∃ t', r = .ok () t' ∧ t'.engine = e ∧ t'.host_audio = t.host_audio ++ out
  | none => ∃ x t', r = .error x t' ∧ t'.host_audio = t.host_audio ++ out

variable {banks h} {f : u32} {j : Nat} {bd : Descriptor} {e : Engine} {s t : Sound}

lemma engine_raised (s : Sound) : s.raised.engine = s.engine := by
  obtain ⟨g, hg⟩ := raised_ac97 s
  unfold engine
  rw [hg]

lemma Frame.sample_ptr (hF : Frame banks h f j bd e) (ht : t.engine = e) :
    t.sample_ptr = bd.ptr + 2 * BitVec.ofNat 32 (2 * (j * f.toNat)) := by
  subst ht
  unfold Sound.sample_ptr
  rw [← hF.offset, ← hF.ptr]
  rfl

lemma Frame.noDevice (hmem : InMemory banks h e.bdbar) (hF : Frame banks h f j bd e) {n : Nat}
    (hn : n ≤ 2 * e.picb.toNat) :
    ∀ i < n, NoDevice banks (bd.ptr + 2 * BitVec.ofNat 32 (2 * (j * f.toNat)) + 2 * BitVec.ofNat 32 i) := by
  intro i hi
  have hp := hF.picb
  have := (hmem e.civ hF.index).2.2.2 bd hF.found (2 * (j * f.toNat) + i) (by omega)
  rwa [BitVec.ofNat_add, BitVec.mul_add, ← BitVec.add_assoc] at this

lemma tick_frame_start (hF : Frame banks h f j bd e) (ht : t.engine = e) :
    tick banks h (.fixed f) t = playFrames banks h (Pace.within e.picb f) t := by
  subst ht
  exact tick_loaded hF.running hF.base (fun h0 => len_ne_zero hF.valid (hF.len.symm.trans h0)) rfl

lemma Frame.advance (hF : Frame banks h f j bd e) (hlt : f.toNat < e.picb.toNat) {xs : List u16}
    (hxs : samplesAt banks h (2 * f.toNat) (bd.ptr + 2 * BitVec.ofNat 32 (2 * (j * f.toNat))) = some xs) :
    Frame banks h f (j + 1) bd (e.advance f) where
  running := hF.running
  base := hF.base
  mapped := hF.mapped
  index := hF.index
  last := hF.last
  found := hF.found
  valid := hF.valid
  ptr := hF.ptr
  len := hF.len
  offset := by
    show e.offset + f * 4 = _
    rw [hF.offset, four_eq, ← BitVec.mul_add, ← BitVec.ofNat_add]
    congr 2
    rw [Nat.succ_mul j f.toNat]
    omega
  picb := by
    have := hF.picb
    rw [Engine.advance_picb (Nat.le_of_lt hlt), Nat.succ_mul j f.toNat]
    omega
  midway := by
    right
    intro h0
    have hp := Engine.advance_picb (Nat.le_of_lt hlt)
    rw [h0] at hp
    have : (0 : u16).toNat = 0 := rfl
    omega
  played := by
    obtain ⟨ys, hys⟩ := hF.played
    refine ⟨ys ++ xs, ?_⟩
    rw [show 2 * ((j + 1) * f.toNat) = 2 * (j * f.toNat) + 2 * f.toNat by rw [Nat.succ_mul j f.toNat]; omega,
      samplesAt_add, hys, Option.bind_some, hxs]
    rfl

lemma tick_mid (hF : Frame banks h f j bd e) (hlt : f.toNat < e.picb.toNat) {xs : List u16}
    (hxs : samplesAt banks h (2 * f.toNat) (bd.ptr + 2 * BitVec.ofNat 32 (2 * (j * f.toNat))) = some xs)
    (ht : t.engine = e) : Does (tick banks h (.fixed f) t) t xs (some (e.advance f)) := by
  have htodo : Pace.within e.picb f = f := by
    apply BitVec.eq_of_toNat_eq
    rw [toNat_within]
    omega
  have hpicb := Engine.advance_picb (Nat.le_of_lt hlt)
  rw [tick_frame_start hF ht, htodo, ← hF.sample_ptr ht] at *
  rw [playFrames_eq (readSamples_mem hxs t), if_neg]
  · refine ⟨_, rfl, ?_, rfl⟩
    rw [← ht]
    rfl
  · subst ht
    intro h0
    rw [show (t.engine.advance f).picb = 0 from h0] at hpicb
    have : (0 : u16).toNat = 0 := rfl
    omega

lemma frame_load (f : u32) (hr : e.running = true) (hb : e.bdbar ≠ 0)
    (hm : Sound.mapped banks e.bdbar = true) (hi : e.civ.toNat < 32) (hl : e.lvi.toNat < 32)
    (hd : descriptorAt banks h (e.bdbar + e.civ.setWidth 32 * 8) = some bd) (he : bd.empty = false) :
    Frame banks h f 0 bd (e.load bd) where
  running := hr
  base := hb
  mapped := hm
  index := hi
  last := hl
  found := hd
  valid := he
  ptr := rfl
  len := rfl
  offset := by
    rw [Nat.zero_mul]
    rfl
  picb := by
    rw [Nat.zero_mul, Nat.zero_add]
    rfl
  midway := .inl rfl
  played := by
    rw [Nat.zero_mul]
    exact ⟨[], rfl⟩

/-- What may come after a tick: the end, or a place in a buffer that is further on. -/
def Onward (banks : List IMemoryBank) (h : HostBytes) (f : u32) (e e' : Engine) : Prop :=
  e'.bdbar = e.bdbar ∧
    (e'.running = false ∨ (∃ j bd, Frame banks h f j bd e') ∧ e'.left < e.left)

variable (banks h) in
lemma engine_finish_next (hi : e.civ.toNat < 32) (hl : e.lvi.toNat < 32) (hne : e.civ ≠ e.lvi)
    (ht : t.engine = e) :
    finishDescriptor banks h t = loadNext banks h (t.setAc97 t.ac97.complete).raised ∧
      (t.setAc97 t.ac97.complete).raised.engine = e.next ∧
      Devices.nextDescriptor (t.setAc97 t.ac97.complete).raised.ac97
        = e.bdbar + ((e.civ + 1) &&& 0x1f).setWidth 32 * 8 := by
  subst ht
  have hlast := complete_pastLast (a := t.ac97) hi hl
  obtain ⟨g, hg⟩ := raised_ac97 (t.setAc97 t.ac97.complete)
  refine ⟨finish_next ?_, engine_raised _, ?_⟩
  · rw [Bool.eq_false_iff]
    exact fun h => hne (hlast.mp h)
  · rw [hg]
    rfl

/-- **At the end of a buffer**: the engine halts, or finds the next descriptor, or throws. -/
lemma finish_does (f : u32) (hmem : InMemory banks h e.bdbar) (hr : e.running = true)
    (hb : e.bdbar ≠ 0) (hm : Sound.mapped banks e.bdbar = true) (hi : e.civ.toNat < 32)
    (hl : e.lvi.toNat < 32) :
    ∃ next, (∀ t, t.engine = e → Does (finishDescriptor banks h t) t [] next) ∧
      ∀ e', next = some e' → e'.bdbar = e.bdbar ∧ (e'.running = false ∨
        (∃ bd, Frame banks h f 0 bd e') ∧ e'.left < 65536 * ahead e.civ e.lvi) := by
  have hi' : ((e.civ + 1) &&& 0x1f).toNat < 32 := toNat_next ▸ Nat.mod_lt _ (by decide)
  by_cases heq : e.civ = e.lvi
  · refine ⟨some e.next.stop, fun t ht => ?_, ?_⟩
    · subst ht
      refine ⟨_, finish_last ((complete_pastLast hi hl).mpr heq), engine_raised _, ?_⟩
      rw [host_audio_raised, List.append_nil]
      rfl
    · rintro _ ⟨⟩
      exact ⟨rfl, .inl rfl⟩
  · obtain ⟨hd0, hd4, hd6, -⟩ := hmem _ hi'
    cases hd : descriptorAt banks h (e.bdbar + ((e.civ + 1) &&& 0x1f).setWidth 32 * 8) with
    | none =>
      obtain ⟨x, hx⟩ := readDescriptor_none hd0 hd4 hd6 hd
      refine ⟨none, fun t ht => ?_, by rintro _ ⟨⟩⟩
      obtain ⟨hfin, -, haddr⟩ := engine_finish_next banks h hi hl heq ht
      rw [hfin]
      refine ⟨x, _, (bind_ok (getAc97_apply _)).trans (bind_error (haddr ▸ hx _)), ?_⟩
      rw [host_audio_raised, List.append_nil]
      rfl
    | some bd =>
      cases he : bd.empty with
      | true =>
        refine ⟨some e.next.stop, fun t ht => ?_, ?_⟩
        · obtain ⟨hfin, heng, haddr⟩ := engine_finish_next banks h hi hl heq ht
          rw [hfin]
          refine ⟨_, loadNext_empty he (readDescriptor_mem (haddr ▸ hd) _), ?_, by simp⟩
          rw [← heng]
          rfl
        · rintro _ ⟨⟩
          exact ⟨rfl, .inl rfl⟩
      | false =>
        refine ⟨some (e.next.load bd), fun t ht => ?_, ?_⟩
        · obtain ⟨hfin, heng, haddr⟩ := engine_finish_next banks h hi hl heq ht
          rw [hfin]
          refine ⟨_, loadNext_load he (readDescriptor_mem (haddr ▸ hd) _), ?_, by simp⟩
          rw [← heng]
          rfl
        · rintro _ ⟨⟩
          refine ⟨rfl, .inr ⟨⟨bd, frame_load (e := e.next) f hr hb hm hi' hl hd he⟩, ?_⟩⟩
          have ha := ahead_next hi hl heq
          have hp := (bd.len / 2).isLt
          show 65536 * ahead ((e.civ + 1) &&& 0x1f) e.lvi + (bd.len / 2).toNat < _
          omega

/-- **A tick** from somewhere in a buffer does the same wherever the engine is the same. -/
lemma tick_does (hf : f ≠ 0) (hmem : InMemory banks h e.bdbar) (hF : Frame banks h f j bd e) :
    ∃ out next, (∀ t, t.engine = e → Does (tick banks h (.fixed f) t) t out next) ∧
      ∀ e', next = some e' → Onward banks h f e e' := by
  have hpos : f.toNat ≠ 0 := fun h0 => hf (BitVec.eq_of_toNat_eq h0)
  have htodo := toNat_within e.picb f
  cases hx : samplesAt banks h (2 * (Pace.within e.picb f).toNat)
      (bd.ptr + 2 * BitVec.ofNat 32 (2 * (j * f.toNat))) with
  | none =>
    obtain ⟨x, he⟩ := readSamples_none (hF.noDevice hmem (by omega)) hx
    refine ⟨[], none, fun t ht => ?_, by rintro _ ⟨⟩⟩
    rw [tick_frame_start hF ht]
    rw [← hF.sample_ptr ht] at he
    exact ⟨x, t, (bind_ok (getAc97_apply t)).trans (bind_error (he t)), (List.append_nil _).symm⟩
  | some xs =>
    rcases Nat.lt_or_ge f.toNat e.picb.toNat with hlt | hge
    · rw [htodo, Nat.min_eq_left (Nat.le_of_lt hlt)] at hx
      refine ⟨xs, _, fun t ht => tick_mid hF hlt hx ht, ?_⟩
      rintro _ ⟨⟩
      refine ⟨rfl, .inr ⟨⟨_, _, hF.advance hlt hx⟩, ?_⟩⟩
      have hp := Engine.advance_picb (Nat.le_of_lt hlt)
      show 65536 * ahead e.civ e.lvi + _ < 65536 * ahead e.civ e.lvi + _
      omega
    · -- the rest of the buffer, and what follows it
      obtain ⟨next, hdoes, hon⟩ := finish_does (e := e.advance (Pace.within e.picb f)) f hmem
        hF.running hF.base hF.mapped hF.index hF.last
      refine ⟨xs, next, fun t ht => ?_, fun e' he' => ?_⟩
      · have hpicb := Engine.advance_picb (e := e) (f := Pace.within e.picb f) (by omega)
        rw [tick_frame_start hF ht]
        rw [← hF.sample_ptr ht] at hx
        subst ht
        rw [playFrames_eq (readSamples_mem hx t), if_pos]
        · have hd := hdoes (t.played (Pace.within t.engine.picb f) xs) rfl
          cases next with
          | some e' =>
            obtain ⟨t', hok, heng, haud⟩ := hd
            exact ⟨t', hok, heng, by rw [haud, List.append_nil, host_audio_played]⟩
          | none =>
            obtain ⟨x, t', herr, haud⟩ := hd
            exact ⟨x, t', herr, by rw [haud, List.append_nil, host_audio_played]⟩
        · apply BitVec.eq_of_toNat_eq
          show (t.engine.advance (Pace.within t.engine.picb f)).picb.toNat = 0
          omega
      · obtain ⟨hb, hcase⟩ := hon e' he'
        refine ⟨hb, hcase.imp_right fun hc => ⟨⟨0, hc.1⟩, ?_⟩⟩
        exact Nat.lt_of_lt_of_le hc.2 (Nat.le_add_right _ _)

/-! ### Runs -/

/-- The samples put out after `n` ticks; a throw ends them. -/
def audio (banks : List IMemoryBank) (h : HostBytes) (f : u32) (n : Nat) (s : Sound) : List u16 :=
  (final (times (tick banks h (.fixed f)) n s)).host_audio

lemma times_stopped (hs : s.ac97.po_running = false) (n : Nat) :
    times (tick banks h (.fixed f)) n s = .ok () s := by
  induction n with
  | zero => rfl
  | succ n ih => rw [times_succ (tick_stopped (.inl hs)), ih]

lemma audio_stopped (hs : s.ac97.po_running = false) (n : Nat) :
    audio banks h f n s = s.host_audio := by
  unfold audio
  rw [times_stopped hs]
  rfl

lemma audio_ok {s' : Sound} (ht : tick banks h (.fixed f) s = .ok () s') (n : Nat) :
    audio banks h f (n + 1) s = audio banks h f n s' := by
  unfold audio
  rw [times_succ ht]

lemma audio_add {k : Nat} {s' : Sound} (ht : times (tick banks h (.fixed f)) k s = .ok () s') (n : Nat) :
    audio banks h f (k + n) s = audio banks h f n s' := by
  unfold audio
  rw [times_add ht]

lemma Onward.alive {e' : Engine} (ho : Onward banks h f e e') : Alive banks h f e' :=
  ho.2.imp_right And.left

lemma audio_same (hf : f ≠ 0) {n : Nat} : ∀ {e : Engine}, InMemory banks h e.bdbar →
    Alive banks h f e → ∃ out, ∀ t, t.engine = e → audio banks h f n t = t.host_audio ++ out := by
  induction n with
  | zero => exact fun _ _ => ⟨[], fun t _ => (List.append_nil _).symm⟩
  | succ n ih =>
    rintro e hmem (hs | ⟨j, bd, hF⟩)
    · refine ⟨[], fun t ht => ?_⟩
      subst ht
      rw [audio_stopped hs, List.append_nil]
    · obtain ⟨out, next, hdoes, hon⟩ := tick_does hf hmem hF
      cases next with
      | none =>
        refine ⟨out, fun t ht => ?_⟩
        obtain ⟨x, t', herr, haud⟩ := hdoes t ht
        unfold audio
        rw [times_error herr]
        exact haud
      | some e' =>
        obtain ⟨out', hrest⟩ := ih ((hon e' rfl).1 ▸ hmem) (hon e' rfl).alive
        refine ⟨out ++ out', fun t ht => ?_⟩
        obtain ⟨t', hok, heng, haud⟩ := hdoes t ht
        rw [audio_ok hok, hrest t' heng, haud, List.append_assoc]

/-- **Playback ends**: after enough ticks nothing more is put out. -/
lemma audio_settles (hf : f ≠ 0) (hmem : InMemory banks h e.bdbar) (ha : Alive banks h f e) :
    ∃ N, ∀ n ≥ N, ∀ t, t.engine = e → audio banks h f n t = audio banks h f N t := by
  have hstop : ∀ {e : Engine}, e.running = false →
      ∃ N, ∀ n ≥ N, ∀ t, t.engine = e → audio banks h f n t = audio banks h f N t := by
    intro e hs
    refine ⟨0, fun n _ t ht => ?_⟩
    subst ht
    rw [audio_stopped hs, audio_stopped hs]
  induction hw : e.left using Nat.strongRecOn generalizing e with
  | ind w ih =>
    subst hw
    rcases ha with hs | ⟨j, bd, hF⟩
    · exact hstop hs
    · obtain ⟨out, next, hdoes, hon⟩ := tick_does hf hmem hF
      cases next with
      | none =>
        refine ⟨1, fun n hn t ht => ?_⟩
        obtain ⟨x, t', herr, -⟩ := hdoes t ht
        obtain ⟨k, rfl⟩ := Nat.exists_eq_add_of_le' hn
        unfold audio
        rw [times_error herr, times_error herr]
      | some e' =>
        obtain ⟨hb, hcase⟩ := hon e' rfl
        have hsettle : ∃ N, ∀ n ≥ N, ∀ t, t.engine = e' → audio banks h f n t = audio banks h f N t := by
          rcases hcase with hs | ⟨hF', hlt⟩
          · exact hstop hs
          · exact ih _ hlt (hb ▸ hmem) (.inr hF') rfl
        obtain ⟨N, hN⟩ := hsettle
        refine ⟨N + 1, fun n hn t ht => ?_⟩
        obtain ⟨t', hok, heng, -⟩ := hdoes t ht
        obtain ⟨k, rfl⟩ := Nat.exists_eq_add_of_le' (Nat.le_of_add_left_le hn)
        rw [audio_ok hok, audio_ok hok]
        exact hN k (by omega) t' heng

lemma Frame.unique {e' : Engine} (hF : Frame banks h f j bd e) (hF' : Frame banks h f j bd e')
    (hb : e'.bdbar = e.bdbar) (hc : e'.civ = e.civ) (hl : e'.lvi = e.lvi) : e' = e := by
  have hr := hF'.running.trans hF.running.symm
  have hp := hF'.ptr.trans hF.ptr.symm
  have hn := hF'.len.trans hF.len.symm
  have ho := hF'.offset.trans hF.offset.symm
  have hpicb : e'.picb = e.picb := by
    apply BitVec.eq_of_toNat_eq
    have h1 := hF.picb
    have h2 := hF'.picb
    omega
  cases e
  cases e'
  simp only at hr hb hc hl hp hn ho hpicb
  rw [hr, hb, hc, hl, hp, hn, ho, hpicb]

lemma Frame.chunk (hF : Frame banks h f j bd e) {i : Nat} (hi : i < j) :
    ∃ xs, samplesAt banks h (2 * f.toNat) (bd.ptr + 2 * BitVec.ofNat 32 (2 * (i * f.toNat))) = some xs := by
  obtain ⟨ys, hys⟩ := hF.played
  have hle : (i + 1) * f.toNat ≤ j * f.toNat := Nat.mul_le_mul_right _ hi
  rw [Nat.succ_mul i f.toNat] at hle
  rw [show 2 * (j * f.toNat) =
      2 * (i * f.toNat) + (2 * f.toNat + 2 * (j * f.toNat - (i * f.toNat + f.toNat)))
    by omega, samplesAt_add] at hys
  obtain ⟨_, -, hys⟩ := Option.bind_eq_some_iff.mp hys
  obtain ⟨zs, hzs, -⟩ := Option.map_eq_some_iff.mp hys
  rw [samplesAt_add] at hzs
  obtain ⟨xs, hxs, -⟩ := Option.bind_eq_some_iff.mp hzs
  exact ⟨xs, hxs⟩

/-- **Replay**: from the start of the buffer the engine gets to where it was, and puts out all that
it has put out on the way. -/
lemma replay (hF : Frame banks h f j bd e) (ht : t.engine = e.load bd) {i : Nat} (hi : i ≤ j) :
    ∃ t' xs, times (tick banks h (.fixed f)) i t = .ok () t' ∧ Frame banks h f i bd t'.engine ∧
      t'.engine.bdbar = e.bdbar ∧ t'.engine.civ = e.civ ∧ t'.engine.lvi = e.lvi ∧
      t'.host_audio = t.host_audio ++ xs ∧ xs.length = 2 * (i * f.toNat) := by
  induction i with
  | zero =>
    refine ⟨t, [], rfl, ?_, ?_, ?_, ?_, (List.append_nil _).symm, by simp⟩
    · rw [ht]
      exact frame_load f hF.running hF.base hF.mapped hF.index hF.last hF.found hF.valid
    all_goals
      rw [ht]
      rfl
  | succ i ih =>
    obtain ⟨t₁, xs, hrun, hF₁, hb, hc, hl, haud, hlen⟩ := ih (Nat.le_of_succ_le hi)
    obtain ⟨ys, hys⟩ := hF.chunk (Nat.lt_of_succ_le hi)
    have hlt : f.toNat < t₁.engine.picb.toNat := by
      have hle : (i + 1) * f.toNat ≤ j * f.toNat := Nat.mul_le_mul_right _ hi
      rw [Nat.succ_mul i f.toNat] at hle
      have hp := hF.picb
      have hp₁ := hF₁.picb
      have hne : e.picb.toNat ≠ 0 := by
        rcases hF.midway with h0 | h0
        · omega
        · exact fun h => h0 (BitVec.eq_of_toNat_eq h)
      omega
    obtain ⟨t₂, hok, heng, haud₂⟩ := tick_mid hF₁ hlt hys rfl
    refine ⟨t₂, xs ++ ys, ?_, ?_, ?_, ?_, ?_, ?_, ?_⟩
    · rw [times_add hrun, times_succ hok]
      rfl
    · rw [heng]
      exact hF₁.advance hlt hys
    · rw [heng]
      exact hb
    · rw [heng]
      exact hc
    · rw [heng]
      exact hl
    · rw [haud₂, haud, List.append_assoc]
    · rw [List.length_append, hlen, samplesAt_length hys, Nat.succ_mul i f.toNat]
      omega

lemma Frame.offset_zero (hF : Frame banks h f j bd e) : e.offset = 0 ↔ j * f.toNat = 0 := by
  have hp := hF.picb
  have := (bd.len / 2).isLt
  rw [hF.offset, ← BitVec.toNat_inj, BitVec.toNat_mul, BitVec.toNat_ofNat,
    show (2 : u32).toNat = 2 from rfl, show (0 : u32).toNat = 0 from rfl]
  omega

/-! ### Start, pause and resume -/

lemma start_alive {v : u32} (f : u32) (hmem : InMemory banks h s.ac97.bdbar_playback)
    (hi : s.ac97.po_civ.toNat < 32) (hl : s.ac97.po_lvi.toNat < 32) (hrun : v.getLsbD 0 = true)
    (hreset : v.getLsbD 1 = false) (hstop : s.ac97.po_running = false)
    (hw : write_nabm banks h .b1 Devices.PO_CR v s = .ok () t) :
    Alive banks h f t.engine ∧ t.engine.bdbar = s.ac97.bdbar_playback := by
  by_cases hm : s.ac97.bdbar_playback = 0 ∨ mapped banks s.ac97.bdbar_playback = false
  · obtain ⟨c, hw'⟩ := start_unmapped (h := h) hrun hreset hstop hm
    cases hw'.symm.trans hw
    exact ⟨.inl rfl, rfl⟩
  · rw [not_or, Bool.not_eq_false] at hm
    obtain ⟨hd0, hd4, hd6, -⟩ := hmem _ hi
    cases hd : descriptorAt banks h (Devices.nextDescriptor s.ac97) with
    | none =>
      obtain ⟨c, hw'⟩ := start_eq (h := h) hrun hreset hstop hm.1 hm.2
      obtain ⟨x, hx⟩ := readDescriptor_none hd0 hd4 hd6 hd
      cases hw.symm.trans (hw'.trans (bind_error (hx _)))
    | some bd =>
      cases he : bd.empty with
      | true =>
        obtain ⟨c, hw'⟩ := start_eq (h := h) hrun hreset hstop hm.1 hm.2
        rw [bind_ok (readDescriptor_mem hd _), modAc97_apply, ac97_setAc97, AC97Pci.po_start,
          if_pos (by simpa [Descriptor.empty] using he)] at hw'
        cases hw'.symm.trans hw
        exact ⟨.inl rfl, rfl⟩
      | false =>
        obtain ⟨c, hw'⟩ := start_mem hrun hreset hstop hm.1 hm.2 he hd
        cases hw'.symm.trans hw
        exact ⟨.inr ⟨0, bd, frame_load (e := { s.engine with running := true }) f rfl hm.1 hm.2 hi hl
          hd he⟩, rfl⟩

lemma alive_times (hf : f ≠ 0) {k : Nat} : ∀ {s : Sound}, InMemory banks h s.engine.bdbar →
    Alive banks h f s.engine → times (tick banks h (.fixed f)) k s = .ok () t →
    Alive banks h f t.engine ∧ t.engine.bdbar = s.engine.bdbar := by
  induction k with
  | zero =>
    intro s _ ha ht
    cases ht
    exact ⟨ha, rfl⟩
  | succ k ih =>
    intro s hmem ha ht
    rcases ha with hs | ⟨j, bd, hF⟩
    · rw [times_stopped hs] at ht
      cases ht
      exact ⟨.inl hs, rfl⟩
    · obtain ⟨out, next, hdoes, hon⟩ := tick_does hf hmem hF
      have hd := hdoes s rfl
      cases next with
      | none =>
        obtain ⟨x, s', herr, -⟩ := hd
        rw [times_error herr] at ht
        cases ht
      | some e' =>
        obtain ⟨s', hok, heng, -⟩ := hd
        rw [times_succ hok] at ht
        have hb : s'.engine.bdbar = s.engine.bdbar := heng ▸ (hon e' rfl).1
        obtain ⟨ha', hb'⟩ := ih (hb ▸ hmem) (heng ▸ (hon e' rfl).alive) ht
        exact ⟨ha', hb'.trans hb⟩

/-- `RUN` is written as zero, and as one after `m` ticks. -/
def pauseResume (banks : List IMemoryBank) (h : HostBytes) (f v₀ v₁ : u32) (m : Nat) : SoundM Unit := do
  write_nabm banks h .b1 Devices.PO_CR v₀
  times (tick banks h (.fixed f)) m
  write_nabm banks h .b1 Devices.PO_CR v₁

lemma pauseResume_eq {v₀ v₁ : u32} (hF : Frame banks h f j bd s.engine) (h₀ : v₀.getLsbD 0 = false)
    (h₀' : v₀.getLsbD 1 = false) (h₁ : v₁.getLsbD 0 = true) (h₁' : v₁.getLsbD 1 = false) (m : Nat) :
    ∃ s', pauseResume banks h f v₀ v₁ m s = .ok () s' ∧ s'.engine = s.engine.load bd ∧
      s'.host_audio = s.host_audio := by
  obtain ⟨c₀, hpause⟩ := stop_eq banks h (s := s) h₀ h₀'
  obtain ⟨c₁, hresume⟩ := @start_mem banks h (s.setAc97
    { s.ac97 with
      po_running := false
      po_lvbci_halted := false
      po_status := (s.ac97.po_status &&& ~~~0x0c#16) ||| 1
      po_control := c₀ }) v₁ bd h₁ h₁' rfl hF.base hF.mapped hF.valid hF.found
  refine ⟨_, (bind_ok hpause).trans ((bind_ok (times_stopped rfl m)).trans hresume), ?_, rfl⟩
  unfold engine Engine.load
  rw [show s.ac97.po_running = true from hF.running]
  rfl

/-- **Pause and resume**: at a point of a playback run, a pause leaves the samples of the run as
they are exactly if nothing of the current buffer has been played. -/
theorem pause_transparent_iff {s₀ s₁ : Sound} {v v₀ v₁ : u32} {k m : Nat} (hf : f ≠ 0)
    (hmem : InMemory banks h s₀.ac97.bdbar_playback) (hciv : s₀.ac97.po_civ.toNat < 32)
    (hlvi : s₀.ac97.po_lvi.toNat < 32) (hstop : s₀.ac97.po_running = false)
    (hv : v.getLsbD 0 = true ∧ v.getLsbD 1 = false)
    (hstart : write_nabm banks h .b1 Devices.PO_CR v s₀ = .ok () s₁)
    (hrun : times (tick banks h (.fixed f)) k s₁ = .ok () s) (hplays : s.ac97.po_running = true)
    (hv₀ : v₀.getLsbD 0 = false ∧ v₀.getLsbD 1 = false)
    (hv₁ : v₁.getLsbD 0 = true ∧ v₁.getLsbD 1 = false) :
    ∃ s', pauseResume banks h f v₀ v₁ m s = .ok () s' ∧
      ((∃ N, ∀ n ≥ N, audio banks h f n s' = audio banks h f n s) ↔
        s.ac97.po_cur_bd_frame_offset_bytes = 0) := by
  obtain ⟨ha₁, hb₁⟩ := start_alive f hmem hciv hlvi hv.1 hv.2 hstop hstart
  obtain ⟨ha, hb⟩ := alive_times hf (hb₁ ▸ hmem) ha₁ hrun
  have hmem' : InMemory banks h s.engine.bdbar := by
    rw [hb, hb₁]
    exact hmem
  rcases ha with hs | ⟨j, bd, hF⟩
  · cases hs.symm.trans hplays
  obtain ⟨s', hs', heng, haud⟩ := pauseResume_eq hF hv₀.1 hv₀.2 hv₁.1 hv₁.2 m
  refine ⟨s', hs', ?_, ?_⟩
  · -- the samples played again lengthen the output
    rintro ⟨N, hN⟩
    obtain ⟨N', hN'⟩ := audio_settles hf hmem' (.inr ⟨j, bd, hF⟩)
    obtain ⟨t, xs, hreplay, hFt, hbt, hct, hlt, hout, hlen⟩ := replay hF heng (Nat.le_refl j)
    have hback : t.engine = s.engine := hF.unique hFt hbt hct hlt
    obtain ⟨out, hsame⟩ := audio_same (n := max N N') hf hmem' (.inr ⟨j, bd, hF⟩)
    have h1 : audio banks h f (j + max N N') s' = audio banks h f (max N N') s := by
      rw [hN _ (by omega), hN' (j + max N N') (by omega) s rfl, hN' (max N N') (by omega) s rfl]
    rw [audio_add hreplay, hsame t hback, hsame s rfl, hout, haud] at h1
    have hx : xs.length = 0 := by
      have := congrArg List.length h1
      simp only [List.length_append] at this
      omega
    exact hF.offset_zero.mpr (by omega)
  · intro h0
    have hj : j * f.toNat = 0 := hF.offset_zero.mp h0
    have hpos : f.toNat ≠ 0 := fun h0 => hf (BitVec.eq_of_toNat_eq h0)
    obtain rfl : j = 0 := by
      rcases Nat.mul_eq_zero.mp hj with hj | hj
      · exact hj
      · exact absurd hj hpos
    have hback : s'.engine = s.engine := by
      rw [heng]
      exact hF.unique (frame_load f hF.running hF.base hF.mapped hF.index hF.last hF.found hF.valid)
        rfl rfl rfl
    refine ⟨0, fun n _ => ?_⟩
    obtain ⟨out, hsame⟩ := audio_same (n := n) hf hmem' (.inr ⟨0, bd, hF⟩)
    rw [hsame s' hback, hsame s rfl, haud]

lemma noDevice_oneBank (addr : u32) : NoDevice oneBank addr := by
  intro i b hf
  unfold oneBank MCtrl.findFrom at hf
  split_ifs at hf
  · cases hf
    rfl
  · cases hf

/-- A pause of five ticks behind the first of three buffers changes no sample. -/
theorem pause_transparent_iff_between :
    ∃ s₁ s, write_nabm oneBank threeBuffers .b1 Devices.PO_CR 1 wrapping = .ok () s₁ ∧
      times (tick oneBank threeBuffers (.fixed 1)) 1 s₁ = .ok () s ∧ s.host_audio = [1, 2] ∧
      ∃ s', pauseResume oneBank threeBuffers 1 0 1 5 s = .ok () s' ∧
        ∃ N, ∀ n ≥ N, audio oneBank threeBuffers 1 n s' = audio oneBank threeBuffers 1 n s := by
  obtain ⟨_, s, hr, hplays, hout, h0⟩ : ∃ r s, (do
      write_nabm oneBank threeBuffers .b1 Devices.PO_CR 1
      times (tick oneBank threeBuffers (.fixed 1)) 1) wrapping = .ok r s ∧ s.ac97.po_running = true ∧
      s.host_audio = [1, 2] ∧ s.ac97.po_cur_bd_frame_offset_bytes = 0 :=
    exists_ok (by decide +kernel) (by decide +kernel)
  obtain ⟨_, s₁, hstart, hrun⟩ := bind_ok_iff.mp hr
  have hmem : InMemory oneBank threeBuffers wrapping.ac97.bdbar_playback := fun _ _ =>
    ⟨noDevice_oneBank _, noDevice_oneBank _, noDevice_oneBank _, fun _ _ _ _ => noDevice_oneBank _⟩
  have h₀ : (0 : u32).getLsbD 0 = false ∧ (0 : u32).getLsbD 1 = false := by decide
  have h₁ : (1 : u32).getLsbD 0 = true ∧ (1 : u32).getLsbD 1 = false := by decide
  obtain ⟨s', hs', hiff⟩ := pause_transparent_iff (m := 5) (by decide) hmem (by decide) (by decide) rfl h₁
    hstart hrun hplays h₀ h₁
  exact ⟨s₁, s, hstart, hrun, hout, s', hs', hiff.mpr h0⟩

/-- A ring with one descriptor: two frames behind it. -/
def twoFrames : HostBytes := fun _ o =>
  if o = 0 then 0x10 else if o = 1 then 0x10 else if o = 4 then 4 else if o = 16 then 1
  else if o = 18 then 2 else if o = 20 then 3 else if o = 22 then 4 else 0

/-- A pause between the two frames: the first frame is played twice. -/
theorem pause_repeats_frame :
    heard ((do
      write_nabm oneBank twoFrames .b1 Devices.PO_CR 1
      times (tick oneBank twoFrames (.fixed 1)) 1) (soundAt 0x1000)) = some (true, [1, 2]) ∧
    heard ((do
      write_nabm oneBank twoFrames .b1 Devices.PO_CR 1
      times (tick oneBank twoFrames (.fixed 1)) 2) (soundAt 0x1000)) = some (false, [1, 2, 3, 4]) ∧
    heard ((do
      write_nabm oneBank twoFrames .b1 Devices.PO_CR 1
      times (tick oneBank twoFrames (.fixed 1)) 1
      pauseResume oneBank twoFrames 1 0 1 0
      times (tick oneBank twoFrames (.fixed 1)) 2) (soundAt 0x1000))
        = some (false, [1, 2, 1, 2, 3, 4]) := by
  decide +kernel

end Sound

end SparcEmu
