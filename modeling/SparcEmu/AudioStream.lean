import SparcEmu.Ac97Dma
import SparcEmu.Lib.Drain

/-!
What playback puts out.

While the engine runs, what is still to come is a list of blocks: the rest of the current buffer,
then the buffers of the descriptors up to `LVI`. A tick takes a chunk off this list.
-/

namespace SparcEmu

open Lib.Effect Lib.Drain

namespace Sound

/-! ### The descriptor ring -/

/-- The number of descriptors behind `civ`, up to `lvi`. -/
def ahead (civ lvi : u8) : Nat := ((lvi - civ) &&& 0x1f).toNat

/-- The next indices behind `i`, around the ring. -/
def ring : Nat → u8 → List u8
  | 0, _ => []
  | n + 1, i => ((i + 1) &&& 0x1f) :: ring n ((i + 1) &&& 0x1f)

lemma toNat_and31 (x : u8) : (x &&& 0x1f).toNat = x.toNat % 32 :=
  Nat.and_two_pow_sub_one_eq_mod x.toNat 5

lemma toNat_next {i : u8} : ((i + 1) &&& 0x1f).toNat = (i.toNat + 1) % 32 := by
  rw [toNat_and31, BitVec.toNat_add, show (1 : u8).toNat = 1 from rfl]
  omega

lemma ahead_eq {civ lvi : u8} (hc : civ.toNat < 32) (hl : lvi.toNat < 32) :
    ahead civ lvi = (lvi.toNat + 32 - civ.toNat) % 32 := by
  unfold ahead
  rw [toNat_and31, BitVec.toNat_sub]
  omega

lemma ahead_zero {civ lvi : u8} (hc : civ.toNat < 32) (hl : lvi.toNat < 32) :
    ahead civ lvi = 0 ↔ civ = lvi := by
  rw [ahead_eq hc hl, ← BitVec.toNat_inj]
  omega

lemma ahead_next {civ lvi : u8} (hc : civ.toNat < 32) (hl : lvi.toNat < 32) (hne : civ ≠ lvi) :
    ahead civ lvi = ahead ((civ + 1) &&& 0x1f) lvi + 1 := by
  have hn := toNat_next (i := civ)
  rw [Ne, ← BitVec.toNat_inj] at hne
  rw [ahead_eq hc hl, ahead_eq (by omega) hl, hn]
  omega

lemma complete_pastLast {a : AC97Pci} (hc : a.po_civ.toNat < 32) (hl : a.po_lvi.toNat < 32) :
    a.complete.pastLast = true ↔ a.po_civ = a.po_lvi := by
  have hn := toNat_next (i := a.po_civ)
  have hn' := toNat_next (i := a.po_lvi)
  unfold AC97Pci.pastLast AC97Pci.complete
  rw [decide_eq_true_eq, ← BitVec.toNat_inj, ← BitVec.toNat_inj, hn, hn']
  omega

variable (banks : List IMemoryBank) (h : HostBytes)

/-- The samples of the buffer of descriptor `i`; `none` if it is empty or not all in memory. -/
def bufferAt (bdbar : u32) (i : u8) : Option (List u16) := do
  let bd ← descriptorAt banks h (bdbar + i.setWidth 32 * 8)
  if bd.empty then none else samplesAt banks h (2 * (bd.len / 2).toNat) bd.ptr

inductive Playing (bdbar : u32) (lvi : u8) : Sound → List (List u16) → Prop
  | on {s : Sound} {b : List u16} {bs : List (List u16)}
      (running : s.ac97.po_running = true)
      (base : s.ac97.bdbar_playback = bdbar)
      (last : s.ac97.po_lvi = lvi)
      (index : s.ac97.po_civ.toNat < 32)
      (loaded : s.ac97.po_cur_len ≠ 0)
      (left : samplesAt banks h (2 * s.ac97.po_picb.toNat) s.sample_ptr = some b)
      (next : (ring (ahead s.ac97.po_civ lvi) s.ac97.po_civ).mapM (bufferAt banks h bdbar) = some bs) :
      Playing bdbar lvi s (b :: bs)
  | off {s : Sound}
      (stopped : s.ac97.po_running = false)
      (index : s.ac97.po_civ = (lvi + 1) &&& 0x1f)
      (dch : s.ac97.po_status.getLsbD 0 = true)
      (cip : s.ac97.po_status.getLsbD 1 = false)
      (lvbci : s.ac97.po_status.getLsbD 2 = true) :
      Playing bdbar lvi s []

variable {banks h} {bdbar : u32} {lvi : u8} {s : Sound} {f : u32}

lemma toNat_within (picb : u16) (f : u32) :
    (Pace.within picb f).toNat = min f.toNat picb.toNat := by
  unfold Pace.within
  have := picb.isLt
  split_ifs with hlt <;> rw [BitVec.lt_def, BitVec.toNat_setWidth] at hlt
  · rw [BitVec.toNat_setWidth]
    omega
  · omega

lemma bufferAt_some {i : u8} {b : List u16} (hb : bufferAt banks h bdbar i = some b) :
    ∃ bd, descriptorAt banks h (bdbar + i.setWidth 32 * 8) = some bd ∧ bd.empty = false ∧
      samplesAt banks h (2 * (bd.len / 2).toNat) bd.ptr = some b := by
  obtain ⟨bd, hd, hb⟩ := Option.bind_eq_some_iff.mp hb
  split_ifs at hb with he
  exact ⟨bd, hd, by simpa using he, hb⟩

lemma len_ne_zero {bd : Descriptor} (he : bd.empty = false) : bd.len.setWidth 32 ≠ 0 := by
  simp only [Descriptor.empty, Bool.or_eq_false_iff, decide_eq_false_iff_not] at he
  intro h0
  have hlow := congrArg (BitVec.setWidth 16) h0
  rw [BitVec.setWidth_setWidth_of_le _ (by decide), BitVec.setWidth_eq] at hlow
  exact he.2 hlow

lemma playing_load {bd : Descriptor} {b : List u16} {bs : List (List u16)}
    (hload : s.ac97.load bd = s.ac97) (he : bd.empty = false)
    (hx : samplesAt banks h (2 * (bd.len / 2).toNat) bd.ptr = some b)
    (hr : s.ac97.po_running = true) (hb : s.ac97.bdbar_playback = bdbar) (hl : s.ac97.po_lvi = lvi)
    (hi : s.ac97.po_civ.toNat < 32)
    (hn : (ring (ahead s.ac97.po_civ lvi) s.ac97.po_civ).mapM (bufferAt banks h bdbar) = some bs) :
    Playing banks h bdbar lvi s (b :: bs) := by
  have hptr : s.ac97.po_cur_ptr = bd.ptr := congrArg AC97Pci.po_cur_ptr hload.symm
  have hoff : s.ac97.po_cur_bd_frame_offset_bytes = 0 :=
    congrArg AC97Pci.po_cur_bd_frame_offset_bytes hload.symm
  have hlen : s.ac97.po_cur_len = bd.len.setWidth 32 := congrArg AC97Pci.po_cur_len hload.symm
  have hpicb : s.ac97.po_picb = bd.len / 2 := congrArg AC97Pci.po_picb hload.symm
  refine .on hr hb hl hi (hlen ▸ len_ne_zero he) ?_ hn
  unfold sample_ptr
  rw [hptr, hoff, hpicb, show bd.ptr + (0 : u32) = bd.ptr from BitVec.add_zero _]
  exact hx

/-! ### Ticks -/

lemma advance_picb {a : AC97Pci} {todo : u32} (hle : todo.toNat ≤ a.po_picb.toNat) :
    (a.advance todo).po_picb.toNat = a.po_picb.toNat - todo.toNat := by
  unfold AC97Pci.advance
  have := a.po_picb.isLt
  rw [BitVec.toNat_sub, BitVec.toNat_setWidth]
  omega

lemma four_eq (todo : u32) : todo * 4 = 2 * BitVec.ofNat 32 (2 * todo.toNat) := by
  apply BitVec.eq_of_toNat_eq
  rw [BitVec.toNat_mul, BitVec.toNat_mul, BitVec.toNat_ofNat, show (4 : u32).toNat = 4 from rfl,
    show (2 : u32).toNat = 2 from rfl]
  omega

lemma sample_ptr_played (todo : u32) (xs : List u16) (s : Sound) :
    (s.played todo xs).sample_ptr = s.sample_ptr + 2 * BitVec.ofNat 32 (2 * todo.toNat) := by
  unfold sample_ptr
  rw [ac97_played, ← four_eq, BitVec.add_assoc]
  rfl

lemma finish_playing (hl : lvi.toNat < 32) {bs : List (List u16)} (hr : s.ac97.po_running = true)
    (hb : s.ac97.bdbar_playback = bdbar) (hlvi : s.ac97.po_lvi = lvi) (hi : s.ac97.po_civ.toNat < 32)
    (hn : (ring (ahead s.ac97.po_civ lvi) s.ac97.po_civ).mapM (bufferAt banks h bdbar) = some bs) :
    ∃ s', finishDescriptor banks h s = .ok () s' ∧ Playing banks h bdbar lvi s' bs ∧
      s'.host_audio = s.host_audio := by
  have hlast := complete_pastLast hi (a := s.ac97) (hlvi ▸ hl)
  rw [hlvi] at hlast
  by_cases heq : s.ac97.po_civ = lvi
  · rw [(ahead_zero hi hl).mpr heq] at hn
    cases hn
    obtain ⟨g, hg⟩ := raised_ac97 (s.setAc97 s.ac97.complete.haltLast)
    refine ⟨_, finish_last (hlast.mpr heq), ?_, by simp⟩
    refine .off ?_ ?_ ?_ ?_ ?_ <;> rw [hg]
    · rfl
    · exact congrArg (fun i : u8 => (i + 1) &&& 0x1f) heq
    all_goals simp [AC97Pci.haltLast]
  · rw [ahead_next hi hl heq, ring, List.mapM_cons] at hn
    obtain ⟨b, hbuf, hrest⟩ := Option.bind_eq_some_iff.mp hn
    obtain ⟨bs', hbs, hcons⟩ := Option.bind_eq_some_iff.mp hrest
    cases hcons
    obtain ⟨bd, hd, he, hx⟩ := bufferAt_some hbuf
    obtain ⟨g, hg⟩ := raised_ac97 (s.setAc97 s.ac97.complete)
    have hnext : Devices.nextDescriptor (s.setAc97 s.ac97.complete).raised.ac97
        = bdbar + ((s.ac97.po_civ + 1) &&& 0x1f).setWidth 32 * 8 := by
      rw [hg, ← hb]
      rfl
    have hd' : descriptorAt banks h
        (Devices.nextDescriptor (s.setAc97 s.ac97.complete).raised.ac97) = some bd := by
      rw [hnext]
      exact hd
    have hload := loadNext_load he (readDescriptor_mem hd' (s.setAc97 s.ac97.complete).raised)
    refine ⟨_, (finish_next (by simpa [heq] using hlast)).trans hload, ?_, by simp⟩
    refine playing_load (AC97Pci.load_load bd _) he hx ?_ ?_ ?_ ?_ ?_ <;> rw [ac97_setAc97, hg]
    · exact hr
    · exact hb
    · exact hlvi
    · exact toNat_next ▸ Nat.mod_lt _ (by decide)
    · exact hbs

lemma tick_playing (hb : bdbar ≠ 0) (hl : lvi.toNat < 32) {q : List (List u16)}
    (hp : Playing banks h bdbar lvi s q) :
    ∃ s', tick banks h (.fixed f) s = .ok () s' ∧ Playing banks h bdbar lvi s' (rest (2 * f.toNat) q) ∧
      s'.host_audio = s.host_audio ++ chunk (2 * f.toNat) q := by
  cases hp with
  | off stopped index dch cip lvbci =>
    exact ⟨s, tick_stopped (.inl stopped), .off stopped index dch cip lvbci, (List.append_nil _).symm⟩
  | @on b bs running base last index loaded left next =>
    have hlen := samplesAt_length left
    have htodo := toNat_within s.ac97.po_picb f
    rw [tick_loaded running (base ▸ hb) loaded
      (show (Pace.fixed f).todo s.ac97.po_picb = some _ from rfl)]
    rcases Nat.lt_or_ge f.toNat s.ac97.po_picb.toNat with hlt | hge
    · -- the buffer has more than the tick takes
      have hf : Pace.within s.ac97.po_picb f = f := by
        apply BitVec.eq_of_toNat_eq
        omega
      rw [show 2 * s.ac97.po_picb.toNat = 2 * f.toNat + 2 * (s.ac97.po_picb.toNat - f.toNat) by omega,
        samplesAt_add] at left
      obtain ⟨xs, hxs, left⟩ := Option.bind_eq_some_iff.mp left
      obtain ⟨ys, hys, rfl⟩ := Option.map_eq_some_iff.mp left
      have hxl := samplesAt_length hxs
      have hpicb := advance_picb (a := s.ac97) (Nat.le_of_lt hlt)
      rw [hf, playFrames_eq (readSamples_mem hxs s), if_neg]
      · refine ⟨_, rfl, ?_, ?_⟩
        · simp only [rest]
          rw [if_neg (by omega), List.drop_left' hxl]
          refine .on running base last index loaded ?_ next
          rw [sample_ptr_played, ac97_played, hpicb]
          exact hys
        · simp only [chunk]
          rw [List.take_left' hxl]
          rfl
      · intro h0
        rw [h0] at hpicb
        simp at hpicb
        omega
    · -- the buffer ends
      have hf : (Pace.within s.ac97.po_picb f).toNat = s.ac97.po_picb.toNat := by omega
      have hpicb := advance_picb (a := s.ac97) (Nat.le_of_eq hf)
      rw [playFrames_eq (readSamples_mem (hf ▸ left) s), if_pos]
      · obtain ⟨s', hs', hp', ho'⟩ := finish_playing (s := s.played (Pace.within s.ac97.po_picb f) b)
          hl running base last index next
        refine ⟨s', hs', ?_, ?_⟩
        · simp only [rest]
          rwa [if_pos (by omega)]
        · simp only [chunk]
          rw [List.take_of_length_le (by omega), ho', host_audio_played]
      · apply BitVec.eq_of_toNat_eq
        rw [hpicb, hf, Nat.sub_self]
        rfl

/-- **Playback integrity**: a start request plays the buffers of the descriptors from `civ` to
`lvi`, whatever the number of frames in a tick, and then the engine halts behind `lvi`. -/
theorem playback_integrity {v : u32} {bufs : List (List u16)} (hf : f ≠ 0)
    (hrun : v.getLsbD 0 = true) (hreset : v.getLsbD 1 = false) (hstop : s.ac97.po_running = false)
    (hciv : s.ac97.po_civ.toNat < 32) (hlvi : s.ac97.po_lvi.toNat < 32)
    (hbase : s.ac97.bdbar_playback ≠ 0) (hmapped : mapped banks s.ac97.bdbar_playback = true)
    (hbufs : (s.ac97.po_civ :: ring (ahead s.ac97.po_civ s.ac97.po_lvi) s.ac97.po_civ).mapM
      (bufferAt banks h s.ac97.bdbar_playback) = some bufs) :
    ∃ s₁, write_nabm banks h .b1 Devices.PO_CR v s = .ok () s₁ ∧
      ∃ N, ∀ n ≥ N, ∃ t, times (tick banks h (.fixed f)) n s₁ = .ok () t ∧
        t.host_audio = s.host_audio ++ bufs.flatten ∧
        t.ac97.po_running = false ∧ t.ac97.po_civ = (s.ac97.po_lvi + 1) &&& 0x1f ∧
        t.ac97.po_status.getLsbD 0 = true ∧ t.ac97.po_status.getLsbD 1 = false ∧
        t.ac97.po_status.getLsbD 2 = true := by
  rw [List.mapM_cons] at hbufs
  obtain ⟨b, hb, hrest⟩ := Option.bind_eq_some_iff.mp hbufs
  obtain ⟨bs, hbs, hcons⟩ := Option.bind_eq_some_iff.mp hrest
  cases hcons
  obtain ⟨bd, hd, he, hx⟩ := bufferAt_some hb
  obtain ⟨c, hstart⟩ := start_mem hrun hreset hstop hbase hmapped he hd
  refine ⟨_, hstart, weight (b :: bs), fun n hn => ?_⟩
  have hp : Playing banks h s.ac97.bdbar_playback s.ac97.po_lvi _ (b :: bs) :=
    playing_load (s := s.setAc97 { s.ac97.load bd with
        po_running := true
        po_status := s.ac97.po_status &&& ~~~1#16
        po_control := c }) rfl he hx rfl rfl rfl hciv hbs
  have hpos : 0 < 2 * f.toNat := by
    have : f.toNat ≠ 0 := fun h0 => hf (BitVec.eq_of_toNat_eq h0)
    omega
  obtain ⟨t, ht, hoff, hout⟩ :=
    drained (o := host_audio) hpos (fun s q => tick_playing (f := f) hbase hlvi) hp hn
  cases hoff with
  | off stopped index dch cip lvbci =>
    exact ⟨t, ht, hout, stopped, index, dch, cip, lvbci⟩

/-- A ring with one descriptor: two samples behind it. -/
def oneBuffer : HostBytes := fun _ o =>
  if o = 0 then 0x10 else if o = 1 then 0x10 else if o = 4 then 2 else if o = 16 then 0x34
  else if o = 17 then 0x12 else 0

def oneBank : List IMemoryBank := [⟨.RamBank, 0x1000, 0x100, .Big⟩]

def soundAt (bdbar : u32) : Sound :=
  ⟨{ Devices.reset with ac97 := { Devices.reset.ac97 with bdbar_playback := bdbar } }, []⟩

/-- Whether the engine still runs behind a run, and the samples put out. -/
def heard : EStateM.Result HostError Sound Unit → Option (Bool × List u16)
  | .ok _ t => some (t.ac97.po_running, t.host_audio)
  | .error _ _ => none

/-- The descriptors 31, 0 and 1, with two, four and two samples. -/
def threeBuffers : HostBytes := fun _ o => (([(0xf8, 0x10), (0xf9, 0x10), (0xfc, 2), (0, 0x14), (1, 0x10),
  (4, 4), (8, 0x1c), (9, 0x10), (0xc, 2), (0x10, 1), (0x12, 2), (0x14, 3), (0x16, 4), (0x18, 5),
  (0x1a, 6), (0x1c, 7), (0x1e, 8)] : List (Int × u8)).lookup o).getD 0

def wrapping : Sound :=
  ⟨{ Devices.reset with ac97 := { Devices.reset.ac97 with
      bdbar_playback := 0x1000, po_civ := 31, po_lvi := 1 } }, []⟩

/-- Three buffers around the end of the ring, a frame at a time. -/
theorem playback_integrity_wrap :
    ∃ s₁, write_nabm oneBank threeBuffers .b1 Devices.PO_CR 1 wrapping = .ok () s₁ ∧
      ∃ N, ∀ n ≥ N, ∃ t, times (tick oneBank threeBuffers (.fixed 1)) n s₁ = .ok () t ∧
        t.host_audio = [] ++ [[1, 2], [3, 4, 5, 6], [7, 8]].flatten ∧
        t.ac97.po_running = false ∧ t.ac97.po_civ = (1 + 1) &&& 0x1f ∧
        t.ac97.po_status.getLsbD 0 = true ∧ t.ac97.po_status.getLsbD 1 = false ∧
        t.ac97.po_status.getLsbD 2 = true :=
  playback_integrity (s := wrapping) (by decide) (by decide) (by decide) rfl (by decide)
    (by decide) (by decide) (by decide) (by decide +kernel)

end Sound

end SparcEmu
