import SparcEmu.IrqSystem

/-!
Two properties of controller and processors together: no processor sleeps on an interrupt, and
no processor takes an interrupt that is not there. Both fail in general, and both hold in the
runs that avoid certain steps.
-/

namespace SparcEmu

open Lib.System

/-! ### Pending and unmasked levels -/

variable {c : Fin 8} {s : IRQMP}

namespace IRQMP

/-- Level `L` is forced or pending for processor `c`, and not masked. -/
def Pending (s : IRQMP) (c : Fin 8) (L : Nat) : Prop :=
  (s.piforce c ||| s.ipend).getLsbD L = true ∧ (s.pimask c).getLsbD L = true

variable {L : Nat}

lemma pending_iff : s.Pending c L ↔
    ((s.piforce c).getLsbD L = true ∨ s.ipend.getLsbD L = true) ∧ (s.pimask c).getLsbD L = true := by
  unfold Pending
  rw [BitVec.getLsbD_or, Bool.or_eq_true]

lemma Pending.same {t : IRQMP} (h : s.Pending c L) (hs : SameLevels s t) : t.Pending c L := by
  unfold Pending
  rw [hs.piforce, hs.ipend, hs.pimask]
  exact h

lemma SameLevels.symm {t : IRQMP} (h : SameLevels s t) : SameLevels t s :=
  ⟨h.ipend.symm, h.piforce.symm, h.pimask.symm, h.irq_hint.symm, h.num_cpus.symm⟩

variable {IRL : u32}

lemma pending_trigger (h : (s.trigger_irq IRL).Pending c L) : s.Pending c L ∨ L = irlOf IRL := by
  rw [pending_iff] at h
  rw [(trigger_irq_kept IRL s).1] at h
  obtain ⟨h, hm⟩ := h
  by_cases hL : L = irlOf IRL
  · exact Or.inr hL
  · left
    rw [pending_iff]
    refine ⟨?_, hm⟩
    cases hb : s.brdcst.getLsbD (irlOf IRL) with
    | false =>
      obtain ⟨h1, h2⟩ := trigger_irq_plain hb
      rw [h1, h2, or_bitAt (irlOf_lt IRL), decide_eq_false hL, Bool.or_false] at h
      exact h
    | true =>
      obtain ⟨h1, h2⟩ := trigger_irq_broadcast hb
      rw [h1, h2] at h
      split_ifs at h
      · rw [or_bitAt (irlOf_lt IRL), decide_eq_false hL, Bool.or_false] at h
        exact h
      · exact h

lemma Pending.trigger (h : s.Pending c L) (IRL : u32) : (s.trigger_irq IRL).Pending c L := by
  rw [pending_iff] at h ⊢
  rw [(trigger_irq_kept IRL s).1]
  refine ⟨h.1.imp (fun hf => ?_) fun hp => ?_, h.2⟩
  · exact Op.step_piforce (o := .trigger_irq IRL) hf (fun h => h) rfl
  · exact Op.step_ipend (o := .trigger_irq IRL) hp (fun h => h) rfl

lemma pending_clear {d : Fin 8} (h : (s.clear_irq IRL d).Pending c L) : s.Pending c L := by
  rw [pending_iff] at h ⊢
  rw [(clear_irq_kept IRL d s).1] at h
  refine ⟨?_, h.2⟩
  cases hf : (s.piforce d).getLsbD (irlOf IRL) with
  | true =>
    obtain ⟨h1, h2⟩ := clear_irq_forced hf
    rw [h1, h2] at h
    refine h.1.imp (fun h => ?_) id
    by_cases hc : c = d
    · subst hc
      rw [Function.update_self, and_not_bitAt (irlOf_lt IRL), Bool.and_eq_true] at h
      exact h.1
    · rwa [Function.update_of_ne hc] at h
  | false =>
    obtain ⟨h1, h2⟩ := clear_irq_pending hf
    rw [h1, h2] at h
    refine h.1.imp id fun h => ?_
    rw [and_not_bitAt (irlOf_lt IRL), Bool.and_eq_true] at h
    exact h.1

/-- An acknowledgement leaves another processor's level if it is another level, or forced on one
of the two. -/
lemma Pending.clear {d : Fin 8} (h : s.Pending c L) (hc : c ≠ d)
    (hL : L = irlOf IRL → (s.piforce d).getLsbD L = true ∨ (s.piforce c).getLsbD L = true) :
    (s.clear_irq IRL d).Pending c L := by
  rw [pending_iff] at h ⊢
  rw [(clear_irq_kept IRL d s).1]
  refine ⟨?_, h.2⟩
  cases hf : (s.piforce d).getLsbD (irlOf IRL) with
  | true =>
    obtain ⟨h1, h2⟩ := clear_irq_forced hf
    rw [h1, h2, Function.update_of_ne hc]
    exact h.1
  | false =>
    obtain ⟨h1, h2⟩ := clear_irq_pending hf
    rw [h1, h2, and_not_bitAt (irlOf_lt IRL)]
    by_cases he : L = irlOf IRL
    · left
      refine (hL he).resolve_left fun h => ?_
      rw [he, hf] at h
      cases h
    · rw [decide_eq_false he, Bool.not_false, Bool.and_true]
      exact h.1

lemma HintsOk.pending (h : HintsOk s) (hc : c.val < s.num_cpus) (h0 : s.get_irq_hint c ≠ 0) :
    (s.get_irq_hint c).toNat ≤ 15 ∧ s.Pending c (s.get_irq_hint c).toNat := by
  unfold get_irq_hint at h0 ⊢
  rw [h c hc] at h0 ⊢
  have hf := topLevel_highest (s.piforce c) (s.pimask c)
  have hp := topLevel_highest s.ipend (s.pimask c)
  have hle : hintOf (s.piforce c) s.ipend (s.pimask c) ≤ 15 := by
    unfold hintOf
    split_ifs
    · exact hp.1
    · exact hf.1
  rw [BitVec.toNat_ofNat, Nat.mod_eq_of_lt (by omega)]
  have hne : hintOf (s.piforce c) s.ipend (s.pimask c) ≠ 0 := fun h => h0 (by rw [h]; rfl)
  refine ⟨hle, pending_iff.mpr ?_⟩
  unfold hintOf at hne ⊢
  split_ifs at hne ⊢ with hz
  · have := hp.2.1 hne
    rw [BitVec.getLsbD_and, Bool.and_eq_true] at this
    exact ⟨Or.inr this.1, this.2⟩
  · have := hf.2.1 hz
    rw [BitVec.getLsbD_and, Bool.and_eq_true] at this
    exact ⟨Or.inl this.1, this.2⟩

end IRQMP

/-! ### What the steps do to processors -/

variable {x : IrqCore}

namespace IrqSys

/-- Up to a raised wakeup flag. -/
def Woken (x y : IrqCore) : Prop := y = x ∨ y = { x with wakeup_flag := true }

lemma Woken.fields {y : IrqCore} (h : Woken x y) :
    y.irl = x.irl ∧ y.loop = x.loop ∧ (y.wakeup_flag = false → x.wakeup_flag = false) := by
  rcases h with rfl | rfl
  · exact ⟨rfl, rfl, id⟩
  · exact ⟨rfl, rfl, fun h => by cases h⟩

lemma wakeup_core (s : IrqSys) (c d : Fin 8) : Woken (s.core d) ((s.wakeup c).core d) := by
  unfold wakeup
  by_cases h : d = c
  · subst h
    exact Or.inr (Function.update_self ..)
  · exact Or.inl (Function.update_of_ne h ..)

lemma wakeup_self (s : IrqSys) (c : Fin 8) : ((s.wakeup c).core c).wakeup_flag = true := by
  unfold wakeup
  dsimp only
  rw [Function.update_self]

lemma wakeups_kept (w : List (Fin 8)) (s : IrqSys) : (w.foldl wakeup s).intc = s.intc ∧
    (w.foldl wakeup s).triggers = s.triggers ∧ (w.foldl wakeup s).wakes = s.wakes ∧
    ∀ c, Woken (s.core c) ((w.foldl wakeup s).core c) := by
  induction w generalizing s with
  | nil => exact ⟨rfl, rfl, rfl, fun c => Or.inl rfl⟩
  | cons d w ih =>
    obtain ⟨h1, h2, h3, h4⟩ := ih (s.wakeup d)
    refine ⟨h1, h2, h3, fun c => ?_⟩
    rcases wakeup_core s d c with h | h
    · have := h4 c
      rw [h] at this
      exact this
    · have := h4 c
      rw [h] at this
      exact Or.inr (this.elim id id)

end IrqSys

structure IrqEvent.Written (s : IrqSys) (offset value : u32) (t : IrqSys) (w : List (Fin 8)) : Prop where
  intc : s.intc.Wrote offset value t.intc w
  triggers : t.triggers = s.triggers
  wakes : ∀ c, c ∈ s.wakes → c ∈ t.wakes
  forced : 0x80 ≤ offset ∧ offset < 0xa0 → ∀ c, c ∈ w → c ∈ t.wakes
  core : ∀ c, IrqSys.Woken (s.core c) (t.core c)

lemma IrqEvent.wrote_written (s : IrqSys) (offset value : u32) :
    wrote s offset value = s ∨ ∃ w, Written s offset value (wrote s offset value) w := by
  unfold wrote
  cases h : s.intc.write offset value with
  | error e => exact Or.inl rfl
  | ok x =>
    obtain ⟨intc, w⟩ := x
    right
    refine ⟨w, ?_⟩
    dsimp only
    by_cases hf : 0x80 ≤ offset ∧ offset < 0xa0
    · rw [if_pos hf]
      exact ⟨IRQMP.write_wrote h, rfl, fun c hc => List.mem_append_left _ hc,
        fun _ c hc => List.mem_append_right _ hc, fun c => Or.inl rfl⟩
    · rw [if_neg hf]
      obtain ⟨h1, h2, h3, h4⟩ := IrqSys.wakeups_kept w { s with intc := intc }
      exact ⟨by rw [h1]; exact IRQMP.write_wrote h, h2, fun c hc => by rw [h3]; exact hc,
        fun h => absurd h hf, h4⟩

/-! ### Sleep -/

variable {t : IrqSys}

namespace IrqSys

/-- Blocked in `enter_powerdown`, and nobody has called `wakeup`. -/
def Asleep (s : IrqSys) (c : Fin 8) : Prop :=
  (s.core c).loop = .powerdown ∧ (s.core c).wakeup_flag = false

/-- A call in progress will still look at the processor: a `trigger_irq` whose loop has not come
to it, or a write to its force register. -/
def WakeupInProgress (s : IrqSys) (c : Fin 8) : Prop :=
  (∃ t ∈ s.triggers, t.next ≤ c.val) ∨ c ∈ s.wakes

/-- The processor sleeps although an interrupt is there, and nothing will wake it. -/
def SleepsOnIrq (s : IrqSys) (c : Fin 8) : Prop :=
  s.Asleep c ∧ ¬ s.WakeupInProgress c ∧ ∃ L, 1 ≤ L ∧ L ≤ 15 ∧ s.intc.Pending c L

/-- A call in progress will still wake the processor if it has level `L` unmasked. -/
def Covered (s : IrqSys) (c : Fin 8) (L : Nat) : Prop :=
  (∃ t ∈ s.triggers, IRQMP.irlOf t.IRL = L ∧ t.next ≤ c.val) ∨ c ∈ s.wakes

/-- Every interrupt of a sleeping processor is on its way to wake it. -/
def Watched (s : IrqSys) : Prop := ∀ c : Fin 8, c.val < s.intc.num_cpus → s.Asleep c →
  ∀ L, 1 ≤ L → L ≤ 15 → s.intc.Pending c L → s.Covered c L

lemma Watched.not_sleeps {s : IrqSys} (h : s.Watched) (hc : c.val < s.intc.num_cpus) :
    ¬ s.SleepsOnIrq c := by
  rintro ⟨ha, hn, L, h1, h15, hp⟩
  rcases h c hc ha L h1 h15 hp with ⟨t, ht, -, hle⟩ | hw
  · exact hn (Or.inl ⟨t, ht, hle⟩)
  · exact hn (Or.inr hw)

/-- Nothing new is pending, nobody new is asleep, and the calls in progress still are. -/
lemma Watched.mono {s : IrqSys} (h : s.Watched) (hn : t.intc.num_cpus = s.intc.num_cpus)
    (ha : ∀ c, t.Asleep c → s.Asleep c)
    (hp : ∀ c L, t.Asleep c → 1 ≤ L → L ≤ 15 → t.intc.Pending c L → s.intc.Pending c L ∨ t.Covered c L)
    (hc : ∀ c L, t.Asleep c → t.intc.Pending c L → s.Covered c L → t.Covered c L) : t.Watched := by
  intro c hcn hac L h1 h15 hpt
  rcases hp c L hac h1 h15 hpt with hps | hcov
  · exact hc c L hac hpt (h c (by rw [← hn]; exact hcn) (ha c hac) L h1 h15 hps)
  · exact hcov

end IrqSys

/-- The steps that lose no wakeup: a processor powers down only if every interrupt that is there will
still wake it (or a wakeup has come already), and no write to its mask or to the pending register
makes an interrupt appear while it sleeps. -/
def IrqEvent.Careful (e : IrqEvent) (s : IrqSys) : Prop :=
  match e with
  | .powerdown c => (s.core c).wakeup_flag = true ∨
    ∀ L, 1 ≤ L → L ≤ 15 → s.intc.Pending c L → s.Covered c L
  | .write offset value =>
    (0x40 ≤ offset ∧ offset < 0x60 → s.Asleep (IRQMP.cpuReg offset 0x40) → ∀ L, 1 ≤ L → L ≤ 15 →
      value.getLsbD L = true →
      (s.intc.piforce (IRQMP.cpuReg offset 0x40) ||| s.intc.ipend).getLsbD L = true →
      (s.intc.pimask (IRQMP.cpuReg offset 0x40)).getLsbD L = true) ∧
    (offset = IRQMP.IPEND_OS → ∀ c, s.Asleep c → ∀ L, 1 ≤ L → L ≤ 15 → value.getLsbD L = true →
      (s.intc.pimask c).getLsbD L = true → (s.intc.piforce c ||| s.intc.ipend).getLsbD L = true)
  | _ => True

namespace IrqSys

variable {s : IrqSys}

lemma Watched.trigger (h : s.Watched) (IRL : u32) :
    Watched { s with intc := s.intc.trigger_irq IRL, triggers := s.triggers ++ [⟨IRL, 0⟩] } := by
  refine h.mono (IRQMP.trigger_irq_kept IRL s.intc).2 (fun c hc => hc) (fun c L _ _ _ hp => ?_)
    fun c L _ _ hc => ?_
  · refine (IRQMP.pending_trigger hp).imp id fun hL => Or.inl ⟨⟨IRL, 0⟩, ?_, hL.symm, Nat.zero_le _⟩
    exact List.mem_append_right _ (List.mem_singleton_self _)
  · exact hc.imp (fun ⟨t, ht, h⟩ => ⟨t, List.mem_append_left _ ht, h⟩) id

/-- A turn of a loop of wakeups passes one processor, which it wakes or which has the level
masked. -/
lemma Watched.turn (h : s.Watched) {k : Nat} {t : Trigger} (ht : s.triggers[k]? = some t) :
    Watched (IrqEvent.turn s k t) := by
  unfold IrqEvent.turn
  by_cases hn : t.next < s.intc.num_cpus
  · rw [dif_pos hn]
    dsimp only
    set c : Fin 8 := ⟨t.next, Nat.lt_of_lt_of_le hn s.intc.num_le⟩
    have hlen : k < s.triggers.length := (List.getElem?_eq_some_iff.mp ht).1
    -- the call still covers the processors behind the one it has passed
    have hcov : ∀ d L, s.Covered d L → (d = c → L ≠ IRQMP.irlOf t.IRL) →
        (∃ u ∈ s.triggers.set k { t with next := t.next + 1 },
          IRQMP.irlOf u.IRL = L ∧ u.next ≤ d.val) ∨ d ∈ s.wakes := by
      rintro d L (⟨u, hu, hL, hle⟩ | hw) hd
      · left
        obtain ⟨j, hj⟩ := List.getElem?_of_mem hu
        by_cases hjk : j = k
        · subst hjk
          obtain rfl : u = t := Option.some.inj (hj.symm.trans ht)
          refine ⟨{ u with next := u.next + 1 }, List.mem_set hlen _, hL, ?_⟩
          by_cases hdc : d = c
          · exact absurd hL.symm (hd hdc)
          · have : d.val ≠ u.next := fun he => hdc (Fin.ext he)
            show u.next + 1 ≤ d.val
            omega
        · refine ⟨u, List.mem_of_getElem? (i := j) ?_, hL, hle⟩
          rw [List.getElem?_set_ne (Ne.symm hjk)]
          exact hj
      · exact Or.inr hw
    split_ifs with hw
    · refine h.mono rfl (fun d hd => ?_) (fun d L _ _ _ hp => Or.inl hp) fun d L hd _ hc => ?_
      · obtain ⟨-, h2, h3⟩ := (wakeup_core _ c d).fields
        exact ⟨h2.symm.trans hd.1, h3 hd.2⟩
      · refine hcov d L hc fun hdc => ?_
        subst hdc
        have hup := hd.2
        rw [wakeup_self] at hup
        cases hup
    · refine h.mono rfl (fun d hd => hd) (fun d L _ _ _ hp => Or.inl hp) fun d L _ hp hc => ?_
      refine hcov d L hc ?_
      rintro rfl rfl
      exact hw hp.2
  · rw [dif_neg hn]
    intro d hd ha L h1 h15 hp
    refine (h d hd ha L h1 h15 hp).imp ?_ id
    rintro ⟨u, hu, hL, hle⟩
    obtain ⟨j, hj⟩ := List.getElem?_of_mem hu
    have hjk : j ≠ k := by
      rintro rfl
      obtain rfl : u = t := Option.some.inj (hj.symm.trans ht)
      have : d.val < s.intc.num_cpus := hd
      omega
    exact ⟨u, List.mem_eraseIdx_iff_getElem?.mpr ⟨j, hjk, hj⟩, hL, hle⟩

lemma Watched.wrote (h : s.Watched) {offset value : u32}
    (hx : (IrqEvent.write offset value).Careful s) : Watched (IrqEvent.wrote s offset value) := by
  rcases IrqEvent.wrote_written s offset value with he | ⟨w, hw⟩
  · rw [he]
    exact h
  generalize IrqEvent.wrote s offset value = t at hw
  have ha : ∀ c, t.Asleep c → s.Asleep c := fun c hc => by
    obtain ⟨-, h2, h3⟩ := (hw.core c).fields
    exact ⟨h2.symm.trans hc.1, h3 hc.2⟩
  refine h.mono hw.intc.num_cpus ha (fun c L hc h1 h15 hp => ?_)
    fun c L _ _ hc => hc.imp (fun ⟨u, hu, h⟩ => ⟨u, by rw [hw.triggers]; exact hu, h⟩) (hw.wakes c)
  have hforced := hw.forced
  have hi := hw.intc
  generalize t.intc = i at hi hp
  cases hi with
  | pimask ho =>
    left
    by_cases hcn : c = IRQMP.cpuReg offset 0x40
    · subst hcn
      have hv : value.getLsbD L = true := by
        have := hp.2
        rwa [IRQMP.write_pimask_pimask, Function.update_self] at this
      exact ⟨hp.1, hx.1 ho (ha _ hc) L h1 h15 hv hp.1⟩
    · refine ⟨hp.1, ?_⟩
      have := hp.2
      rwa [IRQMP.write_pimask_pimask, Function.update_of_ne hcn] at this
  | piforce ho =>
    by_cases hcn : c = IRQMP.cpuReg offset 0x80
    · subst hcn
      have hm : (s.intc.pimask (IRQMP.cpuReg offset 0x80)).getLsbD L = true := hp.2
      by_cases hv : value.getLsbD L = true
      · right
        right
        refine hforced ho _ ?_
        have hne : value &&& s.intc.pimask (IRQMP.cpuReg offset 0x80) ≠ 0 := fun h0 => by
          have := congrArg (fun x => BitVec.getLsbD x L) h0
          simp only [BitVec.getLsbD_and, hv, hm, Bool.and_self] at this
          simp at this
        rw [if_pos hne]
        exact List.mem_singleton_self _
      · left
        have hv : value.getLsbD L = false := Bool.eq_false_iff.mpr hv
        refine IRQMP.pending_iff.mpr ⟨?_, hm⟩
        have := (IRQMP.pending_iff.mp hp).1
        rwa [IRQMP.write_piforce_piforce, Function.update_self,
          BitVec.getLsbD_or, hv, Bool.or_false] at this
    · left
      refine IRQMP.pending_iff.mpr ⟨?_, hp.2⟩
      have := (IRQMP.pending_iff.mp hp).1
      rwa [IRQMP.write_piforce_piforce, Function.update_of_ne hcn] at this
  | ipend ho =>
    left
    rcases (IRQMP.pending_iff.mp hp).1 with hf | hv
    · exact IRQMP.pending_iff.mpr ⟨Or.inl hf, hp.2⟩
    · exact ⟨hx.2 ho c (ha c hc) L h1 h15 hv hp.2, hp.2⟩
  | iforce => exact Or.inl hp
  | iclear ho =>
    left
    refine IRQMP.pending_iff.mpr ⟨(IRQMP.pending_iff.mp hp).1.imp id fun hi => ?_, hp.2⟩
    have hi : (s.intc.ipend &&& ~~~(value &&& 0xfffe)).getLsbD L = true := hi
    rw [BitVec.getLsbD_and, Bool.and_eq_true] at hi
    exact hi.1
  | other hs => exact Or.inl (hp.same hs.symm)

lemma Watched.setCore (h : s.Watched) {i : IRQMP} (hn : i.num_cpus = s.intc.num_cpus)
    (hi : ∀ d L, i.Pending d L → s.intc.Pending d L)
    (hx : x.loop = .powerdown → x.wakeup_flag = true ∨
      ∀ L, 1 ≤ L → L ≤ 15 → s.intc.Pending c L → s.Covered c L) :
    Watched { s.setCore c x with intc := i } := by
  intro d hd ha L h1 h15 hp
  by_cases hdc : d = c
  · subst hdc
    obtain ⟨ha1, ha2⟩ := ha
    dsimp only [IrqSys.setCore] at ha1 ha2
    rw [Function.update_self] at ha1 ha2
    rcases hx ha1 with hf | hnp
    · rw [hf] at ha2
      cases ha2
    · exact hnp L h1 h15 (hi d L hp)
  · have ha' : s.Asleep d := by
      obtain ⟨ha1, ha2⟩ := ha
      dsimp only [IrqSys.setCore] at ha1 ha2
      rw [Function.update_of_ne hdc] at ha1 ha2
      exact ⟨ha1, ha2⟩
    exact h d (by rw [← hn]; exact hd) ha' L h1 h15 (hi d L hp)

lemma Watched.wake (h : s.Watched) {k : Nat} (hk : s.wakes[k]? = some c) :
    Watched ({ s with wakes := s.wakes.eraseIdx k }.wakeup c) := by
  intro d hd ha L h1 h15 hp
  have hdc : d ≠ c := by
    rintro rfl
    have := ha.2
    rw [wakeup_self] at this
    cases this
  have ha' : s.Asleep d := by
    obtain ⟨-, h2, h3⟩ := (wakeup_core { s with wakes := s.wakes.eraseIdx k } c d).fields
    exact ⟨h2.symm.trans ha.1, h3 ha.2⟩
  refine (h d hd ha' L h1 h15 hp).imp id fun hw => ?_
  obtain ⟨j, hj⟩ := List.getElem?_of_mem hw
  refine List.mem_eraseIdx_iff_getElem?.mpr ⟨j, ?_, hj⟩
  rintro rfl
  exact hdc (Option.some.inj (hj.symm.trans hk))

/-- **Every careful step** keeps the interrupts of sleeping processors watched. -/
lemma Watched.step (h : s.Watched) {e : IrqEvent} (hx : e.Careful s) (hs : e.step s = some t) :
    t.Watched := by
  unfold IrqEvent.step at hs
  cases e with
  | trigger IRL => cases hs; exact h.trigger IRL
  | loop k =>
    obtain ⟨u, hu, rfl⟩ := Option.map_eq_some_iff.mp hs
    exact h.turn hu
  | write offset value => cases hs; exact h.wrote hx
  | wake k =>
    obtain ⟨c, hc, hs⟩ := Option.bind_eq_some_iff.mp hs
    split_ifs at hs
    cases hs
    exact h.wake hc
  | poll c =>
    obtain ⟨-, -, rfl⟩ := IrqEvent.onCore_eq_some hs
    exact h.setCore rfl (fun _ _ hp => hp) (fun hl => by cases hl)
  | take c =>
    obtain ⟨-, -, rfl⟩ := IrqEvent.onCore_eq_some hs
    refine h.setCore ?_ (fun d L hp => ?_) (fun hl => by cases hl)
    · split_ifs
      · exact (IRQMP.clear_irq_kept _ _ _).2
      · rfl
    · split_ifs at hp
      · exact IRQMP.pending_clear hp
      · exact hp
  | instr c psr tt =>
    obtain ⟨-, -, rfl⟩ := IrqEvent.onCore_eq_some hs
    exact h.setCore rfl (fun _ _ hp => hp) (fun hl => by cases hl)
  | powerdown c =>
    obtain ⟨-, -, rfl⟩ := IrqEvent.onCore_eq_some hs
    exact h.setCore rfl (fun _ _ hp => hp) (fun _ => hx)
  | rise c =>
    dsimp only at hs
    split_ifs at hs
    obtain ⟨-, -, rfl⟩ := IrqEvent.onCore_eq_some hs
    exact h.setCore rfl (fun _ _ hp => hp) (fun hl => by cases hl)
  | risen c =>
    obtain ⟨-, -, rfl⟩ := IrqEvent.onCore_eq_some hs
    exact h.setCore rfl (fun _ _ hp => hp) (fun hl => by cases hl)

/-- The machine after reset: the controller is fresh and no processor has latched a level. -/
structure Booted (n : Nat) (s : IrqSys) : Prop where
  intc : IRQMP.reset n = .ok s.intc
  irl : ∀ c, (s.core c).irl = 0
  triggers : s.triggers = []
  wakes : s.wakes = []

lemma Booted.not_pending {n : Nat} (h : s.Booted n) (c : Fin 8) (L : Nat) : ¬ s.intc.Pending c L := by
  have h0 := h.intc
  unfold IRQMP.reset at h0
  by_cases hn : n ≤ 8
  · rw [dif_pos hn] at h0
    rw [← Except.ok.inj h0]
    rintro ⟨-, hm⟩
    have hm : (0 : u32).getLsbD L = true := hm
    simp at hm
  · rw [dif_neg hn] at h0
    cases h0

/-- **Sleep**: in every run whose steps are careful, no processor is ever blocked in power-down
with an interrupt pending and unmasked and no wakeup on its way. -/
theorem never_sleeps_on_irq {n : Nat} {s₀ s : IrqSys} (h₀ : s₀.Booted n)
    (h : Reach IrqEvent.step IrqEvent.Careful s₀ s) (c : Fin 8) (hc : c.val < s.intc.num_cpus) :
    ¬ s.SleepsOnIrq c := by
  have hw : s.Watched := h.inv (I := Watched)
    (fun d _ _ L _ _ hp => absurd hp (h₀.not_pending d L)) fun e u v hu hx hv => hu.step hx hv
  exact hw.not_sleeps hc

def single (pil : u32) (countdown : Nat) : IrqSys where
  intc := IRQMP.one
  core := fun _ => { psr := (1 <<< 5) ||| (pil <<< 8), countdown := countdown }

lemma single_booted (pil : u32) (countdown : Nat) : (single pil countdown).Booted 1 :=
  ⟨rfl, fun _ => rfl, rfl, rfl⟩

/-- It powers down while a call of `trigger_irq` has still to come to its wakeup. -/
theorem never_sleeps_on_irq_called : ∃ s, Reach IrqEvent.step IrqEvent.Careful (single 0 64) s ∧
    s.Asleep 0 ∧ s.intc.Pending 0 8 ∧ ¬ s.SleepsOnIrq 0 := by
  obtain ⟨s, hs⟩ : ∃ s, Lib.Interleave.run IrqEvent.step
      [.write 0x40 0x100, .poll 0, .take 0, .trigger 8, .powerdown 0] (single 0 64) = some s := ⟨_, rfl⟩
  have hr : Reach IrqEvent.step IrqEvent.Careful (single 0 64) s := by
    refine reach_of_run (l := [.write 0x40 0x100, .poll 0, .take 0, .trigger 8, .powerdown 0]) .start
      ⟨⟨fun _ h => absurd h.1 (by decide), fun h => absurd h (by decide)⟩, fun s₁ h₁ => ⟨trivial,
        fun s₂ h₂ => ⟨trivial, fun s₃ h₃ => ⟨trivial, fun s₄ h₄ => ⟨?_, fun _ _ => trivial⟩⟩⟩⟩⟩ hs
    cases h₁
    cases h₂
    cases h₃
    cases h₄
    refine Or.inr fun L h1 h15 hp => Or.inl ⟨⟨8, 0⟩, List.mem_singleton_self _, ?_, Nat.zero_le _⟩
    have hm : (0x100 : u32).getLsbD L = true := hp.2
    interval_cases L <;> first | rfl | exact absurd hm (by decide)
  have hn := never_sleeps_on_irq (single_booted 0 64) hr 0
  cases hs
  exact ⟨_, hr, ⟨rfl, rfl⟩, ⟨rfl, rfl⟩, hn (by decide)⟩

/-- A level is triggered while the processor runs. The processor powers down, returns at once
because of the wakeup, and powers down again before it has looked at the controller. -/
def twoNaps : List IrqEvent :=
  [.write 0x40 0x100, .trigger 8, .loop 0, .loop 0, .poll 0, .take 0, .powerdown 0, .rise 0, .risen 0,
   .poll 0, .take 0, .powerdown 0]

/-- Now it sleeps while level 8 is pending and unmasked. -/
theorem sleeps_on_irq : ∃ s₀ s, IrqSys.Booted 1 s₀ ∧ Reach IrqEvent.step (fun _ _ => True) s₀ s ∧
    s.SleepsOnIrq 0 := by
  refine ⟨single 0 64, _, single_booted 0 64, reach_run (l := twoNaps) rfl, ⟨rfl, rfl⟩, ?_,
    8, by decide, by decide, by decide, by decide⟩
  rintro (⟨t, ht, -⟩ | hw)
  · exact absurd ht List.not_mem_nil
  · exact absurd hw List.not_mem_nil

end IrqSys

/-! ### Acceptance -/

/-- The steps that take no latched level away: another processor's acknowledgement does not clear
the pending bit that a latched level rests on, and neither does a write to `ICLEAR` or `IPEND`; and
no write masks a latched level. -/
def IrqEvent.Withdraws (e : IrqEvent) (s : IrqSys) (c : Fin 8) (L : Nat) : Prop :=
  match e with
  | .take d => (s.core d).takes = true ∧ c ≠ d ∧ (s.core d).irl.toNat = L ∧
      (s.intc.piforce d).getLsbD L = false ∧ (s.intc.piforce c).getLsbD L = false
  | .write offset value =>
    (0x40 ≤ offset ∧ offset < 0x60 ∧ c = IRQMP.cpuReg offset 0x40 ∧ value.getLsbD L = false) ∨
    (offset = IRQMP.IPEND_OS ∧ value.getLsbD L = false ∧ (s.intc.piforce c).getLsbD L = false) ∨
    (offset = IRQMP.ICLEAR_OS ∧ value.getLsbD L = true ∧ (s.intc.piforce c).getLsbD L = false)
  | _ => False

/-- The step withdraws no level that a processor has latched. -/
def IrqEvent.Keeps (e : IrqEvent) (s : IrqSys) : Prop :=
  ∀ c : Fin 8, c.val < s.intc.num_cpus → (s.core c).irl ≠ 0 → ¬ e.Withdraws s c (s.core c).irl.toNat

namespace IrqSys

variable {s : IrqSys}

/-- The hints are up to date, and what a processor has latched is still there. -/
structure Latched (s : IrqSys) : Prop where
  hints : IRQMP.HintsOk s.intc
  irl : ∀ c : Fin 8, c.val < s.intc.num_cpus → (s.core c).irl ≠ 0 →
    (s.core c).irl.toNat ≤ 15 ∧ s.intc.Pending c (s.core c).irl.toNat

lemma Latched.mono (h : s.Latched) (hh : IRQMP.HintsOk t.intc)
    (hn : t.intc.num_cpus = s.intc.num_cpus)
    (hi : ∀ c, c.val < s.intc.num_cpus → (t.core c).irl ≠ 0 → (t.core c).irl = (s.core c).irl ∧
      (s.intc.Pending c (s.core c).irl.toNat → t.intc.Pending c (s.core c).irl.toNat)) :
    t.Latched := by
  refine ⟨hh, fun c hc h0 => ?_⟩
  rw [hn] at hc
  obtain ⟨he, hp⟩ := hi c hc h0
  rw [he] at h0 ⊢
  obtain ⟨h1, h2⟩ := h.irl c hc h0
  exact ⟨h1, hp h2⟩

lemma Latched.wrote (h : s.Latched) {offset value : u32}
    (hx : (IrqEvent.write offset value).Keeps s) : Latched (IrqEvent.wrote s offset value) := by
  rcases IrqEvent.wrote_written s offset value with he | ⟨w, hw⟩
  · rw [he]
    exact h
  generalize IrqEvent.wrote s offset value = t at hw
  refine h.mono (hw.intc.hintsOk h.hints) hw.intc.num_cpus fun c hc h0 => ?_
  have hirl := (hw.core c).fields.1
  rw [hirl] at h0
  refine ⟨hirl, fun hp => ?_⟩
  have hx := hx c hc h0
  have hi := hw.intc
  generalize (s.core c).irl.toNat = L at hp hx
  unfold IrqEvent.Withdraws at hx
  push Not at hx
  obtain ⟨hx1, hx2, hx3⟩ := hx
  generalize t.intc = i at hi
  rw [IRQMP.pending_iff] at hp ⊢
  cases hi with
  | pimask ho =>
    refine ⟨hp.1, ?_⟩
    rw [IRQMP.write_pimask_pimask]
    by_cases hcn : c = IRQMP.cpuReg offset 0x40
    · have := hx1 ho.1 ho.2 hcn
      rw [hcn, Function.update_self]
      exact eq_true_of_ne_false this
    · rw [Function.update_of_ne hcn]
      exact hp.2
  | piforce ho =>
    refine ⟨hp.1.imp (fun hf => ?_) id, hp.2⟩
    rw [IRQMP.write_piforce_piforce]
    by_cases hcn : c = IRQMP.cpuReg offset 0x80
    · subst hcn
      rw [Function.update_self, BitVec.getLsbD_or, hf, Bool.true_or]
    · rw [Function.update_of_ne hcn]
      exact hf
  | ipend ho =>
    refine ⟨?_, hp.2⟩
    by_cases hv : value.getLsbD L = true
    · exact Or.inr hv
    · exact Or.inl (eq_true_of_ne_false (hx2 ho (Bool.eq_false_iff.mpr hv)))
  | iforce => exact hp
  | iclear ho =>
    refine ⟨?_, hp.2⟩
    by_cases hv : value.getLsbD L = true
    · exact Or.inl (eq_true_of_ne_false (hx3 ho hv))
    · refine hp.1.imp id fun hi => ?_
      have hlt := BitVec.lt_of_getLsbD hi
      show (s.intc.ipend &&& ~~~(value &&& 0xfffe)).getLsbD L = true
      rw [BitVec.getLsbD_and, BitVec.getLsbD_not, BitVec.getLsbD_and, hi, Bool.eq_false_iff.mpr hv]
      simp [hlt]
  | other hs => exact IRQMP.pending_iff.mp ((IRQMP.pending_iff.mpr hp).same hs)

lemma Latched.poll (h : s.Latched) (hc : c.val < s.intc.num_cpus) :
    Latched (s.setCore c { (s.core c).poll (s.intc.get_irq_hint c) with loop := .take }) := by
  refine ⟨h.hints, fun d hd h0 => ?_⟩
  dsimp only [IrqSys.setCore] at h0 ⊢
  by_cases hdc : d = c
  · subst hdc
    rw [Function.update_self] at h0 ⊢
    unfold IrqCore.poll at h0 ⊢
    split_ifs at h0 ⊢ with h1 h2
    · have hne : s.intc.get_irq_hint d ≠ 0 := by
        intro he
        rw [he] at h2
        exact absurd h2.1 (by rw [BitVec.lt_def]; exact Nat.not_lt_zero _)
      obtain ⟨hle, hp⟩ := h.hints.pending hc hne
      have hand : (s.intc.get_irq_hint d &&& 0xf).toNat = (s.intc.get_irq_hint d).toNat := by
        have : (s.intc.get_irq_hint d &&& 0xf).toNat = (s.intc.get_irq_hint d).toNat % 16 :=
          Lib.Bits.toNat_low (n := 4) (by decide)
        omega
      dsimp only
      rw [hand]
      exact ⟨hle, hp⟩
    · exact h.irl d hd h0
    · exact h.irl d hd h0
  · rw [Function.update_of_ne hdc] at h0 ⊢
    exact h.irl d hd h0

lemma take_irl (c : IrqCore) : c.take.irl = if c.takes then 0 else c.irl := by
  unfold IrqCore.take
  dsimp only
  split_ifs <;> rfl

lemma irl_of_takes {c : IrqCore} (h : c.takes = true) : c.irl ≠ 0 := by
  unfold IrqCore.takes at h
  simp only [Bool.and_eq_true, decide_eq_true_eq] at h
  intro h0
  rw [h0] at h
  exact absurd h.2 (by rw [BitVec.lt_def]; exact Nat.not_lt_zero _)

lemma Latched.take (h : s.Latched) (hc : c.val < s.intc.num_cpus) (hx : (IrqEvent.take c).Keeps s) :
    Latched { s.setCore c { (s.core c).take with loop := .instr } with
      intc := if (s.core c).takes then s.intc.clear_irq (s.core c).irl c else s.intc } := by
  cases ht : (s.core c).takes with
  | false =>
    refine h.mono h.hints rfl fun d hd h0 => ⟨?_, id⟩
    dsimp only [IrqSys.setCore]
    by_cases hdc : d = c
    · subst hdc
      rw [Function.update_self]
      dsimp only
      rw [take_irl, ht]
      rfl
    · rw [Function.update_of_ne hdc]
  | true =>
    obtain ⟨hle, -⟩ := h.irl c hc (irl_of_takes ht)
    have hirl : IRQMP.irlOf (s.core c).irl = (s.core c).irl.toNat := by
      have : IRQMP.irlOf (s.core c).irl = (s.core c).irl.toNat % 16 :=
        Lib.Bits.toNat_low (n := 4) (by decide)
      omega
    refine h.mono (IRQMP.hintsOk_update _) (IRQMP.clear_irq_kept _ _ _).2 fun d hd h0 => ?_
    dsimp only [IrqSys.setCore] at h0 ⊢
    by_cases hdc : d = c
    · subst hdc
      rw [Function.update_self] at h0
      dsimp only at h0
      rw [take_irl, ht] at h0
      exact absurd rfl h0
    · rw [Function.update_of_ne hdc] at h0 ⊢
      refine ⟨rfl, fun hp => hp.clear hdc fun hL => ?_⟩
      -- the other acknowledgement clears a forced bit, or this level is forced too
      by_contra hn
      push Not at hn
      rw [hirl] at hL
      exact hx d hd h0 ⟨ht, hdc, hL.symm, Bool.eq_false_iff.mpr hn.1, Bool.eq_false_iff.mpr hn.2⟩

lemma Latched.same (h : s.Latched) (hi : t.intc = s.intc)
    (hc : ∀ c, (t.core c).irl = (s.core c).irl) : t.Latched := by
  refine h.mono (by rw [hi]; exact h.hints) (by rw [hi]) fun c _ _ => ⟨hc c, fun hp => ?_⟩
  rw [hi]
  exact hp

lemma setCore_irl (hx : x.irl = (s.core c).irl) (d : Fin 8) :
    ((s.setCore c x).core d).irl = (s.core d).irl := by
  unfold IrqSys.setCore
  by_cases hd : d = c
  · subst hd
    dsimp only
    rw [Function.update_self, hx]
  · dsimp only
    rw [Function.update_of_ne hd]

/-- **Every step that withdraws nothing** keeps the latched levels. -/
lemma Latched.step (h : s.Latched) {e : IrqEvent} (hx : e.Keeps s) (hs : e.step s = some t) :
    t.Latched := by
  unfold IrqEvent.step at hs
  cases e with
  | trigger IRL =>
    cases hs
    exact h.mono (IRQMP.hintsOk_update _) (IRQMP.trigger_irq_kept _ _).2 fun c _ _ =>
      ⟨rfl, fun hp => hp.trigger IRL⟩
  | loop k =>
    obtain ⟨u, hu, rfl⟩ := Option.map_eq_some_iff.mp hs
    unfold IrqEvent.turn
    by_cases hn : u.next < s.intc.num_cpus
    · rw [dif_pos hn]
      dsimp only
      split_ifs
      · exact h.same rfl fun c => (wakeup_core _ _ c).fields.1
      · exact h.same rfl fun c => rfl
    · rw [dif_neg hn]
      exact h.same rfl fun c => rfl
  | write offset value => cases hs; exact h.wrote hx
  | wake k =>
    obtain ⟨c, hc, hs⟩ := Option.bind_eq_some_iff.mp hs
    split_ifs at hs
    cases hs
    exact h.same rfl fun d => (wakeup_core { s with wakes := s.wakes.eraseIdx k } c d).fields.1
  | poll c =>
    obtain ⟨hc, -, rfl⟩ := IrqEvent.onCore_eq_some hs
    exact h.poll hc
  | take c =>
    obtain ⟨hc, -, rfl⟩ := IrqEvent.onCore_eq_some hs
    exact h.take hc hx
  | instr c psr tt =>
    obtain ⟨-, -, rfl⟩ := IrqEvent.onCore_eq_some hs
    exact h.same rfl (setCore_irl rfl)
  | powerdown c =>
    obtain ⟨-, -, rfl⟩ := IrqEvent.onCore_eq_some hs
    exact h.same rfl (setCore_irl rfl)
  | rise c =>
    dsimp only at hs
    split_ifs at hs
    obtain ⟨-, -, rfl⟩ := IrqEvent.onCore_eq_some hs
    exact h.same rfl (setCore_irl rfl)
  | risen c =>
    obtain ⟨-, -, rfl⟩ := IrqEvent.onCore_eq_some hs
    exact h.same rfl (setCore_irl rfl)

/-- **Acceptance**: in every run in which no step withdraws a latched level, a processor that
takes an interrupt takes one that is pending for it and unmasked. -/
theorem accepts_pending {n : Nat} {s₀ s t : IrqSys} (h₀ : s₀.Booted n)
    (h : Reach IrqEvent.step IrqEvent.Keeps s₀ s) (c : Fin 8)
    (hs : (IrqEvent.take c).step s = some t) (ht : (s.core c).takes = true) :
    1 ≤ (s.core c).irl.toNat ∧ (s.core c).irl.toNat ≤ 15 ∧
      s.intc.Pending c (s.core c).irl.toNat := by
  have hl : s.Latched := h.inv (I := Latched)
    ⟨(IRQMP.hintsOk_reset h₀.intc).1, fun d _ h0 => absurd (h₀.irl d) h0⟩
    fun e u v hu hx hv => hu.step hx hv
  unfold IrqEvent.step at hs
  obtain ⟨hc, -, -⟩ := IrqEvent.onCore_eq_some hs
  have h0 := irl_of_takes ht
  obtain ⟨h15, hp⟩ := hl.irl c hc h0
  refine ⟨Nat.one_le_iff_ne_zero.mpr fun he => h0 ?_, h15, hp⟩
  exact BitVec.eq_of_toNat_eq he

/-- Level 5 is unmasked, triggered, latched and taken. -/
theorem accepts_pending_level : ∃ s, Reach IrqEvent.step IrqEvent.Keeps (single 0 1) s ∧
    1 ≤ (s.core 0).irl.toNat ∧ (s.core 0).irl.toNat ≤ 15 ∧
    s.intc.Pending 0 (s.core 0).irl.toNat := by
  obtain ⟨s, hs⟩ : ∃ s, Lib.Interleave.run IrqEvent.step
      [.write 0x40 0x20, .trigger 5, .poll 0] (single 0 1) = some s := ⟨_, rfl⟩
  have hr : Reach IrqEvent.step IrqEvent.Keeps (single 0 1) s := by
    refine reach_of_run (l := [.write 0x40 0x20, .trigger 5, .poll 0]) .start
      ⟨fun c _ h0 => absurd rfl h0, fun s₁ _ => ⟨fun c _ _ => id, fun s₂ _ => ⟨fun c _ _ => id,
        fun s₃ _ => trivial⟩⟩⟩ hs
  cases hs
  exact ⟨_, hr, accepts_pending (single_booted 0 1) hr 0 rfl (by decide)⟩

/-- A level is latched while the processor's own level is too high. The guest clears it in the
controller, and then lowers its level. -/
def clearedLevel : List IrqEvent :=
  [.write 0x40 0x20, .trigger 5, .poll 0, .take 0, .write 0x0c 0x20, .instr 0 ((1 <<< 5) ||| (15 <<< 8)) 0,
   .poll 0, .take 0, .instr 0 (1 <<< 5) 0, .poll 0]

/-- It then takes level 5, which is neither pending nor forced. -/
theorem accepts_cleared : ∃ s₀ s t, IrqSys.Booted 1 s₀ ∧ Reach IrqEvent.step (fun _ _ => True) s₀ s ∧
    (IrqEvent.take 0).step s = some t ∧ (s.core 0).takes = true ∧ (s.core 0).irl = 5 ∧
    ¬ s.intc.Pending 0 5 := by
  refine ⟨single 15 1, _, _, single_booted 15 1, reach_run (l := clearedLevel) rfl, rfl,
    by decide, by decide, fun h => ?_⟩
  exact absurd h.1 (by decide)

end IrqSys

end SparcEmu
