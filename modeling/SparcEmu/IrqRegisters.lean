import SparcEmu.Irqmp
import SparcEmu.Lib.System

/-!
The registers of the interrupt controller over whole histories: which level the hint of a
processor names, and which operations can clear a level that has been set.
-/

namespace SparcEmu

open Lib.System

namespace IRQMP

/-! ### Bits -/

lemma irlOf_lt (IRL : u32) : irlOf IRL < 16 := by
  have h : (IRL &&& 0xf).toNat ≤ 15 := by
    rw [BitVec.toNat_and]
    exact Nat.and_le_right
  exact Nat.lt_succ_of_le h

variable {k : Nat}

lemma getLsbD_bitAt (hk : k < 16) (i : Nat) : (bitAt k).getLsbD i = decide (i = k) := by
  unfold bitAt
  rw [BitVec.getLsbD_shiftLeft, BitVec.getLsbD_one]
  by_cases h : i = k
  · subst h
    simp
    omega
  · simp [h]
    omega

lemma and_bitAt_ne_zero {w : u32} (hk : k < 16) : w &&& bitAt k ≠ 0 ↔ w.getLsbD k = true := by
  constructor
  · intro h
    by_contra hw
    apply h
    apply BitVec.eq_of_getLsbD_eq
    intro i _
    rw [BitVec.getLsbD_and, getLsbD_bitAt hk]
    by_cases hi : i = k
    · subst hi
      simp [hw]
    · simp [hi]
  · intro h h0
    have := congrArg (fun x => BitVec.getLsbD x k) h0
    simp [getLsbD_bitAt hk, h] at this

lemma or_bitAt (hk : k < 16) (w : u32) (i : Nat) :
    (w ||| bitAt k).getLsbD i = (w.getLsbD i || decide (i = k)) := by
  rw [BitVec.getLsbD_or, getLsbD_bitAt hk]

lemma and_not_bitAt (hk : k < 16) (w : u32) (i : Nat) :
    (w &&& ~~~(bitAt k)).getLsbD i = (w.getLsbD i && !decide (i = k)) := by
  rw [BitVec.getLsbD_and, BitVec.getLsbD_not, getLsbD_bitAt hk]
  by_cases hi : i < 32
  · simp [hi]
  · simp [BitVec.getLsbD_of_ge w i (by omega)]

/-! ### The highest level -/

/-- `h` is the highest level of 1 to 15 whose bit is set, 0 if there is none. -/
def Highest (w : u32) (h : Nat) : Prop :=
  h ≤ 15 ∧ (h ≠ 0 → w.getLsbD h = true) ∧ ∀ i, h < i → i ≤ 15 → w.getLsbD i = false

lemma Highest.unique {w : u32} {h h' : Nat} (hh : Highest w h) (hh' : Highest w h') : h = h' := by
  obtain ⟨h1, h2, h3⟩ := hh
  obtain ⟨h1', h2', h3'⟩ := hh'
  rcases Nat.lt_trichotomy h h' with hlt | heq | hlt
  · have := h3 h' hlt h1'
    rw [h2' (by omega)] at this
    cases this
  · exact heq
  · have := h3' h hlt h1
    rw [h2 (by omega)] at this
    cases this

lemma topLevel_spec (w mask : u32) (n : Nat) : topLevel w mask n ≤ n ∧
    (topLevel w mask n ≠ 0 → (w &&& mask).getLsbD (topLevel w mask n) = true) ∧
    ∀ i, topLevel w mask n < i → i ≤ n → (w &&& mask).getLsbD i = false := by
  induction n with
  | zero => exact ⟨Nat.le_refl 0, fun h => absurd rfl h, fun i h1 h2 => by omega⟩
  | succ n ih =>
    obtain ⟨h1, h2, h3⟩ := ih
    unfold topLevel
    split_ifs with h
    · exact ⟨Nat.le_refl _, fun _ => by rw [BitVec.getLsbD_and]; exact h, fun i hi hi' => by omega⟩
    · refine ⟨by omega, h2, fun i hi hi' => ?_⟩
      by_cases he : i = n + 1
      · subst he
        rw [BitVec.getLsbD_and]
        exact Bool.eq_false_iff.mpr h
      · exact h3 i hi (by omega)

lemma topLevel_highest (w mask : u32) : Highest (w &&& mask) (topLevel w mask 15) :=
  topLevel_spec w mask 15

/-- A forced level hides a higher pending one. -/
def Hidden (piforce ipend pimask : u32) : Prop :=
  ∃ i j, Highest (piforce &&& pimask) i ∧ Highest (ipend &&& pimask) j ∧ 0 < i ∧ i < j

/-- The hint is the highest level of both registers, unless it is hidden. -/
lemma hintOf_highest_iff (piforce ipend pimask : u32) :
    Highest ((piforce ||| ipend) &&& pimask) (hintOf piforce ipend pimask) ↔
      ¬ Hidden piforce ipend pimask := by
  have hf := topLevel_highest piforce pimask
  have hp := topLevel_highest ipend pimask
  have hor : ∀ i, ((piforce ||| ipend) &&& pimask).getLsbD i =
      ((piforce &&& pimask).getLsbD i || (ipend &&& pimask).getLsbD i) := by
    intro i
    simp only [BitVec.getLsbD_and, BitVec.getLsbD_or, Bool.and_or_distrib_right]
  unfold hintOf
  set f := topLevel piforce pimask 15
  set p := topLevel ipend pimask 15
  constructor
  · rintro ⟨-, -, h3⟩ ⟨i, j, hi, hj, h0, hij⟩
    obtain rfl := hi.unique hf
    obtain rfl := hj.unique hp
    rw [if_neg (by omega)] at h3
    have := h3 p hij hp.1
    rw [hor, hp.2.1 (by omega)] at this
    simp at this
  · intro hn
    have hle : f = 0 ∨ p ≤ f := by
      by_contra hc
      push Not at hc
      exact hn ⟨f, p, hf, hp, by omega, by omega⟩
    by_cases h0 : f = 0
    · rw [if_pos h0]
      refine ⟨hp.1, fun h => by rw [hor, hp.2.1 h, Bool.or_true], fun i hi hi' => ?_⟩
      rw [hor, hf.2.2 i (by omega) hi', hp.2.2 i hi hi', Bool.or_false]
    · rw [if_neg h0]
      refine ⟨hf.1, fun h => by rw [hor, hf.2.1 h, Bool.true_or], fun i hi hi' => ?_⟩
      rw [hor, hf.2.2 i hi hi', hp.2.2 i (by omega) hi', Bool.or_false]

/-! ### What the operations change -/

/-- The hint of every processor is up to date. -/
def HintsOk (s : IRQMP) : Prop := ∀ c : Fin 8, c.val < s.num_cpus →
  s.irq_hint c = BitVec.ofNat 32 (hintOf (s.piforce c) s.ipend (s.pimask c))

structure SameLevels (s t : IRQMP) : Prop where
  ipend : t.ipend = s.ipend
  piforce : t.piforce = s.piforce
  pimask : t.pimask = s.pimask
  irq_hint : t.irq_hint = s.irq_hint
  num_cpus : t.num_cpus = s.num_cpus

lemma SameLevels.refl (s : IRQMP) : SameLevels s s := ⟨rfl, rfl, rfl, rfl, rfl⟩

variable {s t : IRQMP}

lemma SameLevels.trans {u : IRQMP} (h : SameLevels s t) (h' : SameLevels t u) : SameLevels s u :=
  ⟨h'.ipend.trans h.ipend, h'.piforce.trans h.piforce, h'.pimask.trans h.pimask,
    h'.irq_hint.trans h.irq_hint, h'.num_cpus.trans h.num_cpus⟩

lemma hintsOk_update (s : IRQMP) : HintsOk s.update_hints_locked := fun _ hc => if_pos hc

lemma HintsOk.same (h : HintsOk s) (hs : SameLevels s t) : HintsOk t := by
  intro c hc
  rw [hs.irq_hint, hs.piforce, hs.ipend, hs.pimask]
  exact h c (by rw [← hs.num_cpus]; exact hc)

lemma power_up_same (val : u32) (s : IRQMP) (i : Fin 8) : SameLevels s (power_up val s i) := by
  unfold power_up
  split_ifs <;> exact ⟨rfl, rfl, rfl, rfl, rfl⟩

lemma power_ups_same (val : u32) (is : List (Fin 8)) (s : IRQMP) :
    SameLevels s (is.foldl (power_up val) s) := by
  induction is generalizing s with
  | nil => exact SameLevels.refl s
  | cons i is ih => exact (power_up_same val s i).trans (ih _)

lemma write_pimask_pimask (n : Fin 8) (value : u32) (s : IRQMP) :
    (s.write_pimask n value).pimask = Function.update s.pimask n value := rfl

lemma write_piforce_piforce (n : Fin 8) (value : u32) (s : IRQMP) :
    (s.write_piforce n value).piforce = Function.update s.piforce n (s.piforce n ||| value) := rfl

/-- What a register write does to the levels, by the register it goes to. -/
inductive Wrote (s : IRQMP) (offset value : u32) : IRQMP → List (Fin 8) → Prop
  | pimask : 0x40 ≤ offset ∧ offset < 0x60 →
      Wrote s offset value (s.write_pimask (cpuReg offset 0x40) value) []
  | piforce : 0x80 ≤ offset ∧ offset < 0xa0 →
      Wrote s offset value (s.write_piforce (cpuReg offset 0x80) value)
        (if value &&& s.pimask (cpuReg offset 0x80) ≠ 0 then [cpuReg offset 0x80] else [])
  | ipend : offset = IPEND_OS →
      Wrote s offset value (update_hints_locked { s with ipend := value }) []
  | iforce : Wrote s offset value (update_hints_locked { s with iforce := s.iforce ||| value }) []
  | iclear : offset = ICLEAR_OS →
      Wrote s offset value (update_hints_locked
        { s with iclear := value, ipend := s.ipend &&& ~~~(value &&& 0xfffe) }) []
  | other {t : IRQMP} {w : List (Fin 8)} : SameLevels s t → Wrote s offset value t w

variable {w : List (Fin 8)} {offset value : u32}

lemma write_wrote (h : s.write offset value = .ok (t, w)) : Wrote s offset value t w := by
  unfold write at h
  by_cases h1 : 0x40 ≤ offset ∧ offset < 0x60
  · rw [if_pos h1] at h
    obtain ⟨rfl, rfl⟩ := Prod.mk.inj (Except.ok.inj h)
    exact .pimask h1
  by_cases h2 : 0x80 ≤ offset ∧ offset < 0xa0
  · rw [if_neg h1, if_pos h2] at h
    obtain ⟨rfl, rfl⟩ := Prod.mk.inj (Except.ok.inj h)
    exact .piforce h2
  rw [if_neg h1, if_neg h2] at h
  split_ifs at h with h3 h4 h5 h6 h7 h8 h9 <;> obtain ⟨rfl, rfl⟩ := Prod.mk.inj (Except.ok.inj h)
  · exact .other ⟨rfl, rfl, rfl, rfl, rfl⟩
  · exact .ipend h4
  · exact .iforce
  · exact .iclear h6
  · exact .other (power_ups_same _ _ s)
  · exact .other ⟨rfl, rfl, rfl, rfl, rfl⟩
  · exact .other ⟨rfl, rfl, rfl, rfl, rfl⟩

lemma Wrote.hintsOk (h : Wrote s offset value t w) (hs : HintsOk s) : HintsOk t := by
  cases h with
  | pimask _ | piforce _ | ipend _ | iforce | iclear _ => exact hintsOk_update _
  | other h => exact hs.same h

lemma Wrote.num_cpus (h : Wrote s offset value t w) : t.num_cpus = s.num_cpus := by
  cases h with
  | other h => exact h.num_cpus
  | _ => rfl

lemma trigger_irq_kept (IRL : u32) (s : IRQMP) : (trigger_irq IRL s).pimask = s.pimask ∧
    (trigger_irq IRL s).num_cpus = s.num_cpus := by
  unfold trigger_irq update_hints_locked
  dsimp only
  split_ifs <;> exact ⟨rfl, rfl⟩

variable {IRL : u32}

lemma trigger_irq_plain (hb : s.brdcst.getLsbD (irlOf IRL) = false) :
    (trigger_irq IRL s).ipend = s.ipend ||| bitAt (irlOf IRL) ∧
      (trigger_irq IRL s).piforce = s.piforce := by
  unfold trigger_irq update_hints_locked
  dsimp only
  rw [if_neg (by rw [hb]; exact Bool.false_ne_true)]
  exact ⟨rfl, rfl⟩

lemma trigger_irq_broadcast (hb : s.brdcst.getLsbD (irlOf IRL) = true) :
    (trigger_irq IRL s).ipend = s.ipend ∧ ∀ c : Fin 8, (trigger_irq IRL s).piforce c =
      if c.val < max 1 s.num_cpus ∧ (s.pimask c).getLsbD (irlOf IRL) = true then
        s.piforce c ||| bitAt (irlOf IRL)
      else s.piforce c := by
  unfold trigger_irq update_hints_locked
  dsimp only
  rw [if_pos hb]
  by_cases hn : 1 < s.num_cpus
  · rw [if_pos hn, Nat.max_eq_right (by omega)]
    exact ⟨rfl, fun c => rfl⟩
  · rw [if_neg hn, Nat.max_eq_left (by omega)]
    have h0 : ∀ c : Fin 8, c.val < 1 ↔ c = 0 := fun c => by
      rw [Fin.ext_iff]
      exact Nat.lt_one_iff
    split_ifs with hm
    · refine ⟨rfl, fun c => ?_⟩
      by_cases hc : c = 0
      · subst hc
        rw [if_pos ⟨by decide, hm⟩]
        dsimp only
        rw [Function.update_self]
      · rw [if_neg (by rw [h0]; exact fun h => hc h.1)]
        dsimp only
        rw [Function.update_of_ne hc]
    · refine ⟨rfl, fun c => ?_⟩
      rw [if_neg]
      rintro ⟨hc, hm'⟩
      rw [h0] at hc
      subst hc
      exact hm hm'

lemma clear_irq_kept (IRL : u32) (cpu : Fin 8) (s : IRQMP) : (clear_irq IRL cpu s).pimask = s.pimask ∧
    (clear_irq IRL cpu s).num_cpus = s.num_cpus := by
  unfold clear_irq update_hints_locked
  dsimp only
  split_ifs <;> exact ⟨rfl, rfl⟩

lemma clear_irq_forced {cpu : Fin 8} (h : (s.piforce cpu).getLsbD (irlOf IRL) = true) :
    (clear_irq IRL cpu s).ipend = s.ipend ∧ (clear_irq IRL cpu s).piforce =
      Function.update s.piforce cpu (s.piforce cpu &&& ~~~(bitAt (irlOf IRL))) := by
  unfold clear_irq update_hints_locked
  dsimp only
  rw [if_pos ((and_bitAt_ne_zero (irlOf_lt IRL)).mpr h)]
  exact ⟨rfl, rfl⟩

lemma clear_irq_pending {cpu : Fin 8} (h : (s.piforce cpu).getLsbD (irlOf IRL) = false) :
    (clear_irq IRL cpu s).ipend = s.ipend &&& ~~~(bitAt (irlOf IRL)) ∧
      (clear_irq IRL cpu s).piforce = s.piforce := by
  unfold clear_irq update_hints_locked
  dsimp only
  rw [if_neg (by rw [and_bitAt_ne_zero (irlOf_lt IRL), h]; exact Bool.false_ne_true)]
  exact ⟨rfl, rfl⟩

/-! ### Histories -/

inductive Op
  | trigger_irq (IRL : u32)
  | clear_irq (IRL : u32) (cpu : Fin 8)
  | write (offset value : u32)

/-- An operation on the registers; a write that throws leaves them alone. -/
def Op.step : Op → IRQMP → Option IRQMP
  | .trigger_irq IRL, s => some (s.trigger_irq IRL)
  | .clear_irq IRL cpu, s => some (s.clear_irq IRL cpu)
  | .write offset value, s =>
    match s.write offset value with
    | .ok (t, _) => some t
    | .error _ => some s

lemma Op.step_write (h : (Op.write offset value).step s = some t) :
    t = s ∨ ∃ w, Wrote s offset value t w := by
  dsimp only [Op.step] at h
  split at h
  · next u w hw =>
    cases h
    exact Or.inr ⟨w, write_wrote hw⟩
  · cases h
    exact Or.inl rfl

variable {o : Op}

lemma Op.step_hintsOk (hs : HintsOk s) (h : o.step s = some t) : HintsOk t := by
  cases o with
  | trigger_irq IRL | clear_irq IRL cpu => cases h; exact hintsOk_update _
  | write offset value =>
    rcases Op.step_write h with rfl | ⟨w, hw⟩
    · exact hs
    · exact hw.hintsOk hs

lemma Op.step_num_cpus (h : o.step s = some t) : t.num_cpus = s.num_cpus := by
  cases o with
  | trigger_irq IRL => cases h; exact (trigger_irq_kept IRL s).2
  | clear_irq IRL cpu => cases h; exact (clear_irq_kept IRL cpu s).2
  | write offset value =>
    rcases Op.step_write h with rfl | ⟨w, hw⟩
    · rfl
    · exact hw.num_cpus

lemma hintsOk_reset {n : Nat} (h : reset n = .ok s) : HintsOk s ∧ s.num_cpus = n := by
  unfold reset at h
  by_cases hn : n ≤ 8
  · rw [dif_pos hn] at h
    obtain rfl := Except.ok.inj h
    refine ⟨fun c _ => ?_, rfl⟩
    show (0 : u32) = BitVec.ofNat 32 (hintOf 0 0 0)
    decide
  · rw [dif_neg hn] at h
    cases h

/-- **Hints**: after every history of operations, the hint of a processor is the highest level
that is forced or pending and not masked, if and only if no forced level hides a higher pending
one. -/
theorem hint_highest_iff {n : Nat} {s₀ s : IRQMP} (h₀ : reset n = .ok s₀)
    (h : Reach Op.step (fun _ _ => True) s₀ s) (c : Fin 8) (hc : c.val < n) :
    Highest ((s.piforce c ||| s.ipend) &&& s.pimask c) (s.get_irq_hint c).toNat ↔
      ¬ Hidden (s.piforce c) s.ipend (s.pimask c) := by
  obtain ⟨hs₀, hn⟩ := hintsOk_reset h₀
  have hs : HintsOk s ∧ s.num_cpus = n :=
    h.inv (I := fun s => HintsOk s ∧ s.num_cpus = n) ⟨hs₀, hn⟩ fun o s t hi _ ht =>
      ⟨Op.step_hintsOk hi.1 ht, (Op.step_num_cpus ht).trans hi.2⟩
  have hle : hintOf (s.piforce c) s.ipend (s.pimask c) < 2 ^ 32 := by
    have h1 := (topLevel_highest (s.piforce c) (s.pimask c)).1
    have h2 := (topLevel_highest s.ipend (s.pimask c)).1
    unfold hintOf
    split_ifs <;> omega
  unfold get_irq_hint
  rw [hs.1 c (by rw [hs.2]; exact hc), BitVec.toNat_ofNat, Nat.mod_eq_of_lt hle]
  exact hintOf_highest_iff ..

def one : IRQMP := { num_cpus := 1, num_le := one_le_eight }

/-- All levels are unmasked, and level 10 is triggered. -/
def plainHistory : List Op := [.write 0x40 0xfffe, .trigger_irq 10]

/-- All levels are unmasked, level 3 is forced, and level 10 is triggered. -/
def forcedHistory : List Op := [.write 0x40 0xfffe, .write 0x80 (1 <<< 3), .trigger_irq 10]

theorem hint_highest_plain : ∃ s, Reach Op.step (fun _ _ => True) one s ∧
    (Highest ((s.piforce 0 ||| s.ipend) &&& s.pimask 0) (s.get_irq_hint 0).toNat ↔
      ¬ Hidden (s.piforce 0) s.ipend (s.pimask 0)) := by
  obtain ⟨s, hs⟩ : ∃ s, Lib.Interleave.run Op.step plainHistory one = some s := ⟨_, rfl⟩
  exact ⟨s, reach_run hs, hint_highest_iff (n := 1) rfl (reach_run hs) 0 (by decide)⟩

/-- The hint names level 3 while level 10 is pending and unmasked. -/
theorem hint_not_highest : ∃ s₀ s, reset 1 = .ok s₀ ∧ Reach Op.step (fun _ _ => True) s₀ s ∧
    ¬ Highest ((s.piforce 0 ||| s.ipend) &&& s.pimask 0) (s.get_irq_hint 0).toNat := by
  refine ⟨one, _, rfl, reach_run (l := forcedHistory) rfl, fun h => ?_⟩
  exact absurd (h.2.2 10 (by decide) (by decide)) (by decide)

/-! ### Levels that stay -/

/-- The operation may take level `L` from the pending register. -/
def Op.ClearsPending (L : Nat) (o : Op) (s : IRQMP) : Prop :=
  match o with
  | .trigger_irq _ => False
  | .clear_irq IRL c => irlOf IRL = L ∧ (s.piforce c).getLsbD L = false
  | .write offset value => offset = IPEND_OS ∨ (offset = ICLEAR_OS ∧ value.getLsbD L = true)

/-- The operation may take level `L` from the force register of processor `c`. -/
def Op.ClearsForced (L : Nat) (c : Fin 8) : Op → Prop
  | .clear_irq IRL c' => irlOf IRL = L ∧ c' = c
  | _ => False

lemma Op.step_ipend {L : Nat} (hL : s.ipend.getLsbD L = true) (ho : ¬ o.ClearsPending L s)
    (h : o.step s = some t) : t.ipend.getLsbD L = true := by
  cases o with
  | trigger_irq IRL =>
    cases h
    cases hb : s.brdcst.getLsbD (irlOf IRL) with
    | false => rw [(trigger_irq_plain hb).1, or_bitAt (irlOf_lt IRL), hL, Bool.true_or]
    | true => rw [(trigger_irq_broadcast hb).1, hL]
  | clear_irq IRL c =>
    cases h
    cases hf : (s.piforce c).getLsbD (irlOf IRL) with
    | true => rw [(clear_irq_forced hf).1, hL]
    | false =>
      have hne : L ≠ irlOf IRL := by
        rintro rfl
        exact ho ⟨rfl, hf⟩
      rw [(clear_irq_pending hf).1, and_not_bitAt (irlOf_lt IRL), hL, decide_eq_false hne]
      rfl
  | write offset value =>
    rcases Op.step_write h with rfl | ⟨w, hw⟩
    · exact hL
    · cases hw with
      | pimask _ => exact hL
      | piforce _ => exact hL
      | ipend he => exact absurd (Or.inl he) ho
      | iforce => exact hL
      | iclear he =>
        have hv : value.getLsbD L = false :=
          Bool.eq_false_iff.mpr fun hv => ho (Or.inr ⟨he, hv⟩)
        have hlt := BitVec.lt_of_getLsbD hL
        show (s.ipend &&& ~~~(value &&& 0xfffe)).getLsbD L = true
        rw [BitVec.getLsbD_and, BitVec.getLsbD_not, BitVec.getLsbD_and, hL, hv]
        simp [hlt]
      | other hs => rw [hs.ipend]; exact hL

lemma Op.step_piforce {L : Nat} {c : Fin 8} (hL : (s.piforce c).getLsbD L = true)
    (ho : ¬ o.ClearsForced L c) (h : o.step s = some t) : (t.piforce c).getLsbD L = true := by
  cases o with
  | trigger_irq IRL =>
    cases h
    cases hb : s.brdcst.getLsbD (irlOf IRL) with
    | false => rw [(trigger_irq_plain hb).2, hL]
    | true =>
      rw [(trigger_irq_broadcast hb).2]
      split_ifs
      · rw [or_bitAt (irlOf_lt IRL), hL, Bool.true_or]
      · exact hL
  | clear_irq IRL c' =>
    cases h
    cases hf : (s.piforce c').getLsbD (irlOf IRL) with
    | false => rw [(clear_irq_pending hf).2, hL]
    | true =>
      rw [(clear_irq_forced hf).2]
      by_cases hc : c = c'
      · subst hc
        have hne : L ≠ irlOf IRL := by
          rintro rfl
          exact ho ⟨rfl, rfl⟩
        rw [Function.update_self, and_not_bitAt (irlOf_lt IRL), hL, decide_eq_false hne]
        rfl
      · rw [Function.update_of_ne hc, hL]
  | write offset value =>
    rcases Op.step_write h with rfl | ⟨w, hw⟩
    · exact hL
    · cases hw with
      | piforce _ =>
        rw [write_piforce_piforce]
        by_cases hc : c = cpuReg offset 0x80
        · subst hc
          rw [Function.update_self, BitVec.getLsbD_or, hL, Bool.true_or]
        · rw [Function.update_of_ne hc, hL]
      | other hs => rw [hs.piforce]; exact hL
      | _ => exact hL

/-- At most bit `L` of the force register of `c` or of the pending register differs. -/
def OneBit (L : Nat) (c : Fin 8) (s t : IRQMP) : Prop :=
  t = { s with ipend := t.ipend, piforce := t.piforce, irq_hint := t.irq_hint } ∧
  ((t.ipend = s.ipend ∧ (∀ d, d ≠ c → t.piforce d = s.piforce d) ∧
      ∀ i, i ≠ L → (t.piforce c).getLsbD i = (s.piforce c).getLsbD i) ∨
    (t.piforce = s.piforce ∧ ∀ i, i ≠ L → t.ipend.getLsbD i = s.ipend.getLsbD i))

lemma clear_irq_oneBit (IRL : u32) (c : Fin 8) (s : IRQMP) :
    OneBit (irlOf IRL) c s (s.clear_irq IRL c) := by
  refine ⟨?_, ?_⟩
  · unfold clear_irq update_hints_locked
    dsimp only
    split_ifs <;> rfl
  · cases hf : (s.piforce c).getLsbD (irlOf IRL) with
    | true =>
      obtain ⟨h1, h2⟩ := clear_irq_forced hf
      refine Or.inl ⟨h1, fun d hd => by rw [h2, Function.update_of_ne hd], fun i hi => ?_⟩
      rw [h2, Function.update_self, and_not_bitAt (irlOf_lt IRL), decide_eq_false hi]
      exact Bool.and_true _
    | false =>
      obtain ⟨h1, h2⟩ := clear_irq_pending hf
      refine Or.inr ⟨h2, fun i hi => ?_⟩
      rw [h1, and_not_bitAt (irlOf_lt IRL), decide_eq_false hi]
      exact Bool.and_true _

/-- **No lost interrupts**: a level that is triggered stays pending until an acknowledgement that
finds it unforced, an `ICLEAR` write that names it, or an `IPEND` write; a broadcast level stays
forced on each processor that had it unmasked until that processor's acknowledgement; and an
acknowledgement changes one bit at most. -/
theorem levels_stay (s : IRQMP) (IRL : u32) :
    (s.brdcst.getLsbD (irlOf IRL) = false →
      ∀ t, Reach Op.step (fun o u => ¬ o.ClearsPending (irlOf IRL) u) (s.trigger_irq IRL) t →
        t.ipend.getLsbD (irlOf IRL) = true) ∧
    (s.brdcst.getLsbD (irlOf IRL) = true → ∀ c : Fin 8, c.val < s.num_cpus →
      (s.pimask c).getLsbD (irlOf IRL) = true →
      ∀ t, Reach Op.step (fun o _ => ¬ o.ClearsForced (irlOf IRL) c) (s.trigger_irq IRL) t →
        (t.piforce c).getLsbD (irlOf IRL) = true) ∧
    ∀ c : Fin 8, OneBit (irlOf IRL) c s (s.clear_irq IRL c) := by
  refine ⟨fun hb t ht => ?_, fun hb c hc hm t ht => ?_, fun c => clear_irq_oneBit IRL c s⟩
  · refine ht.inv (I := fun t => t.ipend.getLsbD (irlOf IRL) = true) ?_
      fun o u v hu ho hv => Op.step_ipend hu ho hv
    rw [(trigger_irq_plain hb).1, or_bitAt (irlOf_lt IRL), decide_eq_true rfl, Bool.or_true]
  · refine ht.inv (I := fun t => (t.piforce c).getLsbD (irlOf IRL) = true) ?_
      fun o u v hu ho hv => Op.step_piforce hu ho hv
    rw [(trigger_irq_broadcast hb).2, if_pos ⟨by omega, hm⟩, or_bitAt (irlOf_lt IRL),
      decide_eq_true rfl, Bool.or_true]

/-- Level 8 is still pending after level 9 has been triggered and acknowledged. -/
theorem levels_stay_timer : (((one.trigger_irq 8).trigger_irq 9).clear_irq 9 0).ipend.getLsbD 8 = true := by
  refine (levels_stay one 8).1 rfl _ (((Reach.start).tail (k := .trigger_irq 9) ?_ rfl).tail
    (k := .clear_irq 9 0) ?_ rfl)
  · exact fun h => h
  · rintro ⟨h, -⟩
    exact absurd h (by decide)

end IRQMP

end SparcEmu
