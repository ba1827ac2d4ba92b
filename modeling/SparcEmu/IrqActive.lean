import SparcEmu.DeviceErrors
import SparcEmu.IrqRegisters
import SparcEmu.Lib.Flags

/-!
The counter of active processors of the interrupt controller.

A processor takes part in barriers while it is powered up and has their level unmasked. The counter goes
up where a write makes a processor take part, be it by its mask or by powering it up, but no write takes
it down again.
-/

namespace SparcEmu

open Lib.Flags Lib.System

namespace IRQMP

variable {s t : IRQMP} {offset value : u32}

/-- The processor is powered up and has the level of the barriers unmasked. -/
def active (s : IRQMP) (i : Fin 8) : Bool :=
  decide (i.val < s.num_cpus) && !s.mpstat.getLsbD i && (s.pimask i).getLsbD barrier_irl

def activeCount (s : IRQMP) : Nat := (Finset.univ.filter fun i => s.active i = true).card

def CountOk (s : IRQMP) : Prop := s.num_active_cpus.toNat = s.activeCount

/-- Processors that are not there stay in power-down. -/
def Absent (s : IRQMP) : Prop := ∀ i : Fin 8, s.num_cpus ≤ i.val → s.mpstat.getLsbD i = true

structure ActiveOk (s : IRQMP) : Prop where
  absent : Absent s
  count : CountOk s

structure SameActive (s t : IRQMP) : Prop where
  mpstat : t.mpstat = s.mpstat
  pimask : t.pimask = s.pimask
  num_cpus : t.num_cpus = s.num_cpus
  num_active_cpus : t.num_active_cpus = s.num_active_cpus

lemma ActiveOk.same (hs : ActiveOk s) (h : SameActive s t) : ActiveOk t := by
  refine ⟨?_, ?_⟩
  · unfold Absent
    rw [h.num_cpus, h.mpstat]
    exact hs.absent
  · unfold CountOk activeCount active
    rw [h.num_active_cpus, h.num_cpus, h.mpstat, h.pimask]
    exact hs.count

lemma CountOk.toNat_succ (hs : CountOk s) : (s.num_active_cpus + 1).toNat = s.activeCount + 1 := by
  have hle : s.activeCount ≤ 8 := card_le _
  rw [BitVec.toNat_add, hs]
  have hone : (1 : u32).toNat = 1 := rfl
  omega

/-- An absent processor is in power-down, so that its place needs no look of its own. -/
lemma active_eq (hs : Absent s) (i : Fin 8) :
    s.active i = (!s.mpstat.getLsbD i && (s.pimask i).getLsbD barrier_irl) := by
  unfold active
  by_cases hi : i.val < s.num_cpus
  · simp [hi]
  · simp [hs i (by omega)]

lemma ActiveOk.counted {i : Fin 8} {b : Bool} (hs : ActiveOk s) (hi : s.active i = false)
    (ha : Absent t) (hact : t.active = Function.update s.active i b)
    (hc : t.num_active_cpus = if b then s.num_active_cpus + 1 else s.num_active_cpus) :
    ActiveOk t := by
  refine ⟨ha, ?_⟩
  unfold CountOk activeCount
  rw [hact, hc]
  cases b with
  | true => rw [if_pos rfl, card_update hi, hs.count.toNat_succ, activeCount]
  | false =>
    rw [if_neg Bool.false_ne_true, ← hi, Function.update_eq_self]
    exact hs.count

/-! ### Masks -/

lemma active_write_pimask (hs : Absent s) (n : Fin 8) (value : u32) :
    (s.write_pimask n value).active =
      Function.update s.active n (!s.mpstat.getLsbD n && value.getLsbD barrier_irl) := by
  have hs' : Absent (s.write_pimask n value) := hs
  funext i
  rw [active_eq hs', write_pimask_pimask]
  by_cases hi : i = n
  · subst hi
    rw [Function.update_self, Function.update_self]
    rfl
  · rw [Function.update_of_ne hi, Function.update_of_ne hi, active_eq hs]
    rfl

/-- A write to the mask of a processor keeps the counter right unless it takes an active processor out:
then the counter stays where it was. -/
lemma countOk_write_pimask (hs : ActiveOk s) (n : Fin 8) (value : u32) :
    CountOk (s.write_pimask n value) ↔ ¬ (s.active n = true ∧ value.getLsbD barrier_irl = false) := by
  have hact := active_write_pimask hs.absent n value
  have hn := active_eq hs.absent n
  have hc : (s.write_pimask n value).num_active_cpus =
      if !(s.pimask n).getLsbD barrier_irl && value.getLsbD barrier_irl && !s.mpstat.getLsbD n then
        s.num_active_cpus + 1 else s.num_active_cpus := rfl
  cases ha : s.active n with
  | false =>
    have hadd : (!(s.pimask n).getLsbD barrier_irl && value.getLsbD barrier_irl && !s.mpstat.getLsbD n)
        = (!s.mpstat.getLsbD n && value.getLsbD barrier_irl) := by
      rw [hn] at ha
      revert ha
      cases s.mpstat.getLsbD n <;> cases (s.pimask n).getLsbD barrier_irl <;> simp
    rw [hadd] at hc
    have hok := hs.counted ha (t := s.write_pimask n value) hs.absent hact hc
    exact ⟨fun _ h => Bool.false_ne_true h.1, fun _ => hok.count⟩
  | true =>
    rw [hn] at ha
    obtain ⟨hp, hm⟩ : s.mpstat.getLsbD n = false ∧ (s.pimask n).getLsbD barrier_irl = true := by
      simpa using ha
    rw [hm] at hc
    simp only [Bool.not_true, Bool.false_and, Bool.false_eq_true, if_false] at hc
    rw [hp] at hact
    rw [hp, hm] at hn
    have hcount := hs.count
    unfold CountOk activeCount at hcount ⊢
    rw [hact, hc, hcount]
    cases hv : value.getLsbD barrier_irl with
    | true =>
      have hself : Function.update s.active n (!false && true) = s.active := by
        rw [← hn, Function.update_eq_self]
      rw [hself]
      simp
    | false =>
      have hdown := card_clear (f := s.active) hn
      refine ⟨fun h => ?_, fun h => absurd ⟨rfl, rfl⟩ h⟩
      have : Function.update s.active n (!false && false) = Function.update s.active n false := rfl
      rw [this] at h
      omega

/-! ### Powering up -/

lemma activeOk_power_up (val : u32) (hs : ActiveOk s) (i : Fin 8) : ActiveOk (power_up val s i) := by
  unfold power_up
  by_cases h : powersUp val i s = true
  swap
  · rw [if_neg h]
    exact hs
  rw [if_pos h]
  obtain ⟨⟨hi, -⟩, hdown⟩ : (i.val < s.num_cpus ∧ val.getLsbD i = true) ∧
      s.mpstat.getLsbD i = true := by
    simpa [powersUp] using h
  have hbit : ∀ j : Fin 8, (s.mpstat &&& ~~~(bitAt i)).getLsbD j =
      (s.mpstat.getLsbD j && !decide (j = i)) := fun j => by
    rw [and_not_bitAt (by omega)]
    simp only [Fin.ext_iff]
  have hoff : s.active i = false := by rw [active_eq hs.absent, hdown]; rfl
  refine hs.counted hoff (b := (s.pimask i).getLsbD barrier_irl) ?_ ?_ rfl
  · intro j hj
    have hne : j ≠ i := by
      rintro rfl
      exact absurd hj (Nat.not_le.mpr hi)
    show (s.mpstat &&& ~~~(bitAt i)).getLsbD j = true
    rw [hbit, hs.absent j hj]
    simp [hne]
  · funext j
    show (decide (j.val < s.num_cpus) && !(s.mpstat &&& ~~~(bitAt i)).getLsbD j &&
      (s.pimask j).getLsbD barrier_irl) = _
    rw [hbit]
    by_cases hj : j = i
    · subst hj
      rw [Function.update_self]
      simp [hi]
    · rw [Function.update_of_ne hj]
      simp [active, hj]

lemma activeOk_power_ups (val : u32) (hs : ActiveOk s) (is : List (Fin 8)) :
    ActiveOk (is.foldl (power_up val) s) := by
  induction is generalizing s with
  | nil => exact hs
  | cons i is ih => exact ih (activeOk_power_up val hs i)

/-! ### Histories -/

/-- A write to the mask of an active processor that masks the level of the barriers. -/
def Op.Masks (o : Op) (s : IRQMP) : Prop :=
  match o with
  | .write offset value => (0x40 ≤ offset ∧ offset < 0x60) ∧
      s.active (cpuReg offset 0x40) = true ∧ value.getLsbD barrier_irl = false
  | _ => False

lemma trigger_irq_active (IRL : u32) (s : IRQMP) : SameActive s (s.trigger_irq IRL) := by
  unfold trigger_irq update_hints_locked
  dsimp only
  split_ifs <;> exact ⟨rfl, rfl, rfl, rfl⟩

lemma clear_irq_active (IRL : u32) (c : Fin 8) (s : IRQMP) : SameActive s (s.clear_irq IRL c) := by
  unfold clear_irq update_hints_locked
  dsimp only
  split_ifs <;> exact ⟨rfl, rfl, rfl, rfl⟩

lemma activeOk_write (hs : ActiveOk s) (ho : ¬ (0x40 ≤ offset ∧ offset < 0x60)) :
    AllOk (fun r => ActiveOk r.1) (s.write offset value) := by
  unfold write
  rw [if_neg ho]
  iterate 5 refine allOk_decode (fun _ => hs.same ⟨rfl, rfl, rfl, rfl⟩) ?_
  refine allOk_decode (fun _ => ?_) ?_
  · dsimp only
    exact activeOk_power_ups _ hs _
  iterate 2 refine allOk_decode (fun _ => hs.same ⟨rfl, rfl, rfl, rfl⟩) ?_
  exact allOk_error _

lemma Op.step_active {o : Op} (hs : ActiveOk s) (h : o.step s = some t) :
    Absent t ∧ (CountOk t ↔ ¬ o.Masks s) := by
  have hkept : ActiveOk t → ¬ o.Masks s → Absent t ∧ (CountOk t ↔ ¬ o.Masks s) :=
    fun ht ho => ⟨ht.absent, iff_of_true ht.count ho⟩
  cases o with
  | trigger_irq IRL =>
    cases h
    exact hkept (hs.same (trigger_irq_active IRL s)) id
  | clear_irq IRL c =>
    cases h
    exact hkept (hs.same (clear_irq_active IRL c s)) id
  | write offset value =>
    by_cases ho : 0x40 ≤ offset ∧ offset < 0x60
    · -- the only register whose writes can take a processor out
      have hw : s.write offset value = .ok (s.write_pimask (cpuReg offset 0x40) value, []) := if_pos ho
      simp only [Op.step, hw, Option.some.injEq] at h
      subst h
      refine ⟨hs.absent, ?_⟩
      rw [countOk_write_pimask hs]
      simp only [Op.Masks, ho, and_self, true_and]
    · have hm : ¬ (Op.write offset value).Masks s := fun hm => ho hm.1
      dsimp only [Op.step] at h
      split at h
      · next u w hw =>
        cases h
        exact hkept (activeOk_write hs ho _ hw) hm
      · cases h
        exact hkept hs hm

lemma activeOk_reset {n : Nat} (hn : 2 ≤ n) (h : reset n = .ok s) : ActiveOk s := by
  unfold reset at h
  by_cases h8 : n ≤ 8
  swap
  · rw [dif_neg h8] at h
    cases h
  rw [dif_pos h8, if_pos (by omega)] at h
  obtain rfl := Except.ok.inj h
  have hbit : ∀ i : Fin 8, 2 ≤ i.val → (0xfffe : u32).getLsbD i = true := by decide
  refine ⟨fun i hi => ?_, ?_⟩
  · show ((BitVec.ofNat 32 (n - 1) <<< 28) ||| (1#32 <<< 27) ||| 0xfffe).getLsbD i = true
    rw [BitVec.getLsbD_or, hbit i (Nat.le_trans hn hi), Bool.or_true]
  · refine (Finset.card_eq_zero.mpr (Finset.filter_eq_empty_iff.mpr fun i _ hi => ?_)).symm
    have hmask : (0 : u32).getLsbD barrier_irl = true := (Bool.and_eq_true_iff.mp hi).2
    exact absurd hmask (by decide)

/-- **Active processors**: in every history in which no write masks the level of the barriers for an
active processor, the counter is the number of active processors in every state reached; and there the
next operation keeps it right if and only if it is not such a write. -/
theorem active_count_iff {n : Nat} {s₀ : IRQMP} (hn : 2 ≤ n) (h₀ : reset n = .ok s₀) :
    ∀ s, Reach Op.step (fun o u => ¬ o.Masks u) s₀ s →
      CountOk s ∧ ∀ (o : Op) (t : IRQMP), o.step s = some t → (CountOk t ↔ ¬ o.Masks s) := by
  intro s hr
  have hs : ActiveOk s := hr.inv (activeOk_reset hn h₀) fun o u v hu ho hv =>
    ⟨(Op.step_active hu hv).1, (Op.step_active hu hv).2.mpr ho⟩
  exact ⟨hs.count, fun o t ht => (Op.step_active hs ht).2⟩

def two : IRQMP := { num_cpus := 2, num_le := by decide, mpstat := 0x1800fffe }

/-- The first processor unmasks the level of the barriers. -/
def joined : IRQMP := two.write_pimask 0 0x100

theorem active_count_joined : CountOk joined ∧ (CountOk (joined.write_pimask 1 0x100) ↔
    ¬ (Op.write 0x44 0x100).Masks joined) := by
  have hr : Reach Op.step (fun o u => ¬ o.Masks u) two joined :=
    Reach.start.tail (k := Op.write 0x40 0x100) (by rintro ⟨-, -, h⟩; exact absurd h (by decide)) rfl
  obtain ⟨h1, h2⟩ := active_count_iff (n := 2) (by decide) rfl joined hr
  exact ⟨h1, h2 (.write 0x44 0x100) _ rfl⟩

/-- The first processor masks the level again: no processor is active, and one is counted. -/
theorem masked_still_counted : ∃ s₀ s, reset 2 = .ok s₀ ∧
    Lib.Interleave.run Op.step [.write 0x40 0x100, .write 0x40 0] s₀ = some s ∧
    s.num_active_cpus = 1 ∧ s.activeCount = 0 :=
  ⟨two, joined.write_pimask 0 0, rfl, rfl, by decide, by decide⟩

end IRQMP

end SparcEmu
