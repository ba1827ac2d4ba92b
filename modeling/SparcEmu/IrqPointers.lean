import SparcEmu.IrqRegisters

/-!
The processors behind the interrupt controller. `cpu_ptrs_` has one element for every processor;
an element is null until `set_cpu_ptr` has registered the processor.
-/

namespace SparcEmu

namespace IRQMP

/-- What a call does with an element of `cpu_ptrs_`: it compares it with null, or it calls the
processor. -/
inductive PtrUse
  | test (i : Nat)
  | deref (i : Nat)
deriving DecidableEq

/-- The element exists, and a pointer that is followed is not null. -/
def PtrUse.Valid (num_cpus : Nat) (registered : Nat → Bool) : PtrUse → Prop
  | .test i => i < num_cpus
  | .deref i => i < num_cpus ∧ registered i = true

inductive PtrOp
  | trigger_irq (IRL : u32)
  | write (offset value : u32)

variable (registered : Nat → Bool)

/-! ### The calls -/

/-- The turn of the loop behind a write to the status register for processor `i`: one that is not
registered stays in power-down. -/
def power_up_ptr (val : u32) (s : IRQMP) (i : Fin 8) : IRQMP :=
  if registered i then power_up val s i else s

def power_up_uses (val : u32) (s : IRQMP) (i : Fin 8) : List PtrUse :=
  if powersUp val i s then if registered i then [.test i, .deref i] else [.test i] else []

/-- The loop over the processors, with what it does to the pointers on the way. -/
def power_up_loop (val : u32) : List (Fin 8) → IRQMP → IRQMP × List PtrUse
  | [], s => (s, [])
  | i :: is, s =>
    let r := power_up_loop val is (power_up_ptr registered val s i)
    (r.1, power_up_uses registered val s i ++ r.2)

/-- The registers after a write; a write that throws leaves them alone. -/
def write_ptr (offset value : u32) (s : IRQMP) : IRQMP × List PtrUse :=
  if offset = MPSTAT_OS then power_up_loop registered (value &&& 0xffff) (List.finRange 8) s
  else match s.write offset value with
    | .error _ => (s, [])
    | .ok (t, wakes) => (t, wakes.map fun i : Fin 8 => .deref i)

/-- The loop of `trigger_irq` goes through the processors and calls those that have the level
unmasked. -/
def trigger_uses (IRL : u32) (s : IRQMP) : List PtrUse :=
  ((List.finRange 8).filter fun i : Fin 8 =>
    decide (i.val < s.num_cpus) && trigger_wakes IRL i s).map fun i : Fin 8 => .deref i

def PtrOp.step : PtrOp → IRQMP → IRQMP × List PtrUse
  | .trigger_irq IRL, s => (s.trigger_irq IRL, trigger_uses IRL (s.trigger_irq IRL))
  | .write offset value, s => s.write_ptr registered offset value

def ptrUses : List PtrOp → IRQMP → List PtrUse
  | [], _ => []
  | o :: os, s => (o.step registered s).2 ++ ptrUses os (o.step registered s).1

/-- With all processors registered, a write is the write of the controller. -/
theorem write_ptr_registered (hreg : ∀ i, registered i = true) {offset value : u32} {s t : IRQMP}
    {wakes : List (Fin 8)} (h : s.write offset value = .ok (t, wakes)) :
    (s.write_ptr registered offset value).1 = t := by
  have hloop : ∀ (val : u32) (is : List (Fin 8)) (s : IRQMP),
      (power_up_loop registered val is s).1 = is.foldl (power_up val) s := by
    intro val is
    induction is with
    | nil => exact fun _ => rfl
    | cons i is ih =>
      intro s
      show (power_up_loop registered val is (power_up_ptr registered val s i)).1 = _
      rw [ih, power_up_ptr, if_pos (hreg i)]
      rfl
  unfold write_ptr
  split_ifs with ho
  · subst ho
    rw [hloop]
    rw [write, if_neg (by decide), if_neg (by decide), if_neg (by decide), if_neg (by decide),
      if_neg (by decide), if_neg (by decide), if_pos rfl] at h
    exact (Prod.mk.inj (Except.ok.inj h)).1
  · rw [h]

/-! ### When the pointers are used well -/

/-- The step follows no pointer that does not exist or is null: a level that is triggered is
unmasked only for registered processors, and a value that is forced meets the mask of a register
block only if there is such a processor and it is registered. -/
def PtrOp.Ok : PtrOp → IRQMP → Prop
  | .trigger_irq IRL, s => ∀ i : Fin 8, i.val < s.num_cpus →
      (s.pimask i).getLsbD (irlOf IRL) = true → registered i = true
  | .write offset value, s => 0x80 ≤ offset ∧ offset < 0xa0 →
      value &&& s.pimask (cpuReg offset 0x80) ≠ 0 →
        (cpuReg offset 0x80).val < s.num_cpus ∧ registered (cpuReg offset 0x80) = true

def PtrOp.OkAlong : List PtrOp → IRQMP → Prop
  | [], _ => True
  | o :: os, s => o.Ok registered s ∧ OkAlong os (o.step registered s).1

variable {registered}

lemma trigger_valid_iff (IRL : u32) (s : IRQMP) :
    (∀ u ∈ trigger_uses IRL (s.trigger_irq IRL), u.Valid s.num_cpus registered) ↔
      (PtrOp.trigger_irq IRL).Ok registered s := by
  obtain ⟨hmask, hnum⟩ := trigger_irq_kept IRL s
  unfold trigger_uses trigger_wakes
  rw [hnum, hmask]
  simp only [List.mem_map, List.mem_filter, List.mem_finRange, true_and, Bool.and_eq_true,
    decide_eq_true_eq]
  constructor
  · intro h i hi hbit
    exact (h _ ⟨i, ⟨hi, hbit⟩, rfl⟩).2
  · rintro h _ ⟨i, ⟨hi, hbit⟩, rfl⟩
    exact ⟨hi, h i hi hbit⟩

lemma power_up_loop_valid (val : u32) (n : Nat) (is : List (Fin 8)) :
    ∀ s : IRQMP, s.num_cpus = n → (power_up_loop registered val is s).1.num_cpus = n ∧
      ∀ u ∈ (power_up_loop registered val is s).2, u.Valid n registered := by
  induction is with
  | nil => exact fun s hs => ⟨hs, fun u hu => absurd hu List.not_mem_nil⟩
  | cons i is ih =>
    intro s hs
    have hnext : (power_up_ptr registered val s i).num_cpus = n := by
      unfold power_up_ptr
      split_ifs
      · exact (power_up_same val s i).num_cpus.trans hs
      · exact hs
    obtain ⟨hn, hv⟩ := ih _ hnext
    refine ⟨hn, fun u hu => ?_⟩
    rcases List.mem_append.mp hu with hu | hu
    · unfold power_up_uses powersUp at hu
      split_ifs at hu with hp hr
      · have hi : i.val < n := by
          rw [← hs]
          simp only [Bool.and_eq_true, decide_eq_true_eq] at hp
          exact hp.1.1
        rcases List.mem_cons.mp hu with rfl | hu
        · exact hi
        · rw [List.mem_singleton.mp hu]
          exact ⟨hi, hr⟩
      · rw [List.mem_singleton.mp hu]
        show i.val < n
        rw [← hs]
        simp only [Bool.and_eq_true, decide_eq_true_eq] at hp
        exact hp.1.1
      · exact absurd hu List.not_mem_nil
    · exact hv u hu

lemma write_ptr_valid_iff (offset value : u32) (s : IRQMP) :
    (∀ u ∈ (s.write_ptr registered offset value).2, u.Valid s.num_cpus registered) ↔
      (PtrOp.write offset value).Ok registered s := by
  unfold write_ptr PtrOp.Ok
  by_cases hm : offset = MPSTAT_OS
  · rw [if_pos hm]
    refine iff_of_true (power_up_loop_valid _ _ _ s rfl).2 fun h => ?_
    subst hm
    exact absurd h.1 (by decide)
  rw [if_neg hm]
  by_cases hf : 0x80 ≤ offset ∧ offset < 0xa0
  · have h1 : ¬ (0x40 ≤ offset ∧ offset < 0x60) := by bv_omega
    unfold write
    rw [if_neg h1, if_pos hf]
    dsimp only
    by_cases hv : value &&& s.pimask (cpuReg offset 0x80) ≠ 0
    · rw [if_pos hv]
      simp only [List.map_cons, List.map_nil, List.mem_singleton, forall_eq, PtrUse.Valid, hf, hv,
        and_self, ne_eq, not_false_eq_true, forall_const]
    · rw [if_neg hv]
      exact iff_of_true (fun u hu => absurd hu List.not_mem_nil) fun _ h => absurd h hv
  · refine iff_of_true ?_ fun h => absurd h hf
    unfold write
    rw [if_neg hf]
    split_ifs <;> exact fun u hu => absurd hu List.not_mem_nil

lemma PtrOp.step_num_cpus (o : PtrOp) (s : IRQMP) :
    (o.step registered s).1.num_cpus = s.num_cpus := by
  cases o with
  | trigger_irq IRL => exact (trigger_irq_kept IRL s).2
  | write offset value =>
    show (s.write_ptr registered offset value).1.num_cpus = _
    unfold write_ptr
    split_ifs
    · exact (power_up_loop_valid _ _ _ s rfl).1
    · cases h : s.write offset value with
      | error e => rfl
      | ok r => exact (write_wrote h).num_cpus

lemma PtrOp.valid_iff (o : PtrOp) (s : IRQMP) :
    (∀ u ∈ (o.step registered s).2, u.Valid s.num_cpus registered) ↔ o.Ok registered s := by
  cases o with
  | trigger_irq IRL => exact trigger_valid_iff IRL s
  | write offset value => exact write_ptr_valid_iff offset value s

/-- In every history of register writes and triggers, the pointers to the processors are indexed
in bounds and followed only if they are set, if and only if every call meets the condition. -/
theorem pointers_valid_iff {n : Nat} {s₀ : IRQMP} (h₀ : reset n = .ok s₀) (registered : Nat → Bool)
    (ops : List PtrOp) : (∀ u ∈ ptrUses registered ops s₀, u.Valid n registered) ↔
      PtrOp.OkAlong registered ops s₀ := by
  have key : ∀ (ops : List PtrOp) (s : IRQMP), s.num_cpus = n →
      ((∀ u ∈ ptrUses registered ops s, u.Valid n registered) ↔
        PtrOp.OkAlong registered ops s) := by
    intro ops
    induction ops with
    | nil => exact fun s _ => iff_of_true (fun u hu => absurd hu List.not_mem_nil) trivial
    | cons o os ih =>
      intro s hs
      have hone : (∀ u ∈ (o.step registered s).2, _) ↔ _ := PtrOp.valid_iff o s
      rw [hs] at hone
      unfold ptrUses PtrOp.OkAlong
      rw [← hone, ← ih _ ((PtrOp.step_num_cpus o s).trans hs)]
      simp only [List.mem_append, or_imp, forall_and]
  exact key ops s₀ (hintsOk_reset h₀).2

/-- Two writes on a machine with one processor: level 1 is unmasked for a second one, and forced. -/
theorem second_processor_called : ∃ s₀, reset 1 = .ok s₀ ∧
    ptrUses (fun _ => true) [.write 0x44 0x2, .write 0x84 0x2] s₀ = [.deref 1] ∧
      ¬ (PtrUse.deref 1).Valid 1 fun _ => true := by
  refine ⟨_, rfl, by decide +kernel, fun h => ?_⟩
  exact absurd h.1 (by decide)

/-- A machine with one registered processor that unmasks and triggers level 1. -/
theorem pointers_valid_one : ∃ s₀, reset 1 = .ok s₀ ∧
    ∀ u ∈ ptrUses (fun _ => true) [.write 0x40 0x2, .trigger_irq 1] s₀, u.Valid 1 fun _ => true := by
  refine ⟨_, rfl, (pointers_valid_iff (n := 1) rfl (fun _ => true) _).mpr
    ⟨fun h => ?_, fun _ _ _ => rfl, trivial⟩⟩
  exact absurd h.1 (by decide)

end IRQMP

end SparcEmu
