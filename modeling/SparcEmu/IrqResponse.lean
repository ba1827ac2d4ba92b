import SparcEmu.WellFormed

/-!
How long the loop of `CPU::run` takes to enter the trap of an interrupt that the controller
announces: the countdown, the latched level and the comparison with the processor's level over
64 iterations.
-/

namespace SparcEmu

open Lib.Effect

variable {δ : Type} {E : Board δ}

/-! ### One iteration -/

/-- The state after the look at the interrupt controller. -/
def LoopSt.polled (E : Board δ) (l : LoopSt δ) : LoopSt δ :=
  if l.irq_check_countdown - 1 = 0 then
    { l with
      irq_check_countdown := IRQ_CHECK_INTERVAL
      st := { l.st with cpu := pollIrq l.st.cpu (E.get_irq_hint l.st.cpu.cpu_id l.st.mem.dev) } }
  else { l with irq_check_countdown := l.irq_check_countdown - 1 }

lemma checkIrq_eq (l : LoopSt δ) : checkIrq E l = .ok () (l.polled E) := by
  unfold checkIrq LoopSt.polled
  split_ifs <;> rfl

/-- The iteration takes the interrupt of level `L`: the trap type becomes `0x10 + L`. -/
def EntersIrq (E : Board δ) (L : u32) (l : LoopSt δ) : Prop :=
  takesIrq (l.polled E).st.cpu = true ∧ (l.polled E).st.cpu.irl = L

variable {l : LoopSt δ}

lemma polled_kept (l : LoopSt δ) : (l.polled E).st.cpu.psr = l.st.cpu.psr ∧
    (l.polled E).st.cpu.trap_type = l.st.cpu.trap_type := by
  unfold LoopSt.polled pollIrq
  split_ifs <;> exact ⟨rfl, rfl⟩

lemma polled_countdown (l : LoopSt δ) : (l.polled E).irq_check_countdown =
    if l.irq_check_countdown - 1 = 0 then IRQ_CHECK_INTERVAL else l.irq_check_countdown - 1 := by
  unfold LoopSt.polled
  split_ifs <;> rfl

lemma polled_irl_wait (h : 1 < l.irq_check_countdown) : (l.polled E).st.cpu.irl = l.st.cpu.irl := by
  unfold LoopSt.polled
  rw [if_neg (by omega)]

lemma polled_irl_look {L : u32} (hL : L ≤ 15)
    (hh : E.get_irq_hint l.st.cpu.cpu_id l.st.mem.dev = L) (ht : l.st.cpu.trap_type = 0)
    (hi : l.st.cpu.irl ≤ L) (h : l.irq_check_countdown = 1) : (l.polled E).st.cpu.irl = L := by
  have hand : L &&& 0xf = L := by
    apply BitVec.eq_of_toNat_eq
    have hl : (L &&& 0xf).toNat = L.toNat % 16 := Lib.Bits.toNat_low (a := L) (n := 4) (by decide)
    have : L.toNat ≤ 15 := hL
    omega
  unfold LoopSt.polled pollIrq
  rw [if_pos (by omega), hh]
  dsimp only
  by_cases hlt : l.st.cpu.irl < L
  · rw [if_pos ⟨hlt, ht⟩]
    exact hand
  · rw [if_neg (fun h => hlt h.1)]
    exact BitVec.le_antisymm hi (BitVec.not_lt.mp hlt)

lemma polled_irl_latched {L : u32} (hh : E.get_irq_hint l.st.cpu.cpu_id l.st.mem.dev = L)
    (hi : l.st.cpu.irl = L) : (l.polled E).st.cpu.irl = L := by
  unfold LoopSt.polled pollIrq
  rw [hh, hi]
  split_ifs with h1 h2
  · exact absurd h2.1 (BitVec.lt_irrefl L)
  · exact hi
  · exact hi

lemma CPU.kept_irl (x : u32) : CPU.Kept fun c => c.irl = x where
  good hf h := (hf.irl _).trans h
  marked hm h := by rw [hm.1]; exact h
  trapped _ h := h

lemma write_back_irl (c : CPU) (d : DecodeStruct) : (c.write_back d).irl = c.irl := by
  unfold CPU.write_back CPU.write_reg
  dsimp only
  split_ifs <;> rfl

lemma enterTrap_irl (c : CPU) : (enterTrap c).irl = c.irl := rfl

lemma fetch_irl (E : Board δ) (x pc : u32) : Preserves (fun s : St δ => s.cpu.irl = x) (do
    let fetched ← instr_fetch E pc
    if fetched then excute_one E
    else do
      let c ← getCPU
      if c.trap_type = 0 then throwHost (.runtime_error "Could not fetch instruction.")
      else pure ()) := by
  refine Preserves.bind (instr_fetch_kept (P := fun c => c.irl = x) (CPU.kept_irl x).trapped E pc)
    fun fetched => ?_
  refine Preserves.ite (fun _ s h a s' hx => ?_) fun _ => ?_
  · obtain ⟨c, d, hc, -, ht⟩ := excute_one_kept (CPU.kept_irl x) h hx
    rw [ht, write_back_irl]
    exact hc
  · exact Preserves.bind (getCPU_kept (P := fun c => c.irl = x)) fun c =>
      Preserves.ite (fun _ => throwHost_kept (P := fun c => c.irl = x) _) fun _ => Preserves.pure _

lemma onSt_ok {α : Type} {m : M δ α} {l' : LoopSt δ} {a : α} (h : onSt m l = .ok a l') :
    m l.st = .ok a l'.st ∧ l'.irq_check_countdown = l.irq_check_countdown := by
  unfold onSt at h
  split at h <;> cases h
  next hm => exact ⟨hm, rfl⟩

lemma stepInstr_irl {s s' : St δ} (hn : takesIrq s.cpu = false) (h : stepInstr E s = .ok () s') :
    s'.cpu.irl = s.cpu.irl := by
  unfold stepInstr at h
  obtain ⟨_, s₁, h1, h⟩ := bind_ok_iff.mp h
  unfold takeIrq at h1
  rw [if_neg (by rw [hn]; exact Bool.false_ne_true)] at h1
  cases h1
  obtain ⟨_, s₂, h2, h⟩ := bind_ok_iff.mp h
  cases h2
  obtain ⟨c, s₃, h3, h⟩ := bind_ok_iff.mp h
  cases h3
  refine fetch_irl E s.cpu.irl _ _ ?_ _ _ h
  dsimp only
  split_ifs
  · exact enterTrap_irl s.cpu
  · rfl

lemma leaveLoop_irl {s s' : St δ} {stop : Bool} (h : leaveLoop s = .ok stop s') :
    s'.cpu.irl = s.cpu.irl := by
  unfold leaveLoop at h
  split_ifs at h <;> cases h <;> rfl

lemma runOnce_core {t : LoopSt δ} {stop : Bool} (h : runOnce E l = .ok stop t) :
    t.irq_check_countdown = (l.polled E).irq_check_countdown ∧
      (takesIrq (l.polled E).st.cpu = false → t.st.cpu.irl = (l.polled E).st.cpu.irl) := by
  unfold runOnce at h
  rw [bind_ok (checkIrq_eq l)] at h
  obtain ⟨_, l₁, h1, h2⟩ := bind_ok_iff.mp h
  obtain ⟨h1, hc1⟩ := onSt_ok h1
  obtain ⟨h2, hc2⟩ := onSt_ok h2
  exact ⟨hc2.trans hc1, fun hn => (leaveLoop_irl h2).trans (stepInstr_irl hn h1)⟩

/-! ### Runs -/

structure SameCore (t l : LoopSt δ) : Prop where
  countdown : l.irq_check_countdown = t.irq_check_countdown
  irl : l.st.cpu.irl = t.st.cpu.irl
  psr : l.st.cpu.psr = t.st.cpu.psr
  trap_type : l.st.cpu.trap_type = t.st.cpu.trap_type

/-- The states in which the first iterations of a call of `run` start. In between, other threads
change what they like of memory, devices, and the flags of the processor. -/
structure IsRun (E : Board δ) (n : Nat) (r : Nat → LoopSt δ) : Prop where
  start : ∃ s, SameCore (enterRun s) (r 0)
  next : ∀ i, i < n → ∃ t, runOnce E (r i) = .ok false t ∧ SameCore t (r (i + 1))

lemma IsRun.countdown {n : Nat} {r : Nat → LoopSt δ} (hr : IsRun E n r) :
    ∀ i, i ≤ n → 0 < (r i).irq_check_countdown ∧ (r i).irq_check_countdown ≤ 64 := by
  intro i
  induction i with
  | zero =>
    intro _
    obtain ⟨s, hs⟩ := hr.start
    rw [hs.countdown]
    exact ⟨Nat.zero_lt_succ 63, Nat.le_refl 64⟩
  | succ i ih =>
    intro hi
    obtain ⟨t, ht, hs⟩ := hr.next i (by omega)
    have := ih (by omega)
    rw [hs.countdown, (runOnce_core ht).1, polled_countdown, IRQ_CHECK_INTERVAL]
    split_ifs <;> omega

/-- An iteration as the interrupt's history wants it: the controller announces `L`, traps are
enabled and none is recorded, the level is acceptable, and no other interrupt is taken. -/
structure Awaits (E : Board δ) (L : u32) (l : LoopSt δ) : Prop where
  hint : E.get_irq_hint l.st.cpu.cpu_id l.st.mem.dev = L
  et : Psr.et l.st.cpu.psr = true
  trap_type : l.st.cpu.trap_type = 0
  accepts : L = 15 ∨ Psr.pil l.st.cpu.psr < L
  other : ∀ L', L' ≠ L → ¬ EntersIrq E L' l

lemma Awaits.idle {L : u32} (h : Awaits E L l) (hn : ¬ EntersIrq E L l) :
    takesIrq (l.polled E).st.cpu = false := by
  by_contra ht
  have ht : takesIrq (l.polled E).st.cpu = true := by simpa using ht
  by_cases hl : (l.polled E).st.cpu.irl = L
  · exact hn ⟨ht, hl⟩
  · exact h.other _ hl ⟨ht, rfl⟩

lemma Awaits.enters {L : u32} (h : Awaits E L l) (hi : (l.polled E).st.cpu.irl = L)
    (hp : Psr.pil l.st.cpu.psr < L) : EntersIrq E L l := by
  refine ⟨?_, hi⟩
  obtain ⟨h1, h2⟩ := polled_kept (E := E) l
  unfold takesIrq
  rw [h1, h2, hi, h.trap_type, h.et]
  simpa using hp

variable {i : Nat}

section Window

variable {n k : Nat} {r : Nat → LoopSt δ} {L : u32} (hr : IsRun E n r) (hk : k + 63 ≤ n)
  (hL : L ≤ 15) (h₀ : (r k).st.cpu.irl ≤ L)
  (hq : ∀ i, i < 64 → (∀ j, j < i → ¬ EntersIrq E L (r (k + j))) → Awaits E L (r (k + i)))

include hr hk hL h₀ hq

lemma window_state : ∀ i, i < 64 → (∀ j, j < i → ¬ EntersIrq E L (r (k + j))) →
    if i < (r k).irq_check_countdown then
      (r (k + i)).irq_check_countdown = (r k).irq_check_countdown - i ∧
        (r (k + i)).st.cpu.irl = (r k).st.cpu.irl
    else (r (k + i)).st.cpu.irl = L := by
  intro i
  induction i with
  | zero =>
    intro _ _
    rw [if_pos (hr.countdown k (by omega)).1]
    exact ⟨rfl, rfl⟩
  | succ i ih =>
    intro hi hn
    have hn' : ∀ j, j < i → ¬ EntersIrq E L (r (k + j)) := fun j hj => hn j (by omega)
    have ih := ih (by omega) hn'
    have ha := hq i (by omega) hn'
    obtain ⟨t, ht, hs⟩ := hr.next (k + i) (by omega)
    obtain ⟨hc, hirl⟩ := runOnce_core ht
    have hirl := hirl (ha.idle (hn i (by omega)))
    rw [show k + (i + 1) = k + i + 1 by omega, hs.irl, hs.countdown, hirl, hc, polled_countdown]
    by_cases hlt : i < (r k).irq_check_countdown
    · rw [if_pos hlt] at ih
      obtain ⟨ihc, ihi⟩ := ih
      by_cases hlt' : i + 1 < (r k).irq_check_countdown
      · rw [if_pos hlt', if_neg (by omega), polled_irl_wait (by omega)]
        exact ⟨by omega, ihi⟩
      · rw [if_neg hlt']
        exact polled_irl_look hL ha.hint ha.trap_type (by rw [ihi]; exact h₀) (by omega)
    · rw [if_neg hlt] at ih
      rw [if_neg (by omega)]
      exact polled_irl_latched ha.hint ih

lemma window_polled (hi : i < 64) (hn : ∀ j, j < i → ¬ EntersIrq E L (r (k + j))) :
    ((r (k + i)).polled E).st.cpu.irl = L ↔
      (r k).st.cpu.irl = L ∨ (r k).irq_check_countdown ≤ i + 1 := by
  have hw := window_state hr hk hL h₀ hq i hi hn
  have ha := hq i hi hn
  by_cases hlt : i < (r k).irq_check_countdown
  · rw [if_pos hlt] at hw
    obtain ⟨hc, hirl⟩ := hw
    by_cases hlt' : i + 1 < (r k).irq_check_countdown
    · rw [polled_irl_wait (by omega), hirl]
      exact ⟨Or.inl, fun h => h.resolve_right (by omega)⟩
    · have := polled_irl_look hL ha.hint ha.trap_type (by rw [hirl]; exact h₀) (by omega)
      exact ⟨fun _ => Or.inr (by omega), fun _ => this⟩
  · rw [if_neg hlt] at hw
    exact ⟨fun _ => Or.inr (by omega), fun _ => polled_irl_latched ha.hint hw⟩

/-- **Response**: over 64 iterations that await an interrupt, it is taken if and only if the
processor's level is below it in some iteration in which the level is latched. -/
theorem irq_response_iff : (∃ i, i < 64 ∧ EntersIrq E L (r (k + i))) ↔
    ∃ i, i < 64 ∧ ((r k).st.cpu.irl = L ∨ (r k).irq_check_countdown ≤ i + 1) ∧
      Psr.pil (r (k + i)).st.cpu.psr < L := by
  constructor
  · intro h
    classical
    -- the first iteration that takes the interrupt
    obtain ⟨hi, he⟩ := Nat.find_spec h
    have hn : ∀ j, j < Nat.find h → ¬ EntersIrq E L (r (k + j)) :=
      fun j hj hej => Nat.find_min h hj ⟨by omega, hej⟩
    refine ⟨_, hi, (window_polled hr hk hL h₀ hq hi hn).mp he.2, ?_⟩
    have ht := he.1
    unfold takesIrq at ht
    rw [he.2, (polled_kept _).1] at ht
    simp only [Bool.and_eq_true, decide_eq_true_eq] at ht
    exact ht.2
  · rintro ⟨i, hi, hlat, hp⟩
    by_contra hc
    push Not at hc
    have hn : ∀ j, j < i → ¬ EntersIrq E L (r (k + j)) := fun j hj => hc j (by omega)
    exact hc i hi ((hq i hi hn).enters ((window_polled hr hk hL h₀ hq hi hn).mpr hlat) hp)

end Window

/-! ### A loop of one instruction -/

def spinBoard : Board Unit := { Board.ram [(0, 0x1000)] with get_irq_hint := fun _ _ => 15 }

/-- A branch to itself, executed with traps enabled and the processor's level at `pil`. -/
def spin (pil : u32) : St Unit where
  cpu := { CPU.reset 0 0 with
    psr := (CPU.reset 0 0).psr ||| (pil <<< 8)
    running := true
    rs := ⟨.INSTRUCTION, 0, 0⟩ }
  mmu := MMU.init
  mem := ⟨fun _ o => if o = 0 then 0x30 else if o = 1 then 0x80 else 0, ()⟩
  d := {}

def spinRun (pil : u32) (i : Nat) : LoopSt Unit := ⟨spin pil, 64 - i⟩

variable {pil : u32}

lemma spin_step (h : pil = 0 ∨ pil = 15) : ∃ s, stepInstr spinBoard (spin pil) = .ok () s ∧
    leaveLoop s = .ok false s ∧ s.cpu.irl = 0 ∧ s.cpu.psr = (spin pil).cpu.psr ∧
    s.cpu.trap_type = 0 ∧ s.cpu.pc = 0 := by
  rcases h with rfl | rfl
  · exact ⟨_, rfl, rfl, rfl, rfl, rfl, rfl⟩
  · exact ⟨_, rfl, rfl, rfl, rfl, rfl, rfl⟩

lemma spinRun_wait (h : i < 63) : (spinRun pil i).polled spinBoard = spinRun pil (i + 1) := by
  unfold LoopSt.polled spinRun
  rw [if_neg (by dsimp only; omega)]
  congr 1

lemma spinRun_look (pil : u32) : (spinRun pil 63).polled spinBoard =
    ⟨{ spin pil with cpu := { (spin pil).cpu with irl := 15 } }, 64⟩ := by
  have hp : pollIrq (spin pil).cpu 15 = { (spin pil).cpu with irl := 15 } := by
    unfold pollIrq
    rw [if_pos ⟨show (0 : u32) < 15 by decide, rfl⟩]
    rfl
  unfold LoopSt.polled
  rw [if_pos (show (spinRun pil 63).irq_check_countdown - 1 = 0 from rfl), ← hp]
  rfl

lemma spinRun_isRun (h : pil = 0 ∨ pil = 15) : IsRun spinBoard 63 (spinRun pil) where
  start := ⟨spin pil, rfl, rfl, rfl, rfl⟩
  next i hi := by
    obtain ⟨s, hs, hl, h1, h2, h3, -⟩ := spin_step h
    refine ⟨⟨s, 64 - (i + 1)⟩, ?_, rfl, h1.symm, h2.symm, h3.symm⟩
    unfold runOnce
    rw [bind_ok (checkIrq_eq _), spinRun_wait hi]
    have ho : onSt (stepInstr spinBoard) (spinRun pil (i + 1)) = .ok () ⟨s, 64 - (i + 1)⟩ := by
      unfold onSt spinRun
      rw [hs]
    rw [bind_ok ho]
    unfold onSt
    rw [hl]

lemma spinRun_idle (pil : u32) (hi : i < 63) :
    takesIrq ((spinRun pil i).polled spinBoard).st.cpu = false := by
  rw [spinRun_wait hi]
  have h0 : ¬ Psr.pil (spin pil).cpu.psr < 0 := by
    rw [BitVec.lt_def]
    exact Nat.not_lt_zero _
  show (_ && decide (Psr.pil (spin pil).cpu.psr < 0)) = false
  rw [decide_eq_false h0, Bool.and_false]

lemma spinRun_awaits (h : pil = 0 ∨ pil = 15) (hi : i < 64) :
    Awaits spinBoard 15 (spinRun pil i) where
  hint := rfl
  et := by
    show Psr.et (spin pil).cpu.psr = true
    rcases h with rfl | rfl <;> decide
  trap_type := rfl
  accepts := Or.inl rfl
  other := by
    rintro L' hne ⟨ht, hl⟩
    by_cases h63 : i < 63
    · rw [spinRun_idle pil h63] at ht
      cases ht
    · obtain rfl : i = 63 := by omega
      rw [spinRun_look] at hl
      exact hne hl.symm

theorem irq_response_low : ∃ i, i < 64 ∧ EntersIrq spinBoard 15 (spinRun 0 (0 + i)) :=
  (irq_response_iff (spinRun_isRun (Or.inl rfl)) (k := 0) (by decide) (by decide) (by decide)
    (fun i hi _ => by rw [Nat.zero_add]; exact spinRun_awaits (Or.inl rfl) hi)).mpr
    ⟨63, by decide, Or.inr (by decide), by decide⟩

/-- With the processor's level at 15, level 15 is announced, latched, and not taken. -/
theorem level_15_masked : ∃ (E : Board Unit) (r : Nat → LoopSt Unit), IsRun E 63 r ∧
    (r 0).st.cpu.irl ≤ 15 ∧ (∀ i, i < 64 → Awaits E 15 (r i)) ∧
    ¬ ∃ i, i < 64 ∧ EntersIrq E 15 (r i) := by
  refine ⟨spinBoard, spinRun 15, spinRun_isRun (Or.inr rfl), by decide,
    fun i hi => spinRun_awaits (Or.inr rfl) hi, ?_⟩
  rintro ⟨i, hi, ht, -⟩
  by_cases h63 : i < 63
  · rw [spinRun_idle 15 h63] at ht
    cases ht
  · obtain rfl : i = 63 := by omega
    rw [spinRun_look] at ht
    exact absurd ht (by decide)

end SparcEmu
