import SparcEmu.ControlEffects
import SparcEmu.RunLoop
import SparcEmu.Lib.System

/-!
The loop of `CPU::run`, taken apart into its steps, with whatever the rest of the machine does
between any two of them. A step that throws ends the run; the state it leaves counts.
-/

namespace SparcEmu

open Lib.Effect Lib.System

variable {δ : Type}

/-- The steps of a run. `outside` is what other threads and the debugger change: memory, devices
and flags. -/
inductive RunEvent (δ : Type)
  | enter
  | poll
  | take
  | trap
  | fetch
  | execute
  | leave
  | outside (mem : Mem δ) (interrupt wakeup_flag : Bool) (gdb_stub : Option GdbStub)

/-- The fetch of an iteration, and the throw for one that fails without a trap. -/
def fetchStep (E : Board δ) : M δ Unit := do
  let c ← getCPU
  let fetched ← instr_fetch E c.pc
  if fetched then pure ()
  else do
    let c ← getCPU
    if c.trap_type = 0 then throwHost (.runtime_error "Could not fetch instruction.")
    else pure ()

namespace RunEvent

def act (E : Board δ) : RunEvent δ → M δ Unit
  | .enter => fun s => .ok () (enterRun s).st
  | .poll => fun s =>
    .ok () { s with cpu := pollIrq s.cpu (E.get_irq_hint s.cpu.cpu_id s.mem.dev) }
  | .take => takeIrq E
  | .trap => modCPU fun c => if c.trap_type ≠ 0 then enterTrap c else c
  | .fetch => fetchStep E
  | .execute => excute_one E
  | .leave => do
    let _ ← leaveLoop
    pure ()
  | .outside mem interrupt wakeup_flag gdb_stub => fun s =>
    .ok () { s with
      mem := mem
      cpu := { s.cpu with
        interrupt := interrupt, wakeup_flag := wakeup_flag, gdb_stub := gdb_stub } }

def step (E : Board δ) (e : RunEvent δ) (s : St δ) : Option (St δ) := some (final (e.act E s))

end RunEvent

/-- The states of the runs that start in `s₀` and in which every step meets `C`. -/
abbrev Runs (E : Board δ) (C : RunEvent δ → St δ → Prop) (s₀ : St δ) : St δ → Prop :=
  Reach (RunEvent.step E) C s₀

/-! ### What a step does to the control registers -/

/-- Only a trap entry and an instruction change them. -/
inductive Moved (e : RunEvent δ) (s : St δ) (c : CPU) : Prop
  | same : s.cpu.SameControl c → Moved e s c
  | entered : c = enterTrap s.cpu → Moved e s c
  | executed : e = .execute → Instruction s c → Moved e s c

variable {E : Board δ}

lemma hoare_instr_fetch (d : DecodeStruct) (c : CPU) (va : u32) :
    Hoare (Pending d c) (instr_fetch E va) (fun _ t => c.SameControl t.cpu)
      fun _ t => c.SameControl t.cpu := by
  refine leads_getD (leads_memAccess.bind fun r => ?_)
  refine Hoare.bind (Q := fun _ => Pending { d with opcode := r.2 } c) ?_ fun _ => ?_
  · rintro s ⟨rfl, hc, hr⟩
    exact ⟨rfl, hc, hr⟩
  have hrest : Leads { d with opcode := r.2 } c (if r.1.msb then do
      let m ← onMMU MMU.getMMU
      let AT := (m.fault_status_reg >>> 5) &&& 7
      if AT < 2 ∨ 3 < AT then
        throwHost (.runtime_error "AT != 2 | 3 is not possible in an instruction fetch!")
      else if m.get_no_fault then
        throwHost (.runtime_error "Unhandled error in instruction fetch (MMU nofault == 1)")
      else do
        SparcEmu.trap SPARC_INSTRUCTION_ACCESS_EXCEPTION
        pure false
    else pure true : M δ Bool) (Pending { d with opcode := r.2 } c) := by
    split_ifs
    · refine (leads_onMMU _).bind fun m => ?_
      dsimp only
      split_ifs
      · exact leads_throw _
      · exact leads_throw _
      · exact (leads_trap _).bind fun _ => leads_pure _
    · exact leads_pure _
  exact Hoare.conseq hrest (fun _ h => h) (fun _ _ h => h.control) fun _ _ h => h

lemma fetchStep_control (s : St δ) : s.cpu.SameControl (final (fetchStep E s)).cpu := by
  have h0 : Pending s.d s.cpu s := ⟨rfl, ⟨rfl, rfl, rfl, rfl, rfl⟩, .refl⟩
  have h : Hoare (Pending s.d s.cpu) (fetchStep E)
      (fun _ t => s.cpu.SameControl t.cpu) fun _ t => s.cpu.SameControl t.cpu := by
    refine leads_getCPU fun c => Hoare.bind (hoare_instr_fetch s.d s.cpu c.pc) fun fetched => ?_
    refine Hoare.ite (fun _ _ ht => ht) fun _ => ?_
    refine Hoare.bind (m := getCPU) (Q := fun _ t => s.cpu.SameControl t.cpu) (fun _ ht => ht)
      fun c => ?_
    exact Hoare.ite (fun _ _ ht => ht) fun _ _ ht => ht
  have hs := h s h0
  rcases hx : fetchStep E s with ⟨a, t⟩ | ⟨e, t⟩
  · rw [hx] at hs; exact hs
  · rw [hx] at hs; exact hs

theorem act_moved (e : RunEvent δ) (s : St δ) : Moved e s (final (e.act E s)).cpu := by
  cases e with
  | enter => exact .same ⟨rfl, rfl, rfl, rfl, rfl⟩
  | poll =>
    refine .same ?_
    show s.cpu.SameControl (pollIrq s.cpu _)
    unfold pollIrq
    split_ifs <;> exact ⟨rfl, rfl, rfl, rfl, rfl⟩
  | take =>
    refine .same ?_
    show s.cpu.SameControl (final (takeIrq E s)).cpu
    unfold takeIrq
    split_ifs <;> exact ⟨rfl, rfl, rfl, rfl, rfl⟩
  | trap =>
    show Moved _ s (if s.cpu.trap_type ≠ 0 then enterTrap s.cpu else s.cpu)
    split_ifs
    · exact .entered rfl
    · exact .same ⟨rfl, rfl, rfl, rfl, rfl⟩
  | fetch => exact .same (fetchStep_control s)
  | execute =>
    have h := excute_one_control (E := E) s
    show Moved _ s (final (excute_one E s)).cpu
    rcases hx : excute_one E s with ⟨a, t⟩ | ⟨x, t⟩
    · rw [hx] at h; exact .executed rfl h
    · rw [hx] at h; exact .same h
  | leave =>
    refine .same ?_
    show s.cpu.SameControl (final ((leaveLoop >>= fun _ => pure ()) s)).cpu
    by_cases hi : s.cpu.interrupt
    · rw [bind_ok (show leaveLoop s = .ok true _ from if_pos hi)]
      exact ⟨rfl, rfl, rfl, rfl, rfl⟩
    · rw [bind_ok (show leaveLoop s = .ok _ s from if_neg hi)]
      exact ⟨rfl, rfl, rfl, rfl, rfl⟩
  | outside mem interrupt wakeup_flag gdb_stub => exact .same ⟨rfl, rfl, rfl, rfl, rfl⟩

/-- **Invariants** of the control registers: they survive what leaves the registers alone, trap
entries, and the instructions that the side condition allows. -/
theorem Runs.inv {C : RunEvent δ → St δ → Prop} {I : CPU → Prop} {s₀ s : St δ}
    (h : Runs E C s₀ s) (h₀ : I s₀.cpu)
    (same : ∀ {c c' : CPU}, I c → c.SameControl c' → I c')
    (entered : ∀ {c : CPU}, I c → I (enterTrap c))
    (executed : ∀ {s : St δ} {c : CPU}, I s.cpu → C .execute s → Instruction s c → I c) :
    I s.cpu := by
  refine Reach.inv (I := fun s => I s.cpu) h h₀ ?_
  rintro e s t hi hC ⟨⟩
  rcases act_moved (E := E) e s with hm | hm | ⟨rfl, hm⟩
  · exact same hi hm
  · rw [hm]; exact entered hi
  · exact executed hi hC hm

/-! ### The loop makes these steps -/

section Loop

variable {C : RunEvent δ → St δ → Prop} {s₀ : St δ}

/-- The program stays among the states of the runs, also when it throws. -/
def Stays (E : Board δ) (C : RunEvent δ → St δ → Prop) (s₀ : St δ) {α : Type} (m : M δ α) : Prop :=
  Hoare (Runs E C s₀) m (fun _ => Runs E C s₀) fun _ => Runs E C s₀

lemma Stays.bind {α β : Type} {m : M δ α} {k : α → M δ β} (hm : Stays E C s₀ m)
    (hk : ∀ a, Stays E C s₀ (k a)) : Stays E C s₀ (m >>= k) := Hoare.bind hm hk

lemma hoare_onSt {α : Type} {m : M δ α} {P : St δ → Prop}
    (h : Hoare P m (fun _ => P) fun _ => P) :
    Hoare (fun l : LoopSt δ => P l.st) (onSt m) (fun _ l => P l.st) fun _ l => P l.st := by
  intro l hl
  have hm := h l.st hl
  unfold onSt
  rcases hx : m l.st with ⟨a, t⟩ | ⟨e, t⟩
  · rw [hx] at hm; exact hm
  · rw [hx] at hm; exact hm

variable (hC : ∀ e s, Runs E C s₀ s → C e s)

include hC

lemma stays_of_event {α : Type} {m : M δ α} (e : RunEvent δ)
    (h : ∀ s, final (m s) = final (e.act E s)) : Stays E C s₀ m := by
  intro s hs
  have ht : Runs E C s₀ (final (m s)) := by
    rw [h s]
    exact hs.tail (hC e s hs) rfl
  rcases hx : m s with ⟨a, t⟩ | ⟨x, t⟩
  · rw [hx] at ht; exact ht
  · rw [hx] at ht; exact ht

lemma stays_fetch : Stays E C s₀ (do
    let c ← getCPU
    let fetched ← instr_fetch E c.pc
    if fetched then excute_one E
    else do
      let c ← getCPU
      if c.trap_type = 0 then throwHost (.runtime_error "Could not fetch instruction.")
      else pure ()) := by
  intro s hs
  have hf : Runs E C s₀ (final (fetchStep E s)) := hs.tail (hC .fetch s hs) rfl
  unfold fetchStep at hf
  rw [getCPU_bind] at hf ⊢
  rcases hx : instr_fetch E s.cpu.pc s with ⟨fetched, t⟩ | ⟨x, t⟩
  · rw [bind_ok hx] at hf ⊢
    cases fetched with
    | true => exact stays_of_event hC .execute (fun _ => rfl) t hf
    | false =>
      rw [if_neg Bool.false_ne_true] at hf ⊢
      rw [getCPU_bind] at hf ⊢
      split_ifs at hf ⊢ <;> exact hf
  · rw [bind_error hx] at hf ⊢
    exact hf

lemma stays_stepInstr : Stays E C s₀ (stepInstr E) :=
  (stays_of_event hC .take fun _ => rfl).bind fun _ =>
    (stays_of_event (m := modCPU _) hC .trap fun _ => rfl).bind fun _ => stays_fetch hC

lemma stays_leaveLoop : Stays E C s₀ leaveLoop := by
  refine stays_of_event hC .leave fun s => ?_
  show _ = final ((leaveLoop >>= fun _ => pure ()) s)
  rcases hx : leaveLoop s with ⟨b, t⟩ | ⟨x, t⟩
  · rw [bind_ok hx]; rfl
  · rw [bind_error hx]; rfl

lemma runOnce_stays : Hoare (fun l : LoopSt δ => Runs E C s₀ l.st) (runOnce E)
    (fun _ l => Runs E C s₀ l.st) fun _ l => Runs E C s₀ l.st := by
  refine Hoare.bind (Q := fun _ l => Runs E C s₀ l.st) ?_ fun _ => Hoare.bind
    (hoare_onSt (stays_stepInstr hC)) fun _ => hoare_onSt (stays_leaveLoop hC)
  intro l hl
  unfold checkIrq
  split_ifs
  · exact hl.tail (hC .poll l.st hl) rfl
  · exact hl

/-- **The loop**: every state that iterations of the loop lead to, or throw in, is one of these. -/
theorem runLoop_runs (n : Nat) : Hoare (fun l : LoopSt δ => Runs E C s₀ l.st) (runLoop E n)
    (fun _ l => Runs E C s₀ l.st) fun _ l => Runs E C s₀ l.st := by
  induction n with
  | zero => exact Hoare.pure fun _ h => h
  | succ n ih =>
    refine Hoare.bind (runOnce_stays hC) fun stop => ?_
    exact Hoare.ite (fun _ => Hoare.pure fun _ h => h) fun _ => ih

end Loop

end SparcEmu
