import SparcEmu.Dispatch

/-!
`excute_one` as decode, function and write-back of one instruction. A debugger breakpoint
only changes which instruction that is, and two calls suffice for every instruction that
ends.
-/

namespace SparcEmu

open Lib.Effect

variable {δ : Type} (E : Board δ)

/-! ### Write-back -/

lemma write_reg_fields (c : CPU) (v r : u32) :
    (c.write_reg v r).pc = c.pc ∧ (c.write_reg v r).npc = c.npc ∧ (c.write_reg v r).psr = c.psr ∧
      (c.write_reg v r).cwp_base = c.cwp_base := by
  unfold CPU.write_reg; split_ifs <;> exact ⟨rfl, rfl, rfl, rfl⟩

lemma upd_upd (f : u32 → u32) (i v : u32) : CPU.upd (CPU.upd f i v) i v = CPU.upd f i v := by
  funext j; unfold CPU.upd; split_ifs <;> rfl

lemma upd_zero (f : u32 → u32) (i v : u32) :
    CPU.upd (CPU.upd (CPU.upd (CPU.upd f i v) 0 0) i v) 0 0 = CPU.upd (CPU.upd f i v) 0 0 := by
  funext j; unfold CPU.upd; split_ifs <;> rfl

lemma write_reg_again (c : CPU) (v r : u32) : (c.write_reg v r).write_reg v r = c.write_reg v r := by
  unfold CPU.write_reg
  split_ifs
  · simp only [upd_upd]
  · simp only [upd_zero]
  · simp only [CPU.outIdx, upd_upd]
  · simp only [CPU.outIdx, upd_upd]
  · simp only [CPU.inIdx, upd_upd]

lemma write_back_trap_type (c : CPU) (d : DecodeStruct) :
    (c.write_back d).trap_type = c.trap_type := by
  unfold CPU.write_back CPU.write_reg
  dsimp only
  split_ifs <;> rfl

lemma write_back_again (c : CPU) (d : DecodeStruct) :
    (c.write_back d).write_back d = c.write_back d := by
  unfold CPU.write_back
  dsimp only
  split_ifs
  · set w := CPU.update_cwp_bases { c with pc := d.pc, npc := d.npc, psr := d.psr } with hw
    obtain ⟨h1, h2, h3, h4⟩ := write_reg_fields w d.value d.rd
    have : CPU.update_cwp_bases { w.write_reg d.value d.rd with pc := d.pc, npc := d.npc, psr := d.psr }
        = w.write_reg d.value d.rd := by
      rcases hx : w.write_reg d.value d.rd with ⟨⟩
      rw [hx] at h1 h2 h3 h4
      dsimp only at h1 h2 h3 h4
      simp only [CPU.update_cwp_bases, h1, h2, h3, h4, hw]
    rw [this, write_reg_again]
  · rfl

/-! ### One call -/

lemma excuteOneN_succ (n : Nat) (s : St δ) : excuteOneN E (n + 1) s =
    match (decode s.cpu s.d).function.exec E (excuteOneN E n) { s with d := decode s.cpu s.d } with
    | .ok _ t => .ok () { t with cpu := t.cpu.write_back t.d }
    | .error e t => .error e t := by
  rw [excuteOneN]
  rw [getCPU_bind,
    bind_ok (show modD (decode s.cpu) s = .ok () { s with d := decode s.cpu s.d } from rfl),
    bind_ok (show getD { s with d := decode s.cpu s.d } = .ok (decode s.cpu s.d) _ from rfl)]
  rcases h : (decode s.cpu s.d).function.exec E (excuteOneN E n) { s with d := decode s.cpu s.d }
    with ⟨a, t⟩ | ⟨e, t⟩
  · rw [bind_ok h]; rfl
  · rw [bind_error h]

variable {s : St δ}

lemma excuteOneN_written {n : Nat} {t : St δ} {a : Unit} (h : excuteOneN E (n + 1) s = .ok a t) :
    t.cpu.write_back t.d = t.cpu := by
  rw [excuteOneN_succ] at h
  split at h
  · cases h; exact write_back_again _ _
  · cases h

lemma exec_no_breakpoint (h : breakpointAt s.cpu s.d = none) (f : Handler) (k k' : M δ Unit) :
    f.exec E k s = f.exec E k' s := by
  cases f
  case TICC =>
    show TICC k s = TICC k' s
    unfold TICC
    rw [getD_bind, getCPU_bind,
      getD_bind, getCPU_bind, h]
  all_goals rfl

@[simp] lemma decode_opcode (c : CPU) (d : DecodeStruct) : (decode c d).opcode = d.opcode := by
  unfold decode; dsimp only; split_ifs <;> rfl

variable {d : DecodeStruct}

lemma decode_TA1 (c : CPU) (h : d.opcode = TA1) :
    decode c d = { d with
      pc := c.pc, npc := c.npc, psr := c.psr, wb_type := .NO_WRITEBACK, function := .TICC
      rd := 8, op_2_3 := 0x3a, rs1 := 0, i := 1, imm_disp_rs2 := 1
      rs1_value := c.globals 0, ev := c.globals 0 + 1 } := by
  simp [decode, decodeOperands, decodeFields, h, TA1, formatIdx, CPU.read_reg, GLOBALREG8,
    FIRST_RS1_EVAL_IDX, TICC_IDX, STORE_DBL_IDX, sign_ext13, format3]

variable {bp : u32}

lemma breakpointAt_some {c : CPU} (h : breakpointAt c d = some bp) : d.opcode = TA1 := by
  unfold breakpointAt at h
  split at h
  · split_ifs at h with hc
    exact hc.1
  · cases h

/-- The state in which the instruction that a breakpoint hides is executed. -/
def hidden (s : St δ) (bp : u32) : St δ := { s with d := { decode s.cpu s.d with opcode := bp } }

/-- The state in which the instruction is executed: at a breakpoint it is the hidden one. -/
def entry (s : St δ) : St δ :=
  match breakpointAt s.cpu (decode s.cpu s.d) with
  | some bp => hidden s bp
  | none => s

lemma entry_none (h : breakpointAt s.cpu (decode s.cpu s.d) = none) : entry s = s := by
  unfold entry; rw [h]

lemma entry_some (h : breakpointAt s.cpu (decode s.cpu s.d) = some bp) : entry s = hidden s bp := by
  unfold entry; rw [h]

lemma exec_breakpoint (h : breakpointAt s.cpu (decode s.cpu s.d) = some bp) (k : M δ Unit) :
    (decode s.cpu s.d).function.exec E k { s with d := decode s.cpu s.d } = k (hidden s bp) := by
  have hop : s.d.opcode = TA1 := by
    rw [← decode_opcode s.cpu s.d]; exact breakpointAt_some h
  rw [show (decode s.cpu s.d).function = .TICC by rw [decode_TA1 _ hop]]
  show TICC k _ = _
  unfold TICC
  rw [bind_ok (show getD { s with d := decode s.cpu s.d } = .ok (decode s.cpu s.d) _ from rfl),
    bind_ok (show getCPU { s with d := decode s.cpu s.d } = .ok s.cpu _ from rfl), h]
  dsimp only
  rw [bind_ok (show modD (fun d => { d with opcode := bp }) { s with d := decode s.cpu s.d }
    = .ok () (hidden s bp) from rfl)]

/-- **Breakpoints**: a call that may call itself again executes the instruction that the
breakpoint hides. -/
theorem excuteOneN_entry (n : Nat) (s : St δ) :
    excuteOneN E (n + 2) s = excuteOneN E (n + 1) (entry s) := by
  rw [excuteOneN_succ]
  cases hb : breakpointAt s.cpu (decode s.cpu s.d) with
  | none =>
    rw [exec_no_breakpoint (s := { s with d := decode s.cpu s.d }) E hb _ (excuteOneN E (n + 1))
      (excuteOneN E n), entry_none hb, excuteOneN_succ]
  | some bp =>
    -- The call has written back already; the caller does it once more.
    rw [exec_breakpoint E hb, entry_some hb]
    cases h : excuteOneN E (n + 1) (hidden s bp) with
    | ok a t => simp only [excuteOneN_written E h]
    | error e t => rfl

lemma entry_same (s : St δ) :
    (entry s).cpu = s.cpu ∧ (entry s).mmu = s.mmu ∧ (entry s).mem = s.mem := by
  unfold entry
  split <;> exact ⟨rfl, rfl, rfl⟩

/-- Decode, function and write-back of the instruction at hand. -/
def once : M δ Unit := excuteOneN E 1

theorem excute_one_eq (s : St δ) : excute_one E s = once E (entry s) := excuteOneN_entry E 0 s

lemma decode_TA1_again {c : CPU} (h : d.opcode = TA1) :
    decode c { decode c d with opcode := TA1 } = decode c d := by
  rw [decode_TA1 c rfl, decode_TA1 c h, ← h]

lemma entry_entry (s : St δ) : entry (entry s) = entry s := by
  cases hb : breakpointAt s.cpu (decode s.cpu s.d) with
  | none => rw [entry_none hb, entry_none hb]
  | some bp =>
    have hop : s.d.opcode = TA1 := by
      rw [← decode_opcode s.cpu s.d]; exact breakpointAt_some hb
    rw [entry_some hb]
    cases hb' : breakpointAt s.cpu (decode s.cpu { decode s.cpu s.d with opcode := bp }) with
    | none => exact entry_none hb'
    | some bp' =>
      -- The hidden instruction is the breakpoint again, so nothing changes.
      have hbp : bp = TA1 := by
        have := breakpointAt_some hb'
        rwa [decode_opcode] at this
      subst hbp
      have hd := decode_TA1_again (c := s.cpu) hop
      rw [entry_some (s := hidden s TA1) hb']
      rw [hd, hb] at hb'
      cases hb'
      unfold hidden
      rw [hd]

/-! ### The instruction as a composition of steps -/

@[simp] lemma decode_psr (c : CPU) (d : DecodeStruct) : (decode c d).psr = c.psr := by
  unfold decode; dsimp only; split_ifs <;> rfl

def St.instr (s : St δ) : DecodeStruct := decode s.cpu (entry s).d

@[simp] lemma instr_psr (s : St δ) : s.instr.psr = s.cpu.psr := decode_psr _ _

lemma instr_kept (s : St δ) :
    s.instr.pc = s.cpu.pc ∧ s.instr.npc = s.cpu.npc ∧ s.instr.wb_type = .NO_WRITEBACK := by
  unfold St.instr decode; dsimp only; split_ifs <;> exact ⟨rfl, rfl, rfl⟩

theorem excute_one_instr (s : St δ) : excute_one E s =
    match s.instr.function.exec E (throwHost .stack_overflow) { s with d := s.instr } with
    | .ok _ t => .ok () { t with cpu := t.cpu.write_back t.d }
    | .error e t => .error e t := by
  obtain ⟨hc, hm, hmem⟩ := entry_same s
  rw [excute_one_eq, once, excuteOneN_succ, hc, hm, hmem]
  rfl

/-- The setup of an analysis of the instruction that a call executes. -/
def Setup.of (s : St δ) (user throws : Prop) : Setup := ⟨s.cpu, s.instr, user, throws⟩

lemma Spec.access {Inv : Phase → St δ → Prop} {Err : HostError → St δ → Prop} {α : Type} {i : Phase}
    {m : M δ α} {op : MmuM δ α} {Q : α → Phase → Prop} {c : CPU}
    (hm : ∀ s : St δ, (i = .quiet → s.cpu = c) → m s = onMMU op s)
    (hc : ∀ s, Inv .quiet s → s.cpu = c) (h : Spec Inv Err α i (onMMU op) Q) :
    Spec Inv Err α i m Q := by
  intro s hs
  have hop := h s hs
  rwa [← hm s fun hi => hc s (hi ▸ hs)] at hop

theorem excute_one_spec {user throws : Prop} (hK : (Setup.of s user throws).Ok E)
    {Inv : Phase → St δ → Prop} {Err : HostError → St δ → Prop}
    (hstep : ∀ {α : Type} {i : Phase} {m : M δ α} {Q : α → Phase → Prop},
      Step E (Setup.of s user throws) α i m Q → Spec Inv Err α i m Q)
    (h0 : Inv .quiet { s with d := s.instr }) :
    match excute_one E s with
    | .ok _ t => ∃ u : St δ, t = { u with cpu := u.cpu.write_back u.d } ∧
        (Inv .done u ∨ Inv .trapped u)
    | .error e t => Err e t := by
  have h : Hoare (Inv .quiet) (s.instr.function.exec E (throwHost .stack_overflow))
      (fun a t => ∃ j, Ends a j ∧ Inv j t) Err :=
    (prog_exec hK).elim (spec_closed Inv Err) hstep
  rw [excute_one_instr]
  cases hx : s.instr.function.exec E (throwHost .stack_overflow) { s with d := s.instr } with
  | ok a t =>
    obtain ⟨j, rfl | rfl, hj⟩ := h.ok h0 hx
    · exact ⟨t, rfl, Or.inl hj⟩
    · exact ⟨t, rfl, Or.inr hj⟩
  | error e t => exact h.error h0 hx

/-- **Enough calls**: allowing more than two changes nothing. -/
theorem excuteOneN_stable (n : Nat) (s : St δ) : excuteOneN E (n + 2) s = excute_one E s := by
  induction n generalizing s with
  | zero => rfl
  | succ n ih => rw [excuteOneN_entry, ih, excute_one_eq, entry_entry, ← excute_one_eq]

end SparcEmu
