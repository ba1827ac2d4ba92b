import SparcEmu.Entry
import Mathlib.Logic.Relation

/-!
What an instruction does to the program counters, the status register, the trap base, the
window mask and the integer registers. Every instruction function is gone through once; what
follows from it for whole runs is derived from the result.
-/

namespace SparcEmu

open Lib.Effect

/-! ### The effects -/

/-- The program counters that the instruction `d` can leave. -/
inductive DecodeStruct.Goes (d : DecodeStruct) : u32 → u32 → Prop
  /-- A trap, or an instruction that ends the run. -/
  | stay : Goes d d.pc d.npc
  | next : Goes d d.npc (d.npc + 4)
  | branch (k : u32) : Goes d d.npc (d.pc + 4 * k)
  | annul : Goes d (d.npc + 4) (d.npc + 4 + 4)
  | branchAnnul (k : u32) : Goes d (d.pc + 4 * k) (d.pc + 4 * k + 4)
  /-- `JMPL` and `RETT` check their target. -/
  | jump {target : u32} : target &&& 3 = 0 → Goes d d.npc target

def wrpsrValue (v : u32) : u32 :=
  ((0xf0000000 ||| 0x03000000 ||| v) &&& ~~~(1#32 <<< 13)) &&& ~~~(0x3f#32 <<< 14)

/-- The status registers that the instruction `d` can leave. -/
inductive DecodeStruct.Sets (d : DecodeStruct) : u32 → Prop
  | same : Sets d d.psr
  | codes {cc : u32} : Nibble cc → Sets d (Psr.setIcc d.psr cc)
  | window (w : u32) : d.function = .SAVE ∨ d.function = .RESTORE → Sets d (Psr.setCwp d.psr w)
  | rett (w : u32) : d.function = .RETT →
      Sets d (Psr.setCwp (Psr.setEt (Psr.setS d.psr (Psr.ps d.psr)) true) w)
  | written : d.function = .WRPSR → Psr.s d.psr = true →
      (d.rs1_value ^^^ d.ev) &&& 0x1f < NWINDOWS → Sets d (wrpsrValue (d.rs1_value ^^^ d.ev))

inductive DecodeStruct.Bases (d : DecodeStruct) (tbr : u32) : u32 → Prop
  | same : Bases d tbr tbr
  | written : d.function = .WRTBR → Psr.s d.psr = true → Bases d tbr (d.rs1_value ^^^ d.ev)

inductive Masks (wim : u32) : u32 → Prop
  | same : Masks wim wim
  | written (v : u32) : Masks wim (v &&& 0xff)

def regNo (r : u32) : Fin 32 := Fin.ofNat 32 r.toNat

/-- The registers that an instruction may write, for the one in its `rd` field. -/
def Handler.targets (rd : Fin 32) : Handler → List (Fin 32)
  | .CALL => [15]
  | .LDD => [rd, rd + 1]
  | .SETHI | .SLL | .SRL | .SRA | .RDY | .RDPSR | .RDWIM | .RDTBR | .JMPL | .SAVE | .RESTORE
  | .MULSCC | .MUL | .DIV | .ADD | .AND | .LD | .LDUB | .LDUH | .LDSB | .LDSH | .SWAP | .SWAPA
  | .LDSTUB | .LDA_impl | .CASA => [rd]
  | _ => []

def DecodeStruct.Target (d : DecodeStruct) (reg_no : u32) : Prop :=
  regNo reg_no ∈ d.function.targets (regNo d.rd)

/-- A call of `write_reg` for one of the registers, or a change elsewhere. -/
inductive CPU.RegStep (W : u32 → Prop) (c : CPU) : CPU → Prop
  | write (value : u32) {reg_no : u32} : W reg_no → RegStep W c (c.write_reg value reg_no)
  | other {c' : CPU} : c.SameRegs c' → RegStep W c c'

def CPU.RegPath (W : u32 → Prop) : CPU → CPU → Prop := Relation.ReflTransGen (CPU.RegStep W)

variable {δ α β : Type} {E : Board δ}

structure CPU.SameControl (c c' : CPU) : Prop where
  pc : c'.pc = c.pc
  npc : c'.npc = c.npc
  psr : c'.psr = c.psr
  tbr : c'.tbr = c.tbr
  wim : c'.wim = c.wim

lemma CPU.SameControl.trans {c c' c'' : CPU} (h : c.SameControl c') (h' : c'.SameControl c'') :
    c.SameControl c'' :=
  ⟨h'.pc.trans h.pc, h'.npc.trans h.npc, h'.psr.trans h.psr, h'.tbr.trans h.tbr,
    h'.wim.trans h.wim⟩

lemma write_reg_control (c : CPU) (v r : u32) : c.SameControl (c.write_reg v r) := by
  unfold CPU.write_reg
  split_ifs <;> exact ⟨rfl, rfl, rfl, rfl, rfl⟩

/-- What an instruction function that starts with `d` and `c` has done by its end. -/
structure Effect (d : DecodeStruct) (c : CPU) (s : St δ) : Prop where
  flow : d.Goes s.d.pc s.d.npc
  status : d.Sets s.d.psr
  base : d.Bases c.tbr s.cpu.tbr
  mask : Masks c.wim s.cpu.wim
  regs : c.RegPath d.Target s.cpu
  /-- What `write_back` will write. -/
  dest : s.d.wb_type = d.wb_type ∨ d.Target s.d.rd

/-- A reason for which the loop is left. -/
def TerminateReason.Stops (r : TerminateReason) : Prop := r = .NORMAL ∨ r = .UNIMPLEMENTED

/-- What an instruction function other than a control transfer has done by its end: it goes on to
the next instruction, or a trap is pending, or the loop is left. -/
structure Falls (d : DecodeStruct) (c : CPU) (s : St δ) : Prop extends Effect d c s where
  onward : (s.d.pc = d.npc ∧ s.d.npc = d.npc + 4) ∨ s.cpu.trap_type ≠ 0 ∨ s.cpu.rs.reason.Stops

/-- Up to its last step it has touched nothing of these. -/
structure Pending (d : DecodeStruct) (c : CPU) (s : St δ) : Prop where
  decoded : s.d = d
  control : c.SameControl s.cpu
  regs : c.RegPath d.Target s.cpu

lemma Pending.effect {d : DecodeStruct} {c : CPU} {s : St δ} (h : Pending d c s) :
    Effect d c s := by
  refine ⟨?_, ?_, ?_, ?_, h.regs, .inl (by rw [h.decoded])⟩
  · rw [h.decoded]; exact .stay
  · rw [h.decoded]; exact .same
  · rw [h.control.tbr]; exact .same
  · rw [h.control.wim]; exact .same

/-! ### Rules -/

variable {f : CPU → CPU} {n : u32}

section Rules

variable {d : DecodeStruct} {c : CPU} {Q : St δ → Prop}

/-- From a pending state the program leads to `Q`; a throw leaves the registers alone. -/
def Leads (d : DecodeStruct) (c : CPU) (m : M δ α) (Q : St δ → Prop) : Prop :=
  Hoare (Pending d c) m (fun _ => Q) fun _ s => c.SameControl s.cpu

variable {m : M δ α}

lemma Leads.bind {k : α → M δ β} (hm : Leads d c m (Pending d c)) (hk : ∀ a, Leads d c (k a) Q) :
    Leads d c (m >>= k) Q := Hoare.bind hm hk

lemma Leads.ofFalls (h : Leads d c m (Falls d c)) : Leads d c m (Effect d c) :=
  Hoare.conseq h (fun _ hs => hs) (fun _ _ hs => hs.toEffect) fun _ _ h => h

lemma leads_getD {k : DecodeStruct → M δ α} (h : Leads d c (k d) Q) :
    Leads d c (getD >>= k) Q := by
  rintro s ⟨rfl, hc, hr⟩
  exact h s ⟨rfl, hc, hr⟩

lemma leads_getCPU {k : CPU → M δ α} (h : ∀ c', Leads d c (k c') Q) :
    Leads d c (getCPU >>= k) Q :=
  fun s hs => h s.cpu s hs

lemma leads_pure (a : α) : Leads d c (pure a : M δ α) (Pending d c) := fun _ hs => hs

lemma leads_throw (e : HostError) : Leads d c (throwHost e : M δ α) Q := fun _ hs => hs.control

lemma leads_noFault : Leads d c (noFault : M δ Bool) (Pending d c) := fun _ hs => hs

lemma leads_onMMU (m : MmuM δ α) : Leads d c (onMMU m) (Pending d c) := by
  intro s hs
  unfold onMMU
  rcases m ⟨s.mmu, s.mem⟩ with ⟨a, t⟩ | ⟨e, t⟩
  · exact ⟨hs.decoded, hs.control, hs.regs⟩
  · exact hs.control

lemma leads_memAccess {rw : Intent} {size : AccessSize} {va v : u32} :
    Leads d c (memAccess E rw size va v) (Pending d c) :=
  leads_getCPU fun _ => leads_onMMU _

lemma leads_memAccess2 {rw : Intent} {va v₀ v₁ : u32} :
    Leads d c (memAccess2 E rw va v₀ v₁) (Pending d c) :=
  leads_memAccess.bind fun _ => leads_memAccess.bind fun _ => leads_pure _

lemma leads_modCPU (hf : ∀ c : CPU, c.SameControl (f c)) (hr : ∀ c : CPU, c.RegPath d.Target (f c)) :
    Leads d c (modCPU f : M δ Unit) (Pending d c) :=
  fun s hs => ⟨hs.decoded, hs.control.trans (hf s.cpu), hs.regs.trans (hr s.cpu)⟩

lemma leads_change {k : Unit → M δ α} (hf : ∀ c : CPU, c.SameControl (f c))
    (hr : ∀ c : CPU, c.RegPath d.Target (f c)) (hk : Leads d c (k ()) Q) :
    Leads d c (modCPU f >>= k) Q :=
  (leads_modCPU hf hr).bind fun _ => hk

lemma leads_write_reg (v : u32) {r : u32} (hr : d.Target r) :
    Leads d c (modCPU fun c => c.write_reg v r : M δ Unit) (Pending d c) :=
  leads_modCPU (fun c => write_reg_control c v r) fun _ => .single (.write v hr)

/-- The change is one of other fields. -/
def Elsewhere (f : CPU → CPU) : Prop := ∀ c, f c = { f c with
  pc := c.pc, npc := c.npc, psr := c.psr, tbr := c.tbr, wim := c.wim, cwp_base := c.cwp_base
  globals := c.globals, locals := c.locals, outs := c.outs }

lemma leads_other (hf : Elsewhere f) : Leads d c (modCPU f : M δ Unit) (Pending d c) :=
  leads_modCPU (fun c => by rw [hf c]; exact ⟨rfl, rfl, rfl, rfl, rfl⟩) fun c =>
    .single (.other (by rw [hf c]; exact ⟨rfl, rfl, fun _ _ => rfl, rfl, rfl⟩))

lemma leads_elsewhere {k : Unit → M δ α} (hf : Elsewhere f) (hk : Leads d c (k ()) Q) :
    Leads d c (modCPU f >>= k) Q :=
  (leads_other hf).bind fun _ => hk

lemma leads_trap (n : u32) : Leads d c (trap n : M δ Unit) (Pending d c) := by
  intro s hs
  rw [trap_eq]
  split_ifs
  · exact ⟨hs.decoded, hs.control.trans ⟨rfl, rfl, rfl, rfl, rfl⟩,
      hs.regs.tail (.other ⟨rfl, rfl, fun _ _ => rfl, rfl, rfl⟩)⟩
  · exact hs.control.trans ⟨rfl, rfl, rfl, rfl, rfl⟩

lemma leads_modD {f : DecodeStruct → DecodeStruct} (hf : d.Goes (f d).pc (f d).npc)
    (hp : d.Sets (f d).psr) (hw : (f d).wb_type = d.wb_type ∨ d.Target (f d).rd) :
    Leads d c (modD f : M δ Unit) (Effect d c) := by
  rintro s ⟨rfl, hc, hr⟩
  exact ⟨hf, hp, by rw [← hc.tbr]; exact .same, by rw [← hc.wim]; exact .same, hr, hw⟩

lemma leads_next {f : DecodeStruct → DecodeStruct} (hpc : (f d).pc = d.npc)
    (hnpc : (f d).npc = d.npc + 4) (hp : d.Sets (f d).psr)
    (hw : (f d).wb_type = d.wb_type ∨ d.Target (f d).rd) :
    Leads d c (modD f : M δ Unit) (Falls d c) := by
  intro s hs
  have hgoes : d.Goes (f d).pc (f d).npc := by rw [hpc, hnpc]; exact .next
  refine ⟨leads_modD hgoes hp hw s hs, .inl ?_⟩
  dsimp only
  rw [hs.decoded]
  exact ⟨hpc, hnpc⟩

lemma leads_advance : Leads d c (advance : M δ Unit) (Falls d c) :=
  leads_next rfl rfl .same (.inl rfl)

lemma recorded_ne_zero (tt : u32) (hn : n &&& 0xff ≠ 0) :
    (tt &&& ~~~0xff#32) ||| (n &&& 0xff) ≠ 0 := by
  intro h
  exact hn (BitVec.or_eq_zero_iff.mp h).2

lemma leads_trapped (hn : n &&& 0xff ≠ 0) : Leads d c (trap n : M δ Unit) (Falls d c) := by
  intro s hs
  have h := leads_trap (d := d) (c := c) n s hs
  rw [trap_eq] at h ⊢
  split_ifs at h ⊢
  · exact ⟨h.effect, .inr (.inl (recorded_ne_zero _ hn))⟩
  · exact h

lemma leads_UNIMP : Leads d c (UNIMP : M δ Unit) (Pending d c) :=
  leads_getD (leads_other fun _ => rfl)

lemma falls_UNIMP : Leads d c (UNIMP : M δ Unit) (Falls d c) := by
  intro s hs
  have h : Pending d c (final (UNIMP s)) := leads_UNIMP s hs
  refine ⟨h.effect, .inr (.inr ?_)⟩
  show (if s.d.opcode ≠ TERMINATE_INST then _ else _ : TerminateReason).Stops
  split_ifs
  · exact .inr rfl
  · exact .inl rfl

end Rules

/-! ### Instructions that do not access memory -/

section Plain

variable {d : DecodeStruct} {c : CPU}

lemma leads_CALL (hd : d.function = .CALL) : Leads d c (CALL : M δ Unit) (Effect d c) :=
  leads_modD (.branch d.imm_disp_rs2) .same (.inr (by
    unfold DecodeStruct.Target
    rw [hd]
    exact List.mem_singleton.mpr rfl))

lemma goes_branch (d : DecodeStruct) (branch annul : Bool) :
    d.Goes (d.branch branch annul).pc (d.branch branch annul).npc := by
  unfold DecodeStruct.branch
  cases annul <;> cases branch
  · exact .next
  · exact .branch _
  · exact .annul
  · exact .branchAnnul _

lemma sets_branch (d : DecodeStruct) (branch annul : Bool) :
    d.Sets (d.branch branch annul).psr := by
  unfold DecodeStruct.branch
  cases annul <;> exact .same

lemma branch_wb (d : DecodeStruct) (branch annul : Bool) :
    (d.branch branch annul).wb_type = d.wb_type := by
  unfold DecodeStruct.branch
  cases annul <;> rfl

lemma leads_BICC : Leads d c (BICC : M δ Unit) (Effect d c) :=
  leads_modD (goes_branch _ _ _) (sets_branch _ _ _) (.inl (branch_wb _ _ _))

lemma target_rd {f : Handler} (hd : d.function = f) (h : f.targets (regNo d.rd) = [regNo d.rd]) :
    d.Target d.rd := by
  unfold DecodeStruct.Target
  rw [hd, h]
  exact List.mem_singleton.mpr rfl

lemma leads_JMPL (hd : d.Target d.rd) : Leads d c (JMPL : M δ Unit) (Effect d c) := by
  unfold JMPL
  refine leads_getD ?_
  split_ifs with h
  · exact (leads_trapped (by decide)).ofFalls
  · exact leads_modD (.jump (not_not.mp h)) .same (.inr hd)

lemma and_not_three (x : u32) : (x &&& ~~~3#32) &&& 3 = 0 := by
  rw [BitVec.and_assoc]
  exact BitVec.and_zero

lemma leads_RETT (hd : d.function = .RETT) : Leads d c (RETT : M δ Unit) (Effect d c) := by
  unfold RETT
  refine leads_getD (leads_getCPU fun c' => ?_)
  dsimp only
  split_ifs
  · exact (leads_trapped (by decide)).ofFalls
  · exact (leads_trapped (by decide)).ofFalls
  · exact (leads_trapped (by decide)).ofFalls
  · exact (leads_trapped (by decide)).ofFalls
  · exact leads_modD (.jump (and_not_three _)) (.rett _ hd) (.inl rfl)

section Values

variable (hd : d.Target d.rd)

include hd

lemma leads_SETHI : Leads d c (SETHI : M δ Unit) (Falls d c) := by
  refine leads_next ?_ ?_ ?_ ?_ <;> split_ifs
  exacts [rfl, rfl, rfl, rfl, .same, .same, .inl rfl, .inr hd]

lemma leads_value (v : DecodeStruct → u32) :
    Leads d c (modD fun d => (d.wb (v d)).next : M δ Unit) (Falls d c) :=
  leads_next rfl rfl .same (.inr hd)

lemma leads_SLL : Leads d c (SLL : M δ Unit) (Falls d c) := leads_value hd _

lemma leads_SRL : Leads d c (SRL : M δ Unit) (Falls d c) := leads_value hd _

lemma leads_SRA : Leads d c (SRA E) (Falls d c) := leads_value hd _

lemma leads_RDY : Leads d c (RDY : M δ Unit) (Falls d c) := by
  unfold RDY
  refine leads_getD (leads_getCPU fun c' => ?_)
  split_ifs
  · exact leads_advance
  · exact leads_value hd _
  · exact leads_value hd _
  · exact leads_UNIMP.bind fun _ => leads_advance

lemma leads_rdPriv (value : CPU → DecodeStruct → u32) :
    Leads d c (rdPriv value : M δ Unit) (Falls d c) := by
  unfold rdPriv
  refine leads_getD (leads_getCPU fun c' => ?_)
  split_ifs
  · exact leads_value hd _
  · exact leads_trapped (by decide)

end Values

lemma leads_WRY : Leads d c (WRY E) (Falls d c) := by
  unfold WRY
  refine leads_getD (leads_getCPU fun c' => ?_)
  split_ifs
  · exact leads_elsewhere (fun _ => rfl) leads_advance
  · refine (leads_getCPU fun c' => ?_ : Leads d c (enter_powerdown E) (Pending d c)).bind fun _ =>
      leads_advance
    split_ifs
    · exact leads_other fun _ => rfl
    · exact (leads_other fun _ => rfl).bind fun _ => leads_throw _
  · exact leads_advance
  · exact leads_UNIMP.bind fun _ => leads_advance

lemma leads_WRPSR (hf : d.function = .WRPSR) : Leads d c (WRPSR : M δ Unit) (Falls d c) := by
  unfold WRPSR
  refine leads_getD ?_
  dsimp only
  split_ifs with hw hs
  · exact leads_trapped (by decide)
  · exact leads_next rfl rfl (.written hf hs (BitVec.not_le.mp hw)) (.inl rfl)
  · exact leads_trapped (by decide)

lemma leads_wrPriv {put : CPU → u32 → CPU} (hr : ∀ (c : CPU) v, c.SameRegs (put c v))
    (h : ∀ c' : CPU, c.SameControl c' → Psr.s d.psr = true →
      d.Bases c.tbr (put c' (d.rs1_value ^^^ d.ev)).tbr ∧
        Masks c.wim (put c' (d.rs1_value ^^^ d.ev)).wim) :
    Leads d c (wrPriv put : M δ Unit) (Falls d c) := by
  unfold wrPriv
  refine leads_getD ?_
  split_ifs with hs
  · rintro s ⟨rfl, hc, hp⟩
    exact ⟨⟨.next, .same, (h _ hc hs).1, (h _ hc hs).2, hp.tail (.other (hr _ _)), .inl rfl⟩,
      .inl ⟨rfl, rfl⟩⟩
  · exact leads_trapped (by decide)

lemma leads_WRWIM : Leads d c (WRWIM : M δ Unit) (Falls d c) :=
  leads_wrPriv (fun _ _ => ⟨rfl, rfl, fun _ _ => rfl, rfl, rfl⟩)
    fun _ hc _ => ⟨by rw [← hc.tbr]; exact .same, .written _⟩

lemma leads_WRTBR (hf : d.function = .WRTBR) : Leads d c (WRTBR : M δ Unit) (Falls d c) :=
  leads_wrPriv (fun _ _ => ⟨rfl, rfl, fun _ _ => rfl, rfl, rfl⟩)
    fun _ hc hs => ⟨.written hf hs, by rw [← hc.wim]; exact .same⟩

lemma leads_rotate (w : DecodeStruct → u32) (hn : n &&& 0xff ≠ 0)
    (hf : d.function = .SAVE ∨ d.function = .RESTORE) :
    Leads d c (rotate w n : M δ Unit) (Falls d c) := by
  unfold rotate
  refine leads_getD (leads_getCPU fun c' => ?_)
  split_ifs
  · exact leads_trapped hn
  · refine leads_next rfl rfl (.window _ hf) (.inr ?_)
    rcases hf with hf | hf <;> exact target_rd hf rfl

section Codes

variable (hd : d.Target d.rd)

include hd

lemma leads_codes {C : DecodeStruct → Prop} [∀ d, Decidable (C d)] {cc v : DecodeStruct → u32}
    (h : Nibble (cc d)) :
    Leads d c (modD fun d => ({ d with
      psr := if C d then Psr.setIcc d.psr (cc d) else d.psr }.wb (v d)).next : M δ Unit)
      (Falls d c) := by
  refine leads_next rfl rfl ?_ (.inr hd)
  show d.Sets (if C d then Psr.setIcc d.psr (cc d) else d.psr)
  split_ifs
  · exact .codes h
  · exact .same

lemma leads_MULSCC : Leads d c (MULSCC : M δ Unit) (Falls d c) := by
  unfold MULSCC
  refine leads_getD (leads_getCPU fun c' => ?_)
  refine leads_elsewhere (fun _ => rfl) (leads_next rfl rfl ?_ (.inr hd))
  exact .codes (nibble_ccResult (Psr.nibble_icc _) (oneBit_and _) (oneBit_and _) _)

lemma leads_MUL : Leads d c (MUL : M δ Unit) (Falls d c) := by
  unfold MUL
  refine leads_getD ?_
  refine leads_elsewhere (fun _ => rfl) ?_
  exact leads_codes hd (nibble_ccWide (Psr.nibble_icc _) _)

lemma leads_DIV : Leads d c (DIV : M δ Unit) (Falls d c) := by
  unfold DIV
  refine leads_getD (leads_getCPU fun c' => ?_)
  dsimp only
  split_ifs
  · exact leads_trapped (by decide)
  · cases divide c' d with
    | error e => exact leads_throw e
    | ok r =>
      obtain ⟨z, r⟩ := r
      refine leads_elsewhere (fun _ => rfl) ?_
      exact leads_codes hd (nibble_ccWide (Psr.nibble_icc _) _)

lemma leads_ADD : Leads d c (ADD : M δ Unit) (Falls d c) := by
  unfold ADD
  refine leads_getD ?_
  dsimp only
  split_ifs
  · exact leads_value hd _
  · exact leads_trapped (by decide)
  · exact leads_codes hd (nibble_addSub (Psr.nibble_icc _) _ _ _)

lemma leads_AND : Leads d c (AND : M δ Unit) (Falls d c) := by
  obtain ⟨z, hz⟩ := AND_eq (δ := δ)
  rw [hz]
  exact leads_codes hd (nibble_ccResult (Psr.nibble_icc _) (Or.inl rfl) (Or.inl rfl) _)

end Codes

end Plain

/-! ### Loads, stores and atomics -/

section Memory

variable {d : DecodeStruct} {c : CPU}

lemma regNo_low (r : u32) : regNo (r &&& 0x1f) = regNo r := by
  have hl : (r &&& 0x1f).toNat = r.toNat % 32 := Lib.Bits.toNat_low (n := 5) (by decide)
  apply Fin.ext
  simp only [regNo, Fin.val_ofNat, hl, Nat.mod_mod]

lemma target_pair (hd : d.function = .LDD) (h : d.rd &&& 1 = 0) :
    d.Target (d.rd &&& ~~~1#32) ∧ d.Target ((d.rd &&& ~~~1#32) + 1) := by
  have heven : d.rd &&& ~~~1#32 = d.rd := by
    have hsplit : d.rd &&& (1 ||| ~~~1#32) = d.rd := BitVec.and_allOnes
    rw [BitVec.and_or_distrib_left, h] at hsplit
    exact BitVec.zero_or.symm.trans hsplit
  have hnext : regNo (d.rd + 1) = regNo d.rd + 1 := by
    apply Fin.ext
    simp only [regNo, Fin.val_ofNat, Fin.val_add, BitVec.toNat_add]
    show (d.rd.toNat + 1) % 2 ^ 32 % 32 = (d.rd.toNat % 32 + 1) % 32
    omega
  unfold DecodeStruct.Target
  rw [heven, hd, hnext]
  exact ⟨List.mem_cons_self .., List.mem_cons_of_mem _ (List.mem_cons_self ..)⟩

lemma leads_loadReg (size : AccessSize) (ext : u32 → u32) (va : u32) {rd : u32} (hd : d.Target rd) :
    Leads d c (loadReg E size ext va rd) (Pending d c) := by
  refine leads_memAccess.bind fun r => ?_
  split_ifs
  · exact (leads_write_reg _ hd).bind fun _ => leads_pure _
  · exact leads_pure _

lemma leads_load64 (va : u32) {rd : u32} (hd : d.Target rd ∧ d.Target (rd + 1)) :
    Leads d c (load64 E va rd) (Pending d c) := by
  refine leads_memAccess2.bind fun r => ?_
  split_ifs
  · exact leads_change (fun c => (write_reg_control c _ _).trans (write_reg_control _ _ _))
      (fun _ => .tail (.single (.write _ hd.1)) (.write _ hd.2)) (leads_pure _)
  · exact leads_pure _

lemma leads_storeReg (size : AccessSize) (va rd : u32) :
    Leads d c (storeReg E size va rd) (Pending d c) :=
  leads_getCPU fun _ => leads_memAccess.bind fun _ => leads_pure _

lemma leads_store64 (va rd : u32) : Leads d c (store64 E va rd) (Pending d c) :=
  leads_getCPU fun _ => leads_memAccess2.bind fun _ => leads_pure _

lemma leads_endAccess (ret : cint) : Leads d c (endAccess ret : M δ Unit) (Falls d c) := by
  refine leads_noFault.bind fun nf => ?_
  split_ifs
  · exact leads_trapped (by decide)
  · exact leads_advance

lemma leads_dataAccess {align : u32} {access : DecodeStruct → M δ cint}
    (h : Leads d c (access d) (Pending d c)) :
    Leads d c (dataAccess align access) (Falls d c) := by
  refine leads_getD ?_
  split_ifs
  · exact leads_trapped (by decide)
  · exact h.bind leads_endAccess

lemma leads_dataAccess64 {access : DecodeStruct → M δ cint}
    (h : d.rd &&& 1 = 0 → Leads d c (access d) (Pending d c)) :
    Leads d c (dataAccess64 access) (Falls d c) := by
  refine leads_getD ?_
  split_ifs with hodd
  · exact leads_trapped (by decide)
  · exact leads_dataAccess (h (not_not.mp hodd))

lemma leads_endAtomic (r : MMU.AtomicResult) {rd : u32} (hd : d.Target rd) :
    Leads d c (endAtomic r rd : M δ Unit) (Falls d c) := by
  refine leads_noFault.bind fun nf => ?_
  split_ifs
  · exact leads_trapped (by decide)
  · exact (leads_write_reg _ hd).bind fun _ => leads_advance

section Atomics

variable (hd : d.Target d.rd)

include hd

lemma leads_swapWord : Leads d c (swapWord E) (Falls d c) := by
  refine leads_getD ?_
  split_ifs
  · exact leads_trapped (by decide)
  · exact leads_change (fun _ => ⟨rfl, rfl, rfl, rfl, rfl⟩)
      (fun c => .single (.other (marked_setSwap _ c).sameRegs))
      ((leads_onMMU _).bind fun r => leads_endAtomic r hd)

lemma leads_SWAPA : Leads d c (SWAPA E) (Falls d c) := by
  refine leads_getD ?_
  split_ifs
  · exact leads_swapWord hd
  · exact leads_trapped (by decide)
  · exact falls_UNIMP

lemma leads_LDSTUB : Leads d c (LDSTUB E) (Falls d c) := by
  refine leads_getD ((leads_onMMU _).bind fun old => ?_)
  cases old with
  | none => exact leads_trapped (by decide)
  | some v =>
    have hc : ∀ c : CPU, c.SameControl ((c.write_reg (v &&& 0xff) d.rd).setSwap 0xff) :=
      fun c => (write_reg_control c _ _).trans ⟨rfl, rfl, rfl, rfl, rfl⟩
    exact leads_change hc (fun c => .tail (.single (.write _ hd))
      (.other (marked_setSwap _ _).sameRegs)) leads_advance

lemma leads_CASA : Leads d c (CASA E) (Falls d c) := by
  refine leads_getD (leads_getCPU fun c' => ?_)
  dsimp only
  split_ifs
  · exact leads_trapped (by decide)
  · exact leads_trapped (by decide)
  · exact (leads_onMMU _).bind fun r => leads_endAtomic r (by
      unfold DecodeStruct.Target
      rw [regNo_low]
      exact hd)
  · exact leads_throw _

end Atomics

lemma leads_readMMUReg (a : u32) : Leads d c (readMMUReg a : M δ u32) (Pending d c) := by
  unfold readMMUReg
  split_ifs <;> first | exact leads_onMMU _ | exact leads_throw _

lemma leads_readCacheReg (a : u32) : Leads d c (readCacheReg a : M δ u32) (Pending d c) := by
  unfold readCacheReg
  split_ifs <;> first | exact leads_onMMU _ | exact leads_throw _

lemma leads_writeMMUReg (a v : u32) : Leads d c (writeMMUReg a v : M δ Unit) (Pending d c) := by
  unfold writeMMUReg
  split_ifs <;> first | exact leads_onMMU _ | exact leads_throw _

lemma leads_writeCacheReg (a v : u32) :
    Leads d c (writeCacheReg a v : M δ Unit) (Pending d c) := by
  unfold writeCacheReg
  split_ifs <;> first | exact leads_onMMU _ | exact leads_throw _

lemma leads_LDA (hd : d.Target d.rd) : Leads d c (LDA_impl E) (Falls d c) := by
  refine leads_getD (leads_getCPU fun c' => ?_)
  split_ifs
  · exact leads_trapped (by decide)
  · exact leads_trapped (by decide)
  · exact leads_throw _
  · exact (leads_readMMUReg _).bind fun _ => leads_value hd _
  · exact (leads_readCacheReg _).bind fun _ => leads_value hd _
  · exact (leads_onMMU _).bind fun _ => leads_value hd _
  · exact (leads_throw _).bind fun _ => leads_value hd _

lemma leads_STA : Leads d c (STA_impl E) (Falls d c) := by
  refine leads_getD (leads_getCPU fun c' => ?_)
  dsimp only
  split_ifs
  · exact leads_trapped (by decide)
  · exact leads_trapped (by decide)
  · exact leads_trapped (by decide)
  · exact (leads_writeMMUReg _ _).bind fun _ => leads_advance
  · exact (leads_writeCacheReg _ _).bind fun _ => leads_advance
  · exact (leads_pure ()).bind fun _ => leads_advance
  · exact (leads_onMMU _).bind fun _ => leads_advance
  · exact (leads_onMMU _).bind fun _ => leads_advance
  · exact (leads_throw _).bind fun _ => leads_advance

end Memory

/-! ### Floating point -/

section Float

variable {d : DecodeStruct} {c : CPU}

lemma leads_invalidFpRegister : Leads d c (invalidFpRegister : M δ Unit) (Falls d c) :=
  leads_elsewhere (fun _ => rfl) (leads_trapped (by decide))

lemma leads_float (hf : Elsewhere f) : Leads d c (do modCPU f; advance : M δ Unit) (Falls d c) :=
  leads_elsewhere hf leads_advance

lemma leads_fpAccess {align : u32} {pair : Bool} {access : DecodeStruct → M δ Unit}
    (h : Leads d c (access d) (Falls d c)) :
    Leads d c (fpAccess align pair access) (Falls d c) := by
  refine leads_getD ?_
  split_ifs
  · exact leads_trapped (by decide)
  · exact leads_trapped (by decide)
  · exact leads_invalidFpRegister
  · exact h

lemma leads_LDF : Leads d c (LDF_impl E) (Falls d c) := by
  refine leads_fpAccess (leads_memAccess.bind fun r => leads_noFault.bind fun nf => ?_)
  split_ifs
  · exact leads_trapped (by decide)
  · exact leads_float fun _ => rfl

lemma leads_LDDF : Leads d c (LDDF_impl E) (Falls d c) := by
  refine leads_fpAccess (leads_memAccess2.bind fun r => leads_noFault.bind fun nf => ?_)
  split_ifs
  · exact leads_trapped (by decide)
  · exact leads_float fun _ => rfl

lemma leads_LDFSR : Leads d c (LDFSR_impl E) (Falls d c) :=
  leads_fpAccess ((leads_onMMU _).bind fun _ => leads_float fun _ => rfl)

lemma leads_STF : Leads d c (STF_impl E) (Falls d c) :=
  leads_fpAccess (leads_getCPU fun _ => leads_memAccess.bind fun _ => leads_endAccess _)

lemma leads_STDF : Leads d c (STDF_impl E) (Falls d c) := by
  refine leads_fpAccess (leads_getCPU fun _ => leads_memAccess2.bind fun r =>
    leads_noFault.bind fun nf => ?_)
  split_ifs
  · exact leads_trapped (by decide)
  · exact leads_advance

lemma leads_STFSR : Leads d c (STFSR_impl E) (Falls d c) :=
  leads_fpAccess (leads_getCPU fun _ => (leads_onMMU _).bind fun _ => leads_advance)

lemma leads_FBFCC : Leads d c (FBFCC_impl : M δ Unit) (Effect d c) := by
  refine leads_getD (leads_getCPU fun c' => ?_)
  split_ifs
  · exact (leads_trapped (by decide)).ofFalls
  · exact leads_modD (goes_branch _ _ _) (sets_branch _ _ _) (.inl (branch_wb _ _ _))

lemma leads_FOP1 : Leads d c (FOP1_impl E) (Falls d c) := by
  refine leads_getD (leads_getCPU fun c' => ?_)
  dsimp only
  by_cases hef : (!Psr.ef d.psr) = true
  · rw [if_pos hef]
    exact leads_trapped (by decide)
  rw [if_neg hef]
  by_cases hop : (d.opcode >>> 5) &&& 0x1ff = 0b011010010 ∨ (d.opcode >>> 5) &&& 0x1ff = 0b011000110
  · rw [if_pos hop]
    by_cases hodd : d.opcode &&& 0x1f &&& 1 ≠ 0
    · rw [if_pos hodd]
      exact leads_invalidFpRegister
    · rw [if_neg hodd]
      exact leads_float fun _ => rfl
  rw [if_neg hop]
  cases fop1Single E c' d.rs1 (d.opcode &&& 0x1f) ((d.opcode >>> 5) &&& 0x1ff) with
  | some v => exact leads_float fun _ => rfl
  | none =>
    cases fop1Double E c' d.rs1 (d.opcode &&& 0x1f) ((d.opcode >>> 5) &&& 0x1ff) with
    | none => exact leads_trapped (by decide)
    | some v =>
      dsimp only
      split_ifs
      · exact leads_invalidFpRegister
      · exact leads_float fun _ => rfl

lemma leads_compare (opf quiet signal fcc : u32) (nan : Bool) :
    Leads d c (compare opf quiet signal fcc nan : M δ Unit) (Falls d c) := by
  unfold compare
  dsimp only
  split_ifs
  · exact leads_float fun _ => rfl
  · exact leads_elsewhere (fun _ => rfl) (leads_elsewhere (fun _ => rfl) (leads_trapped (by decide)))
  · exact leads_float fun _ => rfl
  · exact leads_elsewhere (fun _ => rfl) ((leads_trap _).bind fun _ => leads_throw _)

lemma leads_FOP2 : Leads d c (FOP2_impl E) (Falls d c) := by
  refine leads_getD (leads_getCPU fun c' => ?_)
  dsimp only
  split_ifs
  · exact leads_trapped (by decide)
  · exact leads_invalidFpRegister
  · exact leads_compare _ _ _ _ _
  · exact leads_compare _ _ _ _ _

end Float

/-! ### One instruction -/

section Whole

variable {d : DecodeStruct} {c : CPU}

lemma leads_TICC (e : HostError) : Leads d c (TICC (throwHost e) : M δ Unit) (Falls d c) := by
  refine leads_getD (leads_getCPU fun c' => ?_)
  cases breakpointAt c' d with
  | some bp => exact fun s hs => hs.control
  | none =>
    dsimp only
    split_ifs
    · exact leads_trapped fun h => absurd (le_ticcTrap d) (by rw [h]; decide)
    · exact leads_advance

def Handler.Transfers (f : Handler) : Prop :=
  f = .CALL ∨ f = .BICC ∨ f = .JMPL ∨ f = .RETT ∨ f = .FBFCC_impl

instance (f : Handler) : Decidable f.Transfers := inferInstanceAs (Decidable (_ ∨ _))

theorem falls_exec (e : HostError) (hf : ¬ d.function.Transfers) :
    Leads d c (d.function.exec E (throwHost e)) (Falls d c) := by
  cases hd : d.function with
  | CALL | BICC | JMPL | RETT | FBFCC_impl => exact absurd (by rw [hd]; decide) hf
  | UNIMP => exact falls_UNIMP
  | SETHI => exact leads_SETHI (target_rd hd rfl)
  | SLL => exact leads_SLL (target_rd hd rfl)
  | SRL => exact leads_SRL (target_rd hd rfl)
  | SRA => exact leads_SRA (target_rd hd rfl)
  | RDY => exact leads_RDY (target_rd hd rfl)
  | RDPSR | RDWIM | RDTBR => exact leads_rdPriv (target_rd hd rfl) _
  | WRY => exact leads_WRY
  | WRPSR => exact leads_WRPSR hd
  | WRWIM => exact leads_WRWIM
  | WRTBR => exact leads_WRTBR hd
  | TICC => exact leads_TICC e
  | SAVE => exact leads_rotate _ (by decide) (.inl hd)
  | RESTORE => exact leads_rotate _ (by decide) (.inr hd)
  | FLUSH => exact leads_advance
  | MULSCC => exact leads_MULSCC (target_rd hd rfl)
  | LD | LDUB | LDUH | LDSB | LDSH =>
    exact leads_dataAccess (leads_loadReg _ _ _ (target_rd hd rfl))
  | LDD => exact leads_dataAccess64 fun h => leads_load64 _ (target_pair hd h)
  | ST | STB | STH => exact leads_dataAccess (leads_storeReg _ _ _)
  | STD => exact leads_dataAccess64 fun _ => leads_store64 _ _
  | SWAP => exact leads_swapWord (target_rd hd rfl)
  | SWAPA => exact leads_SWAPA (target_rd hd rfl)
  | LDSTUB => exact leads_LDSTUB (target_rd hd rfl)
  | MUL => exact leads_MUL (target_rd hd rfl)
  | DIV => exact leads_DIV (target_rd hd rfl)
  | ADD => exact leads_ADD (target_rd hd rfl)
  | AND => exact leads_AND (target_rd hd rfl)
  | STA_impl => exact leads_STA
  | LDA_impl => exact leads_LDA (target_rd hd rfl)
  | CASA => exact leads_CASA (target_rd hd rfl)
  | LDF_impl => exact leads_LDF
  | LDDF_impl => exact leads_LDDF
  | LDFSR_impl => exact leads_LDFSR
  | STF_impl => exact leads_STF
  | STDF_impl => exact leads_STDF
  | STFSR_impl => exact leads_STFSR
  | STDFQ_impl => exact leads_throw _
  | FOP1_impl => exact leads_FOP1
  | FOP2_impl => exact leads_FOP2

theorem leads_exec (e : HostError) :
    Leads d c (d.function.exec E (throwHost e)) (Effect d c) := by
  by_cases hf : d.function.Transfers
  · obtain h | h | h | h | h := hf <;> rw [h]
    exacts [leads_CALL h, leads_BICC, leads_JMPL (target_rd h rfl), leads_RETT h, leads_FBFCC]
  · exact (falls_exec e hf).ofFalls

structure Instruction (s : St δ) (c : CPU) : Prop where
  flow : s.instr.Goes c.pc c.npc
  status : s.instr.Sets c.psr
  base : s.instr.Bases s.cpu.tbr c.tbr
  mask : Masks s.cpu.wim c.wim

lemma write_back_control (c : CPU) (d : DecodeStruct) :
    (c.write_back d).pc = d.pc ∧ (c.write_back d).npc = d.npc ∧ (c.write_back d).psr = d.psr ∧
      (c.write_back d).tbr = c.tbr ∧ (c.write_back d).wim = c.wim := by
  unfold CPU.write_back CPU.write_reg CPU.update_cwp_bases
  dsimp only
  split_ifs <;> exact ⟨rfl, rfl, rfl, rfl, rfl⟩

lemma write_back_pending (c : CPU) (d : DecodeStruct) :
    (c.write_back d).trap_type = c.trap_type ∧ (c.write_back d).rs.reason = c.rs.reason := by
  unfold CPU.write_back CPU.write_reg CPU.update_cwp_bases
  dsimp only
  split_ifs <;> exact ⟨rfl, rfl⟩

lemma pending_start (s : St δ) : Pending s.instr s.cpu { s with d := s.instr } :=
  ⟨rfl, ⟨rfl, rfl, rfl, rfl, rfl⟩, .refl⟩

/-- A call that throws has left the control registers alone. -/
theorem excute_one_control (s : St δ) :
    match excute_one E s with
    | .ok _ t => Instruction s t.cpu
    | .error _ t => s.cpu.SameControl t.cpu := by
  have h := leads_exec (E := E) .stack_overflow { s with d := s.instr } (pending_start s)
  rw [excute_one_instr]
  split at h
  · next a t hx =>
    rw [hx]
    obtain ⟨hpc, hnpc, hpsr, htbr, hwim⟩ := write_back_control t.cpu t.d
    refine ⟨?_, ?_, ?_, ?_⟩
    · show s.instr.Goes (t.cpu.write_back t.d).pc (t.cpu.write_back t.d).npc
      rw [hpc, hnpc]; exact h.flow
    · show s.instr.Sets (t.cpu.write_back t.d).psr
      rw [hpsr]; exact h.status
    · show s.instr.Bases s.cpu.tbr (t.cpu.write_back t.d).tbr
      rw [htbr]; exact h.base
    · show Masks s.cpu.wim (t.cpu.write_back t.d).wim
      rw [hwim]; exact h.mask
  · next e t hx =>
    rw [hx]
    exact h

/-- **An instruction that is no control transfer** goes on to the next one, unless a trap is pending
after it or the loop is left. -/
theorem excute_one_falls {s t : St δ} (hf : ¬ s.instr.function.Transfers)
    (h : excute_one E s = .ok () t) (htt : t.cpu.trap_type = 0) (hrs : ¬ t.cpu.rs.reason.Stops) :
    t.cpu.pc = s.instr.npc ∧ t.cpu.npc = s.instr.npc + 4 := by
  have key := falls_exec (E := E) .stack_overflow hf { s with d := s.instr } (pending_start s)
  rw [excute_one_instr] at h
  rcases hx : s.instr.function.exec E (throwHost .stack_overflow) { s with d := s.instr } with
    ⟨a, u⟩ | ⟨e, u⟩
  · rw [hx] at h key
    cases h
    obtain ⟨hpc, hnpc, -⟩ := write_back_control u.cpu u.d
    obtain ⟨hrec, hreason⟩ := write_back_pending u.cpu u.d
    have onward := key.onward
    rw [← hrec, ← hreason] at onward
    obtain onward | onward | onward := onward
    · exact ⟨hpc.trans onward.1, hnpc.trans onward.2⟩
    · exact absurd htt onward
    · exact absurd onward hrs
  · rw [hx] at h
    cases h

end Whole

end SparcEmu
