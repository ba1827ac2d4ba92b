import SparcEmu.Faults

/-!
How instructions reach memory. Every instruction function is gone through once: what it leaves of
the MMU, of memory and of the devices is what the calls of the MMU leave that it makes, and these
calls are known before it starts.
-/

namespace SparcEmu

open Lib.Effect

variable {δ α β : Type}

/-! ### Calls of the MMU -/

/-- The calls that instructions make. `register` stands for the accesses to the MMU's own registers
and for the flush. -/
inductive BusOp
  | access (rw : Intent) (size : AccessSize) (va v : u32) (sup : Bool)
  | swap (va v : u32) (sup : Bool)
  | casa (va e v : u32) (sup : Bool)
  | ldstub (va : u32) (sup : Bool)
  | bypassRead (pa : u32)
  | bypassWrite (pa v : u32)
  | register (f : MMU → MMU)

def BusOp.run (mc : MCtrl δ) : BusOp → MmuM δ Unit
  | .access rw size va v sup => do
    let _ ← MMU.MemAccess mc rw size va v sup true
    pure ()
  | .swap va v sup => do
    let _ ← MMU.atomic_swap32 mc va sup v
    pure ()
  | .casa va e v sup => do
    let _ ← MMU.atomic_casa32 mc va sup e v
    pure ()
  | .ldstub va sup => do
    let _ ← MMU.ldstub mc va sup
    pure ()
  | .bypassRead pa => do
    let _ ← MMU.MemAccessBypassRead4 mc pa
    pure ()
  | .bypassWrite pa v => MMU.MemAccessBypassWrite4 mc pa v
  | .register f => MMU.modMMU f

/-- One call after the other; a call that throws is the last. -/
def runBus (mc : MCtrl δ) : List BusOp → MmuM δ Unit
  | [] => pure ()
  | o :: os => do
    o.run mc
    runBus mc os

/-- The calls of an access. The two words of a pair are accessed one after the other. -/
def DataOp.calls : DataOp → List BusOp
  | .word rw size va v sup => [.access rw size va v sup]
  | .pair rw va v₀ v₁ sup => [.access rw .b4 va v₀ sup, .access rw .b4 (va + 4) v₁ sup]
  | .swap va v sup => [.swap va v sup]
  | .casa va e v sup => [.casa va e v sup]
  | .ldstub va sup => [.ldstub va sup]

/-- The calls of an alternate space load that passes its checks. -/
def ldaCalls (c : CPU) (d : DecodeStruct) : List BusOp :=
  if asiOf d = ASI_M_MMUREGS then
    if asiAddress c d = 0x300 then [.register fun m => { m with fault_status_reg := 0 }] else []
  else if asiOf d = ASI_M_MXCC then []
  else if asiOf d = ASI_LEON_BYPASS then [.bypassRead (asiAddress c d)]
  else []

def mmuRegCalls (address value : u32) : List BusOp :=
  if address = 0x000 then [.register fun m => m.set_control_reg value]
  else if address = 0x100 then [.register fun m => { m with ctx_tbl_ptr := value }]
  else if address = 0x200 then [.register fun m => { m with ctx_n := value }]
  else []

def cacheRegCalls (offset value : u32) : List BusOp :=
  if offset = 0x0 then [.register fun m => { m with ccr := value }]
  else if offset = 0x8 then [.register fun m => { m with iccr := value }]
  else if offset = 0xc then [.register fun m => { m with dccr := value }]
  else []

/-- The calls of an alternate space store that passes its checks. -/
def staCalls (c : CPU) (d : DecodeStruct) : List BusOp :=
  let address := asiAddress c d
  let rd_value := c.read_reg d.rd 0
  if asiOf d = ASI_M_MMUREGS then mmuRegCalls address rd_value
  else if asiOf d = ASI_M_MXCC then cacheRegCalls (address &&& 0xf) rd_value
  else if asiOf d = ASI_LEON_DFLUSH then []
  else if asiOf d = ASI_LEON_MMUFLUSH then [.register MMU.flush]
  else if asiOf d = ASI_LEON_BYPASS then [.bypassWrite address rd_value]
  else []

def callsOf : Option DataOp → List BusOp
  | some a => a.calls
  | none => []

def memCalls (c : CPU) (d : DecodeStruct) : List BusOp :=
  match d.function with
  | .LDA_impl =>
    if !Psr.s d.psr ∨ d.i = 1 ∨ d.op_2_3 &&& 15 ≠ 0 then [] else ldaCalls c d
  | .STA_impl =>
    if !Psr.s d.psr ∨ d.i = 1 ∨ asiAddress c d &&& 3 ≠ 0 then [] else staCalls c d
  | _ => callsOf (dataOp c d)

/-! ### Rules -/

/-- The program leaves what the calls leave. -/
def Touches (mc : MCtrl δ) (m : M δ α) (s : St δ) (os : List BusOp) : Prop :=
  (final (m s)).bus = final (runBus mc os s.bus)

variable {E : Board δ} {mc : MCtrl δ} {s : St δ} {os : List BusOp}

lemma runBus_single (o : BusOp) (t : MMUSt δ) :
    final (runBus mc [o] t) = final (o.run mc t) := final_map _ _ t

variable {m : M δ α}

lemma touches_quiet (h : Fixes St.bus m) : Touches mc m s [] := h s

lemma Touches.bind {k : α → M δ β} (hm : Touches mc m s os) (hk : ∀ a, Fixes St.bus (k a)) :
    Touches mc (m >>= k) s os := by
  unfold Touches at *
  rcases h : m s with ⟨a, t⟩ | ⟨e, t⟩ <;> rw [h] at hm
  · rw [bind_ok h, hk a t]; exact hm
  · rw [bind_error h]; exact hm

lemma final_onMMU (m : MmuM δ α) (s : St δ) : (final (onMMU m s)).bus = final (m s.bus) := by
  unfold onMMU
  show _ = final (m ⟨s.mmu, s.mem⟩)
  rcases m ⟨s.mmu, s.mem⟩ with ⟨a, t⟩ | ⟨e, t⟩ <;> rfl

lemma touches_onMMU {m : MmuM δ α} {o : BusOp} (h : ∀ t, final (o.run mc t) = final (m t)) :
    Touches mc (onMMU m) s [o] := by
  unfold Touches
  rw [runBus_single, h, final_onMMU]

/-! ### Alternate spaces -/

section Alternate

lemma quiet_trap (n : u32) : Fixes (St.bus (δ := δ)) (trap n) := by
  intro s
  rw [trap_eq]
  split_ifs <;> rfl

lemma quiet_modD (f : DecodeStruct → DecodeStruct) : Fixes (St.bus (δ := δ)) (modD f) :=
  fun _ => rfl

lemma quiet_throw (e : HostError) : Fixes (St.bus (δ := δ)) (throwHost e : M δ α) := fun _ => rfl

lemma touches_getD {k : DecodeStruct → M δ α} (h : Touches mc (k s.d) s os) :
    Touches mc (getD >>= k) s os := h

lemma touches_getCPU {k : CPU → M δ α} (h : Touches mc (k s.cpu) s os) :
    Touches mc (getCPU >>= k) s os := h

lemma touches_LDA : Touches E.mc (LDA_impl E) s
    (if !Psr.s s.d.psr ∨ s.d.i = 1 ∨ s.d.op_2_3 &&& 15 ≠ 0 then [] else ldaCalls s.cpu s.d) := by
  refine touches_getD (touches_getCPU ?_)
  by_cases h1 : (!Psr.s s.d.psr) = true
  · rw [if_pos h1, if_pos (Or.inl h1)]
    exact touches_quiet (quiet_trap _)
  by_cases h2 : s.d.i = 1
  · rw [if_neg h1, if_pos h2, if_pos (Or.inr (Or.inl h2))]
    exact touches_quiet (quiet_trap _)
  by_cases h3 : s.d.op_2_3 &&& 15 ≠ 0
  · rw [if_neg h1, if_neg h2, if_pos h3, if_pos (Or.inr (Or.inr h3))]
    exact touches_quiet (quiet_throw _)
  have hn : ¬ ((!Psr.s s.d.psr) = true ∨ s.d.i = 1 ∨ s.d.op_2_3 &&& 15 ≠ 0) := by tauto
  rw [if_neg h1, if_neg h2, if_neg h3, if_neg hn]
  unfold ldaCalls
  split_ifs with ha hb hc
  · refine Touches.bind ?_ fun v => quiet_modD _
    unfold readMMUReg
    rw [hb, if_neg (by decide), if_neg (by decide), if_neg (by decide), if_pos rfl]
    exact touches_onMMU fun t => rfl
  · refine Touches.bind ?_ fun v => quiet_modD _
    unfold readMMUReg
    split_ifs <;> exact touches_quiet fun _ => rfl
  · refine Touches.bind ?_ fun v => quiet_modD _
    unfold readCacheReg
    split_ifs <;> exact touches_quiet fun _ => rfl
  · exact (touches_onMMU fun t => final_map _ _ t).bind fun v => quiet_modD _
  · exact touches_quiet (Fixes.bind (quiet_throw _) fun _ => quiet_modD _)

lemma touches_writeMMUReg (address value : u32) :
    Touches mc (writeMMUReg address value) s (mmuRegCalls address value) := by
  unfold writeMMUReg mmuRegCalls
  split_ifs
  iterate 3 exact touches_onMMU fun _ => rfl
  exact touches_quiet (quiet_throw _)

lemma touches_writeCacheReg (offset value : u32) :
    Touches mc (writeCacheReg offset value) s (cacheRegCalls offset value) := by
  unfold writeCacheReg cacheRegCalls
  split_ifs
  iterate 3 exact touches_onMMU fun _ => rfl
  exact touches_quiet (quiet_throw _)

lemma touches_STA : Touches E.mc (STA_impl E) s
    (if !Psr.s s.d.psr ∨ s.d.i = 1 ∨ asiAddress s.cpu s.d &&& 3 ≠ 0 then []
      else staCalls s.cpu s.d) := by
  refine touches_getD (touches_getCPU ?_)
  dsimp only
  by_cases h1 : (!Psr.s s.d.psr) = true
  · rw [if_pos h1, if_pos (Or.inl h1)]
    exact touches_quiet (quiet_trap _)
  by_cases h2 : s.d.i = 1
  · rw [if_neg h1, if_pos h2, if_pos (Or.inr (Or.inl h2))]
    exact touches_quiet (quiet_trap _)
  by_cases h3 : asiAddress s.cpu s.d &&& 3 ≠ 0
  · rw [if_neg h1, if_neg h2, if_pos h3, if_pos (Or.inr (Or.inr h3))]
    exact touches_quiet (quiet_trap _)
  have hn : ¬ ((!Psr.s s.d.psr) = true ∨ s.d.i = 1 ∨ asiAddress s.cpu s.d &&& 3 ≠ 0) := by tauto
  rw [if_neg h1, if_neg h2, if_neg h3, if_neg hn]
  unfold staCalls
  dsimp only
  split_ifs
  · exact (touches_writeMMUReg _ _).bind fun _ => quiet_modD _
  · exact (touches_writeCacheReg _ _).bind fun _ => quiet_modD _
  · exact touches_quiet (quiet_modD _)
  · exact Touches.bind (touches_onMMU (o := .register _) fun _ => rfl) fun _ => quiet_modD _
  · exact Touches.bind (touches_onMMU (o := .bypassWrite _ _) fun _ => rfl) fun _ => quiet_modD _
  · exact touches_quiet (Fixes.bind (quiet_throw _) fun _ => quiet_modD _)

end Alternate

/-! ### All of them -/

lemma runBus_calls (a : DataOp) (t : MMUSt δ) :
    final (runBus mc a.calls t) = final (a.fails mc t) := by
  cases a with
  | pair rw va v₀ v₁ sup =>
    refine Eq.trans ?_ (final_map _ _ t).symm
    unfold MMU.pairAccess
    cases h : MMU.MemAccess mc rw .b4 va v₀ sup true t with
    | ok r t₁ =>
      have hrun : (BusOp.access rw .b4 va v₀ sup).run mc t = .ok () t₁ := bind_ok h
      show final ((BusOp.run mc _ >>= fun _ => runBus mc [_]) t) = _
      rw [bind_ok hrun, bind_ok h, runBus_single, final_map]
      exact final_map _ _ t₁
    | error e t₁ =>
      have hrun : (BusOp.access rw .b4 va v₀ sup).run mc t = .error e t₁ := bind_error h
      show final ((BusOp.run mc _ >>= fun _ => runBus mc [_]) t) = _
      rw [bind_error hrun, bind_error h]
      rfl
  | word | swap | casa | ldstub =>
    exact (runBus_single _ t).trans ((final_map _ _ t).trans (final_map _ _ t).symm)

theorem excute_one_touches (s : St δ) :
    Touches E.mc (excute_one E) s (memCalls s.cpu s.instr) := by
  have halt {os : List BusOp} (h : Touches E.mc (s.instr.function.exec E (throwHost .stack_overflow))
      { s with d := s.instr } os) : Touches E.mc (excute_one E) s os := by
    unfold Touches at *
    rw [excute_one_instr]
    rcases hx : s.instr.function.exec E (throwHost .stack_overflow) { s with d := s.instr }
      with ⟨a, t⟩ | ⟨e, t⟩ <;> rw [hx] at h <;> exact h
  by_cases hl : s.instr.function = .LDA_impl
  · refine halt ?_
    unfold memCalls
    rw [hl]
    exact touches_LDA (s := { s with d := s.instr })
  by_cases hs : s.instr.function = .STA_impl
  · refine halt ?_
    unfold memCalls
    rw [hs]
    exact touches_STA (s := { s with d := s.instr })
  have hcalls : memCalls s.cpu s.instr = callsOf (dataOp s.cpu s.instr) := by
    unfold memCalls
    split
    · contradiction
    · contradiction
    · rfl
  unfold Touches
  rw [hcalls, excute_one_leaves ⟨hl, hs⟩]
  cases dataOp s.cpu s.instr with
  | none => rfl
  | some a => exact (runBus_calls a s.bus).symm

end SparcEmu
