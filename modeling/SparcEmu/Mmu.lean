import SparcEmu.Tlb
import SparcEmu.Lib.Effect

/-!
The memory management unit of `MMU.h` and `MMU.cpp`: page table walk, permission check,
translation behind the two TLBs, the L0 caches of raw page pointers, and the atomic accesses.
-/

namespace SparcEmu

inductive Intent | load | store | execute
  deriving DecidableEq, Repr

/-- An entry of an L0 cache: `page_data` points at host byte 0 of the virtual page. -/
structure L0Entry where
  vpage : u32 := 0xffffffff
  ctx : u32 := 0xffffffff
  super : Bool := false
  page_data : HostPtr := ⟨0, 0⟩

/-- The direct-mapped caches are indexed by the low four bits of the page number. -/
def DC_WAYS : u32 := 16

structure MMU where
  control_reg : u32
  ccr : u32
  iccr : u32
  dccr : u32
  ctx_tbl_ptr : u32
  ctx_n : u32
  fault_status_reg : u32
  fault_address_reg : u32
  fetch_cache : L0Entry
  data_cache : u32 → L0Entry
  store_cache : u32 → L0Entry
  itlb : TLB
  dtlb : TLB

/-- What a method of the MMU works on. -/
structure MMUSt (δ : Type) where
  mmu : MMU
  mem : Mem δ

abbrev MmuM (δ : Type) := EStateM HostError (MMUSt δ)

structure MMUFault where
  far : u32
  ft : u8
  at_ : u8
  level : u8
  fav : Bool

structure MMUTranslateResult where
  ok : Bool
  pa : u32
  level : u8
  pte : u32
  deriving DecidableEq, Repr

namespace MMU

/-- The state `reset` leaves. -/
def init : MMU where
  control_reg := 0
  ccr := 0
  iccr := 0
  dccr := 0
  ctx_tbl_ptr := 0
  ctx_n := 0
  fault_status_reg := 0
  fault_address_reg := 0
  fetch_cache := {}
  data_cache := fun _ => {}
  store_cache := fun _ => {}
  itlb := TLB.init
  dtlb := TLB.init

def get_enabled (m : MMU) : Bool := m.control_reg.getLsbD 0
def get_no_fault (m : MMU) : Bool := m.control_reg.getLsbD 1

def dropL0 (m : MMU) : MMU :=
  { m with
    fetch_cache := { m.fetch_cache with vpage := 0xffffffff }
    data_cache := fun i => { m.data_cache i with vpage := 0xffffffff }
    store_cache := fun i => { m.store_cache i with vpage := 0xffffffff } }

def set_control_reg (m : MMU) (value : u32) : MMU :=
  if value.getLsbD 0 ≠ m.control_reg.getLsbD 0 then { m.dropL0 with control_reg := value }
  else { m with control_reg := value }

def flush (m : MMU) : MMU :=
  { m.dropL0 with itlb := m.itlb.flush, dtlb := m.dtlb.flush }

/-- The fault status register: level, access type, fault type and address-valid bit. -/
def make_fsr (level at_ ft : u8) (fav : Bool) : u32 :=
  ((level &&& 3).setWidth 32 <<< 8) ||| ((at_ &&& 7).setWidth 32 <<< 5) |||
    ((ft &&& 7).setWidth 32 <<< 2) ||| (if fav then 2 else 0)

def set_fault (m : MMU) (f : MMUFault) : MMU :=
  { m with fault_address_reg := f.far, fault_status_reg := make_fsr f.level f.at_ f.ft f.fav }

def get_access_type : Intent → Bool → u8
  | .load, sup => if sup then 1 else 0
  | .store, sup => if sup then 5 else 4
  | .execute, sup => if sup then 3 else 2

/-- The fault type that `check_perms` computes, 0 for none. -/
def permFault (pte : u32) (rw : Intent) (supervisor : Bool) (level : u8) : u8 :=
  let ACC : u8 := ((pte >>> 2) &&& 7).setWidth 8
  let AT := get_access_type rw supervisor
  let ET : u32 := pte &&& 3
  let FT : u8 := if (ET = 1 ∧ level = 3) ∨ ET = 3 then 4 else 0
  if ET = 0 then 1
  else if AT = 0 then
    if ACC = 6 ∨ ACC = 7 then 3 else if ACC = 4 then 2 else FT
  else if AT = 1 then
    if ACC = 4 then 2 else FT
  else if AT = 2 then
    if ACC = 6 ∨ ACC = 7 then 3 else if ACC = 0 ∨ ACC = 1 ∨ ACC = 5 then 2 else FT
  else if AT = 3 then
    if ACC = 0 ∨ ACC = 1 ∨ ACC = 5 then 2 else FT
  else if AT = 4 then
    if ACC = 6 ∨ ACC = 7 then 3 else if ACC = 0 ∨ ACC = 2 ∨ ACC = 4 ∨ ACC = 5 then 2 else FT
  else if AT = 5 then
    if ACC = 0 ∨ ACC = 2 ∨ ACC = 4 ∨ ACC = 6 then 2 else FT
  else if AT = 6 then
    if ACC = 6 ∨ ACC = 7 then 3
    else if ACC = 0 ∨ ACC = 1 ∨ ACC = 2 ∨ ACC = 4 ∨ ACC = 5 then 2 else FT
  else if AT = 7 then
    if ACC = 0 ∨ ACC = 1 ∨ ACC = 2 ∨ ACC = 4 ∨ ACC = 5 ∨ ACC = 6 then 2 else FT
  else FT

/-- For each access permission, the set of access types it allows, as a bit mask. -/
def perm_ok_table (ACC : u8) : u8 :=
  if ACC = 0 then 0x03 else if ACC = 1 then 0x33 else if ACC = 2 then 0x0F
  else if ACC = 3 then 0xFF else if ACC = 4 then 0x0C else if ACC = 5 then 0x23
  else if ACC = 6 then 0x0A else 0xAA

/-- The check made on a TLB hit. -/
def permOk (pte : u32) (rw : Intent) (supervisor : Bool) : Bool :=
  let ACC : u8 := ((pte >>> 2) &&& 7).setWidth 8
  (perm_ok_table ACC).getLsbD (get_access_type rw supervisor).toNat

/-- Page frame of the entry and page offset of the address. -/
def physAddr (vaddr pte : u32) (level : u8) : u32 :=
  let PPN : u32 := (pte &&& ~~~0xff#32) >>> 8
  let va := if level = 3 then vaddr &&& 0xfff
    else if level = 2 then vaddr &&& 0x3ffff
    else if level = 1 then vaddr &&& 0xffffff
    else vaddr
  va ||| (PPN <<< 12)

def tlb (m : MMU) : Intent → TLB
  | .execute => m.itlb
  | _ => m.dtlb

def setTlb (m : MMU) (t : TLB) : Intent → MMU
  | .execute => { m with itlb := t }
  | _ => { m with dtlb := t }

def l0 (m : MMU) (vpage : u32) : Intent → L0Entry
  | .execute => m.fetch_cache
  | .load => m.data_cache (vpage &&& (DC_WAYS - 1))
  | .store => m.store_cache (vpage &&& (DC_WAYS - 1))

/-- The host pointer that an L0 cache has for the address, if it answers. -/
def l0Hit (m : MMU) (rw : Intent) (vaddr : u32) (supervisor : Bool) : Option HostPtr :=
  let e := m.l0 (vaddr >>> 12) rw
  if e.vpage = vaddr >>> 12 ∧ e.super = supervisor ∧ e.ctx = m.ctx_n then
    some ⟨e.page_data.bank, e.page_data.off + ((vaddr &&& 0xfff).toNat : Int)⟩
  else none

def setL0 (m : MMU) (vpage : u32) (e : L0Entry) : Intent → MMU
  | .execute => { m with fetch_cache := e }
  | .load => { m with data_cache := fun i =>
      if i = vpage &&& (DC_WAYS - 1) then e else m.data_cache i }
  | .store => { m with store_cache := fun i =>
      if i = vpage &&& (DC_WAYS - 1) then e else m.store_cache i }

/-- What a miss leaves in the L0 cache: the page around the physical address, seen through
the buffer of the bank that holds the address. -/
def l0Fill (m : MMU) (rw : Intent) (vaddr : u32) (supervisor : Bool) (i : Nat)
    (b : IMemoryBank) (pa : u32) : MMU :=
  m.setL0 (vaddr >>> 12)
    ⟨vaddr >>> 12, m.ctx_n, supervisor,
      ⟨i, ((pa &&& ~~~0xfff#32).toNat : Int) - (b.base.toNat : Int)⟩⟩ rw

variable {δ : Type} (mc : MCtrl δ)

def getMMU : MmuM δ MMU := fun s => .ok s.mmu s

lemma getMMU_bind {α : Type} {f : MMU → MmuM δ α} {s : MMUSt δ} :
    (getMMU >>= f) s = f s.mmu s := rfl

def modMMU (f : MMU → MMU) : MmuM δ Unit := fun s => .ok () { s with mmu := f s.mmu }

def getMem : MmuM δ (Mem δ) := fun s => .ok s.mem s

def setBytes (f : HostBytes → HostBytes) : MmuM δ Unit :=
  fun s => .ok () { s with mem := { s.mem with bytes := f s.mem.bytes } }

def raise {α : Type} (e : HostError) : MmuM δ α := fun s => .error e s

/-- A bank access that yields a value. -/
def onMem {α : Type} (f : Mem δ → Except HostError (α × Mem δ)) : MmuM δ α := fun s =>
  match f s.mem with
  | .ok (a, m) => .ok a { s with mem := m }
  | .error e => .error e s

def onMem' (f : Mem δ → Except HostError (Mem δ)) : MmuM δ Unit :=
  onMem fun m => (f m).map fun m' => ((), m')

def MemAccessBypassRead4 (pa : u32) : MmuM δ u32 := onMem (mc.bypassRead4 pa)

def MemAccessBypassWrite4 (pa value : u32) : MmuM δ Unit := onMem' (mc.bypassWrite4 pa value)

def ctxEntryAddr (m : MMU) : u32 := (m.ctx_tbl_ptr <<< 4) + m.ctx_n * 4

/-- Address of an entry of the table that a page table descriptor points at. -/
def tableAddr (ptd ind : u32) : u32 := (((ptd &&& ~~~3#32) >>> 2) <<< 6) + ind * 4

def ind1 (vaddr : u32) : u32 := (vaddr >>> 24) &&& 0xff
def ind2 (vaddr : u32) : u32 := (vaddr >>> 18) &&& 0x3f
def ind3 (vaddr : u32) : u32 := (vaddr >>> 12) &&& 0x3f

/-- The table walk: the entry it ends at and the level of that entry. -/
def get_PTE (vaddr : u32) : MmuM δ (u32 × u8) := do
  let m ← getMMU
  let lx ← MemAccessBypassRead4 mc m.ctxEntryAddr
  if lx &&& 3 = 1 then do
    let lx ← MemAccessBypassRead4 mc (tableAddr lx (ind1 vaddr))
    if lx &&& 3 = 1 then do
      let lx ← MemAccessBypassRead4 mc (tableAddr lx (ind2 vaddr))
      if lx &&& 3 = 1 then do
        let lx ← MemAccessBypassRead4 mc (tableAddr lx (ind3 vaddr))
        pure (lx, 3)
      else pure (lx, 2)
    else pure (lx, 1)
  else pure (lx, 0)

def check_perms (vaddr pte : u32) (rw : Intent) (supervisor : Bool) (level : u8)
    (report_fault : Bool) : MmuM δ u8 := do
  let FT := permFault pte rw supervisor level
  if FT ≠ 0 ∧ report_fault then do
    modMMU fun m => m.set_fault ⟨vaddr, FT, get_access_type rw supervisor, level, true⟩
    pure FT
  else pure FT

def tlbLookup (rw : Intent) (ctx vaddr : u32) : MmuM δ (Option (u32 × u8)) := fun s =>
  let r := (s.mmu.tlb rw).lookup ctx vaddr
  .ok r.1 { s with mmu := s.mmu.setTlb r.2 rw }

def tlbInsert (rw : Intent) (ctx vaddr : u32) (level : u8) (pte : u32) : MmuM δ Unit := fun s =>
  match (s.mmu.tlb rw).insert ctx vaddr level pte with
  | .ok t => .ok () { s with mmu := s.mmu.setTlb t rw }
  | .error e => .error e s

/-- The walk that follows a TLB miss; a page table entry it finds goes into the TLB. -/
def walkMiss (ctx vaddr : u32) (rw : Intent) : MmuM δ (u32 × u8) :=
  if 255 < ctx then raise (.runtime_error "ctx_n > 255 error")
  else do
    let r ← get_PTE mc vaddr
    if r.1 &&& 3 = 2 then do
      tlbInsert rw ctx vaddr r.2 r.1
      pure r
    else pure r

def translate_va (vaddr : u32) (supervisor : Bool) (rw : Intent) (report_faults : Bool) :
    MmuM δ MMUTranslateResult := do
  let m ← getMMU
  let found ← tlbLookup rw m.ctx_n vaddr
  match found with
  | none => do
    let r ← walkMiss mc m.ctx_n vaddr rw
    let FT ← check_perms vaddr r.1 rw supervisor r.2 report_faults
    if FT ≠ 0 then pure ⟨false, 0, r.2, 0⟩
    else pure ⟨true, physAddr vaddr r.1 r.2, r.2, r.1⟩
  | some (pte, level) =>
    if permOk pte rw supervisor then pure ⟨true, physAddr vaddr pte level, level, pte⟩
    else do
      let _ ← check_perms vaddr pte rw supervisor level report_faults
      pure ⟨false, 0, level, 0⟩

/-- An access through a raw pointer: a store writes the value, a load or fetch returns what
is there. A fetch is always a word. -/
def ptrAccess (rw : Intent) (size : AccessSize) (p : HostPtr) (value : u32) :
    MmuM δ (cint × u32) :=
  match rw with
  | .store => do
    setBytes fun h => ptrWrite h p value size
    pure (0, value)
  | .load => do
    let m ← getMem
    pure (0, ptrRead m.bytes p size)
  | .execute => do
    let m ← getMem
    pure (0, ptrRead m.bytes p .b4)

/-- An access through the bank's own accessors. -/
def bankAccess (rw : Intent) (size : AccessSize) (i : Nat) (b : IMemoryBank) (pa value : u32) :
    MmuM δ (cint × u32) :=
  match rw with
  | .store => do
    onMem' (mc.bankWrite i b size pa value)
    pure (0, value)
  | _ => do
    let v ← onMem (mc.bankRead i b size pa)
    pure (0, v)

/-- No bank answers at the physical address. -/
def bus_fault (rw : Intent) (vaddr value : u32) (supervisor report_faults : Bool) :
    MmuM δ (cint × u32) :=
  if report_faults then do
    modMMU fun m => m.set_fault ⟨vaddr, 5, get_access_type rw supervisor, 0, true⟩
    pure (-5, value)
  else pure (-5, value)

def liftExcept {α : Type} : Except HostError α → MmuM δ α
  | .ok a => pure a
  | .error e => raise e

/-- The part of an access behind the translation. `get_ptr` is asked for every store, and for
a load or fetch with the MMU on. -/
def busAccess (rw : Intent) (size : AccessSize) (vaddr value pa : u32)
    (supervisor report_faults mmu_on : Bool) : MmuM δ (cint × u32) :=
  match mc.get_bank pa with
  | none => bus_fault rw vaddr value supervisor report_faults
  | some (i, b) =>
    if mmu_on || rw = .store then do
      let bdata ← liftExcept b.get_ptr
      if mmu_on && bdata then do
        modMMU fun m => m.l0Fill rw vaddr supervisor i b pa
        ptrAccess rw size
          ⟨i, ((pa &&& ~~~0xfff#32).toNat : Int) - (b.base.toNat : Int) +
            ((vaddr &&& 0xfff).toNat : Int)⟩ value
      else bankAccess mc rw size i b pa value
    else bankAccess mc rw size i b pa value

/-- `MemAccess<rw, size>`: the return code, 0 or a negative fault type, and the value. -/
def MemAccess (rw : Intent) (size : AccessSize) (vaddr value : u32)
    (supervisor report_faults : Bool) : MmuM δ (cint × u32) := do
  let m ← getMMU
  if m.get_enabled then
    match m.l0Hit rw vaddr supervisor with
    | some p => ptrAccess rw size p value
    | none => do
      let res ← translate_va mc vaddr supervisor rw report_faults
      if res.ok then busAccess mc rw size vaddr value res.pa supervisor report_faults true
      else do
        let m ← getMMU
        let FT : u32 := if report_faults then (m.fault_status_reg >>> 2) &&& 7 else 1
        pure (-FT, value)
  else busAccess mc rw size vaddr value vaddr supervisor report_faults false

structure AtomicResult where
  ok : Bool
  old : u32

/-- The exchange under the bank's mutex. -/
def swapAt (paddr value : u32) : MmuM δ AtomicResult :=
  match mc.get_bank paddr with
  | none => pure ⟨false, 0⟩
  | some (i, b) => do
    let old ← onMem (mc.bankRead i b .b4 paddr)
    onMem' (mc.bankWrite i b .b4 paddr value)
    pure ⟨true, old⟩

def atomic_swap32 (vaddr : u32) (supervisor : Bool) (value : u32) : MmuM δ AtomicResult := do
  let m ← getMMU
  if m.get_enabled then do
    let tr ← translate_va mc vaddr supervisor .load (!m.get_no_fault)
    if tr.ok then do
      let ft ← check_perms vaddr tr.pte .store supervisor tr.level (!m.get_no_fault)
      if ft ≠ 0 then pure ⟨false, 0⟩ else swapAt mc tr.pa value
    else pure ⟨false, 0⟩
  else swapAt mc vaddr value

/-- The compare and swap under the bank's mutex. `perm` is the check for the store, made only
when the comparison succeeds. -/
def casAt (paddr expected desired : u32) (perm : MmuM δ u8) : MmuM δ AtomicResult :=
  match mc.get_bank paddr with
  | none => pure ⟨false, 0⟩
  | some (i, b) => do
    let old ← onMem (mc.bankRead i b .b4 paddr)
    if old = expected then do
      let ft ← perm
      if ft ≠ 0 then pure ⟨false, old⟩
      else do
        onMem' (mc.bankWrite i b .b4 paddr desired)
        pure ⟨true, old⟩
    else pure ⟨true, old⟩

def atomic_casa32 (vaddr : u32) (supervisor : Bool) (expected desired : u32) :
    MmuM δ AtomicResult := do
  let m ← getMMU
  if m.get_enabled then do
    let tr ← translate_va mc vaddr supervisor .load (!m.get_no_fault)
    if tr.ok then
      casAt mc tr.pa expected desired
        (check_perms vaddr tr.pte .store supervisor tr.level (!m.get_no_fault))
    else pure ⟨false, 0⟩
  else casAt mc vaddr expected desired (pure 0)

end MMU

end SparcEmu
