import SparcEmu.MemoryUse
import SparcEmu.ReadElf
import SparcEmu.Lib.System

/-!
Locked ROM. The lock is a flag that the write method of a `RomBank` tests; a store with the MMU on
goes through the bank's host pointer instead and does not meet the test. All other ways to the bank
do.
-/

namespace SparcEmu

open Lib.Effect Lib.System

variable {δ α : Type}

/-! ### Writes of the memory controller -/

/-- `write8`, `write16` or `write32` of a bank; an exception goes to the caller. -/
def MCtrl.bankStore (mc : MCtrl δ) (i : Nat) (b : IMemoryBank) (size : AccessSize) (addr v : u32)
    (m : Mem δ) : Except HostError (Mem δ) :=
  match b.kind with
  | .device id _ => do
    let f ← mc.dev.write id size addr v m.dev
    pure { m with dev := f m.bytes }
  | .RomBank false => .error (.runtime_error "Write to read-only memory")
  | _ => .ok { m with bytes := memWrite m.bytes b i addr v size }

/-- `MCtrl::write8`, `write16` and `write32`. -/
def MCtrl.write (mc : MCtrl δ) (size : AccessSize) (addr v : u32) (m : Mem δ) :
    Except HostError (Mem δ) :=
  match mc.get_bank addr with
  | none => .error (.out_of_range ("[MCTRL] Out of range: 0x" ++ MCtrl.to_hex addr))
  | some (i, b) => mc.bankStore i b size addr v m

/-- `MCtrl::write64`: two words in the byte order of the bank. -/
def MCtrl.write64 (mc : MCtrl δ) (addr : u32) (v : u64) : MmuM δ Unit :=
  match mc.get_bank addr with
  | none => MMU.raise (.out_of_range ("[MCTRL] Out of range: 0x" ++ MCtrl.to_hex addr))
  | some (i, b) =>
    let hi : u32 := (v >>> 32).setWidth 32
    let lo : u32 := v.setWidth 32
    let (first, second) := if b.bankEndian = .Big then (hi, lo) else (lo, hi)
    do
      MMU.onMem' (mc.bankStore i b .b4 addr first)
      MMU.onMem' (mc.bankStore i b .b4 (addr + 4) second)

/-! ### What leaves the bank alone -/

/-- Bank `k` of the memory map is a ROM that has been locked. -/
def MCtrl.Locked (mc : MCtrl δ) (k : Nat) : Prop :=
  ∃ b, mc.banks[k]? = some b ∧ b.kind = .RomBank false

def MMUSt.bank (k : Nat) (t : MMUSt δ) : Int → u8 := t.mem.bytes k

variable {mc : MCtrl δ} {k : Nat} {b : IMemoryBank}

lemma MCtrl.Locked.kind (hk : mc.Locked k) (hb : mc.banks[k]? = some b) :
    b.kind = .RomBank false := by
  obtain ⟨b', hb', h⟩ := hk
  rw [hb] at hb'
  cases hb'
  exact h

variable {i : Nat}

lemma get_bank_index {pa : u32} (h : mc.get_bank pa = some (i, b)) :
    mc.banks[i]? = some b := (MCtrl.findFrom_index h).2

variable {h : HostBytes}

lemma setByte_bank (hi : i ≠ k) (o : Int) (v : u8) : setByte h i o v k = h k := by
  funext q
  exact if_neg fun hc => hi hc.1.symm

lemma ptrWrite_bank {p : HostPtr} (hp : p.bank ≠ k) (v : u32) (size : AccessSize) :
    ptrWrite h p v size k = h k := by
  cases size <;> simp only [ptrWrite, putByte, setByte_bank hp]

lemma bytePtr_bank (b : IMemoryBank) (i : Nat) (addr : u32) (n : Nat) :
    (bytePtr b i addr n).bank = i := by
  unfold bytePtr
  split <;> rfl

lemma memWrite_bank (hi : i ≠ k) (b : IMemoryBank) (addr v : u32) (size : AccessSize) :
    memWrite h b i addr v size k = h k := by
  have hput : ∀ (g : HostBytes) (sz : AccessSize) (n : Nat),
      putBankByte g b i sz addr v n k = g k := by
    intro g sz n
    exact setByte_bank (by rw [bytePtr_bank]; exact hi) _ _
  cases size <;> simp only [memWrite, hput]

namespace MMU

lemma unseen_bank : Unseen (MMUSt.bank (δ := δ) k) where
  tlb _ _ _ _ := rfl
  fault _ _ _ := rfl
  l0 _ _ _ _ _ := rfl

lemma fixes_onMem_bank {f : Mem δ → Except HostError (α × Mem δ)}
    (h : ∀ m a m', f m = .ok (a, m') → m'.bytes k = m.bytes k) :
    Fixes (MMUSt.bank k) (onMem f) := by
  intro t
  unfold onMem
  rcases hf : f t.mem with e | ⟨a, m'⟩
  · rfl
  · exact h _ _ _ hf

lemma fixes_onMem'_bank {f : Mem δ → Except HostError (Mem δ)}
    (h : ∀ m m', f m = .ok m' → m'.bytes k = m.bytes k) :
    Fixes (MMUSt.bank k) (onMem' f) := by
  refine fixes_onMem_bank fun m a m' hm => ?_
  rcases hf : f m with e | m'' <;> rw [hf] at hm <;> cases hm
  exact h _ _ hf

lemma bank_bankRead (i : Nat) (b : IMemoryBank) (size : AccessSize) (pa : u32) :
    Fixes (MMUSt.bank k) (onMem (mc.bankRead i b size pa)) := by
  refine fixes_onMem_bank fun m v m' h => ?_
  unfold MCtrl.bankRead at h
  split at h
  · next id _ _ =>
    rcases hn : MCtrl.nolock (mc.dev.read id size pa m.dev) with x | p <;> rw [hn] at h <;> cases h
    rfl
  · cases h
    rfl

lemma bank_bypassRead (pa : u32) : Fixes (MMUSt.bank k) (MemAccessBypassRead4 mc pa) := by
  unfold MemAccessBypassRead4
  unfold MCtrl.bypassRead4
  cases mc.get_bank pa with
  | none => exact fun _ => rfl
  | some x => exact bank_bankRead x.1 x.2 .b4 pa

section Locked

variable (hk : mc.Locked k)

include hk

lemma bank_bankWrite (hb : mc.banks[i]? = some b) (size : AccessSize) (pa v : u32) :
    Fixes (MMUSt.bank k) (onMem' (mc.bankWrite i b size pa v)) := by
  refine fixes_onMem'_bank fun m m' h => ?_
  unfold MCtrl.bankWrite at h
  split at h
  · next id _ _ =>
    rcases hn : MCtrl.nolock (mc.dev.write id size pa v m.dev) with x | p <;> rw [hn] at h <;>
      cases h
    rfl
  · cases h
  · next hr =>
    cases h
    refine memWrite_bank ?_ b pa v size
    rintro rfl
    exact hr (hk.kind hb)

lemma bank_bankStore (hb : mc.banks[i]? = some b) (size : AccessSize) (pa v : u32) :
    Fixes (MMUSt.bank k) (onMem' (mc.bankStore i b size pa v)) := by
  refine fixes_onMem'_bank fun m m' h => ?_
  unfold MCtrl.bankStore at h
  split at h
  · next id _ _ =>
    rcases hn : mc.dev.write id size pa v m.dev with x | p <;> rw [hn] at h <;> cases h
    rfl
  · cases h
  · next hr =>
    cases h
    refine memWrite_bank ?_ b pa v size
    rintro rfl
    exact hr (hk.kind hb)

lemma bank_bypassWrite (pa v : u32) : Fixes (MMUSt.bank k) (MemAccessBypassWrite4 mc pa v) := by
  unfold MemAccessBypassWrite4
  unfold MCtrl.bypassWrite4
  cases hb : mc.get_bank pa with
  | none => exact fun _ => rfl
  | some x => exact bank_bankWrite hk (get_bank_index hb) .b4 pa v

lemma bank_ldstub8 (pa : u32) : Fixes (MMUSt.bank k) (onMem (mc.atomic_ldstub8 pa)) := by
  refine fixes_onMem_bank fun m a m' h => ?_
  unfold MCtrl.atomic_ldstub8 at h
  split at h
  · cases h; rfl
  · next i b hb =>
    split at h
    · next hr =>
      cases h
      refine memWrite_bank ?_ b pa 0xff .b1
      rintro rfl
      rw [hk.kind (get_bank_index hb)] at hr
      cases hr
    · cases h

end Locked

/-! ### Stores through a pointer -/

/-- A store at `va` with the MMU on does not go through a pointer into bank `k`: not by the L0
cache, and not by the translation where the cache has no answer. -/
structure StoreClear (mc : MCtrl δ) (k : Nat) (t : MMUSt δ) (va : u32) (sup : Bool) : Prop where
  cached : ∀ p, t.mmu.l0Hit .store va sup = some p → p.bank ≠ k
  mapped : t.mmu.l0Hit .store va sup = none → ∀ r t',
    translate_va mc va sup .store true t = .ok r t' → r.ok = true →
      ∀ i b, mc.get_bank r.pa = some (i, b) → i ≠ k

section Locked

variable (hk : mc.Locked k)

include hk

lemma bank_busAccess {rw : Intent} {size : AccessSize} {va v pa : u32} {sup rep on : Bool}
    (h : on = true → rw = .store → ∀ i b, mc.get_bank pa = some (i, b) → i ≠ k) :
    Fixes (MMUSt.bank k) (busAccess mc rw size va v pa sup rep on) := by
  have hbank : ∀ i b, mc.get_bank pa = some (i, b) →
      Fixes (MMUSt.bank k) (bankAccess mc rw size i b pa v) := by
    intro i b hb
    cases rw with
    | store => exact Fixes.bind (bank_bankWrite hk (get_bank_index hb) _ _ _) fun _ => Fixes.pure _
    | load | execute => exact Fixes.bind (bank_bankRead _ _ _ _) fun _ => Fixes.pure _
  unfold busAccess
  split
  · exact fixes_bus_fault unseen_bank _ _ _ _
  · next i b hb =>
    split_ifs
    · refine Fixes.bind (fixes_liftExcept _) fun bdata => ?_
      split_ifs with hp
      · refine Fixes.bind (fun s => unseen_bank.l0 _ _ _ _ _) fun _ => ?_
        simp only [Bool.and_eq_true] at hp
        cases rw with
        | store =>
          refine Fixes.bind (fun t => ?_) fun _ => Fixes.pure _
          exact ptrWrite_bank (h hp.1 rfl i b hb) v size
        | load | execute => exact fun _ => rfl
      · exact hbank i b hb
    · exact hbank i b hb

/-- **One access**: only a store with the MMU on can change the bank. -/
lemma bank_MemAccess {t : MMUSt δ} {rw : Intent} {size : AccessSize} {va v : u32} {sup : Bool}
    (h : rw = .store → t.mmu.get_enabled = true → StoreClear mc k t va sup) :
    (final (MemAccess mc rw size va v sup true t)).bank k = t.bank k := by
  unfold MemAccess
  rw [getMMU_bind]
  by_cases hen : t.mmu.get_enabled = true
  · rw [if_pos hen]
    cases hl : t.mmu.l0Hit rw va sup with
    | some p =>
      cases rw with
      | store => exact ptrWrite_bank ((h rfl hen).cached p hl) v size
      | load => rfl
      | execute => rfl
    | none =>
      have htr : (final (translate_va mc va sup rw true t)).bank k = t.bank k :=
        fixes_translate_va unseen_bank.toUnseenXlat (fun pa => bank_bypassRead pa) va sup rw true t
      rcases hx : translate_va mc va sup rw true t with ⟨r, t'⟩ | ⟨e, t'⟩ <;> rw [hx] at htr
      · dsimp only
        rw [bind_ok hx]
        by_cases hok : r.ok = true
        · rw [if_pos hok]
          refine (bank_busAccess hk (fun _ hrw => ?_) t').trans htr
          subst hrw
          exact (h rfl hen).mapped hl r t' hx hok
        · rw [if_neg hok]
          exact htr
      · dsimp only
        rw [bind_error hx]
        exact htr
  · rw [if_neg hen]
    exact bank_busAccess hk (fun hon => by cases hon) t

end Locked

end MMU

open MMU

/-! ### Instructions -/

/-- The condition on a call: if it is a store with the MMU on, it does not go through a pointer
into bank `k`. -/
def BusOp.Spares (mc : MCtrl δ) (k : Nat) (t : MMUSt δ) : BusOp → Prop
  | .access .store _ va _ sup => t.mmu.get_enabled = true → StoreClear mc k t va sup
  | _ => True

/-- Each call meets the condition in the state that it starts in. -/
def SparesAlong (mc : MCtrl δ) (k : Nat) : List BusOp → MMUSt δ → Prop
  | [], _ => True
  | o :: os, t => o.Spares mc k t ∧ ∀ t', o.run mc t = .ok () t' → SparesAlong mc k os t'

section Runs

variable (hk : mc.Locked k)

include hk

lemma BusOp.run_bank {o : BusOp} {t : MMUSt δ} (h : o.Spares mc k t) :
    (final (o.run mc t)).bank k = t.bank k := by
  have hx := (unseen_bank (δ := δ) (k := k)).toUnseenXlat
  have hr : ∀ pa, Fixes (MMUSt.bank k) (MemAccessBypassRead4 mc pa) := bank_bypassRead
  have hR : ∀ i b pa, mc.get_bank pa = some (i, b) →
      Fixes (MMUSt.bank k) (onMem (mc.bankRead i b .b4 pa)) :=
    fun i b pa _ => bank_bankRead i b .b4 pa
  have hW : ∀ i b pa v, mc.get_bank pa = some (i, b) →
      Fixes (MMUSt.bank k) (onMem' (mc.bankWrite i b .b4 pa v)) :=
    fun i b pa v hb => bank_bankWrite hk (get_bank_index hb) .b4 pa v
  cases o with
  | access rw size va v sup =>
    refine (congrArg (MMUSt.bank k) (final_map _ _ t)).trans (bank_MemAccess hk ?_)
    rintro rfl hen
    exact h hen
  | swap va v sup =>
    exact (congrArg (MMUSt.bank k) (final_map _ _ t)).trans
      (fixes_atomic_swap32 hx hr hR hW va sup v t)
  | casa va e v sup =>
    exact (congrArg (MMUSt.bank k) (final_map _ _ t)).trans
      (fixes_atomic_casa32 hx hr hR hW va sup e v t)
  | ldstub va sup =>
    exact (congrArg (MMUSt.bank k) (final_map _ _ t)).trans
      (fixes_ldstub hx hr (bank_ldstub8 hk) va sup t)
  | bypassRead pa => exact (congrArg (MMUSt.bank k) (final_map _ _ t)).trans (hr pa t)
  | bypassWrite pa v => exact bank_bypassWrite hk pa v t
  | register f => rfl

lemma runBus_bank {os : List BusOp} : ∀ {t : MMUSt δ}, SparesAlong mc k os t →
    (final (runBus mc os t)).bank k = t.bank k := by
  induction os with
  | nil => exact fun _ => rfl
  | cons o os ih =>
    intro t h
    have hone := BusOp.run_bank hk h.1
    show (final ((o.run mc >>= fun _ => runBus mc os) t)).bank k = _
    rcases hx : o.run mc t with ⟨u, t'⟩ | ⟨e, t'⟩ <;> rw [hx] at hone
    · rw [bind_ok hx]
      exact (ih (h.2 t' hx)).trans hone
    · rw [bind_error hx]
      exact hone

lemma bank_write (size : AccessSize) (addr v : u32) :
    Fixes (MMUSt.bank k) (onMem' (mc.write size addr v)) := by
  unfold MCtrl.write
  cases hb : mc.get_bank addr with
  | none => exact fun _ => rfl
  | some x => exact bank_bankStore hk (get_bank_index hb) size addr v

lemma bank_write64 (addr : u32) (v : u64) : Fixes (MMUSt.bank k) (mc.write64 addr v) := by
  unfold MCtrl.write64
  cases hb : mc.get_bank addr with
  | none => exact fun _ => rfl
  | some x =>
    have hs := bank_bankStore hk (get_bank_index hb) .b4
    exact Fixes.bind (hs _ _) fun _ => hs _ _

end Runs

/-! ### Runs -/

/-- What happens to a machine: a guest instruction, a write of the memory controller, and
whatever else. -/
inductive RomEvent (δ : Type)
  | execute
  | write (size : AccessSize) (addr v : u32)
  | write64 (addr : u32) (v : u64)
  | outside (t : St δ)

namespace RomEvent

def act (E : Board δ) : RomEvent δ → M δ Unit
  | .execute => excute_one E
  | .write size addr v => onMMU (onMem' (E.mc.write size addr v))
  | .write64 addr v => onMMU (E.mc.write64 addr v)
  | .outside t => fun _ => .ok () t

def step (E : Board δ) (e : RomEvent δ) (s : St δ) : Option (St δ) := some (final (e.act E s))

/-- The stores of an instruction do not go through a pointer into bank `k`. What is neither an
instruction nor a write of the controller does not touch the bank. -/
def Ok (E : Board δ) (k : Nat) : RomEvent δ → St δ → Prop
  | .execute, s => SparesAlong E.mc k (memCalls s.cpu s.instr) s.bus
  | .write _ _ _, _ => True
  | .write64 _ _, _ => True
  | .outside t, s => t.mem.bytes k = s.mem.bytes k

lemma act_bank {E : Board δ} (hk : E.mc.Locked k) {e : RomEvent δ} {s : St δ} (h : e.Ok E k s) :
    (final (e.act E s)).bus.bank k = s.bus.bank k := by
  cases e with
  | execute =>
    have ht : (final (excute_one E s)).bus = _ := excute_one_touches s
    exact (congrArg (MMUSt.bank k) ht).trans (runBus_bank hk h)
  | write size addr v =>
    exact (congrArg (MMUSt.bank k) (final_onMMU _ s)).trans (bank_write hk size addr v s.bus)
  | write64 addr v =>
    exact (congrArg (MMUSt.bank k) (final_onMMU _ s)).trans (bank_write64 hk addr v s.bus)
  | outside t => exact h

end RomEvent

/-- **Locked ROM** keeps its bytes in every run in which no store goes through a pointer into it. -/
theorem locked_rom_kept (E : Board δ) {k : Nat} (hk : E.mc.Locked k) {s₀ s : St δ}
    (h : Reach (RomEvent.step E) (RomEvent.Ok E k) s₀ s) : s.mem.bytes k = s₀.mem.bytes k := by
  refine h.inv (I := fun s => s.mem.bytes k = s₀.mem.bytes k) rfl fun e s t hs hC ht => ?_
  cases ht
  exact (RomEvent.act_bank hk hC).trans hs

/-- RAM with page tables, and a ROM at address 0 that has been locked. -/
def romMap : MCtrl Unit :=
  { MCtrl.ram [] with
    banks := [⟨.RamBank, 0x40000000, 0x1000, .Big⟩, ⟨.RomBank false, 0, 0x1000, .Big⟩] }

def romBoard : Board Unit := { Board.ram [] with mc := romMap }

/-- Address 0 is mapped to itself, writable, by an entry of the first level; the ROM holds ones. -/
def romBytes : HostBytes :=
  ptrWrite (ptrWrite (fun i _ => if i = 1 then 0xff else 0) ⟨0, 0⟩ 0x04000041 .b4)
    ⟨0, 0x400⟩ 0x0000000e .b4

/-- A machine about to execute `st %g0, [%g0 + simm13]`. -/
def romStore (control_reg simm13 : u32) : St Unit :=
  { St.user (0xc0202000 ||| simm13) with
    mmu := { MMU.init with control_reg := control_reg, ctx_tbl_ptr := 0x04000000 }
    mem := ⟨romBytes, ()⟩ }

lemma romMap_locked : romMap.Locked 1 := ⟨_, rfl, rfl⟩

/-- With the MMU on, a user's store into the page changes the ROM. -/
theorem locked_rom_stored : romBoard.mc.Locked 1 ∧
    Returns (excute_one romBoard (romStore 1 0)) ∧ (romStore 1 0).mem.bytes 1 0 = 0xff ∧
    (final (excute_one romBoard (romStore 1 0))).mem.bytes 1 0 = 0 :=
  ⟨romMap_locked, by decide +kernel, by decide +kernel, by decide +kernel⟩

/-- With the MMU off, and for a write of the memory controller, the lock holds. -/
theorem locked_rom_kept_off : ∃ s,
    Reach (RomEvent.step romBoard) (RomEvent.Ok romBoard 1) (romStore 0 0) s ∧
      s.mem.bytes 1 = (romStore 0 0).mem.bytes 1 := by
  have hstore : SparesAlong romMap 1 (memCalls (romStore 0 0).cpu (romStore 0 0).instr)
      (romStore 0 0).bus := by
    rw [show memCalls (romStore 0 0).cpu (romStore 0 0).instr
      = [.access .store .b4 0 0 false] from by rfl]
    exact ⟨fun h => absurd h (by decide), fun _ _ => trivial⟩
  have hone : Reach (RomEvent.step romBoard) (RomEvent.Ok romBoard 1) (romStore 0 0) _ :=
    .tail (k := RomEvent.execute) .start hstore rfl
  have hrun := hone.tail (k := RomEvent.write .b4 0 0) trivial rfl
  exact ⟨_, hrun, locked_rom_kept romBoard romMap_locked hrun⟩

end SparcEmu
