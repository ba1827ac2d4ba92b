import SparcEmu.Page
import SparcEmu.MemInstructions

/-!
What an access leaves alone: no access writes the control registers of the MMU, and on a
memory map of RAM banks a load, or a store that fails, leaves memory as it is. The two words
of an aligned pair are stored or refused together.
-/

namespace SparcEmu

open Lib.Effect Lib.Bits

variable {δ : Type} {mc : MCtrl δ}

/-! ### Banks -/

variable {pa : u32} {i : Nat} {b : IMemoryBank}

lemma MCtrl.findFrom_some {bs : List IMemoryBank} {n : Nat}
    (h : MCtrl.findFrom pa bs n = some (i, b)) : b ∈ bs ∧ b.contains pa = true := by
  induction bs generalizing n with
  | nil => cases h
  | cons x bs ih =>
    unfold MCtrl.findFrom at h
    split_ifs at h with hx
    · cases h; exact ⟨by simp, hx⟩
    · exact ⟨List.mem_cons_of_mem _ (ih h).1, (ih h).2⟩

lemma MCtrl.get_bank_some (h : mc.get_bank pa = some (i, b)) :
    b ∈ mc.banks ∧ b.contains pa = true :=
  MCtrl.findFrom_some h

lemma MCtrl.findFrom_index {bs : List IMemoryBank} {n : Nat}
    (h : MCtrl.findFrom pa bs n = some (i, b)) : n ≤ i ∧ bs[i - n]? = some b := by
  induction bs generalizing n with
  | nil => cases h
  | cons x bs ih =>
    unfold MCtrl.findFrom at h
    split_ifs at h with hx
    · cases h
      simp
    · obtain ⟨h1, h2⟩ := ih h
      refine ⟨by omega, ?_⟩
      rw [show i - n = (i - (n + 1)) + 1 by omega]
      exact h2

lemma MCtrl.bank_unique {pa' : u32} {b' : IMemoryBank} (h : mc.get_bank pa = some (i, b))
    (h' : mc.get_bank pa' = some (i, b')) : b = b' :=
  Option.some.inj ((MCtrl.findFrom_index h).2.symm.trans (MCtrl.findFrom_index h').2)

lemma MCtrl.get_bank_congr {a a' : u32} (h : ∀ b ∈ mc.banks, b.contains a' = b.contains a) :
    mc.get_bank a' = mc.get_bank a := by
  unfold MCtrl.get_bank
  generalize 0 = n
  revert h
  generalize mc.banks = bs
  intro h
  induction bs generalizing n with
  | nil => rfl
  | cons x bs ih =>
    unfold MCtrl.findFrom
    rw [h x (by simp), ih (n + 1) fun b hb => h b (List.mem_cons_of_mem _ hb)]

/-- A memory map made only of RAM banks. -/
def MCtrl.RamOnly (mc : MCtrl δ) : Prop := ∀ b ∈ mc.banks, b.kind = .RamBank

lemma MCtrl.ram_ramOnly (banks : List (u32 × Nat)) : (MCtrl.ram banks).RamOnly := by
  intro b hb
  obtain ⟨p, -, rfl⟩ := List.mem_map.mp hb
  rfl

lemma MCtrl.RamOnly.wordAt (h : mc.RamOnly) (m : HostBytes) (pa : u32) :
    ∃ w, mc.wordAt m pa = some w := by
  unfold MCtrl.wordAt
  rcases hb : mc.get_bank pa with _ | ⟨i, b⟩
  · exact ⟨0, rfl⟩
  · have := h b (MCtrl.get_bank_some hb).1
    exact ⟨memRead m b i pa .b4, by simp [IMemoryBank.isDevice, this]⟩

lemma MCtrl.RamOnly.leaf (h : mc.RamOnly) (s : MMUSt δ) (c va : u32) :
    ∃ r, (MMU.tables mc s).leaf c va = some r := by
  have hw : ∀ pa, ∃ w, (MMU.tables mc s).word pa = some w := fun pa => h.wordAt s.mem.bytes pa
  unfold Tables.leaf
  obtain ⟨l0, h0⟩ := hw ((MMU.tables mc s).root c)
  simp only [h0, Option.bind_eq_bind, Option.bind_some]
  split_ifs
  · obtain ⟨l1, h1⟩ := hw (MMU.tableAddr l0 (MMU.ind1 va))
    simp only [h1, Option.bind_some]
    split_ifs
    · obtain ⟨l2, h2⟩ := hw (MMU.tableAddr l1 (MMU.ind2 va))
      simp only [h2, Option.bind_some]
      split_ifs
      · obtain ⟨l3, h3⟩ := hw (MMU.tableAddr l2 (MMU.ind3 va))
        exact ⟨(l3, 3), by simp only [h3, Option.bind_some]⟩
      · exact ⟨_, rfl⟩
    · exact ⟨_, rfl⟩
  · exact ⟨_, rfl⟩

/-- Every bank begins and ends at a multiple of 8. -/
def MCtrl.Aligned8 (mc : MCtrl δ) : Prop :=
  ∀ b ∈ mc.banks, b.base.toNat % 8 = 0 ∧ b.size % 8 = 0

lemma MCtrl.ram_aligned8 {banks : List (u32 × Nat)}
    (h : ∀ p ∈ banks, p.1.toNat % 8 = 0 ∧ p.2 % 8 = 0) : (MCtrl.ram banks).Aligned8 := by
  intro b hb
  obtain ⟨p, hp, rfl⟩ := List.mem_map.mp hb
  exact h p hp

lemma MCtrl.Aligned8.get_bank (h : mc.Aligned8) {a a' : u32} (ha : a' >>> 3 = a >>> 3) :
    mc.get_bank a' = mc.get_bank a := by
  have hd := toNat_shift ha
  apply MCtrl.get_bank_congr
  intro b hb
  obtain ⟨h1, h2⟩ := h b hb
  unfold IMemoryBank.contains
  rw [Bool.eq_iff_iff]
  simp only [Bool.and_eq_true, decide_eq_true_eq]
  omega

namespace MMU

/-! ### What an access does not touch -/

section Unseen

variable {γ β : Type} {f : MMUSt δ → γ}

structure UnseenXlat (f : MMUSt δ → γ) : Prop where
  tlb : ∀ m mem t rw, f ⟨m.setTlb t rw, mem⟩ = f ⟨m, mem⟩
  fault : ∀ m mem x, f ⟨m.set_fault x, mem⟩ = f ⟨m, mem⟩

structure Unseen (f : MMUSt δ → γ) : Prop extends UnseenXlat f where
  l0 : ∀ m mem p e rw, f ⟨m.setL0 p e rw, mem⟩ = f ⟨m, mem⟩

lemma UnseenXlat.modMMU_fault (hf : UnseenXlat f) (g : MMU → MMUFault) :
    Fixes f (modMMU fun m => m.set_fault (g m)) := fun s => hf.fault s.mmu s.mem _

lemma fixes_liftExcept (x : Except HostError β) : Fixes f (liftExcept x) := by
  cases x <;> exact fun _ => rfl

section Walk

variable (hf : UnseenXlat f) (hr : ∀ pa, Fixes f (MemAccessBypassRead4 mc pa))

include hr in
lemma fixes_get_PTE (va : u32) : Fixes f (get_PTE mc va) := by
  unfold get_PTE
  refine Fixes.bind (fun _ => rfl) fun m => Fixes.bind (hr _) fun l0 => ?_
  split_ifs
  · refine Fixes.bind (hr _) fun l1 => ?_
    split_ifs
    · refine Fixes.bind (hr _) fun l2 => ?_
      split_ifs
      · exact Fixes.bind (hr _) fun l3 => Fixes.pure _
      · exact Fixes.pure _
    · exact Fixes.pure _
  · exact Fixes.pure _

include hf

lemma fixes_check_perms (va pte : u32) (rw : Intent) (sup : Bool) (level : u8) (rep : Bool) :
    Fixes f (check_perms va pte rw sup level rep) := by
  unfold check_perms
  dsimp only
  split_ifs
  · exact Fixes.bind (hf.modMMU_fault _) fun _ => Fixes.pure _
  · exact Fixes.pure _

include hr

omit hf in
lemma fixes_walkMiss (ht : ∀ m mem t rw, f ⟨m.setTlb t rw, mem⟩ = f ⟨m, mem⟩) (ctx va : u32)
    (rw : Intent) : Fixes f (walkMiss mc ctx va rw) := by
  unfold walkMiss
  split_ifs
  · exact fun _ => rfl
  · refine Fixes.bind (fixes_get_PTE hr va) fun r => ?_
    split_ifs
    · refine Fixes.bind (fun s => ?_) fun _ => Fixes.pure _
      unfold tlbInsert
      split
      · exact ht _ _ _ _
      · rfl
    · exact Fixes.pure _

theorem fixes_translate_va (va : u32) (sup : Bool) (rw : Intent) (rep : Bool) :
    Fixes f (translate_va mc va sup rw rep) := by
  unfold translate_va
  refine Fixes.bind (fun _ => rfl) fun m => Fixes.bind (fun s => hf.tlb _ _ _ _) fun found => ?_
  cases found with
  | none =>
    refine Fixes.bind (fixes_walkMiss hr hf.tlb _ _ _) fun r =>
      Fixes.bind (fixes_check_perms hf _ _ _ _ _ _) fun FT => ?_
    split_ifs <;> exact Fixes.pure _
  | some p =>
    dsimp only
    split_ifs
    · exact Fixes.pure _
    · exact Fixes.bind (fixes_check_perms hf _ _ _ _ _ _) fun _ => Fixes.pure _

end Walk

section Transfer

variable (hf : Unseen f) {rw : Intent} {size : AccessSize}
  (hr : ∀ pa, Fixes f (MemAccessBypassRead4 mc pa))
  (hp : ∀ p v, Fixes f (ptrAccess rw size p v))
  (hb : ∀ i b pa v, mc.get_bank pa = some (i, b) → Fixes f (bankAccess mc rw size i b pa v))

include hf

lemma fixes_bus_fault (va v : u32) (sup rep : Bool) : Fixes f (bus_fault rw va v sup rep) := by
  unfold bus_fault
  split_ifs
  · exact Fixes.bind (hf.toUnseenXlat.modMMU_fault _) fun _ => Fixes.pure _
  · exact Fixes.pure _

include hp hb

lemma fixes_busAccess (va v pa : u32) (sup rep on : Bool) :
    Fixes f (busAccess mc rw size va v pa sup rep on) := by
  unfold busAccess
  split
  · exact fixes_bus_fault hf _ _ _ _
  · next i b h =>
    split_ifs
    · refine Fixes.bind (fixes_liftExcept _) fun bdata => ?_
      split_ifs
      · exact Fixes.bind (fun s => hf.l0 _ _ _ _ _) fun _ => hp _ _
      · exact hb _ _ _ _ h
    · exact hb _ _ _ _ h

include hr

/-- **Access**: beyond the TLBs, the L0 caches and the fault registers, an access changes what
its transfer changes. -/
theorem fixes_MemAccess (va v : u32) (sup rep : Bool) :
    Fixes f (MemAccess mc rw size va v sup rep) := by
  unfold MemAccess
  refine Fixes.bind (fun _ => rfl) fun m => ?_
  split
  · split
    · exact hp _ _
    · refine Fixes.bind (fixes_translate_va hf.toUnseenXlat hr _ _ _ _) fun res => ?_
      split
      · exact fixes_busAccess hf hp hb _ _ _ _ _ _
      · exact Fixes.bind (fun _ => rfl) fun _ => Fixes.pure _
  · exact fixes_busAccess hf hp hb _ _ _ _ _ _

end Transfer

/-- How an atomic starts: `k` follows a translation for a load that grants the access, and `off`
stands in its place while the MMU is off. -/
def onLoad {α : Type} (mc : MCtrl δ) (va : u32) (sup : Bool) (fail : α)
    (k : Bool → MMUTranslateResult → MmuM δ α) (off : MmuM δ α) : MmuM δ α := do
  let m ← getMMU
  if m.get_enabled then do
    let tr ← translate_va mc va sup .load (!m.get_no_fault)
    if tr.ok then k (!m.get_no_fault) tr else pure fail
  else off

lemma atomic_swap32_onLoad (va : u32) (sup : Bool) (v : u32) :
    atomic_swap32 mc va sup v = onLoad mc va sup ⟨false, 0⟩ (fun rep tr => do
      let ft ← check_perms va tr.pte .store sup tr.level rep
      if ft ≠ 0 then pure ⟨false, 0⟩ else swapAt mc tr.pa v) (swapAt mc va v) := rfl

lemma atomic_casa32_onLoad (va : u32) (sup : Bool) (e v : u32) :
    atomic_casa32 mc va sup e v = onLoad mc va sup ⟨false, 0⟩ (fun rep tr =>
      casAt mc tr.pa e v (check_perms va tr.pte .store sup tr.level rep))
      (casAt mc va e v (pure 0)) := rfl

lemma ldstub_onLoad (va : u32) (sup : Bool) :
    ldstub mc va sup = onLoad mc va sup none (fun _ tr => onMem (mc.atomic_ldstub8 tr.pa))
      (onMem (mc.atomic_ldstub8 va)) := rfl

section Atomics

variable (hf : UnseenXlat f) (hr : ∀ pa, Fixes f (MemAccessBypassRead4 mc pa))
  (hR : ∀ i b pa, mc.get_bank pa = some (i, b) → Fixes f (onMem (mc.bankRead i b .b4 pa)))
  (hW : ∀ i b pa v, mc.get_bank pa = some (i, b) → Fixes f (onMem' (mc.bankWrite i b .b4 pa v)))

include hR hW

lemma fixes_swapAt (pa v : u32) : Fixes f (swapAt mc pa v) := by
  unfold swapAt
  split
  · exact Fixes.pure _
  · next i b h =>
    exact Fixes.bind (hR _ _ _ h) fun _ => Fixes.bind (hW _ _ _ _ h) fun _ => Fixes.pure _

lemma fixes_casAt (pa e v : u32) {perm : MmuM δ u8} (hp : Fixes f perm) :
    Fixes f (casAt mc pa e v perm) := by
  unfold casAt
  split
  · exact Fixes.pure _
  · next i b h =>
    refine Fixes.bind (hR _ _ _ h) fun old => ?_
    split_ifs
    · refine Fixes.bind hp fun ft => ?_
      split_ifs
      · exact Fixes.pure _
      · exact Fixes.bind (hW _ _ _ _ h) fun _ => Fixes.pure _
    · exact Fixes.pure _

include hf hr

omit hR hW in
lemma fixes_onLoad {α : Type} {fail : α} {k : Bool → MMUTranslateResult → MmuM δ α}
    {off : MmuM δ α} (hk : ∀ rep tr, Fixes f (k rep tr)) (ho : Fixes f off) (va : u32)
    (sup : Bool) : Fixes f (onLoad mc va sup fail k off) := by
  refine Fixes.bind (fun _ => rfl) fun m => ?_
  split_ifs
  · refine Fixes.bind (fixes_translate_va hf hr _ _ _ _) fun tr => ?_
    split_ifs
    · exact hk _ tr
    · exact Fixes.pure _
  · exact ho

lemma fixes_atomic_swap32 (va : u32) (sup : Bool) (v : u32) :
    Fixes f (atomic_swap32 mc va sup v) := by
  rw [atomic_swap32_onLoad]
  refine fixes_onLoad hf hr (fun rep tr => ?_) (fixes_swapAt hR hW _ _) va sup
  refine Fixes.bind (fixes_check_perms hf _ _ _ _ _ _) fun ft => ?_
  split_ifs
  · exact Fixes.pure _
  · exact fixes_swapAt hR hW _ _

lemma fixes_atomic_casa32 (va : u32) (sup : Bool) (e v : u32) :
    Fixes f (atomic_casa32 mc va sup e v) := by
  rw [atomic_casa32_onLoad]
  exact fixes_onLoad hf hr (fun rep tr => fixes_casAt hR hW _ _ _ (fixes_check_perms hf _ _ _ _ _ _))
    (fixes_casAt hR hW _ _ _ (Fixes.pure _)) va sup

omit hR hW

lemma fixes_ldstub (hL : ∀ pa, Fixes f (onMem (mc.atomic_ldstub8 pa))) (va : u32) (sup : Bool) :
    Fixes f (ldstub mc va sup) := by
  rw [ldstub_onLoad]
  exact fixes_onLoad hf hr (fun _ tr => hL tr.pa) (hL va) va sup

end Atomics

end Unseen

/-! ### The control registers -/

/-- The registers of the MMU that only privileged instructions write. -/
def priv (m : MMU) : u32 × u32 × u32 × u32 × u32 × u32 :=
  (m.control_reg, m.ctx_tbl_ptr, m.ctx_n, m.ccr, m.iccr, m.dccr)

lemma priv_ctx {m m' : MMU} (h : m'.priv = m.priv) :
    m'.ctx_n = m.ctx_n ∧ m'.ctx_tbl_ptr = m.ctx_tbl_ptr ∧ m'.control_reg = m.control_reg := by
  simp only [priv, Prod.mk.injEq] at h
  exact ⟨h.2.2.1, h.2.1, h.1⟩

lemma unseen_priv : Unseen fun s : MMUSt δ => s.mmu.priv where
  tlb m _ t rw := by cases rw <;> rfl
  l0 m _ p e rw := by cases rw <;> rfl
  fault _ _ _ := rfl

section Priv

variable {γ : Type}

/-- The program does not write the control registers. -/
abbrev KeepsPriv (m : MmuM δ γ) : Prop := Fixes (fun s => s.mmu.priv) m

lemma keepsPriv_onMem (f : Mem δ → Except HostError (γ × Mem δ)) : KeepsPriv (onMem f) := by
  intro s; unfold onMem; split <;> rfl

lemma keepsPriv_translate_va (va : u32) (sup : Bool) (rw : Intent) (rep : Bool) :
    KeepsPriv (translate_va mc va sup rw rep) :=
  fixes_translate_va unseen_priv.toUnseenXlat (fun _ => keepsPriv_onMem _) va sup rw rep

lemma keepsPriv_MemAccess (rw : Intent) (size : AccessSize) (va v : u32) (sup rep : Bool) :
    KeepsPriv (MemAccess mc rw size va v sup rep) := by
  refine fixes_MemAccess unseen_priv (fun _ => keepsPriv_onMem _) (fun p w => ?_)
    (fun i b pa w _ => ?_) va v sup rep
  · cases rw <;> exact Fixes.bind (fun _ => rfl) fun _ => Fixes.pure _
  · cases rw <;> exact Fixes.bind (keepsPriv_onMem _) fun _ => Fixes.pure _

/-- Two words, the second four bytes above the first. -/
def pairAccess (mc : MCtrl δ) (rw : Intent) (va v₀ v₁ : u32) (sup : Bool) :
    MmuM δ ((cint × u32) × (cint × u32)) := do
  let r₀ ← MemAccess mc rw .b4 va v₀ sup true
  let r₁ ← MemAccess mc rw .b4 (va + 4) v₁ sup true
  pure (r₀, r₁)

lemma keepsPriv_pairAccess (rw : Intent) (va v₀ v₁ : u32) (sup : Bool) :
    KeepsPriv (pairAccess mc rw va v₀ v₁ sup) :=
  Fixes.bind (keepsPriv_MemAccess _ _ _ _ _ _) fun _ =>
    Fixes.bind (keepsPriv_MemAccess _ _ _ _ _ _) fun _ => Fixes.pure _

lemma keepsPriv_atomic_swap32 (va : u32) (sup : Bool) (v : u32) :
    KeepsPriv (atomic_swap32 mc va sup v) :=
  fixes_atomic_swap32 unseen_priv.toUnseenXlat (fun _ => keepsPriv_onMem _)
    (fun _ _ _ _ => keepsPriv_onMem _) (fun _ _ _ _ _ => keepsPriv_onMem _) va sup v

lemma keepsPriv_atomic_casa32 (va : u32) (sup : Bool) (e v : u32) :
    KeepsPriv (atomic_casa32 mc va sup e v) :=
  fixes_atomic_casa32 unseen_priv.toUnseenXlat (fun _ => keepsPriv_onMem _)
    (fun _ _ _ _ => keepsPriv_onMem _) (fun _ _ _ _ _ => keepsPriv_onMem _) va sup e v

lemma keepsPriv_ldstub (va : u32) (sup : Bool) : KeepsPriv (ldstub mc va sup) :=
  fixes_ldstub unseen_priv.toUnseenXlat (fun _ => keepsPriv_onMem _)
    (fun _ => keepsPriv_onMem _) va sup

end Priv

end MMU

end SparcEmu
