import SparcEmu.Mmu
import Mathlib.Tactic.IntervalCases

/-!
The page table walk as a function of what lies in memory, and the two encodings of the access
permissions.
-/

namespace SparcEmu

open Lib.Effect

variable {δ : Type} (mc : MCtrl δ)

/-- The word a walk reads at a physical address. A device has none: its registers may change
with every access, so they are no page tables. -/
def MCtrl.wordAt (h : HostBytes) (pa : u32) : Option u32 :=
  match mc.get_bank pa with
  | none => some 0
  | some (i, b) => if b.isDevice then none else some (memRead h b i pa .b4)

/-- What a walk depends on: the words in memory and the context table pointer. -/
structure Tables where
  word : u32 → Option u32
  ptr : u32

variable {T : Tables} {ctx va : u32} {r : u32 × u8}

namespace Tables

def root (T : Tables) (ctx : u32) : u32 := (T.ptr <<< 4) + ctx * 4

/-- The entry that a walk ends at, with its level. -/
def leaf (T : Tables) (ctx va : u32) : Option (u32 × u8) := do
  let l0 ← T.word (T.root ctx)
  if l0 &&& 3 = 1 then do
    let l1 ← T.word (MMU.tableAddr l0 (MMU.ind1 va))
    if l1 &&& 3 = 1 then do
      let l2 ← T.word (MMU.tableAddr l1 (MMU.ind2 va))
      if l2 &&& 3 = 1 then do
        let l3 ← T.word (MMU.tableAddr l2 (MMU.ind3 va))
        some (l3, 3)
      else some (l2, 2)
    else some (l1, 1)
  else some (l0, 0)

lemma leaf_cases (h : T.leaf ctx va = some r) :
    ∃ l0, T.word (T.root ctx) = some l0 ∧
      ((l0 &&& 3 ≠ 1 ∧ r = (l0, 0)) ∨
       (l0 &&& 3 = 1 ∧ ∃ l1, T.word (MMU.tableAddr l0 (MMU.ind1 va)) = some l1 ∧
         ((l1 &&& 3 ≠ 1 ∧ r = (l1, 1)) ∨
          (l1 &&& 3 = 1 ∧ ∃ l2, T.word (MMU.tableAddr l1 (MMU.ind2 va)) = some l2 ∧
            ((l2 &&& 3 ≠ 1 ∧ r = (l2, 2)) ∨
             (l2 &&& 3 = 1 ∧ ∃ l3, T.word (MMU.tableAddr l2 (MMU.ind3 va)) = some l3 ∧
               r = (l3, 3))))))) := by
  unfold leaf at h
  simp only [Option.bind_eq_bind, Option.bind_eq_some_iff] at h
  obtain ⟨l0, h0, h⟩ := h
  refine ⟨l0, h0, ?_⟩
  split_ifs at h with e0
  · obtain ⟨l1, h1, h⟩ := Option.bind_eq_some_iff.mp h
    refine Or.inr ⟨e0, l1, h1, ?_⟩
    split_ifs at h with e1
    · obtain ⟨l2, h2, h⟩ := Option.bind_eq_some_iff.mp h
      refine Or.inr ⟨e1, l2, h2, ?_⟩
      split_ifs at h with e2
      · obtain ⟨l3, h3, h⟩ := Option.bind_eq_some_iff.mp h
        exact Or.inr ⟨e2, l3, h3, (Option.some.inj h).symm⟩
      · exact Or.inl ⟨e2, (Option.some.inj h).symm⟩
    · exact Or.inl ⟨e1, (Option.some.inj h).symm⟩
  · exact Or.inl ⟨e0, (Option.some.inj h).symm⟩

end Tables

/-! ### Pages -/

lemma ind1_mask (va : u32) : MMU.ind1 va = MMU.ind1 (va &&& 0xff000000) := by
  simp only [MMU.ind1, BitVec.ushiftRight_and_distrib, BitVec.and_assoc]
  rfl

lemma ind2_mask (va : u32) : MMU.ind2 va = MMU.ind2 (va &&& 0xfffc0000) := by
  simp only [MMU.ind2, BitVec.ushiftRight_and_distrib, BitVec.and_assoc]
  rfl

lemma ind3_mask (va : u32) : MMU.ind3 va = MMU.ind3 (va &&& 0xfffff000) := by
  simp only [MMU.ind3, BitVec.ushiftRight_and_distrib, BitVec.and_assoc]
  rfl

lemma and_eq_of_sub {x y a b : u32} (h : x &&& a = y &&& a) (hb : b &&& a = b) :
    x &&& b = y &&& b := by
  rw [← hb, BitVec.and_comm b a, ← BitVec.and_assoc, ← BitVec.and_assoc, h]

theorem Tables.leaf_page {va' : u32} {mask : u32} (h : T.leaf ctx va = some r)
    (hm : get_addr_level_mask r.2 = .ok mask) (hv : va' &&& mask = va &&& mask) :
    T.leaf ctx va' = some r := by
  obtain ⟨l0, h0, ⟨e0, rfl⟩ | ⟨e0, l1, h1, ⟨e1, rfl⟩ | ⟨e1, l2, h2, ⟨e2, rfl⟩ | ⟨e2, l3, h3, rfl⟩⟩⟩⟩
    := Tables.leaf_cases h
  · cases hm
  · cases hm
    have i1 : MMU.ind1 va' = MMU.ind1 va := by rw [ind1_mask, hv, ← ind1_mask]
    simp only [leaf, h0, e0, i1, h1, if_neg e1, Option.bind_eq_bind, Option.bind_some, if_true]
  · cases hm
    have i1 : MMU.ind1 va' = MMU.ind1 va := by
      rw [ind1_mask, and_eq_of_sub hv (by decide), ← ind1_mask]
    have i2 : MMU.ind2 va' = MMU.ind2 va := by rw [ind2_mask, hv, ← ind2_mask]
    simp only [leaf, h0, e0, i1, h1, e1, i2, h2, if_neg e2, Option.bind_eq_bind, Option.bind_some,
      if_true]
  · cases hm
    have i1 : MMU.ind1 va' = MMU.ind1 va := by
      rw [ind1_mask, and_eq_of_sub hv (by decide), ← ind1_mask]
    have i2 : MMU.ind2 va' = MMU.ind2 va := by
      rw [ind2_mask, and_eq_of_sub hv (by decide), ← ind2_mask]
    have i3 : MMU.ind3 va' = MMU.ind3 va := by rw [ind3_mask, hv, ← ind3_mask]
    simp only [leaf, h0, e0, i1, h1, e1, i2, h2, e2, i3, h3, Option.bind_eq_bind, Option.bind_some,
      if_true]

lemma Tables.leaf_mask (h : T.leaf ctx va = some r) (h0 : r.2 ≠ 0) :
    ∃ mask, get_addr_level_mask r.2 = .ok mask := by
  obtain ⟨l0, -, ⟨-, rfl⟩ | ⟨-, l1, -, ⟨-, rfl⟩ | ⟨-, l2, -, ⟨-, rfl⟩ | ⟨-, l3, -, rfl⟩⟩⟩⟩ :=
    Tables.leaf_cases h
  · exact absurd rfl h0
  all_goals exact ⟨_, rfl⟩

lemma Tables.leaf_ptd (h : T.leaf ctx va = some r) (h1 : r.1 &&& 3 = 1) : r.2 = 3 := by
  obtain ⟨l0, -, ⟨e, rfl⟩ | ⟨-, l1, -, ⟨e, rfl⟩ | ⟨-, l2, -, ⟨e, rfl⟩ | ⟨-, l3, -, rfl⟩⟩⟩⟩ :=
    Tables.leaf_cases h
  · exact absurd h1 e
  · exact absurd h1 e
  · exact absurd h1 e
  · rfl

/-! ### The walk of the code -/

namespace MMU

/-- The tables that the MMU uses. -/
def tables (s : MMUSt δ) : Tables := ⟨mc.wordAt s.mem.bytes, s.mmu.ctx_tbl_ptr⟩

variable {mc}

lemma bypassRead4_of_wordAt {s : MMUSt δ} {pa w : u32} (h : mc.wordAt s.mem.bytes pa = some w) :
    MemAccessBypassRead4 mc pa s = .ok w s := by
  unfold MCtrl.wordAt at h
  unfold MemAccessBypassRead4 onMem MCtrl.bypassRead4
  cases hb : mc.get_bank pa with
  | none => simp_all
  | some ib =>
    obtain ⟨i, b⟩ := ib
    rw [hb] at h
    cases hk : b.kind with
    | device id p => simp [IMemoryBank.isDevice, hk] at h
    | RamBank => simp_all [IMemoryBank.isDevice, MCtrl.bankRead]
    | RomBank w => simp_all [IMemoryBank.isDevice, MCtrl.bankRead]

/-- The walk of the code as a recursion over the indices. -/
def walkM (mc : MCtrl δ) : List u32 → u8 → u32 → MmuM δ (u32 × u8)
  | [], level, pa => do
    let w ← MemAccessBypassRead4 mc pa
    pure (w, level)
  | i :: is, level, pa => do
    let w ← MemAccessBypassRead4 mc pa
    if w &&& 3 = 1 then walkM mc is (level + 1) (tableAddr w i) else pure (w, level)

lemma get_PTE_eq (va : u32) (s : MMUSt δ) :
    get_PTE mc va s = walkM mc [ind1 va, ind2 va, ind3 va] 0 s.mmu.ctxEntryAddr s := rfl

theorem get_PTE_of_leaf {s : MMUSt δ} (h : (tables mc s).leaf s.mmu.ctx_n va = some r) :
    get_PTE mc va s = .ok r s := by
  unfold get_PTE
  rw [getMMU_bind]
  obtain ⟨l0, h0, ⟨e0, rfl⟩ | ⟨e0, l1, h1, ⟨e1, rfl⟩ | ⟨e1, l2, h2, ⟨e2, rfl⟩ | ⟨e2, l3, h3, rfl⟩⟩⟩⟩
    := Tables.leaf_cases h
  all_goals
    have r0 : MemAccessBypassRead4 mc s.mmu.ctxEntryAddr s = .ok l0 s := bypassRead4_of_wordAt h0
    rw [bind_ok r0]
  · rw [if_neg e0]; rfl
  all_goals
    rw [if_pos e0, bind_ok (bypassRead4_of_wordAt h1)]
  · rw [if_neg e1]; rfl
  all_goals
    rw [if_pos e1, bind_ok (bypassRead4_of_wordAt h2)]
  · rw [if_neg e2]; rfl
  · rw [if_pos e2, bind_ok (bypassRead4_of_wordAt h3)]
    rfl

/-! ### Permissions -/

lemma acc_lt (pte : u32) : (((pte >>> 2) &&& 7).setWidth 8 : u8).toNat < 8 := by
  have h : ((pte >>> 2) &&& 7).toNat ≤ 7 := by
    rw [BitVec.toNat_and]; exact Nat.and_le_right
  rw [BitVec.toNat_setWidth]
  omega

lemma acc_cases (pte : u32) :
    ∃ k < 8, (((pte >>> 2) &&& 7).setWidth 8 : u8) = BitVec.ofNat 8 k :=
  ⟨_, acc_lt pte, by rw [BitVec.ofNat_toNat, BitVec.setWidth_eq]⟩

/-- An entry that grants an access is a page table entry, if it is no descriptor above the last
level. -/
lemma granted_valid {rw : Intent} {sup : Bool} (hptd : r.1 &&& 3 = 1 → r.2 = 3)
    (h : permFault r.1 rw sup r.2 = 0) : r.1 &&& 3 = 2 := by
  have hlt : (r.1 &&& 3).toNat ≤ 3 := by rw [BitVec.toNat_and]; exact Nat.and_le_right
  unfold permFault at h
  generalize r.1 &&& 3 = ET at h hlt hptd
  by_contra h2
  have h0 : ET ≠ 0 := by
    rintro rfl
    cases h
  have hft : (ET = 1 ∧ r.2 = 3) ∨ ET = 3 := by
    have e0 : ET.toNat ≠ 0 := fun e => h0 (BitVec.eq_of_toNat_eq e)
    have e2 : ET.toNat ≠ 2 := fun e => h2 (BitVec.eq_of_toNat_eq e)
    rcases Nat.lt_or_ge ET.toNat 2 with e | e
    · have h1 : ET = 1 := BitVec.eq_of_toNat_eq (show _ = 1 by omega)
      exact Or.inl ⟨h1, hptd h1⟩
    · exact Or.inr (BitVec.eq_of_toNat_eq (show _ = 3 by omega))
  dsimp only at h
  rw [if_neg h0, if_pos hft] at h
  generalize get_access_type rw sup = AT at h
  generalize (((r.1 >>> 2) &&& 7).setWidth 8 : u8) = ACC at h
  have hite : ∀ {p : Prop} [Decidable p] {a b : u8}, a ≠ 0 → b ≠ 0 → (if p then a else b) ≠ 0 := by
    intro p _ a b ha hb
    split_ifs
    · exact ha
    · exact hb
  -- whatever the access type and the permissions, the fault type is 2, 3 or 4
  refine absurd h ?_
  repeat' apply hite
  all_goals decide

/-- **The two encodings agree**: on a page table entry the bit table allows exactly what
`check_perms` finds no fault in. -/
theorem permOk_iff {pte : u32} (h : pte &&& 3 = 2) (rw : Intent) (sup : Bool) (level : u8) :
    permOk pte rw sup = true ↔ permFault pte rw sup level = 0 := by
  have hft : (if ((2 : u32) = 1 ∧ level = 3) ∨ (2 : u32) = 3 then (4 : u8) else 0) = 0 :=
    if_neg (by rintro (⟨h, -⟩ | h) <;> exact absurd h (by decide))
  obtain ⟨k, hk, e⟩ := acc_cases pte
  unfold permOk permFault
  simp only [e, h, hft]
  cases rw <;> cases sup <;> interval_cases k <;> decide

end MMU

end SparcEmu
