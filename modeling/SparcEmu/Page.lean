import SparcEmu.HostMemory
import SparcEmu.TlbCoherence
import SparcEmu.Lib.Bits

/-!
Nothing in the MMU looks inside a 4 KB page: for the addresses of one page the TLBs, the
walk and the L0 caches answer alike, and the physical addresses are in one page.
-/

namespace SparcEmu

open Lib.Effect Lib.Bits

def SamePage (a b : u32) : Prop := a >>> 12 = b >>> 12

variable {a b : u32}

lemma SamePage.symm (h : SamePage a b) : SamePage b a := Eq.symm h

lemma SamePage.mask {m : u32} (h : SamePage a b) (hm : PageMask m) : a &&& m = b &&& m :=
  and_of_shift (n := 12) hm h

variable {va : u32}

lemma samePage_add_four (h : va &&& 7 = 0) : SamePage (va + 4) va := by
  have h8 : va.toNat % 8 = 0 := by
    have := congrArg BitVec.toNat h
    rwa [show (7 : u32) = low 32 3 from rfl, toNat_low (by decide)] at this
  apply BitVec.eq_of_toNat_eq
  rw [BitVec.toNat_ushiftRight, BitVec.toNat_ushiftRight, BitVec.toNat_add,
    show BitVec.toNat (4 : u32) = 4 from rfl]
  simp only [Nat.shiftRight_eq_div_pow]
  omega

/-! ### TLB -/

namespace TLB

lemma hits_page {e : Entry} (he : PageMask e.mask) (h : SamePage a b) (c : u32) :
    e.hits c a = e.hits c b := by
  simp only [Entry.hits, h.mask he]

lemma mcHits_page (t : TLB) (h : SamePage a b) (c : u32) : t.mcHits c a = t.mcHits c b := by
  simp only [mcHits, h.mask t.mc_page]

lemma find?_hits {es : List Entry} (hes : ∀ e ∈ es, PageMask e.mask) (h : SamePage a b) (c : u32) :
    es.find? (fun e => e.hits c a) = es.find? (fun e => e.hits c b) := by
  induction es with
  | nil => rfl
  | cons e es ih =>
    rw [List.find?_cons, List.find?_cons, hits_page (hes e (by simp)) h,
      ih fun x hx => hes x (by simp [hx])]

lemma lookup_page (t : TLB) (h : SamePage a b) (c : u32) : t.lookup c a = t.lookup c b := by
  have hf := find?_hits t.entry_mask h c
  unfold lookup
  rw [mcHits_page t h]
  split_ifs
  · rfl
  · split
    · next e h1 =>
      split
      · next e' h2 =>
        obtain rfl : e = e' := by rw [h1] at hf; rw [h2] at hf; exact Option.some.inj hf
        rfl
      · next h2 => rw [h1, h2] at hf; cases hf
    · next h1 =>
      split
      · next e' h2 => rw [h1, h2] at hf; cases hf
      · rfl

lemma lookup_again {t : TLB} {c : u32} {r : u32 × u8} (h : (t.lookup c va).1 = some r) :
    (t.lookup c va).2.lookup c va = (some r, (t.lookup c va).2) := by
  obtain ⟨hm, e⟩ | ⟨-, x, hx, hh, e⟩ | ⟨-, -, e⟩ := t.lookup_cases c va
  · rw [e] at h ⊢
    cases h
    exact e
  · rw [e] at h ⊢
    cases h
    have hw : (t.warm x (t.entry_mask x hx)).mcHits c va = true := by
      simp only [Entry.hits, Bool.and_eq_true] at hh
      simp only [warm_mcHits, hh, Bool.and_self]
    unfold lookup
    rw [if_pos hw]
    rfl
  · rw [e] at h; cases h

lemma lookup_insert {t t' : TLB} {c pte : u32} {level : u8} (hv : pte &&& 3 = 2)
    (h : t.insert c va level pte = .ok t') : t'.lookup c va = (some (pte, level), t') := by
  unfold TLB.insert at h
  rw [if_pos (by simpa [is_valid] using hv)] at h
  split at h
  · cases h
  · next mask hm =>
    cases h
    have hw : mcHits (t.put ⟨va &&& mask, mask, pte, c, level⟩ (pageMask_of_level hm)) c va
        = true := by simp [mcHits, put, warm]
    unfold lookup
    rw [if_pos hw]
    rfl

end TLB

/-! ### Walk -/

lemma SamePage.leaf (h : SamePage a b) (T : Tables) (c : u32) : T.leaf c a = T.leaf c b := by
  have h1 : MMU.ind1 a = MMU.ind1 b := by
    simp only [MMU.ind1, shift_of_shift h (by decide : 12 ≤ 24)]
  have h2 : MMU.ind2 a = MMU.ind2 b := by
    simp only [MMU.ind2, shift_of_shift h (by decide : 12 ≤ 18)]
  have h3 : MMU.ind3 a = MMU.ind3 b := by
    simp only [MMU.ind3]; rw [h]
  simp only [Tables.leaf, h1, h2, h3]

namespace MMU

/-- The part of an address that a page of the level does not translate. -/
def pageOffsetMask (level : u8) : u32 :=
  if level = 3 then 0xfff else if level = 2 then 0x3ffff else if level = 1 then 0xffffff
  else 0xffffffff

lemma physAddr_eq (va pte : u32) (level : u8) :
    physAddr va pte level =
      (va &&& pageOffsetMask level) ||| (((pte &&& ~~~0xff#32) >>> 8) <<< 12) := by
  unfold physAddr pageOffsetMask
  split_ifs
  · rfl
  · rfl
  · rfl
  · rw [show (0xffffffff : u32) = BitVec.allOnes 32 from rfl, BitVec.and_allOnes]

lemma physAddr_low (va pte : u32) (level : u8) : physAddr va pte level &&& 0xfff = va &&& 0xfff := by
  have hm : pageOffsetMask level &&& 0xfff = 0xfff := by
    unfold pageOffsetMask; split_ifs <;> decide
  have hp : ∀ x : u32, x <<< 12 &&& 0xfff = 0 := by
    intro x
    apply BitVec.eq_of_getLsbD_eq
    intro i hi
    rw [show (0xfff : u32) = low 32 12 from rfl, BitVec.getLsbD_and, getLsbD_low,
      BitVec.getLsbD_shiftLeft]
    by_cases h : i < 12 <;> simp [h]
  rw [physAddr_eq, BitVec.and_or_distrib_right, BitVec.and_assoc, hm, hp]
  exact BitVec.or_zero

lemma page_add_offset {pa : u32} (h : pa &&& 0xfff = va &&& 0xfff) :
    (pa &&& ~~~0xfff#32).toNat + (va &&& 0xfff).toNat = pa.toNat := by
  have hl : (pa &&& 0xfff).toNat = pa.toNat % 4096 := toNat_low (a := pa) (n := 12) (by decide)
  have hu : pa &&& ~~~0xfff#32 = (pa >>> 12) <<< 12 := by
    rw [BitVec.shiftLeft_ushiftRight]
    rfl
  have hn : ((pa >>> 12) <<< 12).toNat = pa.toNat / 4096 * 4096 := by
    have := pa.isLt
    rw [BitVec.toNat_shiftLeft, BitVec.toNat_ushiftRight, Nat.shiftLeft_eq,
      Nat.shiftRight_eq_div_pow, Nat.mod_eq_of_lt (by omega)]
  rw [← h, hu, hn, hl]
  omega

lemma page_ptr {b : IMemoryBank} {pa : u32} (hin : b.contains pa = true)
    (h : pa &&& 0xfff = va &&& 0xfff) :
    ((pa &&& ~~~0xfff#32).toNat : Int) - b.base.toNat + (va &&& 0xfff).toNat = b.offset pa := by
  have h1 := page_add_offset h
  have h2 := b.offset_of_contains hin
  omega

lemma SamePage.physAddr (h : SamePage a b) (pte : u32) (level : u8) :
    SamePage (physAddr a pte level) (physAddr b pte level) := by
  unfold SamePage at *
  simp only [physAddr_eq, BitVec.ushiftRight_or_distrib, BitVec.ushiftRight_and_distrib, h]

end MMU

end SparcEmu
