import SparcEmu.Bank
import Mathlib.Tactic.IntervalCases

/-!
The bytes that an access touches: what it reads depends on no other byte, and what it writes
changes no other byte. In a big-endian bank the bank's own accessors and a raw pointer do the
same.
-/

namespace SparcEmu

def AccessSize.bytes : AccessSize → Nat
  | .b1 => 1
  | .b2 => 2
  | .b4 => 4

variable {h h' : HostBytes} {b : IMemoryBank} {i : Nat} {addr : u32} {size : AccessSize}

lemma IMemoryBank.offset_of_contains (b : IMemoryBank) {addr : u32} (h : b.contains addr = true) :
    b.offset addr = addr.toNat - b.base.toNat := by
  unfold IMemoryBank.contains at h
  simp only [Bool.and_eq_true, decide_eq_true_eq] at h
  unfold IMemoryBank.offset
  rw [BitVec.toNat_sub]
  have := addr.isLt
  omega

/-- Byte `q` of bank `j` is not among the `n` bytes at `p`. -/
def Outside (p : HostPtr) (n : Nat) (j : Nat) (q : Int) : Prop :=
  j ≠ p.bank ∨ q < p.off ∨ p.off + n ≤ q

/-! ### Raw pointers -/

variable {j : Nat}

lemma putByte_other (p : HostPtr) (k : Int) (v : u32) {q : Int}
    (ho : ¬(j = p.bank ∧ q = p.off + k)) : putByte h p k v j q = h j q := if_neg ho

variable {p : HostPtr}

lemma ptrWrite_other {q : Int} (v : u32) (ho : Outside p size.bytes j q) :
    ptrWrite h p v size j q = h j q := by
  have hk : ∀ k : Int, 0 ≤ k → k < size.bytes → ¬(j = p.bank ∧ q = p.off + k) := by
    rintro k h0 h1 ⟨rfl, rfl⟩
    rcases ho with ho | ho | ho
    · exact ho rfl
    · omega
    · omega
  cases size with
  | b1 => exact putByte_other _ _ _ (hk 0 (by decide) (by decide))
  | b2 =>
    exact (putByte_other _ _ _ (hk 1 (by decide) (by decide))).trans
      (putByte_other _ _ _ (hk 0 (by decide) (by decide)))
  | b4 =>
    exact (putByte_other _ _ _ (hk 3 (by decide) (by decide))).trans <|
      (putByte_other _ _ _ (hk 2 (by decide) (by decide))).trans <|
      (putByte_other _ _ _ (hk 1 (by decide) (by decide))).trans
      (putByte_other _ _ _ (hk 0 (by decide) (by decide)))

lemma ptrRead_congr (he : ∀ q, p.off ≤ q → q < p.off + size.bytes → h p.bank q = h' p.bank q) :
    ptrRead h p size = ptrRead h' p size := by
  have hk : ∀ k : Int, 0 ≤ k → k < size.bytes → byteAt h p k = byteAt h' p k := by
    intro k h0 h1
    unfold byteAt
    rw [he _ (by omega) (by omega)]
  cases size with
  | b1 => exact hk 0 (by decide) (by decide)
  | b2 => simp only [ptrRead, hk 0 (by decide) (by decide), hk 1 (by decide) (by decide)]
  | b4 =>
    simp only [ptrRead, hk 0 (by decide) (by decide), hk 1 (by decide) (by decide),
      hk 2 (by decide) (by decide), hk 3 (by decide) (by decide)]

variable {k : Nat}

lemma ptrRead_byte (h : HostBytes) (p : HostPtr) (hk : k < 4) :
    (ptrRead h p .b4 >>> (8 * (3 - k))).setWidth 8 = h p.bank (p.off + k) := by
  have hge : ∀ (b : u8) (j : Nat), 8 ≤ j → b.getLsbD j = false := fun b j => BitVec.getLsbD_of_ge b j
  unfold ptrRead byteAt
  apply BitVec.eq_of_getLsbD_eq
  intro i hi
  have h32 : i < 32 := by omega
  -- below the bits of byte `k` shifts bring zeros, above them the bytes have none
  interval_cases k <;> simp only [BitVec.getLsbD_setWidth, BitVec.getLsbD_ushiftRight,
    BitVec.getLsbD_or, BitVec.getLsbD_shiftLeft, Nat.reduceSub, Nat.reduceMul]
  · simp [hi, h32, hge _ _ (show 8 ≤ 24 + i - 16 by omega), hge _ _ (show 8 ≤ 24 + i - 8 by omega),
      hge _ _ (show 8 ≤ 24 + i by omega), show 24 + i < 32 by omega]
  · simp [hi, h32, hge _ _ (show 8 ≤ 16 + i - 8 by omega), hge _ _ (show 8 ≤ 16 + i by omega),
      show 16 + i < 24 by omega, show 16 + i < 32 by omega]
  · simp [hi, h32, show 8 + i < 16 by omega, show 8 + i < 24 by omega, show 8 + i < 32 by omega]
  · simp [hi, h32, show i < 16 by omega, show i < 24 by omega]

lemma ptrWrite_byte (h : HostBytes) (p : HostPtr) (v : u32) (hk : k < 4) :
    ptrWrite h p v .b4 p.bank (p.off + k) = (v >>> (8 * (3 - k))).setWidth 8 := by
  unfold ptrWrite putByte setByte
  interval_cases k <;> simp

lemma inside_of_not_outside {i : Nat} {o : Int} (ho : ¬ Outside p AccessSize.b4.bytes i o) :
    ∃ k : Nat, k < 4 ∧ i = p.bank ∧ o = p.off + k := by
  unfold Outside AccessSize.bytes at ho
  push Not at ho
  obtain ⟨hi, h1, h2⟩ := ho
  exact ⟨(o - p.off).toNat, by omega, hi, by omega⟩

lemma ptrWrite_cases (h : HostBytes) (p : HostPtr) (v : u32) (i : Nat) (o : Int) :
    ptrWrite h p v .b4 i o = h i o ∨ ∃ k : Nat, k < 4 ∧ i = p.bank ∧ o = p.off + k := by
  by_cases ho : Outside p AccessSize.b4.bytes i o
  · exact Or.inl (ptrWrite_other v ho)
  · exact Or.inr (inside_of_not_outside ho)

lemma ptrWrite_back (h : HostBytes) (p : HostPtr) (v : u32) :
    ptrWrite (ptrWrite h p v .b4) p (ptrRead h p .b4) .b4 = h := by
  funext i o
  by_cases ho : Outside p AccessSize.b4.bytes i o
  · rw [ptrWrite_other _ ho, ptrWrite_other _ ho]
  · obtain ⟨k, hk, rfl, rfl⟩ := inside_of_not_outside ho
    rw [ptrWrite_byte _ _ _ hk, ptrRead_byte _ _ hk]

lemma eq_of_bytes {w w' : u32}
    (h : ∀ k < 4, (w >>> (8 * (3 - k))).setWidth 8 = (w' >>> (8 * (3 - k))).setWidth 8) : w = w' := by
  apply BitVec.eq_of_getLsbD_eq
  intro i hi
  have hbit := congrArg (·.getLsbD (i % 8)) (h (3 - i / 8) (by omega))
  have hi' : 8 * (3 - (3 - i / 8)) + i % 8 = i := by omega
  have h8 : i % 8 < 8 := Nat.mod_lt _ (by decide)
  simpa [hi', h8] using hbit

lemma ptrRead_ptrWrite (h : HostBytes) (p : HostPtr) (v : u32) :
    ptrRead (ptrWrite h p v .b4) p .b4 = v := by
  refine eq_of_bytes fun k hk => ?_
  rw [ptrRead_byte _ _ hk, ptrWrite_byte _ _ _ hk]

/-- The words at two pointers share no byte. -/
def HostPtr.Apart (p q : HostPtr) : Prop := p.bank ≠ q.bank ∨ p.off + 4 ≤ q.off ∨ q.off + 4 ≤ p.off

variable {q : HostPtr}

lemma HostPtr.Apart.outside (hpq : p.Apart q) (hk : k < 4) :
    Outside p AccessSize.b4.bytes q.bank (q.off + k) := by
  have h4 : AccessSize.b4.bytes = 4 := rfl
  unfold Outside
  rcases hpq with hb | ho | ho
  · exact Or.inl (Ne.symm hb)
  · exact Or.inr (Or.inr (by omega))
  · exact Or.inr (Or.inl (by omega))

lemma HostPtr.Apart.symm (hpq : p.Apart q) : q.Apart p := by
  rcases hpq with hb | ho | ho
  · exact Or.inl (Ne.symm hb)
  · exact Or.inr (Or.inr ho)
  · exact Or.inr (Or.inl ho)

lemma ptrRead_apart (hpq : p.Apart q) (v : u32) :
    ptrRead (ptrWrite h p v .b4) q .b4 = ptrRead h q .b4 := by
  have h4 : AccessSize.b4.bytes = 4 := rfl
  refine ptrRead_congr fun o h1 h2 => ?_
  have ho := hpq.outside (k := (o - q.off).toNat) (by omega)
  rw [show q.off + ((o - q.off).toNat : Int) = o by omega] at ho
  exact ptrWrite_other v ho

lemma ptrWrite_comm (hpq : p.Apart q) (v w : u32) :
    ptrWrite (ptrWrite h q w .b4) p v .b4 = ptrWrite (ptrWrite h p v .b4) q w .b4 := by
  funext i o
  by_cases hp : Outside p AccessSize.b4.bytes i o
  · rw [ptrWrite_other v hp]
    by_cases hq : Outside q AccessSize.b4.bytes i o
    · rw [ptrWrite_other w hq, ptrWrite_other w hq, ptrWrite_other v hp]
    · obtain ⟨k, hk, rfl, rfl⟩ := inside_of_not_outside hq
      rw [ptrWrite_byte _ _ _ hk, ptrWrite_byte _ _ _ hk]
  · obtain ⟨k, hk, rfl, rfl⟩ := inside_of_not_outside hp
    rw [ptrWrite_byte _ _ _ hk, ptrWrite_other w (hpq.symm.outside hk), ptrWrite_byte _ _ _ hk]

/-! ### The accessors of a bank -/

/-- The bytes of an access at `addr` are consecutive in the buffer. -/
def Consecutive (b : IMemoryBank) (addr : u32) : Prop :=
  ∀ i k, k < 4 → bytePtr b i addr k = ⟨i, b.offset addr + k⟩

lemma consecutive_ram (hk : b.kind = .RamBank) (addr : u32) : Consecutive b addr := by
  intro i k _
  unfold bytePtr
  rw [hk]

lemma consecutive_of_le (hin : b.contains addr = true)
    (hle : addr.toNat + 4 ≤ b.base.toNat + 2 ^ 32) : Consecutive b addr := by
  intro i k hk
  have ho := b.offset_of_contains hin
  unfold IMemoryBank.contains at hin
  simp only [Bool.and_eq_true, decide_eq_true_eq] at hin
  unfold bytePtr
  split
  · have hadd : b.offset (addr + BitVec.ofNat 32 k) = b.offset addr + k := by
      rw [ho]
      unfold IMemoryBank.offset
      rw [BitVec.toNat_sub, BitVec.toNat_add, BitVec.toNat_ofNat]
      have h1 := addr.isLt
      have h2 := b.base.isLt
      omega
    rw [hadd]
  · rfl

lemma consecutive_rom (hin : b.contains addr = true) (hs : b.size + 4 ≤ 2 ^ 32) :
    Consecutive b addr := by
  refine consecutive_of_le hin ?_
  unfold IMemoryBank.contains at hin
  simp only [Bool.and_eq_true, decide_eq_true_eq] at hin
  omega

lemma bankByte_congr (hc : Consecutive b addr)
    (he : ∀ q, b.offset addr ≤ q → q < b.offset addr + size.bytes → h i q = h' i q)
    (hs : k < size.bytes) : bankByte h b i size addr k = bankByte h' b i size addr k := by
  have h4 : k < 4 := by cases size <;> simp only [AccessSize.bytes] at hs <;> omega
  unfold bankByte byteAt
  rw [hc i k h4]
  dsimp only
  rw [he _ (by omega) (by omega)]

lemma memRead_congr (hc : Consecutive b addr)
    (he : ∀ q, b.offset addr ≤ q → q < b.offset addr + size.bytes → h i q = h' i q) :
    memRead h b i addr size = memRead h' b i addr size := by
  have hk := fun k => bankByte_congr (k := k) hc he
  cases size with
  | b1 => exact hk 0 (by decide)
  | b2 => simp only [memRead, hk 0 (by decide), hk 1 (by decide)]
  | b4 => simp only [memRead, hk 0 (by decide), hk 1 (by decide), hk 2 (by decide), hk 3 (by decide)]

lemma memWrite_other (hc : Consecutive b addr) (v : u32) {q : Int}
    (ho : Outside ⟨i, b.offset addr⟩ size.bytes j q) : memWrite h b i addr v size j q = h j q := by
  have hk : ∀ (g : HostBytes) (s : AccessSize) (k : Nat), k < size.bytes →
      putBankByte g b i s addr v k j q = g j q := by
    intro g s k hs
    have h4 : k < 4 := by cases size <;> simp only [AccessSize.bytes] at hs <;> omega
    unfold putBankByte
    rw [hc i k h4]
    refine putByte_other _ _ _ ?_
    rintro ⟨rfl, rfl⟩
    rcases ho with ho | ho | ho
    · exact ho rfl
    · dsimp only at ho; omega
    · dsimp only at ho; omega
  cases size with
  | b1 => exact hk _ _ 0 (by decide)
  | b2 => exact (hk _ _ 1 (by decide)).trans (hk _ _ 0 (by decide))
  | b4 =>
    exact (hk _ _ 3 (by decide)).trans <| (hk _ _ 2 (by decide)).trans <|
      (hk _ _ 1 (by decide)).trans (hk _ _ 0 (by decide))

lemma memRead_big (hc : Consecutive b addr) (he : b.bankEndian = .Big) :
    memRead h b i addr size = ptrRead h ⟨i, b.offset addr⟩ size := by
  have hk : ∀ k : Nat, k < 4 → bankByte h b i size addr k
      = byteAt h ⟨i, b.offset addr⟩ k <<< byteShift .Big size k := by
    intro k h4
    unfold bankByte byteAt
    rw [hc i k h4, he]
    simp
  cases size with
  | b1 | b2 | b4 => simp [memRead, ptrRead, hk, byteShift]

lemma memWrite_big (hc : Consecutive b addr) (he : b.bankEndian = .Big) (v : u32) :
    memWrite h b i addr v size = ptrWrite h ⟨i, b.offset addr⟩ v size := by
  have hk : ∀ (g : HostBytes) (k : Nat), k < 4 → putBankByte g b i size addr v k
      = putByte g ⟨i, b.offset addr⟩ k (v >>> byteShift .Big size k) := by
    intro g k h4
    unfold putBankByte putByte
    rw [hc i k h4, he]
    simp
  cases size with
  | b1 | b2 | b4 => simp [memWrite, ptrWrite, hk, byteShift]

end SparcEmu
