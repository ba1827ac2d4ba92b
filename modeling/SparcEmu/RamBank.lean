import SparcEmu.HostMemory
import SparcEmu.Lib.Bits
import SparcEmu.Lib.ByteOrder
import SparcEmu.Lib.Overlay

/-!
The class `RamBank` with the checks of a debug build.

The vector of bytes is indexed with a check here, so an index outside of it is an error of its own.
The law of the bank is that of a memory of bytes: a read composes the bytes that were written last.
A debug build breaks it at the end of the bank, where `write16` checks for four bytes.
-/

namespace SparcEmu

open Lib

inductive RamStop
  | abort
  | outOfBounds (index : Nat)
  deriving DecidableEq, Repr

structure RamBank where
  bankEndian : Endian
  base : u32
  size : Nat
  data : Vector u8 size

namespace RamBank

def new (base : u32) (size : Nat) (endian : Endian) : RamBank :=
  ⟨endian, base, size, Vector.replicate size 0⟩

/-! ### Bytes -/

/-- `data[i]`. -/
def get (b : RamBank) (i : Nat) : Except RamStop u8 :=
  if h : i < b.size then .ok b.data[i] else .error (.outOfBounds i)

/-- `data[i] = v`. -/
def put (b : RamBank) (i : Nat) (v : u8) : Except RamStop RamBank :=
  if h : i < b.size then .ok { b with data := b.data.set i v h } else .error (.outOfBounds i)

/-- A check under `#ifndef NDEBUG`. -/
def check (ndebug fails : Bool) : Except RamStop Unit :=
  if !ndebug && fails then .error .abort else .ok ()

/-- `addr - base`, on 32 bits. -/
def off (b : RamBank) (addr : u32) : u32 := addr - b.base

/-- `uint64_t(addr) - uint64_t(base)`. -/
def off64 (b : RamBank) (addr : u32) : u64 := addr.setWidth 64 - b.base.setWidth 64

/-- The alignment check; `mask` are the address bits that must be zero. -/
def misaligned (align : Bool) (addr mask : u32) : Bool := align && decide (addr &&& mask ≠ 0)

/-! ### Reads -/

section

variable (ndebug : Bool) (b : RamBank) (addr : u32) (align : Bool)

def read8 : Except RamStop u8 := b.get (b.off addr).toNat

def read16_be : Except RamStop u16 := do
  check ndebug (misaligned align addr 1)
  check ndebug (decide (b.size ≤ (b.off addr + 1).toNat))
  let p := (b.off addr).toNat
  let p0 ← b.get p
  let p1 ← b.get (p + 1)
  pure ((p0.setWidth 16 <<< 8) ||| p1.setWidth 16)

def read16_le : Except RamStop u16 := do
  check ndebug (misaligned align addr 1)
  check ndebug (decide (b.size ≤ (b.off addr + 1).toNat))
  let p := (b.off addr).toNat
  let p0 ← b.get p
  let p1 ← b.get (p + 1)
  pure ((p1.setWidth 16 <<< 8) ||| p0.setWidth 16)

def read32_be : Except RamStop u32 := do
  check ndebug (misaligned align addr 3)
  let p := (b.off addr).toNat
  let p0 ← b.get p
  let p1 ← b.get (p + 1)
  let p2 ← b.get (p + 2)
  let p3 ← b.get (p + 3)
  pure ((p0.setWidth 32 <<< 24) ||| (p1.setWidth 32 <<< 16) ||| (p2.setWidth 32 <<< 8) |||
    p3.setWidth 32)

def read32_le : Except RamStop u32 := do
  check ndebug (misaligned align addr 3)
  let p := (b.off addr).toNat
  let p0 ← b.get p
  let p1 ← b.get (p + 1)
  let p2 ← b.get (p + 2)
  let p3 ← b.get (p + 3)
  pure ((p3.setWidth 32 <<< 24) ||| (p2.setWidth 32 <<< 16) ||| (p1.setWidth 32 <<< 8) |||
    p0.setWidth 32)

def read16 : Except RamStop u16 :=
  match b.bankEndian with
  | .Big => b.read16_be ndebug addr align
  | .Little => b.read16_le ndebug addr align

def read32 : Except RamStop u32 :=
  match b.bankEndian with
  | .Big => b.read32_be ndebug addr align
  | .Little => b.read32_le ndebug addr align

/-- `IMemoryBank::read64`. -/
def read64 : Except RamStop u64 := do
  check ndebug (misaligned align addr 7)
  match b.bankEndian with
  | .Big => do
    let hi ← b.read32 ndebug addr true
    let lo ← b.read32 ndebug (addr + 4) true
    pure ((hi.setWidth 64 <<< 32) ||| lo.setWidth 64)
  | .Little => do
    let lo ← b.read32 ndebug addr true
    let hi ← b.read32 ndebug (addr + 4) true
    pure ((hi.setWidth 64 <<< 32) ||| lo.setWidth 64)

def read8_nolock : Except RamStop u8 := b.get (b.off addr).toNat

/-- `IMemoryBank::read16_nolock`. -/
def read16_nolock : Except RamStop u16 := b.read16 ndebug addr align

/-- The bank chooses the byte order here itself, with the bodies of `read32_be` and `read32_le`. -/
def read32_nolock : Except RamStop u32 :=
  match b.bankEndian with
  | .Big => b.read32_be ndebug addr align
  | .Little => b.read32_le ndebug addr align

/-! ### Writes -/

def write8 (val : u8) : Except RamStop RamBank := b.put (b.off addr).toNat val

def write16_be (val : u16) : Except RamStop RamBank := do
  check ndebug (misaligned align addr 1)
  check ndebug (decide (b.size ≤ (b.off addr + 1).toNat))
  let p := (b.off addr).toNat
  let b ← b.put p (((val >>> 8) &&& 0xff).setWidth 8)
  b.put (p + 1) ((val &&& 0xff).setWidth 8)

def write16_le (val : u16) : Except RamStop RamBank := do
  check ndebug (misaligned align addr 1)
  check ndebug (decide (b.size ≤ (b.off addr + 1).toNat))
  let p := (b.off addr).toNat
  let b ← b.put (p + 1) (((val >>> 8) &&& 0xff).setWidth 8)
  b.put p ((val &&& 0xff).setWidth 8)

def write32_be (val : u32) : Except RamStop RamBank := do
  check ndebug (misaligned align addr 3)
  let p := (b.off addr).toNat
  let b ← b.put p (((val >>> 24) &&& 0xff).setWidth 8)
  let b ← b.put (p + 1) (((val >>> 16) &&& 0xff).setWidth 8)
  let b ← b.put (p + 2) (((val >>> 8) &&& 0xff).setWidth 8)
  b.put (p + 3) ((val &&& 0xff).setWidth 8)

def write32_le (val : u32) : Except RamStop RamBank := do
  check ndebug (misaligned align addr 3)
  let p := (b.off addr).toNat
  let b ← b.put (p + 3) (((val >>> 24) &&& 0xff).setWidth 8)
  let b ← b.put (p + 2) (((val >>> 16) &&& 0xff).setWidth 8)
  let b ← b.put (p + 1) (((val >>> 8) &&& 0xff).setWidth 8)
  b.put p ((val &&& 0xff).setWidth 8)

/-- The range check of `write16` and `write32`: the same four bytes in both. -/
def oobWrite : Bool := decide (b.size ≤ (b.off64 addr + 3).toNat)

def write16 (val : u16) : Except RamStop RamBank := do
  check ndebug (b.oobWrite addr)
  match b.bankEndian with
  | .Big => b.write16_be ndebug addr align val
  | .Little => b.write16_le ndebug addr align val

def write32 (val : u32) : Except RamStop RamBank := do
  check ndebug (b.oobWrite addr)
  match b.bankEndian with
  | .Big => b.write32_be ndebug addr align val
  | .Little => b.write32_le ndebug addr align val

/-- `IMemoryBank::write64`. -/
def write64 (val : u64) : Except RamStop RamBank := do
  check ndebug (misaligned align addr 7)
  let hi : u32 := (val >>> 32).setWidth 32
  let lo : u32 := (val &&& 0xffffffff).setWidth 32
  match b.bankEndian with
  | .Big => do
    let b ← b.write32 ndebug addr true hi
    b.write32 ndebug (addr + 4) true lo
  | .Little => do
    let b ← b.write32 ndebug addr true lo
    b.write32 ndebug (addr + 4) true hi

def write8_nolock (val : u8) : Except RamStop RamBank := b.put (b.off addr).toNat val

/-- `IMemoryBank::write16_nolock`. -/
def write16_nolock (val : u16) : Except RamStop RamBank := b.write16 ndebug addr align val

/-- The little-endian branch of `write32_nolock`: the bytes of `write32_le`, in the other order. -/
def write32_nolock_le (val : u32) : Except RamStop RamBank := do
  check ndebug (misaligned align addr 3)
  let p := (b.off addr).toNat
  let b ← b.put p ((val &&& 0xff).setWidth 8)
  let b ← b.put (p + 1) (((val >>> 8) &&& 0xff).setWidth 8)
  let b ← b.put (p + 2) (((val >>> 16) &&& 0xff).setWidth 8)
  b.put (p + 3) (((val >>> 24) &&& 0xff).setWidth 8)

/-- Without the range check of `write32`. -/
def write32_nolock (val : u32) : Except RamStop RamBank :=
  match b.bankEndian with
  | .Big => b.write32_be ndebug addr align val
  | .Little => b.write32_nolock_le ndebug addr align val

end

/-! ### The bank as a memory of bytes -/

def memory (b : RamBank) (a : Nat) : u8 :=
  if h : b.base.toNat ≤ a ∧ a < b.base.toNat + b.size then b.data[a - b.base.toNat] else 0

/-- What no call changes. -/
def shape (b : RamBank) : Endian × u32 × Nat := (b.bankEndian, b.base, b.size)

structure Fits (b : RamBank) (addr : u32) (n : Nat) : Prop where
  above : b.base.toNat ≤ addr.toNat
  below : addr.toNat + n ≤ b.base.toNat + b.size
  aligned : addr.toNat % n = 0

variable {b b' : RamBank} {addr : u32} {n : Nat}

instance : Decidable (b.Fits addr n) :=
  decidable_of_iff (b.base.toNat ≤ addr.toNat ∧ addr.toNat + n ≤ b.base.toNat + b.size ∧
    addr.toNat % n = 0) ⟨fun h => ⟨h.1, h.2.1, h.2.2⟩, fun h => ⟨h.1, h.2, h.3⟩⟩

lemma toNat_off (h : b.base.toNat ≤ addr.toNat) : (b.off addr).toNat = addr.toNat - b.base.toNat :=
  BitVec.toNat_sub_of_le (BitVec.le_def.mpr h)

lemma get_memory (h : b.Fits addr n) {k : Nat} (hk : k < n) :
    b.get ((b.off addr).toNat + k) = .ok (b.memory (addr.toNat + k)) := by
  have h1 := h.above
  have h2 := h.below
  unfold get memory
  rw [toNat_off h1, dif_pos (by omega), dif_pos (by omega)]
  congr 3
  omega

lemma put_memory (h : b.Fits addr n) {k : Nat} (hk : k < n) (v : u8) :
    ∃ b', b.put ((b.off addr).toNat + k) v = .ok b' ∧ b'.shape = b.shape ∧
      b'.memory = Function.update b.memory (addr.toNat + k) v := by
  have h1 := h.above
  have h2 := h.below
  unfold put
  rw [toNat_off h1, dif_pos (by omega)]
  refine ⟨_, rfl, rfl, ?_⟩
  funext a
  unfold memory Function.update
  dsimp only
  split_ifs with hin ha
  · rw [Vector.getElem_set, if_pos (by omega)]
    exact ha.symm ▸ rfl
  · rw [Vector.getElem_set, if_neg (by omega)]
  · omega
  · rfl

lemma Fits.of_shape (h : b.Fits addr n) (hs : b'.shape = b.shape) : b'.Fits addr n := by
  simp only [shape, Prod.mk.injEq] at hs
  obtain ⟨-, hb, hz⟩ := hs
  exact ⟨by rw [hb]; exact h.above, by rw [hb, hz]; exact h.below, h.aligned⟩

lemma off_of_shape (hs : b'.shape = b.shape) (addr : u32) : b'.off addr = b.off addr := by
  simp only [shape, Prod.mk.injEq] at hs
  unfold off
  rw [hs.2.1]

/-! ### Several bytes -/

/-- Bytes written one after the other, at the places `ks` behind the pointer. -/
def puts (b : RamBank) (p : Nat) (g : Nat → u8) (ks : List Nat) : Except RamStop RamBank :=
  ks.foldlM (fun b k => b.put (p + k) (g k)) b

/-- The bytes that a write of `n` bytes covers, in the byte order of the bank. -/
def piece (e : Endian) (addr : u32) (n : Nat) (v : u64) (a : Nat) : Option u8 :=
  if addr.toNat ≤ a ∧ a < addr.toNat + n then
    some (ByteOrder.byteOf (decide (e = .Big)) n v (a - addr.toNat))
  else none

lemma puts_memory (h : b.Fits addr n) (g : Nat → u8) {ks : List Nat} (hk : ∀ k ∈ ks, k < n) :
    ∃ b', b.puts (b.off addr).toNat g ks = .ok b' ∧ b'.shape = b.shape ∧
      ∀ a, b'.memory a = if ∃ k ∈ ks, a = addr.toNat + k then g (a - addr.toNat)
        else b.memory a := by
  induction ks generalizing b with
  | nil => exact ⟨b, rfl, rfl, fun a => by simp⟩
  | cons k ks ih =>
    obtain ⟨b₁, hb₁, hs₁, hm₁⟩ := put_memory h (hk k (by simp)) (g k)
    obtain ⟨b', hb', hs', hm'⟩ := ih (h.of_shape hs₁) fun j hj => hk j (by simp [hj])
    refine ⟨b', ?_, hs'.trans hs₁, fun a => ?_⟩
    · rw [off_of_shape hs₁] at hb'
      unfold puts at hb' ⊢
      rw [List.foldlM_cons, hb₁]
      exact hb'
    · rw [hm', hm₁]
      by_cases hin : ∃ j ∈ ks, a = addr.toNat + j
      · rw [if_pos hin, if_pos]
        obtain ⟨j, hj, ha⟩ := hin
        exact ⟨j, by simp [hj], ha⟩
      · rw [if_neg hin]
        by_cases ha : a = addr.toNat + k
        · subst ha
          rw [if_pos ⟨k, by simp, rfl⟩, Function.update_self, Nat.add_sub_cancel_left]
        · rw [Function.update_of_ne ha, if_neg]
          rintro ⟨j, hj, rfl⟩
          rcases List.mem_cons.mp hj with rfl | hj
          · exact ha rfl
          · exact hin ⟨j, hj, rfl⟩

/-! ### The checks -/

@[simp] lemma check_false (ndebug : Bool) : check ndebug false = .ok () := by
  simp [check]

lemma misaligned_low {j : Nat} (hj : j ≤ 32) (h : addr.toNat % 2 ^ j = 0) (align : Bool) :
    misaligned align addr (Bits.low 32 j) = false := by
  have h0 : addr &&& Bits.low 32 j = 0 := by
    apply BitVec.eq_of_toNat_eq
    rw [Bits.toNat_low hj, h]
    rfl
  simp [misaligned, h0]

lemma Fits.end_le {j : Nat} (hj : j ≤ 32) (h : b.Fits addr (2 ^ j)) : addr.toNat + 2 ^ j ≤ 2 ^ 32 := by
  have hd : 2 ^ j ∣ 2 ^ 32 := Nat.pow_dvd_pow 2 hj
  obtain ⟨q, hq⟩ := hd
  obtain ⟨r, hr⟩ := Nat.dvd_of_mod_eq_zero h.aligned
  have hlt : addr.toNat < 2 ^ 32 := addr.isLt
  rw [hq, hr] at hlt
  have hrq : r + 1 ≤ q := Nat.lt_of_mul_lt_mul_left hlt
  rw [hq, hr, ← Nat.mul_succ]
  exact Nat.mul_le_mul_left _ hrq

lemma bounds_check (h : b.Fits addr 2) : decide (b.size ≤ (b.off addr + 1).toNat) = false := by
  have h1 := h.above
  have h2 := h.below
  have h3 : addr.toNat + 2 ≤ 2 ^ 32 := Fits.end_le (j := 1) (by decide) h
  have h4 := toNat_off h1
  rw [decide_eq_false_iff_not, BitVec.toNat_add, h4]
  show ¬ b.size ≤ (addr.toNat - b.base.toNat + 1) % 2 ^ 32
  rw [Nat.mod_eq_of_lt (by omega)]
  omega

lemma toNat_off64 (h : b.base.toNat ≤ addr.toNat) :
    (b.off64 addr + 3).toNat = addr.toNat - b.base.toNat + 3 := by
  have h1 : addr.toNat < 2 ^ 32 := addr.isLt
  unfold off64
  rw [BitVec.toNat_add, BitVec.toNat_sub_of_le, BitVec.toNat_setWidth_of_le (by decide),
    BitVec.toNat_setWidth_of_le (by decide)]
  · show (addr.toNat - b.base.toNat + 3) % 2 ^ 64 = _
    rw [Nat.mod_eq_of_lt (by omega)]
  · rw [BitVec.le_def, BitVec.toNat_setWidth_of_le (by decide),
      BitVec.toNat_setWidth_of_le (by decide)]
    exact h

lemma oobWrite_eq (h : b.base.toNat ≤ addr.toNat) :
    b.oobWrite addr = decide (b.size ≤ addr.toNat - b.base.toNat + 3) := by
  unfold oobWrite
  rw [toNat_off64 h]

lemma oobWrite_word (h : b.Fits addr 4) : b.oobWrite addr = false := by
  have h1 := h.above
  have h2 := h.below
  rw [oobWrite_eq h1, decide_eq_false_iff_not]
  omega

/-! ### What the accessors do -/

section Accessors

variable (ndebug align : Bool)

lemma get_first (h : b.Fits addr n) (hn : 0 < n) :
    b.get (b.off addr).toNat = .ok (b.memory (addr.toNat + 0)) := get_memory h hn

lemma Fits.half_aligned (h : b.Fits addr 2) : misaligned align addr 1 = false :=
  misaligned_low (j := 1) (by decide) h.aligned align

lemma Fits.word_aligned (h : b.Fits addr 4) : misaligned align addr 3 = false :=
  misaligned_low (j := 2) (by decide) h.aligned align

lemma Fits.double_aligned (h : b.Fits addr 8) : misaligned align addr 7 = false :=
  misaligned_low (j := 3) (by decide) h.aligned align

lemma read16_memory (h : b.Fits addr 2) : b.read16 ndebug addr align = .ok
    (ByteOrder.compose 16 (decide (b.bankEndian = .Big)) 2 fun k => b.memory (addr.toNat + k)) := by
  unfold read16
  cases b.bankEndian <;> dsimp only [read16_be, read16_le] <;>
    rw [h.half_aligned, bounds_check h, check_false, get_first h (by decide),
      get_memory h (k := 1) (by decide)]
  all_goals exact congrArg Except.ok (by simp [ByteOrder.compose])

lemma read32_order (h : b.Fits addr 4) : (match b.bankEndian with
    | .Big => b.read32_be ndebug addr align
    | .Little => b.read32_le ndebug addr align) = .ok
    (ByteOrder.compose 32 (decide (b.bankEndian = .Big)) 4 fun k => b.memory (addr.toNat + k)) := by
  cases b.bankEndian <;> dsimp only [read32_be, read32_le] <;>
    rw [h.word_aligned, check_false, get_first h (by decide), get_memory h (k := 1) (by decide),
      get_memory h (k := 2) (by decide), get_memory h (k := 3) (by decide)] <;>
    refine congrArg Except.ok ?_
  · simp [ByteOrder.compose, BitVec.or_assoc]
  · simp [ByteOrder.compose, BitVec.shiftLeft_or_distrib, ← BitVec.shiftLeft_add]

lemma read32_memory (h : b.Fits addr 4) : b.read32 ndebug addr align = .ok
    (ByteOrder.compose 32 (decide (b.bankEndian = .Big)) 4 fun k => b.memory (addr.toNat + k)) :=
  read32_order ndebug align h

lemma Fits.halves (h : b.Fits addr 8) :
    b.Fits addr 4 ∧ b.Fits (addr + 4) 4 ∧ (addr + 4).toNat = addr.toNat + 4 := by
  obtain ⟨h1, h2, h3⟩ := h
  have h4 : addr.toNat + 8 ≤ 2 ^ 32 := Fits.end_le (j := 3) (by decide) ⟨h1, h2, h3⟩
  have h5 : (addr + 4).toNat = addr.toNat + 4 := by
    rw [BitVec.toNat_add]
    show (addr.toNat + 4) % 2 ^ 32 = _
    exact Nat.mod_eq_of_lt (by omega)
  refine ⟨⟨h1, by omega, by omega⟩, ⟨?_, ?_, ?_⟩, h5⟩ <;> rw [h5] <;> omega

lemma read64_memory (h : b.Fits addr 8) : b.read64 ndebug addr align = .ok
    (ByteOrder.compose 64 (decide (b.bankEndian = .Big)) 8 fun k => b.memory (addr.toNat + k)) := by
  obtain ⟨hlow, hhigh, h4⟩ := h.halves
  have hf : (fun k => b.memory ((addr + 4).toNat + k)) = fun k => b.memory (addr.toNat + (4 + k)) := by
    funext k
    rw [h4, Nat.add_assoc]
  have hw (big : Bool) (f : Nat → u8) : (ByteOrder.compose 32 big 4 f).setWidth 64 =
      ByteOrder.compose 64 big 4 f := ByteOrder.setWidth_compose (by decide) 64
  unfold read64
  rw [h.double_aligned, check_false, read32_memory ndebug true hlow, read32_memory ndebug true hhigh, hf]
  cases b.bankEndian with
  | Big =>
    refine congrArg Except.ok (Eq.trans ?_
      (ByteOrder.compose_big_add 4 4 fun k => b.memory (addr.toNat + k)).symm)
    rw [← hw, ← hw]
    rfl
  | Little =>
    refine congrArg Except.ok (Eq.trans ?_
      (ByteOrder.compose_little_add 4 4 fun k => b.memory (addr.toNat + k)).symm)
    rw [← hw, ← hw]
    rfl

/-- The bank after a write of `n` bytes. -/
def Written (b : RamBank) (addr : u32) (n : Nat) (v : u64) (r : Except RamStop RamBank) : Prop :=
  ∃ b', r = .ok b' ∧ b'.shape = b.shape ∧
    b'.memory = Overlay.cover b.memory (piece b.bankEndian addr n v)

lemma and_byte (x : u8) : x &&& 255#8 = x := BitVec.and_allOnes

lemma written_of_puts {w : Nat} {f : Except RamStop RamBank} (h : b.Fits addr n) (hn : 8 * n ≤ 64)
    (v : BitVec w) (ks : List Nat) (hk : ∀ k, k ∈ ks ↔ k < n)
    (hf : f = b.puts (b.off addr).toNat
      (ByteOrder.byteOf (decide (b.bankEndian = .Big)) n v) ks) :
    b.Written addr n (v.setWidth 64) f := by
  obtain ⟨b', hb', hs, hm⟩ := puts_memory h
    (ByteOrder.byteOf (decide (b.bankEndian = .Big)) n v) (fun k hkk => (hk k).mp hkk)
  refine ⟨b', hf.trans hb', hs, ?_⟩
  funext a
  rw [hm]
  unfold Overlay.cover piece
  by_cases ha : addr.toNat ≤ a ∧ a < addr.toNat + n
  · rw [if_pos ha, if_pos ⟨a - addr.toNat, (hk _).mpr (by omega), by omega⟩,
      ByteOrder.byteOf_setWidth hn (by omega)]
    rfl
  · rw [if_neg ha, if_neg]
    · rfl
    · rintro ⟨k, hkk, rfl⟩
      have := (hk k).mp hkk
      omega

lemma write8_written (h : b.Fits addr 1) (v : u8) :
    b.Written addr 1 (v.setWidth 64) (b.write8 addr v) := by
  refine written_of_puts h (by decide) v [0] (by simp) ?_
  unfold write8 puts
  simp [ByteOrder.byteOf, ByteOrder.rank]

lemma write16_written (h : b.Fits addr 2) (hc : check ndebug (b.oobWrite addr) = .ok ()) (v : u16) :
    b.Written addr 2 (v.setWidth 64) (b.write16 ndebug addr align v) := by
  unfold write16
  rw [hc]
  cases hE : b.bankEndian with
  | Big =>
    refine written_of_puts h (by decide) v [0, 1] (by simp; omega) ?_
    dsimp only
    unfold write16_be puts
    rw [h.half_aligned, bounds_check h, hE]
    simp [ByteOrder.byteOf, ByteOrder.rank, and_byte]
    rfl
  | Little =>
    refine written_of_puts h (by decide) v [1, 0] (by simp; omega) ?_
    dsimp only
    unfold write16_le puts
    rw [h.half_aligned, bounds_check h, hE]
    simp [ByteOrder.byteOf, ByteOrder.rank, and_byte]
    rfl

lemma write32_be_written (h : b.Fits addr 4) (hE : b.bankEndian = .Big) (v : u32) :
    b.Written addr 4 (v.setWidth 64) (b.write32_be ndebug addr align v) := by
  refine written_of_puts h (by decide) v [0, 1, 2, 3] (by simp; omega) ?_
  unfold write32_be puts
  rw [h.word_aligned, hE]
  simp [ByteOrder.byteOf, ByteOrder.rank, and_byte]
  rfl

lemma write32_written (h : b.Fits addr 4) (v : u32) :
    b.Written addr 4 (v.setWidth 64) (b.write32 ndebug addr align v) := by
  unfold write32
  rw [oobWrite_word h, check_false]
  cases hE : b.bankEndian with
  | Big => exact write32_be_written ndebug align h hE v
  | Little =>
    refine written_of_puts h (by decide) v [3, 2, 1, 0] (by simp; omega) ?_
    unfold puts
    rw [hE]
    show b.write32_le ndebug addr align v = _
    unfold write32_le
    rw [h.word_aligned]
    simp [ByteOrder.byteOf, ByteOrder.rank, and_byte]
    rfl

lemma write32_nolock_written (h : b.Fits addr 4) (v : u32) :
    b.Written addr 4 (v.setWidth 64) (b.write32_nolock ndebug addr align v) := by
  unfold write32_nolock
  cases hE : b.bankEndian with
  | Big => exact write32_be_written ndebug align h hE v
  | Little =>
    refine written_of_puts h (by decide) v [0, 1, 2, 3] (by simp; omega) ?_
    dsimp only
    unfold write32_nolock_le puts
    rw [h.word_aligned, hE]
    simp [ByteOrder.byteOf, ByteOrder.rank, and_byte]
    rfl

/-- Two words make up a double word. -/
lemma write32_pair (h : b.Fits addr 8) {v : u64} {v₀ v₁ : u32}
    (h₀ : ∀ k < 4, ByteOrder.byteOf (decide (b.bankEndian = .Big)) 4 v₀ k =
      ByteOrder.byteOf (decide (b.bankEndian = .Big)) 8 v k)
    (h₁ : ∀ k < 4, ByteOrder.byteOf (decide (b.bankEndian = .Big)) 4 v₁ k =
      ByteOrder.byteOf (decide (b.bankEndian = .Big)) 8 v (4 + k)) :
    b.Written addr 8 v (do
      let b ← b.write32 ndebug addr true v₀
      b.write32 ndebug (addr + 4) true v₁) := by
  obtain ⟨hlow, hhigh, h4⟩ := h.halves
  obtain ⟨b₁, hb₁, hs₁, hm₁⟩ := write32_written ndebug true hlow v₀
  obtain ⟨b₂, hb₂, hs₂, hm₂⟩ := write32_written ndebug true (hhigh.of_shape hs₁) v₁
  have hE : b₁.bankEndian = b.bankEndian := congrArg Prod.fst hs₁
  refine ⟨b₂, by rw [hb₁]; exact hb₂, hs₂.trans hs₁, ?_⟩
  funext a
  rw [hm₂, hm₁, hE]
  unfold Overlay.cover piece
  rw [h4]
  by_cases hlo : addr.toNat ≤ a ∧ a < addr.toNat + 4
  · rw [if_neg (by omega), if_pos hlo, if_pos (by omega),
      ByteOrder.byteOf_setWidth (by decide) (by omega), h₀ _ (by omega)]
    rfl
  · by_cases hhi : addr.toNat + 4 ≤ a ∧ a < addr.toNat + 4 + 4
    · have hk : 4 + (a - (addr.toNat + 4)) = a - addr.toNat := by omega
      rw [if_pos hhi, if_neg hlo, if_pos (by omega),
        ByteOrder.byteOf_setWidth (by decide) (by omega), h₁ _ (by omega), hk]
      rfl
    · rw [if_neg hhi, if_neg hlo, if_neg (by omega)]
      rfl

lemma write64_written (h : b.Fits addr 8) (v : u64) :
    b.Written addr 8 v (b.write64 ndebug addr align v) := by
  have hmask : (v &&& 0xffffffff).setWidth 32 = v.setWidth 32 := by
    rw [BitVec.setWidth_and]
    exact BitVec.and_allOnes
  unfold write64
  rw [h.double_aligned, check_false]
  dsimp only
  rw [hmask]
  cases hE : b.bankEndian with
  | Big =>
    refine write32_pair ndebug h (fun k hk => ?_) fun k hk => ?_ <;>
      rw [hE, ByteOrder.byteOf_setWidth (by decide) hk]
    · exact (ByteOrder.byteOf_big_high hk 4 v).symm
    · exact (ByteOrder.byteOf_big_low 4 k 4 v).symm
  | Little =>
    refine write32_pair ndebug h (fun k hk => ?_) fun k hk => ?_ <;>
      rw [hE, ByteOrder.byteOf_setWidth (by decide) hk]
    · exact (ByteOrder.byteOf_little_low 4 k 4 v).symm
    · exact (ByteOrder.byteOf_little_high 4 k 4 v).symm

end Accessors

/-! ### The bank of the memory controller -/

section Controller

variable {h : HostBytes} {i : Nat} {size : AccessSize}

/-- The bank as it is attached to the memory controller. -/
def toBank (b : RamBank) : IMemoryBank := ⟨.RamBank, b.base, b.size, b.bankEndian⟩

/-- The host bytes of bank `i` are those of `b`. -/
def Held (h : HostBytes) (i : Nat) (b : RamBank) : Prop :=
  ∀ a, b.base.toNat ≤ a → a < b.base.toNat + b.size →
    h i (a - b.base.toNat : Nat) = b.memory a

lemma offset_toBank (h : b.base.toNat ≤ addr.toNat) :
    b.toBank.offset addr = (addr.toNat - b.base.toNat : Nat) := by
  unfold IMemoryBank.offset
  rw [show (addr - b.toBank.base).toNat = _ from toNat_off h]

lemma byteShift_eq (e : Endian) (size : AccessSize) {k : Nat} (hk : k < size.bytes) :
    byteShift e size k = 8 * ByteOrder.rank (decide (e = .Big)) size.bytes k := by
  cases size <;> cases e <;> simp [byteShift, ByteOrder.rank, AccessSize.bytes] at hk ⊢
  exact hk

lemma bankByte_held (hh : b.Held h i) (hf : b.Fits addr size.bytes) {k : Nat} (hk : k < size.bytes) :
    bankByte h b.toBank i size addr k = (b.memory (addr.toNat + k)).setWidth 32 <<<
      (8 * ByteOrder.rank (decide (b.bankEndian = .Big)) size.bytes k) := by
  have h1 := hf.above
  have h2 := hf.below
  have hb : h i (b.toBank.offset addr + k) = b.memory (addr.toNat + k) := by
    rw [← hh (addr.toNat + k) (by omega) (by omega), offset_toBank h1]
    congr 1
    omega
  unfold bankByte byteAt bytePtr
  dsimp only [toBank]
  rw [Int.add_zero, byteShift_eq _ _ hk]
  exact congrArg (fun x : u8 => x.setWidth 32 <<< _) hb

/-- **Reads of the memory controller** are those of the class. -/
theorem memRead_held (hh : b.Held h i) (hf : b.Fits addr size.bytes) :
    memRead h b.toBank i addr size = ByteOrder.compose 32 (decide (b.bankEndian = .Big)) size.bytes
      fun k => b.memory (addr.toNat + k) := by
  have hk := fun k => bankByte_held (k := k) hh hf
  cases hE : decide (b.bankEndian = .Big) <;> rw [hE] at hk <;> cases size with
  | b1 =>
    rw [memRead, hk 0 (by decide)]
    simp [AccessSize.bytes, ByteOrder.compose, ByteOrder.rank]
  | b2 =>
    rw [memRead, hk 0 (by decide), hk 1 (by decide)]
    simp [AccessSize.bytes, ByteOrder.compose, ByteOrder.rank, BitVec.or_comm]
  | b4 =>
    rw [memRead, hk 0 (by decide), hk 1 (by decide), hk 2 (by decide), hk 3 (by decide)]
    simp [AccessSize.bytes, ByteOrder.compose, ByteOrder.rank, BitVec.or_comm,
      BitVec.shiftLeft_or_distrib, ← BitVec.shiftLeft_add]

lemma putBankByte_apply {s : AccessSize} (hb : b.base.toNat ≤ addr.toNat) (v : u32) {k : Nat}
    (hk : k < s.bytes) (g : HostBytes) (a : Nat) (ha : b.base.toNat ≤ a) :
    putBankByte g b.toBank i s addr v k i (a - b.base.toNat : Nat) =
      if a = addr.toNat + k then
        ByteOrder.byteOf (decide (b.bankEndian = .Big)) s.bytes v (a - addr.toNat)
      else g i (a - b.base.toNat : Nat) := by
  have hptr : bytePtr b.toBank i addr k = ⟨i, (addr.toNat - b.base.toNat : Nat) + k⟩ := by
    rw [← offset_toBank hb]
    rfl
  unfold putBankByte
  rw [hptr]
  unfold putByte setByte
  dsimp only
  by_cases h : a = addr.toNat + k
  · subst h
    rw [if_pos rfl, if_pos ⟨rfl, by omega⟩, Nat.add_sub_cancel_left]
    exact congrArg (fun n => (v >>> n).setWidth 8) (byteShift_eq _ _ hk)
  · rw [if_neg h, if_neg (by omega)]

/-- **Writes of the memory controller** are those of the class. -/
theorem memWrite_held {v : u32} (hh : b.Held h i) (hf : b.Fits addr size.bytes)
    (hw : b.Written addr size.bytes (v.setWidth 64) (.ok b')) :
    b'.Held (memWrite h b.toBank i addr v size) i := by
  obtain ⟨_, hr, hs, hm⟩ := hw
  cases hr
  simp only [shape, Prod.mk.injEq] at hs
  obtain ⟨-, hbase, hsize⟩ := hs
  intro a h1 h2
  rw [hbase] at h1 h2 ⊢
  rw [hsize] at h2
  have hp := fun k hk g => putBankByte_apply (i := i) (s := size) hf.above v (k := k) hk g a h1
  -- On both sides the byte is one of the value, or the old one.
  have hcover : b'.memory a = if addr.toNat ≤ a ∧ a < addr.toNat + size.bytes then
      ByteOrder.byteOf (decide (b.bankEndian = .Big)) size.bytes v (a - addr.toNat)
      else h i (a - b.base.toNat : Nat) := by
    rw [hm, hh a h1 h2]
    unfold Overlay.cover piece
    split_ifs with ha
    · have hn : 8 * size.bytes ≤ 64 := by cases size <;> decide
      exact ByteOrder.byteOf_setWidth hn (by omega) _ _
    · rfl
  rw [hcover]
  cases size with
  | b1 =>
    rw [memWrite, hp 0 (by decide)]
    exact if_congr (by simp only [AccessSize.bytes]; omega) rfl rfl
  | b2 =>
    rw [memWrite, hp 1 (by decide), hp 0 (by decide), ← ite_or]
    exact if_congr (by simp only [AccessSize.bytes]; omega) rfl rfl
  | b4 =>
    rw [memWrite, hp 3 (by decide), hp 2 (by decide), hp 1 (by decide), hp 0 (by decide), ← ite_or,
      ← ite_or, ← ite_or]
    exact if_congr (by simp only [AccessSize.bytes]; omega) rfl rfl

end Controller

end RamBank

/-! ### Sequences of calls -/

inductive RamCall
  | read8 (addr : u32)
  | read16 (addr : u32) (align : Bool)
  | read32 (addr : u32) (align : Bool)
  | read64 (addr : u32) (align : Bool)
  | read8_nolock (addr : u32)
  | read16_nolock (addr : u32) (align : Bool)
  | read32_nolock (addr : u32) (align : Bool)
  | write8 (addr : u32) (val : u8)
  | write16 (addr : u32) (val : u16) (align : Bool)
  | write32 (addr : u32) (val : u32) (align : Bool)
  | write64 (addr : u32) (val : u64) (align : Bool)
  | write8_nolock (addr : u32) (val : u8)
  | write16_nolock (addr : u32) (val : u16) (align : Bool)
  | write32_nolock (addr : u32) (val : u32) (align : Bool)
  deriving DecidableEq, Repr

namespace RamCall

def addr : RamCall → u32
  | read8 a | read16 a _ | read32 a _ | read64 a _ | read8_nolock a | read16_nolock a _
  | read32_nolock a _ | write8 a _ | write16 a _ _ | write32 a _ _ | write64 a _ _
  | write8_nolock a _ | write16_nolock a _ _ | write32_nolock a _ _ => a

def width : RamCall → Nat
  | read8 _ | read8_nolock _ | write8 _ _ | write8_nolock _ _ => 1
  | read16 _ _ | read16_nolock _ _ | write16 _ _ _ | write16_nolock _ _ _ => 2
  | read32 _ _ | read32_nolock _ _ | write32 _ _ _ | write32_nolock _ _ _ => 4
  | read64 _ _ | write64 _ _ _ => 8

def value : RamCall → Option u64
  | write8 _ v | write8_nolock _ v => some (v.setWidth 64)
  | write16 _ v _ | write16_nolock _ v _ => some (v.setWidth 64)
  | write32 _ v _ | write32_nolock _ v _ => some (v.setWidth 64)
  | write64 _ v _ => some v
  | _ => none

/-- The call: what a read returns, and the bank it leaves. -/
def run (ndebug : Bool) (b : RamBank) : RamCall → Except RamStop (Option u64 × RamBank)
  | read8 a => (b.read8 a).map fun v => (some (v.setWidth 64), b)
  | read16 a align => (b.read16 ndebug a align).map fun v => (some (v.setWidth 64), b)
  | read32 a align => (b.read32 ndebug a align).map fun v => (some (v.setWidth 64), b)
  | read64 a align => (b.read64 ndebug a align).map fun v => (some v, b)
  | read8_nolock a => (b.read8_nolock a).map fun v => (some (v.setWidth 64), b)
  | read16_nolock a align => (b.read16_nolock ndebug a align).map fun v => (some (v.setWidth 64), b)
  | read32_nolock a align => (b.read32_nolock ndebug a align).map fun v => (some (v.setWidth 64), b)
  | write8 a v => (b.write8 a v).map fun b => (none, b)
  | write16 a v align => (b.write16 ndebug a align v).map fun b => (none, b)
  | write32 a v align => (b.write32 ndebug a align v).map fun b => (none, b)
  | write64 a v align => (b.write64 ndebug a align v).map fun b => (none, b)
  | write8_nolock a v => (b.write8_nolock a v).map fun b => (none, b)
  | write16_nolock a v align => (b.write16_nolock ndebug a align v).map fun b => (none, b)
  | write32_nolock a v align => (b.write32_nolock ndebug a align v).map fun b => (none, b)

def runAll (ndebug : Bool) : List RamCall → RamBank →
    Except RamStop (List (Option u64) × RamBank)
  | [], b => .ok ([], b)
  | c :: cs, b => do
    let (r, b) ← c.run ndebug b
    let (rs, b) ← runAll ndebug cs b
    pure (r :: rs, b)

def piece (e : Endian) (c : RamCall) : Nat → Option u8 :=
  match c.value with
  | some v => RamBank.piece e c.addr c.width v
  | none => fun _ => none

/-- What a read of the memory `m` has to return. -/
def result (e : Endian) (m : Nat → u8) (c : RamCall) : Option u64 :=
  match c.value with
  | some _ => none
  | none => some (ByteOrder.compose 64 (decide (e = .Big)) c.width fun k => m (c.addr.toNat + k))

/-- The four bytes that `write16` checks for do not lie in the bank. -/
def Trips (b : RamBank) : RamCall → Prop
  | write16 a _ _ | write16_nolock a _ _ => b.size ≤ a.toNat - b.base.toNat + 3
  | _ => False

section Step

variable {ndebug : Bool} {b : RamBank} {c : RamCall}

/-- What a call is specified to do: the memory is covered by its bytes, a read returns those that
are there. -/
def Meets (b : RamBank) (c : RamCall) (r : Except RamStop (Option u64 × RamBank)) : Prop :=
  ∃ b', r = .ok (c.result b.bankEndian b.memory, b') ∧ b'.shape = b.shape ∧
    b'.memory = Overlay.cover b.memory (c.piece b.bankEndian)

lemma read_meets {w : Nat} {r : Except RamStop (BitVec w)} (hv : c.value = none)
    (hw : 8 * c.width ≤ w) (hr : r = .ok (ByteOrder.compose w (decide (b.bankEndian = .Big)) c.width
      fun k => b.memory (c.addr.toNat + k))) :
    c.Meets b (r.map fun v => (some (v.setWidth 64), b)) := by
  refine ⟨b, ?_, rfl, ?_⟩
  · rw [hr, Except.map, ByteOrder.setWidth_compose hw, result, hv]
  · rw [piece, hv]
    rfl

lemma write_meets {r : Except RamStop RamBank} {v : u64} (hv : c.value = some v)
    (h : b.Written c.addr c.width v r) : c.Meets b (r.map fun b => (none, b)) := by
  obtain ⟨b', hr, hs, hm⟩ := h
  refine ⟨b', ?_, hs, ?_⟩
  · rw [hr, result, hv]
    rfl
  · rw [piece, hv, hm]

lemma read8_memory {addr : u32} (h : b.Fits addr 1) : b.read8 addr = .ok
    (ByteOrder.compose 8 (decide (b.bankEndian = .Big)) 1 fun k => b.memory (addr.toNat + k)) := by
  unfold RamBank.read8
  rw [RamBank.get_first h (by decide)]
  refine congrArg Except.ok ?_
  cases b.bankEndian <;> simp [ByteOrder.compose]

lemma check_oobWrite {addr : u32} (h : b.Fits addr 2)
    (hc : ndebug = true ∨ ¬ b.size ≤ addr.toNat - b.base.toNat + 3) :
    RamBank.check ndebug (b.oobWrite addr) = .ok () := by
  rw [RamBank.oobWrite_eq h.above]
  unfold RamBank.check
  rcases hc with hc | hc <;> simp [hc]

theorem run_meets (hf : b.Fits c.addr c.width) (hc : ndebug = true ∨ ¬ c.Trips b) :
    c.Meets b (c.run ndebug b) := by
  cases c with
  | read8 a => exact read_meets rfl (Nat.le_refl _) (read8_memory hf)
  | read16 a align => exact read_meets rfl (Nat.le_refl _) (RamBank.read16_memory ndebug align hf)
  | read32 a align => exact read_meets rfl (Nat.le_refl _) (RamBank.read32_memory ndebug align hf)
  | read64 a align =>
    have h := read_meets (c := .read64 a align) (w := 64) rfl (Nat.le_refl _)
      (RamBank.read64_memory ndebug align hf)
    simp only [BitVec.setWidth_eq] at h
    exact h
  | read8_nolock a => exact read_meets rfl (Nat.le_refl _) (read8_memory hf)
  | read16_nolock a align =>
    exact read_meets rfl (Nat.le_refl _) (RamBank.read16_memory ndebug align hf)
  | read32_nolock a align =>
    exact read_meets rfl (Nat.le_refl _) (RamBank.read32_order ndebug align hf)
  | write8 a v => exact write_meets rfl (RamBank.write8_written hf v)
  | write16 a v align =>
    exact write_meets rfl (RamBank.write16_written ndebug align hf (check_oobWrite hf hc) v)
  | write32 a v align => exact write_meets rfl (RamBank.write32_written ndebug align hf v)
  | write64 a v align => exact write_meets rfl (RamBank.write64_written ndebug align hf v)
  | write8_nolock a v => exact write_meets rfl (RamBank.write8_written hf v)
  | write16_nolock a v align =>
    exact write_meets rfl (RamBank.write16_written ndebug align hf (check_oobWrite hf hc) v)
  | write32_nolock a v align =>
    exact write_meets rfl (RamBank.write32_nolock_written ndebug align hf v)

lemma run_trips (hf : b.Fits c.addr c.width) (hc : c.Trips b) : c.run false b = .error .abort := by
  have habort : ∀ {a : u32} (v : u16) (align : Bool), b.base.toNat ≤ a.toNat →
      b.size ≤ a.toNat - b.base.toNat + 3 → b.write16 false a align v = .error .abort := by
    intro a v align h1 h2
    unfold RamBank.write16
    rw [RamBank.oobWrite_eq h1, decide_eq_true h2]
    rfl
  cases c with
  | write16 a v align | write16_nolock a v align =>
    exact congrArg (Except.map _) (habort v align hf.above hc)
  | _ => exact hc.elim

end Step

/-- The law of a memory of bytes, for a sequence of calls: all return, a read returns the value of
the bytes that were written last before it, and in the end the bytes are those written last. -/
def Law (ndebug : Bool) (b : RamBank) (cs : List RamCall) : Prop :=
  ∃ rs b', runAll ndebug cs b = .ok (rs, b') ∧ b'.shape = b.shape ∧ rs.length = cs.length ∧
    (∀ (i : Nat) (c : RamCall), cs[i]? = some c → rs[i]? = some (c.result b.bankEndian
      (Overlay.paint b.memory ((cs.take i).map (piece b.bankEndian))))) ∧
    b'.memory = Overlay.paint b.memory (cs.map (piece b.bankEndian))

section Run

variable {ndebug : Bool} {b b' : RamBank}

lemma Trips.of_shape (hs : b'.shape = b.shape) (c : RamCall) : c.Trips b' ↔ c.Trips b := by
  simp only [RamBank.shape, Prod.mk.injEq] at hs
  unfold Trips
  rw [hs.2.1, hs.2.2]

lemma law_of_not_trips {cs : List RamCall} (hf : ∀ c ∈ cs, b.Fits c.addr c.width)
    (hc : ndebug = true ∨ ∀ c ∈ cs, ¬ c.Trips b) : Law ndebug b cs := by
  induction cs generalizing b with
  | nil => exact ⟨[], b, rfl, rfl, rfl, by simp, rfl⟩
  | cons c cs ih =>
    obtain ⟨b₁, hr, hs, hm⟩ := run_meets (hf c (by simp)) (hc.imp id fun h => h c (by simp))
    have hE : b₁.bankEndian = b.bankEndian := congrArg Prod.fst hs
    obtain ⟨rs, b', hrs, hs', hlen, hres, hmem⟩ := ih (b := b₁)
      (fun d hd => (hf d (by simp [hd])).of_shape hs)
      (hc.imp id fun h d hd => (Trips.of_shape hs d).not.mpr (h d (by simp [hd])))
    rw [hE, hm] at hmem hres
    refine ⟨c.result b.bankEndian b.memory :: rs, b', ?_, hs'.trans hs, by simp [hlen], ?_, hmem⟩
    · unfold runAll
      rw [hr]
      show (runAll ndebug cs b₁ >>= _) = _
      rw [hrs]
      rfl
    · intro i d hd
      cases i with
      | zero =>
        cases hd
        rfl
      | succ i => exact hres i d hd

lemma runAll_trips {cs : List RamCall} (hf : ∀ c ∈ cs, b.Fits c.addr c.width)
    (hc : ∃ c ∈ cs, c.Trips b) : runAll false cs b = .error .abort := by
  induction cs generalizing b with
  | nil =>
    obtain ⟨c, hc, -⟩ := hc
    cases hc
  | cons c cs ih =>
    unfold runAll
    by_cases ht : c.Trips b
    · rw [run_trips (hf c (by simp)) ht]
      rfl
    · have hmeets : c.Meets b (c.run false b) := run_meets (hf c (by simp)) (.inr ht)
      obtain ⟨b₁, hr, hs, -⟩ := hmeets
      have hrest : ∃ d ∈ cs, d.Trips b₁ := by
        obtain ⟨d, hd, hdt⟩ := hc
        rcases List.mem_cons.mp hd with rfl | hd
        · exact absurd hdt ht
        · exact ⟨d, hd, (Trips.of_shape hs d).mpr hdt⟩
      rw [hr]
      show (runAll false cs b₁ >>= _) = _
      rw [ih (fun d hd => (hf d (by simp [hd])).of_shape hs) hrest]
      rfl

/-- **Read over write**: for aligned calls inside the bank the law holds in a release build, and in
a debug build exactly where no 16-bit write lies within the last four bytes. -/
theorem read_over_write_iff (ndebug : Bool) (b : RamBank) (cs : List RamCall)
    (hf : ∀ c ∈ cs, b.Fits c.addr c.width) :
    Law ndebug b cs ↔ ndebug = true ∨ ∀ c ∈ cs, ¬ c.Trips b := by
  constructor
  · rintro ⟨rs, b', hr, -⟩
    cases hn : ndebug with
    | true => exact .inl rfl
    | false =>
      refine .inr fun c hc ht => ?_
      rw [hn, runAll_trips hf ⟨c, hc, ht⟩] at hr
      cases hr
  · exact law_of_not_trips hf

end Run

/-- Mixed widths in a little-endian bank of a debug build. -/
theorem read_over_write_iff_mixed :
    Law false (.new 0x100 8 .Little) [.write64 0x100 0x1122334455667788 true, .write8 0x101 0xff,
      .read16_nolock 0x100 true, .read32 0x104 true] ↔
    (false = true ∨ ∀ c ∈ [RamCall.write64 0x100 0x1122334455667788 true, .write8 0x101 0xff,
      .read16_nolock 0x100 true, .read32 0x104 true], ¬ c.Trips (.new 0x100 8 .Little)) :=
  read_over_write_iff false _ _ (by decide)

/-- A 16-bit write to the last two bytes of a bank of four, in a debug build. -/
theorem write16_at_end_aborts :
    (RamBank.new 0 4 .Big).Fits 2 2 ∧
      runAll false [.write16 2 0xbeef true] (.new 0 4 .Big) = .error .abort ∧
      ¬ Law false (.new 0 4 .Big) [.write16 2 0xbeef true] := by
  have habort : runAll false [.write16 2 0xbeef true] (.new 0 4 .Big) = .error .abort := rfl
  refine ⟨by decide, habort, ?_⟩
  rintro ⟨rs, b', hr, -⟩
  rw [habort] at hr
  cases hr

end RamCall

end SparcEmu
