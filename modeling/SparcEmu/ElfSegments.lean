import SparcEmu.ElfHeaders
import SparcEmu.Access
import SparcEmu.Lib.Overlay

/-!
What the loops of the ELF loader do to memory: the bytes of a segment are laid over a RAM bank word by
word, by their position in the file, and zeros behind them.
-/

namespace SparcEmu

open Lib.Effect Lib.Overlay

variable {δ : Type} {mc : MCtrl δ}

/-! ### Bytes laid over memory -/

/-- The bytes `xs` at `p`, as a piece of memory. -/
def piece (p : HostPtr) (xs : List u8) : Nat × Int → Option u8 := fun q =>
  if q.1 = p.bank then strip p.off xs q.2 else none

lemma piece_outside {p : HostPtr} {xs : List u8} {i : Nat} {o : Int} (h : Outside p xs.length i o) :
    piece p xs (i, o) = none := by
  unfold piece
  split_ifs with hi
  · exact strip_outside (h.resolve_left (not_not_intro hi))
  · rfl

lemma piece_inside (p : HostPtr) (xs : List u8) (t : Nat) :
    piece p xs (p.bank, p.off + t) = xs[t]? := by
  unfold piece
  rw [if_pos rfl, strip_inside]

lemma piece_some {p : HostPtr} {xs : List u8} {q : Nat × Int} {v : u8} (h : piece p xs q = some v) :
    ∃ t < xs.length, q = (p.bank, p.off + t) ∧ xs[t]? = some v := by
  obtain ⟨i, o⟩ := q
  by_cases hi : i = p.bank
  swap
  · rw [piece_outside (Or.inl hi)] at h
    cases h
  subst hi
  rcases inside_or_outside p.off o xs.length with hout | ⟨t, ht, rfl⟩
  · rw [piece_outside (Or.inr hout)] at h
    cases h
  · rw [piece_inside] at h
    exact ⟨t, ht, rfl, h⟩

def lay (h : HostBytes) (p : HostPtr) (xs : List u8) : HostBytes := fun i o =>
  cover (Function.uncurry h) (piece p xs) (i, o)

lemma lay_outside {h : HostBytes} {p : HostPtr} {xs : List u8} {i : Nat} {o : Int}
    (ho : Outside p xs.length i o) : lay h p xs i o = h i o := cover_none (piece_outside ho)

@[simp] lemma lay_nil (h : HostBytes) (p : HostPtr) : lay h p [] = h := by
  funext i o
  exact lay_outside (by unfold Outside; simp; omega)

lemma lay_append (h : HostBytes) (p : HostPtr) (xs ys : List u8) :
    lay (lay h p xs) ⟨p.bank, p.off + xs.length⟩ ys = lay h p (xs ++ ys) := by
  funext i o
  have hor : (piece ⟨p.bank, p.off + xs.length⟩ ys (i, o)).or (piece p xs (i, o)) =
      piece p (xs ++ ys) (i, o) := by
    unfold piece
    by_cases hi : i = p.bank
    · simp only [hi, if_true]
      exact strip_append p.off o xs ys
    · simp only [hi, if_false, Option.or_none]
  unfold lay cover
  rw [← hor]
  cases piece ⟨p.bank, p.off + xs.length⟩ ys (i, o) with
  | none => rfl
  | some b => rfl

/-- The bytes of a word in the order of a bank. -/
def ordered : Endian → u32 → List u8
  | .Big, w => wordBytes w
  | .Little, w => (wordBytes w).reverse

@[simp] lemma ordered_length (e : Endian) (w : u32) : (ordered e w).length = 4 := by
  cases e <;> rfl

lemma putBytes_lay (h : HostBytes) (p : HostPtr) (v₀ v₁ v₂ v₃ : u32) :
    putByte (putByte (putByte (putByte h p 0 v₀) p 1 v₁) p 2 v₂) p 3 v₃ =
      lay h p [v₀.setWidth 8, v₁.setWidth 8, v₂.setWidth 8, v₃.setWidth 8] := by
  funext i o
  by_cases ho : Outside p AccessSize.b4.bytes i o
  · have hne : ∀ k : Int, 0 ≤ k → k < 4 → ¬ (i = p.bank ∧ o = p.off + k) := by
      rintro k h0 h4 ⟨rfl, rfl⟩
      rcases ho with ho | ho | ho
      · exact ho rfl
      · omega
      · have : (AccessSize.b4.bytes : Int) = 4 := rfl
        omega
    rw [putByte_other _ _ _ (hne 3 (by decide) (by decide)),
      putByte_other _ _ _ (hne 2 (by decide) (by decide)),
      putByte_other _ _ _ (hne 1 (by decide) (by decide)),
      putByte_other _ _ _ (hne 0 (by decide) (by decide))]
    exact (lay_outside ho).symm
  · obtain ⟨k, hk, rfl, rfl⟩ := inside_of_not_outside ho
    refine Eq.trans ?_ (cover_some ((piece_inside p _ k).trans (List.getElem?_eq_getElem hk))).symm
    unfold putByte setByte
    interval_cases k <;> simp

lemma memWrite_lay {b : IMemoryBank} (hk : b.kind = .RamBank) (h : HostBytes) (i : Nat) (a v : u32) :
    memWrite h b i a v .b4 = lay h ⟨i, b.offset a⟩ (ordered b.bankEndian v) := by
  have hptr : ∀ k : Nat, bytePtr b i a k = ⟨i, b.offset a + k⟩ := by
    intro k
    unfold bytePtr
    rw [hk]
  have hput : ∀ (g : HostBytes) (k : Nat) (w : u32),
      putByte g ⟨i, b.offset a + k⟩ 0 w = putByte g ⟨i, b.offset a⟩ k w := by
    intro g k w
    unfold putByte
    rw [Int.add_zero]
  unfold memWrite putBankByte
  simp only [hptr, hput]
  rw [show ((0 : Nat) : Int) = 0 from rfl, show ((1 : Nat) : Int) = 1 from rfl,
    show ((2 : Nat) : Int) = 2 from rfl, show ((3 : Nat) : Int) = 3 from rfl, putBytes_lay]
  cases b.bankEndian <;> simp [byteShift, ordered, wordBytes]

/-! ### Words from bytes -/

/-- The word whose first bytes are `cs`, the others zero. -/
def pack (cs : List u8) : u32 :=
  ((cs.getD 0 0).setWidth 32 <<< 24) ||| ((cs.getD 1 0).setWidth 32 <<< 16) |||
    ((cs.getD 2 0).setWidth 32 <<< 8) ||| (cs.getD 3 0).setWidth 32

lemma pack_zeros (n : Nat) (h : n < 4) : pack (List.replicate n 0) = 0 := by
  interval_cases n <;> rfl

variable {cs : List u8}

lemma pack_append (h : cs.length < 4) (c : u8) :
    pack (cs ++ [c]) = pack cs ||| (c.setWidth 32 <<< (8 * (3 - cs.length))) := by
  match cs, h with
  | [], _ | [a], _ | [a, b], _ | [a, b, d], _ => simp [pack]

lemma wordBytes_pack (h : cs.length = 4) : wordBytes (pack cs) = cs := by
  match cs, h with
  | [a, b, c, d], _ =>
    have hr : pack [a, b, c, d] = ptrRead (fun _ o => [a, b, c, d].getD o.toNat 0) ⟨0, 0⟩ .b4 := rfl
    have hb := fun k (hk : k < 4) => ptrRead_byte (fun _ o => [a, b, c, d].getD o.toNat 0) ⟨0, 0⟩ hk
    rw [← hr] at hb
    simpa [wordBytes] using ⟨hb 0 (by decide), hb 1 (by decide), hb 2 (by decide), hb 3 (by decide)⟩

/-- The words that a list of bytes fills. -/
def wordsOf : List u8 → List u32
  | a :: b :: c :: d :: cs => pack [a, b, c, d] :: wordsOf cs
  | _ => []

lemma wordsOf_short (h : cs.length < 4) : wordsOf cs = [] := by
  match cs, h with
  | [], _ | [a], _ | [a, b], _ | [a, b, c], _ => rfl

lemma wordsOf_append (h : cs.length = 4) (ds : List u8) :
    wordsOf (cs ++ ds) = pack cs :: wordsOf ds := by
  match cs, h with
  | [a, b, c, d], _ => rfl

lemma short_of_not_four (h : ∀ a b c d ds, cs = a :: b :: c :: d :: ds → False) : cs.length < 4 := by
  match cs, h with
  | [], _ | [a], _ | [a, b], _ | [a, b, c], _ => simp
  | a :: b :: c :: d :: cs, h => exact absurd rfl (h a b c d cs)

lemma wordsOf_length (cs : List u8) : (wordsOf cs).length = cs.length / 4 := by
  induction cs using wordsOf.induct with
  | case1 a b c d cs ih =>
    rw [wordsOf, List.length_cons, ih]
    simp only [List.length_cons]
    omega
  | case2 cs h =>
    have hlt := short_of_not_four h
    rw [wordsOf_short hlt, List.length_nil]
    omega

/-- In a big-endian bank, words are the bytes they come from, without those that fill no word. -/
lemma wordsOf_bytes (cs : List u8) :
    (wordsOf cs).flatMap (ordered .Big) = cs.take (4 * (cs.length / 4)) := by
  induction cs using wordsOf.induct with
  | case1 a b c d cs ih =>
    have hlen : 4 * ((a :: b :: c :: d :: cs).length / 4) = 4 * (cs.length / 4) + 1 + 1 + 1 + 1 := by
      simp only [List.length_cons]
      omega
    rw [wordsOf, List.flatMap_cons, ih, hlen]
    show wordBytes _ ++ _ = _
    rw [wordBytes_pack rfl]
    rfl
  | case2 cs h =>
    have hlt := short_of_not_four h
    rw [wordsOf_short hlt, Nat.div_eq_of_lt hlt]
    rfl

def bytesOf (e : Endian) (ws : List u32) : List u8 := ws.flatMap (ordered e)

@[simp] lemma bytesOf_nil (e : Endian) : bytesOf e [] = [] := rfl

@[simp] lemma bytesOf_cons (e : Endian) (w : u32) (ws : List u32) :
    bytesOf e (w :: ws) = ordered e w ++ bytesOf e ws := rfl

lemma bytesOf_append (e : Endian) (ws ws' : List u32) :
    bytesOf e (ws ++ ws') = bytesOf e ws ++ bytesOf e ws' := List.flatMap_append

lemma bytesOf_length (e : Endian) (ws : List u32) : (bytesOf e ws).length = 4 * ws.length := by
  induction ws with
  | nil => rfl
  | cons w ws ih =>
    rw [bytesOf_cons, List.length_append, ih, ordered_length, List.length_cons]
    omega

/-! ### Writes into a RAM bank -/

structure RamRange (mc : MCtrl δ) (pa : u32) (len : Nat) (i : Nat) (b : IMemoryBank) : Prop where
  ram : b.kind = .RamBank
  bank : ∀ t < len, pa.toNat + t < 2 ^ 32 ∧ mc.get_bank (pa + BitVec.ofNat 32 t) = some (i, b)

namespace RamRange

variable {pa : u32} {len i : Nat} {b : IMemoryBank} (hr : RamRange mc pa len i b)

include hr

lemma offset {t : Nat} (ht : t < len) : b.offset (pa + BitVec.ofNat 32 t) = b.offset pa + t := by
  have hlt := (hr.bank t ht).1
  have hc := (MCtrl.get_bank_some (hr.bank t ht).2).2
  have hc₀ := (MCtrl.get_bank_some (hr.bank 0 (by omega)).2).2
  have hpa : (pa + BitVec.ofNat 32 t).toNat = pa.toNat + t := by
    rw [BitVec.toNat_add, BitVec.toNat_ofNat, Nat.mod_eq_of_lt (show t < 2 ^ 32 by omega),
      Nat.mod_eq_of_lt hlt]
  rw [show pa + BitVec.ofNat 32 0 = pa from BitVec.add_zero pa] at hc₀
  rw [b.offset_of_contains hc, b.offset_of_contains hc₀, hpa]
  omega

lemma write32 {t : Nat} (ht : t < len) (v : u32) (m : Mem δ) :
    mc.write32 (pa + BitVec.ofNat 32 t) v m =
      .ok { m with bytes := lay m.bytes ⟨i, b.offset pa + t⟩ (ordered b.bankEndian v) } := by
  unfold MCtrl.write32
  rw [(hr.bank t ht).2]
  dsimp only
  rw [hr.ram]
  dsimp only
  rw [memWrite_lay hr.ram, hr.offset ht]

end RamRange

namespace ReadElf

variable {s : ElfSt δ} {i : Nat} {b : IMemoryBank}

/-! ### Bytes from the file -/

lemma get_cons {c : u8} {input : List u8} (hin : s.input = c :: input) :
    get s = .ok (some c) { s with input := input } := by
  unfold get
  rw [hin]

lemma gobble_ok (n : Nat) (h : n ≤ s.input.length) : gobble n s = .ok () (after s n) := by
  induction n generalizing s with
  | zero => rw [after_zero]; rfl
  | succ n ih =>
    cases hin : s.input with
    | nil => rw [hin] at h; simp at h
    | cons c input =>
      unfold gobble
      rw [bind_ok (get_cons hin)]
      dsimp only
      rw [bind_ok (show count _ = .ok () _ from rfl), ih (by rw [hin] at h; simpa using h),
        after_cons hin]

lemma gobble_short (n : Nat) (h : s.input.length < n) : ∃ e t, gobble n s = .error e t := by
  induction n generalizing s with
  | zero => simp at h
  | succ n ih =>
    unfold gobble
    cases hin : s.input with
    | nil =>
      have hget : get s = .ok none s := by
        unfold get
        rw [hin]
      rw [bind_ok hget]
      exact ⟨_, _, rfl⟩
    | cons c input =>
      obtain ⟨e, t, ht⟩ := ih (s := { s with input := input, bytecount := s.bytecount + 1 })
        (by rw [hin] at h; simpa using h)
      rw [bind_ok (get_cons hin)]
      exact ⟨e, t, ht⟩

section Load

variable {c : u8} {input : List u8} {pa i w : u32} (hin : s.input = c :: input) (n : Nat)

include hin

lemma load_full (h3 : s.bytecount &&& 3 = 3) {m : Mem δ}
    (hw : mc.write32 (pa + i) (w ||| (c.setWidth 32 <<< ((3 - (s.bytecount &&& 3)) * 8))) s.mem =
      .ok m) :
    load mc pa (n + 1) i w s = load mc pa n (i + 4) 0
      { s with input := input, bytecount := s.bytecount + 1, mem := m } := by
  have hwrite : write32 mc (pa + i) (w ||| (c.setWidth 32 <<< ((3 - (s.bytecount &&& 3)) * 8)))
      { s with input := input } = .ok () { s with input := input, mem := m } := by
    unfold write32
    rw [hw]
  rw [load, bind_ok (get_cons hin)]
  show (if s.bytecount &&& 3 = 3 then _ else _ : ElfM δ u32) _ = _
  rw [if_pos h3, bind_ok hwrite]
  rfl

lemma load_part (h3 : s.bytecount &&& 3 ≠ 3) :
    load mc pa (n + 1) i w s = load mc pa n i
      (w ||| (c.setWidth 32 <<< ((3 - (s.bytecount &&& 3)) * 8)))
      { s with input := input, bytecount := s.bytecount + 1 } := by
  rw [load, bind_ok (get_cons hin)]
  show (if s.bytecount &&& 3 = 3 then _ else _ : ElfM δ u32) _ = _
  rw [if_neg h3]
  rfl

end Load

lemma lane (pos : u32) : (pos &&& 3).toNat = pos.toNat % 4 := by
  rw [BitVec.toNat_and]
  exact Nat.and_two_pow_sub_one_eq_mod pos.toNat 2

def withBytes (s : ElfSt δ) (h : HostBytes) : ElfSt δ := { s with mem := { s.mem with bytes := h } }

lemma withBytes_cons {c : u8} {input : List u8} (hin : s.input = c :: input) (n : Nat)
    (g h : HostBytes) :
    withBytes (after { s with
      input := input
      bytecount := s.bytecount + 1
      mem := { s.mem with bytes := g } } n) h = withBytes (after s (n + 1)) h := by
  have hc := after_cons hin n
  unfold withBytes after at *
  simp only [ElfSt.mk.injEq] at hc
  simp only [hc.1, hc.2.1]

variable {pa : u32} {len : Nat}

/-- **The words of a segment**: `n` more bytes go behind those that wait for their word; what does not
fill a word is left out. -/
lemma load_ok (hr : RamRange mc pa len i b) (n j : Nat) (cs : List u8)
    (hcs : cs.length = s.bytecount.toNat % 4) (hpos : s.bytecount.toNat + n < 2 ^ 32)
    (hin : n ≤ s.input.length) (hlen : j + 4 * ((cs.length + n) / 4) ≤ len + 3) :
    load mc pa n (BitVec.ofNat 32 j) (pack cs) s =
      .ok (BitVec.ofNat 32 (j + 4 * ((cs.length + n) / 4)))
        (withBytes (after s n) (lay s.mem.bytes ⟨i, b.offset pa + j⟩
          (bytesOf b.bankEndian (wordsOf (cs ++ s.input.take n))))) := by
  induction n generalizing s j cs with
  | zero =>
    have hlt : cs.length < 4 := by omega
    rw [Nat.add_zero, Nat.div_eq_of_lt hlt, List.take_zero, List.append_nil, wordsOf_short hlt,
      bytesOf_nil, lay_nil, after_zero]
    rfl
  | succ n ih =>
    cases hinp : s.input with
    | nil => rw [hinp] at hin; simp at hin
    | cons c input =>
      have hin' : n ≤ input.length := by rw [hinp] at hin; simpa using hin
      have hlane : (s.bytecount &&& 3).toNat = cs.length := (lane _).trans hcs.symm
      have hword : pack cs ||| (c.setWidth 32 <<< ((3 - (s.bytecount &&& 3)) * 8)) =
          pack (cs ++ [c]) := by
        have hsh : ((3 - (s.bytecount &&& 3)) * 8).toNat = 8 * (3 - cs.length) := by
          have : (s.bytecount &&& 3).toNat < 4 := by rw [lane]; omega
          generalize s.bytecount &&& 3 = l at *
          bv_omega
        rw [pack_append (by omega), BitVec.shiftLeft_eq', hsh]
      have hnext : (s.bytecount + 1).toNat = s.bytecount.toNat + 1 := by bv_omega
      by_cases h3 : cs.length = 3
      · have hfull : s.bytecount &&& 3 = 3 := BitVec.eq_of_toNat_eq (hlane.trans h3)
        have hdiv : j + 4 * ((cs.length + (n + 1)) / 4) = j + 4 + 4 * (n / 4) := by omega
        have h4 : (cs ++ [c]).length = 4 := by simp [h3]
        have hw := hr.write32 (t := j) (by omega) (pack (cs ++ [c])) s.mem
        rw [← hword] at hw
        have hlay := lay_append s.mem.bytes ⟨i, b.offset pa + j⟩ (ordered b.bankEndian (pack (cs ++ [c])))
          (bytesOf b.bankEndian (wordsOf (input.take n)))
        rw [ordered_length] at hlay
        rw [load_full hinp n hfull hw, show BitVec.ofNat 32 j + 4 = BitVec.ofNat 32 (j + 4) from
          (BitVec.ofNat_add ..).symm, show (0 : u32) = pack [] from rfl,
          ih (j + 4) [] (by rw [hnext]; simp; omega) (by rw [hnext]; omega) hin' (by simp; omega),
          withBytes_cons hinp, List.take_succ_cons, List.append_cons cs c, wordsOf_append h4,
          bytesOf_cons, ← hlay, hdiv, List.length_nil, Nat.zero_add, List.nil_append, hword]
        simp only [Nat.cast_add, Int.add_assoc]
      · have hpart : s.bytecount &&& 3 ≠ 3 := by
          intro h
          rw [h] at hlane
          exact h3 hlane.symm
        have hlen' : (cs ++ [c]).length + n = cs.length + (n + 1) := by simp; omega
        rw [load_part hinp n hpart, hword, ih j (cs ++ [c]) (by rw [hnext]; simp; omega)
          (by rw [hnext]; omega) hin' (by rw [hlen']; omega), hlen',
          List.take_succ_cons, List.append_cons cs c (input.take n),
          ← withBytes_cons hinp n s.mem.bytes]

/-! ### Zeros -/

lemma zeroFill_ok (hr : RamRange mc pa len i b) (n k j : Nat) (hlen : k + j + 4 * n ≤ len + 3) :
    zeroFill mc (pa + BitVec.ofNat 32 k) (BitVec.ofNat 32 j) n s =
      .ok () (withBytes s (lay s.mem.bytes ⟨i, b.offset pa + (k + j : Nat)⟩
        (bytesOf b.bankEndian (List.replicate n 0)))) := by
  induction n generalizing s j with
  | zero =>
    rw [List.replicate_zero, bytesOf_nil, lay_nil]
    rfl
  | succ n ih =>
    have hw := hr.write32 (t := k + j) (by omega) 0 s.mem
    rw [BitVec.ofNat_add, ← BitVec.add_assoc] at hw
    have htry : tryWrite32 mc (pa + BitVec.ofNat 32 k + BitVec.ofNat 32 j) 0 s =
        .ok () (withBytes s (lay s.mem.bytes ⟨i, b.offset pa + (k + j : Nat)⟩
          (ordered b.bankEndian 0))) := by
      unfold tryWrite32
      rw [hw]
      rfl
    have hlay := lay_append s.mem.bytes ⟨i, b.offset pa + (k + j : Nat)⟩ (ordered b.bankEndian 0)
      (bytesOf b.bankEndian (List.replicate n 0))
    rw [ordered_length] at hlay
    rw [zeroFill, bind_ok htry, show BitVec.ofNat 32 j + 4 = BitVec.ofNat 32 (j + 4) from
      (BitVec.ofNat_add ..).symm, ih (j + 4) (by omega), List.replicate_succ, bytesOf_cons, ← hlay]
    simp only [Nat.cast_add, Int.add_assoc]
    rfl

def zeroWords (fsz msz : u32) : Nat := ((msz.toNat - fsz.toNat) / 4 + 3) / 4

/-- What is left of the memory size is a number of words. -/
def WholeWords (fsz msz : u32) : Prop := fsz < msz → (msz.toNat - fsz.toNat) % 4 = 0

instance (fsz msz : u32) : Decidable (WholeWords fsz msz) := inferInstanceAs (Decidable (_ → _))

lemma sub_mod_four {fsz msz : u32} (h : fsz < msz) :
    (msz - fsz) % 4 = 0 ↔ (msz.toNat - fsz.toNat) % 4 = 0 := by
  have hsub : (msz - fsz).toNat = msz.toNat - fsz.toNat := BitVec.toNat_sub_of_le (BitVec.le_of_lt h)
  rw [← BitVec.toNat_inj, BitVec.toNat_umod, hsub]
  rfl

lemma clear_eq (hr : RamRange mc pa len i b) (k : Nat) (fsz msz : u32)
    (hlen : k + 4 * zeroWords fsz msz ≤ len + 3) :
    clear mc (pa + BitVec.ofNat 32 k) fsz msz s =
      if WholeWords fsz msz then .ok () (withBytes s (lay s.mem.bytes ⟨i, b.offset pa + k⟩
        (bytesOf b.bankEndian (List.replicate (zeroWords fsz msz) 0))))
      else .error (.thrown (.runtime_error "Not implemented")) (withBytes s (lay s.mem.bytes
        ⟨i, b.offset pa + k⟩ (bytesOf b.bankEndian (List.replicate (zeroWords fsz msz) 0)))) := by
  unfold clear
  by_cases hlt : fsz < msz
  · have hsub : (msz - fsz).toNat = msz.toNat - fsz.toNat :=
      BitVec.toNat_sub_of_le (BitVec.le_of_lt hlt)
    have hcount : (((msz - fsz) / 4).toNat + 3) / 4 = zeroWords fsz msz := by
      rw [BitVec.toNat_udiv, hsub]
      rfl
    have hfill : zeroFill mc (pa + BitVec.ofNat 32 k) 0 (zeroWords fsz msz) s = _ :=
      zeroFill_ok hr (zeroWords fsz msz) k 0 (by omega)
    rw [if_pos hlt, hcount, bind_ok hfill, Nat.add_zero]
    by_cases hw : (msz - fsz) % 4 = 0
    · have hwhole : WholeWords fsz msz := fun _ => (sub_mod_four hlt).mp hw
      rw [if_neg (not_not_intro hw), if_pos hwhole]
      rfl
    · have hpart : ¬ WholeWords fsz msz := fun h => hw ((sub_mod_four hlt).mpr (h hlt))
      rw [if_pos hw, if_neg hpart]
      rfl
  · have hzero : zeroWords fsz msz = 0 := by
      have : msz.toNat ≤ fsz.toNat := by bv_omega
      unfold zeroWords
      omega
    have hwhole : WholeWords fsz msz := fun h => absurd h hlt
    rw [if_neg hlt, if_pos hwhole, hzero, List.replicate_zero, bytesOf_nil, lay_nil]
    rfl

end ReadElf

end SparcEmu
