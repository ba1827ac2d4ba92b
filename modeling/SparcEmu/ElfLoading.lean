import Mathlib.Data.List.Pairwise
import SparcEmu.ElfSegments

/-!
Loading an ELF file: what the file describes, what the loader makes of it, and when the two are the
same.
-/

namespace SparcEmu

open Lib.Effect Lib.Overlay ReadElf

variable {δ : Type} {mc : MCtrl δ} {file : List u8}

/-! ### What a file describes -/

def fileSegment (file : List u8) (k : Nat) : Elf32_Phdr :=
  phdrOf (fun j => file.getD (sizeofEhdr + j) 0) k

def fileSegments (file : List u8) : List Elf32_Phdr :=
  (List.range' 0 (phnum file)).map (fileSegment file)

namespace Elf32_Phdr

/-- The number of addresses of the segment. -/
def span (h : Elf32_Phdr) : Nat := max h.p_filesz.toNat h.p_memsz.toNat

def data (h : Elf32_Phdr) (file : List u8) : List u8 :=
  (file.drop h.p_offset.toNat).take h.p_filesz.toNat

def bytes (h : Elf32_Phdr) (file : List u8) : List u8 :=
  h.data file ++ List.replicate (h.p_memsz.toNat - h.p_filesz.toNat) 0

/-- How many bytes the loader takes from the file; the end of the segment is computed on 32 bits. -/
def loadLen (h : Elf32_Phdr) : Nat := (h.p_offset + h.p_filesz).toNat - h.p_offset.toNat

/-- The words from the file: the bytes are put into words by their position there. -/
def fileWords (h : Elf32_Phdr) (file : List u8) : List u32 :=
  wordsOf (List.replicate (h.p_offset.toNat % 4) 0 ++ (file.drop h.p_offset.toNat).take h.loadLen)

/-- The words that the loader writes; a quarter of the words behind those from the file is cleared. -/
def words (h : Elf32_Phdr) (file : List u8) : List u32 :=
  h.fileWords file ++ List.replicate (zeroWords h.p_filesz h.p_memsz) 0

end Elf32_Phdr

/-- The host byte behind a physical address, by bank and offset. -/
def MCtrl.place (mc : MCtrl δ) (a : u32) : Option (Nat × Int) :=
  (mc.get_bank a).map fun p => (p.1, p.2.offset a)

def MCtrl.byte (mc : MCtrl δ) (g : HostBytes) (a : u32) : Option u8 :=
  (mc.place a).map fun q => g q.1 q.2

def Elf32_Phdr.addr (h : Elf32_Phdr) (t : Nat) : u32 := h.p_paddr + BitVec.ofNat 32 t

/-- An executable of at most four segments: they come behind the headers, one after the other, and
each of them goes to RAM of its own. -/
structure Loadable (mc : MCtrl δ) (file : List u8) : Prop where
  accepted : Accepted file
  few : phnum file ≤ 4
  headers : sizeofEhdr + phnum file * sizeofPhdr ≤ file.length
  behind : ∀ h ∈ fileSegments file, sizeofEhdr + phnum file * sizeofPhdr ≤ h.p_offset.toNat
  ascending : (fileSegments file).Pairwise fun h h' =>
    h.p_offset.toNat + h.p_filesz.toNat ≤ h'.p_offset.toNat
  inFile : ∀ h ∈ fileSegments file,
    h.p_filesz = 0 ∨ h.p_offset.toNat + h.p_filesz.toNat ≤ file.length
  ram : ∀ h ∈ fileSegments file, ∃ i b, RamRange mc h.p_paddr h.span i b
  apart : (fileSegments file).Pairwise fun h h' =>
    h.p_paddr.toNat + h.span ≤ h'.p_paddr.toNat ∨ h'.p_paddr.toNat + h'.span ≤ h.p_paddr.toNat

/-- **Faithful loading**: every segment has its bytes from the file and zeros behind them, and nothing
else has changed. -/
structure Loaded (mc : MCtrl δ) (file : List u8) (m m' : Mem δ) : Prop where
  data : ∀ h ∈ fileSegments file, ∀ t < h.p_filesz.toNat,
    mc.byte m'.bytes (h.addr t) = file[h.p_offset.toNat + t]?
  zeros : ∀ h ∈ fileSegments file, ∀ t, h.p_filesz.toNat ≤ t → t < h.p_memsz.toNat →
    mc.byte m'.bytes (h.addr t) = some 0
  others : ∀ i o, (∀ h ∈ fileSegments file, ∀ t < h.span, mc.place (h.addr t) ≠ some (i, o)) →
    m'.bytes i o = m.bytes i o
  dev : m'.dev = m.dev

/-- Where a segment begins in the host's memory, and the byte order there. -/
def MCtrl.home (mc : MCtrl δ) (pa : u32) : HostPtr × Endian :=
  match mc.get_bank pa with
  | some (i, b) => (⟨i, b.offset pa⟩, b.bankEndian)
  | none => (⟨0, 0⟩, .Big)

def Elf32_Phdr.written (h : Elf32_Phdr) (mc : MCtrl δ) (file : List u8) : Nat × Int → Option u8 :=
  piece (mc.home h.p_paddr).1 (bytesOf (mc.home h.p_paddr).2 (h.words file))

/-- The loader returns and leaves what the file describes, whatever was in memory. -/
def Faithful (mc : MCtrl δ) (file : List u8) (dev : δ) : Prop := ∀ uninitialised bytes,
  ∃ r s, ReadElf mc uninitialised file ⟨bytes, dev⟩ = .ok r s ∧ Loaded mc file ⟨bytes, dev⟩ s.mem

/-! ### One segment -/

namespace RamRange

variable {pa : u32} {len i : Nat} {b : IMemoryBank} (hr : RamRange mc pa len i b)

include hr

lemma home (hlen : 0 < len) : mc.home pa = (⟨i, b.offset pa⟩, b.bankEndian) := by
  have hb := (hr.bank 0 hlen).2
  rw [show pa + BitVec.ofNat 32 0 = pa from BitVec.add_zero pa] at hb
  unfold MCtrl.home
  rw [hb]

lemma place {t : Nat} (ht : t < len) : mc.place (pa + BitVec.ofNat 32 t) =
    some ((mc.home pa).1.bank, (mc.home pa).1.off + t) := by
  unfold MCtrl.place
  rw [(hr.bank t ht).2, hr.home (by omega)]
  simp only [Option.map_some, hr.offset ht]

end RamRange

namespace Elf32_Phdr

variable {h h' : Elf32_Phdr}

lemma loadLen_le (h : Elf32_Phdr) : h.loadLen ≤ h.p_filesz.toNat := by
  unfold loadLen
  bv_omega

lemma loadLen_end (h : Elf32_Phdr) : h.p_offset.toNat + h.loadLen < 2 ^ 32 := by
  have h1 := (h.p_offset + h.p_filesz).isLt
  have h2 := h.p_offset.isLt
  unfold loadLen
  omega

lemma loadLen_eq (hlt : h.p_offset.toNat + h.p_filesz.toNat < 2 ^ 32) : h.loadLen = h.p_filesz.toNat := by
  unfold loadLen
  rw [BitVec.toNat_add, Nat.mod_eq_of_lt hlt]
  omega

lemma zeroWords_le (fsz msz : u32) : 4 * zeroWords fsz msz ≤ msz.toNat - fsz.toNat := by
  unfold zeroWords
  omega

lemma words_of_span (hs : h.span = 0) : h.words file = [] := by
  have hf : h.p_filesz.toNat = 0 := by unfold span at hs; omega
  have hm : h.p_memsz.toNat = 0 := by unfold span at hs; omega
  have hz : zeroWords h.p_filesz h.p_memsz = 0 := by
    unfold zeroWords
    omega
  have hl : h.loadLen = 0 := by
    have := h.loadLen_le
    omega
  unfold words fileWords
  rw [hz, hl, List.take_zero, List.append_nil, wordsOf_short (by rw [List.length_replicate]; omega)]
  rfl

end Elf32_Phdr

/-- Where the loader stands: `c` bytes of the file have been read, and the program headers are in
their buffer. -/
structure Reading (file : List u8) (c : Nat) (s : ElfSt δ) : Prop where
  input : s.input = file.drop c
  count : s.bytecount.toNat = c
  phdrs : ∀ k < phnum file, phdrOf s.buf2 k = fileSegment file k

lemma Reading.after {s : ElfSt δ} {c n : Nat} (hs : Reading file c s) (hn : c + n < 2 ^ 32) :
    Reading file (c + n) (after s n) where
  input := by
    show s.input.drop n = _
    rw [hs.input, List.drop_drop]
  count := by
    show (s.bytecount + BitVec.ofNat 32 n).toNat = _
    rw [BitVec.toNat_add, BitVec.toNat_ofNat, hs.count, Nat.mod_eq_of_lt (show n < 2 ^ 32 by omega),
      Nat.mod_eq_of_lt hn]
  phdrs := hs.phdrs

lemma Reading.withBytes {s : ElfSt δ} {c : Nat} (hs : Reading file c s) (g : HostBytes) :
    Reading file c (withBytes s g) := ⟨hs.input, hs.count, hs.phdrs⟩

variable {i : Nat} {b : IMemoryBank}

namespace ReadElf

variable {s : ElfSt δ} {c k : Nat} {h : Elf32_Phdr}

lemma load_segment (hs : Reading file h.p_offset.toNat s) (hin : h.loadLen ≤ s.input.length)
    (hr : RamRange mc h.p_paddr h.span i b) :
    load mc h.p_paddr ((h.p_offset + h.p_filesz).toNat - s.bytecount.toNat) 0 0 s =
      .ok (BitVec.ofNat 32 (4 * (h.fileWords file).length)) (withBytes (after s h.loadLen)
        (lay s.mem.bytes ⟨i, b.offset h.p_paddr⟩ (bytesOf b.bankEndian (h.fileWords file)))) := by
  have hend := h.loadLen_end
  have hle := h.loadLen_le
  have hspan : h.span = max h.p_filesz.toNat h.p_memsz.toNat := rfl
  have hlen : (h.fileWords file).length = (h.p_offset.toNat % 4 + h.loadLen) / 4 := by
    unfold Elf32_Phdr.fileWords
    rw [← hs.input, wordsOf_length, List.length_append, List.length_replicate,
      List.length_take_of_le hin]
  have hl := load_ok hr h.loadLen 0 (List.replicate (h.p_offset.toNat % 4) 0) (s := s)
    (by rw [List.length_replicate, hs.count]) (by rw [hs.count]; omega) hin
    (by rw [List.length_replicate]; omega)
  rw [pack_zeros _ (by omega), List.length_replicate, Nat.zero_add, ← hlen] at hl
  unfold Elf32_Phdr.fileWords at hl ⊢
  rw [hs.count, ← hs.input]
  rw [← hs.input, Nat.cast_zero, Int.add_zero] at hl
  exact hl

lemma segment_eq (hs : Reading file c s) (hk : k < phnum file) (hfew : phnum file ≤ 4)
    (hh : fileSegment file k = h) (hc : c ≤ h.p_offset.toNat) (ho : h.p_offset.toNat ≤ file.length)
    (hf : h.p_filesz = 0 ∨ h.p_offset.toNat + h.p_filesz.toNat ≤ file.length)
    (hr : RamRange mc h.p_paddr h.span i b) :
    ∃ n s', Reading file (h.p_offset.toNat + h.loadLen) s' ∧
      s'.mem = ⟨lay s.mem.bytes ⟨i, b.offset h.p_paddr⟩ (bytesOf b.bankEndian (h.words file)),
        s.mem.dev⟩ ∧
      segment mc k s = if WholeWords h.p_filesz h.p_memsz then .ok n s'
        else .error (.thrown (.runtime_error "Not implemented")) s' := by
  have hend := h.loadLen_end
  have hle := h.loadLen_le
  have hz := Elf32_Phdr.zeroWords_le h.p_filesz h.p_memsz
  have hspan : h.span = max h.p_filesz.toNat h.p_memsz.toNat := rfl
  have hphdr : phdr k s = .ok h s := by
    unfold phdr
    rw [if_pos (by unfold sizeofBuf2 sizeofPhdr; omega), hs.phdrs k hk, hh]
  -- up to the first byte of the segment
  obtain ⟨s₁, hgob, hR₁, hm₁⟩ : ∃ s₁, gobble (h.p_offset.toNat - s.bytecount.toNat) s = .ok () s₁ ∧
      Reading file h.p_offset.toNat s₁ ∧ s₁.mem = s.mem := by
    refine ⟨after s (h.p_offset.toNat - c), ?_, ?_, rfl⟩
    · rw [hs.count]
      refine gobble_ok _ ?_
      rw [hs.input, List.length_drop]
      omega
    · have := hs.after (n := h.p_offset.toNat - c) (by omega)
      rwa [Nat.add_sub_cancel' hc] at this
  have hin : h.loadLen ≤ s₁.input.length := by
    rw [hR₁.input, List.length_drop]
    rcases hf with hf | hf
    · rw [hf] at hle
      have : (0 : u32).toNat = 0 := rfl
      omega
    · omega
  have hlen : 4 * (h.fileWords file).length ≤ h.p_filesz.toNat + 3 := by
    unfold Elf32_Phdr.fileWords
    rw [← hR₁.input, wordsOf_length, List.length_append, List.length_replicate,
      List.length_take_of_le hin]
    omega
  have hload := load_segment hR₁ hin hr
  set s₂ := withBytes (after s₁ h.loadLen) (lay s₁.mem.bytes ⟨i, b.offset h.p_paddr⟩
    (bytesOf b.bankEndian (h.fileWords file))) with hs₂
  have hR₂ : Reading file (h.p_offset.toNat + h.loadLen) s₂ := (hR₁.after hend).withBytes _
  have hclear := clear_eq (s := s₂) hr (4 * (h.fileWords file).length) h.p_filesz h.p_memsz (by omega)
  -- the zeros come right behind the words from the file
  have hbytes := lay_append s₁.mem.bytes ⟨i, b.offset h.p_paddr⟩
    (bytesOf b.bankEndian (h.fileWords file))
    (bytesOf b.bankEndian (List.replicate (zeroWords h.p_filesz h.p_memsz) 0))
  rw [bytesOf_length, ← bytesOf_append] at hbytes
  refine ⟨BitVec.ofNat 32 (4 * (h.fileWords file).length), _, hR₂.withBytes
    (lay s₁.mem.bytes ⟨i, b.offset h.p_paddr⟩ (bytesOf b.bankEndian (h.words file))), ?_, ?_⟩
  · rw [← hm₁]
    rfl
  · unfold segment
    rw [bind_ok hphdr, bind_ok (show bytecount s = .ok s.bytecount s from rfl), bind_ok hgob,
      bind_ok (show bytecount s₁ = .ok s₁.bytecount s₁ from rfl), bind_ok hload]
    rw [show lay s₂.mem.bytes _ _ = lay s₁.mem.bytes _ _ from hbytes] at hclear
    by_cases hw : WholeWords h.p_filesz h.p_memsz
    · rw [if_pos hw] at hclear ⊢
      rw [bind_ok hclear]
      rfl
    · rw [if_neg hw] at hclear ⊢
      exact bind_error hclear

lemma segment_unreached (mc : MCtrl δ) (hs : Reading file c s) (hk : k < phnum file) (hfew : phnum file ≤ 4)
    (hc : c ≤ file.length) (ho : ¬ (fileSegment file k).p_offset.toNat ≤ file.length) :
    ∃ e t, segment mc k s = .error e t := by
  have hphdr : phdr k s = .ok (fileSegment file k) s := by
    unfold phdr
    rw [if_pos (by unfold sizeofBuf2 sizeofPhdr; omega), hs.phdrs k hk]
  have hshort : s.input.length < (fileSegment file k).p_offset.toNat - s.bytecount.toNat := by
    rw [hs.input, hs.count, List.length_drop]
    omega
  obtain ⟨e, t, ht⟩ := gobble_short _ hshort
  unfold segment
  rw [bind_ok hphdr, bind_ok (show bytecount s = .ok s.bytecount s from rfl)]
  exact ⟨e, t, bind_error ht⟩

/-! ### All segments -/

/-- The loader gets through the segment. -/
def Passes (file : List u8) (h : Elf32_Phdr) : Prop :=
  h.p_offset.toNat ≤ file.length ∧ WholeWords h.p_filesz h.p_memsz

/-- Memory with the words of a segment. -/
def layWords (mc : MCtrl δ) (file : List u8) (g : HostBytes) (h : Elf32_Phdr) : HostBytes :=
  lay g (mc.home h.p_paddr).1 (bytesOf (mc.home h.p_paddr).2 (h.words file))

lemma lay_home (hr : RamRange mc h.p_paddr h.span i b) (g : HostBytes) :
    lay g ⟨i, b.offset h.p_paddr⟩ (bytesOf b.bankEndian (h.words file)) = layWords mc file g h := by
  unfold layWords
  by_cases hs : h.span = 0
  · rw [h.words_of_span hs, bytesOf_nil, bytesOf_nil, lay_nil, lay_nil]
  · rw [hr.home (Nat.pos_of_ne_zero hs)]

/-- **The loop over the segments**: it ends at the first segment that does not pass. -/
lemma segments_cases (hfew : phnum file ≤ 4) (n : Nat) (text : u32) (hs : Reading file c s)
    (hn : k + n = phnum file) (hcl : c ≤ file.length) {l : List Elf32_Phdr}
    (hl : (List.range' k n).map (fileSegment file) = l) (hc : ∀ h ∈ l, c ≤ h.p_offset.toNat)
    (hasc : l.Pairwise fun h h' => h.p_offset.toNat + h.p_filesz.toNat ≤ h'.p_offset.toNat)
    (hf : ∀ h ∈ l, h.p_filesz = 0 ∨ h.p_offset.toNat + h.p_filesz.toNat ≤ file.length)
    (hr : ∀ h ∈ l, ∃ i b, RamRange mc h.p_paddr h.span i b) :
    ((∀ h ∈ l, Passes file h) ∧ ∃ r s', segments mc k text n s = .ok r s' ∧
      s'.mem = ⟨l.foldl (layWords mc file) s.mem.bytes, s.mem.dev⟩) ∨
    ((¬ ∀ h ∈ l, Passes file h) ∧ ∃ e t, segments mc k text n s = .error e t) := by
  induction n generalizing k c s text l with
  | zero => subst hl; exact Or.inl ⟨by simp, text, s, rfl, rfl⟩
  | succ n ih =>
    rw [List.range'_succ, List.map_cons] at hl
    subst hl
    obtain ⟨hfirst, hrest⟩ := List.pairwise_cons.mp hasc
    by_cases ho : (fileSegment file k).p_offset.toNat ≤ file.length
    swap
    · obtain ⟨e, t, ht⟩ := segment_unreached mc hs (show k < phnum file by omega) hfew hcl ho
      refine Or.inr ⟨fun h => ho (h _ (by simp)).1, e, t, ?_⟩
      exact bind_error ht
    obtain ⟨i, b, hram⟩ := hr _ (List.mem_cons_self ..)
    obtain ⟨m, s', hR, hmem, hseg⟩ := segment_eq hs (show k < phnum file by omega) hfew rfl
      (hc _ (List.mem_cons_self ..)) ho (hf _ (List.mem_cons_self ..)) hram
    by_cases hw : WholeWords (fileSegment file k).p_filesz (fileSegment file k).p_memsz
    swap
    · rw [if_neg hw] at hseg
      exact Or.inr ⟨fun h => hw (h _ (by simp)).2, _, _, bind_error hseg⟩
    rw [if_pos hw] at hseg
    rw [lay_home hram] at hmem
    have hle := (fileSegment file k).loadLen_le
    have hnext := ih (if k = 0 then m else text) hR (by omega) (by
        rcases hf _ (List.mem_cons_self ..) with h0 | h0
        · rw [h0] at hle
          have : (0 : u32).toNat = 0 := rfl
          omega
        · omega)
      rfl (fun h hh => by have := hfirst h hh; omega) hrest
      (fun h hh => hf h (List.mem_cons_of_mem _ hh)) fun h hh => hr h (List.mem_cons_of_mem _ hh)
    have hstep : segments mc k text (n + 1) s = segments mc (k + 1) (if k = 0 then m else text) n s' :=
      bind_ok hseg
    rw [hstep]
    rcases hnext with ⟨hall, r, t, ht, htm⟩ | ⟨hnot, e, t, ht⟩
    · refine Or.inl ⟨?_, r, t, ht, ?_⟩
      · intro h hh
        rcases List.mem_cons.mp hh with rfl | hh
        · exact ⟨ho, hw⟩
        · exact hall h hh
      · rw [htm, hmem, List.foldl_cons]
    · exact Or.inr ⟨fun h => hnot fun x hx => h x (List.mem_cons_of_mem _ hx), e, t, ht⟩

lemma phdrOf_congr {f g : Nat → u8} {n : Nat} (hk : k < n) (h : ∀ j, j < n * sizeofPhdr → f j = g j) :
    phdrOf f k = phdrOf g k := by
  have h32 : sizeofPhdr = 32 := rfl
  have hk' : k * sizeofPhdr + sizeofPhdr ≤ n * sizeofPhdr := by
    rw [← Nat.succ_mul]
    exact Nat.mul_le_mul_right _ hk
  unfold phdrOf
  rw [host32_congr fun j _ hj => h j (by omega), host32_congr fun j _ hj => h j (by omega),
    host32_congr fun j _ hj => h j (by omega), host32_congr fun j _ hj => h j (by omega)]

lemma headers_reading (hfew : phnum file ≤ 4)
    (hlen : sizeofEhdr + phnum file * sizeofPhdr ≤ file.length) (uninitialised : Nat → u8)
    (m : Mem δ) : ∃ s, headers 0 (phnum file) (after ⟨file, 0, uninitialised, m⟩ sizeofEhdr) = .ok () s ∧
      Reading file (sizeofEhdr + phnum file * sizeofPhdr) s ∧ s.mem = m := by
  have hroom : 0 + phnum file * sizeofPhdr ≤ sizeofBuf2 := by
    unfold sizeofBuf2 sizeofPhdr
    omega
  obtain ⟨t, ht, hin, hm, hcount, hbuf⟩ := fill_ok 0 (phnum file * sizeofPhdr)
    (s := after ⟨file, 0, uninitialised, m⟩ sizeofEhdr) (by
      show _ ≤ (file.drop sizeofEhdr).length
      rw [List.length_drop]
      omega) hroom
  refine ⟨t, ?_, ⟨?_, ?_, fun k hk => ?_⟩, hm⟩
  · rw [headers_eq, Nat.zero_mul]
    exact ht
  · rw [hin]
    show (file.drop sizeofEhdr).drop _ = _
    rw [List.drop_drop]
  · rw [hcount]
    show (0#32 + BitVec.ofNat 32 sizeofEhdr + BitVec.ofNat 32 (phnum file * sizeofPhdr)).toNat = _
    have : phnum file * sizeofPhdr < 2 ^ 31 := by unfold sizeofPhdr; omega
    have h52 : sizeofEhdr = 52 := rfl
    rw [BitVec.zero_add, BitVec.toNat_add, BitVec.toNat_ofNat, BitVec.toNat_ofNat]
    omega
  · have hb : ∀ j, j < phnum file * sizeofPhdr → t.buf2 j = file.getD (sizeofEhdr + j) 0 := by
      intro j hj
      rw [hbuf, if_pos (by omega)]
      show (file.drop sizeofEhdr).getD _ 0 = _
      simp
    exact phdrOf_congr hk hb

/-- **The loader** on a file that can be loaded. -/
lemma loadable_cases (hL : Loadable mc file) (uninitialised : Nat → u8) (m : Mem δ) :
    ((∀ h ∈ fileSegments file, Passes file h) ∧ ∃ r s', ReadElf mc uninitialised file m = .ok r s' ∧
      s'.mem = ⟨(fileSegments file).foldl (layWords mc file) m.bytes, m.dev⟩) ∨
    ((¬ ∀ h ∈ fileSegments file, Passes file h) ∧
      ∃ e t, ReadElf mc uninitialised file m = .error e t) := by
  obtain ⟨s, hh, hR, hm⟩ := headers_reading hL.few hL.headers uninitialised m
  have hrest : ReadElf mc uninitialised file m = (do
      let text_count ← segments mc 0 0 (phnum file)
      pure (text_count / 4, (fileHeader file).e_entry) : ElfM δ (u32 × u32)) s :=
    (body_accepted (s := ⟨file, 0, uninitialised, m⟩) hL.accepted).trans (bind_ok hh)
  rw [hrest, ← hm]
  rcases segments_cases (k := 0) hL.few (phnum file) 0 hR (Nat.zero_add _) hL.headers rfl
    hL.behind hL.ascending hL.inFile hL.ram with ⟨hall, r, t, ht, htm⟩ | ⟨hnot, e, t, ht⟩
  · exact Or.inl ⟨hall, _, t, (bind_ok ht).trans rfl, htm⟩
  · exact Or.inr ⟨hnot, e, t, bind_error ht⟩

end ReadElf

/-! ### What the file describes -/

namespace Loadable

variable {h h' : Elf32_Phdr} {t : Nat} (hL : Loadable mc file)

include hL

lemma data_length (hh : h ∈ fileSegments file) : (h.data file).length = h.p_filesz.toNat := by
  unfold Elf32_Phdr.data
  rw [List.length_take, List.length_drop]
  rcases hL.inFile h hh with h0 | h0
  · rw [h0]
    have : (0 : u32).toNat = 0 := rfl
    omega
  · omega

lemma bytes_length (hh : h ∈ fileSegments file) : (h.bytes file).length = h.span := by
  unfold Elf32_Phdr.bytes Elf32_Phdr.span
  rw [List.length_append, hL.data_length hh, List.length_replicate]
  omega

lemma bytes_data (hh : h ∈ fileSegments file) (ht : t < h.p_filesz.toNat) :
    (h.bytes file)[t]? = file[h.p_offset.toNat + t]? := by
  unfold Elf32_Phdr.bytes
  rw [List.getElem?_append_left (by rw [hL.data_length hh]; exact ht)]
  unfold Elf32_Phdr.data
  rw [List.getElem?_take, if_pos ht, List.getElem?_drop]

lemma bytes_zero (hh : h ∈ fileSegments file) (hf : h.p_filesz.toNat ≤ t)
    (ht : t < h.p_memsz.toNat) : (h.bytes file)[t]? = some 0 := by
  unfold Elf32_Phdr.bytes
  rw [List.getElem?_append_right (by rw [hL.data_length hh]; exact hf), hL.data_length hh,
    List.getElem?_replicate, if_pos (by omega)]

lemma place (hh : h ∈ fileSegments file) (ht : t < h.span) : mc.place (h.addr t) =
    some ((mc.home h.p_paddr).1.bank, (mc.home h.p_paddr).1.off + t) := by
  obtain ⟨i, b, hr⟩ := hL.ram h hh
  exact hr.place ht

/-- Segments that are apart have no place in common. -/
lemma place_ne (hh : h ∈ fileSegments file) (hh' : h' ∈ fileSegments file)
    (hap : h.p_paddr.toNat + h.span ≤ h'.p_paddr.toNat ∨
      h'.p_paddr.toNat + h'.span ≤ h.p_paddr.toNat) (ht : t < h.span) {t' : Nat}
    (ht' : t' < h'.span) : mc.place (h.addr t) ≠ mc.place (h'.addr t') := by
  obtain ⟨i, b, hr⟩ := hL.ram h hh
  obtain ⟨i', b', hr'⟩ := hL.ram h' hh'
  obtain ⟨h1, hb⟩ := hr.bank t ht
  obtain ⟨h2, hb'⟩ := hr'.bank t' ht'
  unfold MCtrl.place Elf32_Phdr.addr
  rw [hb, hb']
  intro hx
  -- one bank, and one offset in it: the addresses are the same
  simp only [Option.map_some, Option.some.injEq, Prod.mk.injEq] at hx
  obtain ⟨rfl, hoff⟩ := hx
  obtain rfl := MCtrl.bank_unique hb hb'
  rw [b.offset_of_contains (MCtrl.get_bank_some hb).2,
    b.offset_of_contains (MCtrl.get_bank_some hb').2, BitVec.toNat_add, BitVec.toNat_add,
    BitVec.toNat_ofNat, BitVec.toNat_ofNat] at hoff
  omega

end Loadable

/-- The words of the segments, one after the other, are painted. -/
lemma layWords_paint (mc : MCtrl δ) (file : List u8) (hs : List Elf32_Phdr) (g : HostBytes) :
    Function.uncurry (hs.foldl (layWords mc file) g) =
      paint (Function.uncurry g) (hs.map fun h => h.written mc file) := by
  induction hs generalizing g with
  | nil => rfl
  | cons h hs ih => exact ih (layWords mc file g h)

/-- What a faithful loader leaves. -/
lemma Faithful.loaded {dev : δ} (hL : Loadable mc file) (hF : Faithful mc file dev) (g : HostBytes) :
    (∀ h ∈ fileSegments file, Passes file h) ∧
      Loaded mc file ⟨g, dev⟩ ⟨(fileSegments file).foldl (layWords mc file) g, dev⟩ := by
  obtain ⟨r, s, hr, hl⟩ := hF (fun _ => 0) g
  rcases loadable_cases hL (fun _ => 0) ⟨g, dev⟩ with ⟨hp, r', s', hr', hm⟩ | ⟨-, e, t, ht⟩
  · rw [hr] at hr'
    cases hr'
    exact ⟨hp, hm ▸ hl⟩
  · rw [hr] at ht
    cases ht

/-! ### Plain files -/

/-- A segment of whole words at a multiple of four in the file, with one word of zeros at most, for a
big-endian bank. -/
structure Elf32_Phdr.Plain (mc : MCtrl δ) (file : List u8) (h : Elf32_Phdr) : Prop where
  reached : h.p_offset.toNat ≤ file.length
  offset : h.p_filesz = 0 ∨ h.p_offset.toNat % 4 = 0
  filesz : h.p_filesz.toNat % 4 = 0
  memsz : h.p_memsz.toNat ≤ h.p_filesz.toNat ∨ h.p_memsz.toNat = h.p_filesz.toNat + 4
  fits : h.p_offset.toNat + h.p_filesz.toNat < 2 ^ 32
  big : (mc.home h.p_paddr).2 = .Big

lemma zeros_bytes (e : Endian) (n : Nat) :
    bytesOf e (List.replicate n 0) = List.replicate (4 * n) 0 := by
  induction n with
  | zero => rfl
  | succ n ih =>
    rw [List.replicate_succ, bytesOf_cons, ih, Nat.mul_succ, Nat.add_comm, List.replicate_add]
    cases e <;> rfl

/-- The same headers before other contents. -/
structure SameHeaders (file file' : List u8) : Prop where
  length : file'.length = file.length
  headers : ∀ j < sizeofEhdr + phnum file * sizeofPhdr, file'.getD j 0 = file.getD j 0

section Headers

variable {file' : List u8} (hsame : SameHeaders file file')

include hsame

lemma SameHeaders.fileHeader : fileHeader file' = fileHeader file :=
  ehdrOf_congr fun j hj => hsame.headers j (by omega)

lemma SameHeaders.phnum : phnum file' = phnum file := congrArg (·.e_phnum.toNat) hsame.fileHeader

lemma SameHeaders.segments : fileSegments file' = fileSegments file := by
  unfold fileSegments
  rw [hsame.phnum]
  refine List.map_congr_left fun k hk => phdrOf_congr (n := SparcEmu.phnum file) ?_ fun j hj =>
    hsame.headers _ (by omega)
  simpa using hk

lemma Loadable.same (hL : Loadable mc file) : Loadable mc file' := by
  have ha := hL.accepted
  refine ⟨⟨?_, ?_, ?_, ?_⟩, ?_, ?_, ?_, ?_, ?_, ?_, ?_⟩ <;>
    simp only [hsame.fileHeader, hsame.phnum, hsame.segments, hsame.length]
  exacts [ha.length, ha.ident, ha.type, ha.machine, hL.few, hL.headers, hL.behind, hL.ascending,
    hL.inFile, hL.ram, hL.apart]

end Headers

namespace Loadable

variable {h h' : Elf32_Phdr} (hL : Loadable mc file)

include hL

lemma loadLen_le (hh : h ∈ fileSegments file) :
    h.loadLen ≤ (file.drop h.p_offset.toNat).length := by
  have hdata := hL.data_length hh
  unfold Elf32_Phdr.data at hdata
  rw [List.length_take] at hdata
  have := h.loadLen_le
  omega

/-- What the loader writes for a segment in a big-endian bank. -/
lemma words_bytes (hh : h ∈ fileSegments file) : bytesOf .Big (h.words file) =
    (List.replicate (h.p_offset.toNat % 4) 0 ++ (file.drop h.p_offset.toNat).take h.loadLen).take
      (4 * ((h.p_offset.toNat % 4 + h.loadLen) / 4)) ++
    List.replicate (4 * zeroWords h.p_filesz h.p_memsz) 0 := by
  unfold Elf32_Phdr.words Elf32_Phdr.fileWords
  rw [bytesOf_append, zeros_bytes]
  unfold bytesOf
  rw [wordsOf_bytes, List.length_append, List.length_replicate,
    List.length_take_of_le (hL.loadLen_le hh)]

lemma written_eq (hh : h ∈ fileSegments file) (hp : h.Plain mc file) :
    h.written mc file = piece (mc.home h.p_paddr).1 (h.bytes file) := by
  have hlen : h.loadLen = h.p_filesz.toNat := h.loadLen_eq hp.fits
  have hzero : 4 * zeroWords h.p_filesz h.p_memsz = h.p_memsz.toNat - h.p_filesz.toNat := by
    have := hp.memsz
    unfold zeroWords
    omega
  unfold Elf32_Phdr.written Elf32_Phdr.bytes
  rw [hp.big, hL.words_bytes hh, hzero, hlen]
  congr 2
  show _ = (file.drop h.p_offset.toNat).take h.p_filesz.toNat
  have hfour := hp.filesz
  rcases hp.offset with h0 | h0
  · have hf : h.p_filesz.toNat = 0 := by rw [h0]; rfl
    rw [hf, Nat.add_zero, Nat.div_eq_of_lt (Nat.mod_lt _ (by decide))]
    rfl
  · rw [h0, Nat.zero_add, Nat.mul_div_cancel' (Nat.dvd_of_mod_eq_zero hfour)]
    exact List.take_of_length_le (by simp)

lemma written_place (hh : h ∈ fileSegments file) (hp : h.Plain mc file) {q : Nat × Int} {v : u8}
    (hq : h.written mc file q = some v) : ∃ t < h.span, mc.place (h.addr t) = some q := by
  rw [hL.written_eq hh hp] at hq
  obtain ⟨t, ht, rfl, -⟩ := piece_some hq
  rw [hL.bytes_length hh] at ht
  exact ⟨t, ht, hL.place hh ht⟩

lemma written_apart (hp : ∀ h ∈ fileSegments file, h.Plain mc file) :
    ((fileSegments file).map fun h => h.written mc file).Pairwise
      fun p q => ∀ x, p x = none ∨ q x = none := by
  refine List.pairwise_map.mpr (hL.apart.imp_of_mem fun {h h'} hh hh' hap x => ?_)
  by_contra hboth
  push Not at hboth
  obtain ⟨v, hv⟩ := Option.ne_none_iff_exists'.mp hboth.1
  obtain ⟨v', hv'⟩ := Option.ne_none_iff_exists'.mp hboth.2
  obtain ⟨t, ht, hq⟩ := hL.written_place hh (hp h hh) hv
  obtain ⟨t', ht', hq'⟩ := hL.written_place hh' (hp h' hh') hv'
  exact hL.place_ne hh hh' hap ht ht' (hq.trans hq'.symm)

/-- **Plain segments** are loaded as the file describes them. -/
lemma plain_loaded (hp : ∀ h ∈ fileSegments file, h.Plain mc file) (m : Mem δ) :
    Loaded mc file m ⟨(fileSegments file).foldl (layWords mc file) m.bytes, m.dev⟩ := by
  have hbyte : ∀ h ∈ fileSegments file, ∀ t < h.span,
      mc.byte ((fileSegments file).foldl (layWords mc file) m.bytes) (h.addr t) = (h.bytes file)[t]? := by
    intro h hh t ht
    have hin : t < (h.bytes file).length := by rwa [hL.bytes_length hh]
    unfold MCtrl.byte
    rw [hL.place hh ht, List.getElem?_eq_getElem hin]
    refine congrArg some ((congrFun (layWords_paint ..) _).trans (paint_of_mem (hL.written_apart hp)
      (List.mem_map_of_mem hh) ?_))
    rw [hL.written_eq hh (hp h hh), piece_inside]
    exact List.getElem?_eq_getElem hin
  refine ⟨fun h hh t ht => ?_, fun h hh t hf ht => ?_, fun i o hout => ?_, rfl⟩
  · rw [hbyte h hh t (by unfold Elf32_Phdr.span; omega), hL.bytes_data hh ht]
  · rw [hbyte h hh t (by unfold Elf32_Phdr.span; omega), hL.bytes_zero hh hf ht]
  · refine (congrFun (layWords_paint ..) (i, o)).trans (paint_none fun p hm => ?_)
    obtain ⟨h, hh, rfl⟩ := List.mem_map.mp hm
    by_contra hne
    obtain ⟨v, hv⟩ := Option.ne_none_iff_exists'.mp hne
    obtain ⟨t, ht, hq⟩ := hL.written_place hh (hp h hh) hv
    exact hout h hh t ht hq

lemma plain_faithful (hp : ∀ h ∈ fileSegments file, h.Plain mc file) (dev : δ) :
    Faithful mc file dev := by
  intro uninitialised bytes
  rcases loadable_cases hL uninitialised ⟨bytes, dev⟩ with ⟨-, r, s, hr, hm⟩ | ⟨hn, -⟩
  · exact ⟨r, s, hr, hm ▸ hL.plain_loaded hp ⟨bytes, dev⟩⟩
  · refine absurd (fun h hh => ⟨(hp h hh).reached, fun hlt => ?_⟩) hn
    have := (hp h hh).memsz
    have hlt : h.p_filesz.toNat < h.p_memsz.toNat := hlt
    omega

/-- A byte of a segment that was not there before has been written for some segment. -/
lemma byte_written (hh : h ∈ fileSegments file) {t : Nat} (ht : t < h.span) {g : HostBytes} {v : u8}
    (hb : mc.byte ((fileSegments file).foldl (layWords mc file) g) (h.addr t) = some v)
    (hg : ∀ i o, g i o ≠ v) : ∃ h' ∈ fileSegments file, h'.written mc file
      ((mc.home h.p_paddr).1.bank, (mc.home h.p_paddr).1.off + t) = some v := by
  unfold MCtrl.byte at hb
  rw [hL.place hh ht, Option.map_some, Option.some.injEq] at hb
  obtain hx | ⟨p, hp, hx⟩ := paint_some ((congrFun (layWords_paint ..) _).symm.trans hb)
  · exact absurd hx (hg _ _)
  · obtain ⟨h', hm, rfl⟩ := List.mem_map.mp hp
    exact ⟨h', hm, hx⟩

end Loadable

/-! ### Contents that show the defects -/

/-- The file with one byte 1 at `n` behind its headers, and zeros. -/
def marked (file : List u8) (n : Nat) : List u8 := (List.range file.length).map fun j =>
  if j < sizeofEhdr + phnum file * sizeofPhdr then file.getD j 0 else if j = n then 1 else 0

lemma marked_same (hL : Loadable mc file) (n : Nat) : SameHeaders file (marked file n) where
  length := by simp [marked]
  headers j hj := by
    have hj' : j < file.length := Nat.lt_of_lt_of_le hj hL.headers
    simp [marked, List.getD_eq_getElem?_getD, List.getElem?_range hj', if_pos hj]

lemma marked_byte {n j : Nat} (hj : sizeofEhdr + phnum file * sizeofPhdr ≤ j) (hlt : j < file.length) :
    (marked file n)[j]? = some (if j = n then 1 else 0) := by
  simp [marked, List.getElem?_range hlt, Nat.not_lt.mpr hj]

namespace Loadable

variable {h h' : Elf32_Phdr} {n : Nat} (hL : Loadable mc file)
  (hbig : ∀ h ∈ fileSegments file, (mc.home h.p_paddr).2 = .Big)

include hL hbig

/-- The 1 is written for the segment that it is in, as far behind the beginning as it is behind the
last multiple of four in the file. -/
lemma written_one (hh : h ∈ fileSegments file) {q : Nat × Int}
    (hq : h.written mc (marked file n) q = some 1) : ∃ t : Nat,
    q = ((mc.home h.p_paddr).1.bank, (mc.home h.p_paddr).1.off + (h.p_offset.toNat % 4 + t : Nat)) ∧
    h.p_offset.toNat + t = n ∧ t < h.loadLen ∧
    h.p_offset.toNat % 4 + t < 4 * ((h.p_offset.toNat % 4 + h.loadLen) / 4) := by
  have hsame := marked_same hL n
  have hh' : h ∈ fileSegments (marked file n) := by rwa [hsame.segments]
  unfold Elf32_Phdr.written at hq
  rw [hbig h hh, (hL.same hsame).words_bytes hh'] at hq
  obtain ⟨t, -, rfl, hv⟩ := piece_some hq
  rw [List.getElem?_append] at hv
  split_ifs at hv with hin
  swap
  · rw [List.getElem?_replicate] at hv
    split_ifs at hv
    cases hv
  rw [List.getElem?_take] at hv
  split_ifs at hv with hk
  rw [List.getElem?_append, List.length_replicate] at hv
  split_ifs at hv with hr
  · rw [List.getElem?_replicate_of_lt hr] at hv
    cases hv
  rw [List.getElem?_take] at hv
  split_ifs at hv with hl
  rw [List.getElem?_drop, marked_byte] at hv
  · split_ifs at hv with hn
    · exact ⟨t - h.p_offset.toNat % 4, by rw [Nat.add_sub_cancel' (Nat.le_of_not_lt hr)], hn, hl, by omega⟩
    · cases hv
  · have := hL.behind h hh
    omega
  · have := hL.loadLen_le hh
    rw [List.length_drop] at this
    omega

variable {dev : δ} (hF : ∀ file', SameHeaders file file' → Faithful mc file' dev)

include hF

/-- The last byte from the file is where it should be: the segment begins at a multiple of four and
fills its words. -/
lemma data_plain (hh : h ∈ fileSegments file) :
    h.p_filesz.toNat = 0 ∨ h.p_offset.toNat % 4 = 0 ∧ h.loadLen = h.p_filesz.toNat ∧
      h.p_filesz.toNat % 4 = 0 := by
  refine or_iff_not_imp_left.mpr fun h0 => ?_
  set n := h.p_offset.toNat + (h.p_filesz.toNat - 1) with hn
  have hsame := marked_same hL n
  have hL' := hL.same hsame
  have hh' : h ∈ fileSegments (marked file n) := by rwa [hsame.segments]
  have hend : n < file.length := by
    rcases hL.inFile h hh with hf | hf
    · exact absurd (by rw [hf]; rfl) h0
    · omega
  have hone := ((hF _ hsame).loaded hL' fun _ _ => 0).2.data h hh' (h.p_filesz.toNat - 1) (by omega)
  rw [← hn, marked_byte (by have := hL.behind h hh; omega) hend, if_pos rfl] at hone
  obtain ⟨h', hm, hone⟩ := hL'.byte_written hh' (by unfold Elf32_Phdr.span; omega) hone
    fun _ _ => by decide
  rw [hsame.segments] at hm
  obtain ⟨t, hq, hat, hlt, hk⟩ := hL.written_one hbig hm hone
  have hle := h'.loadLen_le
  by_cases heq : h = h'
  · subst heq
    have hoff := congrArg Prod.snd hq
    simp only at hoff
    omega
  · have hasc : (fileSegments file).Pairwise fun h h' =>
        h.p_offset.toNat + h.p_filesz.toNat ≤ h'.p_offset.toNat ∨
          h'.p_offset.toNat + h'.p_filesz.toNat ≤ h.p_offset.toNat := hL.ascending.imp Or.inl
    have : Std.Symm fun h h' : Elf32_Phdr => h.p_offset.toNat + h.p_filesz.toNat ≤ h'.p_offset.toNat ∨
        h'.p_offset.toNat + h'.p_filesz.toNat ≤ h.p_offset.toNat := ⟨fun _ _ => Or.symm⟩
    have := hasc.forall hh hm heq
    omega

lemma words_length (hh : h ∈ fileSegments file) : (bytesOf .Big (h.words file)).length =
    h.p_filesz.toNat + 4 * zeroWords h.p_filesz h.p_memsz := by
  have hle := h.loadLen_le
  rw [hL.words_bytes hh, List.length_append, List.length_replicate, List.length_take,
    List.length_append, List.length_replicate, List.length_take_of_le (hL.loadLen_le hh)]
  obtain h0 | ⟨hr, hl, hf⟩ := hL.data_plain hbig hF hh <;> omega

/-- The last byte of a segment is written, and for no other segment: its zeros are one word. -/
lemma memsz_plain (hh : h ∈ fileSegments file) :
    h.p_memsz.toNat ≤ h.p_filesz.toNat ∨ h.p_memsz.toNat = h.p_filesz.toNat + 4 := by
  refine or_iff_not_imp_left.mpr fun hlt => ?_
  have hspan : h.span = h.p_memsz.toNat := by unfold Elf32_Phdr.span; omega
  obtain ⟨hpass, hl⟩ := (hF file ⟨rfl, fun _ _ => rfl⟩).loaded hL fun _ _ => 1
  have hwhole := (hpass h hh).2 (by bv_omega)
  obtain ⟨h', hm, hq⟩ := hL.byte_written hh (t := h.span - 1) (by omega)
    (hl.zeros h hh _ (by omega) (by omega)) fun _ _ => by decide
  unfold Elf32_Phdr.written at hq
  rw [hbig h' hm] at hq
  obtain ⟨t, ht, hx, -⟩ := piece_some hq
  rw [hL.words_length hbig hF hm] at ht
  have hz := Elf32_Phdr.zeroWords_le h'.p_filesz h'.p_memsz
  have hspan' : t < h'.span := by
    unfold Elf32_Phdr.span
    omega
  have heq : h = h' := by
    by_contra hne
    have : Std.Symm fun h h' : Elf32_Phdr => h.p_paddr.toNat + h.span ≤ h'.p_paddr.toNat ∨
        h'.p_paddr.toNat + h'.span ≤ h.p_paddr.toNat := ⟨fun _ _ => Or.symm⟩
    refine hL.place_ne hh hm (hL.apart.forall hh hm hne) (t := h.span - 1) (by omega) hspan' ?_
    rw [hL.place hh (by omega), hL.place hm hspan', hx]
  subst heq
  have hoff := congrArg Prod.snd hx
  simp only at hoff
  unfold zeroWords at ht
  omega

end Loadable

/-- **ELF loading**: a loadable file of plain segments is loaded faithfully, whatever was in memory. In
big-endian banks, headers are loaded faithfully with any contents exactly if their segments are plain. -/
theorem elf_loading_iff (mc : MCtrl δ) (file : List u8) (hL : Loadable mc file) (dev : δ) :
    ((∀ h ∈ fileSegments file, h.Plain mc file) → Faithful mc file dev) ∧
    ((∀ h ∈ fileSegments file, (mc.home h.p_paddr).2 = .Big) →
      ((∀ file', SameHeaders file file' → Faithful mc file' dev) ↔
        ∀ h ∈ fileSegments file, h.Plain mc file)) := by
  refine ⟨fun hp => hL.plain_faithful hp dev, fun hbig => ⟨fun hF h hh => ?_, fun hp file' hsame => ?_⟩⟩
  · have hreached := (((hF file ⟨rfl, fun _ _ => rfl⟩).loaded hL fun _ _ => 0).1 h hh).1
    have hend := h.loadLen_end
    have hoff := h.p_offset.isLt
    refine ⟨hreached, ?_, ?_, hL.memsz_plain hbig hF hh, ?_, hbig h hh⟩ <;>
      obtain h0 | ⟨hr, hl, hf⟩ := hL.data_plain hbig hF hh
    · exact .inl (BitVec.eq_of_toNat_eq h0)
    · exact .inr hr
    all_goals omega
  · refine (hL.same hsame).plain_faithful ?_ dev
    rw [hsame.segments]
    intro h hh
    obtain ⟨h1, h2, h3, h4, h5, h6⟩ := hp h hh
    exact ⟨hsame.length ▸ h1, h2, h3, h4, h5, h6⟩

/-- The header of an executable with one segment of `fsz` bytes at `0x54`, for main memory. -/
def oneSegment (fsz msz : u8) (data : List u8) : List u8 :=
  [0x7f, 0x45, 0x4c, 0x46] ++ List.replicate 12 0 ++ [0, 2, 0, 2] ++ List.replicate 24 0 ++ [0, 1] ++
    List.replicate 6 0 ++
    [0, 0, 0, 1, 0, 0, 0, 0x54, 0x40, 0, 0, 0, 0x40, 0, 0, 0, 0, 0, 0, fsz, 0, 0, 0, msz] ++
    List.replicate 8 0 ++ data

/-- Four bytes from the file, and four of zeros. -/
def plainFile : List u8 := oneSegment 4 8 [1, 2, 3, 4]

/-- Four bytes from the file, and eight of zeros. -/
def bssFile : List u8 := oneSegment 4 12 [1, 2, 3, 4]

def smallRam : MCtrl Unit := MCtrl.ram [(0x40000000, 0x1000)]

lemma smallRam_range {len : Nat} (h : len ≤ 0x1000) :
    RamRange smallRam 0x40000000 len 0 ⟨.RamBank, 0x40000000, 0x1000, .Big⟩ where
  ram := rfl
  bank t ht := by
    have hbase : (0x40000000 : u32).toNat = 0x40000000 := rfl
    have hpa : ((0x40000000 : u32) + BitVec.ofNat 32 t).toNat = 0x40000000 + t := by
      rw [BitVec.toNat_add, BitVec.toNat_ofNat, Nat.mod_eq_of_lt (show t < 2 ^ 32 by omega), hbase]
      exact Nat.mod_eq_of_lt (by omega)
    refine ⟨by omega, if_pos ?_⟩
    unfold IMemoryBank.contains
    rw [hpa, hbase]
    simp
    omega

lemma Loadable.single {h : Elf32_Phdr} (hA : Accepted file) (hn : phnum file = 1)
    (hs : fileSegments file = [h]) (ho : sizeofEhdr + sizeofPhdr ≤ h.p_offset.toNat)
    (hf : h.p_offset.toNat + h.p_filesz.toNat ≤ file.length)
    (hr : RamRange mc h.p_paddr h.span i b) : Loadable mc file := by
  refine ⟨hA, by omega, by rw [hn]; omega, ?_, ?_, ?_, ?_, ?_⟩ <;>
    simp only [hs, hn, List.mem_singleton, forall_eq, List.pairwise_singleton, Nat.one_mul]
  exacts [ho, .inr hf, ⟨i, b, hr⟩]

lemma plainFile_segments : fileSegments plainFile = [⟨0x54, 0x40000000, 4, 8⟩] := by decide +kernel

lemma plainFile_loadable : Loadable smallRam plainFile :=
  .single ⟨by decide +kernel, by decide, by decide, by decide⟩ (by decide) plainFile_segments
    (by decide) (by decide +kernel) (smallRam_range (by decide))

/-- The plain file is loaded as it should be. -/
theorem elf_loading_plain : Loadable smallRam plainFile ∧
    ∃ r s, ReadElf smallRam (fun _ => 0) plainFile ⟨fun _ _ => 0xff, ()⟩ = .ok r s ∧
      Loaded smallRam plainFile ⟨fun _ _ => 0xff, ()⟩ s.mem := by
  refine ⟨plainFile_loadable, (elf_loading_iff smallRam plainFile plainFile_loadable ()).1
    (fun h hh => ?_) _ _⟩
  rw [plainFile_segments, List.mem_singleton] at hh
  subst hh
  exact ⟨by decide +kernel, Or.inr rfl, rfl, Or.inr rfl, by decide, rfl⟩

lemma bssFile_segments : fileSegments bssFile = [⟨0x54, 0x40000000, 4, 12⟩] := by decide +kernel

lemma bssFile_run : ∃ r s, ReadElf smallRam (fun _ => 0) bssFile ⟨fun _ _ => 0xff, ()⟩ = .ok r s ∧
    s.mem.bytes 0 8 = 0xff :=
  exists_ok (by decide +kernel) (by decide +kernel)

/-- Of eight bytes that should be cleared, four are. -/
theorem bss_not_cleared : Loadable smallRam bssFile ∧
    ∃ r s, ReadElf smallRam (fun _ => 0) bssFile ⟨fun _ _ => 0xff, ()⟩ = .ok r s ∧
      ¬ Loaded smallRam bssFile ⟨fun _ _ => 0xff, ()⟩ s.mem := by
  refine ⟨.single ⟨by decide +kernel, by decide, by decide, by decide⟩ (by decide) bssFile_segments
    (by decide) (by decide +kernel) (smallRam_range (by decide)), ?_⟩
  obtain ⟨r, s, hr, hbyte⟩ := bssFile_run
  refine ⟨r, s, hr, fun hl => ?_⟩
  have hzero := hl.zeros ⟨0x54, 0x40000000, 4, 12⟩ (by rw [bssFile_segments]; simp) 8 (by decide)
    (by decide)
  have hplace : smallRam.place (Elf32_Phdr.addr ⟨0x54, 0x40000000, 4, 12⟩ 8) = some (0, 8) := by
    decide
  unfold MCtrl.byte at hzero
  rw [hplace, Option.map_some, hbyte] at hzero
  exact absurd hzero (by decide)

end SparcEmu
