import SparcEmu.ReadElf
import SparcEmu.Lib.Effect

/-!
The headers of an ELF file: how the loader gets them from the file, and when its program header
buffer overflows.
-/

namespace SparcEmu

open Lib.Effect

variable {δ : Type} {mc : MCtrl δ}

def fileHeader (file : List u8) : Elf32_Ehdr := ehdrOf fun k => file.getD k 0

structure Accepted (file : List u8) : Prop where
  length : sizeofEhdr ≤ file.length
  ident : (fileHeader file).e_ident = ELF_IDENT
  type : (fileHeader file).e_type = ET_EXEC
  machine : (fileHeader file).e_machine = EM_SPARC

def phnum (file : List u8) : Nat := (fileHeader file).e_phnum.toNat

namespace ReadElf

variable {s : ElfSt δ}

lemma count_succ (c : u32) (n : Nat) : c + 1 + BitVec.ofNat 32 n = c + BitVec.ofNat 32 (n + 1) := by
  rw [BitVec.add_assoc, Nat.add_comm n 1, BitVec.ofNat_add]
  rfl

def after (s : ElfSt δ) (n : Nat) : ElfSt δ :=
  { s with input := s.input.drop n, bytecount := s.bytecount + BitVec.ofNat 32 n }

@[simp] lemma after_zero (s : ElfSt δ) : after s 0 = s := by
  unfold after
  simp

lemma after_cons {c : u8} {input : List u8} (hin : s.input = c :: input) (n : Nat) :
    after { s with input := input, bytecount := s.bytecount + 1 } n = after s (n + 1) := by
  unfold after
  simp only [hin, List.drop_succ_cons, ElfSt.mk.injEq, true_and, and_true]
  exact count_succ _ n

/-! ### The file header -/

lemma header_ok (n : Nat) (h : n ≤ s.input.length) :
    header n s = .ok (s.input.take n) (after s n) := by
  induction n generalizing s with
  | zero => rw [after_zero]; rfl
  | succ n ih =>
    cases hin : s.input with
    | nil => rw [hin] at h; simp at h
    | cons c input =>
      have hget : get s = .ok (some c) { s with input := input } := by
        unfold get
        rw [hin]
      have hrest : n ≤ input.length := by rw [hin] at h; simpa using h
      unfold header
      rw [bind_ok hget, bind_ok (show count _ = .ok () _ from rfl)]
      dsimp only
      rw [bind_ok (ih hrest)]
      rw [after_cons hin]
      rfl

lemma header_short (n : Nat) (h : s.input.length < n) :
    ∃ t, header n s = .error (.exit "*** ReadElf(): unexpected EOF\n") t := by
  induction n generalizing s with
  | zero => simp at h
  | succ n ih =>
    unfold header
    cases hin : s.input with
    | nil =>
      have hget : get s = .ok none s := by
        unfold get
        rw [hin]
      rw [bind_ok hget, bind_ok (show count _ = .ok () _ from rfl)]
      exact ⟨_, rfl⟩
    | cons c input =>
      have hget : get s = .ok (some c) { s with input := input } := by
        unfold get
        rw [hin]
      rw [bind_ok hget, bind_ok (show count _ = .ok () _ from rfl)]
      obtain ⟨t, ht⟩ := ih (s := { s with input := input, bytecount := s.bytecount + 1 })
        (by rw [hin] at h; simpa using h)
      dsimp only
      rw [bind_error ht]
      exact ⟨t, rfl⟩

/-! ### The program headers -/

/-- `n` bytes of the program header buffer, from `index` on. -/
def fill (index : Nat) : Nat → ElfM δ Unit
  | 0 => pure ()
  | n + 1 => do
    headerByte index
    fill (index + 1) n

lemma fill_add (index m n : Nat) :
    (fill index (m + n) : ElfM δ Unit) = (do fill index m; fill (index + m) n) := by
  induction m generalizing index with
  | zero =>
    rw [Nat.zero_add]
    rfl
  | succ m ih =>
    rw [Nat.succ_add]
    show (do headerByte index; fill (index + 1) (m + n)) = _
    rw [ih]
    funext s
    show _ = ((do headerByte index; fill (index + 1) m) >>= fun _ => fill (index + (m + 1)) n) s
    rw [show index + (m + 1) = index + 1 + m by omega]
    cases hb : headerByte index s with
    | ok _ t =>
      rw [bind_ok hb]
      cases hm : fill (index + 1) m t with
      | ok _ t' => rw [bind_ok hm, bind_ok ((bind_ok hb).trans hm)]
      | error e t' => rw [bind_error hm, bind_error ((bind_ok hb).trans hm)]
    | error e t => rw [bind_error hb, bind_error (bind_error hb)]

lemma headerBytes_eq (pcount i n : Nat) :
    (headerBytes pcount i n : ElfM δ Unit) = fill (i + pcount * sizeofPhdr) n := by
  induction n generalizing i with
  | zero => rfl
  | succ n ih =>
    unfold headerBytes fill
    rw [ih, Nat.add_right_comm]

lemma headers_eq (pcount n : Nat) :
    (headers pcount n : ElfM δ Unit) = fill (pcount * sizeofPhdr) (n * sizeofPhdr) := by
  induction n generalizing pcount with
  | zero => rw [Nat.zero_mul]; rfl
  | succ n ih =>
    unfold headers
    rw [ih, headerBytes_eq, Nat.zero_add, Nat.succ_mul n, Nat.add_comm (n * sizeofPhdr), fill_add,
      Nat.succ_mul pcount]

variable {index : Nat}

lemma headerByte_cons {c : u8} {input : List u8} (hin : s.input = c :: input)
    (hi : index < sizeofBuf2) : headerByte index s =
      .ok () { s with
        input := input
        bytecount := s.bytecount + 1
        buf2 := Function.update s.buf2 index c } := by
  have hget : get s = .ok (some c) { s with input := input } := by
    unfold get
    rw [hin]
  unfold headerByte
  rw [bind_ok hget, bind_ok (show setBuf2 index (Option.getD (some c) 0xff) _ = .ok () _ from if_pos hi)]
  rfl

lemma headerByte_nil (hin : s.input = []) (hi : index < sizeofBuf2) :
    ∃ t, headerByte index s = .error (.exit "*** ReadElf(): unexpected EOF\n") t := by
  have hget : get s = .ok none s := by
    unfold get
    rw [hin]
  unfold headerByte
  rw [bind_ok hget, bind_ok (show setBuf2 index (Option.getD none 0xff) _ = .ok () _ from if_pos hi)]
  exact ⟨_, rfl⟩

lemma headerByte_overflow (hi : ¬ index < sizeofBuf2) :
    ∃ t, headerByte index s = .error (.overflow index) t := by
  obtain ⟨c, t, hget⟩ : ∃ c t, get s = .ok c t := by
    unfold get
    cases s.input with
    | nil => exact ⟨_, _, rfl⟩
    | cons c input => exact ⟨_, _, rfl⟩
  unfold headerByte
  rw [bind_ok hget, bind_error (show setBuf2 index _ _ = .error (.overflow index) _ from if_neg hi)]
  exact ⟨_, rfl⟩

lemma fill_ok (index n : Nat) (hn : n ≤ s.input.length) (hi : index + n ≤ sizeofBuf2) :
    ∃ t, fill index n s = .ok () t ∧ t.input = s.input.drop n ∧ t.mem = s.mem ∧
      t.bytecount = s.bytecount + BitVec.ofNat 32 n ∧
      ∀ j, t.buf2 j = if index ≤ j ∧ j < index + n then s.input.getD (j - index) 0 else s.buf2 j := by
  induction n generalizing s index with
  | zero =>
    refine ⟨s, rfl, rfl, rfl, (BitVec.add_zero _).symm, fun j => ?_⟩
    rw [if_neg (by omega)]
  | succ n ih =>
    cases hin : s.input with
    | nil => rw [hin] at hn; simp at hn
    | cons c input =>
      obtain ⟨t, ht, hinp, hmem, hcnt, hbuf⟩ := ih (index + 1)
        (s := { s with
          input := input
          bytecount := s.bytecount + 1
          buf2 := Function.update s.buf2 index c })
        (by rw [hin] at hn; simpa using hn) (by omega)
      refine ⟨t, (bind_ok (headerByte_cons hin (by omega))).trans ht, hinp, hmem, ?_, fun j => ?_⟩
      · rw [hcnt]
        exact count_succ _ n
      · rw [hbuf]
        by_cases hj : j = index
        · subst hj
          rw [if_neg (by omega), if_pos (by omega), Nat.sub_self]
          simp
        · by_cases hr : index + 1 ≤ j ∧ j < index + 1 + n
          · rw [if_pos hr, if_pos (by omega), show j - index = j - (index + 1) + 1 by omega]
            rfl
          · rw [if_neg hr, if_neg (by omega)]
            exact Function.update_of_ne hj ..

lemma fill_short (index n : Nat) (hn : s.input.length < n) (hi : index + s.input.length < sizeofBuf2) :
    ∃ t, fill index n s = .error (.exit "*** ReadElf(): unexpected EOF\n") t := by
  induction n generalizing s index with
  | zero => simp at hn
  | succ n ih =>
    cases hin : s.input with
    | nil =>
      obtain ⟨t, ht⟩ := headerByte_nil hin (show index < sizeofBuf2 by omega)
      exact ⟨t, bind_error ht⟩
    | cons c input =>
      rw [hin, List.length_cons] at hn hi
      obtain ⟨t, ht⟩ := ih (index + 1)
        (s := { s with
          input := input
          bytecount := s.bytecount + 1
          buf2 := Function.update s.buf2 index c })
        (Nat.lt_of_succ_lt_succ hn) (show index + 1 + input.length < sizeofBuf2 by omega)
      exact ⟨t, (bind_ok (headerByte_cons hin (by omega))).trans ht⟩

lemma fill_overflow (n : Nat) (hn : sizeofBuf2 < n) (hlen : sizeofBuf2 ≤ s.input.length) :
    ∃ t, fill 0 n s = .error (.overflow sizeofBuf2) t := by
  obtain ⟨t, ht, -⟩ := fill_ok (s := s) 0 sizeofBuf2 hlen (by omega)
  obtain ⟨k, rfl⟩ : ∃ k, n = sizeofBuf2 + (k + 1) := ⟨n - sizeofBuf2 - 1, by omega⟩
  obtain ⟨t', ht'⟩ := headerByte_overflow (s := t) (Nat.lt_irrefl sizeofBuf2)
  rw [fill_add, bind_ok ht, Nat.zero_add]
  exact ⟨t', bind_error ht'⟩

/-! ### Programs that stay inside the buffer -/

/-- The program never leaves the program header buffer. -/
def InBounds {α : Type} (m : ElfM δ α) : Prop :=
  Hoare (fun _ => True) m (fun _ _ => True) fun e _ => ∀ i, e ≠ .overflow i

variable {α : Type}

lemma InBounds.bind {β : Type} {m : ElfM δ α} {k : α → ElfM δ β} (hm : InBounds m)
    (hk : ∀ a, InBounds (k a)) : InBounds (m >>= k) := Hoare.bind hm hk

lemma InBounds.pure (a : α) : InBounds (pure a : ElfM δ α) := Hoare.pure fun _ _ => trivial

lemma inBounds_get : InBounds (get : ElfM δ (Option u8)) := by
  intro s _
  unfold get
  cases s.input with
  | nil => trivial
  | cons c input => trivial

lemma inBounds_eof : InBounds (eof : ElfM δ α) := fun _ _ i => by simp

lemma inBounds_count : InBounds (count : ElfM δ Unit) := fun _ _ => trivial

lemma inBounds_bytecount : InBounds (bytecount : ElfM δ u32) := fun _ _ => trivial

lemma inBounds_write32 (addr val : u32) : InBounds (write32 mc addr val) := by
  intro s _
  unfold write32
  cases mc.write32 addr val s.mem with
  | ok m => trivial
  | error e => exact fun i => by simp

lemma inBounds_tryWrite32 (addr val : u32) : InBounds (tryWrite32 mc addr val) := by
  intro s _
  unfold tryWrite32
  cases mc.write32 addr val s.mem with
  | ok m => trivial
  | error e => trivial

lemma inBounds_gobble (n : Nat) : InBounds (gobble n : ElfM δ Unit) := by
  induction n with
  | zero => exact .pure ()
  | succ n ih =>
    refine .bind inBounds_get fun c => ?_
    cases c with
    | none => exact inBounds_eof
    | some c => exact .bind inBounds_count fun _ => ih

lemma inBounds_load (pa : u32) (n : Nat) (i word : u32) : InBounds (load mc pa n i word) := by
  induction n generalizing i word with
  | zero => exact .pure i
  | succ n ih =>
    refine .bind inBounds_get fun c => ?_
    cases c with
    | none => exact inBounds_eof
    | some c =>
      refine .bind inBounds_bytecount fun pos => ?_
      refine Hoare.ite (fun _ => ?_) fun _ => InBounds.bind inBounds_count fun _ => ih i _
      exact InBounds.bind (inBounds_write32 _ _) fun _ => .bind inBounds_count fun _ => ih (i + 4) 0

lemma inBounds_zeroFill (addr j : u32) (n : Nat) : InBounds (zeroFill mc addr j n) := by
  induction n generalizing j with
  | zero => exact .pure ()
  | succ n ih => exact .bind (inBounds_tryWrite32 _ _) fun _ => ih (j + 4)

lemma inBounds_clear (addr fsz msz : u32) : InBounds (clear mc addr fsz msz) := by
  refine Hoare.ite (fun _ => InBounds.bind (inBounds_zeroFill _ _ _) fun _ => ?_)
    fun _ => InBounds.pure ()
  exact Hoare.ite (fun _ _ _ i => by simp) fun _ => InBounds.pure ()

lemma inBounds_segment {pcount : Nat} (h : pcount < 4) : InBounds (segment mc pcount) := by
  have hphdr : InBounds (phdr pcount : ElfM δ Elf32_Phdr) := by
    intro s _
    unfold phdr
    rw [if_pos (by unfold sizeofBuf2 sizeofPhdr; omega)]
    trivial
  refine .bind hphdr fun h => .bind inBounds_bytecount fun _ => .bind (inBounds_gobble _) fun _ => ?_
  refine .bind inBounds_bytecount fun _ => .bind (inBounds_load _ _ _ _) fun i => ?_
  exact .bind (inBounds_clear _ _ _) fun _ => .pure i

lemma inBounds_segments {pcount n : Nat} (h : pcount + n ≤ 4) (text_count : u32) :
    InBounds (segments mc pcount text_count n) := by
  induction n generalizing pcount text_count with
  | zero => exact .pure _
  | succ n ih => exact .bind (inBounds_segment (by omega)) fun i => ih (by omega) _

variable {h : Elf32_Ehdr}

lemma check_ok_iff {t : ElfSt δ} : check h s = .ok () t ↔
    (h.e_ident = ELF_IDENT ∧ h.e_type = ET_EXEC ∧ h.e_machine = EM_SPARC) ∧ t = s := by
  unfold check
  split_ifs with h1 h2 h3
  · exact ⟨nofun, fun h => absurd h.1.1 h1⟩
  · exact ⟨nofun, fun h => absurd h.1.2.1 h2⟩
  · exact ⟨nofun, fun h => absurd h.1.2.2 h3⟩
  · push Not at h1 h2 h3
    constructor
    · rintro ⟨⟩
      exact ⟨⟨h1, h2, h3⟩, rfl⟩
    · rintro ⟨-, rfl⟩
      rfl

lemma inBounds_check (h : Elf32_Ehdr) : InBounds (check h : ElfM δ Unit) := by
  unfold check
  split_ifs
  · exact fun _ _ i => by simp
  · exact fun _ _ i => by simp
  · exact fun _ _ i => by simp
  · exact .pure ()

/-! ### The file header decides -/

variable {f g : Nat → u8}

lemma host16_congr {k : Nat} (h : ∀ j, k ≤ j → j < k + 2 → f j = g j) :
    host16 f k = host16 g k := by
  unfold host16
  rw [h k (by omega) (by omega), h (k + 1) (by omega) (by omega)]

lemma host32_congr {k : Nat} (h : ∀ j, k ≤ j → j < k + 4 → f j = g j) :
    host32 f k = host32 g k := by
  unfold host32
  rw [h k (by omega) (by omega), h (k + 1) (by omega) (by omega), h (k + 2) (by omega) (by omega),
    h (k + 3) (by omega) (by omega)]

lemma ehdrOf_congr (h : ∀ j, j < sizeofEhdr → f j = g j) : ehdrOf f = ehdrOf g := by
  have hle : sizeofEhdr = 52 := rfl
  have hid : (List.range 4).map f = (List.range 4).map g := by
    refine List.map_congr_left fun k hk => h k ?_
    have := List.mem_range.mp hk
    omega
  unfold ehdrOf
  rw [hid, host16_congr fun j _ hj => h j (by omega), host16_congr fun j _ hj => h j (by omega),
    host32_congr fun j _ hj => h j (by omega), host16_congr fun j _ hj => h j (by omega)]

def rest (mc : MCtrl δ) (h : Elf32_Ehdr) : ElfM δ (u32 × u32) := do
  headers 0 h.e_phnum.toNat
  let text_count ← segments mc 0 0 h.e_phnum.toNat
  pure (text_count / 4, h.e_entry)

lemma body_header (h : sizeofEhdr ≤ s.input.length) : body mc s =
    (do check (fileHeader s.input); rest mc (fileHeader s.input)) (after s sizeofEhdr) := by
  have heq : (ehdrOf fun k => (s.input.take sizeofEhdr).getD k 0) = fileHeader s.input := by
    refine ehdrOf_congr fun j hj => ?_
    simp [hj]
  unfold body
  rw [bind_ok (header_ok sizeofEhdr h), ← heq]
  rfl

lemma body_accepted (h : Accepted s.input) :
    body mc s = rest mc (fileHeader s.input) (after s sizeofEhdr) := by
  rw [body_header h.length]
  exact bind_ok (check_ok_iff.mpr ⟨⟨h.ident, h.type, h.machine⟩, rfl⟩)

lemma body_rejected (h : ¬ Accepted s.input) : ∀ i t, body mc s ≠ .error (.overflow i) t := by
  intro i t
  by_cases hlen : sizeofEhdr ≤ s.input.length
  · rw [body_header hlen]
    cases hc : check (fileHeader s.input) (after s sizeofEhdr) with
    | error e t' =>
      rw [bind_error hc]
      rintro ⟨⟩
      exact (inBounds_check _).error trivial hc i rfl
    | ok _ t' =>
      obtain ⟨⟨h1, h2, h3⟩, -⟩ := check_ok_iff.mp hc
      exact absurd ⟨hlen, h1, h2, h3⟩ h
  · obtain ⟨t', ht⟩ := header_short sizeofEhdr (Nat.lt_of_not_le hlen)
    unfold body
    rw [bind_error ht]
    rintro ⟨⟩

lemma inBounds_rest (hn : h.e_phnum.toNat ≤ 4) : InBounds (rest mc h) := by
  have hle : h.e_phnum.toNat * sizeofPhdr ≤ sizeofBuf2 := by
    unfold sizeofBuf2
    rw [Nat.mul_comm]
    exact Nat.mul_le_mul_left _ hn
  have hfill : InBounds (headers 0 h.e_phnum.toNat : ElfM δ Unit) := by
    intro s _
    rw [headers_eq, Nat.zero_mul]
    by_cases hlen : h.e_phnum.toNat * sizeofPhdr ≤ s.input.length
    · obtain ⟨t, ht, -⟩ := fill_ok 0 _ hlen (by omega)
      rw [ht]
      trivial
    · obtain ⟨t, ht⟩ := fill_short 0 (h.e_phnum.toNat * sizeofPhdr) (Nat.lt_of_not_le hlen) (by omega)
      rw [ht]
      exact fun i => by simp
  exact hfill.bind fun _ => .bind (inBounds_segments (by omega) 0) fun _ => .pure _

lemma rest_overflow (hn : 4 < h.e_phnum.toNat) :
    (∃ i t, rest mc h s = .error (.overflow i) t) ↔ sizeofBuf2 ≤ s.input.length := by
  have hlt : sizeofBuf2 < h.e_phnum.toNat * sizeofPhdr := by
    unfold sizeofBuf2
    rw [Nat.mul_comm]
    exact Nat.mul_lt_mul_of_pos_right hn (by decide)
  unfold rest
  rw [headers_eq, Nat.zero_mul]
  constructor
  · rintro ⟨i, t, hr⟩
    by_contra hlen
    obtain ⟨t', ht⟩ := fill_short 0 (h.e_phnum.toNat * sizeofPhdr) (s := s) (by omega) (by omega)
    rw [bind_error ht] at hr
    cases hr
  · intro hlen
    obtain ⟨t, ht⟩ := fill_overflow _ hlt hlen
    exact ⟨_, t, bind_error ht⟩

end ReadElf

/-- **The program header buffer**: the loader stays inside it exactly if the file is rejected by its
header, has at most four program headers, or ends within the first four. -/
theorem program_headers_in_bounds (mc : MCtrl δ) (uninitialised : Nat → u8) (file : List u8)
    (m : Mem δ) :
    (∀ i s, ReadElf mc uninitialised file m ≠ .error (.overflow i) s) ↔
      ¬ (Accepted file ∧ 4 < phnum file ∧ sizeofEhdr + sizeofBuf2 ≤ file.length) := by
  unfold ReadElf
  by_cases hA : Accepted file
  · have hlen := hA.length
    rw [ReadElf.body_accepted (s := ⟨file, 0, uninitialised, m⟩) hA]
    by_cases hn : 4 < phnum file
    · have hiff : (∃ i t, ReadElf.rest mc (fileHeader file)
          (ReadElf.after ⟨file, 0, uninitialised, m⟩ sizeofEhdr) = .error (.overflow i) t) ↔ _ :=
        ReadElf.rest_overflow hn
      have hdrop : (ReadElf.after ⟨file, 0, uninitialised, m⟩ sizeofEhdr).input.length =
          file.length - sizeofEhdr := List.length_drop
      rw [hdrop] at hiff
      have hle : sizeofBuf2 ≤ file.length - sizeofEhdr ↔ sizeofEhdr + sizeofBuf2 ≤ file.length := by
        omega
      rw [hle] at hiff
      simp only [hA, hn, true_and, ← hiff, not_exists]
    · refine ⟨fun _ h => hn h.2.1, fun _ i t h => ?_⟩
      exact (ReadElf.inBounds_rest (Nat.le_of_not_lt hn)).error trivial h i rfl
  · exact ⟨fun _ h => hA h.1, fun _ => ReadElf.body_rejected hA⟩

/-- A file header with five program headers, and zeros behind it. -/
def fiveHeaders : List u8 :=
  [0x7f, 0x45, 0x4c, 0x46] ++ List.replicate 12 0 ++ [0, 2, 0, 2] ++ List.replicate 24 0 ++ [0, 5] ++
    List.replicate 134 0

/-- The fifth program header is written behind the end of the buffer. -/
theorem fifth_header_overflows : ∃ i s, ReadElf (MCtrl.ram [(0x40000000, 0x1000)]) (fun _ => 0)
    fiveHeaders ⟨fun _ _ => 0, ()⟩ = .error (.overflow i) s := by
  have hA : Accepted fiveHeaders := 
    ⟨by decide +kernel, by decide, by decide, by decide⟩
  unfold ReadElf
  rw [ReadElf.body_accepted hA, ReadElf.rest_overflow (by decide)]
  decide +kernel

end SparcEmu
