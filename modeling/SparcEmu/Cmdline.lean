import SparcEmu.Access
import SparcEmu.BankLookup
import SparcEmu.Lib.Scan
import Mathlib.Data.List.GetD

/-!
The kernel command line that `sparcv8_leon_smp.cpp` patches before the boot: the bytes of a bank are
scanned for `console=`, and the string found there is replaced or extended in place.

Positions are numbers below `2 ^ 32`, as the source's `uint32_t`; the sums and differences that could
leave that range are reduced. A patch is the list of the byte stores that `memset` and `memcpy` make,
so that a store outside the bank shows even where it would write what is there.
-/

namespace SparcEmu.Cmdline

open Lib.Scan

/-! ### Stores through the pointer -/

/-- A byte and where it goes. -/
abbrev Store := HostPtr × u8

/-- The stores of `memcpy(mem + i, l, size of l)` into the buffer of bank `k`. -/
def memcpy (k : Nat) : Nat → List u8 → List Store
  | _, [] => []
  | i, v :: l => (⟨k, i⟩, v) :: memcpy k (i + 1) l

def memset (k i : Nat) (v : u8) (n : Nat) : List Store := memcpy k i (List.replicate n v)

/-- The host bytes after the stores. -/
def perform (ss : List Store) (h : HostBytes) : HostBytes :=
  ss.foldl (fun h s => setByte h s.1.bank s.1.off s.2) h

/-! ### The scan -/

def needle : List u8 := [0x63, 0x6f, 0x6e, 0x73, 0x6f, 0x6c, 0x65, 0x3d]

def bytesAt (mem : Nat → u8) (i n : Nat) : List u8 := (List.range n).map fun k => mem (i + k)

/-- What the scan sees of a bank: the bytes behind `get_ptr`, and `get_size`. -/
structure Buf where
  mem : Nat → u8
  sz : Nat

namespace Buf

variable (b : Buf)

/-- `end`: the first zero from `i` on, or the end of the bank. -/
def str_end (i : Nat) : Nat := scanUp (fun e => b.mem e ≠ 0) b.sz i

def str_len (i : Nat) : Nat := b.str_end i - i

/-- The two tests behind which the loop continues with the next position. -/
def skips (min_len i : Nat) : Bool :=
  decide (bytesAt b.mem i needle.length ≠ needle) || decide (b.str_len i < min_len)

/-- Where the loop over the bank stops. -/
def scan (min_len : Nat) : Nat := scanUp (b.skips min_len) (b.sz - needle.length) 0

/-- The end of the window for the zeros behind the string, a sum on 32 bits. -/
def max_scan (i : Nat) : Nat := min b.sz ((i + 512) % 2 ^ 32)

def cap_end (i : Nat) : Nat := scanUp (fun e => b.mem e = 0) (b.max_scan i) (b.str_end i)

def capacity (i : Nat) : Nat := b.cap_end i - i

def write_cmd (append : Bool) (new_cmd : List u8) (i : Nat) : List u8 :=
  if append then bytesAt b.mem i (b.str_len i) ++ [0x20] ++ new_cmd else new_cmd

/-- How much of it: `capacity - 1` is a difference on 32 bits. -/
def write_len (append : Bool) (new_cmd : List u8) (i : Nat) : Nat :=
  min (b.write_cmd append new_cmd i).length ((b.capacity i + (2 ^ 32 - 1)) % 2 ^ 32)

/-- The stores at the match: the room is cleared and the string written. -/
def patch (k : Nat) (append : Bool) (new_cmd : List u8) (i : Nat) : List Store :=
  memset k i 0 (b.capacity i) ++
    memcpy k i ((b.write_cmd append new_cmd i).take (b.write_len append new_cmd i))

end Buf

def buf (h : HostBytes) (k : Nat) (bank : IMemoryBank) : Buf := ⟨fun o => h k o, bank.get_size.toNat⟩

/-- Whether a string was found, and the stores made. -/
def try_patch_cmdline_in_bank {δ : Type} (mctrl : MCtrl δ) (bank_base : u32) (new_cmd : List u8)
    (append : Bool) (min_len : u32) (h : HostBytes) : Except HostError (Bool × List Store) :=
  match mctrl.get_bank bank_base with
  | none => .ok (false, [])
  | some (k, bank) =>
    match bank.get_ptr with
    | .error e => .error e
    | .ok false => .ok (false, [])
    | .ok true =>
      let b := buf h k bank
      let i := b.scan min_len.toNat
      if i + needle.length < b.sz then .ok (true, b.patch k append new_cmd i) else .ok (false, [])

/-- The PROM first, then main memory, where only a long string counts. -/
def patch_cmdline {δ : Type} (mctrl : MCtrl δ) (new_cmd : List u8) (append : Bool) (h : HostBytes) :
    Except HostError (List Store) := do
  let (found, ss) ← try_patch_cmdline_in_bank mctrl 0xffff0000 new_cmd append 0 h
  if found then return ss
  let (_, ss) ← try_patch_cmdline_in_bank mctrl 0x40000000 new_cmd append 40 h
  return ss

/-! ### What a patch should be -/

/-- The position of the first string that the search accepts. -/
structure Buf.FirstMatch (b : Buf) (min_len i : Nat) : Prop where
  room : i + needle.length < b.sz
  console : bytesAt b.mem i needle.length = needle
  long : min_len ≤ b.str_len i
  first : ∀ j < i, bytesAt b.mem j needle.length = needle → b.str_len j < min_len

/-- The zeros behind the string at `i`, up to 512 bytes from `i`. -/
def Buf.zerosAfter (b : Buf) (i : Nat) : Nat :=
  scanUp (fun e => b.mem e = 0) (min b.sz (i + 512)) (b.str_end i) - b.str_end i

/-- From position `i` on stands the string `w`, with its terminator. -/
structure HoldsString (mem : Nat → u8) (i : Nat) (w : List u8) : Prop where
  bytes : bytesAt mem i w.length = w
  nonzero : 0 ∉ w
  terminated : mem (i + w.length) = 0

/-- The stores `ss` patch the string at `i` in bank `k`: they stay in the bank, a byte that they change
belonged to the string or was zero, and a prefix of the string asked for stands at `i`, all of it if
it fits. -/
structure Patched (h : HostBytes) (k : Nat) (bank : IMemoryBank) (append : Bool) (new_cmd : List u8)
    (i : Nat) (ss : List Store) : Prop where
  inside : ∀ s ∈ ss, s.1.bank = k ∧ 0 ≤ s.1.off ∧ s.1.off < bank.size
  changed : ∀ j o, perform ss h j o ≠ h j o →
    j = k ∧ (h j o = 0 ∨ ((i : Int) ≤ o ∧ o < i + (buf h k bank).str_len i))
  written : ∃ w, w <+: (buf h k bank).write_cmd append new_cmd i ∧
    HoldsString (buf (perform ss h) k bank).mem i w ∧ i + w.length < bank.size ∧
    (((buf h k bank).write_cmd append new_cmd i).length <
        (buf h k bank).str_len i + (buf h k bank).zerosAfter i →
      w = (buf h k bank).write_cmd append new_cmd i)

/-- The call patches the string it finds as it should, and changes nothing if it finds none. -/
def CorruptsNothing {δ : Type} (mctrl : MCtrl δ) (bank_base : u32) (new_cmd : List u8) (append : Bool)
    (min_len : u32) (h : HostBytes) : Prop :=
  ∀ found ss, try_patch_cmdline_in_bank mctrl bank_base new_cmd append min_len h = .ok (found, ss) →
    (found = true → ∃ k bank i, mctrl.get_bank bank_base = some (k, bank) ∧
      (buf h k bank).FirstMatch min_len.toNat i ∧ Patched h k bank append new_cmd i ss) ∧
    (found = false → perform ss h = h)

/-! ### Stores -/

lemma perform_append (ss ss' : List Store) (h : HostBytes) :
    perform (ss ++ ss') h = perform ss' (perform ss h) := List.foldl_append

lemma perform_frame {ss : List Store} {j : Nat} {o : Int}
    (hs : ∀ s ∈ ss, s.1.bank = j → s.1.off ≠ o) (h : HostBytes) : perform ss h j o = h j o := by
  induction ss generalizing h with
  | nil => rfl
  | cons s ss ih =>
    show perform ss (setByte h s.1.bank s.1.off s.2) j o = h j o
    rw [ih fun t ht => hs t (List.mem_cons_of_mem s ht)]
    have hne := hs s List.mem_cons_self
    unfold setByte
    rw [if_neg]
    rintro ⟨rfl, rfl⟩
    exact hne rfl rfl

variable {k i : Nat} {s : Store}

lemma memcpy_range {l : List u8} (hs : s ∈ memcpy k i l) :
    s.1.bank = k ∧ (i : Int) ≤ s.1.off ∧ s.1.off < (i + l.length : Nat) := by
  induction l generalizing i with
  | nil => cases hs
  | cons v l ih =>
    rw [List.length_cons]
    rcases List.mem_cons.mp hs with rfl | hs
    · refine ⟨rfl, le_refl _, ?_⟩
      show (i : Int) < _
      omega
    · obtain ⟨hk, h₁, h₂⟩ := ih hs
      exact ⟨hk, by omega, by omega⟩

lemma perform_memcpy (k : Nat) {l : List u8} : ∀ {i n : Nat} (hn : n < l.length) (h : HostBytes),
    perform (memcpy k i l) h k (i + n : Nat) = l[n] := by
  induction l with
  | nil => intro i n hn; exact absurd hn (Nat.not_lt_zero n)
  | cons v l ih =>
    intro i n hn h
    show perform (memcpy k (i + 1) l) (setByte h k i v) k (i + n : Nat) = (v :: l)[n]
    cases n with
    | zero =>
      -- the later stores go behind this one
      rw [perform_frame]
      · simp [setByte]
      · intro s hs _
        have := (memcpy_range hs).2.1
        omega
    | succ n =>
      have := ih (i := i + 1) (n := n) (by simpa using hn) (setByte h k i v)
      rw [show i + (n + 1) = i + 1 + n by omega, this]
      rfl

variable {n : Nat}

lemma memset_range {v : u8} (hs : s ∈ memset k i v n) :
    s.1.bank = k ∧ (i : Int) ≤ s.1.off ∧ s.1.off < (i + n : Nat) := by
  have := memcpy_range hs
  rwa [List.length_replicate] at this

lemma perform_memset (k : Nat) {m : Nat} (v : u8) (hn : n < m) (h : HostBytes) :
    perform (memset k i v m) h k (i + n : Nat) = v := by
  unfold memset
  rw [perform_memcpy k (by simpa using hn), List.getElem_replicate]

/-! ### Bytes -/

@[simp] lemma length_bytesAt (mem : Nat → u8) (i n : Nat) : (bytesAt mem i n).length = n := by
  simp [bytesAt]

lemma bytesAt_get {mem : Nat → u8} (hk : k < (bytesAt mem i n).length) :
    (bytesAt mem i n)[k] = mem (i + k) := by
  simp [bytesAt]

lemma bytesAt_eq {mem : Nat → u8} {w : List u8} :
    bytesAt mem i w.length = w ↔ ∀ k (hk : k < w.length), mem (i + k) = w[k] := by
  constructor
  · intro h k hk
    have hk' : k < (bytesAt mem i w.length).length := by simpa using hk
    rw [← bytesAt_get hk']
    simp only [h]
  · intro h
    apply List.ext_getElem (length_bytesAt mem i w.length)
    intro k hk hk'
    rw [bytesAt_get, h k hk']

lemma get_nonzero {w : List u8} (hw : 0 ∉ w) (hk : k < w.length) : w[k] ≠ 0 := by
  intro h0
  rw [← h0] at hw
  exact hw (List.getElem_mem hk)

/-! ### The string at a match -/

variable {new_cmd : List u8}

namespace Buf

variable {b : Buf} {min_len i : Nat}

lemma str_end_stops (b : Buf) (i : Nat) :
    Stops (fun e => decide (b.mem e ≠ 0)) b.sz i (b.str_end i) := scanUp_stops _ _ _

lemma le_str_end (b : Buf) (i : Nat) : i ≤ b.str_end i := (b.str_end_stops i).le

lemma nonzero_of_lt (hk : k < b.str_len i) : b.mem (i + k) ≠ 0 := by
  unfold str_len at hk
  exact of_decide_eq_true ((b.str_end_stops i).holds (i + k) (by omega) (by omega))

lemma FirstMatch.le_str_len (h : b.FirstMatch min_len i) : needle.length ≤ b.str_len i := by
  have hroom := h.room
  have hle := b.le_str_end i
  by_contra hlt
  unfold str_len at hlt
  have hz := (b.str_end_stops i).fails (by omega)
  obtain ⟨k, hk⟩ : ∃ k, b.str_end i = i + k := ⟨b.str_end i - i, by omega⟩
  have hk' : k < needle.length := by omega
  rw [hk, bytesAt_eq.mp h.console k hk'] at hz
  exact get_nonzero (by decide) hk' (by simpa using hz)

lemma cap_end_stops (b : Buf) (i : Nat) :
    Stops (fun e => decide (b.mem e = 0)) (b.max_scan i) (b.str_end i) (b.cap_end i) :=
  scanUp_stops _ _ _

lemma zero_of_capacity (hk : b.str_len i ≤ k) (hc : k < b.capacity i) : b.mem (i + k) = 0 := by
  have hle := b.le_str_end i
  unfold str_len at hk
  unfold capacity at hc
  exact of_decide_eq_true ((b.cap_end_stops i).holds (i + k) (by omega) (by omega))

lemma str_len_le_capacity (b : Buf) (i : Nat) : b.str_len i ≤ b.capacity i :=
  Nat.sub_le_sub_right (b.cap_end_stops i).le i

/-- Where the sum stays below `2 ^ 32`, the room is what the comment of the source says. -/
lemma capacity_eq (hw : i + 512 < 2 ^ 32) : b.capacity i = b.str_len i + b.zerosAfter i := by
  have h₁ := b.le_str_end i
  have h₂ := (b.cap_end_stops i).le
  have hz : b.zerosAfter i = b.cap_end i - b.str_end i := by
    unfold zerosAfter cap_end max_scan
    rw [Nat.mod_eq_of_lt hw]
  unfold capacity str_len
  omega

lemma capacity_wrapped (b : Buf) (hi : i < 2 ^ 32) (hw : 2 ^ 32 ≤ i + 512) :
    b.capacity i = b.str_len i := by
  have h₁ := b.le_str_end i
  have h₂ : (i + 512) % 2 ^ 32 ≤ i := by omega
  have h₃ : b.max_scan i ≤ b.str_end i := by
    unfold max_scan
    omega
  unfold capacity cap_end str_len
  rw [scanUp_of_le h₃]

lemma scan_firstMatch (hr : b.scan min_len + needle.length < b.sz) :
    b.FirstMatch min_len (b.scan min_len) := by
  have hs : Stops (b.skips min_len) (b.sz - needle.length) 0 (b.scan min_len) := scanUp_stops _ _ _
  have hf := hs.fails (by omega)
  simp only [skips, Bool.or_eq_false_iff, decide_eq_false_iff_not, not_not, not_lt] at hf
  refine ⟨hr, hf.1, hf.2, fun j hj hn => ?_⟩
  have := hs.holds j (Nat.zero_le j) hj
  simp only [skips, hn, ne_eq, not_true_eq_false, decide_false, Bool.false_or, decide_eq_true_eq] at this
  exact this

lemma FirstMatch.scan_eq (h : b.FirstMatch min_len i) : b.scan min_len = i := by
  apply Stops.scanUp_eq
  refine ⟨Nat.zero_le i, ?_, fun j _ hj => ?_, fun _ => ?_⟩
  · have := h.room
    omega
  · by_cases hn : bytesAt b.mem j needle.length = needle
    · simp [skips, h.first j hj hn]
    · simp [skips, hn]
  · simp [skips, h.console, h.long]

lemma nonzero_write_cmd (hcmd : 0 ∉ new_cmd) (b : Buf) (append : Bool) (i : Nat) :
    0 ∉ b.write_cmd append new_cmd i := by
  have hold : 0 ∉ bytesAt b.mem i (b.str_len i) := by
    intro h0
    obtain ⟨k, hk, hk0⟩ := List.mem_map.mp h0
    exact nonzero_of_lt (List.mem_range.mp hk) hk0
  unfold write_cmd
  split_ifs
  · rw [List.mem_append, List.mem_append]
    rintro ((h0 | h0) | h0)
    · exact hold h0
    · exact absurd h0 (by decide)
    · exact hcmd h0
  · exact hcmd

lemma FirstMatch.capacity_pos (h : b.FirstMatch min_len i) : 0 < b.capacity i := by
  have h₁ := h.le_str_len
  have h₂ := b.str_len_le_capacity i
  have h₃ : 0 < needle.length := by decide
  omega

lemma FirstMatch.in_bank (h : b.FirstMatch min_len i) : i + b.capacity i ≤ b.sz := by
  have h₁ := h.room
  have h₂ := (b.str_end_stops i).le_limit
  have h₃ := (b.cap_end_stops i).le_limit
  have h₄ : b.max_scan i ≤ b.sz := Nat.min_le_left _ _
  have h₅ := h.capacity_pos
  unfold capacity at h₅ ⊢
  omega

lemma FirstMatch.write_len_eq (h : b.FirstMatch min_len i) (hsz : b.sz < 2 ^ 32) (append : Bool)
    (new_cmd : List u8) : b.write_len append new_cmd i =
      min (b.write_cmd append new_cmd i).length (b.capacity i - 1) := by
  have h₁ := h.capacity_pos
  have h₂ := h.in_bank
  unfold write_len
  rw [show (b.capacity i + (2 ^ 32 - 1)) % 2 ^ 32 = b.capacity i - 1 by omega]

/-! ### What the patch leaves -/

variable {k : Nat} {append : Bool} {new_cmd : List u8}

lemma patch_range (hm : b.FirstMatch min_len i) (hsz : b.sz < 2 ^ 32)
    (hs : s ∈ b.patch k append new_cmd i) :
    s.1.bank = k ∧ (i : Int) ≤ s.1.off ∧ s.1.off < (i + b.capacity i : Nat) := by
  rcases List.mem_append.mp hs with hs | hs
  · exact memset_range hs
  · obtain ⟨hk, h₁, h₂⟩ := memcpy_range hs
    have hlen := hm.write_len_eq hsz append new_cmd
    rw [List.length_take] at h₂
    exact ⟨hk, h₁, by omega⟩

lemma patch_string (hm : b.FirstMatch min_len i) (hsz : b.sz < 2 ^ 32)
    (hn : n < (b.write_cmd append new_cmd i).length) (hn' : n < b.capacity i - 1) (h : HostBytes) :
    perform (b.patch k append new_cmd i) h k (i + n : Nat) = (b.write_cmd append new_cmd i)[n] := by
  have hlen := hm.write_len_eq hsz append new_cmd
  unfold patch
  rw [perform_append, perform_memcpy k (by rw [List.length_take]; omega), List.getElem_take]

lemma patch_zero (hm : b.FirstMatch min_len i) (hsz : b.sz < 2 ^ 32)
    (hn : min (b.write_cmd append new_cmd i).length (b.capacity i - 1) ≤ n)
    (hn' : n < b.capacity i) (h : HostBytes) :
    perform (b.patch k append new_cmd i) h k (i + n : Nat) = 0 := by
  have hlen := hm.write_len_eq hsz append new_cmd
  unfold patch
  rw [perform_append, perform_frame, perform_memset k 0 hn']
  intro s hs _
  have := (memcpy_range hs).2.2
  rw [List.length_take] at this
  omega

lemma patch_holds (hm : b.FirstMatch min_len i) (hsz : b.sz < 2 ^ 32) (hcmd : 0 ∉ new_cmd)
    (h : HostBytes) : HoldsString (fun o => perform (b.patch k append new_cmd i) h k o) i
      ((b.write_cmd append new_cmd i).take (b.capacity i - 1)) := by
  have hpos := hm.capacity_pos
  refine ⟨bytesAt_eq.mpr fun n hn => ?_, fun h0 => ?_, ?_⟩
  · rw [List.length_take] at hn
    rw [List.getElem_take]
    exact patch_string hm hsz (by omega) (by omega) h
  · exact b.nonzero_write_cmd hcmd _ _ (List.mem_of_mem_take h0)
  · rw [List.length_take]
    exact patch_zero hm hsz (by omega) (by omega) h

/-- The room that is missing where the sum wraps. -/
def Fits (b : Buf) (append : Bool) (new_cmd : List u8) (i : Nat) : Prop :=
  i + 512 < 2 ^ 32 ∨ (b.write_cmd append new_cmd i).length < b.str_len i ∨
    b.str_len i + b.zerosAfter i ≤ (b.write_cmd append new_cmd i).length

end Buf

section

variable {h : HostBytes} {k min_len i : Nat} {bank : IMemoryBank} {append : Bool} {new_cmd : List u8}

lemma sz_lt (h : HostBytes) (k : Nat) (bank : IMemoryBank) : (buf h k bank).sz < 2 ^ 32 :=
  bank.get_size.isLt

lemma sz_le (h : HostBytes) (k : Nat) (bank : IMemoryBank) : (buf h k bank).sz ≤ bank.size := by
  show (BitVec.ofNat 32 bank.size).toNat ≤ bank.size
  rw [BitVec.toNat_ofNat]
  exact Nat.mod_le _ _

lemma patched_of_fits (hm : (buf h k bank).FirstMatch min_len i) (hcmd : 0 ∉ new_cmd)
    (hf : (buf h k bank).Fits append new_cmd i) :
    Patched h k bank append new_cmd i ((buf h k bank).patch k append new_cmd i) := by
  have hsz := sz_lt h k bank
  have hle := sz_le h k bank
  have hin := hm.in_bank
  have hpos := hm.capacity_pos
  refine ⟨fun s hs => ?_, fun j o hne => ?_, _, List.take_prefix _ _, Buf.patch_holds hm hsz hcmd h, ?_, ?_⟩
  · obtain ⟨hk, h₁, h₂⟩ := Buf.patch_range hm hsz hs
    exact ⟨hk, by omega, by omega⟩
  · -- a byte outside the room is not stored to, and inside the room it is in the string or zero
    by_contra hbad
    apply hne
    apply perform_frame
    rintro s hs rfl rfl
    obtain ⟨rfl, h₁, h₂⟩ := Buf.patch_range hm hsz hs
    refine hbad ⟨rfl, ?_⟩
    obtain ⟨n, hn⟩ : ∃ n : Nat, s.1.off = (i + n : Nat) := ⟨(s.1.off - i).toNat, by omega⟩
    rw [hn]
    rcases Nat.lt_or_ge n ((buf h s.1.bank bank).str_len i) with hlt | hge
    · right
      omega
    · left
      exact Buf.zero_of_capacity (b := buf h s.1.bank bank) hge (by omega)
  · rw [List.length_take]
    omega
  · intro hlt
    apply List.take_of_length_le
    rcases hf with hw | hshort | hlong
    · rw [Buf.capacity_eq hw]
      omega
    · have := (buf h k bank).str_len_le_capacity i
      omega
    · omega

lemma fits_of_patched (hm : (buf h k bank).FirstMatch min_len i)
    (hp : Patched h k bank append new_cmd i ((buf h k bank).patch k append new_cmd i)) :
    (buf h k bank).Fits append new_cmd i := by
  have hsz := sz_lt h k bank
  have hroom := hm.room
  by_contra hf
  simp only [Buf.Fits, not_or, not_lt, not_le] at hf
  obtain ⟨hw, hlong, hlt⟩ := hf
  obtain ⟨w, -, hw', -, hall⟩ := hp.written
  obtain rfl := hall hlt
  have hcap := (buf h k bank).capacity_wrapped (show i < 2 ^ 32 by omega) hw
  have hpos := hm.capacity_pos
  -- the last byte of the room is the terminator
  obtain ⟨n, hn⟩ : ∃ n, (buf h k bank).capacity i = n + 1 := ⟨(buf h k bank).capacity i - 1, by omega⟩
  have hz : perform ((buf h k bank).patch k append new_cmd i) h k (i + n : Nat) = 0 :=
    Buf.patch_zero hm hsz (by omega) (by omega) h
  have hlast := bytesAt_eq.mp hw'.bytes n (by omega)
  have hnz := get_nonzero hw'.nonzero (show n < _ by omega)
  rw [← hlast] at hnz
  exact hnz hz

end

/-! ### The call -/

variable {bank : IMemoryBank}

section

variable {δ : Type} {mctrl : MCtrl δ} {bank_base min_len : u32} {new_cmd : List u8} {append : Bool}
  {h : HostBytes}

lemma try_patch_cases {found : Bool} {ss : List Store}
    (hr : try_patch_cmdline_in_bank mctrl bank_base new_cmd append min_len h = .ok (found, ss)) :
    (found = false ∧ ss = []) ∨
    (found = true ∧ ∃ k bank i, mctrl.get_bank bank_base = some (k, bank) ∧ bank.get_ptr = .ok true ∧
      (buf h k bank).FirstMatch min_len.toNat i ∧
      ss = (buf h k bank).patch k append new_cmd i) := by
  unfold try_patch_cmdline_in_bank at hr
  split at hr
  · cases hr
    exact Or.inl ⟨rfl, rfl⟩
  · next k bank hb =>
    split at hr
    · cases hr
    · cases hr
      exact Or.inl ⟨rfl, rfl⟩
    · next hp =>
      dsimp only at hr
      split_ifs at hr with hroom
      · cases hr
        exact Or.inr ⟨rfl, k, bank, _, hb, hp, Buf.scan_firstMatch hroom, rfl⟩
      · cases hr
        exact Or.inl ⟨rfl, rfl⟩

lemma try_patch_of_match (hb : mctrl.get_bank bank_base = some (k, bank))
    (hp : bank.get_ptr = .ok true) (hm : (buf h k bank).FirstMatch min_len.toNat i) (append : Bool)
    (new_cmd : List u8) : try_patch_cmdline_in_bank mctrl bank_base new_cmd append min_len h =
      .ok (true, (buf h k bank).patch k append new_cmd i) := by
  unfold try_patch_cmdline_in_bank
  rw [hb]
  dsimp only
  rw [hp]
  dsimp only
  rw [hm.scan_eq, if_pos hm.room]

lemma try_patch_returns (hb : mctrl.get_bank bank_base = some (k, bank))
    (hp : bank.get_ptr = .ok true) (new_cmd : List u8) (append : Bool) (min_len : u32)
    (h : HostBytes) :
    ∃ r, try_patch_cmdline_in_bank mctrl bank_base new_cmd append min_len h = .ok r := by
  unfold try_patch_cmdline_in_bank
  rw [hb]
  dsimp only
  rw [hp]
  dsimp only
  split_ifs
  · exact ⟨_, rfl⟩
  · exact ⟨_, rfl⟩

lemma corruptsNothing_of_fits (hcmd : 0 ∉ new_cmd)
    (hf : ∀ k bank i, mctrl.get_bank bank_base = some (k, bank) → bank.get_ptr = .ok true →
      (buf h k bank).FirstMatch min_len.toNat i →
      (buf h k bank).Fits append new_cmd i) :
    CorruptsNothing mctrl bank_base new_cmd append min_len h := by
  intro found ss hr
  obtain ⟨rfl, rfl⟩ | ⟨rfl, k, bank, i, hb, hp, hm, rfl⟩ := try_patch_cases hr
  · exact ⟨fun hf => absurd hf Bool.false_ne_true, fun _ => rfl⟩
  · exact ⟨fun _ => ⟨k, bank, i, hb, hm, patched_of_fits hm hcmd (hf k bank i hb hp hm)⟩,
      fun hf => absurd hf.symm Bool.false_ne_true⟩

lemma fits_of_corruptsNothing (hc : CorruptsNothing mctrl bank_base new_cmd append min_len h)
    (hb : mctrl.get_bank bank_base = some (k, bank)) (hp : bank.get_ptr = .ok true)
    (hm : (buf h k bank).FirstMatch min_len.toNat i) : (buf h k bank).Fits append new_cmd i := by
  obtain ⟨k', bank', i', hb', hm', hpatch⟩ :=
    (hc true _ (try_patch_of_match hb hp hm append new_cmd)).1 rfl
  rw [hb] at hb'
  cases hb'
  have hi : i' = i := hm'.scan_eq.symm.trans hm.scan_eq
  rw [hi] at hpatch
  exact fits_of_patched hm hpatch

end

/-- **Patching corrupts nothing**, and writes what it is asked for, exactly where the window of 512
bytes does not wrap or makes no difference. -/
theorem corruptsNothing_iff {δ : Type} (mctrl : MCtrl δ) (bank_base : u32) (new_cmd : List u8)
    (hcmd : 0 ∉ new_cmd) (append : Bool) (min_len : u32) (h : HostBytes) :
    CorruptsNothing mctrl bank_base new_cmd append min_len h ↔
      ∀ k bank i, mctrl.get_bank bank_base = some (k, bank) → bank.get_ptr = .ok true →
        (buf h k bank).FirstMatch min_len.toNat i →
        (buf h k bank).Fits append new_cmd i :=
  ⟨fun hc _ _ _ hb hp hm => fits_of_corruptsNothing hc hb hp hm, corruptsNothing_of_fits hcmd⟩

/-- No bank of the emulator is that large: there a patch is always as it should be. -/
theorem main_corruptsNothing {δ : Type} (enable_vga : Bool) (dev : DeviceOps δ) (bank_base : u32)
    (hcmd : 0 ∉ new_cmd) (append : Bool) (min_len : u32) (h : HostBytes) :
    CorruptsNothing (MCtrl.main enable_vga dev) bank_base new_cmd append min_len h := by
  refine corruptsNothing_of_fits hcmd fun k bank i hb _ hm => Or.inl ?_
  have hall : (MCtrl.main enable_vga dev).banks.all (fun b => b.size ≤ 128 * 1024 * 1024) = true := by
    cases enable_vga <;> rfl
  have hsmall : bank.size ≤ 128 * 1024 * 1024 :=
    of_decide_eq_true (List.all_eq_true.mp hall bank (MCtrl.get_bank_some hb).1)
  have hle := sz_le h k bank
  have hr := hm.room
  omega

lemma try_patch_found (hb : mctrl.get_bank bank_base = some (k, bank)) (hp : bank.get_ptr = .ok true)
    (append : Bool) (min_len : u32) (h : HostBytes)
    (hc : CorruptsNothing mctrl bank_base new_cmd append min_len h) :
    ∃ found ss, try_patch_cmdline_in_bank mctrl bank_base new_cmd append min_len h = .ok (found, ss) ∧
      ((found = true ∧ ∃ i, (buf h k bank).FirstMatch min_len.toNat i ∧
        Patched h k bank append new_cmd i ss) ∨
      (found = false ∧ (∀ i, ¬ (buf h k bank).FirstMatch min_len.toNat i) ∧ perform ss h = h)) := by
  obtain ⟨⟨found, ss⟩, hr⟩ := try_patch_returns hb hp new_cmd append min_len h
  refine ⟨found, ss, hr, ?_⟩
  cases found with
  | true =>
    obtain ⟨k', bank', i, hb', hm, hpatch⟩ := (hc true ss hr).1 rfl
    cases hb.symm.trans hb'
    exact .inl ⟨rfl, i, hm, hpatch⟩
  | false =>
    refine .inr ⟨rfl, fun i hm => ?_, (hc false ss hr).2 rfl⟩
    cases hr.symm.trans (try_patch_of_match hb hp hm append new_cmd)

/-- **The emulator's call** returns. It has patched the first string of the PROM; or, if there is none,
the first one of at least 40 bytes in main memory; or, if there is none either, changed nothing. -/
theorem patch_cmdline_main {δ : Type} (enable_vga : Bool) (dev : DeviceOps δ) (hcmd : 0 ∉ new_cmd)
    (append : Bool) (h : HostBytes) :
    ∃ ss k prom k' ram, patch_cmdline (MCtrl.main enable_vga dev) new_cmd append h = .ok ss ∧
      (MCtrl.main enable_vga dev).get_bank 0xffff0000 = some (k, prom) ∧
      (MCtrl.main enable_vga dev).get_bank 0x40000000 = some (k', ram) ∧
      ((∃ i, (buf h k prom).FirstMatch 0 i ∧ Patched h k prom append new_cmd i ss) ∨
      ((∀ i, ¬ (buf h k prom).FirstMatch 0 i) ∧
        ((∃ i, (buf h k' ram).FirstMatch 40 i ∧ Patched h k' ram append new_cmd i ss) ∨
        ((∀ i, ¬ (buf h k' ram).FirstMatch 40 i) ∧ perform ss h = h)))) := by
  obtain ⟨k, b, hb, hp⟩ : ∃ k b, (MCtrl.main enable_vga dev).get_bank 0xffff0000 = some (k, b) ∧
      b.get_ptr = .ok true := by cases enable_vga <;> exact ⟨_, _, rfl, rfl⟩
  obtain ⟨k', b', hb', hp'⟩ : ∃ k b, (MCtrl.main enable_vga dev).get_bank 0x40000000 = some (k, b) ∧
      b.get_ptr = .ok true := by cases enable_vga <;> exact ⟨_, _, rfl, rfl⟩
  have hall := fun bank_base => main_corruptsNothing enable_vga dev bank_base hcmd append
  obtain ⟨found, ss, hr, hc⟩ := try_patch_found hb hp append 0 h (hall _ 0 h)
  obtain ⟨found', ss', hr', hc'⟩ := try_patch_found hb' hp' append 40 h (hall _ 40 h)
  refine ⟨if found then ss else ss', k, b, k', b', ?_, hb, hb', ?_⟩
  · unfold patch_cmdline
    rw [hr, hr']
    cases found <;> rfl
  · obtain ⟨rfl, hm⟩ | ⟨rfl, hno, -⟩ := hc
    · exact .inl hm
    · exact .inr ⟨hno, hc'.imp And.right And.right⟩

def ttyS0 : List u8 := needle ++ [0x74, 0x74, 0x79, 0x53, 0x30]

/-- `console=` at one position and zeros elsewhere. -/
def consoleAt (p o : Nat) : u8 := if o < p then 0 else needle.getD (o - p) 0

def consoleBytes (p : Nat) : HostBytes := fun _ o => consoleAt p o.toNat

/-- The theorem at a small bank, where the string gets longer. -/
theorem corruptsNothing_small :
    (try_patch_cmdline_in_bank (MCtrl.ram [(0x40000000, 64)]) 0x40000000 ttyS0 false 0
      (consoleBytes 5)).toOption.map (·.1) = some true ∧
    CorruptsNothing (MCtrl.ram [(0x40000000, 64)]) 0x40000000 ttyS0 false 0 (consoleBytes 5) := by
  refine ⟨by decide, (corruptsNothing_iff _ _ ttyS0 (by decide) _ _ _).mpr
    fun k bank i hb _ hm => Or.inl ?_⟩
  have hr := hm.room
  have hb' : (buf (consoleBytes 5) k bank).sz = 64 := by
    cases hb
    rfl
  omega

section

variable {p sz : Nat}

lemma consoleAt_from (n : Nat) : consoleAt p (p + n) = needle.getD n 0 := by
  unfold consoleAt
  rw [if_neg (by omega), show p + n - p = n by omega]

lemma consoleAt_match (hr : p + needle.length < sz) : Buf.FirstMatch ⟨consoleAt p, sz⟩ 0 p where
  room := hr
  console := by
    refine bytesAt_eq.mpr fun n hn => ?_
    show consoleAt p (p + n) = _
    rw [consoleAt_from, List.getD_eq_getElem _ _ hn]
  long := Nat.zero_le _
  first := by
    intro j hj hn
    have hc : consoleAt p j = 0x63 := bytesAt_eq.mp hn 0 (by decide)
    rw [show consoleAt p j = 0 from if_pos hj] at hc
    exact absurd hc (by decide)

/-- The command is appended to the string at 5 in the PROM. -/
theorem patch_cmdline_main_ttyS0 : ∃ ss k prom,
    patch_cmdline (MCtrl.main false (MCtrl.ram []).dev) ttyS0 true (consoleBytes 5) = .ok ss ∧
    (MCtrl.main false (MCtrl.ram []).dev).get_bank 0xffff0000 = some (k, prom) ∧
    Patched (consoleBytes 5) k prom true ttyS0 5 ss := by
  obtain ⟨ss, k, prom, k', ram, hr, hb, -, h⟩ := patch_cmdline_main false (MCtrl.ram []).dev
    (show 0 ∉ ttyS0 by decide) true (consoleBytes 5)
  have hm : (buf (consoleBytes 5) k prom).FirstMatch 0 5 := by
    cases hb
    exact consoleAt_match (by decide)
  obtain ⟨i, hi, hpatch⟩ | ⟨hno, -⟩ := h
  · rw [hi.scan_eq.symm.trans hm.scan_eq] at hpatch
    exact ⟨ss, k, prom, hr, hb, hpatch⟩
  · exact absurd hm (hno 5)

lemma consoleAt_after {e : Nat} (he : p + needle.length ≤ e) : consoleAt p e = 0 := by
  obtain ⟨n, rfl⟩ : ∃ n, e = p + n := ⟨e - p, by omega⟩
  rw [consoleAt_from, List.getD_eq_default _ _ (by omega)]

lemma consoleAt_str_end (hr : p + needle.length < sz) :
    Buf.str_end ⟨consoleAt p, sz⟩ p = p + needle.length := by
  show scanUp (fun e => consoleAt p e ≠ 0) sz p = _
  refine Stops.scanUp_eq ⟨by omega, by omega, fun e h₁ h₂ => ?_, fun _ => ?_⟩
  · obtain ⟨n, rfl⟩ : ∃ n, e = p + n := ⟨e - p, by omega⟩
    have hn : n < needle.length := by omega
    rw [consoleAt_from, List.getD_eq_getElem _ _ hn]
    exact decide_eq_true (get_nonzero (by decide) hn)
  · rw [consoleAt_after (le_refl _)]
    rfl

lemma consoleAt_zerosAfter (hr : p + needle.length < sz) :
    Buf.zerosAfter ⟨consoleAt p, sz⟩ p = min sz (p + 512) - (p + needle.length) := by
  have hlen : needle.length = 8 := rfl
  unfold Buf.zerosAfter
  rw [consoleAt_str_end hr]
  dsimp only
  congr 1
  refine Stops.scanUp_eq ⟨by omega, by omega, fun e he _ => ?_, fun h => by omega⟩
  exact decide_eq_true (consoleAt_after he)

end

/-- In a bank of almost 4 GB the window of a match in the last 512 bytes wraps: of `console=ttyS0`,
which 503 zeros have room for, `console` is written. -/
theorem late_string_cut :
    (∃ ss, try_patch_cmdline_in_bank (MCtrl.ram [(0, 0xffffffff)]) 0 ttyS0 false 0
        (consoleBytes 0xfffffe00) = .ok (true, ss) ∧
      HoldsString (fun o => perform ss (consoleBytes 0xfffffe00) 0 o) 0xfffffe00 (ttyS0.take 7)) ∧
    ¬ CorruptsNothing (MCtrl.ram [(0, 0xffffffff)]) 0 ttyS0 false 0 (consoleBytes 0xfffffe00) := by
  have hr : 0xfffffe00 + needle.length < 0xffffffff := by decide
  have hb : (MCtrl.ram [(0, 0xffffffff)]).get_bank 0 =
      some (0, ⟨.RamBank, 0, 0xffffffff, .Big⟩) := rfl
  have hbuf : buf (consoleBytes 0xfffffe00) 0 ⟨.RamBank, 0, 0xffffffff, .Big⟩ =
      ⟨consoleAt 0xfffffe00, 0xffffffff⟩ := rfl
  have hm := consoleAt_match hr
  rw [← hbuf] at hm
  have hlen : Buf.str_len ⟨consoleAt 0xfffffe00, 0xffffffff⟩ 0xfffffe00 = 8 := by
    unfold Buf.str_len
    rw [consoleAt_str_end hr]
    rfl
  constructor
  · refine ⟨_, try_patch_of_match hb rfl hm false ttyS0, ?_⟩
    have hcap := Buf.capacity_wrapped ⟨consoleAt 0xfffffe00, 0xffffffff⟩
      (show 0xfffffe00 < 2 ^ 32 by decide) (by decide)
    have hw : HoldsString _ _ ((Buf.write_cmd _ false ttyS0 _).take _) :=
      Buf.patch_holds (k := 0) hm (sz_lt _ _ _) (show 0 ∉ ttyS0 by decide) (consoleBytes 0xfffffe00)
    rw [hbuf, hcap, hlen] at hw
    exact hw
  · intro hc
    have hf := fits_of_corruptsNothing hc hb rfl hm
    unfold Buf.Fits at hf
    rw [hbuf, hlen, consoleAt_zerosAfter hr] at hf
    exact absurd hf (by decide)

end SparcEmu.Cmdline
