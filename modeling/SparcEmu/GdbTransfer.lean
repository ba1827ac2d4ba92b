import SparcEmu.GdbRestore
import SparcEmu.GdbText

/-!
Memory transfers of the debugger: `handle_memory_read` and `handle_memory_write` move single bytes
with accesses to whole aligned words.
-/

namespace SparcEmu

open Lib.Effect Lib.Strtol MMU

variable {n : Nat} {δ : Type} {mc : MCtrl δ} {Mixed : u32 → Prop}

/-! ### Bytes of a word -/

/-- A word with byte `k` replaced, counted from the most significant one. -/
def patchByte (w : u32) (k : Nat) (b : u8) : u32 :=
  (w &&& ~~~(0xff#32 <<< ((3 - k) * 8))) ||| (b.setWidth 32 <<< ((3 - k) * 8))

variable {j k : Nat}

lemma patchByte_byte (w : u32) (b : u8) (hj : j < 4) (hk : k < 4) :
    (patchByte w k b >>> (8 * (3 - j))).setWidth 8 =
      if j = k then b else (w >>> (8 * (3 - j))).setWidth 8 := by
  apply BitVec.eq_of_getLsbD_eq
  intro i hi
  have hmask : ∀ m, m < 32 → (0xff#32).getLsbD m = decide (m < 8) := by decide
  unfold patchByte
  by_cases hjk : j = k
  · -- the mask clears the byte, and the new one takes its place
    subst hjk
    have hsub : 8 * (3 - j) + i - (3 - j) * 8 = i := by omega
    have hlt : ¬ 8 * (3 - j) + i < (3 - j) * 8 := by omega
    have h32 : 8 * (3 - j) + i < 32 := by omega
    simp [hi, hsub, hlt, h32, hmask i (by omega), show i < 32 by omega]
  · rw [if_neg hjk]
    have h32 : 8 * (3 - j) + i < 32 := by omega
    by_cases hlt : 8 * (3 - j) + i < (3 - k) * 8
    · simp [hi, hlt, h32]
    · have hge : 8 ≤ 8 * (3 - j) + i - (3 - k) * 8 := by omega
      have hout : (0xff#32).getLsbD (8 * (3 - j) + i - (3 - k) * 8) = false := by
        rw [hmask _ (by omega)]
        exact decide_eq_false (by omega)
      rw [BitVec.getLsbD_eq_getElem (by omega)] at hout
      simp [hi, hlt, h32, hout, BitVec.getLsbD_of_ge b _ hge]

lemma ptrWrite_patchByte (h : HostBytes) (p : HostPtr) (b : u8) (hk : k < 4) :
    ptrWrite h p (patchByte (ptrRead h p .b4) k b) .b4 = setByte h p.bank (p.off + k) b := by
  funext i o
  by_cases ho : Outside p AccessSize.b4.bytes i o
  · have hne : ¬ (i = p.bank ∧ o = p.off + k) := by
      rintro ⟨rfl, rfl⟩
      have h4 : AccessSize.b4.bytes = 4 := rfl
      rcases ho with ho | ho | ho
      · exact ho rfl
      · omega
      · omega
    rw [ptrWrite_other _ ho]
    exact (if_neg hne).symm
  · obtain ⟨j, hj, rfl, rfl⟩ := inside_of_not_outside ho
    rw [ptrWrite_byte _ _ _ hj, patchByte_byte _ _ hj hk, ptrRead_byte _ _ hj]
    unfold setByte
    by_cases hjk : j = k
    · subst hjk
      rw [if_pos rfl, if_pos ⟨rfl, rfl⟩]
    · rw [if_neg hjk, if_neg]
      rintro ⟨-, he⟩
      omega

/-! ### Words, as the debugger reaches them -/

variable {a : u32} {x : Site}

namespace GdbSt

/-- Where the byte at `a` is, as the stub reads it as processor `k`. -/
def place (mc : MCtrl δ) (s : GdbSt n δ) (k : Nat) (a : u32) : Option HostPtr :=
  (s.reach mc k .load (a &&& ~~~3#32)).map fun x => ⟨x.i, x.b.offset x.pa + (a &&& 3#32).toNat⟩

/-- The byte that `g` has for `a`, zero where nothing is. -/
def byteIn (mc : MCtrl δ) (s : GdbSt n δ) (k : Nat) (g : HostBytes) (a : u32) : u8 :=
  (s.place mc k a).elim 0 fun p => g p.bank p.off

/-- The bytes of the range of `len` addresses from `addr` on. -/
def bytes (mc : MCtrl δ) (s : GdbSt n δ) (k : Nat) (addr : u32) (len : Nat) : List u8 :=
  (List.range len).map fun i => s.byteIn mc k s.mem.bytes (addr + BitVec.ofNat 32 i)

lemma place_some {s : GdbSt n δ} (hx : s.reach mc k .load (a &&& ~~~3#32) = some x) :
    s.place mc k a = some ⟨x.i, x.b.offset x.pa + (a &&& 3#32).toNat⟩ := by
  unfold place
  rw [hx]
  rfl

/-- The word at `a` is in RAM, and its tables are in memory. -/
structure Accessible (mc : MCtrl δ) (Mixed : u32 → Prop) (s : GdbSt n δ) (k : Nat) (rw : Intent)
    (a : u32) : Prop where
  walkable : s.Walkable mc Mixed k a
  ram : ∃ x, s.reach mc k rw a = some x ∧ x.b.kind = .RamBank

end GdbSt

variable {i len : Nat}

namespace GdbStub

open GdbSt

/-- In `t`, processor `k` finds every word where it is in `s`. -/
structure Sees (mc : MCtrl δ) (k : Nat) (s t : GdbSt n δ) : Prop where
  priv : (t.mmu k).priv = (s.mmu k).priv
  selected : t.selected = s.selected
  coherent : (s.mmu k).get_enabled = true → MMU.Coherent mc (t.tables mc k) (t.mmu k)
  leaves : (s.mmu k).get_enabled = true →
    SameLeaves (s.tables mc k) ⟨mc.wordAt t.mem.bytes, (s.mmu k).ctx_tbl_ptr⟩

section Words

variable {s t : GdbSt n δ} {k : Nat} {rw : Intent} {a v : u32} {x : Site}

lemma ram_answers (hx : x.b.kind = .RamBank) : x.Answers mc rw := by
  intro id p h
  rw [hx] at h
  cases h

lemma ram_not_device (hx : x.b.kind = .RamBank) : x.b.isDevice = false := by
  rw [IMemoryBank.isDevice, hx]

lemma reach_ram {b : IMemoryBank} (he : (s.mmu k).get_enabled = false)
    (hb : mc.get_bank a = some (i, b)) (hr : b.kind = .RamBank) :
    s.reach mc k rw a = some ⟨i, b, a⟩ := by
  have hg : b.get_ptr.isOk = true := by
    unfold IMemoryBank.get_ptr
    rw [hr]
    rfl
  unfold GdbSt.reach
  rw [site_off he, bankSite_some hb fun _ => hg]

lemma onMMU_ram (hP : mc.Paged Mixed) (he : (t.mmu k).get_enabled = false)
    (hs : bankSite mc (rw = .store) a = some x) (hx : x.b.kind = .RamBank) (hrw : rw ≠ .execute) :
    ∃ w m mem, onMMU k (MemAccess mc rw .b4 a v true true) t = .ok (0, w) (t.put k m mem) ∧
      m.priv = (t.mmu k).priv ∧ x.Done rw t.mem.bytes v w mem := by
  obtain ⟨m, hm, hl⟩ : ∃ m, FaultOnly (t.mmu k) m ∧ Lands mc rw (bankSite mc (rw = .store) a) v
      ⟨m, t.mem⟩ (busAccess mc rw .b4 a v a true true false ⟨t.mmu k, t.mem⟩) :=
    busAccess_off_lands (s := ⟨t.mmu k, t.mem⟩)
  rw [hs] at hl
  obtain ⟨w, mem, hb, hd⟩ | ⟨ha, -⟩ :=
    bankAccess_site (s := ⟨m, t.mem⟩) hP (bankSite_in hs) hrw v
  · refine ⟨w, m, mem, ?_, FaultOnly.priv hm, hd⟩
    unfold onMMU
    rw [MemAccess_off he, show busAccess _ _ _ _ _ _ _ _ _ _ = _ from hl.trans hb]
    rfl
  · exact absurd (ram_answers hx) ha

lemma access32_off (hP : mc.Paged Mixed) (hB : mc.Bootable) (he : (t.mmu k).get_enabled = false)
    (hk : t.selected = some k) (hr : t.reach mc k rw a = some x) (hx : x.b.kind = .RamBank)
    (hrw : rw ≠ .execute) (what : String) :
    ∃ w m mem, access32 mc rw what a v t = .ok w (t.put k m mem) ∧ m.priv = (t.mmu k).priv ∧
      x.Done rw t.mem.bytes v w mem := by
  unfold access32
  rw [bind_ok (selected_ok hk)]
  unfold reach at hr
  simp only [he, Bool.false_eq_true, if_false] at hr
  split at hr
  · next y hs =>
    cases hr
    rw [site_off he] at hs
    obtain ⟨w, m, mem, ho, hm, hd⟩ := onMMU_ram (v := v) hP he hs hx hrw
    rw [bind_ok ho, if_pos rfl]
    exact ⟨w, m, mem, rfl, hm, hd⟩
  · next hs =>
    obtain ⟨p, hp, hs'⟩ := Option.bind_eq_some_iff.mp hr
    have hb := (unmapped_of_boot rw hB he hp).1 hs
    obtain ⟨m, hpriv, ho⟩ : ∃ m, m.priv = (t.mmu k).priv ∧
        onMMU k (MemAccess mc rw .b4 a v true true) t = .ok (-5, v) (t.put k m t.mem) :=
      onMMU_unmapped he hb
    have he' : ((t.put k m t.mem).mmu k).get_enabled = false := by
      rw [put_mmu, enabled_of_priv hpriv, he]
    rw [site_off he] at hs'
    obtain ⟨w, m', mem, ho', hm', hd⟩ := onMMU_ram (v := v) hP he' hs' hx hrw
    rw [bind_ok ho, if_neg (show (-5 : cint) ≠ 0 by decide), bind_ok (bootMapping_eq _ k a), he',
      if_neg Bool.false_ne_true, hp]
    dsimp only
    rw [bind_ok ho', if_pos rfl, put_put]
    rw [put_mmu] at hm'
    exact ⟨w, m', mem, rfl, hm'.trans hpriv, hd⟩

/-! ### What a transfer keeps -/

lemma Sees.refl (hR : (s.mmu k).get_enabled = true → s.Ready mc k) : Sees mc k s s :=
  ⟨rfl, rfl, fun he => (hR he).coherent, fun _ => sameLeaves_of_bytes rfl k⟩

lemma Sees.tables (h : Sees mc k s t) :
    t.tables mc k = ⟨mc.wordAt t.mem.bytes, (s.mmu k).ctx_tbl_ptr⟩ := by
  unfold GdbSt.tables MMU.tables
  rw [(priv_ctx h.priv).2.1]

lemma Sees.put (h : Sees mc k s t) {m : MMU} {mem : Mem δ} (hm : m.priv = (t.mmu k).priv)
    (hC : (s.mmu k).get_enabled = true → MMU.Coherent mc (t.tables mc k) m)
    (hl : (s.mmu k).get_enabled = true →
      SameLeaves (s.tables mc k) ⟨mc.wordAt mem.bytes, (s.mmu k).ctx_tbl_ptr⟩) :
    Sees mc k s (t.put k m mem) := by
  have hpriv : ((t.put k m mem).mmu k).priv = (s.mmu k).priv := by
    rw [put_mmu, hm, h.priv]
  refine ⟨hpriv, h.selected, fun he => ?_, hl⟩
  have htab : (t.put k m mem).tables mc k = ⟨mc.wordAt mem.bytes, (s.mmu k).ctx_tbl_ptr⟩ := by
    unfold GdbSt.tables MMU.tables
    rw [(priv_ctx hpriv).2.1]
    rfl
  rw [htab, put_mmu]
  refine (hC he).congr fun c va hc => ?_
  rw [hl he c va hc, h.tables, h.leaves he c va hc]

section Run

variable (hR : (s.mmu k).get_enabled = true → s.Ready mc k)

include hR

lemma Sees.reach (h : Sees mc k s t) : t.reach mc k rw a = s.reach mc k rw a := by
  cases he : (s.mmu k).get_enabled with
  | true => exact reach_leaves h.priv (hR he).ctx (h.leaves he)
  | false =>
    have he' : (t.mmu k).get_enabled = false := by rw [enabled_of_priv h.priv, he]
    unfold GdbSt.reach
    simp only [he, he', site_off]

lemma Sees.walkable (h : Sees mc k s t) (hw : s.Walkable mc Mixed k a) : t.Walkable mc Mixed k a := by
  intro he
  rw [enabled_of_priv h.priv] at he
  obtain ⟨r, hl, hr⟩ := hw he
  obtain ⟨hc, hp, -⟩ := priv_ctx h.priv
  refine ⟨r, ?_, hr⟩
  rw [hc, hp, h.leaves he _ a (hR he).ctx]
  exact hl

variable (hP : mc.Paged Mixed) (hB : mc.Bootable) (hk : s.selected = some k)

include hP hB hk

lemma Sees.word (h : Sees mc k s t) (hw : s.Walkable mc Mixed k a)
    (hx : s.reach mc k rw a = some x) (hr : x.b.kind = .RamBank) (hrw : rw ≠ .execute)
    (what : String) :
    ∃ w m mem, access32 mc rw what a v t = .ok w (t.put k m mem) ∧ m.priv = (t.mmu k).priv ∧
      x.Done rw t.mem.bytes v w mem ∧
      ((s.mmu k).get_enabled = true → MMU.Coherent mc (t.tables mc k) m) := by
  rw [← h.reach hR] at hx
  have hk' : t.selected = some k := h.selected.trans hk
  cases he : (s.mmu k).get_enabled with
  | true =>
    have hready : t.Ready mc k := by
      refine ⟨h.coherent he, ?_⟩
      rw [(priv_ctx h.priv).1]
      exact (hR he).ctx
    have hword := access32_word (v := v) hP hB hready hk' (h.walkable hR hw) hrw what
    rw [hx] at hword
    generalize access32 mc rw what a v t = r at hword
    cases hword with
    | done _ hkept hd => exact ⟨_, _, _, rfl, hkept.priv, hd, fun _ => hkept.coherent⟩
    | ends ha => exact absurd (ram_answers hr) ha
  | false =>
    have he' : (t.mmu k).get_enabled = false := by rw [enabled_of_priv h.priv, he]
    obtain ⟨w, m, mem, hacc, hm, hd⟩ := access32_off (v := v) hP hB he' hk' hx hr hrw what
    exact ⟨w, m, mem, hacc, hm, hd, fun h => by cases h⟩

lemma Sees.read (h : Sees mc k s t) (hw : s.Walkable mc Mixed k a)
    (hx : s.reach mc k .load a = some x) (hr : x.b.kind = .RamBank) :
    ∃ t', read_mem32 mc a t = .ok (x.get t.mem.bytes) t' ∧ Sees mc k s t' ∧
      t'.mem.bytes = t.mem.bytes := by
  obtain ⟨w, m, mem, hacc, hm, ⟨hb, hget⟩, hC⟩ := h.word (v := 0) hR hP hB hk hw hx hr (by decide)
    "Could not read memory at address"
  refine ⟨t.put k m mem, ?_, h.put hm hC fun he => ?_, hb⟩
  · rw [← hget (ram_not_device hr)]
    exact hacc
  · rw [hb]
    exact h.leaves he

lemma Sees.write (h : Sees mc k s t) (hw : s.Walkable mc Mixed k a)
    (hx : s.reach mc k .store a = some x) (hr : x.b.kind = .RamBank)
    (hl : (s.mmu k).get_enabled = true → SameLeaves (s.tables mc k)
      ⟨mc.wordAt (x.put t.mem.bytes v), (s.mmu k).ctx_tbl_ptr⟩) :
    ∃ t', write_mem32 mc a v t = .ok () t' ∧ Sees mc k s t' ∧
      t'.mem.bytes = x.put t.mem.bytes v := by
  obtain ⟨w, m, mem, hacc, hm, hd, hC⟩ := h.word (v := v) hR hP hB hk hw hx hr (by decide)
    "Could not write memory at address"
  have hb : mem.bytes = x.put t.mem.bytes v := hd
  refine ⟨t.put k m mem, write_mem32_ok hacc, h.put hm hC fun he => ?_, hb⟩
  rw [hb]
  exact hl he

/-! ### The word of the next byte -/

/-- The word that the round before has kept is the one at its address. -/
def Cached (mc : MCtrl δ) (s : GdbSt n δ) (k : Nat) (g : HostBytes) (last_aligned_addr w : u32) :
    Prop :=
  ∀ a x, a &&& ~~~3#32 = last_aligned_addr → s.reach mc k .load last_aligned_addr = some x →
    w = x.get g

omit hR hP hB hk in
lemma cached_none (g : HostBytes) (w : u32) : Cached mc s k g (~~~0#32) w := by
  intro a x ha
  have hbit := congrArg (·.getLsbD 0) ha
  simp at hbit

/-- The word at an aligned address, read or kept. -/
def nextWord (mc : MCtrl δ) (aligned_addr last_aligned_addr w : u32) : GdbM n δ u32 :=
  if aligned_addr ≠ last_aligned_addr then read_mem32 mc aligned_addr else pure w

lemma Sees.next (h : Sees mc k s t) {b last w : u32} (hb : b &&& ~~~3#32 = a)
    (hw : s.Walkable mc Mixed k a) (hx : s.reach mc k .load a = some x) (hr : x.b.kind = .RamBank)
    (hc : Cached mc s k t.mem.bytes last w) :
    ∃ t', nextWord mc a last w t = .ok (x.get t.mem.bytes) t' ∧ Sees mc k s t' ∧
      t'.mem.bytes = t.mem.bytes := by
  unfold nextWord
  by_cases ha : a ≠ last
  · rw [if_pos ha]
    exact h.read hR hP hB hk hw hx hr
  · rw [not_not] at ha
    subst ha
    rw [if_neg (not_not_intro rfl), hc b x hb hx]
    exact ⟨t, rfl, h, rfl⟩

end Run

end Words

/-! ### Reading -/

section Read

variable {s t : GdbSt n δ} {k : Nat} {addr : u32}

lemma memoryReadFrom_succ (addr : u32) (i : Nat) (last w : u32) (len : Nat) :
    (memoryReadFrom mc addr i last w (len + 1) : GdbM n δ _) = (do
      let word ← nextWord mc ((addr + BitVec.ofNat 32 i) &&& ~~~3#32) last w
      let rest ← memoryReadFrom mc addr (i + 1) ((addr + BitVec.ofNat 32 i) &&& ~~~3#32) word len
      pure (hex2 (((word >>> ((3 - ((addr + BitVec.ofNat 32 i) &&& 3#32).toNat) * 8)) &&& 0xff).setWidth
        8) ++ rest)) := by
  unfold nextWord
  rw [memoryReadFrom]
  split_ifs
  · rfl
  · rfl

lemma low_bits_lt (a : u32) : (a &&& 3#32).toNat < 4 := by
  rw [BitVec.toNat_and]
  exact Nat.lt_of_le_of_lt Nat.and_le_right (by decide)

lemma word_byte (hP : mc.Paged Mixed) (hx : s.reach mc k .load (a &&& ~~~3#32) = some x)
    (hr : x.b.kind = .RamBank) (g : HostBytes) :
    ((x.get g >>> ((3 - (a &&& 3#32).toNat) * 8)) &&& 0xff).setWidth 8 = s.byteIn mc k g a := by
  have hcut : ∀ w : u32, (w &&& 0xff).setWidth 8 = w.setWidth 8 := by
    intro w
    rw [BitVec.setWidth_and, show (0xff : u32).setWidth 8 = BitVec.allOnes 8 by decide,
      BitVec.and_allOnes]
  unfold byteIn
  rw [hcut, Site.get_eq hP (reach_in hx) (ram_not_device hr), place_some hx, Nat.mul_comm,
    ptrRead_byte _ _ (low_bits_lt a)]
  rfl

variable (hR : (s.mmu k).get_enabled = true → s.Ready mc k) (hP : mc.Paged Mixed)
  (hB : mc.Bootable) (hk : s.selected = some k)

include hR hP hB hk

lemma memoryReadFrom_ok (len i : Nat) (last w : u32) (h : Sees mc k s t)
    (hc : Cached mc s k t.mem.bytes last w)
    (ha : ∀ j, i ≤ j → j < i + len →
      s.Accessible mc Mixed k .load ((addr + BitVec.ofNat 32 j) &&& ~~~3#32)) :
    ∃ t', memoryReadFrom mc addr i last w len t = .ok (to_hex ((List.range' i len).map fun j =>
        s.byteIn mc k t.mem.bytes (addr + BitVec.ofNat 32 j))) t' ∧
      Sees mc k s t' ∧ t'.mem.bytes = t.mem.bytes := by
  induction len generalizing i last w t with
  | zero => exact ⟨t, rfl, h, rfl⟩
  | succ len ih =>
    obtain ⟨hwalk, x, hx, hr⟩ := ha i (Nat.le_refl i) (by omega)
    obtain ⟨t₁, hword, h₁, hb₁⟩ := h.next hR hP hB hk rfl hwalk hx hr hc
    have hc₁ : Cached mc s k t₁.mem.bytes ((addr + BitVec.ofNat 32 i) &&& ~~~3#32)
        (x.get t.mem.bytes) := by
      intro a y _ hy
      rw [hb₁, Option.some.inj (hx.symm.trans hy)]
    obtain ⟨t₂, hrest, h₂, hb₂⟩ := ih (i + 1) _ _ h₁ hc₁ fun j hj hj' => ha j (by omega) (by omega)
    rw [hb₁] at hrest
    refine ⟨t₂, ?_, h₂, hb₂.trans hb₁⟩
    rw [memoryReadFrom_succ, bind_ok hword, bind_ok hrest, word_byte hP hx hr]
    rfl

end Read

/-! ### Writing -/

variable {g : HostBytes} {q : HostPtr}

lemma setByte_other {p : HostPtr} (h : q ≠ p) (b : u8) :
    setByte g q.bank q.off b p.bank p.off = g p.bank p.off := by
  refine if_neg fun he => h ?_
  cases p
  cases q
  simp_all

/-- The bytes have gone to the places of `i`, `i + 1` and so on, in this order. -/
structure Stored (where_ : Nat → Option HostPtr) (i : Nat) (bytes : List u8) (g g' : HostBytes) :
    Prop where
  outside : ∀ p, (∀ j, i ≤ j → j < i + bytes.length → where_ j ≠ some p) →
    g' p.bank p.off = g p.bank p.off
  last : ∀ j b p, bytes[j]? = some b → where_ (i + j) = some p →
    (∀ l, i + j < l → l < i + bytes.length → where_ l ≠ some p) → g' p.bank p.off = b

lemma Stored.nil (where_ : Nat → Option HostPtr) (i : Nat) (g : HostBytes) :
    Stored where_ i [] g g :=
  ⟨fun _ _ => rfl, fun j b p hj => by simp at hj⟩

lemma Stored.cons {where_ : Nat → Option HostPtr} {b : u8} {bytes : List u8} {g' : HostBytes}
    (hq : where_ i = some q) (h : Stored where_ (i + 1) bytes (setByte g q.bank q.off b) g') :
    Stored where_ i (b :: bytes) g g' where
  outside p hp := by
    simp only [List.length_cons] at hp
    have hqp : q ≠ p := fun he => hp i (Nat.le_refl i) (by omega) (he ▸ hq)
    rw [h.outside p fun j hj hj' => hp j (by omega) (by omega), setByte_other hqp]
  last j c p hj hp hl := by
    simp only [List.length_cons] at hl
    cases j with
    | zero =>
      -- the byte of this round stays, no later one goes to its place
      obtain rfl : b = c := by simpa using hj
      obtain rfl : q = p := Option.some.inj (hq.symm.trans hp)
      rw [h.outside q fun j hj hj' => hl j (by omega) (by omega)]
      exact if_pos ⟨rfl, rfl⟩
    | succ j =>
      rw [show i + (j + 1) = i + 1 + j by omega] at hp hl
      exact h.last j c p hj hp fun l hl' hl'' => hl l hl' (by omega)

section Write

variable {s t : GdbSt n δ} {k : Nat} {addr : u32}

lemma memoryWriteFrom_cons (addr : u32) (i : Nat) (last w : u32) (b : u8) (bytes : List u8) :
    (memoryWriteFrom mc addr i last w (b :: bytes) : GdbM n δ _) = (do
      let word ← nextWord mc ((addr + BitVec.ofNat 32 i) &&& ~~~3#32) last w
      write_mem32 mc ((addr + BitVec.ofNat 32 i) &&& ~~~3#32)
        (patchByte word ((addr + BitVec.ofNat 32 i) &&& 3#32).toNat b)
      memoryWriteFrom mc addr (i + 1) ((addr + BitVec.ofNat 32 i) &&& ~~~3#32)
        (patchByte word ((addr + BitVec.ofNat 32 i) &&& 3#32).toNat b) bytes) := by
  unfold nextWord
  rw [memoryWriteFrom]
  split_ifs
  · rfl
  · rfl

/-- Only bytes of the range differ from those of `s`. -/
def OnlyRange (mc : MCtrl δ) (s : GdbSt n δ) (k : Nat) (addr : u32) (len : Nat) (g : HostBytes) :
    Prop :=
  ∀ p, (∀ j < len, s.place mc k (addr + BitVec.ofNat 32 j) ≠ some p) →
    g p.bank p.off = s.mem.bytes p.bank p.off

lemma OnlyRange.setByte (h : OnlyRange mc s k addr len g) (hi : i < len)
    (hq : s.place mc k (addr + BitVec.ofNat 32 i) = some q) (b : u8) :
    OnlyRange mc s k addr len (setByte g q.bank q.off b) := by
  intro p hp
  have hqp : q ≠ p := fun he => hp i hi (he ▸ hq)
  rw [setByte_other hqp]
  exact h p hp

/-- Whatever the bytes of the range are, walks end where they do in `s`. -/
def TablesElsewhere (mc : MCtrl δ) (s : GdbSt n δ) (k : Nat) (addr : u32) (len : Nat) : Prop :=
  ∀ g, OnlyRange mc s k addr len g →
    SameLeaves (s.tables mc k) ⟨mc.wordAt g, (s.mmu k).ctx_tbl_ptr⟩

lemma put_patchByte (hP : mc.Paged Mixed) (hx : x.In mc) (hr : x.b.kind = .RamBank) (g : HostBytes)
    (b : u8) (hj : j < 4) :
    x.put g (patchByte (x.get g) j b) = setByte g x.i (x.b.offset x.pa + j) b := by
  rw [Site.put_eq hP hx (ram_not_device hr), Site.get_eq hP hx (ram_not_device hr),
    ptrWrite_patchByte _ _ _ hj]
  rfl

lemma get_put_self (hP : mc.Paged Mixed) (hx : x.In mc) (hr : x.b.kind = .RamBank) (g : HostBytes)
    (v : u32) : x.get (x.put g v) = v := by
  rw [Site.put_eq hP hx (ram_not_device hr), Site.get_eq hP hx (ram_not_device hr),
    ptrRead_ptrWrite]

variable (hR : (s.mmu k).get_enabled = true → s.Ready mc k) (hP : mc.Paged Mixed)
  (hB : mc.Bootable) (hk : s.selected = some k)

include hR hP hB hk

lemma memoryWriteFrom_ok (bytes : List u8) (i : Nat) (last w : u32)
    (hT : (s.mmu k).get_enabled = true → TablesElsewhere mc s k addr len) (h : Sees mc k s t)
    (hc : Cached mc s k t.mem.bytes last w) (ho : OnlyRange mc s k addr len t.mem.bytes)
    (hlen : i + bytes.length = len) (ha : ∀ rw, rw ≠ .execute → ∀ j < len,
      s.Accessible mc Mixed k rw ((addr + BitVec.ofNat 32 j) &&& ~~~3#32)) :
    ∃ t', memoryWriteFrom mc addr i last w bytes t = .ok () t' ∧ Sees mc k s t' ∧
      Stored (fun j => s.place mc k (addr + BitVec.ofNat 32 j)) i bytes t.mem.bytes t'.mem.bytes := by
  induction bytes generalizing i last w t with
  | nil => exact ⟨t, rfl, h, .nil ..⟩
  | cons b bytes ih =>
    rw [List.length_cons] at hlen
    obtain ⟨hwalk, x, hx, hr⟩ := ha .load (by decide) i (by omega)
    obtain ⟨-, y, hy, -⟩ := ha .store (by decide) i (by omega)
    obtain rfl := reach_same hB hx hy
    have hin := reach_in hx
    have hplace := place_some hx
    have hj := low_bits_lt (addr + BitVec.ofNat 32 i)
    obtain ⟨t₁, hword, h₁, hb₁⟩ := h.next hR hP hB hk rfl hwalk hx hr hc
    -- the store of the word changes the one byte
    have hput := put_patchByte hP hin hr t.mem.bytes b hj
    have ho' := ho.setByte (by omega) hplace b
    obtain ⟨t₂, hwrite, h₂, hb₂⟩ := h₁.write hR hP hB hk hwalk hy hr
      (v := patchByte (x.get t.mem.bytes) ((addr + BitVec.ofNat 32 i) &&& 3#32).toNat b) fun he => by
        rw [hb₁, hput]
        exact hT he _ ho'
    rw [hb₁] at hb₂
    have hc₂ : Cached mc s k t₂.mem.bytes ((addr + BitVec.ofNat 32 i) &&& ~~~3#32)
        (patchByte (x.get t.mem.bytes) ((addr + BitVec.ofNat 32 i) &&& 3#32).toNat b) := by
      intro a z _ hz
      rw [hb₂, ← Option.some.inj (hx.symm.trans hz), get_put_self hP hin hr]
    have hb₃ := hb₂.trans hput
    obtain ⟨t₃, hrest, h₃, hst⟩ := ih (i + 1) _ _ h₂ hc₂ (hb₃ ▸ ho') (by omega)
    rw [hb₃] at hst
    refine ⟨t₃, ?_, h₃, hst.cons hplace⟩
    rw [memoryWriteFrom_cons, bind_ok hword, bind_ok hwrite]
    exact hrest

end Write

/-! ### Places of different bytes -/

section Places

variable {s : GdbSt n δ} {k : Nat} {a a' addr : u32} {x y : Site}

/-- The words of the range that differ are different words of physical memory, and no address comes
twice. -/
structure Injective (mc : MCtrl δ) (s : GdbSt n δ) (k : Nat) (addr : u32) (len : Nat) : Prop where
  once : len ≤ 2 ^ 32
  words : ∀ i < len, ∀ j < len, ∀ x y,
    s.reach mc k .load ((addr + BitVec.ofNat 32 i) &&& ~~~3#32) = some x →
    s.reach mc k .load ((addr + BitVec.ofNat 32 j) &&& ~~~3#32) = some y →
    (addr + BitVec.ofNat 32 i) &&& ~~~3#32 ≠ (addr + BitVec.ofNat 32 j) &&& ~~~3#32 → x.pa ≠ y.pa

lemma bankSite_pa {asked : Bool} {pa : u32} (h : bankSite mc asked pa = some x) : x.pa = pa := by
  unfold bankSite at h
  split at h
  · cases h
  · split_ifs at h
    cases h
    rfl

lemma and_three_eq_zero (e : u32) : e &&& 3#32 = 0 ↔ e.toNat % 4 = 0 := by
  rw [← BitVec.toNat_inj, BitVec.toNat_and]
  exact Iff.of_eq (congrArg (· = 0) (Nat.and_two_pow_sub_one_eq_mod e.toNat 2))

lemma aligned_low (e : u32) : (e &&& ~~~3#32) &&& 3#32 = 0 := by
  rw [BitVec.and_assoc, show ~~~3#32 &&& 3#32 = 0#32 by decide, BitVec.and_zero]
  rfl

lemma aligned_toNat (a : u32) : (a &&& ~~~3#32).toNat = a.toNat / 4 * 4 := by
  have hsum : (a &&& ~~~3#32) + (a &&& 3#32) = a := by
    rw [BitVec.add_eq_or_of_and_eq_zero]
    · rw [← BitVec.and_or_distrib_left, show ~~~3#32 ||| 3#32 = BitVec.allOnes 32 by decide,
        BitVec.and_allOnes]
    · rw [BitVec.and_assoc, ← BitVec.and_assoc (~~~3#32), BitVec.and_comm (~~~3#32) a, BitVec.and_assoc,
        show ~~~3#32 &&& 3#32 = 0#32 by decide, BitVec.and_zero, BitVec.and_zero]
  have hlow : (a &&& 3#32).toNat = a.toNat % 4 := by
    rw [BitVec.toNat_and]
    exact Nat.and_two_pow_sub_one_eq_mod a.toNat 2
  have hle : (a &&& ~~~3#32).toNat ≤ a.toNat := by
    rw [BitVec.toNat_and]
    exact Nat.and_le_left
  have := congrArg BitVec.toNat hsum
  rw [BitVec.toNat_add, hlow] at this
  omega

lemma reach_aligned {rw : Intent} (h : s.reach mc k rw a = some x) (ha : a &&& 3#32 = 0) :
    x.pa &&& 3#32 = 0 := by
  have hsite : ∀ a x, site mc (s.mmu k) s.mem.bytes rw true a = some x → a &&& 3#32 = 0 →
      x.pa &&& 3#32 = 0 := by
    intro a x h ha
    unfold site at h
    split_ifs at h
    · split at h
      · cases h
      · split_ifs at h
        rw [bankSite_pa h]
        exact (and_eq_of_sub (physAddr_low a _ _) (by decide)).trans ha
    · rw [bankSite_pa h]
      exact ha
  unfold GdbSt.reach at h
  split at h
  · next hs =>
    cases h
    exact hsite a _ hs ha
  · split_ifs at h
    obtain ⟨p, hp, hs⟩ := Option.bind_eq_some_iff.mp h
    refine hsite p _ hs ?_
    have hlow : ∀ d : u32, d &&& 3#32 = 0 → (a - d) &&& 3#32 = 0 := by
      intro d hd
      rw [and_three_eq_zero] at ha hd ⊢
      bv_omega
    unfold boot_phys at hp
    split_ifs at hp
    · cases hp
      exact hlow _ (by decide)
    · cases hp
      exact hlow _ (by decide)

lemma apart_of_ne (hx : x.In mc) (hy : y.In mc) (hxa : x.pa &&& 3#32 = 0) (hya : y.pa &&& 3#32 = 0)
    (hne : x.pa ≠ y.pa) : x.ptr.Apart y.ptr := by
  by_cases hi : x.i = y.i
  · obtain ⟨xi, xb, xpa⟩ := x
    obtain ⟨yi, yb, ypa⟩ := y
    obtain rfl : xi = yi := hi
    obtain rfl : xb = yb := MCtrl.bank_unique hx hy
    have hcx := (MCtrl.get_bank_some hx).2
    have hcy := (MCtrl.get_bank_some hy).2
    have hox : xb.offset xpa = xpa.toNat - xb.base.toNat := xb.offset_of_contains hcx
    have hoy : xb.offset ypa = ypa.toNat - xb.base.toNat := xb.offset_of_contains hcy
    have hx4 : xpa.toNat % 4 = 0 := (and_three_eq_zero xpa).mp hxa
    have hy4 : ypa.toNat % 4 = 0 := (and_three_eq_zero ypa).mp hya
    have hn : xpa.toNat ≠ ypa.toNat := fun h => hne (BitVec.eq_of_toNat_eq h)
    refine Or.inr ?_
    show xb.offset xpa + 4 ≤ xb.offset ypa ∨ xb.offset ypa + 4 ≤ xb.offset xpa
    omega
  · exact Or.inl hi

lemma eq_of_word {a b : u32} (hw : a &&& ~~~3#32 = b &&& ~~~3#32) (hl : a &&& 3#32 = b &&& 3#32) :
    a = b := by
  have hsplit : ∀ e : u32, (e &&& ~~~3#32) ||| (e &&& 3#32) = e := by
    intro e
    rw [← BitVec.and_or_distrib_left, show ~~~3#32 ||| 3#32 = BitVec.allOnes 32 by decide,
      BitVec.and_allOnes]
  rw [← hsplit a, ← hsplit b, hw, hl]

lemma Injective.places (h : Injective mc s k addr len)
    (ha : ∀ i < len, s.Accessible mc Mixed k .load ((addr + BitVec.ofNat 32 i) &&& ~~~3#32))
    (hi : i < len) (hj : j < len)
    (he : s.place mc k (addr + BitVec.ofNat 32 i) = s.place mc k (addr + BitVec.ofNat 32 j)) :
    i = j := by
  obtain ⟨-, x, hx, -⟩ := ha i hi
  obtain ⟨-, y, hy, -⟩ := ha j hj
  rw [place_some hx, place_some hy] at he
  obtain ⟨hbank, hoff⟩ := HostPtr.mk.inj (Option.some.inj he)
  have hli := low_bits_lt (addr + BitVec.ofNat 32 i)
  have hlj := low_bits_lt (addr + BitVec.ofNat 32 j)
  by_cases hw : (addr + BitVec.ofNat 32 i) &&& ~~~3#32 = (addr + BitVec.ofNat 32 j) &&& ~~~3#32
  · -- one word, so the bytes in it are the same
    rw [hw] at hx
    obtain rfl : x = y := Option.some.inj (hx.symm.trans hy)
    have hlow : (addr + BitVec.ofNat 32 i) &&& 3#32 = (addr + BitVec.ofNat 32 j) &&& 3#32 :=
      BitVec.eq_of_toNat_eq (by omega)
    have hsum := eq_of_word hw hlow
    have := h.once
    bv_omega
  · have hapart := apart_of_ne (reach_in hx) (reach_in hy) (reach_aligned hx (aligned_low _))
      (reach_aligned hy (aligned_low _)) (h.words i hi j hj x y hx hy hw)
    rcases hapart with hb | ho | ho
    · exact absurd hbank hb
    · exact absurd hoff (by
        have : x.b.offset x.pa + 4 ≤ y.b.offset y.pa := ho
        omega)
    · exact absurd hoff (by
        have : y.b.offset y.pa + 4 ≤ x.b.offset x.pa := ho
        omega)

end Places

/-! ### Whole transfers -/

section Transfer

variable {s t : GdbSt n δ} {k : Nat} {addr : u32} {len : Nat}
  (hR : (s.mmu k).get_enabled = true → s.Ready mc k) (hP : mc.Paged Mixed)
  (hB : mc.Bootable) (hk : s.selected = some k)

include hR hP hB hk

lemma handle_memory_read_ok (h : Sees mc k s t)
    (ha : ∀ i < len, s.Accessible mc Mixed k .load ((addr + BitVec.ofNat 32 i) &&& ~~~3#32)) :
    ∃ t', handle_memory_read mc addr len t = .ok (to_hex ((List.range len).map fun i =>
        s.byteIn mc k t.mem.bytes (addr + BitVec.ofNat 32 i))) t' ∧ t'.mem.bytes = t.mem.bytes := by
  obtain ⟨t', hread, -, hb⟩ := memoryReadFrom_ok hR hP hB hk len 0 (~~~0#32) 0 h
    (cached_none _ _) fun j _ hj => ha j (by omega)
  rw [← List.range_eq_range'] at hread
  exact ⟨t', hread, hb⟩

lemma handle_memory_write_ok {data : List Char} (hlen : data.length = len * 2)
    (h64 : data.length < 2 ^ 64) (hd : ∀ c ∈ data, isxdigit c = true)
    (ha : ∀ rw, rw ≠ .execute → ∀ i < len,
      s.Accessible mc Mixed k rw ((addr + BitVec.ofNat 32 i) &&& ~~~3#32))
    (hT : (s.mmu k).get_enabled = true → TablesElsewhere mc s k addr len) :
    ∃ bytes t, to_hex bytes = data.map Char.toLower ∧ bytes.length = len ∧
      handle_memory_write mc addr len data s = .ok true t ∧ Sees mc k s t ∧
      Stored (fun j => s.place mc k (addr + BitVec.ofNat 32 j)) 0 bytes s.mem.bytes t.mem.bytes := by
  obtain ⟨bytes, hbytes, hl, ht⟩ := memoryBytes_ok hd len 0 (by omega)
  obtain ⟨t, hwrite, hs, hst⟩ := memoryWriteFrom_ok hR hP hB hk bytes 0 (~~~0#32) 0 hT (Sees.refl hR)
    (cached_none _ _) (fun _ _ => rfl) (by omega) ha
  refine ⟨bytes, t, ht, hl, ?_, hs, hst⟩
  have hsize : ¬ data.length ≠ len * 2 % 2 ^ 64 := by omega
  unfold handle_memory_write
  rw [if_neg hsize, hbytes]
  show (do memoryWriteFrom mc addr 0 (~~~0#32) 0 bytes; pure true : GdbM n δ Bool) s = _
  rw [bind_ok hwrite]
  rfl

end Transfer

/-- **Transfers are exact**: reading gives the bytes of the range, and writing changes them alone.
What was written is read back where no two bytes of the range share a place. -/
theorem memory_transfer_exact (hP : mc.Paged Mixed) (hB : mc.Bootable) (s : GdbSt n δ) (k : Nat)
    (hk : s.selected = some k) (hR : (s.mmu k).get_enabled = true → s.Ready mc k) (addr : u32)
    (len : Nat)
    (ha : ∀ i < len, s.Accessible mc Mixed k .load ((addr + BitVec.ofNat 32 i) &&& ~~~3#32)) :
    (∃ s', handle_memory_read mc addr len s = .ok (to_hex (s.bytes mc k addr len)) s' ∧
      s'.mem.bytes = s.mem.bytes) ∧
    ∀ data : List Char, data.length = len * 2 → data.length < 2 ^ 64 →
      (∀ c ∈ data, isxdigit c = true) →
      (∀ i < len, s.Accessible mc Mixed k .store ((addr + BitVec.ofNat 32 i) &&& ~~~3#32)) →
      ((s.mmu k).get_enabled = true → TablesElsewhere mc s k addr len) →
      ∃ t, handle_memory_write mc addr len data s = .ok true t ∧
        (∀ p, (∀ i < len, s.place mc k (addr + BitVec.ofNat 32 i) ≠ some p) →
          t.mem.bytes p.bank p.off = s.mem.bytes p.bank p.off) ∧
        (Injective mc s k addr len → ∃ t',
          handle_memory_read mc addr len t = .ok (data.map Char.toLower) t') := by
  refine ⟨handle_memory_read_ok hR hP hB hk (Sees.refl hR) ha, ?_⟩
  intro data hlen h64 hd hst hT
  have hacc : ∀ rw, rw ≠ .execute → ∀ i < len,
      s.Accessible mc Mixed k rw ((addr + BitVec.ofNat 32 i) &&& ~~~3#32) := by
    intro rw hrw i hi
    cases rw with
    | load => exact ha i hi
    | store => exact hst i hi
    | execute => exact absurd rfl hrw
  obtain ⟨bytes, t, ht, hl, hwrite, hs, hstored⟩ :=
    handle_memory_write_ok hR hP hB hk hlen h64 hd hacc hT
  refine ⟨t, hwrite, fun p hp => hstored.outside p fun j _ hj => hp j (by omega), fun hinj => ?_⟩
  obtain ⟨t', hread, -⟩ := handle_memory_read_ok hR hP hB hk hs ha
  refine ⟨t', ?_⟩
  rw [hread, ← ht]
  congr 2
  apply List.ext_getElem
  · rw [List.length_map, List.length_range, hl]
  intro i hi hi'
  rw [List.length_map, List.length_range] at hi
  obtain ⟨-, x, hx, -⟩ := ha i hi
  have hplace := place_some hx
  rw [List.getElem_map, List.getElem_range]
  unfold byteIn
  rw [hplace]
  refine hstored.last i _ _ (List.getElem?_eq_getElem hi') (by rw [Nat.zero_add]; exact hplace) ?_
  intro l hil hll heq
  have := hinj.places ha (i := l) (j := i) (by omega) hi (heq.trans hplace.symm)
  omega

end GdbStub

/-! ### A transfer with the MMU on -/

/-- A processor whose caches hold the page of the transfer. -/
def superGdb : GdbSt 1 Unit := { bootSt with mmu := fun _ => superSt.mmu, mem := superSt.mem }

lemma superGdb_reach {rw : Intent} (hrw : rw ≠ .execute) {a pa : u32} (hpa : physAddr a 0x0400001e 1 = pa)
    (hb : superMap.get_bank pa = some (0, superBank)) :
    superGdb.reach superMap 0 rw a = some ⟨0, superBank, pa⟩ := by
  unfold GdbSt.reach
  rw [show site superMap (superGdb.mmu 0) superGdb.mem.bytes rw true a = _ from
    superSt_super.site hrw hpa hb]

lemma superGdb_word (i : Nat) (hi : i < 2) {rw : Intent} (hrw : rw ≠ .execute) :
    superGdb.reach superMap 0 rw ((0x01000003 + BitVec.ofNat 32 i) &&& ~~~3#32) =
      some ⟨0, superBank, 0x40000000 + 4 * BitVec.ofNat 32 i⟩ := by
  interval_cases i
  · exact superGdb_reach hrw (by decide) (by decide)
  · exact superGdb_reach hrw (by decide) (by decide)

/-- Two bytes, the second of them in the next word. -/
theorem memory_transfer_exact_unaligned :
    ∃ t, GdbStub.handle_memory_write superMap 0x01000003 2 "aB7f".toList superGdb = .ok true t ∧
      ∃ t', GdbStub.handle_memory_read superMap 0x01000003 2 t = .ok "ab7f".toList t' := by
  have hacc : ∀ rw, rw ≠ .execute → ∀ i < 2, superGdb.Accessible superMap (fun _ => False) 0 rw
      ((0x01000003 + BitVec.ofNat 32 i) &&& ~~~3#32) := fun rw hrw i hi =>
    ⟨superSt_super.walkable _, _, superGdb_word i hi hrw, rfl⟩
  obtain ⟨-, hwrite⟩ := GdbStub.memory_transfer_exact superMap_paged (MCtrl.bootable_one rfl) superGdb 0 rfl
    (fun _ => ⟨superSt_super.coherent,
      by rw [show superGdb.mmu 0 = superSt.mmu from rfl, superSt_super.ctx]; decide⟩)
    0x01000003 2 (hacc .load (by decide))
  have hdigits : "aB7f".toList.all isxdigit = true := by decide
  -- the tables are behind the first page
  have htables : GdbStub.TablesElsewhere superMap superGdb 0 0x01000003 2 := by
    intro g hg
    refine superSt_super.sameLeaves fun o ho =>
      (hg ⟨0, o⟩ fun i hi hp => ?_).trans (superSt_super.bytes o ho)
    rw [GdbSt.place_some (superGdb_word i hi (by decide))] at hp
    interval_cases i <;> cases hp <;> exact absurd ho (by decide)
  obtain ⟨t, ht, -, hback⟩ := hwrite "aB7f".toList rfl (by decide) (List.all_eq_true.mp hdigits)
    (hacc .store (by decide)) fun _ => htables
  refine ⟨t, ht, hback ⟨by decide, ?_⟩⟩
  intro i hi j hj x y hx hy hne
  rw [superGdb_word i hi (by decide)] at hx
  rw [superGdb_word j hj (by decide)] at hy
  cases hx
  cases hy
  interval_cases i <;> interval_cases j <;> first | exact absurd rfl hne | decide

/-! ### Words that are shared, tables in the range, stale caches -/

def wideRam : MCtrl Unit where
  banks := [{ kind := .RamBank, base := 0x40000000, size := 0xb0000000 }]
  dev := oneDev

namespace wideRam

lemma get_bank_inside (h : 0x40000000 ≤ a.toNat) (h' : a.toNat < 0xf0000000) :
    wideRam.get_bank a = some (0, { kind := .RamBank, base := 0x40000000, size := 0xb0000000 }) :=
  MCtrl.get_bank_one rfl h h'

lemma get_bank_boot : wideRam.get_bank 0xf0000000 = none := by decide

lemma paged : wideRam.Paged fun _ => False := MCtrl.paged_one rfl rfl rfl (by decide)

lemma bootable : wideRam.Bootable := MCtrl.bootable_one rfl

open GdbStub

lemma reach_boot_window (rw : Intent) :
    bootSt.reach wideRam 0 rw 0xf0000000 = bootSt.reach wideRam 0 rw 0x40000000 := by
  have he : (bootSt.mmu 0).get_enabled = false := rfl
  rw [reach_ram (a := 0x40000000) he (get_bank_inside (by decide) (by decide)) rfl]
  unfold GdbSt.reach
  rw [site_off he, bankSite_none get_bank_boot]
  dsimp only
  rw [if_neg (by decide), show boot_phys 0xf0000000 = some 0x40000000 by decide, Option.bind_some,
    site_off he]
  exact bankSite_some (get_bank_inside (by decide) (by decide)) fun _ => rfl

lemma accessible (rw : Intent) (i : Nat) (hi : i < 0xb0000004) :
    bootSt.Accessible wideRam (fun _ => False) 0 rw
      ((0x40000000 + BitVec.ofNat 32 i) &&& ~~~3#32) := by
  refine ⟨fun he => absurd he (by decide), ?_⟩
  have hn := aligned_toNat (0x40000000 + BitVec.ofNat 32 i)
  have hs : (0x40000000 + BitVec.ofNat 32 i : u32).toNat = 0x40000000 + i := by
    rw [BitVec.toNat_add, BitVec.toNat_ofNat]
    show (0x40000000 + i % 2 ^ 32) % 2 ^ 32 = _
    omega
  rw [hs] at hn
  by_cases h : i < 0xb0000000
  · exact ⟨_, reach_ram rfl (get_bank_inside (by omega) (by omega)) rfl, rfl⟩
  · have ha : (0x40000000 + BitVec.ofNat 32 i) &&& ~~~3#32 = 0xf0000000 := by
      apply BitVec.eq_of_toNat_eq
      rw [hn]
      show _ = 0xf0000000
      omega
    rw [ha, reach_boot_window]
    exact ⟨_, reach_ram rfl (get_bank_inside (by decide) (by decide)) rfl, rfl⟩

/-- Zeros for all of RAM, and a word for the boot window. -/
def data : List Char := List.replicate 0x160000000 '0' ++ "01000000".toList

lemma data_length : data.length = 0xb0000004 * 2 := by
  unfold data
  rw [List.length_append, List.length_replicate]
  rfl

lemma data_digits : ∀ c ∈ data, isxdigit c = true := by
  have hword : "01000000".toList.all isxdigit = true := by decide
  intro c hc
  rcases List.mem_append.mp hc with h | h
  · rw [List.eq_of_mem_replicate h]
    decide
  · exact List.all_eq_true.mp hword c h

lemma data_first : (data.map Char.toLower).take 2 = ['0', '0'] := by
  unfold data
  have h2 : 2 ≤ 0x160000000 := by omega
  rw [List.map_append, List.map_replicate, List.take_append_of_le_length, List.take_replicate,
    Nat.min_eq_left h2]
  · rfl
  · rw [List.length_replicate]
    exact h2

lemma data_window : ((data.map Char.toLower).drop 0x160000000).take 2 = ['0', '1'] := by
  unfold data
  rw [List.map_append, List.map_replicate]
  rw [List.drop_append_of_le_length (by rw [List.length_replicate]), List.drop_replicate]
  rfl

/-- **Aliased words are not read back**: the byte for `0xf0000000` goes where the one for
`0x40000000` went. -/
lemma not_read_back :
    ∃ t, handle_memory_write wideRam 0x40000000 0xb0000004 data bootSt = .ok true t ∧
      ∀ t', handle_memory_read wideRam 0x40000000 0xb0000004 t ≠ .ok (data.map Char.toLower) t' := by
  have hR : (bootSt.mmu 0).get_enabled = true → bootSt.Ready wideRam 0 := fun h => absurd h (by decide)
  have hlen := data_length
  have hd := data_digits
  have h0 := data_first
  have h1 := data_window
  generalize data = text at hlen hd h0 h1 ⊢
  obtain ⟨-, t, -, -, hwrite, hs, -⟩ := handle_memory_write_ok hR paged bootable rfl
    hlen (by omega) hd (fun rw _ => accessible rw) fun h => absurd h (by decide)
  refine ⟨t, hwrite, fun t' hread => ?_⟩
  obtain ⟨t'', hread', -⟩ := handle_memory_read_ok hR paged bootable rfl hs (accessible .load)
  have htext := (EStateM.Result.ok.inj (hread.symm.trans hread')).1
  -- both bytes are shown as what their common place has
  have hbyte : ∀ i (hi : i < 0xb0000004), ((text.map Char.toLower).drop (i * 2)).take 2 =
      hex2 (bootSt.byteIn wideRam 0 t.mem.bytes (0x40000000 + BitVec.ofNat 32 i)) := by
    intro i hi
    rw [htext, to_hex_byte _ i (by rw [List.length_map, List.length_range]; exact hi),
      List.getElem_map, List.getElem_range]
  have hshare : bootSt.byteIn wideRam 0 t.mem.bytes (0x40000000 + BitVec.ofNat 32 0xb0000000) =
      bootSt.byteIn wideRam 0 t.mem.bytes (0x40000000 + BitVec.ofNat 32 0) := by
    unfold GdbSt.byteIn GdbSt.place
    rw [show (0x40000000 + BitVec.ofNat 32 0xb0000000 : u32) &&& ~~~3#32 = 0xf0000000 by decide,
      reach_boot_window]
    rfl
  have hb0 := hbyte 0 (by decide)
  have hb1 := hbyte 0xb0000000 (by decide)
  rw [hshare, ← hb0] at hb1
  rw [show 0xb0000000 * 2 = 0x160000000 by decide, h1, Nat.zero_mul, List.drop_zero, h0] at hb1
  exact absurd hb1 (by decide)

end wideRam

/-- Big-endian words in the first bank, zeros elsewhere. -/
def wordsAt (ws : List (Int × u32)) : HostBytes := fun i o =>
  if i = 0 then ((ws.find? fun e => e.1 = o / 4 * 4).elim 0
    fun e => (e.2 >>> ((3 - (o % 4).toNat) * 8)).setWidth 8) else 0

/-- One page table: its last entries map two pages in a row, the first of them to the page that the
table is in. -/
def tabledSt : GdbSt 1 Unit := { bootSt with
  mmu := fun _ => { MMU.init with control_reg := 1, ctx_tbl_ptr := 0x4000000 }
  mem := ⟨wordsAt [(0, 0x04000041), (0x400, 0x04000081), (0x800, 0x040000f1), (0xff8, 0x0400000e),
    (0xffc, 0x0400010e)], ()⟩ }

/-- The mapping of a page is changed after the page has been read. -/
def staleSt : GdbSt 1 Unit :=
  { final (GdbStub.handle_memory_read (MCtrl.main false oneDev) 0x3f000 1 tabledSt) with
    mem := ⟨wordsAt [(0, 0x04000041), (0x400, 0x04000081), (0x800, 0x040000f1), (0xff8, 0x0400000e),
      (0xffc, 0x0400020e), (0x2000, 0x01000000)], ()⟩ }

/-- **Limits of transfers**: words that share a place are not read back; a page table entry in the
range can make a word behind it inaccessible; a stale cache entry shows bytes of another page. -/
theorem memory_transfer_limits :
    (∃ t, GdbStub.handle_memory_write wideRam 0x40000000 0xb0000004 wideRam.data bootSt = .ok true t ∧
      ∀ t', GdbStub.handle_memory_read wideRam 0x40000000 0xb0000004 t
        ≠ .ok (wideRam.data.map Char.toLower) t') ∧
    (Returns (GdbStub.handle_memory_read (MCtrl.main false oneDev) 0x3effc 8 tabledSt) ∧
      Returns (GdbStub.write_mem32 (MCtrl.main false oneDev) 0x3effc 0 tabledSt) ∧
      Returns (GdbStub.write_mem32 (MCtrl.main false oneDev) 0x3f000 0 tabledSt) ∧
      ¬ Returns (GdbStub.handle_memory_write (MCtrl.main false oneDev) 0x3effc 8
        "0000000000000000".toList tabledSt)) ∧
    (staleSt.bytes (MCtrl.main false oneDev) 0 0x3f000 1 = [1] ∧
      ∀ t, GdbStub.handle_memory_read (MCtrl.main false oneDev) 0x3f000 1 staleSt
        ≠ .ok (to_hex [1]) t) := by
  refine ⟨wideRam.not_read_back, by decide +kernel, by decide +kernel, fun t ht => ?_⟩
  have htext : (match GdbStub.handle_memory_read (MCtrl.main false oneDev) 0x3f000 1 staleSt with
      | .ok text _ => text
      | .error _ _ => []) = "00".toList := by
    decide +kernel
  rw [ht] at htext
  exact absurd (show to_hex [1] = "00".toList from htext) (by decide)

end SparcEmu
