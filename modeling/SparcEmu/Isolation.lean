import SparcEmu.AccessPlan
import SparcEmu.Entry

/-!
What the user can reach. Two machines that differ only in bytes behind entries without user access
are run side by side: in user mode every access but those for the FSR takes the same course in
both, and leaves those bytes alone.
-/

namespace SparcEmu

open Lib.Effect Lib.Bits

variable {δ : Type} {mc : MCtrl δ}

/-! ### Physical addresses and host bytes -/

/-- Byte `o` of bank `i` is the memory at the physical address. -/
def MCtrl.ByteOf (mc : MCtrl δ) (pa : u32) (i : Nat) (o : Int) : Prop :=
  ∃ b, mc.get_bank pa = some (i, b) ∧ b.isDevice = false ∧ o = b.offset pa

variable {pa : u32} {i : Nat} {b : IMemoryBank}

lemma MCtrl.ByteOf.addr {pa' pa₀ : u32} {k : Nat}
    (h : mc.ByteOf pa' i ((pa.toNat : Int) - b.base.toNat + k))
    (hb : mc.get_bank pa₀ = some (i, b)) : pa'.toNat = pa.toNat + k := by
  obtain ⟨b', hb', -, ho⟩ := h
  obtain rfl := MCtrl.bank_unique hb' hb
  rw [b'.offset_of_contains (MCtrl.get_bank_some hb').2] at ho
  omega

variable {a : u32} {size : AccessSize}

lemma samePage_span {a' : u32} {k : Nat} (ha : a &&& size.mask = 0) (hk : k < size.bytes)
    (h : a'.toNat = a.toNat + k) : SamePage a' a := by
  have hm : a.toNat % size.bytes = 0 := by
    have h0 := congrArg BitVec.toNat ha
    cases size with
    | b1 => exact Nat.mod_one _
    | b2 => rwa [show AccessSize.b2.mask = low 32 1 from rfl, toNat_low (by decide)] at h0
    | b4 => rwa [show AccessSize.b4.mask = low 32 2 from rfl, toNat_low (by decide)] at h0
  apply BitVec.eq_of_toNat_eq
  simp only [BitVec.toNat_ushiftRight, Nat.shiftRight_eq_div_pow]
  cases size <;> simp only [AccessSize.bytes] at hm hk <;> omega

lemma consecutive_aligned {addr : u32} (hin : b.contains addr = true) (ha : addr &&& 3 = 0) :
    Consecutive b addr := by
  have h4 := congrArg BitVec.toNat ha
  rw [show (3 : u32) = low 32 2 from rfl, toNat_low (by decide)] at h4
  have h4 : addr.toNat % 4 = 0 := h4
  have hlt := addr.isLt
  exact consecutive_of_le hin (by omega)

/-! ### Entries without user access -/

/-- The access permissions give the user nothing. -/
def NoUser (pte : u32) : Prop := (pte >>> 2) &&& 7 = 6 ∨ (pte >>> 2) &&& 7 = 7

instance (pte : u32) : Decidable (NoUser pte) := inferInstanceAs (Decidable (_ ∨ _))

variable {rw : Intent}

lemma not_noUser {pte : u32} {level : u8} (h : MMU.permFault pte rw false level = 0) :
    ¬ NoUser pte := by
  intro hn
  have hacc : (((pte >>> 2) &&& 7).setWidth 8 : u8) = 6 ∨ (((pte >>> 2) &&& 7).setWidth 8 : u8) = 7 := by
    rcases hn with hn | hn <;> rw [hn]
    · exact Or.inl rfl
    · exact Or.inr rfl
  unfold MMU.permFault at h
  dsimp only at h
  generalize (((pte >>> 2) &&& 7).setWidth 8 : u8) = ACC at h hacc
  generalize pte &&& 3 = ET at h
  by_cases h0 : ET = 0
  · rw [if_pos h0] at h
    cases h
  · rw [if_neg h0] at h
    -- the access types of the user are 0, 2 and 4, and each refuses these permissions
    have h3 : (3 : u8) = 0 := by
      rcases hacc with rfl | rfl <;> cases rw <;> exact h
    cases h3

variable {va : u32}

lemma Tables.leaf_granted {T : Tables} {c : u32} {r : u32 × u8} {sup : Bool}
    (hl : T.leaf c va = some r) (h : MMU.permFault r.1 rw sup r.2 = 0) : r.1 &&& 3 = 2 :=
  MMU.granted_valid (Tables.leaf_ptd hl) h

namespace Tables

variable (T : Tables) (c : u32)

/-- The context maps the physical page of `pa` only by entries without user access, or not at
all. -/
def Guarded (pa : u32) : Prop :=
  ∀ va r, T.leaf c va = some r → r.1 &&& 3 = 2 → SamePage (MMU.physAddr va r.1 r.2) pa → NoUser r.1

/-- The addresses that a walk for `va` reads. -/
inductive Reads (va : u32) : u32 → Prop
  | level0 : Reads va (T.root c)
  | level1 {l0 : u32} : T.word (T.root c) = some l0 → l0 &&& 3 = 1 →
      Reads va (MMU.tableAddr l0 (MMU.ind1 va))
  | level2 {l0 l1 : u32} : T.word (T.root c) = some l0 → l0 &&& 3 = 1 →
      T.word (MMU.tableAddr l0 (MMU.ind1 va)) = some l1 → l1 &&& 3 = 1 →
      Reads va (MMU.tableAddr l1 (MMU.ind2 va))
  | level3 {l0 l1 l2 : u32} : T.word (T.root c) = some l0 → l0 &&& 3 = 1 →
      T.word (MMU.tableAddr l0 (MMU.ind1 va)) = some l1 → l1 &&& 3 = 1 →
      T.word (MMU.tableAddr l1 (MMU.ind2 va)) = some l2 → l2 &&& 3 = 1 →
      Reads va (MMU.tableAddr l2 (MMU.ind3 va))

/-- No walk reads the physical page of `pa`. -/
def TableFree (pa : u32) : Prop := ∀ va a, T.Reads c va a → ¬ SamePage a pa

variable {T c}

lemma leaf_congr {T' : Tables} (hp : T'.ptr = T.ptr)
    (h : ∀ a, T.Reads c va a → T'.word a = T.word a) : T'.leaf c va = T.leaf c va := by
  have h0 := h _ .level0
  have hr : T'.root c = T.root c := by unfold root; rw [hp]
  unfold leaf
  rw [hr, h0]
  cases e0 : T.word (T.root c) with
  | none => rfl
  | some l0 =>
    simp only [Option.bind_eq_bind, Option.bind_some]
    split_ifs with c0
    · rw [h _ (.level1 e0 c0)]
      cases e1 : T.word (MMU.tableAddr l0 (MMU.ind1 va)) with
      | none => rfl
      | some l1 =>
        simp only [Option.bind_some]
        split_ifs with c1
        · rw [h _ (.level2 e0 c0 e1 c1)]
          cases e2 : T.word (MMU.tableAddr l1 (MMU.ind2 va)) with
          | none => rfl
          | some l2 =>
            simp only [Option.bind_some]
            split_ifs with c2
            · rw [h _ (.level3 e0 c0 e1 c1 e2 c2)]
            · rfl
        · rfl
    · rfl

lemma Reads.aligned (h : T.Reads c va a) : a &&& 3 = 0 := by
  have h4 : ∀ x y : u32, (x + y * 4) &&& 3 = x &&& 3 := by
    intro x y
    apply BitVec.eq_of_toNat_eq
    rw [show (3 : u32) = low 32 2 from rfl, toNat_low (by decide), toNat_low (by decide),
      BitVec.toNat_add, BitVec.toNat_mul, show BitVec.toNat (4 : u32) = 4 from rfl]
    omega
  have hs : ∀ (x : u32) (n : Nat), 2 ≤ n → (x <<< n) &&& 3 = 0 := by
    intro x n hn
    apply BitVec.eq_of_getLsbD_eq
    intro i hi
    rw [show (3 : u32) = low 32 2 from rfl, BitVec.getLsbD_and, getLsbD_low,
      BitVec.getLsbD_shiftLeft]
    by_cases h2 : i < 2
    · simp [show i < n by omega]
    · simp [h2]
  have ht : ∀ ptd ind : u32, MMU.tableAddr ptd ind &&& 3 = 0 := by
    intro ptd ind
    unfold MMU.tableAddr
    rw [h4, hs _ 6 (by decide)]
  cases h with
  | level0 => unfold root; rw [h4, hs _ 4 (by decide)]
  | level1 | level2 | level3 => exact ht _ _

end Tables

variable {h h' : HostBytes}

lemma MCtrl.wordAt_congr (ha : a &&& 3 = 0)
    (hd : ∀ i o, h' i o ≠ h i o → ∃ pa, mc.ByteOf pa i o ∧ ¬ SamePage a pa) :
    mc.wordAt h' a = mc.wordAt h a := by
  unfold MCtrl.wordAt
  cases hb : mc.get_bank a with
  | none => rfl
  | some x =>
    obtain ⟨i, b⟩ := x
    have hin := (MCtrl.get_bank_some hb).2
    have hm : memRead h' b i a .b4 = memRead h b i a .b4 := by
      refine memRead_congr (consecutive_aligned hin ha) fun q h1 h2 => ?_
      by_contra hne
      obtain ⟨pa, hpa, hpage⟩ := hd i q hne
      rw [b.offset_of_contains hin] at h1 h2
      have hq : q = (a.toNat : Int) - b.base.toNat + (q - (a.toNat - b.base.toNat)).toNat := by
        omega
      rw [hq] at hpa
      have hspan := samePage_span (show a &&& AccessSize.b4.mask = 0 from ha) (by omega)
        (hpa.addr hb)
      exact hpage hspan.symm
    dsimp only
    rw [hm]

/-! ### Two runs side by side -/

/-- How far the devices of the two machines agree: before the first store they are equal, after it
a store still throws in both or in none. -/
inductive Bus | same | alike | loose

/-- The agreement after one more store. -/
def Bus.next : Bus → Bus
  | .same => .alike
  | _ => .loose

def Bus.Rel (mc : MCtrl δ) : Bus → δ → δ → Prop
  | .same, d, d' => d = d'
  | .alike, d, d' => ∀ id size addr v,
      (mc.dev.write id size addr v d).isOk = (mc.dev.write id size addr v d').isOk
  | .loose, _, _ => True

variable {k : Bus}

lemma Bus.Rel.next {d d' : δ} (h : k.Rel mc d d') : k.next.Rel mc d d' := by
  cases k with
  | same =>
    obtain rfl : d = d' := h
    exact fun _ _ _ _ => rfl
  | alike => trivial
  | loose => trivial

structure Keeps (Hid : Nat → Int → Prop) (x y : HostBytes) (h h' : HostBytes) : Prop where
  left : ∀ {i o}, Hid i o → h i o = x i o
  right : ∀ {i o}, Hid i o → h' i o = y i o

/-- The machines agree but for hidden bytes, which are still what they were. -/
structure Two (mc : MCtrl δ) (Hid : Nat → Int → Prop) (x y : HostBytes) (k : Bus) (s t : MMUSt δ) :
    Prop extends Keeps Hid x y s.mem.bytes t.mem.bytes where
  mmu : s.mmu = t.mmu
  dev : k.Rel mc s.mem.dev t.mem.dev
  off : ∀ {i o}, ¬ Hid i o → s.mem.bytes i o = t.mem.bytes i o

/-- None of the `n` bytes at the pointer is hidden. -/
def Clears (Hid : Nat → Int → Prop) (p : HostPtr) (n : Nat) : Prop :=
  ∀ k : Nat, k < n → ¬ Hid p.bank (p.off + k)

variable {p : HostPtr} {v : u32} {s t : MMUSt δ}

section Runs

variable {Hid : Nat → Int → Prop} {x y : HostBytes} {n : Nat}

lemma Clears.not (h : Clears Hid p n) {q : Int} (h1 : p.off ≤ q) (h2 : q < p.off + n) :
    ¬ Hid p.bank q := by
  have := h (q - p.off).toNat (by omega)
  rwa [show p.off + ((q - p.off).toNat : Int) = q by omega] at this

variable {o : Int}

lemma Clears.outside (h : Clears Hid p n) (ho : Hid i o) : Outside p n i o := by
  by_contra hn
  unfold Outside at hn
  push Not at hn
  obtain ⟨rfl, h1, h2⟩ := hn
  exact h.not h1 h2 ho

lemma putByte_at {k : Int} (e : h i o = h' i o) : putByte h p k v i o = putByte h' p k v i o := by
  unfold putByte setByte
  split_ifs
  · rfl
  · exact e

lemma ptrWrite_at (e : h i o = h' i o) : ptrWrite h p v size i o = ptrWrite h' p v size i o := by
  cases size with
  | b1 => exact putByte_at e
  | b2 => exact putByte_at (putByte_at e)
  | b4 => exact putByte_at (putByte_at (putByte_at (putByte_at e)))

lemma memWrite_at (e : h i o = h' i o) :
    memWrite h b n pa v size i o = memWrite h' b n pa v size i o := by
  cases size with
  | b1 => exact putByte_at e
  | b2 => exact putByte_at (putByte_at e)
  | b4 => exact putByte_at (putByte_at (putByte_at (putByte_at e)))

lemma Two.write (h : Two mc Hid x y k s t) {f : HostBytes → HostBytes}
    (hat : ∀ {g g' : HostBytes} {i o}, g i o = g' i o → f g i o = f g' i o)
    (hkeep : ∀ {g : HostBytes} {i o}, Hid i o → f g i o = g i o) :
    Two mc Hid x y k ⟨s.mmu, ⟨f s.mem.bytes, s.mem.dev⟩⟩ ⟨t.mmu, ⟨f t.mem.bytes, t.mem.dev⟩⟩ where
  left hh := (hkeep hh).trans (h.left hh)
  right hh := (hkeep hh).trans (h.right hh)
  mmu := h.mmu
  dev := h.dev
  off hh := hat (h.off hh)

lemma Two.next (h : Two mc Hid x y k s t) : Two mc Hid x y k.next s t :=
  { h with dev := h.dev.next }

/-- A program that takes the same course in both machines. -/
abbrev Side (mc : MCtrl δ) (Hid : Nat → Int → Prop) (x y : HostBytes) :
    Kind HostError (MMUSt δ) Bus :=
  Sim (Two mc Hid x y) fun s t => Keeps Hid x y s.mem.bytes t.mem.bytes

lemma side_closed (mc : MCtrl δ) (Hid : Nat → Int → Prop) (x y : HostBytes) :
    Closed (Side mc Hid x y) :=
  sim_closed _ _

lemma Clears.read (hp : Clears Hid p size.bytes) (h : Two mc Hid x y k s t) :
    ptrRead s.mem.bytes p size = ptrRead t.mem.bytes p size :=
  ptrRead_congr fun _ h1 h2 => h.off (hp.not h1 h2)

lemma side_ptrAccess (hrw : rw ≠ .execute) (hp : Clears Hid p size.bytes) :
    Side mc Hid x y (cint × u32) k (MMU.ptrAccess rw size p v) fun _ j => j = k := by
  intro s t h
  cases rw with
  | execute => exact absurd rfl hrw
  | load =>
    refine Or.inl ⟨_, s, t, k, rfl, ?_, rfl, h⟩
    show EStateM.Result.ok (0, ptrRead t.mem.bytes p size) t = _
    rw [hp.read h]
  | store =>
    exact Or.inl ⟨_, _, _, k, rfl, rfl, rfl,
      h.write ptrWrite_at fun hh => ptrWrite_other v (hp.outside hh)⟩

/-- Where the bank is memory, its bytes are not hidden. -/
def BankClear (Hid : Nat → Int → Prop) (i : Nat) (b : IMemoryBank) (pa : u32) (size : AccessSize) :
    Prop :=
  b.isDevice = false → Consecutive b pa ∧ Clears Hid ⟨i, b.offset pa⟩ size.bytes

lemma side_bankRead (hb : BankClear Hid i b pa size) :
    Side mc Hid x y u32 .same (MMU.onMem (mc.bankRead i b size pa)) fun _ j => j = .same := by
  intro s t h
  unfold MMU.onMem
  cases hd : b.isDevice with
  | false =>
    obtain ⟨hc, hp⟩ := hb hd
    have hr : memRead s.mem.bytes b i pa size = memRead t.mem.bytes b i pa size :=
      memRead_congr hc fun _ h1 h2 => h.off (hp.not h1 h2)
    rw [MCtrl.bankRead_memory hd, MCtrl.bankRead_memory hd, ← hr]
    exact Or.inl ⟨_, _, _, .same, rfl, rfl, rfl, h⟩
  | true =>
    have hdev : s.mem.dev = t.mem.dev := h.dev
    obtain ⟨id, p, hk⟩ := IMemoryBank.kind_device hd
    unfold MCtrl.bankRead
    rw [hk]
    dsimp only
    rw [hdev]
    cases mc.dev.read id size pa t.mem.dev with
    | error e => exact Or.inr ⟨_, _, _, rfl, rfl, h.toKeeps⟩
    | ok r => exact Or.inl ⟨_, _, _, .same, rfl, rfl, rfl, ⟨h.left, h.right⟩, h.mmu, rfl, h.off⟩

lemma side_bankWrite (hb : BankClear Hid i b pa size) (hk : k = .same ∨ k = .alike) :
    Side mc Hid x y Unit k (MMU.onMem' (mc.bankWrite i b size pa v)) fun _ j => j = k.next := by
  intro s t h
  unfold MMU.onMem' MMU.onMem MCtrl.bankWrite
  have hw (hd : b.isDevice = false) :
      Two mc Hid x y k.next ⟨s.mmu, ⟨memWrite s.mem.bytes b i pa v size, s.mem.dev⟩⟩
        ⟨t.mmu, ⟨memWrite t.mem.bytes b i pa v size, t.mem.dev⟩⟩ :=
    (h.write memWrite_at fun hh => memWrite_other (hb hd).1 v ((hb hd).2.outside hh)).next
  cases hbk : b.kind with
  | RamBank =>
    exact Or.inl ⟨_, _, _, k.next, rfl, rfl, rfl, hw (by rw [IMemoryBank.isDevice, hbk])⟩
  | RomBank w =>
    cases w with
    | true =>
      exact Or.inl ⟨_, _, _, k.next, rfl, rfl, rfl, hw (by rw [IMemoryBank.isDevice, hbk])⟩
    | false => exact Or.inr ⟨_, _, _, rfl, rfl, h.toKeeps⟩
  | device id p =>
    have hok : (mc.dev.write id size pa v s.mem.dev).isOk
        = (mc.dev.write id size pa v t.mem.dev).isOk := by
      rcases hk with rfl | rfl
      · rw [show s.mem.dev = t.mem.dev from h.dev]
      · exact h.dev id size pa v
    dsimp only
    cases hs : mc.dev.write id size pa v s.mem.dev with
    | error e =>
      cases ht : mc.dev.write id size pa v t.mem.dev with
      | error e' => exact Or.inr ⟨_, _, _, rfl, rfl, h.toKeeps⟩
      | ok g => rw [hs, ht] at hok; cases hok
    | ok f =>
      cases ht : mc.dev.write id size pa v t.mem.dev with
      | error e' => rw [hs, ht] at hok; cases hok
      | ok g =>
        refine Or.inl ⟨_, _, _, k.next, rfl, rfl, rfl, ⟨h.left, h.right⟩, h.mmu, ?_, h.off⟩
        rcases hk with rfl | rfl
        · -- the same write in equal devices
          have hd : s.mem.dev = t.mem.dev := h.dev
          rw [hd, ht] at hs
          cases hs
          exact fun id' size' addr' v' => mc.dev.write_throws id size pa v _ _ ht _ _ _ _ _ _
        · trivial

end Runs

/-! ### Accesses of the user -/

namespace MMU

/-- The page tables are in memory, and what the caches of the MMU answer in the current context
is what the tables say. -/
structure Consistent (mc : MCtrl δ) (s : MMUSt δ) : Prop where
  leaf : ∀ va, ∃ r, (tables mc s).leaf s.mmu.ctx_n va = some r
  tlb : ∀ rw va q, ((s.mmu.tlb rw).lookup s.mmu.ctx_n va).1 = some q →
    (tables mc s).leaf s.mmu.ctx_n va = some q ∧ q.1 &&& 3 = 2
  l0 : ∀ rw va sup p, s.mmu.l0Hit rw va sup = some p → ∃ r,
    (tables mc s).leaf s.mmu.ctx_n va = some r ∧ permFault r.1 rw sup r.2 = 0 ∧
      PointsAt mc (physAddr va r.1 r.2) p

lemma Coherent.consistent (h : Coherent mc (tables mc s) s.mmu) (hc : s.mmu.ctx_n ≤ 255)
    (hl : ∀ va, ∃ r, (tables mc s).leaf s.mmu.ctx_n va = some r) :
    Consistent mc s where
  leaf := hl
  tlb rw va q hq := by
    obtain ⟨h1, h2, -⟩ := h.tlb.tlb rw _ _ _ hc (TLB.lookup_some hq)
    exact ⟨h1, h2⟩
  l0 rw va sup p hp := by
    obtain ⟨r, h1, -, h2, h3⟩ := h.l0 rw s.mmu.ctx_n va sup p hc hp
    exact ⟨r, h1, h2, h3⟩

lemma Consistent.settled (h : Consistent mc s) {r : u32 × u8}
    (hl : (tables mc s).leaf s.mmu.ctx_n va = some r) (rw : Intent) (sup : Bool) :
    Settled mc s.mmu r rw va sup where
  tlb q hq := by
    obtain ⟨h1, h2⟩ := h.tlb rw va q hq
    obtain rfl := Option.some.inj (h1.symm.trans hl)
    exact ⟨rfl, h2⟩
  l0 p hp := by
    obtain ⟨r', h1, h2, h3⟩ := h.l0 rw va sup p hp
    obtain rfl := Option.some.inj (h1.symm.trans hl)
    exact ⟨h2, h3⟩

/-- Machines that differ in hidden bytes only: they are behind entries without user access, and
the page tables do not depend on them. -/
structure Apart (mc : MCtrl δ) (Hid : Nat → Int → Prop) (s t : MMUSt δ) : Prop where
  mmu : s.mmu = t.mmu
  dev : s.mem.dev = t.mem.dev
  off : ∀ {i o}, ¬ Hid i o → s.mem.bytes i o = t.mem.bytes i o
  leaf : ∀ va, (tables mc t).leaf t.mmu.ctx_n va = (tables mc s).leaf s.mmu.ctx_n va
  guarded : ∀ {i o}, Hid i o → ∃ pa, mc.ByteOf pa i o ∧ (tables mc s).Guarded s.mmu.ctx_n pa

/-- The program returns the same or throws the same in both machines, and keeps the hidden
bytes. -/
def Both {α : Type} (Hid : Nat → Int → Prop) (x y : HostBytes) (m : MmuM δ α) (s t : MMUSt δ) :
    Prop :=
  (∃ a s' t', m s = .ok a s' ∧ m t = .ok a t' ∧ Keeps Hid x y s'.mem.bytes t'.mem.bytes) ∨
  ∃ e s' t', m s = .error e s' ∧ m t = .error e t' ∧ Keeps Hid x y s'.mem.bytes t'.mem.bytes

section User

variable {Hid : Nat → Int → Prop} {x y : HostBytes} {s t : MMUSt δ} {va : u32} {r : u32 × u8}
  {rw : Intent} {size : AccessSize}

lemma both_of_side {α : Type} {m : MmuM δ α} {Q : α → Bus → Prop} (hm : Side mc Hid x y α k m Q)
    (h : Two mc Hid x y k s t) : Both Hid x y m s t := by
  rcases hm s t h with ⟨a, s', t', j, e1, e2, -, hj⟩ | he
  · exact Or.inl ⟨a, s', t', e1, e2, hj.toKeeps⟩
  · exact Or.inr he

lemma Apart.two (h : Apart mc Hid s t) (m : MMU) :
    Two mc Hid s.mem.bytes t.mem.bytes .same ⟨m, s.mem⟩ ⟨m, t.mem⟩ :=
  ⟨⟨fun _ => rfl, fun _ => rfl⟩, rfl, h.dev, h.off⟩

lemma Apart.clears (h : Apart mc Hid s t) (hl : (tables mc s).leaf s.mmu.ctx_n va = some r)
    (hok : permFault r.1 rw false r.2 = 0) (ha : va &&& size.mask = 0)
    (hp : PointsAt mc (physAddr va r.1 r.2) p) : Clears Hid p size.bytes := by
  intro k hk hh
  obtain ⟨i, b, pa₀, -, hb, -, rfl⟩ := hp
  obtain ⟨pa', hb', hg⟩ := h.guarded hh
  have hal : physAddr va r.1 r.2 &&& size.mask = 0 := by
    rw [and_eq_of_sub (physAddr_low va r.1 r.2) (by cases size <;> decide)]
    exact ha
  have hpage := samePage_span hal hk (hb'.addr hb)
  exact not_noUser hok (hg va r hl (Tables.leaf_granted hl hok) hpage.symm)

lemma Apart.clears_bank (h : Apart mc Hid s t) (hl : (tables mc s).leaf s.mmu.ctx_n va = some r)
    (hok : permFault r.1 rw false r.2 = 0) (ha : va &&& size.mask = 0)
    (hb : mc.get_bank (physAddr va r.1 r.2) = some (i, b)) (hd : b.isDevice = false) :
    Clears Hid ⟨i, b.offset (physAddr va r.1 r.2)⟩ size.bytes := by
  refine h.clears hl hok ha ⟨i, b, physAddr va r.1 r.2, rfl, hb, hd, ?_⟩
  rw [b.offset_of_contains (MCtrl.get_bank_some hb).2]

/-! ### Loads and stores -/

/-- The agreement of the devices after an access. -/
def busAfter (rw : Intent) (k : Bus) : Bus := if rw = .store then k.next else k

lemma two_after (h : Two mc Hid x y k s t) (rw : Intent) : Two mc Hid x y (busAfter rw k) s t := by
  unfold busAfter
  split_ifs
  · exact h.next
  · exact h

lemma side_bankAccess (hd : b.isDevice = true) (hrw : rw ≠ .execute)
    (hk : k = .same ∨ (rw = .store ∧ k = .alike)) :
    Side mc Hid x y (cint × u32) k (bankAccess mc rw size i b pa v) fun _ j => j = busAfter rw k := by
  have hb : BankClear Hid i b pa size := fun h => by rw [hd] at h; cases h
  have hS := side_closed mc Hid x y
  cases rw with
  | execute => exact absurd rfl hrw
  | load =>
    obtain rfl : k = .same := by
      rcases hk with hk | ⟨hk, -⟩
      · exact hk
      · cases hk
    refine hS.bind (side_bankRead hb) ?_
    rintro v j rfl
    exact hS.pure rfl
  | store =>
    refine hS.bind (side_bankWrite hb (hk.imp id And.right)) ?_
    rintro _ j rfl
    exact hS.pure rfl

lemma side_run {P : Plan} {m : MMU} (hP : P.Sound mc m r rw va false)
    (hclear : permFault r.1 rw false r.2 = 0 → ∀ p, PointsAt mc (physAddr va r.1 r.2) p →
      Clears Hid p size.bytes) (hrw : rw ≠ .execute) (hk : k = .same ∨ (rw = .store ∧ k = .alike)) :
    Side mc Hid x y (cint × u32) k (P.run mc rw size v) fun _ j => j = busAfter rw k := by
  cases P with
  | throws e => exact fun s t h => Or.inr ⟨e, s, t, rfl, rfl, h.toKeeps⟩
  | fails code => exact fun s t h => Or.inl ⟨_, s, t, _, rfl, rfl, rfl, two_after h rw⟩
  | ptr p =>
    intro s t h
    rcases side_ptrAccess (v := v) hrw (hclear hP.1 p hP.2.1) s t h with
      ⟨a, s', t', j, e1, e2, rfl, h'⟩ | he
    · exact Or.inl ⟨a, s', t', _, e1, e2, rfl, two_after h' rw⟩
    · exact Or.inr he
  | bank i b pa => exact side_bankAccess hP hrw hk

lemma fixesMMU_run (P : Plan) (v : u32) :
    Fixes (fun s : MMUSt δ => s.mmu) (P.run mc rw size v) := by
  cases P with
  | throws e => exact fun _ => rfl
  | fails code => exact fun _ => rfl
  | ptr p => exact fixesMMU_ptrAccess p
  | bank i b pa => exact fixesMMU_bankAccess i b pa

lemma fixes_run {P : Plan} {m : MMU} {sup : Bool} (hP : P.Sound mc m r rw va sup) (v : u32) :
    (m.l0Hit rw va sup).isSome = true ∨
      Fixes (fun s : MMUSt δ => s.mem.bytes) (P.run mc rw size v) := by
  cases P with
  | throws e | fails code => exact Or.inr fun _ => rfl
  | ptr p => exact Or.inl hP.2.2
  | bank i b pa =>
    right
    have hd : b.isDevice = true := hP
    show Fixes _ (bankAccess mc rw size i b pa v)
    unfold IMemoryBank.isDevice at hd
    split at hd
    · next id p hk =>
      have hr : Fixes (fun s : MMUSt δ => s.mem.bytes) (onMem (mc.bankRead i b size pa)) := by
        intro s
        unfold onMem MCtrl.bankRead
        rw [hk]
        dsimp only
        cases mc.dev.read id size pa s.mem.dev <;> rfl
      have hw : Fixes (fun s : MMUSt δ => s.mem.bytes) (onMem' (mc.bankWrite i b size pa v)) := by
        intro s
        unfold onMem' onMem MCtrl.bankWrite
        rw [hk]
        dsimp only
        cases mc.dev.write id size pa v s.mem.dev <;> rfl
      cases rw with
      | load => exact hr.bind fun _ => Fixes.pure _
      | store => exact hw.bind fun _ => Fixes.pure _
      | execute => exact hr.bind fun _ => Fixes.pure _
    · cases hd

/-- **One access** takes the same course in both machines. Afterwards the L0 cache has the page,
or memory is as it was. -/
theorem access_side (h : Two mc Hid x y k s t) (he : s.mmu.get_enabled = true)
    (hS : Settled mc s.mmu r rw va false)
    (hl : s.mmu.l0Hit rw va false = none → (tables mc s).leaf s.mmu.ctx_n va = some r ∧
      (tables mc t).leaf t.mmu.ctx_n va = some r)
    (hclear : permFault r.1 rw false r.2 = 0 → ∀ p, PointsAt mc (physAddr va r.1 r.2) p →
      Clears Hid p size.bytes) (hrw : rw ≠ .execute) (hk : k = .same ∨ (rw = .store ∧ k = .alike))
    (v : u32) :
    (∃ a s' t', MemAccess mc rw size va v false true s = .ok a s' ∧
      MemAccess mc rw size va v false true t = .ok a t' ∧ Two mc Hid x y (busAfter rw k) s' t' ∧
      s'.mmu = (s.mmu.plan mc r rw va false true).2 ∧
      ((s'.mmu.l0Hit rw va false).isSome = true ∨
        (s'.mem.bytes = s.mem.bytes ∧ t'.mem.bytes = t.mem.bytes))) ∨
    ∃ e s' t', MemAccess mc rw size va v false true s = .error e s' ∧
      MemAccess mc rw size va v false true t = .error e t' ∧
      Keeps Hid x y s'.mem.bytes t'.mem.bytes := by
  have hs := MemAccess_plan he (fun h0 => (hl h0).1) size v true
  have ht : MemAccess mc rw size va v false true t = _ :=
    MemAccess_plan (by rw [← h.mmu]; exact he) (fun h0 => (hl (by rw [h.mmu]; exact h0)).2) size v
      true
  rw [← h.mmu] at ht
  have hP := (hS.plan true).2
  have h2 : Two mc Hid x y k ⟨(s.mmu.plan mc r rw va false true).2, s.mem⟩
      ⟨(s.mmu.plan mc r rw va false true).2, t.mem⟩ := ⟨h.toKeeps, rfl, h.dev, h.off⟩
  rw [hs, ht]
  rcases side_run (v := v) hP hclear hrw hk _ _ h2 with ⟨a, s', t', j, e1, e2, rfl, h'⟩ | he'
  · refine Or.inl ⟨a, s', t', e1, e2, h', (fixesMMU_run _ v).ok e1, ?_⟩
    rcases fixes_run hP v with hi | hf
    · rw [(fixesMMU_run _ v).ok e1]
      exact Or.inl hi
    · have b1 := hf.ok e1
      have b2 := hf.ok e2
      exact Or.inr ⟨b1, b2⟩
  · exact Or.inr he'

/-! ### Atomics -/

lemma side_check_perms (va pte : u32) (rw : Intent) (sup : Bool) (level : u8) (rep : Bool) :
    Side mc Hid x y u8 k (check_perms va pte rw sup level rep) fun _ j => j = k := by
  intro s t h
  have hs := check_perms_eq va rw sup (pte, level) rep s
  have ht := check_perms_eq va rw sup (pte, level) rep t
  refine Or.inl ⟨_, _, _, k, hs, ht, rfl, h.toKeeps, ?_, h.dev, h.off⟩
  show s.mmu.reported va rw sup (pte, level) rep = t.mmu.reported va rw sup (pte, level) rep
  rw [h.mmu]

lemma side_swapAt (hb : ∀ i b, mc.get_bank pa = some (i, b) → BankClear Hid i b pa .b4) :
    Side mc Hid x y AtomicResult .same (swapAt mc pa v) fun _ _ => True := by
  have hS := side_closed mc Hid x y
  unfold swapAt
  split
  · exact hS.pure trivial
  · next i b hg =>
    refine hS.bind (side_bankRead (hb i b hg)) ?_
    rintro old j rfl
    exact hS.bind (side_bankWrite (hb i b hg) (Or.inl rfl)) fun _ _ _ => hS.pure trivial

lemma side_casAt {e : u32} {perm : MmuM δ u8}
    (hb : ∀ i b, mc.get_bank pa = some (i, b) → BankClear Hid i b pa .b4)
    (hp : Side mc Hid x y u8 .same perm fun _ j => j = .same) :
    Side mc Hid x y AtomicResult .same (casAt mc pa e v perm) fun _ _ => True := by
  have hS := side_closed mc Hid x y
  unfold casAt
  split
  · exact hS.pure trivial
  · next i b hg =>
    refine hS.bind (side_bankRead (hb i b hg)) ?_
    rintro old j rfl
    split_ifs
    · refine hS.bind hp ?_
      rintro ft j rfl
      split_ifs
      · exact hS.pure trivial
      · exact hS.bind (side_bankWrite (hb i b hg) (Or.inl rfl)) fun _ _ _ => hS.pure trivial
    · exact hS.pure trivial

lemma side_ldstub8 (hb : ∀ i b, mc.get_bank pa = some (i, b) → b.isDevice = false →
      Clears Hid ⟨i, b.offset pa⟩ 1) :
    Side mc Hid x y (Option u32) .same (onMem (mc.atomic_ldstub8 pa)) fun _ _ => True := by
  intro s t h
  unfold onMem MCtrl.atomic_ldstub8
  cases hg : mc.get_bank pa with
  | none => exact Or.inl ⟨_, s, t, .same, rfl, rfl, trivial, h⟩
  | some z =>
    obtain ⟨i, b⟩ := z
    dsimp only
    cases hk : b.kind with
    | RamBank =>
      have hp := hb i b hg (by rw [IMemoryBank.isDevice, hk])
      have hc := consecutive_ram hk pa
      have hr : memRead s.mem.bytes b i pa .b1 = memRead t.mem.bytes b i pa .b1 :=
        memRead_congr hc fun _ h1 h2 => h.off (hp.not h1 h2)
      dsimp only
      rw [hr]
      exact Or.inl ⟨_, _, _, .same, rfl, rfl, trivial,
        h.write memWrite_at fun hh => memWrite_other hc 0xff (hp.outside hh)⟩
    | RomBank w | device id p => exact Or.inr ⟨_, s, t, rfl, rfl, h.toKeeps⟩

section Ops

variable (hC : Consistent mc s) (hA : Apart mc Hid s t) (he : s.mmu.get_enabled = true)

include hC hA he

lemma both_MemAccess (hrw : rw ≠ .execute) (ha : va &&& size.mask = 0) (v : u32) :
    Both Hid s.mem.bytes t.mem.bytes (MemAccess mc rw size va v false true) s t := by
  obtain ⟨r, hl⟩ := hC.leaf va
  have h2 : Two mc Hid s.mem.bytes t.mem.bytes .same s t :=
    ⟨⟨fun _ => rfl, fun _ => rfl⟩, hA.mmu, hA.dev, hA.off⟩
  rcases access_side h2 he (hC.settled hl rw false)
      (fun _ => ⟨hl, (hA.leaf va).trans hl⟩) (fun hok p hp => hA.clears hl hok ha hp) hrw
      (Or.inl rfl) v with ⟨a, s', t', e1, e2, h', -⟩ | he'
  · exact Or.inl ⟨a, s', t', e1, e2, h'.toKeeps⟩
  · exact Or.inr he'

/-- The second word of a pair is in the page of the first. If the L0 cache does not have that
page by then, the first word has not been written. -/
lemma both_pairAccess (hrw : rw ≠ .execute) (ha : va &&& 7 = 0) (v₀ v₁ : u32) :
    Both Hid s.mem.bytes t.mem.bytes (pairAccess mc rw va v₀ v₁ false) s t := by
  obtain ⟨r, hl⟩ := hC.leaf va
  have hS := hC.settled hl rw false
  have h2 : Two mc Hid s.mem.bytes t.mem.bytes .same s t :=
    ⟨⟨fun _ => rfl, fun _ => rfl⟩, hA.mmu, hA.dev, hA.off⟩
  have ha3 : va &&& AccessSize.b4.mask = 0 := and_eq_of_sub (y := 0) (a := 7) (by rw [ha]; rfl) (by decide)
  have hp4 := samePage_add_four ha
  have ha4 : (va + 4) &&& AccessSize.b4.mask = 0 := by
    apply BitVec.eq_of_toNat_eq
    have h4 := congrArg BitVec.toNat ha3
    rw [show AccessSize.b4.mask = low 32 2 from rfl, toNat_low (by decide)] at h4 ⊢
    rw [BitVec.toNat_add, show BitVec.toNat (4 : u32) = 4 from rfl]
    change va.toNat % 2 ^ 2 = 0 at h4
    show _ = 0
    omega
  unfold Both pairAccess
  rcases access_side h2 he hS (fun _ => ⟨hl, (hA.leaf va).trans hl⟩)
      (fun hok p hp => hA.clears hl hok ha3 hp) hrw (Or.inl rfl) v₀ with
    ⟨a, s', t', e1, e2, h', hm, hseen⟩ | ⟨e, s', t', e1, e2, h'⟩
  · rw [bind_ok e1, bind_ok e2]
    obtain ⟨hctx, hptr, hcr⟩ := priv_ctx (plan_priv mc s.mmu r rw va false true)
    rw [← hm] at hctx hptr hcr
    have hS' : Settled mc s'.mmu r rw (va + 4) false := by
      rw [hm]
      exact (hS.plan true).1.page hp4
    have hl4 : s'.mmu.l0Hit rw (va + 4) false = none →
        (tables mc s').leaf s'.mmu.ctx_n (va + 4) = some r ∧
        (tables mc t').leaf t'.mmu.ctx_n (va + 4) = some r := by
      intro h0
      rcases hseen with hseen | ⟨b1, b2⟩
      · rw [← l0Hit_page s'.mmu hp4 rw false, h0] at hseen
        cases hseen
      · have hT : tables mc s' = tables mc s := by unfold tables; rw [b1, hptr]
        have hT' : tables mc t' = tables mc t := by
          unfold tables; rw [b2, ← h'.mmu, hptr, ← hA.mmu]
        have hlt := (hA.leaf va).trans hl
        rw [hT, hT', hp4.leaf, hp4.leaf, hctx, ← h'.mmu, hctx]
        rw [← hA.mmu] at hlt
        exact ⟨hl, hlt⟩
    have hk : busAfter rw .same = .same ∨ (rw = .store ∧ busAfter rw .same = .alike) := by
      cases rw with
      | load => exact Or.inl rfl
      | store => exact Or.inr ⟨rfl, rfl⟩
      | execute => exact Or.inl rfl
    rcases access_side h' (by unfold get_enabled at he ⊢; rw [hcr]; exact he) hS' hl4
        (fun hok p hp => hA.clears (by rw [hp4.leaf]; exact hl) hok ha4 hp) hrw hk v₁ with
      ⟨a', s₂, t₂, e1', e2', h'', -⟩ | ⟨e, s₂, t₂, e1', e2', h''⟩
    · rw [bind_ok e1', bind_ok e2']
      exact Or.inl ⟨_, s₂, t₂, rfl, rfl, h''.toKeeps⟩
    · rw [bind_error e1', bind_error e2']
      exact Or.inr ⟨e, s₂, t₂, rfl, rfl, h''⟩
  · rw [bind_error e1, bind_error e2]
    exact Or.inr ⟨e, s', t', rfl, rfl, h'⟩

omit he in
lemma translate_both (hl : (tables mc s).leaf s.mmu.ctx_n va = some r) (rw : Intent) (rep : Bool) :
    (∃ res m, translate_va mc va false rw rep s = .ok res ⟨m, s.mem⟩ ∧
      translate_va mc va false rw rep t = .ok res ⟨m, t.mem⟩ ∧
      (res.ok = true → permFault r.1 rw false r.2 = 0 ∧ res.pa = physAddr va r.1 r.2)) ∨
    ∃ e, translate_va mc va false rw rep s = .error e s ∧
      translate_va mc va false rw rep t = .error e t := by
  have hs := translate_va_xlat hl false rw rep
  have ht := translate_va_xlat ((hA.leaf va).trans hl) false rw rep
  rw [← hA.mmu] at ht
  rw [hs, ht]
  cases hx : s.mmu.xlat r va false rw rep with
  | error e => exact Or.inr ⟨e, rfl, rfl⟩
  | ok z => exact Or.inl ⟨z.1, z.2, rfl, rfl, fun hok => (hC.settled hl rw false).granted hx hok⟩

lemma both_translated {α : Type} {fail : α} {off : MmuM δ α}
    {k : Bool → MMUTranslateResult → MmuM δ α} (hl : (tables mc s).leaf s.mmu.ctx_n va = some r)
    (hk : ∀ rep tr, permFault r.1 .load false r.2 = 0 → tr.pa = physAddr va r.1 r.2 →
      Side mc Hid s.mem.bytes t.mem.bytes α .same (k rep tr) fun _ _ => True) :
    Both Hid s.mem.bytes t.mem.bytes (onLoad mc va false fail k off) s t := by
  unfold Both onLoad
  rw [getMMU_bind, getMMU_bind, ← hA.mmu, if_pos he]
  rcases translate_both hC hA hl .load (!s.mmu.get_no_fault) with
    ⟨res, m, e1, e2, hres⟩ | ⟨e, e1, e2⟩
  · rw [bind_ok e1, bind_ok e2]
    have h2 := hA.two m
    by_cases hok : res.ok = true
    · rw [if_pos hok]
      obtain ⟨h0, hpa⟩ := hres hok
      exact both_of_side (hk _ res h0 hpa) h2
    · rw [if_neg hok]
      exact Or.inl ⟨fail, _, _, rfl, rfl, h2.toKeeps⟩
  · rw [bind_error e1, bind_error e2]
    exact Or.inr ⟨e, s, t, rfl, rfl, fun _ => rfl, fun _ => rfl⟩

omit hC he in
lemma bankClear_word (hl : (tables mc s).leaf s.mmu.ctx_n va = some r)
    (hok : permFault r.1 .load false r.2 = 0) (ha : va &&& 3 = 0) (hpa : pa = physAddr va r.1 r.2)
    (i : Nat) (b : IMemoryBank) (hb : mc.get_bank pa = some (i, b)) : BankClear Hid i b pa .b4 := by
  intro hd
  subst hpa
  have ha' : va &&& AccessSize.b4.mask = 0 := ha
  refine ⟨consecutive_aligned (MCtrl.get_bank_some hb).2 ?_, hA.clears_bank hl hok ha' hb hd⟩
  rw [and_eq_of_sub (physAddr_low va r.1 r.2) (by decide)]
  exact ha

lemma both_swap32 (ha : va &&& 3 = 0) (v : u32) :
    Both Hid s.mem.bytes t.mem.bytes (atomic_swap32 mc va false v) s t := by
  obtain ⟨r, hl⟩ := hC.leaf va
  have hS := side_closed mc Hid s.mem.bytes t.mem.bytes
  rw [atomic_swap32_onLoad]
  refine both_translated hC hA he hl fun rep tr hok hpa => ?_
  refine hS.bind (side_check_perms _ _ _ _ _ _) ?_
  rintro ft j rfl
  split_ifs
  · exact hS.pure trivial
  · exact side_swapAt (bankClear_word hA hl hok ha hpa)

lemma both_casa32 (ha : va &&& 3 = 0) (e v : u32) :
    Both Hid s.mem.bytes t.mem.bytes (atomic_casa32 mc va false e v) s t := by
  obtain ⟨r, hl⟩ := hC.leaf va
  rw [atomic_casa32_onLoad]
  exact both_translated hC hA he hl fun rep tr hok hpa =>
    side_casAt (bankClear_word hA hl hok ha hpa) (side_check_perms _ _ _ _ _ _)

lemma both_ldstub (va : u32) :
    Both Hid s.mem.bytes t.mem.bytes (ldstub mc va false) s t := by
  obtain ⟨r, hl⟩ := hC.leaf va
  have h1 : va &&& AccessSize.b1.mask = 0 := BitVec.and_zero
  rw [ldstub_onLoad]
  refine both_translated hC hA he hl fun rep tr hok hpa => side_ldstub8 fun i b hb hd => ?_
  rw [hpa] at hb ⊢
  exact hA.clears_bank hl hok h1 hb hd

end Ops

end User

end MMU

end SparcEmu
