import SparcEmu.Bank
import Mathlib.Data.List.Pairwise

/-!
The memory controllers of a thread as objects: banks are attached and cleared, and
`find_bank_or_null` keeps one entry for the bank that was found last, for all controllers of the
thread together. The entry is recognised by the id of its controller and by a generation number
that changes with the list of banks.
-/

namespace SparcEmu

/-! ### Ranges -/

namespace IMemoryBank

/-- `contains`, on 64 bits. -/
def contains64 (b : IMemoryBank) (addr : u32) : Bool :=
  decide (addr.setWidth 64 - b.base.setWidth 64 < BitVec.ofNat 64 b.size)

def get_end_exclusive (b : IMemoryBank) : u64 := b.base.setWidth 64 + BitVec.ofNat 64 b.size

def get_size (b : IMemoryBank) : u32 := BitVec.ofNat 32 b.size

/-- The sizes of banks that fit the 32 bits of `get_size`. -/
def Sized (b : IMemoryBank) : Prop := 0 < b.size ∧ b.size < 2 ^ 32

def Apart (a b : IMemoryBank) : Prop :=
  a.base.toNat + a.size ≤ b.base.toNat ∨ b.base.toNat + b.size ≤ a.base.toNat

end IMemoryBank

def ranges_overlap_u64 (a_start : u32) (a_end : u64) (b_start : u32) (b_end : u64) : Bool :=
  decide (a_start.setWidth 64 < b_end) && decide (b_start.setWidth 64 < a_end)

/-! ### Controllers -/

/-- A bank on the heap; `obj` stands for its address. -/
structure BankObj where
  obj : Nat
  bank : IMemoryBank
  deriving DecidableEq

structure BankCache where
  owner_id : u64 := 0
  gen : u64 := 0
  b : Option BankObj := none
  start : u32 := 0
  size : u32 := 0
  deriving DecidableEq

structure Controller where
  instance_id : u64
  generation : u64 := 1
  banks : List BankObj := []
  deriving DecidableEq

namespace Controller

def attach_bank (c : Controller) (n : BankObj) : Except HostError Controller :=
  if c.banks.any fun e => ranges_overlap_u64 n.bank.base n.bank.get_end_exclusive
      e.bank.base e.bank.get_end_exclusive then
    .error (.runtime_error "Bank region overlaps with existing memory")
  else .ok { c with banks := c.banks ++ [n], generation := c.generation + 1 }

def clear_banks (c : Controller) : Controller :=
  { c with banks := [], generation := c.generation + 1 }

/-- The entry is emptied when it belongs to another controller or generation. -/
def guardCache (c : Controller) (k : BankCache) : BankCache :=
  if k.owner_id ≠ c.instance_id ∨ k.gen ≠ c.generation then
    { owner_id := c.instance_id, gen := c.generation, b := none, start := 0, size := 0 }
  else k

def hits (k : BankCache) (addr : u32) : Bool :=
  decide (k.start ≤ addr) && decide (addr - k.start < k.size)

def search (ndebug : Bool) (c : Controller) (addr : u32) (k : BankCache) :
    Except HostError (Option BankObj) × BankCache :=
  match c.banks.find? fun e => e.bank.contains64 addr with
  | some p =>
    let k' := { k with b := some p, start := p.bank.base, size := p.bank.get_size }
    if !ndebug && !hits k' addr then (.error .terminate, k') else (.ok (some p), k')
  | none => (.ok none, { k with b := none, start := 0, size := 0 })

/-- The two checks of a debug build abort the process. -/
def find_bank_or_null (ndebug : Bool) (c : Controller) (addr : u32) (k : BankCache) :
    Except HostError (Option BankObj) × BankCache :=
  let k := c.guardCache k
  match k.b with
  | some p =>
    if !ndebug && (decide (p.bank.base ≠ k.start) || decide (p.bank.get_size ≠ k.size)) then
      (.error .terminate, k)
    else if hits k addr then (.ok (some p), k)
    else c.search ndebug addr k
  | none => c.search ndebug addr k

end Controller

/-! ### Histories -/

structure BankArgs where
  rom : Bool
  base : u32
  size : u32
  endian : Endian
  size_ne : size ≠ 0

def BankArgs.bank (a : BankArgs) : IMemoryBank :=
  ⟨if a.rom then .RomBank true else .RamBank, a.base, a.size.toNat, a.endian⟩

/-- The controllers of a thread, in the order of their construction. -/
structure Controllers where
  ctrls : List Controller := []
  next_id : u64 := 1
  next_obj : Nat := 0
  cache : BankCache := {}

inductive BankOp
  | construct
  | attach_bank (j : Nat) (args : BankArgs)
  | clear_banks (j : Nat)
  | lookup (j : Nat) (addr : u32)

/-- A call of controller `j`; without such a controller nothing happens. -/
def Controllers.call (w : Controllers) (j : Nat) (f : Controller → Controllers) : Controllers :=
  (w.ctrls[j]?).elim w f

def BankOp.step (ndebug : Bool) (o : BankOp) (w : Controllers) : Controllers :=
  match o with
  | .construct =>
    { w with ctrls := w.ctrls ++ [{ instance_id := w.next_id }], next_id := w.next_id + 1 }
  | .attach_bank j args => w.call j fun c =>
    match c.attach_bank ⟨w.next_obj, args.bank⟩ with
    | .error _ => { w with next_obj := w.next_obj + 1 }
    | .ok c' => { w with ctrls := w.ctrls.set j c', next_obj := w.next_obj + 1 }
  | .clear_banks j => w.call j fun c => { w with ctrls := w.ctrls.set j c.clear_banks }
  | .lookup j addr => w.call j fun c =>
    { w with cache := (c.find_bank_or_null ndebug addr w.cache).2 }

def Controllers.run (ndebug : Bool) (ops : List BankOp) (w : Controllers) : Controllers :=
  ops.foldl (fun w o => o.step ndebug w) w

/-! ### The tests on ranges -/

namespace IMemoryBank

variable {a b : IMemoryBank}

lemma contains64_eq (hb : b.Sized) (addr : u32) : b.contains64 addr = b.contains addr := by
  have hs := hb.2
  have ha := addr.isLt
  have h0 := b.base.isLt
  unfold contains64 contains
  rw [← Bool.decide_and, decide_eq_decide, BitVec.lt_def, BitVec.toNat_sub, BitVec.toNat_setWidth,
    BitVec.toNat_setWidth, BitVec.toNat_ofNat]
  omega

lemma get_size_toNat (hb : b.Sized) : b.get_size.toNat = b.size := by
  have hs := hb.2
  unfold get_size
  rw [BitVec.toNat_ofNat]
  omega

lemma overlap_false (ha : a.Sized) (hb : b.Sized)
    (h : ranges_overlap_u64 a.base a.get_end_exclusive b.base b.get_end_exclusive = false) :
    a.Apart b := by
  have hsa := ha.2
  have hsb := hb.2
  have h0 := a.base.isLt
  have h1 := b.base.isLt
  unfold ranges_overlap_u64 get_end_exclusive at h
  rw [Bool.and_eq_false_iff, decide_eq_false_iff_not, decide_eq_false_iff_not, BitVec.lt_def,
    BitVec.lt_def, BitVec.toNat_add, BitVec.toNat_add, BitVec.toNat_setWidth,
    BitVec.toNat_setWidth, BitVec.toNat_ofNat, BitVec.toNat_ofNat] at h
  unfold Apart
  omega

instance : Std.Symm Apart := ⟨fun _ _ => Or.symm⟩

lemma Apart.not_contains (h : a.Apart b) {addr : u32} (ha : a.contains addr = true)
    (hb : b.contains addr = true) : False := by
  unfold contains at ha hb
  rw [Bool.and_eq_true, decide_eq_true_eq, decide_eq_true_eq] at ha hb
  unfold Apart at h
  omega

end IMemoryBank

lemma BankArgs.sized (a : BankArgs) : a.bank.Sized := by
  refine ⟨?_, a.size.isLt⟩
  have h : a.size.toNat ≠ 0 := fun h0 => a.size_ne (BitVec.eq_of_toNat_eq h0)
  exact Nat.pos_of_ne_zero h

/-! ### One controller -/

namespace Controller

structure Mapped (c : Controller) : Prop where
  sized : ∀ b ∈ c.banks, b.bank.Sized
  apart : c.banks.Pairwise fun x y => x.bank.Apart y.bank

/-- The entry is older than the controller, or it is one of its banks. -/
structure Fresh (c : Controller) (k : BankCache) : Prop where
  older : k.owner_id = c.instance_id → k.gen.toNat ≤ c.generation.toNat
  attached : k.owner_id = c.instance_id → k.gen = c.generation → ∀ p, k.b = some p →
    p ∈ c.banks ∧ k.start = p.bank.base ∧ k.size = p.bank.get_size

variable {c : Controller} {k : BankCache}

lemma hits_eq {p : BankObj} (hp : p.bank.Sized) (h1 : k.start = p.bank.base)
    (h2 : k.size = p.bank.get_size) (addr : u32) : hits k addr = p.bank.contains addr := by
  have hs := hp.2
  have ha := addr.isLt
  have h0 := p.bank.base.isLt
  unfold hits IMemoryBank.contains
  rw [h1, h2, ← Bool.decide_and, ← Bool.decide_and, decide_eq_decide, BitVec.le_def, BitVec.lt_def,
    BitVec.toNat_sub, IMemoryBank.get_size_toNat hp]
  omega

lemma search_spec (hc : c.Mapped) (ndebug : Bool) (addr : u32) (k : BankCache) :
    ∃ r k', c.search ndebug addr k = (.ok r, k') ∧
      (∀ b, r = some b ↔ b ∈ c.banks ∧ b.bank.contains addr = true) ∧
      k'.owner_id = k.owner_id ∧ k'.gen = k.gen ∧ ∀ p, k'.b = some p →
        p ∈ c.banks ∧ k'.start = p.bank.base ∧ k'.size = p.bank.get_size := by
  unfold search
  cases hf : c.banks.find? fun e => e.bank.contains64 addr with
  | none =>
    refine ⟨none, _, rfl, fun b => iff_of_false (fun h => nomatch h) ?_, rfl, rfl, fun p h => nomatch h⟩
    rintro ⟨hb, hin⟩
    have hno := List.find?_eq_none.mp hf b hb
    rw [IMemoryBank.contains64_eq (hc.sized b hb)] at hno
    exact hno hin
  | some p =>
    have hp := List.mem_of_find?_eq_some hf
    have hin : p.bank.contains addr = true := by
      rw [← IMemoryBank.contains64_eq (hc.sized p hp)]
      exact List.find?_some (p := fun e : BankObj => e.bank.contains64 addr) hf
    let k' : BankCache := { k with b := some p, start := p.bank.base, size := p.bank.get_size }
    have hhit : hits k' addr = true := by rw [hits_eq (hc.sized p hp) rfl rfl]; exact hin
    refine ⟨some p, k', ?_, fun b => ?_, rfl, rfl, ?_⟩
    · dsimp only
      rw [if_neg]
      rw [show hits { k with b := some p, start := p.bank.base, size := p.bank.get_size } addr = true
        from hhit]
      simp
    · constructor
      · rintro ⟨⟩
        exact ⟨hp, hin⟩
      · rintro ⟨hb, hbin⟩
        by_contra hne
        have hap := hc.apart.forall hp hb fun h => hne (congrArg some h)
        exact hap.not_contains hin hbin
    · rintro q ⟨⟩
      exact ⟨hp, rfl, rfl⟩

lemma guardCache_spec (hk : c.Fresh k) : (c.guardCache k).owner_id = c.instance_id ∧
    (c.guardCache k).gen = c.generation ∧ ∀ p, (c.guardCache k).b = some p →
      p ∈ c.banks ∧ (c.guardCache k).start = p.bank.base ∧
        (c.guardCache k).size = p.bank.get_size := by
  unfold guardCache
  split_ifs with hg
  · exact ⟨rfl, rfl, fun p h => nomatch h⟩
  · rw [not_or, not_not, not_not] at hg
    exact ⟨hg.1, hg.2, hk.attached hg.1 hg.2⟩

theorem find_bank_spec (hc : c.Mapped) (hk : c.Fresh k) (ndebug : Bool) (addr : u32) :
    ∃ r k', c.find_bank_or_null ndebug addr k = (.ok r, k') ∧
      (∀ b, r = some b ↔ b ∈ c.banks ∧ b.bank.contains addr = true) ∧
      k'.owner_id = c.instance_id ∧ k'.gen = c.generation ∧ ∀ p, k'.b = some p →
        p ∈ c.banks ∧ k'.start = p.bank.base ∧ k'.size = p.bank.get_size := by
  obtain ⟨hown, hgen, hatt⟩ := guardCache_spec hk
  have hsearch : ∃ r k', c.search ndebug addr (c.guardCache k) = (.ok r, k') ∧
      (∀ b, r = some b ↔ b ∈ c.banks ∧ b.bank.contains addr = true) ∧
      k'.owner_id = c.instance_id ∧ k'.gen = c.generation ∧ ∀ p, k'.b = some p →
        p ∈ c.banks ∧ k'.start = p.bank.base ∧ k'.size = p.bank.get_size := by
    obtain ⟨r, k', hr, hb, ho, hg, ha⟩ := search_spec hc ndebug addr (c.guardCache k)
    exact ⟨r, k', hr, hb, ho.trans hown, hg.trans hgen, ha⟩
  unfold find_bank_or_null
  dsimp only
  cases hb : (c.guardCache k).b with
  | none => exact hsearch
  | some p =>
    obtain ⟨hp, hstart, hsize⟩ := hatt p hb
    dsimp only
    rw [if_neg (by rw [hstart, hsize]; simp)]
    by_cases hh : hits (c.guardCache k) addr = true
    · rw [if_pos hh]
      have hin : p.bank.contains addr = true := by
        rw [← hits_eq (hc.sized p hp) hstart hsize]; exact hh
      refine ⟨some p, _, rfl, fun q => ⟨?_, fun ⟨hq, hqin⟩ => ?_⟩, hown, hgen, hatt⟩
      · rintro ⟨⟩
        exact ⟨hp, hin⟩
      · by_contra hne
        have hap := hc.apart.forall hp hq fun h => hne (congrArg some h)
        exact hap.not_contains hin hqin
    · rw [if_neg hh]
      exact hsearch

lemma findFrom_eq (addr : u32) (l : List BankObj) (i : Nat) :
    (MCtrl.findFrom addr (l.map BankObj.bank) i).map Prod.snd =
      (l.find? fun e => e.bank.contains addr).map BankObj.bank := by
  induction l generalizing i with
  | nil => rfl
  | cons e l ih =>
    rw [List.map_cons, MCtrl.findFrom, List.find?_cons]
    by_cases he : e.bank.contains addr = true
    · rw [if_pos he, he]
      rfl
    · rw [if_neg he, Bool.eq_false_iff.mpr he]
      exact ih (i + 1)

/-- **Without the cache**: a lookup finds what `get_bank` of the memory map finds. -/
theorem find_bank_get_bank {δ : Type} (hc : c.Mapped) (hk : c.Fresh k) {mc : MCtrl δ}
    (hmc : mc.banks = c.banks.map BankObj.bank) (ndebug : Bool) (addr : u32) :
    ∃ r, (c.find_bank_or_null ndebug addr k).1 = .ok r ∧
      r.map BankObj.bank = (mc.get_bank addr).map Prod.snd := by
  obtain ⟨r, k', hr, hb, -⟩ := find_bank_spec hc hk ndebug addr
  refine ⟨r, by rw [hr], ?_⟩
  unfold MCtrl.get_bank
  rw [hmc, findFrom_eq]
  congr 1
  cases hf : c.banks.find? fun e => e.bank.contains addr with
  | some p =>
    exact (hb p).mpr ⟨List.mem_of_find?_eq_some hf,
      List.find?_some (p := fun e : BankObj => e.bank.contains addr) hf⟩
  | none =>
    cases r with
    | none => rfl
    | some p =>
      obtain ⟨hp, hin⟩ := (hb p).mp rfl
      exact absurd hin (List.find?_eq_none.mp hf p hp)

lemma attach_bank_mapped (hc : c.Mapped) {n : BankObj} (hn : n.bank.Sized) {c' : Controller}
    (h : c.attach_bank n = .ok c') : c'.Mapped ∧ c'.instance_id = c.instance_id ∧
      c'.generation = c.generation + 1 := by
  unfold attach_bank at h
  split_ifs at h with hany
  cases h
  refine ⟨⟨fun b hb => ?_, ?_⟩, rfl, rfl⟩
  · rcases List.mem_append.mp hb with hb | hb
    · exact hc.sized b hb
    · rw [List.mem_singleton.mp hb]
      exact hn
  · refine List.pairwise_append.mpr ⟨hc.apart, List.pairwise_singleton _ _, fun b hb n' hn' => ?_⟩
    rw [List.mem_singleton.mp hn']
    rw [Bool.not_eq_true, List.any_eq_false] at hany
    have hov := hany b hb
    rw [Bool.not_eq_true] at hov
    exact (IMemoryBank.overlap_false hn (hc.sized b hb) hov).symm

lemma clear_banks_mapped (c : Controller) : c.clear_banks.Mapped :=
  ⟨fun _ hb => absurd hb List.not_mem_nil, List.Pairwise.nil⟩

lemma Fresh.next (hk : c.Fresh k) {c' : Controller} (hid : c'.instance_id = c.instance_id)
    (hgen : c'.generation = c.generation + 1) (hroom : c.generation.toNat + 1 < 2 ^ 64) :
    c'.Fresh k := by
  have hg : c'.generation.toNat = c.generation.toNat + 1 := by
    rw [hgen, BitVec.toNat_add]
    show (c.generation.toNat + 1) % 2 ^ 64 = _
    exact Nat.mod_eq_of_lt hroom
  have hold : k.owner_id = c'.instance_id → k.gen.toNat ≤ c.generation.toNat :=
    fun h => hk.older (h.trans hid)
  refine ⟨fun h => by have := hold h; omega, fun h he => ?_⟩
  have := hold h
  rw [he] at this
  omega

end Controller

/-! ### All controllers of the thread -/

namespace Controllers

open Controller

/-- With `left` operations to come: the ids are the numbers of the controllers, no counter wraps
around any more, and the entry is known to every controller. -/
structure Ok (left : Nat) (w : Controllers) : Prop where
  room : w.ctrls.length + left < 2 ^ 64
  next_id : w.next_id = BitVec.ofNat 64 (w.ctrls.length + 1)
  owner : w.cache.owner_id.toNat ≤ w.ctrls.length
  each : ∀ j c, w.ctrls[j]? = some c → c.instance_id = BitVec.ofNat 64 (j + 1) ∧ c.Mapped ∧
    c.Fresh w.cache ∧ c.generation.toNat + left < 2 ^ 64

variable {w : Controllers} {left : Nat} {ndebug : Bool}

lemma ok_init : Ok (2 ^ 64 - 1) {} :=
  ⟨by decide, rfl, Nat.le_refl 0, fun j c h => by simp at h⟩

lemma Ok.less (h : Ok (left + 1) w) : Ok left w where
  room := by have := h.room; omega
  next_id := h.next_id
  owner := h.owner
  each j c hj := by
    obtain ⟨h1, h2, h3, h4⟩ := h.each j c hj
    exact ⟨h1, h2, h3, by omega⟩

lemma Ok.call (h : Ok (left + 1) w) {j : Nat} {f : Controller → Controllers}
    (hf : ∀ c, w.ctrls[j]? = some c → Ok left (f c)) : Ok left (w.call j f) := by
  unfold Controllers.call
  cases hj : w.ctrls[j]? with
  | none => exact h.less
  | some c => exact hf c hj

lemma Ok.set (h : Ok (left + 1) w) {j : Nat} {c c' : Controller} (hj : w.ctrls[j]? = some c)
    (hm : c'.Mapped) (hid : c'.instance_id = c.instance_id)
    (hgen : c'.generation = c.generation + 1) (n : Nat) :
    Ok left { w with ctrls := w.ctrls.set j c', next_obj := n } where
  room := by
    show (w.ctrls.set j c').length + left < 2 ^ 64
    rw [List.length_set]
    have := h.room
    omega
  next_id := by
    show w.next_id = BitVec.ofNat 64 ((w.ctrls.set j c').length + 1)
    rw [List.length_set]
    exact h.next_id
  owner := by
    show _ ≤ (w.ctrls.set j c').length
    rw [List.length_set]
    exact h.owner
  each i d hi := by
    have hi : (w.ctrls.set j c')[i]? = some d := hi
    obtain ⟨h1, -, h3, h4⟩ := h.each j c hj
    by_cases hij : i = j
    · subst hij
      have hlt : i < w.ctrls.length := (List.getElem?_eq_some_iff.mp hj).1
      rw [List.getElem?_set_self hlt] at hi
      cases hi
      have hg : c'.generation.toNat = c.generation.toNat + 1 := by
        rw [hgen, BitVec.toNat_add]
        show (c.generation.toNat + 1) % 2 ^ 64 = _
        exact Nat.mod_eq_of_lt (by omega)
      exact ⟨hid.trans h1, hm, h3.next hid hgen (by omega), by omega⟩
    · rw [List.getElem?_set_ne (Ne.symm hij)] at hi
      exact h.less.each i d hi

lemma ofNat_inj {a b : Nat} (ha : a < 2 ^ 64) (hb : b < 2 ^ 64)
    (h : BitVec.ofNat 64 a = BitVec.ofNat 64 b) : a = b := by
  have h := congrArg BitVec.toNat h
  rw [BitVec.toNat_ofNat, BitVec.toNat_ofNat, Nat.mod_eq_of_lt ha, Nat.mod_eq_of_lt hb] at h
  exact h

lemma Ok.construct (h : Ok (left + 1) w) : Ok left (BankOp.construct.step ndebug w) := by
  have hroom := h.room
  have hid : w.next_id.toNat = w.ctrls.length + 1 := by
    rw [h.next_id, BitVec.toNat_ofNat]
    exact Nat.mod_eq_of_lt (by omega)
  refine ⟨?_, ?_, ?_, fun i d hi => ?_⟩
  · show (w.ctrls ++ [_]).length + left < _
    rw [List.length_append, List.length_singleton]
    omega
  · show w.next_id + 1 = BitVec.ofNat 64 ((w.ctrls ++ [_]).length + 1)
    rw [List.length_append, List.length_singleton, h.next_id]
    apply BitVec.eq_of_toNat_eq
    simp [BitVec.toNat_add]
  · show _ ≤ (w.ctrls ++ [_]).length
    rw [List.length_append]
    exact Nat.le_add_right_of_le h.owner
  · have hi : (w.ctrls ++ [{ instance_id := w.next_id }])[i]? = some d := hi
    rcases Nat.lt_or_ge i w.ctrls.length with hlt | hge
    · rw [List.getElem?_append_left hlt] at hi
      exact h.less.each i d hi
    · rw [List.getElem?_append_right hge] at hi
      obtain ⟨hlt, rfl⟩ := List.getElem?_eq_some_iff.mp hi
      have hi0 : i = w.ctrls.length := by
        rw [List.length_singleton] at hlt
        omega
      subst hi0
      -- The entry belongs to an older controller, or to none.
      have hne : w.cache.owner_id ≠ w.next_id := by
        intro he
        have := h.owner
        rw [he, hid] at this
        omega
      simp only [Nat.sub_self, List.getElem_cons_zero]
      refine ⟨h.next_id, ⟨fun _ hb => absurd hb List.not_mem_nil, List.Pairwise.nil⟩,
        ⟨fun he => absurd he hne, fun he => absurd he hne⟩, ?_⟩
      show 1 + left < 2 ^ 64
      omega

lemma Ok.lookup (h : Ok (left + 1) w) (j : Nat) (addr : u32) :
    Ok left ((BankOp.lookup j addr).step ndebug w) := by
  refine h.call fun c hj => ?_
  obtain ⟨hid, hm, hf, -⟩ := h.each j c hj
  obtain ⟨r, k', hr, -, ho, hg, ha⟩ := find_bank_spec hm hf ndebug addr
  have hlt : j < w.ctrls.length := (List.getElem?_eq_some_iff.mp hj).1
  have hroom := h.room
  rw [hr]
  refine ⟨h.less.room, h.next_id, ?_, fun i d hi => ?_⟩
  · show k'.owner_id.toNat ≤ w.ctrls.length
    rw [ho, hid, BitVec.toNat_ofNat]
    exact Nat.le_trans (Nat.mod_le _ _) hlt
  · obtain ⟨hid', hm', -, hroom'⟩ := h.less.each i d hi
    refine ⟨hid', hm', ?_, hroom'⟩
    show d.Fresh k'
    by_cases hij : i = j
    · subst hij
      have hd : d = c := Option.some.inj (hi.symm.trans hj)
      subst hd
      exact ⟨fun _ => Nat.le_of_eq (congrArg BitVec.toNat hg), fun _ _ => ha⟩
    · have hne : k'.owner_id ≠ d.instance_id := by
        have hlt' : i < w.ctrls.length := (List.getElem?_eq_some_iff.mp hi).1
        rw [ho, hid, hid']
        intro he
        have := ofNat_inj (by omega) (by omega) he
        omega
      exact ⟨fun he => absurd he hne, fun he => absurd he hne⟩

lemma Ok.step (h : Ok (left + 1) w) (o : BankOp) : Ok left (o.step ndebug w) := by
  cases o with
  | construct => exact h.construct
  | lookup j addr => exact h.lookup j addr
  | attach_bank j args =>
    refine h.call fun c hj => ?_
    cases ha : c.attach_bank ⟨w.next_obj, args.bank⟩ with
    | error e => exact ⟨h.less.room, h.next_id, h.owner, h.less.each⟩
    | ok c' =>
      obtain ⟨hm, hid, hgen⟩ := attach_bank_mapped (h.each j c hj).2.1 args.sized ha
      exact h.set hj hm hid hgen _
  | clear_banks j =>
    exact h.call fun c hj => h.set hj (clear_banks_mapped c) rfl rfl _

lemma Ok.run (ops : List BankOp) : ∀ {w : Controllers} {left : Nat}, Ok (ops.length + left) w →
    Ok left (w.run ndebug ops) := by
  induction ops with
  | nil =>
    intro w left h
    rw [List.length_nil, Nat.zero_add] at h
    exact h
  | cons o os ih =>
    intro w left h
    rw [List.length_cons, Nat.add_right_comm] at h
    exact ih (h.step o)

end Controllers

/-- After every history of fewer than 2^64 operations, the banks of a controller are disjoint and
a lookup returns the one that contains the address. -/
theorem lookup_exact (ndebug : Bool) (ops : List BankOp) (hlen : ops.length < 2 ^ 64) (j : Nat)
    (c : Controller) (hc : (Controllers.run ndebug ops {}).ctrls[j]? = some c) :
    (c.banks.Pairwise fun x y => x.bank.Apart y.bank) ∧
      ∀ addr, ∃ r k, c.find_bank_or_null ndebug addr (Controllers.run ndebug ops {}).cache = (.ok r, k) ∧
        ∀ b, r = some b ↔ b ∈ c.banks ∧ b.bank.contains addr = true := by
  have hok : Controllers.Ok (2 ^ 64 - 1 - ops.length) (Controllers.run ndebug ops {}) := by
    refine Controllers.Ok.run ops ?_
    rw [show ops.length + (2 ^ 64 - 1 - ops.length) = 2 ^ 64 - 1 by omega]
    exact Controllers.ok_init
  obtain ⟨-, hm, hf, -⟩ := hok.each j c hc
  refine ⟨hm.apart, fun addr => ?_⟩
  obtain ⟨r, k, hr, hb, -⟩ := Controller.find_bank_spec hm hf ndebug addr
  exact ⟨r, k, hr, hb⟩

/-- Two controllers, a bank at the top of the address space, and one that overlaps it. -/
def topOps : List BankOp :=
  [.construct, .construct, .attach_bank 0 ⟨false, 0xffff0000, 0x20000, .Big, by decide⟩,
    .lookup 0 0xffffffff, .attach_bank 0 ⟨true, 0xfffffff0, 1, .Big, by decide⟩, .lookup 1 0]

theorem lookup_exact_top : ∃ c, (Controllers.run false topOps {}).ctrls[0]? = some c ∧
    (c.banks.Pairwise fun x y => x.bank.Apart y.bank) ∧
      ∃ r k, c.find_bank_or_null false 0xffffffff (Controllers.run false topOps {}).cache = (.ok r, k) ∧
        ∀ b, r = some b ↔ b ∈ c.banks ∧ b.bank.contains 0xffffffff = true := by
  have hc : (Controllers.run false topOps {}).ctrls[0]? =
      some ⟨1, 2, [⟨0, ⟨.RamBank, 0xffff0000, 0x20000, .Big⟩⟩]⟩ := by decide +kernel
  have h := lookup_exact false topOps (by decide) 0 _ hc
  exact ⟨_, hc, h.1, h.2 0xffffffff⟩

/-! ### The end of the counters -/

lemma run_clears (ndebug : Bool) (n : Nat) : ∀ (w : Controllers) (c : Controller), w.ctrls = [c] →
    c.banks = [] → w.run ndebug (List.replicate n (.clear_banks 0)) =
      { w with ctrls := [{ c with generation := c.generation + BitVec.ofNat 64 n }] } := by
  induction n with
  | zero =>
    intro w c hw _
    show w = _
    rw [show c.generation + BitVec.ofNat 64 0 = c.generation from BitVec.add_zero _, ← hw]
  | succ n ih =>
    intro w c hw hb
    have hstep : (BankOp.clear_banks 0).step ndebug w = { w with ctrls := [c.clear_banks] } := by
      unfold BankOp.step Controllers.call
      rw [hw]
      rfl
    show Controllers.run ndebug (List.replicate n (.clear_banks 0))
      ((BankOp.clear_banks 0).step ndebug w) = _
    rw [hstep, ih _ c.clear_banks rfl rfl]
    have hgen : c.clear_banks.generation + BitVec.ofNat 64 n = c.generation + BitVec.ofNat 64 (n + 1) := by
      show c.generation + 1 + BitVec.ofNat 64 n = _
      rw [BitVec.add_assoc, BitVec.ofNat_add, BitVec.add_comm 1]
      rfl
    rw [hgen]
    unfold Controller.clear_banks
    rw [← hb]

/-- A bank is attached and found, and then the list is cleared 2^64 times. -/
def staleOps : List BankOp :=
  [.construct, .attach_bank 0 ⟨false, 0, 1, .Big, by decide⟩, .lookup 0 0, .clear_banks 0] ++
    List.replicate (2 ^ 64 - 1) (.clear_banks 0)

/-- The generation is that of the entry again, and a lookup returns a bank that is gone. -/
theorem stale_bank_found : ∃ c, (Controllers.run true staleOps {}).ctrls[0]? = some c ∧ c.banks = [] ∧
    (c.find_bank_or_null true 0 (Controllers.run true staleOps {}).cache).1 =
      .ok (some ⟨0, ⟨.RamBank, 0, 1, .Big⟩⟩) := by
  have hrun : Controllers.run true staleOps {} =
      ⟨[⟨1, 2, []⟩], 2, 1, ⟨1, 2, some ⟨0, ⟨.RamBank, 0, 1, .Big⟩⟩, 0, 1⟩⟩ := by
    unfold staleOps
    rw [Controllers.run, List.foldl_append]
    exact run_clears true (2 ^ 64 - 1)
      ⟨[⟨1, 3, []⟩], 2, 1, ⟨1, 2, some ⟨0, ⟨.RamBank, 0, 1, .Big⟩⟩, 0, 1⟩⟩ ⟨1, 3, []⟩ rfl rfl
  rw [hrun]
  exact ⟨⟨1, 2, []⟩, rfl, rfl, by decide⟩

end SparcEmu
