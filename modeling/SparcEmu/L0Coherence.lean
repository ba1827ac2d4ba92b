import SparcEmu.RamAccess

/-!
The L0 caches do not show: an access through a cached page pointer does what translation, bank
lookup and the bank's own accessor do, as long as no page mixes memory with anything else.
-/

namespace SparcEmu

open Lib.Effect Lib.Bits Lib.Run

variable {δ : Type} {mc : MCtrl δ}

/-! ### Memory maps made of pages -/

/-- Outside the addresses `Mixed`, a page with memory in it belongs to one bank. Memory is
big-endian and can be written. -/
structure MCtrl.Paged (mc : MCtrl δ) (Mixed : u32 → Prop) : Prop where
  page : ∀ {pa pa₀ : u32} {i : Nat} {b : IMemoryBank}, SamePage pa₀ pa → ¬ Mixed pa →
    mc.get_bank pa₀ = some (i, b) → b.isDevice = false → mc.get_bank pa = some (i, b)
  big : ∀ b ∈ mc.banks, b.isDevice = false → b.bankEndian = .Big
  writeable : ∀ b ∈ mc.banks, b.kind ≠ .RomBank false
  small : ∀ b ∈ mc.banks, b.size + 4 ≤ 2 ^ 32

variable {b : IMemoryBank}

lemma IMemoryBank.get_ptr_eq (h : b.get_ptr.isOk = true) : b.get_ptr = .ok (!b.isDevice) := by
  unfold IMemoryBank.get_ptr IMemoryBank.isDevice at *
  cases hk : b.kind with
  | RamBank => rfl
  | RomBank w => rfl
  | device id p =>
    cases p with
    | nullptr => rfl
    | throws => rw [hk] at h; cases h

variable {rw : Intent} {s : MMUSt δ} {va : u32}

namespace MMU

variable {Mixed : u32 → Prop} {pa : u32} {i : Nat}

lemma bankAccess_ptr (hP : mc.Paged Mixed) (hb : mc.get_bank pa = some (i, b))
    (hm : b.isDevice = false) {size : AccessSize} (hx : rw = .execute → size = .b4) (v : u32)
    (s : MMUSt δ) : bankAccess mc rw size i b pa v s = ptrAccess rw size ⟨i, b.offset pa⟩ v s := by
  obtain ⟨hmem, hin⟩ := MCtrl.get_bank_some hb
  have hbig := hP.big b hmem hm
  have hc : Consecutive b pa := consecutive_rom hin (hP.small b hmem)
  have hrd : onMem (mc.bankRead i b size pa) s = .ok (ptrRead s.mem.bytes ⟨i, b.offset pa⟩ size) s := by
    unfold onMem
    rw [MCtrl.bankRead_memory hm, memRead_big hc hbig]
  have hwr : onMem' (mc.bankWrite i b size pa v) s = .ok () { s with mem :=
      { s.mem with bytes := ptrWrite s.mem.bytes ⟨i, b.offset pa⟩ v size } } := by
    unfold onMem' onMem
    dsimp only
    rw [MCtrl.bankWrite_memory hm (hP.writeable b hmem), memWrite_big hc hbig]
    rfl
  unfold bankAccess ptrAccess
  cases rw with
  | load => dsimp only; rw [bind_ok hrd]; rfl
  | store => dsimp only; rw [bind_ok hwr]; rfl
  | execute =>
    dsimp only
    rw [hx rfl] at hrd ⊢
    rw [bind_ok hrd]
    rfl

/-! ### The reference -/

/-- An access by translation, bank lookup and the bank's own accessor. -/
def refAccess (mc : MCtrl δ) (rw : Intent) (size : AccessSize) (vaddr value : u32)
    (supervisor report_faults : Bool) : MmuM δ (cint × u32) := do
  let res ← translate_va mc vaddr supervisor rw report_faults
  if res.ok then
    match mc.get_bank res.pa with
    | none => bus_fault rw vaddr value supervisor report_faults
    | some (i, b) => bankAccess mc rw size i b res.pa value
  else do
    let m ← getMMU
    let FT : u32 := if report_faults then (m.fault_status_reg >>> 2) &&& 7 else 1
    pure (-FT, value)

/-- The same status and value, or the same exception, and the same memory and devices. -/
def SameOutcome {α : Type} : EStateM.Result HostError (MMUSt δ) α →
    EStateM.Result HostError (MMUSt δ) α → Prop
  | .ok a s, .ok a' s' => a = a' ∧ s.mem = s'.mem
  | .error e s, .error e' s' => e = e' ∧ s.mem = s'.mem
  | _, _ => False

lemma SameOutcome.refl {α : Type} (x : EStateM.Result HostError (MMUSt δ) α) : SameOutcome x x := by
  cases x <;> exact ⟨rfl, rfl⟩

lemma ptrAccess_same (rw : Intent) (size : AccessSize) (p : HostPtr) (v : u32) (m m' : MMU)
    (mem : Mem δ) : SameOutcome (ptrAccess rw size p v ⟨m, mem⟩) (ptrAccess rw size p v ⟨m', mem⟩) := by
  cases rw <;> exact ⟨rfl, rfl⟩

/-! ### Coherence -/

/-- The pointer shows the place `pa` of a memory bank that has a byte in the page of `pa`. -/
def PointsAt (mc : MCtrl δ) (pa : u32) (p : HostPtr) : Prop :=
  ∃ i b pa₀, SamePage pa₀ pa ∧ mc.get_bank pa₀ = some (i, b) ∧ b.isDevice = false ∧
    p = ⟨i, (pa.toNat : Int) - b.base.toNat⟩

/-- The TLBs agree with the tables, and so do the answers of the L0 caches in every context
that exists: the access is permitted, and the pointer shows the physical address. -/
structure Coherent (mc : MCtrl δ) (T : Tables) (m : MMU) : Prop where
  tlb : m.Agrees T
  l0 : ∀ rw c va sup p, c ≤ 255 → ({ m with ctx_n := c } : MMU).l0Hit rw va sup = some p →
    ∃ r, T.leaf c va = some r ∧ RootOk r ∧ permFault r.1 rw sup r.2 = 0 ∧
      PointsAt mc (physAddr va r.1 r.2) p

variable {T : Tables} {m : MMU}

lemma Coherent.congr {T' : Tables} (h : Coherent mc T m) (hT : SameLeaves T T') :
    Coherent mc T' m where
  tlb := h.tlb.congr hT
  l0 rw c va sup p hc hp := by
    rw [hT c va hc]
    exact h.l0 rw c va sup p hc hp

variable {s' : MMUSt δ}

lemma sameLeaves_of_ptr (hm : s'.mem.bytes = s.mem.bytes)
    (hp : s'.mmu.ctx_tbl_ptr = s.mmu.ctx_tbl_ptr) : SameLeaves (tables mc s) (tables mc s') := by
  intro c va _
  unfold tables
  rw [hm, hp]

lemma dropL0_miss (m : MMU) (rw : Intent) (va : u32) (sup : Bool) :
    m.dropL0.l0Hit rw va sup = none := by
  have hv : (0xffffffff : u32) ≠ va >>> 12 := by
    intro h
    have := congrArg BitVec.toNat h
    rw [BitVec.toNat_ushiftRight, Nat.shiftRight_eq_div_pow] at this
    have hlt := va.isLt
    have h1 : (0xffffffff : u32).toNat = 4294967295 := rfl
    omega
  cases rw <;> exact if_neg fun h => hv h.1

lemma coherent_flush (m : MMU) (T : Tables) : Coherent mc T m.flush where
  tlb := agrees_flush m T
  l0 rw c va sup p hc hp := by
    have hn : ({ m.flush with ctx_n := c } : MMU).l0Hit rw va sup = none :=
      dropL0_miss { m with ctx_n := c } rw va sup
    rw [hn] at hp
    cases hp

lemma Coherent.dropL0 (h : Coherent mc T m) : Coherent mc T m.dropL0 where
  tlb := h.tlb
  l0 rw c va sup p hc hp := by
    have hn : ({ m.dropL0 with ctx_n := c } : MMU).l0Hit rw va sup = none :=
      dropL0_miss { m with ctx_n := c } rw va sup
    rw [hn] at hp
    cases hp

lemma Coherent.of_caches {m' : MMU} (h : Coherent mc T m) (hi : m'.itlb = m.itlb)
    (hd : m'.dtlb = m.dtlb) (h0 : ∀ c rw va sup, ({ m' with ctx_n := c } : MMU).l0Hit rw va sup
      = ({ m with ctx_n := c } : MMU).l0Hit rw va sup) : Coherent mc T m' where
  tlb := by
    obtain ⟨h1, h2⟩ := h.tlb
    exact ⟨by rw [hi]; exact h1, by rw [hd]; exact h2⟩
  l0 rw c va sup p hc hp := by
    rw [h0] at hp
    exact h.l0 rw c va sup p hc hp

lemma Coherent.set_fault (h : Coherent mc T m) (f : MMUFault) : Coherent mc T (m.set_fault f) :=
  h.of_caches rfl rfl fun _ rw _ _ => by cases rw <;> rfl

lemma Coherent.reported (h : Coherent mc T m) (va : u32) (rw : Intent) (sup : Bool) (r : u32 × u8)
    (rep : Bool) : Coherent mc T (m.reported va rw sup r rep) := by
  unfold MMU.reported
  split_ifs
  · exact h.set_fault _
  · exact h

lemma Coherent.setTlb (h : Coherent mc T m) {t : TLB} (ht : t.Agrees T) (rw : Intent) :
    Coherent mc T (m.setTlb t rw) where
  tlb := h.tlb.setTlb ht rw
  l0 rw' c va sup p hc hp := by
    have e : ({ m.setTlb t rw with ctx_n := c } : MMU) = ({ m with ctx_n := c } : MMU).setTlb t rw := by
      cases rw <;> rfl
    rw [e, l0Hit_setTlb] at hp
    exact h.l0 rw' c va sup p hc hp

lemma set_control_reg_ctx (m : MMU) (v : u32) : (m.set_control_reg v).ctx_n = m.ctx_n ∧
    (m.set_control_reg v).ctx_tbl_ptr = m.ctx_tbl_ptr := by
  unfold MMU.set_control_reg
  split_ifs <;> exact ⟨rfl, rfl⟩

lemma Coherent.set_control_reg (h : Coherent mc T m) (v : u32) :
    Coherent mc T (m.set_control_reg v) := by
  unfold MMU.set_control_reg
  split_ifs
  · exact h.dropL0.of_caches rfl rfl fun _ rw _ _ => by cases rw <;> rfl
  · exact h.of_caches rfl rfl fun _ rw _ _ => by cases rw <;> rfl

/-- What an entry answers in context `c`. -/
def answer (e : L0Entry) (c va : u32) (sup : Bool) : Option HostPtr :=
  if e.vpage = va >>> 12 ∧ e.super = sup ∧ e.ctx = c then
    some ⟨e.page_data.bank, e.page_data.off + ((va &&& 0xfff).toNat : Int)⟩
  else none

lemma l0Hit_answer (m : MMU) (c : u32) (rw : Intent) (va : u32) (sup : Bool) :
    ({ m with ctx_n := c } : MMU).l0Hit rw va sup = answer (m.l0 (va >>> 12) rw) c va sup := by
  cases rw <;> rfl

lemma l0_setL0 (m : MMU) (vp vp' : u32) (e : L0Entry) (rw rw' : Intent) :
    (rw = rw' ∧ (m.setL0 vp' e rw').l0 vp rw = e) ∨ (m.setL0 vp' e rw').l0 vp rw = m.l0 vp rw := by
  cases rw <;> cases rw'
  case load.load =>
    show (_ ∧ (if _ then _ else _) = _) ∨ (if _ then _ else _) = _
    split_ifs
    · exact Or.inl ⟨rfl, rfl⟩
    · exact Or.inr rfl
  case store.store =>
    show (_ ∧ (if _ then _ else _) = _) ∨ (if _ then _ else _) = _
    split_ifs
    · exact Or.inl ⟨rfl, rfl⟩
    · exact Or.inr rfl
  case execute.execute => exact Or.inl ⟨rfl, rfl⟩
  all_goals exact Or.inr rfl

lemma l0Fill_answers {rw' : Intent} {va' : u32} {sup sup' : Bool} {c : u32} {p : HostPtr}
    (h : ({ m.l0Fill rw' va' sup' i b pa with ctx_n := c } : MMU).l0Hit rw va sup = some p) :
    (rw = rw' ∧ SamePage va va' ∧ sup = sup' ∧ c = m.ctx_n ∧
      p = ⟨i, ((pa &&& ~~~0xfff#32).toNat : Int) - b.base.toNat + (va &&& 0xfff).toNat⟩) ∨
    ({ m with ctx_n := c } : MMU).l0Hit rw va sup = some p := by
  rw [l0Hit_answer] at h ⊢
  rcases l0_setL0 m (va >>> 12) (va' >>> 12) _ rw rw' with ⟨hrw, he⟩ | he
  · left
    rw [MMU.l0Fill, he] at h
    unfold answer at h
    split_ifs at h with hc
    cases h
    exact ⟨hrw, hc.1.symm, hc.2.1.symm, hc.2.2.symm, rfl⟩
  · right
    rw [MMU.l0Fill, he] at h
    exact h

variable {r : u32 × u8}

lemma Coherent.l0Fill (h : Coherent mc T m) {sup : Bool} (hl : T.leaf m.ctx_n va = some r)
    (hr : RootOk r) (hok : permFault r.1 rw sup r.2 = 0)
    (hb : mc.get_bank (physAddr va r.1 r.2) = some (i, b)) (hm : b.isDevice = false) :
    Coherent mc T (m.l0Fill rw va sup i b (physAddr va r.1 r.2)) where
  tlb := by cases rw <;> exact h.tlb
  l0 rw' c va' sup' p hc hp := by
    rcases l0Fill_answers hp with ⟨rfl, hpage, rfl, rfl, rfl⟩ | hp
    · refine ⟨r, by rw [hpage.leaf]; exact hl, hr, hok, i, b, physAddr va r.1 r.2,
        SamePage.physAddr hpage.symm _ _, hb, hm, ?_⟩
      have hpg : (physAddr va r.1 r.2) &&& ~~~0xfff#32 = physAddr va' r.1 r.2 &&& ~~~0xfff#32 :=
        and_of_shift (n := 12) (by decide) (SamePage.physAddr hpage.symm r.1 r.2)
      have ho := page_add_offset (physAddr_low va' r.1 r.2)
      rw [hpg]
      congr 1
      omega
    · exact h.l0 rw' c va' sup' p hc hp

/-! ### One access -/

section Access

variable {rw : Intent} {size : AccessSize} {va v : u32} {sup rep : Bool} {s : MMUSt δ}

/-- The access keeps away from what the L0 caches get wrong: a page shared by memory and
something else that a cache already answers for, a bank that throws in `get_ptr`, and a fetch
that is not a word. -/
def Clear (mc : MCtrl δ) (Mixed : u32 → Prop) (rw : Intent) (size : AccessSize) (va : u32)
    (sup : Bool) (m : MMU) (r : u32 × u8) : Prop :=
  (rw = .execute → size = .b4) ∧
  (permFault r.1 rw sup r.2 = 0 →
    (Mixed (physAddr va r.1 r.2) → m.l0Hit rw va sup = none) ∧
    ∀ i b, mc.get_bank (physAddr va r.1 r.2) = some (i, b) → b.get_ptr.isOk = true)

lemma refAccess_ok {res : MMUTranslateResult} (ht : translate_va mc va sup rw rep s = .ok res s') :
    refAccess mc rw size va v sup rep s =
      if res.ok then
        match mc.get_bank res.pa with
        | none => bus_fault rw va v sup rep s'
        | some (i, b) => bankAccess mc rw size i b res.pa v s'
      else .ok (-(if rep then (s'.mmu.fault_status_reg >>> 2) &&& 7 else 1), v) s' := by
  unfold refAccess
  rw [bind_ok ht]
  split_ifs
  · cases mc.get_bank res.pa with
    | none => rfl
    | some x => rfl
  · rfl
  · rfl

lemma refAccess_throws {e : HostError} (ht : translate_va mc va sup rw rep s = .error e s') :
    refAccess mc rw size va v sup rep s = .error e s' := by
  unfold refAccess
  rw [bind_error ht]

lemma busAccess_on (hb : mc.get_bank pa = some (i, b)) (hg : b.get_ptr.isOk = true)
    (hpa : pa &&& 0xfff = va &&& 0xfff) :
    busAccess mc rw size va v pa sup rep true s =
      if b.isDevice then bankAccess mc rw size i b pa v s
      else ptrAccess rw size ⟨i, b.offset pa⟩ v
        { s with mmu := s.mmu.l0Fill rw va sup i b pa } := by
  have hp := page_ptr (MCtrl.get_bank_some hb).2 hpa
  unfold busAccess
  rw [hb]
  dsimp only
  rw [IMemoryBank.get_ptr_eq hg, hp]
  cases hd : b.isDevice
  · rfl
  · rfl

lemma hit_pointer (hP : mc.Paged Mixed) {p : HostPtr} (hp : PointsAt mc pa p) (hm : ¬ Mixed pa) :
    ∃ i b, mc.get_bank pa = some (i, b) ∧ b.isDevice = false ∧ p = ⟨i, b.offset pa⟩ := by
  obtain ⟨i, b, pa₀, hpage, hb, hd, rfl⟩ := hp
  have hb' := hP.page hpage hm hb hd
  refine ⟨i, b, hb', hd, ?_⟩
  rw [b.offset_of_contains (MCtrl.get_bank_some hb').2]

/-- **One access**: with coherent caches an access does what the reference does. -/
theorem access_same (hP : mc.Paged Mixed) (he : s.mmu.get_enabled = true)
    (hC : Coherent mc (tables mc s) s.mmu) (hc : s.mmu.ctx_n ≤ 255)
    (hl : (tables mc s).leaf s.mmu.ctx_n va = some r) (hx : Clear mc Mixed rw size va sup s.mmu r) :
    SameOutcome (MemAccess mc rw size va v sup rep s) (refAccess mc rw size va v sup rep s) := by
  obtain ⟨hw, hx⟩ := hx
  cases h0 : s.mmu.l0Hit rw va sup with
  | some p =>
    obtain ⟨r', hl', hr, hok, hp⟩ := hC.l0 rw s.mmu.ctx_n va sup p hc h0
    obtain rfl : r' = r := Option.some.inj (hl'.symm.trans hl)
    have hm : ¬ Mixed (physAddr va r'.1 r'.2) := fun h => by
      have := (hx hok).1 h
      rw [h0] at this
      cases this
    obtain ⟨i, b, hb, hd, rfl⟩ := hit_pointer hP hp hm
    obtain ⟨t, -, ht⟩ := translate_va_spec hc hl hr hC.tlb sup rw rep
    rw [MemAccess_hit he h0, refAccess_ok ht]
    unfold outcome
    rw [if_pos hok, if_pos rfl, hb]
    dsimp only
    rw [bankAccess_ptr hP hb hd hw]
    exact ptrAccess_same ..
  | none =>
    by_cases hr : RootOk r
    · obtain ⟨t, -, ht⟩ := translate_va_spec hc hl hr hC.tlb sup rw rep
      rw [MemAccess_miss he h0 ht, refAccess_ok ht]
      unfold outcome
      by_cases hok : permFault r.1 rw sup r.2 = 0
      · rw [if_pos hok, if_pos rfl, if_pos rfl]
        cases hb : mc.get_bank (physAddr va r.1 r.2) with
        | none =>
          dsimp only [busAccess]
          rw [hb]
          exact SameOutcome.refl _
        | some x =>
          obtain ⟨i, b⟩ := x
          dsimp only
          rw [busAccess_on hb ((hx hok).2 i b hb) (physAddr_low va r.1 r.2)]
          cases hd : b.isDevice with
          | true =>
            rw [if_pos rfl]
            exact SameOutcome.refl _
          | false =>
            rw [if_neg (by simp), bankAccess_ptr hP hb hd hw]
            exact ptrAccess_same ..
      · rw [if_neg hok, if_neg Bool.false_ne_true, if_neg Bool.false_ne_true]
        exact SameOutcome.refl _
    · have ht := translate_va_root hc hl hr hC.tlb sup rw rep
      rw [MemAccess_throws he h0 ht, refAccess_throws ht]
      exact SameOutcome.refl _

/-! ### Accesses keep the caches coherent -/

lemma fixesMMU_bankAccess (i : Nat) (b : IMemoryBank) (pa : u32) :
    Fixes (fun s : MMUSt δ => s.mmu) (bankAccess mc rw size i b pa v) := by
  have hm : ∀ {α : Type} (f : Mem δ → Except HostError (α × Mem δ)),
      Fixes (fun s : MMUSt δ => s.mmu) (onMem f) := by
    intro α f s
    unfold onMem
    cases f s.mem <;> rfl
  unfold bankAccess
  cases rw with
  | store | load | execute => exact (hm _).bind fun _ => Fixes.pure _

lemma fixesMMU_ptrAccess (p : HostPtr) :
    Fixes (fun s : MMUSt δ => s.mmu) (ptrAccess rw size p v) := by
  cases rw <;> exact fun _ => rfl

variable {a : cint × u32}

lemma bus_fault_coherent (hC : Coherent mc T s.mmu) (h : bus_fault rw va v sup rep s = .ok a s') :
    Coherent mc T s'.mmu := by
  unfold bus_fault at h
  split_ifs at h <;> cases h
  · exact hC.set_fault _
  · exact hC

lemma busAccess_off_coherent (hC : Coherent mc T s.mmu)
    (h : busAccess mc rw size va v pa sup rep false s = .ok a s') : Coherent mc T s'.mmu := by
  unfold busAccess at h
  cases hb : mc.get_bank pa with
  | none => rw [hb] at h; exact bus_fault_coherent hC h
  | some x =>
    rw [hb] at h
    have hk : s'.mmu = s.mmu := by
      refine Fixes.ok (f := fun s : MMUSt δ => s.mmu) ?_ h
      dsimp only
      split_ifs
      · refine Fixes.bind (fun s => ?_) fun _ => ?_
        · cases x.2.get_ptr <;> rfl
        · rw [if_neg (by simp)]
          exact fixesMMU_bankAccess _ _ _
      · exact fixesMMU_bankAccess _ _ _
    rw [hk]
    exact hC

lemma busAccess_on_coherent (hC : Coherent mc T s.mmu) (hl : T.leaf s.mmu.ctx_n va = some r)
    (hr : RootOk r) (hok : permFault r.1 rw sup r.2 = 0)
    (h : busAccess mc rw size va v (physAddr va r.1 r.2) sup rep true s = .ok a s') :
    Coherent mc T s'.mmu := by
  cases hb : mc.get_bank (physAddr va r.1 r.2) with
  | none =>
    unfold busAccess at h
    rw [hb] at h
    exact bus_fault_coherent hC h
  | some x =>
    obtain ⟨i, b⟩ := x
    cases hg : b.get_ptr with
    | error e =>
      unfold busAccess at h
      rw [hb] at h
      dsimp only at h
      rw [if_pos (by rfl), hg, bind_error (show liftExcept (.error e) s = .error e s from rfl)] at h
      cases h
    | ok w =>
      rw [busAccess_on hb (by rw [hg]; rfl) (physAddr_low va r.1 r.2)] at h
      cases hd : b.isDevice with
      | true =>
        rw [if_pos hd] at h
        rw [Fixes.ok (fixesMMU_bankAccess i b _) h]
        exact hC
      | false =>
        rw [if_neg (by rw [hd]; exact Bool.false_ne_true)] at h
        rw [(fixesMMU_ptrAccess (δ := δ) _).ok h]
        exact hC.l0Fill hl hr hok hb hd

lemma access_coherent (hC : Coherent mc (tables mc s) s.mmu) (hc : s.mmu.ctx_n ≤ 255)
    (hl : s.mmu.get_enabled = true → ∃ r, (tables mc s).leaf s.mmu.ctx_n va = some r)
    (h : MemAccess mc rw size va v sup rep s = .ok a s') : Coherent mc (tables mc s) s'.mmu := by
  cases he : s.mmu.get_enabled with
  | false =>
    rw [MemAccess_off he] at h
    exact busAccess_off_coherent hC h
  | true =>
    obtain ⟨r, hl⟩ := hl he
    cases h0 : s.mmu.l0Hit rw va sup with
    | some p =>
      rw [MemAccess_hit he h0] at h
      rw [(fixesMMU_ptrAccess (δ := δ) p).ok h]
      exact hC
    | none =>
      by_cases hr : RootOk r
      · obtain ⟨t, hta, ht⟩ := translate_va_spec hc hl hr hC.tlb sup rw rep
        have hC' := (hC.setTlb hta rw).reported va rw sup r rep
        have hctx := (reported_ctx s.mmu t va rw sup r rep).1
        rw [MemAccess_miss he h0 ht] at h
        unfold outcome at h
        by_cases hok : permFault r.1 rw sup r.2 = 0
        · rw [if_pos hok, if_pos rfl] at h
          exact busAccess_on_coherent hC' (by rw [hctx]; exact hl) hr hok h
        · rw [if_neg hok, if_neg Bool.false_ne_true] at h
          cases h
          exact hC'
      · have ht := translate_va_root hc hl hr hC.tlb sup rw rep
        rw [MemAccess_throws he h0 ht] at h
        cases h

end Access

/-! ### Runs -/

/-- What happens to an MMU and its memory. `poke` is any change of memory and devices made by
something else. -/
inductive BusOp (δ : Type)
  | access (rw : Intent) (size : AccessSize) (va v : u32) (sup rep : Bool)
  | setCtx (n : u32)
  | setPtr (p : u32)
  | setControl (v : u32)
  | poke (mem : Mem δ)
  | flush

namespace BusOp

def step (mc : MCtrl δ) : BusOp δ → MmuM δ (Option (cint × u32))
  | .access rw size va v sup rep => do return some (← MemAccess mc rw size va v sup rep)
  | .setCtx n => do modMMU fun m => { m with ctx_n := n }; return none
  | .setPtr p => do modMMU fun m => { m with ctx_tbl_ptr := p }; return none
  | .setControl v => do modMMU fun m => m.set_control_reg v; return none
  | .poke mem => fun s => .ok none { s with mem := mem }
  | .flush => do modMMU MMU.flush; return none

/-- A flush comes before the next access. -/
def FlushFirst : List (BusOp δ) → Prop
  | [] => True
  | .access .. :: _ => False
  | .flush :: _ => True
  | _ :: os => FlushFirst os

/-- The operation keeps to the rules: the tables that an access walks are in memory, contexts
are at most 255, and when the leaves change a flush comes before the next access. -/
def Legal (mc : MCtrl δ) (o : BusOp δ) (os : List (BusOp δ)) (s : MMUSt δ) : Prop :=
  match o with
  | .access _ _ va _ _ _ =>
    (s.mmu.get_enabled = true → ∃ r, (tables mc s).leaf s.mmu.ctx_n va = some r) ∧
      ∀ a s', o.step mc s = .ok a s' → SameLeaves (tables mc s) (tables mc s') ∨ FlushFirst os
  | .setCtx n => n ≤ 255
  | .setControl _ => True
  | .flush => True
  | _ => ∀ a s', o.step mc s = .ok a s' → SameLeaves (tables mc s) (tables mc s') ∨ FlushFirst os

/-- With the MMU on, the access does what translation, bank lookup and the bank's own accessor
do. -/
def Transparent (mc : MCtrl δ) (o : BusOp δ) (s : MMUSt δ) : Prop :=
  match o with
  | .access rw size va v sup rep => s.mmu.get_enabled = true →
    SameOutcome (MemAccess mc rw size va v sup rep s) (refAccess mc rw size va v sup rep s)
  | _ => True

/-- With the MMU on, the access is clear of what the L0 caches get wrong. -/
def Avoids (mc : MCtrl δ) (Mixed : u32 → Prop) (o : BusOp δ) (s : MMUSt δ) : Prop :=
  match o with
  | .access rw size va _ sup _ => s.mmu.get_enabled = true → ∀ r,
    (tables mc s).leaf s.mmu.ctx_n va = some r → Clear mc Mixed rw size va sup s.mmu r
  | _ => True

/-- The caches are coherent, or are flushed before they are used. -/
def Inv (mc : MCtrl δ) (os : List (BusOp δ)) (s : MMUSt δ) : Prop :=
  s.mmu.ctx_n ≤ 255 ∧ (Coherent mc (tables mc s) s.mmu ∨ FlushFirst os)

variable {os : List (BusOp δ)}

lemma Inv.transparent (hP : mc.Paged Mixed) {o : BusOp δ} (hi : Inv mc (o :: os) s)
    (hl : o.Legal mc os s) (hx : o.Avoids mc Mixed s) : o.Transparent mc s := by
  cases o with
  | access rw size va v sup rep =>
    intro he
    obtain ⟨hc, hC | hC⟩ := hi
    · obtain ⟨r, hr⟩ := hl.1 he
      exact access_same hP he hC hc hr (hx he r hr)
    · exact hC.elim
  | setCtx n | setPtr p | setControl v | poke mem | flush => trivial

lemma Inv.of_leaves (hc : s'.mmu.ctx_n ≤ 255)
    (hl : SameLeaves (tables mc s) (tables mc s') ∨ FlushFirst os)
    (hC : Coherent mc (tables mc s) s'.mmu ∨ FlushFirst os) : Inv mc os s' := by
  refine ⟨hc, ?_⟩
  rcases hl with hl | hl
  · exact hC.imp (fun h => h.congr hl) id
  · exact Or.inr hl

lemma Inv.step {o : BusOp δ} {a : Option (cint × u32)} (hi : Inv mc (o :: os) s)
    (hl : o.Legal mc os s) (hs : o.step mc s = .ok a s') : Inv mc os s' := by
  obtain ⟨hc, hC⟩ := hi
  cases o with
  | access rw size va v sup rep =>
    have hT := hl.2 a s' hs
    obtain ⟨x, s₁, hx, he⟩ := bind_ok_iff.mp hs
    cases he
    have hk := priv_ctx ((keepsPriv_MemAccess rw size va v sup rep).ok hx)
    refine Inv.of_leaves (by rw [hk.1]; exact hc) hT ?_
    exact hC.imp (fun h => access_coherent h hc hl.1 hx) False.elim
  | setCtx n =>
    cases hs
    refine ⟨hl, hC.imp (fun h => ?_) id⟩
    exact h.of_caches rfl rfl fun _ _ _ _ => rfl
  | setPtr p =>
    have hT := hl a s' hs
    cases hs
    refine Inv.of_leaves hc hT (hC.imp (fun h => ?_) id)
    exact h.of_caches rfl rfl fun _ rw _ _ => by cases rw <;> rfl
  | setControl v =>
    cases hs
    obtain ⟨h1, h2⟩ := set_control_reg_ctx s.mmu v
    exact Inv.of_leaves (s := s) (by rw [h1]; exact hc) (Or.inl (sameLeaves_of_ptr rfl h2))
      (hC.imp (fun h => h.set_control_reg v) id)
  | poke mem =>
    have hT := hl a s' hs
    cases hs
    exact Inv.of_leaves hc hT hC
  | flush =>
    cases hs
    exact ⟨hc, Or.inl (coherent_flush s.mmu _)⟩

end BusOp

end MMU

/-! ### One bank, and tables that map every 16 MB to it -/

section OneBank

variable {base a : u32} {size i : Nat} (hm : mc.banks = [⟨.RamBank, base, size, .Big⟩])

include hm

lemma MCtrl.get_bank_one (h : base.toNat ≤ a.toNat) (h' : a.toNat < base.toNat + size) :
    mc.get_bank a = some (0, ⟨.RamBank, base, size, .Big⟩) := by
  unfold get_bank
  rw [hm, findFrom, if_pos]
  simp [IMemoryBank.contains]
  omega

lemma MCtrl.get_bank_one_some (h : mc.get_bank a = some (i, b)) :
    i = 0 ∧ b = ⟨.RamBank, base, size, .Big⟩ ∧ base.toNat ≤ a.toNat ∧ a.toNat < base.toNat + size := by
  obtain ⟨hmem, hin⟩ := get_bank_some h
  rw [hm, List.mem_singleton] at hmem
  subst hmem
  have hr : base.toNat ≤ a.toNat ∧ a.toNat < base.toNat + size := by
    simp [IMemoryBank.contains] at hin
    omega
  rw [get_bank_one hm hr.1 hr.2] at h
  cases h
  exact ⟨rfl, rfl, hr⟩

lemma MCtrl.paged_one (hb : base.toNat % 4096 = 0) (hs : size % 4096 = 0) (hlt : size + 4 ≤ 2 ^ 32) :
    mc.Paged fun _ => False where
  page {pa pa₀ i b} hpage _ hb _ := by
    have hq := congrArg BitVec.toNat hpage
    simp only [BitVec.toNat_ushiftRight, Nat.shiftRight_eq_div_pow] at hq
    obtain ⟨rfl, rfl, h1, h2⟩ := get_bank_one_some hm hb
    exact get_bank_one hm (by omega) (by omega)
  big b hb _ := by rw [hm, List.mem_singleton] at hb; rw [hb]
  writeable b hb := by rw [hm, List.mem_singleton] at hb; simp [hb]
  small b hb := by rw [hm, List.mem_singleton] at hb; rw [hb]; exact hlt

end OneBank

def superMap : MCtrl Unit := MCtrl.ram [(0x40000000, 0x1000000)]

/-- A page of zeros, a context table whose entries all point at the third page, and there a
level 1 table whose entries all map the 16 MB without user access. -/
def superBytes : HostBytes := fun _ o =>
  if o < 0x1000 then 0
  else if o % 4 = 0 then 0x04
  else if o % 4 = 1 then 0
  else if o % 4 = 2 then (if o < 0x2000 then 2 else 0)
  else (if o < 0x2000 then 1 else 0x1e)

/-- The tables are there, whatever is in the first page. -/
def SuperTables (g : HostBytes) : Prop := ∀ o, 0x1000 ≤ o → g 0 o = superBytes 0 o

namespace SuperTables

variable {g : HostBytes} (hg : SuperTables g)

include hg

lemma word {a : u32} {n : Nat} (ha : a.toNat = 0x40000000 + 4 * n) (h1 : 0x400 ≤ n) (h2 : n < 0xc00) :
    superMap.wordAt g a = some (if n < 0x800 then 0x04000201 else 0x0400001e) := by
  have hbase : BitVec.toNat (0x40000000 : u32) = 0x40000000 := rfl
  have hb : superMap.get_bank a = some (0, ⟨.RamBank, 0x40000000, 0x1000000, .Big⟩) :=
    MCtrl.get_bank_one rfl (by omega) (by omega)
  have ho : (⟨.RamBank, 0x40000000, 0x1000000, .Big⟩ : IMemoryBank).offset a = (4 * n : Nat) := by
    rw [IMemoryBank.offset_of_contains _ (MCtrl.get_bank_some hb).2, ha, hbase]
    omega
  have hn : ∀ k : Int, 0 ≤ k → k < 4 → (((4 * n : Nat) : Int) + k < 0x2000 ↔ n < 0x800) := by
    intro k h0 h4
    omega
  have b0 : g 0 ((4 * n : Nat) + 0) = 0x04 := by
    rw [hg _ (by omega)]
    unfold superBytes
    rw [if_neg (by omega), if_pos (by omega)]
  have b1 : g 0 ((4 * n : Nat) + 1) = 0 := by
    rw [hg _ (by omega)]
    unfold superBytes
    rw [if_neg (by omega), if_neg (by omega), if_pos (by omega)]
  have b2 : g 0 ((4 * n : Nat) + 2) = if n < 0x800 then 2 else 0 := by
    rw [hg _ (by omega)]
    unfold superBytes
    rw [if_neg (by omega), if_neg (by omega), if_neg (by omega), if_pos (by omega)]
    simp only [hn 2 (by decide) (by decide)]
  have b3 : g 0 ((4 * n : Nat) + 3) = if n < 0x800 then 1 else 0x1e := by
    rw [hg _ (by omega)]
    unfold superBytes
    rw [if_neg (by omega), if_neg (by omega), if_neg (by omega), if_neg (by omega)]
    simp only [hn 3 (by decide) (by decide)]
  unfold MCtrl.wordAt
  rw [hb]
  show some (memRead g _ 0 a .b4) = _
  rw [memRead_big (consecutive_ram rfl a) rfl, ho]
  unfold ptrRead byteAt
  rw [b0, b1, b2, b3]
  split_ifs <;> rfl

omit hg in
lemma ind1_le (va : u32) : (MMU.ind1 va).toNat ≤ 255 := by
  unfold MMU.ind1
  rw [BitVec.toNat_and]
  exact Nat.and_le_right

omit hg in
lemma addr (va : u32) :
    (MMU.tableAddr 0x04000201 (MMU.ind1 va)).toNat = 0x40000000 + 4 * (0x800 + (MMU.ind1 va).toNat) := by
  have hi := ind1_le va
  unfold MMU.tableAddr
  rw [BitVec.toNat_add, BitVec.toNat_mul, show BitVec.toNat (4 : u32) = 4 from rfl,
    show ((((0x04000201 : u32) &&& ~~~3#32) >>> 2) <<< 6).toNat = 0x40002000 from rfl]
  omega

lemma root {c : u32} (hc : c ≤ 255) : superMap.wordAt g
    ((Tables.mk (superMap.wordAt g) 0x04000100).root c) = some 0x04000201 := by
  have hptr : (0x04000100 : u32) <<< 4 = 0x40001000 := by decide
  have hw := hg.word (a := 0x40001000 + c * 4) (n := 0x400 + c.toNat) (by bv_omega) (by omega)
    (by bv_omega)
  unfold Tables.root
  rwa [if_pos (by bv_omega), ← hptr] at hw

lemma entry (va : u32) :
    superMap.wordAt g (MMU.tableAddr 0x04000201 (MMU.ind1 va)) = some 0x0400001e := by
  have hi := ind1_le va
  have hw := hg.word (addr va) (by omega) (by omega)
  rwa [if_neg (by omega)] at hw

lemma leaf {c : u32} (hc : c ≤ 255) (va : u32) :
    (Tables.mk (superMap.wordAt g) 0x04000100).leaf c va = some (0x0400001e, 1) := by
  unfold Tables.leaf
  simp only [hg.root hc, hg.entry, Option.bind_eq_bind, Option.bind_some]
  rw [if_pos (by decide), if_neg (by decide)]

end SuperTables

/-! ### The machine that `main` builds -/

/-- The second half of the page that starts with the 2 KB of descriptor memory: the windows of
the sound device, and addresses that no bank has. -/
def MCtrl.SoundPage (pa : u32) : Prop := 0x24000800 ≤ pa.toNat ∧ pa.toNat < 0x24001000

lemma MCtrl.main_banks {vga : Bool} {dev : DeviceOps δ} (h : b ∈ (MCtrl.main vga dev).banks) :
    b ∈ (MCtrl.main true dev).banks := by
  cases vga with
  | true => exact h
  | false =>
    simp only [main, List.mem_append] at h ⊢
    exact h.imp (fun h => h.imp id fun h => absurd h (by simp)) id

lemma MCtrl.forall_main {P : IMemoryBank → Prop} {dev : DeviceOps δ}
    (h : ∀ b ∈ (MCtrl.main true dev).banks, P b) {vga : Bool} (hb : b ∈ (MCtrl.main vga dev).banks) :
    P b :=
  h b (main_banks hb)

/-- Only the descriptor memory and the sound device share a page. -/
lemma MCtrl.main_paged (vga : Bool) (dev : DeviceOps δ) :
    (MCtrl.main vga dev).Paged SoundPage where
  page {pa pa₀ i b} hpage hmix hb hd := by
    have hq : pa₀.toNat / 4096 = pa.toNat / 4096 := by
      have := congrArg BitVec.toNat hpage
      simpa only [BitVec.toNat_ushiftRight, Nat.shiftRight_eq_div_pow] using this
    obtain ⟨hmem, hin⟩ := get_bank_some hb
    unfold SoundPage at hmix
    -- memory that shares the page of `pa` is not in the second half of the sound page
    have hmix₀ : ¬ (0x24000800 ≤ pa₀.toNat ∧ pa₀.toNat < 0x24001000) := by
      revert hd hin
      refine forall_main (P := fun b => b.isDevice = false → b.contains pa₀ = true → _) ?_ hmem
      simp [main, IMemoryBank.contains, IMemoryBank.isDevice]
      omega
    rw [← hb]
    refine get_bank_congr fun b' hb' => Bool.eq_iff_iff.mpr ?_
    refine forall_main (P := fun b => b.contains pa = true ↔ b.contains pa₀ = true) ?_ hb'
    simp [main, IMemoryBank.contains]
    omega
  big b hb := by
    refine forall_main (P := fun b => b.isDevice = false → b.bankEndian = .Big) ?_ hb
    simp [main, IMemoryBank.isDevice]
  writeable b hb := by
    refine forall_main (P := fun b => b.kind ≠ .RomBank false) ?_ hb
    simp [main]
  small b hb := by
    refine forall_main (P := fun b => b.size + 4 ≤ 2 ^ 32) ?_ hb
    simp [main]

namespace MMU

/-- **The L0 caches do not show**: on the machine of `main`, after a flush, in every run that
keeps to the rules and whose accesses stay clear of what the caches get wrong, every access with
the MMU on does what translation, bank lookup and the bank's own accessor do. -/
theorem l0_transparent (vga : Bool) (dev : DeviceOps δ) (m : MMU) (mem : Mem δ)
    (os : List (BusOp δ)) (hc : m.ctx_n ≤ 255)
    (h : Along (BusOp.step (MCtrl.main vga dev))
      (fun o os s => o.Legal (MCtrl.main vga dev) os s ∧
        o.Avoids (MCtrl.main vga dev) MCtrl.SoundPage s) os ⟨m.flush, mem⟩) :
    Along (BusOp.step (MCtrl.main vga dev))
      (fun o _ s => o.Transparent (MCtrl.main vga dev) s) os ⟨m.flush, mem⟩ :=
  Along.of_inv (BusOp.Inv (MCtrl.main vga dev))
    (fun _ _ _ hi hl => hi.transparent (MCtrl.main_paged vga dev) hl.1 hl.2)
    (fun _ _ _ _ _ hi hl hs => hi.step hl.1 hs)
    ⟨hc, Or.inl (coherent_flush m _)⟩ h

/-- Registers that read as one. -/
def oneDev : DeviceOps Unit where
  read _ _ _ _ := .ok (1, ())
  write _ _ _ _ _ := .ok fun _ => ()
  write_throws := DeviceOps.quiet_throws

/-- A context table with one descriptor, and a level 1 table that maps the 16 MB at
`0x24000000` to themselves. -/
def soundTables : HostBytes := fun i o =>
  if i ≠ 0 then 0
  else if o = 0 then 0x04 else if o = 3 then 0x41
  else if o = 0x490 then 0x02 else if o = 0x491 then 0x40 else if o = 0x493 then 0x0e
  else 0

/-- The MMU is on and its caches are empty. -/
def soundSt : MMUSt Unit :=
  ⟨({ init with control_reg := 1, ctx_tbl_ptr := 0x04000000 } : MMU).flush, ⟨soundTables, ()⟩⟩

/-- Two loads from the descriptor memory, the second one through the data cache. -/
def memoryRun : List (BusOp Unit) :=
  [.access .load .b4 0x24000000 0 true true, .access .load .b4 0x24000004 0 true true]

lemma memoryRun_avoids {s : MMUSt Unit} (hpa : physAddr va 0x0240000e 1 = va)
    (hb : (MCtrl.main false oneDev).get_bank va = some (4, ⟨.RamBank, 0x24000000, 0x800, .Big⟩))
    (hl : (tables (MCtrl.main false oneDev) s).leaf s.mmu.ctx_n va = some (0x0240000e, 1)) :
    BusOp.Avoids (MCtrl.main false oneDev) MCtrl.SoundPage (.access .load .b4 va 0 true true) s := by
  intro _ r hr
  obtain rfl : r = (0x0240000e, 1) := Option.some.inj (hr.symm.trans hl)
  refine ⟨fun h => (by cases h), fun _ => ?_⟩
  dsimp only
  rw [hpa]
  refine ⟨fun h => ?_, fun i b hb' => ?_⟩
  · have hin := (MCtrl.get_bank_some hb).2
    simp only [IMemoryBank.contains, Bool.and_eq_true, decide_eq_true_eq] at hin
    have h1 : (0x24000000 : u32).toNat = 0x24000000 := rfl
    unfold MCtrl.SoundPage at h
    omega
  · rw [hb] at hb'
    cases hb'
    rfl

theorem l0_transparent_memory : Along (BusOp.step (MCtrl.main false oneDev))
    (fun o _ s => o.Transparent (MCtrl.main false oneDev) s) memoryRun soundSt := by
  obtain ⟨a, m, hs, hp, hl⟩ : ∃ a m, BusOp.step (MCtrl.main false oneDev)
      (.access .load .b4 0x24000000 0 true true) soundSt = .ok a ⟨m, soundSt.mem⟩ ∧
      m.ctx_tbl_ptr = soundSt.mmu.ctx_tbl_ptr ∧
      (tables (MCtrl.main false oneDev) ⟨m, soundSt.mem⟩).leaf m.ctx_n 0x24000004
        = some (0x0240000e, 1) := ⟨_, _, rfl, rfl, rfl⟩
  refine l0_transparent false oneDev _ _ memoryRun (by decide)
    ⟨⟨⟨fun _ => ⟨(0x0240000e, 1), rfl⟩, ?_⟩, memoryRun_avoids rfl rfl rfl⟩, ?_⟩
  · intro a' s' h'
    obtain ⟨-, rfl⟩ := EStateM.Result.ok.inj (h'.symm.trans hs)
    exact Or.inl (sameLeaves_of_ptr rfl hp)
  · intro a' s' h'
    obtain ⟨-, rfl⟩ := EStateM.Result.ok.inj (h'.symm.trans hs)
    exact ⟨⟨⟨fun _ => ⟨_, hl⟩, fun _ _ _ => Or.inr trivial⟩, memoryRun_avoids rfl rfl hl⟩,
      fun _ _ _ => trivial⟩

/-- A load from the descriptor memory, then one from a register of the sound device. -/
def soundRun : List (BusOp Unit) :=
  [.access .load .b4 0x24000000 0 true true, .access .load .b4 0x24000804 0 true true]

lemma soundRun_first : ∃ a m, BusOp.step (MCtrl.main false oneDev)
    (.access .load .b4 0x24000000 0 true true) soundSt = .ok a ⟨m, soundSt.mem⟩ ∧
    m.ctx_tbl_ptr = soundSt.mmu.ctx_tbl_ptr ∧
    (tables (MCtrl.main false oneDev) ⟨m, soundSt.mem⟩).leaf m.ctx_n 0x24000804
      = some (0x0240000e, 1) ∧
    ¬ BusOp.Transparent (MCtrl.main false oneDev)
      (.access .load .b4 0x24000804 0 true true) ⟨m, soundSt.mem⟩ := by
  refine ⟨_, _, rfl, rfl, rfl, fun h => ?_⟩
  have := (h rfl).1
  exact absurd this (by decide)

/-- The register is not asked: the access reads the host bytes behind the descriptor memory. -/
theorem sound_page_shows : Along (BusOp.step (MCtrl.main false oneDev))
      (fun o os s => o.Legal (MCtrl.main false oneDev) os s) soundRun soundSt ∧
    ¬ Along (BusOp.step (MCtrl.main false oneDev))
      (fun o _ s => o.Transparent (MCtrl.main false oneDev) s) soundRun soundSt := by
  obtain ⟨a, m, hs, hp, hl, hn⟩ := soundRun_first
  refine ⟨⟨⟨fun _ => ⟨(0x0240000e, 1), rfl⟩, ?_⟩, ?_⟩, fun h => hn (h.2 _ _ hs).1⟩
  · intro a' s' h'
    rw [hs] at h'
    cases h'
    exact Or.inl (sameLeaves_of_ptr rfl hp)
  · intro a' s' h'
    rw [hs] at h'
    cases h'
    exact ⟨⟨fun _ => ⟨_, hl⟩, fun _ _ _ => Or.inr trivial⟩, fun _ _ _ => trivial⟩

end MMU

end SparcEmu
