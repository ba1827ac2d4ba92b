import SparcEmu.Access

/-!
Accesses on a memory map of RAM banks: what they leave in memory, when they throw, and why
the two words of an aligned pair are transferred or refused together.
-/

namespace SparcEmu

open Lib.Effect Lib.Bits

variable {pa : u32} {rw : Intent} {va : u32} {sup rep : Bool}

namespace MMU

variable {δ : Type} {mc : MCtrl δ}

/-! ### The branches of an access -/

variable {res : MMUTranslateResult} {s' : MMUSt δ}

section Branches

variable {rw : Intent} {size : AccessSize} {va v pa : u32} {sup rep on : Bool} {s : MMUSt δ}

lemma MemAccess_hit {p : HostPtr} (he : s.mmu.get_enabled = true)
    (hp : s.mmu.l0Hit rw va sup = some p) :
    MemAccess mc rw size va v sup rep s = ptrAccess rw size p v s := by
  unfold MemAccess
  rw [getMMU_bind, if_pos he, hp]

lemma MemAccess_miss (he : s.mmu.get_enabled = true) (hp : s.mmu.l0Hit rw va sup = none)
    (ht : translate_va mc va sup rw rep s = .ok res s') :
    MemAccess mc rw size va v sup rep s =
      if res.ok then busAccess mc rw size va v res.pa sup rep true s'
      else .ok (-(if rep then (s'.mmu.fault_status_reg >>> 2) &&& 7 else 1), v) s' := by
  unfold MemAccess
  rw [getMMU_bind, if_pos he, hp]
  dsimp only
  rw [bind_ok ht]
  split_ifs <;> rfl

lemma MemAccess_throws {e : HostError} (he : s.mmu.get_enabled = true)
    (hp : s.mmu.l0Hit rw va sup = none) (ht : translate_va mc va sup rw rep s = .error e s') :
    MemAccess mc rw size va v sup rep s = .error e s' := by
  unfold MemAccess
  rw [getMMU_bind, if_pos he, hp]
  dsimp only
  rw [bind_error ht]

lemma MemAccess_off (he : s.mmu.get_enabled = false) :
    MemAccess mc rw size va v sup rep s = busAccess mc rw size va v va sup rep false s := by
  unfold MemAccess
  rw [getMMU_bind, if_neg (by simp [he])]

/-- The MMU but for its fault registers. -/
def FaultOnly (m m' : MMU) : Prop := m' = m ∨ ∃ f, m' = m.set_fault f

lemma busAccess_none (hb : mc.get_bank pa = none) (rw : Intent) (size : AccessSize) (va v : u32)
    (sup rep on : Bool) (s : MMUSt δ) :
    ∃ m, FaultOnly s.mmu m ∧
      busAccess mc rw size va v pa sup rep on s = .ok (-5, v) ⟨m, s.mem⟩ := by
  unfold busAccess
  rw [hb]
  dsimp only [bus_fault]
  split_ifs
  · exact ⟨_, Or.inr ⟨_, rfl⟩, rfl⟩
  · exact ⟨_, Or.inl rfl, rfl⟩

lemma ptrAccess_ok (p : HostPtr) (rw : Intent) (size : AccessSize) (v : u32) (s : MMUSt δ) :
    ∃ w mem, ptrAccess rw size p v s = .ok (0, w) ⟨s.mmu, mem⟩ ∧
    (rw ≠ .store → mem = s.mem) := by
  cases rw
  · exact ⟨_, _, rfl, fun _ => rfl⟩
  · exact ⟨_, _, rfl, fun h => absurd rfl h⟩
  · exact ⟨_, _, rfl, fun _ => rfl⟩

end Branches

/-! ### RAM banks -/

section Ram

variable (hram : mc.RamOnly)

include hram

variable {i : Nat} {b : IMemoryBank}

lemma bankRead_ram (hb : mc.get_bank pa = some (i, b)) (size : AccessSize) (m : Mem δ) :
    mc.bankRead i b size pa m = .ok (memRead m.bytes b i pa size, m) := by
  unfold MCtrl.bankRead
  rw [hram b (MCtrl.get_bank_some hb).1]

lemma bankWrite_ram (hb : mc.get_bank pa = some (i, b)) (size : AccessSize) (v : u32) (m : Mem δ) :
    mc.bankWrite i b size pa v m = .ok { m with bytes := memWrite m.bytes b i pa v size } := by
  unfold MCtrl.bankWrite
  rw [hram b (MCtrl.get_bank_some hb).1]

lemma get_ptr_ram (hb : mc.get_bank pa = some (i, b)) : b.get_ptr = .ok true := by
  unfold IMemoryBank.get_ptr
  rw [hram b (MCtrl.get_bank_some hb).1]

lemma fixesMem_bypassRead4 (pa : u32) : Fixes (fun s => s.mem) (MemAccessBypassRead4 mc pa) := by
  intro s
  obtain ⟨w, hw⟩ := hram.wordAt s.mem.bytes pa
  rw [bypassRead4_of_wordAt hw]
  rfl

omit hram in
lemma unseen_mem : Unseen fun s : MMUSt δ => s.mem where
  tlb _ _ _ _ := rfl
  fault _ _ _ := rfl
  l0 _ _ _ _ _ := rfl

lemma fixesMem_translate_va (va : u32) (sup : Bool) (rw : Intent) (rep : Bool) :
    Fixes (fun s => s.mem) (translate_va mc va sup rw rep) :=
  fixes_translate_va unseen_mem.toUnseenXlat (fixesMem_bypassRead4 hram) va sup rw rep

lemma bankAccess_ram (hb : mc.get_bank pa = some (i, b)) (rw : Intent) (size : AccessSize)
    (v : u32) (s : MMUSt δ) :
    ∃ w mem, bankAccess mc rw size i b pa v s = .ok (0, w) ⟨s.mmu, mem⟩ ∧
      (rw ≠ .store → mem = s.mem) := by
  have hrd : onMem (mc.bankRead i b size pa) s = .ok (memRead s.mem.bytes b i pa size) s := by
    simp only [onMem, bankRead_ram hram hb]
  have hwr : onMem' (mc.bankWrite i b size pa v) s = .ok () { s with mem :=
      { s.mem with bytes := memWrite s.mem.bytes b i pa v size } } := by
    simp only [onMem', onMem, bankWrite_ram hram hb, Except.map]
  have hld : bankAccess mc .load size i b pa v s = .ok (0, memRead s.mem.bytes b i pa size) s := by
    unfold bankAccess; dsimp only; rw [bind_ok hrd]; rfl
  cases rw
  · exact ⟨_, _, hld, fun _ => rfl⟩
  · exact ⟨v, _, by unfold bankAccess; dsimp only; rw [bind_ok hwr]; rfl, fun h => absurd rfl h⟩
  · exact ⟨_, _, hld, fun _ => rfl⟩

lemma busAccess_ram (hb : mc.get_bank pa = some (i, b)) (rw : Intent) (size : AccessSize)
    (va v : u32) (sup rep on : Bool) (s : MMUSt δ) :
    ∃ w mem, busAccess mc rw size va v pa sup rep on s =
      .ok (0, w) ⟨if on then s.mmu.l0Fill rw va sup i b pa else s.mmu, mem⟩ ∧
      (rw ≠ .store → mem = s.mem) := by
  unfold busAccess
  rw [hb]
  dsimp only
  rw [get_ptr_ram hram hb]
  cases on
  · split
    · exact bankAccess_ram hram hb rw size v s
    · exact bankAccess_ram hram hb rw size v s
  · exact ptrAccess_ok _ rw size v { s with mmu := s.mmu.l0Fill rw va sup i b pa }

lemma fixesMem_load (hrw : rw ≠ .store) (size : AccessSize) (va v : u32) (sup rep : Bool) :
    Fixes (fun s => s.mem) (MemAccess mc rw size va v sup rep) := by
  refine fixes_MemAccess unseen_mem (fixesMem_bypassRead4 hram) (fun p w s => ?_)
    (fun i b pa w hb s => ?_) va v sup rep
  · obtain ⟨_, mem, h, hm⟩ := ptrAccess_ok p rw size w s
    rw [h]; exact hm hrw
  · obtain ⟨_, mem, h, hm⟩ := bankAccess_ram hram hb rw size w s
    rw [h]; exact hm hrw

end Ram

/-! ### The second word of a pair -/

lemma l0Hit_page (m : MMU) {a b : u32} (h : SamePage a b) (rw : Intent) (sup : Bool) :
    (m.l0Hit rw a sup).isSome = (m.l0Hit rw b sup).isSome := by
  have h' : a >>> 12 = b >>> 12 := h
  unfold l0Hit
  dsimp only
  rw [h']
  split_ifs <;> rfl

lemma l0Fill_hit (m : MMU) (rw : Intent) (va : u32) (sup : Bool) (i : Nat) (b : IMemoryBank)
    (pa : u32) : ((m.l0Fill rw va sup i b pa).l0Hit rw va sup).isSome = true := by
  cases rw <;> simp [l0Fill, l0Hit, l0, setL0]

/-- A translation result for an entry that was found; `c` is the verdict on the permissions. -/
def xres (c : Bool) (va : u32) (p : u32 × u8) : MMUTranslateResult :=
  if c then ⟨true, physAddr va p.1 p.2, p.2, p.1⟩ else ⟨false, 0, p.2, 0⟩

lemma hitOutcome_eq (va : u32) (rw : Intent) (sup : Bool) (p : u32 × u8) :
    hitOutcome va rw sup p = xres (permOk p.1 rw sup) va p := rfl

lemma outcome_eq (va : u32) (rw : Intent) (sup : Bool) (r : u32 × u8) :
    outcome va rw sup r = xres (decide (permFault r.1 rw sup r.2 = 0)) va r := by
  unfold outcome xres
  simp only [decide_eq_true_eq]

structure SameXlat (rw : Intent) (s s' : MMUSt δ) : Prop where
  tlb : s'.mmu.tlb rw = s.mmu.tlb rw
  ctx : s'.mmu.ctx_n = s.mmu.ctx_n
  ptr : s'.mmu.ctx_tbl_ptr = s.mmu.ctx_tbl_ptr
  mem : s'.mem = s.mem

lemma SameXlat.tables {s : MMUSt δ} (h : SameXlat rw s s') :
    MMU.tables mc s' = MMU.tables mc s := by
  unfold MMU.tables; rw [h.ptr, h.mem]

@[simp] lemma reported_tlb (m : MMU) (va : u32) (rw rw' : Intent) (sup : Bool) (r : u32 × u8)
    (rep : Bool) : (m.reported va rw' sup r rep).tlb rw = m.tlb rw := by
  unfold reported; split_ifs <;> cases rw <;> rfl

@[simp] lemma reported_priv (m : MMU) (va : u32) (rw : Intent) (sup : Bool) (r : u32 × u8)
    (rep : Bool) : (m.reported va rw sup r rep).priv = m.priv := by
  unfold reported; split_ifs <;> rfl

@[simp] lemma priv_setTlb (m : MMU) (t : TLB) (rw : Intent) : (m.setTlb t rw).priv = m.priv := by
  cases rw <;> rfl

variable {r : u32 × u8}

/-- A translation that returned has found an entry `p` with a verdict `c`, and the state it
leaves finds the same again in the same page. -/
lemma translate_va_finds {s s₁ : MMUSt δ} (hl : (MMU.tables mc s).leaf s.mmu.ctx_n va = some r)
    (h : translate_va mc va sup rw rep s = .ok res s₁) :
    ∃ c p, res = xres c va p ∧ s₁.mmu.priv = s.mmu.priv ∧ s₁.mem = s.mem ∧
      ((∃ t, (s₁.mmu.tlb rw).lookup s.mmu.ctx_n va = (some p, t) ∧ permOk p.1 rw sup = c) ∨
       (s.mmu.ctx_n ≤ 255 ∧ (s₁.mmu.tlb rw).lookup s.mmu.ctx_n va = (none, s₁.mmu.tlb rw) ∧
         p = r ∧ r.1 &&& 3 ≠ 2 ∧ decide (permFault r.1 rw sup r.2 = 0) = c)) := by
  rcases hf : (s.mmu.tlb rw).lookup s.mmu.ctx_n va with ⟨_ | p, t⟩
  · have hc : s.mmu.ctx_n ≤ 255 := by
      by_contra hc
      have hlk : tlbLookup rw s.mmu.ctx_n va s = .ok none { s with mmu := s.mmu.setTlb t rw } := by
        simp only [tlbLookup, hf]
      unfold translate_va at h
      rw [getMMU_bind, bind_ok hlk] at h
      dsimp only [walkMiss] at h
      rw [if_pos (by simpa using hc)] at h
      cases h
    obtain rfl := TLB.lookup_none hf
    rw [translate_va_miss hc hf hl] at h
    cases hi : (s.mmu.tlb rw).insert s.mmu.ctx_n va r.2 r.1 with
    | error e => rw [hi] at h; cases h
    | ok t' =>
      rw [hi] at h
      cases h
      refine ⟨_, r, outcome_eq .., by simp, rfl, ?_⟩
      by_cases h2 : r.1 &&& 3 = 2
      · refine Or.inl ⟨t', ?_, ?_⟩
        · simpa using TLB.lookup_insert h2 hi
        · exact Bool.eq_iff_iff.mpr (by simpa using permOk_iff h2 rw sup r.2)
      · have : t' = s.mmu.tlb rw := by
          unfold TLB.insert at hi
          rw [if_neg (by simpa [TLB.is_valid] using h2)] at hi
          exact (Except.ok.inj hi).symm
        subst this
        exact Or.inr ⟨hc, by simpa using hf, rfl, h2, rfl⟩
  · rw [translate_va_hit hf] at h
    cases h
    have hag := TLB.lookup_again (show ((s.mmu.tlb rw).lookup s.mmu.ctx_n va).1 = some p by rw [hf])
    rw [hf] at hag
    refine ⟨_, p, hitOutcome_eq .., ?_, rfl, Or.inl ⟨t, ?_, rfl⟩⟩
    · split_ifs <;> simp
    · split_ifs <;> simpa using hag

/-- **Again**: after a translation that returned, another one in the same page returns too,
with the same entry and the same verdict. -/
theorem translate_va_again {s s₁ : MMUSt δ} {va' : u32}
    (hl : (MMU.tables mc s).leaf s.mmu.ctx_n va = some r)
    (h : translate_va mc va sup rw rep s = .ok res s₁) (hp : SamePage va' va)
    (hs : SameXlat rw s₁ s') :
    ∃ c p m, res = xres c va p ∧
      translate_va mc va' sup rw rep s' = .ok (xres c va' p) ⟨m, s'.mem⟩ := by
  obtain ⟨c, p, hres, hpriv, hmem, hcase⟩ := translate_va_finds hl h
  obtain ⟨hctx, hptr, -⟩ := priv_ctx hpriv
  refine ⟨c, p, ?_⟩
  have hlk : (s'.mmu.tlb rw).lookup s'.mmu.ctx_n va' = (s₁.mmu.tlb rw).lookup s.mmu.ctx_n va := by
    rw [hs.tlb, hs.ctx, hctx, TLB.lookup_page _ hp]
  rcases hcase with ⟨t, ht, hc⟩ | ⟨hc, ht, rfl, h2, hv⟩
  · exact ⟨_, hres, by rw [translate_va_hit (hlk.trans ht), hitOutcome_eq, hc]⟩
  · have hT : MMU.tables mc s' = MMU.tables mc s := by
      rw [hs.tables]; unfold MMU.tables; rw [hptr, hmem]
    have hl' : (MMU.tables mc s').leaf s'.mmu.ctx_n va' = some p := by
      rw [hT, hs.ctx, hctx, hp.leaf]; exact hl
    have hi : (s'.mmu.tlb rw).insert s'.mmu.ctx_n va' p.2 p.1 = .ok (s'.mmu.tlb rw) := by
      unfold TLB.insert; rw [if_neg (by simpa [TLB.is_valid] using h2)]
    have htr : translate_va mc va' sup rw rep s' = _ := translate_va_miss
      (by rw [hs.ctx, hctx]; exact hc) (by rw [hlk, ht, hs.tlb]) hl'
    rw [hi, outcome_eq, hv] at htr
    exact ⟨_, hres, htr⟩

lemma l0Hit_setTlb (m : MMU) (t : TLB) (rw : Intent) : (m.setTlb t rw).l0Hit = m.l0Hit := by
  funext rw' va sup
  cases rw <;> cases rw' <;> rfl

lemma fixes_l0Hit (va : u32) (sup : Bool) (rw : Intent) (rep : Bool) :
    Fixes (fun s => s.mmu.l0Hit) (translate_va mc va sup rw rep) := by
  refine fixes_translate_va ⟨fun m _ t rw => l0Hit_setTlb m t rw, fun m _ x => ?_⟩
    (fun pa s => ?_) va sup rw rep
  · funext rw' va sup; cases rw' <;> rfl
  · unfold MemAccessBypassRead4 onMem; split <;> rfl

lemma FaultOnly.l0Hit {m m' : MMU} (h : FaultOnly m m') : m'.l0Hit = m.l0Hit := by
  obtain rfl | ⟨f, rfl⟩ := h
  · rfl
  · funext rw va sup; cases rw <;> rfl

lemma FaultOnly.sameXlat {m : MMU} {s : MMUSt δ} (h : FaultOnly s.mmu m) (rw : Intent) :
    SameXlat rw s ⟨m, s.mem⟩ := by
  obtain rfl | ⟨f, rfl⟩ := h
  · exact ⟨rfl, rfl, rfl, rfl⟩
  · exact ⟨by cases rw <;> rfl, rfl, rfl, rfl⟩

lemma physAddr_pair (ha : va &&& 7 = 0) (p : u32 × u8) :
    physAddr (va + 4) p.1 p.2 >>> 3 = physAddr va p.1 p.2 >>> 3 := by
  have h8 : va.toNat % 8 = 0 := by
    have := congrArg BitVec.toNat ha
    rwa [show (7 : u32) = low 32 3 from rfl, toNat_low (by decide)] at this
  have hpage := toNat_shift (SamePage.physAddr (samePage_add_four ha) p.1 p.2)
  have h1 := congrArg BitVec.toNat (physAddr_low va p.1 p.2)
  have h2 := congrArg BitVec.toNat (physAddr_low (va + 4) p.1 p.2)
  rw [show (0xfff : u32) = low 32 12 from rfl, toNat_low (by decide), toNat_low (by decide)] at h1 h2
  rw [BitVec.toNat_add, show BitVec.toNat (4 : u32) = 4 from rfl] at h2
  apply BitVec.eq_of_toNat_eq
  simp only [BitVec.toNat_ushiftRight, Nat.shiftRight_eq_div_pow]
  omega

lemma add_four_shift (ha : va &&& 7 = 0) : (va + 4) >>> 3 = va >>> 3 := by
  have h8 : va.toNat % 8 = 0 := by
    have := congrArg BitVec.toNat ha
    rwa [show (7 : u32) = low 32 3 from rfl, toNat_low (by decide)] at this
  apply BitVec.eq_of_toNat_eq
  simp only [BitVec.toNat_ushiftRight, Nat.shiftRight_eq_div_pow, BitVec.toNat_add,
    show BitVec.toNat (4 : u32) = 4 from rfl]
  omega

section Pair

variable (hram : mc.RamOnly) (h8 : mc.Aligned8) {rw : Intent} {va v₀ : u32} {sup rep : Bool}
  {s s₁ : MMUSt δ} {r₀ : cint × u32} (ha : va &&& 7 = 0)

lemma MemAccess_cached {va' : u32} (hp : SamePage va' va) (he : s.mmu.get_enabled = true)
    (hl0 : (s.mmu.l0Hit rw va sup).isSome = true) (mc : MCtrl δ) (v : u32) (rep : Bool) :
    ∃ r s', MemAccess mc rw .b4 va' v sup rep s = .ok r s' ∧ r.1 = 0 := by
  rw [← l0Hit_page s.mmu hp] at hl0
  obtain ⟨p, hp'⟩ := Option.isSome_iff_exists.mp hl0
  obtain ⟨w, mem, h, -⟩ := ptrAccess_ok p rw .b4 v s
  exact ⟨_, _, (MemAccess_hit he hp').trans h, rfl⟩

include hram h8 ha in
/-- **Pairs**: when the access to the first word returns, so does the one to the second, and
either both succeed or neither has changed memory. -/
theorem second_word (h : MemAccess mc rw .b4 va v₀ sup rep s = .ok r₀ s₁) (v₁ : u32) :
    ∃ r₁ s₂, MemAccess mc rw .b4 (va + 4) v₁ sup rep s₁ = .ok r₁ s₂ ∧
      ((r₀.1 = 0 ∧ r₁.1 = 0) ∨ s₂.mem = s.mem) := by
  have hpage : SamePage (va + 4) va := samePage_add_four ha
  have hen : s₁.mmu.get_enabled = s.mmu.get_enabled := by
    have := (priv_ctx ((keepsPriv_MemAccess _ _ _ _ _ _).ok h)).2.2
    unfold get_enabled; rw [this]
  cases he : s.mmu.get_enabled with
  | false =>
    -- Without translation both words have the same bank, or none.
    rw [MemAccess_off he] at h
    rw [MemAccess_off (by rw [hen, he])]
    have hb' := h8.get_bank (add_four_shift ha)
    rcases hb : mc.get_bank va with _ | ⟨i, b⟩
    · obtain ⟨m, -, h₀⟩ := busAccess_none hb rw .b4 va v₀ sup rep false s
      rw [h₀] at h
      cases h
      obtain ⟨m', -, h₁⟩ := busAccess_none (hb'.trans hb) rw .b4 (va + 4) v₁ sup rep false ⟨m, s.mem⟩
      exact ⟨_, _, h₁, Or.inr rfl⟩
    · obtain ⟨w, mem, h₀, -⟩ := busAccess_ram hram hb rw .b4 va v₀ sup rep false s
      rw [h₀] at h
      cases h
      obtain ⟨w', mem', h₁, -⟩ := busAccess_ram hram (hb'.trans hb) rw .b4 (va + 4) v₁ sup rep false
        ⟨s.mmu, mem⟩
      exact ⟨_, _, h₁, Or.inl ⟨rfl, rfl⟩⟩
  | true =>
    have he₁ : s₁.mmu.get_enabled = true := by rw [hen, he]
    rcases hl0 : s.mmu.l0Hit rw va sup with _ | p
    · rcases ht : translate_va mc va sup rw rep s with ⟨res, s'⟩ | ⟨e, s'⟩
      · have hmem : s'.mem = s.mem := (fixesMem_translate_va hram _ _ _ _).ok ht
        have hl0' : s'.mmu.l0Hit = s.mmu.l0Hit := (fixes_l0Hit _ _ _ _).ok ht
        obtain ⟨r, hr⟩ := hram.leaf s s.mmu.ctx_n va
        rw [MemAccess_miss he hl0 ht] at h
        -- The first access failed: the second finds the same entry and fails too.
        have fails : FaultOnly s'.mmu s₁.mmu → s₁.mem = s'.mem →
            (res.ok = true → mc.get_bank res.pa = none) →
            ∃ r₁ s₂, MemAccess mc rw .b4 (va + 4) v₁ sup rep s₁ = .ok r₁ s₂ ∧ s₂.mem = s.mem := by
          intro hfo hm hno
          have hsx : SameXlat rw s' ⟨s₁.mmu, s'.mem⟩ := hfo.sameXlat rw
          rw [← hm] at hsx
          obtain ⟨c, p, m, hres, htr⟩ := translate_va_again hr ht hpage hsx
          have hmiss : s₁.mmu.l0Hit rw (va + 4) sup = none := by
            rw [hfo.l0Hit, hl0', ← Option.not_isSome_iff_eq_none, l0Hit_page _ hpage, hl0]; simp
          rw [MemAccess_miss he₁ hmiss htr]
          cases c with
          | false => exact ⟨_, _, rfl, hm.trans hmem⟩
          | true =>
            have hno' := hno (by rw [hres]; rfl)
            rw [hres] at hno'
            have hpa : mc.get_bank (xres true (va + 4) p).pa = none :=
              (h8.get_bank (physAddr_pair ha p)).trans hno'
            obtain ⟨m', -, hb⟩ := busAccess_none hpa rw .b4 (va + 4) v₁ sup rep true ⟨m, s₁.mem⟩
            exact ⟨_, _, hb, hm.trans hmem⟩
        split_ifs at h with hok
        · rcases hb : mc.get_bank res.pa with _ | ⟨i, b⟩
          · obtain ⟨m, hfo, h₀⟩ := busAccess_none hb rw .b4 va v₀ sup rep true s'
            rw [h₀] at h
            cases h
            obtain ⟨r₁, s₂, h₁, h₂⟩ := fails hfo rfl fun _ => hb
            exact ⟨r₁, s₂, h₁, Or.inr h₂⟩
          · obtain ⟨w, mem, h₀, -⟩ := busAccess_ram hram hb rw .b4 va v₀ sup rep true s'
            rw [h₀] at h
            cases h
            obtain ⟨r₁, s₂, h₁, h₂⟩ := MemAccess_cached
              (s := ⟨s'.mmu.l0Fill rw va sup i b res.pa, mem⟩) hpage he₁ (l0Fill_hit ..) mc v₁ rep
            exact ⟨r₁, s₂, h₁, Or.inl ⟨rfl, h₂⟩⟩
        all_goals
          cases h
          obtain ⟨r₁, s₂, h₁, h₂⟩ := fails (Or.inl rfl) rfl fun h => absurd h hok
          exact ⟨r₁, s₂, h₁, Or.inr h₂⟩
      · rw [MemAccess_throws he hl0 ht] at h
        cases h
    · obtain ⟨w, mem, h₀, -⟩ := ptrAccess_ok p rw .b4 v₀ s
      rw [MemAccess_hit he hl0, h₀] at h
      cases h
      obtain ⟨r₁, s₂, h₁, h₂⟩ := MemAccess_cached
        (s := ⟨s.mmu, mem⟩) hpage he (by rw [hl0]; rfl) mc v₁ rep
      exact ⟨r₁, s₂, h₁, Or.inl ⟨rfl, h₂⟩⟩

end Pair

/-! ### Accesses that fail leave memory alone -/

/-- The context exists and its entry in the context table is no page table entry: then no
translation throws. -/
def XlatSafe (mc : MCtrl δ) (s : MMUSt δ) : Prop :=
  s.mmu.ctx_n ≤ 255 ∧
    ∀ w, (tables mc s).word ((tables mc s).root s.mmu.ctx_n) = some w → w &&& 3 ≠ 2

lemma XlatSafe.rootOk {s : MMUSt δ} (h : XlatSafe mc s)
    (hl : (tables mc s).leaf s.mmu.ctx_n va = some r) : RootOk r := by
  intro h2 h0
  obtain ⟨l0, hw, ⟨-, rfl⟩ | ⟨-, l1, -, ⟨-, rfl⟩ | ⟨-, l2, -, ⟨-, rfl⟩ | ⟨-, l3, -, rfl⟩⟩⟩⟩ :=
    Tables.leaf_cases hl
  · exact h.2 l0 hw h2
  all_goals
    dsimp only at h0
    exact absurd h0 (by decide)

/-- The operation throws only in an unsafe state, and when it returns without `success`,
memory is as before. -/
def Clean {α : Type} (mc : MCtrl δ) (success : α → Prop) (op : MmuM δ α) : Prop :=
  ∀ s, match op s with
    | .ok r s' => success r ∨ s'.mem = s.mem
    | .error _ _ => ¬ XlatSafe mc s

section Clean

variable (hram : mc.RamOnly)

include hram

lemma translate_va_safe {s : MMUSt δ} {e : HostError}
    (h : translate_va mc va sup rw rep s = .error e s') : ¬ XlatSafe mc s := by
  intro hs
  obtain ⟨r, hr⟩ := hram.leaf s s.mmu.ctx_n va
  rcases hf : (s.mmu.tlb rw).lookup s.mmu.ctx_n va with ⟨_ | p, t⟩
  · obtain rfl := TLB.lookup_none hf
    obtain ⟨t', ht⟩ := insert_of_leaf hr (hs.rootOk hr) (s.mmu.tlb rw)
    rw [translate_va_miss hs.1 hf hr, ht] at h
    cases h
  · rw [translate_va_hit hf] at h
    cases h

lemma clean_onLoad {α : Type} {success : α → Prop} {fail : α}
    {k : Bool → MMUTranslateResult → MmuM δ α} {off : MmuM δ α}
    (hk : ∀ rep res s, ∃ r s', k rep res s = .ok r s' ∧ (success r ∨ s'.mem = s.mem))
    (ho : ∀ s, ∃ r s', off s = .ok r s' ∧ (success r ∨ s'.mem = s.mem)) :
    Clean mc success (onLoad mc va sup fail k off) := by
  intro s
  unfold onLoad
  rw [getMMU_bind]
  by_cases he : s.mmu.get_enabled = true
  · rw [if_pos he]
    rcases ht : translate_va mc va sup .load (!s.mmu.get_no_fault) s with ⟨res, s₁⟩ | ⟨e, s₁⟩
    · have hm : s₁.mem = s.mem := (fixesMem_translate_va hram _ _ _ _).ok ht
      rw [bind_ok ht]
      by_cases hok : res.ok = true
      · obtain ⟨r, s', h, hr⟩ := hk (!s.mmu.get_no_fault) res s₁
        rw [if_pos hok, h]
        exact hr.imp id fun h => h.trans hm
      · rw [if_neg hok]
        exact Or.inr hm
    · rw [bind_error ht]
      exact translate_va_safe hram ht
  · obtain ⟨r, s', h, hr⟩ := ho s
    rw [if_neg he, h]
    exact hr

lemma busAccess_clean (rw : Intent) (size : AccessSize) (va v pa : u32) (sup rep on : Bool)
    (s : MMUSt δ) : ∃ r s', busAccess mc rw size va v pa sup rep on s = .ok r s' ∧
      (r.1 = 0 ∨ s'.mem = s.mem) := by
  rcases hb : mc.get_bank pa with _ | ⟨i, b⟩
  · obtain ⟨m, -, h⟩ := busAccess_none hb rw size va v sup rep on s
    exact ⟨_, _, h, Or.inr rfl⟩
  · obtain ⟨w, mem, h, -⟩ := busAccess_ram hram hb rw size va v sup rep on s
    exact ⟨_, _, h, Or.inl rfl⟩

lemma clean_MemAccess (rw : Intent) (size : AccessSize) (va v : u32) (sup rep : Bool) :
    Clean mc (fun r => r.1 = 0) (MemAccess mc rw size va v sup rep) := by
  intro s
  cases he : s.mmu.get_enabled with
  | false =>
    obtain ⟨r, s', h, hr⟩ := busAccess_clean hram rw size va v va sup rep false s
    rw [MemAccess_off he, h]
    exact hr
  | true =>
    rcases hl0 : s.mmu.l0Hit rw va sup with _ | p
    · rcases ht : translate_va mc va sup rw rep s with ⟨res, s₁⟩ | ⟨e, s₁⟩
      · have hm : s₁.mem = s.mem := (fixesMem_translate_va hram _ _ _ _).ok ht
        rw [MemAccess_miss he hl0 ht]
        by_cases hok : res.ok = true
        · obtain ⟨r, s', h, hr⟩ := busAccess_clean hram rw size va v res.pa sup rep true s₁
          rw [if_pos hok, h]
          exact hr.imp id fun h => h.trans hm
        · rw [if_neg hok]
          exact Or.inr hm
      · rw [MemAccess_throws he hl0 ht]
        exact translate_va_safe hram ht
    · obtain ⟨w, mem, h, -⟩ := ptrAccess_ok p rw size v s
      rw [MemAccess_hit he hl0, h]
      exact Or.inl rfl

lemma swapAt_clean (pa v : u32) (s : MMUSt δ) :
    ∃ r s', swapAt mc pa v s = .ok r s' ∧ (r.ok = true ∨ s'.mem = s.mem) := by
  unfold swapAt
  rcases hb : mc.get_bank pa with _ | ⟨i, b⟩
  · exact ⟨_, _, rfl, Or.inr rfl⟩
  · dsimp only
    have hrd : onMem (mc.bankRead i b .b4 pa) s = .ok (memRead s.mem.bytes b i pa .b4) s := by
      simp only [onMem, bankRead_ram hram hb]
    have hwr : onMem' (mc.bankWrite i b .b4 pa v) s = .ok () { s with mem :=
        { s.mem with bytes := memWrite s.mem.bytes b i pa v .b4 } } := by
      simp only [onMem', onMem, bankWrite_ram hram hb, Except.map]
    rw [bind_ok hrd, bind_ok hwr]
    exact ⟨_, _, rfl, Or.inl rfl⟩

lemma clean_atomic_swap32 (va : u32) (sup : Bool) (v : u32) :
    Clean mc (fun r => r.ok = true) (atomic_swap32 mc va sup v) := by
  rw [atomic_swap32_onLoad]
  refine clean_onLoad hram (fun rep res s => ?_) (swapAt_clean hram va v)
  rw [bind_ok (check_perms_eq va .store sup (res.pte, res.level) _ s)]
  split_ifs
  · exact ⟨_, _, rfl, Or.inr rfl⟩
  · exact swapAt_clean hram _ _ _

lemma casAt_clean (pa e v : u32) {perm : MmuM δ u8}
    (hperm : ∀ s, ∃ ft m, perm s = .ok ft ⟨m, s.mem⟩) (s : MMUSt δ) :
    ∃ r s', casAt mc pa e v perm s = .ok r s' ∧ (r.ok = true ∨ s'.mem = s.mem) := by
  unfold casAt
  rcases hb : mc.get_bank pa with _ | ⟨i, b⟩
  · exact ⟨_, _, rfl, Or.inr rfl⟩
  · dsimp only
    have hrd : onMem (mc.bankRead i b .b4 pa) s = .ok (memRead s.mem.bytes b i pa .b4) s := by
      simp only [onMem, bankRead_ram hram hb]
    rw [bind_ok hrd]
    split_ifs
    · obtain ⟨ft, m, hp⟩ := hperm s
      have hwr : onMem' (mc.bankWrite i b .b4 pa v) ⟨m, s.mem⟩ = .ok () ⟨m,
          { s.mem with bytes := memWrite s.mem.bytes b i pa v .b4 }⟩ := by
        simp only [onMem', onMem, bankWrite_ram hram hb, Except.map]
      rw [bind_ok hp]
      split_ifs
      · exact ⟨_, _, rfl, Or.inr rfl⟩
      · rw [bind_ok hwr]
        exact ⟨_, _, rfl, Or.inl rfl⟩
    · exact ⟨_, _, rfl, Or.inl rfl⟩

lemma clean_atomic_casa32 (va : u32) (sup : Bool) (e v : u32) :
    Clean mc (fun r => r.ok = true) (atomic_casa32 mc va sup e v) := by
  rw [atomic_casa32_onLoad]
  refine clean_onLoad hram (fun rep res => casAt_clean hram _ _ _ fun s => ?_)
    (casAt_clean hram va e v fun s => ⟨0, s.mmu, rfl⟩)
  exact ⟨_, _, check_perms_eq va .store sup (res.pte, res.level) _ s⟩

lemma atomic_ldstub8_clean (pa : u32) (s : MMUSt δ) :
    ∃ r s', onMem (mc.atomic_ldstub8 pa) s = .ok r s' ∧ (r ≠ none ∨ s'.mem = s.mem) := by
  unfold onMem MCtrl.atomic_ldstub8
  rcases hb : mc.get_bank pa with _ | ⟨i, b⟩
  · exact ⟨_, _, rfl, Or.inr rfl⟩
  · dsimp only
    rw [hram b (MCtrl.get_bank_some hb).1]
    exact ⟨_, _, rfl, Or.inl (by simp)⟩

lemma clean_ldstub (va : u32) (sup : Bool) : Clean mc (fun r => r ≠ none) (ldstub mc va sup) := by
  rw [ldstub_onLoad]
  exact clean_onLoad hram (fun _ res => atomic_ldstub8_clean hram res.pa)
    (atomic_ldstub8_clean hram va)

lemma clean_pairAccess (h8 : mc.Aligned8) (rw : Intent) (ha : va &&& 7 = 0) (v₀ v₁ : u32)
    (sup : Bool) : Clean mc (fun r => r.1.1 = 0 ∧ r.2.1 = 0) (pairAccess mc rw va v₀ v₁ sup) := by
  intro s
  unfold pairAccess
  have h₀ := clean_MemAccess hram rw .b4 va v₀ sup true s
  rcases h : MemAccess mc rw .b4 va v₀ sup true s with ⟨r₀, s₁⟩ | ⟨e, s₁⟩ <;> rw [h] at h₀
  · obtain ⟨r₁, s₂, h₁, hr⟩ := second_word hram h8 ha h v₁
    rw [bind_ok h, bind_ok h₁]
    exact hr
  · rw [bind_error h]
    exact h₀

end Clean

end MMU

end SparcEmu
