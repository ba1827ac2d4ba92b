import SparcEmu.L0Coherence

/-!
What an access with the MMU on is going to do, as a function of the MMU and the leaf of the address
alone: throw, fail with a code, go through a host pointer, or ask a bank. Memory and devices come in
only when the plan is carried out.
-/

namespace SparcEmu

open Lib.Effect Lib.Bits

variable {va : u32} {r : u32 × u8} {rw : Intent} {sup rep : Bool} {m : MMU}

namespace MMU

variable {δ : Type} {mc : MCtrl δ}

/-! ### Translation -/

/-- The translation of an address whose leaf is `r`. -/
def xlat (m : MMU) (r : u32 × u8) (va : u32) (sup : Bool) (rw : Intent) (rep : Bool) :
    Except HostError (MMUTranslateResult × MMU) :=
  match (m.tlb rw).lookup m.ctx_n va with
  | (some p, t) =>
    .ok (hitOutcome va rw sup p, if permOk p.1 rw sup then m.setTlb t rw
      else (m.setTlb t rw).reported va rw sup p rep)
  | (none, _) =>
    if 255 < m.ctx_n then .error (.runtime_error "ctx_n > 255 error")
    else
      match (m.tlb rw).insert m.ctx_n va r.2 r.1 with
      | .ok t => .ok (outcome va rw sup r, (m.setTlb t rw).reported va rw sup r rep)
      | .error e => .error e

lemma translate_va_xlat {s : MMUSt δ} (hl : (tables mc s).leaf s.mmu.ctx_n va = some r)
    (sup : Bool) (rw : Intent) (rep : Bool) :
    translate_va mc va sup rw rep s =
      match xlat s.mmu r va sup rw rep with
      | .ok (res, m) => .ok res ⟨m, s.mem⟩
      | .error e => .error e s := by
  unfold xlat
  rcases hf : (s.mmu.tlb rw).lookup s.mmu.ctx_n va with ⟨_ | p, t⟩
  · obtain rfl := TLB.lookup_none hf
    dsimp only
    by_cases hc : 255 < s.mmu.ctx_n
    · have hlk : tlbLookup rw s.mmu.ctx_n va s = .ok none s := by
        simp only [tlbLookup, hf, setTlb_tlb]
      unfold translate_va walkMiss
      rw [getMMU_bind, bind_ok hlk, if_pos hc]
      dsimp only
      rw [if_pos hc]
      rfl
    · rw [if_neg hc, translate_va_miss (BitVec.not_lt.mp hc) hf hl]
      cases (s.mmu.tlb rw).insert s.mmu.ctx_n va r.2 r.1 <;> rfl
  · rw [translate_va_hit hf]

/-! ### Plans -/

inductive Plan
  | throws (e : HostError)
  | fails (code : cint)
  | ptr (p : HostPtr)
  | bank (i : Nat) (b : IMemoryBank) (pa : u32)

/-- The plan behind a translation to `pa`. -/
def busPlan (mc : MCtrl δ) (m : MMU) (rw : Intent) (va pa : u32) (sup rep : Bool) : Plan × MMU :=
  match mc.get_bank pa with
  | none =>
    (.fails (-5), if rep then m.set_fault ⟨va, 5, get_access_type rw sup, 0, true⟩ else m)
  | some (i, b) =>
    match b.get_ptr with
    | .error e => (.throws e, m)
    | .ok true => (.ptr ⟨i, b.offset pa⟩, m.l0Fill rw va sup i b pa)
    | .ok false => (.bank i b pa, m)

/-- The plan of an access with the MMU on, and the MMU it leaves. -/
def plan (m : MMU) (mc : MCtrl δ) (r : u32 × u8) (rw : Intent) (va : u32) (sup rep : Bool) :
    Plan × MMU :=
  match m.l0Hit rw va sup with
  | some p => (.ptr p, m)
  | none =>
    match xlat m r va sup rw rep with
    | .error e => (.throws e, m)
    | .ok (res, m') =>
      if res.ok then busPlan mc m' rw va res.pa sup rep
      else (.fails (-(if rep then (m'.fault_status_reg >>> 2) &&& 7 else 1)), m')

/-- Carries the plan out. -/
def Plan.run (mc : MCtrl δ) (rw : Intent) (size : AccessSize) (v : u32) : Plan → MmuM δ (cint × u32)
  | .throws e => raise e
  | .fails code => pure (code, v)
  | .ptr p => ptrAccess rw size p v
  | .bank i b pa => bankAccess mc rw size i b pa v

lemma busAccess_plan {size : AccessSize} {v pa : u32} (hpa : pa &&& 0xfff = va &&& 0xfff)
    (s : MMUSt δ) :
    busAccess mc rw size va v pa sup rep true s =
      (busPlan mc s.mmu rw va pa sup rep).1.run mc rw size v
        ⟨(busPlan mc s.mmu rw va pa sup rep).2, s.mem⟩ := by
  unfold busPlan
  cases hb : mc.get_bank pa with
  | none =>
    unfold busAccess
    rw [hb]
    cases rep <;> rfl
  | some x =>
    obtain ⟨i, b⟩ := x
    dsimp only
    cases hg : b.get_ptr with
    | error e =>
      unfold busAccess
      rw [hb]
      dsimp only
      rw [hg]
      rfl
    | ok w =>
      have hd := IMemoryBank.get_ptr_eq (b := b) (by rw [hg]; rfl)
      rw [busAccess_on hb (by rw [hg]; rfl) hpa]
      obtain rfl : w = !b.isDevice := Except.ok.inj (hg.symm.trans hd)
      cases b.isDevice <;> rfl

lemma hitOutcome_pa {p : u32 × u8} (h : (hitOutcome va rw sup p).ok = true) :
    permOk p.1 rw sup = true ∧ (hitOutcome va rw sup p).pa = physAddr va p.1 p.2 := by
  unfold hitOutcome at *
  split_ifs at * with hp
  exact ⟨hp, rfl⟩

lemma outcome_pa (h : (outcome va rw sup r).ok = true) :
    permFault r.1 rw sup r.2 = 0 ∧ (outcome va rw sup r).pa = physAddr va r.1 r.2 := by
  unfold outcome at *
  split_ifs at * with hp
  exact ⟨hp, rfl⟩

variable {m' : MMU} {res : MMUTranslateResult}

lemma xlat_ok (h : xlat m r va sup rw rep = .ok (res, m')) (hok : res.ok = true) :
    ∃ p, ((∃ t, (m.tlb rw).lookup m.ctx_n va = (some p, t) ∧ permOk p.1 rw sup = true) ∨
        (p = r ∧ permFault r.1 rw sup r.2 = 0)) ∧ res.pa = physAddr va p.1 p.2 := by
  unfold xlat at h
  split at h
  · next p t hf =>
    cases h
    obtain ⟨h1, h2⟩ := hitOutcome_pa hok
    exact ⟨p, Or.inl ⟨t, hf, h1⟩, h2⟩
  · split_ifs at h
    split at h
    · cases h
      obtain ⟨h1, h2⟩ := outcome_pa hok
      exact ⟨r, Or.inr ⟨rfl, h1⟩, h2⟩
    · cases h

lemma xlat_low (h : xlat m r va sup rw rep = .ok (res, m')) (hok : res.ok = true) :
    res.pa &&& 0xfff = va &&& 0xfff := by
  obtain ⟨p, -, hp⟩ := xlat_ok h hok
  rw [hp, physAddr_low]

theorem MemAccess_plan {s : MMUSt δ} (he : s.mmu.get_enabled = true)
    (hl : s.mmu.l0Hit rw va sup = none → (tables mc s).leaf s.mmu.ctx_n va = some r)
    (size : AccessSize) (v : u32) (rep : Bool) :
    MemAccess mc rw size va v sup rep s =
      (s.mmu.plan mc r rw va sup rep).1.run mc rw size v
        ⟨(s.mmu.plan mc r rw va sup rep).2, s.mem⟩ := by
  unfold plan
  cases h0 : s.mmu.l0Hit rw va sup with
  | some p => exact MemAccess_hit he h0
  | none =>
    have ht := translate_va_xlat (hl h0) sup rw rep
    cases hx : xlat s.mmu r va sup rw rep with
    | error e =>
      rw [hx] at ht
      exact MemAccess_throws he h0 ht
    | ok x =>
      obtain ⟨res, m'⟩ := x
      rw [hx] at ht
      rw [MemAccess_miss he h0 ht]
      dsimp only
      by_cases hok : res.ok = true
      · rw [if_pos hok, if_pos hok]
        exact busAccess_plan (xlat_low hx hok) ⟨m', s.mem⟩
      · rw [if_neg hok, if_neg hok]
        rfl

/-! ### Caches that are right about a page -/

/-- The TLB and the L0 cache are right about the page of `va`, whose leaf is `r`. -/
structure Settled (mc : MCtrl δ) (m : MMU) (r : u32 × u8) (rw : Intent) (va : u32) (sup : Bool) :
    Prop where
  tlb : ∀ q, ((m.tlb rw).lookup m.ctx_n va).1 = some q → q = r ∧ r.1 &&& 3 = 2
  l0 : ∀ p, m.l0Hit rw va sup = some p →
    permFault r.1 rw sup r.2 = 0 ∧ PointsAt mc (physAddr va r.1 r.2) p

section Settled

variable {m : MMU} {r : u32 × u8} {rw : Intent} {va : u32} {sup rep : Bool} {va' : u32}

lemma PointsAt.move {pa pa' : u32} {p : HostPtr} (h : PointsAt mc pa p) (hpage : SamePage pa pa')
    (hl : pa &&& 0xfff = va &&& 0xfff) (hl' : pa' &&& 0xfff = va' &&& 0xfff) :
    PointsAt mc pa' ⟨p.bank, p.off - (va &&& 0xfff).toNat + (va' &&& 0xfff).toNat⟩ := by
  obtain ⟨i, b, pa₀, h₀, hb, hd, rfl⟩ := h
  refine ⟨i, b, pa₀, h₀.trans hpage, hb, hd, ?_⟩
  have h1 := page_add_offset hl
  have h2 := page_add_offset hl'
  have h3 : pa &&& ~~~0xfff#32 = pa' &&& ~~~0xfff#32 := and_of_shift (n := 12) (by decide) hpage
  rw [h3] at h1
  congr 1
  dsimp only
  omega

lemma l0Hit_move (h : SamePage va' va) {p : HostPtr} (hp : m.l0Hit rw va' sup = some p) :
    m.l0Hit rw va sup =
      some ⟨p.bank, p.off - (va' &&& 0xfff).toNat + (va &&& 0xfff).toNat⟩ := by
  have h' : va' >>> 12 = va >>> 12 := h
  unfold l0Hit at *
  dsimp only at *
  rw [h'] at hp
  split_ifs at * with hc
  cases hp
  congr 2
  dsimp only
  omega

lemma Settled.page (h : Settled mc m r rw va sup) (hp : SamePage va' va) :
    Settled mc m r rw va' sup where
  tlb q hq := by
    rw [TLB.lookup_page _ hp] at hq
    exact h.tlb q hq
  l0 p hq := by
    obtain ⟨hok, hpt⟩ := h.l0 _ (l0Hit_move hp hq)
    have hm := hpt.move (SamePage.physAddr hp.symm r.1 r.2) (physAddr_low va r.1 r.2)
      (physAddr_low va' r.1 r.2)
    refine ⟨hok, ?_⟩
    convert hm using 2
    dsimp only
    omega

lemma Settled.granted (h : Settled mc m r rw va sup) (hx : xlat m r va sup rw rep = .ok (res, m'))
    (hok : res.ok = true) : permFault r.1 rw sup r.2 = 0 ∧ res.pa = physAddr va r.1 r.2 := by
  obtain ⟨q, ⟨t, hf, hk⟩ | ⟨rfl, h0⟩, hpa⟩ := xlat_ok hx hok
  · obtain ⟨rfl, h2⟩ := h.tlb q (by rw [hf])
    exact ⟨(permOk_iff h2 rw sup q.2).mp hk, hpa⟩
  · exact ⟨h0, hpa⟩

lemma Settled.of_same (h : Settled mc m r rw va sup) (ht : m'.tlb rw = m.tlb rw)
    (hc : m'.ctx_n = m.ctx_n) (hl : m'.l0Hit = m.l0Hit) : Settled mc m' r rw va sup where
  tlb q hq := by
    rw [ht, hc] at hq
    exact h.tlb q hq
  l0 p hp := by
    rw [hl] at hp
    exact h.l0 p hp

lemma l0Hit_set_fault (m : MMU) (f : MMUFault) : (m.set_fault f).l0Hit = m.l0Hit := by
  funext rw va sup
  cases rw <;> rfl

lemma Settled.set_fault (h : Settled mc m r rw va sup) (f : MMUFault) :
    Settled mc (m.set_fault f) r rw va sup :=
  h.of_same (by cases rw <;> rfl) rfl (l0Hit_set_fault m f)

lemma Settled.reported (h : Settled mc m r rw va sup) (q : u32 × u8) :
    Settled mc (m.reported va rw sup q rep) r rw va sup := by
  unfold MMU.reported
  split_ifs
  · exact h.set_fault _
  · exact h

lemma Settled.setTlb (h : Settled mc m r rw va sup) {t : TLB}
    (ht : ∀ q, (t.lookup m.ctx_n va).1 = some q → q = r ∧ r.1 &&& 3 = 2) :
    Settled mc (m.setTlb t rw) r rw va sup where
  tlb q hq := by
    rw [tlb_setTlb_self, show (m.setTlb t rw).ctx_n = m.ctx_n by cases rw <;> rfl] at hq
    exact ht q hq
  l0 p hp := by
    rw [l0Hit_setTlb] at hp
    exact h.l0 p hp

lemma Settled.xlat (h : Settled mc m r rw va sup) (hx : m.xlat r va sup rw rep = .ok (res, m')) :
    Settled mc m' r rw va sup := by
  unfold MMU.xlat at hx
  split at hx
  · next p t hf =>
    have hag := TLB.lookup_again (show ((m.tlb rw).lookup m.ctx_n va).1 = some p by rw [hf])
    rw [hf] at hag
    have ht : Settled mc (m.setTlb t rw) r rw va sup := by
      refine h.setTlb fun q hq => h.tlb q ?_
      rw [hag] at hq
      rw [hf]
      exact hq
    cases hx
    split_ifs
    · exact ht
    · exact ht.reported p
  · next hf =>
    split_ifs at hx
    split at hx
    · next t hi =>
      cases hx
      refine Settled.reported (h.setTlb fun q hq => ?_) r
      by_cases h2 : r.1 &&& 3 = 2
      · rw [TLB.lookup_insert h2 hi] at hq
        exact ⟨(Option.some.inj hq).symm, h2⟩
      · unfold TLB.insert at hi
        rw [if_neg (by simpa [TLB.is_valid] using h2)] at hi
        cases hi
        exact h.tlb q hq
    · cases hx

lemma Settled.l0Fill (h : Settled mc m r rw va sup) {i : Nat} {b : IMemoryBank}
    (hok : permFault r.1 rw sup r.2 = 0) (hb : mc.get_bank (physAddr va r.1 r.2) = some (i, b))
    (hd : b.isDevice = false) :
    Settled mc (m.l0Fill rw va sup i b (physAddr va r.1 r.2)) r rw va sup where
  tlb q hq := by
    rw [show (m.l0Fill rw va sup i b (physAddr va r.1 r.2)).tlb rw = m.tlb rw by cases rw <;> rfl,
      show (m.l0Fill rw va sup i b (physAddr va r.1 r.2)).ctx_n = m.ctx_n by cases rw <;> rfl] at hq
    exact h.tlb q hq
  l0 p hp := by
    have hc : (m.l0Fill rw va sup i b (physAddr va r.1 r.2)).ctx_n = m.ctx_n := by cases rw <;> rfl
    rcases l0Fill_answers (c := (m.l0Fill rw va sup i b (physAddr va r.1 r.2)).ctx_n) hp with
      ⟨-, -, -, -, rfl⟩ | hp
    · refine ⟨hok, i, b, physAddr va r.1 r.2, rfl, hb, hd, ?_⟩
      have ho := page_add_offset (physAddr_low va r.1 r.2)
      congr 1
      omega
    · rw [hc] at hp
      exact h.l0 p hp

/-- What a plan for the page may be: a pointer where the leaf grants the access, and the L0 cache
has it from then on; a bank only if it is a device. -/
def Plan.Sound (mc : MCtrl δ) (m : MMU) (r : u32 × u8) (rw : Intent) (va : u32) (sup : Bool) :
    Plan → Prop
  | .throws _ => True
  | .fails _ => True
  | .ptr p => permFault r.1 rw sup r.2 = 0 ∧ PointsAt mc (physAddr va r.1 r.2) p ∧
      (m.l0Hit rw va sup).isSome = true
  | .bank _ b _ => b.isDevice = true

lemma busPlan_settled (h : Settled mc m r rw va sup) (hok : permFault r.1 rw sup r.2 = 0) :
    Settled mc (busPlan mc m rw va (physAddr va r.1 r.2) sup rep).2 r rw va sup ∧
      (busPlan mc m rw va (physAddr va r.1 r.2) sup rep).1.Sound mc
        (busPlan mc m rw va (physAddr va r.1 r.2) sup rep).2 r rw va sup := by
  unfold busPlan
  cases hb : mc.get_bank (physAddr va r.1 r.2) with
  | none =>
    refine ⟨?_, trivial⟩
    dsimp only
    split_ifs
    · exact h.set_fault _
    · exact h
  | some x =>
    obtain ⟨i, b⟩ := x
    dsimp only
    cases hg : b.get_ptr with
    | error e => exact ⟨h, trivial⟩
    | ok w =>
      have hd := IMemoryBank.get_ptr_eq (b := b) (by rw [hg]; rfl)
      obtain rfl : w = !b.isDevice := Except.ok.inj (hg.symm.trans hd)
      cases hv : b.isDevice with
      | true => exact ⟨h, hv⟩
      | false =>
        refine ⟨h.l0Fill hok hb hv, hok, ⟨i, b, physAddr va r.1 r.2, rfl, hb, hv, ?_⟩, l0Fill_hit ..⟩
        rw [b.offset_of_contains (MCtrl.get_bank_some hb).2]

theorem Settled.plan (h : Settled mc m r rw va sup) (rep : Bool) :
    Settled mc (m.plan mc r rw va sup rep).2 r rw va sup ∧
      (m.plan mc r rw va sup rep).1.Sound mc (m.plan mc r rw va sup rep).2 r rw va sup := by
  unfold MMU.plan
  cases h0 : m.l0Hit rw va sup with
  | some p =>
    obtain ⟨hok, hp⟩ := h.l0 p h0
    exact ⟨h, hok, hp, by rw [h0]; rfl⟩
  | none =>
    dsimp only
    cases hx : m.xlat r va sup rw rep with
    | error e => exact ⟨h, trivial⟩
    | ok x =>
      obtain ⟨res, m'⟩ := x
      dsimp only
      by_cases hok : res.ok = true
      · obtain ⟨hp, hpa⟩ := h.granted hx hok
        rw [if_pos hok, hpa]
        exact busPlan_settled (h.xlat hx) hp
      · rw [if_neg hok]
        exact ⟨h.xlat hx, trivial⟩

end Settled

/-! ### Control registers -/

lemma xlat_priv (h : m.xlat r va sup rw rep = .ok (res, m')) : m'.priv = m.priv := by
  unfold xlat at h
  split at h
  · cases h
    split_ifs <;> simp
  · split_ifs at h
    split at h <;> cases h
    simp

lemma busPlan_priv (m : MMU) (rw : Intent) (va pa : u32) (sup rep : Bool) :
    (busPlan mc m rw va pa sup rep).2.priv = m.priv := by
  unfold busPlan
  split
  · split_ifs <;> rfl
  · split
    · rfl
    · cases rw <;> rfl
    · rfl

lemma plan_priv (mc : MCtrl δ) (m : MMU) (r : u32 × u8) (rw : Intent) (va : u32) (sup rep : Bool) :
    (m.plan mc r rw va sup rep).2.priv = m.priv := by
  unfold plan
  split
  · rfl
  · split
    · rfl
    · next hx =>
      split
      · rw [busPlan_priv, xlat_priv hx]
      · exact xlat_priv hx

end MMU

end SparcEmu
