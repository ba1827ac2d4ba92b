import SparcEmu.Walk
import SparcEmu.Lib.Run

/-!
The TLBs do not show: behind them, a translation is the walk of the page tables and the
permission check.
-/

namespace SparcEmu

open Lib.Effect Lib.Run

/-! ### What a TLB could answer -/

variable {t : TLB} {c va : u32} {r : u32 × u8} {T : Tables}

namespace TLB

/-- The micro-cache or an entry has this answer for the address. -/
def Holds (t : TLB) (c va : u32) (r : u32 × u8) : Prop :=
  (t.mcHits c va = true ∧ r = (t.mc_pte, t.mc_level)) ∨
    ∃ e ∈ t.entries, e.hits c va = true ∧ r = (e.pte, e.level)

lemma lookup_some (h : (t.lookup c va).1 = some r) : t.Holds c va r := by
  obtain ⟨hm, e⟩ | ⟨-, x, hx, hh, e⟩ | ⟨-, -, e⟩ := t.lookup_cases c va
  · rw [e] at h; exact Or.inl ⟨hm, (Option.some.inj h).symm⟩
  · rw [e] at h; exact Or.inr ⟨x, hx, hh, (Option.some.inj h).symm⟩
  · rw [e] at h; cases h

lemma lookup_none {t' : TLB} (h : t.lookup c va = (none, t')) : t' = t := by
  obtain ⟨-, e⟩ | ⟨-, x, hx, -, e⟩ | ⟨-, -, e⟩ := t.lookup_cases c va <;> rw [h] at e <;> cases e
  rfl

lemma warm_holds {e : Entry} {he : PageMask e.mask} (hx : e ∈ t.entries)
    (hv : is_valid e.pte = true) (h : (t.warm e he).Holds c va r) : t.Holds c va r := by
  obtain ⟨hm, rfl⟩ | ⟨x, hx', hh, rfl⟩ := h
  · rw [warm_mcHits, Bool.and_eq_true] at hm
    exact Or.inr ⟨e, hx, by simp [Entry.hits, hv, hm], rfl⟩
  · exact Or.inr ⟨x, hx', hh, rfl⟩

lemma lookup_holds {c' va' : u32} (h : (t.lookup c va).2.Holds c' va' r) : t.Holds c' va' r := by
  obtain ⟨-, e⟩ | ⟨-, x, hx, hh, e⟩ | ⟨-, -, e⟩ := t.lookup_cases c va
  · rwa [e] at h
  · rw [e] at h
    simp only [Entry.hits, Bool.and_eq_true] at hh
    exact warm_holds hx hh.1.1 h
  · rwa [e] at h

lemma put_holds {e : Entry} {he : PageMask e.mask} (h : (t.put e he).Holds c va r) :
    t.Holds c va r ∨ (e.context = c ∧ va &&& e.mask = e.vaddr_tag ∧ r = (e.pte, e.level)) := by
  obtain ⟨hm, rfl⟩ | ⟨x, hx, hh, rfl⟩ := h
  · have hm' : (e.context = c && va &&& e.mask = e.vaddr_tag) = true := hm
    simp only [Bool.and_eq_true, decide_eq_true_eq] at hm'
    exact Or.inr ⟨hm'.1, hm'.2, rfl⟩
  · rcases List.mem_or_eq_of_mem_set hx with hx | rfl
    · exact Or.inl (Or.inr ⟨x, hx, hh, rfl⟩)
    · simp only [Entry.hits, Bool.and_eq_true, decide_eq_true_eq] at hh
      exact Or.inr ⟨hh.1.2, hh.2, rfl⟩

lemma flush_holds (hc : c ≤ 255) : ¬ t.flush.Holds c va r := by
  rintro (⟨hm, -⟩ | ⟨e, he, hh, -⟩)
  · simp only [mcHits, flush, Bool.and_eq_true] at hm
    rw [← of_decide_eq_true hm.1] at hc
    exact absurd hc (by decide)
  · rw [List.eq_of_mem_replicate he] at hh
    exact absurd hh (by simp [Entry.hits, is_valid])

/-! ### Agreement with the tables -/

/-- Every answer, in a context that exists, is the leaf of a walk, a page table entry, and not
in the context table. -/
def Agrees (t : TLB) (T : Tables) : Prop :=
  ∀ c va r, c ≤ 255 → t.Holds c va r → T.leaf c va = some r ∧ r.1 &&& 3 = 2 ∧ r.2 ≠ 0

lemma Agrees.lookup (h : t.Agrees T) (c va : u32) : (t.lookup c va).2.Agrees T :=
  fun c' va' r hc hh => h c' va' r hc (lookup_holds hh)

lemma Agrees.flush (t : TLB) (T : Tables) : t.flush.Agrees T :=
  fun _ _ _ hc hh => absurd hh (flush_holds hc)

lemma Agrees.insert {t' : TLB} (h : t.Agrees T) (hl : T.leaf c va = some r)
    (hi : t.insert c va r.2 r.1 = .ok t') : t'.Agrees T := by
  unfold TLB.insert at hi
  split_ifs at hi with hv
  · split at hi
    · cases hi
    · next mask hm =>
      cases hi
      intro c' va' r' hc hh
      rcases put_holds hh with hh | ⟨rfl, hva, rfl⟩
      · exact h c' va' r' hc hh
      · refine ⟨Tables.leaf_page hl hm hva, by simpa [is_valid] using hv, fun h0 => ?_⟩
        rw [show r.2 = 0 from h0] at hm
        cases hm
  · cases hi; exact h

lemma Agrees.congr {T' : Tables} (h : t.Agrees T)
    (hT : ∀ c va, c ≤ 255 → T'.leaf c va = T.leaf c va) : t.Agrees T' :=
  fun c va r hc hh => by rw [hT c va hc]; exact h c va r hc hh

end TLB

/-! ### Translation -/

namespace MMU

variable {δ : Type} {mc : MCtrl δ}

@[simp] lemma tlb_setTlb_self (m : MMU) (t : TLB) (rw : Intent) : (m.setTlb t rw).tlb rw = t := by
  cases rw <;> rfl

/-- Both TLBs agree with the tables. -/
def Agrees (m : MMU) (T : Tables) : Prop := m.itlb.Agrees T ∧ m.dtlb.Agrees T

variable {m : MMU}

lemma Agrees.tlb (h : m.Agrees T) (rw : Intent) : (m.tlb rw).Agrees T := by
  cases rw
  · exact h.2
  · exact h.2
  · exact h.1

lemma Agrees.setTlb (h : m.Agrees T) (ht : t.Agrees T) (rw : Intent) :
    (m.setTlb t rw).Agrees T := by
  cases rw
  · exact ⟨h.1, ht⟩
  · exact ⟨h.1, ht⟩
  · exact ⟨ht, h.2⟩

lemma agrees_flush (m : MMU) (T : Tables) : m.flush.Agrees T :=
  ⟨TLB.Agrees.flush _ T, TLB.Agrees.flush _ T⟩

/-- What a translation returns for the leaf. -/
def outcome (va : u32) (rw : Intent) (sup : Bool) (r : u32 × u8) : MMUTranslateResult :=
  if permFault r.1 rw sup r.2 = 0 then ⟨true, physAddr va r.1 r.2, r.2, r.1⟩
  else ⟨false, 0, r.2, 0⟩

/-- What `check_perms` leaves in the fault registers. -/
def reported (m : MMU) (va : u32) (rw : Intent) (sup : Bool) (r : u32 × u8)
    (report_faults : Bool) : MMU :=
  if permFault r.1 rw sup r.2 ≠ 0 ∧ report_faults then
    m.set_fault ⟨va, permFault r.1 rw sup r.2, get_access_type rw sup, r.2, true⟩
  else m

lemma check_perms_eq (va : u32) (rw : Intent) (sup : Bool) (r : u32 × u8) (rep : Bool)
    (s : MMUSt δ) : check_perms va r.1 rw sup r.2 rep s =
      .ok (permFault r.1 rw sup r.2) { s with mmu := s.mmu.reported va rw sup r rep } := by
  unfold check_perms reported
  split_ifs <;> rfl

lemma Agrees.reported (h : m.Agrees T) (va : u32) (rw : Intent) (sup : Bool) (r : u32 × u8)
    (rep : Bool) : (m.reported va rw sup r rep).Agrees T := by
  unfold MMU.reported; split_ifs <;> exact h

lemma setTlb_tlb (m : MMU) (rw : Intent) : m.setTlb (m.tlb rw) rw = m := by cases rw <;> rfl

variable {s : MMUSt δ}

lemma walkMiss_eq {m : Mem δ} (hc : s.mmu.ctx_n ≤ 255) (hg : get_PTE mc va s = .ok r ⟨s.mmu, m⟩)
    (rw : Intent) :
    walkMiss mc s.mmu.ctx_n va rw s =
      match (s.mmu.tlb rw).insert s.mmu.ctx_n va r.2 r.1 with
      | .ok t => .ok r ⟨s.mmu.setTlb t rw, m⟩
      | .error e => .error e ⟨s.mmu, m⟩ := by
  unfold walkMiss
  rw [if_neg (by simpa using hc), bind_ok hg]
  split_ifs with h2
  · cases hi : (s.mmu.tlb rw).insert s.mmu.ctx_n va r.2 r.1 with
    | error e =>
      have : tlbInsert rw s.mmu.ctx_n va r.2 r.1 (⟨s.mmu, m⟩ : MMUSt δ) = .error e ⟨s.mmu, m⟩ := by
        simp only [tlbInsert, hi]
      rw [bind_error this]
    | ok t =>
      have : tlbInsert rw s.mmu.ctx_n va r.2 r.1 (⟨s.mmu, m⟩ : MMUSt δ)
          = .ok () ⟨s.mmu.setTlb t rw, m⟩ := by simp only [tlbInsert, hi]
      rw [bind_ok this]
      rfl
  · have : (s.mmu.tlb rw).insert s.mmu.ctx_n va r.2 r.1 = .ok (s.mmu.tlb rw) := by
      unfold TLB.insert; rw [if_neg (by simpa [TLB.is_valid] using h2)]
    simp only [this, setTlb_tlb, pure_apply]

/-- What the bit table says about an entry found in a TLB. -/
def hitOutcome (va : u32) (rw : Intent) (sup : Bool) (p : u32 × u8) : MMUTranslateResult :=
  if permOk p.1 rw sup then ⟨true, physAddr va p.1 p.2, p.2, p.1⟩ else ⟨false, 0, p.2, 0⟩

variable {sup : Bool} {rw : Intent} {rep : Bool}

lemma translate_va_hit {p : u32 × u8} (h : (s.mmu.tlb rw).lookup s.mmu.ctx_n va = (some p, t)) :
    translate_va mc va sup rw rep s = .ok (hitOutcome va rw sup p)
      { s with mmu := if permOk p.1 rw sup then s.mmu.setTlb t rw
        else (s.mmu.setTlb t rw).reported va rw sup p rep } := by
  have hlk : tlbLookup rw s.mmu.ctx_n va s = .ok (some p) { s with mmu := s.mmu.setTlb t rw } := by
    simp only [tlbLookup, h]
  unfold translate_va hitOutcome
  rw [getMMU_bind, bind_ok hlk]
  dsimp only
  split_ifs
  · rfl
  · rw [bind_ok (check_perms_eq ..)]; rfl

lemma translate_va_walked {m : Mem δ} (hc : s.mmu.ctx_n ≤ 255)
    (h : (s.mmu.tlb rw).lookup s.mmu.ctx_n va = (none, s.mmu.tlb rw))
    (hg : get_PTE mc va s = .ok r ⟨s.mmu, m⟩) (sup rep : Bool) :
    translate_va mc va sup rw rep s =
      match (s.mmu.tlb rw).insert s.mmu.ctx_n va r.2 r.1 with
      | .ok t => .ok (outcome va rw sup r) ⟨(s.mmu.setTlb t rw).reported va rw sup r rep, m⟩
      | .error e => .error e ⟨s.mmu, m⟩ := by
  have hlk : tlbLookup rw s.mmu.ctx_n va s = .ok none s := by
    simp only [tlbLookup, h, setTlb_tlb]
  have hw := walkMiss_eq hc hg rw
  unfold translate_va
  rw [getMMU_bind, bind_ok hlk]
  dsimp only
  cases hi : (s.mmu.tlb rw).insert s.mmu.ctx_n va r.2 r.1 with
  | error e => rw [hi] at hw; rw [bind_error hw]
  | ok t =>
    rw [hi] at hw
    rw [bind_ok hw, bind_ok (check_perms_eq ..)]
    unfold outcome
    by_cases h0 : permFault r.1 rw sup r.2 = 0
    · rw [if_neg (not_not.mpr h0), if_pos h0]; rfl
    · rw [if_pos h0, if_neg h0]; rfl

lemma translate_va_throws (hc : s.mmu.ctx_n ≤ 255)
    (h : (s.mmu.tlb rw).lookup s.mmu.ctx_n va = (none, s.mmu.tlb rw))
    (hg : ¬ Returns (get_PTE mc va s)) : ¬ Returns (translate_va mc va sup rw rep s) := by
  have hlk : tlbLookup rw s.mmu.ctx_n va s = .ok none s := by
    simp only [tlbLookup, h, setTlb_tlb]
  intro hr
  unfold translate_va walkMiss at hr
  rw [getMMU_bind, bind_ok hlk] at hr
  dsimp only at hr
  rw [if_neg (by simpa using hc)] at hr
  obtain ⟨a, t, e, -⟩ := returns_bind.mp hr
  obtain ⟨b, u, e', -⟩ := returns_bind.mp (returns_iff.mpr ⟨a, t, e⟩)
  exact hg (returns_iff.mpr ⟨b, u, e'⟩)

lemma translate_va_miss (hc : s.mmu.ctx_n ≤ 255)
    (h : (s.mmu.tlb rw).lookup s.mmu.ctx_n va = (none, s.mmu.tlb rw))
    (hl : (tables mc s).leaf s.mmu.ctx_n va = some r) :
    translate_va mc va sup rw rep s =
      match (s.mmu.tlb rw).insert s.mmu.ctx_n va r.2 r.1 with
      | .ok t => .ok (outcome va rw sup r)
          { s with mmu := (s.mmu.setTlb t rw).reported va rw sup r rep }
      | .error e => .error e s :=
  translate_va_walked hc h (get_PTE_of_leaf hl) sup rep

/-- A walk that ends in the context table must not end at a page table entry. -/
def RootOk (r : u32 × u8) : Prop := r.1 &&& 3 = 2 → r.2 ≠ 0

instance (r : u32 × u8) : Decidable (RootOk r) := inferInstanceAs (Decidable (_ → _))

lemma insert_of_leaf (hl : T.leaf c va = some r) (hr : RootOk r) (t : TLB) :
    ∃ t', t.insert c va r.2 r.1 = .ok t' := by
  unfold TLB.insert
  split_ifs with hv
  · obtain ⟨mask, hm⟩ := Tables.leaf_mask hl (hr (by simpa [TLB.is_valid] using hv))
    split
    · next h => rw [hm] at h; cases h
    · exact ⟨_, rfl⟩
  · exact ⟨_, rfl⟩

/-- **Translation**: with TLBs that agree with the tables, a translation returns what the leaf
of the address says, reports what `check_perms` reports, and keeps the agreement. -/
theorem translate_va_spec (hc : s.mmu.ctx_n ≤ 255)
    (hl : (tables mc s).leaf s.mmu.ctx_n va = some r) (hr : RootOk r)
    (hA : s.mmu.Agrees (tables mc s)) (sup : Bool) (rw : Intent) (rep : Bool) :
    ∃ t, t.Agrees (tables mc s) ∧ translate_va mc va sup rw rep s =
      .ok (outcome va rw sup r)
        { s with mmu := (s.mmu.setTlb t rw).reported va rw sup r rep } := by
  have hA₀ := (hA.tlb rw).lookup s.mmu.ctx_n va
  rcases hf : (s.mmu.tlb rw).lookup s.mmu.ctx_n va with ⟨_ | p, t⟩
  · obtain rfl := TLB.lookup_none hf
    obtain ⟨t', ht⟩ := insert_of_leaf hl hr (s.mmu.tlb rw)
    refine ⟨t', (hA.tlb rw).insert hl ht, ?_⟩
    rw [translate_va_miss hc hf hl, ht]
  · obtain ⟨hl', h2, -⟩ := hA.tlb rw _ _ _ hc (TLB.lookup_some (by rw [hf]))
    obtain rfl : p = r := by rw [hl] at hl'; exact (Option.some.inj hl').symm
    rw [hf] at hA₀
    refine ⟨t, hA₀, ?_⟩
    rw [translate_va_hit hf, hitOutcome, outcome]
    by_cases hk : permOk p.1 rw sup = true
    · have h0 := (permOk_iff h2 rw sup p.2).mp hk
      rw [if_pos hk, if_pos hk, if_pos h0, reported, if_neg (by simp [h0])]
    · have h0 : permFault p.1 rw sup p.2 ≠ 0 := fun h => hk ((permOk_iff h2 rw sup p.2).mpr h)
      rw [if_neg hk, if_neg hk, if_neg h0]

lemma translate_va_root (hc : s.mmu.ctx_n ≤ 255) (hl : (tables mc s).leaf s.mmu.ctx_n va = some r)
    (hr : ¬ RootOk r) (hA : s.mmu.Agrees (tables mc s)) (sup : Bool) (rw : Intent) (rep : Bool) :
    translate_va mc va sup rw rep s = .error (.logic_error "Level !=1,2,3 not allowed") s := by
  unfold RootOk at hr
  push Not at hr
  rcases hf : (s.mmu.tlb rw).lookup s.mmu.ctx_n va with ⟨_ | p, t⟩
  · obtain rfl := TLB.lookup_none hf
    have hi : (s.mmu.tlb rw).insert s.mmu.ctx_n va r.2 r.1
        = .error (.logic_error "Level !=1,2,3 not allowed") := by
      unfold TLB.insert
      rw [if_pos (by simpa [TLB.is_valid] using hr.1), hr.2]
      rfl
    rw [translate_va_miss hc hf hl, hi]
  · obtain ⟨hl', -, h0⟩ := hA.tlb rw _ _ _ hc (TLB.lookup_some (by rw [hf]))
    rw [hl] at hl'
    rw [← Option.some.inj hl'] at h0
    exact absurd hr.2 h0

/-! ### Runs -/

/-- The translation that ignores both TLBs and their micro-caches. -/
def translateUncached (mc : MCtrl δ) (va : u32) (sup : Bool) (rw : Intent) (rep : Bool) :
    MmuM δ MMUTranslateResult := do
  let r ← get_PTE mc va
  let FT ← check_perms va r.1 rw sup r.2 rep
  if FT ≠ 0 then pure ⟨false, 0, r.2, 0⟩
  else pure ⟨true, physAddr va r.1 r.2, r.2, r.1⟩

lemma translateUncached_eq (hl : (tables mc s).leaf s.mmu.ctx_n va = some r) :
    translateUncached mc va sup rw rep s =
      .ok (outcome va rw sup r) { s with mmu := s.mmu.reported va rw sup r rep } := by
  unfold translateUncached outcome
  rw [bind_ok (get_PTE_of_leaf hl), bind_ok (check_perms_eq ..)]
  by_cases h : permFault r.1 rw sup r.2 = 0
  · rw [if_neg (not_not.mpr h), if_pos h]; rfl
  · rw [if_pos h, if_neg h]; rfl

/-- What happens to an MMU between translations. `poke` is any change of physical memory. -/
inductive XlatOp (δ : Type)
  | translate (va : u32) (sup : Bool) (rw : Intent) (rep : Bool)
  | setCtx (n : u32)
  | setPtr (p : u32)
  | poke (mem : Mem δ)
  | flush

def XlatOp.step (mc : MCtrl δ) : XlatOp δ → MmuM δ (Option MMUTranslateResult)
  | .translate va sup rw rep => do return some (← translate_va mc va sup rw rep)
  | .setCtx n => do modMMU fun m => { m with ctx_n := n }; return none
  | .setPtr p => do modMMU fun m => { m with ctx_tbl_ptr := p }; return none
  | .poke mem => fun s => .ok none { s with mem := mem }
  | .flush => do modMMU MMU.flush; return none

/-- A flush comes before the next translation. -/
def FlushFirst : List (XlatOp δ) → Prop
  | [] => True
  | .translate _ _ _ _ :: _ => False
  | .flush :: _ => True
  | .setCtx _ :: os => FlushFirst os
  | .setPtr _ :: os => FlushFirst os
  | .poke _ :: os => FlushFirst os

/-- The leaves of all contexts that exist. -/
def SameLeaves (T T' : Tables) : Prop := ∀ c va, c ≤ 255 → T'.leaf c va = T.leaf c va

/-- The operation keeps to the rules: the tables are in memory, none of their context table
entries is a page table entry, contexts are at most 255, and when the leaves change a flush
comes before the next translation. -/
def XlatOp.Legal (mc : MCtrl δ) (o : XlatOp δ) (os : List (XlatOp δ)) (s : MMUSt δ) : Prop :=
  match o with
  | .translate va _ _ _ =>
    ∃ r, (tables mc s).leaf s.mmu.ctx_n va = some r ∧ RootOk r
  | .setCtx n => n ≤ 255
  | .setPtr p => SameLeaves (tables mc s) ⟨mc.wordAt s.mem.bytes, p⟩ ∨ FlushFirst os
  | .poke mem => SameLeaves (tables mc s) ⟨mc.wordAt mem.bytes, s.mmu.ctx_tbl_ptr⟩ ∨ FlushFirst os
  | .flush => True

/-- The translation returns what the one without TLBs returns, and leaves the same fault
registers. -/
def XlatOp.Transparent (mc : MCtrl δ) (o : XlatOp δ) (s : MMUSt δ) : Prop :=
  match o with
  | .translate va sup rw rep =>
    ∃ res s₁ s₂, translate_va mc va sup rw rep s = .ok res s₁ ∧
      translateUncached mc va sup rw rep s = .ok res s₂ ∧
      s₁.mmu.fault_status_reg = s₂.mmu.fault_status_reg ∧
      s₁.mmu.fault_address_reg = s₂.mmu.fault_address_reg
  | _ => True

/-- The TLBs agree with the tables, or are flushed before they are used. -/
def TlbInv (mc : MCtrl δ) (os : List (XlatOp δ)) (s : MMUSt δ) : Prop :=
  s.mmu.ctx_n ≤ 255 ∧ (s.mmu.Agrees (tables mc s) ∨ FlushFirst os)

lemma Agrees.congr {T' : Tables} (h : m.Agrees T) (hT : SameLeaves T T') :
    m.Agrees T' := ⟨h.1.congr hT, h.2.congr hT⟩

lemma reported_fault (m : MMU) (t : TLB) (va : u32) (rw : Intent) (sup : Bool) (r : u32 × u8)
    (rep : Bool) :
    ((m.setTlb t rw).reported va rw sup r rep).fault_status_reg
      = (m.reported va rw sup r rep).fault_status_reg ∧
    ((m.setTlb t rw).reported va rw sup r rep).fault_address_reg
      = (m.reported va rw sup r rep).fault_address_reg := by
  unfold reported
  split_ifs <;> cases rw <;> exact ⟨rfl, rfl⟩

lemma reported_ctx (m : MMU) (t : TLB) (va : u32) (rw : Intent) (sup : Bool) (r : u32 × u8)
    (rep : Bool) : ((m.setTlb t rw).reported va rw sup r rep).ctx_n = m.ctx_n ∧
      ((m.setTlb t rw).reported va rw sup r rep).ctx_tbl_ptr = m.ctx_tbl_ptr := by
  unfold reported
  split_ifs <;> cases rw <;> exact ⟨rfl, rfl⟩

lemma XlatOp.transparent {o : XlatOp δ} {os : List (XlatOp δ)} (hi : TlbInv mc (o :: os) s)
    (hl : o.Legal mc os s) : o.Transparent mc s := by
  cases o with
  | translate va sup rw rep =>
    obtain ⟨hc, hA | hA⟩ := hi
    · obtain ⟨r, hr, h0⟩ := hl
      obtain ⟨t, -, ht⟩ := translate_va_spec hc hr h0 hA sup rw rep
      obtain ⟨e1, e2⟩ := reported_fault s.mmu t va rw sup r rep
      exact ⟨_, _, _, ht, translateUncached_eq hr, e1, e2⟩
    · exact hA.elim
  | setCtx n | setPtr p | poke mem | flush => trivial

lemma XlatOp.keeps {o : XlatOp δ} {os : List (XlatOp δ)} {s' : MMUSt δ}
    {a : Option MMUTranslateResult} (hi : TlbInv mc (o :: os) s) (hl : o.Legal mc os s)
    (hs : o.step mc s = .ok a s') : TlbInv mc os s' := by
  obtain ⟨hc, hA⟩ := hi
  cases o with
  | translate va sup rw rep =>
    obtain hA | hA := hA
    · obtain ⟨r, hr, h0⟩ := hl
      obtain ⟨t, hta, ht⟩ := translate_va_spec hc hr h0 hA sup rw rep
      simp only [step] at hs
      rw [bind_ok ht] at hs
      cases hs
      obtain ⟨e1, e2⟩ := reported_ctx s.mmu t va rw sup r rep
      refine ⟨by rw [e1]; exact hc, Or.inl ?_⟩
      simp only [tables, e2]
      exact (hA.setTlb hta rw).reported ..
    · exact hA.elim
  | setCtx n => cases hs; exact ⟨hl, hA⟩
  | setPtr p =>
    cases hs
    refine ⟨hc, ?_⟩
    rcases hA with hA | hA
    · exact hl.imp (fun h => hA.congr h) id
    · exact Or.inr hA
  | poke mem =>
    cases hs
    refine ⟨hc, ?_⟩
    rcases hA with hA | hA
    · exact hl.imp (fun h => hA.congr h) id
    · exact Or.inr hA
  | flush => cases hs; exact ⟨hc, Or.inl (agrees_flush _ _)⟩

/-- **TLB transparency**: started with flushed TLBs, in every run that keeps to the rules every
translation returns the flag, physical address and level, and leaves the fault registers, of
a walk and permission check without TLBs. -/
theorem tlb_transparent (mc : MCtrl δ) (m : MMU) (mem : Mem δ) (ops : List (XlatOp δ))
    (hc : m.ctx_n ≤ 255)
    (hl : Along (XlatOp.step mc) (XlatOp.Legal mc) ops ⟨m.flush, mem⟩) :
    Along (XlatOp.step mc) (fun o _ s => o.Transparent mc s) ops ⟨m.flush, mem⟩ :=
  Along.of_inv (TlbInv mc) (fun _ _ _ hi hl => XlatOp.transparent hi hl)
    (fun _ _ _ _ _ hi hl hs => XlatOp.keeps hi hl hs)
    ⟨hc, Or.inl (agrees_flush m _)⟩ hl

/-- Tables in one RAM bank: a context table entry at 0 and a level 1 table at 0x100, which maps
the first 16 MB. -/
def sampleTables : Mem Unit :=
  ⟨fun _ o => if o = 3 then 0x11 else if o = 0x103 then 0x0e else 0, ()⟩

/-- The second translation finds the entry that the first one has left. -/
theorem tlb_transparent_sample :
    ((final (translate_va (.ram [(0, 0x10000)]) 0x1234 false .load true
      ⟨MMU.init.flush, sampleTables⟩)).mmu.dtlb.lookup 0 0x5678).1 = some (0x0e, 1) ∧
    Along (XlatOp.step (.ram [(0, 0x10000)]))
      (fun o _ s => o.Transparent (.ram [(0, 0x10000)]) s)
      [.translate 0x1234 false .load true, .translate 0x5678 false .load true, .setCtx 3]
      ⟨MMU.init.flush, sampleTables⟩ := by
  obtain ⟨a, s, hs, hl⟩ : ∃ a s, XlatOp.step (.ram [(0, 0x10000)]) (.translate 0x1234 false .load true)
      ⟨MMU.init.flush, sampleTables⟩ = .ok a s ∧
      (tables (.ram [(0, 0x10000)]) s).leaf s.mmu.ctx_n 0x5678 = some (0x0e, 1) := ⟨_, _, rfl, rfl⟩
  refine ⟨by decide +kernel, tlb_transparent _ _ _ _ (by decide)
    ⟨⟨(0x0e, 1), by decide, fun _ h => absurd h (by decide)⟩, fun a' s' h' => ?_⟩⟩
  obtain ⟨-, rfl⟩ := EStateM.Result.ok.inj (h'.symm.trans hs)
  exact ⟨⟨(0x0e, 1), hl, fun _ h => absurd h (by decide)⟩,
    fun _ _ _ => ⟨show (3 : u32) ≤ 255 by decide, fun _ _ _ => trivial⟩⟩

end MMU

end SparcEmu
