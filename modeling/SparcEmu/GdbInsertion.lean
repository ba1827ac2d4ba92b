import SparcEmu.GdbTransfer
import SparcEmu.AccessPlan

/-!
What a failed insertion of a breakpoint leaves behind, whatever the caches of the MMU hold.
-/

namespace SparcEmu

open Lib.Effect MMU

variable {n : Nat} {δ : Type} {mc : MCtrl δ} {e : HostError} {α : Type} {w : u32}

namespace MMU

variable {s t u : MMUSt δ} {va v : u32} {sup : Bool} {rw : Intent}

/-! ### A store after a load -/

/-- An access that fails: with a return code, or with an exception that the stub catches. -/
def Fails : EStateM.Result HostError (MMUSt δ) (cint × u32) → Prop
  | .ok r _ => r.1 ≠ 0
  | .error e _ => e.isStdException = true

lemma get_PTE_ptd {r : u32 × u8} (h : get_PTE mc va s = .ok r t) (h1 : r.1 &&& 3 = 1) : r.2 = 3 := by
  unfold get_PTE at h
  rw [getMMU_bind] at h
  obtain ⟨l0, s₁, -, h⟩ := bind_ok_iff.mp h
  split_ifs at h with e0
  · obtain ⟨l1, s₂, -, h⟩ := bind_ok_iff.mp h
    split_ifs at h with e1
    · obtain ⟨l2, s₃, -, h⟩ := bind_ok_iff.mp h
      split_ifs at h with e2
      · obtain ⟨l3, s₄, -, h⟩ := bind_ok_iff.mp h
        cases h
        rfl
      · cases h
        exact absurd h1 e2
    · cases h
      exact absurd h1 e1
  · cases h
    exact absurd h1 e0

variable {tr : MMUTranslateResult}

/-- Loads and stores share a TLB: what translates a load is found for a store from then on. -/
lemma translate_va_store (h : translate_va mc va sup .load true s = .ok tr t) (hok : tr.ok = true) :
    ∃ p : u32 × u8, tr.pa = physAddr va p.1 p.2 ∧ (t.mmu.dtlb.lookup t.mmu.ctx_n va).1 = some p ∧
      ∃ tr' t', translate_va mc va sup .store true s = .ok tr' t' ∧
        tr'.ok = permOk p.1 .store sup ∧ (tr'.ok = true → tr'.pa = tr.pa) := by
  rcases hf : s.mmu.dtlb.lookup s.mmu.ctx_n va with ⟨_ | p, d⟩
  · -- the walk of the store is the walk of the load
    obtain rfl := TLB.lookup_none hf
    have hwalk : ∀ rw, rw = .load ∨ rw = .store → translate_va mc va sup rw true s = (do
        let r ← walkMiss mc s.mmu.ctx_n va .load
        let FT ← check_perms va r.1 rw sup r.2 true
        if FT ≠ 0 then pure ⟨false, 0, r.2, 0⟩ else pure ⟨true, physAddr va r.1 r.2, r.2, r.1⟩ :
          MmuM δ MMUTranslateResult) s := by
      intro rw hrw
      have hlk : tlbLookup rw s.mmu.ctx_n va s = .ok none s := by
        rcases hrw with rfl | rfl
        · simp only [tlbLookup, tlb, hf]
          rfl
        · simp only [tlbLookup, tlb, hf]
          rfl
      unfold translate_va
      rw [getMMU_bind, bind_ok hlk]
      rcases hrw with rfl | rfl
      · rfl
      · rfl
    rw [hwalk .load (Or.inl rfl)] at h
    obtain ⟨r, s₁, hw, h⟩ := bind_ok_iff.mp h
    rw [bind_ok (check_perms_eq ..)] at h
    by_cases h0 : permFault r.1 .load sup r.2 = 0
    · rw [if_neg (not_not_intro h0), reported_regs _ _ h0] at h
      cases h
      have hpriv : KeepsPriv (walkMiss mc s.mmu.ctx_n va .load) :=
        fixes_walkMiss (fun _ => keepsPriv_onMem _) unseen_priv.tlb _ _ _
      have hctx := (priv_ctx (hpriv.ok hw)).1
      -- an entry that grants the load has gone into the TLB
      obtain ⟨hv, hd⟩ : r.1 &&& 3 = 2 ∧ (s₁.mmu.dtlb.lookup s.mmu.ctx_n va).1 = some r := by
        unfold walkMiss at hw
        split_ifs at hw with h255
        · cases hw
        obtain ⟨r', s₂, hpte, hw⟩ := bind_ok_iff.mp hw
        split_ifs at hw with h2
        · obtain ⟨_, s₃, hi, hw⟩ := bind_ok_iff.mp hw
          cases hw
          refine ⟨h2, ?_⟩
          unfold tlbInsert at hi
          split at hi
          · next d hins =>
            cases hi
            exact congrArg Prod.fst (TLB.lookup_insert h2 hins)
          · cases hi
        · cases hw
          exact absurd (granted_valid (get_PTE_ptd hpte) h0) h2
      refine ⟨r, rfl, by rw [hctx]; exact hd, ?_⟩
      rw [hwalk .store (Or.inr rfl), bind_ok hw, bind_ok (check_perms_eq ..)]
      by_cases hs : permFault r.1 .store sup r.2 = 0
      · rw [if_neg (not_not_intro hs)]
        exact ⟨_, _, rfl, ((permOk_iff hv .store sup r.2).mpr hs).symm, fun _ => rfl⟩
      · rw [if_pos hs]
        refine ⟨_, _, rfl, ?_, fun h => by cases h⟩
        exact (Bool.eq_false_iff.mpr fun h => hs ((permOk_iff hv .store sup r.2).mp h)).symm
    · rw [if_pos h0] at h
      cases h
      cases hok
  · have hl : (s.mmu.tlb .load).lookup s.mmu.ctx_n va = (some p, d) := hf
    have hst : (s.mmu.tlb .store).lookup s.mmu.ctx_n va = (some p, d) := hf
    rw [translate_va_hit hl] at h
    cases h
    obtain ⟨hp, hpa⟩ := hitOutcome_pa hok
    have hagain := TLB.lookup_again (show (s.mmu.dtlb.lookup s.mmu.ctx_n va).1 = some p by rw [hf])
    refine ⟨p, hpa, ?_, _, _, translate_va_hit hst, ?_, ?_⟩
    · rw [if_pos hp]
      rw [hf] at hagain
      exact congrArg Prod.fst hagain
    · unfold hitOutcome
      split_ifs with hs
      · exact hs.symm
      · exact (Bool.eq_false_iff.mpr hs).symm
    · intro hs
      rw [(hitOutcome_pa hs).2, hpa]

/-! ### Banks -/

section Bank

variable {i : Nat} {b : IMemoryBank} {pa : u32}

lemma bankRead_ends {m : Mem δ} (h : mc.bankRead i b .b4 pa m = .error e) : e = .terminate := by
  unfold MCtrl.bankRead at h
  split at h
  · next id _ _ =>
    cases hd : mc.dev.read id .b4 pa m.dev with
    | ok r => rw [hd] at h; cases h
    | error e' => rw [hd] at h; cases h; rfl
  · cases h

lemma bankWrite_ends {m : Mem δ} (h : mc.bankWrite i b .b4 pa v m = .error e) : e = .terminate := by
  unfold MCtrl.bankWrite at h
  split at h
  · next id _ _ =>
    cases hd : mc.dev.write id .b4 pa v m.dev with
    | ok r => rw [hd] at h; cases h
    | error e' => rw [hd] at h; cases h; rfl
  · cases h
    rfl
  · cases h

lemma onMem_error {f : Mem δ → Except HostError (α × Mem δ)} (h : onMem f s = .error e t) :
    f s.mem = .error e ∧ t = s := by
  unfold onMem at h
  cases hf : f s.mem with
  | ok x => rw [hf] at h; cases h
  | error e' => rw [hf] at h; cases h; exact ⟨rfl, rfl⟩

lemma bankAccess_error (h : bankAccess mc rw .b4 i b pa v s = .error e t) :
    e = .terminate ∧ t = s := by
  have hload : (do let v ← onMem (mc.bankRead i b .b4 pa); pure (0, v) : MmuM δ (cint × u32)) s
      = .error e t → e = .terminate ∧ t = s := by
    intro h
    obtain hm | ⟨a, s', -, h⟩ := bind_error_iff.mp h
    · obtain ⟨hr, rfl⟩ := onMem_error hm
      exact ⟨bankRead_ends hr, rfl⟩
    · cases h
  cases rw with
  | load => exact hload h
  | execute => exact hload h
  | store =>
    obtain hm | ⟨a, s', -, h⟩ := bind_error_iff.mp h
    · obtain ⟨hw, rfl⟩ := onMem_error hm
      refine ⟨?_, rfl⟩
      cases hb : mc.bankWrite i b .b4 pa v t.mem with
      | ok m => rw [hb] at hw; cases hw
      | error e' => rw [hb] at hw; cases hw; exact bankWrite_ends hb
    · cases h

lemma bankAccess_not_fails : ¬ Fails (bankAccess mc rw .b4 i b pa v s) := by
  intro h
  cases hr : bankAccess mc rw .b4 i b pa v s with
  | ok r t =>
    rw [hr] at h
    exact h (bankAccess_zero hr).1
  | error e t =>
    rw [hr, (bankAccess_error hr).1] at h
    cases h

lemma ptrAccess_not_fails (p : HostPtr) : ¬ Fails (ptrAccess rw .b4 p v s) := by
  intro h
  obtain ⟨w, mem, hx, -⟩ := ptrAccess_ok p rw .b4 v s
  rw [hx] at h
  exact h rfl

end Bank

lemma busAccess_not_fails {pa : u32} {i : Nat} {b : IMemoryBank} (hb : mc.get_bank pa = some (i, b))
    (hg : b.get_ptr.isOk = true) (on : Bool) :
    ¬ Fails (busAccess mc rw .b4 va v pa sup true on s) := by
  unfold busAccess
  rw [hb]
  dsimp only
  cases hp : b.get_ptr with
  | error e => rw [hp] at hg; cases hg
  | ok w =>
    split_ifs
    · rw [bind_ok (show liftExcept (Except.ok w) s = .ok w s from rfl)]
      split_ifs
      · exact ptrAccess_not_fails _
      · exact bankAccess_not_fails
    · exact bankAccess_not_fails

lemma busAccess_done {pa : u32} (h : busAccess mc rw .b4 va v pa sup true true s = .ok (0, w) t) :
    (∃ i b, mc.get_bank pa = some (i, b) ∧ b.get_ptr.isOk = true) ∧
      (t.mmu = s.mmu ∨ ∃ i b, t.mmu = s.mmu.l0Fill rw va sup i b pa) := by
  unfold busAccess at h
  cases hb : mc.get_bank pa with
  | none =>
    rw [hb] at h
    cases h
  | some x =>
    obtain ⟨i, b⟩ := x
    rw [hb] at h
    dsimp only at h
    rw [if_pos (by rfl)] at h
    obtain ⟨w, s₁, hg, h⟩ := bind_ok_iff.mp h
    cases hp : b.get_ptr with
    | error e => rw [hp] at hg; cases hg
    | ok w' =>
      rw [hp] at hg
      cases hg
      refine ⟨⟨i, b, rfl, by rw [hp]; rfl⟩, ?_⟩
      split_ifs at h
      · obtain ⟨_, s₂, hf, h⟩ := bind_ok_iff.mp h
        cases hf
        exact Or.inr ⟨i, b, (ptrAccess_zero h).2⟩
      · exact Or.inl (bankAccess_zero h).2

lemma fails_of_refused (he : s.mmu.get_enabled = true) (h0 : s.mmu.l0Hit rw va sup = none)
    (ht : translate_va mc va sup rw true s = .ok tr t) (hok : tr.ok = false) :
    Fails (MemAccess mc rw .b4 va v sup true s) := by
  have hft := ((translate_va_tells ht).2 hok).2.1
  rw [MemAccess_miss he h0 ht, if_neg (by simp [hok])]
  exact fun h => hft (BitVec.neg_eq_zero_iff.mp h)

lemma not_fails_of_granted (he : s.mmu.get_enabled = true) (h0 : s.mmu.l0Hit rw va sup = none)
    (ht : translate_va mc va sup rw true s = .ok tr t) (hok : tr.ok = true) {i : Nat}
    {b : IMemoryBank} (hb : mc.get_bank tr.pa = some (i, b)) (hg : b.get_ptr.isOk = true) :
    ¬ Fails (MemAccess mc rw .b4 va v sup true s) := by
  rw [MemAccess_miss he h0 ht, if_pos hok]
  exact busAccess_not_fails hb hg true

/-- **A store after a load** fails if it would have failed in place of the load. -/
lemma store_after_load {w' : u32} (he : s.mmu.get_enabled = true)
    (hl : MemAccess mc .load .b4 va w' true true s = .ok (0, w) t) :
    Fails (MemAccess mc .store .b4 va v true true t) ↔
      Fails (MemAccess mc .store .b4 va v true true s) := by
  have hpriv : t.mmu.priv = s.mmu.priv := (keepsPriv_MemAccess .load .b4 va w' true true).ok hl
  have het : t.mmu.get_enabled = true := by
    unfold get_enabled
    rw [(priv_ctx hpriv).2.2]
    exact he
  cases h0 : s.mmu.l0Hit .load va true with
  | some p =>
    rw [MemAccess_hit he h0] at hl
    cases hl
    exact Iff.rfl
  | none =>
    cases ht : translate_va mc va true .load true s with
    | error e s₁ =>
      rw [MemAccess_throws he h0 ht] at hl
      cases hl
    | ok tr s₁ =>
      cases hok : tr.ok with
      | false =>
        have hf : Fails (MemAccess mc .load .b4 va w' true true s) := fails_of_refused he h0 ht hok
        rw [hl] at hf
        exact absurd rfl hf
      | true =>
        rw [MemAccess_miss he h0 ht, if_pos hok] at hl
        obtain ⟨p, hpa, hlook, tr', s₁', ht', hok', hpa'⟩ := translate_va_store ht hok
        obtain ⟨⟨i, b, hb, hg⟩, hmmu⟩ := busAccess_done hl
        have hdtlb : t.mmu.dtlb = s₁.mmu.dtlb ∧ t.mmu.l0Hit .store = s₁.mmu.l0Hit .store := by
          rcases hmmu with hm | ⟨i, b, hm⟩
          · rw [hm]
            exact ⟨rfl, rfl⟩
          · rw [hm]
            exact ⟨rfl, rfl⟩
        have hl0 : t.mmu.l0Hit .store va true = s.mmu.l0Hit .store va true := by
          rw [hdtlb.2]
          exact congrFun (congrFun (congrFun ((fixes_l0Hit va true .load true).ok ht) .store) va) true
        cases hs0 : s.mmu.l0Hit .store va true with
        | some q =>
          rw [hs0] at hl0
          rw [MemAccess_hit he hs0, MemAccess_hit het hl0]
          exact iff_of_false (ptrAccess_not_fails q) (ptrAccess_not_fails q)
        | none =>
          rw [hs0] at hl0
          -- the TLB now has the entry, and its permissions decide both times
          have hctx : t.mmu.ctx_n = s₁.mmu.ctx_n := by
            rw [(priv_ctx hpriv).1, (priv_ctx ((keepsPriv_translate_va va true .load true).ok ht)).1]
          obtain ⟨d, hd⟩ : ∃ d, (t.mmu.tlb .store).lookup t.mmu.ctx_n va = (some p, d) := by
            rw [← hdtlb.1, ← hctx] at hlook
            exact ⟨_, Prod.ext hlook rfl⟩
          obtain ⟨u, htt⟩ : ∃ u, translate_va mc va true .store true t =
              .ok (hitOutcome va .store true p) u := ⟨_, translate_va_hit hd⟩
          cases hq : permOk p.1 .store true with
          | true =>
            rw [hq] at hok'
            have hout : (hitOutcome va .store true p).ok = true ∧
                (hitOutcome va .store true p).pa = tr.pa := by
              unfold hitOutcome
              rw [if_pos hq]
              exact ⟨rfl, hpa.symm⟩
            have hbt : mc.get_bank (hitOutcome va .store true p).pa = some (i, b) := by
              rw [hout.2]
              exact hb
            have hbs : mc.get_bank tr'.pa = some (i, b) := by
              rw [hpa' hok']
              exact hb
            exact iff_of_false (not_fails_of_granted het hl0 htt hout.1 hbt hg)
              (not_fails_of_granted he hs0 ht' hok' hbs hg)
          | false =>
            rw [hq] at hok'
            have hout : (hitOutcome va .store true p).ok = false := by
              unfold hitOutcome
              rw [if_neg (by simp [hq])]
            exact iff_of_true (fails_of_refused het hl0 htt hout) (fails_of_refused he hs0 ht' hok')

/-! ### Memory after an access -/

lemma fixesBytes_load (va v : u32) (sup rep : Bool) :
    Fixes (fun s : MMUSt δ => s.mem.bytes) (MemAccess mc .load .b4 va v sup rep) := by
  refine fixes_MemAccess ⟨⟨fun _ _ _ _ => rfl, fun _ _ _ => rfl⟩, fun _ _ _ _ _ => rfl⟩
    fixesBytes_bypassRead4 (fun p w => ?_) (fun i b pa w _ => ?_) va v sup rep
  · exact Fixes.bind (fun _ => rfl) fun _ => Fixes.pure _
  · refine Fixes.bind (fun s => ?_) fun _ => Fixes.pure _
    unfold onMem
    cases hr : mc.bankRead i b .b4 pa s.mem with
    | error e => rfl
    | ok r => exact bankRead_bytes hr

lemma busAccess_failed_bytes {pa : u32} {on : Bool}
    (h : Fails (busAccess mc rw .b4 va v pa sup true on s)) :
    (final (busAccess mc rw .b4 va v pa sup true on s)).mem.bytes = s.mem.bytes := by
  cases hb : mc.get_bank pa with
  | none =>
    obtain ⟨m, -, hx⟩ := busAccess_none hb rw .b4 va v sup true on s
    rw [hx]
    rfl
  | some x =>
    obtain ⟨i, b⟩ := x
    cases hg : b.get_ptr with
    | ok w => exact absurd h (busAccess_not_fails hb (by rw [hg]; rfl) on)
    | error e =>
      unfold busAccess at h ⊢
      rw [hb] at h ⊢
      dsimp only at h ⊢
      split_ifs at h ⊢
      · rw [hg, bind_error (show liftExcept (Except.error e) s = .error e s from rfl)]
        rfl
      · exact absurd h bankAccess_not_fails

lemma failed_bytes (h : Fails (MemAccess mc rw .b4 va v sup true s)) :
    (final (MemAccess mc rw .b4 va v sup true s)).mem.bytes = s.mem.bytes := by
  cases he : s.mmu.get_enabled with
  | false =>
    rw [MemAccess_off he] at h ⊢
    exact busAccess_failed_bytes h
  | true =>
    cases h0 : s.mmu.l0Hit rw va sup with
    | some p =>
      rw [MemAccess_hit he h0] at h
      exact absurd h (ptrAccess_not_fails p)
    | none =>
      have hfix : (final (translate_va mc va sup rw true s)).mem.bytes = s.mem.bytes :=
        fixesBytes_translate_va va sup rw true s
      cases ht : translate_va mc va sup rw true s with
      | error e s₁ =>
        rw [ht] at hfix
        rw [MemAccess_throws he h0 ht]
        exact hfix
      | ok tr s₁ =>
        rw [ht] at hfix
        rw [MemAccess_miss he h0 ht] at h ⊢
        by_cases hok : tr.ok = true
        · rw [if_pos hok] at h ⊢
          exact (busAccess_failed_bytes h).trans hfix
        · rw [if_neg hok]
          exact hfix

end MMU

namespace GdbStub

open GdbSt

variable {s t : GdbSt n δ} {k : Nat} {rw : Intent} {a v : u32} {what : String}

/-! ### Reading and writing a word -/

/-- Ends with an exception that the stub catches. -/
def ThrowsStd {σ α : Type} : EStateM.Result HostError σ α → Prop
  | .ok _ _ => False
  | .error e _ => e.isStdException = true

instance {σ α : Type} (r : EStateM.Result HostError σ α) : Decidable (ThrowsStd r) :=
  match r with
  | .ok _ _ => inferInstanceAs (Decidable False)
  | .error e _ => inferInstanceAs (Decidable (e.isStdException = true))

/-- The MMU of processor `k` and the memory. -/
def bus (s : GdbSt n δ) (k : Nat) : MMUSt δ := ⟨s.mmu k, s.mem⟩

lemma onMMU_eq (k : Nat) (m : MmuM δ α) (s : GdbSt n δ) :
    onMMU k m s = match m (bus s k) with
      | .ok x u => .ok x (s.put k u.mmu u.mem)
      | .error e u => .error e (s.put k u.mmu u.mem) := rfl

lemma access32_done (hk : s.selected = some k)
    (h : onMMU k (MemAccess mc rw .b4 a v true true) s = .ok (0, w) t) :
    access32 mc rw what a v s = .ok w t := by
  unfold access32
  rw [bind_ok (selected_ok hk), bind_ok h, if_pos rfl]
  rfl

lemma access32_error (hk : s.selected = some k)
    (h : onMMU k (MemAccess mc rw .b4 a v true true) s = .error e t) :
    access32 mc rw what a v s = .error e t := by
  unfold access32
  rw [bind_ok (selected_ok hk), bind_error h]

lemma access32_refused {c : cint} (hk : s.selected = some k)
    (h : onMMU k (MemAccess mc rw .b4 a v true true) s = .ok (c, w) t) (hc : c ≠ 0)
    (hb : (if (t.mmu k).get_enabled then none else boot_phys a) = none) :
    access32 mc rw what a v s = .error (.runtime_error what) t := by
  unfold access32
  rw [bind_ok (selected_ok hk), bind_ok h, if_neg hc, bind_ok (bootMapping_eq t k a), hb]
  rfl

lemma access32_on (mc : MCtrl δ) (rw : Intent) (what : String) (a v : u32)
    (hk : s.selected = some k) (he : (s.mmu k).get_enabled = true) :
    match MemAccess mc rw .b4 a v true true (bus s k) with
      | .ok r u => if r.1 = 0 then access32 mc rw what a v s = .ok r.2 (s.put k u.mmu u.mem)
          else access32 mc rw what a v s = .error (.runtime_error what) (s.put k u.mmu u.mem)
      | .error e u => access32 mc rw what a v s = .error e (s.put k u.mmu u.mem) := by
  have hm := onMMU_eq k (MemAccess mc rw .b4 a v true true) s
  cases hr : MemAccess mc rw .b4 a v true true (bus s k) with
  | error e u =>
    rw [hr] at hm
    exact access32_error hk hm
  | ok r u =>
    rw [hr] at hm
    have hen : u.mmu.get_enabled = true := by
      rw [enabled_of_priv ((keepsPriv_MemAccess rw .b4 a v true true).ok hr)]
      exact he
    dsimp only
    split_ifs with h0
    · obtain ⟨c, w⟩ := r
      obtain rfl : c = 0 := h0
      exact access32_done hk hm
    · refine access32_refused hk hm h0 ?_
      rw [put_mmu, hen, if_pos rfl]

lemma throws_on (hk : s.selected = some k) (he : (s.mmu k).get_enabled = true) :
    ThrowsStd (access32 mc rw what a v s) ↔ Fails (MemAccess mc rw .b4 a v true true (bus s k)) := by
  have h := access32_on mc rw what a v hk he
  cases hr : MemAccess mc rw .b4 a v true true (bus s k) with
  | error e u =>
    rw [hr] at h
    rw [show access32 mc rw what a v s = _ from h]
    exact Iff.rfl
  | ok r u =>
    rw [hr] at h
    dsimp only at h
    split_ifs at h with h0
    · rw [h]
      exact iff_of_false (fun h => h) (fun h => h h0)
    · rw [h]
      exact iff_of_true rfl h0

lemma onMMU_banked {x : Site} (he : (s.mmu k).get_enabled = false)
    (hx : bankSite mc (rw = .store) a = some x) :
    ¬ Fails (MemAccess mc rw .b4 a v true true (bus s k)) := by
  obtain ⟨m, -, hl⟩ : ∃ m, FaultOnly (bus s k).mmu m ∧ Lands mc rw (bankSite mc (rw = .store) a) v
      ⟨m, (bus s k).mem⟩ (busAccess mc rw .b4 a v a true true false (bus s k)) := busAccess_off_lands
  rw [hx] at hl
  rw [MemAccess_off he, show busAccess mc rw .b4 a v a true true false (bus s k) = _ from hl]
  exact bankAccess_not_fails

lemma throws_of_not_fails {f : cint × u32 → GdbM n δ α} {m : MmuM δ (cint × u32)}
    (h : ¬ Fails (m (bus s k))) (hf : ∀ w t, ¬ ThrowsStd (f (0, w) t)) :
    ¬ ThrowsStd ((onMMU k m >>= f) s) := by
  have hm := onMMU_eq k m s
  cases hr : m (bus s k) with
  | ok r u =>
    rw [hr] at h hm
    obtain ⟨c, w⟩ := r
    obtain rfl : c = 0 := not_not.mp h
    rw [bind_ok hm]
    exact hf w _
  | error e u =>
    rw [hr] at h hm
    rw [bind_error hm]
    exact h

lemma onMMU_denied (he : (s.mmu k).get_enabled = false) (hx : bankSite mc (rw = .store) a = none) :
    ∃ m, m.priv = (s.mmu k).priv ∧
      ((∃ c, c ≠ 0 ∧ onMMU k (MemAccess mc rw .b4 a v true true) s = .ok (c, v) (s.put k m s.mem)) ∨
        ∃ e, e.isStdException = true ∧
          onMMU k (MemAccess mc rw .b4 a v true true) s = .error e (s.put k m s.mem)) := by
  obtain ⟨m, hm, hl⟩ : ∃ m, FaultOnly (bus s k).mmu m ∧ Lands mc rw (bankSite mc (rw = .store) a) v
      ⟨m, (bus s k).mem⟩ (busAccess mc rw .b4 a v a true true false (bus s k)) := busAccess_off_lands
  rw [hx] at hl
  refine ⟨m, FaultOnly.priv hm, ?_⟩
  rw [onMMU_eq, MemAccess_off he]
  obtain ⟨c, hc, hr⟩ | ⟨e, hs, hr⟩ := hl
  · rw [hr]
    exact Or.inl ⟨c, hc, rfl⟩
  · rw [hr]
    exact Or.inr ⟨e, hs, rfl⟩

lemma access32_nowhere (hk : s.selected = some k) (he : (s.mmu k).get_enabled = false)
    (hx : s.reach mc k rw a = none) :
    ∃ e m, e.isStdException = true ∧ m.priv = (s.mmu k).priv ∧
      access32 mc rw what a v s = .error e (s.put k m s.mem) := by
  unfold reach at hx
  simp only [he, Bool.false_eq_true, if_false, site_off] at hx
  cases hs : bankSite mc (rw = .store) a with
  | some x => rw [hs] at hx; cases hx
  | none =>
    rw [hs] at hx
    dsimp only at hx
    obtain ⟨m, hm, ⟨c, hc, ho⟩ | ⟨e, hstd, ho⟩⟩ := onMMU_denied (v := v) he hs
    · have he' : ((s.put k m s.mem).mmu k).get_enabled = false := by
        rw [put_mmu, enabled_of_priv hm, he]
      cases hp : boot_phys a with
      | none =>
        refine ⟨_, m, rfl, hm, access32_refused hk ho hc ?_⟩
        rw [he', if_neg Bool.false_ne_true, hp]
      | some p =>
        rw [hp, Option.bind_some] at hx
        obtain ⟨m', hm', ho'⟩ := onMMU_denied (v := v) he' hx
        rw [put_mmu] at hm'
        rw [put_put] at ho'
        unfold access32
        rw [bind_ok (selected_ok hk), bind_ok ho, if_neg hc, bind_ok (bootMapping_eq _ k a), he',
          if_neg Bool.false_ne_true, hp]
        dsimp only
        obtain ⟨c', hc', ho'⟩ | ⟨e, hstd, ho'⟩ := ho'
        · rw [bind_ok ho', if_neg hc']
          exact ⟨_, m', rfl, hm'.trans hm, rfl⟩
        · rw [bind_error ho']
          exact ⟨e, m', hstd, hm'.trans hm, rfl⟩
    · exact ⟨e, m, hstd, hm, access32_error hk ho⟩

lemma throws_off (hB : mc.Bootable) (hk : s.selected = some k)
    (he : (s.mmu k).get_enabled = false) :
    ThrowsStd (access32 mc rw what a v s) ↔ s.reach mc k rw a = none := by
  refine ⟨fun ht => ?_, fun hx => ?_⟩
  · by_contra hx
    refine absurd ht ?_
    unfold reach at hx
    simp only [he, Bool.false_eq_true, if_false, site_off] at hx
    unfold access32
    rw [bind_ok (selected_ok hk)]
    cases hs : bankSite mc (rw = .store) a with
    | some x =>
      refine throws_of_not_fails (onMMU_banked he hs) fun w t => ?_
      rw [if_pos rfl]
      exact fun h => h
    | none =>
      rw [hs] at hx
      dsimp only at hx
      obtain ⟨p, hp⟩ : ∃ p, boot_phys a = some p := by
        cases hp : boot_phys a with
        | none => rw [hp] at hx; exact absurd rfl hx
        | some p => exact ⟨p, rfl⟩
      rw [hp, Option.bind_some] at hx
      obtain ⟨x, hx⟩ := Option.ne_none_iff_exists'.mp hx
      have hb : mc.get_bank a = none :=
        (unmapped_of_boot (s := s) rw hB he hp).1 (by rw [site_off he]; exact hs)
      obtain ⟨m, hm, ho⟩ : ∃ m, m.priv = (s.mmu k).priv ∧
          onMMU k (MemAccess mc rw .b4 a v true true) s = .ok (-5, v) (s.put k m s.mem) :=
        onMMU_unmapped he hb
      have he' : ((s.put k m s.mem).mmu k).get_enabled = false := by
        rw [put_mmu, enabled_of_priv hm, he]
      rw [bind_ok ho, if_neg (show (-5 : cint) ≠ 0 by decide), bind_ok (bootMapping_eq _ k a), he',
        if_neg Bool.false_ne_true, hp]
      refine throws_of_not_fails (onMMU_banked he' hx) fun w t => ?_
      rw [if_pos rfl]
      exact fun h => h
  · obtain ⟨e, m, hstd, -, h⟩ := access32_nowhere (v := v) hk he hx
    rw [h]
    exact hstd

/-! ### What stays -/

/-- All but the caches and the fault registers of the MMUs, and the devices. -/
def stays (s : GdbSt n δ) :=
  (s.stub, s.selected, s.mem.bytes, fun j => (s.mmu j).priv)

lemma stays_put {m : MMU} {mem : Mem δ} (hb : mem.bytes = s.mem.bytes)
    (hm : m.priv = (s.mmu k).priv) : stays (s.put k m mem) = stays s := by
  have hpriv : (fun j => ((s.put k m mem).mmu j).priv) = fun j => (s.mmu j).priv := by
    funext j
    by_cases hj : j = k
    · rw [hj, put_mmu, hm]
    · exact congrArg MMU.priv (Function.update_of_ne hj _ _)
  unfold stays
  rw [put_stub, put_selected, put_mem, hb, hpriv]

lemma fixes_onMMU_load (k : Nat) (a v : u32) :
    Fixes (stays (n := n)) (onMMU k (MemAccess mc .load .b4 a v true true)) := by
  intro s
  have hb : (final (MemAccess mc .load .b4 a v true true (bus s k))).mem.bytes = s.mem.bytes :=
    fixesBytes_load a v true true (bus s k)
  have hm : (final (MemAccess mc .load .b4 a v true true (bus s k))).mmu.priv = (s.mmu k).priv :=
    keepsPriv_MemAccess .load .b4 a v true true (bus s k)
  rw [onMMU_eq]
  cases hr : MemAccess mc .load .b4 a v true true (bus s k) <;>
    · rw [hr] at hb hm
      exact stays_put hb hm

lemma fixes_read_mem32 (a : u32) : Fixes (stays (n := n)) (read_mem32 mc a) := by
  have hsel : Fixes (stays (n := n) (δ := δ)) selected := by
    intro s
    unfold selected
    cases s.selected <;> rfl
  refine Fixes.bind hsel fun k => Fixes.bind (fixes_onMMU_load k a 0) fun r => ?_
  split_ifs
  · exact Fixes.pure _
  · refine Fixes.bind (fun _ => rfl) fun p => ?_
    cases p with
    | none => exact fun _ => rfl
    | some p =>
      refine Fixes.bind (fixes_onMMU_load k p 0) fun r => ?_
      split_ifs
      · exact Fixes.pure _
      · exact fun _ => rfl

lemma throws_write_mem32 : ThrowsStd (write_mem32 mc a v s) ↔
    ThrowsStd (access32 mc .store "Could not write memory at address" a v s) := by
  cases h : access32 mc .store "Could not write memory at address" a v s with
  | ok w t => rw [write_mem32_ok h]; exact Iff.rfl
  | error e t => rw [write_mem32_error h]; exact Iff.rfl

lemma stays_failed_write (hB : mc.Bootable) (hk : s.selected = some k)
    (h : write_mem32 mc a v s = .error e t) (he : e.isStdException = true) : stays t = stays s := by
  have hthrows : ThrowsStd (access32 mc .store "Could not write memory at address" a v s) := by
    rw [← throws_write_mem32, h]
    exact he
  cases hen : (s.mmu k).get_enabled with
  | true =>
    have hf := (throws_on hk hen).mp hthrows
    have hb := failed_bytes hf
    have hm : (final (MemAccess mc .store .b4 a v true true (bus s k))).mmu.priv = (s.mmu k).priv :=
      keepsPriv_MemAccess .store .b4 a v true true (bus s k)
    have ha := access32_on mc .store "Could not write memory at address" a v hk hen
    cases hr : MemAccess mc .store .b4 a v true true (bus s k) with
    | error e' u =>
      rw [hr] at hb hm ha
      rw [write_mem32_error ha] at h
      cases h
      exact stays_put hb hm
    | ok r u =>
      rw [hr] at hb hm ha hf
      dsimp only at ha
      rw [if_neg hf] at ha
      rw [write_mem32_error ha] at h
      cases h
      exact stays_put hb hm
  | false =>
    obtain ⟨e', m, -, hm, ha⟩ : ∃ e' m, e'.isStdException = true ∧ m.priv = (s.mmu k).priv ∧
        access32 mc .store "Could not write memory at address" a v s = .error e' (s.put k m s.mem) :=
      access32_nowhere hk hen ((throws_off hB hk hen).mp hthrows)
    rw [write_mem32_error ha] at h
    cases h
    exact stays_put rfl hm

section Stays

variable (h : stays t = stays s)

include h

lemma stays_selected : t.selected = s.selected := congrArg (·.2.1) h

lemma stays_enabled (k : Nat) : (t.mmu k).get_enabled = (s.mmu k).get_enabled :=
  enabled_of_priv (congrFun (congrArg (·.2.2.2) h) k)

lemma stays_reach_off (he : (s.mmu k).get_enabled = false) (rw : Intent) (a : u32) :
    t.reach mc k rw a = s.reach mc k rw a := by
  have he' : (t.mmu k).get_enabled = false := (stays_enabled h k).trans he
  unfold reach
  simp only [site_off he, site_off he', he, he']

end Stays

lemma write_after_read (hB : mc.Bootable) (hk : s.selected = some k)
    (h : read_mem32 mc a s = .ok w t) (l : List Breakpoint) :
    ThrowsStd (write_mem32 mc a v (t.setBps l)) ↔ ThrowsStd (write_mem32 mc a v s) := by
  have hf : stays t = stays s := (fixes_read_mem32 a).ok h
  have hk' : (t.setBps l).selected = some k := (stays_selected hf).trans hk
  have hen' : ((t.setBps l).mmu k).get_enabled = (s.mmu k).get_enabled := stays_enabled hf k
  rw [throws_write_mem32, throws_write_mem32]
  cases hen : (s.mmu k).get_enabled with
  | true =>
    rw [throws_on hk hen, throws_on hk' (hen'.trans hen)]
    have ha := access32_on mc .load "Could not read memory at address" a 0 hk hen
    cases hr : MemAccess mc .load .b4 a 0 true true (bus s k) with
    | error e u =>
      rw [hr] at ha
      cases ha.symm.trans h
    | ok r u =>
      rw [hr] at ha
      dsimp only at ha
      split_ifs at ha with h0
      · cases ha.symm.trans h
        obtain ⟨c, w⟩ := r
        obtain rfl : c = 0 := h0
        have hbus : bus ((s.put k u.mmu u.mem).setBps l) k = u := by
          unfold bus
          rw [setBps_mmu, put_mmu]
          rfl
        rw [hbus]
        exact store_after_load hen hr
      · cases ha.symm.trans h
  | false =>
    rw [throws_off hB hk hen, throws_off hB hk' (hen'.trans hen), setBps_reach,
      stays_reach_off hf hen]

/-! ### Insertion -/

section Insert

variable (hB : mc.Bootable) (hk : s.selected = some k) (hn : s.stub.has_breakpoint a = false)

include hn in
lemma insert_breakpoint_eq (hk : s.selected = some k) : insert_breakpoint mc a s =
    catchStd (patch mc a a) (do
      match ← bootMapping k a with
      | some phys_addr => patch mc a phys_addr
      | none => raise notPlaced) s := by
  have hl : ¬ s.stub.has_breakpoint a = true := by
    rw [hn]
    exact Bool.false_ne_true
  unfold insert_breakpoint
  refine get_bind.trans ?_
  rw [if_neg hl]
  exact bind_ok (selected_ok hk)

include hB hk

lemma throws_read_off (he : (s.mmu k).get_enabled = false) :
    ThrowsStd (read_mem32 mc a s) ↔ s.reach mc k .load a = none := throws_off hB hk he

include hn

lemma insert_unread (h : read_mem32 mc a s = .error e t) (he : e.isStdException = true) :
    stays (final (insert_breakpoint mc a s)) = stays s := by
  have hf : stays t = stays s := (fixes_read_mem32 a).error h
  have hpatch : patch mc a a s = .error e t := bind_error h
  rw [insert_breakpoint_eq hn hk, catchStd_std hpatch he, bind_ok (bootMapping_eq t k a),
    stays_enabled hf]
  cases hen : (s.mmu k).get_enabled with
  | true => exact hf
  | false =>
    cases hp : boot_phys a with
    | none => exact hf
    | some p =>
      have hnone : s.reach mc k .load a = none := by
        rw [← throws_read_off hB hk hen, h]
        exact he
      have hen' : (t.mmu k).get_enabled = false := (stays_enabled hf k).trans hen
      obtain ⟨e', m, -, -, hp'⟩ : ∃ e' m, e'.isStdException = true ∧ m.priv = (t.mmu k).priv ∧
          read_mem32 mc p t = .error e' (t.put k m t.mem) := by
        refine access32_nowhere ((stays_selected hf).trans hk) hen' ?_
        rw [stays_reach_off hf hen]
        exact reach_boot hen hp hnone
      have hpatch' : patch mc a p t = .error e' _ := bind_error hp'
      show stays (final (patch mc a p t)) = stays s
      have hf' := (fixes_read_mem32 p).error hp'
      rw [hpatch']
      exact hf'.trans hf

lemma insert_unwritten (h : read_mem32 mc a s = .ok w t)
    (hw : ThrowsStd (write_mem32 mc a OPCODE_TA1 s)) :
    ∃ u, insert_breakpoint mc a s = .error notPlaced u ∧ u.mem.bytes = s.mem.bytes ∧
      u.stub.breakpoints = s.stub.breakpoints ++ [⟨a, w⟩] := by
  have hf : stays t = stays s := (fixes_read_mem32 a).ok h
  have hstub : t.stub = s.stub := congrArg (·.1) hf
  have hk' : t.selected = some k := (stays_selected hf).trans hk
  have hw' := (write_after_read hB hk h (t.stub.breakpoints ++ [⟨a, w⟩])).mpr hw
  cases hr : write_mem32 mc a OPCODE_TA1 (t.setBps (t.stub.breakpoints ++ [⟨a, w⟩])) with
  | ok x u =>
    rw [hr] at hw'
    exact hw'.elim
  | error e u =>
    rw [hr] at hw'
    have hfu := stays_failed_write hB
      (show (t.setBps (t.stub.breakpoints ++ [⟨a, w⟩])).selected = some k from hk') hr hw'
    have hpatch : patch mc a a s = .error e u :=
      (bind_ok h).trans ((bind_ok (show push _ _ = .ok () _ from rfl)).trans hr)
    have hbytes : u.mem.bytes = s.mem.bytes :=
      (congrArg (·.2.2.1) hfu).trans (congrArg (·.2.2.1) hf)
    have hbps : u.stub.breakpoints = s.stub.breakpoints ++ [⟨a, w⟩] := by
      have hu : u.stub = (t.setBps (t.stub.breakpoints ++ [⟨a, w⟩])).stub := congrArg (·.1) hfu
      rw [hu, setBps_bps, hstub]
    have hen : (u.mmu k).get_enabled = (s.mmu k).get_enabled :=
      (stays_enabled hfu k).trans (stays_enabled hf k)
    refine ⟨u, ?_, hbytes, hbps⟩
    rw [insert_breakpoint_eq hn hk, catchStd_std hpatch hw', bind_ok (bootMapping_eq u k a), hen]
    cases he : (s.mmu k).get_enabled with
    | true => rfl
    | false =>
      cases hp : boot_phys a with
      | none => rfl
      | some p =>
        -- the window has no bank that is read and not written
        have hnone := (throws_off hB hk he).mp (throws_write_mem32.mp hw)
        have hthrows := (throws_read_off hB hk he).mpr (reach_store_load hB he hp hnone)
        rw [h] at hthrows
        exact hthrows.elim

lemma insert_written (h : read_mem32 mc a s = .ok w t)
    (hw : ¬ ThrowsStd (write_mem32 mc a OPCODE_TA1 s)) :
    ¬ ThrowsStd (insert_breakpoint mc a s) := by
  rw [← write_after_read hB hk h (t.stub.breakpoints ++ [⟨a, w⟩])] at hw
  rw [insert_breakpoint_eq hn hk]
  have hpatch : patch mc a a s = write_mem32 mc a OPCODE_TA1
      (t.setBps (t.stub.breakpoints ++ [⟨a, w⟩])) :=
    (bind_ok h).trans (bind_ok (show push _ _ = .ok () _ from rfl))
  cases hr : write_mem32 mc a OPCODE_TA1 (t.setBps (t.stub.breakpoints ++ [⟨a, w⟩])) with
  | ok x u =>
    rw [catchStd_ok (hpatch.trans hr)]
    exact fun h => h
  | error e u =>
    rw [hr] at hw
    rw [catchStd_other (hpatch.trans hr) (Bool.not_eq_true _ ▸ hw)]
    exact hw

end Insert

lemma insert_failed (hB : mc.Bootable) (h : insert_breakpoint mc a s = .error e t)
    (he : e.isStdException = true) :
    (stays t = stays s ∧ ¬ Returns (read_mem32 mc a s)) ∨
    ThrowsStd (write_mem32 mc a OPCODE_TA1 s) ∧ t.mem.bytes = s.mem.bytes ∧
      ∃ w u, read_mem32 mc a s = .ok w u ∧
        t.stub.breakpoints = s.stub.breakpoints ++ [⟨a, w⟩] := by
  cases hn : s.stub.has_breakpoint a with
  | true =>
    unfold insert_breakpoint at h
    rw [get_bind, if_pos hn] at h
    cases h
  | false =>
    cases hk : s.selected with
    | none =>
      unfold insert_breakpoint at h
      rw [get_bind, if_neg (by rw [hn]; exact Bool.false_ne_true),
        bind_error (selected_none hk)] at h
      cases h
      cases he
    | some k =>
      cases hr : read_mem32 mc a s with
      | error e' u =>
        refine Or.inl ⟨?_, fun h => h⟩
        cases he' : e'.isStdException with
        | true =>
          have hf := insert_unread hB hk hn hr he'
          rwa [h] at hf
        | false =>
          have hpatch : patch mc a a s = .error e' u := bind_error hr
          rw [insert_breakpoint_eq hn hk, catchStd_other hpatch he'] at h
          cases h
          rw [he'] at he
          cases he
      | ok w u =>
        by_cases hw : ThrowsStd (write_mem32 mc a OPCODE_TA1 s)
        · obtain ⟨t', ht, hb, hl⟩ := insert_unwritten hB hk hn hr hw
          cases h.symm.trans ht
          exact Or.inr ⟨hw, hb, w, u, rfl, hl⟩
        · refine absurd ?_ (insert_written hB hk hn hr hw)
          rw [h]
          exact he

/-- **Failed insertions**: one that the stub answers with an error leaves the list alone if and only
if the address was listed already, cannot be read, or can be written. No such insertion writes to
memory. With caches that are right, the page tables and the memory map decide. -/
theorem failed_insertion_clean_iff (hB : mc.Bootable) (s : GdbSt n δ) (a : u32) :
    ((∀ e s', insert_breakpoint mc a s = .error e s' → e.isStdException = true →
        s'.stub = s.stub ∧ s'.mem.bytes = s.mem.bytes) ↔
      (s.stub.has_breakpoint a = true ∨ ¬ Returns (read_mem32 mc a s) ∨
        ¬ ThrowsStd (write_mem32 mc a OPCODE_TA1 s))) ∧
    (∀ e s', insert_breakpoint mc a s = .error e s' → e.isStdException = true →
      s'.mem.bytes = s.mem.bytes ∧
        (s'.stub = s.stub ∨ ∃ w, s'.stub.breakpoints = s.stub.breakpoints ++ [⟨a, w⟩])) ∧
    ∀ k Mixed, s.selected = some k → mc.Paged Mixed → s.Ready mc k → s.Walkable mc Mixed k a →
      s.Answered mc k .load a →
      (Returns (read_mem32 mc a s) ↔ s.reach mc k .load a ≠ none) ∧
      (ThrowsStd (write_mem32 mc a OPCODE_TA1 s) ↔ s.reach mc k .store a = none) := by
  refine ⟨⟨fun hclean => ?_, fun hc e s' h he => ?_⟩, fun e s' h he => ?_, ?_⟩
  · by_contra hc
    push Not at hc
    obtain ⟨hl, hr, hw⟩ := hc
    have hn : s.stub.has_breakpoint a = false := Bool.not_eq_true _ ▸ hl
    obtain ⟨w, u, hr⟩ := returns_iff.mp hr
    cases hk : s.selected with
    | none =>
      have hsel : read_mem32 mc a s = .error .terminate s := bind_error (selected_none hk)
      cases hsel.symm.trans hr
    | some k =>
      obtain ⟨t, ht, -, hbps⟩ := insert_unwritten hB hk hn hr hw
      have hlen := congrArg (fun l => l.breakpoints.length) (hclean _ _ ht rfl).1
      rw [hbps] at hlen
      simp at hlen
  · obtain ⟨hf, -⟩ | ⟨hw, -, w, u, hr, -⟩ := insert_failed hB h he
    · exact ⟨congrArg (·.1) hf, congrArg (·.2.2.1) hf⟩
    · obtain hl | hc | hc := hc
      · unfold insert_breakpoint at h
        rw [get_bind, if_pos hl] at h
        cases h
      · exact absurd (by rw [hr]; trivial) hc
      · exact absurd hw hc
  · obtain ⟨hf, -⟩ | ⟨-, hb, w, u, -, hl⟩ := insert_failed hB h he
    · exact ⟨congrArg (·.2.2.1) hf, Or.inl (congrArg (·.1) hf)⟩
    · exact ⟨hb, Or.inr ⟨w, hl⟩⟩
  · intro k Mixed hk hP hR hwalk ha
    constructor
    · have hr : Word32 mc .load s k 0 (s.reach mc k .load a) (read_mem32 mc a s) :=
        access32_word hP hB hR hk hwalk (by decide) _
      generalize read_mem32 mc a s = r at hr
      generalize hx : s.reach mc k .load a = x at hr
      cases hr with
      | denied _ he => exact iff_of_false (fun h => h) (fun h => h rfl)
      | done _ _ _ => exact iff_of_true trivial (Option.some_ne_none _)
      | ends hna => exact absurd (ha _ hx) hna
    · rw [throws_write_mem32]
      have hw : Word32 mc .store s k OPCODE_TA1 (s.reach mc k .store a)
          (access32 mc .store "Could not write memory at address" a OPCODE_TA1 s) :=
        access32_word hP hB hR hk hwalk (by decide) _
      generalize access32 mc .store "Could not write memory at address" a OPCODE_TA1 s = r at hw
      generalize s.reach mc k .store a = x at hw
      cases hw with
      | denied _ he => exact iff_of_true he rfl
      | done _ _ _ => exact iff_of_false (fun h => h) (Option.some_ne_none _)
      | ends _ => exact iff_of_false Bool.false_ne_true (Option.some_ne_none _)

end GdbStub

/-- A breakpoint where nothing is: the insertion fails and leaves nothing behind. -/
theorem failed_insertion_clean_unmapped :
    GdbStub.ThrowsStd (GdbStub.insert_breakpoint (MCtrl.main false oneDev) 0x10000000 bootSt) ∧
    (∀ e s', GdbStub.insert_breakpoint (MCtrl.main false oneDev) 0x10000000 bootSt = .error e s' →
      e.isStdException = true → s'.stub = bootSt.stub ∧ s'.mem.bytes = bootSt.mem.bytes) ∧
    bootSt.reach (MCtrl.main false oneDev) 0 .load 0x10000000 = none := by
  have hclean := GdbStub.failed_insertion_clean_iff (MCtrl.main_bootable false oneDev) bootSt 0x10000000
  have hunread : ¬ Returns (GdbStub.read_mem32 (MCtrl.main false oneDev) 0x10000000 bootSt) := by
    decide +kernel
  have hnowhere : bootSt.reach (MCtrl.main false oneDev) 0 .load 0x10000000 = none := rfl
  have hmapped := hclean.2.2 0 _ rfl (MCtrl.main_paged false oneDev)
    ⟨coherent_flush MMU.init _, show (0 : u32) ≤ 255 by decide⟩ (fun h => absurd h (by decide))
    (fun x hx => by cases hnowhere.symm.trans hx)
  refine ⟨?_, hclean.1.mpr (Or.inr (Or.inl hunread)), not_not.mp fun h => hunread (hmapped.1.mpr h)⟩
  decide +kernel

/-- One page, that can be read and not written. -/
def readOnlySt : GdbSt 1 Unit := { bootSt with
  mmu := fun _ => { MMU.init with control_reg := 1, ctx_tbl_ptr := 0x4000000 }
  mem := ⟨wordsAt [(0, 0x04000041), (0x400, 0x04000081), (0x800, 0x040000f1), (0xffc, 0x0400010a)], ()⟩ }

/-- A breakpoint in a page that can be read and not written: the debugger is told that it failed, and
it is listed. -/
theorem insertion_lists_read_only :
    GdbStub.ThrowsStd (GdbStub.insert_breakpoint (MCtrl.main false oneDev) 0x3f000 readOnlySt) ∧
    readOnlySt.stub.breakpoints = [] ∧
    (final (GdbStub.insert_breakpoint (MCtrl.main false oneDev) 0x3f000 readOnlySt)).stub.breakpoints
      = [⟨0x3f000, 0⟩] := by
  decide +kernel

end SparcEmu
