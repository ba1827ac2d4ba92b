import SparcEmu.Tlb

/-!
What a TLB answers is an entry of its table, except where the mark of an invalid micro-cache is
taken for a context.
-/

namespace SparcEmu.TLB

/-! ### Runs -/

inductive Op where
  | insert (context vaddr : u32) (level : u8) (pte : u32)
  | lookup (context vaddr : u32)
  | invalidate_strict (context vaddr : u32)
  | flush

/-- The TLB after the call; an insertion that throws has changed nothing. -/
def Op.step (t : TLB) : Op → TLB
  | .insert context vaddr level pte =>
    match t.insert context vaddr level pte with
    | .ok t' => t'
    | .error _ => t
  | .lookup context vaddr => (t.lookup context vaddr).2
  | .invalidate_strict context vaddr => t.invalidate_strict context vaddr
  | .flush => t.flush

def after (ops : List Op) : TLB := ops.foldl Op.step init

/-- If the lookup finds something, it is what a valid entry of the table has for the context and
the address. -/
def LookupSound (t : TLB) (context vaddr : u32) : Prop :=
  ∀ pte level, (t.lookup context vaddr).1 = some (pte, level) →
    ∃ e ∈ t.entries, is_valid e.pte = true ∧ e.context = context ∧
      vaddr &&& e.mask = e.vaddr_tag ∧ e.pte = pte ∧ e.level = level

/-- The fields of the micro-cache as an entry. -/
def micro (t : TLB) : Entry := ⟨t.mc_vaddr_tag, t.mc_mask, t.mc_pte, t.mc_context, t.mc_level⟩

/-- The micro-cache holds a valid entry of the table. -/
def Backed (t : TLB) : Prop := t.micro ∈ t.entries ∧ is_valid t.mc_pte = true

instance (t : TLB) : Decidable t.Backed := inferInstanceAs (Decidable (_ ∧ _))

/-! ### The table and the micro-cache -/

/-- A valid entry has the mask of its level. -/
def Entry.Shaped (e : Entry) : Prop :=
  is_valid e.pte = true → get_addr_level_mask e.level = .ok e.mask

/-- The invariant: unless it carries the mark, the micro-cache is an entry of the table. -/
structure Linked (t : TLB) : Prop where
  victim : t.next_victim < TLB_ENTRIES
  shaped : ∀ e ∈ t.entries, e.Shaped
  micro_shaped : t.micro.Shaped
  backed : t.mc_context ≠ 0xffffffff → t.Backed

lemma not_valid_zero : ¬ is_valid 0 = true := by decide

variable {e : Entry}

lemma shaped_of_zero (h : e.pte = 0) : e.Shaped := by
  intro hv
  rw [h] at hv
  exact absurd hv not_valid_zero

lemma shaped_replicate {n : Nat} (h : e ∈ List.replicate n ({} : Entry)) : e.Shaped := by
  rw [List.eq_of_mem_replicate h]
  exact shaped_of_zero rfl

lemma linked_init : init.Linked where
  victim := by decide
  shaped := fun _ he => shaped_replicate he
  micro_shaped := shaped_of_zero rfl
  backed := fun h => absurd rfl h

variable {t : TLB}

lemma Linked.flush (h : t.Linked) : t.flush.Linked where
  victim := Nat.zero_lt_succ _
  shaped := fun _ he => shaped_replicate he
  micro_shaped := h.micro_shaped
  backed := fun h => absurd rfl h

lemma Linked.invalidate_strict (h : t.Linked) (c va : u32) :
    (t.invalidate_strict c va).Linked where
  victim := h.victim
  shaped := by
    intro x hx
    obtain ⟨e, he, rfl⟩ := List.mem_map.mp hx
    split_ifs
    · exact shaped_of_zero rfl
    · exact h.shaped e he
  micro_shaped := h.micro_shaped
  backed := fun h => absurd rfl h

variable {c va : u32}

lemma hits_iff :
    e.hits c va = true ↔ is_valid e.pte = true ∧ e.context = c ∧ va &&& e.mask = e.vaddr_tag := by
  simp [Entry.hits, and_assoc]

lemma Linked.warm (h : t.Linked) (he : e ∈ t.entries) (hv : is_valid e.pte = true)
    (hm : PageMask e.mask) : (t.warm e hm).Linked where
  victim := h.victim
  shaped := h.shaped
  micro_shaped := h.shaped e he
  backed := fun _ => ⟨he, hv⟩

lemma Linked.lookup (h : t.Linked) (c va : u32) : (t.lookup c va).2.Linked := by
  obtain ⟨-, e⟩ | ⟨-, x, hx, hh, e⟩ | ⟨-, -, e⟩ := t.lookup_cases c va
  · rwa [e]
  · rw [e]
    exact h.warm hx (hits_iff.mp hh).1 _
  · rwa [e]

lemma Linked.put (h : t.Linked) (he : PageMask e.mask) (hs : e.Shaped) (hv : is_valid e.pte = true) :
    (t.put e he).Linked where
  victim := Nat.mod_lt _ (by decide)
  shaped := by
    intro x hx
    rcases List.mem_or_eq_of_mem_set hx with hx | rfl
    · exact h.shaped x hx
    · exact hs
  micro_shaped := hs
  backed := by
    intro _
    have hlt : t.next_victim < t.entries.length := by
      rw [t.length_eq]
      exact h.victim
    exact ⟨List.mem_set hlt e, hv⟩

lemma Linked.insert {t' : TLB} (h : t.Linked) {pte : u32} {level : u8}
    (hi : t.insert c va level pte = .ok t') : t'.Linked := by
  unfold TLB.insert at hi
  split_ifs at hi with hv
  · split at hi
    · cases hi
    · next mask hm =>
      cases hi
      exact h.put _ (fun _ => hm) hv
  · cases hi
    exact h

lemma Linked.step (h : t.Linked) (o : Op) : (o.step t).Linked := by
  cases o with
  | insert c va level pte =>
    show Linked (match t.insert c va level pte with | .ok t' => t' | .error _ => t)
    cases hi : t.insert c va level pte with
    | ok t' => exact h.insert hi
    | error _ => exact h
  | lookup c va => exact h.lookup c va
  | invalidate_strict c va => exact h.invalidate_strict c va
  | flush => exact h.flush

theorem linked_after (ops : List Op) : (after ops).Linked :=
  List.foldlRecOn ops Op.step linked_init fun _ h o _ => h.step o

/-! ### Soundness -/

/-- A lookup that the micro-cache does not answer, or answers with an entry of the table. -/
lemma sound_of_backed (h : t.mcHits c va = true → t.Backed) : t.LookupSound c va := by
  intro pte level hl
  obtain ⟨hm, e⟩ | ⟨-, x, hx, hh, e⟩ | ⟨-, -, e⟩ := t.lookup_cases c va
  · rw [e] at hl
    cases hl
    obtain ⟨hmem, hv⟩ := h hm
    simp only [mcHits, Bool.and_eq_true, decide_eq_true_eq] at hm
    exact ⟨t.micro, hmem, hv, hm.1, hm.2, rfl, rfl⟩
  · rw [e] at hl
    cases hl
    obtain ⟨hv, hc, ht⟩ := hits_iff.mp hh
    exact ⟨x, hx, hv, hc, ht, rfl, rfl⟩
  · rw [e] at hl
    cases hl

/-- The level fixes the mask and the mask fixes the tag, so an entry that gives the micro-cache's
answer is the one the micro-cache holds. -/
lemma Linked.backed_of_sound (h : t.Linked) (hm : t.mcHits c va = true) (hs : t.LookupSound c va) :
    t.Backed := by
  have hl : (t.lookup c va).1 = some (t.mc_pte, t.mc_level) := by simp [TLB.lookup, hm]
  obtain ⟨e, he, hv, hc, ht, hp, hlev⟩ := hs _ _ hl
  simp only [mcHits, Bool.and_eq_true, decide_eq_true_eq] at hm
  have hv' : is_valid t.mc_pte = true := hp ▸ hv
  have hmask : e.mask = t.mc_mask := by
    have h₁ := h.shaped e he hv
    have h₂ : get_addr_level_mask t.mc_level = .ok t.mc_mask := h.micro_shaped hv'
    rw [hlev, h₂] at h₁
    exact (Except.ok.inj h₁).symm
  have htag : e.vaddr_tag = t.mc_vaddr_tag := by rw [← ht, hmask, hm.2]
  have heq : e = t.micro := by
    unfold micro
    rw [← htag, ← hmask, ← hp, ← hlev, hm.1, ← hc]
  exact ⟨heq ▸ he, hv'⟩

/-- **Soundness of a lookup after any calls**: it can only fail for the context `0xffffffff`, and
there exactly where the micro-cache answers without holding an entry of the table. -/
theorem lookup_sound_iff (ops : List Op) (context vaddr : u32) :
    (after ops).LookupSound context vaddr ↔
      (context = 0xffffffff → (after ops).mcHits context vaddr = true → (after ops).Backed) := by
  have h := linked_after ops
  constructor
  · intro hs _ hm
    exact h.backed_of_sound hm hs
  · intro hb
    apply sound_of_backed
    intro hm
    by_cases hc : context = 0xffffffff
    · exact hb hc hm
    · have hmc : (after ops).mc_context = context := by
        simp only [mcHits, Bool.and_eq_true, decide_eq_true_eq] at hm
        exact hm.1
      exact h.backed (hmc ▸ hc)

/-- A TLB that has just been built answers for the context `0xffffffff` with a page table entry of
zero, and one that has been flushed with the page it held before. -/
theorem marked_context_answered :
    ((after []).lookup 0xffffffff 0x1000).1 = some (0, 0) ∧
    ¬ (after []).LookupSound 0xffffffff 0x1000 ∧
    ((after [.insert 7 0x1000 3 0x1e, .flush]).lookup 0xffffffff 0x1000).1 = some (0x1e, 3) ∧
    ¬ (after [.insert 7 0x1000 3 0x1e, .flush]).LookupSound 0xffffffff 0x1000 := by
  have empty : ∀ t : TLB, t.entries = List.replicate TLB_ENTRIES {} →
      ∀ r, (t.lookup 0xffffffff 0x1000).1 = some r → ¬ t.LookupSound 0xffffffff 0x1000 := by
    intro t ht r hr hs
    obtain ⟨e, he, hv, -⟩ := hs r.1 r.2 hr
    rw [ht] at he
    rw [List.eq_of_mem_replicate he] at hv
    exact not_valid_zero hv
  have h₁ : ((after []).lookup 0xffffffff 0x1000).1 = some (0, 0) := by decide
  have h₂ : ((after [.insert 7 0x1000 3 0x1e, .flush]).lookup 0xffffffff 0x1000).1 = some (0x1e, 3) := by
    decide
  exact ⟨h₁, empty _ rfl _ h₁, h₂, empty _ rfl _ h₂⟩

end SparcEmu.TLB
