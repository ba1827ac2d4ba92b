import SparcEmu.Bank

/-!
The translation lookaside buffer of `MMU.cpp`: sixteen entries filled in rotation, and a
one-entry micro-cache in front of them.

A page is at least 4 KB, so the mask of every entry, and that of the micro-cache, leaves the
low twelve bits out; the structure carries this.
-/

namespace SparcEmu

/-- Bits of a virtual address that a page of the level translates; other levels throw. -/
def get_addr_level_mask (level : u8) : Except HostError u32 :=
  if level = 3 then .ok 0xfffff000
  else if level = 2 then .ok 0xfffc0000
  else if level = 1 then .ok 0xff000000
  else .error (.logic_error "Level !=1,2,3 not allowed")

/-- The mask does not look inside a 4 KB page. -/
def PageMask (mask : u32) : Prop := mask &&& 0xfff = 0

instance (mask : u32) : Decidable (PageMask mask) := inferInstanceAs (Decidable (_ = _))

lemma pageMask_of_level {level : u8} {mask : u32} (h : get_addr_level_mask level = .ok mask) :
    PageMask mask := by
  unfold get_addr_level_mask at h
  split_ifs at h <;> cases h <;> decide

namespace TLB

def TLB_ENTRIES : Nat := 16

structure Entry where
  vaddr_tag : u32 := 0
  mask : u32 := 0
  pte : u32 := 0
  context : u32 := 0
  level : u8 := 0
  deriving DecidableEq, Repr

def is_valid (pte : u32) : Bool := pte &&& 3 = 2

/-- The entry answers for the address in the context. -/
def Entry.hits (e : Entry) (context vaddr : u32) : Bool :=
  is_valid e.pte && e.context = context && vaddr &&& e.mask = e.vaddr_tag

end TLB

open TLB in
structure TLB where
  entries : List Entry
  next_victim : Nat
  mc_context : u32
  mc_vaddr_tag : u32
  mc_mask : u32
  mc_pte : u32
  mc_level : u8
  length_eq : entries.length = TLB_ENTRIES
  entry_mask : ∀ e ∈ entries, PageMask e.mask
  mc_page : PageMask mc_mask

namespace TLB

/-- All entries empty and the micro-cache marked invalid, as the constructor leaves it. -/
def init : TLB where
  entries := List.replicate TLB_ENTRIES {}
  next_victim := 0
  mc_context := 0xffffffff
  mc_vaddr_tag := 0
  mc_mask := 0
  mc_pte := 0
  mc_level := 0
  length_eq := by simp
  entry_mask := by intro e he; rw [List.eq_of_mem_replicate he]; decide
  mc_page := by decide

/-- The micro-cache takes over an entry. -/
def warm (t : TLB) (e : Entry) (he : PageMask e.mask) : TLB :=
  { t with mc_context := e.context, mc_vaddr_tag := e.vaddr_tag, mc_mask := e.mask,
           mc_pte := e.pte, mc_level := e.level, mc_page := he }

def mcHits (t : TLB) (context vaddr : u32) : Bool :=
  t.mc_context = context && vaddr &&& t.mc_mask = t.mc_vaddr_tag

/-- Page table entry and level for an address, `none` on a miss; a hit in the table warms the
micro-cache. -/
def lookup (t : TLB) (context vaddr : u32) : Option (u32 × u8) × TLB :=
  if t.mcHits context vaddr then (some (t.mc_pte, t.mc_level), t)
  else
    match h : t.entries.find? (fun e => e.hits context vaddr) with
    | some e => (some (e.pte, e.level), t.warm e (t.entry_mask e (List.mem_of_find?_eq_some h)))
    | none => (none, t)

/-- What `insert` writes for a level whose mask is known. -/
def put (t : TLB) (e : Entry) (he : PageMask e.mask) : TLB :=
  { t.warm e he with
    entries := t.entries.set t.next_victim e
    next_victim := (t.next_victim + 1) % TLB_ENTRIES
    length_eq := by simpa using t.length_eq
    entry_mask := by
      intro x hx
      rcases List.mem_or_eq_of_mem_set hx with hx | rfl
      · exact t.entry_mask x hx
      · exact he }

def insert (t : TLB) (context vaddr : u32) (level : u8) (pte : u32) : Except HostError TLB :=
  if is_valid pte then
    match h : get_addr_level_mask level with
    | .error e => .error e
    | .ok mask => .ok (t.put ⟨vaddr &&& mask, mask, pte, context, level⟩ (pageMask_of_level h))
  else .ok t

/-- The entries that answer for the address in the context lose their page table entry, and the
micro-cache is marked invalid. -/
def invalidate_strict (t : TLB) (context vaddr : u32) : TLB :=
  { t with
    entries := t.entries.map fun e => if e.hits context vaddr then { e with pte := 0 } else e
    mc_context := 0xffffffff
    length_eq := by simpa using t.length_eq
    entry_mask := by
      intro x hx
      obtain ⟨e, he, rfl⟩ := List.mem_map.mp hx
      have hm := t.entry_mask e he
      split_ifs
      · exact hm
      · exact hm }

def flush (t : TLB) : TLB :=
  { t with
    entries := List.replicate TLB_ENTRIES {}
    next_victim := 0
    mc_context := 0xffffffff
    length_eq := by simp
    entry_mask := by intro e he; rw [List.eq_of_mem_replicate he]; decide }

/-! ### What the operations leave -/

lemma warm_mcHits (t : TLB) (e : Entry) (he : PageMask e.mask) (c va : u32) :
    (t.warm e he).mcHits c va = (e.context = c && va &&& e.mask = e.vaddr_tag) := rfl

lemma lookup_cases (t : TLB) (c va : u32) :
    (t.mcHits c va = true ∧ t.lookup c va = (some (t.mc_pte, t.mc_level), t)) ∨
    (t.mcHits c va = false ∧ ∃ e, ∃ he : e ∈ t.entries, e.hits c va = true ∧
      t.lookup c va = (some (e.pte, e.level), t.warm e (t.entry_mask e he))) ∨
    (t.mcHits c va = false ∧ (∀ e ∈ t.entries, e.hits c va = false) ∧
      t.lookup c va = (none, t)) := by
  by_cases hm : t.mcHits c va = true
  · left; exact ⟨hm, by simp [lookup, hm]⟩
  · right
    have hm' : t.mcHits c va = false := by simpa using hm
    unfold lookup
    rw [if_neg hm]
    split
    · next e h =>
      exact Or.inl ⟨hm', e, List.mem_of_find?_eq_some h, by simpa using List.find?_some h, rfl⟩
    · next h =>
      refine Or.inr ⟨hm', fun e he => ?_, rfl⟩
      simpa using List.find?_eq_none.mp h e he

end TLB

end SparcEmu
