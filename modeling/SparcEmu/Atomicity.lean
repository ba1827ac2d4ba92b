import Mathlib.Algebra.BigOperators.Ring.Finset
import Mathlib.Algebra.Order.BigOperators.Group.Finset
import SparcEmu.RamAccess
import SparcEmu.Smp

/-!
Which interleavings of atomic instructions and stores are serial: those in which no store
falls between the read and the write of an atomic instruction on the same bytes.
-/

namespace SparcEmu

open Function Lib.Interleave

variable {κ : Type} [DecidableEq κ] {b : IMemoryBank} {i : Nat}

/-! ### The instructions of one processor -/

section Alone

open Lib.Effect

variable {δ : Type} {mc : MCtrl δ}

lemma atomic_ldstub8_exec (hk : b.kind = .RamBank) (l : Loc b .b1)
    (hb : mc.get_bank l.paddr = some (i, b)) (m : Mem δ) :
    mc.atomic_ldstub8 l.paddr m = .ok (((MemOp.LDSTUB l).exec i m.bytes).1,
      { m with bytes := ((MemOp.LDSTUB l).exec i m.bytes).2 }) := by
  unfold MCtrl.atomic_ldstub8
  rw [hb]
  dsimp only
  rw [hk]
  rfl

lemma onMem_read (hk : b.kind = .RamBank) (size : AccessSize) (pa : u32) (s : MMUSt δ) :
    MMU.onMem (mc.bankRead i b size pa) s = .ok (memRead s.mem.bytes b i pa size) s := by
  unfold MMU.onMem MCtrl.bankRead
  rw [hk]

lemma onMem_write (hk : b.kind = .RamBank) (size : AccessSize) (pa v : u32) (s : MMUSt δ) :
    MMU.onMem' (mc.bankWrite i b size pa v) s =
      .ok () { s with mem := { s.mem with bytes := memWrite s.mem.bytes b i pa v size } } := by
  unfold MMU.onMem' MMU.onMem MCtrl.bankWrite
  rw [hk]
  rfl

lemma swapAt_exec (hk : b.kind = .RamBank) (l : Loc b .b4)
    (hb : mc.get_bank l.paddr = some (i, b)) (v : u32) (s : MMUSt δ) :
    ∃ old, ((MemOp.SWAP l v).exec i s.mem.bytes).1 = some old ∧
      MMU.swapAt mc l.paddr v s = .ok ⟨true, old⟩
        { s with mem := { s.mem with bytes := ((MemOp.SWAP l v).exec i s.mem.bytes).2 } } := by
  refine ⟨_, rfl, ?_⟩
  unfold MMU.swapAt
  rw [hb]
  dsimp only
  rw [bind_ok (onMem_read hk _ _ _), bind_ok (onMem_write hk _ _ _ _)]
  rfl

lemma casAt_exec (hk : b.kind = .RamBank) (l : Loc b .b4)
    (hb : mc.get_bank l.paddr = some (i, b)) (e v : u32) (s : MMUSt δ) :
    ∃ old, ((MemOp.CASA l e v).exec i s.mem.bytes).1 = some old ∧
      MMU.casAt mc l.paddr e v (pure 0) s = .ok ⟨true, old⟩
        { s with mem := { s.mem with bytes := ((MemOp.CASA l e v).exec i s.mem.bytes).2 } } := by
  have hx : ((MemOp.CASA l e v).exec i s.mem.bytes).2 =
      if memRead s.mem.bytes b i l.paddr .b4 = e then memWrite s.mem.bytes b i l.paddr v .b4
      else s.mem.bytes := by
    show MemOp.put (.CASA l e v) i (memRead s.mem.bytes b i l.paddr .b4) s.mem.bytes = _
    unfold MemOp.put
    rw [show MemOp.update (.CASA l e v) (memRead s.mem.bytes b i l.paddr .b4) =
      if memRead s.mem.bytes b i l.paddr .b4 = e then some v else none from rfl]
    split_ifs <;> rfl
  refine ⟨_, rfl, ?_⟩
  rw [hx]
  unfold MMU.casAt
  rw [hb]
  dsimp only
  rw [bind_ok (onMem_read hk _ _ _)]
  split_ifs with he
  · rw [bind_ok (show (pure 0 : MmuM δ u8) s = .ok 0 s from rfl), if_neg (by decide),
      bind_ok (onMem_write hk _ _ _ _)]
    rfl
  · rfl

/-- A store behind the translation: with the MMU on it writes the bytes directly, and fills
the store cache for the stores that follow. -/
lemma busAccess_store (hk : b.kind = .RamBank) {pa va : u32} (hin : b.contains pa = true)
    (hb : mc.get_bank pa = some (i, b)) (hp : pa &&& 0xfff = va &&& 0xfff) (size : AccessSize)
    (v : u32) (sup rep : Bool) (s : MMUSt δ) :
    MMU.busAccess mc .store size va v pa sup rep true s = .ok (0, v)
      ⟨s.mmu.l0Fill .store va sup i b pa,
        { s.mem with bytes := ptrWrite s.mem.bytes ⟨i, b.offset pa⟩ v size }⟩ := by
  unfold MMU.busAccess
  rw [hb]
  dsimp only
  rw [show b.get_ptr = .ok true by unfold IMemoryBank.get_ptr; rw [hk], MMU.page_ptr hin hp]
  rfl

end Alone

/-! ### Bytes of different instructions -/

namespace MemOp

variable {op op' : MemOp b} {h : HostBytes}

lemma inside (op : MemOp b) : b.contains op.paddr = true := by
  cases op <;> exact Loc.inside _

lemma aligned (op : MemOp b) : op.paddr.toNat % op.size.bytes = 0 := by
  cases op <;> exact Loc.aligned _

lemma bytes_cases (op : MemOp b) : op.size.bytes = 1 ∨ op.size.bytes = 4 := by
  cases op <;> simp [size, AccessSize.bytes]

/-- The two instructions have a byte in common. -/
def Overlaps (op op' : MemOp b) : Prop :=
  op.paddr.toNat < op'.paddr.toNat + op'.size.bytes ∧
    op'.paddr.toNat < op.paddr.toNat + op.size.bytes

lemma offset_eq (op : MemOp b) : b.offset op.paddr = op.paddr.toNat - b.base.toNat :=
  b.offset_of_contains op.inside

lemma Overlaps.shard (ho : op.Overlaps op') : op.shard = op'.shard := by
  obtain ⟨h1, h2⟩ := ho
  have ha := op.aligned
  have ha' := op'.aligned
  have hp : op.paddr.toNat / 4096 = op'.paddr.toNat / 4096 := by
    rcases op.bytes_cases with e | e <;> rcases op'.bytes_cases with e' | e' <;>
      rw [e] at ha h2 <;> rw [e'] at ha' h1 <;> omega
  have hs : op.paddr >>> 12 = op'.paddr >>> 12 := by
    apply BitVec.eq_of_toNat_eq
    rw [BitVec.toNat_ushiftRight, BitVec.toNat_ushiftRight, Nat.shiftRight_eq_div_pow,
      Nat.shiftRight_eq_div_pow]
    exact hp
  unfold MemOp.shard
  rw [hs]

lemma put_other (hk : b.kind = .RamBank) (old : u32) {j : Nat} {q : Int}
    (ho : Outside ⟨i, b.offset op.paddr⟩ op.size.bytes j q) : op.put i old h j q = h j q := by
  unfold put
  rcases op.update old with _ | v
  · rfl
  · exact memWrite_other (consecutive_ram hk _) _ ho

lemma exec_other (hs : op.isStore = true) {j : Nat} {q : Int}
    (ho : Outside ⟨i, b.offset op.paddr⟩ op.size.bytes j q) : (op.exec i h).2 j q = h j q := by
  cases op with
  | STB l v | ST l v => exact ptrWrite_other v ho
  | _ => cases hs

lemma read_other (hk : b.kind = .RamBank) {h' : HostBytes} (ho : ¬ op.Overlaps op')
    (hw : ∀ q, Outside ⟨i, b.offset op.paddr⟩ op.size.bytes i q → h' i q = h i q) :
    memRead h' b i op'.paddr op'.size = memRead h b i op'.paddr op'.size := by
  refine memRead_congr (consecutive_ram hk _) fun q h1 h2 => hw q ?_
  rw [offset_eq] at h1 h2
  unfold Overlaps at ho
  right
  show q < b.offset op.paddr ∨ b.offset op.paddr + op.size.bytes ≤ q
  rw [offset_eq]
  omega

lemma exec_atomic (hs : op.isStore = false) : op.exec i h =
    (some (memRead h b i op.paddr op.size), op.put i (memRead h b i op.paddr op.size) h) := by
  cases op with
  | STB l v => cases hs
  | ST l v => cases hs
  | _ => rfl

lemma exec_store (hs : op.isStore = true) : (op.exec i h).1 = none := by
  cases op with
  | STB l v => rfl
  | ST l v => rfl
  | _ => cases hs

end MemOp

/-! ### One instruction without interruption -/

namespace Smp

variable {s : Smp κ b} {k : κ} {op : MemOp b} {rest : List (MemOp b)}

lemma step_eq (hp : (s.core k).prog = op :: rest) (hs : op.isStore = false) : step i k s =
    match (s.core k).ctl with
    | .idle =>
      if s.mutex op.shard = none then
        some { s.setCtl k .locked with mutex := update s.mutex op.shard (some k) }
      else none
    | .locked =>
      some (s.setCtl k (if (op.update (memRead s.bytes b i op.paddr op.size)).isSome
        then .read (memRead s.bytes b i op.paddr op.size)
        else .done (memRead s.bytes b i op.paddr op.size)))
    | .read old => some { s.setCtl k (.done old) with bytes := op.put i old s.bytes }
    | .done old =>
      some { s with
        mutex := update s.mutex op.shard none
        core := update s.core k
          { s.core k with prog := rest, ctl := .idle, loaded := (s.core k).loaded ++ [old] } } := by
  unfold step
  rw [hp]
  have hload : ¬ op.isStore = true := by rw [hs]; exact Bool.false_ne_true
  refine (if_neg hload).trans ?_
  cases (s.core k).ctl <;> rfl

/-- Processor `k` at the place `c` of its instruction. -/
def within (s : Smp κ b) (k : κ) (c : Ctl) (mutex : Nat → Option κ) (bytes : HostBytes) : Smp κ b :=
  ⟨bytes, mutex, update s.core k { s.core k with ctl := c }⟩

lemma within_core (s : Smp κ b) (k : κ) (c : Ctl) (mutex : Nat → Option κ) (bytes : HostBytes) :
    (s.within k c mutex bytes).core k = { s.core k with ctl := c } := update_self ..

lemma within_setCtl (s : Smp κ b) (k : κ) (c c' : Ctl) (mutex : Nat → Option κ) (bytes : HostBytes) :
    (s.within k c mutex bytes).setCtl k c' = s.within k c' mutex bytes := by
  unfold setCtl
  rw [within_core]
  unfold within
  rw [update_idem]

/-- A processor that has the bank to itself executes its instruction. -/
theorem run_alone (hp : (s.core k).prog = op :: rest) (hc : (s.core k).ctl = .idle)
    (hm : s.mutex op.shard = none) :
    ∃ n, run (step i) (List.replicate n k) s = some { s with
      bytes := (op.exec i s.bytes).2
      core := update s.core k
        ⟨rest, .idle, (s.core k).loaded ++ (op.exec i s.bytes).1.toList⟩ } := by
  cases hs : op.isStore with
  | true =>
    refine ⟨1, ?_⟩
    show (step i k s).bind _ = _
    unfold step
    rw [hp]
    dsimp only
    rw [hs, if_pos rfl, MemOp.exec_store hs, hc]
    show some _ = some _
    rw [Option.toList_none, List.append_nil]
  | false =>
    have hpk : ∀ c mutex bytes, ((s.within k c mutex bytes).core k).prog = op :: rest :=
      fun c mutex bytes => by rw [within_core]; exact hp
    set old := memRead s.bytes b i op.paddr op.size with hold
    set owned := update s.mutex op.shard (some k) with howned
    have hfree : update owned op.shard none = s.mutex := by
      rw [howned, update_idem]
      exact update_eq_self_iff.mpr hm.symm
    have h1 : step i k s = some (s.within k .locked owned s.bytes) := by
      rw [step_eq hp hs, hc]
      dsimp only
      rw [if_pos hm]
      rfl
    have h3 : step i k (s.within k (.read old) owned s.bytes) =
        some (s.within k (.done old) owned (op.put i old s.bytes)) := by
      rw [step_eq (hpk _ _ _) hs, within_core]
      dsimp only
      rw [within_setCtl]
      rfl
    have h4 : ∀ bytes, step i k (s.within k (.done old) owned bytes) = some { s with
        bytes := bytes
        core := update s.core k ⟨rest, .idle, (s.core k).loaded ++ [old]⟩ } := fun bytes => by
      rw [step_eq (hpk _ _ _) hs, within_core]
      dsimp only
      unfold within
      dsimp only
      rw [hfree, update_idem]
    have h2 : step i k (s.within k .locked owned s.bytes) = some (s.within k
        (if (op.update old).isSome then .read old else .done old) owned s.bytes) := by
      rw [step_eq (hpk _ _ _) hs, within_core]
      dsimp only
      rw [within_setCtl]
      rfl
    rw [MemOp.exec_atomic hs, ← hold]
    cases hu : op.update old with
    | none =>
      refine ⟨3, ?_⟩
      rw [hu] at h2
      show (step i k s).bind (fun t => (step i k t).bind fun t => (step i k t).bind some) = _
      rw [h1, Option.bind_some, h2, Option.bind_some, if_neg (by decide), h4, Option.bind_some,
        MemOp.put, hu]
      rfl
    | some v =>
      refine ⟨4, ?_⟩
      rw [hu] at h2
      show (step i k s).bind (fun t => (step i k t).bind fun t => (step i k t).bind fun t =>
        (step i k t).bind some) = _
      rw [h1, Option.bind_some, h2, Option.bind_some, if_pos (by rfl), h3, Option.bind_some, h4,
        Option.bind_some]
      rfl

end Smp

/-! ### What has taken effect -/

/-- The instructions of a core that have not taken effect. -/
def Core.pending (c : Core b) : List (MemOp b) :=
  match c.ctl with
  | .done _ => c.prog.tail
  | _ => c.prog

/-- The values that the instructions with an effect have loaded. -/
def Core.got (c : Core b) : List u32 :=
  match c.ctl with
  | .done old => c.loaded ++ [old]
  | _ => c.loaded

/-! ### Mutual exclusion -/

namespace Smp

/-- A processor inside an atomic instruction owns the shard, and what it has read is still
there. -/
structure Inv (i : Nat) (s : Smp κ b) : Prop where
  owner : ∀ k, (s.core k).ctl ≠ .idle → ∃ op rest, (s.core k).prog = op :: rest ∧
    op.isStore = false ∧ s.mutex op.shard = some k
  read : ∀ k op rest old, (s.core k).prog = op :: rest → (s.core k).ctl = .read old →
    memRead s.bytes b i op.paddr op.size = old

/-- The condition on a step of `k`: it does not store into what another processor has read
and will write. -/
def Clear (k : κ) (s : Smp κ b) : Prop :=
  ∀ op rest, (s.core k).prog = op :: rest → op.isStore = true →
    ∀ j op' rest' old, (s.core j).prog = op' :: rest' → (s.core j).ctl = .read old →
      ¬ op.Overlaps op'

inductive Steps (i : Nat) (k : κ) (s : Smp κ b) (op : MemOp b) (rest : List (MemOp b)) :
    Smp κ b → Prop
  | store (hs : op.isStore = true) : Steps i k s op rest { s with
      bytes := (op.exec i s.bytes).2
      core := update s.core k { s.core k with prog := rest } }
  | acquire (hs : op.isStore = false) (hc : (s.core k).ctl = .idle) (hm : s.mutex op.shard = none) :
      Steps i k s op rest
        { s.setCtl k .locked with mutex := update s.mutex op.shard (some k) }
  | read (old : u32) (hs : op.isStore = false) (hc : (s.core k).ctl = .locked)
      (ho : memRead s.bytes b i op.paddr op.size = old) (hu : (op.update old).isSome = true) :
      Steps i k s op rest (s.setCtl k (.read old))
  | readOnly (old : u32) (hs : op.isStore = false) (hc : (s.core k).ctl = .locked)
      (ho : memRead s.bytes b i op.paddr op.size = old) (hu : op.update old = none) :
      Steps i k s op rest (s.setCtl k (.done old))
  | write (old : u32) (hs : op.isStore = false) (hc : (s.core k).ctl = .read old) :
      Steps i k s op rest { s.setCtl k (.done old) with bytes := op.put i old s.bytes }
  | release (old : u32) (hs : op.isStore = false) (hc : (s.core k).ctl = .done old) :
      Steps i k s op rest { s with
        mutex := update s.mutex op.shard none
        core := update s.core k
          { s.core k with prog := rest, ctl := .idle, loaded := (s.core k).loaded ++ [old] } }

lemma step_cases {k : κ} {s s' : Smp κ b} (h : step i k s = some s') :
    ∃ op rest, (s.core k).prog = op :: rest ∧ Steps i k s op rest s' := by
  unfold step at h
  split at h
  · cases h
  · rename_i op rest hp
    refine ⟨op, rest, hp, ?_⟩
    cases hs : op.isStore with
    | true =>
      rw [hs, if_pos rfl] at h
      cases h
      exact .store hs
    | false =>
      rw [hs, if_neg Bool.false_ne_true] at h
      split at h
      · rename_i hc
        split_ifs at h with hm
        cases h
        exact .acquire hs hc hm
      · rename_i hc
        dsimp only at h
        split_ifs at h with hu
        · cases h
          exact .read _ hs hc rfl hu
        · cases h
          exact .readOnly _ hs hc rfl (Option.not_isSome_iff_eq_none.mp hu)
      · rename_i old hc
        cases h
        exact .write old hs hc
      · rename_i old hc
        cases h
        exact .release old hs hc

variable {s s' : Smp κ b} {k : κ} {op : MemOp b} {rest : List (MemOp b)}

omit [DecidableEq κ] in
lemma Inv.owner_of (hi : Inv i s) (hp : (s.core k).prog = op :: rest) (hc : (s.core k).ctl ≠ .idle) :
    op.isStore = false ∧ s.mutex op.shard = some k := by
  obtain ⟨_, _, e, hs, hm⟩ := hi.owner k hc
  rw [hp] at e
  cases e
  exact ⟨hs, hm⟩

omit [DecidableEq κ] in
lemma Inv.store_idle (hi : Inv i s) (hp : (s.core k).prog = op :: rest) (hs : op.isStore = true) :
    (s.core k).ctl = .idle := by
  by_contra hne
  have h' := (hi.owner_of hp hne).1
  rw [hs] at h'
  cases h'

/-- A step of `k` keeps the invariant if it does for `k`, takes no shard from another
processor and leaves alone what another processor has read. -/
lemma Inv.update_core (hi : Inv i s) {bytes : HostBytes} {mutex : Nat → Option κ} {c : Core b}
    (howner : c.ctl ≠ .idle → ∃ op rest, c.prog = op :: rest ∧ op.isStore = false ∧
      mutex op.shard = some k)
    (hread : ∀ op rest old, c.prog = op :: rest → c.ctl = .read old →
      memRead bytes b i op.paddr op.size = old)
    (hmutex : ∀ j, j ≠ k → ∀ sh, s.mutex sh = some j → mutex sh = some j)
    (hbytes : ∀ j, j ≠ k → ∀ op' rest' old, (s.core j).prog = op' :: rest' →
      (s.core j).ctl = .read old →
        memRead bytes b i op'.paddr op'.size = memRead s.bytes b i op'.paddr op'.size) :
    Inv i ⟨bytes, mutex, update s.core k c⟩ where
  owner := by
    intro j
    dsimp only
    by_cases hj : j = k
    · subst hj
      rw [update_self]
      exact howner
    · rw [update_of_ne hj]
      intro hc
      obtain ⟨op', rest', hp, hs, hm⟩ := hi.owner j hc
      exact ⟨op', rest', hp, hs, hmutex j hj _ hm⟩
  read := by
    intro j op' rest' old
    dsimp only
    by_cases hj : j = k
    · subst hj
      rw [update_self]
      exact hread op' rest' old
    · rw [update_of_ne hj]
      intro hp hc
      rw [hbytes j hj op' rest' old hp hc]
      exact hi.read j op' rest' old hp hc

/-- **One step** keeps the mutual exclusion. -/
lemma Inv.step (hk : b.kind = .RamBank) (hi : Inv i s) (hclear : Clear k s)
    (hp : (s.core k).prog = op :: rest) (h : Steps i k s op rest s') : Inv i s' := by
  cases h with
  | store hs =>
    have hidle := hi.store_idle hp hs
    refine hi.update_core (fun h => absurd hidle h) (fun _ _ old _ hr => ?_) (fun _ _ _ h => h)
      fun j _ op' rest' old hp' hr => ?_
    · rw [show (s.core k).ctl = .read old from hr] at hidle
      cases hidle
    · exact MemOp.read_other hk (hclear op rest hp hs j op' rest' old hp' hr)
        fun q ho => MemOp.exec_other hs ho
  | acquire hs hidle hm =>
    refine hi.update_core (fun _ => ⟨op, rest, hp, hs, update_self ..⟩) (fun _ _ _ _ hr => by cases hr)
      (fun j _ sh hsh => ?_) fun _ _ _ _ _ _ _ => rfl
    rw [update_of_ne, hsh]
    rintro rfl
    rw [hm] at hsh
    cases hsh
  | read old hs hl ho hu =>
    have hown := (hi.owner_of hp (by rw [hl]; exact Ctl.noConfusion)).2
    refine hi.update_core (fun _ => ⟨op, rest, hp, hs, hown⟩) (fun op' rest' old' hp' hr => ?_)
      (fun _ _ _ h => h) fun _ _ _ _ _ _ _ => rfl
    rw [show (s.core k).prog = op' :: rest' from hp'] at hp
    cases hp
    cases hr
    exact ho
  | readOnly old hs hl ho hu =>
    have hown := (hi.owner_of hp (by rw [hl]; exact Ctl.noConfusion)).2
    exact hi.update_core (fun _ => ⟨op, rest, hp, hs, hown⟩) (fun _ _ _ _ hr => by cases hr)
      (fun _ _ _ h => h) fun _ _ _ _ _ _ _ => rfl
  | write old hs hr =>
    have hown := (hi.owner_of hp (by rw [hr]; exact Ctl.noConfusion)).2
    refine hi.update_core (fun _ => ⟨op, rest, hp, hs, hown⟩) (fun _ _ _ _ hr => by cases hr)
      (fun _ _ _ h => h) fun j hj op' rest' old' hp' hr' => ?_
    -- The other processor holds another shard, so it has read other bytes.
    have hown' := (hi.owner_of hp' (by rw [hr']; exact Ctl.noConfusion)).2
    refine MemOp.read_other hk (fun ho => hj ?_) fun q ho => MemOp.put_other hk old ho
    rw [ho.shard, hown'] at hown
    exact Option.some.inj hown
  | release old hs hd =>
    have hown := (hi.owner_of hp (by rw [hd]; exact Ctl.noConfusion)).2
    refine hi.update_core (fun h => absurd rfl h) (fun _ _ _ _ hr => by cases hr)
      (fun j hj sh hsh => ?_) fun _ _ _ _ _ _ _ => rfl
    rw [update_of_ne, hsh]
    rintro rfl
    rw [hown] at hsh
    exact hj (Option.some.inj hsh).symm

/-! ### The serial machine -/

/-- What has taken effect: an instruction does with its write, or with its read if it makes
no write. -/
def effect (s : Smp κ b) : Serial κ b where
  bytes := s.bytes
  prog := fun k => (s.core k).pending
  loaded := fun k => (s.core k).got

lemma effect_update (s : Smp κ b) (bytes : HostBytes) (mutex : Nat → Option κ) (k : κ) (c : Core b) :
    effect ⟨bytes, mutex, update s.core k c⟩ =
      ⟨bytes, update s.effect.prog k c.pending, update s.effect.loaded k c.got⟩ := by
  unfold effect
  congr 1
  · funext j
    exact apply_update (fun _ => Core.pending) s.core k c j
  · funext j
    exact apply_update (fun _ => Core.got) s.core k c j

lemma effect_same (s : Smp κ b) (mutex : Nat → Option κ) {k : κ} {c : Core b}
    (hp : c.pending = (s.core k).pending) (hg : c.got = (s.core k).got) :
    effect ⟨s.bytes, mutex, update s.core k c⟩ = s.effect := by
  rw [effect_update, hp, hg]
  show (⟨s.bytes, update s.effect.prog k (s.effect.prog k),
    update s.effect.loaded k (s.effect.loaded k)⟩ : Serial κ b) = s.effect
  rw [update_eq_self, update_eq_self]
  rfl

lemma effect_exec (s : Smp κ b) (op : MemOp b) (rest : List (MemOp b)) (mutex : Nat → Option κ)
    {k : κ} {c : Core b} (hp : (s.core k).pending = op :: rest) (hr : c.pending = rest)
    (hg : c.got = (s.core k).got ++ (op.exec i s.bytes).1.toList) :
    Serial.step i k s.effect = some (effect ⟨(op.exec i s.bytes).2, mutex, update s.core k c⟩) := by
  unfold Serial.step
  rw [show s.effect.prog k = op :: rest from hp, effect_update, hr, hg]
  rfl

/-- **One step** is one instruction of its processor, or is not seen. -/
lemma Inv.seen (hi : Inv i s) (hp : (s.core k).prog = op :: rest) (h : Steps i k s op rest s') :
    s'.effect = s.effect ∨ Serial.step i k s.effect = some s'.effect := by
  cases h with
  | store hs =>
    right
    have hidle : (s.core k).ctl = .idle := hi.store_idle hp hs
    refine effect_exec s op rest _ ?_ ?_ ?_
    · simp only [Core.pending, hidle, hp]
    · simp only [Core.pending, hidle]
    · simp only [Core.got, hidle, MemOp.exec_store hs, Option.toList_none, List.append_nil]
  | acquire hs hidle hm =>
    left
    exact effect_same s _ (by simp only [Core.pending, hidle]) (by simp only [Core.got, hidle])
  | read old hs hl ho hu =>
    left
    exact effect_same s _ (by simp only [Core.pending, hl]) (by simp only [Core.got, hl])
  | readOnly old hs hl ho hu =>
    right
    have he : op.exec i s.bytes = (some old, s.bytes) := by
      rw [MemOp.exec_atomic hs, ho, MemOp.put, hu]
    have hx := effect_exec (i := i) s op rest s.mutex (k := k) (c := { s.core k with ctl := .done old })
      (by simp only [Core.pending, hl, hp]) (by simp only [Core.pending, hp, List.tail_cons])
      (by simp only [Core.got, hl, he, Option.toList_some])
    rw [he] at hx
    exact hx
  | write old hs hr =>
    right
    have he : op.exec i s.bytes = (some old, op.put i old s.bytes) := by
      rw [MemOp.exec_atomic hs, hi.read k op rest old hp hr]
    have hx := effect_exec (i := i) s op rest s.mutex (k := k) (c := { s.core k with ctl := .done old })
      (by simp only [Core.pending, hr, hp]) (by simp only [Core.pending, hp, List.tail_cons])
      (by simp only [Core.got, hr, he, Option.toList_some])
    rw [he] at hx
    exact hx
  | release old hs hd =>
    left
    exact effect_same s _ (by simp only [Core.pending, hd, hp, List.tail_cons])
      (by simp only [Core.got, hd])

omit [DecidableEq κ] in
lemma inv_start (bytes : HostBytes) (prog : κ → List (MemOp b)) : Inv i (start bytes prog) :=
  ⟨fun _ h => absurd rfl h, fun _ _ _ _ _ h => by cases h⟩

end Smp

/-- **Serial order**: take any programs of atomic instructions and stores, and any schedule in
which no store falls between the read and the write of another processor's atomic instruction
on the same bytes. Whenever all processors are between instructions, memory and the loaded
values are those of executing the instructions one at a time, in an order that is each
processor's own. -/
theorem serial_order (hk : b.kind = .RamBank) (i : Nat) (bytes : HostBytes)
    (prog : κ → List (MemOp b)) (schedule : List κ)
    (hclear : Allowed (Smp.step i) Smp.Clear schedule (Smp.start bytes prog)) {s : Smp κ b}
    (hrun : run (Smp.step i) schedule (Smp.start bytes prog) = some s)
    (hidle : ∀ k, (s.core k).ctl = .idle) :
    ∃ order, run (Serial.step i) order ⟨bytes, prog, fun _ => []⟩ =
      some ⟨s.bytes, fun k => (s.core k).prog, fun k => (s.core k).loaded⟩ := by
  obtain ⟨-, order, ho⟩ := refines (Smp.Inv i) Smp.effect
    (fun k s s' hi hc h => by
      obtain ⟨op, rest, hp, hs⟩ := Smp.step_cases h
      exact hi.step hk hc hp hs)
    (fun k s s' hi _ h => by
      obtain ⟨op, rest, hp, hs⟩ := Smp.step_cases h
      exact hi.seen hp hs)
    (Smp.inv_start bytes prog) hclear hrun
  refine ⟨order, ?_⟩
  have he : s.effect = ⟨s.bytes, fun k => (s.core k).prog, fun k => (s.core k).loaded⟩ := by
    unfold Smp.effect
    congr 1 <;> funext k
    · simp only [Core.pending, hidle k]
    · simp only [Core.got, hidle k]
  rw [← he]
  exact ho

/-! ### A lock byte -/

/-- A lock in the first byte of RAM. -/
def lockBank : IMemoryBank := ⟨.RamBank, 0x40000000, 0x1000, .Big⟩

def lockByte : Loc lockBank .b1 := ⟨0x40000000, by decide, by decide⟩

/-- One processor tries to take the lock, the other, which has it, releases it. -/
def lockProgs : Bool → List (MemOp lockBank)
  | false => [.LDSTUB lockByte]
  | true => [.STB lockByte 0]

def lockTaken : HostBytes := fun _ _ => 0xff

/-- The instructions left, the lock and what the first processor has loaded. -/
def lockView (c : Serial Bool lockBank) : Nat × Nat × u8 × List u32 :=
  ((c.prog false).length, (c.prog true).length, c.bytes 0 0, c.loaded false)

/-- If the release falls between read and write, it is lost: the first processor has seen the
lock taken, and the lock is taken. In no serial order both is so. -/
theorem release_lost : ∃ s : Smp Bool lockBank,
    run (Smp.step 0) [false, false, true, false, false] (Smp.start lockTaken lockProgs) = some s ∧
      (∀ k, (s.core k).prog = [] ∧ (s.core k).ctl = .idle) ∧
      ¬∃ order, run (Serial.step 0) order ⟨lockTaken, lockProgs, fun _ => []⟩ =
        some ⟨s.bytes, fun k => (s.core k).prog, fun k => (s.core k).loaded⟩ := by
  refine ⟨_, rfl, by rintro (_ | _) <;> exact ⟨rfl, rfl⟩, ?_⟩
  rintro ⟨order, h⟩
  -- Both instructions have been executed, so the order has two entries.
  have ho : (run (Serial.step 0) order ⟨lockTaken, lockProgs, fun _ => []⟩).map lockView
      = some (0, 0, 0xff, [0xff]) := by rw [h]; decide
  rcases order with _ | ⟨_ | _, _ | ⟨_ | _, _ | ⟨_ | _, rest⟩⟩⟩
  all_goals first
    | exact absurd ho (by decide)
    | cases ho

/-- If the release comes after, the order is serial. -/
theorem serial_order_lock : ∃ s : Smp Bool lockBank,
    run (Smp.step 0) [false, false, false, false, true] (Smp.start lockTaken lockProgs) = some s ∧
      ∃ order, run (Serial.step 0) order ⟨lockTaken, lockProgs, fun _ => []⟩ =
        some ⟨s.bytes, fun k => (s.core k).prog, fun k => (s.core k).loaded⟩ := by
  refine ⟨_, rfl, serial_order rfl 0 lockTaken lockProgs [false, false, false, false, true] ?_ rfl
    (by rintro (_ | _) <;> rfl)⟩
  have hload : ∀ s : Smp Bool lockBank, (s.core false).prog = lockProgs false →
      Smp.Clear false s := fun s h op rest hp hs => by
    rw [h] at hp
    cases hp
    cases hs
  refine ⟨hload _ rfl, ?_⟩
  rintro _ ⟨⟩
  refine ⟨hload _ rfl, ?_⟩
  rintro _ ⟨⟩
  refine ⟨hload _ rfl, ?_⟩
  rintro _ ⟨⟩
  refine ⟨hload _ rfl, ?_⟩
  rintro _ ⟨⟩
  refine ⟨?_, fun _ _ => trivial⟩
  -- Now no processor is inside an atomic instruction.
  rintro _ _ - - (_ | _) _ _ _ - hr
  · cases hr
  · cases hr

/-! ### Progress -/

/-- The steps that are left, at most four for an instruction. -/
def Core.left (c : Core b) : Nat :=
  4 * c.prog.length - match c.ctl with
    | .idle => 0
    | .locked => 1
    | .read _ => 2
    | .done _ => 3

namespace Smp

variable {s s' : Smp κ b} {k : κ} {op : MemOp b} {rest : List (MemOp b)}

/-- A locked shard is that of the atomic instruction its owner is in. -/
def Owned (s : Smp κ b) : Prop :=
  ∀ sh k, s.mutex sh = some k → (s.core k).ctl ≠ .idle ∧
    ∃ op rest, (s.core k).prog = op :: rest ∧ op.isStore = false ∧ op.shard = sh

lemma step_core (hp : (s.core k).prog = op :: rest) (h : Steps i k s op rest s') :
    ∃ c, s'.core = update s.core k c ∧ c.left < (s.core k).left := by
  cases h with
  | store hs =>
    refine ⟨_, rfl, ?_⟩
    unfold Core.left
    rw [hp, List.length_cons]
    dsimp only
    split <;> omega
  | acquire hs hc | read old hs hc | readOnly old hs hc | write old hs hc | release old hs hc =>
    refine ⟨_, rfl, ?_⟩
    simp only [Core.left, hp, hc, List.length_cons]
    omega

lemma Owned.update_core (ho : s.Owned) {bytes : HostBytes} {mutex : Nat → Option κ} {c : Core b}
    (hother : ∀ sh j, j ≠ k → mutex sh = some j → s.mutex sh = some j)
    (hown : ∀ sh, mutex sh = some k → c.ctl ≠ .idle ∧
      ∃ op rest, c.prog = op :: rest ∧ op.isStore = false ∧ op.shard = sh) :
    Owned ⟨bytes, mutex, update s.core k c⟩ := by
  intro sh j hj
  dsimp only at hj ⊢
  by_cases hjk : j = k
  · subst hjk
    rw [update_self]
    exact hown sh hj
  · rw [update_of_ne hjk]
    exact ho sh j (hother sh j hjk hj)

lemma Owned.kept (ho : s.Owned) (hp : (s.core k).prog = op :: rest) (h : Steps i k s op rest s') :
    s'.Owned := by
  -- What `k` owns is the shard of its current instruction.
  have hk : ∀ sh, s.mutex sh = some k → (s.core k).ctl ≠ .idle ∧ op.isStore = false ∧ op.shard = sh := by
    intro sh h
    obtain ⟨hc, _, _, e, h⟩ := ho sh k h
    rw [hp] at e
    cases e
    exact ⟨hc, h⟩
  have hsame : ∀ {c : Ctl}, c ≠ .idle → ∀ sh, s.mutex sh = some k → c ≠ .idle ∧
      ∃ op' rest', (s.core k).prog = op' :: rest' ∧ op'.isStore = false ∧ op'.shard = sh :=
    fun hc sh h => ⟨hc, op, rest, hp, (hk sh h).2⟩
  cases h with
  | store hs =>
    refine ho.update_core (fun _ _ _ h => h) fun sh h => ?_
    have hl := (hk sh h).2.1
    rw [hs] at hl
    cases hl
  | acquire hs hc hm =>
    refine ho.update_core (fun sh j hj h => ?_) fun sh h => ⟨Ctl.noConfusion, op, rest, hp, hs, ?_⟩
    · by_cases hsh : sh = op.shard
      · rw [hsh, update_self] at h
        exact absurd (Option.some.inj h).symm hj
      · rwa [update_of_ne hsh] at h
    · by_contra hsh
      rw [update_of_ne (Ne.symm hsh)] at h
      exact (hk sh h).1 hc
  | read | readOnly | write => exact ho.update_core (fun _ _ _ h => h) (hsame Ctl.noConfusion)
  | release old hs hc =>
    have hfree : ∀ sh j, update s.mutex op.shard none sh = some j → sh ≠ op.shard ∧ s.mutex sh = some j := by
      intro sh j h
      by_cases hsh : sh = op.shard
      · rw [hsh, update_self] at h
        cases h
      · rw [update_of_ne hsh] at h
        exact ⟨hsh, h⟩
    refine ho.update_core (fun sh j _ h => (hfree sh j h).2) fun sh h => ?_
    obtain ⟨hsh, h⟩ := hfree sh k h
    exact absurd (hk sh h).2.2.symm hsh

/-- Who waits waits for a processor that does not. -/
lemma Owned.progress (ho : s.Owned) (hp : (s.core k).prog ≠ []) : ∃ j, step i j s ≠ none := by
  have hinside : ∀ j, (s.core j).ctl ≠ .idle → (s.core j).prog ≠ [] → step i j s ≠ none := by
    intro j hc hp
    unfold step
    split
    · contradiction
    · split
      · exact Option.some_ne_none _
      · split <;> first | contradiction | exact Option.some_ne_none _
  by_cases hc : (s.core k).ctl = .idle
  · obtain ⟨op, rest, hp⟩ := List.exists_cons_of_ne_nil hp
    cases hm : s.mutex op.shard with
    | none =>
      refine ⟨k, ?_⟩
      unfold step
      rw [hp, hc]
      dsimp only
      rw [if_pos hm]
      split <;> exact Option.some_ne_none _
    | some j =>
      obtain ⟨hj, _, _, e, -⟩ := ho _ j hm
      exact ⟨j, hinside j hj (by rw [e]; exact List.cons_ne_nil _ _)⟩
  · exact ⟨k, hinside k hc hp⟩

/-- **No deadlock and no livelock**: whatever the schedule, a run has at most four steps for an
instruction, and when no processor can go on, all programs are finished. -/
theorem run_completes [Fintype κ] (bytes : HostBytes) (prog : κ → List (MemOp b))
    {schedule : List κ} (hrun : run (step i) schedule (start bytes prog) = some s) :
    schedule.length ≤ 4 * ∑ k, (prog k).length ∧
      ((∀ k, step i k s = none) → ∀ k, (s.core k).prog = []) := by
  obtain ⟨ho, hle⟩ := run_variant Owned (fun s => ∑ k, (s.core k).left) (fun k s s' ho h => by
    obtain ⟨op, rest, hp, hs⟩ := step_cases h
    obtain ⟨c, hc, hlt⟩ := step_core hp hs
    refine ⟨ho.kept hp hs, Finset.sum_lt_sum (fun j _ => ?_) ⟨k, Finset.mem_univ k, ?_⟩⟩
    · rw [hc]
      by_cases hj : j = k
      · rw [hj, update_self]
        exact hlt.le
      · rw [update_of_ne hj]
    · rw [hc, update_self]
      exact hlt) (s := start bytes prog) (fun _ _ h => by cases h) hrun
  refine ⟨?_, fun hnone k => ?_⟩
  · rw [Finset.mul_sum]
    exact le_trans (Nat.le_add_right _ _) hle
  · by_contra hp
    obtain ⟨j, hj⟩ := ho.progress (i := i) hp
    exact hj (hnone j)

theorem run_completes_lock : ∃ s : Smp Bool lockBank,
    run (step 0) [false, true, false, false, false] (start lockTaken lockProgs) = some s ∧
      ∀ k, (s.core k).prog = [] := by
  obtain ⟨s, hs, hn⟩ : ∃ s : Smp Bool lockBank,
      run (step 0) [false, true, false, false, false] (start lockTaken lockProgs) = some s ∧
        ∀ k, step 0 k s = none := ⟨_, rfl, by rintro (_ | _) <;> rfl⟩
  exact ⟨s, hs, (run_completes lockTaken lockProgs hs).2 hn⟩

end Smp

end SparcEmu
