import SparcEmu.GdbStub
import SparcEmu.Sites

/-!
What the debugger stub reads and writes: the places that `read_mem32` and `write_mem32` reach through
the MMU of a processor or, while that is off, through the boot mapping.
-/

namespace SparcEmu

open Lib.Effect

variable {n : Nat} {δ : Type} {mc : MCtrl δ}

/-- In the two windows of the boot mapping, and where it maps them to, no bank throws in
`get_ptr`. -/
def MCtrl.Bootable (mc : MCtrl δ) : Prop :=
  ∀ a p, boot_phys a = some p → ∀ i b, mc.get_bank a = some (i, b) ∨ mc.get_bank p = some (i, b) →
    b.get_ptr.isOk = true

lemma MCtrl.bootable_one {base : u32} {size : Nat} (hm : mc.banks = [⟨.RamBank, base, size, .Big⟩]) :
    mc.Bootable := by
  intro a p _ i b hb
  obtain ⟨q, hq⟩ : ∃ q, mc.get_bank q = some (i, b) := hb.elim (⟨a, ·⟩) (⟨p, ·⟩)
  obtain ⟨-, rfl, -⟩ := get_bank_one_some hm hq
  rfl

lemma MCtrl.main_bootable (vga : Bool) (dev : DeviceOps δ) : (MCtrl.main vga dev).Bootable := by
  intro a p hp i b hb
  obtain ⟨q, hq, hb⟩ : ∃ q : u32, ¬ (0xfffa0000 ≤ q.toNat ∧ q.toNat < 0xfffc0000) ∧
      (MCtrl.main vga dev).get_bank q = some (i, b) := by
    unfold boot_phys at hp
    rcases hb with hb | hb
    · refine ⟨a, ?_, hb⟩
      split_ifs at hp <;> bv_omega
    · refine ⟨p, ?_, hb⟩
      split_ifs at hp <;> cases hp <;> bv_omega
  obtain ⟨hmem, hin⟩ := get_bank_some hb
  revert hin
  refine forall_main (P := fun b => b.contains q = true → b.get_ptr.isOk = true) ?_ hmem
  simp [main, IMemoryBank.contains, IMemoryBank.get_ptr, Except.isOk, Except.toBool]
  omega

variable {p : u32}

lemma boot_phys_twice {a : u32} (h : boot_phys a = some p) : boot_phys p = none := by
  unfold boot_phys at h ⊢
  split_ifs at h with h1 h2
  · cases h
    rw [if_neg (by bv_omega), if_neg (by bv_omega)]
  · cases h
    rw [if_neg (by bv_omega), if_neg (by bv_omega)]

namespace GdbSt

def put (s : GdbSt n δ) (k : Nat) (m : MMU) (mem : Mem δ) : GdbSt n δ :=
  { s with mmu := Function.update s.mmu k m, mem := mem }

variable (s : GdbSt n δ) (k : Nat) (m m' : MMU) (mem mem' : Mem δ)

@[simp] lemma put_mem : (s.put k m mem).mem = mem := rfl
@[simp] lemma put_stub : (s.put k m mem).stub = s.stub := rfl
@[simp] lemma put_selected : (s.put k m mem).selected = s.selected := rfl
@[simp] lemma put_mmu : (s.put k m mem).mmu k = m := Function.update_self ..
@[simp] lemma put_put : (s.put k m mem).put k m' mem' = s.put k m' mem' := by
  unfold put
  simp

def tables (mc : MCtrl δ) (s : GdbSt n δ) (k : Nat) : Tables := MMU.tables mc ⟨s.mmu k, s.mem⟩

/-- The caches of processor `k` are right, and its context is one that exists. -/
structure Ready (mc : MCtrl δ) (s : GdbSt n δ) (k : Nat) : Prop where
  coherent : MMU.Coherent mc (s.tables mc k) (s.mmu k)
  ctx : (s.mmu k).ctx_n ≤ 255

/-- The place that the stub reaches as processor `k`. -/
def reach (mc : MCtrl δ) (s : GdbSt n δ) (k : Nat) (rw : Intent) (a : u32) : Option Site :=
  match MMU.site mc (s.mmu k) s.mem.bytes rw true a with
  | some x => some x
  | none =>
    if (s.mmu k).get_enabled then none
    else (boot_phys a).bind fun p => MMU.site mc (s.mmu k) s.mem.bytes rw true p

/-- The place, if there is one, is no register that throws at such an access. -/
def Answered (mc : MCtrl δ) (s : GdbSt n δ) (k : Nat) (rw : Intent) (a : u32) : Prop :=
  ∀ x, s.reach mc k rw a = some x → x.Answers mc rw

/-- The tables that an access to `a` walks are in memory, and no shared page comes in. -/
abbrev Walkable (mc : MCtrl δ) (Mixed : u32 → Prop) (s : GdbSt n δ) (k : Nat) (a : u32) : Prop :=
  MMU.Walkable mc Mixed (s.mmu k) s.mem.bytes a

end GdbSt

variable {m m' : MMU} {x : Site}

namespace GdbStub

open MMU GdbSt

section Access

variable {s : GdbSt n δ} {k : Nat} {rw : Intent} {a v : u32} {x : Option Site}

inductive Tried (mc : MCtrl δ) (rw : Intent) (s : GdbSt n δ) (k : Nat) (v : u32) :
    Option Site → EStateM.Result HostError (GdbSt n δ) (cint × u32) → Prop
  | denied {c : cint} {m : MMU} (hk : Kept mc (s.tables mc k) (s.mmu k) m) (hc : c ≠ 0) :
      Tried mc rw s k v none (.ok (c, v) (s.put k m s.mem))
  | throws {e : HostError} {m : MMU} (hk : Kept mc (s.tables mc k) (s.mmu k) m)
      (he : e.isStdException = true) : Tried mc rw s k v none (.error e (s.put k m s.mem))
  | done {x : Site} {w : u32} {m : MMU} {mem : Mem δ} (hx : x.In mc)
      (hk : Kept mc (s.tables mc k) (s.mmu k) m) (hd : x.Done rw s.mem.bytes v w mem) :
      Tried mc rw s k v (some x) (.ok (0, w) (s.put k m mem))
  | ends {x : Site} {s' : GdbSt n δ} (ha : ¬ x.Answers mc rw) :
      Tried mc rw s k v (some x) (.error .terminate s')

variable {Mixed : u32 → Prop}

lemma onMMU_tried (hP : mc.Paged Mixed) (hR : s.Ready mc k) (hw : s.Walkable mc Mixed k a)
    (hrw : rw ≠ .execute) :
    Tried mc rw s k v (site mc (s.mmu k) s.mem.bytes rw true a)
      (onMMU k (MemAccess mc rw .b4 a v true true) s) := by
  obtain ⟨m, hk, hl⟩ : ∃ m, Kept mc (s.tables mc k) (s.mmu k) m ∧
      Lands mc rw (site mc (s.mmu k) s.mem.bytes rw true a) v ⟨m, s.mem⟩
        (MemAccess mc rw .b4 a v true true ⟨s.mmu k, s.mem⟩) :=
    MemAccess_site hP hR.coherent hR.ctx hw
  unfold onMMU
  cases hs : site mc (s.mmu k) s.mem.bytes rw true a with
  | none =>
    rw [hs] at hl
    rcases hl with ⟨c, hc, hr⟩ | ⟨e, he, hr⟩
    · rw [hr]
      exact .denied hk hc
    · rw [hr]
      exact .throws hk he
  | some x =>
    rw [hs] at hl
    have hx : x.In mc := site_in hs
    rcases bankAccess_site (s := ⟨m, s.mem⟩) hP hx hrw v with ⟨w, mem, hb, hd⟩ | ⟨ha, hb⟩
    · rw [show MemAccess mc rw .b4 a v true true ⟨s.mmu k, s.mem⟩ = _ from hl.trans hb]
      exact .done hx hk hd
    · rw [show MemAccess mc rw .b4 a v true true ⟨s.mmu k, s.mem⟩ = _ from hl.trans hb]
      exact .ends ha

lemma site_off {g : HostBytes} (he : m.get_enabled = false) :
    site mc m g rw true a = bankSite mc (rw = .store) a := by
  unfold site
  rw [he, if_neg Bool.false_ne_true]

lemma unmapped_of_boot (rw : Intent) (hB : mc.Bootable) (he : (s.mmu k).get_enabled = false)
    (hp : boot_phys a = some p) :
    (site mc (s.mmu k) s.mem.bytes rw true a = none → mc.get_bank a = none) ∧
    (site mc (s.mmu k) s.mem.bytes rw true p = none → mc.get_bank p = none) := by
  refine ⟨fun h => ?_, fun h => ?_⟩
  all_goals
    rw [site_off he] at h
    by_contra hn
    obtain ⟨⟨i, b⟩, hb⟩ := Option.ne_none_iff_exists'.mp hn
  · rw [bankSite_some hb fun _ => hB a p hp i b (Or.inl hb)] at h
    cases h
  · rw [bankSite_some hb fun _ => hB a p hp i b (Or.inr hb)] at h
    cases h

lemma onMMU_unmapped (he : (s.mmu k).get_enabled = false) (hb : mc.get_bank a = none) :
    ∃ m, m.priv = (s.mmu k).priv ∧
      onMMU k (MemAccess mc rw .b4 a v true true) s = .ok (-5, v) (s.put k m s.mem) := by
  obtain ⟨m, hm, h⟩ := busAccess_none hb rw .b4 a v true true false ⟨s.mmu k, s.mem⟩
  refine ⟨m, FaultOnly.priv hm, ?_⟩
  unfold onMMU
  rw [MemAccess_off he, h]
  rfl

lemma enabled_of_priv (h : m'.priv = m.priv) : m'.get_enabled = m.get_enabled := by
  unfold get_enabled
  rw [(priv_ctx h).2.2]

lemma site_congr (h : m'.priv = m.priv) (g : HostBytes) (rw : Intent) (a : u32) :
    site mc m' g rw true a = site mc m g rw true a := by
  obtain ⟨hc, hp, -⟩ := priv_ctx h
  unfold site
  rw [enabled_of_priv h, hc, hp]

lemma ready_put {mem : Mem δ} (hR : s.Ready mc k) (hk : Kept mc (s.tables mc k) (s.mmu k) m)
    (hm : mem.bytes = s.mem.bytes) : (s.put k m mem).Ready mc k := by
  obtain ⟨hc, hp, -⟩ := priv_ctx hk.priv
  constructor
  · have ht : (s.put k m mem).tables mc k = s.tables mc k := by
      unfold GdbSt.tables MMU.tables
      rw [put_mmu, put_mem, hp, hm]
    rw [ht, put_mmu]
    exact hk.coherent
  · rw [put_mmu, hc]
    exact hR.ctx

lemma selected_ok (hk : s.selected = some k) : (selected : GdbM n δ Nat) s = .ok k s := by
  unfold selected
  rw [hk]

lemma selected_none (hk : s.selected = none) : (selected : GdbM n δ Nat) s = .error .terminate s := by
  unfold selected
  rw [hk]

inductive Word32 (mc : MCtrl δ) (rw : Intent) (s : GdbSt n δ) (k : Nat) (v : u32) :
    Option Site → EStateM.Result HostError (GdbSt n δ) u32 → Prop
  | denied {e : HostError} {m : MMU} (hk : Kept mc (s.tables mc k) (s.mmu k) m)
      (he : e.isStdException = true) : Word32 mc rw s k v none (.error e (s.put k m s.mem))
  | done {x : Site} {w : u32} {m : MMU} {mem : Mem δ} (hx : x.In mc)
      (hk : Kept mc (s.tables mc k) (s.mmu k) m) (hd : x.Done rw s.mem.bytes v w mem) :
      Word32 mc rw s k v (some x) (.ok w (s.put k m mem))
  | ends {x : Site} {s' : GdbSt n δ} (ha : ¬ x.Answers mc rw) :
      Word32 mc rw s k v (some x) (.error .terminate s')

lemma boot_word (hP : mc.Paged Mixed) (hR : s.Ready mc k) (he : (s.mmu k).get_enabled = false)
    (hrw : rw ≠ .execute) {what : String} (hm : Kept mc (s.tables mc k) (s.mmu k) m) (p : u32) :
    Word32 mc rw s k v (site mc (s.mmu k) s.mem.bytes rw true p)
      ((do
        let r ← onMMU k (MemAccess mc rw .b4 p v true true)
        if r.1 = 0 then pure r.2 else raise (.runtime_error what) : GdbM n δ u32)
        (s.put k m s.mem)) := by
  have hR' : (s.put k m s.mem).Ready mc k := ready_put hR hm rfl
  have he' : ((s.put k m s.mem).mmu k).get_enabled = false := by
    rw [put_mmu, enabled_of_priv hm.priv, he]
  have ht := onMMU_tried (v := v) hP hR' (a := p) (fun h => by rw [he'] at h; cases h) hrw
  have htab : (s.put k m s.mem).tables mc k = s.tables mc k := by
    unfold GdbSt.tables MMU.tables
    rw [put_mmu, put_mem, (priv_ctx hm.priv).2.1]
  rw [put_mmu, put_mem, site_congr hm.priv] at ht
  generalize site mc (s.mmu k) s.mem.bytes rw true p = x at ht ⊢
  generalize hr : onMMU k (MemAccess mc rw .b4 p v true true) (s.put k m s.mem) = r at ht
  cases ht with
  | denied hk hc =>
    rw [bind_ok hr, if_neg hc, put_put]
    rw [htab, put_mmu] at hk
    exact .denied (hm.trans hk) rfl
  | throws hk he =>
    rw [bind_error hr, put_put]
    rw [htab, put_mmu] at hk
    exact .denied (hm.trans hk) he
  | done hx hk hd =>
    rw [bind_ok hr, if_pos rfl, put_put]
    rw [htab, put_mmu] at hk
    exact .done hx (hm.trans hk) hd
  | ends ha =>
    rw [bind_error hr]
    exact .ends ha

theorem access32_word (hP : mc.Paged Mixed) (hB : mc.Bootable) (hR : s.Ready mc k)
    (hk : s.selected = some k) (hw : s.Walkable mc Mixed k a) (hrw : rw ≠ .execute) (what : String) :
    Word32 mc rw s k v (s.reach mc k rw a) (access32 mc rw what a v s) := by
  have ht := onMMU_tried (v := v) hP hR hw hrw
  unfold access32 reach
  rw [bind_ok (selected_ok hk)]
  generalize hs : site mc (s.mmu k) s.mem.bytes rw true a = x at ht ⊢
  generalize hr : onMMU k (MemAccess mc rw .b4 a v true true) s = r at ht
  cases ht with
  | done hx hk hd =>
    rw [bind_ok hr, if_pos rfl]
    exact .done hx hk hd
  | ends ha =>
    rw [bind_error hr]
    exact .ends ha
  | denied hm hc =>
    rw [bind_ok hr, if_neg hc]
    have hb : ∀ {m}, Kept mc (s.tables mc k) (s.mmu k) m →
        (bootMapping k a : GdbM n δ _) (s.put k m s.mem) =
          .ok (if (s.mmu k).get_enabled then none else boot_phys a) (s.put k m s.mem) := by
      intro m hm
      have : ((s.put k m s.mem).mmu k).get_enabled = (s.mmu k).get_enabled := by
        rw [put_mmu, enabled_of_priv hm.priv]
      unfold bootMapping
      rw [bind_ok (show get _ = .ok _ _ from rfl), this]
      rfl
    rw [bind_ok (hb hm)]
    cases he : (s.mmu k).get_enabled with
    | true => exact .denied hm rfl
    | false =>
      cases hp : boot_phys a with
      | none => exact .denied hm rfl
      | some p => exact boot_word hP hR he hrw hm p
  | throws hm he' =>
    rw [bind_error hr]
    cases he : (s.mmu k).get_enabled with
    | true => exact .denied hm he'
    | false =>
      cases hp : boot_phys a with
      | none => exact .denied hm he'
      | some p =>
        obtain ⟨m', -, h⟩ : ∃ m, m.priv = (s.mmu k).priv ∧
            onMMU k (MemAccess mc rw .b4 a v true true) s = .ok (-5, v) (s.put k m s.mem) :=
          onMMU_unmapped he ((unmapped_of_boot rw hB he hp).1 hs)
        rw [hr] at h
        cases h

end Access

/-! ### Where the places are -/

section Places

variable {s s' : GdbSt n δ} {k : Nat} {rw : Intent} {a : u32}

lemma site_leaves {g g' : HostBytes} (hp : m'.priv = m.priv) (hc : m.ctx_n ≤ 255)
    (hl : SameLeaves ⟨mc.wordAt g, m.ctx_tbl_ptr⟩ ⟨mc.wordAt g', m.ctx_tbl_ptr⟩) :
    site mc m' g' rw true a = site mc m g rw true a := by
  rw [site_congr hp]
  unfold site
  rw [hl m.ctx_n a hc]

lemma reach_leaves (hp : (s'.mmu k).priv = (s.mmu k).priv) (hc : (s.mmu k).ctx_n ≤ 255)
    (hl : SameLeaves (s.tables mc k) ⟨mc.wordAt s'.mem.bytes, (s.mmu k).ctx_tbl_ptr⟩) :
    s'.reach mc k rw a = s.reach mc k rw a := by
  have hs : ∀ c, site mc (s'.mmu k) s'.mem.bytes rw true c = site mc (s.mmu k) s.mem.bytes rw true c :=
    fun c => site_leaves hp hc hl
  unfold reach
  simp only [hs, enabled_of_priv hp]

lemma reach_in (h : s.reach mc k rw a = some x) : x.In mc := by
  unfold reach at h
  split at h
  · next y hs =>
    cases h
    exact site_in hs
  · split_ifs at h
    obtain ⟨p, -, hp⟩ := Option.bind_eq_some_iff.mp h
    exact site_in hp

lemma reach_boot (he : (s.mmu k).get_enabled = false) (hp : boot_phys a = some p)
    (h : s.reach mc k rw a = none) : s.reach mc k rw p = none := by
  unfold reach at h ⊢
  simp only [he, Bool.false_eq_true, if_false, hp, boot_phys_twice hp, Option.bind_some,
    Option.bind_none] at h ⊢
  split at h
  · cases h
  · rw [h]

lemma reach_store_load (hB : mc.Bootable) (he : (s.mmu k).get_enabled = false)
    (hp : boot_phys a = some p) (h : s.reach mc k .store a = none) :
    s.reach mc k .load a = none := by
  have hu := unmapped_of_boot (s := s) .store hB he hp
  unfold reach at h ⊢
  simp only [he, Bool.false_eq_true, if_false, hp, Option.bind_some] at h ⊢
  split at h
  · cases h
  · next hs =>
    rw [site_off he, bankSite_none (hu.1 hs)]
    dsimp only
    rw [site_off he, bankSite_none (hu.2 h)]

lemma bankSite_asked {asked : Bool} {pa : u32} {y : Site} (hx : bankSite mc asked pa = some x)
    (hy : bankSite mc true pa = some y) : x = y := by
  cases hb : mc.get_bank pa with
  | none =>
    rw [bankSite_none hb] at hx
    cases hx
  | some ib =>
    unfold bankSite at hx hy
    rw [hb] at hx hy
    dsimp only at hx hy
    split_ifs at hx hy
    cases hx
    cases hy
    rfl

lemma reach_same (hB : mc.Bootable) {y : Site} (hx : s.reach mc k .load a = some x)
    (hy : s.reach mc k .store a = some y) : x = y := by
  cases he : (s.mmu k).get_enabled with
  | true =>
    unfold reach site at hx hy
    simp only [he, if_true] at hx hy
    split at hx <;> rename_i hx' <;> cases hx
    split at hy <;> rename_i hy' <;> cases hy
    split at hx'
    · cases hx'
    · next hl =>
      rw [hl] at hy'
      dsimp only at hy'
      split_ifs at hx' hy'
      exact bankSite_asked hx' hy'
  | false =>
    unfold reach at hx hy
    simp only [site_off he, he, Bool.false_eq_true, if_false, decide_true, reduceCtorEq,
      decide_false] at hx hy
    cases hb : mc.get_bank a with
    | none =>
      rw [bankSite_none hb] at hx hy
      obtain ⟨p, hp, hx⟩ := Option.bind_eq_some_iff.mp hx
      obtain ⟨p', hp', hy⟩ := Option.bind_eq_some_iff.mp hy
      obtain rfl : p' = p := Option.some.inj (hp'.symm.trans hp)
      exact bankSite_asked hx hy
    | some ib =>
      obtain ⟨i, b⟩ := ib
      rw [bankSite_some hb fun h => by cases h] at hx
      cases hx
      cases hg : b.get_ptr with
      | ok w =>
        rw [bankSite_some hb fun _ => by rw [hg]; rfl] at hy
        cases hy
        rfl
      | error e =>
        rw [bankSite_throws hb hg] at hy
        obtain ⟨p, hp, -⟩ := Option.bind_eq_some_iff.mp hy
        have := hB a p hp i b (Or.inl hb)
        rw [hg] at this
        cases this

end Places

end GdbStub

end SparcEmu
