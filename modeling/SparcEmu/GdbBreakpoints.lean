import SparcEmu.GdbMemory

/-!
What `insert_breakpoint` and `remove_breakpoint` do to the list and to memory, however they end.
-/

namespace SparcEmu

open Lib.Effect MMU GdbSt

variable {n : Nat} {δ : Type} {mc : MCtrl δ}

namespace GdbSt

def setBps (s : GdbSt n δ) (l : List Breakpoint) : GdbSt n δ := { s with stub := ⟨l⟩ }

variable (s : GdbSt n δ) (k : Nat) (m : MMU) (mem : Mem δ) (l : List Breakpoint)

@[simp] lemma setBps_bps : (s.setBps l).stub.breakpoints = l := rfl
@[simp] lemma setBps_mem : (s.setBps l).mem = s.mem := rfl
@[simp] lemma setBps_mmu : (s.setBps l).mmu = s.mmu := rfl
@[simp] lemma setBps_reach (j : Nat) (rw : Intent) (a : u32) :
    (s.setBps l).reach mc j rw a = s.reach mc j rw a := rfl
lemma setBps_put : (s.setBps l).put k m mem = (s.put k m mem).setBps l := rfl

lemma put_self : s.put k (s.mmu k) s.mem = s := by
  unfold put
  rw [Function.update_eq_self]

end GdbSt

variable {t : GdbSt n δ}

namespace GdbStub

variable {s : GdbSt n δ} {k : Nat} {a : u32}

/-! ### Exceptions -/

section Catch

variable {α : Type} {m h : GdbM n δ α} {s' : GdbSt n δ} {e : HostError}

lemma catchStd_ok {x : α} (hm : m s = .ok x s') : catchStd m h s = .ok x s' := by
  unfold catchStd
  rw [hm]

lemma catchStd_std (hm : m s = .error e s') (he : e.isStdException = true) :
    catchStd m h s = h s' := by
  unfold catchStd
  rw [hm]
  exact if_pos he

lemma catchStd_other (hm : m s = .error e s') (he : e.isStdException = false) :
    catchStd m h s = .error e s' := by
  unfold catchStd
  rw [hm]
  exact if_neg (by rw [he]; exact Bool.false_ne_true)

lemma catchStd_terminate (hm : m s = .error .terminate s') :
    catchStd m h s = .error .terminate s' := catchStd_other hm rfl

end Catch

lemma bootMapping_eq (s : GdbSt n δ) (k : Nat) (a : u32) : (bootMapping k a : GdbM n δ _) s =
    .ok (if (s.mmu k).get_enabled then none else boot_phys a) s := rfl

lemma write_mem32_ok {v w : u32} {s' : GdbSt n δ}
    (h : access32 mc .store "Could not write memory at address" a v s = .ok w s') :
    write_mem32 mc a v s = .ok () s' := bind_ok h

lemma write_mem32_error {v : u32} {e : HostError} {s' : GdbSt n δ}
    (h : access32 mc .store "Could not write memory at address" a v s = .error e s') :
    write_mem32 mc a v s = .error e s' := bind_error h

/-! ### Insertion -/

inductive Inserted (mc : MCtrl δ) (s : GdbSt n δ) (k : Nat) (a : u32) :
    EStateM.Result HostError (GdbSt n δ) Unit → Prop
  /-- The address cannot be read. -/
  | unread {e : HostError} {m : MMU} (hk : Kept mc (s.tables mc k) (s.mmu k) m)
      (he : e.isStdException = true) : Inserted mc s k a (.error e (s.put k m s.mem))
  /-- It can be read but not written: the breakpoint is listed all the same. -/
  | unwritten {e : HostError} {m : MMU} {mem : Mem δ} {w : u32}
      (hk : Kept mc (s.tables mc k) (s.mmu k) m) (he : e.isStdException = true)
      (hm : mem.bytes = s.mem.bytes) (hs : s.reach mc k .store a = none) :
      Inserted mc s k a (.error e ((s.put k m mem).setBps (s.stub.breakpoints ++ [⟨a, w⟩])))
  | patched {m : MMU} {mem : Mem δ} {w : u32} {x : Site}
      (hk : Kept mc (s.tables mc k) (s.mmu k) m) (hx : s.reach mc k .store a = some x)
      (hw : x.b.isDevice = false → w = x.get s.mem.bytes)
      (hm : mem.bytes = x.put s.mem.bytes OPCODE_TA1) :
      Inserted mc s k a (.ok () ((s.put k m mem).setBps (s.stub.breakpoints ++ [⟨a, w⟩])))
  | ends {s' : GdbSt n δ} (h : s.Answered mc k .load a → ¬ s.Answered mc k .store a) :
      Inserted mc s k a (.error .terminate s')

/-- `t` is `s` after accesses of processor `k` that changed no byte. -/
structure Later (mc : MCtrl δ) (k : Nat) (s t : GdbSt n δ) : Prop where
  kept : Kept mc (s.tables mc k) (s.mmu k) (t.mmu k)
  bytes : t.mem.bytes = s.mem.bytes
  selected : t.selected = s.selected

namespace Later

variable {t : GdbSt n δ} (h : Later mc k s t)

include h

lemma tables : t.tables mc k = s.tables mc k := by
  unfold GdbSt.tables MMU.tables
  rw [(priv_ctx h.kept.priv).2.1]
  exact congrArg (fun g => Tables.mk (mc.wordAt g) _) h.bytes

lemma ready (hR : s.Ready mc k) : t.Ready mc k where
  coherent := by
    rw [h.tables]
    exact h.kept.coherent
  ctx := by
    rw [(priv_ctx h.kept.priv).1]
    exact hR.ctx

lemma reach (hR : s.Ready mc k) (rw : Intent) (a : u32) : t.reach mc k rw a = s.reach mc k rw a := by
  refine reach_leaves h.kept.priv hR.ctx fun c va _ => ?_
  rw [h.bytes]
  rfl

lemma walkable {Mixed : u32 → Prop} (hw : s.Walkable mc Mixed k a) : t.Walkable mc Mixed k a := by
  obtain ⟨hc, hp, -⟩ := priv_ctx h.kept.priv
  unfold GdbSt.Walkable MMU.Walkable
  rw [enabled_of_priv h.kept.priv, hc, hp, h.bytes]
  exact hw

lemma put {m : MMU} {mem : Mem δ} (hm : Kept mc (t.tables mc k) (t.mmu k) m)
    (hb : mem.bytes = s.mem.bytes) : Later mc k s (t.put k m mem) where
  kept := by
    rw [put_mmu]
    rw [h.tables] at hm
    exact h.kept.trans hm
  bytes := hb
  selected := h.selected

end Later

lemma Later.setBps (h : Later mc k s t) (l : List Breakpoint) :
    Later mc k s (t.setBps l) := ⟨h.kept, h.bytes, h.selected⟩

lemma Later.refl (hR : s.Ready mc k) : Later mc k s s := ⟨⟨rfl, hR.coherent⟩, rfl, rfl⟩

lemma unwritten_handler (hB : mc.Bootable) (h : Later mc k s t) (hl : s.reach mc k .load a ≠ none)
    (hd : s.reach mc k .store a = none) {w : u32}
    (hs : t = (s.put k (t.mmu k) t.mem).setBps (s.stub.breakpoints ++ [⟨a, w⟩])) :
    Inserted mc s k a ((do
      match ← bootMapping k a with
      | some phys_addr => patch mc a phys_addr
      | none => raise notPlaced : GdbM n δ Unit) t) := by
  rw [bind_ok (bootMapping_eq t k a), enabled_of_priv h.kept.priv]
  have hraise : Inserted mc s k a (.error notPlaced t) := by
    rw [hs]
    exact .unwritten h.kept rfl h.bytes hd
  cases he : (s.mmu k).get_enabled with
  | true => exact hraise
  | false =>
    cases hp : boot_phys a with
    | none => exact hraise
    | some p => exact absurd (reach_store_load hB he hp hd) hl

section Patch

variable {m : MMU} {mem : Mem δ} {w v : u32} {e : HostError} {t : GdbSt n δ}
  (hr : read_mem32 mc a s = .ok w (s.put k m mem))

include hr

lemma patch_ok (hw : access32 mc .store "Could not write memory at address" a OPCODE_TA1
    ((s.put k m mem).setBps (s.stub.breakpoints ++ [⟨a, w⟩])) = .ok v t) :
    patch mc a a s = .ok () t :=
  (bind_ok hr).trans ((bind_ok (show push _ _ = .ok () _ from rfl)).trans (write_mem32_ok hw))

lemma patch_error (hw : access32 mc .store "Could not write memory at address" a OPCODE_TA1
    ((s.put k m mem).setBps (s.stub.breakpoints ++ [⟨a, w⟩])) = .error e t) :
    patch mc a a s = .error e t :=
  (bind_ok hr).trans ((bind_ok (show push _ _ = .ok () _ from rfl)).trans (write_mem32_error hw))

end Patch

section Access

variable {Mixed : u32 → Prop} (hP : mc.Paged Mixed) (hB : mc.Bootable) (hR : s.Ready mc k)
  (hk : s.selected = some k)

include hP hB hR hk

lemma Later.word (h : Later mc k s t) (rw : Intent) (hrw : rw ≠ .execute)
    (hw : s.Walkable mc Mixed k a) (what : String) (v : u32) :
    Word32 mc rw t k v (s.reach mc k rw a) (access32 mc rw what a v t) := by
  rw [← h.reach hR]
  exact access32_word hP hB (h.ready hR) (h.selected.trans hk) (h.walkable hw) hrw what

lemma Later.denied_boot (h : Later mc k s t) (rw : Intent) (hrw : rw ≠ .execute) {p : u32}
    (he : (s.mmu k).get_enabled = false) (hp : boot_phys a = some p)
    (hd : s.reach mc k rw a = none) (what : String) (v : u32) :
    ∃ e m, Kept mc (t.tables mc k) (t.mmu k) m ∧ e.isStdException = true ∧
      access32 mc rw what p v t = .error e (t.put k m t.mem) := by
  have hw := h.word hP hB hR hk rw hrw (a := p) (fun h => by rw [he] at h; cases h) what v
  rw [reach_boot he hp hd] at hw
  generalize hr : access32 mc rw what p v t = r at hw
  cases hw with
  | denied hm hs => exact ⟨_, _, hm, hs, rfl⟩

lemma unread_handler (h : Later mc k s t) (hd : s.reach mc k .load a = none)
    (hs : t = s.put k (t.mmu k) s.mem) :
    Inserted mc s k a ((do
      match ← bootMapping k a with
      | some phys_addr => patch mc a phys_addr
      | none => raise notPlaced : GdbM n δ Unit) t) := by
  rw [bind_ok (bootMapping_eq t k a), enabled_of_priv h.kept.priv]
  have hraise : Inserted mc s k a (.error notPlaced t) := by
    rw [hs]
    exact .unread h.kept rfl
  cases he : (s.mmu k).get_enabled with
  | true => exact hraise
  | false =>
    cases hp : boot_phys a with
    | none => exact hraise
    | some p =>
      obtain ⟨e, m, hm, hse, hr⟩ := h.denied_boot hP hB hR hk .load (by decide) he hp hd
        "Could not read memory at address" 0
      show Inserted mc s k a (patch mc a p t)
      unfold patch
      rw [bind_error (show read_mem32 mc p t = _ from hr), hs, put_put]
      rw [h.tables] at hm
      exact .unread (h.kept.trans hm) hse

theorem insert_breakpoint_cases (hw : s.Walkable mc Mixed k a)
    (hn : s.stub.has_breakpoint a = false) : Inserted mc s k a (insert_breakpoint mc a s) := by
  have hL := Later.refl hR
  unfold insert_breakpoint
  rw [get_bind, if_neg (by rw [hn]; exact Bool.false_ne_true),
    bind_ok (selected_ok hk)]
  have hld := hL.word hP hB hR hk .load (by decide) hw "Could not read memory at address" 0
  generalize hx : s.reach mc k .load a = x at hld
  generalize hr : access32 mc .load "Could not read memory at address" a 0 s = r at hld
  cases hld with
  | denied hm he =>
    have hp : patch mc a a s = _ := bind_error hr
    rw [catchStd_std hp he]
    refine unread_handler hP hB hR hk (hL.put hm rfl) hx ?_
    rw [put_mmu]
  | ends ha =>
    have hp : patch mc a a s = _ := bind_error hr
    rw [catchStd_terminate hp]
    exact .ends fun h => absurd (h _ hx) ha
  | @done x w m mem _ hm hd =>
    obtain ⟨hb, hw'⟩ := hd
    have hL₂ := (hL.put hm hb).setBps (s.stub.breakpoints ++ [⟨a, w⟩])
    have hst := hL₂.word hP hB hR hk .store (by decide) hw
      "Could not write memory at address" OPCODE_TA1
    generalize hy : s.reach mc k .store a = y at hst
    generalize hr' : access32 mc .store "Could not write memory at address" a OPCODE_TA1
      ((s.put k m mem).setBps (s.stub.breakpoints ++ [⟨a, w⟩])) = r' at hst
    cases hst with
    | denied hm' he =>
      rw [catchStd_std (patch_error hr hr') he]
      refine unwritten_handler (w := w) hB (hL₂.put hm' hb) (by rw [hx]; simp) hy ?_
      rw [put_mmu, setBps_put, put_put]
      rfl
    | ends ha =>
      rw [catchStd_terminate (patch_error hr hr')]
      exact .ends fun _ h => ha (h _ hy)
    | done _ hm' hd' =>
      rw [catchStd_ok (patch_ok hr hr'), setBps_put, put_put]
      obtain rfl := reach_same hB hx hy
      have hL₃ : Later mc k s (GdbSt.put _ k _ mem) := hL₂.put hm' hb
      have hk' := hL₃.kept
      rw [put_mmu] at hk'
      refine .patched hk' hy hw' ?_
      rw [show _ = _ from hd', setBps_mem, put_mem, hb]

/-! ### Removal -/

lemma unwritten_back (h : Later mc k s t) (hd : s.reach mc k .store a = none)
    (hs : t = s.put k (t.mmu k) s.mem) (i : Nat) (v : u32) :
    ∃ e m, Kept mc (s.tables mc k) (s.mmu k) m ∧ e.isStdException = true ∧ (do
      match ← bootMapping k a with
      | some phys_addr => do
        write_mem32 mc phys_addr v
        erase i
        pure false
      | none => raise notPlaced : GdbM n δ Bool) t = .error e (s.put k m s.mem) := by
  rw [bind_ok (bootMapping_eq t k a), enabled_of_priv h.kept.priv]
  have hraise : (raise notPlaced : GdbM n δ Bool) t = .error notPlaced (s.put k (t.mmu k) s.mem) := by
    rw [← hs]
    rfl
  cases he : (s.mmu k).get_enabled with
  | true => exact ⟨_, _, h.kept, rfl, hraise⟩
  | false =>
    cases hp : boot_phys a with
    | none => exact ⟨_, _, h.kept, rfl, hraise⟩
    | some p =>
      obtain ⟨e, m, hm, hse, hr⟩ := h.denied_boot hP hB hR hk .store (by decide) he hp hd
        "Could not write memory at address" v
      rw [h.tables] at hm
      refine ⟨e, m, h.kept.trans hm, hse, (bind_error (write_mem32_error hr)).trans ?_⟩
      rw [hs, put_put]
      rfl

lemma unpatch_cases {bp : Breakpoint} {l l' : List Breakpoint}
    (hl : s.stub.breakpoints = l ++ bp :: l') (hw : s.Walkable mc Mixed k bp.addr) :
    (∃ e m, Kept mc (s.tables mc k) (s.mmu k) m ∧ e.isStdException = true ∧
      unpatch mc k l.length bp s = .error e (s.put k m s.mem)) ∨
    (∃ m mem x, Kept mc (s.tables mc k) (s.mmu k) m ∧ s.reach mc k .store bp.addr = some x ∧
      mem.bytes = x.put s.mem.bytes bp.original_instr ∧
      unpatch mc k l.length bp s = .ok true ((s.put k m mem).setBps (l ++ l'))) ∨
    ∃ s', ¬ s.Answered mc k .store bp.addr ∧ unpatch mc k l.length bp s = .error .terminate s' := by
  have hL := Later.refl hR
  have hst := hL.word hP hB hR hk .store (by decide) hw
    "Could not write memory at address" bp.original_instr
  generalize hx : s.reach mc k .store bp.addr = x at hst
  generalize hr : access32 mc .store "Could not write memory at address" bp.addr
    bp.original_instr s = r at hst
  unfold unpatch
  cases hst with
  | denied hm he =>
    obtain ⟨e, m, hm', he', h⟩ := unwritten_back hP hB hR hk (hL.put hm rfl) hx (by rw [put_mmu])
      l.length bp.original_instr
    rw [catchStd_std (bind_error (write_mem32_error hr)) he]
    exact Or.inl ⟨e, m, hm', he', h⟩
  | ends ha =>
    rw [catchStd_terminate (bind_error (write_mem32_error hr))]
    exact Or.inr (Or.inr ⟨_, fun h => ha (h _ hx), rfl⟩)
  | @done x w m mem _ hm hd =>
    refine Or.inr (Or.inl ⟨m, mem, x, hm, rfl, hd, catchStd_ok ?_⟩)
    refine (bind_ok (write_mem32_ok hr)).trans ?_
    have hidx : (s.put k m mem).stub.breakpoints.eraseIdx l.length = l ++ l' := by
      rw [put_stub, hl, List.eraseIdx_append_of_length_le (Nat.le_refl _), Nat.sub_self]
      rfl
    show EStateM.Result.ok true ((s.put k m mem).setBps _) = _
    rw [hidx]

inductive Removed (mc : MCtrl δ) (s : GdbSt n δ) (k : Nat) (a : u32) :
    EStateM.Result HostError (GdbSt n δ) Unit → Prop
  /-- There is no such breakpoint, or its address cannot be written. -/
  | failed {e : HostError} {m : MMU} (hk : Kept mc (s.tables mc k) (s.mmu k) m)
      (he : e.isStdException = true) : Removed mc s k a (.error e (s.put k m s.mem))
  | restored {m : MMU} {mem : Mem δ} {x : Site} {bp : Breakpoint} {l l' : List Breakpoint}
      (hk : Kept mc (s.tables mc k) (s.mmu k) m) (hl : s.stub.breakpoints = l ++ bp :: l')
      (ha : bp.addr = a) (hx : s.reach mc k .store a = some x)
      (hm : mem.bytes = x.put s.mem.bytes bp.original_instr) :
      Removed mc s k a (.ok () ((s.put k m mem).setBps (l ++ l')))
  | ends {s' : GdbSt n δ} (hl : s.stub.has_breakpoint a = true) (h : ¬ s.Answered mc k .store a) :
      Removed mc s k a (.error .terminate s')

lemma removeFrom_cases (hw : s.stub.has_breakpoint a = true → s.Walkable mc Mixed k a)
    {l l' : List Breakpoint} (hl : s.stub.breakpoints = l ++ l') :
    Removed mc s k a (removeFrom mc k a l.length l'.length s) := by
  induction l' generalizing l with
  | nil =>
    have h : Removed mc s k a (.error notPlaced (s.put k (s.mmu k) s.mem)) :=
      .failed ⟨rfl, hR.coherent⟩ rfl
    rw [put_self] at h
    exact h
  | cons bp l' ih =>
    have hi : s.stub.breakpoints[l.length]? = some bp := by
      rw [hl]
      simp
    rw [List.length_cons]
    unfold removeFrom
    rw [get_bind, hi]
    dsimp only
    by_cases ha : bp.addr = a
    · rw [if_pos ha]
      subst ha
      have hlisted : s.stub.has_breakpoint bp.addr = true := by
        unfold has_breakpoint
        rw [hl]
        simp
      obtain ⟨e, m, hm, he, h⟩ | ⟨m, mem, x, hm, hx, hb, h⟩ | ⟨s', hs, h⟩ :=
        unpatch_cases hP hB hR hk hl (hw hlisted)
      · rw [bind_error h]
        exact .failed hm he
      · rw [bind_ok h]
        exact .restored hm hl rfl hx hb
      · rw [bind_error h]
        exact .ends hlisted hs
    · rw [if_neg ha]
      have := ih (l := l ++ [bp]) (by rw [hl, List.append_assoc]; rfl)
      rwa [List.length_append] at this

theorem remove_breakpoint_cases (hw : s.stub.has_breakpoint a = true → s.Walkable mc Mixed k a) :
    Removed mc s k a (remove_breakpoint mc a s) := by
  unfold remove_breakpoint
  rw [bind_ok (selected_ok hk)]
  exact removeFrom_cases hP hB hR hk hw (l := []) rfl

end Access

end GdbStub

end SparcEmu
