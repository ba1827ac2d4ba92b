import SparcEmu.GdbBreakpoints
import SparcEmu.Lib.Patch
import SparcEmu.Lib.Run

/-!
Breakpoints and the memory they are patched into. Between packets, putting every listed instruction
back gives the memory the session began with, as long as the words of the breakpoints do not overlap,
hold no page table entry in use, and mean the same place to every processor that is selected.
-/

namespace SparcEmu

open Lib.Effect Lib.Patch Lib.Run Lib.Strtol MMU

variable {n : Nat} {δ : Type} {mc : MCtrl δ} {Mixed : u32 → Prop} {s : GdbSt n δ} {a : u32}

namespace GdbSt

/-- The place of a breakpoint, as the selected processor writes it. -/
def spot (mc : MCtrl δ) (s : GdbSt n δ) (a : u32) : Option Site :=
  s.selected.bind fun k => s.reach mc k .store a

/-- Memory with the word of an address overwritten. -/
def overwrite (mc : MCtrl δ) (s : GdbSt n δ) (a : u32) (h : HostBytes) (v : u32) : HostBytes :=
  match s.spot mc a with
  | some x => x.put h v
  | none => h

/-- The addresses of the breakpoints and what the stub has kept for them. -/
def saved (s : GdbSt n δ) : List (u32 × u32) :=
  s.stub.breakpoints.map fun bp => (bp.addr, bp.original_instr)

/-- The words of the two addresses share no byte. -/
def ApartSpots (mc : MCtrl δ) (s : GdbSt n δ) (a b : u32) : Prop :=
  ∀ x y, s.spot mc a = some x → s.spot mc b = some y → x.Apart y

/-- No processor finds another leaf, whatever is written to the word. -/
def TableFree (mc : MCtrl δ) (s : GdbSt n δ) (x : Site) : Prop :=
  ∀ j v, SameLeaves (s.tables mc j) ⟨mc.wordAt (x.put s.mem.bytes v), (s.mmu j).ctx_tbl_ptr⟩

/-- The address can be patched without moving any place. -/
structure Patchable (mc : MCtrl δ) (Mixed : u32 → Prop) (s : GdbSt n δ) (a : u32) : Prop where
  walkable : ∀ k, s.selected = some k → s.Walkable mc Mixed k a
  tableFree : ∀ x, s.spot mc a = some x → s.TableFree mc x

/-- **The invariant**: with every breakpoint undone, memory is `h₀`. -/
structure Undoable (mc : MCtrl δ) (h₀ : HostBytes) (s : GdbSt n δ) : Prop where
  ready : ∀ k, s.Ready mc k
  apart : s.stub.breakpoints.Pairwise fun p q => s.ApartSpots mc p.addr q.addr
  restores : restore (s.overwrite mc) s.saved s.mem.bytes = h₀

lemma spot_in {x : Site} (h : s.spot mc a = some x) : x.In mc := by
  obtain ⟨k, -, hk⟩ := Option.bind_eq_some_iff.mp h
  exact GdbStub.reach_in hk

lemma spot_selected {k : Nat} (hk : s.selected = some k) (a : u32) :
    s.spot mc a = s.reach mc k .store a := by
  unfold spot
  rw [hk]
  rfl

@[simp] lemma setBps_spot (s : GdbSt n δ) (l : List Breakpoint) (a : u32) :
    (s.setBps l).spot mc a = s.spot mc a := rfl

lemma Ready.setBps {k : Nat} (h : s.Ready mc k) (l : List Breakpoint) :
    (s.setBps l).Ready mc k := ⟨h.coherent, h.ctx⟩

lemma ApartSpots.commute (hP : mc.Paged Mixed) {b : u32} (h : s.ApartSpots mc a b) :
    Commute (s.overwrite mc) a b := by
  intro g v w
  unfold overwrite
  cases ha : s.spot mc a with
  | none => rfl
  | some x =>
    cases hb : s.spot mc b with
    | none => rfl
    | some y => exact Site.put_comm hP (spot_in ha) (spot_in hb) (h x y ha hb) v w

/-! ### What moves no place -/

section Moves

variable {s : GdbSt n δ} {k : Nat} {m : MMU} {mem : Mem δ}

lemma put_mmu_ne {j : Nat} (h : j ≠ k) : (s.put k m mem).mmu j = s.mmu j := Function.update_of_ne h ..

variable (hR : ∀ j, s.Ready mc j) (hm : Kept mc (s.tables mc k) (s.mmu k) m)
  (hl : ∀ j, SameLeaves (s.tables mc j) ⟨mc.wordAt mem.bytes, (s.mmu j).ctx_tbl_ptr⟩)

include hm in
lemma put_priv (j : Nat) : ((s.put k m mem).mmu j).priv = (s.mmu j).priv := by
  by_cases hj : j = k
  · subst hj
    rw [put_mmu]
    exact hm.priv
  · rw [put_mmu_ne hj]

include hR hm hl

lemma put_ready (j : Nat) : (s.put k m mem).Ready mc j := by
  have hpriv : ((s.put k m mem).mmu j).priv = (s.mmu j).priv := put_priv hm j
  obtain ⟨hc, hp, -⟩ := priv_ctx hpriv
  constructor
  · have ht : (s.put k m mem).tables mc j = ⟨mc.wordAt mem.bytes, (s.mmu j).ctx_tbl_ptr⟩ := by
      unfold tables MMU.tables
      rw [hp]
      rfl
    rw [ht]
    by_cases hj : j = k
    · subst hj
      rw [put_mmu]
      exact hm.coherent.congr (hl j)
    · rw [put_mmu_ne hj]
      exact (hR j).coherent.congr (hl j)
  · rw [hc]
    exact (hR j).ctx

lemma put_spot (a : u32) : (s.put k m mem).spot mc a = s.spot mc a := by
  unfold spot
  rw [put_selected]
  refine congrArg (Option.bind s.selected) (funext fun j => ?_)
  exact GdbStub.reach_leaves (put_priv hm j) (hR j).ctx (hl j)

lemma put_overwrite : (s.put k m mem).overwrite mc = s.overwrite mc := by
  funext a g v
  unfold overwrite
  rw [put_spot hR hm hl]

end Moves

lemma sameLeaves_of_bytes {mem : Mem δ} (h : mem.bytes = s.mem.bytes) (j : Nat) :
    SameLeaves (s.tables mc j) ⟨mc.wordAt mem.bytes, (s.mmu j).ctx_tbl_ptr⟩ := by
  intro c va _
  rw [h]
  rfl

/-! ### The invariant, change by change -/

namespace Undoable

variable {s : GdbSt n δ} {k : Nat} {m : MMU} {mem : Mem δ} {h₀ : HostBytes} {a w : u32} {x : Site}
  (h : s.Undoable mc h₀) (hm : Kept mc (s.tables mc k) (s.mmu k) m)

include h hm

lemma access (hb : mem.bytes = s.mem.bytes) : (s.put k m mem).Undoable mc h₀ where
  ready := put_ready h.ready hm (sameLeaves_of_bytes hb)
  apart := by
    unfold ApartSpots
    simp only [put_spot h.ready hm (sameLeaves_of_bytes hb)]
    exact h.apart
  restores := by
    rw [put_overwrite h.ready hm (sameLeaves_of_bytes hb), put_mem, hb]
    exact h.restores

lemma listed (hb : mem.bytes = s.mem.bytes) (ha : s.spot mc a = none) :
    ((s.put k m mem).setBps (s.stub.breakpoints ++ [⟨a, w⟩])).Undoable mc h₀ := by
  have hacc := h.access hm hb
  have hspot : (s.put k m mem).spot mc a = none := by
    rw [put_spot h.ready hm (sameLeaves_of_bytes hb), ha]
  refine ⟨fun j => (hacc.ready j).setBps _,
    List.pairwise_append.mpr ⟨hacc.apart, List.pairwise_singleton .., ?_⟩, ?_⟩
  · rintro p - q hq x y - hy
    rw [List.mem_singleton.mp hq] at hy
    exact absurd (hy.symm.trans hspot) (by simp)
  · have hover : (s.put k m mem).overwrite mc a = fun g _ => g := by
      funext g v
      unfold overwrite
      rw [hspot]
    show restore ((s.put k m mem).overwrite mc) (List.map _ (_ ++ _)) _ = h₀
    rw [List.map_append, restore_append]
    show (s.put k m mem).overwrite mc a (restore _ (s.put k m mem).saved _) w = h₀
    rw [hover]
    exact hacc.restores

variable (hx : s.spot mc a = some x) (hf : s.TableFree mc x)

include hf

omit h hm in
lemma leaves_put {v : u32} (hb : mem.bytes = x.put s.mem.bytes v) (j : Nat) :
    SameLeaves (s.tables mc j) ⟨mc.wordAt mem.bytes, (s.mmu j).ctx_tbl_ptr⟩ := by
  rw [hb]
  exact hf j v

include hx

lemma patched (hP : mc.Paged Mixed)
    (hap : ∀ bp ∈ s.stub.breakpoints, s.ApartSpots mc bp.addr a)
    (hw : x.b.isDevice = false → w = x.get s.mem.bytes)
    (hb : mem.bytes = x.put s.mem.bytes OPCODE_TA1) :
    ((s.put k m mem).setBps (s.stub.breakpoints ++ [⟨a, w⟩])).Undoable mc h₀ := by
  have hl := leaves_put hf hb
  have hover : ∀ g v, s.overwrite mc a g v = x.put g v := by
    intro g v
    unfold overwrite
    rw [hx]
  -- the word is now what it was at the start: no listed breakpoint covers it
  have hget : x.b.isDevice = false → x.get h₀ = x.get s.mem.bytes := by
    intro hd
    rw [← h.restores]
    refine restore_view (f := x.get) (fun y hy g v => ?_) _
    obtain ⟨bp, hbp, rfl⟩ := List.mem_map.mp hy
    unfold overwrite
    cases hs : s.spot mc bp.addr with
    | none => rfl
    | some y => exact Site.get_put hP (spot_in hx) (spot_in hs) (hap bp hbp y x hs hx) hd v
  refine ⟨fun j => (put_ready h.ready hm hl j).setBps _,
    List.pairwise_append.mpr ⟨?_, List.pairwise_singleton .., ?_⟩, ?_⟩
  · unfold ApartSpots
    simp only [setBps_spot, put_spot h.ready hm hl]
    exact h.apart
  · rintro p hp q hq
    rw [List.mem_singleton.mp hq]
    unfold ApartSpots
    simp only [setBps_spot, put_spot h.ready hm hl]
    exact hap p hp
  · show restore ((s.put k m mem).overwrite mc) (List.map _ (_ ++ _)) mem.bytes = h₀
    rw [put_overwrite h.ready hm hl, List.map_append, hb, ← hover]
    refine restore_push (l := s.saved) (fun y hy => ?_) h.restores ?_
    · obtain ⟨bp, hbp, rfl⟩ := List.mem_map.mp hy
      exact ((hap bp hbp).commute hP).symm
    · rw [hover, hover]
      exact Site.put_back hP (spot_in hx) fun hd => (hw hd).trans (hget hd).symm

lemma restored (hP : mc.Paged Mixed) {bp : Breakpoint} {l l' : List Breakpoint}
    (hbps : s.stub.breakpoints = l ++ bp :: l') (ha : bp.addr = a)
    (hb : mem.bytes = x.put s.mem.bytes bp.original_instr) :
    ((s.put k m mem).setBps (l ++ l')).Undoable mc h₀ := by
  have hl := leaves_put hf hb
  have hap := h.apart
  rw [hbps] at hap
  refine ⟨fun j => (put_ready h.ready hm hl j).setBps _, ?_, ?_⟩
  · unfold ApartSpots
    simp only [setBps_spot, put_spot h.ready hm hl]
    exact hap.sublist ((List.Sublist.refl l).append (List.sublist_cons_self bp l'))
  · show restore ((s.put k m mem).overwrite mc) (List.map _ (l ++ l')) mem.bytes = h₀
    have hput : mem.bytes = s.overwrite mc bp.addr s.mem.bytes bp.original_instr := by
      rw [hb]
      unfold overwrite
      rw [ha, hx]
    rw [put_overwrite h.ready hm hl, List.map_append, hput]
    refine restore_drop (fun y hy => ?_) ?_
    · obtain ⟨q, hq, rfl⟩ := List.mem_map.mp hy
      have hqb := (List.pairwise_append.mp hap).2.2 q hq bp (by simp)
      exact (hqb.commute hP).symm
    · rw [← h.restores, saved, hbps, List.map_append, List.map_cons]

end Undoable

end GdbSt

/-! ### Packets -/

structure BreakPacket where
  locals : Locals
  pkt : List Char
  kind : starts_with pkt "Z0," = true ∨ starts_with pkt "z0," = true ∨ starts_with pkt "Hg" = true

namespace BreakPacket

def addr (p : BreakPacket) : u32 := GdbStub.scanAddr p.locals p.pkt

def handle (mc : MCtrl δ) (p : BreakPacket) : GdbM n δ Unit :=
  GdbStub.handle_packet mc p.locals p.pkt

/-- What the packet must heed: a new breakpoint keeps apart from the others, no breakpoint is put
where a page table entry in use is, and a processor is selected only if it has the breakpoints where
they are. -/
structure Careful (mc : MCtrl δ) (Mixed : u32 → Prop) (p : BreakPacket) (s : GdbSt n δ) : Prop where
  insert : starts_with p.pkt "Z0," = true → s.stub.has_breakpoint p.addr = false →
    s.Patchable mc Mixed p.addr ∧ ∀ bp ∈ s.stub.breakpoints, s.ApartSpots mc bp.addr p.addr
  remove : starts_with p.pkt "z0," = true → s.stub.has_breakpoint p.addr = true →
    s.Patchable mc Mixed p.addr
  select : starts_with p.pkt "Hg" = true → ∀ id, strtol 10 (p.pkt.drop 2) = some id → 0 < id →
    id ≤ s.cpus.length → ∀ bp ∈ s.stub.breakpoints,
      s.reach mc (id - 1).toNat .store bp.addr = s.spot mc bp.addr

end BreakPacket

namespace GdbStub

open GdbSt

variable {s s' : GdbSt n δ} {h₀ : HostBytes}

lemma guarded_cases {m : GdbM n δ Unit} (h : guarded m s = .ok () s') :
    ∃ t d, (m s = .ok () t ∨ ∃ e, e.isStdException = true ∧ m s = .error e t) ∧
      s' = { t with sent := d } := by
  unfold guarded catchStd at h
  cases hm : m s with
  | ok _ t =>
    rw [bind_ok hm] at h
    cases h
    exact ⟨t, _, Or.inl rfl, rfl⟩
  | error e t =>
    rw [bind_error hm] at h
    cases he : e.isStdException with
    | true =>
      simp only [he, if_true] at h
      cases h
      exact ⟨t, _, Or.inr ⟨e, he, rfl⟩, rfl⟩
    | false =>
      simp only [he, Bool.false_eq_true, if_false] at h
      cases h

lemma undoable_sent (h : s.Undoable mc h₀) (d : List (List Char)) :
    ({ s with sent := d } : GdbSt n δ).Undoable mc h₀ :=
  ⟨fun k => ⟨(h.ready k).coherent, (h.ready k).ctx⟩, h.apart, h.restores⟩

variable (hP : mc.Paged Mixed) (hB : mc.Bootable) (h : s.Undoable mc h₀)

include hP hB h

lemma insert_undoable {t : GdbSt n δ} (hc : s.stub.has_breakpoint a = false →
      s.Patchable mc Mixed a ∧ ∀ bp ∈ s.stub.breakpoints, s.ApartSpots mc bp.addr a)
    (ht : insert_breakpoint mc a s = .ok () t ∨
      ∃ e, e.isStdException = true ∧ insert_breakpoint mc a s = .error e t) : t.Undoable mc h₀ := by
  cases hn : s.stub.has_breakpoint a with
  | true =>
    have hi : insert_breakpoint mc a s = .ok () s := by
      unfold insert_breakpoint
      rw [get_bind, if_pos hn]
      rfl
    rw [hi] at ht
    rcases ht with ht | ⟨e, -, ht⟩ <;> cases ht
    exact h
  | false =>
    obtain ⟨hpat, hap⟩ := hc hn
    cases hk : s.selected with
    | none =>
      have hi : insert_breakpoint mc a s = .error .terminate s := by
        unfold insert_breakpoint
        rw [get_bind, if_neg (by rw [hn]; exact Bool.false_ne_true),
          bind_error (selected_none hk)]
      rw [hi] at ht
      rcases ht with ht | ⟨e, he, ht⟩ <;> cases ht
      cases he
    | some k =>
      have hI := insert_breakpoint_cases hP hB (h.ready k) hk (hpat.walkable k hk) hn
      generalize insert_breakpoint mc a s = r at hI ht
      cases hI with
      | unread hm _ =>
        rcases ht with ht | ⟨e, -, ht⟩ <;> cases ht
        exact h.access hm rfl
      | unwritten hm _ hb hs =>
        rcases ht with ht | ⟨e, -, ht⟩ <;> cases ht
        exact h.listed hm hb ((spot_selected hk a).trans hs)
      | patched hm hx hw hb =>
        rcases ht with ht | ⟨e, -, ht⟩ <;> cases ht
        have hx' := (spot_selected hk a).trans hx
        exact h.patched hm hx' (hpat.tableFree _ hx') hP hap hw hb
      | ends =>
        rcases ht with ht | ⟨e, he, ht⟩ <;> cases ht
        cases he

lemma remove_undoable {t : GdbSt n δ}
    (hc : s.stub.has_breakpoint a = true → s.Patchable mc Mixed a)
    (ht : remove_breakpoint mc a s = .ok () t ∨
      ∃ e, e.isStdException = true ∧ remove_breakpoint mc a s = .error e t) :
    t.Undoable mc h₀ ∧ ∀ j, (t.mmu j).priv = (s.mmu j).priv := by
  cases hk : s.selected with
  | none =>
    have hi : remove_breakpoint mc a s = .error .terminate s := bind_error (selected_none hk)
    rw [hi] at ht
    rcases ht with ht | ⟨e, he, ht⟩ <;> cases ht
    cases he
  | some k =>
    have hI := remove_breakpoint_cases hP hB (h.ready k) hk fun hl => (hc hl).walkable k hk
    generalize remove_breakpoint mc a s = r at hI ht
    cases hI with
    | failed hm _ =>
      rcases ht with ht | ⟨e, -, ht⟩ <;> cases ht
      exact ⟨h.access hm rfl, put_priv hm⟩
    | @restored m mem x bp l l' hm hl ha hx hb =>
      rcases ht with ht | ⟨e, -, ht⟩ <;> cases ht
      have hx' := (spot_selected hk a).trans hx
      have hlisted : s.stub.has_breakpoint a = true := by
        unfold has_breakpoint
        rw [hl]
        simp [ha]
      exact ⟨h.restored hm hx' ((hc hlisted).tableFree x hx') hP hl ha hb, @put_priv _ _ _ _ _ _ mem hm⟩
    | ends =>
      rcases ht with ht | ⟨e, he, ht⟩ <;> cases ht
      cases he

omit hP hB in
lemma select_undoable {pkt : List Char}
    (hc : ∀ id, strtol 10 (pkt.drop 2) = some id → 0 < id → id ≤ s.cpus.length →
      ∀ bp ∈ s.stub.breakpoints, s.reach mc (id - 1).toNat .store bp.addr = s.spot mc bp.addr)
    (ht : threadSelected pkt s = .ok () s') : s'.Undoable mc h₀ := by
  obtain ⟨id, t, hid, hrest⟩ := bind_ok_iff.mp ht
  obtain ⟨hst, rfl⟩ := threadId_ok_iff.mp hid
  have hst := (stoi_ok_iff.mp hst).1
  rw [get_bind] at hrest
  split_ifs at hrest with h0 hr
  · cases hrest
    exact undoable_sent h _
  · cases hrest
    have hsel : ({ t with current_cpu := id - 1 } : GdbSt n δ).selected = some (id - 1).toNat :=
      if_pos ⟨by show 0 ≤ id - 1; omega, by show id - 1 < (t.cpus.length : Int); omega⟩
    have hspot : ∀ bp ∈ t.stub.breakpoints,
        ({ t with current_cpu := id - 1 } : GdbSt n δ).spot mc bp.addr = t.spot mc bp.addr :=
      fun bp hbp => (spot_selected hsel bp.addr).trans (hc id hst hr.1 hr.2 bp hbp)
    refine undoable_sent (s := { t with current_cpu := id - 1 }) ⟨fun k => ⟨(h.ready k).coherent,
      (h.ready k).ctx⟩, h.apart.imp_of_mem fun hp hq hpq x y hx hy => ?_, ?_⟩ _
    · rw [hspot _ hp] at hx
      rw [hspot _ hq] at hy
      exact hpq x y hx hy
    · refine Eq.trans (restore_congr (fun x hx => ?_) _) h.restores
      obtain ⟨bp, hbp, rfl⟩ := List.mem_map.mp hx
      funext g v
      unfold overwrite
      rw [hspot bp hbp]
  · cases hrest
    exact undoable_sent h _

end GdbStub

/-- **One packet** keeps the invariant. -/
lemma BreakPacket.keeps (hP : mc.Paged Mixed) (hB : mc.Bootable) {h₀ : HostBytes} {s' : GdbSt n δ}
    {p : BreakPacket} (h : s.Undoable mc h₀) (hc : p.Careful mc Mixed s)
    (hs : p.handle mc s = .ok () s') : s'.Undoable mc h₀ := by
  unfold handle at hs
  rcases p.kind with hk | hk | hk
  · rw [GdbStub.handle_Z0 hk] at hs
    obtain ⟨t, d, ht, rfl⟩ := GdbStub.guarded_cases hs
    exact GdbStub.undoable_sent (GdbStub.insert_undoable hP hB h (hc.insert hk) ht) d
  · rw [GdbStub.handle_z0 hk] at hs
    obtain ⟨t, d, ht, rfl⟩ := GdbStub.guarded_cases hs
    exact GdbStub.undoable_sent (GdbStub.remove_undoable hP hB h (hc.remove hk) ht).1 d
  · rw [GdbStub.handle_Hg hk] at hs
    exact GdbStub.select_undoable h (hc.select hk) hs

/-- **Breakpoints restore memory**: a session of careful packets that begins and ends without
breakpoints leaves every byte as it was. -/
theorem breakpoints_restore_memory (hP : mc.Paged Mixed) (hB : mc.Bootable) (s s' : GdbSt n δ)
    (packets : List BreakPacket) (hR : ∀ k, s.Ready mc k) (h0 : s.stub.breakpoints = [])
    (hl : Along (BreakPacket.handle mc) (fun p _ t => p.Careful mc Mixed t) packets s)
    (hr : runAll (BreakPacket.handle mc) packets s = .ok () s') (he : s'.stub.breakpoints = []) :
    s'.mem.bytes = s.mem.bytes := by
  have hstart : s.Undoable mc s.mem.bytes := by
    refine ⟨hR, by rw [h0]; exact List.Pairwise.nil, ?_⟩
    unfold GdbSt.saved
    rw [h0]
    rfl
  have hkeep : ∀ (p : BreakPacket) (os : List BreakPacket) (t : GdbSt n δ) (a : Unit) (t' : GdbSt n δ),
      t.Undoable mc s.mem.bytes → p.Careful mc Mixed t → p.handle mc t = .ok a t' →
      t'.Undoable mc s.mem.bytes := fun p _ t _ t' ht hc hs => BreakPacket.keeps hP hB ht hc hs
  have hend : s'.Undoable mc s.mem.bytes := Along.at_end _ hkeep hstart hl hr
  have hres := hend.restores
  unfold GdbSt.saved at hres
  rwa [he] at hres

/-! ### A machine with one processor and its MMU off -/

lemma MCtrl.main_root {vga : Bool} {dev : DeviceOps δ} (h : HostBytes) {c : u32} (hc : c ≤ 255) :
    (MCtrl.main vga dev).wordAt h (c * 4) = some 0 := by
  unfold MCtrl.wordAt
  cases hb : (MCtrl.main vga dev).get_bank (c * 4) with
  | none => rfl
  | some p =>
    have hlow : (c * 4).toNat < 0x20000000 := by bv_omega
    obtain ⟨hmem, hin⟩ := get_bank_some hb
    revert hin
    refine forall_main (P := fun b => b.contains (c * 4) = true → _) ?_ hmem
    have h4 : (c * 4).toNat = c.toNat * 4 := by bv_omega
    simp [main, IMemoryBank.contains]
    omega

lemma GdbSt.patchable_reset {vga : Bool} {dev : DeviceOps δ}
    (h : ∀ k, (s.mmu k).priv = MMU.init.priv) (a : u32) :
    s.Patchable (MCtrl.main vga dev) Mixed a where
  walkable k _ hon := by
    obtain ⟨-, -, he⟩ := priv_ctx (h k)
    unfold get_enabled at hon
    rw [he] at hon
    exact absurd hon (by decide)
  tableFree x _ j v c va hc := by
    obtain ⟨-, hp, -⟩ := priv_ctx (h j)
    have hroot : ∀ g, (⟨(MCtrl.main vga dev).wordAt g, (s.mmu j).ctx_tbl_ptr⟩ : Tables).leaf c va
        = some (0, 0) := by
      intro g
      have hw : (⟨(MCtrl.main vga dev).wordAt g, (s.mmu j).ctx_tbl_ptr⟩ : Tables).root c = c * 4 := by
        rw [hp]
        exact BitVec.zero_add _
      unfold Tables.leaf
      rw [hw]
      dsimp only
      rw [MCtrl.main_root g hc]
      rfl
    exact (hroot _).trans (hroot _).symm

/-- Memory is empty and the packets are on their way. -/
def bootSt : GdbSt 1 Unit where
  stub := ⟨[]⟩
  current_cpu := 0
  waiting := false
  cpus := [CPU.reset 0 0]
  mmu := fun _ => MMU.init
  mem := ⟨fun _ _ => 0, ()⟩
  dsc := none
  sent := []

def z0 (text : String) (h : starts_with text.toList "Z0," = true ∨ starts_with text.toList "z0," = true) :
    BreakPacket := ⟨⟨0, 0⟩, text.toList, h.elim Or.inl fun h => Or.inr (Or.inl h)⟩

/-- Memory is not empty. -/
def countedSt : GdbSt 1 Unit := { bootSt with mem := ⟨fun _ o => BitVec.ofInt 8 (o + 1), ()⟩ }

def twoBreaks : List BreakPacket :=
  [z0 "Z0,40000000,4" (by decide), z0 "Z0,40000004,4" (by decide),
    z0 "z0,40000000,4" (by decide), z0 "z0,40000004,4" (by decide)]

lemma careful_remove {p : BreakPacket} {s : GdbSt 1 Unit} (hZ : starts_with p.pkt "Z0," = false)
    (hH : starts_with p.pkt "Hg" = false) (hpriv : ∀ k, (s.mmu k).priv = MMU.init.priv) :
    p.Careful (MCtrl.main false oneDev) MCtrl.SoundPage s :=
  ⟨fun h => absurd (hZ.symm.trans h) (by decide), fun _ _ => GdbSt.patchable_reset hpriv _,
    fun h => absurd (hH.symm.trans h) (by decide)⟩

/-- Two breakpoints over different words, set and removed. -/
theorem breakpoints_restore_memory_two :
    (final (runAll (BreakPacket.handle (MCtrl.main false oneDev)) twoBreaks countedSt)).mem.bytes
      = countedSt.mem.bytes := by
  have hP := MCtrl.main_paged false oneDev
  have hB := MCtrl.main_bootable false oneDev
  have hfinal : ∀ {p : BreakPacket} {s s' : GdbSt 1 Unit} {a : Unit},
      p.handle (MCtrl.main false oneDev) s = .ok a s' →
      s' = final (p.handle (MCtrl.main false oneDev) s) := fun h => by rw [h]; rfl
  have hR : ∀ k, countedSt.Ready (MCtrl.main false oneDev) k := fun k =>
    ⟨coherent_flush MMU.init _, show (0 : u32) ≤ 255 by decide⟩
  have hU : countedSt.Undoable (MCtrl.main false oneDev) countedSt.mem.bytes := ⟨hR, List.Pairwise.nil, rfl⟩
  refine breakpoints_restore_memory hP hB countedSt _ twoBreaks hR rfl ?_
    (eq_ok_final (by decide +kernel)) (by decide +kernel)
  have c₁ : (z0 "Z0,40000000,4" (by decide)).Careful (MCtrl.main false oneDev) MCtrl.SoundPage countedSt :=
    ⟨fun _ _ => ⟨GdbSt.patchable_reset (fun _ => rfl) _, by simp [countedSt, bootSt]⟩,
      fun h => absurd h (by decide), fun h => absurd h (by decide)⟩
  refine ⟨c₁, fun _ s₁ h₁ => ?_⟩
  have hU₁ := BreakPacket.keeps hP hB hU c₁ h₁
  obtain rfl := hfinal h₁
  have c₂ : (z0 "Z0,40000004,4" (by decide)).Careful (MCtrl.main false oneDev) MCtrl.SoundPage (final
      ((z0 "Z0,40000000,4" (by decide)).handle (MCtrl.main false oneDev) countedSt)) := by
    refine ⟨fun _ _ => ⟨GdbSt.patchable_reset (fun k => by cases k <;> rfl) _, fun bp hbp x y hx hy => ?_⟩,
      fun h => absurd h (by decide), fun h => absurd h (by decide)⟩
    -- the first breakpoint is at the word before
    obtain rfl := List.mem_singleton.mp hbp
    cases hx
    cases hy
    exact Or.inr (Or.inr (Or.inr (Or.inl (by decide))))
  refine ⟨c₂, fun _ s₂ h₂ => ?_⟩
  have hU₂ := BreakPacket.keeps hP hB hU₁ c₂ h₂
  obtain rfl := hfinal h₂
  have hpriv : ∀ k, ((final ((z0 "Z0,40000004,4" (by decide)).handle (MCtrl.main false oneDev) (final
      ((z0 "Z0,40000000,4" (by decide)).handle (MCtrl.main false oneDev) countedSt)))).mmu k).priv =
      MMU.init.priv := fun k => by cases k <;> rfl
  refine ⟨careful_remove rfl rfl hpriv, fun _ s₃ h₃ => ⟨careful_remove rfl rfl fun k => ?_,
    fun _ _ _ => trivial⟩⟩
  obtain ⟨t, d, ht, rfl⟩ := GdbStub.guarded_cases
    ((GdbStub.handle_z0 (by decide)).symm.trans h₃)
  exact ((GdbStub.remove_undoable hP hB hU₂
    (fun _ => GdbSt.patchable_reset hpriv _) ht).2 k).trans (hpriv k)

def aliasSession : List BreakPacket :=
  [z0 "Z0,40000000,4" (by decide), z0 "Z0,f0000000,4" (by decide),
    z0 "z0,40000000,4" (by decide), z0 "z0,f0000000,4" (by decide)]

/-- The boot mapping lets two addresses share a word: the second breakpoint saves the first one's
`ta 1` and puts it back in the end. -/
theorem aliases_keep_trap :
    Returns (runAll (BreakPacket.handle (MCtrl.main false oneDev)) aliasSession bootSt) ∧
    (final (runAll (BreakPacket.handle (MCtrl.main false oneDev)) aliasSession bootSt)).stub.breakpoints
      = [] ∧
    (final (runAll (BreakPacket.handle (MCtrl.main false oneDev)) aliasSession bootSt)).mem.bytes 0 0
      ≠ bootSt.mem.bytes 0 0 := by
  decide +kernel

end SparcEmu
