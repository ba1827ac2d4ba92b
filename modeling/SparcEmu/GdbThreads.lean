import SparcEmu.GdbRestore

/-!
Thread ids: those that the stub lists, those that its packets accept, and the processor that is
reported under an id.
-/

namespace SparcEmu

open Lib.Effect Lib.Run Lib.Strtol

variable {n : Nat} {δ : Type} {mc : MCtrl δ}

namespace GdbStub

/-! ### Ids as text -/

lemma to_string_eq {i : Int} (h : 0 ≤ i) : to_string i = Nat.toDigits 10 i.toNat := by
  unfold to_string
  rw [Int.toString_eq_repr, Int.repr_eq_if, if_pos h, Nat.toList_repr]

lemma strtol_to_string {i : Int} (h : 0 ≤ i) : strtol 10 (to_string i) = some i := by
  rw [to_string_eq h, strtol_toDigits, Int.toNat_of_nonneg h]

lemma stoi_to_string {i : Int} (h : 0 ≤ i) : stoi (to_string i) 10 =
    if i < 2 ^ 31 then .ok i else .error (.out_of_range "stoi") := by
  unfold stoi
  rw [strtol_to_string h]
  simp only [show -2 ^ 31 ≤ i by omega, true_and]

lemma to_string_injective {i j : Int} (hi : 0 ≤ i) (hj : 0 ≤ j) (h : to_string i = to_string j) :
    i = j := by
  have hs := strtol_to_string hi
  rw [h, strtol_to_string hj] at hs
  exact (Option.some.inj hs).symm

/-- The ids that the debugger reads from a reply to `qfThreadInfo`: what stands between the commas,
behind the `m`. -/
def threadIds (reply : List Char) : List (List Char) := (reply.drop 1).splitOn ','

lemma threadIds_reply {N : Nat} (hN : 0 < N) :
    threadIds (make_qfThreadInfo_reply N) = (List.range N).map fun i : Nat => to_string (i + 1) := by
  unfold threadIds make_qfThreadInfo_reply
  rw [if_neg (by omega)]
  refine List.splitOn_intercalate ',' (fun l hl hcomma => ?_) ?_
  · obtain ⟨i, -, rfl⟩ := List.mem_map.mp hl
    rw [to_string_eq (by omega)] at hcomma
    have hdigit := Nat.isDigit_of_mem_toDigits (by omega) (Nat.le_refl 10) hcomma
    cases hdigit
  · simp only [ne_eq, List.map_eq_nil_iff, List.range_eq_nil]
    omega

lemma mem_threadIds {N : Nat} {i : Int} (hN : 0 < N) (hi : 0 < i) :
    to_string i ∈ threadIds (make_qfThreadInfo_reply N) ↔ i ≤ N := by
  rw [threadIds_reply hN, List.mem_map]
  constructor
  · rintro ⟨j, hj, h⟩
    have hj' := List.mem_range.mp hj
    have := to_string_injective (by omega) (by omega) h
    omega
  · intro h
    refine ⟨(i - 1).toNat, List.mem_range.mpr (by omega), ?_⟩
    rw [show ((i - 1).toNat : Int) + 1 = i by omega]

/-! ### Packets with an id -/

section Accepts

def Accepts (mc : MCtrl δ) (locals : Locals) (s : GdbSt n δ) (pkt : List Char) : Prop :=
  ∃ s', handle_packet mc locals pkt s = .ok () s' ∧ s'.sent = s.sent ++ [frame "OK".toList]

variable {locals : Locals} {s : GdbSt n δ} {i : Int}

lemma frame_OK_ne : frame "OK".toList ≠ frame "E01".toList := by decide

lemma reply_OK_iff (b : Bool) (s : GdbSt n δ) :
    (∃ s', reply b s = .ok () s' ∧ s'.sent = s.sent ++ [frame "OK".toList]) ↔ b = true := by
  cases b with
  | true => exact iff_of_true ⟨_, rfl, rfl⟩ rfl
  | false =>
    refine iff_of_false ?_ Bool.false_ne_true
    rintro ⟨s', h, hs⟩
    cases h
    have h := List.append_cancel_left hs
    exact absurd (List.cons.inj h).1 frame_OK_ne.symm

lemma threadId_to_string (hi : 0 ≤ i) : (threadId (to_string i) : GdbM n δ Int) s =
    if i < 2 ^ 31 then .ok i s else .error (.out_of_range "stoi") s := by
  unfold threadId
  rw [stoi_to_string hi]
  split_ifs <;> rfl

lemma threadTest_iff (hi : 0 ≤ i) (test : Int → GdbSt n δ → Bool) :
    (∃ s', (do let id ← threadId (to_string i); let s ← get; reply (test id s) : GdbM n δ Unit) s
      = .ok () s' ∧ s'.sent = s.sent ++ [frame "OK".toList]) ↔ i < 2 ^ 31 ∧ test i s = true := by
  by_cases hmax : i < 2 ^ 31
  · have hid : (threadId (to_string i) : GdbM n δ Int) s = .ok i s := by
      rw [threadId_to_string hi, if_pos hmax]
    rw [bind_ok hid, get_bind, reply_OK_iff]
    exact (and_iff_right hmax).symm
  · have hid : (threadId (to_string i) : GdbM n δ Int) s = .error (.out_of_range "stoi") s := by
      rw [threadId_to_string hi, if_neg hmax]
    rw [bind_error hid]
    refine iff_of_false ?_ fun h => hmax h.1
    rintro ⟨s', h, -⟩
    cases h

lemma accepts_T (hi : 0 < i) : Accepts mc locals s ('T' :: to_string i) ↔
    i < 2 ^ 31 ∧ i ≤ s.cpus.length := by
  have h := threadTest_iff (s := s) hi.le fun id s => decide (0 < id) && decide (id ≤ s.cpus.length)
  simp only [hi, decide_true, Bool.true_and, decide_eq_true_eq] at h
  exact h

lemma accepts_Hc (hi : 0 < i) : Accepts mc locals s ('H' :: 'c' :: to_string i) ↔
    i < 2 ^ 31 ∧ i < s.cpus.length := by
  have h := threadTest_iff (s := s) hi.le fun id s =>
    decide (id = -1) || (decide (0 ≤ id) && decide (id < s.cpus.length))
  simp only [show ¬ i = -1 by omega, hi.le, decide_true, decide_false, Bool.true_and, Bool.false_or,
    decide_eq_true_eq] at h
  exact h

lemma handle_Hg_to_string (hi : 0 < i) : handle_packet mc locals ('H' :: 'g' :: to_string i) s =
    if i < 2 ^ 31 then
      if i ≤ s.cpus.length then reply true { s with current_cpu := i - 1 } else reply false s
    else .error (.out_of_range "stoi") s := by
  rw [show handle_packet mc locals ('H' :: 'g' :: to_string i) s =
    threadSelected ('H' :: 'g' :: to_string i) s from rfl]
  unfold threadSelected
  have hid : (threadId (('H' :: 'g' :: to_string i).drop 2) : GdbM n δ Int) s = _ :=
    threadId_to_string hi.le
  by_cases hmax : i < 2 ^ 31
  · rw [if_pos hmax] at hid ⊢
    rw [bind_ok hid, get_bind, if_neg (by omega)]
    simp only [hi, true_and]
    split_ifs <;> rfl
  · rw [if_neg hmax] at hid ⊢
    rw [bind_error hid]

lemma accepts_Hg (hi : 0 < i) : Accepts mc locals s ('H' :: 'g' :: to_string i) ↔
    i < 2 ^ 31 ∧ i ≤ s.cpus.length := by
  unfold Accepts
  rw [handle_Hg_to_string hi]
  split_ifs with hmax hN
  · exact iff_of_true ⟨_, rfl, rfl⟩ ⟨hmax, hN⟩
  · rw [reply_OK_iff]
    exact iff_of_false Bool.false_ne_true fun h => hN h.2
  · refine iff_of_false ?_ fun h => hmax h.1
    rintro ⟨s', h, -⟩
    cases h

end Accepts

/-! ### The selected processor -/

def notify_breakpoint (cpu_id : Int) : GdbM n δ Unit := send_packet (stopReply (cpu_id + 1))

section Picked

/-- What only `Hg` changes. -/
def picked (s : GdbSt n δ) : Int × List CPU := (s.current_cpu, s.cpus)

variable {α β : Type}

lemma Fixes.catchStd {γ : Type} {f : GdbSt n δ → γ} {m h : GdbM n δ α} (hm : Fixes f m)
    (hh : Fixes f h) : Fixes f (catchStd m h) := by
  intro s
  have hs := hm s
  unfold GdbStub.catchStd
  cases hr : m s with
  | ok a s' =>
    rw [hr] at hs
    exact hs
  | error e s' =>
    rw [hr] at hs
    dsimp only
    split_ifs
    · exact (hh s').trans hs
    · exact hs

lemma fixes_get : Fixes (picked (n := n) (δ := δ)) get := fun _ => rfl

lemma fixes_raise (e : HostError) : Fixes picked (raise e : GdbM n δ α) := fun _ => rfl

lemma fixes_lift (x : Except HostError α) : Fixes picked (lift x : GdbM n δ α) := by
  cases x <;> exact fun _ => rfl

lemma fixes_send (data : List Char) : Fixes picked (send_packet data : GdbM n δ Unit) := fun _ => rfl

lemma fixes_selected : Fixes (picked (n := n) (δ := δ)) selected := by
  intro s
  unfold selected
  cases s.selected <;> rfl

lemma fixes_bus (k : Nat) (m : MmuM δ α) : Fixes (picked (n := n)) (onMMU k m) := by
  intro s
  unfold onMMU
  cases m ⟨s.mmu k, s.mem⟩ <;> rfl

lemma fixes_access32 (rw : Intent) (what : String) (a v : u32) :
    Fixes (picked (n := n)) (access32 mc rw what a v) := by
  refine Fixes.bind fixes_selected fun k => Fixes.bind (fixes_bus k _) fun r => ?_
  split_ifs
  · exact Fixes.pure _
  · refine Fixes.bind (fun _ => rfl) fun p => ?_
    cases p with
    | none => exact fixes_raise _
    | some p =>
      refine Fixes.bind (fixes_bus k _) fun r => ?_
      split_ifs
      · exact Fixes.pure _
      · exact fixes_raise _

lemma fixes_write_mem32 (a v : u32) : Fixes (picked (n := n)) (write_mem32 mc a v) :=
  Fixes.bind (fixes_access32 .store _ a v) fun _ => Fixes.pure _

lemma fixes_memoryReadFrom (a : u32) (len i : Nat) (last word : u32) :
    Fixes (picked (n := n)) (memoryReadFrom mc a i last word len) := by
  induction len generalizing i last word with
  | zero => exact Fixes.pure _
  | succ len ih =>
    unfold memoryReadFrom
    dsimp only
    split_ifs
    · exact Fixes.bind (fixes_access32 .load _ _ 0) fun w => Fixes.bind (ih _ _ _) fun _ => Fixes.pure _
    · exact Fixes.bind (Fixes.pure _) fun w => Fixes.bind (ih _ _ _) fun _ => Fixes.pure _

lemma fixes_patch (a p : u32) : Fixes (picked (n := n)) (patch mc a p) :=
  Fixes.bind (fixes_access32 .load _ _ 0) fun _ => Fixes.bind (fun _ => rfl) fun _ =>
    fixes_write_mem32 _ _

lemma fixes_insert_breakpoint (a : u32) : Fixes (picked (n := n)) (insert_breakpoint mc a) := by
  refine Fixes.bind fixes_get fun s => ?_
  split_ifs
  · exact Fixes.pure _
  · refine Fixes.bind fixes_selected fun k => Fixes.catchStd (fixes_patch a a) ?_
    refine Fixes.bind (fun _ => rfl) fun p => ?_
    cases p with
    | none => exact fixes_raise _
    | some p => exact fixes_patch a p

lemma fixes_unpatch (k i : Nat) (bp : Breakpoint) : Fixes (picked (n := n)) (unpatch mc k i bp) := by
  have hback : ∀ (p : u32) (b : Bool), Fixes (picked (n := n)) (do
      write_mem32 mc p bp.original_instr
      erase i
      pure b) := fun p b =>
    Fixes.bind (fixes_write_mem32 _ _) fun _ => Fixes.bind (fun _ => rfl) fun _ => Fixes.pure _
  refine Fixes.catchStd (hback bp.addr true) (Fixes.bind (fun _ => rfl) fun p => ?_)
  cases p with
  | none => exact fixes_raise _
  | some p => exact hback p false

lemma fixes_removeFrom (k : Nat) (a : u32) (left i : Nat) :
    Fixes (picked (n := n)) (removeFrom mc k a i left) := by
  induction left using Nat.strong_induction_on generalizing i with
  | _ left ih =>
    cases left with
    | zero => exact fixes_raise _
    | succ left =>
      unfold removeFrom
      refine Fixes.bind fixes_get fun s => ?_
      split
      · exact fixes_raise _
      · split_ifs
        · refine Fixes.bind (fixes_unpatch k i _) fun finished => ?_
          split_ifs
          · exact Fixes.pure _
          · split
            · exact fixes_raise _
            · exact ih _ (by omega) _
        · exact ih left (by omega) _

lemma fixes_remove_breakpoint (a : u32) : Fixes (picked (n := n)) (remove_breakpoint mc a) :=
  Fixes.bind fixes_selected fun k => Fixes.bind fixes_get fun _ => fixes_removeFrom k a _ _

lemma fixes_guarded {m : GdbM n δ Unit} (hm : Fixes picked m) : Fixes picked (guarded m) :=
  Fixes.catchStd (Fixes.bind hm fun _ => fixes_send _) (fixes_send _)

lemma fixes_threadTest (text : List Char) (test : Int → GdbSt n δ → Bool) :
    Fixes (picked (n := n) (δ := δ)) (do
      let id ← threadId text
      let s ← get
      reply (test id s)) :=
  Fixes.bind (fixes_lift _) fun _ => Fixes.bind fixes_get fun _ => fixes_send _

lemma fixes_interrupted : Fixes (picked (n := n) (δ := δ)) interrupted := by
  refine Fixes.bind fixes_get fun s => ?_
  split
  · exact Fixes.pure _
  · exact Fixes.bind (fun _ => rfl) fun _ => fixes_send _

lemma fixes_registersRead : Fixes (picked (n := n) (δ := δ)) registersRead := by
  refine Fixes.bind fixes_get fun s => ?_
  split <;> exact fixes_send _

lemma fixes_registersWritten (pkt : List Char) :
    Fixes (picked (n := n) (δ := δ)) (registersWritten pkt) := by
  refine Fixes.bind fixes_get fun s => ?_
  split
  · exact fixes_send _
  · exact Fixes.bind (fixes_lift _) fun _ => Fixes.bind (fixes_raise _) fun _ => fixes_send _

lemma fixes_memoryRead (a len : u32) : Fixes (picked (n := n)) (memoryRead mc a len) := by
  refine Fixes.bind (Fixes.catchStd ?_ (Fixes.pure _)) fun data => ?_
  · exact Fixes.bind (fixes_memoryReadFrom _ _ _ _ _) fun _ => Fixes.pure _
  · cases data <;> exact fixes_send _

lemma fixes_handle_packet {locals : Locals} {pkt : List Char} (h : starts_with pkt "Hg" = false) :
    Fixes (picked (n := n)) (handle_packet mc locals pkt) := by
  refine Fixes.bind fixes_get fun s => ?_
  refine Fixes.ite (fun _ => fixes_send _) fun _ => ?_
  refine Fixes.ite (fun _ => fixes_interrupted) fun _ => ?_
  refine Fixes.ite (fun _ => fixes_send _) fun _ => ?_
  refine Fixes.ite (fun _ => fixes_send _) fun _ => ?_
  refine Fixes.ite (fun _ => fixes_send _) fun _ => ?_
  refine Fixes.ite (fun _ => fixes_registersRead) fun _ => ?_
  refine Fixes.ite (fun _ => fixes_registersWritten pkt) fun _ => ?_
  refine Fixes.ite (fun _ _ => rfl) fun _ => ?_
  refine Fixes.ite (fun hg => ?_) fun _ => ?_
  · rw [h] at hg
    cases hg
  refine Fixes.ite (fun _ => fixes_threadTest _ fun id s => 0 < id && id ≤ s.cpus.length) fun _ => ?_
  refine Fixes.ite (fun _ => fixes_threadTest _ fun id s =>
    id = -1 || (0 ≤ id && id < s.cpus.length)) fun _ => ?_
  refine Fixes.ite (fun _ => fixes_guarded (fixes_insert_breakpoint _)) fun _ => ?_
  refine Fixes.ite (fun _ => fixes_guarded (fixes_remove_breakpoint _)) fun _ => ?_
  exact Fixes.ite (fun _ => fixes_memoryRead _ _) fun _ => fixes_send _

end Picked

/-- A packet and what the uninitialised variables hold when it is handled. -/
abbrev Packet := Locals × List Char

lemma fixes_packets {pkts : List Packet} (h : ∀ p ∈ pkts, starts_with p.2 "Hg" = false) :
    Fixes (picked (n := n)) (runAll (fun p : Packet => handle_packet mc p.1 p.2) pkts) := by
  induction pkts with
  | nil => exact Fixes.pure _
  | cons p pkts ih =>
    exact Fixes.bind (fixes_handle_packet (h p List.mem_cons_self)) fun _ =>
      ih fun q hq => h q (List.mem_cons_of_mem _ hq)

/-- The stub reports processor `i - 1` under the id `i`: its stop replies have the id, and the
registers are those of that processor. -/
structure Reports (mc : MCtrl δ) (t : GdbSt n δ) (i : Int) : Prop where
  query : ∀ locals, handle_packet mc locals ['?'] t = send_packet (stopReply i) t
  ctrl_c : ∀ locals, t.dsc ≠ none → ∃ u, handle_packet mc locals ['\x03'] t = .ok () u ∧
    u.sent = t.sent ++ [frame (stopReply i)]
  breakpoint : notify_breakpoint (i - 1) t = send_packet (stopReply i) t
  registers : ∀ locals, ∃ c, t.cpus[(i - 1).toNat]? = some c ∧
    handle_packet mc locals ['g'] t = send_packet (read_registers c) t

lemma reports_selected {t : GdbSt n δ} {i : Int} (hi : 0 < i) (hN : i ≤ t.cpus.length)
    (hc : t.current_cpu = i - 1) : Reports mc t i where
  query locals := by
    show send_packet (stopReply (t.current_cpu + 1)) t = _
    rw [hc, Int.sub_add_cancel]
  ctrl_c locals hd := by
    obtain ⟨d, hd⟩ := Option.ne_none_iff_exists'.mp hd
    refine ⟨{ t with dsc := some (stopWorld d), sent := t.sent ++ [frame (stopReply i)] }, ?_, rfl⟩
    show interrupted t = _
    unfold interrupted
    rw [get_bind, hd]
    show EStateM.Result.ok () { t with
      dsc := some (stopWorld d), sent := t.sent ++ [frame (stopReply (t.current_cpu + 1))] } = _
    rw [hc, Int.sub_add_cancel]
  breakpoint := by
    unfold notify_breakpoint
    rw [Int.sub_add_cancel]
  registers locals := by
    have hlt : (i - 1).toNat < t.cpus.length := by omega
    refine ⟨t.cpus[(i - 1).toNat], List.getElem?_eq_getElem hlt, ?_⟩
    have hsel : t.selected = some (i - 1).toNat := by
      unfold GdbSt.selected
      rw [hc, if_pos (by omega)]
    show registersRead t = _
    unfold registersRead
    rw [get_bind, hsel, Option.bind_some,
      List.getElem?_eq_getElem hlt]

/-- **Thread ids**: a positive number is treated alike by the list, `Hg`, `Hc` and `T` if and only if
it is not the number of processors, which `Hc` takes for one too many. The list, `Hg` and `T` agree on
every number. Behind an accepted `Hg`, until the next one, the stub reports the processor of that id. -/
theorem thread_ids_consistent_iff (s : GdbSt n δ) (locals : Locals) (hN : 0 < s.cpus.length)
    (hint : s.cpus.length < 2 ^ 31) (i : Int) (hi : 0 < i) :
    (((to_string i ∈ threadIds (make_qfThreadInfo_reply s.cpus.length) ↔
          Accepts mc locals s ("Hg".toList ++ to_string i)) ∧
        (to_string i ∈ threadIds (make_qfThreadInfo_reply s.cpus.length) ↔
          Accepts mc locals s ("Hc".toList ++ to_string i)) ∧
        (to_string i ∈ threadIds (make_qfThreadInfo_reply s.cpus.length) ↔
          Accepts mc locals s ("T".toList ++ to_string i))) ↔ i ≠ s.cpus.length) ∧
    handle_packet mc locals "qfThreadInfo".toList s =
      send_packet (make_qfThreadInfo_reply s.cpus.length) s ∧
    (to_string i ∈ threadIds (make_qfThreadInfo_reply s.cpus.length) ↔
      Accepts mc locals s ("Hg".toList ++ to_string i)) ∧
    (to_string i ∈ threadIds (make_qfThreadInfo_reply s.cpus.length) ↔
      Accepts mc locals s ("T".toList ++ to_string i)) ∧
    (to_string i ∈ threadIds (make_qfThreadInfo_reply s.cpus.length) →
      ∀ s', handle_packet mc locals ("Hg".toList ++ to_string i) s = .ok () s' →
        ∀ (pkts : List Packet) t, (∀ p ∈ pkts, starts_with p.2 "Hg" = false) →
          runAll (fun p : Packet => handle_packet mc p.1 p.2) pkts s' = .ok () t → Reports mc t i) := by
  have hlist := mem_threadIds hN hi
  have hHg : Accepts mc locals s ("Hg".toList ++ to_string i) ↔ i ≤ s.cpus.length :=
    (accepts_Hg hi).trans ⟨fun h => h.2, fun h => ⟨by omega, h⟩⟩
  have hHc : Accepts mc locals s ("Hc".toList ++ to_string i) ↔ i < s.cpus.length :=
    (accepts_Hc hi).trans ⟨fun h => h.2, fun h => ⟨by omega, h⟩⟩
  have hT : Accepts mc locals s ("T".toList ++ to_string i) ↔ i ≤ s.cpus.length :=
    (accepts_T hi).trans ⟨fun h => h.2, fun h => ⟨by omega, h⟩⟩
  rw [hlist, hHg, hHc, hT]
  refine ⟨⟨fun h => ?_, fun h => ⟨Iff.rfl, ?_, Iff.rfl⟩⟩, rfl, Iff.rfl, Iff.rfl, ?_⟩
  · have := h.2.1
    omega
  · omega
  · intro hle s' hs pkts t hpkts hrun
    have hsel : handle_packet mc locals ("Hg".toList ++ to_string i) s = _ := handle_Hg_to_string hi
    rw [hs, if_pos (by omega), if_pos hle] at hsel
    cases hsel
    have hp := (fixes_packets hpkts).ok hrun
    obtain ⟨hc, hl⟩ := Prod.mk.inj hp
    refine reports_selected hi ?_ hc
    rw [hl]
    exact hle

end GdbStub

def twoSt : GdbSt 2 Unit where
  stub := ⟨[]⟩
  current_cpu := 1
  waiting := false
  cpus := [CPU.reset 0 0, CPU.reset 1 0]
  mmu := fun _ => MMU.init
  mem := ⟨fun _ _ => 0, ()⟩
  dsc := none
  sent := []

/-- The id of the first processor. -/
theorem thread_ids_consistent_first :
    (to_string 1 ∈ GdbStub.threadIds (make_qfThreadInfo_reply 2) ↔
      GdbStub.Accepts (MCtrl.main false MMU.oneDev) ⟨0, 0⟩ twoSt ("Hg".toList ++ to_string 1)) ∧
    (to_string 1 ∈ GdbStub.threadIds (make_qfThreadInfo_reply 2) ↔
      GdbStub.Accepts (MCtrl.main false MMU.oneDev) ⟨0, 0⟩ twoSt ("Hc".toList ++ to_string 1)) ∧
    (to_string 1 ∈ GdbStub.threadIds (make_qfThreadInfo_reply 2) ↔
      GdbStub.Accepts (MCtrl.main false MMU.oneDev) ⟨0, 0⟩ twoSt ("T".toList ++ to_string 1)) :=
  (GdbStub.thread_ids_consistent_iff twoSt ⟨0, 0⟩ (by decide) (by decide) 1 (by decide)).1.mpr
    (by decide)

/-- The id of the last processor is listed, and `Hc` denies that there is such a thread. -/
theorem last_thread_not_continued :
    to_string 2 ∈ GdbStub.threadIds (make_qfThreadInfo_reply 2) ∧
    (final (GdbStub.handle_packet (MCtrl.main false MMU.oneDev) ⟨0, 0⟩ "T2".toList twoSt)).sent
      = [frame "OK".toList] ∧
    (final (GdbStub.handle_packet (MCtrl.main false MMU.oneDev) ⟨0, 0⟩ "Hc2".toList twoSt)).sent
      = [frame "E01".toList] := by
  decide +kernel

end SparcEmu
