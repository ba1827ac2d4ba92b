import SparcEmu.DeviceErrors
import SparcEmu.Faults
import SparcEmu.RamAccess
import SparcEmu.TlbCoherence

/-!
Exceptions on the bus: which accesses of the machine of `main` throw.

Memory and unmapped addresses always answer. A device answers only in the registers and sizes its
decoder knows, the configuration space not at all when `get_ptr` is asked for, and the page table
walk reads through the same bus.
-/

namespace SparcEmu

open Lib.Effect

namespace MCtrl

/-! ### The condition -/

section Condition

variable (mc : MCtrl Devices)

/-- A read of the physical address is answered. -/
def readable (size : AccessSize) (pa : u32) : Bool :=
  match mc.get_bank pa with
  | none => true
  | some (_, b) =>
    match b.kind with
    | .device id _ => Devices.readable false id size pa
    | _ => true

/-- A transfer at the physical address is answered. `get_ptr` is asked for with the MMU on and for
every store. -/
def transferOk (on : Bool) (rw : Intent) (size : AccessSize) (pa v : u32) (d : Devices) : Bool :=
  match mc.get_bank pa with
  | none => true
  | some (_, b) =>
    match b.kind with
    | .RamBank => true
    | .RomBank writeable => on || writeable || decide (rw ≠ .store)
    | .device id ptr =>
      (decide (ptr = .nullptr) || !(on || decide (rw = .store))) &&
        (if rw = .store then Devices.writable mc.banks id size pa v d
        else Devices.readable false id size pa)

/-- The word that a walk reads, and the memory behind the read. -/
def word {δ : Type} (mc : MCtrl δ) (pa : u32) (m : Mem δ) : u32 × Mem δ :=
  match mc.bypassRead4 pa m with
  | .ok r => r
  | .error _ => (0, m)

/-- The entry that a walk ends at, given the indices of the tables still to come; `none` if an entry
on the way lies where the bus does not answer. -/
def walk : List u32 → u8 → u32 → Mem Devices → Option (u32 × u8)
  | [], level, pa, m => if mc.readable .b4 pa then some ((mc.word pa m).1, level) else none
  | i :: is, level, pa, m =>
    if mc.readable .b4 pa then
      let w := mc.word pa m
      if w.1 &&& 3 = 1 then walk is (level + 1) (MMU.tableAddr w.1 i) w.2 else some (w.1, level)
    else none

end Condition

/-! ### Banks -/

section Banks

variable {mc : MCtrl Devices} (hdev : mc.dev = Devices.ops mc.banks)

include hdev

lemma bankRead_isOk (i : Nat) (b : IMemoryBank) (size : AccessSize) (pa : u32) (m : Mem Devices) :
    (mc.bankRead i b size pa m).isOk =
      match b.kind with
      | .device id _ => Devices.readable false id size pa
      | _ => true := by
  unfold bankRead
  cases b.kind with
  | RamBank => rfl
  | RomBank w => rfl
  | device id p =>
    dsimp only
    rw [hdev, ← Devices.read_isOk false id size pa m.dev]
    show Except.isOk (nolock (Devices.read false id size pa m.dev) >>= _) = _
    cases Devices.read false id size pa m.dev <;> rfl

lemma bankRead_playback (i : Nat) (b : IMemoryBank) (size : AccessSize) (pa : u32) (m : Mem Devices) :
    AllOk (fun r => r.2.dev.playback = m.dev.playback) (mc.bankRead i b size pa m) := by
  unfold bankRead
  cases b.kind with
  | RamBank => exact allOk_ok rfl
  | RomBank w => exact allOk_ok rfl
  | device id p =>
    dsimp only
    rw [hdev]
    have h := Devices.read_sound (d := m.dev) false id size pa
    intro r hr
    change (nolock (Devices.read false id size pa m.dev) >>= _) = _ at hr
    cases hx : Devices.read false id size pa m.dev with
    | error e => rw [hx] at hr; cases hr
    | ok x =>
      rw [hx] at hr
      cases hr
      exact (Devices.soundKept_of_read (h x hx)).playback

lemma bankWrite_isOk (i : Nat) (b : IMemoryBank) (size : AccessSize) (pa v : u32) (m : Mem Devices) :
    (mc.bankWrite i b size pa v m).isOk =
      match b.kind with
      | .device id _ => Devices.writable mc.banks id size pa v m.dev
      | .RomBank writeable => writeable
      | .RamBank => true := by
  unfold bankWrite
  cases b.kind with
  | RamBank => rfl
  | RomBank w => cases w <;> rfl
  | device id p =>
    dsimp only
    rw [hdev, ← Devices.write_isOk mc.banks id size pa v m.dev]
    show Except.isOk (nolock (Devices.write mc.banks id size pa v m.dev) >>= _) = _
    cases Devices.write mc.banks id size pa v m.dev <;> rfl

lemma bypassRead4_isOk (pa : u32) (m : Mem Devices) :
    (mc.bypassRead4 pa m).isOk = mc.readable .b4 pa := by
  unfold bypassRead4 readable
  rcases mc.get_bank pa with _ | ⟨i, b⟩
  · rfl
  · exact bankRead_isOk hdev i b .b4 pa m

lemma word_playback (pa : u32) (m : Mem Devices) : (mc.word pa m).2.dev.playback = m.dev.playback := by
  unfold word bypassRead4
  rcases mc.get_bank pa with _ | ⟨i, b⟩
  · rfl
  · dsimp only
    cases h : mc.bankRead i b .b4 pa m with
    | error e => rfl
    | ok r => exact bankRead_playback hdev i b .b4 pa m r h

end Banks

end MCtrl

namespace MMU

variable (mc : MCtrl Devices)

def walkOf (s : MMUSt Devices) (va : u32) : Option (u32 × u8) :=
  mc.walk [ind1 va, ind2 va, ind3 va] 0 s.mmu.ctxEntryAddr s.mem

/-- The bus answers every read and the transfer that the access makes. -/
def BusOk (s : MMUSt Devices) (rw : Intent) (size : AccessSize) (va v : u32) (sup : Bool) : Prop :=
  if s.mmu.get_enabled then
    if (s.mmu.l0Hit rw va sup).isSome then True
    else
      match ((s.mmu.tlb rw).lookup s.mmu.ctx_n va).1 with
      | some (pte, level) =>
        permOk pte rw sup = true →
          mc.transferOk true rw size (physAddr va pte level) v s.mem.dev = true
      | none =>
        ∃ r, walkOf mc s va = some r ∧ (permFault r.1 rw sup r.2 = 0 →
          mc.transferOk true rw size (physAddr va r.1 r.2) v s.mem.dev = true)
  else mc.transferOk false rw size va v s.mem.dev = true

variable {mc}

/-! ### The transfer -/

lemma returns_onMem {α : Type} (f : Mem Devices → Except HostError (α × Mem Devices))
    (s : MMUSt Devices) : Returns (onMem f s) ↔ (f s.mem).isOk = true := by
  unfold onMem
  cases f s.mem with
  | error e => exact ⟨fun h => h.elim, fun h => by cases h⟩
  | ok r => exact ⟨fun _ => rfl, fun _ => trivial⟩

lemma busAccess_of_ptr {pa : u32} {i : Nat} {b : IMemoryBank} {x : Bool}
    (hb : mc.get_bank pa = some (i, b)) (hp : b.get_ptr = .ok x) (rw : Intent) (size : AccessSize)
    (va v : u32) (sup rep on : Bool) (s : MMUSt Devices) :
    Returns (busAccess mc rw size va v pa sup rep on s) ↔
      (on && x) = true ∨ Returns (bankAccess mc rw size i b pa v s) := by
  unfold busAccess
  rw [hb]
  dsimp only
  rw [hp]
  by_cases hx : (on && x) = true
  · obtain ⟨rfl, rfl⟩ : on = true ∧ x = true := by simpa using hx
    refine ⟨fun _ => Or.inl hx, fun _ => ?_⟩
    cases rw <;> exact trivial
  · have hlift : ∀ k : Bool → MmuM Devices (cint × u32), ((liftExcept (.ok x)) >>= k) s = k x s :=
      fun _ => rfl
    split_ifs
    · rw [hlift, if_neg hx]
      simp [hx]
    · simp [hx]

lemma busAccess_of_throw {pa : u32} {i : Nat} {b : IMemoryBank} {e : HostError}
    (hb : mc.get_bank pa = some (i, b)) (hp : b.get_ptr = .error e) (rw : Intent) (size : AccessSize)
    (va v : u32) (sup rep on : Bool) (s : MMUSt Devices) :
    Returns (busAccess mc rw size va v pa sup rep on s) ↔
      (on || decide (rw = .store)) = false ∧ Returns (bankAccess mc rw size i b pa v s) := by
  unfold busAccess
  rw [hb]
  dsimp only
  rw [hp]
  split_ifs with ho
  · refine ⟨fun h => ?_, fun h => by rw [ho] at h; cases h.1⟩
    obtain ⟨_, _, h, -⟩ := returns_bind.mp h
    cases h
  · simp [ho]

section Transfer

variable (hdev : mc.dev = Devices.ops mc.banks)
include hdev

lemma returns_bankAccess (rw : Intent) (size : AccessSize) (i : Nat) (b : IMemoryBank) (pa v : u32)
    (s : MMUSt Devices) :
    Returns (bankAccess mc rw size i b pa v s) ↔
      (match b.kind with
        | .RamBank => true
        | .RomBank writeable => writeable || decide (rw ≠ .store)
        | .device id _ =>
          if rw = .store then Devices.writable mc.banks id size pa v s.mem.dev
          else Devices.readable false id size pa) = true := by
  have hr : Returns (onMem (mc.bankRead i b size pa) s) ↔ _ := returns_onMem ..
  have hw : Returns (onMem' (mc.bankWrite i b size pa v) s) ↔ _ := returns_onMem ..
  rw [isOk_map, MCtrl.bankWrite_isOk hdev] at hw
  rw [MCtrl.bankRead_isOk hdev] at hr
  unfold bankAccess
  cases rw with
  | store =>
    refine (returns_bind_of ?_).trans (hw.trans ?_)
    · exact fun _ _ => trivial
    · cases b.kind <;> simp
  | load =>
    refine (returns_bind_of ?_).trans (hr.trans ?_)
    · exact fun _ _ => trivial
    · cases b.kind <;> simp
  | execute =>
    refine (returns_bind_of ?_).trans (hr.trans ?_)
    · exact fun _ _ => trivial
    · cases b.kind <;> simp

theorem returns_busAccess (rw : Intent) (size : AccessSize) (va v pa : u32) (sup rep on : Bool)
    (s : MMUSt Devices) :
    Returns (busAccess mc rw size va v pa sup rep on s) ↔
      mc.transferOk on rw size pa v s.mem.dev = true := by
  cases hb : mc.get_bank pa with
  | none =>
    obtain ⟨m, -, e⟩ := busAccess_none hb rw size va v sup rep on s
    rw [e]
    simp [MCtrl.transferOk, hb, Returns]
  | some ib =>
    obtain ⟨i, b⟩ := ib
    have hbank := returns_bankAccess hdev rw size i b pa v s
    unfold MCtrl.transferOk
    rw [hb]
    dsimp only
    cases hk : b.kind with
    | RamBank =>
      have hp : b.get_ptr = .ok true := by simp only [IMemoryBank.get_ptr, hk]
      rw [busAccess_of_ptr hb hp, hbank, hk]
      simp
    | RomBank w =>
      have hp : b.get_ptr = .ok true := by simp only [IMemoryBank.get_ptr, hk]
      rw [busAccess_of_ptr hb hp, hbank, hk]
      simp [or_assoc]
    | device id p =>
      cases p with
      | nullptr =>
        have hp : b.get_ptr = .ok false := by simp only [IMemoryBank.get_ptr, hk]
        rw [busAccess_of_ptr hb hp, hbank, hk]
        simp
      | throws =>
        have hp : b.get_ptr = .error (.runtime_error "Cannot use get_ptr on pci cfg/io.") := by
          simp only [IMemoryBank.get_ptr, hk]
        rw [busAccess_of_throw hb hp, hbank, hk]
        simp

end Transfer

/-! ### The walk -/

section Walk

variable (hdev : mc.dev = Devices.ops mc.banks)
include hdev

lemma bypassRead4_of_readable {pa : u32} (h : mc.readable .b4 pa = true) (s : MMUSt Devices) :
    MemAccessBypassRead4 mc pa s = .ok (mc.word pa s.mem).1 ⟨s.mmu, (mc.word pa s.mem).2⟩ := by
  have hok := MCtrl.bypassRead4_isOk hdev pa s.mem
  rw [h] at hok
  obtain ⟨r, hr⟩ := isOk_iff.mp hok
  unfold MemAccessBypassRead4 onMem MCtrl.word
  rw [hr]

lemma bypassRead4_throws {pa : u32} (h : mc.readable .b4 pa = false) (s : MMUSt Devices) :
    ¬ Returns (MemAccessBypassRead4 mc pa s) := by
  unfold MemAccessBypassRead4
  rw [returns_onMem, MCtrl.bypassRead4_isOk hdev, h]
  simp

lemma walkM_spec (is : List u32) (level : u8) (pa : u32) (s : MMUSt Devices) :
    (mc.walk is level pa s.mem = none ∧ ¬ Returns (walkM mc is level pa s)) ∨
    ∃ r m, mc.walk is level pa s.mem = some r ∧ m.dev.playback = s.mem.dev.playback ∧
      walkM mc is level pa s = .ok r ⟨s.mmu, m⟩ := by
  induction is generalizing level pa s with
  | nil =>
    unfold MCtrl.walk walkM
    cases h : mc.readable .b4 pa with
    | false =>
      refine Or.inl ⟨rfl, fun hr => bypassRead4_throws hdev h s ?_⟩
      obtain ⟨a, t, e, -⟩ := returns_bind.mp hr
      exact returns_iff.mpr ⟨a, t, e⟩
    | true =>
      rw [bind_ok (bypassRead4_of_readable hdev h s)]
      exact Or.inr ⟨_, _, rfl, MCtrl.word_playback hdev pa s.mem, rfl⟩
  | cons i is ih =>
    unfold MCtrl.walk walkM
    cases h : mc.readable .b4 pa with
    | false =>
      refine Or.inl ⟨rfl, fun hr => bypassRead4_throws hdev h s ?_⟩
      obtain ⟨a, t, e, -⟩ := returns_bind.mp hr
      exact returns_iff.mpr ⟨a, t, e⟩
    | true =>
      have hw := MCtrl.word_playback hdev pa s.mem
      rw [bind_ok (bypassRead4_of_readable hdev h s), if_pos rfl]
      dsimp only
      split_ifs
      · rcases ih (level + 1) (tableAddr (mc.word pa s.mem).1 i) ⟨s.mmu, (mc.word pa s.mem).2⟩ with
          h | ⟨r, m, h, hm, e⟩
        · exact Or.inl h
        · exact Or.inr ⟨r, m, h, hm.trans hw, e⟩
      · exact Or.inr ⟨_, _, rfl, hw, rfl⟩

omit hdev in
lemma walk_level {is : List u32} {level : u8} {pa : u32} {m : Mem Devices} {r : u32 × u8}
    (h : mc.walk is level pa m = some r) :
    r = ((mc.word pa m).1, level) ∨ ∃ k, k < is.length ∧ r.2 = level + 1 + BitVec.ofNat 8 k := by
  induction is generalizing level pa m with
  | nil =>
    unfold MCtrl.walk at h
    split_ifs at h
    exact Or.inl (Option.some.inj h).symm
  | cons i is ih =>
    unfold MCtrl.walk at h
    split_ifs at h
    dsimp only at h
    split_ifs at h
    · rcases ih h with e | ⟨k, hk, e⟩
      · exact Or.inr ⟨0, by simp, by rw [e]; simp⟩
      · refine Or.inr ⟨k + 1, by simpa using hk, ?_⟩
        rw [e, BitVec.ofNat_add, BitVec.add_comm (BitVec.ofNat 8 k), ← BitVec.add_assoc]
        rfl
    · exact Or.inl (Option.some.inj h).symm

omit hdev in
lemma walkOf_insert {s : MMUSt Devices} {va : u32} {r : u32 × u8}
    (hroot : (mc.word s.mmu.ctxEntryAddr s.mem).1 &&& 3 ≠ 2) (h : walkOf mc s va = some r)
    (t : TLB) (c : u32) : ∃ t', t.insert c va r.2 r.1 = .ok t' := by
  unfold TLB.insert
  split_ifs with hv
  · rcases walk_level h with e | ⟨k, hk, e⟩
    · rw [e] at hv
      exact absurd (by simpa [TLB.is_valid] using hv) hroot
    · have hm : ∃ mask, get_addr_level_mask r.2 = .ok mask := by
        rw [e]
        simp only [List.length_cons, List.length_nil] at hk
        interval_cases k <;> exact ⟨_, rfl⟩
      obtain ⟨mask, hm⟩ := hm
      split
      · next h => rw [hm] at h; cases h
      · exact ⟨_, rfl⟩
  · exact ⟨_, rfl⟩

lemma translate_va_walk {s : MMUSt Devices} {va : u32} {rw : Intent} (hc : s.mmu.ctx_n ≤ 255)
    (hroot : (mc.word s.mmu.ctxEntryAddr s.mem).1 &&& 3 ≠ 2)
    (hl : (s.mmu.tlb rw).lookup s.mmu.ctx_n va = (none, s.mmu.tlb rw)) (sup rep : Bool) :
    (walkOf mc s va = none ∧ ¬ Returns (translate_va mc va sup rw rep s)) ∨
    ∃ r t, walkOf mc s va = some r ∧ t.mem.dev.playback = s.mem.dev.playback ∧
      translate_va mc va sup rw rep s = .ok (outcome va rw sup r) t := by
  rcases walkM_spec hdev [ind1 va, ind2 va, ind3 va] 0 s.mmu.ctxEntryAddr s with
    ⟨h, hn⟩ | ⟨r, m, h, hm, e⟩
  · exact Or.inl ⟨h, translate_va_throws hc hl hn⟩
  · obtain ⟨t', ht⟩ := walkOf_insert hroot h (s.mmu.tlb rw) s.mmu.ctx_n
    have hx := translate_va_walked hc hl ((get_PTE_eq va s).trans e) sup rep
    rw [ht] at hx
    exact Or.inr ⟨r, _, h, hm, hx⟩

end Walk

/-! ### Accesses -/

section Access

variable (hdev : mc.dev = Devices.ops mc.banks) {s : MMUSt Devices} {rw : Intent}
  {size : AccessSize} {va v : u32} {sup rep : Bool}
include hdev

omit hdev in
lemma transferOk_congr {d d' : Devices} (h : d'.playback = d.playback) (on : Bool) (rw : Intent)
    (size : AccessSize) (pa v : u32) :
    mc.transferOk on rw size pa v d' = mc.transferOk on rw size pa v d := by
  unfold MCtrl.transferOk
  simp only [Devices.writable_congr h]

lemma returns_MemAccess_miss {res : MMUTranslateResult} {t : MMUSt Devices}
    (he : s.mmu.get_enabled = true) (hp : s.mmu.l0Hit rw va sup = none)
    (ht : translate_va mc va sup rw rep s = .ok res t)
    (hm : t.mem.dev.playback = s.mem.dev.playback) :
    Returns (MemAccess mc rw size va v sup rep s) ↔
      (res.ok = true → mc.transferOk true rw size res.pa v s.mem.dev = true) := by
  rw [MemAccess_miss he hp ht]
  by_cases hok : res.ok = true
  · rw [if_pos hok, returns_busAccess hdev, transferOk_congr hm]
    simp [hok]
  · rw [if_neg hok]
    exact ⟨fun _ h => absurd h hok, fun _ => trivial⟩

theorem returns_MemAccess (hc : s.mmu.ctx_n ≤ 255)
    (hroot : (mc.word s.mmu.ctxEntryAddr s.mem).1 &&& 3 ≠ 2) :
    Returns (MemAccess mc rw size va v sup rep s) ↔ BusOk mc s rw size va v sup := by
  unfold BusOk
  by_cases he : s.mmu.get_enabled = true
  · rw [if_pos he]
    cases hp : s.mmu.l0Hit rw va sup with
    | some p =>
      obtain ⟨w, mem, e, -⟩ := ptrAccess_ok p rw size v s
      rw [MemAccess_hit he hp, e]
      exact ⟨fun _ => trivial, fun _ => trivial⟩
    | none =>
      rw [if_neg (by simp)]
      rcases hl : (s.mmu.tlb rw).lookup s.mmu.ctx_n va with ⟨_ | ⟨pte, level⟩, t⟩
      · obtain rfl := TLB.lookup_none hl
        dsimp only
        rcases translate_va_walk hdev hc hroot hl sup rep with ⟨h, hn⟩ | ⟨r, t, h, hm, e⟩
        · refine ⟨fun hr => absurd ?_ hn, fun ⟨r, hr, _⟩ => by rw [h] at hr; cases hr⟩
          rcases ht : translate_va mc va sup rw rep s with ⟨a, t⟩ | ⟨x, t⟩
          · trivial
          · rwa [MemAccess_throws he hp ht] at hr
        · rw [returns_MemAccess_miss hdev he hp e hm, h]
          unfold outcome
          by_cases h0 : permFault r.1 rw sup r.2 = 0
          · rw [if_pos h0]
            exact ⟨fun hx => ⟨r, rfl, fun _ => hx rfl⟩, by rintro ⟨_, ⟨⟩, hx⟩ _; exact hx h0⟩
          · rw [if_neg h0]
            exact ⟨fun _ => ⟨r, rfl, fun h => absurd h h0⟩, fun _ h => by cases h⟩
      · dsimp only
        rw [returns_MemAccess_miss hdev he hp (translate_va_hit hl) rfl]
        unfold hitOutcome
        by_cases hk : permOk pte rw sup = true
        · simp [hk]
        · simp [hk]
  · rw [if_neg he, MemAccess_off (by simpa using he), returns_busAccess hdev]

end Access

/-! ### The machine of `main` -/

/-- **Bus accesses**: an access returns 0 or a negative fault code exactly when the bus answers. -/
theorem bus_access_returns (enable_vga : Bool) (s : MMUSt Devices) (hc : s.mmu.ctx_n ≤ 255)
    (hroot : ((MCtrl.leon enable_vga).word s.mmu.ctxEntryAddr s.mem).1 &&& 3 ≠ 2) (rw : Intent)
    (size : AccessSize) (va v : u32) (sup rep : Bool) :
    (∃ r t, MemAccess (MCtrl.leon enable_vga) rw size va v sup rep s = .ok r t ∧
        (r.1 = 0 ∨ r.1.msb = true)) ↔
      BusOk (MCtrl.leon enable_vga) s rw size va v sup := by
  have h : Returns (MemAccess (MCtrl.leon enable_vga) rw size va v sup rep s) ↔ _ :=
    returns_MemAccess (MCtrl.leon_dev enable_vga) hc hroot
  rw [← h, returns_iff]
  exact ⟨fun ⟨r, t, e, _⟩ => ⟨r, t, e⟩,
    fun ⟨r, t, e⟩ => ⟨r, t, e, MemAccess_code rw size va v sup rep s r t e⟩⟩

/-- The machine before its first instruction: the MMU is off and memory is zero. -/
def busReset : MMUSt Devices := ⟨MMU.init, ⟨fun _ _ => 0, Devices.reset⟩⟩

/-- A store to the interrupt mask of the first processor. -/
theorem bus_access_returns_register :
    busReset.mmu.ctx_n ≤ 255 ∧
    ((MCtrl.leon true).word busReset.mmu.ctxEntryAddr busReset.mem).1 &&& 3 ≠ 2 ∧
    ∃ r t, MemAccess (MCtrl.leon true) .store .b4 0x80000240 0xfffe true true busReset = .ok r t ∧
      (r.1 = 0 ∨ r.1.msb = true) :=
  have hroot : ((MCtrl.leon true).word busReset.mmu.ctxEntryAddr busReset.mem).1 &&& 3 ≠ 2 := by decide
  ⟨by decide, hroot, (bus_access_returns true busReset (by decide) hroot ..).mpr (by rfl)⟩

/-- A byte of the APB bridge: `read8` throws inside a `noexcept` wrapper. -/
theorem apb_byte_terminates :
    busReset.mmu.ctx_n ≤ 255 ∧
    ((MCtrl.leon true).word busReset.mmu.ctxEntryAddr busReset.mem).1 &&& 3 ≠ 2 ∧
    MemAccess (MCtrl.leon true) .load .b1 0x80000000 0 true true busReset
      = .error .terminate busReset :=
  ⟨by decide, by decide, rfl⟩

end MMU

end SparcEmu
