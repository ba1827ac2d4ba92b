import SparcEmu.FaultReport

/-!
Where a word access ends up: behind caches that are right, the page tables decide which place of
which bank an access reaches, and whether it is refused. The caches stay right.
-/

namespace SparcEmu

open Lib.Effect

variable {δ : Type} {mc : MCtrl δ}

/-- A place in a bank, by physical address. -/
structure Site where
  i : Nat
  b : IMemoryBank
  pa : u32

namespace Site

def get (x : Site) (h : HostBytes) : u32 := memRead h x.b x.i x.pa .b4

/-- Memory after a store at the place; the registers of a device are not memory. -/
def put (x : Site) (h : HostBytes) (v : u32) : HostBytes :=
  if x.b.isDevice then h else memWrite h x.b x.i x.pa v .b4

def ptr (x : Site) : HostPtr := ⟨x.i, x.b.offset x.pa⟩

/-- The two places share no byte of memory. -/
def Apart (x y : Site) : Prop := x.b.isDevice = true ∨ y.b.isDevice = true ∨ x.ptr.Apart y.ptr

/-- A word access in this direction is answered: if the place is a register of a device, the
device does not throw, whatever state it is in. -/
def Answers (mc : MCtrl δ) (rw : Intent) (x : Site) : Prop :=
  ∀ id p, x.b.kind = .device id p → match rw with
    | .store => ∀ v dev, (mc.dev.write id .b4 x.pa v dev).isOk = true
    | _ => ∀ dev, (mc.dev.read id .b4 x.pa dev).isOk = true

/-- What a word access does there: a store writes its value, a load finds the word of a place in
memory. -/
def Done (rw : Intent) (x : Site) (h : HostBytes) (v w : u32) (mem : Mem δ) : Prop :=
  match rw with
  | .store => mem.bytes = x.put h v
  | _ => mem.bytes = h ∧ (x.b.isDevice = false → w = x.get h)

/-- The place belongs to the memory map. -/
def In (x : Site) (mc : MCtrl δ) : Prop := mc.get_bank x.pa = some (x.i, x.b)

section Paged

variable {Mixed : u32 → Prop} {x y : Site} {h : HostBytes}

lemma consecutive (hP : mc.Paged Mixed) (hx : x.In mc) : Consecutive x.b x.pa :=
  consecutive_rom (MCtrl.get_bank_some hx).2 (hP.small x.b (MCtrl.get_bank_some hx).1)

lemma get_eq (hP : mc.Paged Mixed) (hx : x.In mc) (hd : x.b.isDevice = false) :
    x.get h = ptrRead h x.ptr .b4 :=
  memRead_big (consecutive hP hx) (hP.big x.b (MCtrl.get_bank_some hx).1 hd)

lemma put_eq (hP : mc.Paged Mixed) (hx : x.In mc) (hd : x.b.isDevice = false) (v : u32) :
    x.put h v = ptrWrite h x.ptr v .b4 := by
  unfold put
  rw [hd, if_neg Bool.false_ne_true]
  exact memWrite_big (consecutive hP hx) (hP.big x.b (MCtrl.get_bank_some hx).1 hd) v

lemma put_device (hd : x.b.isDevice = true) (v : u32) : x.put h v = h := if_pos hd

lemma put_back (hP : mc.Paged Mixed) (hx : x.In mc) {v w : u32}
    (hw : x.b.isDevice = false → w = x.get h) : x.put (x.put h v) w = h := by
  cases hd : x.b.isDevice with
  | true => rw [put_device hd, put_device hd]
  | false => rw [hw hd, put_eq hP hx hd, put_eq hP hx hd, get_eq hP hx hd, ptrWrite_back]

lemma put_comm (hP : mc.Paged Mixed) (hx : x.In mc) (hy : y.In mc) (ha : x.Apart y) (v w : u32) :
    x.put (y.put h w) v = y.put (x.put h v) w := by
  cases hdx : x.b.isDevice with
  | true => rw [put_device hdx, put_device hdx]
  | false =>
    cases hdy : y.b.isDevice with
    | true => rw [put_device hdy, put_device hdy]
    | false =>
      rcases ha with h1 | h1 | ha
      · rw [hdx] at h1; cases h1
      · rw [hdy] at h1; cases h1
      · rw [put_eq hP hx hdx, put_eq hP hy hdy, put_eq hP hx hdx, put_eq hP hy hdy,
          ptrWrite_comm ha]

lemma get_put (hP : mc.Paged Mixed) (hx : x.In mc) (hy : y.In mc) (ha : y.Apart x)
    (hd : x.b.isDevice = false) (v : u32) : x.get (y.put h v) = x.get h := by
  cases hdy : y.b.isDevice with
  | true => rw [put_device hdy]
  | false =>
    rcases ha with h1 | h1 | ha
    · rw [hdy] at h1; cases h1
    · rw [hd] at h1; cases h1
    · rw [put_eq hP hy hdy, get_eq hP hx hd, get_eq hP hx hd, ptrRead_apart ha]

end Paged

end Site

variable {pa : u32} {Mixed : u32 → Prop}

namespace MMU

/-- The bank at a physical address, where `get_ptr` of the bank is asked and does not throw. -/
def bankSite (mc : MCtrl δ) (asked : Bool) (pa : u32) : Option Site :=
  match mc.get_bank pa with
  | none => none
  | some (i, b) => if asked ∧ ¬ b.get_ptr.isOk then none else some ⟨i, b, pa⟩

variable {asked : Bool}

lemma bankSite_none (h : mc.get_bank pa = none) : bankSite mc asked pa = none := by
  unfold bankSite
  rw [h]

variable {b : IMemoryBank}

lemma bankSite_some {i : Nat} (h : mc.get_bank pa = some (i, b))
    (hg : asked = true → b.get_ptr.isOk = true) : bankSite mc asked pa = some ⟨i, b, pa⟩ := by
  unfold bankSite
  rw [h]
  exact if_neg fun h => h.2 (hg h.1)

lemma bankSite_throws {i : Nat} {e : HostError} (h : mc.get_bank pa = some (i, b))
    (hg : b.get_ptr = .error e) : bankSite mc true pa = none := by
  unfold bankSite
  rw [h]
  exact if_pos ⟨rfl, by rw [hg]; exact Bool.false_ne_true⟩

/-- The place that an access reaches, `none` if it is refused. -/
def site (mc : MCtrl δ) (m : MMU) (h : HostBytes) (rw : Intent) (sup : Bool) (va : u32) :
    Option Site :=
  if m.get_enabled then
    match (Tables.mk (mc.wordAt h) m.ctx_tbl_ptr).leaf m.ctx_n va with
    | none => none
    | some r =>
      if permFault r.1 rw sup r.2 = 0 ∧ RootOk r then bankSite mc true (physAddr va r.1 r.2)
      else none
  else bankSite mc (rw = .store) va

/-- With the MMU on, the tables that the access walks are in memory, and it does not lead into a
page that memory shares with something else. -/
def Walkable (mc : MCtrl δ) (Mixed : u32 → Prop) (m : MMU) (h : HostBytes) (va : u32) : Prop :=
  m.get_enabled = true → ∃ r, (Tables.mk (mc.wordAt h) m.ctx_tbl_ptr).leaf m.ctx_n va = some r ∧
    ¬ Mixed (physAddr va r.1 r.2)

lemma bankSite_in {x : Site} (h : bankSite mc asked pa = some x) : x.In mc := by
  unfold bankSite at h
  split at h
  · cases h
  · next hb =>
    split_ifs at h
    cases h
    exact hb

variable {m : MMU}

lemma site_in {h : HostBytes} {rw : Intent} {sup : Bool} {va : u32} {x : Site}
    (hs : site mc m h rw sup va = some x) : x.In mc := by
  unfold site at hs
  split_ifs at hs
  · split at hs
    · cases hs
    · split_ifs at hs
      exact bankSite_in hs
  · exact bankSite_in hs

/-! ### Ways an access can end -/

/-- Denied: a code that is not zero, or an exception, and memory as it was. -/
def Denied (v : u32) (t : MMUSt δ) (r : EStateM.Result HostError (MMUSt δ) (cint × u32)) : Prop :=
  (∃ c, c ≠ 0 ∧ r = .ok (c, v) t) ∨ ∃ e, e.isStdException = true ∧ r = .error e t

/-- The access is made in the bank, or refused. -/
def Lands (mc : MCtrl δ) (rw : Intent) (x : Option Site) (v : u32) (t : MMUSt δ)
    (r : EStateM.Result HostError (MMUSt δ) (cint × u32)) : Prop :=
  match x with
  | some x => r = bankAccess mc rw .b4 x.i x.b x.pa v t
  | none => Denied v t r

/-- What an access leaves of the MMU: its control registers, and caches that are right. -/
structure Kept (mc : MCtrl δ) (T : Tables) (m m' : MMU) : Prop where
  priv : m'.priv = m.priv
  coherent : Coherent mc T m'

variable {m' : MMU}

lemma FaultOnly.priv (h : FaultOnly m m') : m'.priv = m.priv := by
  obtain rfl | ⟨f, rfl⟩ := h
  · rfl
  · rfl

lemma Kept.fault {T : Tables} (hC : Coherent mc T m) (h : FaultOnly m m') : Kept mc T m m' := by
  obtain rfl | ⟨f, rfl⟩ := h
  · exact ⟨rfl, hC⟩
  · exact ⟨rfl, hC.set_fault f⟩

lemma Kept.trans {T : Tables} {m'' : MMU} (h : Kept mc T m m') (h' : Kept mc T m' m'') :
    Kept mc T m m'' := ⟨h'.priv.trans h.priv, h'.coherent⟩

lemma get_ptr_std {e : HostError} (h : b.get_ptr = .error e) : e.isStdException = true := by
  unfold IMemoryBank.get_ptr at h
  split at h <;> cases h
  rfl

section Access

variable {T : Tables} {s : MMUSt δ} {rw : Intent} {sup : Bool} {va v pa : u32}

lemma busAccess_off_lands :
    ∃ m', FaultOnly s.mmu m' ∧ Lands mc rw (bankSite mc (rw = .store) pa) v ⟨m', s.mem⟩
      (busAccess mc rw .b4 va v pa sup true false s) := by
  cases hb : mc.get_bank pa with
  | none =>
    obtain ⟨m, hm, h⟩ := busAccess_none hb rw .b4 va v sup true false s
    rw [bankSite_none hb]
    exact ⟨m, hm, Or.inl ⟨-5, by decide, h⟩⟩
  | some x =>
    obtain ⟨i, b⟩ := x
    refine ⟨s.mmu, Or.inl rfl, ?_⟩
    unfold busAccess
    rw [hb]
    dsimp only
    by_cases hrw : rw = .store
    · rw [decide_eq_true hrw, if_pos (by rfl)]
      cases hg : b.get_ptr with
      | error e =>
        rw [bankSite_throws hb hg]
        exact Or.inr ⟨e, get_ptr_std hg, bind_error rfl⟩
      | ok w =>
        rw [bankSite_some hb fun _ => by rw [hg]; rfl]
        exact bind_ok rfl
    · rw [decide_eq_false hrw, if_neg (by simp), bankSite_some hb fun h => by cases h]
      rfl

lemma busAccess_off_site (hC : Coherent mc T s.mmu) :
    ∃ m', Kept mc T s.mmu m' ∧ Lands mc rw (bankSite mc (rw = .store) pa) v ⟨m', s.mem⟩
      (busAccess mc rw .b4 va v pa sup true false s) := by
  obtain ⟨m, hm, h⟩ : ∃ m', FaultOnly s.mmu m' ∧ Lands mc rw (bankSite mc (rw = .store) pa) v
      ⟨m', s.mem⟩ (busAccess mc rw .b4 va v pa sup true false s) := busAccess_off_lands
  exact ⟨m, .fault hC hm, h⟩

lemma busAccess_on_site (hP : mc.Paged Mixed) {r : u32 × u8} (hC : Coherent mc T s.mmu)
    (hl : T.leaf s.mmu.ctx_n va = some r) (hr : RootOk r) (hok : permFault r.1 rw sup r.2 = 0) :
    ∃ m', Kept mc T s.mmu m' ∧ Lands mc rw (bankSite mc true (physAddr va r.1 r.2)) v ⟨m', s.mem⟩
      (busAccess mc rw .b4 va v (physAddr va r.1 r.2) sup true true s) := by
  cases hb : mc.get_bank (physAddr va r.1 r.2) with
  | none =>
    obtain ⟨m, hm, h⟩ := busAccess_none hb rw .b4 va v sup true true s
    rw [bankSite_none hb]
    exact ⟨m, .fault hC hm, Or.inl ⟨-5, by decide, h⟩⟩
  | some x =>
    obtain ⟨i, b⟩ := x
    cases hg : b.get_ptr with
    | error e =>
      rw [bankSite_throws hb hg]
      refine ⟨s.mmu, ⟨rfl, hC⟩, Or.inr ⟨e, get_ptr_std hg, ?_⟩⟩
      unfold busAccess
      rw [hb]
      dsimp only
      rw [if_pos (by rfl), hg]
      exact bind_error rfl
    | ok w =>
      have hg' : b.get_ptr.isOk = true := by rw [hg]; rfl
      rw [busAccess_on hb hg' (physAddr_low va r.1 r.2), bankSite_some hb fun _ => hg']
      cases hd : b.isDevice with
      | true => exact ⟨s.mmu, ⟨rfl, hC⟩, if_pos rfl⟩
      | false =>
        refine ⟨s.mmu.l0Fill rw va sup i b (physAddr va r.1 r.2),
          ⟨by cases rw <;> rfl, hC.l0Fill hl hr hok hb hd⟩, ?_⟩
        rw [if_neg Bool.false_ne_true]
        exact (bankAccess_ptr hP hb hd (fun _ => rfl) v _).symm

lemma site_on (he : s.mmu.get_enabled = true) {r : u32 × u8}
    (hl : (tables mc s).leaf s.mmu.ctx_n va = some r) :
    site mc s.mmu s.mem.bytes rw sup va =
      if permFault r.1 rw sup r.2 = 0 ∧ RootOk r then bankSite mc true (physAddr va r.1 r.2)
      else none := by
  unfold site
  rw [if_pos he]
  have hl' : (Tables.mk (mc.wordAt s.mem.bytes) s.mmu.ctx_tbl_ptr).leaf s.mmu.ctx_n va = some r := hl
  rw [hl']

lemma priv_reported (m : MMU) (t : TLB) (va : u32) (rw : Intent) (sup : Bool) (r : u32 × u8)
    (rep : Bool) : ((m.setTlb t rw).reported va rw sup r rep).priv = m.priv := by
  unfold reported
  split_ifs <;> cases rw <;> rfl

theorem MemAccess_site (hP : mc.Paged Mixed) (hC : Coherent mc (tables mc s) s.mmu)
    (hc : s.mmu.ctx_n ≤ 255) (hw : Walkable mc Mixed s.mmu s.mem.bytes va) :
    ∃ m', Kept mc (tables mc s) s.mmu m' ∧
      Lands mc rw (site mc s.mmu s.mem.bytes rw sup va) v ⟨m', s.mem⟩
        (MemAccess mc rw .b4 va v sup true s) := by
  cases he : s.mmu.get_enabled with
  | false =>
    have hs : site mc s.mmu s.mem.bytes rw sup va = bankSite mc (rw = .store) va := by
      unfold site
      rw [he, if_neg Bool.false_ne_true]
    rw [MemAccess_off he, hs]
    exact busAccess_off_site hC
  | true =>
    obtain ⟨r, hl, hm⟩ := hw he
    rw [site_on he hl]
    cases h0 : s.mmu.l0Hit rw va sup with
    | some p =>
      obtain ⟨r', hl', hr, hok, hp⟩ := hC.l0 rw s.mmu.ctx_n va sup p hc h0
      obtain rfl : r' = r := Option.some.inj (hl'.symm.trans hl)
      obtain ⟨i, b, hb, hd, rfl⟩ := hit_pointer hP hp hm
      refine ⟨s.mmu, ⟨rfl, hC⟩, ?_⟩
      rw [if_pos ⟨hok, hr⟩, bankSite_some hb fun _ => by rw [IMemoryBank.get_ptr_memory hd]; rfl,
        MemAccess_hit he h0]
      exact (bankAccess_ptr hP hb hd (fun _ => rfl) v _).symm
    | none =>
      by_cases hr : RootOk r
      · obtain ⟨t, hta, ht⟩ := translate_va_spec hc hl hr hC.tlb sup rw true
        have hC' := (hC.setTlb hta rw).reported va rw sup r true
        have hctx := (reported_ctx s.mmu t va rw sup r true).1
        have hpr := priv_reported s.mmu t va rw sup r true
        rw [MemAccess_miss he h0 ht]
        unfold outcome
        by_cases hok : permFault r.1 rw sup r.2 = 0
        · rw [if_pos hok, if_pos rfl, if_pos ⟨hok, hr⟩]
          obtain ⟨m', hk, h⟩ := busAccess_on_site (v := v)
            (s := { s with mmu := (s.mmu.setTlb t rw).reported va rw sup r true }) hP hC'
            (by rw [hctx]; exact hl) hr hok
          exact ⟨m', ⟨hk.priv.trans hpr, hk.coherent⟩, h⟩
        · rw [if_neg hok, if_neg Bool.false_ne_true, if_neg fun h => hok h.1]
          refine ⟨_, ⟨hpr, hC'⟩, Or.inl ⟨_, ?_, rfl⟩⟩
          have ht := (reported_tells (s.mmu.setTlb t rw) va hok).2.1
          simpa [faultType] using ht
      · have ht := translate_va_root hc hl hr hC.tlb sup rw true
        rw [MemAccess_throws he h0 ht, if_neg fun h => hr h.2]
        exact ⟨s.mmu, ⟨rfl, hC⟩, Or.inr ⟨_, rfl, rfl⟩⟩

end Access

/-! ### What an access does at its site -/

section Bank

variable {x : Site} {s : MMUSt δ}

lemma bankAccess_load (v : u32) :
    (∃ w mem, bankAccess mc .load .b4 x.i x.b x.pa v s = .ok (0, w) ⟨s.mmu, mem⟩ ∧
      x.Done .load s.mem.bytes v w mem) ∨
    (¬ x.Answers mc .load ∧ bankAccess mc .load .b4 x.i x.b x.pa v s = .error .terminate s) := by
  cases hd : x.b.isDevice with
  | false =>
    refine Or.inl ⟨_, _, bind_ok ?_, rfl, fun _ => rfl⟩
    unfold onMem
    rw [MCtrl.bankRead_memory hd]
    rfl
  | true =>
    obtain ⟨id, p, hk⟩ := IMemoryBank.kind_device hd
    have hread : onMem (mc.bankRead x.i x.b .b4 x.pa) s = match mc.dev.read id .b4 x.pa s.mem.dev with
        | .ok r => .ok r.1 ⟨s.mmu, { s.mem with dev := r.2 }⟩
        | .error _ => .error .terminate s := by
      unfold onMem MCtrl.bankRead
      rw [hk]
      dsimp only
      cases mc.dev.read id .b4 x.pa s.mem.dev <;> rfl
    cases hr : mc.dev.read id .b4 x.pa s.mem.dev with
    | ok r =>
      rw [hr] at hread
      exact Or.inl ⟨_, _, bind_ok hread, rfl, fun h => by rw [hd] at h; cases h⟩
    | error e =>
      rw [hr] at hread
      refine Or.inr ⟨fun ha => ?_, bind_error hread⟩
      have := ha id p hk s.mem.dev
      rw [hr] at this
      cases this

lemma bankAccess_store (hP : mc.Paged Mixed) (hx : x.In mc) (v : u32) :
    (∃ w mem, bankAccess mc .store .b4 x.i x.b x.pa v s = .ok (0, w) ⟨s.mmu, mem⟩ ∧
      x.Done .store s.mem.bytes v w mem) ∨
    (¬ x.Answers mc .store ∧
      bankAccess mc .store .b4 x.i x.b x.pa v s = .error .terminate s) := by
  cases hd : x.b.isDevice with
  | false =>
    refine Or.inl ⟨_, { s.mem with bytes := x.put s.mem.bytes v }, bind_ok (a := ()) ?_, rfl⟩
    unfold onMem' onMem Site.put
    dsimp only
    rw [MCtrl.bankWrite_memory hd (hP.writeable x.b (MCtrl.get_bank_some hx).1), hd]
    rfl
  | true =>
    obtain ⟨id, p, hk⟩ := IMemoryBank.kind_device hd
    have hwrite : onMem' (mc.bankWrite x.i x.b .b4 x.pa v) s =
        match mc.dev.write id .b4 x.pa v s.mem.dev with
        | .ok f => .ok () ⟨s.mmu, { s.mem with dev := f s.mem.bytes }⟩
        | .error _ => .error .terminate s := by
      unfold onMem' onMem MCtrl.bankWrite
      rw [hk]
      dsimp only
      cases mc.dev.write id .b4 x.pa v s.mem.dev <;> rfl
    cases hr : mc.dev.write id .b4 x.pa v s.mem.dev with
    | ok f =>
      rw [hr] at hwrite
      exact Or.inl ⟨v, { s.mem with dev := f s.mem.bytes }, bind_ok hwrite, (Site.put_device hd v).symm⟩
    | error e =>
      rw [hr] at hwrite
      refine Or.inr ⟨fun ha => ?_, bind_error hwrite⟩
      have := ha id p hk v s.mem.dev
      rw [hr] at this
      cases this

theorem bankAccess_site (hP : mc.Paged Mixed) (hx : x.In mc) {rw : Intent} (hrw : rw ≠ .execute)
    (v : u32) :
    (∃ w mem, bankAccess mc rw .b4 x.i x.b x.pa v s = .ok (0, w) ⟨s.mmu, mem⟩ ∧
      x.Done rw s.mem.bytes v w mem) ∨
    (¬ x.Answers mc rw ∧ bankAccess mc rw .b4 x.i x.b x.pa v s = .error .terminate s) := by
  cases rw with
  | load => exact bankAccess_load v
  | store => exact bankAccess_store hP hx v
  | execute => exact absurd rfl hrw

end Bank

/-! ### Loads after stores -/

section ReadBack

variable {s : MMUSt δ} {x y : Site}

/-- **What is stored is loaded**, from any address that leads to the same place and whatever the
caches hold, and the words at other places stay, as long as the page tables do. -/
theorem load_after_store (sup sup' : Bool) (va va' v : u32) (hP : mc.Paged Mixed)
    (hC : Coherent mc (tables mc s) s.mmu) (hc : s.mmu.ctx_n ≤ 255)
    (hw : Walkable mc Mixed s.mmu s.mem.bytes va)
    (hw' : Walkable mc Mixed s.mmu s.mem.bytes va')
    (hx : site mc s.mmu s.mem.bytes .store sup va = some x)
    (hy : site mc s.mmu s.mem.bytes .load sup' va' = some y)
    (hdx : x.b.isDevice = false) (hdy : y.b.isDevice = false)
    (hT : SameLeaves (tables mc s) ⟨mc.wordAt (x.put s.mem.bytes v), s.mmu.ctx_tbl_ptr⟩) :
    ∃ w u s₁ s₂, MemAccess mc .store .b4 va v sup true s = .ok (0, w) s₁ ∧
      MemAccess mc .load .b4 va' 0 sup' true s₁ = .ok (0, u) s₂ ∧
      (y = x → u = v) ∧ (x.Apart y → u = y.get s.mem.bytes) := by
  have hanswers : ∀ {z : Site} {rw}, z.b.isDevice = false → z.Answers mc rw := fun hd id p hk => by
    rw [IMemoryBank.isDevice, hk] at hd
    cases hd
  obtain ⟨m, hk, h1⟩ : ∃ m, Kept mc (tables mc s) s.mmu m ∧ Lands mc .store (site mc s.mmu
      s.mem.bytes .store sup va) v ⟨m, s.mem⟩ (MemAccess mc .store .b4 va v sup true s) :=
    MemAccess_site hP hC hc hw
  rw [hx] at h1
  obtain ⟨w, mem, hs, hm⟩ | ⟨hn, -⟩ := bankAccess_store (s := ⟨m, s.mem⟩) hP (site_in hx) v
  swap
  · exact absurd (hanswers hdx) hn
  have hm : mem.bytes = x.put s.mem.bytes v := hm
  obtain ⟨hcn, hptr, hcr⟩ := priv_ctx hk.priv
  have hl : ∀ a, (Tables.mk (mc.wordAt mem.bytes) m.ctx_tbl_ptr).leaf m.ctx_n a =
      (tables mc s).leaf s.mmu.ctx_n a := fun a => by rw [hm, hcn, hptr]; exact hT _ a hc
  have he : m.get_enabled = s.mmu.get_enabled := by unfold get_enabled; rw [hcr]
  obtain ⟨m', -, h2⟩ : ∃ m', Kept mc (tables mc ⟨m, mem⟩) m m' ∧ Lands mc .load (site mc m mem.bytes
      .load sup' va') 0 ⟨m', mem⟩ (MemAccess mc .load .b4 va' 0 sup' true ⟨m, mem⟩) :=
    MemAccess_site hP (hk.coherent.congr (by unfold tables; rw [hm, hptr]; exact hT)) (hcn ▸ hc)
      fun hen => by rw [hl]; exact hw' (he ▸ hen)
  have hy' : site mc m mem.bytes .load sup' va' = some y := by
    rw [← hy]
    unfold site
    rw [he, hl]
    rfl
  rw [hy'] at h2
  obtain ⟨u, mem', hu, -, hg⟩ | ⟨hn, -⟩ := bankAccess_load (x := y) (s := ⟨m', mem⟩) 0
  swap
  · exact absurd (hanswers hdy) hn
  refine ⟨w, u, _, _, h1.trans hs, h2.trans hu, ?_, fun ha => ?_⟩
  · rintro rfl
    rw [hg hdy, hm, Site.get_eq hP (site_in hy) hdy, Site.put_eq hP (site_in hy) hdy, ptrRead_ptrWrite]
  · rw [hg hdy, hm, Site.get_put hP (site_in hy) (site_in hx) ha hdy]

/-- The MMU is on, its caches are right, and all pages of 16 MB are the same memory. -/
structure SuperSt (s : MMUSt Unit) : Prop where
  on : s.mmu.get_enabled = true
  ptr : s.mmu.ctx_tbl_ptr = 0x04000100
  ctx : s.mmu.ctx_n = 0
  coherent : Coherent superMap (tables superMap s) s.mmu
  bytes : SuperTables s.mem.bytes

def superBank : IMemoryBank := ⟨.RamBank, 0x40000000, 0x1000000, .Big⟩

lemma superMap_paged : superMap.Paged fun _ => False := MCtrl.paged_one rfl rfl rfl (by decide)

namespace SuperSt

variable {s : MMUSt Unit} {rw : Intent} {va pa v : u32} (h : SuperSt s)

include h

lemma leaf (va : u32) : (Tables.mk (superMap.wordAt s.mem.bytes) s.mmu.ctx_tbl_ptr).leaf s.mmu.ctx_n va =
    some (0x0400001e, 1) := by
  rw [h.ptr, h.ctx]
  exact h.bytes.leaf (by decide) va

lemma walkable (va : u32) : Walkable superMap (fun _ => False) s.mmu s.mem.bytes va :=
  fun _ => ⟨_, h.leaf va, id⟩

lemma site (hrw : rw ≠ .execute) (hpa : physAddr va 0x0400001e 1 = pa)
    (hb : superMap.get_bank pa = some (0, superBank)) :
    MMU.site superMap s.mmu s.mem.bytes rw true va = some ⟨0, superBank, pa⟩ := by
  rw [site_on h.on (h.leaf va), if_pos, hpa]
  · exact bankSite_some hb fun _ => rfl
  · cases rw with
    | load => decide
    | store => decide
    | execute => exact absurd rfl hrw

lemma tables (hoff : superBank.offset pa + 4 ≤ 0x1000) (hb : superMap.get_bank pa = some (0, superBank)) :
    SuperTables (Site.put ⟨0, superBank, pa⟩ s.mem.bytes v) := by
  intro o ho
  rw [Site.put_eq (x := ⟨0, superBank, pa⟩) superMap_paged hb rfl, ptrWrite_other, h.bytes o ho]
  exact Or.inr (Or.inr (by show superBank.offset pa + 4 ≤ o; omega))

lemma sameLeaves {g : HostBytes} (hg : SuperTables g) :
    SameLeaves (MMU.tables superMap s) ⟨superMap.wordAt g, s.mmu.ctx_tbl_ptr⟩ := by
  intro c a hc
  show (Tables.mk _ s.mmu.ctx_tbl_ptr).leaf c a = (Tables.mk _ s.mmu.ctx_tbl_ptr).leaf c a
  rw [h.ptr, hg.leaf hc, h.bytes.leaf hc]

lemma access (rw : Intent) (va v : u32) (hrw : rw ≠ .execute) (hpa : physAddr va 0x0400001e 1 = pa)
    (hb : superMap.get_bank pa = some (0, superBank)) (hoff : superBank.offset pa + 4 ≤ 0x1000) :
    ∃ w s', MemAccess superMap rw .b4 va v true true s = .ok (0, w) s' ∧ SuperSt s' := by
  obtain ⟨m, hk, hl⟩ : ∃ m, Kept superMap (MMU.tables superMap s) s.mmu m ∧ Lands superMap rw
      (MMU.site superMap s.mmu s.mem.bytes rw true va) v ⟨m, s.mem⟩
      (MemAccess superMap rw .b4 va v true true s) :=
    MemAccess_site superMap_paged h.coherent (by rw [h.ctx]; decide) (h.walkable va)
  rw [h.site hrw hpa hb] at hl
  obtain ⟨w, mem, hs, hd⟩ | ⟨hn, -⟩ := bankAccess_site (s := ⟨m, s.mem⟩) (x := ⟨0, superBank, pa⟩)
    superMap_paged hb hrw v
  swap
  · exact absurd (fun id p hk => by cases hk) hn
  have hg : SuperTables mem.bytes := by
    cases rw with
    | load => exact hd.1 ▸ h.bytes
    | store => exact hd ▸ h.tables hoff hb
    | execute => exact absurd rfl hrw
  obtain ⟨hcn, hptr, hcr⟩ := priv_ctx hk.priv
  refine ⟨w, _, hl.trans hs, ?_, hptr.trans h.ptr, hcn.trans h.ctx, ?_, hg⟩
  · rw [← h.on]
    unfold get_enabled
    rw [hcr]
  · refine hk.coherent.congr ?_
    have := h.sameLeaves hg
    rwa [← hptr] at this

end SuperSt

/-- After a store to the first page, and a load from the same memory 16 MB higher. -/
def superSt : MMUSt Unit := final ((do
  let _ ← MemAccess superMap .store .b4 0x20 1 true true
  MemAccess superMap .load .b4 0x01000010 0 true true : MmuM Unit (cint × u32))
    ⟨({ init with control_reg := 1, ctx_tbl_ptr := 0x04000100 } : MMU).flush, ⟨superBytes, ()⟩⟩)

lemma superSt_super : SuperSt superSt := by
  have h0 : SuperSt ⟨({ init with control_reg := 1, ctx_tbl_ptr := 0x04000100 } : MMU).flush,
      ⟨superBytes, ()⟩⟩ :=
    ⟨rfl, rfl, rfl, coherent_flush _ _, fun _ _ => rfl⟩
  obtain ⟨w, s', h1, hs'⟩ := h0.access .store 0x20 1 (by decide) rfl rfl (by decide)
  obtain ⟨u, s'', h2, hs''⟩ := hs'.access .load 0x01000010 0 (by decide) rfl rfl (by decide)
  unfold superSt
  rw [bind_ok h1, h2]
  exact hs''

/-- With entries of both pages in the data TLB, and of one page each in the store and the data cache: a
word stored at `0x10` is loaded 16 MB higher. -/
theorem load_after_store_alias :
    (superSt.mmu.dtlb.lookup 0 0x10).1.isSome = true ∧
    (superSt.mmu.dtlb.lookup 0 0x01000010).1.isSome = true ∧
    (superSt.mmu.store_cache 0).vpage = 0 ∧ (superSt.mmu.data_cache 0).vpage = 0x1000 ∧
    ∃ w u s₁ s₂, MemAccess superMap .store .b4 0x10 7 true true superSt = .ok (0, w) s₁ ∧
      MemAccess superMap .load .b4 0x01000010 0 true true s₁ = .ok (0, u) s₂ ∧ u = 7 := by
  have h := superSt_super
  have hb : superMap.get_bank 0x40000010 = some (0, superBank) := rfl
  refine ⟨by decide +kernel, by decide +kernel, by decide +kernel, by decide +kernel, ?_⟩
  obtain ⟨w, u, s₁, s₂, h1, h2, hu, -⟩ := load_after_store true true 0x10 0x01000010 7 superMap_paged
    h.coherent (by rw [h.ctx]; decide) (h.walkable _) (h.walkable _) (h.site (by decide) rfl hb)
    (h.site (by decide) rfl hb) rfl rfl (h.sameLeaves (h.tables (by decide) hb))
  exact ⟨w, u, s₁, s₂, h1, h2, hu rfl⟩

end ReadBack

end MMU

end SparcEmu
