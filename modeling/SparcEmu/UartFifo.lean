import SparcEmu.DeviceErrors
import SparcEmu.Lib.Ring

/-!
The receiver of the serial port: bytes from the console through a ring of eight to the guest.

The ring has no read position. It is derived from the position of the next write, which counts up
modulo 256, and the number of bytes that wait.
-/

namespace SparcEmu

open Lib.Ring

/-! ### The console -/

structure Console where
  pending : u8 := 0
  has_pending : Bool := false
  escape_pending : Bool := false
  /-- The bytes that `Getc` has returned. -/
  given : List u8 := []

namespace Console

/-- Whether there is a byte. `stdin` is what a read of the standard input gives at this moment; it is
read only if no byte is pending. Ctrl+A is an escape: the byte behind it ends the process, stands for
Ctrl+A, or is dropped. -/
def Hit (stdin : Option u8) (c : Console) : Bool × Console :=
  if c.has_pending then (true, c)
  else
    match stdin with
    | none => (false, c)
    | some b =>
      if c.escape_pending then
        let c := { c with escape_pending := false }
        if b = 0x78 ∨ b = 0x58 then (false, c)
        else if b = 0x01 then (true, { c with pending := 0x01, has_pending := true })
        else (false, c)
      else if b = 0x01 then (false, { c with escape_pending := true })
      else (true, { c with pending := b, has_pending := true })

def Getc (c : Console) : u8 × Console :=
  (c.pending, { c with has_pending := false, given := c.given ++ [c.pending] })

lemma given_Hit (stdin : Option u8) (c : Console) : (c.Hit stdin).2.given = c.given := by
  unfold Hit
  cases stdin <;> dsimp only <;> split_ifs <;> rfl

end Console

namespace APBUART

/-- A poll of the console. A full ring leaves the byte with the console. -/
def input_scheduled (stdin : Option u8) (c : Console) (s : APBUART) : Console × APBUART :=
  match c.Hit stdin with
  | (false, c) => (c, s)
  | (true, c) =>
    if h : 8 ≤ s.len then (c, { s with overrun := true })
    else
      (c.Getc.2,
        { s with
          fifo := Function.update s.fifo (Fin.ofNat 8 s.pos.toNat) c.Getc.1
          pos := s.pos + 1
          len := s.len + 1
          len_le := by omega })

/-- The bytes that wait, the oldest first. -/
def queue (s : APBUART) : List u8 := waiting s.fifo s.pos.toNat s.len

variable {s s' : APBUART} {c c' : Console} {stdin : Option u8}

lemma queue_input (h : s.input_scheduled stdin c = (c', s')) :
    ∃ bs, c'.given = c.given ++ bs ∧ s'.queue = s.queue ++ bs := by
  have hgiven := c.given_Hit stdin
  unfold input_scheduled at h
  rcases hh : c.Hit stdin with ⟨_ | _, c₁⟩ <;> rw [hh] at h hgiven <;> dsimp only at h hgiven
  · cases h
    exact ⟨[], by rw [hgiven, List.append_nil], (List.append_nil _).symm⟩
  · split_ifs at h with hfull
    · cases h
      exact ⟨[], by rw [hgiven, List.append_nil], (List.append_nil _).symm⟩
    · cases h
      have hpos : (s.pos + 1).toNat = (s.pos.toNat + 1) % 256 := by
        rw [BitVec.toNat_add]
        rfl
      refine ⟨[c₁.pending], congrArg (· ++ _) hgiven, ?_⟩
      unfold queue
      dsimp only
      rw [hpos, waiting_wrap (by decide) (by omega), waiting_push _ (by omega)]
      rfl

lemma read_data (s : APBUART) : ∃ s', s.read 0 = .ok ((s.queue.headD 0).setWidth 32, s') ∧
    s'.queue = s.queue.tail := by
  unfold read
  rw [if_pos rfl]
  by_cases hl : 0 < s.len
  · have hpop : waiting s.fifo s.pos.toNat s.len =
        s.fifo (Fin.ofNat 8 (s.pos.toNat + 8 - s.len)) :: waiting s.fifo s.pos.toNat (s.len - 1) :=
      waiting_pop hl s.len_le
    rw [if_pos hl]
    unfold queue
    rw [hpop]
    exact ⟨_, rfl, rfl⟩
  · rw [if_neg hl]
    have hnil : s.queue = [] := by
      unfold queue waiting
      rw [show s.len = 0 by omega]
      rfl
    refine ⟨s, ?_, ?_⟩ <;> rw [hnil] <;> rfl

lemma queue_read {offset : u32} (h0 : offset ≠ 0) :
    AllOk (fun r => r.2.queue = s.queue) (s.read offset) := by
  unfold read
  rw [if_neg h0]
  iterate 3 refine allOk_decode (fun _ => rfl) ?_
  exact allOk_error _

lemma queue_write (offset v : u32) : AllOk (fun s' => s'.queue = s.queue) (s.write offset v) := by
  unfold write
  iterate 4 refine allOk_decode (fun _ => rfl) ?_
  exact allOk_error _

lemma read_status (s : APBUART) : ∃ v s', s.read 4 = .ok (v, s') ∧
    v.getLsbD 0 = decide (0 < s.queue.length) ∧ (v >>> 26).toNat = s.queue.length := by
  have hword : ∀ l ≤ 8, ∀ o : Bool,
      (flag (decide (0 < l)) 1 ||| 2 ||| 4 ||| flag o 16 ||| (BitVec.ofNat 32 l <<< 26)).getLsbD 0 =
        decide (0 < l) ∧
      ((flag (decide (0 < l)) 1 ||| 2 ||| 4 ||| flag o 16 ||| (BitVec.ofNat 32 l <<< 26)) >>> 26).toNat
        = l := by decide
  obtain ⟨hready, hcount⟩ := hword s.len s.len_le s.overrun
  refine ⟨_, _, rfl, ?_, ?_⟩
  · rw [queue, length_waiting]
    exact hready
  · rw [queue, length_waiting]
    exact hcount

/-! ### Polls and accesses in any order -/

/-- The port with its console. `got` is what the guest has read from the data register while the status
showed it ready. -/
structure Port where
  console : Console := {}
  uart : APBUART := {}
  got : List u32 := []

/-- The bytes taken from the console. -/
def Port.taken (p : Port) : List u8 := p.console.given

inductive Op
  | poll (stdin : Option u8)
  | read (offset : u32)
  | write (offset value : u32)

def ready (s : APBUART) : Bool :=
  match s.read 4 with
  | .ok (v, _) => v.getLsbD 0
  | .error _ => false

/-- One operation; an access that throws leaves the port as it was. -/
def Port.step (p : Port) : Op → Port
  | .poll stdin =>
    match p.uart.input_scheduled stdin p.console with
    | (c, s) => { p with console := c, uart := s }
  | .read offset =>
    match p.uart.read offset with
    | .ok (v, s) =>
      { p with uart := s, got := if offset = 0 ∧ p.uart.ready then p.got ++ [v] else p.got }
    | .error _ => p
  | .write offset value =>
    match p.uart.write offset value with
    | .ok s => { p with uart := s }
    | .error _ => p

lemma ready_eq (s : APBUART) : s.ready = decide (0 < s.queue.length) := by
  obtain ⟨v, s', hr, hv, -⟩ := read_status s
  unfold ready
  rw [hr]
  exact hv

/-- What has been taken from the console has been read or waits. -/
def Port.Ordered (p : Port) : Prop :=
  p.taken.map (BitVec.setWidth 32) = p.got ++ p.uart.queue.map (BitVec.setWidth 32)

lemma Port.Ordered.step {p : Port} (hp : p.Ordered) (o : Op) : (p.step o).Ordered := by
  unfold Ordered at hp
  cases o with
  | poll stdin =>
    rcases hi : p.uart.input_scheduled stdin p.console with ⟨c, s⟩
    obtain ⟨bs, hg, hq⟩ := queue_input hi
    simp only [Port.step, hi]
    show c.given.map _ = p.got ++ s.queue.map _
    rw [hg, hq, List.map_append, show p.console.given.map _ = _ from hp, List.map_append,
      List.append_assoc]
  | read offset =>
    by_cases h0 : offset = 0
    · subst h0
      obtain ⟨s, hr, hq⟩ := read_data p.uart
      simp only [Port.step, hr, true_and, ready_eq, decide_eq_true_eq]
      show p.taken.map _ = (if 0 < p.uart.queue.length then _ else _) ++ s.queue.map _
      rw [hp, hq]
      cases p.uart.queue with
      | nil => rfl
      | cons x xs =>
        rw [if_pos (show 0 < (x :: xs).length from Nat.succ_pos _), List.append_assoc]
        rfl
    · cases hr : p.uart.read offset with
      | error e =>
        simp only [Port.step, hr]
        exact hp
      | ok r =>
        obtain ⟨v, s⟩ := r
        simp only [Port.step, hr]
        rw [if_neg fun h => h0 h.1]
        show p.taken.map _ = p.got ++ s.queue.map _
        rw [queue_read h0 _ hr]
        exact hp
  | write offset value =>
    cases hw : p.uart.write offset value with
    | error e =>
      simp only [Port.step, hw]
      exact hp
    | ok s =>
      simp only [Port.step, hw]
      show p.taken.map _ = p.got ++ s.queue.map _
      rw [queue_write offset value _ hw]
      exact hp

lemma Port.Ordered.run {p : Port} (hp : p.Ordered) (os : List Op) : (os.foldl Port.step p).Ordered := by
  induction os generalizing p with
  | nil => exact hp
  | cons o os ih => exact ih (hp.step o)

def Port.after (os : List Op) : Port := os.foldl Port.step {}

/-- **The order of the receiver**: whatever polls and accesses there are, what the guest reads while
the port is ready is a beginning of what was taken from the console, the rest of it waits in the ring,
which holds eight bytes at most, and the status shows how many they are. -/
theorem receive_order (os : List Op) :
    (Port.after os).got <+: (Port.after os).taken.map (BitVec.setWidth 32) ∧
    (Port.after os).taken.map (BitVec.setWidth 32) =
      (Port.after os).got ++ (Port.after os).uart.queue.map (BitVec.setWidth 32) ∧
    (Port.after os).uart.len ≤ 8 ∧
    (Port.after os).uart.len = (Port.after os).taken.length - (Port.after os).got.length ∧
    ∃ v s', (Port.after os).uart.read 4 = .ok (v, s') ∧
      v.getLsbD 0 = decide (0 < (Port.after os).taken.length - (Port.after os).got.length) ∧
      (v >>> 26).toNat = (Port.after os).taken.length - (Port.after os).got.length := by
  have hempty : Port.Ordered {} := rfl
  have hp : (Port.after os).Ordered := hempty.run os
  generalize Port.after os = p at hp
  have hlen : p.uart.queue.length = p.taken.length - p.got.length := by
    have hl := congrArg List.length hp
    rw [List.length_append, List.length_map, List.length_map] at hl
    omega
  obtain ⟨v, s', hr, hready, hcount⟩ := read_status p.uart
  rw [hlen] at hready hcount
  refine ⟨⟨_, hp.symm⟩, hp, p.uart.len_le, ?_, v, s', hr, hready, hcount⟩
  rw [← hlen, queue, length_waiting]

example : (Port.after [.poll (some 0x48), .poll (some 0x69), .read 0, .poll none, .read 0]).got =
    [0x48, 0x69] := by decide

end APBUART

end SparcEmu
