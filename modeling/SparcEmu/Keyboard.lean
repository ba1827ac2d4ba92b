import SparcEmu.ApbSlaves

/-!
The keyboard controller, `APBPS2.h`, between the display's thread, which sends the bytes of keys, and
the guest, which sends commands and reads bytes. Commands are answered through the queue that the keys
use, so that each answer has its place among the keys; what does not fit into the queue is dropped.
-/

namespace SparcEmu.APBPS2

/-- `push_byte`, and whether it triggers the interrupt line. -/
def push_byte (byte : u8) (s : APBPS2) : APBPS2 × Bool := (s.push byte, s.ctrl.getLsbD 2)

/-- The keyboard protocol: what is answered to a byte, and what the next byte is then. -/
def answer : TxState → u8 → List u8 × TxState
  | .WAIT_F0, cmd => (if cmd = 0x00 then [0xfa, 0x02] else [0xfa], .IDLE)
  | .WAIT_ED, _ | .WAIT_F3, _ => ([0xfa], .IDLE)
  | .IDLE, cmd =>
    if cmd = 0xff then ([0xfa, 0xaa], .IDLE)
    else if cmd = 0xf2 then ([0xfa, 0xab, 0x83], .IDLE)
    else if cmd = 0xf0 then ([0xfa], .WAIT_F0)
    else if cmd = 0xed then ([0xfa], .WAIT_ED)
    else if cmd = 0xf3 then ([0xfa], .WAIT_F3)
    else if cmd = 0xee then ([0xee], .IDLE)
    else ([0xfa], .IDLE)

def pushes (bs : List u8) (s : APBPS2) : APBPS2 := bs.foldl (fun s b => s.push b) s

variable {s : APBPS2}

lemma push_waits (b : u8) (w : TxState) (s : APBPS2) :
    push b { s with tx_state := w } = { s.push b with tx_state := w } := by
  unfold push
  split_ifs <;> rfl

lemma push_tx_state (b : u8) (s : APBPS2) : (s.push b).tx_state = s.tx_state := by
  unfold push
  split_ifs <;> rfl

/-- **The protocol** is what the controller follows. -/
lemma tx_respond_eq (cmd : u8) (s : APBPS2) : s.tx_respond cmd =
    { s.pushes (answer s.tx_state cmd).1 with tx_state := (answer s.tx_state cmd).2 } := by
  have heta : ∀ t : APBPS2, t.tx_state = .IDLE → t = { t with tx_state := .IDLE } := by
    rintro ⟨_, _, _⟩ rfl
    rfl
  cases h : s.tx_state with
  | IDLE =>
    simp only [tx_respond, answer, h]
    split_ifs <;> first | rfl | exact heta _ (by simp only [ack, push_tx_state, h])
  | WAIT_F0 =>
    simp only [tx_respond, answer, h, ack, push_waits]
    split_ifs <;> rfl
  | WAIT_ED | WAIT_F3 =>
    simp only [tx_respond, answer, h, ack, push_waits]
    rfl

lemma pushes_rxq (bs : List u8) (s : APBPS2) :
    (s.pushes bs).rxq = s.rxq ++ bs.take (32 - s.rxq.length) := by
  induction bs generalizing s with
  | nil => simp [pushes]
  | cons b bs ih =>
    show ((s.push b).pushes bs).rxq = _
    rw [ih]
    unfold push
    split_ifs with h
    · obtain ⟨m, hm⟩ := Nat.exists_eq_add_of_lt h
      have hr : 32 - s.rxq.length = m + 1 := by omega
      have hr' : 32 - (s.rxq ++ [b]).length = m := by
        rw [List.length_append, List.length_singleton]
        omega
      rw [hr, hr', List.take_succ_cons, List.append_assoc, List.singleton_append]
    · rw [show 32 - s.rxq.length = 0 by omega, List.take_zero, List.take_zero]

/-! ### Keys, commands and reads in any order -/

/-- The controller with what has been sent to the guest, keys and answers, and what the guest has
read while the status showed a byte. -/
structure Desk where
  ps2 : APBPS2 := {}
  sent : List u8 := []
  got : List u8 := []

inductive Op
  | key (byte : u8)
  | read (offset : u32)
  | write (offset value : u32)

def ready (s : APBPS2) : Bool := (s.read 4).1.getLsbD 0

lemma ready_eq (s : APBPS2) : s.ready = !s.rxq.isEmpty := by
  cases h : s.rxq <;> simp [ready, read, APBUART.flag, h]

namespace Desk

variable {k : Desk}

def step (k : Desk) : Op → Desk
  | .key byte => { k with ps2 := (k.ps2.push_byte byte).1, sent := k.sent ++ [byte] }
  | .read offset =>
    let (v, s) := k.ps2.read offset
    { k with
      ps2 := s
      got := if offset &&& 0xc = 0 ∧ k.ps2.ready then k.got ++ [v.setWidth 8] else k.got }
  | .write offset value =>
    { k with
      ps2 := (k.ps2.write offset value).1
      sent :=
        if offset &&& 0xc = 0 then k.sent ++ (answer k.ps2.tx_state (value.setWidth 8)).1 else k.sent }

/-- **What an operation does**: bytes go to the end of the queue as far as there is room, or the guest
reads the first one. -/
lemma step_cases (k : Desk) (o : Op) :
    (∃ bs, (k.step o).sent = k.sent ++ bs ∧ (k.step o).got = k.got ∧
      (k.step o).ps2.rxq = k.ps2.rxq ++ bs.take (32 - k.ps2.rxq.length)) ∨
    ∃ b q, k.ps2.rxq = b :: q ∧ (k.step o).sent = k.sent ∧ (k.step o).got = k.got ++ [b] ∧
      (k.step o).ps2.rxq = q := by
  have hsame : ∀ k' : Desk, k'.sent = k.sent → k'.got = k.got → k'.ps2.rxq = k.ps2.rxq →
      ∃ bs, k'.sent = k.sent ++ bs ∧ k'.got = k.got ∧
        k'.ps2.rxq = k.ps2.rxq ++ bs.take (32 - k.ps2.rxq.length) :=
    fun k' hs hg hq => ⟨[], by simp [hs], hg, by simp [hq]⟩
  cases o with
  | key byte => exact .inl ⟨[byte], rfl, rfl, pushes_rxq [byte] k.ps2⟩
  | write offset value =>
    left
    by_cases h0 : offset &&& 0xc = 0
    · refine ⟨_, if_pos h0, rfl, ?_⟩
      simp only [step, APBPS2.write, if_pos h0, tx_respond_eq]
      exact pushes_rxq _ _
    · refine hsame _ (if_neg h0) rfl ?_
      simp only [step, APBPS2.write]
      rw [if_neg h0]
      split_ifs <;> rfl
  | read offset =>
    by_cases h0 : offset &&& 0xc = 0
    · obtain hq | ⟨b, q, hq⟩ : k.ps2.rxq = [] ∨ ∃ b q, k.ps2.rxq = b :: q := by
        cases k.ps2.rxq <;> simp
      · have hr : k.ps2.ready = false := by rw [ready_eq, hq]; rfl
        refine .inl (hsame _ rfl (if_neg fun h => Bool.false_ne_true (hr.symm.trans h.2)) ?_)
        simp only [step, APBPS2.read, if_pos h0, hq]
      · have hr : k.ps2.ready = true := by rw [ready_eq, hq]; rfl
        refine .inr ⟨b, q, hq, rfl, ?_, ?_⟩ <;> simp only [step, APBPS2.read, if_pos h0, hq]
        rw [if_pos ⟨h0, hr⟩]
        simp
    · refine .inl (hsame _ rfl (if_neg fun h => h0 h.1) ?_)
      simp only [step, APBPS2.read]
      rw [if_neg h0]
      split_ifs <;> rfl

def after (os : List Op) : Desk := os.foldl step {}

lemma after_snoc (os : List Op) (o : Op) : after (os ++ [o]) = (after os).step o := List.foldl_concat ..

/-- **One operation** loses bytes only where the queue is full, and does not change their order. -/
lemma step_kept (hk : (k.got ++ k.ps2.rxq).Sublist k.sent) (hl : k.ps2.rxq.length ≤ 32) (o : Op) :
    ((k.step o).got ++ (k.step o).ps2.rxq).Sublist (k.step o).sent ∧ (k.step o).ps2.rxq.length ≤ 32 ∧
    (k.got ++ k.ps2.rxq = k.sent → (k.step o).sent.length ≤ (k.step o).got.length + 32 →
      (k.step o).got ++ (k.step o).ps2.rxq = (k.step o).sent) := by
  obtain ⟨bs, hs, hg, hr⟩ | ⟨b, q, hb, hs, hg, hr⟩ := step_cases k o
  · rw [hs, hg, hr, ← List.append_assoc]
    refine ⟨hk.append (List.take_sublist ..), ?_, fun hall hroom => ?_⟩
    · rw [List.length_append, List.length_take]
      omega
    · have hlen := congrArg List.length hall
      rw [List.length_append] at hlen hroom
      rw [hall, List.take_of_length_le (by omega)]
  · rw [hb] at hk
    rw [hb, List.length_cons] at hl
    rw [hs, hg, hr, hb, List.append_assoc, List.singleton_append]
    exact ⟨hk, by omega, fun hall _ => hall⟩

/-- **The order of keys and answers**: whatever keys, commands and reads there are, the bytes that the
guest has read and those that wait are some of the keys and answers in their order, at most 32 wait,
and none is missing if never more than 32 were on their way to the guest. -/
theorem keyboard_order (os : List Op) :
    ((after os).got ++ (after os).ps2.rxq).Sublist (after os).sent ∧
    (after os).ps2.rxq.length ≤ 32 ∧
    ((∀ os', os' <+: os → (after os').sent.length ≤ (after os').got.length + 32) →
      (after os).got ++ (after os).ps2.rxq = (after os).sent) := by
  induction os using List.reverseRecOn with
  | nil => exact ⟨List.Sublist.refl _, Nat.zero_le _, fun _ => rfl⟩
  | append_singleton os o ih =>
    obtain ⟨hk, hl, hall⟩ := ih
    obtain ⟨hk', hl', hall'⟩ := step_kept hk hl o
    rw [after_snoc]
    refine ⟨hk', hl', fun hroom => hall' (hall fun os' h => ?_) ?_⟩
    · exact hroom os' (h.trans (List.prefix_append os [o]))
    · have hlast := hroom _ (List.prefix_refl _)
      rwa [after_snoc] at hlast

end Desk

end SparcEmu.APBPS2
