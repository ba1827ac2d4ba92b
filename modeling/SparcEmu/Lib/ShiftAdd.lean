import Mathlib.Tactic.Ring
import Mathlib.Tactic.Linarith

/-!
Multiplication by shifting and adding. A partial product and a register of `w` bits that holds the
multiplier are shifted together: the bit that leaves the register decides whether the multiplicand
is added, and the bit that leaves the partial product enters the register.
-/

namespace SparcEmu.Lib.ShiftAdd

@[ext]
structure Acc where
  p : Int
  q : Nat

variable (w : Nat) (a : Int)

def step (s : Acc) : Acc where
  p := s.p / 2 + if s.q % 2 = 1 then a else 0
  q := s.q / 2 + 2 ^ (w - 1) * (s.p % 2).toNat

/-- After `k` steps with the multiplier `b`: the register holds the rest of the multiplier and above
it the `k` bits that have left the partial product. -/
def Reached (b k : Nat) (s : Acc) : Prop :=
  ∃ low : Nat, s.q = b / 2 ^ k + 2 ^ (w - k) * low ∧ 2 ^ k * s.p + low = 2 * a * (b % 2 ^ k : Nat)

variable {w a} {b k : Nat} {s : Acc}

lemma reached_zero : Reached w a b 0 ⟨0, b⟩ :=
  ⟨0, by simp, by simp [Nat.mod_one]⟩

/-- **One step** takes in one bit of the multiplier. -/
lemma Reached.step (h : Reached w a b k s) (hk : k < w) :
    Reached w a b (k + 1) (step w a s) := by
  obtain ⟨low, hq, hp⟩ := h
  obtain ⟨n, rfl⟩ : ∃ n, w = k + 1 + n := ⟨w - (k + 1), by omega⟩
  have hpow : 2 ^ (k + 1 + n - k) = 2 * 2 ^ n := by
    rw [show k + 1 + n - k = n + 1 by omega, pow_succ, Nat.mul_comm]
  rw [hpow, Nat.mul_assoc] at hq
  have hodd : s.q % 2 = b / 2 ^ k % 2 := by omega
  have hhalf : s.q / 2 = b / 2 ^ (k + 1) + 2 ^ n * low := by
    rw [pow_succ, ← Nat.div_div_eq_div_mul]
    omega
  have hr : ((s.p % 2).toNat : Int) = s.p % 2 := Int.toNat_of_nonneg (Int.emod_nonneg _ (by decide))
  have hdiv : 2 * (s.p / 2) + s.p % 2 = s.p := Int.mul_ediv_add_emod s.p 2
  have hb : (b % 2 ^ (k + 1) : Nat) = b % 2 ^ k + 2 ^ k * (b / 2 ^ k % 2) := Nat.mod_pow_succ
  refine ⟨low + 2 ^ k * (s.p % 2).toNat, ?_, ?_⟩
  · show s.q / 2 + 2 ^ (k + 1 + n - 1) * (s.p % 2).toNat = _
    rw [hhalf, show k + 1 + n - (k + 1) = n by omega, show k + 1 + n - 1 = n + k by omega, pow_add]
    ring
  · show 2 ^ (k + 1) * (s.p / 2 + if s.q % 2 = 1 then a else 0) + _ = _
    have hadd : (if s.q % 2 = 1 then a else 0) = a * ((b / 2 ^ k % 2 : Nat) : Int) := by
      rw [hodd]
      rcases Nat.mod_two_eq_zero_or_one (b / 2 ^ k) with h0 | h1
      · rw [h0]; simp
      · rw [h1]; simp
    rw [hadd, hb]
    push_cast
    rw [hr]
    calc 2 ^ (k + 1) * (s.p / 2 + a * (b / 2 ^ k % 2)) + (low + 2 ^ k * (s.p % 2))
        = 2 ^ k * (2 * (s.p / 2) + s.p % 2) + low + 2 * a * (2 ^ k * (b / 2 ^ k % 2)) := by ring
      _ = 2 * a * (b % 2 ^ k) + 2 * a * (2 ^ k * (b / 2 ^ k % 2)) := by
        rw [hdiv, hp]
        push_cast
        ring
      _ = 2 * a * (b % 2 ^ k + 2 ^ k * (b / 2 ^ k % 2)) := by ring

def steps (w : Nat) (as : List Int) (s : Acc) : Acc := as.foldl (fun s a => step w a s) s

lemma steps_append (as bs : List Int) (s : Acc) : steps w (as ++ bs) s = steps w bs (steps w as s) :=
  List.foldl_append

/-- **Many steps** with the same addend. -/
lemma reached_steps : ∀ k ≤ w, Reached w a b k (steps w (List.replicate k a) ⟨0, b⟩) := by
  intro k
  induction k with
  | zero => exact fun _ => reached_zero
  | succ k ih =>
    intro hk
    rw [List.replicate_succ', steps_append]
    exact (ih (by omega)).step hk

/-- **The product** stands in both after a step for every bit of the multiplier and one without an
addend. -/
theorem product (hw : 0 < w) (hb : b < 2 ^ w) :
    2 ^ w * (steps w (List.replicate w a ++ [0]) ⟨0, b⟩).p +
      (steps w (List.replicate w a ++ [0]) ⟨0, b⟩).q = a * b := by
  obtain ⟨low, hq, hp⟩ := reached_steps (w := w) (a := a) (b := b) w le_rfl
  rw [steps_append]
  generalize steps w (List.replicate w a) ⟨0, b⟩ = s at *
  obtain ⟨n, rfl⟩ : ∃ n, w = n + 1 := ⟨w - 1, by omega⟩
  rw [Nat.div_eq_of_lt hb, Nat.sub_self, pow_zero, Nat.zero_add, Nat.one_mul] at hq
  rw [Nat.mod_eq_of_lt hb] at hp
  have hr : ((s.p % 2).toNat : Int) = s.p % 2 := Int.toNat_of_nonneg (Int.emod_nonneg _ (by decide))
  have hdiv : 2 * (s.p / 2) + s.p % 2 = s.p := Int.mul_ediv_add_emod s.p 2
  -- the bit that the last step drops from the register is zero
  have hlow : 2 * (low / 2 : Int) = low := by
    have h2 : (low : Int) = 2 * (a * b - 2 ^ n * s.p) := by
      rw [pow_succ] at hp
      linarith
    rw [h2]
    omega
  show 2 ^ (n + 1) * (s.p / 2 + if s.q % 2 = 1 then 0 else 0) +
    ((s.q / 2 + 2 ^ (n + 1 - 1) * (s.p % 2).toNat : Nat) : Int) = a * b
  rw [ite_self, hq, show n + 1 - 1 = n by omega]
  push_cast
  rw [hr]
  have hhalf : 2 ^ n * s.p + low / 2 = a * b := by
    rw [pow_succ] at hp
    linarith
  calc 2 ^ (n + 1) * (s.p / 2 + 0) + (low / 2 + 2 ^ n * (s.p % 2))
      = 2 ^ n * (2 * (s.p / 2) + s.p % 2) + low / 2 := by ring
    _ = a * b := by rw [hdiv, hhalf]

end SparcEmu.Lib.ShiftAdd
