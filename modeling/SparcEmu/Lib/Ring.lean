import Mathlib.Data.BitVec
import Mathlib.Data.Fin.Basic
import Mathlib.Tactic.Common

/-!
A queue kept in a ring: the slots, the position of the next write and the number of elements that
wait. The position only counts up, possibly around a multiple of the number of slots.
-/

namespace SparcEmu.Lib.Ring

variable {α : Type} {n : Nat} [NeZero n]

/-- The elements that wait, the oldest first. -/
def waiting (slot : Fin n → α) (pos len : Nat) : List α :=
  (List.range len).map fun k => slot (Fin.ofNat n (pos + n - len + k))

variable {slot : Fin n → α} {pos len : Nat}

@[simp] lemma length_waiting : (waiting slot pos len).length = len := by
  simp [waiting]

lemma ofNat_ne {a b : Nat} (hlt : a < b) (hd : b < a + n) : Fin.ofNat n b ≠ Fin.ofNat n a := by
  intro heq
  have hmod : b % n = a % n := congrArg Fin.val heq
  have hdvd : n ∣ b - a := Nat.dvd_of_mod_eq_zero (Nat.sub_mod_eq_zero_of_mod_eq hmod)
  have hle := Nat.le_of_dvd (by omega) hdvd
  omega

lemma waiting_pop (hl : 0 < len) (hn : len ≤ n) :
    waiting slot pos len = slot (Fin.ofNat n (pos + n - len)) :: waiting slot pos (len - 1) := by
  obtain ⟨l, rfl⟩ : ∃ l, len = l + 1 := ⟨len - 1, by omega⟩
  unfold waiting
  rw [List.range_succ_eq_map, List.map_cons, List.map_map, Nat.add_sub_cancel]
  refine congrArg₂ List.cons rfl (List.map_congr_left fun k _ => ?_)
  show slot (Fin.ofNat n (pos + n - (l + 1) + (k + 1))) = _
  congr 2
  omega

lemma waiting_push (x : α) (hlt : len < n) :
    waiting (Function.update slot (Fin.ofNat n pos) x) (pos + 1) (len + 1) =
      waiting slot pos len ++ [x] := by
  unfold waiting
  rw [List.range_succ, List.map_append, List.map_singleton]
  refine congrArg₂ (· ++ ·) (List.map_congr_left fun k hk => ?_) ?_
  · -- the older elements are in other slots
    have hk := List.mem_range.mp hk
    have hne : Fin.ofNat n (pos + 1 + n - (len + 1) + k) ≠ Fin.ofNat n pos :=
      ofNat_ne (by omega) (by omega)
    rw [Function.update_of_ne hne]
    congr 2
    omega
  · have hself : Fin.ofNat n (pos + 1 + n - (len + 1) + len) = Fin.ofNat n pos := by
      apply Fin.ext
      show (pos + 1 + n - (len + 1) + len) % n = pos % n
      rw [show pos + 1 + n - (len + 1) + len = pos + n by omega, Nat.add_mod_right]
    rw [hself, Function.update_self]

lemma waiting_wrap {m : Nat} (hm : n ∣ m) (hn : len ≤ n) :
    waiting slot (pos % m) len = waiting slot pos len := by
  unfold waiting
  refine List.map_congr_left fun k _ => ?_
  congr 1
  apply Fin.ext
  show (pos % m + n - len + k) % n = (pos + n - len + k) % n
  rw [show pos % m + n - len + k = pos % m + (n - len + k) by omega,
    show pos + n - len + k = pos + (n - len + k) by omega, Nat.add_mod, Nat.mod_mod_of_dvd _ hm,
    ← Nat.add_mod]

end SparcEmu.Lib.Ring
