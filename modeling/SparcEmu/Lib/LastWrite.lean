import Mathlib.Tactic.Common

/-!
Registers that answer to writes: a write to one of them decides what it reads from then on, and
leaves the others alone.
-/

namespace SparcEmu.Lib.LastWrite

variable {ω σ ρ ν : Type} [DecidableEq ρ]

/-- What a register reads after the writes, if it reads `x` before them. -/
def reads (key : ω → ρ) (val : ω → ν) (r : ρ) : ν → List ω → ν
  | x, [] => x
  | x, w :: ws => reads key val r (if key w = r then val w else x) ws

variable {key : ω → ρ} {val : ω → ν} {r : ρ} {x : ν} {ws : List ω}

/-- **Replay**: a store whose single writes behave so behaves so after any number of them. -/
theorem read_foldl (write : ω → σ → σ) (read : ρ → σ → ν)
    (h : ∀ w s, read r (write w s) = if key w = r then val w else read r s) (s : σ) :
    read r (ws.foldl (fun s w => write w s) s) = reads key val r (read r s) ws := by
  induction ws generalizing s with
  | nil => rfl
  | cons w ws ih =>
    rw [List.foldl_cons, ih (write w s), h w s]
    rfl

lemma reads_of_none (h : ∀ w ∈ ws, key w ≠ r) : reads key val r x ws = x := by
  induction ws generalizing x with
  | nil => rfl
  | cons w ws ih =>
    rw [reads, if_neg (h w List.mem_cons_self)]
    exact ih fun w' hw' => h w' (List.mem_cons_of_mem w hw')

lemma reads_append (us : List ω) :
    reads key val r x (us ++ ws) = reads key val r (reads key val r x us) ws := by
  induction us generalizing x with
  | nil => rfl
  | cons u us ih => exact ih

lemma reads_of_last {us : List ω} {w : ω} (hw : key w = r) (h : ∀ w' ∈ ws, key w' ≠ r) :
    reads key val r x (us ++ w :: ws) = val w := by
  rw [reads_append, reads, if_pos hw]
  exact reads_of_none h

end SparcEmu.Lib.LastWrite
