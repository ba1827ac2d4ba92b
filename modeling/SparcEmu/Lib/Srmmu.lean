import Mathlib.Data.BitVec
import Mathlib.Tactic.Common

/-!
The SPARC reference MMU: the walk of the page tables from the context table down, the rights
that an entry grants and the answer it gives. The memory is of any type; reading a word may
change it, and may fail.
-/

namespace SparcEmu.Lib.Srmmu

abbrev Word := BitVec 32

inductive EntryType
  | invalid
  | pointer
  | leaf
  | reserved
deriving DecidableEq, Repr

def entryType (w : Word) : EntryType :=
  if w &&& 3 = 0 then .invalid else if w &&& 3 = 1 then .pointer
  else if w &&& 3 = 2 then .leaf else .reserved

/-- The index of an address into the tables of the levels 1 to 3. -/
def indices (va : Word) : List Word := [va >>> 24, (va >>> 18) &&& 0x3f, (va >>> 12) &&& 0x3f]

/-- The address of an entry in the table that a pointer names. -/
def entryAddr (ptd i : Word) : Word := ((ptd >>> 2) <<< 6) + i * 4

/-- The address of the entry of a context. -/
def rootAddr (ctp ctx : Word) : Word := (ctp <<< 4) + ctx * 4

section Walk

variable {σ : Type} (read : Word → σ → Option (Word × σ))

/-- The walk from the entry at `pa`, with one table for each of the indices that are left: the
entry it ends at and the level of that entry. -/
def walk : List Word → Nat → Word → σ → Option ((Word × Nat) × σ)
  | [], level, pa, m => (read pa m).map fun r => ((r.1, level), r.2)
  | i :: is, level, pa, m =>
    (read pa m).bind fun r =>
      if entryType r.1 = .pointer then walk is (level + 1) (entryAddr r.1 i) r.2
      else some ((r.1, level), r.2)

variable {read}

lemma walk_level {is : List Word} {level : Nat} {pa : Word} {m m' : σ} {r : Word × Nat}
    (h : walk read is level pa m = some (r, m')) :
    level ≤ r.2 ∧ r.2 ≤ level + is.length ∧ (r.2 < level + is.length → entryType r.1 ≠ .pointer) := by
  induction is generalizing level pa m with
  | nil =>
    obtain ⟨a, -, ha⟩ := Option.map_eq_some_iff.1 h
    cases ha
    exact ⟨Nat.le_refl _, Nat.le_refl _, fun hlt => absurd hlt (Nat.lt_irrefl _)⟩
  | cons i is ih =>
    obtain ⟨a, -, ha⟩ := Option.bind_eq_some_iff.1 h
    split_ifs at ha with hp
    · obtain ⟨h1, h2, h3⟩ := ih ha
      rw [List.length_cons]
      exact ⟨by omega, by omega, fun hlt => h3 (by omega)⟩
    · cases ha
      exact ⟨Nat.le_refl _, by omega, fun _ => hp⟩

end Walk

/-! ### Rights -/

inductive Kind
  | load
  | store
  | fetch
deriving DecidableEq, Repr

structure Rights where
  read : Bool
  write : Bool
  execute : Bool
deriving DecidableEq, Repr

def acc (w : Word) : Nat := ((w >>> 2) &&& 7).toNat

/-- The rights that the permissions grant to the user or to the supervisor. -/
def rights (acc : Nat) (supervisor : Bool) : Rights :=
  match acc with
  | 0 => ⟨true, false, false⟩
  | 1 => ⟨true, true, false⟩
  | 2 => ⟨true, false, true⟩
  | 3 => ⟨true, true, true⟩
  | 4 => ⟨false, false, true⟩
  | 5 => ⟨true, supervisor, false⟩
  | 6 => ⟨supervisor, false, supervisor⟩
  | _ => ⟨supervisor, supervisor, supervisor⟩

def Rights.allow (r : Rights) : Kind → Bool
  | .load => r.read
  | .store => r.write
  | .fetch => r.execute

def allowed (w : Word) (k : Kind) (supervisor : Bool) : Bool := (rights (acc w) supervisor).allow k

/-- A denied access is a privilege violation where the user has no rights at all, and a
protection error elsewhere. -/
def denial (w : Word) (supervisor : Bool) : Nat := if !supervisor && 6 ≤ acc w then 3 else 2

/-! ### The answer -/

def offsetBits : Nat → Nat
  | 0 => 32
  | 1 => 24
  | 2 => 18
  | _ => 12

def offsetMask (level : Nat) : Word := BitVec.ofNat 32 (2 ^ offsetBits level - 1)

def frame (w : Word) : Word := (w >>> 8) <<< 12

/-- The frame above, the offset below. -/
def physical (va w : Word) (level : Nat) : Word :=
  (frame w &&& ~~~offsetMask level) ||| (va &&& offsetMask level)

inductive Answer
  | mapped (pa : Word)
  | fault (ft : Nat)
deriving DecidableEq, Repr

/-- What the entry at the end of a walk answers. -/
def answer (va : Word) (k : Kind) (supervisor : Bool) (r : Word × Nat) : Answer :=
  match entryType r.1 with
  | .invalid => .fault 1
  | .pointer => .fault 4
  | .reserved => .fault 4
  | .leaf =>
    if allowed r.1 k supervisor then .mapped (physical va r.1 r.2)
    else .fault (denial r.1 supervisor)

/-- The access type as the fault status register has it. -/
def accessType (k : Kind) (supervisor : Bool) : Nat :=
  (match k with | .load => 0 | .fetch => 2 | .store => 4) + supervisor.toNat

/-- The page offset can be put below a frame with `or` if the frame has no bit there that the
offset has not. -/
lemma or_frame_iff (va w : Word) (level : Nat) :
    (va &&& offsetMask level) ||| frame w = physical va w level ↔
      frame w &&& offsetMask level &&& ~~~va = 0 := by
  unfold physical
  generalize offsetMask level = k
  generalize frame w = f
  constructor
  · intro h
    apply BitVec.eq_of_getLsbD_eq
    intro i hi
    have hb := congrArg (fun x => BitVec.getLsbD x i) h
    simp only [BitVec.getLsbD_or, BitVec.getLsbD_and, BitVec.getLsbD_not, hi, decide_true,
      Bool.true_and] at hb
    simp only [BitVec.getLsbD_and, BitVec.getLsbD_not, hi, decide_true, Bool.true_and]
    cases hf : f.getLsbD i <;> cases hk : k.getLsbD i <;> cases hv : va.getLsbD i <;>
      simp_all
  · intro h
    apply BitVec.eq_of_getLsbD_eq
    intro i hi
    have hb := congrArg (fun x => BitVec.getLsbD x i) h
    simp only [BitVec.getLsbD_and, BitVec.getLsbD_not, hi, decide_true, Bool.true_and] at hb
    simp only [BitVec.getLsbD_or, BitVec.getLsbD_and, BitVec.getLsbD_not, hi, decide_true,
      Bool.true_and]
    cases hf : f.getLsbD i <;> cases hk : k.getLsbD i <;> cases hv : va.getLsbD i <;>
      simp_all

end SparcEmu.Lib.Srmmu
