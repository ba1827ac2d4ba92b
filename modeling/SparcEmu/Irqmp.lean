import SparcEmu.Defines

/-!
The interrupt controller of `IRQMP.cpp`. The controller's operations run under its mutex; what a
call does after it has released the mutex, waking processors up, is given separately.

The pointers to the processors are taken to be set.
-/

namespace SparcEmu

lemma one_le_eight : 1 ≤ 8 := by decide

structure IRQMP where
  ilevel : u32 := 0
  ipend : u32 := 0
  iforce : u32 := 0
  iclear : u32 := 0
  mpstat : u32 := 0
  brdcst : u32 := 0
  errstat : u32 := 0
  piforce : Fin 8 → u32 := fun _ => 0
  pimask : Fin 8 → u32 := fun _ => 0
  irq_hint : Fin 8 → u32 := fun _ => 0
  num_cpus : Nat
  num_active_cpus : u32 := 0
  num_le : num_cpus ≤ 8

namespace IRQMP

def ILEVEL_OS : u32 := 0x00
def IPEND_OS : u32 := 0x04
def IFORCE_OS : u32 := 0x08
def ICLEAR_OS : u32 := 0x0c
def MPSTAT_OS : u32 := 0x10
def BRDCST_OS : u32 := 0x14
def ERRSTAT_OS : u32 := 0x18

def barrier_irl : Nat := 8

/-- The constructor, with `reset`. -/
def reset (num_cpus : Nat) : Except HostError IRQMP :=
  if h : num_cpus ≤ 8 then
    .ok { num_cpus := num_cpus, num_le := h, mpstat :=
      if 1 < num_cpus then (BitVec.ofNat 32 (num_cpus - 1) <<< 28) ||| (1#32 <<< 27) ||| 0xfffe else 0 }
  else .error (.runtime_error "ncpu > 8 not implemented")

def to_hex (val : u32) : String :=
  String.ofList ((List.range 8).map fun k => (Nat.digitChar ((val >>> (28 - 4 * k)).toNat % 16)).toUpper)

/-! ### Hints -/

/-- The search from level `n` down to 1, 0 if nothing is found. -/
def topLevel (w mask : u32) : Nat → Nat
  | 0 => 0
  | n + 1 => if w.getLsbD (n + 1) && mask.getLsbD (n + 1) then n + 1 else topLevel w mask n

/-- Forced levels come first; the pending ones are looked at only if there is none. -/
def hintOf (piforce ipend pimask : u32) : Nat :=
  if topLevel piforce pimask 15 = 0 then topLevel ipend pimask 15 else topLevel piforce pimask 15

def update_hints_locked (s : IRQMP) : IRQMP :=
  { s with irq_hint := fun c =>
      if c.val < s.num_cpus then BitVec.ofNat 32 (hintOf (s.piforce c) s.ipend (s.pimask c))
      else s.irq_hint c }

def get_irq_hint (cpu_id : Fin 8) (s : IRQMP) : u32 := s.irq_hint cpu_id

/-! ### Operations -/

/-- The level that an operation works on, of four bits. -/
def irlOf (IRL : u32) : Nat := (IRL &&& 0xf).toNat

def bitAt (irl : Nat) : u32 := 1#32 <<< irl

/-- The part of `trigger_irq` under the mutex. -/
def trigger_irq (IRL : u32) (s : IRQMP) : IRQMP :=
  let irl := irlOf IRL
  update_hints_locked <|
    if s.brdcst.getLsbD irl then
      if 1 < s.num_cpus then
        { s with piforce := fun i =>
            if i.val < s.num_cpus ∧ (s.pimask i).getLsbD irl then s.piforce i ||| bitAt irl
            else s.piforce i }
      else if (s.pimask 0).getLsbD irl then
        { s with
          piforce := Function.update s.piforce 0 (s.piforce 0 ||| bitAt irl)
          iforce := s.iforce ||| bitAt irl }
      else s
    else { s with ipend := s.ipend ||| bitAt irl }

/-- Whether the loop behind it wakes processor `i` when it comes to it. -/
def trigger_wakes (IRL : u32) (i : Fin 8) (s : IRQMP) : Bool := (s.pimask i).getLsbD (irlOf IRL)

def clear_irq (IRL : u32) (cpu : Fin 8) (s : IRQMP) : IRQMP :=
  let bit := bitAt (irlOf IRL)
  update_hints_locked <|
    if s.piforce cpu &&& bit ≠ 0 then
      { s with piforce := Function.update s.piforce cpu (s.piforce cpu &&& ~~~bit) }
    else { s with ipend := s.ipend &&& ~~~bit }

/-- The register of a processor in a block of eight. -/
def cpuReg (offset base : u32) : Fin 8 := Fin.ofNat 8 ((offset - base) / 4).toNat

def write_pimask (n : Fin 8) (value : u32) (s : IRQMP) : IRQMP :=
  update_hints_locked
    { s with
      pimask := Function.update s.pimask n value
      num_active_cpus :=
        if !(s.pimask n).getLsbD barrier_irl && value.getLsbD barrier_irl && !s.mpstat.getLsbD n then
          s.num_active_cpus + 1
        else s.num_active_cpus }

def write_piforce (n : Fin 8) (value : u32) (s : IRQMP) : IRQMP :=
  update_hints_locked { s with piforce := Function.update s.piforce n (s.piforce n ||| value) }

/-- Processor `i` is in power-down and the value written asks for it. -/
def powersUp (val : u32) (i : Fin 8) (s : IRQMP) : Bool :=
  decide (i.val < s.num_cpus) && val.getLsbD i && s.mpstat.getLsbD i

def power_up (val : u32) (s : IRQMP) (i : Fin 8) : IRQMP :=
  if powersUp val i s then
    { s with
      mpstat := s.mpstat &&& ~~~(bitAt i)
      num_active_cpus :=
        if (s.pimask i).getLsbD barrier_irl then s.num_active_cpus + 1 else s.num_active_cpus }
  else s

/-- `write`: the registers afterwards, and the processors that the call wakes. -/
def write (offset value : u32) (s : IRQMP) : Except HostError (IRQMP × List (Fin 8)) :=
  if 0x40 ≤ offset ∧ offset < 0x60 then .ok (s.write_pimask (cpuReg offset 0x40) value, [])
  else if 0x80 ≤ offset ∧ offset < 0xa0 then
    let n := cpuReg offset 0x80
    .ok (s.write_piforce n value, if value &&& s.pimask n ≠ 0 then [n] else [])
  else if offset = ILEVEL_OS then .ok ({ s with ilevel := value }, [])
  else if offset = IPEND_OS then .ok (update_hints_locked { s with ipend := value }, [])
  else if offset = IFORCE_OS then
    .ok (update_hints_locked { s with iforce := s.iforce ||| value }, [])
  else if offset = ICLEAR_OS then
    .ok (update_hints_locked
      { s with iclear := value, ipend := s.ipend &&& ~~~(value &&& 0xfffe) }, [])
  else if offset = MPSTAT_OS then
    let val := value &&& 0xffff
    .ok ((List.finRange 8).foldl (power_up val) s, (List.finRange 8).filter (powersUp val · s))
  else if offset = BRDCST_OS then .ok ({ s with brdcst := value &&& 0xfffe }, [])
  else if offset = ERRSTAT_OS then .ok ({ s with errstat := value }, [])
  else .error (.runtime_error ("IRQMP::write offset not implemented: " ++ to_hex offset))

end IRQMP

end SparcEmu
