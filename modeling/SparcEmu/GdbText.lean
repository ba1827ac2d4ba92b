import SparcEmu.GdbStub

/-!
Bytes in the packets of the debugger: two hexadecimal digits each, written in lower case and read in
either.
-/

namespace SparcEmu

open Lib.Strtol

def hexDigits : List Char := "0123456789abcdefABCDEF".toList

lemma mem_hexDigits {c : Char} (h : isxdigit c = true) : c ∈ hexDigits := by
  obtain ⟨m, hm, rfl⟩ : ∃ m, m < 128 ∧ c = Char.ofNat m := by
    refine ⟨c.toNat, ?_, (Char.ofNat_toNat c).symm⟩
    by_contra hc
    have hge : ∀ d : Char, d.toNat < 128 → ¬ c ≤ d := fun d hd hcd =>
      absurd (Char.le_def.mp hcd) (by
        rw [UInt32.le_iff_toNat_le]
        show ¬ c.toNat ≤ d.toNat
        omega)
    have hnone : digit? 16 c = none := by
      simp [digit?, hge '9' (by decide), hge 'f' (by decide), hge 'F' (by decide)]
    unfold isxdigit at h
    rw [hnone] at h
    cases h
  have hall : ∀ m < 128, isxdigit (Char.ofNat m) = true → Char.ofNat m ∈ hexDigits := by
    decide +kernel
  exact hall m hm h

lemma stoi_pair {a b : Char} (ha : isxdigit a = true) (hb : isxdigit b = true) :
    ∃ v, stoi [a, b] 16 = .ok v ∧ hex2 (BitVec.ofInt 8 v) = [a.toLower, b.toLower] := by
  have hall : (hexDigits.all fun a => hexDigits.all fun b => (stoi [a, b] 16).toOption.map
      (fun v => hex2 (BitVec.ofInt 8 v)) = some [a.toLower, b.toLower]) = true := by
    decide +kernel
  have h := of_decide_eq_true (List.all_eq_true.mp (List.all_eq_true.mp hall a (mem_hexDigits ha))
    b (mem_hexDigits hb))
  cases hs : stoi [a, b] 16 with
  | error e =>
    rw [hs] at h
    cases h
  | ok v =>
    rw [hs] at h
    exact ⟨v, rfl, Option.some.inj h⟩

lemma to_hex_byte (bytes : List u8) (i : Nat) (hi : i < bytes.length) :
    ((to_hex bytes).drop (i * 2)).take 2 = hex2 bytes[i] := by
  induction bytes generalizing i with
  | nil => simp at hi
  | cons b bytes ih =>
    cases i with
    | zero => rfl
    | succ i =>
      have hi' : i < bytes.length := by simpa using hi
      rw [List.getElem_cons_succ, ← ih i hi', show (i + 1) * 2 = 2 + i * 2 by omega, ← List.drop_drop]
      rfl

lemma GdbStub.memoryBytes_ok {data : List Char} (hd : ∀ c ∈ data, isxdigit c = true) (len i : Nat)
    (hlen : data.length = (i + len) * 2) :
    ∃ bytes, memoryBytes data i len = .ok bytes ∧ bytes.length = len ∧
      to_hex bytes = (data.drop (i * 2)).map Char.toLower := by
  induction len generalizing i with
  | zero =>
    have hnil : data.drop (i * 2) = [] := List.drop_eq_nil_of_le (by omega)
    rw [hnil]
    exact ⟨[], rfl, rfl, rfl⟩
  | succ len ih =>
    obtain ⟨a, b, rest, hab⟩ : ∃ a b rest, data.drop (i * 2) = a :: b :: rest := by
      have hl : (data.drop (i * 2)).length = (len + 1) * 2 := by
        rw [List.length_drop]
        omega
      match data.drop (i * 2), hl with
      | [], hl => simp at hl
      | [a], hl => simp at hl; omega
      | a :: b :: rest, _ => exact ⟨a, b, rest, rfl⟩
    have hmem : ∀ c ∈ a :: b :: rest, c ∈ data := fun c hc => List.mem_of_mem_drop (hab ▸ hc)
    have hrest : data.drop ((i + 1) * 2) = rest := by
      rw [show (i + 1) * 2 = i * 2 + 2 by omega, ← List.drop_drop, hab]
      rfl
    obtain ⟨v, hv, hx⟩ := stoi_pair (hd a (hmem a (by simp))) (hd b (hmem b (by simp)))
    obtain ⟨bytes, hb, hl, ht⟩ := ih (i + 1) (by omega)
    rw [hrest] at ht
    refine ⟨BitVec.ofInt 8 v :: bytes, ?_, by rw [List.length_cons, hl], ?_⟩
    · unfold memoryBytes
      rw [hab, show (a :: b :: rest).take 2 = [a, b] from rfl, hv, hb]
      rfl
    · rw [hab]
      show hex2 (BitVec.ofInt 8 v) ++ to_hex bytes = _
      rw [hx, ht]
      rfl

end SparcEmu
