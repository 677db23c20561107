import Backstep.Proofs.RoundTrip

/-! Number literals. A number has many literals, which differ in the zeros that
their digits begin with and, for zero, in the sign. Writing a number gives the
one of them that has no such zeros; it is the shortest. -/
namespace Backstep
namespace Literal

/-- The run without the zeros that its digits begin with; a zero has the sign of the numbers that
are not negative. -/
def canonical : List Symbol → List Symbol
  | [] => []
  | sign :: bits =>
    match bits.dropWhile (· = .space) with
    | [] => [.space]
    | significant => sign :: significant

/-- Digits after a number that is not zero are written after its own. -/
theorem digits_foldl {m : Nat} {bits : List Symbol} (hm : 0 < m) (h : .lineFeed ∉ bits) :
    digits (bits.foldl (fun n s => 2 * n + bit s) m) = digits m ++ bits := by
  induction bits generalizing m with
  | nil => simp
  | cons s bits ih =>
    simp only [List.mem_cons, not_or] at h
    obtain ⟨hs, h⟩ := h
    have hbit : bit s < 2 := by cases s <;> decide
    have hdigit : ofDigit (bit s) = s := by cases s <;> simp_all [bit, ofDigit]
    have hpos : 0 < 2 * m + bit s := by omega
    have hhalf : (2 * m + bit s) / 2 = m := by omega
    have hlast : (2 * m + bit s) % 2 = bit s := by omega
    have hdigits : digits (2 * m + bit s) = digits m ++ [s] := by
      rw [digits, Positional.digits_of_ne_zero (by decide) (by omega), hhalf, hlast]
      simp [digits, hdigit]
    rw [List.foldl_cons, ih hpos h, hdigits, List.append_assoc]
    rfl

theorem digits_magnitude {bits : List Symbol} (h : .lineFeed ∉ bits) :
    digits (bits.foldl (fun n s => 2 * n + bit s) 0) = bits.dropWhile (· = .space) := by
  induction bits with
  | nil => simp [digits]
  | cons s bits ih =>
    simp only [List.mem_cons, not_or] at h
    cases s with
    | space => simpa [bit] using ih h.2
    | tab =>
      have hone : digits 1 = [.tab] := by decide +kernel
      simpa [bit, hone] using digits_foldl Nat.one_pos h.2
    | lineFeed => simp at h

theorem magnitude?_of_mem {bits : List Symbol} (h : .lineFeed ∈ bits) : magnitude? bits = none := by
  have hdigits : bits.mapM digit? = none := by
    induction bits with
    | nil => cases h
    | cons s bits ih =>
      cases s with
      | lineFeed => simp [List.mapM_cons, digit?]
      | _ => simp_all [List.mapM_cons, digit?]
  rw [magnitude?, hdigits, Option.map_none]

theorem decode?_eq_some_iff {run : List Symbol} {n : Int} :
    decode? run = some n ↔ Symbol.IsRun run ∧ n = reading run := by
  constructor
  · intro h
    have hrun : Symbol.IsRun run := by
      cases run with
      | nil => cases h
      | cons sign bits =>
        refine ⟨List.cons_ne_nil _ _, fun hm => ?_⟩
        rcases List.mem_cons.mp hm with rfl | hbits
        · cases h
        · cases sign <;> simp [decode?, magnitude?_of_mem hbits] at h
    rw [decode?_eq_reading hrun] at h
    exact ⟨hrun, (Option.some.inj h).symm⟩
  · rintro ⟨hrun, rfl⟩
    exact decode?_eq_reading hrun

/-- Writing the number that a run reads gives its canonical form. -/
theorem encode_reading {run : List Symbol} (h : Symbol.IsRun run) :
    encode (reading run) = canonical run ++ [.lineFeed] := by
  obtain ⟨hne, hfree⟩ := h
  obtain ⟨sign, bits, rfl⟩ := List.exists_cons_of_ne_nil hne
  simp only [List.mem_cons, not_or] at hfree
  have hdigits := digits_magnitude hfree.2
  simp only [reading, canonical]
  generalize bits.foldl (fun n s => 2 * n + bit s) 0 = m at hdigits
  rw [← hdigits]
  by_cases hm : m = 0
  · simp [hm, encode, Literal.sign, digits]
  · have hdne : digits m ≠ [] := by
      have hbinary : Positional.digits 2 m ≠ [] := Positional.digits_ne_nil (by decide) hm
      simpa [digits] using hbinary
    have hsign : Literal.sign (if sign = .tab then -(m : Int) else m) = sign := by
      cases sign with
      | space => simp [Literal.sign]
      | tab => simp [Literal.sign, Nat.pos_of_ne_zero hm]
      | lineFeed => simp at hfree
    have habs : (if sign = .tab then -(m : Int) else m).natAbs = m := by split <;> simp
    rw [encode, hsign, habs]
    split
    · next hnil => exact absurd hnil hdne
    · rfl

/-- No literal of a number is shorter than the canonical one. -/
theorem length_canonical_le (run : List Symbol) : (canonical run).length ≤ run.length := by
  cases run with
  | nil => simp [canonical]
  | cons sign bits =>
    have hle := (List.dropWhile_suffix (l := bits) (· = .space)).length_le
    rw [canonical]
    split
    · simp
    · simpa using hle

end Literal

open Literal

/-- A number is read back from its literal. Every run of spaces and tabs is the literal of a number,
which is written as the canonical form of the run; it is the shortest run for the number, and the
same one for every run that reads it. -/
theorem literals_canonical :
    (∀ n, ∃ run, encode n = run ++ [.lineFeed] ∧ .lineFeed ∉ run ∧ decode? run = some n) ∧
    (∀ run, (∃ n, decode? run = some n) ↔ run ≠ [] ∧ .lineFeed ∉ run) ∧
    (∀ run n, decode? run = some n →
      encode n = canonical run ++ [.lineFeed] ∧
        ∀ other, decode? other = some n → (canonical run).length ≤ other.length) ∧
    ∀ run other n k, decode? run = some n → decode? other = some k →
      (n = k ↔ canonical run = canonical other) := by
  have hencode : ∀ run n, decode? run = some n → encode n = canonical run ++ [.lineFeed] := by
    intro run n h
    obtain ⟨hrun, rfl⟩ := decode?_eq_some_iff.mp h
    exact encode_reading hrun
  have hform : ∀ run other n, decode? run = some n → decode? other = some n →
      canonical run = canonical other := by
    intro run other n h h'
    exact List.append_cancel_right ((hencode run n h).symm.trans (hencode other n h'))
  refine ⟨?_, ?_, ?_, ?_⟩
  · intro n
    exact ⟨_, rfl, (isRun_encode n).2, decode?_encode n⟩
  · intro run
    constructor
    · rintro ⟨n, h⟩
      exact (decode?_eq_some_iff.mp h).1
    · intro h
      exact ⟨reading run, decode?_eq_reading h⟩
  · intro run n h
    refine ⟨hencode run n h, fun other h' => ?_⟩
    rw [hform run other n h h']
    exact length_canonical_le other
  · intro run other n k h h'
    constructor
    · rintro rfl
      exact hform run other n h h'
    · intro hsame
      have hnumbers : encode n = encode k := by rw [hencode run n h, hencode other k h', hsame]
      have hdecode : decode? (sign n :: digits n.natAbs) = decode? (sign k :: digits k.natAbs) := by
        rw [List.append_cancel_right hnumbers]
      rw [decode?_encode, decode?_encode] at hdecode
      exact Option.some.inj hdecode

end Backstep
