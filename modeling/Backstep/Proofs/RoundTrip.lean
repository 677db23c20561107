import Backstep.Proofs.Reading

/-! Reading what was written. Instructions are written one after another with
nothing between them, and are read back just when each of them has the operand
that its operation asks for. -/
namespace Backstep

namespace Literal

theorem isRun_encode (n : Int) : Symbol.IsRun (sign n :: digits n.natAbs) := by
  refine ⟨List.cons_ne_nil _ _, ?_⟩
  intro h
  rcases List.mem_cons.mp h with hs | hd
  · rw [sign] at hs
    split at hs <;> cases hs
  · exact lineFeed_not_mem_digits _ hd

theorem reading_encode (n : Int) : reading (sign n :: digits n.natAbs) = n := by
  have h := decode?_eq_reading (isRun_encode n)
  rw [decode?_encode] at h
  exact (Option.some.inj h).symm

end Literal

namespace Instruction

/-- The instruction has the operand that its operation asks for. -/
def WellFormed (i : Instruction) : Prop :=
  match i.operation.parameterKind? with
  | some .number => ∃ n, i.parameter = some (.number n)
  | some .label => ∃ l, i.parameter = some (.label l) ∧ l.symbols ≠ [] ∧ .lineFeed ∉ l.symbols
  | none => i.parameter = none

variable {i : Instruction}

theorem WellFormed.operand (h : i.WellFormed) :
    Operand i.operation.parameterKind? ((i.parameter.map Parameter.symbols).getD [])
      i.parameter := by
  rw [WellFormed] at h
  split at h
  · next hk =>
    obtain ⟨n, hn⟩ := h
    have hoperand := Operand.number _ (Literal.isRun_encode n)
    rw [Literal.reading_encode] at hoperand
    rw [hk, hn]
    exact hoperand
  · next hk =>
    obtain ⟨l, hl, hrun⟩ := h
    rw [hk, hl]
    exact .label l.symbols hrun
  · next hk =>
    rw [hk, h]
    exact .absent

theorem WellFormed.encodes (h : i.WellFormed) : Encodes i.symbols i.code :=
  ⟨_, rfl, h.operand⟩

theorem wellFormed_of_encodes {symbols : List Symbol} (h : Encodes symbols i.code) :
    i.WellFormed := by
  obtain ⟨operand, -, ho⟩ := h
  change Operand i.operation.parameterKind? operand i.parameter at ho
  rw [WellFormed]
  generalize i.operation.parameterKind? = kind at ho
  generalize i.parameter = a at ho
  cases ho with
  | absent => exact rfl
  | number run hr => exact ⟨Literal.reading run, rfl⟩
  | label run hr => exact ⟨⟨run⟩, rfl, hr⟩

end Instruction

namespace Program

variable {p q : Program}

theorem symbols_of_code (p : Program) :
    p.symbols = p.code.flatMap fun code => (Instruction.mk code.1 code.2 {}).symbols := by
  rw [symbols, code, List.flatMap_map]
  rfl

theorem exists_spelling (h : ∀ i ∈ p.instructions, i.WellFormed) :
    ∃ ps, p.symbols = Piece.spelling ps ∧ ps.map Piece.code = p.code := by
  have hlist : ∀ is : List Instruction, (∀ i ∈ is, i.WellFormed) →
      ∃ ps, is.flatMap Instruction.symbols = Piece.spelling ps ∧
        ps.map Piece.code = is.map Instruction.code := by
    intro is his
    induction is with
    | nil => exact ⟨[], rfl, rfl⟩
    | cons i is ih =>
      obtain ⟨ps, hs, hc⟩ := ih fun j hj => his j (List.mem_cons_of_mem i hj)
      have hi := (his i List.mem_cons_self).encodes
      refine ⟨⟨i.symbols, i.code, hi⟩ :: ps, ?_, ?_⟩
      · rw [List.flatMap_cons, hs]
        rfl
      · rw [List.map_cons, List.map_cons, hc]
  exact hlist p.instructions.toList fun i hi => h i (Array.mem_toList_iff.mp hi)

theorem wellFormed_of_code {ps : List Piece} (h : p.code = ps.map Piece.code) :
    ∀ i ∈ p.instructions, i.WellFormed := by
  intro i hi
  have hcode : i.code ∈ ps.map Piece.code := by
    rw [← h]
    exact List.mem_map_of_mem (Array.mem_toList_iff.mpr hi)
  obtain ⟨piece, -, hp⟩ := List.mem_map.mp hcode
  have hsound := piece.sound
  rw [hp] at hsound
  exact Instruction.wellFormed_of_encodes hsound

theorem read_source (h : ∀ i ∈ p.instructions, i.WellFormed) :
    ∃ q, Program.read p.source = .ok q ∧ q.code = p.code := by
  obtain ⟨ps, hs, hc⟩ := exists_spelling h
  rw [← hc]
  apply read_of_spelling
  rw [source, Symbol.ofText_source, hs]

/-- A comment before an exit is not written again. -/
theorem exists_comment :
    ∃ source p, Program.read source = .ok p ∧ Symbol.ofText source.toList = p.symbols ∧
      p.source ≠ source := by
  have hs : Symbol.ofText "#\n\n\n".toList =
      Piece.spelling [⟨_, (.exit, none), [], rfl, .absent⟩] := by decide
  obtain ⟨p, hp, hc⟩ := read_of_spelling hs
  have hsymbols : p.symbols = Symbol.ofText "#\n\n\n".toList := by
    rw [p.symbols_of_code, hc]
    decide
  refine ⟨_, p, hp, hsymbols.symm, ?_⟩
  rw [source, hsymbols]
  decide

/-- A zero with a digit is written again without it. -/
theorem exists_numeral :
    ∃ source p, Program.read source = .ok p ∧ Symbol.ofText source.toList ≠ p.symbols := by
  have hs : Symbol.ofText "    \n".toList =
      Piece.spelling [⟨_, (.push, _), _, rfl, .number [.space, .space] (by decide)⟩] := by decide
  obtain ⟨p, hp, hc⟩ := read_of_spelling hs
  refine ⟨_, p, hp, ?_⟩
  rw [p.symbols_of_code, hc]
  decide

end Program

/-- A program is read back from its source if and only if its instructions are well formed. So
every program that was read is, though its source may have other comments and other numerals. -/
theorem source_reads_back :
    (∀ p : Program, (∃ q, Program.read p.source = .ok q ∧ q.code = p.code) ↔
      ∀ i ∈ p.instructions, i.WellFormed) ∧
    (∀ source p, Program.read source = .ok p →
      ∃ q, Program.read p.source = .ok q ∧ q.code = p.code) ∧
    (∃ source p, Program.read source = .ok p ∧ Symbol.ofText source.toList = p.symbols ∧
      p.source ≠ source) ∧
    ∃ source p, Program.read source = .ok p ∧ Symbol.ofText source.toList ≠ p.symbols := by
  refine ⟨?_, ?_, Program.exists_comment, Program.exists_numeral⟩
  · intro p
    constructor
    · rintro ⟨q, hq, hcode⟩
      obtain ⟨ps, -, hc⟩ := Program.spelling_of_read hq
      exact Program.wellFormed_of_code (hcode.symm.trans hc)
    · exact Program.read_source
  · intro source p hp
    obtain ⟨ps, -, hc⟩ := Program.spelling_of_read hp
    exact Program.read_source (Program.wellFormed_of_code hc)

end Backstep
