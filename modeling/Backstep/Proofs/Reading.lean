import Backstep.Proofs.Grammar

/-! Reading follows the grammar. Each layer of reading finds a word of its own
at the start of the text, or it fails there; so reading cuts the text into
written instructions, and where the cut gets stuck one layer fails and the error
says which and where. -/
namespace Backstep

theorem Group.read_cases (c : Cursor) :
    (∃ g : Group, g.lead <+: c.symbols ∧ Group.read c = .ok (g, c.skip g.lead.length)) ∨
      (∀ g : Group, ¬ g.lead <+: c.symbols) ∧ Group.read c = .error (.facing .group c) := by
  rcases c.select?_cases table with ⟨pattern, g, hm, hb, he⟩ | ⟨hnone, he⟩
  · left
    obtain ⟨g', -, hg⟩ := List.mem_map.mp hm
    cases hg
    exact ⟨g, hb, by rw [read, he]⟩
  · right
    refine ⟨?_, by rw [read, he]⟩
    intro g
    exact hnone g.lead g (List.mem_map_of_mem g.mem_all)

theorem Operation.read_cases (g : Group) (c : Cursor) :
    (∃ op : Operation, op.group = g ∧ op.code <+: c.symbols ∧
      Operation.read g c = .ok (op, c.skip op.code.length)) ∨
      (∀ op : Operation, op.group = g → ¬ op.code <+: c.symbols) ∧
        Operation.read g c = .error (.facing (.operation g) c) := by
  rcases c.select?_cases g.codeTable with ⟨pattern, op, hm, hb, he⟩ | ⟨hnone, he⟩
  · left
    obtain ⟨op', hop, hcode⟩ := List.mem_map.mp hm
    cases hcode
    exact ⟨op, (op.mem_operations_iff g).mp hop, hb, by rw [read, he]⟩
  · right
    refine ⟨?_, by rw [read, he]⟩
    intro op hg
    exact hnone op.code op (List.mem_map_of_mem ((op.mem_operations_iff g).mpr hg))

theorem Operand.exists_run {kind : ParameterKind} {operand : List Symbol} {a : Option Parameter}
    (h : Operand (some kind) operand a) :
    ∃ run, Symbol.IsRun run ∧ operand = run ++ [.lineFeed] := by
  cases h with
  | number run hr => exact ⟨run, hr, rfl⟩
  | label run hr => exact ⟨run, hr, rfl⟩

theorem Parameter.operand_of_run (kind : ParameterKind) {run : List Symbol}
    (hr : Symbol.IsRun run) :
    ∃ a, ofRun? kind run = some a ∧ Operand (some kind) (run ++ [.lineFeed]) (some a) := by
  cases kind with
  | number =>
    refine ⟨.number (Literal.reading run), ?_, .number run hr⟩
    rw [ofRun?, Literal.decode?_eq_reading hr]
    rfl
  | label => exact ⟨.label ⟨run⟩, rfl, .label run hr⟩

theorem Parameter.read_cases (op : Operation) (c : Cursor) :
    (∃ operand a, Operand op.parameterKind? operand a ∧ operand <+: c.symbols ∧
      Parameter.read op c = .ok (a, c.skip operand.length)) ∨
      (∀ operand a, Operand op.parameterKind? operand a → ¬ operand <+: c.symbols) ∧
        Parameter.read op c = .error (.facing (.parameter op) c) := by
  cases hk : op.parameterKind? with
  | none => exact Or.inl ⟨[], none, .absent, List.nil_prefix, by rw [read, hk]; rfl⟩
  | some kind =>
    rcases c.parameter?_cases with ⟨run, hrun, hb, he⟩ | ⟨hnone, he⟩
    · obtain ⟨a, ha, hoperand⟩ := operand_of_run kind hrun
      refine Or.inl ⟨_, some a, hoperand, hb, ?_⟩
      simp only [read, hk, he, ha]
    · refine Or.inr ⟨?_, by simp only [read, hk, he]⟩
      intro operand a hoperand
      obtain ⟨run, hrun, rfl⟩ := hoperand.exists_run
      exact hnone run hrun

namespace SyntaxError.Layer

/-- The symbols before the ones that a layer reads. -/
def passed : Layer → List Symbol
  | .group => []
  | .operation g => g.lead
  | .parameter op => op.opening

/-- The layer is the first that does not match the text. -/
def Fails : Layer → List Symbol → Prop
  | .group, r => ∀ g : Group, ¬ g.lead <+: r
  | .operation g, r => ∃ rest, r = g.lead ++ rest ∧
      ∀ op : Operation, op.group = g → ¬ op.code <+: rest
  | .parameter op, r => ∃ rest, r = op.opening ++ rest ∧
      ∀ operand a, Operand op.parameterKind? operand a → ¬ operand <+: rest

theorem Fails.begins {layer : Layer} {r : List Symbol} (h : layer.Fails r) :
    layer.passed <+: r := by
  cases layer with
  | group => exact List.nil_prefix
  | operation g =>
    obtain ⟨rest, rfl, -⟩ := h
    exact List.prefix_append _ _
  | parameter op =>
    obtain ⟨rest, rfl, -⟩ := h
    exact List.prefix_append _ _

theorem Fails.eq_parameter {layer : Layer} {op : Operation} {rest : List Symbol}
    (h : layer.Fails (op.opening ++ rest)) : layer = .parameter op := by
  cases layer with
  | group =>
    refine absurd ?_ (h op.group)
    rw [Operation.opening, List.append_assoc]
    exact List.prefix_append _ _
  | operation g =>
    obtain ⟨rest', he, hnone⟩ := h
    have hb : g.lead <+: op.opening ++ rest := ⟨rest', he.symm⟩
    rw [Operation.opening, List.append_assoc] at hb he
    obtain rfl := Group.eq_of_begins hb (List.prefix_append op.group.lead _)
    refine absurd ?_ (hnone op rfl)
    rw [← List.append_cancel_left he]
    exact List.prefix_append _ _
  | parameter op' =>
    obtain ⟨rest', he, -⟩ := h
    rw [(Operation.eq_of_opening he).1]

theorem Fails.eq_operation {layer : Layer} {g : Group} {rest : List Symbol}
    (hg : Fails (.operation g) (g.lead ++ rest)) (h : layer.Fails (g.lead ++ rest)) :
    layer = .operation g := by
  cases layer with
  | group => exact absurd (List.prefix_append _ _) (h g)
  | operation g' =>
    obtain ⟨rest', he, -⟩ := h
    have hb : g'.lead <+: g.lead ++ rest := ⟨rest', he.symm⟩
    rw [Group.eq_of_begins hb (List.prefix_append _ _)]
  | parameter op =>
    obtain ⟨rest', he, -⟩ := h
    rw [he] at hg
    exact hg.eq_parameter.symm

theorem Fails.unique {layer layer' : Layer} {r : List Symbol} (h : layer.Fails r)
    (h' : layer'.Fails r) : layer = layer' := by
  cases layer with
  | parameter op =>
    obtain ⟨rest, rfl, -⟩ := h
    exact h'.eq_parameter.symm
  | operation g =>
    obtain ⟨rest, rfl, -⟩ := id h
    exact (h.eq_operation h').symm
  | group =>
    cases layer' with
    | group => rfl
    | operation g =>
      obtain ⟨rest, rfl, -⟩ := h'
      exact absurd (List.prefix_append _ _) (h g)
    | parameter op =>
      obtain ⟨rest, rfl, -⟩ := h'
      exact h.eq_parameter

theorem Fails.stuck {layer : Layer} {r : List Symbol} (h : layer.Fails r) : Piece.Stuck r := by
  intro p hp
  obtain ⟨operand, hs, hoperand⟩ := p.sound
  obtain ⟨rest, rfl⟩ := hp
  rw [hs, List.append_assoc] at h
  obtain rfl := h.eq_parameter
  obtain ⟨rest', he, hnone⟩ := h
  refine hnone operand _ hoperand ?_
  rw [← (Operation.eq_of_opening he).2]
  exact List.prefix_append _ _

end SyntaxError.Layer

open SyntaxError (Layer)

/-- Reading passes a written instruction, or it stops at the layer that fails. -/
theorem Instruction.read_cases (c : Cursor) :
    (∃ p : Piece, p.symbols <+: c.symbols ∧
      Instruction.read c =
        .ok (⟨p.code.1, p.code.2, c.location⟩, c.skip p.symbols.length)) ∨
    ∃ layer : Layer, layer.Fails c.symbols ∧
      Instruction.read c = .error (.facing layer (c.skip layer.passed.length)) := by
  rcases Group.read_cases c with ⟨g, ⟨r₁, hr₁⟩, hg⟩ | ⟨hnone, hg⟩
  · have hs₁ := Cursor.symbols_skip_append hr₁.symm
    rcases Operation.read_cases g (c.skip g.lead.length) with
      ⟨op, rfl, ⟨r₂, hr₂⟩, ho⟩ | ⟨hnone, ho⟩
    · rw [hs₁] at hr₂
      have hskip :
          (c.skip op.group.lead.length).skip op.code.length = c.skip op.opening.length := by
        rw [Cursor.skip_skip, Operation.opening, List.length_append]
      have hopening : op.opening ++ r₂ = c.symbols := by
        rw [Operation.opening, List.append_assoc, hr₂, hr₁]
      have hs₂ := Cursor.symbols_skip_append hopening.symm
      rw [hskip] at ho
      rcases Parameter.read_cases op (c.skip op.opening.length) with
        ⟨operand, a, hoperand, ⟨r₃, hr₃⟩, hp⟩ | ⟨hnone, hp⟩
      · left
        rw [hs₂] at hr₃
        refine ⟨⟨op.opening ++ operand, (op, a), operand, rfl, hoperand⟩, ⟨r₃, ?_⟩, ?_⟩
        · rw [List.append_assoc, hr₃, hopening]
        · simp only [read, hg, ho, hp, Cursor.skip_skip, List.length_append]
      · right
        rw [hs₂] at hnone
        refine ⟨.parameter op, ⟨r₂, hopening.symm, hnone⟩, ?_⟩
        simp only [read, hg, ho, hp]
        rfl
    · right
      rw [hs₁] at hnone
      refine ⟨.operation g, ⟨r₁, hr₁.symm, hnone⟩, ?_⟩
      simp only [read, hg, ho]
      rfl
  · right
    refine ⟨.group, hnone, ?_⟩
    simp only [read, hg]
    rfl

theorem Program.readAll_cases (c : Cursor) :
    ∃ ps : List Piece,
      (c.symbols = Piece.spelling ps ∧
        ∃ is, readAll c = .ok is ∧ is.map Instruction.code = ps.map Piece.code) ∨
      ∃ (r : List Symbol) (layer : Layer), c.symbols = Piece.spelling ps ++ r ∧ r ≠ [] ∧
        layer.Fails r ∧
        readAll c = .error (.facing layer (c.skip (Piece.spelling ps ++ layer.passed).length)) := by
  by_cases hend : c.atEnd = true
  · refine ⟨[], Or.inl ⟨Cursor.atEnd_iff.mp hend, [], ?_, rfl⟩⟩
    rw [readAll, if_pos hend]
  · rcases Instruction.read_cases c with ⟨p, ⟨w, hw⟩, hread⟩ | ⟨layer, hfails, hread⟩
    · have hrest := Cursor.symbols_skip_append hw.symm
      have hshorter := Instruction.length_of_read hread
      have hall : readAll c = (readAll (c.skip p.symbols.length)).map
          (⟨p.code.1, p.code.2, c.location⟩ :: ·) := by
        rw [readAll, if_neg hend]
        split
        · next e he =>
          rw [hread] at he
          cases he
        · next he =>
          rw [hread] at he
          cases he
          rfl
      obtain ⟨ps, ⟨hs, is, his, hcodes⟩ | ⟨r, layer, hs, hne, hfails, hre⟩⟩ :=
        readAll_cases (c.skip p.symbols.length)
      · rw [hrest] at hs
        refine ⟨p :: ps, Or.inl ⟨?_, _ :: is, by rw [hall, his]; rfl, ?_⟩⟩
        · rw [← hw, hs]
          rfl
        · rw [List.map_cons, List.map_cons, hcodes]
          rfl
      · rw [hrest] at hs
        refine ⟨p :: ps, Or.inr ⟨r, layer, ?_, hne, hfails, ?_⟩⟩
        · rw [← hw, hs]
          exact (List.append_assoc _ _ _).symm
        · rw [hall, hre, Cursor.skip_skip, ← List.length_append, ← List.append_assoc]
          rfl
    · refine ⟨[], Or.inr ⟨c.symbols, layer, rfl, ?_, hfails, ?_⟩⟩
      · intro h
        exact hend (Cursor.atEnd_iff.mpr h)
      · rw [readAll, if_neg hend]
        split
        · next e he =>
          rw [hread] at he
          cases he
          rfl
        · next he =>
          rw [hread] at he
          cases he
termination_by c.rest.length

theorem Program.code_ofList (is : List Instruction) :
    (ofList is).code = is.map Instruction.code := by
  rw [code, ofList]

theorem Program.read_of_spelling {source : String} {ps : List Piece}
    (h : Symbol.ofText source.toList = Piece.spelling ps) :
    ∃ p, Program.read source = .ok p ∧ p.code = ps.map Piece.code := by
  have hsymbols : (Cursor.ofString source).symbols = Piece.spelling ps :=
    (Cursor.symbols_ofText _).trans h
  obtain ⟨qs, ⟨hs, is, his, hcodes⟩ | ⟨r, layer, hs, hne, hfails, -⟩⟩ :=
    readAll_cases (Cursor.ofString source)
  · have hcut : Piece.spelling ps ++ [] = Piece.spelling qs ++ [] := by rw [← hsymbols, hs]
    obtain ⟨rfl, -⟩ := Piece.spelling_unique Piece.stuck_nil Piece.stuck_nil hcut
    exact ⟨ofList is, by rw [read, his]; rfl, by rw [code_ofList, hcodes]⟩
  · have hcut : Piece.spelling ps ++ [] = Piece.spelling qs ++ r := by
      rw [List.append_nil, ← hsymbols, hs]
    exact absurd (Piece.spelling_unique Piece.stuck_nil hfails.stuck hcut).2.symm hne

theorem Program.spelling_of_read {source : String} {p : Program}
    (h : Program.read source = .ok p) :
    ∃ ps : List Piece, Symbol.ofText source.toList = Piece.spelling ps ∧
      p.code = ps.map Piece.code := by
  obtain ⟨ps, ⟨hs, is, his, hcodes⟩ | ⟨r, layer, -, -, -, he⟩⟩ :=
    readAll_cases (Cursor.ofString source)
  · rw [read, his] at h
    cases h
    exact ⟨ps, (Cursor.symbols_ofText _).symm.trans hs, by rw [code_ofList, hcodes]⟩
  · rw [read, he] at h
    cases h

/-! The words of the errors. -/

theorem Symbol.isRun_begins_iff {rest : List Symbol} :
    (∀ run, IsRun run → ¬ run ++ [.lineFeed] <+: rest) ↔
      rest = [] ∨ rest.head? = some .lineFeed ∨ .lineFeed ∉ rest := by
  constructor
  · intro h
    by_cases hm : Symbol.lineFeed ∈ rest
    · obtain ⟨run, tail, rfl, hfree⟩ := List.eq_append_cons_of_mem hm
      cases run with
      | nil => exact Or.inr (Or.inl rfl)
      | cons s run =>
        refine absurd ?_ (h (s :: run) ⟨List.cons_ne_nil s run, hfree⟩)
        exact ⟨tail, List.append_assoc _ _ _⟩
    · exact Or.inr (Or.inr hm)
  · rintro h run ⟨hne, hfree⟩ ⟨tail, rfl⟩
    rcases h with h | h | h
    · simp at h
    · obtain ⟨s, run, rfl⟩ := List.exists_cons_of_ne_nil hne
      simp only [List.cons_append, List.head?_cons, Option.some.injEq] at h
      rw [h] at hfree
      exact hfree List.mem_cons_self
    · simp at h

theorem Cursor.lookahead_eq (c : Cursor) (n : Nat) :
    c.lookahead n =
      if c.symbols = [] then "end of input" else Symbol.letters (c.symbols.take n) := by
  rw [lookahead]
  split
  · next h => rw [symbols, h, List.map_nil, if_pos rfl]
  · next m rest h =>
    have hne : c.symbols ≠ [] := by simp [symbols, h]
    rw [if_neg hne, symbols, List.map_take]

namespace SyntaxError.Layer

variable {r : List Symbol}

theorem fails_group_iff (hne : r ≠ []) : Fails .group r ↔ r = [.tab] := by
  constructor
  · intro h
    have hlead : ∀ (g : Group) (rest : List Symbol), r ≠ g.lead ++ rest := by
      rintro g rest rfl
      exact h g (List.prefix_append _ _)
    match r with
    | [] => exact absurd rfl hne
    | .space :: rest => exact absurd rfl (hlead .stack rest)
    | .lineFeed :: rest => exact absurd rfl (hlead .flow rest)
    | [.tab] => rfl
    | .tab :: .space :: rest => exact absurd rfl (hlead .arithmetic rest)
    | .tab :: .tab :: rest => exact absurd rfl (hlead .heap rest)
    | .tab :: .lineFeed :: rest => exact absurd rfl (hlead .io rest)
  · rintro rfl g
    cases g <;> decide

theorem fails_parameter_iff (hr : Piece.Stuck r) (op : Operation) :
    Fails (.parameter op) r ↔ ∃ rest, r = op.opening ++ rest ∧
      (rest = [] ∨ rest.head? = some .lineFeed ∨ .lineFeed ∉ rest) := by
  constructor
  · rintro ⟨rest, rfl, hnone⟩
    refine ⟨rest, rfl, Symbol.isRun_begins_iff.mp ?_⟩
    intro run hrun
    cases hk : op.parameterKind? with
    | none =>
      rw [hk] at hnone
      exact absurd List.nil_prefix (hnone [] none .absent)
    | some kind =>
      obtain ⟨a, -, hoperand⟩ := Parameter.operand_of_run kind hrun
      rw [hk] at hnone
      exact hnone _ _ hoperand
  · rintro ⟨rest, rfl, -⟩
    refine ⟨rest, rfl, ?_⟩
    intro operand a hoperand hb
    refine hr ⟨op.opening ++ operand, (op, a), operand, rfl, hoperand⟩ ?_
    exact (List.prefix_append_right_inj op.opening).mpr hb

end SyntaxError.Layer

/-- Reading accepts the texts that are cut into written instructions, and gives these. Any other
text is cut up to a rest that begins with none, and the error tells what it lacks and where. -/
theorem read_follows_grammar (source : String) :
    let w := Symbol.ofText source.toList
    (∀ codes, (∃ p, Program.read source = .ok p ∧ p.code = codes) ↔
      ∃ ps, w = Piece.spelling ps ∧ ps.map Piece.code = codes) ∧
    (∀ ps qs, w = Piece.spelling ps → w = Piece.spelling qs → ps = qs) ∧
    ((¬ ∃ ps, w = Piece.spelling ps) →
      ∃ ps r e, (w = Piece.spelling ps ++ r ∧ r ≠ [] ∧ Piece.Stuck r) ∧
        (∀ ps' r', w = Piece.spelling ps' ++ r' → Piece.Stuck r' → ps' = ps ∧ r' = r) ∧
        Program.read source = .error e ∧
        (e.layer = .group ↔ r = [.tab]) ∧
        (∀ g, e.layer = .operation g ↔ ∃ rest, r = g.lead ++ rest ∧
          ∀ op : Operation, op.group = g → ¬ op.code <+: rest) ∧
        (∀ op, e.layer = .parameter op ↔ ∃ rest, r = op.opening ++ rest ∧
          (rest = [] ∨ rest.head? = some .lineFeed ∨ .lineFeed ∉ rest)) ∧
        ∃ seen left, source.toList = seen ++ left ∧
          Symbol.ofText seen = Piece.spelling ps ++ e.layer.passed ∧ Symbol.Leads left ∧
          e.location = Location.first.advanceAll seen ∧
          e.found = if Symbol.ofText left = [] then "end of input"
            else Symbol.letters ((Symbol.ofText left).take 8)) := by
  intro w
  refine ⟨?_, ?_, ?_⟩
  · intro codes
    constructor
    · rintro ⟨p, hp, rfl⟩
      obtain ⟨ps, hs, hcodes⟩ := Program.spelling_of_read hp
      exact ⟨ps, hs, hcodes.symm⟩
    · rintro ⟨ps, hs, rfl⟩
      exact Program.read_of_spelling hs
  · intro ps qs hp hq
    have hcut : Piece.spelling ps ++ [] = Piece.spelling qs ++ [] := by rw [← hp, ← hq]
    exact (Piece.spelling_unique Piece.stuck_nil Piece.stuck_nil hcut).1
  · intro hcut
    have hw : (Cursor.ofString source).symbols = w := Cursor.symbols_ofText _
    obtain ⟨ps, ⟨hs, -⟩ | ⟨r, layer, hs, hne, hfails, he⟩⟩ :=
      Program.readAll_cases (Cursor.ofString source)
    · exact absurd ⟨ps, hw.symm.trans hs⟩ hcut
    · have hlayer : ∀ layer', layer = layer' ↔ layer'.Fails r := by
        intro layer'
        constructor
        · rintro rfl
          exact hfails
        · exact hfails.unique
      obtain ⟨rest, hrest⟩ := hfails.begins
      have htaken : w = Piece.spelling ps ++ layer.passed ++ rest := by
        rw [← hw, hs, List.append_assoc, hrest]
      obtain ⟨seen, left, htext, hseen, hleads, hlocation, hleft⟩ := Cursor.skip_ofText htaken
      refine ⟨ps, r, _, ⟨hw.symm.trans hs, hne, hfails.stuck⟩, ?_, by rw [Program.read, he]; rfl,
        ?_, ?_, ?_, seen, left, htext, hseen, hleads, hlocation, ?_⟩
      · intro ps' r' hs' hr'
        exact Piece.spelling_unique hr' hfails.stuck (hs'.symm.trans (hw.symm.trans hs))
      · exact (hlayer .group).trans (SyntaxError.Layer.fails_group_iff hne)
      · intro g
        exact hlayer (.operation g)
      · intro op
        exact (hlayer (.parameter op)).trans
          (SyntaxError.Layer.fails_parameter_iff hfails.stuck op)
      · rw [← hleft]
        exact Cursor.lookahead_eq _ _

end Backstep
