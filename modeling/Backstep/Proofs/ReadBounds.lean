import Backstep.Proofs.Bounds
import Backstep.Proofs.Reading

/-! Reading by number. A scanner keeps all marks of a text and the number of those
that are passed, and cuts what it looks at out of the text. Wherever it stands its
cuts are in range, and it reads what a cursor there reads. -/
namespace Backstep

open Checked

theorem Program.readAll_of_more {c : Cursor} (h : ¬ c.atEnd = true) :
    readAll c = (Instruction.read c).bind fun r => (readAll r.2).map (r.1 :: ·) := by
  rw [readAll, if_neg h]
  split
  · next e he =>
    rw [he]
    rfl
  · next he =>
    dsimp only
    rw [he]
    rfl

structure Scanner where
  marks : List Mark
  position : Nat := 0
  stop : Location

namespace Scanner

variable {α : Type}

def ofString (source : String) : Scanner where
  marks := Mark.ofText Location.first source.toList
  stop := Location.first.advanceAll source.toList

def atEnd (s : Scanner) : Bool :=
  s.marks.length ≤ s.position

def location (s : Scanner) : Location :=
  (s.marks[s.position]?.map Mark.location).getD s.stop

def pass (s : Scanner) (n : Nat) : Scanner :=
  { s with position := s.position + n }

def remaining? (s : Scanner) : Option (List Mark) :=
  slice? (min s.position s.marks.length) s.marks.length s.marks

def scan? (pattern : List Symbol) (s : Scanner) : Option (Option Scanner) :=
  s.remaining?.map fun rest =>
    if pattern <+: rest.map Mark.symbol then some (s.pass pattern.length) else none

def select? : List (List Symbol × α) → Scanner → Option (Option (α × Scanner))
  | [], _ => some none
  | (pattern, a) :: table, s =>
    (s.scan? pattern).bind fun
      | some s' => some (some (a, s'))
      | none => select? table s

def parameter? (s : Scanner) : Option (Option (List Symbol × Scanner)) :=
  s.remaining?.bind fun rest =>
    let run := (rest.takeWhile fun m => m.symbol ≠ .lineFeed).length
    if run = 0 ∨ rest[run]?.map Mark.symbol ≠ some .lineFeed then some none
    else (slice? 0 run rest).map fun taken => some (taken.map Mark.symbol, s.pass (run + 1))

def lookahead (n : Nat) (s : Scanner) : Option String :=
  s.remaining?.bind fun rest =>
    if rest = [] then some "end of input"
    else (slice? 0 (min rest.length n) rest).map fun next => Symbol.letters (next.map Mark.symbol)

/-! The layers of reading. A run that a number cannot be read from has no place here. -/

def facing (layer : SyntaxError.Layer) (s : Scanner) : Option SyntaxError :=
  (s.lookahead SyntaxError.context).map fun found => ⟨layer, found, s.location⟩

def readEntry (table : List (List Symbol × α)) (layer : SyntaxError.Layer) (s : Scanner) :
    Option (Except SyntaxError (α × Scanner)) :=
  (s.select? table).bind fun
    | some found => some (.ok found)
    | none => (s.facing layer).map .error

def readParameter (op : Operation) (s : Scanner) :
    Option (Except SyntaxError (Option Parameter × Scanner)) :=
  match op.parameterKind? with
  | none => some (.ok (none, s))
  | some kind =>
    s.parameter?.bind fun
      | none => (s.facing (.parameter op)).map .error
      | some (run, s') => (Parameter.ofRun? kind run).map fun p => .ok (some p, s')

def readInstruction (s : Scanner) : Option (Except SyntaxError (Instruction × Scanner)) :=
  (s.readEntry Group.table .group).bind fun
    | .error e => some (.error e)
    | .ok (g, s₁) =>
      (s₁.readEntry g.codeTable (.operation g)).bind fun
        | .error e => some (.error e)
        | .ok (op, s₂) =>
          (s₂.readParameter op).map fun
            | .error e => .error e
            | .ok (p, s₃) => .ok (⟨op, p, s.location⟩, s₃)

/-! What a cursor at the same place does. -/

def cursor (s : Scanner) : Cursor :=
  ⟨s.marks.drop s.position, s.stop⟩

/-- What was read, and the cursor behind it. -/
def behind (r : α × Scanner) : α × Cursor :=
  (r.1, r.2.cursor)

@[simp] theorem cursor_pass (s : Scanner) (n : Nat) : (s.pass n).cursor = s.cursor.skip n := by
  simp only [cursor, pass, Cursor.skip, List.drop_drop]

theorem remaining?_eq (s : Scanner) : s.remaining? = some s.cursor.rest := by
  have hin : min s.position s.marks.length ≤ s.marks.length := Nat.min_le_right _ _
  rw [remaining?, slice?, if_pos ⟨hin, Nat.le_refl _⟩, List.take_length]
  rcases Nat.le_total s.position s.marks.length with h | h
  · rw [Nat.min_eq_left h]
    rfl
  · rw [Nat.min_eq_right h, cursor, List.drop_length, List.drop_eq_nil_of_le h]

theorem atEnd_eq (s : Scanner) : s.atEnd = s.cursor.atEnd := by
  rw [atEnd, cursor, Cursor.atEnd, Bool.eq_iff_iff]
  simp

theorem location_eq (s : Scanner) : s.location = s.cursor.location := by
  rw [location, cursor, Cursor.location, ← List.head?_drop]
  cases s.marks.drop s.position <;> rfl

theorem scan?_eq (pattern : List Symbol) (s : Scanner) :
    ∃ r, s.scan? pattern = some r ∧ s.cursor.scan? pattern = r.map cursor := by
  rw [scan?, remaining?_eq, Option.map_some]
  refine ⟨_, rfl, ?_⟩
  rcases s.cursor.scan?_cases pattern with ⟨hb, hs⟩ | ⟨hb, hs⟩
  · have hb' : pattern <+: s.cursor.rest.map Mark.symbol := hb
    rw [hs, if_pos hb', Option.map_some, cursor_pass]
  · have hb' : ¬ pattern <+: s.cursor.rest.map Mark.symbol := hb
    rw [hs, if_neg hb', Option.map_none]

theorem select?_eq (table : List (List Symbol × α)) (s : Scanner) :
    ∃ r, s.select? table = some r ∧ s.cursor.select? table = r.map behind := by
  induction table with
  | nil => exact ⟨none, rfl, rfl⟩
  | cons entry table ih =>
    obtain ⟨pattern, a⟩ := entry
    obtain ⟨found, hs, hc⟩ := s.scan?_eq pattern
    rw [select?, Cursor.select?, hs, hc]
    cases found with
    | none => exact ih
    | some t => exact ⟨some (a, t), rfl, rfl⟩

/-- The marks before the first line feed, and whether there is one. -/
theorem untilLineFeed?_eq (rest : List Mark) :
    let taken := rest.takeWhile fun m => m.symbol ≠ .lineFeed
    Mark.untilLineFeed? rest =
      if rest[taken.length]?.map Mark.symbol = some .lineFeed then
        some (taken.map Mark.symbol, rest.drop (taken.length + 1))
      else none := by
  induction rest with
  | nil => rfl
  | cons m rest ih =>
    by_cases hm : m.symbol = .lineFeed
    · simp [Mark.untilLineFeed?, hm]
    · simp only [Mark.untilLineFeed?, hm, if_false, ih]
      simp only [ne_eq, decide_not, List.takeWhile_cons, hm, decide_false, Bool.not_false, if_true,
        List.length_cons, List.getElem?_cons_succ, List.map_cons, List.drop_succ_cons]
      split <;> rfl

theorem parameter?_eq (s : Scanner) :
    ∃ r, s.parameter? = some r ∧ s.cursor.parameter? = r.map behind := by
  have huntil := untilLineFeed?_eq s.cursor.rest
  rw [parameter?, remaining?_eq, Option.bind_some, Cursor.parameter?]
  dsimp only at huntil ⊢
  generalize hrest : s.cursor.rest = rest at huntil ⊢
  generalize htaken : (rest.takeWhile fun m => m.symbol ≠ .lineFeed) = taken at huntil ⊢
  rw [huntil]
  by_cases hfeed : rest[taken.length]?.map Mark.symbol = some .lineFeed
  · rw [if_pos hfeed]
    cases htk : taken with
    | nil => exact ⟨none, if_pos (Or.inl rfl), rfl⟩
    | cons m run =>
      have hslice : slice? 0 taken.length rest = some taken := by
        have hsplit : taken ++ rest.dropWhile (fun m => m.symbol ≠ .lineFeed) = rest := by
          rw [← htaken, List.takeWhile_append_dropWhile]
        have happend := slice?_append taken (rest.dropWhile fun m => m.symbol ≠ .lineFeed)
        rw [hsplit] at happend
        exact happend
      rw [htk] at hfeed hslice
      have hnot : ¬ ((m :: run).length = 0 ∨
          rest[(m :: run).length]?.map Mark.symbol ≠ some .lineFeed) :=
        fun h => h.elim (Nat.succ_ne_zero _) fun hne => hne hfeed
      rw [if_neg hnot, hslice, Option.map_some]
      refine ⟨_, rfl, ?_⟩
      rw [Option.map_some, behind, cursor_pass, Cursor.skip, hrest]
      rfl
  · rw [if_neg hfeed, if_pos (Or.inr hfeed)]
    exact ⟨none, rfl, rfl⟩

theorem lookahead_eq (n : Nat) (s : Scanner) : s.lookahead n = some (s.cursor.lookahead n) := by
  rw [lookahead, remaining?_eq, Option.bind_some, Cursor.lookahead]
  cases s.cursor.rest with
  | nil => rfl
  | cons m rest =>
    have hin : min (m :: rest).length n ≤ (m :: rest).length := Nat.min_le_left _ _
    rw [if_neg (List.cons_ne_nil m rest), slice?, if_pos ⟨Nat.zero_le _, hin⟩, Option.map_some,
      List.drop_zero, Nat.min_comm, ← List.take_eq_take_min]

theorem facing_eq (layer : SyntaxError.Layer) (s : Scanner) :
    s.facing layer = some (.facing layer s.cursor) := by
  rw [facing, lookahead_eq, Option.map_some, location_eq]
  rfl

theorem readEntry_eq (table : List (List Symbol × α)) (layer : SyntaxError.Layer) (s : Scanner) :
    ∃ r, s.readEntry table layer = some r ∧
      (s.cursor.select? table).elim (.error (.facing layer s.cursor)) .ok = r.map behind := by
  obtain ⟨found, hs, hc⟩ := s.select?_eq table
  rw [readEntry, hs, hc, Option.bind_some]
  cases found with
  | none =>
    dsimp only
    rw [facing_eq]
    exact ⟨_, rfl, rfl⟩
  | some found => exact ⟨_, rfl, rfl⟩

theorem readGroup_eq (s : Scanner) :
    ∃ r, s.readEntry Group.table .group = some r ∧ Group.read s.cursor = r.map behind := by
  obtain ⟨r, hs, hc⟩ := s.readEntry_eq Group.table .group
  refine ⟨r, hs, ?_⟩
  rw [← hc, Group.read]
  cases s.cursor.select? Group.table <;> rfl

theorem readOperation_eq (g : Group) (s : Scanner) :
    ∃ r, s.readEntry g.codeTable (.operation g) = some r ∧
      Operation.read g s.cursor = r.map behind := by
  obtain ⟨r, hs, hc⟩ := s.readEntry_eq g.codeTable (.operation g)
  refine ⟨r, hs, ?_⟩
  rw [← hc, Operation.read]
  cases s.cursor.select? g.codeTable <;> rfl

/-- A run that was scanned is a number and a label. -/
theorem exists_ofRun? {c c' : Cursor} {run : List Symbol} (h : c.parameter? = some (run, c'))
    (kind : ParameterKind) : ∃ p, Parameter.ofRun? kind run = some p := by
  rcases c.parameter?_cases with ⟨found, hrun, -, hp⟩ | ⟨-, hp⟩
  · rw [hp] at h
    cases h
    obtain ⟨p, hp, -⟩ := Parameter.operand_of_run kind hrun
    exact ⟨p, hp⟩
  · rw [hp] at h
    cases h

theorem readParameter_eq (op : Operation) (s : Scanner) :
    ∃ r, s.readParameter op = some r ∧ Parameter.read op s.cursor = r.map behind := by
  rw [readParameter, Parameter.read]
  cases op.parameterKind? with
  | none => exact ⟨_, rfl, rfl⟩
  | some kind =>
    obtain ⟨found, hs, hc⟩ := s.parameter?_eq
    dsimp only
    cases found with
    | none =>
      rw [hs, hc, Option.bind_some, facing_eq]
      exact ⟨_, rfl, rfl⟩
    | some found =>
      obtain ⟨p, hp⟩ := exists_ofRun? hc kind
      rw [hs, hc]
      change ∃ r, (Parameter.ofRun? kind found.1).map _ = some r ∧ _
      dsimp only [Option.map_some, behind] at hp ⊢
      rw [hp]
      exact ⟨_, rfl, rfl⟩

theorem readInstruction_eq (s : Scanner) :
    ∃ r, s.readInstruction = some r ∧ Instruction.read s.cursor = r.map behind := by
  rw [readInstruction, Instruction.read]
  obtain ⟨r, hs, hc⟩ := s.readGroup_eq
  rw [hs, hc]
  cases r with
  | error e => exact ⟨_, rfl, rfl⟩
  | ok found =>
    obtain ⟨g, s₁⟩ := found
    obtain ⟨r, hs, hc⟩ := s₁.readOperation_eq g
    dsimp only [Option.bind_some, Except.map, behind]
    rw [hs, hc]
    cases r with
    | error e => exact ⟨_, rfl, rfl⟩
    | ok found =>
      obtain ⟨op, s₂⟩ := found
      obtain ⟨r, hs, hc⟩ := s₂.readParameter_eq op
      dsimp only [Option.bind_some, Except.map, behind]
      rw [hs, hc, ← s.location_eq]
      cases r with
      | error e => exact ⟨_, rfl, rfl⟩
      | ok found => exact ⟨_, rfl, rfl⟩

theorem length_of_readInstruction {s s' : Scanner} {i : Instruction}
    (h : s.readInstruction = some (.ok (i, s'))) :
    s'.cursor.rest.length < s.cursor.rest.length := by
  obtain ⟨r, hs, hc⟩ := s.readInstruction_eq
  rw [hs] at h
  cases h
  exact Instruction.length_of_read hc

/-- The instructions from the scanner to the end of the text. -/
def readAll (s : Scanner) : Option (Except SyntaxError (List Instruction)) :=
  if s.atEnd then some (.ok [])
  else
    match h : s.readInstruction with
    | none => none
    | some (.error e) => some (.error e)
    | some (.ok (i, s')) =>
      have : s'.cursor.rest.length < s.cursor.rest.length := length_of_readInstruction h
      (readAll s').map (Except.map (i :: ·))
termination_by s.cursor.rest.length

theorem readAll_eq (s : Scanner) : s.readAll = some (Program.readAll s.cursor) := by
  fun_induction readAll s with
  | case1 s hend =>
    rw [atEnd_eq] at hend
    rw [Program.readAll, if_pos hend]
  | case2 s hend hs =>
    obtain ⟨r, hs', -⟩ := s.readInstruction_eq
    rw [hs] at hs'
    cases hs'
  | case3 s hend e hs =>
    obtain ⟨r, hs', hc⟩ := s.readInstruction_eq
    rw [hs] at hs'
    cases hs'
    rw [atEnd_eq] at hend
    rw [Program.readAll_of_more hend, hc]
    rfl
  | case4 s hend i s' hs _ ih =>
    obtain ⟨r, hs', hc⟩ := s.readInstruction_eq
    rw [hs] at hs'
    cases hs'
    rw [atEnd_eq] at hend
    rw [Program.readAll_of_more hend, hc, ih]
    rfl

def readProgram (source : String) : Option (Except SyntaxError Program) :=
  (ofString source).readAll.map (Except.map .ofList)

theorem readProgram_eq (source : String) : readProgram source = some (Program.read source) := by
  rw [readProgram, readAll_eq, Option.map_some]
  rfl

end Scanner
end Backstep
