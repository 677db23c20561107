import Backstep.Program.Instruction
import Backstep.Source.Cursor

/-!
# Reading programs

Reading an instruction takes three layers: the lead of a group, the code of one
of its operations and, where the operation has one, a parameter. The first
layer that does not match ends the reading with a syntax error at the symbol
where the layer began.
-/
namespace Backstep

inductive SyntaxError.Layer where
  | group
  | operation (group : Group)
  | parameter (operation : Operation)
  deriving DecidableEq

structure SyntaxError where
  layer : SyntaxError.Layer
  /-- The next few symbols, as letters. -/
  found : String
  location : Location
  deriving DecidableEq

namespace SyntaxError

def context : Nat := 8

def facing (layer : Layer) (c : Cursor) : SyntaxError :=
  ⟨layer, c.lookahead context, c.location⟩

def Layer.text : Layer → String
  | .group => "invalid instruction group"
  | .operation g => s!"invalid {g.name} operation"
  | .parameter op => s!"invalid parameter for '{op.name}'"

def message (e : SyntaxError) : String :=
  s!"Lexer error at line {e.location.line}, column {e.location.column}: " ++
    s!"{e.layer.text} (found {e.found})"

end SyntaxError

namespace Group

def table : List (List Symbol × Group) :=
  all.map fun g => (g.lead, g)

def codeTable (g : Group) : List (List Symbol × Operation) :=
  g.operations.map fun op => (op.code, op)

def read (c : Cursor) : Except SyntaxError (Group × Cursor) :=
  match c.select? table with
  | some r => .ok r
  | none => .error (.facing .group c)

end Group

namespace Operation

def read (g : Group) (c : Cursor) : Except SyntaxError (Operation × Cursor) :=
  match c.select? g.codeTable with
  | some r => .ok r
  | none => .error (.facing (.operation g) c)

end Operation

namespace Parameter

def ofRun? : ParameterKind → List Symbol → Option Parameter
  | .number, run => (Literal.decode? run).map .number
  | .label, run => some (.label ⟨run⟩)

def read (op : Operation) (c : Cursor) : Except SyntaxError (Option Parameter × Cursor) :=
  match op.parameterKind? with
  | none => .ok (none, c)
  | some kind =>
    match c.parameter? with
    | none => .error (.facing (.parameter op) c)
    | some (run, c') =>
      match ofRun? kind run with
      | some p => .ok (some p, c')
      | none => .error (.facing (.parameter op) c)

end Parameter

namespace Instruction

def read (c : Cursor) : Except SyntaxError (Instruction × Cursor) :=
  match Group.read c with
  | .error e => .error e
  | .ok (g, c₁) =>
    match Operation.read g c₁ with
    | .error e => .error e
    | .ok (op, c₂) =>
      match Parameter.read op c₂ with
      | .error e => .error e
      | .ok (p, c₃) => .ok (⟨op, p, c.location⟩, c₃)

end Instruction

theorem Group.length_of_read {c c' : Cursor} {g : Group} (h : Group.read c = .ok (g, c')) :
    c'.rest.length < c.rest.length := by
  unfold Group.read at h
  split at h
  · next r hr =>
    cases h
    obtain ⟨pattern, hm, hs⟩ := Cursor.select?_eq_some hr
    obtain ⟨g', -, hg⟩ := List.mem_map.1 hm
    have hl := Cursor.length_of_scan? hs
    have hp : 0 < pattern.length := by
      cases hg
      exact List.length_pos_iff.2 g.lead_ne_nil
    omega
  · simp at h

theorem Operation.length_of_read {c c' : Cursor} {g : Group} {op : Operation}
    (h : Operation.read g c = .ok (op, c')) : c'.rest.length ≤ c.rest.length := by
  unfold Operation.read at h
  split at h
  · next r hr =>
    cases h
    obtain ⟨pattern, -, hs⟩ := Cursor.select?_eq_some hr
    have hl := Cursor.length_of_scan? hs
    omega
  · simp at h

theorem Parameter.length_of_read {c c' : Cursor} {op : Operation} {p : Option Parameter}
    (h : Parameter.read op c = .ok (p, c')) : c'.rest.length ≤ c.rest.length := by
  unfold Parameter.read at h
  split at h
  · cases h
    exact Nat.le_refl _
  · split at h
    · simp at h
    · next hc =>
      split at h
      · cases h
        exact Nat.le_of_lt (Cursor.length_of_parameter? hc)
      · simp at h

/-- Every instruction takes at least one symbol. -/
theorem Instruction.length_of_read {c c' : Cursor} {i : Instruction}
    (h : Instruction.read c = .ok (i, c')) : c'.rest.length < c.rest.length := by
  unfold Instruction.read at h
  split at h
  · simp at h
  · next hg =>
    split at h
    · simp at h
    · next ho =>
      split at h
      · simp at h
      · next hp =>
        cases h
        have h₁ := Group.length_of_read hg
        have h₂ := Operation.length_of_read ho
        have h₃ := Parameter.length_of_read hp
        omega

namespace Program

/-- The instructions from the cursor to the end of the text. -/
def readAll (c : Cursor) : Except SyntaxError (List Instruction) :=
  if c.atEnd then .ok []
  else
    match h : Instruction.read c with
    | .error e => .error e
    | .ok (i, c') =>
      have : c'.rest.length < c.rest.length := Instruction.length_of_read h
      (readAll c').map (i :: ·)
termination_by c.rest.length

def read (source : String) : Except SyntaxError Program :=
  (readAll (.ofString source)).map ofList

end Program
end Backstep
