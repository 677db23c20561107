import Backstep.Program.Operation
import Backstep.Source.Literal
import Backstep.Source.Location
import Backstep.Text.Decimal

/-!
# Instructions and programs

A label is kept as the run of symbols it was written with and is never read as
a number. The location of an instruction is no part of its code: two programs
have the same code when they differ in locations only.
-/
namespace Backstep

structure Label where
  symbols : List Symbol
  deriving DecidableEq, Hashable

/-- The text of a label: its symbols as small letters after a mark. -/
def Label.text (l : Label) : String :=
  "L:" ++ String.ofList (l.symbols.map fun s => s.letter.toLower)

inductive Parameter where
  | number (n : Int)
  | label (l : Label)
  deriving DecidableEq

namespace Parameter

def text : Parameter → String
  | .number n => Decimal.write n
  | .label l => l.text

def symbols : Parameter → List Symbol
  | .number n => Literal.encode n
  | .label l => l.symbols ++ [.lineFeed]

@[inline] def number? : Option Parameter → Option Int
  | some (.number n) => some n
  | _ => none

@[inline] def label? : Option Parameter → Option Label
  | some (.label l) => some l
  | _ => none

end Parameter

structure Instruction where
  operation : Operation
  parameter : Option Parameter := none
  location : Location := {}
  deriving DecidableEq

namespace Instruction

def group (i : Instruction) : Group :=
  i.operation.group

def code (i : Instruction) : Operation × Option Parameter :=
  (i.operation, i.parameter)

def text (i : Instruction) : String :=
  match i.parameter with
  | none => i.operation.name
  | some p => i.operation.name ++ " " ++ p.text

def symbols (i : Instruction) : List Symbol :=
  i.group.lead ++ i.operation.code ++ (i.parameter.map Parameter.symbols).getD []

def source (i : Instruction) : String :=
  Symbol.source i.symbols

def defines? (i : Instruction) : Option Label :=
  if i.operation = .label then Parameter.label? i.parameter else none

end Instruction

structure Program where
  instructions : Array Instruction := #[]
  deriving DecidableEq

namespace Program

def ofList (is : List Instruction) : Program :=
  ⟨is.toArray⟩

@[inline] def size (p : Program) : Nat :=
  p.instructions.size

@[inline] def get? (p : Program) (index : Nat) : Option Instruction :=
  p.instructions[index]?

def code (p : Program) : List (Operation × Option Parameter) :=
  p.instructions.toList.map Instruction.code

def symbols (p : Program) : List Symbol :=
  p.instructions.toList.flatMap Instruction.symbols

def source (p : Program) : String :=
  Symbol.source p.symbols

/-- The labels that the program defines, with their instructions' indices, in program order. -/
def definitions (p : Program) : List (Label × Nat) :=
  p.instructions.toList.zipIdx.filterMap fun (i, index) => i.defines?.map fun l => (l, index)

@[simp] theorem size_ofList (is : List Instruction) : (ofList is).size = is.length := by
  simp [ofList, size]

@[simp] theorem get?_ofList (is : List Instruction) (index : Nat) :
    (ofList is).get? index = is[index]? := by
  simp [ofList, get?]

theorem get?_eq_none_iff {p : Program} {index : Nat} : p.get? index = none ↔ p.size ≤ index := by
  simp [get?, size]

end Program
end Backstep
