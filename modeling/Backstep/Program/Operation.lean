import Backstep.Source.Symbol

/-!
# Operations

An operation is written as the lead of its group followed by its code within
the group. No lead begins another lead, and within a group no code begins
another code, so a text can be read in one way only.
-/
namespace Backstep

inductive Group where
  | stack
  | arithmetic
  | heap
  | flow
  | io
  deriving DecidableEq

inductive Operation where
  | push
  | duplicate
  | duplicateN
  | swap
  | discard
  | discardN
  | add
  | sub
  | mul
  | div
  | mod
  | store
  | retrieve
  | label
  | call
  | jump
  | jumpZero
  | jumpNegative
  | ret
  | exit
  | printChar
  | printNum
  | readChar
  | readNum
  deriving DecidableEq

/-- The kind of operand that follows an operation's code. -/
inductive ParameterKind where
  | number
  | label
  deriving DecidableEq

namespace Group

def name : Group → String
  | .stack => "stack"
  | .arithmetic => "arithmetic"
  | .heap => "heap"
  | .flow => "flow"
  | .io => "io"

/-- The symbols that open every operation of the group. -/
def lead : Group → List Symbol
  | .stack => [.space]
  | .arithmetic => [.tab, .space]
  | .heap => [.tab, .tab]
  | .flow => [.lineFeed]
  | .io => [.tab, .lineFeed]

def all : List Group :=
  [.stack, .arithmetic, .heap, .flow, .io]

def operations : Group → List Operation
  | .stack => [.push, .duplicate, .duplicateN, .swap, .discard, .discardN]
  | .arithmetic => [.add, .sub, .mul, .div, .mod]
  | .heap => [.store, .retrieve]
  | .flow => [.label, .call, .jump, .jumpZero, .jumpNegative, .ret, .exit]
  | .io => [.printChar, .printNum, .readChar, .readNum]

theorem mem_all (g : Group) : g ∈ all := by
  cases g <;> decide

theorem lead_ne_nil (g : Group) : g.lead ≠ [] := by
  cases g <;> decide

end Group

namespace Operation

def group : Operation → Group
  | .push | .duplicate | .duplicateN | .swap | .discard | .discardN => .stack
  | .add | .sub | .mul | .div | .mod => .arithmetic
  | .store | .retrieve => .heap
  | .label | .call | .jump | .jumpZero | .jumpNegative | .ret | .exit => .flow
  | .printChar | .printNum | .readChar | .readNum => .io

/-- The symbols that follow the group's lead. -/
def code : Operation → List Symbol
  | .push => [.space]
  | .duplicate => [.lineFeed, .space]
  | .duplicateN => [.tab, .space]
  | .swap => [.lineFeed, .tab]
  | .discard => [.lineFeed, .lineFeed]
  | .discardN => [.tab, .lineFeed]
  | .add => [.space, .space]
  | .sub => [.space, .tab]
  | .mul => [.space, .lineFeed]
  | .div => [.tab, .space]
  | .mod => [.tab, .tab]
  | .store => [.space]
  | .retrieve => [.tab]
  | .label => [.space, .space]
  | .call => [.space, .tab]
  | .jump => [.space, .lineFeed]
  | .jumpZero => [.tab, .space]
  | .jumpNegative => [.tab, .tab]
  | .ret => [.tab, .lineFeed]
  | .exit => [.lineFeed, .lineFeed]
  | .printChar => [.space, .space]
  | .printNum => [.space, .tab]
  | .readChar => [.tab, .space]
  | .readNum => [.tab, .tab]

def parameterKind? : Operation → Option ParameterKind
  | .push | .duplicateN | .discardN => some .number
  | .label | .call | .jump | .jumpZero | .jumpNegative => some .label
  | _ => none

def name : Operation → String
  | .push => "push"
  | .duplicate => "duplicate"
  | .duplicateN => "duplicate_n"
  | .swap => "swap"
  | .discard => "discard"
  | .discardN => "discard_n"
  | .add => "add"
  | .sub => "sub"
  | .mul => "mul"
  | .div => "div"
  | .mod => "mod"
  | .store => "store"
  | .retrieve => "retrieve"
  | .label => "label"
  | .call => "call"
  | .jump => "jump"
  | .jumpZero => "jump_zero"
  | .jumpNegative => "jump_negative"
  | .ret => "return"
  | .exit => "exit"
  | .printChar => "print_char"
  | .printNum => "print_num"
  | .readChar => "read_char"
  | .readNum => "read_num"

def all : List Operation :=
  Group.all.flatMap Group.operations

def ofName? (s : String) : Option Operation :=
  all.find? fun op => op.name = s

theorem mem_operations_iff (op : Operation) (g : Group) : op ∈ g.operations ↔ op.group = g := by
  cases op <;> cases g <;> decide

theorem mem_all (op : Operation) : op ∈ all := by
  cases op <;> decide

end Operation
end Backstep
