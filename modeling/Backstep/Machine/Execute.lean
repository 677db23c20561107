import Backstep.Machine.LabelTable
import Backstep.Machine.State
import Backstep.Machine.Stream
import Backstep.Machine.Transcript

/-!
# The machine

A machine is a state together with what lies outside of it: the label table,
the streams and the transcript. An attempt at an instruction gives the machine
afterwards and, if it failed, the fault. After a fault the program counter is
on the failing instruction again.
-/
namespace Backstep

structure Machine where
  state : State := {}
  labels : LabelTable := {}
  input : Input := {}
  output : Output := {}
  transcript : Transcript := {}

structure Attempt where
  machine : Machine
  fault : Option Fault := none

@[inline] def Instruction.number (i : Instruction) : Except Fault Value :=
  match Parameter.number? i.parameter with
  | some n => .ok n
  | none => .error .missingParameter

@[inline] def Instruction.label (i : Instruction) : Except Fault Label :=
  match Parameter.label? i.parameter with
  | some l => .ok l
  | none => .error .missingParameter

namespace Machine

@[inline] def fail (m : Machine) (f : Fault) : Attempt :=
  ⟨m, some f⟩

/-- Takes over the state that an effect gave, or nothing at all. -/
@[inline] def commit (m : Machine) : Except Fault State → Attempt
  | .ok state => ⟨{ m with state }, none⟩
  | .error f => m.fail f

/-- Looks the label up and goes on from there as `land` says. -/
@[inline] def goto (p : Program) (l : Label) (land : State → Nat → State) (m : Machine) : Attempt :=
  match m.labels.resolve p l with
  | (some target, labels) => ⟨{ m with labels, state := land m.state target }, none⟩
  | (none, labels) => ⟨{ m with labels }, some (.undefinedLabel l)⟩

/-- Drops the top value, and jumps if it is as `taken` says. Only then is the label looked up. -/
def branch (p : Program) (l : Label) (taken : Value → Bool) (m : Machine) : Attempt :=
  match m.state.stack.pop with
  | .error f => m.fail (.stack f)
  | .ok (top, stack) =>
    if taken top then m.goto p l fun s target => { s with stack, pc := target }
    else m.commit (.ok { m.state with stack })

/-- Writes text. The value it came from has left the stack by then. -/
def emit (text : String) : Machine → Attempt
  | ⟨state, labels, input, output, transcript⟩ =>
    match output.write (Utf8.encode text) with
    | (none, output) => ⟨⟨state, labels, input, output, transcript.print text⟩, none⟩
    | (some failure, output) =>
      ⟨⟨state, labels, input, output, transcript⟩, some failure.fault⟩

def printChar (m : Machine) : Attempt :=
  match m.state.stack.pop with
  | .error f => m.fail (.stack f)
  | .ok (top, stack) =>
    match Value.character? top with
    | some c => emit (String.singleton c) { m with state := { m.state with stack } }
    | none => m.fail (.notCharacter top)

def printNum (m : Machine) : Attempt :=
  match m.state.stack.pop with
  | .error f => m.fail (.stack f)
  | .ok (top, stack) => emit (Decimal.write top) { m with state := { m.state with stack } }

def receive (m : Machine) : Except Fault Value × Input → Attempt
  | (.ok v, input) => ⟨{ m with input, state := m.state.push v }, none⟩
  | (.error f, input) => ⟨{ m with input }, some f⟩

def readChar (m : Machine) : Attempt :=
  let (r, input) := m.input.readChar
  m.receive (r.map fun c => (c.toNat : Value), input)

def readNum (m : Machine) : Attempt :=
  m.receive m.input.readNumber

@[inline] def withLabel (m : Machine) (i : Instruction) (use : Label → Attempt) : Attempt :=
  match i.label with
  | .ok l => use l
  | .error f => m.fail f

/-- The effect of instruction `index`, with the program counter already past it. -/
def execute (p : Program) (index : Nat) (i : Instruction) (m : Machine) : Attempt :=
  let s := m.state
  match i.operation with
  | .push => m.commit (i.number.map s.push)
  | .duplicate => m.commit (s.withStack (s.stack.copy 0))
  | .duplicateN => m.commit (i.number.bind fun n => s.withStack (s.stack.copy n))
  | .swap => m.commit (s.withStack s.stack.swap)
  | .discard => m.commit s.discard
  | .discardN => m.commit (i.number.bind fun n => s.withStack (s.stack.slide n))
  | .add => m.commit (s.combine fun a b => .ok (a + b))
  | .sub => m.commit (s.combine fun a b => .ok (a - b))
  | .mul => m.commit (s.combine fun a b => .ok (a * b))
  | .div => m.commit (s.combine State.divide)
  | .mod => m.commit (s.combine State.modulo)
  | .store => m.commit s.store
  | .retrieve => m.commit s.retrieve
  | .label => m.withLabel i fun l => ⟨{ m with labels := m.labels.record l index }, none⟩
  | .call => m.withLabel i fun l => m.goto p l fun s target => s.enter index l target
  | .jump => m.withLabel i fun l => m.goto p l fun s target => { s with pc := target }
  | .jumpZero => m.withLabel i fun l => m.branch p l fun v => v = 0
  | .jumpNegative => m.withLabel i fun l => m.branch p l fun v => v < 0
  | .ret => m.commit s.leave
  | .exit => m.commit (.ok s.exit)
  | .printChar => m.printChar
  | .printNum => m.printNum
  | .readChar => m.readChar
  | .readNum => m.readNum

def attempt (p : Program) (i : Instruction) (m : Machine) : Attempt :=
  let index := m.state.pc
  let a := execute p index i { m with state := { m.state with pc := index + 1 } }
  match a.fault with
  | none => ⟨{ a.machine with state := a.machine.state.settle p.size index }, none⟩
  | some f => ⟨{ a.machine with state := { a.machine.state with pc := index } }, some f⟩

end Machine
end Backstep
