import Backstep.Machine.CallStack
import Backstep.Machine.Fault
import Backstep.Machine.Heap

/-!
# States

The state of a run is what a snapshot keeps: the stacks, the heap, the program
counter, the instruction executed last and the status. The functions here are
the effects of instructions that need neither labels nor streams; one that
fails gives no state at all.
-/
namespace Backstep

inductive HaltReason where
  | exit
  /-- The program counter passed the last instruction. -/
  | endOfProgram
  deriving DecidableEq

inductive Status where
  | running
  | halted (reason : HaltReason)
  deriving DecidableEq

def Status.isHalted : Status → Bool
  | .running => false
  | .halted _ => true

structure State where
  stack : OperandStack := {}
  heap : Heap := {}
  calls : CallStack := {}
  /-- The index of the next instruction. -/
  pc : Nat := 0
  /-- The index of the instruction executed last. -/
  last : Option Nat := none
  status : Status := .running

namespace State

@[inline] def withStack (s : State) : Except StackFault OperandStack → Except Fault State
  | .ok stack => .ok { s with stack }
  | .error f => .error (.stack f)

@[inline] def push (s : State) (v : Value) : State :=
  { s with stack := s.stack.push v }

def discard (s : State) : Except Fault State :=
  s.withStack (s.stack.pop.map Prod.snd)

/-- Replaces the two topmost values by the result of `f`. -/
def combine (f : Value → Value → Except Fault Value) (s : State) : Except Fault State :=
  match s.stack.popPair with
  | .error e => .error (.stack e)
  | .ok ((left, right), stack) => (f left right).map fun v => { s with stack := stack.push v }

/-- Division that rounds down. -/
def divide (left right : Value) : Except Fault Value :=
  if right = 0 then .error .divisionByZero else .ok (left.fdiv right)

/-- The remainder that goes with rounding down; it has the sign of the divisor. -/
def modulo (left right : Value) : Except Fault Value :=
  if right = 0 then .error .divisionByZero else .ok (left.fmod right)

def store (s : State) : Except Fault State :=
  match s.stack.popPair with
  | .error e => .error (.stack e)
  | .ok ((address, value), stack) => .ok { s with stack, heap := s.heap.store address value }

def retrieve (s : State) : Except Fault State :=
  match s.stack.pop with
  | .error e => .error (.stack e)
  | .ok (address, stack) =>
    match s.heap.retrieve? address with
    | some v => .ok { s with stack := stack.push v }
    | none => .error (.undefinedAddress address)

def enter (s : State) (callSite : Nat) (l : Label) (target : Nat) : State :=
  { s with calls := s.calls.push ⟨callSite, s.pc, l⟩, pc := target }

def leave (s : State) : Except Fault State :=
  match s.calls.pop? with
  | some (frame, calls) => .ok { s with calls, pc := frame.returnTo }
  | none => .error .returnWithoutCall

def exit (s : State) : State :=
  { s with status := .halted .exit }

/-- The state after instruction `index` of a program with `size` instructions has run. -/
@[inline] def settle (s : State) (size index : Nat) : State :=
  { s with
    last := some index
    status := if s.status = .running ∧ size ≤ s.pc then .halted .endOfProgram else s.status }

end State
end Backstep
