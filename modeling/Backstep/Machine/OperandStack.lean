import Backstep.Chain
import Backstep.Machine.Value
import Backstep.Tally

/-!
# The operand stack

The values are read topmost first, and are kept in a chain, so that copying or
sliding past a deep stack costs no walk through it. An operation that cannot
run leaves the stack alone and reports why.
-/
namespace Backstep

inductive StackFault where
  /-- Fewer values than the operation takes. -/
  | underflow (needed found : Nat)
  /-- A count that reaches below the bottom, or a negative one. -/
  | outOfRange (index : Int) (depth : Nat)
  deriving DecidableEq

structure OperandStack where
  chain : Chain Value := .empty
  sound : chain.Sound := by exact trivial

namespace OperandStack

/-- The values from the top down. -/
def values (s : OperandStack) : List Value :=
  s.chain.toList

@[ext] theorem ext {s t : OperandStack} (h : s.values = t.values) : s = t := by
  obtain ⟨c, hc⟩ := s
  obtain ⟨d, hd⟩ := t
  obtain rfl : c = d := Chain.eq_of_toList_eq hc hd h
  rfl

def depth (s : OperandStack) : Nat :=
  s.chain.length

def isEmpty (s : OperandStack) : Bool :=
  s.depth = 0

/-- The values from the bottom up. -/
def upward (s : OperandStack) : List Value :=
  s.values.reverse

def size (s : OperandStack) : Nat :=
  tally Value.size s.values

@[inline] def push (s : OperandStack) (v : Value) : OperandStack :=
  ⟨s.chain.cons v, Chain.sound_cons v s.sound⟩

def drop (n : Nat) (s : OperandStack) : OperandStack :=
  ⟨s.chain.drop n, Chain.sound_drop n s.sound⟩

def peek? (s : OperandStack) : Option Value :=
  s.chain.head?

@[inline] def pop : OperandStack → Except StackFault (Value × OperandStack)
  | ⟨.link v _ rest _, h⟩ => .ok (v, ⟨rest, h.2.2⟩)
  | ⟨.empty, _⟩ => .error (.underflow 1 0)

/-- Takes the two topmost values; the second of the pair was on top. -/
@[inline] def popPair : OperandStack → Except StackFault ((Value × Value) × OperandStack)
  | ⟨.link right _ (.link left _ rest _) _, h⟩ => .ok ((left, right), ⟨rest, h.2.2.2.2⟩)
  | few => .error (.underflow 2 few.depth)

def swap (s : OperandStack) : Except StackFault OperandStack :=
  match s.popPair with
  | .ok ((left, right), rest) => .ok ((rest.push right).push left)
  | .error f => .error f

/-- Pushes the value that lies `n` below the top. -/
def copy (n : Int) (s : OperandStack) : Except StackFault OperandStack :=
  if s.isEmpty then .error (.underflow 1 0)
  else if 0 ≤ n then
    match s.chain.get? n.toNat with
    | some v => .ok (s.push v)
    | none => .error (.outOfRange n s.depth)
  else .error (.outOfRange n s.depth)

/-- Removes the `n` values directly below the top. -/
def slide (n : Int) (s : OperandStack) : Except StackFault OperandStack :=
  match s.pop with
  | .error f => .error f
  | .ok (top, rest) =>
    if 0 ≤ n ∧ n.toNat ≤ rest.depth then .ok ((rest.drop n.toNat).push top)
    else .error (.outOfRange n s.depth)

theorem depth_eq (s : OperandStack) : s.depth = s.values.length :=
  Chain.length_eq s.sound

@[simp] theorem values_empty : ({} : OperandStack).values = [] := rfl

@[simp] theorem values_push (s : OperandStack) (v : Value) : (s.push v).values = v :: s.values := rfl

@[simp] theorem values_drop (s : OperandStack) (n : Nat) :
    (s.drop n).values = s.values.drop n :=
  Chain.toList_drop n s.sound

theorem get?_chain (s : OperandStack) (n : Nat) : s.chain.get? n = s.values[n]? :=
  Chain.get?_eq n s.sound

@[simp] theorem upward_push (s : OperandStack) (v : Value) :
    (s.push v).upward = s.upward ++ [v] := by
  simp [upward]

@[simp] theorem pop_push (s : OperandStack) (v : Value) : (s.push v).pop = .ok (v, s) := rfl

@[simp] theorem popPair_push_push (s : OperandStack) (a b : Value) :
    ((s.push a).push b).popPair = .ok ((a, b), s) := rfl

end OperandStack
end Backstep
