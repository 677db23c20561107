import Backstep.Program.Instruction

/-!
# The call stack

A call leaves a frame that says where it came from and where it returns to. The
frames are kept innermost first.
-/
namespace Backstep

structure Frame where
  callSite : Nat
  returnTo : Nat
  label : Label
  deriving DecidableEq

structure CallStack where
  frames : List Frame := []
  deriving DecidableEq

namespace CallStack

def depth (s : CallStack) : Nat :=
  s.frames.length

def isEmpty (s : CallStack) : Bool :=
  s.frames.isEmpty

/-- The frames from the outermost inward. -/
def inward (s : CallStack) : List Frame :=
  s.frames.reverse

def push (s : CallStack) (f : Frame) : CallStack :=
  ⟨f :: s.frames⟩

def pop? (s : CallStack) : Option (Frame × CallStack) :=
  match s.frames with
  | f :: rest => some (f, ⟨rest⟩)
  | [] => none

@[simp] theorem inward_push (s : CallStack) (f : Frame) : (s.push f).inward = s.inward ++ [f] := by
  simp [push, inward]

@[simp] theorem pop?_push (s : CallStack) (f : Frame) : (s.push f).pop? = some (f, s) := rfl

end CallStack
end Backstep
