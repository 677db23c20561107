import Backstep.Machine.State

/-!
# Snapshots

A snapshot keeps a state and how much of the transcript was shown with it. Its
size is an estimate in bytes: a fixed part, the values on the stack and in the
heap, and a fixed amount for every frame.
-/
namespace Backstep

structure Snapshot where
  state : State
  /-- The length in bytes of the text shown. -/
  shown : Nat

namespace Snapshot

def baseSize : Nat := 120

def frameSize : Nat := 64

def size (s : Snapshot) : Nat :=
  baseSize + s.state.stack.size + s.state.heap.size + frameSize * s.state.calls.depth

theorem baseSize_le_size (s : Snapshot) : baseSize ≤ s.size := by
  unfold size
  omega

end Snapshot
end Backstep
