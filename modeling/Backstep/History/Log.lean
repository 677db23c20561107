import Backstep.History.Snapshot

/-!
# Snapshot logs

A log holds snapshots in the order they were taken, with a limit on the sum of
their sizes. The sum is carried along, so that adding a snapshot does not visit
the others.
-/
namespace Backstep

structure Log where
  limit : Nat
  snapshots : Array Snapshot := #[]
  /-- The sum of the sizes of the snapshots. -/
  used : Nat := 0

namespace Log

@[inline] def count (l : Log) : Nat :=
  l.snapshots.size

def isEmpty (l : Log) : Bool :=
  l.snapshots.isEmpty

def get? (l : Log) (index : Nat) : Option Snapshot :=
  l.snapshots[index]?

@[inline] def fits (l : Log) (s : Snapshot) : Bool :=
  l.used + s.size ≤ l.limit

@[inline] def push : Log → Snapshot → Log
  | ⟨limit, snapshots, used⟩, s => ⟨limit, snapshots.push s, used + s.size⟩

def push? (l : Log) (s : Snapshot) : Option Log :=
  if l.fits s then some (l.push s) else none

def truncate (l : Log) (n : Nat) : Log :=
  if l.count ≤ n then l
  else
    let dropped := l.snapshots.toList.drop n
    { l with snapshots := l.snapshots.take n, used := l.used - tally Snapshot.size dropped }

def refusal (l : Log) (s : Snapshot) : String :=
  s!"Snapshot memory limit exceeded: {l.used} + {s.size} > {l.limit}"

/-- The snapshots in the order they were taken. -/
def toList (l : Log) : List Snapshot :=
  l.snapshots.toList

theorem count_eq (l : Log) : l.count = l.toList.length := by
  simp [count, toList]

theorem isEmpty_eq (l : Log) : l.isEmpty = l.toList.isEmpty := by
  simp [isEmpty, toList]

theorem get?_eq (l : Log) (index : Nat) : l.get? index = l.toList[index]? := by
  simp [get?, toList]

@[simp] theorem toList_push (l : Log) (s : Snapshot) : (l.push s).toList = l.toList ++ [s] := by
  simp [push, toList]

@[simp] theorem toList_truncate (l : Log) (n : Nat) : (l.truncate n).toList = l.toList.take n := by
  unfold truncate
  split
  · next h =>
    rw [count_eq] at h
    exact (List.take_of_length_le h).symm
  · simp [toList]

end Log
end Backstep
