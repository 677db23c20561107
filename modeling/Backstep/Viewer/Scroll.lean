/-!
# Scrolling

A pane shows some of its rows, from an offset on. The last page is kept filled:
an offset too large for that is brought back.
-/
namespace Backstep

/-- The largest offset of 64 bits, which stands for the end of a list. -/
def maxOffset : Nat := 0xFFFFFFFFFFFFFFFF

/-- The rows that a box of this height has room for, at least one. -/
def visibleRows (height : Nat) : Nat :=
  max (height - 2) 1

def clampOffset (offset total visible : Nat) : Nat :=
  if visible < total then min offset (total - visible) else 0

theorem visibleRows_pos (height : Nat) : 0 < visibleRows height := by
  unfold visibleRows
  omega

theorem clampOffset_le (offset total visible : Nat) :
    clampOffset offset total visible + visible ≤ max total visible := by
  unfold clampOffset
  split <;> omega

/-- Scrolling that keeps an item in focus at a row of the pane. -/
structure FocusScroll where
  offset : Nat := 0
  /-- The row of the item in focus; the middle of the pane if there is none yet. -/
  target : Option Nat := none
  deriving DecidableEq

namespace FocusScroll

/-- Brings the item in focus to its row, as far as the ends of the list allow. -/
def follow (s : FocusScroll) (total visible : Nat) (focus : Option Nat) : FocusScroll :=
  let row := min (s.target.getD (visible / 2)) (visible - 1)
  let offset := match focus with
    | some item => item - row
    | none => s.offset
  ⟨clampOffset offset total visible, some row⟩

def up (s : FocusScroll) : FocusScroll :=
  { s with target := s.target.map fun row => min (row + 1) maxOffset }

def down (s : FocusScroll) : FocusScroll :=
  { s with target := s.target.map fun row => row - 1 }

end FocusScroll

def offsetUp (offset : Nat) : Nat :=
  offset - 1

def offsetDown (offset : Nat) : Nat :=
  min (offset + 1) maxOffset

/-- Scrolling that knows how many items there were when the pane was drawn last. -/
structure ListScroll where
  offset : Nat := 0
  seen : Nat := 0
  deriving DecidableEq

namespace ListScroll

/-- Goes to the first item when there are more items than before. -/
def jumpIfGrown (s : ListScroll) (total : Nat) : ListScroll :=
  if s.seen < total then { s with offset := 0 } else s

def settle (s : ListScroll) (total visible : Nat) : ListScroll :=
  ⟨clampOffset s.offset total visible, total⟩

def up (s : ListScroll) : ListScroll :=
  { s with offset := offsetUp s.offset }

def down (s : ListScroll) : ListScroll :=
  { s with offset := offsetDown s.offset }

end ListScroll
end Backstep
