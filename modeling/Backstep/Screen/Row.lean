import Backstep.Screen.Style
import Backstep.Text.Width

/-!
# Rows

A row is an array of cells. Drawing into it changes cells and never their number.
On the screen a wide text also fills the cell after its own, which therefore
shows nothing else. Columns are counted modulo `65536`.
-/
namespace Backstep

structure Cell where
  text : String := " "
  style : Style := {}
  deriving DecidableEq

abbrev Row := Array Cell

/-- The column after a text of some width that stands in the column `x`. -/
def columnAfter (x width : Nat) : Nat :=
  (x + width) % 65536

theorem columnAfter_eq_add {x width : Nat} (h : x + width < 65536) :
    columnAfter x width = x + width :=
  Nat.mod_eq_of_lt h

theorem columnAfter_columnAfter (x a b : Nat) :
    columnAfter (columnAfter x a) b = columnAfter x (a + b) := by
  simp only [columnAfter]
  omega

namespace Row

def blank (style : Style) (n : Nat) : Row :=
  Array.replicate n { style }

def text (r : Row) : String :=
  r.foldl (fun text c => text ++ c.text) ""

def put (r : Row) (x : Nat) (text : String) (style : Style) : Row :=
  r.modify x fun c => ⟨text, style.onto c.style⟩

def extend (r : Row) (x : Nat) (text : String) (style : Style) : Row :=
  r.modify x fun c => ⟨c.text ++ text, style.onto c.style⟩

/-- Styles the cells from the column `x` up to `stop`. -/
def tint (r : Row) (x stop : Nat) (style : Style) : Row :=
  r.mapIdx fun m c => if x ≤ m ∧ m < stop then ⟨c.text, style.onto c.style⟩ else c

def clear (r : Row) (x : Nat) : Nat → Row
  | 0 => r
  | n + 1 => (clear r x n).setIfInBounds (x + n) {}

/-- The cells on the screen, where `covered` says whether a wide text stands right before them. -/
def shownFrom (covered : Bool) : List Cell → List Cell
  | [] => []
  | c :: r => (if covered then {} else c) :: shownFrom (decide (1 < textWidth c.text)) r

def shown (r : Row) : Row :=
  (shownFrom false r.toList).toArray

@[simp] theorem size_blank (style : Style) (n : Nat) : (blank style n).size = n := by
  simp [blank]

@[simp] theorem size_put (r : Row) (x : Nat) (text : String) (style : Style) :
    (r.put x text style).size = r.size := by
  simp [put]

theorem getElem?_put (r : Row) (x m : Nat) (text : String) (style : Style) :
    (r.put x text style)[m]? =
      r[m]?.map fun c => if x = m then ⟨text, style.onto c.style⟩ else c := by
  simp only [put, Array.getElem?_modify]
  split <;> simp

@[simp] theorem size_extend (r : Row) (x : Nat) (text : String) (style : Style) :
    (r.extend x text style).size = r.size := by
  simp [extend]

theorem getElem?_extend (r : Row) (x m : Nat) (text : String) (style : Style) :
    (r.extend x text style)[m]? =
      r[m]?.map fun c => if x = m then ⟨c.text ++ text, style.onto c.style⟩ else c := by
  simp only [extend, Array.getElem?_modify]
  split <;> simp

@[simp] theorem size_tint (r : Row) (x stop : Nat) (style : Style) :
    (r.tint x stop style).size = r.size := by
  simp [tint]

theorem getElem?_tint (r : Row) (x stop m : Nat) (style : Style) :
    (r.tint x stop style)[m]? =
      r[m]?.map fun c => if x ≤ m ∧ m < stop then ⟨c.text, style.onto c.style⟩ else c := by
  simp [tint]

@[simp] theorem size_clear (r : Row) (x n : Nat) : (r.clear x n).size = r.size := by
  induction n with
  | zero => rfl
  | succ n ih => simp [clear, ih]

theorem length_shownFrom (covered : Bool) (r : List Cell) :
    (shownFrom covered r).length = r.length := by
  induction r generalizing covered with
  | nil => rfl
  | cons c r ih => simp [shownFrom, ih]

@[simp] theorem size_shown (r : Row) : r.shown.size = r.size := by
  simp [shown, length_shownFrom]

end Row
end Backstep
