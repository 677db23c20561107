import Backstep.Screen.Line

/-!
# Pictures

A picture is a list of rows. A box is a picture of a given size with a border,
a title in its upper edge and rows inside; of a box too small for all of that
the upper and the left edge remain.
-/
namespace Backstep

abbrev Picture := List Row

namespace Picture

def beside (left right : Picture) : Picture :=
  List.zipWith (· ++ ·) left right

def above (upper lower : Picture) : Picture :=
  upper ++ lower

/-- The picture on the screen, where a wide text also fills the cell after its own. -/
def shown (p : Picture) : Picture :=
  p.map Row.shown

def text (p : Picture) : List String :=
  p.map Row.text

end Picture

namespace Box

/-- A row of `n` cells between two ends. The left end wins when there is room for one only. -/
def framed (left right : Cell) (n : Nat) (inside : Nat → Row) : Row :=
  match n with
  | 0 => #[]
  | 1 => #[left]
  | n + 2 => #[left] ++ inside n ++ #[right]

/-- An edge with a title at its left end. -/
def edge (left right : Char) (n : Nat) (style : Style) (title : String) : Row :=
  framed ⟨String.singleton left, style⟩ ⟨String.singleton right, style⟩ n fun room =>
    Row.writeSpans room 0 (Array.replicate room ⟨"─", style⟩) [⟨title, {}⟩]

/-- A box of `w` by `h` cells. What stands inside is drawn into rows that have their border; it
is given the column of the right side. -/
def draw (w h : Nat) (title : String) (border base : Style) (inside : Nat → List (Row → Row)) :
    Picture :=
  let style := border.onto base
  let side : Cell := ⟨"│", style⟩
  let plain := framed side side w (Row.blank base)
  let top := edge '┌' '┐' w style title
  let bottom := edge '└' '┘' w style ""
  match h with
  | 0 => []
  | 1 => [top]
  | h + 2 =>
    let rows := ((inside (w - 1)).take h).map fun paint => paint plain
    top :: rows ++ List.replicate (h - rows.length) plain ++ [bottom]

end Box
end Backstep
