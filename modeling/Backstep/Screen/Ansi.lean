import Backstep.Screen.Picture

/-!
# Terminal sequences

A picture as the characters and control sequences that draw it on a terminal.
-/
namespace Backstep

namespace Color

/-- The parameters that select a colour; `base` is 30 for the text and 40 for the background. -/
def parameters (base : Nat) : Color → List String
  | .black => [toString base]
  | .white => [toString (base + 7)]
  | .rgb r g b => [toString (base + 8), "2", toString r, toString g, toString b]

end Color

namespace Style

def sequence (s : Style) : String :=
  let fg := (s.fg.map (Color.parameters 30)).getD []
  let bg := (s.bg.map (Color.parameters 40)).getD []
  let bold := if s.bold then ["1"] else []
  "\x1b[" ++ ";".intercalate ("0" :: bold ++ fg ++ bg) ++ "m"

end Style

/-- The sequences that draw cells. The blank after a wide character is part of that character. -/
def Cell.sequences : List Cell → String
  | [] => ""
  | c :: row =>
    let drawn := c.style.sequence ++ c.text
    if 1 < textWidth c.text then
      match row with
      | [] => drawn
      | _ :: row => drawn ++ sequences row
    else drawn ++ sequences row

def Row.sequences (r : Row) : String :=
  Cell.sequences r.toList

namespace Picture

def sequences (p : Picture) : String :=
  "\x1b[H" ++ "\r\n".intercalate (p.map Row.sequences) ++ ({} : Style).sequence

end Picture
end Backstep
