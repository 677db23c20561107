import Backstep.Screen.Style

/-!
# The theme

The colours of the viewer, by what they are used for.
-/
namespace Backstep
namespace Theme

def text : Color := .rgb 205 214 244

def primary : Color := .rgb 137 180 250

def secondary : Color := .rgb 250 179 135

def comment : Color := .rgb 108 112 134

def success : Color := .rgb 166 227 161

def error : Color := .rgb 243 139 168

def number : Color := .rgb 250 179 135

def label : Color := .rgb 249 226 175

def group : Color := .rgb 148 226 213

def character : Color := .rgb 245 194 231

/-- The background of the status bar and of the current instruction. -/
def bar : Color := .rgb 50 50 70

def border (focused : Bool) : Style :=
  if focused then { fg := some (.rgb 249 226 175), bold := true }
  else { fg := some (.rgb 108 112 134) }

def ink (c : Color) : Style :=
  { fg := some c }

def boldInk (c : Color) : Style :=
  { fg := some c, bold := true }

end Theme
end Backstep
