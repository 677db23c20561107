/-!
# Styles

A style may leave a colour open; laid over another style, it keeps the colours
of the one below where it has none itself.
-/
namespace Backstep

inductive Color where
  | black
  | white
  | rgb (red green blue : UInt8)
  deriving DecidableEq

structure Style where
  fg : Option Color := none
  bg : Option Color := none
  bold : Bool := false
  deriving DecidableEq

namespace Style

def onto (top base : Style) : Style :=
  ⟨top.fg.or base.fg, top.bg.or base.bg, top.bold || base.bold⟩

@[simp] theorem onto_empty (s : Style) : s.onto {} = s := by
  cases s
  simp [onto]

@[simp] theorem empty_onto (s : Style) : ({} : Style).onto s = s := by
  cases s
  simp [onto]

theorem onto_assoc (a b c : Style) : (a.onto b).onto c = a.onto (b.onto c) := by
  simp [onto, Option.or_assoc, Bool.or_assoc]

end Style
end Backstep
