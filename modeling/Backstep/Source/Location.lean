/-!
# Locations

Lines and columns count from one, columns in Unicode scalar values, and only a
line feed starts a line. An instruction that was not read from a text stands at
line zero, column zero.
-/
namespace Backstep

structure Location where
  line : Nat := 0
  column : Nat := 0
  deriving DecidableEq

namespace Location

def first : Location := ⟨1, 1⟩

/-- The location after `c`, when `c` stands here. -/
def advance (here : Location) (c : Char) : Location :=
  if c = '\n' then ⟨here.line + 1, 1⟩ else ⟨here.line, here.column + 1⟩

def advanceAll (here : Location) (text : List Char) : Location :=
  text.foldl advance here

@[simp] theorem advanceAll_nil (here : Location) : here.advanceAll [] = here := rfl

@[simp] theorem advanceAll_cons (here : Location) (c : Char) (text : List Char) :
    here.advanceAll (c :: text) = (here.advance c).advanceAll text := rfl

@[simp] theorem advanceAll_append (here : Location) (a b : List Char) :
    here.advanceAll (a ++ b) = (here.advanceAll a).advanceAll b :=
  List.foldl_append

def text (here : Location) : String :=
  s!"{here.line}:{here.column}"

end Location
end Backstep
