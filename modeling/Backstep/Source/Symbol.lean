/-!
# Symbols

A Whitespace program is written with three characters. Every other character
is a comment.
-/
namespace Backstep

inductive Symbol where
  | space
  | tab
  | lineFeed
  deriving DecidableEq, Hashable

namespace Symbol

def ofChar? (c : Char) : Option Symbol :=
  if c = ' ' then some .space
  else if c = '\t' then some .tab
  else if c = '\n' then some .lineFeed
  else none

def toChar : Symbol → Char
  | .space => ' '
  | .tab => '\t'
  | .lineFeed => '\n'

/-- The letter that stands for the symbol in listings and diagnostics. -/
def letter : Symbol → Char
  | .space => 'S'
  | .tab => 'T'
  | .lineFeed => 'L'

def ofLetter? (c : Char) : Option Symbol :=
  if c = 'S' then some .space
  else if c = 'T' then some .tab
  else if c = 'L' then some .lineFeed
  else none

@[simp] theorem ofChar?_toChar (s : Symbol) : ofChar? s.toChar = some s := by
  cases s <;> rfl

@[simp] theorem ofLetter?_letter (s : Symbol) : ofLetter? s.letter = some s := by
  cases s <;> rfl

theorem toChar_of_ofChar? {c : Char} {s : Symbol} (h : ofChar? c = some s) : s.toChar = c := by
  grind [ofChar?, toChar]

def letters (run : List Symbol) : String :=
  String.ofList (run.map letter)

def source (run : List Symbol) : String :=
  String.ofList (run.map toChar)

/-- The symbols of a text in order, comments left out. -/
def ofText (text : List Char) : List Symbol :=
  text.filterMap ofChar?

@[simp] theorem ofText_append (a b : List Char) : ofText (a ++ b) = ofText a ++ ofText b :=
  List.filterMap_append

@[simp] theorem ofText_source (run : List Symbol) : ofText (source run).toList = run := by
  induction run with
  | nil => rfl
  | cons s run ih =>
    simp only [source, String.toList_ofList, ofText] at ih ⊢
    simp [ih]

end Symbol
end Backstep
