import Backstep.Screen.Row
import Backstep.Tally
import Backstep.Text.Cluster

/-!
# Lines

A line is a list of spans of styled text, drawn into a row cluster by cluster
from one column and cut before another. As an entry of a list it also keeps the
clusters without a width, in the cell of what they follow; as a line of a
paragraph it drops them. A cluster as wide as all columns leaves the column
where it is, so at the end of the room it stands in the cell that follows.
-/
namespace Backstep

structure Span where
  text : String
  style : Style := {}
  deriving DecidableEq

abbrev Line := List Span

/-! ## Entries -/

namespace Row

/-- Draws the clusters of a span that starts in the cell `start`, from the cell `x` on. What
follows clusters that take no column at the start of the span shares their cell. -/
def writeClusters (style : Style) (stop start : Nat) (first : Bool) (x : Nat) (r : Row) :
    List String → Row
  | [] => r
  | g :: clusters =>
    let width := textWidth g
    let columns := columnAfter 0 width
    if stop < x + columns then r
    else
      let drawn :=
        if first then r.put x g style
        else if x = start then r.extend x g style
        else if width = 0 then r.extend (x - 1) g style
        else r.put x g style
      writeClusters style stop start false (x + columns) (drawn.clear (x + 1) (columns - 1)) clusters

@[simp] theorem size_writeClusters (style : Style) (stop start : Nat) (first : Bool) (x : Nat)
    (r : Row) (clusters : List String) :
    (writeClusters style stop start first x r clusters).size = r.size := by
  induction clusters generalizing first x r with
  | nil => rfl
  | cons g clusters ih =>
    simp only [writeClusters]
    split
    · rfl
    · rw [ih, size_clear]
      split
      · simp
      · split
        · simp
        · split <;> simp

/-- Draws spans from the cell `x` on. A span without a width is left out. -/
def writeSpans (stop x : Nat) (r : Row) : Line → Row
  | [] => r
  | s :: spans =>
    let width := textWidth s.text
    if width = 0 then writeSpans stop x r spans
    else if stop ≤ x then r
    else
      writeSpans stop (x + width) (r.writeClusters s.style stop x true x (clusters s.text)) spans

@[simp] theorem size_writeSpans (stop x : Nat) (r : Row) (line : Line) :
    (r.writeSpans stop x line).size = r.size := by
  induction line generalizing x r with
  | nil => rfl
  | cons s spans ih =>
    simp only [writeSpans]
    split
    · exact ih x r
    · split
      · rfl
      · simp [ih]

end Row

/-! ## Paragraphs -/

structure Glyph where
  text : String
  width : Nat
  style : Style

namespace Glyph

/-- The glyphs that fit into `room` cells when `used` are taken. One that is wider than all the
room is left out. -/
def fitting (room used : Nat) : List Glyph → List Glyph
  | [] => []
  | g :: glyphs =>
    if room < columnAfter 0 g.width then fitting room used glyphs
    else if room < columnAfter used g.width then []
    else g :: fitting room (columnAfter used g.width) glyphs

end Glyph

namespace Row

/-- Draws the glyphs that have a width from the cell `x` on. -/
def setGlyphs (x : Nat) (r : Row) : List Glyph → Row
  | [] => r
  | g :: glyphs =>
    if g.width = 0 then setGlyphs x r glyphs
    else setGlyphs (columnAfter x g.width) (r.put x g.text g.style) glyphs

@[simp] theorem size_setGlyphs (x : Nat) (r : Row) (glyphs : List Glyph) :
    (r.setGlyphs x glyphs).size = r.size := by
  induction glyphs generalizing x r with
  | nil => rfl
  | cons g glyphs ih =>
    simp only [setGlyphs]
    split
    · exact ih x r
    · simp [ih]

end Row

def Line.glyphs (line : Line) : List Glyph :=
  line.flatMap fun s => (clusters s.text).map fun g => ⟨g, textWidth g, s.style⟩

/-! ## Fields of a row

Each line is drawn from the column `x` up to `stop`, over the style `base` there. -/

namespace Row

def writeEntry (x stop : Nat) (base : Style) (line : Line) (r : Row) : Row :=
  (r.tint x stop base).writeSpans stop x line

def writeLeft (x stop : Nat) (base : Style) (line : Line) (r : Row) : Row :=
  (r.tint x stop base).setGlyphs x (Glyph.fitting (stop - x) 0 line.glyphs)

/-- The line of a paragraph, moved to the right end. -/
def writeRight (x stop : Nat) (base : Style) (line : Line) (r : Row) : Row :=
  let glyphs := Glyph.fitting (stop - x) 0 line.glyphs
  (r.tint x stop base).setGlyphs (x + (stop - x - tally Glyph.width glyphs)) glyphs

@[simp] theorem size_writeEntry (x stop : Nat) (base : Style) (line : Line) (r : Row) :
    (r.writeEntry x stop base line).size = r.size := by
  simp [writeEntry]

@[simp] theorem size_writeLeft (x stop : Nat) (base : Style) (line : Line) (r : Row) :
    (r.writeLeft x stop base line).size = r.size := by
  simp [writeLeft]

@[simp] theorem size_writeRight (x stop : Nat) (base : Style) (line : Line) (r : Row) :
    (r.writeRight x stop base line).size = r.size := by
  simp [writeRight]

end Row
end Backstep
