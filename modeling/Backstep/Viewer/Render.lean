import Backstep.BinaryFraction
import Backstep.Screen.Picture
import Backstep.Viewer.Content

/-!
# Drawing the viewer

The screen has four panes in two columns above a status bar of one row. Drawing
first settles the scrolling of every pane for the size at hand and then draws
the settled viewer.
-/
namespace Backstep

structure Size where
  width : Nat
  height : Nat
  deriving DecidableEq

namespace Size

def cellLimit : Nat := 65535

/-- The size of the largest screen of these proportions, if there are too many cells. -/
def limited (s : Size) : Size :=
  if s.width * s.height ≤ cellLimit then s
  else
    let aspect := BinaryFraction.ofQuotient s.width s.height
    let height := ((BinaryFraction.ofNat cellLimit).div aspect).sqrt
    ⟨(height.mul aspect).floor, height.floor⟩

def paneRows (s : Size) : Nat :=
  s.height - 1

/-- Three fifths of the width, rounded to nearest. -/
def leftWidth (s : Size) : Nat :=
  (6 * s.width + 5) / 10

def rightWidth (s : Size) : Nat :=
  s.width - s.leftWidth

/-- Seven tenths of the height, rounded to nearest. -/
def programHeight (s : Size) : Nat :=
  (7 * s.paneRows + 5) / 10

def terminalHeight (s : Size) : Nat :=
  s.paneRows - s.programHeight

def stackHeight (s : Size) : Nat :=
  (s.paneRows + 1) / 2

def heapHeight (s : Size) : Nat :=
  s.paneRows - s.stackHeight

def progressWidth (s : Size) : Nat :=
  (s.width + 1) / 2

end Size

structure PaneHeights where
  program : Nat
  terminal : Nat
  stack : Nat
  heap : Nat

def Size.heights (s : Size) : PaneHeights :=
  ⟨s.programHeight, s.terminalHeight, s.stackHeight, s.heapHeight⟩

namespace Viewer

/-! ## Settling the scrolling -/

def settleProgram (v : Viewer) (height : Nat) : Viewer :=
  let total := v.session.program.size
  if total = 0 then v
  else
    { v with
      programScroll := v.programScroll.follow total (visibleRows height) (v.failing?.or v.current?) }

def settleTerminal (v : Viewer) (height : Nat) : Viewer :=
  let total := v.session.machine.transcript.lines.length
  if total = 0 then v
  else { v with terminalOffset := clampOffset v.terminalOffset total (visibleRows height) }

def settleStack (v : Viewer) (height : Nat) : Viewer :=
  let total := v.stackRows.length
  { v with stackScroll := (v.stackScroll.jumpIfGrown total).settle total (visibleRows height) }

def settleHeap (v : Viewer) (height : Nat) : Viewer :=
  let total := v.state.heap.count
  if total = 0 then { v with heapScroll := { v.heapScroll with seen := 0 } }
  else { v with heapScroll := v.heapScroll.settle total (visibleRows height) }

/-- The viewer with every pane scrolled to where it is shown at its height. -/
def settle (v : Viewer) (heights : PaneHeights) : Viewer :=
  (((v.settleProgram heights.program).settleTerminal heights.terminal).settleStack
    heights.stack).settleHeap heights.heap

/-! ## Drawing -/

/-- A pane that shows a page of rows, each drawn up to the right side of the pane. -/
def pageBox {α : Type} (v : Viewer) (pane : Pane) (title : String) (w h offset : Nat)
    (rows : List α) (draw : Nat → α → Row → Row) : Picture :=
  let page := (rows.drop offset).take (visibleRows h)
  Box.draw w h title (Theme.border (v.focus = pane)) {} fun stop => page.map (draw stop)

def remarkBox (v : Viewer) (pane : Pane) (title : String) (w h : Nat) (remark : String) : Picture :=
  let base := Theme.ink Theme.comment
  Box.draw w h title (Theme.border (v.focus = pane)) base fun stop =>
    [Row.writeLeft 1 stop base [⟨remark, {}⟩]]

def programBox (v : Viewer) (w h : Nat) : Picture :=
  let title := " Program "
  if v.session.program.size = 0 then v.remarkBox .program title w h "(empty program)"
  else
    v.pageBox .program title w h v.programScroll.offset v.programRows fun stop (i, index) =>
      Row.writeLeft 1 stop {} (v.instructionLine i index)

/-- The printed lines stand after a blank column, and their colour fills the row. -/
def terminalBox (v : Viewer) (w h : Nat) : Picture :=
  let title := " Terminal Output "
  let rows := v.terminalRows
  if rows.isEmpty then v.remarkBox .terminal title w h "(no output)"
  else
    v.pageBox .terminal title w h v.terminalOffset rows fun stop text =>
      Row.writeEntry 2 stop (Theme.ink Theme.text) [⟨text, {}⟩]

def stackBox (v : Viewer) (w h : Nat) : Picture :=
  v.pageBox .stack " Stack " w h v.stackScroll.offset v.stackRows fun stop row =>
    Row.writeEntry 1 stop {} row.line

def heapBox (v : Viewer) (w h : Nat) : Picture :=
  let title := " Heap "
  if v.state.heap.isEmpty then v.remarkBox .heap title w h "(no heap cells written)"
  else
    let width := v.addressWidth
    v.pageBox .heap title w h v.heapScroll.offset v.heapRows fun stop (address, value) =>
      Row.writeEntry 1 stop {} (cellLine width address value)

def statusRow (v : Viewer) (size : Size) : Row :=
  let base : Style := { bg := some Theme.bar }
  ((Row.blank {} size.width).writeLeft 0 size.progressWidth base v.progressLine).writeRight
    size.progressWidth size.width base v.helpLine

def picture (v : Viewer) (size : Size) : Picture :=
  if size.width = 0 ∨ size.height = 0 then []
  else
    let left := (v.programBox size.leftWidth size.programHeight).above
      (v.terminalBox size.leftWidth size.terminalHeight)
    let right := (v.stackBox size.rightWidth size.stackHeight).above
      (v.heapBox size.rightWidth size.heapHeight)
    ((left.beside right).above [v.statusRow size]).shown

end Viewer

/-- Screens for a viewer: the heights of the panes on a screen of some size, and what is drawn there
of a viewer that is scrolled for them. -/
structure Display (ι σ : Type) where
  heights : ι → PaneHeights
  draw : ι → Viewer → σ

def Display.render {ι σ : Type} (d : Display ι σ) (v : Viewer) (size : ι) : Viewer × σ :=
  let v := v.settle (d.heights size)
  (v, d.draw size v)

/-- Screens made of cells. -/
def Display.cells : Display Size Picture where
  heights size := size.limited.heights
  draw size v := v.picture size.limited

def Viewer.render (v : Viewer) (size : Size) : Viewer × Picture :=
  Display.cells.render v size

end Backstep
