import Backstep.Screen.Line
import Backstep.Text.Align
import Backstep.Text.Decimal
import Backstep.Viewer.Basic
import Backstep.Viewer.Theme

/-!
# What the panes show

The rows of every pane, before scrolling cuts out a page of them, and the line
that each row is drawn as.
-/
namespace Backstep

open Theme (ink boldInk)

/-- A value, followed by its character unless that is a control character. -/
def Value.spans (v : Value) : Line :=
  let number : Span := ⟨Decimal.write v, ink Theme.number⟩
  match v.character? with
  | some c =>
    if CodePoints.control.holds c then [number]
    else [number, ⟨s!" '{c}'", ink Theme.character⟩]
  | none => [number]

def Instruction.spans (i : Instruction) : Line :=
  let isLabel := i.operation = .label
  let name : Span :=
    ⟨i.operation.name, if isLabel then boldInk Theme.label else ink Theme.primary⟩
  let parameter : Line := match i.parameter with
    | some p => [⟨" ", {}⟩, ⟨p.text, ink (if isLabel then Theme.label else Theme.number)⟩]
    | none => []
  ⟨alignLeft 11 i.group.name, ink Theme.group⟩ :: name :: parameter

inductive Marking where
  | plain
  | current
  | failing
  deriving DecidableEq

namespace Marking

def sign : Marking → String
  | .plain => " "
  | .current => "▶"
  | .failing => "✗"

def numberStyle : Marking → Style
  | .plain => ink Theme.comment
  | .current => boldInk Theme.secondary
  | .failing => boldInk Theme.error

/-- The style of the instruction itself, from the style it has unmarked. -/
def restyle : Marking → Style → Style
  | .plain, s => s
  | .current, s => Style.onto { bg := some Theme.bar } s
  | .failing, _ => { fg := some .white, bg := some Theme.error, bold := true }

end Marking

namespace Viewer

def marking (v : Viewer) (index : Nat) : Marking :=
  if v.failing? = some index then .failing
  else if v.current? = some index then .current
  else .plain

def instructionLine (v : Viewer) (i : Instruction) (index : Nat) : Line :=
  let marking := v.marking index
  let number : Span :=
    ⟨marking.sign ++ alignRight 4 (toString index) ++ " ", marking.numberStyle⟩
  let place : Span := ⟨alignRight 8 i.location.text ++ "  ", ink Theme.comment⟩
  number :: place :: i.spans.map fun span => { span with style := marking.restyle span.style }

def programRows (v : Viewer) : List (Instruction × Nat) :=
  v.session.program.instructions.toList.zipIdx

def terminalRows (v : Viewer) : List String :=
  v.session.machine.transcript.lines

end Viewer

inductive StackRow where
  | header (title : String) (count : Nat)
  | remark (text : String)
  | value (v : Value) (distance : Nat)
  | frame (f : Frame)
  | gap

def StackRow.line : StackRow → Line
  | .header title count => [⟨s!"{title} ({count})", boldInk Theme.primary⟩]
  | .remark text => [⟨text, ink Theme.comment⟩]
  | .value v distance => ⟨s!"  [{distance}] ", ink Theme.comment⟩ :: v.spans
  | .frame f =>
    [⟨"  ", {}⟩, ⟨f.label.text, ink Theme.label⟩,
      ⟨s!"  called at {f.callSite}, returns to {f.returnTo}", ink Theme.text⟩]
  | .gap => []

namespace Viewer

/-- The operand stack from its top down, then the calls from the innermost outward. -/
def stackRows (v : Viewer) : List StackRow :=
  let stack := v.state.stack
  let calls := v.state.calls
  let values := stack.values.zipIdx.map fun (v, distance) => StackRow.value v distance
  let frames := calls.frames.map StackRow.frame
  .header "Operand stack" stack.depth ::
    (if stack.isEmpty then [.remark "  (empty)"] else values) ++
    .gap :: .header "Call stack" calls.depth ::
    (if calls.isEmpty then [.remark "  (no active calls)"] else frames)

/-- The cells of the heap by address. -/
def heapRows (v : Viewer) : List (Value × Value) :=
  v.state.heap.toList

def addressWidth (v : Viewer) : Nat :=
  v.heapRows.foldl (fun w (address, _) => max w (Decimal.write address).length) 0

/-- A cell of the heap, its address flush right. -/
def cellLine (width : Nat) (address value : Value) : Line :=
  ⟨alignRight width (Decimal.write address) ++ ": ", ink Theme.comment⟩ :: value.spans

def progressLine (v : Viewer) : Line :=
  let error := v.blameHere
  let onBar (c : Color) : Style := { fg := some c, bg := some Theme.bar }
  let step := s!" Step {v.session.position + 1}/{max v.session.total 1} "
  let message := match error with
    | some b => b.message
    | none => v.message
  [⟨step,
      { fg := some .black, bold := true,
        bg := some (if error.isSome then Theme.error else Theme.primary) }⟩,
    ⟨" | ", onBar Theme.comment⟩,
    ⟨s!" {message} ", onBar (if error.isSome then Theme.error else Theme.text)⟩]

def badge? (v : Viewer) : Option Span :=
  let sign (text : String) (c : Color) : Span :=
    ⟨text, { fg := some .black, bg := some c, bold := true }⟩
  if v.playing then some (sign " ▶ PLAYING " Theme.secondary)
  else if v.atEnd then some (sign " END " Theme.error)
  else if v.atStart then some (sign " START " Theme.success)
  else none

def helpLine (v : Viewer) : Line :=
  let key (text : String) : Span := ⟨text, { fg := some .black, bg := some Theme.comment }⟩
  let meaning (text : String) : Span := ⟨text, { fg := some Theme.text, bg := some Theme.bar }⟩
  let bar : Span := ⟨"│", { fg := some Theme.comment, bg := some Theme.bar }⟩
  [key " ←/→ ", meaning " step ", bar, meaning " ", key " ⎵ ", meaning " play ", bar, meaning " ",
    key " ↵ / ⌫ ", meaning " end/start ", bar, meaning " ", key "q", meaning " quit "] ++
    match v.badge? with
    | some badge => [bar, badge]
    | none => []

end Viewer
end Backstep
