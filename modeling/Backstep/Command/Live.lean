import Backstep.History.Session
import Backstep.Viewer.Key

/-!
# Live sessions

A session at a terminal gets its input piece by piece and hands on its output
after every step. Keys are typed by the line.
-/
namespace Backstep

namespace Input

/-- Whether reading a character finds all of its bytes. -/
def holdsChar (i : Input) : Bool :=
  match i.bytes with
  | [] => false
  | lead :: _ => Utf8.width lead ≤ (i.bytes.take 4).length

/-- Whether reading a number finds the end of its line. -/
def holdsLine (i : Input) : Bool :=
  i.bytes.contains 10

def feed (i : Input) (bytes : List UInt8) : Input :=
  { i with bytes := i.bytes ++ bytes }

end Input

namespace Session

/-- Whether the next step would read beyond the input at hand. -/
def needsInput (s : Session) : Bool :=
  match s.state.status, s.program.get? s.state.pc with
  | .running, some i =>
    match i.operation with
    | .readChar => !s.machine.input.holdsChar
    | .readNum => !s.machine.input.holdsLine
    | _ => false
  | _, _ => false

def feed (s : Session) (bytes : List UInt8) : Session :=
  { s with machine := { s.machine with input := s.machine.input.feed bytes } }

def drain (s : Session) : Session :=
  { s with machine := { s.machine with output := { s.machine.output with received := #[] } } }

end Session

namespace Key

/-- The keys of a typed line without its line feed. -/
def ofLine : List Char → List Key
  | [] => []
  | '\x1b' :: '[' :: 'A' :: rest => .up :: ofLine rest
  | '\x1b' :: '[' :: 'B' :: rest => .down :: ofLine rest
  | '\x1b' :: '[' :: 'C' :: rest => .right :: ofLine rest
  | '\x1b' :: '[' :: 'D' :: rest => .left :: ofLine rest
  | '\t' :: rest => .tab :: ofLine rest
  | '\x08' :: rest => .backspace :: ofLine rest
  | '\x7f' :: rest => .backspace :: ofLine rest
  | c :: rest => .char c :: ofLine rest

end Key

/-- Handles the keys of a line; an empty line is the enter key. -/
def Viewer.pressLine (v : Viewer) (line : List Char) : Viewer :=
  match Key.ofLine line with
  | [] => v.press true .enter
  | keys => keys.foldl (fun v k => v.press true k) v

end Backstep
