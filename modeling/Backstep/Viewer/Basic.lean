import Backstep.History.Session
import Backstep.Viewer.Scroll

/-!
# The viewer

A viewer shows a session that was recorded before and moves along its history.
It never runs an instruction itself.
-/
namespace Backstep

inductive Pane where
  | program
  | terminal
  | stack
  | heap
  deriving DecidableEq

def Pane.next : Pane → Pane
  | .program => .terminal
  | .terminal => .stack
  | .stack => .heap
  | .heap => .program

/-- The error that ended the recorded run, and the instruction that raised it. -/
structure Blame where
  message : String
  index : Option Nat
  deriving DecidableEq

def RunError.blame (e : RunError) : Blame :=
  ⟨e.message, e.site?.map Site.index⟩

structure Viewer where
  session : Session
  blame : Option Blame := none
  focus : Pane := .program
  programScroll : FocusScroll := {}
  stackScroll : ListScroll := {}
  heapScroll : ListScroll := {}
  terminalOffset : Nat := 0
  message : String := "Ready!"
  playing : Bool := false
  quit : Bool := false

namespace Viewer

def opened (s : Session) (e : Option RunError) : Viewer :=
  { session := s, blame := e.map RunError.blame }

def state (v : Viewer) : State :=
  v.session.state

/-- Whether the last snapshot is shown, or there is none. -/
def atEnd (v : Viewer) : Bool :=
  v.session.total ≤ v.session.position + 1

def atStart (v : Viewer) : Bool :=
  v.session.position = 0

/-- The error, at the place in the history where it came up. -/
def blameHere (v : Viewer) : Option Blame :=
  if v.atEnd then v.blame else none

def current? (v : Viewer) : Option Nat :=
  if v.state.pc < v.session.program.size ∧ v.state.status.isHalted = false then some v.state.pc
  else none

def failing? (v : Viewer) : Option Nat :=
  v.blameHere.bind Blame.index

end Viewer

/-- A run that was recorded and taken back to its first snapshot. -/
structure Playback where
  viewer : Viewer
  ending : Session.Ending
  /-- How going back to the first snapshot went. -/
  rewound : Except RunError Unit

namespace Playback

/-- Runs the session for at most `fuel` steps and goes back to its beginning. -/
def ofSession (fuel : Nat) (s : Session) : Playback :=
  let (s, ending) := s.run fuel
  let reply := s.toStart
  ⟨Viewer.opened reply.session ending.error?, ending, reply.result⟩

end Playback
end Backstep
