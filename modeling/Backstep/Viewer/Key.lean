import Backstep.Viewer.Basic

/-!
# Keys

What the keys of the viewer do. Arrow keys, digits, enter and backspace move
along the history, the tabulator goes to the next pane, up and down scroll the
pane in focus, and the space bar starts and stops playing.
-/
namespace Backstep

inductive Key where
  | left
  | right
  | up
  | down
  | tab
  | enter
  | backspace
  | char (c : Char)
  | other
  deriving DecidableEq

/-- Moves forward up to `n` times, and counts the moves that succeeded. -/
def Session.forwardBy : Nat → Session → Session × Nat
  | 0, s => (s, 0)
  | n + 1, s =>
    match s.forward with
    | ⟨s, .ok ()⟩ =>
      let (s, k) := forwardBy n s
      (s, k + 1)
    | ⟨s, .error _⟩ => (s, 0)

namespace Viewer

def say (v : Viewer) (message : String) : Viewer :=
  { v with message }

def scrollToEnd (v : Viewer) : Viewer :=
  { v with terminalOffset := maxOffset }

def stop (v : Viewer) : Viewer :=
  { v with playing := false }

/-- Takes over a single step, or says why it cannot be made. -/
def stepped (v : Viewer) (direction : String) (r : Reply Unit) : Viewer :=
  let v := { v with session := r.session }
  match r.result with
  | .ok () => (v.say s!"Stepped {direction}").scrollToEnd
  | .error (.move cause) => v.say s!"Cannot step {direction}: {cause.message}"
  | .error e => v.say s!"Error: {e.message}"

def jumped (v : Viewer) (place : String) (r : Reply Unit) : Viewer :=
  let v := { v with session := r.session }
  let message := match r.result with
    | .ok () => s!"Jumped to {place}"
    | .error e => e.message
  (v.say message).scrollToEnd

def forwardBy (v : Viewer) (n : Nat) : Viewer :=
  let (session, k) := v.session.forwardBy n
  ({ v with session }.say s!"Stepped forward {k} step(s)").scrollToEnd

def scrollUp (v : Viewer) : Viewer :=
  match v.focus with
  | .program => { v with programScroll := v.programScroll.up }
  | .stack => { v with stackScroll := v.stackScroll.up }
  | .heap => { v with heapScroll := v.heapScroll.up }
  | .terminal => { v with terminalOffset := offsetUp v.terminalOffset }

def scrollDown (v : Viewer) : Viewer :=
  match v.focus with
  | .program => { v with programScroll := v.programScroll.down }
  | .stack => { v with stackScroll := v.stackScroll.down }
  | .heap => { v with heapScroll := v.heapScroll.down }
  | .terminal => { v with terminalOffset := offsetDown v.terminalOffset }

def togglePlaying (v : Viewer) : Viewer :=
  { v with playing := !v.playing }.say (if v.playing then "Paused" else "Playing...")

def digit? (c : Char) : Option Nat :=
  if '1' ≤ c ∧ c ≤ '9' then some (c.toNat - '0'.toNat) else none

/-- Handles a key. A space bar press is `settled` when the one before it is long enough ago;
otherwise it is a repetition and does nothing. -/
def press (v : Viewer) (settled : Bool) : Key → Viewer
  | .left => v.stop.stepped "backward" v.session.back
  | .right => v.stop.stepped "forward" v.session.forward
  | .up => v.scrollUp
  | .down => v.scrollDown
  | .tab => { v with focus := v.focus.next }
  | .enter => v.stop.jumped "end" v.session.toEnd
  | .backspace => v.stop.jumped "start" v.session.toStart
  | .char c =>
    if c = 'q' ∨ c = 'Q' then { v with quit := true }
    else if c = ' ' then if settled then v.togglePlaying else v
    else
      match digit? c with
      | some n => v.stop.forwardBy n
      | none => v
  | .other => v

end Viewer
end Backstep
