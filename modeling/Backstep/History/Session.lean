import Backstep.History.Log
import Backstep.History.RunError
import Backstep.Machine.Execute

/-!
# Sessions

A session runs a program and may record it. A recording takes one snapshot
before the first instruction and one after every instruction. Moving along the
recording restores what a snapshot holds; the streams stay where they are. A
step from an earlier position replaces the snapshots after it.

When a snapshot does not fit, the machine goes back to the last one that did,
and no further step is taken until a move succeeds.
-/
namespace Backstep

structure Recording where
  log : Log
  /-- The index of the snapshot that the machine shows. -/
  position : Nat := 0
  /-- A snapshot did not fit. -/
  full : Bool := false

structure Session where
  program : Program
  machine : Machine := {}
  recording : Option Recording := none

/-- What a request to a session gives: the session afterwards and a result or an error. -/
structure Reply (α : Type) where
  session : Session
  result : Except RunError α

namespace Recording

def limitError (r : Recording) : RunError :=
  .logFull r.log.used r.log.limit

@[inline] def trim (r : Recording) : Recording :=
  { r with log := r.log.truncate (r.position + 1) }

/-- Adds a snapshot after all others and moves to it. -/
@[inline] def add : Recording → Snapshot → Recording
  | ⟨log, _, full⟩, s =>
    let log := log.push s
    ⟨log, log.count - 1, full⟩

end Recording

namespace Machine

@[inline] def snapshot (m : Machine) : Snapshot :=
  ⟨m.state, m.transcript.length⟩

def restore (m : Machine) (s : Snapshot) : Machine :=
  { m with state := s.state, transcript := m.transcript.rewind s.shown }

end Machine

namespace Session

def plain (program : Program) (input : Input) (output : Output) : Session :=
  { program, machine := { input, output } }

/-- A session that records up to `limit` bytes of snapshots. -/
def recorded (program : Program) (limit : Nat) (input : Input) (output : Output) : Session :=
  { program, machine := { input, output }, recording := some { log := { limit } } }

def state (s : Session) : State :=
  s.machine.state

def position (s : Session) : Nat :=
  match s.recording with
  | some r => r.position
  | none => 0

def total (s : Session) : Nat :=
  match s.recording with
  | some r => r.log.count
  | none => 0

def siteOf (index : Nat) (i : Instruction) : Site :=
  ⟨index, i.operation, i.location⟩

def restore (s : Session) (position : Nat) : Reply Unit :=
  match s.recording with
  | none => ⟨s, .error (.move .notRecorded)⟩
  | some r =>
    match r.log.get? position with
    | none => ⟨s, .error (.move .notRecorded)⟩
    | some snapshot =>
      let r := { r with position, full := false }
      ⟨{ s with machine := s.machine.restore snapshot, recording := some r }, .ok ()⟩

/-- Takes a snapshot of the machine, if the session records. A snapshot that does not fit leaves
the recording trimmed to the present position. -/
@[inline] def capture : Session → Reply Unit
  | ⟨program, machine, none⟩ => ⟨⟨program, machine, none⟩, .ok ()⟩
  | ⟨program, machine, some r⟩ =>
    let snapshot := machine.snapshot
    let kept := r.trim
    if kept.log.fits snapshot then ⟨⟨program, machine, some (kept.add snapshot)⟩, .ok ()⟩
    else ⟨⟨program, machine, some kept⟩, .error kept.limitError⟩

def setStatus (s : Session) (status : Status) : Session :=
  { s with machine := { s.machine with state := { s.machine.state with status } } }

def close (s : Session) : Session :=
  { s with recording := s.recording.map fun r => { r with full := true } }

/-- Takes the snapshot after an instruction, or goes back to the last snapshot. -/
@[inline] def follow (s : Session) : Reply Status :=
  match s.capture with
  | ⟨s, .ok ()⟩ => ⟨s, .ok s.state.status⟩
  | ⟨s, .error e⟩ =>
    match s.restore s.position with
    | ⟨s, .ok ()⟩ => ⟨s.close, .error e⟩
    | ⟨s, .error e⟩ => ⟨s, .error e⟩

/-- Runs the instruction at the program counter unless the machine has halted. -/
def advance : Session → Reply Status
  | ⟨program, machine, recording⟩ =>
    match machine.state.status with
    | .halted reason => ⟨⟨program, machine, recording⟩, .ok (.halted reason)⟩
    | .running =>
      let index := machine.state.pc
      match program.get? index with
      | none =>
        let s : Session := ⟨program, machine, recording⟩
        ⟨s.setStatus (.halted .endOfProgram), .ok (.halted .endOfProgram)⟩
      | some i =>
        match machine.attempt program i with
        | ⟨machine, some f⟩ =>
          ⟨⟨program, machine, recording⟩, .error (.fault f (siteOf index i))⟩
        | ⟨machine, none⟩ => follow ⟨program, machine, recording⟩

/-- Whether the recording still lacks its first snapshot. -/
@[inline] def unstarted (s : Session) : Bool :=
  match s.recording with
  | some r => r.log.isEmpty
  | none => false

/-- Takes the first snapshot of a recording. An empty program has ended by then. -/
@[inline] def begin (s : Session) : Reply Unit :=
  if s.unstarted then
    if s.program.size ≤ s.state.pc then (s.setStatus (.halted .endOfProgram)).capture
    else s.capture
  else ⟨s, .ok ()⟩

@[inline] def fullError? (s : Session) : Option RunError :=
  match s.recording with
  | some r => if r.full then some r.limitError else none
  | none => none

def step (s : Session) : Reply Status :=
  match s.fullError? with
  | some e => ⟨s, .error e⟩
  | none =>
    match s.begin with
    | ⟨s, .error e⟩ => ⟨s, .error e⟩
    | ⟨s, .ok ()⟩ => s.advance

inductive Ending where
  | halted (reason : HaltReason)
  | failed (error : RunError)
  /-- The allowed number of steps was used up. -/
  | unfinished
  deriving DecidableEq

def Ending.error? : Ending → Option RunError
  | .failed e => some e
  | _ => none

/-- Steps until the machine halts or a step fails, at most `fuel` times. -/
def run : Nat → Session → Session × Ending
  | 0, s => (s, .unfinished)
  | fuel + 1, s =>
    match s.step with
    | ⟨s, .error e⟩ => (s, .failed e)
    | ⟨s, .ok (.halted reason)⟩ => (s, .halted reason)
    | ⟨s, .ok .running⟩ => run fuel s

/-- Enough steps for every recorded run: each one takes a snapshot. -/
def recordingFuel (limit : Nat) : Nat :=
  limit / Snapshot.baseSize + 1

def back (s : Session) : Reply Unit :=
  if s.position = 0 then ⟨s, .error (.move .atBeginning)⟩ else s.restore (s.position - 1)

def forward (s : Session) : Reply Unit :=
  if s.total ≤ s.position + 1 then ⟨s, .error (.move .atEnd)⟩ else s.restore (s.position + 1)

def toStart (s : Session) : Reply Unit :=
  if s.total = 0 then ⟨s, .error (.move .nothingRecorded)⟩ else s.restore 0

def toEnd (s : Session) : Reply Unit :=
  if s.total = 0 then ⟨s, .error (.move .nothingRecorded)⟩ else s.restore (s.total - 1)

end Session
end Backstep
