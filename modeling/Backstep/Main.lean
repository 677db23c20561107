import Backstep.Command.Live
import Backstep.Command.Report
import Backstep.Screen.Ansi
import Backstep.Viewer.Render

/-!
# The command

Does the errand of its command line: reads the files and streams that it asks
for, and writes what it reports.
-/
namespace Backstep.Main

def programName : String := "wstty"

/-- Whether a system error has a number, which some calls report negated. -/
def hasNumber (code number : UInt32) : Bool :=
  code = number || code = 0 - number

def failureOf : IO.Error → ReadFailure
  | .noFileOrDirectory .. => .missing
  | .inappropriateType _ code _ => if hasNumber code 20 then .notDirectory else .directory
  | .invalidArgument _ code details =>
    if hasNumber code 36 then .nameTooLong else .other details
  | e => .other (toString e)

def readFile (path : String) : IO (Except ReadFailure (List UInt8)) := do
  try
    return .ok (← IO.FS.readBinFile path).toList
  catch e =>
    return .error (failureOf e)

def readSource (file : Option String) : IO (Except ReadFailure (List UInt8)) := do
  match file with
  | some path => readFile path
  | none => return .ok (← (← IO.getStdin).readBinToEnd).toList

/-- An input that is open: the bytes at hand, and where more come from. -/
structure Source where
  input : Input := {}
  stream : Option IO.FS.Stream := none

def openInput : InputChoice → IO (Except ReadFailure Source)
  | .file path => do
    match ← readFile path with
    | .ok bytes => return .ok { input := { bytes } }
    | .error .directory =>
      return .ok { input := { ending := .broken ReadFailure.directory.message } }
    | .error failure => return .error failure
  | .standardInput => return .ok { stream := some (← IO.getStdin) }
  | .nothing => return .ok {}

def write (r : Report) : IO UInt32 := do
  let out ← IO.getStdout
  out.write ⟨r.out.toArray⟩
  out.flush
  IO.eprint r.err
  return r.status.toUInt32

/-- Steps a session, with input from `source` while there is some. -/
partial def runLive (source : Option IO.FS.Stream) (s : Session) : IO Session.Ending := do
  match source with
  | some stream =>
    if s.needsInput then
      let bytes ← stream.read 65536
      if bytes.isEmpty then return ← runLive none s
      return ← runLive source (s.feed bytes.toList)
  | none => pure ()
  let reply := s.step
  let out ← IO.getStdout
  out.write ⟨reply.session.machine.output.received⟩
  out.flush
  match reply.result with
  | .error e => return .failed e
  | .ok (.halted reason) => return .halted reason
  | .ok .running => runLive source reply.session.drain

/-- Draws the viewer and handles typed lines until it is left. -/
partial def browse (v : Viewer) : IO Unit := do
  let (v, picture) := v.render ⟨80, 24⟩
  IO.print picture.sequences
  (← IO.getStdout).flush
  if v.quit then return
  let line ← (← IO.getStdin).getLine
  if line.isEmpty then return
  browse (v.pressLine (line.toList.filter (· ≠ '\n')))

def record (o : Options) (p : Program) (input : Input) : IO UInt32 := do
  let fuel := Session.recordingFuel o.historyLimit
  let playback := Playback.ofSession fuel (Session.recorded p o.historyLimit input {})
  IO.eprint (playback.before o)
  browse playback.viewer
  write playback.after

def execute (o : Options) (p : Program) (source : Source) : IO UInt32 := do
  if o.viewer then record o p source.input
  else
    let ending ← runLive source.stream (Session.plain p source.input {})
    write (ending.report [])

def carryOut : Errand Source → IO UInt32
  | .finish r => write r
  | .say text next => do
    IO.eprint text
    carryOut next
  | .readSource file next => do carryOut (next (← readSource file))
  | .openInput choice next => do carryOut (next (← openInput choice))
  | .execute o p source => execute o p source

end Backstep.Main

def main (args : List String) : IO UInt32 :=
  let request := Backstep.Request.read args
  Backstep.Main.carryOut (request.errand Backstep.Main.programName)
