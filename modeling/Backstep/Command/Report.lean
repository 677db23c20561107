import Backstep.Command.Errand
import Backstep.Viewer.Basic

/-!
# Reports

What a command does, writes and ends with in given surroundings.
-/
namespace Backstep

namespace Session.Ending

def report (e : Session.Ending) (out : List UInt8) : Report :=
  match e with
  | .failed e => { status := 1, out, err := s!"\nRuntime error: {e.message}\n" }
  | _ => { out }

end Session.Ending

namespace Playback

def before (p : Playback) (o : Options) : String :=
  let recorded := match p.ending with
    | .failed e =>
      s!"Runtime error: {e.message}\nEntering TUI with partial execution history...\n"
    | _ =>
      o.whenVerbose ("Execution completed successfully.\n" ++
        s!"Total snapshots: {p.viewer.session.total}\n")
  let rewound := match p.rewound with
    | .ok () => ""
    | .error e => s!"Warning: Failed to rewind to start: {e.message}\n"
  o.whenVerbose "Executing program...\n" ++ recorded ++ rewound

/-- The status and what is written after the viewer has closed. -/
def after (p : Playback) : Report :=
  match p.ending with
  | .failed e => { status := 1, err := s!"Runtime error: {e.message}\n" }
  | _ => {}

end Playback

/-- The report of a program that is given `fuel` steps. -/
def Options.perform (o : Options) (fuel : Nat) (p : Program) (input : Input) : Report :=
  if o.viewer then
    let playback := Playback.ofSession fuel (Session.recorded p o.historyLimit input {})
    playback.after.preface (playback.before o)
  else
    let (s, ending) := (Session.plain p input {}).run fuel
    ending.report s.machine.output.received.toList

namespace Surroundings

/-- Does an errand, and answers what it asks for. -/
def carryOut (w : Surroundings) (fuel : Nat) : Errand Input → Report
  | .finish r => r
  | .say text next => (w.carryOut fuel next).preface text
  | .readSource file next => (w.carryOut fuel (next (w.source file))).after (.readSource file)
  | .openInput choice next => (w.carryOut fuel (next (w.input choice))).after (.openInput choice)
  | .execute o p input => (o.perform fuel p input).after (.execute p)

/-- The report of a command line in its surroundings, where a program is given `fuel` steps. -/
def report (w : Surroundings) (fuel : Nat) (program : String) (args : List String) : Report :=
  w.carryOut fuel ((Request.read args).errand program)

end Surroundings
end Backstep
