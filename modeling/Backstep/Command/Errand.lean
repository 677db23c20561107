import Backstep.Command.Options
import Backstep.Command.Surroundings
import Backstep.Program.Reader
import Backstep.Text.Align

/-!
# Errands

What a command does, one thing after the other. All that it has to find out
about its surroundings it asks for, and it goes on with the answer.
-/
namespace Backstep

/-- What a command does to its surroundings. -/
inductive Deed where
  | readSource (file : Option String)
  | openInput (choice : InputChoice)
  | execute (program : Program)
  deriving DecidableEq

/-- What a command has done and written, and the status that it ends with: 0 after a success, 1
after a failure, 2 when the command line cannot be used. -/
structure Report where
  status : UInt8 := 0
  out : List UInt8 := []
  err : String := ""
  deeds : List Deed := []
  deriving DecidableEq

namespace Report

def preface (r : Report) (text : String) : Report :=
  { r with err := text ++ r.err }

def after (r : Report) (deed : Deed) : Report :=
  { r with deeds := deed :: r.deeds }

@[simp] theorem deeds_preface (r : Report) (text : String) : (r.preface text).deeds = r.deeds :=
  rfl

@[simp] theorem deeds_after (r : Report) (deed : Deed) : (r.after deed).deeds = deed :: r.deeds :=
  rfl

end Report

/-- An errand ends with a report or with the run of a program. What it gets when it opens an input
has the type `ι`. -/
inductive Errand (ι : Type) where
  | finish (report : Report)
  /-- Writes diagnostics. -/
  | say (text : String) (next : Errand ι)
  | readSource (file : Option String) (next : Except ReadFailure (List UInt8) → Errand ι)
  | openInput (choice : InputChoice) (next : Except ReadFailure ι → Errand ι)
  | execute (options : Options) (program : Program) (input : ι)

namespace Program

def listingLine (i : Instruction) (index : Nat) : String :=
  alignRight 5 (toString index) ++ "  " ++ alignRight 9 i.location.text ++ "  " ++ i.text ++ "\n"

/-- One line for every instruction: its index, its location and its text. -/
def listing (p : Program) : String :=
  String.join (p.instructions.toList.zipIdx.map fun (i, index) => listingLine i index)

end Program

def UsageError.report (e : UsageError) (program : String) : Report :=
  { status := 2, err := s!"Error: {e.message}\n\n" ++ usage program }

def helpReport (program : String) : Report :=
  { err := usage program }

def ReadFailure.inputReport (failure : ReadFailure) : Report :=
  { status := 1, err := s!"Error: Cannot open program input: {failure.message}\n" }

namespace Options

variable {ι : Type}

def sourceName (o : Options) : String :=
  o.file.getD "<stdin>"

def inputChoice (o : Options) : InputChoice :=
  match o.input with
  | some path => .file path
  | none => if o.viewer ∨ o.file = none then .nothing else .standardInput

def whenVerbose (o : Options) (text : String) : String :=
  if o.verbose then text else ""

def unreadable (o : Options) (failure : ReadFailure) : Report :=
  { status := 1, err := s!"Error: Cannot read '{o.sourceName}': {failure.message}\n" }

/-- Lists a program, or runs it on its input. -/
def use (o : Options) (p : Program) : Errand ι :=
  if o.list then .finish { out := Utf8.encode p.listing }
  else
    .openInput o.inputChoice fun
      | .error failure => .finish failure.inputReport
      | .ok input => .execute o p input

/-- Reads a source as a program, and uses that. -/
def parse (o : Options) (source : String) : Errand ι :=
  .say (o.whenVerbose s!"Parsing {o.sourceName}...\n") <|
    match Program.read source with
    | .error e => .finish { status := 1, err := e.message ++ "\n" }
    | .ok p =>
      .say (o.whenVerbose s!"Parsed successfully. Found {p.size} instructions.\n") (o.use p)

def errand (o : Options) : Errand ι :=
  .readSource o.file fun
    | .error failure => .finish (o.unreadable failure)
    | .ok bytes =>
      match Utf8.decode? bytes with
      | none => .finish (o.unreadable .notText)
      | some source => o.parse source

end Options

def Request.errand {ι : Type} (program : String) : Request → Errand ι
  | .help => .finish (helpReport program)
  | .refuse e => .finish (e.report program)
  | .proceed o => o.errand

end Backstep
