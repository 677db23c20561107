import Backstep.Machine.Stream

/-!
# Surroundings

What a command finds around it: what comes of opening its paths, which can be
anything, and its standard input. A folder of plain files is the simplest case.
-/
namespace Backstep

inductive ReadFailure where
  | missing
  | notDirectory
  | nameTooLong
  | directory
  | notText
  | other (message : String)
  deriving DecidableEq

def ReadFailure.message : ReadFailure → String
  | .missing => "No such file or directory (os error 2)"
  | .notDirectory => "Not a directory (os error 20)"
  | .nameTooLong => "File name too long (os error 36)"
  | .directory => "Is a directory (os error 21)"
  | .notText => "stream did not contain valid UTF-8"
  | .other message => message

/-- What comes of opening a path and reading it whole, and of opening it as the input of a program.
The two need not agree: what was read once may be gone. -/
structure Files where
  read : String → Except ReadFailure (List UInt8)
  openInput : String → Except ReadFailure Input

structure Surroundings where
  files : Files
  standardInput : Input := {}

/-- Where a program takes its input from. -/
inductive InputChoice where
  | file (path : String)
  | standardInput
  | nothing
  deriving DecidableEq

/-- Reads all bytes up to the end. -/
def Input.readAll (i : Input) : Except ReadFailure (List UInt8) :=
  match i.ending with
  | .ended => .ok i.bytes
  | .cut => .error (.other "unexpected end of file")
  | .broken message => .error (.other message)

namespace Surroundings

/-- The bytes of a source: those of a file, or of the standard input. -/
def source (w : Surroundings) : Option String → Except ReadFailure (List UInt8)
  | some path => w.files.read path
  | none => w.standardInput.readAll

def input (w : Surroundings) : InputChoice → Except ReadFailure Input
  | .file path => w.files.openInput path
  | .standardInput => .ok w.standardInput
  | .nothing => .ok {}

end Surroundings

/-! Folders -/

/-- A folder of plain files, by their names, to try commands in. The directories around it hold no
other files. What a command does is not particular to folders: it has its files as `Files`. -/
abbrev Folder := List (String × List UInt8)

namespace Folder

/-- What a path leads to. -/
inductive Entry where
  | folder
  | otherDirectory
  | file (bytes : List UInt8)
  deriving DecidableEq

def Entry.read : Entry → Except ReadFailure (List UInt8)
  | .file bytes => .ok bytes
  | _ => .error .directory

/-- Opens an entry as the input of a program. A directory can be opened, but not read. -/
def Entry.openInput : Entry → Input
  | .file bytes => { bytes }
  | _ => { ending := .broken ReadFailure.directory.message }

def longestName : Nat := 255

def longestPath : Nat := 4095

def filesIn? (files : Folder) : Entry → Option Folder
  | .folder => some files
  | .otherDirectory => some []
  | .file _ => none

/-- Takes one step along a path. An empty step stays in place, as `.` does. -/
def enter (files : Folder) (place : Entry) (step : String) : Except ReadFailure Entry :=
  match filesIn? files place with
  | none => .error .notDirectory
  | some here =>
    if step = "" ∨ step = "." then .ok place
    else if step = ".." then .ok .otherDirectory
    else if longestName < step.utf8ByteSize then .error .nameTooLong
    else
      match here.lookup step with
      | some bytes => .ok (.file bytes)
      | none => .error .missing

/-- Follows a path from the folder, or from the root if it starts with a slash. -/
def entry (files : Folder) (path : String) : Except ReadFailure Entry :=
  if path = "" then .error .missing
  else if longestPath < path.utf8ByteSize then .error .nameTooLong
  else
    let start : Entry := if path.startsWith "/" then .otherDirectory else .folder
    (path.splitOn "/").foldlM (enter files) start

end Folder

instance : Coe Folder Files where
  coe files :=
    { read := fun path => Folder.entry files path >>= Folder.Entry.read
      openInput := fun path => Folder.Entry.openInput <$> Folder.entry files path }

/-- Bytes as an input that ends after them. -/
instance : Coe (List UInt8) Input where
  coe bytes := { bytes }

end Backstep
