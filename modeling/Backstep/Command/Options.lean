import Backstep.Text.Decimal

/-!
# Options

The command line names at most one program file, with `-` for the standard
input, and options before or after it. Reading it stops at the first argument
that asks for help or cannot be used.
-/
namespace Backstep

def defaultHistoryLimit : Nat := 256 * 1024 * 1024

structure Options where
  /-- The program file; the standard input if there is none. -/
  file : Option String := none
  list : Bool := false
  viewer : Bool := false
  verbose : Bool := false
  /-- The file that the program reads from. -/
  input : Option String := none
  historyLimit : Nat := defaultHistoryLimit
  deriving DecidableEq

inductive UsageError where
  | inputWithoutFile
  | limitWithoutCount
  | unknownOption (flag : String)
  | secondFile
  | viewerWithoutFile
  deriving DecidableEq

def UsageError.message : UsageError → String
  | .inputWithoutFile => "--input requires a file"
  | .limitWithoutCount => "--history-limit requires a byte count"
  | .unknownOption flag => s!"Unknown option '{flag}'"
  | .secondFile => "Only one program file may be given"
  | .viewerWithoutFile => "--tui needs a program FILE (stdin is the terminal)"

/-- The role of an argument, seen by itself. -/
inductive Argument where
  | help
  | list
  | viewer
  | verbose
  | input
  | historyLimit
  | standardInput
  | unknown (flag : String)
  | file (path : String)
  deriving DecidableEq

def Argument.ofString (s : String) : Argument :=
  if s = "-h" ∨ s = "--help" then .help
  else if s = "--list" then .list
  else if s = "--tui" then .viewer
  else if s = "--verbose" then .verbose
  else if s = "--input" then .input
  else if s = "--history-limit" then .historyLimit
  else if s = "-" then .standardInput
  else if s.toList.head? = some '-' then .unknown s
  else .file s

/-- A count of bytes: digits, with a plus sign before them or not, of at most 64 bits. -/
def byteCount? (s : String) : Option Nat :=
  let digits := match s.toList with
    | '+' :: digits => digits
    | digits => digits
  (Decimal.magnitude? digits).filter fun n => n ≤ 0xFFFFFFFFFFFFFFFF

inductive Request where
  | help
  | refuse (error : UsageError)
  | proceed (options : Options)
  deriving DecidableEq

namespace Request

def readFrom (o : Options) : List String → Request
  | [] => if o.viewer ∧ o.file = none then .refuse .viewerWithoutFile else .proceed o
  | arg :: args =>
    match Argument.ofString arg with
    | .help => .help
    | .list => readFrom { o with list := true } args
    | .viewer => readFrom { o with viewer := true } args
    | .verbose => readFrom { o with verbose := true } args
    | .input =>
      match args with
      | [] => .refuse .inputWithoutFile
      | path :: args => readFrom { o with input := some path } args
    | .historyLimit =>
      match args with
      | [] => .refuse .limitWithoutCount
      | count :: args =>
        match byteCount? count with
        | some n => readFrom { o with historyLimit := n } args
        | none => .refuse .limitWithoutCount
    | .standardInput => readFrom { o with file := none } args
    | .unknown flag => .refuse (.unknownOption flag)
    | .file path =>
      match o.file with
      | some _ => .refuse .secondFile
      | none => readFrom { o with file := some path } args

def read (args : List String) : Request :=
  readFrom {} args

end Request

def usage (program : String) : String :=
  s!"Usage: {program} [OPTIONS] [FILE]\n\n" ++
  "Runs a Whitespace program. FILE or '-' reads the program from stdin.\n\n" ++
  "Options:\n" ++
  "  --list                 Print the lexed instruction listing and exit\n" ++
  "  --tui                  Record execution and open the time-travel viewer\n" ++
  "  --input FILE           Read program input from FILE instead of stdin\n" ++
  s!"  --history-limit BYTES  Snapshot memory limit for --tui (default {defaultHistoryLimit})\n" ++
  "  --verbose              Print progress diagnostics\n" ++
  "  -h, --help             Show this help\n\n" ++
  "Examples:\n" ++
  s!"  {program} hello.ws\n" ++
  s!"  {program} --tui demos/count.ws\n"

end Backstep
