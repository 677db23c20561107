import Backstep.Machine.OperandStack
import Backstep.Program.Instruction
import Backstep.Text.Quoted
import Backstep.Text.Utf8

/-!
# Faults

A fault is the cause for which an instruction could not run. The site says
which instruction it was.
-/
namespace Backstep

/-- An instruction by its index, with what it does and where it stands. -/
structure Site where
  index : Nat
  operation : Operation
  location : Location
  deriving DecidableEq

def Site.text (s : Site) : String :=
  s!"'{s.operation.name}' at instruction {s.index} " ++
    s!"(line {s.location.line}, column {s.location.column})"

inductive Fault where
  | stack (fault : StackFault)
  | divisionByZero
  /-- Reading a heap address that was never stored to. -/
  | undefinedAddress (address : Value)
  | undefinedLabel (label : Label)
  | returnWithoutCall
  /-- A line of input that is no decimal number. -/
  | invalidNumber (text : String)
  /-- Bytes of input that are no character. -/
  | invalidBytes (bytes : List UInt8)
  | endOfInput
  /-- Printing a value that is no code point. -/
  | notCharacter (value : Value)
  | missingParameter
  /-- A stream that failed. -/
  | stream (message : String)
  deriving DecidableEq

namespace Fault

def message (site : Site) : Fault → String
  | .stack (.underflow needed found) =>
    s!"Stack underflow in {site.text}: needs {needed} value" ++
      (if needed = 1 then "" else "s") ++ s!", stack has {found}"
  | .stack (.outOfRange index depth) =>
    s!"Stack index {Decimal.write index} out of range in {site.text}: stack depth is {depth}"
  | .divisionByZero => s!"Division by zero in {site.text}"
  | .undefinedAddress address => s!"Heap address {Decimal.write address} was never stored to, in {site.text}"
  | .undefinedLabel label => s!"Undefined label {label.text} in {site.text}"
  | .returnWithoutCall => s!"Return without a matching call in {site.text}"
  | .invalidNumber text => s!"Invalid number input {Quoted.encode text} for {site.text}"
  | .invalidBytes bytes => s!"Input bytes {Utf8.listing bytes} are not UTF-8, in {site.text}"
  | .endOfInput => s!"Unexpected end of input in {site.text}"
  | .notCharacter value => s!"Value {Decimal.write value} is not a character, in {site.text}"
  | .missingParameter => s!"Missing parameter for {site.text}"
  | .stream message => s!"I/O error in {site.text}: {message}"

end Fault
end Backstep
