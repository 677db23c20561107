import Backstep.Machine.Fault
import Backstep.Text.Decimal
import Backstep.Text.Utf8

/-!
# Streams

Input is the bytes that are still to be read, with what reading meets after
them. Output is the bytes that were received so far, with the ways in which
writing may fail. Bytes taken by a read that fails are gone.
-/
namespace Backstep

/-- What reading meets after the last byte of an input. -/
inductive Input.Ending where
  /-- There is nothing more. -/
  | ended
  /-- Reading fails, for an end of the stream that comes too early. -/
  | cut
  /-- Reading fails for another reason. -/
  | broken (message : String)
  deriving DecidableEq

def Input.Ending.fault : Input.Ending → Fault
  | .ended | .cut => .endOfInput
  | .broken message => .stream message

structure Input where
  bytes : List UInt8 := []
  ending : Input.Ending := .ended
  deriving DecidableEq

/-- How writing to an output fails. -/
inductive StreamFailure where
  /-- For an end of the stream that comes too early. -/
  | ended
  | broken (message : String)
  deriving DecidableEq

def StreamFailure.fault : StreamFailure → Fault
  | .ended => .endOfInput
  | .broken message => .stream message

namespace Input

/-- Reads one character. The first byte tells how many bytes are taken, whatever they are. -/
def readChar (i : Input) : Except Fault Char × Input :=
  match i.bytes with
  | [] => (.error i.ending.fault, i)
  | lead :: _ =>
    let width := Utf8.width lead
    let taken := i.bytes.take width
    let rest := { i with bytes := i.bytes.drop width }
    if taken.length < width then (.error i.ending.fault, rest)
    else
      match Utf8.decodeChar? taken with
      | some c => (.ok c, rest)
      | none => (.error (.invalidBytes taken), rest)

/-- The number on a line, with blanks around it or not. -/
def numberOfLine (line : List UInt8) : Except Fault Value :=
  match Utf8.decode? line with
  | none => .error (.stream "stream did not contain valid UTF-8")
  | some text =>
    let trimmed := trim text.toList
    match Decimal.read? trimmed with
    | some n => .ok n
    | none => .error (.invalidNumber (String.ofList trimmed))

def splitLine? : List UInt8 → Option (List UInt8 × List UInt8)
  | [] => none
  | b :: bytes =>
    if b = 10 then some ([], bytes)
    else (splitLine? bytes).map fun (line, rest) => (b :: line, rest)

/-- Reads one line as a number. The last line needs no line feed where the input has ended, but is
lost where reading on fails. -/
def readNumber (i : Input) : Except Fault Value × Input :=
  match splitLine? i.bytes with
  | some (line, rest) => (numberOfLine line, { i with bytes := rest })
  | none =>
    let rest := { i with bytes := [] }
    if i.bytes = [] ∨ i.ending ≠ .ended then (.error i.ending.fault, rest)
    else (numberOfLine i.bytes, rest)

end Input

structure Output where
  received : Array UInt8 := #[]
  /-- How many bytes are received in all, and how writing more fails. -/
  limit : Option (Nat × StreamFailure) := none
  /-- How a write that was received whole fails afterwards. -/
  flushFailure : Option StreamFailure := none
  deriving DecidableEq

namespace Output

/-- Writes bytes. Of a write beyond the limit only the bytes up to the limit are received. -/
def write (o : Output) (bytes : List UInt8) : Option StreamFailure × Output :=
  match o.limit with
  | none => (o.flushFailure, { o with received := o.received ++ bytes })
  | some (limit, failure) =>
    if o.received.size + bytes.length ≤ limit then
      (o.flushFailure, { o with received := o.received ++ bytes })
    else
      (some failure, { o with received := o.received ++ bytes.take (limit - o.received.size) })

end Output
end Backstep
