/-!
# UTF-8

Bytes and characters. The first byte of a character announces how many bytes
the character takes.
-/
namespace Backstep
namespace Utf8

def encode (text : String) : List UInt8 :=
  text.toUTF8.data.toList

def encodeChar (c : Char) : List UInt8 :=
  String.utf8EncodeChar c

def decode? (bytes : List UInt8) : Option String :=
  String.fromUTF8? ⟨bytes.toArray⟩

def decodeChar? (bytes : List UInt8) : Option Char :=
  ByteArray.utf8DecodeChar? ⟨bytes.toArray⟩ 0

/-- The number of bytes that a first byte announces. A byte that opens no character stands alone. -/
def width (lead : UInt8) : Nat :=
  if lead ≤ 0x7F then 1
  else if 0xC2 ≤ lead && lead ≤ 0xDF then 2
  else if 0xE0 ≤ lead && lead ≤ 0xEF then 3
  else if 0xF0 ≤ lead && lead ≤ 0xF4 then 4
  else 1

theorem width_pos (lead : UInt8) : 0 < width lead := by
  unfold width
  repeat' split
  all_goals decide

def hexByte (b : UInt8) : String :=
  String.ofList ([b.toNat / 16, b.toNat % 16].map fun d => (Nat.digitChar d).toUpper)

/-- The bytes in brackets, each as two capital hexadecimal digits. -/
def listing (bytes : List UInt8) : String :=
  "[" ++ ", ".intercalate (bytes.map hexByte) ++ "]"

end Utf8
end Backstep
