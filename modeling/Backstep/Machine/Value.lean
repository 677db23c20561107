/-!
# Values

Every stack slot, heap address and heap cell holds an integer of unbounded
size. Characters are their code points.
-/
namespace Backstep

abbrev Value := Int

namespace Value

def character? (v : Value) : Option Char :=
  if 0 ≤ v ∧ v.toNat.isValidChar then some (Char.ofNat v.toNat) else none

/-- The value as an index, where an index takes 64 bits. -/
def index? (v : Value) : Option Nat :=
  if 0 ≤ v ∧ v ≤ 0xFFFFFFFFFFFFFFFF then some v.toNat else none

/-- The number of binary digits of the magnitude. -/
def bits (v : Value) : Nat :=
  if v = 0 then 0 else v.natAbs.log2 + 1

/-- The bytes that a value counts for in a snapshot. -/
def size (v : Value) : Nat :=
  24 + (bits v + 7) / 8

@[simp] theorem character?_toNat (c : Char) : character? (c.toNat : Int) = some c := by
  have h : c.toNat.isValidChar := c.valid
  simp [character?, h]

end Value
end Backstep
