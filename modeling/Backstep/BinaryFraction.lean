import Backstep.SquareRoot

/-!
# Binary fractions

Positive numbers below `2 ^ 53`, kept to 53 significant binary digits. Every operation rounds its exact
result once, to the nearest number of so many digits; of two equally near ones it takes the even.
-/
namespace Backstep

/-- A half goes to the even neighbour. -/
def nearestQuotient (num den : Nat) : Nat :=
  let q := num / den
  let twice := 2 * (num % den)
  if twice < den ∨ twice = den ∧ q % 2 = 0 then q else q + 1

theorem nearestQuotient_near (num den : Nat) (h : 0 < den) :
    2 * (nearestQuotient num den * den) ≤ 2 * num + den ∧
      2 * num ≤ 2 * (nearestQuotient num den * den) + den := by
  have hlt := Nat.mod_lt num h
  have hd := Nat.div_add_mod num den
  rw [Nat.mul_comm] at hd
  simp only [nearestQuotient]
  split
  · omega
  · rw [Nat.add_mul]
    omega

theorem nearestQuotient_half (num den : Nat) (h : 2 * (num % den) = den) :
    nearestQuotient num den % 2 = 0 := by
  simp only [nearestQuotient]
  split <;> omega

/-- The number `digits / 2 ^ places`. -/
structure BinaryFraction where
  digits : Nat
  places : Nat
  deriving DecidableEq, Repr

namespace BinaryFraction

def ofNat (n : Nat) : BinaryFraction :=
  ⟨n, 0⟩

/-- With so many places the quotient has 53 digits. -/
def quotientPlaces (num den : Nat) : Nat :=
  let n := 52 + den.log2 - num.log2
  if (num <<< n) / den < 1 <<< 52 then n + 1 else n

def ofQuotient (num den : Nat) : BinaryFraction :=
  let n := quotientPlaces num den
  ⟨nearestQuotient (num <<< n) den, n⟩

def div (a b : BinaryFraction) : BinaryFraction :=
  ofQuotient (a.digits <<< b.places) (b.digits <<< a.places)

def mul (a b : BinaryFraction) : BinaryFraction :=
  ofQuotient (a.digits * b.digits) (1 <<< (a.places + b.places))

/-- The radicand is taken to 105 or 106 digits, which leaves 53 to its root. -/
def sqrt (a : BinaryFraction) : BinaryFraction :=
  let n := (105 + a.places - a.digits.log2) / 2
  ⟨nearestRoot ((a.digits <<< (2 * n)) >>> a.places), n⟩

def floor (a : BinaryFraction) : Nat :=
  a.digits >>> a.places

@[simp] theorem floor_ofNat (n : Nat) : (ofNat n).floor = n := rfl

end BinaryFraction
end Backstep
