import Backstep.Positional
import Backstep.Text.CodePoint

/-!
# Decimal numbers

A number is written as its digits, after a minus sign if it is negative. It may
be read with one sign of either kind and with blanks around it.
-/
namespace Backstep

def isBlank (c : Char) : Bool :=
  CodePoints.blank.holds c

def trim (text : List Char) : List Char :=
  ((text.dropWhile isBlank).reverse.dropWhile isBlank).reverse

namespace Decimal

def numeral (n : Nat) : List Char :=
  if n = 0 then ['0'] else (Positional.digits 10 n).map Nat.digitChar

def write (n : Int) : String :=
  String.ofList (if n < 0 then '-' :: numeral n.natAbs else numeral n.natAbs)

def ofDigitChar (c : Char) : Nat :=
  c.toNat - 48

def magnitude? (digits : List Char) : Option Nat :=
  if digits ≠ [] ∧ digits.all Char.isDigit then
    some (Positional.value 10 (digits.map ofDigitChar))
  else none

def read? : List Char → Option Int
  | '-' :: digits => (magnitude? digits).map fun (n : Nat) => -(n : Int)
  | '+' :: digits => (magnitude? digits).map fun (n : Nat) => (n : Int)
  | digits => (magnitude? digits).map fun (n : Nat) => (n : Int)

theorem magnitude?_map_digitChar {ds : List Nat} (hne : ds ≠ []) (h : ∀ d ∈ ds, d < 10) :
    magnitude? (ds.map Nat.digitChar) = some (Positional.value 10 ds) := by
  have hd : (ds.map Nat.digitChar).map ofDigitChar = ds := by
    rw [List.map_map]
    exact (List.map_congr_left fun d hd => Nat.toNat_digitChar_sub_48_of_lt_ten (h d hd)).trans
      (List.map_id' ds)
  have ha : (ds.map Nat.digitChar).all Char.isDigit := by
    simpa [List.all_eq_true] using h
  rw [magnitude?, hd, if_pos ⟨by simpa using hne, ha⟩]

theorem magnitude?_numeral (n : Nat) : magnitude? (numeral n) = some n := by
  unfold numeral
  split
  · rename_i h
    subst h
    rfl
  · rename_i h
    have hb : 1 < 10 := by decide
    rw [magnitude?_map_digitChar (Positional.digits_ne_nil hb h)
      fun d hd => Positional.lt_of_mem_digits hb hd, Positional.value_digits hb]

theorem read?_of_magnitude? {digits : List Char} {n : Nat} (h : magnitude? digits = some n) :
    read? digits = some (n : Int) := by
  unfold read?
  split
  · simp [magnitude?] at h
  · simp [magnitude?] at h
  · simp [h]

theorem read?_write (n : Int) : read? (write n).toList = some n := by
  simp only [write, String.toList_ofList]
  split
  · rename_i h
    have hn : -(n.natAbs : Int) = n := by omega
    simp only [read?, magnitude?_numeral, Option.map_some, hn]
  · rename_i h
    rw [read?_of_magnitude? (magnitude?_numeral _), Option.some.injEq]
    omega

theorem numeral_eq (n : Nat) : numeral n = Nat.toDigits 10 n := by
  have hb : 1 < 10 := by decide
  unfold numeral
  split
  · next h => rw [h, Nat.toDigits_zero]
  · next h =>
    induction n using Nat.strongRecOn with
    | _ n ih =>
      rw [Positional.digits_of_ne_zero hb h, List.map_append, Nat.toDigits_eq_if hb]
      split
      · next hlt =>
        rw [Nat.div_eq_of_lt hlt, Positional.digits_zero hb, Nat.mod_eq_of_lt hlt]
        rfl
      · next hle =>
        rw [ih (n / 10) (by omega) (by omega)]
        rfl

theorem write_eq_toString (n : Int) : write n = toString n := by
  rw [Int.toString_eq_repr, Int.repr_eq_if, write]
  split
  · next h =>
    have hn : (-n).toNat = n.natAbs := by omega
    rw [if_neg (by omega), hn, numeral_eq, Nat.repr_eq_ofList_toDigits, ← String.toList_inj]
    simp
  · next h =>
    have hn : n.toNat = n.natAbs := by omega
    rw [if_pos (by omega), hn, numeral_eq, Nat.repr_eq_ofList_toDigits]

end Decimal
end Backstep
