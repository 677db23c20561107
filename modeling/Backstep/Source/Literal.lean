import Backstep.Positional
import Backstep.Source.Symbol

/-!
# Number literals

A literal is a sign followed by binary digits, most significant first. A space
is the sign of a number that is not negative and the digit zero; a tab is the
negative sign and the digit one. Zero is written as the sign alone.
-/
namespace Backstep
namespace Literal

def digit? : Symbol → Option Nat
  | .space => some 0
  | .tab => some 1
  | .lineFeed => none

/-- The magnitude of a run of digits. -/
def magnitude? (run : List Symbol) : Option Nat :=
  (run.mapM digit?).map (Positional.value 2)

/-- The value of a literal without its terminator. -/
def decode? : List Symbol → Option Int
  | [] => none
  | .space :: run => (magnitude? run).map fun (n : Nat) => (n : Int)
  | .tab :: run => (magnitude? run).map fun (n : Nat) => -(n : Int)
  | .lineFeed :: _ => none

def ofDigit (d : Nat) : Symbol :=
  if d = 0 then .space else .tab

/-- The binary digits of `n`, none for zero. -/
def digits (n : Nat) : List Symbol :=
  (Positional.digits 2 n).map ofDigit

def sign (n : Int) : Symbol :=
  if n < 0 then .tab else .space

/-- The shortest literal of `n`, with its terminator. -/
def encode (n : Int) : List Symbol :=
  sign n :: digits n.natAbs ++ [.lineFeed]

theorem digit?_ofDigit {d : Nat} (h : d < 2) : digit? (ofDigit d) = some d := by
  obtain rfl | rfl : d = 0 ∨ d = 1 := by omega
  · rfl
  · rfl

theorem mapM_digit?_map_ofDigit {ds : List Nat} (h : ∀ d ∈ ds, d < 2) :
    (ds.map ofDigit).mapM digit? = some ds := by
  induction ds with
  | nil => rfl
  | cons d ds ih =>
    have hd := digit?_ofDigit (h d (by simp))
    have hs := ih fun e he => h e (by simp [he])
    simp [List.mapM_cons, hd, hs]

theorem magnitude?_digits (n : Nat) : magnitude? (digits n) = some n := by
  have h : (digits n).mapM digit? = some (Positional.digits 2 n) :=
    mapM_digit?_map_ofDigit fun d hd => Positional.lt_of_mem_digits (by decide) hd
  rw [magnitude?, h, Option.map_some, Positional.value_digits (by decide)]

theorem lineFeed_not_mem_digits (n : Nat) : Symbol.lineFeed ∉ digits n := by
  intro h
  obtain ⟨d, -, hd⟩ := List.mem_map.1 h
  unfold ofDigit at hd
  split at hd <;> cases hd

theorem decode?_encode (n : Int) : decode? (sign n :: digits n.natAbs) = some n := by
  unfold sign
  split <;> simp only [decode?, magnitude?_digits, Option.map_some, Option.some.injEq] <;> omega

end Literal
end Backstep
