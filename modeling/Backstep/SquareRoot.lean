/-!
# Square roots

The square root of a natural number, rounded down and rounded to nearest.
-/
namespace Backstep

/-- The root has one binary digit for every two of the number. -/
def squareRoot (n : Nat) : Nat :=
  if n = 0 then 0
  else
    let r := 2 * squareRoot (n / 4)
    if (r + 1) * (r + 1) ≤ n then r + 1 else r
termination_by n
decreasing_by omega

theorem squareRoot_bounds (n : Nat) :
    squareRoot n * squareRoot n ≤ n ∧ n < (squareRoot n + 1) * (squareRoot n + 1) := by
  induction n using Nat.strongRecOn with
  | _ n ih =>
    rw [squareRoot]
    split
    · simp_all
    · have h := ih (n / 4) (by omega)
      generalize squareRoot (n / 4) = r at h
      have hl : 4 * (r * r) ≤ n := by omega
      have hu : n < 4 * ((r + 1) * (r + 1)) := by omega
      dsimp only
      split <;> grind

def nearestRoot (n : Nat) : Nat :=
  let r := squareRoot n
  if n ≤ r * r + r then r else r + 1

/-- The root is less than a half away, for no square of a half lies on a natural number. -/
theorem nearestRoot_near (n : Nat) :
    nearestRoot n * nearestRoot n ≤ n + nearestRoot n ∧
      n ≤ nearestRoot n * nearestRoot n + nearestRoot n := by
  have h := squareRoot_bounds n
  simp only [nearestRoot]
  generalize squareRoot n = r at h
  split <;> grind

end Backstep
