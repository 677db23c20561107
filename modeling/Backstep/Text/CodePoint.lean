/-!
# Classes of characters

A class of characters is given by the ranges of code points it holds, in
increasing order, both ends included.
-/
namespace Backstep

abbrev CodePoints := List (Nat × Nat)

namespace CodePoints

/-- The search ends at the first range beyond the character. -/
def holds : CodePoints → Char → Bool
  | [], _ => false
  | (first, last) :: ranges, c =>
    if c.toNat < first then false else c.toNat ≤ last || holds ranges c

theorem exists_of_holds {points : CodePoints} {c : Char} (h : points.holds c = true) :
    ∃ range ∈ points, range.1 ≤ c.toNat ∧ c.toNat ≤ range.2 := by
  induction points with
  | nil => simp [holds] at h
  | cons range points ih =>
    simp only [holds] at h
    split at h
    · simp at h
    · rename_i hfirst
      rcases Bool.or_eq_true_iff.1 h with hlast | hrest
      · exact ⟨range, List.mem_cons_self, by omega, of_decide_eq_true hlast⟩
      · obtain ⟨other, hmem, hbounds⟩ := ih hrest
        exact ⟨other, List.mem_cons_of_mem _ hmem, hbounds⟩

/-- Characters with the property White_Space. -/
def blank : CodePoints :=
  [(0x9, 0xD), (0x20, 0x20), (0x85, 0x85), (0xA0, 0xA0), (0x1680, 0x1680), (0x2000, 0x200A),
   (0x2028, 0x2029), (0x202F, 0x202F), (0x205F, 0x205F), (0x3000, 0x3000)]

def control : CodePoints :=
  [(0x0, 0x1F), (0x7F, 0x9F)]

end CodePoints
end Backstep
