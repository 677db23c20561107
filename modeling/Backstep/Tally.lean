/-!
# Tallies

The sum of a size over a list.
-/
namespace Backstep

def tally {α : Type} (size : α → Nat) (as : List α) : Nat :=
  as.foldl (fun n a => n + size a) 0

theorem foldl_add_size {α : Type} (size : α → Nat) (as : List α) (n : Nat) :
    as.foldl (fun n a => n + size a) n = n + tally size as := by
  induction as generalizing n with
  | nil => rfl
  | cons a as ih =>
    have h := ih (0 + size a)
    simp only [tally, List.foldl_cons, ih (n + size a)] at h ⊢
    omega

@[simp] theorem tally_nil {α : Type} (size : α → Nat) : tally size [] = 0 := rfl

@[simp] theorem tally_cons {α : Type} (size : α → Nat) (a : α) (as : List α) :
    tally size (a :: as) = size a + tally size as := by
  have h := foldl_add_size size as (0 + size a)
  simp only [tally, List.foldl_cons] at h ⊢
  omega

@[simp] theorem tally_append {α : Type} (size : α → Nat) (as bs : List α) :
    tally size (as ++ bs) = tally size as + tally size bs := by
  induction as with
  | nil => simp
  | cons a as ih =>
    simp only [List.cons_append, tally_cons, ih]
    omega

theorem tally_eq_of_perm {α : Type} (size : α → Nat) {as bs : List α} (h : as.Perm bs) :
    tally size as = tally size bs := by
  induction h with
  | nil => rfl
  | cons a _ ih => rw [tally_cons, tally_cons, ih]
  | swap a b as =>
    simp only [tally_cons]
    omega
  | trans _ _ ih₁ ih₂ => rw [ih₁, ih₂]

end Backstep
