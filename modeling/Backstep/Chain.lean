/-!
# Chains

A chain is a list whose links also know how long the chain is and have, beside
the link to the next item, one that leads further down. A deep item is reached
in few steps that way, and a chain shares its links with the chains it was
built from. Main statements: `toList_drop` and `eq_of_toList_eq`.
-/
namespace Backstep

inductive Chain (α : Type) where
  | empty
  | link (item : α) (length : Nat) (next : Chain α) (far : Chain α)

namespace Chain

variable {α : Type}

def toList : Chain α → List α
  | empty => []
  | link a _ next _ => a :: next.toList

def length : Chain α → Nat
  | empty => 0
  | link _ n _ _ => n

def far : Chain α → Chain α
  | empty => empty
  | link _ _ _ far => far

/-- Where a link in front of the chain leads beside its next item: over two far links of equal
reach, or to the next item again. -/
def target (c : Chain α) : Chain α :=
  if c.length - c.far.length = c.far.length - c.far.far.length then c.far.far else c

def cons (a : α) (c : Chain α) : Chain α :=
  link a (c.length + 1) c c.target

def drop : Nat → Chain α → Chain α
  | _, empty => empty
  | n, link a length next far =>
    if n = 0 then link a length next far
    else if length - far.length ≤ n then far.drop (n - (length - far.length))
    else next.drop (n - 1)

def head? : Chain α → Option α
  | empty => none
  | link a _ _ _ => some a

def get? (c : Chain α) (n : Nat) : Option α :=
  (c.drop n).head?

/-- Every link is one that `cons` makes. -/
def Sound : Chain α → Prop
  | empty => True
  | link _ length next far => length = next.length + 1 ∧ far = next.target ∧ next.Sound

theorem sound_cons {c : Chain α} (a : α) (h : c.Sound) : (cons a c).Sound :=
  ⟨rfl, rfl, h⟩

theorem length_eq {c : Chain α} (h : c.Sound) : c.length = c.toList.length := by
  induction c with
  | empty => rfl
  | link a n next far ih _ =>
    obtain ⟨rfl, -, hs⟩ := h
    rw [toList, List.length_cons, ← ih hs]
    rfl

theorem head?_eq (c : Chain α) : c.head? = c.toList.head? := by
  cases c <;> rfl

theorem eq_of_toList_eq {c d : Chain α} (hc : c.Sound) (hd : d.Sound) (h : c.toList = d.toList) :
    c = d := by
  induction c generalizing d with
  | empty =>
    cases d with
    | empty => rfl
    | link => simp [toList] at h
  | link a n next far ih _ =>
    cases d with
    | empty => simp [toList] at h
    | link b m next' far' =>
      obtain ⟨rfl, rfl, hc⟩ := hc
      obtain ⟨rfl, rfl, hd⟩ := hd
      simp only [toList, List.cons.injEq] at h
      obtain ⟨rfl, h⟩ := h
      rw [ih hc hd h]

/-- The chain `d` is what remains of `c` further down. -/
structure Reaches (c d : Chain α) : Prop where
  sound : d.Sound
  length_le : d.length ≤ c.length
  toList_eq : d.toList = c.toList.drop (c.length - d.length)

theorem Reaches.trans {c d e : Chain α} (h : c.Reaches d) (h' : d.Reaches e) : c.Reaches e where
  sound := h'.sound
  length_le := Nat.le_trans h'.length_le h.length_le
  toList_eq := by
    have hl := h.length_le
    have hl' := h'.length_le
    rw [h'.toList_eq, h.toList_eq, List.drop_drop]
    congr 1
    omega

theorem Reaches.refl {c : Chain α} (h : c.Sound) : c.Reaches c :=
  ⟨h, Nat.le_refl _, by simp⟩

theorem Reaches.next {a : α} {c d : Chain α} (h : c.Reaches d) : (cons a c).Reaches d where
  sound := h.sound
  length_le := Nat.le_succ_of_le h.length_le
  toList_eq := by
    have hl := h.length_le
    have hc : (cons a c).length = c.length + 1 := rfl
    have hd : (cons a c).length - d.length = (c.length - d.length) + 1 := by omega
    rw [hd, h.toList_eq]
    rfl

theorem reaches_far {c : Chain α} (h : c.Sound) :
    c.Reaches c.far ∧ c.far.Reaches c.far.far := by
  induction c with
  | empty => exact ⟨Reaches.refl h, Reaches.refl h⟩
  | link a n next far ih ihf =>
    obtain ⟨rfl, rfl, hs⟩ := h
    have ht : next.Reaches next.target := by
      unfold target
      split
      · exact (ih hs).1.trans (ih hs).2
      · exact Reaches.refl hs
    exact ⟨ht.next, (ihf ht.sound).1⟩

theorem sound_drop {c : Chain α} (n : Nat) (h : c.Sound) : (c.drop n).Sound := by
  induction c generalizing n with
  | empty => exact h
  | link a m next far ih ihf =>
    simp only [drop]
    split
    · exact h
    · split
      · exact ihf _ (reaches_far h).1.sound
      · exact ih _ h.2.2

theorem toList_drop {c : Chain α} (n : Nat) (h : c.Sound) :
    (c.drop n).toList = c.toList.drop n := by
  induction c generalizing n with
  | empty => simp [drop, toList]
  | link a m next far ih ihf =>
    have hr := (reaches_far h).1
    simp only [drop]
    split
    · rename_i h0
      rw [h0, List.drop_zero]
    · split
      · rename_i hle
        have hf : far.toList = (link a m next far).toList.drop (m - far.length) := hr.toList_eq
        rw [ihf _ hr.sound, hf, List.drop_drop]
        congr 1
        omega
      · obtain ⟨k, rfl⟩ : ∃ k, n = k + 1 := ⟨n - 1, by omega⟩
        rw [ih _ h.2.2]
        rfl

theorem get?_eq {c : Chain α} (n : Nat) (h : c.Sound) : c.get? n = c.toList[n]? := by
  rw [get?, head?_eq, toList_drop n h, List.head?_drop]

end Chain
end Backstep
