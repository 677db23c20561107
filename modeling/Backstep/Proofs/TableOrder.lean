import Backstep.Proofs.Scanning
import Mathlib.Data.List.Pairwise

/-! The order of a table. The first pattern that matches is taken, but if none begins
another then no two of them match at one place. So the entries of such a table can
stand in any order, wherever in a text a cursor has come to. -/
namespace Backstep

variable {α : Type}

/-- No entry's pattern begins that of another. -/
def PrefixFree (table : List (List Symbol × α)) : Prop :=
  table.Pairwise fun e f => ¬ e.1 <+: f.1 ∧ ¬ f.1 <+: e.1

instance (table : List (List Symbol × α)) : Decidable (PrefixFree table) :=
  inferInstanceAs (Decidable (table.Pairwise _))

theorem prefixFree_groups : PrefixFree Group.table := by decide

theorem prefixFree_codeTable (g : Group) : PrefixFree g.codeTable := by
  have hall : ∀ g ∈ Group.all, PrefixFree g.codeTable := by decide
  exact hall g g.mem_all

theorem PrefixFree.eq_of_begins {table : List (List Symbol × α)} (h : PrefixFree table)
    {e f : List Symbol × α} (he : e ∈ table) (hf : f ∈ table) {w : List Symbol}
    (hew : e.1 <+: w) (hfw : f.1 <+: w) : e = f := by
  have hsymm : Std.Symm fun e f : List Symbol × α => ¬ e.1 <+: f.1 ∧ ¬ f.1 <+: e.1 :=
    ⟨fun _ _ h => ⟨h.2, h.1⟩⟩
  by_contra hne
  obtain ⟨hef, hfe⟩ := List.Pairwise.forall h he hf hne
  rcases List.prefix_or_prefix_of_prefix hew hfw with hle | hle
  · exact hef hle
  · exact hfe hle

namespace Cursor

/-- The value of the first entry that matches, and where the cursor stands after the search. -/
def search (table : List (List Symbol × α)) (c : Cursor) : Option α × Cursor :=
  match c.select? table with
  | some (a, c') => (some a, c')
  | none => (none, c)

/-- The requests that can move a cursor. -/
inductive Move : Type 1 where
  | scan (pattern : List Symbol)
  | search {β : Type} (table : List (List Symbol × β))
  | parameter

/-- Where the cursor stands after the request: where it stood before, unless something matched. -/
def move (c : Cursor) : Move → Cursor
  | .scan pattern => (c.scan? pattern).getD c
  | .search table => (c.search table).2
  | .parameter => (c.parameter?.map Prod.snd).getD c

def moveAll (c : Cursor) (moves : List Move) : Cursor :=
  moves.foldl move c

variable {table : List (List Symbol × α)} {c : Cursor}

theorem search_cases (table : List (List Symbol × α)) (c : Cursor) :
    (∃ pattern a, (pattern, a) ∈ table ∧ pattern <+: c.symbols ∧
      c.search table = (some a, c.skip pattern.length)) ∨
    (∀ pattern a, (pattern, a) ∈ table → ¬ pattern <+: c.symbols) ∧
      c.search table = (none, c) := by
  rw [search]
  rcases c.select?_cases table with ⟨pattern, a, hm, hb, hs⟩ | ⟨hnone, hs⟩
  · rw [hs]
    exact Or.inl ⟨pattern, a, hm, hb, rfl⟩
  · rw [hs]
    exact Or.inr ⟨hnone, rfl⟩

/-- A request passes some of the symbols that are left. -/
theorem exists_skip_move (c : Cursor) (m : Move) :
    ∃ k ≤ c.symbols.length, c.move m = c.skip k := by
  have hstays : ∃ k ≤ c.symbols.length, c = c.skip k := ⟨0, Nat.zero_le _, rfl⟩
  cases m with
  | scan pattern =>
    rw [move]
    rcases c.scan?_cases pattern with ⟨hb, hs⟩ | ⟨-, hs⟩
    · rw [hs]
      exact ⟨pattern.length, hb.length_le, rfl⟩
    · rw [hs]
      exact hstays
  | search table =>
    rw [move]
    rcases c.search_cases table with ⟨pattern, a, -, hb, hs⟩ | ⟨-, hs⟩
    · rw [hs]
      exact ⟨pattern.length, hb.length_le, rfl⟩
    · rw [hs]
      exact hstays
  | parameter =>
    rw [move]
    rcases c.parameter?_cases with ⟨run, -, hb, hs⟩ | ⟨-, hs⟩
    · rw [hs]
      exact ⟨_, hb.length_le, rfl⟩
    · rw [hs]
      exact hstays

theorem exists_skip_moveAll (c : Cursor) (moves : List Move) :
    ∃ n ≤ c.symbols.length, c.moveAll moves = c.skip n := by
  induction moves generalizing c with
  | nil => exact ⟨0, Nat.zero_le _, rfl⟩
  | cons m moves ih =>
    obtain ⟨k, hk, hm⟩ := c.exists_skip_move m
    obtain ⟨n, hn, hmoves⟩ := ih (c.move m)
    rw [hm, symbols_skip, List.length_drop] at hn
    refine ⟨k + n, by omega, ?_⟩
    change (c.move m).moveAll moves = _
    rw [hmoves, hm, skip_skip]

/-- In a table without ambiguity every entry that matches is the one that is found. -/
theorem search_of_begins (hfree : PrefixFree table) {pattern : List Symbol} {a : α}
    (hm : (pattern, a) ∈ table) (hb : pattern <+: c.symbols) :
    c.search table = (some a, c.skip pattern.length) := by
  rcases c.search_cases table with ⟨found, b, hm', hb', hs⟩ | ⟨hnone, -⟩
  · cases hfree.eq_of_begins hm hm' hb hb'
    exact hs
  · exact absurd hb (hnone pattern a hm)

theorem search_perm (hfree : PrefixFree table) {table' : List (List Symbol × α)}
    (hp : table'.Perm table) (c : Cursor) : c.search table' = c.search table := by
  rcases c.search_cases table' with ⟨pattern, a, hm, hb, hs⟩ | ⟨hnone, hs⟩
  · rw [hs, search_of_begins hfree (hp.mem_iff.mp hm) hb]
  · rcases c.search_cases table with ⟨pattern, a, hm, hb, -⟩ | ⟨-, hs'⟩
    · exact absurd hb (hnone pattern a (hp.mem_iff.mpr hm))
    · rw [hs, hs']

end Cursor

open Cursor in
/-- Wherever requests have brought a cursor to, a table without ambiguity gives the same in every
order. Nothing is found, and the cursor stays, just if no pattern matches; a pattern that does is
passed, and no symbol more. -/
theorem table_order_irrelevant (source : String) (moves : List Cursor.Move)
    (table : List (List Symbol × α)) (hfree : PrefixFree table) :
    let start := ofString source
    let w := Symbol.ofText source.toList
    ∃ n ≤ w.length, start.moveAll moves = start.skip n ∧
      let c := start.moveAll moves
      (∀ table' : List (List Symbol × α), table'.Perm table → c.search table' = c.search table) ∧
      ((c.search table).1 = none ↔ ∀ entry ∈ table, ¬ entry.1 <+: w.drop n) ∧
      ((c.search table).1 = none → (c.search table).2 = c) ∧
      ∀ entry ∈ table, entry.1 <+: w.drop n →
        c.search table = (some entry.2, start.skip (n + entry.1.length)) ∧
          n + entry.1.length ≤ w.length := by
  intro start w
  have hstart : start.symbols = w := symbols_ofText source.toList
  obtain ⟨n, hn, hmoves⟩ := start.exists_skip_moveAll moves
  rw [hstart] at hn
  refine ⟨n, hn, hmoves, ?_⟩
  intro c
  have hleft : c.symbols = w.drop n := by rw [← hstart, ← symbols_skip, ← hmoves]
  refine ⟨fun table' hp => search_perm hfree hp c, ?_, ?_, ?_⟩
  · rw [← hleft]
    rcases c.search_cases table with ⟨pattern, a, hm, hb, hs⟩ | ⟨hnone, hs⟩
    · rw [hs]
      exact iff_of_false (Option.some_ne_none a) fun h => h _ hm hb
    · rw [hs]
      exact iff_of_true rfl fun entry he => hnone entry.1 entry.2 he
  · intro hnone
    rcases c.search_cases table with ⟨pattern, a, -, -, hs⟩ | ⟨-, hs⟩
    · rw [hs] at hnone
      cases hnone
    · rw [hs]
  · intro entry he hb
    have hlength := hb.length_le
    rw [List.length_drop] at hlength
    rw [← hleft] at hb
    rw [search_of_begins hfree he hb]
    refine ⟨?_, by omega⟩
    change (_, (start.moveAll moves).skip _) = _
    rw [hmoves, skip_skip]

/-- The tables of the reader, searched backwards, still find the group and then the operation that
stand behind a parameter. -/
theorem table_order_irrelevant_discardN :
    let start := Cursor.ofString "\t\n \tx\n"
    let c := start.moveAll [.parameter]
    let d := start.moveAll [.parameter, .search Group.table]
    PrefixFree Group.table ∧ (c.search Group.table.reverse).1 = some .stack ∧
      PrefixFree (Group.codeTable .stack) ∧
      (d.search (Group.codeTable .stack).reverse).1 = some .discardN ∧
      (d.search (Group.codeTable .stack).reverse).2.atEnd = true := by
  intro start c d
  obtain ⟨-, -, -, hgroup, -⟩ := table_order_irrelevant "\t\n \tx\n" [.parameter]
    Group.table prefixFree_groups
  obtain ⟨-, -, -, hcode, -⟩ := table_order_irrelevant "\t\n \tx\n"
    [.parameter, .search Group.table] (Group.codeTable .stack) (prefixFree_codeTable .stack)
  refine ⟨prefixFree_groups, ?_, prefixFree_codeTable .stack, ?_, ?_⟩
  · rw [hgroup _ (List.reverse_perm _)]
    decide
  · rw [hcode _ (List.reverse_perm _)]
    decide
  · rw [hcode _ (List.reverse_perm _)]
    decide

end Backstep
