import Backstep.Program.Reader

/-! What the scans of a cursor say about the symbols that are left. A scan that
matches passes just the symbols that it matched (`skip`), so a reader can be
described by the symbols it finds and by how many of them it passes. A table of
patterns of which none begins another is searched in any order. -/
namespace Backstep

namespace Cursor

variable {α : Type} {c c' : Cursor}

def skip (c : Cursor) (n : Nat) : Cursor :=
  { c with rest := c.rest.drop n }

theorem skip_skip (c : Cursor) (m n : Nat) : (c.skip m).skip n = c.skip (m + n) := by
  simp only [skip, List.drop_drop]

@[simp] theorem symbols_skip (c : Cursor) (n : Nat) : (c.skip n).symbols = c.symbols.drop n :=
  List.map_drop

theorem symbols_skip_append {taken rest : List Symbol} (h : c.symbols = taken ++ rest) :
    (c.skip taken.length).symbols = rest := by
  rw [symbols_skip, h, List.drop_left]

theorem atEnd_iff : c.atEnd = true ↔ c.symbols = [] := by
  simp [atEnd, symbols]

theorem scan?_of_begins {pattern : List Symbol} (h : pattern <+: c.symbols) :
    c.scan? pattern = some (c.skip pattern.length) := by
  obtain ⟨rest, hr⟩ := h
  have hmap : (c.rest.take pattern.length).map Mark.symbol = pattern := by
    have hm : (c.rest.take pattern.length).map Mark.symbol = c.symbols.take pattern.length :=
      List.map_take
    rw [hm, ← hr, List.take_left]
  rw [scan?_eq_some]
  exact ⟨c.rest.take pattern.length, (List.take_append_drop _ _).symm, hmap, rfl⟩

theorem begins_of_scan? {pattern : List Symbol} (h : c.scan? pattern = some c') :
    pattern <+: c.symbols := by
  obtain ⟨taken, hr, hp, -⟩ := scan?_eq_some.mp h
  refine ⟨c'.symbols, ?_⟩
  rw [symbols, symbols, hr, List.map_append, hp]

theorem scan?_cases (pattern : List Symbol) (c : Cursor) :
    pattern <+: c.symbols ∧ c.scan? pattern = some (c.skip pattern.length) ∨
      ¬ pattern <+: c.symbols ∧ c.scan? pattern = none := by
  by_cases hb : pattern <+: c.symbols
  · exact Or.inl ⟨hb, scan?_of_begins hb⟩
  · refine Or.inr ⟨hb, ?_⟩
    cases hs : c.scan? pattern with
    | none => rfl
    | some c' => exact absurd (begins_of_scan? hs) hb

theorem select?_cases (table : List (List Symbol × α)) (c : Cursor) :
    (∃ pattern a, (pattern, a) ∈ table ∧ pattern <+: c.symbols ∧
      c.select? table = some (a, c.skip pattern.length)) ∨
    (∀ pattern a, (pattern, a) ∈ table → ¬ pattern <+: c.symbols) ∧ c.select? table = none := by
  induction table with
  | nil =>
    refine Or.inr ⟨?_, rfl⟩
    intro pattern a hm
    cases hm
  | cons entry table ih =>
    obtain ⟨pattern, a⟩ := entry
    rcases c.scan?_cases pattern with ⟨hb, hscan⟩ | ⟨hb, hscan⟩
    · refine Or.inl ⟨pattern, a, List.mem_cons_self, hb, ?_⟩
      rw [select?, hscan]
    · have hselect : c.select? ((pattern, a) :: table) = c.select? table := by
        rw [select?, hscan]
      rcases ih with ⟨q, b, hm, hq, he⟩ | ⟨hnone, he⟩
      · exact Or.inl ⟨q, b, List.mem_cons_of_mem _ hm, hq, hselect.trans he⟩
      · refine Or.inr ⟨?_, hselect.trans he⟩
        intro q b hm
        rcases List.mem_cons.mp hm with h | h
        · cases h
          exact hb
        · exact hnone q b h

end Cursor

/-! Runs of spaces and tabs. -/

/-- A run of spaces and tabs that is not empty. -/
def Symbol.IsRun (run : List Symbol) : Prop :=
  run ≠ [] ∧ .lineFeed ∉ run

instance : DecidablePred Symbol.IsRun :=
  fun run => inferInstanceAs (Decidable (run ≠ [] ∧ .lineFeed ∉ run))

/-- The line feed after a run is the first one of the text. -/
theorem Symbol.eq_of_terminated {run run' w : List Symbol} (hr : .lineFeed ∉ run)
    (hr' : .lineFeed ∉ run') (h : run ++ [.lineFeed] <+: w) (h' : run' ++ [.lineFeed] <+: w) :
    run = run' := by
  induction run generalizing run' w with
  | nil =>
    obtain ⟨rest, rfl⟩ := h
    obtain ⟨rest', he⟩ := h'
    cases run' with
    | nil => rfl
    | cons s run' =>
      cases he
      exact absurd List.mem_cons_self hr'
  | cons s run ih =>
    obtain ⟨rest, rfl⟩ := h
    obtain ⟨rest', he⟩ := h'
    cases run' with
    | nil =>
      cases he
      exact absurd List.mem_cons_self hr
    | cons s' run' =>
      simp only [List.cons_append, List.cons.injEq] at he
      obtain ⟨rfl, he⟩ := he
      have hrun := ih (fun hm => hr (List.mem_cons_of_mem _ hm))
        (fun hm => hr' (List.mem_cons_of_mem _ hm)) (List.prefix_append _ rest) ⟨rest', he⟩
      rw [hrun]

namespace Cursor

variable {c : Cursor}

theorem parameter?_of_begins {run : List Symbol} (hr : Symbol.IsRun run)
    (h : run ++ [.lineFeed] <+: c.symbols) :
    c.parameter? = some (run, c.skip (run ++ [Symbol.lineFeed]).length) := by
  obtain ⟨rest, hrest⟩ := h
  obtain ⟨taken, left, hc, htaken, -⟩ := List.map_eq_append_iff.mp hrest.symm
  obtain ⟨marks, last, rfl, hmarks, hlast⟩ := List.map_eq_append_iff.mp htaken
  obtain ⟨m, rfl, hm⟩ := List.map_eq_singleton_iff.mp hlast
  have hlength : (run ++ [Symbol.lineFeed]).length = (marks ++ [m]).length := by
    rw [← hmarks, List.length_append, List.length_append, List.length_map]
    rfl
  have hskip : (c.skip (run ++ [Symbol.lineFeed]).length).rest = left := by
    rw [skip, hlength, hc, List.drop_left]
  refine parameter?_eq_some.mpr ⟨hr.1, ?_, rfl⟩
  rw [hskip, Mark.untilLineFeed?_eq_some]
  exact ⟨hr.2, marks, m, by rw [hc, List.append_assoc]; rfl, hmarks, hm⟩

theorem parameter?_cases (c : Cursor) :
    (∃ run, Symbol.IsRun run ∧ run ++ [.lineFeed] <+: c.symbols ∧
      c.parameter? = some (run, c.skip (run ++ [Symbol.lineFeed]).length)) ∨
    (∀ run, Symbol.IsRun run → ¬ run ++ [.lineFeed] <+: c.symbols) ∧ c.parameter? = none := by
  cases hp : c.parameter? with
  | some found =>
    obtain ⟨run, c'⟩ := found
    obtain ⟨hne, hu, -⟩ := parameter?_eq_some.mp hp
    have hrun : Symbol.IsRun run := ⟨hne, (Mark.untilLineFeed?_eq_some.mp hu).1⟩
    have hbegins : run ++ [.lineFeed] <+: c.symbols := by
      rw [symbols_of_parameter? hp]
      exact ⟨c'.symbols, List.append_assoc _ _ _⟩
    exact Or.inl ⟨run, hrun, hbegins, hp.symm.trans (parameter?_of_begins hrun hbegins)⟩
  | none =>
    refine Or.inr ⟨?_, rfl⟩
    intro run hrun hbegins
    rw [parameter?_of_begins hrun hbegins] at hp
    cases hp

end Cursor

/-! Where a cursor stands in the text. -/

/-- The text goes on with a symbol, or it has ended. -/
def Symbol.Leads (text : List Char) : Prop :=
  ∀ ch ∈ text.head?, (Symbol.ofChar? ch).isSome

theorem Mark.drop_ofText (here : Location) (text : List Char) {n : Nat}
    (hn : n ≤ (Symbol.ofText text).length) :
    ∃ seen left, text = seen ++ left ∧ (Symbol.ofText seen).length = n ∧ Symbol.Leads left ∧
      (ofText here text).drop n = ofText (here.advanceAll seen) left := by
  induction text generalizing here n with
  | nil =>
    obtain rfl : n = 0 := Nat.le_zero.mp hn
    refine ⟨[], [], rfl, rfl, ?_, rfl⟩
    intro ch hch
    cases hch
  | cons ch text ih =>
    cases hs : Symbol.ofChar? ch with
    | none =>
      have hcons : ∀ t, Symbol.ofText (ch :: t) = Symbol.ofText t := fun t =>
        List.filterMap_cons_none hs
      rw [hcons] at hn
      obtain ⟨seen, left, rfl, hlen, hleads, hdrop⟩ := ih (here.advance ch) hn
      refine ⟨ch :: seen, left, rfl, by rw [hcons, hlen], hleads, ?_⟩
      simp only [ofText, hs]
      exact hdrop
    | some s =>
      have hcons : ∀ t, Symbol.ofText (ch :: t) = s :: Symbol.ofText t := fun t =>
        List.filterMap_cons_some hs
      cases n with
      | zero =>
        refine ⟨[], ch :: text, rfl, rfl, ?_, rfl⟩
        intro d hd
        cases hd
        rw [hs]
        rfl
      | succ n =>
        rw [hcons, List.length_cons] at hn
        obtain ⟨seen, left, rfl, hlen, hleads, hdrop⟩ :=
          ih (here.advance ch) (Nat.le_of_succ_le_succ hn)
        refine ⟨ch :: seen, left, rfl, by rw [hcons, List.length_cons, hlen], hleads, ?_⟩
        simp only [ofText, hs]
        exact hdrop

/-- A cursor that has passed the symbols `taken` stands on the symbol after them. -/
theorem Cursor.skip_ofText {text : List Char} {taken rest : List Symbol}
    (h : Symbol.ofText text = taken ++ rest) :
    ∃ seen left, text = seen ++ left ∧ Symbol.ofText seen = taken ∧ Symbol.Leads left ∧
      ((ofText text).skip taken.length).location = Location.first.advanceAll seen ∧
      ((ofText text).skip taken.length).symbols = Symbol.ofText left := by
  have hn : taken.length ≤ (Symbol.ofText text).length := by
    rw [h, List.length_append]
    exact Nat.le_add_right _ _
  obtain ⟨seen, left, rfl, hlen, hleads, hdrop⟩ := Mark.drop_ofText Location.first text hn
  rw [Symbol.ofText_append] at h
  obtain ⟨hseen, -⟩ := List.append_inj h hlen
  refine ⟨seen, left, rfl, hseen, hleads, ?_, ?_⟩
  · cases left with
    | nil =>
      rw [List.append_nil] at hdrop ⊢
      simp only [location, skip, ofText, hdrop, Mark.ofText]
    | cons ch left =>
      obtain ⟨s, hs⟩ := Option.isSome_iff_exists.mp (hleads ch rfl)
      simp only [location, skip, ofText, hdrop, Mark.ofText, hs]
  · rw [symbols, skip, ofText, hdrop, Mark.map_symbol_ofText]

end Backstep
