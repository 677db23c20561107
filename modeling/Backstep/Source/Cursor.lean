import Backstep.Source.Location
import Backstep.Source.Symbol

/-!
# Cursors

A cursor walks over the symbols of a text. Comments are dropped once, when the
cursor is made, and every symbol keeps the location it had in the text. All
matching is all or nothing: a cursor moves only past a whole match.
-/
namespace Backstep

/-- A symbol together with its location in the text. -/
structure Mark where
  symbol : Symbol
  location : Location
  deriving DecidableEq

namespace Mark

/-- The marks of a text whose first character stands at `here`. -/
def ofText (here : Location) : List Char → List Mark
  | [] => []
  | c :: text =>
    match Symbol.ofChar? c with
    | some s => ⟨s, here⟩ :: ofText (here.advance c) text
    | none => ofText (here.advance c) text

theorem map_symbol_ofText (here : Location) (text : List Char) :
    (ofText here text).map symbol = Symbol.ofText text := by
  induction text generalizing here with
  | nil => rfl
  | cons c text ih =>
    simp only [ofText, Symbol.ofText, List.filterMap_cons]
    cases Symbol.ofChar? c <;> simp [ih, Symbol.ofText]

theorem ofText_append (here : Location) (a b : List Char) :
    ofText here (a ++ b) = ofText here a ++ ofText (here.advanceAll a) b := by
  induction a generalizing here with
  | nil => rfl
  | cons c a ih =>
    simp only [List.cons_append, ofText, Location.advanceAll_cons, ih]
    cases Symbol.ofChar? c <;> rfl

/-- What is left of `marks` after the symbols of `pattern`. -/
def strip? : List Symbol → List Mark → Option (List Mark)
  | [], marks => some marks
  | _ :: _, [] => none
  | s :: pattern, m :: marks => if m.symbol = s then strip? pattern marks else none

theorem strip?_eq_some {pattern : List Symbol} {marks rest : List Mark} :
    strip? pattern marks = some rest ↔
      ∃ taken, marks = taken ++ rest ∧ taken.map symbol = pattern := by
  induction pattern generalizing marks with
  | nil =>
    simp only [strip?, Option.some.injEq, List.map_eq_nil_iff]
    exact ⟨fun h => ⟨[], h, rfl⟩, fun ⟨_, h, ht⟩ => by simpa [ht] using h⟩
  | cons s pattern ih =>
    cases marks with
    | nil => simp [strip?]
    | cons m marks =>
      by_cases h : m.symbol = s
      · simp only [strip?, h, if_true, ih]
        constructor
        · rintro ⟨taken, rfl, rfl⟩
          exact ⟨m :: taken, by simp [h]⟩
        · rintro ⟨_ | ⟨m', taken⟩, ht, hp⟩
          · simp at hp
          · simp only [List.map_cons, List.cons.injEq] at hp
            simp only [List.cons_append, List.cons.injEq] at ht
            exact ⟨taken, ht.2, hp.2⟩
      · simp only [strip?, h, if_false, reduceCtorEq, false_iff]
        rintro ⟨_ | ⟨m', taken⟩, ht, hp⟩
        · simp at hp
        · simp only [List.map_cons, List.cons.injEq] at hp
          simp only [List.cons_append, List.cons.injEq] at ht
          exact h (ht.1 ▸ hp.1)

/-- The run before the first line feed, and the marks after it. -/
def untilLineFeed? : List Mark → Option (List Symbol × List Mark)
  | [] => none
  | m :: marks =>
    if m.symbol = .lineFeed then some ([], marks)
    else (untilLineFeed? marks).map fun (run, rest) => (m.symbol :: run, rest)

theorem untilLineFeed?_eq_some {marks rest : List Mark} {run : List Symbol} :
    untilLineFeed? marks = some (run, rest) ↔
      Symbol.lineFeed ∉ run ∧ ∃ taken m, marks = taken ++ m :: rest ∧
        taken.map symbol = run ∧ m.symbol = .lineFeed := by
  induction marks generalizing run with
  | nil => simp [untilLineFeed?]
  | cons m marks ih =>
    by_cases h : m.symbol = .lineFeed
    · simp only [untilLineFeed?, h, if_true, Option.some.injEq, Prod.mk.injEq]
      constructor
      · rintro ⟨rfl, rfl⟩
        exact ⟨by simp, [], m, rfl, rfl, h⟩
      · rintro ⟨hn, _ | ⟨m', taken⟩, n, ht, rfl, -⟩
        · simp_all
        · simp only [List.cons_append, List.cons.injEq] at ht
          simp [← ht.1, h] at hn
    · simp only [untilLineFeed?, h, if_false, Option.map_eq_some_iff]
      constructor
      · rintro ⟨⟨run', rest'⟩, hu, he⟩
        simp only [Prod.mk.injEq] at he
        obtain ⟨rfl, rfl⟩ := he
        obtain ⟨hn, taken, n, rfl, rfl, hf⟩ := ih.1 hu
        exact ⟨by simp [hn, Ne.symm h], m :: taken, n, rfl, rfl, hf⟩
      · rintro ⟨hn, _ | ⟨m', taken⟩, n, ht, rfl, hf⟩
        · simp only [List.nil_append, List.cons.injEq] at ht
          exact absurd (ht.1 ▸ hf) h
        · simp only [List.cons_append, List.cons.injEq] at ht
          obtain ⟨rfl, rfl⟩ := ht
          simp only [List.map_cons, List.mem_cons, not_or] at hn
          exact ⟨(_, _), ih.2 ⟨hn.2, taken, n, rfl, rfl, hf⟩, rfl⟩

theorem untilLineFeed?_eq_none {marks : List Mark} :
    untilLineFeed? marks = none ↔ Symbol.lineFeed ∉ marks.map symbol := by
  induction marks with
  | nil => simp [untilLineFeed?]
  | cons m marks ih =>
    by_cases h : m.symbol = .lineFeed
    · simp [untilLineFeed?, h]
    · simp only [untilLineFeed?, h, if_false, Option.map_eq_none_iff, ih, List.map_cons,
        List.mem_cons, not_or, Ne.symm h, not_false_eq_true, true_and]

end Mark

structure Cursor where
  rest : List Mark
  /-- The location after the last character of the text. -/
  stop : Location

namespace Cursor

def ofText (text : List Char) : Cursor :=
  ⟨Mark.ofText Location.first text, Location.first.advanceAll text⟩

def ofString (source : String) : Cursor :=
  ofText source.toList

def symbols (c : Cursor) : List Symbol :=
  c.rest.map Mark.symbol

@[simp] theorem symbols_ofText (text : List Char) : (ofText text).symbols = Symbol.ofText text :=
  Mark.map_symbol_ofText _ _

def atEnd (c : Cursor) : Bool :=
  c.rest.isEmpty

/-- Where the next symbol stands, or where the text ends. -/
def location (c : Cursor) : Location :=
  match c.rest with
  | [] => c.stop
  | m :: _ => m.location

/-- Passes `pattern` if the text goes on with it. -/
def scan? (pattern : List Symbol) (c : Cursor) : Option Cursor :=
  (Mark.strip? pattern c.rest).map fun rest => { c with rest }

/-- Passes the first pattern of the table that the text goes on with. -/
def select? {α : Type} : List (List Symbol × α) → Cursor → Option (α × Cursor)
  | [], _ => none
  | (pattern, a) :: table, c =>
    match c.scan? pattern with
    | some c' => some (a, c')
    | none => select? table c

/-- Passes a nonempty run of spaces and tabs and the line feed that ends it. -/
def parameter? (c : Cursor) : Option (List Symbol × Cursor) :=
  match Mark.untilLineFeed? c.rest with
  | some (s :: run, rest) => some (s :: run, { c with rest })
  | _ => none

/-- The next `n` symbols as letters, for diagnostics. -/
def lookahead (n : Nat) (c : Cursor) : String :=
  match c.rest with
  | [] => "end of input"
  | _ :: _ => Symbol.letters ((c.rest.take n).map Mark.symbol)

theorem scan?_eq_some {pattern : List Symbol} {c c' : Cursor} :
    c.scan? pattern = some c' ↔
      ∃ taken, c.rest = taken ++ c'.rest ∧ taken.map Mark.symbol = pattern ∧ c'.stop = c.stop := by
  simp only [scan?, Option.map_eq_some_iff, Mark.strip?_eq_some]
  constructor
  · rintro ⟨rest, ⟨taken, h, hp⟩, rfl⟩
    exact ⟨taken, h, hp, rfl⟩
  · rintro ⟨taken, h, hp, hs⟩
    exact ⟨c'.rest, ⟨taken, h, hp⟩, by cases c'; simp_all⟩

theorem length_of_scan? {pattern : List Symbol} {c c' : Cursor} (h : c.scan? pattern = some c') :
    c.rest.length = pattern.length + c'.rest.length := by
  obtain ⟨taken, hr, rfl, -⟩ := scan?_eq_some.1 h
  simp [hr]

theorem select?_eq_some {α : Type} {table : List (List Symbol × α)} {c c' : Cursor} {a : α}
    (h : c.select? table = some (a, c')) :
    ∃ pattern, (pattern, a) ∈ table ∧ c.scan? pattern = some c' := by
  induction table with
  | nil => simp [select?] at h
  | cons entry table ih =>
    obtain ⟨pattern, b⟩ := entry
    simp only [select?] at h
    split at h
    · next hs =>
      simp only [Option.some.injEq, Prod.mk.injEq] at h
      obtain ⟨rfl, rfl⟩ := h
      exact ⟨pattern, by simp, hs⟩
    · obtain ⟨p, hp, hs⟩ := ih h
      exact ⟨p, by simp [hp], hs⟩

theorem parameter?_eq_some {c c' : Cursor} {run : List Symbol} :
    c.parameter? = some (run, c') ↔
      run ≠ [] ∧ Mark.untilLineFeed? c.rest = some (run, c'.rest) ∧ c'.stop = c.stop := by
  unfold parameter?
  split
  · next s run' rest h =>
    rw [h]
    cases c'
    constructor
    · rintro ⟨⟩
      simp
    · rintro ⟨-, ⟨⟩, rfl⟩
      rfl
  · next h =>
    simp only [reduceCtorEq, false_iff, not_and]
    intro hr hu
    obtain ⟨s, run, rfl⟩ := List.exists_cons_of_ne_nil hr
    exact absurd hu (h _ _ _)

theorem symbols_of_parameter? {c c' : Cursor} {run : List Symbol}
    (h : c.parameter? = some (run, c')) : c.symbols = run ++ .lineFeed :: c'.symbols := by
  obtain ⟨-, h, -⟩ := parameter?_eq_some.1 h
  obtain ⟨-, taken, m, ht, rfl, hm⟩ := Mark.untilLineFeed?_eq_some.1 h
  simp [symbols, ht, hm]

theorem length_of_parameter? {c c' : Cursor} {run : List Symbol}
    (h : c.parameter? = some (run, c')) : c'.rest.length < c.rest.length := by
  have h := congrArg List.length (symbols_of_parameter? h)
  simp only [symbols, List.length_map, List.length_append, List.length_cons] at h
  omega

end Cursor
end Backstep
