import Backstep.Proofs.Reading

/-! Where instructions and errors stand. The place of a character is counted from
the text before it (`Location.ofOffset`). An instruction has the place of its
first symbol, an error that of the first symbol which is not read, and the places
of a program's instructions increase. -/
namespace Backstep

namespace Location

/-- Locations are in order of their lines, and of their columns within a line. -/
instance : LT Location where
  lt a b := a.line < b.line ∨ a.line = b.line ∧ a.column < b.column

theorem lt_iff {a b : Location} :
    a < b ↔ a.line < b.line ∨ a.line = b.line ∧ a.column < b.column := Iff.rfl

/-- The place of the character at `offset`. -/
def ofOffset (text : List Char) (offset : Nat) : Location :=
  let seen := text.take offset
  { line := seen.count '\n' + 1
    column := (seen.reverse.takeWhile (· ≠ '\n')).length + 1 }

theorem advanceAll_first (seen : List Char) :
    first.advanceAll seen =
      ⟨seen.count '\n' + 1, (seen.reverse.takeWhile (· ≠ '\n')).length + 1⟩ := by
  -- the last character decides the column, so the induction takes it away first
  obtain ⟨back, rfl⟩ : ∃ back : List Char, seen = back.reverse := ⟨seen.reverse, by simp⟩
  induction back with
  | nil => rfl
  | cons c back ih =>
    simp only [List.reverse_cons, advanceAll_append, advanceAll_cons, advanceAll_nil, ih, advance]
    by_cases hc : c = '\n'
    · simp [hc]
    · simp [hc]

theorem ofOffset_append (seen left : List Char) :
    ofOffset (seen ++ left) seen.length = first.advanceAll seen := by
  simp only [ofOffset, List.take_left', advanceAll_first]

theorem lt_advanceAll (here : Location) {text : List Char} (h : text ≠ []) :
    here < here.advanceAll text := by
  induction text generalizing here with
  | nil => exact absurd rfl h
  | cons c text ih =>
    have hc : here < here.advance c := by
      rw [advance]
      split <;> simp [lt_iff]
    rw [advanceAll_cons]
    cases text with
    | nil => exact hc
    | cons d text =>
      have hrest := ih (here.advance c) (List.cons_ne_nil d text)
      simp only [lt_iff] at hc hrest ⊢
      omega

theorem ofOffset_lt {text : List Char} {m n : Nat} (h : m < n) (hn : n ≤ text.length) :
    ofOffset text m < ofOffset text n := by
  have hmore : (text.take n).drop m ≠ [] := by
    apply List.ne_nil_of_length_pos
    simp only [List.length_drop, List.length_take]
    omega
  have htake := List.take_append_drop m (text.take n)
  rw [List.take_take, Nat.min_eq_left (Nat.le_of_lt h)] at htake
  have hlt := lt_advanceAll (first.advanceAll (text.take m)) hmore
  rw [← advanceAll_append, htake, advanceAll_first, advanceAll_first] at hlt
  exact hlt

end Location

/-! The symbols of a text, each with the number of symbols before it as its rank. -/

namespace Symbol

structure StandsAt (text : List Char) (rank offset : Nat) (s : Symbol) : Prop where
  here : text[offset]?.bind ofChar? = some s
  before : (ofText (text.take offset)).length = rank

variable {text : List Char} {rank rank' offset offset' : Nat} {s s' : Symbol}

theorem StandsAt.lt_length (h : StandsAt text rank offset s) : offset < text.length := by
  obtain ⟨c, hc, -⟩ := Option.bind_eq_some_iff.mp h.here
  exact (List.getElem?_eq_some_iff.mp hc).1

theorem StandsAt.offset_lt (h : StandsAt text rank offset s)
    (h' : StandsAt text rank' offset' s') (hr : rank < rank') : offset < offset' := by
  apply Nat.lt_of_not_le
  intro hle
  have htake := List.take_append_drop offset' (text.take offset)
  rw [List.take_take, Nat.min_eq_left hle] at htake
  have hsymbols := congrArg (fun t => (ofText t).length) htake
  simp only [ofText_append, List.length_append, h.before, h'.before] at hsymbols
  omega

theorem StandsAt.location_lt (h : StandsAt text rank offset s)
    (h' : StandsAt text rank' offset' s') (hr : rank < rank') :
    Location.ofOffset text offset < Location.ofOffset text offset' :=
  Location.ofOffset_lt (h.offset_lt h' hr) (Nat.le_of_lt h'.lt_length)

end Symbol

namespace Cursor

variable {text : List Char} {taken rest : List Symbol} {s : Symbol}

/-- A cursor with symbols left is where the first of these stands. -/
theorem location_of_more (h : Symbol.ofText text = taken ++ s :: rest) :
    ∃ offset, Symbol.StandsAt text taken.length offset s ∧
      ((ofText text).skip taken.length).location = Location.ofOffset text offset := by
  obtain ⟨seen, left, rfl, hseen, hleads, hlocation, hleft⟩ := skip_ofText h
  rw [symbols_skip_append ((symbols_ofText _).trans h)] at hleft
  refine ⟨seen.length, ⟨?_, by simp [hseen]⟩, hlocation.trans (Location.ofOffset_append _ _).symm⟩
  cases left with
  | nil => cases hleft
  | cons c left =>
    obtain ⟨t, ht⟩ := Option.isSome_iff_exists.mp (hleads c rfl)
    rw [Symbol.ofText, List.filterMap_cons_some ht] at hleft
    cases hleft
    simpa using ht

/-- A cursor that has passed all symbols is at the end of the text. -/
theorem location_of_end (h : Symbol.ofText text = taken) :
    ((ofText text).skip taken.length).location = Location.ofOffset text text.length := by
  have hlength : taken.length = (ofText text).rest.length := by
    rw [← h, ← symbols_ofText, symbols, List.length_map]
  have hrest : ((ofText text).skip taken.length).rest = [] := by
    rw [skip, hlength, List.drop_length]
  have hend := Location.ofOffset_append text []
  rw [List.append_nil] at hend
  rw [location, hrest, hend]
  rfl

end Cursor

namespace Program

/-- The instructions that the pieces write, when the cursor is at the first of them. -/
def located (c : Cursor) : List Piece → List Instruction
  | [] => []
  | p :: ps => ⟨p.code.1, p.code.2, c.location⟩ :: located (c.skip p.symbols.length) ps

theorem getElem?_located (c : Cursor) (ps : List Piece) (i : Nat) :
    (located c ps)[i]? = ps[i]?.map fun p =>
      ⟨p.code.1, p.code.2, (c.skip (Piece.spelling (ps.take i)).length).location⟩ := by
  induction ps generalizing c i with
  | nil => rfl
  | cons p ps ih =>
    cases i with
    | zero => rfl
    | succ i => simp [located, ih, Cursor.skip_skip, Piece.spelling]

theorem readAll_of_spelling {c : Cursor} {ps : List Piece} (h : c.symbols = Piece.spelling ps) :
    readAll c = .ok (located c ps) := by
  induction ps generalizing c with
  | nil => rw [readAll, if_pos (Cursor.atEnd_iff.mpr h), located]
  | cons p ps ih =>
    have hp : c.symbols = p.symbols ++ Piece.spelling ps := h
    have hbegins : p.symbols <+: c.symbols := ⟨_, hp.symm⟩
    have hread : Instruction.read c =
        .ok (⟨p.code.1, p.code.2, c.location⟩, c.skip p.symbols.length) := by
      rcases Instruction.read_cases c with ⟨q, hq, hread⟩ | ⟨layer, hfails, -⟩
      · rwa [Piece.eq_of_begins hq hbegins] at hread
      · exact absurd hbegins (hfails.stuck p)
    have hmore : ¬ c.atEnd = true := by
      rw [Cursor.atEnd_iff, hp]
      simp [p.symbols_ne_nil]
    rw [readAll, if_neg hmore]
    split
    · next he => cases hread.symm.trans he
    · next he =>
      cases hread.symm.trans he
      rw [ih (Cursor.symbols_skip_append hp), located]
      rfl

variable {text : List Char} {ps : List Piece}

/-- A piece begins where its first symbol stands, and that is where it is read. -/
theorem stands_of_spelling (h : Symbol.ofText text = Piece.spelling ps) {i : Nat} {piece : Piece}
    (hi : ps[i]? = some piece) :
    ∃ s offset, piece.symbols.head? = some s ∧
      Symbol.StandsAt text (Piece.spelling (ps.take i)).length offset s ∧
      ((Cursor.ofText text).skip (Piece.spelling (ps.take i)).length).location =
        Location.ofOffset text offset := by
  obtain ⟨s, more, hs⟩ := List.exists_cons_of_ne_nil piece.symbols_ne_nil
  have hcut : Symbol.ofText text =
      Piece.spelling (ps.take i) ++ s :: (more ++ Piece.spelling (ps.drop (i + 1))) := by
    obtain ⟨hlt, rfl⟩ := List.getElem?_eq_some_iff.mp hi
    have hps := List.take_append_drop i ps
    rw [List.drop_eq_getElem_cons hlt] at hps
    have hspelling := congrArg Piece.spelling hps
    simp only [Piece.spelling, List.map_append, List.map_cons, List.flatten_append,
      List.flatten_cons, hs, List.cons_append] at hspelling
    exact h.trans hspelling.symm
  obtain ⟨offset, hstands, hlocation⟩ := Cursor.location_of_more hcut
  exact ⟨s, offset, by rw [hs, List.head?_cons], hstands, hlocation⟩

theorem length_spelling_take_lt {i j : Nat} (hij : i < j) (hj : j ≤ ps.length) :
    (Piece.spelling (ps.take i)).length < (Piece.spelling (ps.take j)).length := by
  obtain ⟨n, rfl⟩ : ∃ n, j = i + 1 + n := ⟨j - (i + 1), by omega⟩
  have hi : i < ps.length := by omega
  have hpiece := List.length_pos_iff.mpr (ps[i]).symbols_ne_nil
  rw [List.take_add, List.take_succ_eq_append_getElem hi]
  simp only [Piece.spelling, List.map_append, List.map_cons, List.map_nil, List.flatten_append,
    List.flatten_cons, List.length_append]
  omega

theorem located_increasing (h : Symbol.ofText text = Piece.spelling ps) :
    ((located (Cursor.ofText text) ps).map Instruction.location).Pairwise (· < ·) := by
  rw [List.pairwise_iff_getElem]
  intro i j hi hj hij
  have hplace : ∀ k (hk : k < ((located (Cursor.ofText text) ps).map Instruction.location).length),
      k < ps.length ∧ ∃ s offset,
        Symbol.StandsAt text (Piece.spelling (ps.take k)).length offset s ∧
        ((located (Cursor.ofText text) ps).map Instruction.location)[k] =
          Location.ofOffset text offset := by
    intro k hk
    have hget := List.getElem?_eq_getElem hk
    rw [List.getElem?_map, getElem?_located, Option.map_map, Option.map_eq_some_iff] at hget
    obtain ⟨piece, hpiece, hlocation⟩ := hget
    obtain ⟨s, offset, -, hstands, hskip⟩ := stands_of_spelling h hpiece
    exact ⟨(List.getElem?_eq_some_iff.mp hpiece).1, s, offset, hstands, hlocation.symm.trans hskip⟩
  obtain ⟨-, s, offset, hs, hsl⟩ := hplace i hi
  obtain ⟨hlt, t, offset', ht, htl⟩ := hplace j hj
  rw [hsl, htl]
  exact hs.location_lt ht (length_spelling_take_lt hij (Nat.le_of_lt hlt))

end Program

/-- What was read and what was not stand where the text says. -/
theorem locations_in_text (source : String) :
    let text := source.toList
    let w := Symbol.ofText text
    (∀ p, Program.read source = .ok p →
      (∃ ps, w = Piece.spelling ps ∧ ps.map Piece.code = p.code ∧
        ∀ i instruction, p.get? i = some instruction →
          ∃ piece s offset, ps[i]? = some piece ∧ piece.code = instruction.code ∧
            piece.symbols.head? = some s ∧
            Symbol.StandsAt text (Piece.spelling (ps.take i)).length offset s ∧
            instruction.location = Location.ofOffset text offset) ∧
      (p.instructions.toList.map Instruction.location).Pairwise (· < ·)) ∧
    ∀ e, Program.read source = .error e →
      ∃ ps r, w = Piece.spelling ps ++ r ∧ r ≠ [] ∧ e.layer.Fails r ∧
        let rank := (Piece.spelling ps ++ e.layer.passed).length
        (∃ s offset, Symbol.StandsAt text rank offset s ∧
          e.location = Location.ofOffset text offset) ∨
        rank = w.length ∧ e.location = Location.ofOffset text text.length := by
  intro text w
  constructor
  · intro p hp
    obtain ⟨ps, hw, hcodes⟩ := Program.spelling_of_read hp
    have hall := Program.readAll_of_spelling ((Cursor.symbols_ofText text).trans hw)
    have hlist : p.instructions.toList = Program.located (Cursor.ofText text) ps := by
      rw [Program.read, Cursor.ofString, hall] at hp
      cases hp
      rfl
    refine ⟨⟨ps, hw, hcodes.symm, ?_⟩, hlist ▸ Program.located_increasing hw⟩
    intro i instruction hi
    rw [Program.get?, ← Array.getElem?_toList, hlist, Program.getElem?_located,
      Option.map_eq_some_iff] at hi
    obtain ⟨piece, hpiece, rfl⟩ := hi
    obtain ⟨s, offset, hs, hstands, hlocation⟩ := Program.stands_of_spelling hw hpiece
    exact ⟨piece, s, offset, hpiece, rfl, hs, hstands, hlocation⟩
  · intro e he
    have hw : (Cursor.ofString source).symbols = w := Cursor.symbols_ofText _
    obtain ⟨ps, ⟨-, is, his, -⟩ | ⟨r, layer, hs, hne, hfails, hread⟩⟩ :=
      Program.readAll_cases (Cursor.ofString source)
    · rw [Program.read, his] at he
      cases he
    · rw [Program.read, hread] at he
      cases he
      rw [hw] at hs
      refine ⟨ps, r, hs, hne, hfails, ?_⟩
      obtain ⟨left, hleft⟩ := hfails.begins
      rw [← hleft, ← List.append_assoc] at hs
      cases left with
      | nil =>
        rw [List.append_nil] at hs
        exact Or.inr ⟨congrArg List.length hs.symm, Cursor.location_of_end hs⟩
      | cons s left =>
        obtain ⟨offset, hstands, hlocation⟩ := Cursor.location_of_more hs
        exact Or.inl ⟨s, offset, hstands, hlocation⟩

end Backstep
