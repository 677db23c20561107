import Backstep.Proofs.Bounds

/-! The transcript under any calls. A print and a rewind are made on one text with a
mark after so many of its bytes as well, where a cut through a character gives
nothing; none is ever made, and the mark is where the shown text of the transcript
ends (`callAll?_marked`). A rewind leaves the longest beginning that its bytes have
room for, and the lines shown are the pieces of the shown text between line feeds. -/
namespace Backstep
namespace Transcript

inductive Call where
  | print (text : String)
  | rewind (len : Nat)

def call (t : Transcript) : Call → Transcript
  | .print text => t.print text
  | .rewind len => t.rewind len

def callAll (t : Transcript) (calls : List Call) : Transcript :=
  calls.foldl call t

/-! One text with a mark in it. -/

structure Marked where
  text : String := ""
  mark : Nat := 0

namespace Marked

def shown? (m : Marked) : Option String :=
  (cut? m.mark m.text.toList).map fun (before, _) => String.ofList before

def call? (m : Marked) : Call → Option Marked
  | .print text => m.shown?.map fun shown => ⟨shown ++ text, (shown ++ text).utf8ByteSize⟩
  | .rewind len =>
    (boundary? m.text.toList (min len m.text.utf8ByteSize)).map fun mark => { m with mark }

def callAll? (m : Marked) (calls : List Call) : Option Marked :=
  calls.foldlM call? m

end Marked

def marked (t : Transcript) : Marked :=
  ⟨t.text, t.length⟩

theorem shown?_marked (t : Transcript) : t.marked.shown? = some t.shown :=
  t.checkedShown_eq

theorem length_rewind (t : Transcript) (len : Nat) :
    (t.rewind len).length = bytes (splitBytes len t.text.toList).1 := by
  rw [rewind_eq, length, bytes]

theorem boundary?_rewind (t : Transcript) (len : Nat) :
    boundary? t.text.toList (min len t.text.utf8ByteSize) = some (t.rewind len).length := by
  obtain ⟨n, hn, hcut⟩ := boundary?_eq t.text.toList (min len t.text.utf8ByteSize)
  rw [← bytes_toList, splitBytes_min] at hcut
  have hsplit : bytes (splitBytes n t.text.toList).1 = n ∧
      splitBytes n t.text.toList = splitBytes len t.text.toList := by
    simpa [cut?] using hcut
  rw [hn, length_rewind, ← hsplit.2, hsplit.1]

theorem call?_marked (t : Transcript) (c : Call) : t.marked.call? c = some (t.call c).marked := by
  cases c with
  | print text =>
    rw [Marked.call?, shown?_marked]
    simp [call, marked, print, Transcript.text, length]
  | rewind len =>
    have hfound := t.boundary?_rewind len
    change (boundary? t.text.toList (min len t.text.utf8ByteSize)).map _ = _
    rw [hfound, Option.map_some]
    simp [call, marked]

theorem callAll?_marked (t : Transcript) (calls : List Call) :
    t.marked.callAll? calls = some (t.callAll calls).marked := by
  induction calls generalizing t with
  | nil => rfl
  | cons c calls ih =>
    rw [Marked.callAll?, List.foldlM_cons, call?_marked]
    exact ih (t.call c)

theorem isValid_length (t : Transcript) : (⟨t.length⟩ : String.Pos.Raw).IsValid t.text := by
  rw [String.Pos.Raw.isValid_iff_exists_append]
  exact ⟨t.shown, t.hidden, rfl, rfl⟩

/-! Rewinding. -/

/-- The longest beginning of a text, in whole characters, that takes at most `len` bytes. -/
structure Longest (len : Nat) (text part : String) : Prop where
  begins : part.toList <+: text.toList
  fits : part.utf8ByteSize ≤ len
  longest : ∀ other : String, other.toList <+: text.toList → other.utf8ByteSize ≤ len →
    other.toList <+: part.toList

theorem prefix_splitBytes {room : Nat} {text other : List Char} (h : other <+: text)
    (hfits : bytes other ≤ room) : other <+: (splitBytes room text).1 := by
  induction text generalizing room other with
  | nil => exact h
  | cons c text ih =>
    cases other with
    | nil => exact List.nil_prefix
    | cons d other =>
      obtain ⟨rfl, hrest⟩ := List.cons_prefix_cons.mp h
      rw [bytes_cons] at hfits
      rw [splitBytes, if_pos (by omega)]
      exact List.cons_prefix_cons.mpr ⟨rfl, ih hrest (by omega)⟩

theorem longest_rewind (t : Transcript) (len : Nat) : Longest len t.text (t.rewind len).shown := by
  have hshown : (t.rewind len).shown.toList = (splitBytes len t.text.toList).1 := by
    rw [rewind_eq, String.toList_ofList]
  refine ⟨?_, ?_, fun other hbegins hfits => ?_⟩
  · rw [hshown]
    exact ⟨_, splitBytes_append len t.text.toList⟩
  · change (t.rewind len).length ≤ len
    rw [length_rewind]
    exact bytes_splitBytes_le len t.text.toList
  · rw [hshown]
    apply prefix_splitBytes hbegins
    rwa [bytes_toList]

/-- What does not fit begins with a character, and this has four bytes at most. -/
theorem splitBytes_full (room : Nat) (text : List Char) :
    (splitBytes room text).2 = [] ∨ room ≤ bytes (splitBytes room text).1 + 3 := by
  induction text generalizing room with
  | nil => exact Or.inl rfl
  | cons c text ih =>
    have hc := c.utf8Size_le_four
    rw [splitBytes]
    split
    · refine (ih (room - c.utf8Size)).imp_right fun hle => ?_
      dsimp only
      rw [bytes_cons]
      omega
    · right
      omega

theorem shown_rewind_of_le {t : Transcript} {len : Nat} (h : t.text.utf8ByteSize ≤ len) :
    (t.rewind len).shown = t.text := by
  have hall := (t.longest_rewind len).longest t.text (List.prefix_refl _) h
  exact String.toList_inj.mp ((t.longest_rewind len).begins.eq_of_length_le hall.length_le)

theorem rewind_near (t : Transcript) (len : Nat) :
    min len t.text.utf8ByteSize ≤ (t.rewind len).length + 3 := by
  rcases splitBytes_full len t.text.toList with hall | hle
  · have happend := splitBytes_append len t.text.toList
    rw [hall, List.append_nil] at happend
    rw [length_rewind, happend, bytes_toList]
    omega
  · rw [length_rewind]
    omega

/-- Between the mark and the place that was asked for, no character ends. -/
theorem le_length_rewind_of_isValid {t : Transcript} {len n : Nat} (h : n ≤ len)
    (hn : (⟨n⟩ : String.Pos.Raw).IsValid t.text) : n ≤ (t.rewind len).length := by
  obtain ⟨before, after, htext, hend⟩ := String.Pos.Raw.isValid_iff_exists_append.mp hn
  obtain rfl : n = before.utf8ByteSize := congrArg String.Pos.Raw.byteIdx hend
  have hbegins : before.toList <+: t.text.toList :=
    ⟨after.toList, by rw [htext, String.toList_append]⟩
  exact utf8ByteSize_le_of_prefix ((t.longest_rewind len).longest before hbegins h)

theorem text_rewinds (t : Transcript) (lens : List Nat) :
    (t.callAll (lens.map .rewind)).text = t.text := by
  induction lens generalizing t with
  | nil => rfl
  | cons len lens ih => exact (ih (t.rewind len)).trans (t.text_rewind len)

/-! The lines shown. -/

theorem splitLines_ne_nil (text : List Char) : splitLines text ≠ [] := by
  cases text with
  | nil => simp [splitLines]
  | cons c text =>
    simp only [splitLines]
    split
    · simp
    · split <;> simp

theorem splitLines_eq (text : List Char) : splitLines text = text.splitOn '\n' := by
  induction text with
  | nil => rfl
  | cons c text ih =>
    obtain ⟨first, lines, hs⟩ := List.exists_cons_of_ne_nil (splitLines_ne_nil text)
    rw [List.splitOn_cons_eq_if_modifyHead, ← ih]
    simp only [splitLines, hs, beq_iff_eq, List.modifyHead_cons]

theorem not_mem_of_mem_splitLines {text line : List Char} (h : line ∈ splitLines text) :
    '\n' ∉ line := by
  induction text generalizing line with
  | nil =>
    obtain rfl := List.mem_singleton.mp h
    exact List.not_mem_nil
  | cons c text ih =>
    obtain ⟨first, lines, hs⟩ := List.exists_cons_of_ne_nil (splitLines_ne_nil text)
    simp only [splitLines, hs] at h ih
    split at h
    · rcases List.mem_cons.mp h with rfl | hline
      · exact List.not_mem_nil
      · exact ih hline
    · next hc =>
      rcases List.mem_cons.mp h with rfl | hline
      · have hfirst := ih List.mem_cons_self
        simp [hfirst, Ne.symm hc]
      · exact ih (List.mem_cons_of_mem first hline)

theorem intercalate_concat (feed : Char) (lines : List (List Char)) (line : List Char) :
    [feed].intercalate (lines ++ [line]) = lines.flatMap (· ++ [feed]) ++ line := by
  induction lines with
  | nil => simp
  | cons first lines ih =>
    rw [List.cons_append, List.intercalate_cons_of_ne_nil (by simp), ih, List.flatMap_cons]
    simp

/-- A last piece without a character comes from a line feed at the end. -/
theorem getLast?_splitLines {text : List Char} (h : (splitLines text).getLast? = some [])
    (hne : text ≠ []) : text.getLast? = some '\n' := by
  obtain ⟨lines, hlines⟩ := List.getLast?_eq_some_iff.mp h
  have hjoin := @List.intercalate_splitOn _ text _ _ '\n'
  rw [← splitLines_eq, hlines, intercalate_concat, List.append_nil] at hjoin
  rcases List.eq_nil_or_concat lines with rfl | ⟨lines, line, rfl⟩
  · exact absurd hjoin.symm hne
  · rw [← hjoin]
    simp

theorem splitLines_concat_feed (body : List Char) :
    splitLines (body ++ ['\n']) = splitLines body ++ [[]] := by
  rw [splitLines_eq, splitLines_eq, List.splitOn_append_cons_self, List.splitOn_nil]

/-- The shown text, less one line feed at its end. -/
theorem intercalate_lines (t : Transcript) :
    "\n".intercalate t.lines =
      if t.shown.toList.getLast? = some '\n' then String.ofList t.shown.toList.dropLast
      else t.shown := by
  have hjoin : ∀ pieces : List (List Char), "\n".intercalate (pieces.map String.ofList) =
      String.ofList (['\n'].intercalate pieces) := by
    intro pieces
    apply String.toList_inj.mp
    simp [List.map_map, Function.comp_def]
  rw [lines, hjoin]
  by_cases hfeed : t.shown.toList.getLast? = some '\n'
  · obtain ⟨body, hbody⟩ := List.getLast?_eq_some_iff.mp hfeed
    rw [if_pos hfeed, hbody, splitLines_concat_feed, List.getLast?_concat, if_pos rfl,
      List.dropLast_concat, List.dropLast_concat, splitLines_eq, List.intercalate_splitOn]
  · rw [if_neg hfeed]
    by_cases hempty : t.shown.toList = []
    · rw [String.toList_eq_nil_iff.mp hempty]
      rfl
    · rw [if_neg fun h => hfeed (getLast?_splitLines h hempty), splitLines_eq,
        List.intercalate_splitOn, String.ofList_toList]

theorem not_mem_of_mem_lines {t : Transcript} {line : String} (h : line ∈ t.lines) :
    '\n' ∉ line.toList := by
  rw [lines] at h
  obtain ⟨piece, hpiece, rfl⟩ := List.mem_map.mp h
  rw [String.toList_ofList]
  apply @not_mem_of_mem_splitLines t.shown.toList
  split at hpiece
  · exact (List.dropLast_sublist _).subset hpiece
  · exact hpiece

end Transcript

open Transcript in
/-- Of a new transcript after any calls: the same calls on one text with a mark never cut through a
character. A rewind marks the last end of a character within the bytes that it is given, at most
three bytes before them, and shows the longest beginning of whole characters; a print goes on after
what is shown. While nothing is printed the text stays, and a rewind to its length shows it all.
The lines are what is shown between its line feeds. -/
theorem transcript_keeps_whole_characters (calls : List Call) :
    let t := callAll {} calls
    Marked.callAll? {} calls = some ⟨t.text, t.length⟩ ∧
    (⟨t.length⟩ : String.Pos.Raw).IsValid t.text ∧ t.length ≤ t.text.utf8ByteSize ∧
    Marked.shown? ⟨t.text, t.length⟩ = some t.shown ∧
    (∀ len, let r := t.rewind len
      r.text = t.text ∧ Longest len t.text r.shown ∧
      min len t.text.utf8ByteSize ≤ r.length + 3 ∧
      ∀ n, r.length < n → n ≤ min len t.text.utf8ByteSize →
        ¬ (⟨n⟩ : String.Pos.Raw).IsValid t.text) ∧
    (∀ text, let n := t.print text
      n.text = t.shown ++ text ∧ n.shown = t.shown ++ text) ∧
    (∀ (lens : List Nat) len, t.text.utf8ByteSize ≤ len →
      let r := t.callAll (lens.map .rewind ++ [.rewind len])
      r.text = t.text ∧ r.shown = t.text) ∧
    "\n".intercalate t.lines =
      (if t.shown.toList.getLast? = some '\n' then String.ofList t.shown.toList.dropLast
      else t.shown) ∧
    ∀ line ∈ t.lines, '\n' ∉ line.toList := by
  intro t
  refine ⟨callAll?_marked {} calls, t.isValid_length, t.isValid_length.le_rawEndPos,
    t.shown?_marked, ?_, ?_, ?_, t.intercalate_lines, fun line => not_mem_of_mem_lines⟩
  · intro len r
    refine ⟨t.text_rewind len, t.longest_rewind len, t.rewind_near len, fun n hlt hle hn => ?_⟩
    have hback := le_length_rewind_of_isValid (Nat.le_trans hle (Nat.min_le_left _ _)) hn
    exact absurd hback (Nat.not_le_of_gt hlt)
  · intro text n
    exact ⟨String.append_empty, rfl⟩
  · intro lens len hle r
    have hr : r = (t.callAll (lens.map .rewind)).rewind len := by
      simp only [r, callAll, List.foldl_append]
      rfl
    rw [← t.text_rewinds lens] at hle ⊢
    rw [hr]
    exact ⟨text_rewind _ len, shown_rewind_of_le hle⟩

/-- The second byte of three is inside a letter. -/
theorem transcript_keeps_whole_characters_accent :
    let t := Transcript.callAll {} [.print "aé", .rewind 2]
    t.shown = "a" ∧ t.text = "aé" ∧ ¬ (⟨2⟩ : String.Pos.Raw).IsValid t.text ∧
      (t.callAll ([1].map .rewind ++ [.rewind 9])).shown = "aé" ∧
      ∀ line ∈ t.lines, '\n' ∉ line.toList := by
  intro t
  have hshown : t.shown = "a" := by decide +kernel
  have htext : t.text = "aé" := by decide +kernel
  obtain ⟨-, -, -, -, hrewind, -, hagain, -, hlines⟩ :=
    transcript_keeps_whole_characters [.print "aé", .rewind 2]
  obtain ⟨-, -, -, hsearch⟩ := hrewind 2
  obtain ⟨-, hall⟩ := hagain [1] 9 (by decide +kernel)
  refine ⟨hshown, htext, hsearch 2 (by decide +kernel) (by decide +kernel), hall.trans htext, ?_⟩
  have hline : "a" ∈ t.lines := by decide +kernel
  intro line hmem
  exact hlines line hmem

end Backstep
