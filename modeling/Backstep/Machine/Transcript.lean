/-!
# The transcript

Everything printed so far, cut in two: the text shown at the present point of
the run, and text that was printed later and is hidden after moving back.
Printing drops the hidden text. Lengths are counted in UTF-8 bytes, and a cut
never falls inside a character.
-/
namespace Backstep

structure Transcript where
  shown : String := ""
  hidden : String := ""
  deriving DecidableEq

namespace Transcript

/-- The longest beginning of whole characters that takes at most `room` bytes, and the rest. -/
def splitBytes (room : Nat) : List Char → List Char × List Char
  | [] => ([], [])
  | c :: text =>
    if c.utf8Size ≤ room then
      let (before, after) := splitBytes (room - c.utf8Size) text
      (c :: before, after)
    else ([], c :: text)

def length (t : Transcript) : Nat :=
  t.shown.utf8ByteSize

def isEmpty (t : Transcript) : Bool :=
  t.shown.isEmpty

def text (t : Transcript) : String :=
  t.shown ++ t.hidden

def print (t : Transcript) (text : String) : Transcript :=
  ⟨t.shown ++ text, ""⟩

/-- Shows the first `len` bytes of the whole text. -/
def rewind (t : Transcript) (len : Nat) : Transcript :=
  if len = t.length then t
  else
    let (before, after) := splitBytes len t.text.toList
    ⟨String.ofList before, String.ofList after⟩

def splitLines : List Char → List (List Char)
  | [] => [[]]
  | c :: text =>
    if c = '\n' then [] :: splitLines text
    else
      match splitLines text with
      | line :: lines => (c :: line) :: lines
      | [] => [[c]]

/-- The shown text by lines. A line feed at its end opens no further line. -/
def lines (t : Transcript) : List String :=
  let pieces := splitLines t.shown.toList
  let pieces := if pieces.getLast? = some [] then pieces.dropLast else pieces
  pieces.map String.ofList

theorem splitBytes_append (room : Nat) (text : List Char) :
    (splitBytes room text).1 ++ (splitBytes room text).2 = text := by
  induction text generalizing room with
  | nil => rfl
  | cons c text ih =>
    simp only [splitBytes]
    split <;> simp [ih]

@[simp] theorem text_rewind (t : Transcript) (len : Nat) : (t.rewind len).text = t.text := by
  unfold rewind
  split
  · rfl
  · simp only [text, ← String.ofList_append, splitBytes_append, String.ofList_toList]

theorem splitBytes_size (before after : List Char) :
    splitBytes (String.ofList before).utf8ByteSize (before ++ after) = (before, after) := by
  induction before with
  | nil =>
    cases after with
    | nil => rfl
    | cons c after =>
      have hc := c.utf8Size_pos
      have hn : ¬ c.utf8Size ≤ 0 := by omega
      simp [splitBytes, hn]
  | cons c before ih =>
    have hsize : (String.ofList (c :: before)).utf8ByteSize =
        c.utf8Size + (String.ofList before).utf8ByteSize := by
      rw [← List.singleton_append, String.ofList_append, String.utf8ByteSize_append,
        ← String.singleton_eq_ofList, String.utf8ByteSize_singleton]
    have hle : c.utf8Size ≤ c.utf8Size + (String.ofList before).utf8ByteSize := by omega
    simp only [List.cons_append, splitBytes, hsize, hle, if_true, Nat.add_sub_cancel_left, ih]

theorem rewind_eq (t : Transcript) (len : Nat) :
    t.rewind len = ⟨String.ofList (splitBytes len t.text.toList).1,
      String.ofList (splitBytes len t.text.toList).2⟩ := by
  unfold rewind
  split
  · next h =>
    have hs := splitBytes_size t.shown.toList t.hidden.toList
    rw [String.ofList_toList] at hs
    simp only [h, length, text, String.toList_append, hs, String.ofList_toList]
  · rfl

/-- Going back to the length of a text that the transcript begins with shows that text. -/
theorem shown_rewind {t : Transcript} {text : String} (h : text.toList <+: t.text.toList) :
    (t.rewind text.utf8ByteSize).shown = text := by
  obtain ⟨rest, hrest⟩ := h
  have hs := splitBytes_size text.toList rest
  rw [String.ofList_toList, hrest] at hs
  rw [rewind_eq, hs, String.ofList_toList]

end Transcript

theorem utf8ByteSize_le_of_prefix {a b : String} (h : a.toList <+: b.toList) :
    a.utf8ByteSize ≤ b.utf8ByteSize := by
  obtain ⟨rest, hrest⟩ := h
  rw [← String.ofList_toList (s := b), ← hrest, String.ofList_append, String.ofList_toList,
    String.utf8ByteSize_append]
  omega

end Backstep
