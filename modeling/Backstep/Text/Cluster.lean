import Backstep.Text.BreakClass

/-!
# Grapheme clusters

Text divides into clusters, each of which a reader takes for one character: a
character with its marks, a syllable of Korean letters, consonants bound by
linkers, the two letters of a flag, pictographs bound by joiners. A line holds no
line feed, so the pair of carriage return and line feed needs no rule.
-/
namespace Backstep

/-- What the text before a place says about a break there, beyond its last character. -/
inductive Lead where
  | plain
  /-- An odd number of regional letters. -/
  | regional
  | pictograph
  | joinedPictograph
  | consonant
  | linkedConsonant
  deriving DecidableEq

namespace Lead

def next (lead : Lead) : BreakClass → Lead
  | .regional => if lead = .regional then .plain else .regional
  | .pictograph => .pictograph
  | .consonant => .consonant
  | .extending =>
    match lead with
    | .pictograph | .consonant | .linkedConsonant => lead
    | _ => .plain
  | .linker =>
    match lead with
    | .pictograph => .pictograph
    | .consonant | .linkedConsonant => .linkedConsonant
    | _ => .plain
  | .joiner =>
    match lead with
    | .pictograph => .joinedPictograph
    | .consonant | .linkedConsonant => lead
    | _ => .plain
  | .nonJoiner => if lead = .pictograph then .pictograph else .plain
  | _ => .plain

/-- Whether two adjacent characters stay together. -/
def joins (lead : Lead) (last next : BreakClass) : Bool :=
  match last, next with
  | .control, _ => false
  | _, .control => false
  | .prepended, _ => true
  | .initial, .initial | .initial, .medial | .initial, .openSyllable | .initial, .closedSyllable =>
    true
  | .medial, .medial | .medial, .final | .openSyllable, .medial | .openSyllable, .final => true
  | .final, .final | .closedSyllable, .final => true
  | _, .consonant => lead = .linkedConsonant
  | _, .pictograph => lead = .joinedPictograph
  | _, .regional => lead = .regional
  | _, next => next.isMark

end Lead

namespace Cluster

/-- Goes on with an open cluster, its last character first, after the clusters found so far. -/
def split (lead : Lead) (last : BreakClass) (cluster : List Char) (found : List (List Char)) :
    List Char → List (List Char)
  | [] => (cluster.reverse :: found).reverse
  | c :: text =>
    let next := BreakClass.of c
    if lead.joins last next then split (lead.next next) next (c :: cluster) found text
    else split (lead.next next) next [c] (cluster.reverse :: found) text

theorem flatten_split (lead : Lead) (last : BreakClass) (cluster : List Char)
    (found : List (List Char)) (text : List Char) :
    (split lead last cluster found text).flatten =
      found.reverse.flatten ++ cluster.reverse ++ text := by
  induction text generalizing lead last cluster found with
  | nil => simp [split]
  | cons c text ih =>
    simp only [split]
    split <;> simp [ih]

def ofChars : List Char → List (List Char)
  | [] => []
  | c :: text => split (Lead.plain.next (.of c)) (.of c) [c] [] text

theorem flatten_ofChars (text : List Char) : (ofChars text).flatten = text := by
  cases text with
  | nil => rfl
  | cons c text => simp [ofChars, flatten_split]

end Cluster

def clusters (text : String) : List String :=
  (Cluster.ofChars text.toList).map String.ofList

end Backstep
