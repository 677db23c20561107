import Backstep.Proofs.Effects
import Backstep.Proofs.Requests

/-! Accesses with a range. A difference, a place in a list, a part of a list and
a cut through a text give nothing outside of their range. The operations on the
operand stack, on the transcript and on the log are written with them here, step
by step, and always give what the library's operations give. -/
namespace Backstep
namespace Checked

variable {α : Type}

def minus? (a b : Nat) : Option Nat :=
  if b ≤ a then some (a - b) else none

def slice? (start stop : Nat) (l : List α) : Option (List α) :=
  if start ≤ stop ∧ stop ≤ l.length then some ((l.take stop).drop start) else none

/-- The list without the items from `start` to before `stop`. -/
def drain? (start stop : Nat) (l : List α) : Option (List α) :=
  if start ≤ stop ∧ stop ≤ l.length then some (l.take start ++ l.drop stop) else none

def exchange? (i j : Nat) (l : List α) : Option (List α) :=
  l[i]?.bind fun a => l[j]?.map fun b => (l.set i b).set j a

@[simp] theorem minus?_add (a b : Nat) : minus? (a + b) b = some a := by
  simp [minus?]

theorem minus?_of_le {a b : Nat} (h : b ≤ a) : minus? a b = some (a - b) :=
  if_pos h

theorem slice?_append (first second : List α) :
    slice? 0 first.length (first ++ second) = some first := by
  simp [slice?]

theorem drain?_append (first second third : List α) :
    drain? first.length (first.length + second.length) (first ++ second ++ third) =
      some (first ++ third) := by
  simp [drain?, List.drop_append]

theorem exchange?_append (l : List α) (a b : α) :
    exchange? (l.length + 1) l.length (l ++ [a, b]) = some (l ++ [b, a]) := by
  simp [exchange?]

end Checked

open Checked

/-! The operand stack, from the bottom up. -/

namespace OperandStack

def ofUpward (up : List Value) : OperandStack :=
  up.foldl push {}

theorem ofUpward_append (up : List Value) (v : Value) :
    ofUpward (up ++ [v]) = (ofUpward up).push v := by
  simp [ofUpward]

theorem empty_or_push (s : OperandStack) :
    s = {} ∨ ∃ (rest : OperandStack) (v : Value), s = rest.push v := by
  cases hp : s.pop with
  | error f =>
    left
    apply OperandStack.ext
    rw [pop_eq_error hp, values_empty]
  | ok popped =>
    obtain ⟨v, rest⟩ := popped
    right
    refine ⟨rest, v, OperandStack.ext ?_⟩
    rw [pop_eq_ok hp, values_push]

@[simp] theorem depth_push (s : OperandStack) (v : Value) : (s.push v).depth = s.depth + 1 := rfl

theorem length_upward (s : OperandStack) : s.upward.length = s.depth := by
  rw [upward, List.length_reverse, depth_eq]

@[simp] theorem ofUpward_upward (s : OperandStack) : ofUpward s.upward = s := by
  have hvalues : ∀ up t, (List.foldl push t up).values = up.reverse ++ t.values := by
    intro up
    induction up with
    | nil => exact fun t => rfl
    | cons v up ih =>
      intro t
      rw [List.foldl_cons, ih, values_push]
      simp
  apply OperandStack.ext
  rw [ofUpward, hvalues, upward, List.reverse_reverse, values_empty, List.append_nil]

/-- Takes the top value, which has to be there. -/
def take? (s : OperandStack) : Option (Value × OperandStack) :=
  (minus? s.depth 1).bind fun index => s.upward[index]?.bind fun v =>
    (slice? 0 index s.upward).map fun kept => (v, ofUpward kept)

def checkedPop (s : OperandStack) : Option (Except StackFault (Value × OperandStack)) :=
  if s.depth < 1 then some (.error (.underflow 1 s.depth)) else s.take?.map .ok

def checkedPopPair (s : OperandStack) :
    Option (Except StackFault ((Value × Value) × OperandStack)) :=
  if s.depth < 2 then some (.error (.underflow 2 s.depth))
  else s.take?.bind fun (right, s) => s.take?.map fun (left, s) => .ok ((left, right), s)

def checkedSwap (s : OperandStack) : Option (Except StackFault OperandStack) :=
  if s.depth < 2 then some (.error (.underflow 2 s.depth))
  else
    (minus? s.depth 1).bind fun i => (minus? s.depth 2).bind fun j =>
      (exchange? i j s.upward).map fun up => .ok (ofUpward up)

def checkedCopy (n : Int) (s : OperandStack) : Option (Except StackFault OperandStack) :=
  if s.depth < 1 then some (.error (.underflow 1 s.depth))
  else if 0 ≤ n ∧ n.toNat < s.depth then
    (minus? s.depth 1).bind fun last => (minus? last n.toNat).bind fun index =>
      s.upward[index]?.map fun v => .ok (ofUpward (s.upward ++ [v]))
  else some (.error (.outOfRange n s.depth))

def checkedSlide (n : Int) (s : OperandStack) : Option (Except StackFault OperandStack) :=
  if s.depth < 1 then some (.error (.underflow 1 s.depth))
  else
    (minus? s.depth 1).bind fun last =>
      if 0 ≤ n ∧ n.toNat ≤ last then
        (minus? last n.toNat).bind fun start =>
          (drain? start last s.upward).map fun up => .ok (ofUpward up)
      else some (.error (.outOfRange n s.depth))

@[simp] theorem take?_push (s : OperandStack) (v : Value) : (s.push v).take? = some (v, s) := by
  have hslice := slice?_append s.upward [v]
  rw [length_upward] at hslice
  have hlast : (s.push v).upward[s.depth]? = some v := by
    rw [upward_push, ← length_upward, List.getElem?_concat_length]
  rw [take?, depth_push, minus?_add, Option.bind_some, hlast, Option.bind_some, upward_push,
    hslice, Option.map_some, ofUpward_upward]

theorem checkedPop_eq (s : OperandStack) : s.checkedPop = some s.pop := by
  rcases s.empty_or_push with rfl | ⟨rest, v, rfl⟩
  · rfl
  · simp [checkedPop]

theorem checkedPopPair_eq (s : OperandStack) : s.checkedPopPair = some s.popPair := by
  rcases s.empty_or_push with rfl | ⟨rest, b, rfl⟩
  · rfl
  · rcases rest.empty_or_push with rfl | ⟨rest, a, rfl⟩
    · rfl
    · simp [checkedPopPair]

theorem checkedSwap_eq (s : OperandStack) : s.checkedSwap = some s.swap := by
  rcases s.empty_or_push with rfl | ⟨rest, b, rfl⟩
  · rfl
  · rcases rest.empty_or_push with rfl | ⟨rest, a, rfl⟩
    · rfl
    · have hup : ((rest.push a).push b).upward = rest.upward ++ [a, b] := by simp
      have hexchange := exchange?_append rest.upward a b
      rw [length_upward] at hexchange
      have hswapped : ofUpward (rest.upward ++ [b, a]) = (rest.push b).push a := by
        rw [← ofUpward_upward ((rest.push b).push a)]
        simp
      have hdepth : ¬ ((rest.push a).push b).depth < 2 := by
        rw [depth_push, depth_push]
        omega
      have hbelow : minus? (rest.depth + 1 + 1) 2 = some rest.depth := minus?_add rest.depth 2
      rw [checkedSwap, if_neg hdepth, depth_push, depth_push, minus?_add, Option.bind_some,
        hbelow, Option.bind_some, hup, hexchange, Option.map_some, hswapped]
      rfl

theorem checkedCopy_eq (s : OperandStack) (n : Int) : s.checkedCopy n = some (s.copy n) := by
  rw [checkedCopy, copy]
  by_cases hempty : s.depth = 0
  · simp [isEmpty, hempty]
  · have hpos : ¬ s.depth < 1 := by omega
    have hne : s.isEmpty = false := by simp [isEmpty, hempty]
    rw [if_neg hpos, hne, if_neg Bool.false_ne_true]
    by_cases hn : 0 ≤ n
    · rw [if_pos hn, get?_chain]
      by_cases hlt : n.toNat < s.depth
      · -- the same place, counted from the bottom and from the top
        have hplace : s.upward[s.depth - 1 - n.toNat]? = s.values[n.toNat]? := by
          rw [depth_eq] at hlt ⊢
          rw [upward, List.getElem?_reverse (by omega)]
          congr 1
          omega
        have hvalue := List.getElem?_eq_getElem (depth_eq s ▸ hlt)
        rw [if_pos ⟨hn, hlt⟩, minus?_of_le (by omega), Option.bind_some,
          minus?_of_le (by omega), Option.bind_some, hplace, hvalue, Option.map_some,
          ofUpward_append, ofUpward_upward]
      · have hnone : s.values[n.toNat]? = none := by
          rw [depth_eq] at hlt
          exact List.getElem?_eq_none (by omega)
        rw [if_neg fun h => hlt h.2, hnone]
    · rw [if_neg fun h => hn h.1, if_neg hn]

theorem upward_drop (s : OperandStack) (n : Nat) :
    (s.drop n).upward = s.upward.take (s.depth - n) := by
  rw [upward, values_drop, upward, depth_eq, List.reverse_drop]

theorem depth_drop (s : OperandStack) (n : Nat) : (s.drop n).depth = s.depth - n := by
  rw [depth_eq, values_drop, List.length_drop, depth_eq]

theorem checkedSlide_eq (s : OperandStack) (n : Int) : s.checkedSlide n = some (s.slide n) := by
  rcases s.empty_or_push with rfl | ⟨rest, top, rfl⟩
  · rfl
  · have hpos : ¬ rest.depth + 1 < 1 := by omega
    rw [checkedSlide, slide, pop_push, depth_push, if_neg hpos, minus?_add, Option.bind_some]
    dsimp only
    by_cases hn : 0 ≤ n ∧ n.toNat ≤ rest.depth
    · -- the values that stay, the values that go, and the top
      have hup : (rest.push top).upward =
          (rest.drop n.toNat).upward ++ rest.upward.drop (rest.depth - n.toNat) ++ [top] := by
        rw [upward_push, upward_drop, List.take_append_drop]
      have hdrain := drain?_append (rest.drop n.toNat).upward
        (rest.upward.drop (rest.depth - n.toNat)) [top]
      have hstop : rest.depth - n.toNat + (rest.depth - (rest.depth - n.toNat)) = rest.depth := by
        omega
      rw [length_upward, depth_drop, List.length_drop, length_upward, hstop] at hdrain
      rw [if_pos hn, if_pos hn, minus?_of_le hn.2, Option.bind_some, hup, hdrain, Option.map_some,
        ofUpward_append, ofUpward_upward]
    · rw [if_neg hn, if_neg hn]

end OperandStack

/-! The transcript, as one text with a mark in it. -/

namespace Transcript

def bytes (text : List Char) : Nat :=
  (String.ofList text).utf8ByteSize

theorem bytes_cons (c : Char) (text : List Char) : bytes (c :: text) = c.utf8Size + bytes text := by
  rw [bytes, ← List.singleton_append, String.ofList_append, String.utf8ByteSize_append,
    ← String.singleton_eq_ofList, String.utf8ByteSize_singleton]
  rfl

theorem bytes_toList (text : String) : bytes text.toList = text.utf8ByteSize := by
  rw [bytes, String.ofList_toList]

/-- Cuts a text after `offset` bytes, if that is between two characters or at an end. -/
def cut? (offset : Nat) (text : List Char) : Option (List Char × List Char) :=
  if bytes (splitBytes offset text).1 = offset then some (splitBytes offset text) else none

/-- The last place from `offset` down where the text can be cut. -/
def boundary? (text : List Char) : Nat → Option Nat
  | 0 => (cut? 0 text).map fun _ => 0
  | offset + 1 => if (cut? (offset + 1) text).isSome then some (offset + 1) else boundary? text offset

def checkedShown (t : Transcript) : Option String :=
  (cut? t.length t.text.toList).map fun (before, _) => String.ofList before

def checkedPrint (t : Transcript) (text : String) : Option Transcript :=
  (cut? t.length t.text.toList).map fun (before, _) => ⟨String.ofList before ++ text, ""⟩

def checkedRewind (t : Transcript) (len : Nat) : Option Transcript :=
  (boundary? t.text.toList (min len t.text.utf8ByteSize)).bind fun offset =>
    (cut? offset t.text.toList).map fun (before, after) => ⟨String.ofList before, String.ofList after⟩

theorem cut?_append (before after : List Char) :
    cut? (bytes before) (before ++ after) = some (before, after) := by
  have hsplit : splitBytes (bytes before) (before ++ after) = (before, after) :=
    splitBytes_size before after
  rw [cut?, hsplit, if_pos rfl]

/-- There is no cut through a character. -/
example : cut? 1 ['é'] = none := by decide

theorem cut?_length (t : Transcript) :
    cut? t.length t.text.toList = some (t.shown.toList, t.hidden.toList) := by
  have hcut := cut?_append t.shown.toList t.hidden.toList
  rw [bytes, String.ofList_toList, ← String.toList_append] at hcut
  exact hcut

theorem checkedShown_eq (t : Transcript) : t.checkedShown = some t.shown := by
  rw [checkedShown, cut?_length, Option.map_some]
  dsimp only
  rw [String.ofList_toList]

theorem checkedPrint_eq (t : Transcript) (text : String) :
    t.checkedPrint text = some (t.print text) := by
  rw [checkedPrint, cut?_length, Option.map_some]
  dsimp only
  rw [String.ofList_toList]
  rfl

theorem bytes_splitBytes_le (room : Nat) (text : List Char) :
    bytes (splitBytes room text).1 ≤ room := by
  induction text generalizing room with
  | nil => exact Nat.zero_le _
  | cons c text ih =>
    rw [splitBytes]
    split
    · have hle := ih (room - c.utf8Size)
      rw [bytes_cons]
      omega
    · exact Nat.zero_le _

/-- Room that the longest beginning leaves unused makes no difference. -/
theorem splitBytes_of_le {n room : Nat} (hn : n ≤ room) (text : List Char)
    (h : bytes (splitBytes room text).1 ≤ n) : splitBytes n text = splitBytes room text := by
  induction text generalizing n room with
  | nil => rfl
  | cons c text ih =>
    rw [splitBytes] at h ⊢
    rw [splitBytes]
    by_cases hroom : c.utf8Size ≤ room
    · rw [if_pos hroom] at h
      dsimp only at h
      rw [bytes_cons] at h
      have hrest := @ih (n - c.utf8Size) (room - c.utf8Size) (by omega) (by omega)
      rw [if_pos hroom, if_pos (by omega), hrest]
    · rw [if_neg hroom, if_neg (by omega)]

theorem boundary?_eq (text : List Char) (offset : Nat) :
    ∃ n, boundary? text offset = some n ∧ cut? n text = some (splitBytes offset text) := by
  induction offset with
  | zero =>
    have hzero : bytes (splitBytes 0 text).1 = 0 := Nat.le_zero.mp (bytes_splitBytes_le 0 text)
    refine ⟨0, ?_, if_pos hzero⟩
    rw [boundary?, cut?, if_pos hzero]
    rfl
  | succ offset ih =>
    rw [boundary?]
    by_cases hcut : bytes (splitBytes (offset + 1) text).1 = offset + 1
    · have hsome : cut? (offset + 1) text = some (splitBytes (offset + 1) text) := if_pos hcut
      rw [hsome]
      exact ⟨offset + 1, rfl, hsome⟩
    · -- the longest beginning does not fill the last byte, so it fits without it
      have hnone : cut? (offset + 1) text = none := if_neg hcut
      have hle := bytes_splitBytes_le (offset + 1) text
      have hless : offset ≤ offset + 1 := Nat.le_add_right offset 1
      rw [hnone, ← splitBytes_of_le hless text (by omega)]
      exact ih

theorem splitBytes_min (len : Nat) (text : List Char) :
    splitBytes (min len (bytes text)) text = splitBytes len text := by
  apply splitBytes_of_le (Nat.min_le_left _ _)
  have hle := bytes_splitBytes_le len text
  have htext := congrArg bytes (splitBytes_append len text)
  have happend : bytes ((splitBytes len text).1 ++ (splitBytes len text).2) =
      bytes (splitBytes len text).1 + bytes (splitBytes len text).2 := by
    rw [bytes, String.ofList_append, String.utf8ByteSize_append]
    rfl
  omega

theorem checkedRewind_eq (t : Transcript) (len : Nat) :
    t.checkedRewind len = some (t.rewind len) := by
  obtain ⟨n, hn, hcut⟩ := boundary?_eq t.text.toList (min len (bytes t.text.toList))
  rw [checkedRewind, ← bytes_toList, hn, Option.bind_some, hcut, Option.map_some, splitBytes_min,
    rewind_eq]

end Transcript

/-! The log. -/

namespace Log

def checkedTruncate (l : Log) (n : Nat) : Option Log :=
  if l.count ≤ n then some l
  else
    (slice? n l.count l.toList).map fun dropped =>
      { l with snapshots := l.snapshots.take n, used := l.used - tally Snapshot.size dropped }

theorem checkedTruncate_eq (l : Log) (n : Nat) : l.checkedTruncate n = some (l.truncate n) := by
  rw [checkedTruncate, truncate]
  split
  · rfl
  · next h =>
    have hcount := l.count_eq
    rw [slice?, if_pos ⟨by omega, by omega⟩, hcount, List.take_length]
    rfl

end Log

namespace Recording

def checkedAdd (r : Recording) (s : Snapshot) : Option Recording :=
  (minus? (r.log.push s).count 1).map fun position => ⟨r.log.push s, position, r.full⟩

theorem checkedAdd_eq (r : Recording) (s : Snapshot) : r.checkedAdd s = some (r.add s) := by
  have hcount : (r.log.push s).count = r.log.count + 1 := Array.size_push s
  rw [checkedAdd, minus?_of_le (by omega)]
  rfl

end Recording

end Backstep
