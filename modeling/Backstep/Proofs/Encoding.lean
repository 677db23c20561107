import Backstep.Machine.Stream

/-! Characters and decimal numbers on a stream. The first byte of a character
tells its width, and no byte of a number is a line feed; so a read takes just the
bytes that a print gave, whatever comes after them. -/
namespace Backstep

namespace Utf8

theorem encode_append (a b : String) : encode (a ++ b) = encode a ++ encode b := by
  simp [encode, String.toByteArray_append]

theorem encode_singleton (c : Char) : encode (String.singleton c) = encodeChar c := by
  simp [encode, encodeChar, List.utf8Encode_singleton]

theorem encode_ofList (text : List Char) :
    encode (String.ofList text) = text.flatMap encodeChar := by
  simp [encode, List.utf8Encode]
  rfl

theorem encode_feed : encode "\n" = [10] := by decide +kernel

theorem decode?_encode (text : String) : decode? (encode text) = some text := by
  have hbytes : ByteArray.mk (encode text).toArray = text.toByteArray := by simp [encode]
  rw [decode?, hbytes, String.fromUTF8?, dif_pos text.isValidUTF8]
  rfl

theorem decodeChar?_encodeChar (c : Char) : decodeChar? (encodeChar c) = some c := by
  have hbytes : ByteArray.mk (encodeChar c).toArray = [c].utf8Encode := by
    rw [List.utf8Encode_singleton, encodeChar, ← List.data_toByteArray]
  rw [decodeChar?, hbytes]
  exact List.utf8DecodeChar?_utf8Encode_singleton

theorem width_ofNat {n : Nat} (h : n < 256) :
    width (.ofNat n) =
      if n ≤ 0x7F then 1 else if 0xC2 ≤ n ∧ n ≤ 0xDF then 2
      else if 0xE0 ≤ n ∧ n ≤ 0xEF then 3 else if 0xF0 ≤ n ∧ n ≤ 0xF4 then 4 else 1 := by
  have hn : (UInt8.ofNat n).toNat = n := by
    rw [UInt8.toNat_ofNat', Nat.mod_eq_of_lt h]
  simp only [width, UInt8.le_iff_toNat_le, hn, Bool.and_eq_true, decide_eq_true_eq]
  rfl

theorem width_encodeChar (c : Char) :
    ∃ lead rest, encodeChar c = lead :: rest ∧ width lead = (encodeChar c).length := by
  have hc : c.val.toNat < 0x110000 := by
    have hvalid := c.valid
    simp only [UInt32.isValidChar, Nat.isValidChar] at hvalid
    omega
  unfold encodeChar
  fun_cases String.utf8EncodeChar c with
  | case1 v h =>
    refine ⟨_, _, rfl, ?_⟩
    rw [width_ofNat (by omega), if_pos (by omega)]
    rfl
  | case2 v h h' =>
    refine ⟨_, _, rfl, ?_⟩
    rw [width_ofNat (by omega), if_neg (by omega), if_pos (by omega)]
    rfl
  | case3 v h h' h'' =>
    refine ⟨_, _, rfl, ?_⟩
    rw [width_ofNat (by omega), if_neg (by omega), if_neg (by omega), if_pos (by omega)]
    rfl
  | case4 v h h' h'' =>
    refine ⟨_, _, rfl, ?_⟩
    rw [width_ofNat (by omega), if_neg (by omega), if_neg (by omega), if_neg (by omega),
      if_pos (by omega)]
    rfl

end Utf8

theorem Input.readChar_encode (c : Char) (rest : List UInt8) (ending : Input.Ending) :
    readChar ⟨Utf8.encode (String.singleton c) ++ rest, ending⟩ = (.ok c, ⟨rest, ending⟩) := by
  obtain ⟨lead, others, hbytes, hwidth⟩ := Utf8.width_encodeChar c
  have hdecode := Utf8.decodeChar?_encodeChar c
  rw [Utf8.encode_singleton]
  rw [hbytes] at hwidth hdecode ⊢
  have htake : (lead :: others ++ rest).take (Utf8.width lead) = lead :: others := by
    rw [hwidth, List.take_left]
  have hdrop : (lead :: others ++ rest).drop (Utf8.width lead) = rest := by
    rw [hwidth, List.drop_left]
  have hlength : ¬ (lead :: others).length < Utf8.width lead := by omega
  rw [List.cons_append] at htake hdrop ⊢
  simp only [readChar, htake, hdrop, hlength, if_false, hdecode]

/-! Lines with a number. -/

/-- The characters that a written number is made of. -/
def Decimal.Mark (c : Char) : Prop :=
  c.isDigit = true ∨ c = '-'

theorem Decimal.mark_of_mem_write {n : Int} {c : Char} (h : c ∈ (write n).toList) : Mark c := by
  have hnumeral : ∀ n, c ∈ numeral n → c.isDigit = true := by
    intro n hc
    rw [numeral_eq] at hc
    exact Nat.isDigit_of_mem_toDigits (by decide) (by decide) hc
  simp only [write, String.toList_ofList] at h
  split at h
  · rcases List.mem_cons.mp h with hc | hc
    · exact Or.inr hc
    · exact Or.inl (hnumeral _ hc)
  · exact Or.inl (hnumeral _ h)

theorem Decimal.Mark.bounds {c : Char} (h : Mark c) : 45 ≤ c.toNat ∧ c.toNat ≤ 57 := by
  rcases h with h | rfl
  · simp only [Char.isDigit, Bool.and_eq_true, decide_eq_true_eq, UInt32.le_iff_toNat_le] at h
    change 48 ≤ c.val.toNat ∧ c.val.toNat ≤ 57 at h
    change 45 ≤ c.val.toNat ∧ c.val.toNat ≤ 57
    omega
  · decide

theorem Decimal.Mark.isBlank {c : Char} (h : Mark c) : isBlank c = false := by
  have hbounds := h.bounds
  cases hb : Backstep.isBlank c with
  | false => rfl
  | true =>
    obtain ⟨range, hm, hr⟩ := CodePoints.exists_of_holds hb
    simp only [CodePoints.blank, List.mem_cons, List.not_mem_nil, or_false] at hm
    rcases hm with rfl | rfl | rfl | rfl | rfl | rfl | rfl | rfl | rfl | rfl <;> omega

theorem Decimal.Mark.encodeChar {c : Char} (h : Mark c) : 10 ∉ Utf8.encodeChar c := by
  have hbounds := h.bounds
  have hbyte : Utf8.encodeChar c = [UInt8.ofNat c.toNat] := by
    unfold Utf8.encodeChar String.utf8EncodeChar
    exact if_pos (show c.toNat ≤ 0x7F by omega)
  rw [hbyte, List.mem_singleton]
  intro h10
  have hnat := congrArg UInt8.toNat h10
  rw [UInt8.toNat_ofNat', Nat.mod_eq_of_lt (by omega)] at hnat
  change 10 = c.toNat at hnat
  omega

theorem trim_eq_self {text : List Char} (h : ∀ c ∈ text, isBlank c = false) : trim text = text := by
  have hkept : ∀ text : List Char, (∀ c ∈ text, isBlank c = false) →
      text.dropWhile isBlank = text := by
    intro text htext
    cases text with
    | nil => rfl
    | cons c text => simp only [List.dropWhile_cons, htext c List.mem_cons_self]; rfl
  rw [trim, hkept text h, hkept text.reverse fun c hc => h c (List.mem_reverse.mp hc),
    List.reverse_reverse]

namespace Input

theorem splitLine?_of_not_mem {line : List UInt8} (h : 10 ∉ line) (rest : List UInt8) :
    splitLine? (line ++ 10 :: rest) = some (line, rest) := by
  induction line with
  | nil => rfl
  | cons b line ih =>
    have hb : b ≠ 10 := fun hb => h (hb ▸ List.mem_cons_self)
    have hline : 10 ∉ line := fun hm => h (List.mem_cons_of_mem b hm)
    rw [List.cons_append, splitLine?, if_neg hb, ih hline]
    rfl

theorem numberOfLine_write (n : Int) :
    numberOfLine (Utf8.encode (Decimal.write n)) = .ok n := by
  have htrim : trim (Decimal.write n).toList = (Decimal.write n).toList :=
    trim_eq_self fun c hc => (Decimal.mark_of_mem_write hc).isBlank
  rw [numberOfLine, Utf8.decode?_encode]
  simp only [htrim, Decimal.read?_write]

theorem readNumber_encode (n : Int) (rest : List UInt8) (ending : Input.Ending) :
    readNumber ⟨Utf8.encode (toString n ++ "\n") ++ rest, ending⟩ = (.ok n, ⟨rest, ending⟩) := by
  have hfree : 10 ∉ Utf8.encode (Decimal.write n) := by
    rw [← @String.ofList_toList (Decimal.write n), Utf8.encode_ofList, List.mem_flatMap]
    rintro ⟨c, hc, hbyte⟩
    exact (Decimal.mark_of_mem_write hc).encodeChar hbyte
  rw [← Decimal.write_eq_toString, Utf8.encode_append, Utf8.encode_feed, List.append_assoc,
    List.singleton_append, readNumber]
  simp only [splitLine?_of_not_mem hfree, numberOfLine_write]

end Input
end Backstep
