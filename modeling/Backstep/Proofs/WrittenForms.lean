import Backstep.Proofs.Encoding
import Mathlib.Data.List.DropRight

/-! What is written in bytes and in texts, said without the functions that read it:
the encodings of characters and the width that their first bytes announce, texts
with blanks around them, and decimal numerals. The functions that read accept just
these. -/
namespace Backstep

namespace Utf8

theorem decode?_eq_some_iff {bytes : List UInt8} {text : String} :
    decode? bytes = some text ↔ bytes = encode text := by
  constructor
  · intro h
    rw [decode?, String.fromUTF8?] at h
    split at h
    · cases h
      rfl
    · cases h
  · rintro rfl
    exact decode?_encode text

theorem decodeChar?_eq_some_iff {bytes : List UInt8} {c : Char} :
    decodeChar? bytes = some c ↔ encodeChar c <+: bytes := by
  constructor
  · intro h
    obtain ⟨rest, hrest⟩ := ByteArray.exists_of_utf8DecodeChar?_eq_some h
    refine ⟨rest.data.toList, ?_⟩
    have hlist := congrArg (fun b => b.data.toList) hrest
    simpa [encodeChar] using hlist.symm
  · rintro ⟨rest, rfl⟩
    have hbytes : ByteArray.mk (encodeChar c ++ rest).toArray =
        (String.utf8EncodeChar c).toByteArray ++ rest.toByteArray := by
      rw [← List.toByteArray_append, encodeChar, ← List.data_toByteArray]
    rw [decodeChar?, hbytes]
    exact ByteArray.utf8DecodeChar?_utf8EncodeChar_append

theorem encodeChar_ne_nil (c : Char) : encodeChar c ≠ [] := by
  obtain ⟨lead, rest, hbytes, -⟩ := width_encodeChar c
  rw [hbytes]
  exact List.cons_ne_nil lead rest

/-! The width that a first byte announces. -/

/-- The characters whose encoding begins with `lead` take `n` bytes; a byte that begins no encoding
stands alone. -/
def Announces (lead : UInt8) (n : Nat) : Prop :=
  (∃ c rest, encodeChar c = lead :: rest ∧ n = (encodeChar c).length) ∨
    (∀ c rest, encodeChar c ≠ lead :: rest) ∧ n = 1

/-- A character whose encoding begins with `lead`, if there is one. Of the characters that the bits
of `lead` stand for, the first ones may have a shorter encoding. -/
def opened (lead : UInt8) : Char :=
  let n := lead.toNat
  if n < 0xE0 then .ofNat (0x40 * (n - 0xC0))
  else if n < 0xF0 then .ofNat (max 0x800 (0x1000 * (n - 0xE0)))
  else .ofNat (max 0x10000 (0x40000 * (n - 0xF0)))

theorem head?_encodeChar_opened {lead : UInt8} (h : 1 < width lead) :
    (encodeChar (opened lead)).head? = some lead := by
  have hall : ∀ n : Fin 256, 1 < width (.ofNat n) →
      (encodeChar (opened (.ofNat n))).head? = some (.ofNat n) := by
    decide +kernel
  have hlead := hall ⟨lead.toNat, lead.toNat_lt⟩
  rw [UInt8.ofNat_toNat] at hlead
  exact hlead h

theorem width_of_encodeChar {c : Char} {lead : UInt8} {rest : List UInt8}
    (h : encodeChar c = lead :: rest) : width lead = (encodeChar c).length := by
  obtain ⟨first, others, hbytes, hwidth⟩ := width_encodeChar c
  rw [h] at hbytes
  cases hbytes
  exact hwidth

theorem announces_iff {lead : UInt8} {n : Nat} : Announces lead n ↔ n = width lead := by
  have halone : (∀ c rest, encodeChar c ≠ lead :: rest) → width lead = 1 := by
    intro hnone
    have hpos := width_pos lead
    by_contra hne
    have hwide : 1 < width lead := by omega
    have hhead := head?_encodeChar_opened hwide
    obtain ⟨rest, hrest⟩ := List.head?_eq_some_iff.mp hhead
    exact hnone _ rest hrest
  constructor
  · rintro (⟨c, rest, hc, rfl⟩ | ⟨hnone, rfl⟩)
    · exact (width_of_encodeChar hc).symm
    · exact (halone hnone).symm
  · rintro rfl
    by_cases hsome : ∃ c rest, encodeChar c = lead :: rest
    · obtain ⟨c, rest, hc⟩ := hsome
      exact Or.inl ⟨c, rest, hc, width_of_encodeChar hc⟩
    · have hnone : ∀ c rest, encodeChar c ≠ lead :: rest :=
        fun c rest hc => hsome ⟨c, rest, hc⟩
      exact Or.inr ⟨hnone, halone hnone⟩

/-- The bytes end before those that the first of them announces, or there are none. -/
def Cut (bytes : List UInt8) : Prop :=
  ∀ lead rest, bytes = lead :: rest → ∃ n, Announces lead n ∧ bytes.length < n

theorem cut_cons {lead : UInt8} {rest : List UInt8} :
    Cut (lead :: rest) ↔ (lead :: rest).length < width lead := by
  constructor
  · intro h
    obtain ⟨n, hn, hlt⟩ := h lead rest rfl
    rwa [announces_iff.mp hn] at hlt
  · rintro h _ _ ⟨⟩
    exact ⟨width lead, announces_iff.mpr rfl, h⟩

theorem take_width {c : Char} {lead : UInt8} {bytes : List UInt8} (hlead : bytes.head? = some lead)
    (h : encodeChar c <+: bytes) : bytes.take (width lead) = encodeChar c := by
  obtain ⟨rest, rfl⟩ := h
  obtain ⟨first, others, hbytes, hwidth⟩ := width_encodeChar c
  rw [hbytes] at hlead
  cases hlead
  rw [hwidth, List.take_left]

/-- The encoding of a character is all that is taken, or the character is not there. -/
theorem decodeChar?_take_width {c : Char} {lead : UInt8} {bytes : List UInt8}
    (hlead : bytes.head? = some lead) :
    decodeChar? (bytes.take (width lead)) = some c ↔ encodeChar c <+: bytes := by
  rw [decodeChar?_eq_some_iff]
  constructor
  · exact fun h => h.trans (List.take_prefix _ bytes)
  · intro h
    simp only [take_width hlead h, List.prefix_rfl]

/-! Texts with a line feed at their end. -/

/-- Of all characters only the line feed has an encoding that ends with the byte of a line feed. -/
theorem eq_feed_of_getLast? {c : Char} (h : (encodeChar c).getLast? = some 10) : c = '\n' := by
  rw [List.getLast?_eq_getElem?] at h
  obtain ⟨hlt, hlast⟩ := List.getElem?_eq_some_iff.mp h
  have hopens : (encodeChar c)[(encodeChar c).length - 1].IsUTF8FirstByte := by
    rw [hlast]
    decide
  have hzero := UInt8.isUTF8FirstByte_getElem_utf8EncodeChar.mp hopens
  have hbytes : encodeChar c = [10] := by
    obtain ⟨lead, rest, hc, -⟩ := width_encodeChar c
    simp only [hc, List.length_cons, Nat.add_sub_cancel, List.length_eq_zero_iff] at hzero
    subst hzero
    simp only [hc, List.length_singleton, Nat.sub_self, List.getElem_cons_zero] at hlast
    rw [hc, hlast]
  have hdecode := decodeChar?_encodeChar c
  rw [hbytes] at hdecode
  have hfeed : decodeChar? [10] = some '\n' := by decide +kernel
  rw [hfeed] at hdecode
  exact (Option.some.inj hdecode).symm

theorem encode_append_feed_iff {body : List UInt8} {text : String} :
    body ++ [10] = encode text ↔ ∃ before, text = before ++ "\n" ∧ body = encode before := by
  constructor
  · intro h
    rcases List.eq_nil_or_concat' text.toList with hnil | ⟨chars, c, hchars⟩
    · rw [← @String.ofList_toList text, hnil] at h
      simp [encode] at h
    · have htext : text = String.ofList chars ++ String.singleton c := by
        rw [← @String.ofList_toList text, hchars, String.ofList_append,
          String.singleton_eq_ofList]
      rw [htext, encode_append, encode_singleton] at h
      have hlast := congrArg List.getLast? h
      rw [List.getLast?_concat, List.getLast?_append_of_ne_nil _ (encodeChar_ne_nil c)] at hlast
      obtain rfl := eq_feed_of_getLast? hlast.symm
      rw [← encode_singleton] at h
      change body ++ [10] = encode (String.ofList chars) ++ encode "\n" at h
      rw [encode_feed, List.append_cancel_right_eq] at h
      exact ⟨_, htext, h⟩
  · rintro ⟨before, rfl, rfl⟩
    rw [encode_append, encode_feed]

end Utf8

/-! Blanks around a text. -/

/-- `core` is what is left of `text` without the blanks around it. -/
structure Trimmed (text core : List Char) : Prop where
  around : ∃ before after, text = before ++ core ++ after ∧
    ∀ c ∈ before ++ after, isBlank c = true
  first : ∀ c ∈ core.head?, isBlank c = false
  last : ∀ c ∈ core.getLast?, isBlank c = false

theorem trimmed_trim (text : List Char) : Trimmed text (trim text) := by
  have hprefix : trim text <+: text.dropWhile isBlank := List.rdropWhile_prefix isBlank _
  refine ⟨⟨text.takeWhile isBlank, (text.dropWhile isBlank).rtakeWhile isBlank, ?_, ?_⟩,
    ?_, ?_⟩
  · have hright : trim text ++ (text.dropWhile isBlank).rtakeWhile isBlank =
        text.dropWhile isBlank := List.rdropWhile_append_rtakeWhile
    rw [List.append_assoc, hright, List.takeWhile_append_dropWhile]
  · intro c hc
    rcases List.mem_append.mp hc with hleft | hright
    · exact List.mem_takeWhile_imp hleft
    · exact List.mem_rtakeWhile_imp hright
  · intro c hc
    have hdrop := List.head?_dropWhile_not isBlank text
    obtain ⟨rest, hrest⟩ := List.head?_eq_some_iff.mp hc
    obtain ⟨after, hafter⟩ := hprefix
    rw [hrest] at hafter
    rw [← hafter] at hdrop
    exact hdrop
  · intro c hc
    obtain ⟨hne, hlast⟩ := List.mem_getLast?_eq_getLast hc
    subst hlast
    exact Bool.eq_false_iff.mpr (List.rdropWhile_last_not isBlank (text.dropWhile isBlank) hne)

theorem dropWhile_blanks {before rest : List Char} (hb : ∀ c ∈ before, isBlank c = true)
    (hr : ∀ c ∈ rest.head?, isBlank c = false) : (before ++ rest).dropWhile isBlank = rest := by
  rw [List.dropWhile_append_of_pos hb]
  cases rest with
  | nil => rfl
  | cons c rest => exact List.dropWhile_cons_of_neg (by simp [hr c rfl])

theorem Trimmed.eq_trim {text core : List Char} (h : Trimmed text core) : core = trim text := by
  obtain ⟨⟨before, after, rfl, hblank⟩, hfirst, hlast⟩ := h
  have hbefore : ∀ c ∈ before, isBlank c = true :=
    fun c hc => hblank c (List.mem_append_left _ hc)
  have hafter : ∀ c ∈ after.reverse, isBlank c = true := fun c hc =>
    hblank c (List.mem_append_right _ (List.mem_reverse.mp hc))
  cases core with
  | nil =>
    have hall : (before ++ [] ++ after).dropWhile isBlank = [] :=
      List.dropWhile_eq_nil_iff.mpr (by simpa using hblank)
    rw [trim, hall]
    rfl
  | cons c core =>
    have hfront : ∀ d ∈ (c :: core ++ after).head?, isBlank d = false := hfirst
    rw [trim, List.append_assoc, dropWhile_blanks hbefore hfront, List.reverse_append,
      dropWhile_blanks hafter (by rwa [List.head?_reverse]), List.reverse_reverse]

theorem Trimmed.append_blank {text core : List Char} (h : Trimmed text core) {c : Char}
    (hc : isBlank c = true) : Trimmed (text ++ [c]) core := by
  obtain ⟨⟨before, after, rfl, hblank⟩, hfirst, hlast⟩ := h
  refine ⟨⟨before, after ++ [c], by rw [List.append_assoc], ?_⟩, hfirst, hlast⟩
  intro d hd
  rw [← List.append_assoc] at hd
  rcases List.mem_append.mp hd with hold | hnew
  · exact hblank d hold
  · rw [List.mem_singleton.mp hnew]
    exact hc

/-! Decimal numerals. -/

namespace Decimal

/-- One digit or more, the most significant first. -/
inductive Digits : List Char → Nat → Prop
  | one {d : Nat} : d < 10 → Digits [Nat.digitChar d] d
  | more {ds : List Char} {n d : Nat} : Digits ds n → d < 10 →
      Digits (ds ++ [Nat.digitChar d]) (10 * n + d)

/-- Digits after at most one sign. -/
inductive Numeral : List Char → Int → Prop
  | unsigned {ds : List Char} {n : Nat} : Digits ds n → Numeral ds n
  | plus {ds : List Char} {n : Nat} : Digits ds n → Numeral ('+' :: ds) n
  | minus {ds : List Char} {n : Nat} : Digits ds n → Numeral ('-' :: ds) (-n)

theorem Digits.magnitude? {ds : List Char} {n : Nat} (h : Digits ds n) :
    magnitude? ds = some n := by
  have hvalues : ∃ values : List Nat, values ≠ [] ∧ (∀ d ∈ values, d < 10) ∧
      ds = values.map Nat.digitChar ∧ Positional.value 10 values = n := by
    induction h with
    | @one d hd =>
      refine ⟨[d], by simp, by simpa using hd, rfl, ?_⟩
      rw [Positional.value_eq_foldl]
      rfl
    | @more ds n d _ hd ih =>
      obtain ⟨values, -, hlt, rfl, rfl⟩ := ih
      refine ⟨values ++ [d], by simp, ?_, by simp, ?_⟩
      · intro e he
        rcases List.mem_append.mp he with hold | hnew
        · exact hlt e hold
        · exact List.mem_singleton.mp hnew ▸ hd
      · rw [Positional.value_append_singleton, Nat.add_comm]
  obtain ⟨values, hne, hlt, rfl, rfl⟩ := hvalues
  exact magnitude?_map_digitChar hne hlt

theorem digitChar_ofDigitChar {c : Char} (h : c.isDigit = true) :
    Nat.digitChar (ofDigitChar c) = c ∧ ofDigitChar c < 10 := by
  obtain ⟨hlow, hhigh⟩ := Char.isDigit_iff_toNat.mp h
  change 48 ≤ c.toNat at hlow
  change c.toNat ≤ 57 at hhigh
  have hlt : ofDigitChar c < 10 := by
    rw [ofDigitChar]
    omega
  refine ⟨Char.toNat_inj.mp ?_, hlt⟩
  rw [Nat.toNat_digitChar_of_lt_ten hlt, ofDigitChar]
  omega

theorem exists_digits {ds : List Char} (hne : ds ≠ []) (h : ∀ c ∈ ds, c.isDigit = true) :
    ∃ n, Digits ds n := by
  induction ds using List.reverseRecOn with
  | nil => exact absurd rfl hne
  | append_singleton ds c ih =>
    obtain ⟨hc, hlt⟩ := digitChar_ofDigitChar (h c (by simp))
    rw [← hc]
    by_cases hds : ds = []
    · rw [hds]
      exact ⟨_, .one hlt⟩
    · obtain ⟨n, hn⟩ := ih hds fun d hd => h d (List.mem_append_left _ hd)
      exact ⟨_, .more hn hlt⟩

theorem magnitude?_eq_some_iff {ds : List Char} {n : Nat} :
    magnitude? ds = some n ↔ Digits ds n := by
  refine ⟨fun h => ?_, Digits.magnitude?⟩
  have hdigits : ds ≠ [] ∧ ds.all Char.isDigit = true := by
    rw [Decimal.magnitude?] at h
    split at h
    · next hd => exact hd
    · cases h
  obtain ⟨m, hm⟩ := exists_digits hdigits.1 (List.all_eq_true.mp hdigits.2)
  rw [hm.magnitude?] at h
  cases h
  exact hm

theorem read?_eq_some_iff {text : List Char} {v : Int} :
    read? text = some v ↔ Numeral text v := by
  constructor
  · intro h
    rw [read?.eq_def] at h
    split at h
    · obtain ⟨n, hn, rfl⟩ := Option.map_eq_some_iff.mp h
      exact .minus (magnitude?_eq_some_iff.mp hn)
    · obtain ⟨n, hn, rfl⟩ := Option.map_eq_some_iff.mp h
      exact .plus (magnitude?_eq_some_iff.mp hn)
    · obtain ⟨n, hn, rfl⟩ := Option.map_eq_some_iff.mp h
      exact .unsigned (magnitude?_eq_some_iff.mp hn)
  · intro h
    cases h with
    | unsigned hd => exact read?_of_magnitude? hd.magnitude?
    | plus hd => rw [read?, hd.magnitude?, Option.map_some]
    | minus hd => rw [read?, hd.magnitude?, Option.map_some]

end Decimal

end Backstep
