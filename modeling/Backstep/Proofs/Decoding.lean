import Backstep.Proofs.Effects
import Backstep.Proofs.Reachable
import Backstep.Proofs.WrittenForms

/-! What a read takes from arbitrary bytes. A character is read just where its
encoding stands, and a number just where a line has a decimal numeral on it, with
blanks around it or not. How many bytes are taken does not depend on whether they
could be read. -/
namespace Backstep

namespace Input

/-! Characters. -/

/-- A character at the beginning of the bytes, as the value that is read. -/
def readCharValue (i : Input) : Except Fault Value × Input :=
  (i.readChar.1.map fun c => (c.toNat : Value), i.readChar.2)

/-- What reading a character from bytes gives, and the bytes after those that it took. -/
inductive CharRead : List UInt8 → Except Fault Value → List UInt8 → Prop
  | char (c : Char) (rest : List UInt8) :
      CharRead (Utf8.encodeChar c ++ rest) (.ok c.toNat) rest
  | cut {bytes : List UInt8} : Utf8.Cut bytes → CharRead bytes (.error .endOfInput) []
  | invalid {lead : UInt8} {others rest : List UInt8} :
      Utf8.Announces lead (lead :: others).length →
      (∀ c, ¬ Utf8.encodeChar c <+: lead :: others ++ rest) →
      CharRead (lead :: others ++ rest) (.error (.invalidBytes (lead :: others))) rest

theorem readChar_of_cut {bytes : List UInt8} (h : Utf8.Cut bytes) (ending : Input.Ending) :
    readChar ⟨bytes, ending⟩ = (.error ending.fault, ⟨[], ending⟩) := by
  cases bytes with
  | nil => rfl
  | cons lead rest =>
    have hlt := Utf8.cut_cons.mp h
    have hle := Nat.le_of_lt hlt
    have hlength : ((lead :: rest).take (Utf8.width lead)).length < Utf8.width lead := by
      rwa [List.take_of_length_le hle]
    simp only [readChar, hlength, if_true, List.drop_of_length_le hle]

theorem readChar_of_char (c : Char) (rest : List UInt8) (ending : Input.Ending) :
    readChar ⟨Utf8.encodeChar c ++ rest, ending⟩ = (.ok c, ⟨rest, ending⟩) := by
  rw [← Utf8.encode_singleton, readChar_encode]

theorem readChar_of_invalid {lead : UInt8} {others rest : List UInt8}
    (hn : Utf8.Announces lead (lead :: others).length)
    (hc : ∀ c, ¬ Utf8.encodeChar c <+: lead :: others ++ rest) (ending : Input.Ending) :
    readChar ⟨lead :: others ++ rest, ending⟩ =
      (.error (.invalidBytes (lead :: others)), ⟨rest, ending⟩) := by
  have hwidth := Utf8.announces_iff.mp hn
  have htake : (lead :: others ++ rest).take (Utf8.width lead) = lead :: others := by
    rw [← hwidth, List.take_left]
  have hdrop : (lead :: others ++ rest).drop (Utf8.width lead) = rest := by
    rw [← hwidth, List.drop_left]
  have hdecode : Utf8.decodeChar? (lead :: others) = none := by
    rw [← htake, Option.eq_none_iff_forall_ne_some]
    exact fun c hsome => hc c ((Utf8.decodeChar?_take_width rfl).mp hsome)
  have hlength : ¬ (lead :: others).length < Utf8.width lead := by omega
  rw [List.cons_append] at htake hdrop ⊢
  simp only [readChar, htake, hdrop, hlength, if_false, hdecode]

theorem CharRead.readCharValue_eq {bytes rest : List UInt8} {r : Except Fault Value}
    (h : CharRead bytes r rest) : readCharValue ⟨bytes, .ended⟩ = (r, ⟨rest, .ended⟩) := by
  cases h with
  | char c rest =>
    rw [readCharValue, readChar_of_char]
    rfl
  | cut h =>
    rw [readCharValue, readChar_of_cut h]
    rfl
  | invalid hn hc =>
    rw [readCharValue, readChar_of_invalid hn hc]
    rfl

theorem exists_charRead (bytes : List UInt8) : ∃ r rest, CharRead bytes r rest := by
  by_cases hcut : Utf8.Cut bytes
  · exact ⟨_, _, .cut hcut⟩
  · by_cases hchar : ∃ c, Utf8.encodeChar c <+: bytes
    · obtain ⟨c, rest, rfl⟩ := hchar
      exact ⟨_, _, .char c rest⟩
    · cases bytes with
      | nil => exact absurd (fun _ _ h => by cases h) hcut
      | cons lead rest =>
        rw [Utf8.cut_cons, Nat.not_lt] at hcut
        obtain ⟨n, hn⟩ := Nat.exists_eq_succ_of_ne_zero (Nat.ne_of_gt (Utf8.width_pos lead))
        have hsplit : lead :: rest.take n ++ rest.drop n = lead :: rest := by
          rw [List.cons_append, List.take_append_drop]
        rw [List.length_cons] at hcut
        have hlength : (lead :: rest.take n).length = Utf8.width lead := by
          rw [List.length_cons, List.length_take]
          omega
        rw [← hsplit] at hchar ⊢
        exact ⟨_, _, .invalid (Utf8.announces_iff.mpr hlength) fun c hc => hchar ⟨c, hc⟩⟩

theorem charRead_iff {bytes rest : List UInt8} {r : Except Fault Value} :
    CharRead bytes r rest ↔ readCharValue ⟨bytes, .ended⟩ = (r, ⟨rest, .ended⟩) := by
  refine ⟨CharRead.readCharValue_eq, fun h => ?_⟩
  obtain ⟨r', rest', hread⟩ := exists_charRead bytes
  have heq := hread.readCharValue_eq
  rw [h] at heq
  cases heq
  exact hread

/-! Numbers. -/

/-- The first line of the bytes, with its line feed if it has one, and the bytes after it. Without
any bytes there is no line. -/
inductive FirstLine : List UInt8 → List UInt8 → List UInt8 → Prop
  | closed {body : List UInt8} (rest : List UInt8) : 10 ∉ body →
      FirstLine (body ++ 10 :: rest) (body ++ [10]) rest
  | open {body : List UInt8} : body ≠ [] → 10 ∉ body → FirstLine body body []

/-- What reading a number from bytes gives, and the bytes after those that it took. -/
inductive NumberRead : List UInt8 → Except Fault Value → List UInt8 → Prop
  | nothing : NumberRead [] (.error .endOfInput) []
  | number {bytes line rest : List UInt8} {text : String} {core : List Char} {v : Value} :
      FirstLine bytes line rest → line = Utf8.encode text → Trimmed text.toList core →
      Decimal.Numeral core v → NumberRead bytes (.ok v) rest
  | undecodable {bytes line rest : List UInt8} : FirstLine bytes line rest →
      (∀ text, line ≠ Utf8.encode text) →
      NumberRead bytes (.error (.stream "stream did not contain valid UTF-8")) rest
  | invalid {bytes line rest : List UInt8} {text : String} {core : List Char} :
      FirstLine bytes line rest → line = Utf8.encode text → Trimmed text.toList core →
      (∀ v, ¬ Decimal.Numeral core v) →
      NumberRead bytes (.error (.invalidNumber (String.ofList core))) rest

theorem exists_firstLine {bytes : List UInt8} (hne : bytes ≠ []) :
    ∃ line rest, FirstLine bytes line rest := by
  by_cases h : 10 ∈ bytes
  · obtain ⟨body, rest, rfl, hbody⟩ := List.eq_append_cons_of_mem h
    exact ⟨_, _, .closed rest hbody⟩
  · exact ⟨_, _, .open hne h⟩

theorem splitLine?_eq_none {bytes : List UInt8} (h : 10 ∉ bytes) : splitLine? bytes = none := by
  induction bytes with
  | nil => rfl
  | cons b bytes ih =>
    rw [List.mem_cons, not_or] at h
    rw [splitLine?, if_neg (Ne.symm h.1), ih h.2]
    rfl

theorem numberOfLine_feed (body : List UInt8) :
    numberOfLine (body ++ [10]) = numberOfLine body := by
  cases hdecode : Utf8.decode? body with
  | none =>
    have hnone : Utf8.decode? (body ++ [10]) = none := by
      rw [Option.eq_none_iff_forall_ne_some]
      intro text htext
      obtain ⟨before, -, hbefore⟩ :=
        Utf8.encode_append_feed_iff.mp (Utf8.decode?_eq_some_iff.mp htext)
      rw [Utf8.decode?_eq_some_iff.mpr hbefore] at hdecode
      cases hdecode
    rw [numberOfLine, numberOfLine, hnone, hdecode]
  | some text =>
    have hsome : Utf8.decode? (body ++ [10]) = some (text ++ "\n") :=
      Utf8.decode?_eq_some_iff.mpr
        (Utf8.encode_append_feed_iff.mpr ⟨text, rfl, Utf8.decode?_eq_some_iff.mp hdecode⟩)
    have htrim : trim (text ++ "\n").toList = trim text.toList := by
      rw [String.toList_append]
      exact ((trimmed_trim text.toList).append_blank (by decide)).eq_trim.symm
    rw [numberOfLine, numberOfLine, hsome, hdecode]
    simp only [htrim]

theorem FirstLine.readNumber_eq {bytes line rest : List UInt8} (h : FirstLine bytes line rest) :
    readNumber ⟨bytes, .ended⟩ = (numberOfLine line, ⟨rest, .ended⟩) := by
  cases h with
  | closed rest hbody => rw [readNumber, splitLine?_of_not_mem hbody, numberOfLine_feed]
  | «open» hne hbody =>
    simp only [readNumber, splitLine?_eq_none hbody, hne, ne_eq, not_true_eq_false, or_self,
      if_false]

theorem numberOfLine_of_read {text : String} {core : List Char} {v : Value}
    (h : Trimmed text.toList core) (hread : Decimal.read? core = some v) :
    numberOfLine (Utf8.encode text) = .ok v := by
  rw [h.eq_trim] at hread
  simp only [numberOfLine, Utf8.decode?_encode, hread]

theorem numberOfLine_of_not_read {text : String} {core : List Char}
    (h : Trimmed text.toList core) (hread : Decimal.read? core = none) :
    numberOfLine (Utf8.encode text) = .error (.invalidNumber (String.ofList core)) := by
  obtain rfl := h.eq_trim
  simp only [numberOfLine, Utf8.decode?_encode, hread]

theorem NumberRead.readNumber_eq {bytes rest : List UInt8} {r : Except Fault Value}
    (h : NumberRead bytes r rest) : readNumber ⟨bytes, .ended⟩ = (r, ⟨rest, .ended⟩) := by
  cases h with
  | nothing => rfl
  | number hline htext htrim hv =>
    rw [hline.readNumber_eq, htext,
      numberOfLine_of_read htrim (Decimal.read?_eq_some_iff.mpr hv)]
  | @undecodable _ line _ hline htext =>
    have hdecode : Utf8.decode? line = none := by
      rw [Option.eq_none_iff_forall_ne_some]
      exact fun text hsome => htext text (Utf8.decode?_eq_some_iff.mp hsome)
    rw [hline.readNumber_eq, numberOfLine, hdecode]
  | @invalid _ _ _ _ core hline htext htrim hnone =>
    have hread : Decimal.read? core = none := by
      rw [Option.eq_none_iff_forall_ne_some]
      exact fun v hsome => hnone v (Decimal.read?_eq_some_iff.mp hsome)
    rw [hline.readNumber_eq, htext, numberOfLine_of_not_read htrim hread]

theorem exists_numberRead (bytes : List UInt8) : ∃ r rest, NumberRead bytes r rest := by
  by_cases hne : bytes = []
  · subst hne
    exact ⟨_, _, .nothing⟩
  · obtain ⟨line, rest, hline⟩ := exists_firstLine hne
    by_cases hdecode : ∃ text, line = Utf8.encode text
    · obtain ⟨text, htext⟩ := hdecode
      have htrim := trimmed_trim text.toList
      by_cases hnumeral : ∃ v, Decimal.Numeral (trim text.toList) v
      · obtain ⟨v, hv⟩ := hnumeral
        exact ⟨_, _, .number hline htext htrim hv⟩
      · exact ⟨_, _, .invalid hline htext htrim fun v hv => hnumeral ⟨v, hv⟩⟩
    · exact ⟨_, _, .undecodable hline fun text htext => hdecode ⟨text, htext⟩⟩

theorem numberRead_iff {bytes rest : List UInt8} {r : Except Fault Value} :
    NumberRead bytes r rest ↔ readNumber ⟨bytes, .ended⟩ = (r, ⟨rest, .ended⟩) := by
  refine ⟨NumberRead.readNumber_eq, fun h => ?_⟩
  obtain ⟨r', rest', hread⟩ := exists_numberRead bytes
  have heq := hread.readNumber_eq
  rw [h] at heq
  cases heq
  exact hread

end Input

/-! Instructions that read. -/

namespace Machine

variable {p : Program} {i : Instruction} {m : Machine}

/-- The attempt that reads `r` and leaves `rest`: the value is pushed, or nothing happens to the
state. -/
def reading (p : Program) (m : Machine) (r : Except Fault Value) (rest : Input) : Attempt :=
  match r with
  | .ok v =>
    ⟨{ m with input := rest, state := (m.passed.state.push v).settle p.size m.state.pc }, none⟩
  | .error f => ⟨{ m with input := rest }, some f⟩

theorem attempt_eq_reading {r : Except Fault Value} {rest : Input}
    (h : m.intent i = .take (r, rest)) : m.attempt p i = m.reading p r rest := by
  rw [attempt_eq, h]
  cases r <;> rfl

theorem reading_inj {r r' : Except Fault Value} {rest rest' : Input} :
    m.reading p r rest = m.reading p r' rest' ↔ (r, rest) = (r', rest') := by
  refine ⟨fun h => ?_, fun h => by cases h; rfl⟩
  have hfault := congrArg Attempt.fault h
  have hrest := congrArg (fun a => a.machine.input) h
  have hstack := congrArg (fun a => a.machine.state.stack.values) h
  cases r with
  | ok v =>
    cases r' with
    | ok v' =>
      change v :: m.state.stack.values = v' :: m.state.stack.values at hstack
      cases hstack
      cases hrest
      rfl
    | error f' => cases hfault
  | error f =>
    cases r' with
    | ok v' => cases hfault
    | error f' =>
      cases hfault
      cases hrest
      rfl

theorem attempt_readChar (ho : i.operation = .readChar) :
    m.attempt p i = m.reading p m.input.readCharValue.1 m.input.readCharValue.2 := by
  refine attempt_eq_reading ?_
  rw [intent, State.intent, ho]
  rfl

theorem attempt_readNum (ho : i.operation = .readNum) :
    m.attempt p i = m.reading p m.input.readNumber.1 m.input.readNumber.2 := by
  refine attempt_eq_reading ?_
  rw [intent, State.intent, ho]

end Machine

/-- What the instruction reads from bytes, and the bytes after those that it takes. -/
def Instruction.Decodes (i : Instruction) (bytes : List UInt8) (r : Except Fault Value)
    (rest : List UInt8) : Prop :=
  match i.operation with
  | .readChar => Input.CharRead bytes r rest
  | .readNum => Input.NumberRead bytes r rest
  | _ => False

theorem Instruction.exists_decodes {i : Instruction} (h : i.operation.reads = true)
    (bytes : List UInt8) : ∃ r rest, i.Decodes bytes r rest := by
  simp only [Decodes]
  cases ho : i.operation with
  | readChar => exact Input.exists_charRead bytes
  | readNum => exact Input.exists_numberRead bytes
  | _ => rw [ho] at h; cases h

namespace Machine

theorem attempt_decodes {p : Program} {i : Instruction} {m : Machine} {bytes : List UInt8}
    (h : i.operation.reads = true) (hb : m.input = ⟨bytes, .ended⟩) (r : Except Fault Value)
    (rest : List UInt8) :
    i.Decodes bytes r rest ↔ m.attempt p i = m.reading p r ⟨rest, .ended⟩ := by
  simp only [Instruction.Decodes]
  cases ho : i.operation with
  | readChar =>
    rw [attempt_readChar ho, hb, reading_inj]
    exact Input.charRead_iff
  | readNum =>
    rw [attempt_readNum ho, hb, reading_inj]
    exact Input.numberRead_iff
  | _ => rw [ho] at h; cases h

end Machine

/-- What an instruction took from the input is gone, also if the recording has no room after it. -/
theorem Session.step_input {s : Session} {i : Instruction} (ha : s.Anchored) (h : s.Fires i) :
    s.step.session.machine.input = (s.machine.attempt s.program i).machine.input := by
  cases hf : (s.machine.attempt s.program i).fault with
  | some f =>
    rw [step_of_fault h hf]
    rfl
  | none =>
    have hanchored := ha.begin.withMachine (s.machine.attempt s.program i).machine
    have hfollowed := follow_followed hanchored (unstarted_begin h.room.2)
    rw [step_of_success h hf]
    generalize (s.begin.session.withMachine (s.machine.attempt s.program i).machine).follow =
      reply at hfollowed
    cases hfollowed with
    | unrecorded hr => rfl
    | added r hr hfits => rfl
    | refused r snapshot hr hfits hp => rfl

/-- A read gives what the bytes at its beginning spell, whatever bytes there are, and takes just
these. Its value is pushed, or its fault is reported and nothing but the bytes is gone; after a value
the recording may have no room. -/
theorem read_decodes_input {p : Program} {limit : Option Nat} {s : Session} {i : Instruction}
    {bytes : List UInt8} (h : s.Reachable p limit) (hi : s.Fires i)
    (hr : i.operation.reads = true) (hb : s.machine.input = ⟨bytes, .ended⟩) :
    let read (r : Except Fault Value) (rest : List UInt8) :=
      s.machine.reading s.program r ⟨rest, .ended⟩
    (∃ r rest, i.Decodes bytes r rest) ∧
    ∀ r rest, (i.Decodes bytes r rest ↔ s.machine.attempt s.program i = read r rest) ∧
      (i.Decodes bytes r rest →
        s.step.session.machine.input = ⟨rest, .ended⟩ ∧
        match r with
        | .error f =>
          s.step.result = .error (.fault f (Session.siteOf s.state.pc i)) ∧
            s.step.session.machine = (read r rest).machine
        | .ok _ =>
          s.step.result = .ok (read r rest).machine.state.status ∧
              s.step.session.machine = (read r rest).machine ∨
            s.recording ≠ none ∧ ∃ e, s.step.result = .error e ∧ Session.Limits e) := by
  intro read
  have hanchored := h.charted.anchored
  refine ⟨Instruction.exists_decodes hr bytes, fun r rest => ?_⟩
  have hattempt := Machine.attempt_decodes (p := s.program) hr hb r rest
  refine ⟨hattempt, fun hdecodes => ?_⟩
  have ha := hattempt.mp hdecodes
  have hinput := Session.step_input hanchored hi
  rw [ha] at hinput
  cases r with
  | error f =>
    have hstep := Session.step_of_fault hi (f := f) (by rw [ha]; rfl)
    rw [ha] at hstep
    exact ⟨hinput, by rw [hstep], by rw [hstep]; rfl⟩
  | ok v =>
    refine ⟨hinput, ?_⟩
    rcases Session.step_outcome hanchored hi with ⟨f, hf, -⟩ | ⟨-, hok⟩
    · rw [ha] at hf
      cases hf
    · rw [ha] at hok
      exact hok

/-- The session is on a read of a character, with an accented letter and a digit on the input. -/
def beforeLetter : Session :=
  .fresh (.ofList [⟨.readChar, none, {}⟩]) none { bytes := [0xC3, 0xA9, 0x37] } {}

theorem read_decodes_input_letter :
    beforeLetter.Fires ⟨.readChar, none, {}⟩ ∧
      beforeLetter.machine.attempt beforeLetter.program ⟨.readChar, none, {}⟩ =
        beforeLetter.machine.reading beforeLetter.program (.ok 233) { bytes := [0x37] } := by
  have hfires : beforeLetter.Fires ⟨.readChar, none, {}⟩ := ⟨⟨rfl, rfl⟩, rfl, rfl⟩
  have hreachable : beforeLetter.Reachable beforeLetter.program none := .fresh _ _
  refine ⟨hfires, ?_⟩
  have hread := (read_decodes_input hreachable hfires rfl rfl).2 (.ok 233) [0x37]
  exact hread.1.mp (.char 'é' [0x37])

end Backstep
