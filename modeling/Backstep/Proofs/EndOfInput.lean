import Backstep.Proofs.Decoding
import Backstep.Proofs.Supplied

/-! Where the end of the input is reported. A read reports it when the bytes end
before its value does. The streams share one fault for their end, so that a print
on an output that has come to an end reports it as well. -/
namespace Backstep

theorem StreamFailure.fault_eq_endOfInput {failure : StreamFailure} :
    failure.fault = .endOfInput ↔ failure = .ended := by
  cases failure <;> simp [fault]

namespace Input

theorem Ending.fault_eq_endOfInput {ending : Ending} :
    ending.fault = .endOfInput ↔ ending = .ended ∨ ending = .cut := by
  cases ending <;> simp [fault]

/-- The input ends before a character does. -/
theorem readChar_endOfInput {input : Input} :
    input.readChar.1 = .error .endOfInput ↔
      (input.ending = .ended ∨ input.ending = .cut) ∧ Utf8.Cut input.bytes := by
  obtain ⟨bytes, ending⟩ := input
  by_cases hcut : Utf8.Cut bytes
  · rw [readChar_of_cut hcut, Except.error.injEq, Ending.fault_eq_endOfInput]
    exact (and_iff_left hcut).symm
  · refine iff_of_false (fun h => ?_) fun h => hcut h.2
    obtain ⟨r, rest, hread⟩ := exists_charRead bytes
    cases hread with
    | char c rest =>
      rw [readChar_of_char] at h
      cases h
    | cut hc => exact hcut hc
    | invalid hn hc =>
      rw [readChar_of_invalid hn hc] at h
      cases h

theorem numberOfLine_ne_endOfInput (line : List UInt8) :
    numberOfLine line ≠ .error .endOfInput := by
  intro h
  rcases numberOfLine_fault h with ⟨message, hf⟩ | ⟨text, hf⟩ <;> cases hf

/-- Bytes without a line feed are a line if the input ends after them, and there are any. -/
theorem readNumber_of_unfinished {bytes : List UInt8} (h : 10 ∉ bytes) (ending : Ending) :
    readNumber ⟨bytes, ending⟩ =
      (if bytes ≠ [] ∧ ending = .ended then numberOfLine bytes else .error ending.fault,
        ⟨[], ending⟩) := by
  simp only [readNumber, splitLine?_eq_none h]
  by_cases hline : bytes ≠ [] ∧ ending = .ended
  · have hwhole : ¬ (bytes = [] ∨ ending ≠ .ended) := by
      rintro (hnil | hne)
      · exact hline.1 hnil
      · exact hne hline.2
    rw [if_pos hline, if_neg hwhole]
  · have hlost : bytes = [] ∨ ending ≠ .ended := by
      by_cases hnil : bytes = []
      · exact Or.inl hnil
      · exact Or.inr fun hending => hline ⟨hnil, hending⟩
    rw [if_neg hline, if_pos hlost]

/-- The input ends before a line begins, or reading it fails before a line is over. -/
theorem readNumber_endOfInput {input : Input} :
    input.readNumber.1 = .error .endOfInput ↔
      input.ending = .ended ∧ input.bytes = [] ∨ input.ending = .cut ∧ 10 ∉ input.bytes := by
  obtain ⟨bytes, ending⟩ := input
  by_cases hfeed : 10 ∈ bytes
  · obtain ⟨line, rest, rfl, hline⟩ := List.eq_append_cons_of_mem hfeed
    rw [readNumber, splitLine?_of_not_mem hline]
    refine iff_of_false (numberOfLine_ne_endOfInput line) ?_
    rintro (⟨-, hnil⟩ | ⟨-, hfree⟩)
    · exact List.append_ne_nil_of_right_ne_nil _ (List.cons_ne_nil _ _) hnil
    · exact hfree hfeed
  · rw [readNumber_of_unfinished hfeed]
    cases ending with
    | ended =>
      by_cases hnil : bytes = []
      · simp [hnil, Ending.fault]
      · simp [hnil, numberOfLine_ne_endOfInput]
    | cut => simp [hfeed, Ending.fault]
    | broken message => simp [Ending.fault]

end Input

namespace Instruction

/-- The input ends before the value that the instruction is to read from it. Without a line feed the
last bytes are a line if there is nothing after them, but not if reading on fails. -/
def RunsOut (i : Instruction) (input : Input) : Prop :=
  match i.operation with
  | .readChar => (input.ending = .ended ∨ input.ending = .cut) ∧ Utf8.Cut input.bytes
  | .readNum => input.ending = .ended ∧ input.bytes = [] ∨ input.ending = .cut ∧ 10 ∉ input.bytes
  | _ => False

theorem RunsOut.reads {i : Instruction} {input : Input} (h : i.RunsOut input) :
    i.operation.reads = true := by
  rw [RunsOut] at h
  cases ho : i.operation with
  | readChar => rfl
  | readNum => rfl
  | _ =>
    rw [ho] at h
    exact h.elim

end Instruction

namespace Machine

variable {p : Program} {i : Instruction} {m : Machine}

theorem attempt_of_runsOut (h : i.RunsOut m.input) :
    m.attempt p i = m.reading p (.error .endOfInput) ⟨[], m.input.ending⟩ := by
  rcases hinput : m.input with ⟨bytes, ending⟩
  rw [hinput, Instruction.RunsOut] at h
  cases ho : i.operation with
  | readChar =>
    rw [ho] at h
    obtain ⟨hending, hcut⟩ := h
    rw [attempt_readChar ho, hinput, Input.readCharValue, Input.readChar_of_cut hcut,
      Input.Ending.fault_eq_endOfInput.mpr hending]
    rfl
  | readNum =>
    rw [ho] at h
    have hfree : 10 ∉ bytes := by
      rcases h with ⟨-, rfl⟩ | ⟨-, hfree⟩
      · exact List.not_mem_nil
      · exact hfree
    have hfault : (Input.readNumber ⟨bytes, ending⟩).1 = .error .endOfInput :=
      Input.readNumber_endOfInput.mpr h
    have hrest : (Input.readNumber ⟨bytes, ending⟩).2 = ⟨[], ending⟩ := by
      rw [Input.readNumber_of_unfinished hfree]
    rw [attempt_readNum ho, hinput, hfault, hrest]
  | _ =>
    rw [ho] at h
    exact h.elim

theorem attempt_endOfInput :
    (m.attempt p i).fault = some .endOfInput ↔
      i.RunsOut m.input ∨ ∃ text, i.printed? m.state.stack = some text ∧
        (m.output.write (Utf8.encode text)).1 = some .ended := by
  constructor
  · intro h
    have hf := m.passed.fulfil_fulfilled p m.state.pc (m.intent i)
    have hcaused : (m.intent i).Caused i := m.passed.state.caused_intent m.state.pc i m.input
    have hprinted := @printed?_of_intent i m
    have htake : ∀ f rest, m.intent i = .take (.error f, rest) → _ :=
      fun f rest => State.intent_take_fault
    rw [attempt_eq, fault_finish] at h
    generalize m.passed.fulfil p m.state.pc (m.intent i) = a at hf h
    generalize m.intent i = intent at hf hcaused hprinted htake
    cases hf with
    | failed f =>
      cases h
      rcases hcaused with hstate | ⟨hmissing, -⟩
      · cases hstate
      · cases hmissing
    | lost l land hl => cases h
    | @unprinted output failure text next hw =>
      have hfailure := StreamFailure.fault_eq_endOfInput.mp (Option.some.inj h)
      rw [hfailure] at hw
      exact Or.inr ⟨text, hprinted rfl, congrArg Prod.fst hw⟩
    | missed f rest =>
      cases h
      rw [Instruction.RunsOut]
      rcases htake _ _ rfl with ⟨ho, hread⟩ | ⟨ho, hread⟩
      · rw [ho]
        exact Or.inl (Input.readChar_endOfInput.mp (congrArg Prod.fst hread))
      · rw [ho]
        exact Or.inl (Input.readNumber_endOfInput.mp (congrArg Prod.fst hread))
    | _ => cases h
  · rintro (hout | ⟨text, hprint, hw⟩)
    · rw [attempt_of_runsOut hout]
      rfl
    · rw [attempt_of_write_fails hprint hw]
      rfl

end Machine

/-- The end of the input is reported by a read for which the input has come to its end, which takes
the bytes that are left, and by a print whose output has come to its end. Any other failure of the
output is reported as one of a stream. -/
theorem endOfInput_reported {p : Program} {limit : Option Nat} {s : Session}
    (h : s.Reachable p limit) :
    (∀ site, s.step.result = .error (.fault .endOfInput site) ↔
      ∃ i, s.Fires i ∧ site = Session.siteOf s.state.pc i ∧
        (i.operation.reads = true ∧ i.RunsOut s.machine.input ∨
          ∃ text, i.printed? s.state.stack = some text ∧
            (s.machine.output.write (Utf8.encode text)).1 = some .ended)) ∧
    ∀ i, s.Fires i →
      (i.RunsOut s.machine.input →
        s.step.session.machine =
          { s.machine with input := ⟨[], s.machine.input.ending⟩ }) ∧
      ∀ text message, i.printed? s.state.stack = some text →
        (s.machine.output.write (Utf8.encode text)).1 = some (.broken message) →
        s.step.result = .error (.fault (.stream message) (Session.siteOf s.state.pc i)) := by
  constructor
  · intro site
    rw [Session.step_fault_iff h.charted.anchored]
    refine exists_congr fun i => and_congr_right fun hi => ?_
    rw [Machine.attempt_endOfInput, and_comm (a := site = _)]
    refine and_congr_left fun _ => or_congr_left ?_
    exact (and_iff_right_of_imp Instruction.RunsOut.reads).symm
  · intro i hi
    constructor
    · intro hout
      have hattempt := Machine.attempt_of_runsOut (p := s.program) hout
      rw [Session.step_of_fault hi (congrArg Attempt.fault hattempt), hattempt]
      rfl
    · intro text message hprint hw
      have hattempt := Machine.attempt_of_write_fails (p := s.program) hprint hw
      rw [Session.step_of_fault hi (congrArg Attempt.fault hattempt)]
      rfl

/-- The session is on a print, with input that is not read yet and an output that has come to its
end. -/
def beforeClosedOutput : Session :=
  let program := Program.ofList [⟨.push, some (.number 65), {}⟩, ⟨.printChar, none, {}⟩]
  let session := Session.fresh program (some 9999) { bytes := [0x37] } { limit := some (0, .ended) }
  (session.serveAll [.step]).1

/-- The session is on a read of a number, and reading fails inside its line. -/
def beforeCutLine : Session :=
  .fresh (.ofList [⟨.readNum, none, {}⟩]) none { bytes := [0x37], ending := .cut } {}

theorem endOfInput_reported_print_and_line :
    (beforeClosedOutput.Fires ⟨.printChar, none, {}⟩ ∧
      beforeClosedOutput.step.result = .error (.fault .endOfInput ⟨1, .printChar, {}⟩)) ∧
    beforeCutLine.Fires ⟨.readNum, none, {}⟩ ∧
      beforeCutLine.step.result = .error (.fault .endOfInput ⟨0, .readNum, {}⟩) := by
  constructor
  · have hreachable : beforeClosedOutput.Reachable beforeClosedOutput.program (some 9999) :=
      (Session.Reachable.fresh _ _).serveAll [.step]
    have hstarted : beforeClosedOutput.unstarted = false := by decide +kernel
    have hfires : beforeClosedOutput.Fires ⟨.printChar, none, {}⟩ :=
      ⟨⟨by decide +kernel, by rw [Session.begin_of_started hstarted]⟩, by decide +kernel,
        by decide +kernel⟩
    refine ⟨hfires, ((endOfInput_reported hreachable).1 _).mpr ⟨_, hfires, ?_, Or.inr ⟨"A", ?_⟩⟩⟩
    · decide +kernel
    · decide +kernel
  · have hfires : beforeCutLine.Fires ⟨.readNum, none, {}⟩ := ⟨⟨rfl, rfl⟩, rfl, rfl⟩
    have hreachable : beforeCutLine.Reachable beforeCutLine.program none := .fresh _ _
    have hline : (10 : UInt8) ∉ beforeCutLine.machine.input.bytes := by decide
    exact ⟨hfires, ((endOfInput_reported hreachable).1 _).mpr
      ⟨_, hfires, rfl, Or.inl ⟨rfl, Or.inr ⟨rfl, hline⟩⟩⟩⟩

/-- The input is reported to have come to its end by an instruction that does not read, with a byte
still on the input. -/
theorem closed_output_reported_as_input :
    beforeClosedOutput.step.result = .error (.fault .endOfInput ⟨1, .printChar, {}⟩) ∧
      Operation.reads .printChar = false ∧
      beforeClosedOutput.machine.input.bytes = [0x37] ∧
      beforeClosedOutput.step.session.machine.input.bytes = [0x37] := by
  decide +kernel

end Backstep
