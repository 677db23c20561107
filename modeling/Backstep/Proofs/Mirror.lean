import Backstep.Proofs.Atomicity
import Backstep.Proofs.Encoding
import Backstep.Proofs.Lockstep

/-! The transcript and the output of a run that only goes forward. Both get the
same texts in the same order, one for each print that succeeds. The output may
be ahead when a write fails: then it has a beginning of one more text. -/
namespace Backstep

/-- Of the bytes written a beginning is received, and all of them if the write does not fail. -/
theorem Output.received_write (o : Output) (bytes : List UInt8) :
    ∃ taken, taken <+: bytes ∧ (o.write bytes).2.received = o.received ++ taken ∧
      ((o.write bytes).1 = none → taken = bytes) := by
  simp only [write]
  split
  · exact ⟨bytes, List.prefix_refl bytes, rfl, fun _ => rfl⟩
  · next limit failure _ =>
    split
    · exact ⟨bytes, List.prefix_refl bytes, rfl, fun _ => rfl⟩
    · exact ⟨_, List.take_prefix _ bytes, rfl, fun h => by cases h⟩

namespace Machine

variable {p : Program} {i : Instruction} {m : Machine} {text : String}

theorem transcript_finish (p : Program) (index : Nat) (a : Attempt) :
    (finish p index a).machine.transcript = a.machine.transcript := by
  rw [finish]
  split <;> rfl

theorem transcript_of_silent (h : i.printed? m.state.stack = none) :
    (m.attempt p i).machine.transcript = m.transcript := by
  have hne : ∀ text next, m.intent i ≠ .print text next := by
    intro text next hi
    rw [printed?_of_intent hi] at h
    cases h
  have hf := m.passed.fulfil_fulfilled p m.state.pc (m.intent i)
  rw [attempt_eq, transcript_finish]
  generalize m.intent i = intent at hf hne
  generalize m.passed.fulfil p m.state.pc intent = a at hf
  cases hf with
  | printed text next ho => exact absurd rfl (hne text next)
  | _ => rfl

theorem transcript_of_written (h : i.printed? m.state.stack = some text)
    (hw : (m.output.write (Utf8.encode text)).1 = none) :
    (m.attempt p i).machine.transcript = m.transcript.print text := by
  have hf := m.passed.fulfil_fulfilled p m.state.pc (m.intent i)
  rw [attempt_eq, transcript_finish]
  rw [intent_of_printed? h] at hf ⊢
  generalize m.passed.fulfil p m.state.pc _ = a at hf
  cases hf with
  | printed _ _ ho => rfl
  | unprinted _ _ ho =>
    change m.output.write (Utf8.encode text) = _ at ho
    rw [ho] at hw
    cases hw

/-- The transcript and the output, `texts` later. -/
structure Mirrors (m n : Machine) (texts : List String) : Prop where
  shown : n.transcript.shown = m.transcript.shown ++ String.join texts
  received : n.output.received.toList = m.output.received.toList ++ Utf8.encode (String.join texts)

theorem Mirrors.of_eq {n : Machine} (ht : n.transcript = m.transcript) (ho : n.output = m.output) :
    m.Mirrors n [] := by
  refine ⟨?_, ?_⟩
  · rw [ht]
    exact String.append_empty.symm
  · rw [ho]
    exact (List.append_nil _).symm

theorem attempt_mirrors
    (hw : ∀ text, i.printed? m.state.stack = some text →
      (m.output.write (Utf8.encode text)).1 = none) :
    m.Mirrors (m.attempt p i).machine (i.printed? m.state.stack).toList := by
  cases h : i.printed? m.state.stack with
  | none => exact .of_eq (transcript_of_silent h) (output_of_silent h)
  | some text =>
    have hjoin : String.join [text] = text := String.empty_append
    refine ⟨?_, ?_⟩
    · rw [transcript_of_written h (hw text h), Option.toList_some, hjoin]
      rfl
    · obtain ⟨taken, -, hreceived, hall⟩ := m.output.received_write (Utf8.encode text)
      rw [output_of_printed? h, hreceived, hall (hw text h), Option.toList_some, hjoin,
        Array.toList_appendList]

end Machine

namespace Session

variable {p : Program} {limit : Option Nat} {s : Session} {i : Instruction} {text : String}

/-- The text that the next step is to print. -/
def utterance? (s : Session) : Option String :=
  s.current?.bind fun i => i.printed? s.state.stack

/-- The next step prints, and its write or the flush after it fails. -/
def WriteFails (s : Session) : Prop :=
  ∃ text, s.utterance? = some text ∧ (s.machine.output.write (Utf8.encode text)).1 ≠ none

theorem utterance?_of_current (h : s.current? = some i) :
    s.utterance? = i.printed? s.state.stack := by
  rw [utterance?, h]
  rfl

theorem current_of_utterance? (h : s.utterance? = some text) :
    ∃ i, s.current? = some i ∧ i.printed? s.state.stack = some text :=
  Option.bind_eq_some_iff.mp h

theorem not_writeFails_iff : ¬ s.WriteFails ↔ ∀ text, s.utterance? = some text →
    (s.machine.output.write (Utf8.encode text)).1 = none := by
  simp [WriteFails]

theorem fires_of_current (h : s.current? = some i) (hl : ¬ s.Limited) : s.Fires i := by
  obtain ⟨hs, hg⟩ := current?_eq_some.mp h
  by_cases hi : s.Fires i
  · exact hi
  · exact absurd (step_of_not_fires hs hg hi).1 hl

theorem not_limited (hr : s.recording = none) : ¬ s.Limited := by
  rintro ⟨e, he, used, limit, rfl⟩
  have ha := s.advance_advanced
  rw [step_of_unrecorded hr] at he
  generalize s.advance = reply at ha he
  cases ha with
  | halted reason hs => cases he
  | ended hs hg => cases he
  | faulted i f hs hg hf => cases he
  | followed i hs hg hf =>
    obtain ⟨program, machine, recording⟩ := s
    cases hr
    cases he

/-- Without an instruction to attempt, a step can only set the status. -/
theorem machine_step_of_idle (h : s.current? = none) :
    ∃ status, s.step.session.machine = (s.setStatus status).machine := by
  have hnone : ∀ i, ¬ s.Fires i := by
    intro i hi
    rw [current?_eq_some.mpr ⟨hi.running, hi.present⟩] at h
    cases h
  obtain ⟨-, status, hm⟩ := s.machine_begin
  have hs := s.step_stepped
  generalize s.step = reply at hs
  cases hs with
  | full e hf => exact ⟨s.state.status, rfl⟩
  | refused e hf hb => exact ⟨status, hm⟩
  | advanced hf hb =>
    have ha := s.begin.session.advance_advanced
    generalize s.begin.session.advance = reply at ha
    cases ha with
    | halted reason hs => exact ⟨status, hm⟩
    | ended hs hg =>
      refine ⟨.halted .endOfProgram, ?_⟩
      change (s.begin.session.setStatus _).machine = _
      rw [setStatus, hm]
      rfl
    | faulted i f hs hg hfault => exact absurd (fires_of_begin hf hb hs hg).1 (hnone i)
    | followed i hs hg hfault => exact absurd (fires_of_begin hf hb hs hg).1 (hnone i)

theorem machine_step_of_current (ha : s.Anchored) (h : s.current? = some i)
    (hl : ¬ s.Limited) : s.step.session.machine = (s.machine.attempt s.program i).machine := by
  have hi := fires_of_current h hl
  rcases step_outcome ha hi with ⟨f, hf, -⟩ | ⟨-, ⟨-, hm⟩ | ⟨-, e, he, hlimits⟩⟩
  · rw [step_of_fault hi hf]
    rfl
  · exact hm
  · exact absurd ⟨e, he, hlimits⟩ hl

theorem step_mirrors (ha : s.Anchored) (hl : ¬ s.Limited) (hw : ¬ s.WriteFails) :
    s.machine.Mirrors s.step.session.machine s.utterance?.toList := by
  cases hc : s.current? with
  | none =>
    obtain ⟨status, hm⟩ := machine_step_of_idle hc
    rw [utterance?, hc, hm]
    exact .of_eq rfl rfl
  | some i =>
    rw [machine_step_of_current ha hc hl, utterance?_of_current hc]
    exact Machine.attempt_mirrors fun text htext =>
      not_writeFails_iff.mp hw text ((utterance?_of_current hc).trans htext)

/-- A step whose write fails, though the snapshots before it had room. -/
theorem step_of_write_fails {failure : StreamFailure} (ha : s.Anchored) (hl : ¬ s.Limited)
    (h : s.utterance? = some text)
    (hw : (s.machine.output.write (Utf8.encode text)).1 = some failure) :
    (∃ site, s.step.result = .error (.fault failure.fault site)) ∧
      s.step.session.machine.transcript = s.machine.transcript ∧
      s.step.session.machine.output = (s.machine.output.write (Utf8.encode text)).2 := by
  obtain ⟨i, hc, hprint⟩ := current_of_utterance? h
  have hattempt := Machine.attempt_of_write_fails (p := s.program) hprint hw
  have hstep := step_of_fault (fires_of_current hc hl) (congrArg Attempt.fault hattempt)
  rw [machine_step_of_current ha hc hl, hattempt]
  exact ⟨⟨_, by rw [hstep]⟩, rfl, rfl⟩

/-- The session has come from a fresh one by steps that met no limit and whose writes succeeded,
and `texts` are what the print instructions among them had to print. Between two steps the streams
may come to behave otherwise, but what was received stays. -/
inductive Told (p : Program) (limit : Option Nat) : Session → List String → Prop
  | fresh (input : Input) (output : Output) : output.received = #[] →
      Told p limit (fresh p limit input output) []
  | step {s : Session} {texts : List String} : Told p limit s texts → ¬ s.Limited →
      ¬ s.WriteFails → Told p limit s.step.session (texts ++ s.utterance?.toList)
  | streams {s : Session} {texts : List String} (input : Input) (output : Output) :
      Told p limit s texts → output.received = s.machine.output.received →
      Told p limit (s.withStreams input output) texts

theorem machine_fresh (p : Program) (limit : Option Nat) (input : Input) (output : Output) :
    (Session.fresh p limit input output).machine = { input, output } := by
  cases limit <;> rfl

theorem Told.reachable {texts : List String} (h : Told p limit s texts) : s.Reachable p limit := by
  induction h with
  | fresh input output _ => exact .fresh input output
  | step _ _ _ ih => exact ih.step
  | streams input output _ _ ih => exact ih.streams input output

theorem Told.mirrors {texts : List String} (h : Told p limit s texts) :
    s.machine.transcript.shown = String.join texts ∧
      s.machine.output.received.toList = Utf8.encode (String.join texts) := by
  induction h with
  | fresh input output hnone =>
    rw [machine_fresh]
    exact ⟨rfl, congrArg Array.toList hnone⟩
  | @step s texts hs hl hw ih =>
    have hm := step_mirrors hs.reachable.charted.anchored hl hw
    obtain ⟨hshown, hreceived⟩ := ih
    rw [String.join_append, Utf8.encode_append, ← hreceived, ← hshown]
    exact ⟨hm.shown, hm.received⟩
  | streams input output _ hsame ih => exact ⟨ih.1, (congrArg Array.toList hsame).trans ih.2⟩

end Session

/-- While no write fails, the output has received just the text that is shown, and this is what the
prints had to print, in their order. A write that fails ends its step in an error: the text shown
stays, and of the text to be printed the output has received a beginning. -/
theorem transcript_mirrors_output {p : Program} {limit : Option Nat} {s : Session}
    {texts : List String} (h : s.Told p limit texts) :
    s.machine.transcript.shown = String.join texts ∧
    s.machine.output.received.toList = Utf8.encode s.machine.transcript.shown ∧
    ∀ text failure, ¬ s.Limited → s.utterance? = some text →
      (s.machine.output.write (Utf8.encode text)).1 = some failure →
      let t := s.step.session
      (∃ site, s.step.result = .error (.fault failure.fault site)) ∧
      t.machine.transcript.shown = String.join texts ∧
      ∃ taken, taken <+: Utf8.encode text ∧
        t.machine.output.received.toList = Utf8.encode t.machine.transcript.shown ++ taken := by
  obtain ⟨hshown, hreceived⟩ := h.mirrors
  rw [← hshown] at hreceived ⊢
  refine ⟨rfl, hreceived, fun text failure hl htext hfail => ?_⟩
  obtain ⟨herror, htranscript, houtput⟩ :=
    Session.step_of_write_fails h.reachable.charted.anchored hl htext hfail
  obtain ⟨taken, hprefix, hwritten, -⟩ := s.machine.output.received_write (Utf8.encode text)
  refine ⟨herror, ?_, taken, hprefix, ?_⟩
  · rw [htranscript]
  · rw [houtput, hwritten, htranscript, Array.toList_appendList, hreceived]

def twoLettersAndNumber : Program :=
  Program.ofList [⟨.push, some (.number 104), {}⟩, ⟨.printChar, none, {}⟩,
    ⟨.push, some (.number (-12)), {}⟩, ⟨.printNum, none, {}⟩,
    ⟨.push, some (.number 233), {}⟩, ⟨.printChar, none, {}⟩]

/-- The output takes the first letter, the number and half of the second letter, which has two
bytes. -/
def beforeHalfLetter : Session :=
  (Session.plain twoLettersAndNumber {} { limit := some (5, .broken "output failed") }).after 5

theorem transcript_mirrors_output_half :
    beforeHalfLetter.Told twoLettersAndNumber none ["h", "-12"] ∧ ¬ beforeHalfLetter.Limited ∧
      beforeHalfLetter.utterance? = some "é" ∧
      beforeHalfLetter.step.session.machine.transcript.shown = "h-12" ∧
      (∃ taken, taken <+: Utf8.encode "é" ∧
        beforeHalfLetter.step.session.machine.output.received.toList =
          Utf8.encode "h-12" ++ taken) ∧
      beforeHalfLetter.step.session.machine.output.received =
        #[0x68, 0x2D, 0x31, 0x32, 0xC3] := by
  let start := Session.plain twoLettersAndNumber {} { limit := some (5, .broken "output failed") }
  have hunlimited : ∀ n, ¬ (start.after n).Limited := fun n =>
    Session.not_limited (start.recording_after rfl n)
  have htold : beforeHalfLetter.Told twoLettersAndNumber none ["h", "-12"] := by
    have h0 : start.Told twoLettersAndNumber none [] := .fresh _ _ rfl
    have h1 := h0.step (hunlimited 0) (Session.not_writeFails_iff.mpr (by decide +kernel))
    have h2 := h1.step (hunlimited 1) (Session.not_writeFails_iff.mpr (by decide +kernel))
    have h3 := h2.step (hunlimited 2) (Session.not_writeFails_iff.mpr (by decide +kernel))
    have h4 := h3.step (hunlimited 3) (Session.not_writeFails_iff.mpr (by decide +kernel))
    exact h4.step (hunlimited 4) (Session.not_writeFails_iff.mpr (by decide +kernel))
  have htext : beforeHalfLetter.utterance? = some "é" := by decide +kernel
  have hfail : (beforeHalfLetter.machine.output.write (Utf8.encode "é")).1 =
      some (.broken "output failed") := by decide +kernel
  obtain ⟨-, -, hbroken⟩ := transcript_mirrors_output htold
  obtain ⟨-, hshown, hreceived⟩ := hbroken "é" _ (hunlimited 5) htext hfail
  refine ⟨htold, hunlimited 5, htext, hshown, ?_, by decide +kernel⟩
  rw [hshown] at hreceived
  exact hreceived

end Backstep
