import Backstep.Proofs.Effects
import Backstep.Proofs.FilledTable
import Backstep.Proofs.Reachable

/-! What a step leaves behind when its instruction fails. If the output did not
raise the fault, nothing is lost but the input that a read took. If it did, the
value to be printed is gone from the operand stack. -/
namespace Backstep
namespace Session

variable {p : Program} {limit : Option Nat} {s t : Session} {i : Instruction}

def withLabels (s : Session) (labels : LabelTable) : Session :=
  s.withMachine { s.machine with labels }

/-- The next instruction prints a text that the output does not take without a failure. -/
def OutputFails (s : Session) : Prop :=
  ∃ i text, s.program.get? s.state.pc = some i ∧ i.printed? s.state.stack = some text ∧
    (s.machine.output.write (Utf8.encode text)).1 ≠ none

/-- The recording is the same, or it has got its first snapshot. -/
def KeepsHistory (s t : Session) : Prop :=
  t.position = s.position ∧
    (t.snapshots = s.snapshots ∨
      s.recording ≠ none ∧ s.snapshots = [] ∧ t.snapshots = [s.machine.snapshot])

/-- Everything is the same but the input, the label table and perhaps a first snapshot. -/
structure Intact (s t : Session) : Prop where
  program : t.program = s.program
  state : t.state = s.state
  transcript : t.machine.transcript = s.machine.transcript
  output : t.machine.output = s.machine.output
  history : s.KeepsHistory t

theorem keepsHistory_begin (ho : s.Orderly) (h : s.program.get? s.state.pc = some i)
    (hb : s.begin.result = .ok ()) (m : Machine) :
    s.KeepsHistory (s.begin.session.withMachine m) := by
  rcases begin_of_present h hb with he | ⟨r, hr, hnil, he⟩
  · rw [he]
    exact ⟨rfl, Or.inl rfl⟩
  · have hlist := toList_add r s.machine.snapshot
    have hposition := position_add r s.machine.snapshot
    rw [hnil, List.take_nil] at hlist hposition
    rw [he]
    refine ⟨?_, Or.inr ⟨?_, ?_, hlist⟩⟩
    · rw [position_of_recording hr, (ho r hr).start hnil]
      exact hposition
    · rw [hr]
      exact Option.some_ne_none r
    · rw [snapshots_of_recording hr, hnil]

/-- A step that is on an instruction and does not attempt it meets the limit of the recording. -/
theorem step_of_not_fires (hs : s.state.status = .running)
    (hg : s.program.get? s.state.pc = some i) (h : ¬ s.Fires i) :
    (∃ e, s.step.result = .error e ∧ Limits e) ∧ s.step.session.machine = s.machine ∧
      s.KeepsHistory s.step.session := by
  have hstepped := s.step_stepped
  generalize s.step = reply at hstepped
  cases hstepped with
  | full e hf => exact ⟨⟨e, rfl, limits_fullError? hf⟩, rfl, rfl, Or.inl rfl⟩
  | refused e hf hb =>
    rw [(begin_refused hb).1, opened_of_present hg]
    exact ⟨⟨e, rfl, limits_begin hb⟩, rfl, rfl, Or.inl rfl⟩
  | advanced hf hb => exact absurd ⟨⟨hf, hb⟩, hs, hg⟩ h

/-- Sessions that differ in their tables only serve every list of requests alike. -/
theorem serveAll_congr_filled (hs : s.Charted p) (ht : t.Charted p) (h : s.filled = t.filled)
    (requests : List Request) :
    (s.serveAll requests).2 = (t.serveAll requests).2 ∧
      (s.serveAll requests).1.filled = (t.serveAll requests).1.filled := by
  have hfilled := serveAll_filled hs requests
  rw [h, serveAll_filled ht requests] at hfilled
  exact ⟨(congrArg Prod.snd hfilled).symm, (congrArg Prod.fst hfilled).symm⟩

theorem Charted.find_serveAll (h : s.Charted p) (requests : List Request) (l : Label) :
    ((s.serveAll requests).1.machine.labels.resolve p l).1 = p.firstDefinition? l := by
  have hs : (s.serveAll requests).1.Charted p :=
    serveAll_induction (fun _ h => h.step) (fun _ position h => h.restore position) requests h
  obtain ⟨k, hk, -⟩ := hs.known
  exact (hk.resolve l).1

/-- A fault may fill the table, but with the old table the session is still one that knows enough
of the program. -/
theorem Charted.withLabels_begin (h : s.Charted p) {m : Machine} (hm : m.state = s.state)
    (hi : s.program.get? s.state.pc = some i) :
    ((s.begin.session.withMachine m).withLabels s.machine.labels).Charted p := by
  have hb := h.begin
  obtain ⟨-, hmachine⟩ := machine_begin_of_present hi
  obtain ⟨k, hk, hw⟩ := hb.known
  rw [hmachine] at hk
  refine ⟨hb.program, hb.anchored, k, hk, ?_, hw.2⟩
  have hstate := hw.1
  rw [state, hmachine] at hstate
  change m.state.Within k
  rw [hm]
  exact hstate

end Session

/-- An instruction that fails is as if it had not been attempted, unless the output failed: only
what a read took from the input is gone, and the label table may know more labels. -/
theorem fault_leaves_intact {p : Program} {limit : Option Nat} {s : Session} {e : RunError}
    {site : Site} (h : s.Reachable p limit) (he : s.step.result = .error e)
    (hsite : e.site? = some site) (hw : ¬ s.OutputFails) :
    (∃ i, p.get? s.state.pc = some i ∧ site = ⟨s.state.pc, i.operation, i.location⟩ ∧
      (i.operation.reads = false → s.step.session.machine.input = s.machine.input)) ∧
    s.Intact s.step.session ∧
    ∀ requests,
      let later := s.step.session.serveAll requests
      let unfilled := (s.step.session.withLabels s.machine.labels).serveAll requests
      later.2 = unfilled.2 ∧ later.1.filled = unfilled.1.filled ∧
        ∀ l, (later.1.machine.labels.resolve p l).1 = (unfilled.1.machine.labels.resolve p l).1 := by
  have hcharted := h.charted
  obtain ⟨f, rfl⟩ : ∃ f, e = .fault f site := by
    cases e with
    | fault f site' =>
      cases hsite
      exact ⟨f, rfl⟩
    | logFull used limit => cases hsite
    | move cause => cases hsite
  obtain ⟨i, hi, hfault, rfl⟩ := (Session.step_fault_iff hcharted.anchored).mp he
  have hunmoved : s.machine.Unmoved (s.machine.attempt s.program i).machine := by
    rcases Machine.attempt_fault hfault with hm | ⟨text, next, failure, hprint, hwrite, -⟩
    · exact hm
    · refine absurd ⟨i, text, hi.present, Machine.printed?_of_intent hprint, ?_⟩ hw
      rw [hwrite]
      exact Option.some_ne_none failure
  have hafter : (s.step.session).Charted p := hcharted.step
  rw [Session.step_of_fault hi hfault] at hafter ⊢
  have hbefore := hcharted.withLabels_begin hunmoved.state hi.present
  refine ⟨⟨i, ?_, rfl, fun hr => Machine.attempt_input hr⟩, ?_, ?_⟩
  · rw [← hcharted.program]
    exact hi.present
  · exact ⟨(Session.machine_begin_of_present hi.present).1, hunmoved.state, hunmoved.transcript,
      hunmoved.output, Session.keepsHistory_begin h.orderly hi.present hi.room.2 _⟩
  · intro requests
    obtain ⟨hresponses, hsessions⟩ :=
      Session.serveAll_congr_filled hafter hbefore rfl requests
    refine ⟨hresponses, hsessions, fun l => ?_⟩
    rw [hafter.find_serveAll requests l, hbefore.find_serveAll requests l]

def strayJump : Instruction := ⟨.jumpZero, some (.label ⟨[.tab]⟩), {}⟩

/-- The session is on a jump that is taken, to a label that the program does not define. -/
def beforeStrayJump : Session :=
  let program := Program.ofList
    [⟨.push, some (.number 0), {}⟩, strayJump, ⟨.label, some (.label ⟨[.space]⟩), {}⟩]
  ((Session.fresh program (some 9999) {} {}).serveAll [.step]).1

theorem fault_leaves_intact_jump :
    beforeStrayJump.step.result =
        .error (.fault (.undefinedLabel ⟨[.tab]⟩) ⟨1, .jumpZero, {}⟩) ∧
      ¬ beforeStrayJump.OutputFails ∧ beforeStrayJump.Intact beforeStrayJump.step.session ∧
      beforeStrayJump.step.session.state.stack.values = [0] := by
  have hreachable : beforeStrayJump.Reachable beforeStrayJump.program (some 9999) :=
    (Session.Reachable.fresh {} {}).serveAll [.step]
  obtain ⟨k, hk, -⟩ := hreachable.charted.known
  have hstarted : beforeStrayJump.unstarted = false := by decide +kernel
  have hfires : beforeStrayJump.Fires strayJump :=
    ⟨⟨by decide +kernel, by rw [Session.begin_of_started hstarted]⟩, by decide +kernel,
      by decide +kernel⟩
  have hseeks : strayJump.Seeks beforeStrayJump.state.stack ⟨[.tab]⟩ :=
    ⟨rfl, 0, by decide +kernel, rfl⟩
  have hfault := (Machine.attempt_undefinedLabel_iff hk).mpr ⟨hseeks, by decide +kernel⟩
  have hresult := (Session.step_fault_iff hreachable.charted.anchored).mpr
    ⟨strayJump, hfires, hfault, rfl⟩
  have houtput : ¬ beforeStrayJump.OutputFails := by
    rintro ⟨i, text, hi, htext, hw⟩
    exact hw (Output.reliable_iff.mpr ⟨rfl, rfl⟩ _)
  have hintact := (fault_leaves_intact hreachable hresult rfl houtput).2.1
  refine ⟨hresult, houtput, hintact, ?_⟩
  rw [hintact.state]
  decide +kernel

/-- When the output fails a print, the step fails, but the value that was to be printed is gone.
Nothing else is: the state is as before just if the recording had no room and the print was not
attempted at all. -/
theorem output_failure_drops_top {p : Program} {limit : Option Nat} {s : Session}
    {i : Instruction} {text : String} {failure : StreamFailure} (h : s.Reachable p limit)
    (hs : s.state.status = .running) (hi : p.get? s.state.pc = some i)
    (hprint : i.printed? s.state.stack = some text)
    (hfail : (s.machine.output.write (Utf8.encode text)).1 = some failure) :
    let t := s.step.session
    (∃ e, s.step.result = .error e) ∧
    t.machine.transcript = s.machine.transcript ∧ s.KeepsHistory t ∧
    (t.state = s.state ↔ ¬ s.Fires i) ∧
    (s.Fires i → s.step.result = .error (.fault failure.fault (Session.siteOf s.state.pc i)) ∧
      t.state = { s.state with stack := s.state.stack.drop 1 }) := by
  intro t
  rw [← h.charted.program] at hi
  by_cases hf : s.Fires i
  · have hattempt := Machine.attempt_of_write_fails (p := s.program) hprint hfail
    have hstep := Session.step_of_fault hf (congrArg Attempt.fault hattempt)
    have hstate : t.state = { s.state with stack := s.state.stack.drop 1 } := by
      change s.step.session.machine.state = _
      rw [hstep, hattempt]
      rfl
    have hhead : ∃ v, s.state.stack.values.head? = some v := Instruction.head?_of_printed? hprint
    obtain ⟨v, hv⟩ := hhead
    refine ⟨⟨_, by rw [hstep]⟩, ?_, ?_, ?_, fun _ => ⟨by rw [hstep], hstate⟩⟩
    · change s.step.session.machine.transcript = _
      rw [hstep, hattempt]
      rfl
    · change s.KeepsHistory s.step.session
      rw [hstep]
      exact Session.keepsHistory_begin h.orderly hi hf.room.2 _
    · refine ⟨fun he => ?_, fun hn => absurd hf hn⟩
      rw [hstate] at he
      exact absurd (congrArg State.stack he) (OperandStack.drop_ne hv)
  · obtain ⟨⟨e, he, -⟩, hm, hk⟩ := Session.step_of_not_fires hs hi hf
    refine ⟨⟨e, he⟩, congrArg Machine.transcript hm, hk, ?_, fun hn => absurd hn hf⟩
    exact iff_of_true (congrArg Machine.state hm) hf

/-- The session is on a print of a letter of two bytes, and the output takes one. -/
def beforeCutLetter : Session :=
  let program := Program.ofList [⟨.push, some (.number 233), {}⟩, ⟨.printChar, none, {}⟩]
  let output : Output := { limit := some (1, .broken "output failed") }
  ((Session.fresh program (some 9999) {} output).serveAll [.step]).1

theorem output_failure_drops_top_letter :
    (Instruction.printed? ⟨.printChar, none, {}⟩ beforeCutLetter.state.stack) = some "é" ∧
      (beforeCutLetter.machine.output.write (Utf8.encode "é")).1 =
        some (.broken "output failed") ∧
      (∃ e, beforeCutLetter.step.result = .error e) ∧
      beforeCutLetter.step.session.machine.transcript = beforeCutLetter.machine.transcript := by
  have hreachable : beforeCutLetter.Reachable beforeCutLetter.program (some 9999) :=
    (Session.Reachable.fresh {} _).serveAll [.step]
  have hprint : Instruction.printed? ⟨.printChar, none, {}⟩ beforeCutLetter.state.stack =
      some "é" := by decide +kernel
  have hfail : (beforeCutLetter.machine.output.write (Utf8.encode "é")).1 =
      some (.broken "output failed") := by decide +kernel
  obtain ⟨herror, htranscript, -⟩ := output_failure_drops_top hreachable (by decide +kernel)
    (by decide +kernel) hprint hfail
  exact ⟨hprint, hfail, herror, htranscript⟩

/-- The letter is lost, and the recording still has it at the present position. -/
theorem cut_letter_lost :
    beforeCutLetter.state.stack.values = [233] ∧
      beforeCutLetter.step.result.isOk = false ∧
      beforeCutLetter.step.session.state.stack.values = [] ∧
      (beforeCutLetter.step.session.snapshots[beforeCutLetter.step.session.position]?).map
        (fun snapshot => snapshot.state.stack.values) = some [233] := by
  decide +kernel

end Backstep
