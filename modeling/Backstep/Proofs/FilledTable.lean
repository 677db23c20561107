import Backstep.Proofs.Recast

/-! A session whose label table is filled from the whole program before the
first instruction cannot be told apart from one that fills its table as it goes:
each part of a step does the same to both. -/
namespace Backstep

namespace LabelTable

theorem resolve_ofProgram (p : Program) (l : Label) :
    (ofProgram p).resolve p l = (p.firstDefinition? l, ofProgram p) := by
  rw [resolve, find?_ofProgram]
  cases p.firstDefinition? l <;> rfl

theorem resolve_empty (p : Program) (l : Label) :
    ({} : LabelTable).resolve p l = (p.firstDefinition? l, ofProgram p) := by
  rw [resolve, find?_empty, ← find?_ofProgram]
  rfl

end LabelTable

namespace Machine

variable {p : Program} {m : Machine} {k : Nat}

/-- The machine with its table filled from the whole program. -/
def filled (p : Program) (m : Machine) : Machine :=
  { m with labels := .ofProgram p }

def Attempt.filled (p : Program) (a : Attempt) : Attempt :=
  { a with machine := a.machine.filled p }

theorem fulfil_filled (ht : m.labels.Knows p k) (index : Nat) (intent : Intent) :
    (m.filled p).fulfil p index intent = Attempt.filled p (m.fulfil p index intent) := by
  cases intent with
  | fail f => rfl
  | change next => rfl
  | note l => rfl
  | go l land =>
    have hresolve := (ht.resolve l).1
    have hlabels : (m.filled p).labels = LabelTable.ofProgram p := rfl
    simp only [fulfil, goto]
    rw [hlabels, LabelTable.resolve_ofProgram, ← hresolve]
    generalize m.labels.resolve p l = found
    obtain ⟨target, labels⟩ := found
    cases target <;> rfl
  | print text next =>
    have houtput : (m.filled p).output = m.output := rfl
    simp only [fulfil, emit]
    rw [houtput]
    generalize m.output.write (Utf8.encode text) = written
    obtain ⟨failure, output⟩ := written
    cases failure <;> rfl
  | take reading =>
    obtain ⟨r, input⟩ := reading
    cases r <;> rfl

theorem attempt_filled (ht : m.labels.Knows p k) (i : Instruction) :
    (m.filled p).attempt p i = Attempt.filled p (m.attempt p i) := by
  have hpassed : m.passed.labels.Knows p k := ht
  have hf := fulfil_filled hpassed m.state.pc (m.intent i)
  rw [attempt_eq, attempt_eq]
  change finish p m.state.pc ((m.passed.filled p).fulfil p m.state.pc (m.intent i)) = _
  rw [hf]
  generalize m.passed.fulfil p m.state.pc (m.intent i) = a
  obtain ⟨n, fault⟩ := a
  cases fault <;> rfl

end Machine

namespace Session

def filled (s : Session) : Session :=
  s.withMachine (s.machine.filled s.program)

end Session

/-- The cast with a table that is filled from the whole program. -/
def Recast.filled : Recast where
  program := id
  labels p _ := .ofProgram p
  error := id
  size _ := rfl
  logFull _ _ := rfl
  move _ := rfl

namespace Recast

theorem filled_faithful (p : Program) : Recast.filled.Faithful (Session.Charted p) where
  begin _ hs := hs.begin
  step _ hs := hs.step
  restore _ position hs := hs.restore position
  attempt s hs i hi := by
    obtain ⟨k, ht, -⟩ := hs.known
    rw [← hs.program] at ht
    exact ⟨i, hi, Machine.attempt_filled ht i, fun _ => rfl⟩

theorem response_filled (r : Session.Response) : Recast.filled.response r = r := by
  cases r with
  | stepped result => cases result <;> rfl
  | ran ending => cases ending <;> rfl
  | moved result => cases result <;> rfl

end Recast

namespace Session

theorem heed_filled {p : Program} {s : Session} (h : s.Charted p) (events : List Event) :
    s.filled.heed events = ((s.heed events).1.filled, (s.heed events).2) := by
  have hheed := (Recast.filled_faithful p).heed_recast
    (fun _ input output hs => hs.withStreams input output) h events
  rw [List.map_congr_left fun r _ => Recast.response_filled r, List.map_id'] at hheed
  exact hheed

theorem serveAll_filled {p : Program} {s : Session} (h : s.Charted p)
    (requests : List Request) :
    s.filled.serveAll requests = ((s.serveAll requests).1.filled, (s.serveAll requests).2) := by
  rw [← heed_requests, ← heed_requests]
  exact heed_filled h _

end Session

/-- Wherever a session has come to, a look-up finds the first definition of its label; so calls
and taken jumps go there, and a step meets an undefined label just where the program defines none.
With a table filled from the whole program, before the first instruction or at any time after it,
the session gives the same responses and comes to the same states, whatever happens to it. -/
theorem labels_as_if_filled {p : Program} {limit : Option Nat} {s : Session}
    (h : s.Reachable p limit) :
    (∀ l, (s.machine.labels.resolve p l).1 = p.firstDefinition? l ∧
      ((s.machine.labels.resolve p l).1 = none ↔ ∀ i ∈ p.instructions, i.defines? ≠ some l)) ∧
    (∀ i l target, s.Fires i → i.Seeks s.state.stack l → p.firstDefinition? l = some target →
      s.step.result = .ok .running ∧ s.step.session.state.pc = target ∨
        s.recording ≠ none ∧ ∃ used limit, s.step.result = .error (.logFull used limit)) ∧
    (∀ l site, s.step.result = .error (.fault (.undefinedLabel l) site) ↔
      ∃ i, s.Fires i ∧ i.Seeks s.state.stack l ∧ (∀ j ∈ p.instructions, j.defines? ≠ some l) ∧
        site = Session.siteOf s.state.pc i) ∧
    ∀ events, s.filled.heed events = ((s.heed events).1.filled, (s.heed events).2) := by
  have hs := h.charted
  obtain ⟨k, ht, -⟩ := hs.known
  refine ⟨?_, ?_, ?_, Session.heed_filled hs⟩
  · intro l
    obtain ⟨hl, -⟩ := ht.resolve l
    rw [hl]
    exact ⟨rfl, Program.firstDefinition?_eq_none_iff⟩
  · intro i l target hi hseeks hfirst
    have hattempt := Machine.attempt_of_seeks ht hi.running hseeks hfirst
    rw [← hs.program] at hattempt
    obtain ⟨hfault, hpc, hrunning⟩ := hattempt
    rcases Session.step_outcome hs.anchored hi with
      ⟨f, hf, -⟩ | ⟨-, ⟨hok, hm⟩ | ⟨hr, e, he, hlimit⟩⟩
    · rw [hfault] at hf
      cases hf
    · left
      rw [hok, hrunning, Session.state, hm]
      exact ⟨rfl, hpc⟩
    · right
      obtain ⟨used, limit, rfl⟩ := hlimit
      exact ⟨hr, used, limit, he⟩
  · intro l site
    rw [Session.step_fault_iff hs.anchored]
    constructor
    · rintro ⟨i, hi, hfault, hsite⟩
      rw [hs.program, Machine.attempt_undefinedLabel_iff ht] at hfault
      exact ⟨i, hi, hfault.1, Program.firstDefinition?_eq_none_iff.mp hfault.2, hsite⟩
    · rintro ⟨i, hi, hseeks, hdefined, hsite⟩
      refine ⟨i, hi, ?_, hsite⟩
      rw [hs.program, Machine.attempt_undefinedLabel_iff ht]
      exact ⟨hseeks, Program.firstDefinition?_eq_none_iff.mpr hdefined⟩

def jumpAfterPrint : Program :=
  let l : Label := ⟨[.tab]⟩
  Program.ofList
    [⟨.push, some (.number 0), {}⟩, ⟨.duplicate, none, {}⟩, ⟨.duplicate, none, {}⟩,
      ⟨.printNum, none, {}⟩, ⟨.jumpZero, some (.label l), {}⟩, ⟨.push, some (.number 1), {}⟩,
      ⟨.label, some (.label l), {}⟩, ⟨.label, some (.label l), {}⟩]

/-- The session is on a jump over a push to a label that is defined twice. The print before it lost a
value to an output that failed, and printed the next one to another output. -/
def beforeJump : Session :=
  let broken : Output := { limit := some (0, .broken "output failed") }
  ((Session.fresh jumpAfterPrint (some 9999) {} broken).heed
    [.request .step, .request (.move .back), .request .step, .request .step, .request .step,
      .request .step, .streams {} {}, .request .step]).1

theorem labels_as_if_filled_jump :
    let i : Instruction := ⟨.jumpZero, some (.label ⟨[.tab]⟩), {}⟩
    beforeJump.Reachable jumpAfterPrint (some 9999) ∧ beforeJump.state.stack.values = [0] ∧
      beforeJump.Fires i ∧ i.Seeks beforeJump.state.stack ⟨[.tab]⟩ ∧
      (beforeJump.step.result = .ok .running ∧ beforeJump.step.session.state.pc = 6 ∨
        beforeJump.recording ≠ none ∧
          ∃ used limit, beforeJump.step.result = .error (.logFull used limit)) := by
  intro i
  have hreachable : beforeJump.Reachable jumpAfterPrint (some 9999) :=
    Session.Reachable.heed (.fresh _ _) _
  have hstarted : beforeJump.unstarted = false := by decide +kernel
  have hbegin : beforeJump.begin.result = .ok () := by rw [Session.begin_of_started hstarted]
  have hfires : beforeJump.Fires i :=
    ⟨⟨by decide +kernel, hbegin⟩, by decide +kernel, by decide +kernel⟩
  have hseeks : i.Seeks beforeJump.state.stack ⟨[.tab]⟩ := ⟨rfl, 0, by decide +kernel, rfl⟩
  refine ⟨hreachable, by decide +kernel, hfires, hseeks, ?_⟩
  exact (labels_as_if_filled hreachable).2.1 i _ 6 hfires hseeks (by decide +kernel)

end Backstep
