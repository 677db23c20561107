import Backstep.Proofs.FilledTable
import Backstep.Proofs.PlainRun
import Backstep.Proofs.Reachable

/-! Calls and returns. Only a call adds a frame and only a return takes one, so
the frames below a call stay where they are until the return that takes the
frame of the call, and control goes on behind the call then. -/
namespace Backstep

/-- What instruction `i` does to the calls when it succeeds. -/
inductive State.Turns (i : Instruction) (s next : State) : Prop
  | kept : i.operation ≠ .call → next.calls = s.calls → Turns i s next
  | called (l : Label) : Parameter.label? i.parameter = some l →
      next.calls = s.calls.push ⟨s.pc, s.pc + 1, l⟩ → Turns i s next
  | returned (frame : Frame) : i.operation = .ret →
      s.calls.pop? = some (frame, next.calls) → next.pc = frame.returnTo → Turns i s next

namespace Machine

variable {p : Program} {i : Instruction} {m : Machine}

theorem intent_of_call (h : i.operation = .call) :
    m.intent i = .fail .missingParameter ∨
      ∃ l land, Parameter.label? i.parameter = some l ∧ m.intent i = .go l land := by
  cases hl : Parameter.label? i.parameter with
  | none =>
    left
    simp only [intent, State.intent, h, Intent.withLabel, Instruction.label, hl]
  | some l =>
    have hseeks : i.Seeks m.state.stack l := ⟨hl, by simp only [h]⟩
    obtain ⟨land, hi⟩ := State.intent_of_seeks (s := m.passed.state) hseeks m.state.pc m.input
    exact Or.inr ⟨l, land, rfl, hi⟩

theorem attempt_of_resolve {l : Label} {land : Nat → State} {target : Nat} {labels : LabelTable}
    (hi : m.intent i = .go l land) (hr : m.labels.resolve p l = (some target, labels)) :
    m.attempt p i =
      ⟨{ m with labels, state := (land target).settle p.size m.state.pc }, none⟩ := by
  have hpassed : m.passed.labels.resolve p l = (some target, labels) := hr
  rw [attempt_eq, hi]
  simp only [fulfil, goto, hpassed, finish]
  rfl

theorem Fulfilled.turns {intent : Intent} {a : Attempt}
    (hf : Fulfilled p m.state.pc m.passed intent a)
    (hs : intent.Steers m.passed.state m.state.pc i)
    (hcall : i.operation = .call → ∃ l land, Parameter.label? i.parameter = some l ∧
      intent = .go l land) (hok : a.fault = none) :
    State.Turns i m.state a.machine.state := by
  have hother : (∀ l land, intent ≠ .go l land) → i.operation ≠ .call := by
    intro hne ho
    obtain ⟨l, land, -, hi⟩ := hcall ho
    exact hne l land hi
  cases hf with
  | failed f => cases hok
  | changed next =>
    rcases hs with hs | ⟨ho, frame, hc, hp, -⟩ | ⟨ho, rfl⟩
    · exact .kept (hother fun _ _ h => nomatch h) hs.calls
    · exact .returned frame ho hc hp
    · exact .kept (hother fun _ _ h => nomatch h) rfl
  | noted l => exact .kept (hother fun _ _ h => nomatch h) rfl
  | @landed labels target l land hr =>
    obtain ⟨⟨hl, -⟩, hland⟩ := hs
    obtain ⟨-, -, ⟨ho, hc⟩ | ⟨-, hc⟩⟩ := hland target
    · exact .kept ho hc
    · exact .called l hl hc
  | lost l land hr => cases hok
  | printed text next ho => exact .kept (hother fun _ _ h => nomatch h) hs.calls
  | unprinted text next ho => cases hok
  | got v input => exact .kept (hother fun _ _ h => nomatch h) rfl
  | missed f input => cases hok

theorem attempt_turns (h : (m.attempt p i).fault = none) :
    State.Turns i m.state (m.attempt p i).machine.state := by
  have hf := m.passed.fulfil_fulfilled p m.state.pc (m.intent i)
  rw [attempt_eq, fault_finish] at h
  rw [attempt_eq]
  have hcall : i.operation = .call → ∃ l land, Parameter.label? i.parameter = some l ∧
      m.intent i = .go l land := by
    intro ho
    rcases intent_of_call ho with hi | hgo
    · rw [hi] at h
      cases h
    · exact hgo
  have hturns := hf.turns (m.intent_steers i) hcall h
  -- settling the state changes neither the calls nor the program counter
  simp only [finish, h]
  cases hturns with
  | kept ho hc => exact .kept ho hc
  | called l hl hc => exact .called l hl hc
  | returned frame ho hc hp => exact .returned frame ho hc hp

end Machine

namespace Session

variable {p : Program} {limit : Option Nat} {s : Session}

theorem step_ok (ha : s.Anchored) (h : s.step.result.isOk = true) :
    (∃ i, s.Fires i ∧ (s.machine.attempt s.program i).fault = none ∧
      s.step.session.machine = (s.machine.attempt s.program i).machine) ∨
    ∃ status, s.step.session.machine = (s.setStatus status).machine := by
  by_cases hfires : ∃ i, s.Fires i
  · obtain ⟨i, hi⟩ := hfires
    rcases step_outcome ha hi with ⟨f, -, he⟩ | ⟨hf, ⟨-, hm⟩ | ⟨-, e, he, -⟩⟩
    · rw [he] at h
      cases h
    · exact Or.inl ⟨i, hi, hf, hm⟩
    · rw [he] at h
      cases h
  · right
    obtain ⟨-, status, hm⟩ := s.machine_begin
    have hs := s.step_stepped
    generalize s.step = reply at hs h
    cases hs with
    | full e hf => cases h
    | refused e hf hb => cases h
    | advanced hf hb =>
      have had := s.begin.session.advance_advanced
      generalize s.begin.session.advance = reply at had h
      cases had with
      | halted reason hs => exact ⟨status, hm⟩
      | ended hs hg =>
        refine ⟨.halted .endOfProgram, ?_⟩
        rw [setStatus, hm]
        rfl
      | faulted i f hs hg hfault => cases h
      | followed i hs hg hfault => exact absurd ⟨i, (fires_of_begin hf hb hs hg).1⟩ hfires

/-- The frame of a call is on the frames that were there before it, perhaps under others. -/
def Inside (s : Session) (frame : Frame) (frames : List Frame) : Prop :=
  ∃ above, s.state.calls.frames = above ++ frame :: frames

/-- The last step was the return that took the frame of a call. -/
structure Closed (s : Session) (frame : Frame) (frames : List Frame) : Prop where
  returns : ∃ i, s.Fires i ∧ i.operation = .ret
  pc : s.step.session.state.pc = frame.returnTo
  frames : s.step.session.state.calls.frames = frames

variable {frame : Frame} {frames : List Frame}

theorem Inside.depth_ne (h : s.Inside frame frames) : s.state.calls.depth ≠ frames.length := by
  obtain ⟨above, hframes⟩ := h
  rw [CallStack.depth, hframes, List.length_append, List.length_cons]
  omega

theorem Inside.step (h : s.Inside frame frames) (ha : s.Anchored)
    (hok : s.step.result.isOk = true) :
    s.step.session.Inside frame frames ∨ s.Closed frame frames := by
  obtain ⟨above, hframes⟩ := h
  rcases step_ok ha hok with ⟨i, hi, hf, hm⟩ | ⟨status, hm⟩
  · have hturns := Machine.attempt_turns hf
    rw [← hm] at hturns
    change State.Turns i s.state s.step.session.state at hturns
    cases hturns with
    | kept ho hc => exact Or.inl ⟨above, by rw [hc, hframes]⟩
    | called l hl hc =>
      refine Or.inl ⟨⟨s.state.pc, s.state.pc + 1, l⟩ :: above, ?_⟩
      rw [hc, CallStack.push, hframes]
      rfl
    | returned taken ho hc hp =>
      have hpop := CallStack.frames_of_pop? hc
      rw [hframes] at hpop
      cases above with
      | nil =>
        rw [List.nil_append] at hpop
        obtain ⟨rfl, hrest⟩ := List.cons.inj hpop
        exact Or.inr ⟨⟨i, hi, ho⟩, hp, hrest.symm⟩
      | cons inner above =>
        obtain ⟨-, hrest⟩ := List.cons.inj hpop
        exact Or.inl ⟨above, hrest.symm⟩
  · left
    refine ⟨above, ?_⟩
    rw [state, hm]
    exact hframes

theorem inside_call {i : Instruction} (ha : s.Anchored) (hi : s.Fires i)
    (hcall : i.operation = .call) (hok : s.step.result.isOk = true) :
    ∃ l, Parameter.label? i.parameter = some l ∧
      s.step.session.state.calls.frames =
        ⟨s.state.pc, s.state.pc + 1, l⟩ :: s.state.calls.frames := by
  rcases step_outcome ha hi with ⟨f, -, he⟩ | ⟨hf, ⟨-, hm⟩ | ⟨-, e, he, -⟩⟩
  · rw [he] at hok
    cases hok
  · have hturns := Machine.attempt_turns hf
    rw [← hm] at hturns
    change State.Turns i s.state s.step.session.state at hturns
    cases hturns with
    | kept ho hc => exact absurd hcall ho
    | called l hl hc => exact ⟨l, hl, by rw [hc]; rfl⟩
    | returned taken ho hc hp =>
      rw [hcall] at ho
      cases ho
  · rw [he] at hok
    cases hok

theorem Reachable.after (h : s.Reachable p limit) (n : Nat) : (s.after n).Reachable p limit := by
  induction n with
  | zero => exact h
  | succ n ih => exact ih.step

/-- As long as the depth has not come back to that of `frames`, the frame of the call is there. -/
theorem Reachable.inside_after (h : s.Reachable p limit) {n : Nat}
    (hok : ∀ m ≤ n, (s.after m).step.result.isOk = true)
    (hstart : (s.after 1).Inside frame frames)
    (hdeep : ∀ m < n, (s.after (m + 1)).state.calls.depth ≠ frames.length) :
    (s.after (n + 1)).Inside frame frames ∨ (s.after n).Closed frame frames := by
  induction n with
  | zero => exact Or.inl hstart
  | succ n ih =>
    have hinside : (s.after (n + 1)).Inside frame frames := by
      rcases ih (fun m hm => hok m (by omega)) (fun m hm => hdeep m (by omega)) with hin | hclosed
      · exact hin
      · have hdepth : (s.after (n + 1)).state.calls.depth = frames.length :=
          congrArg List.length hclosed.frames
        exact absurd hdepth (hdeep n (by omega))
    exact hinside.step (h.after (n + 1)).charted.anchored (hok (n + 1) (by omega))

end Session

/-- A call is closed by the return that first brings the depth back: that return goes on behind the
call and with the frames that the call found. Until then these frames are below that of the call. -/
theorem calls_bracketed {p : Program} {limit : Option Nat} {s : Session} {i : Instruction}
    (h : s.Reachable p limit) (hi : s.Fires i) (hcall : i.operation = .call) {n : Nat}
    (hok : ∀ m ≤ n, (s.after m).step.result.isOk = true)
    (hdeep : ∀ m < n, (s.after (m + 1)).state.calls.depth ≠ s.state.calls.depth) :
    (∃ l, Parameter.label? i.parameter = some l ∧
      ∀ m ≤ n, (s.after (m + 1)).state.calls.depth ≠ s.state.calls.depth →
        ∃ above, (s.after (m + 1)).state.calls.frames =
          above ++ ⟨s.state.pc, s.state.pc + 1, l⟩ :: s.state.calls.frames) ∧
    ((s.after (n + 1)).state.calls.depth = s.state.calls.depth →
      (∃ j, (s.after n).Fires j ∧ j.operation = .ret) ∧
        (s.after (n + 1)).state.pc = s.state.pc + 1 ∧
        (s.after (n + 1)).state.calls = s.state.calls) := by
  obtain ⟨l, hl, hframes⟩ :=
    Session.inside_call h.charted.anchored hi hcall (hok 0 (Nat.zero_le n))
  have hstart : (s.after 1).Inside ⟨s.state.pc, s.state.pc + 1, l⟩ s.state.calls.frames :=
    ⟨[], hframes⟩
  have hrun : ∀ m ≤ n,
      (s.after (m + 1)).Inside ⟨s.state.pc, s.state.pc + 1, l⟩ s.state.calls.frames ∨
        (s.after m).Closed ⟨s.state.pc, s.state.pc + 1, l⟩ s.state.calls.frames := by
    intro m hm
    exact h.inside_after (fun k hk => hok k (by omega)) hstart fun k hk => hdeep k (by omega)
  refine ⟨⟨l, hl, fun m hm hne => ?_⟩, fun hdepth => ?_⟩
  · rcases hrun m hm with hin | hclosed
    · exact hin
    · exact absurd (congrArg List.length hclosed.frames) hne
  · rcases hrun n (Nat.le_refl n) with hin | hclosed
    · exact absurd hdepth hin.depth_ne
    · refine ⟨hclosed.returns, hclosed.pc, ?_⟩
      exact congrArg CallStack.mk hclosed.frames

/-- A call of a body that calls again. -/
def nestedCalls : Program :=
  let label (name : Symbol) : Option Parameter := some (.label ⟨[name]⟩)
  Program.ofList
    [⟨.call, label .space, {}⟩, ⟨.exit, none, {}⟩, ⟨.label, label .space, {}⟩,
      ⟨.call, label .tab, {}⟩, ⟨.ret, none, {}⟩, ⟨.label, label .tab, {}⟩, ⟨.ret, none, {}⟩]

def nestedRun : Nat → Session
  | 0 => .fresh nestedCalls none {} {}
  | 1 => amid 2 0 [outer]
  | 2 => amid 3 2 [outer]
  | 3 => amid 5 3 [inner, outer]
  | 4 => amid 6 5 [inner, outer]
  | 5 => amid 4 6 [outer]
  | _ => amid 1 4 []
where
  outer : Frame := ⟨0, 1, ⟨[.space]⟩⟩
  inner : Frame := ⟨3, 4, ⟨[.tab]⟩⟩
  amid (pc last : Nat) (frames : List Frame) : Session :=
    { program := nestedCalls
      machine := { state := { calls := ⟨frames⟩, pc, last := some last }
                   labels := .ofProgram nestedCalls } }

theorem nestedRun_step : ∀ m < 6, (nestedRun m).step = ⟨nestedRun (m + 1), .ok .running⟩
  | 0, _ => by
    have hd : nestedCalls.firstDefinition? ⟨[.space]⟩ = some 2 := by decide +kernel
    have hr := LabelTable.resolve_empty nestedCalls ⟨[.space]⟩
    rw [hd] at hr
    exact Session.step_of_attempt rfl rfl rfl
      (Machine.attempt_of_resolve (m := (nestedRun 0).machine)
        (i := ⟨.call, some (.label ⟨[.space]⟩), {}⟩) rfl hr)
  | 1, _ => rfl
  | 2, _ => by
    have hd : nestedCalls.firstDefinition? ⟨[.tab]⟩ = some 5 := by decide +kernel
    have hr := LabelTable.resolve_ofProgram nestedCalls ⟨[.tab]⟩
    rw [hd] at hr
    exact Session.step_of_attempt rfl rfl rfl
      (Machine.attempt_of_resolve (m := (nestedRun 2).machine)
        (i := ⟨.call, some (.label ⟨[.tab]⟩), {}⟩) rfl hr)
  | 3, _ => rfl
  | 4, _ => rfl
  | 5, _ => rfl

theorem calls_bracketed_nested :
    let s := Session.fresh nestedCalls none {} {}
    (∃ i, s.Fires i ∧ i.operation = .call) ∧ (∀ m ≤ 5, (s.after m).step.result.isOk = true) ∧
      (∀ m < 5, (s.after (m + 1)).state.calls.depth ≠ 0) ∧
      (∃ j, (s.after 5).Fires j ∧ j.operation = .ret) ∧
      (s.after 6).state.pc = 1 ∧ (s.after 6).state.calls = {} := by
  intro s
  have hrun : ∀ m ≤ 6, s.after m = nestedRun m := by
    intro m hm
    induction m with
    | zero => rfl
    | succ m ih => rw [Session.after, ih (by omega), nestedRun_step m (by omega)]
  have hfires : s.Fires ⟨.call, some (.label ⟨[.space]⟩), {}⟩ := ⟨⟨rfl, rfl⟩, rfl, rfl⟩
  have hok : ∀ m ≤ 5, (s.after m).step.result.isOk = true := by
    intro m hm
    rw [hrun m (by omega), nestedRun_step m (by omega)]
    rfl
  have hdeep : ∀ m < 5, (s.after (m + 1)).state.calls.depth ≠ 0 := by
    intro m hm
    rw [hrun (m + 1) (by omega)]
    revert m
    decide +kernel
  have hback : (s.after 6).state.calls.depth = 0 := by
    rw [hrun 6 (Nat.le_refl 6)]
    rfl
  exact ⟨⟨_, hfires, rfl⟩, hok, hdeep,
    (calls_bracketed (.fresh {} {}) hfires rfl hok hdeep).2 hback⟩

end Backstep
