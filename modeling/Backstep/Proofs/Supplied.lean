import Backstep.Proofs.Comments
import Backstep.Proofs.Effects
import Backstep.Proofs.RoundTrip

/-! The errors of steps and runs. A step does not fail as a move does, and a
program that was read has all the operands that its instructions ask for, so that
none of its runs ends for want of a parameter. -/
namespace Backstep

namespace Instruction

variable {i : Instruction}

theorem WellFormed.number (h : i.WellFormed) (hk : i.operation.parameterKind? = some .number) :
    ∃ n, i.number = .ok n := by
  rw [WellFormed, hk] at h
  obtain ⟨n, hn⟩ := h
  exact ⟨n, by rw [Instruction.number, hn]; rfl⟩

theorem WellFormed.label (h : i.WellFormed) (hk : i.operation.parameterKind? = some .label) :
    ∃ l, i.label = .ok l := by
  rw [WellFormed, hk] at h
  obtain ⟨l, hl, -⟩ := h
  exact ⟨l, by rw [Instruction.label, hl]; rfl⟩

end Instruction

/-! Effects without a parameter. They fail for causes that lie in the state. -/

/-- Causes in the operands or the calls of a state. -/
def Fault.ofState : Fault → Bool
  | .stack _ | .divisionByZero | .undefinedAddress _ | .returnWithoutCall | .notCharacter _ => true
  | _ => false

namespace State

variable {s : State} {f : Fault}

theorem withStack_fault {r : Except StackFault OperandStack} (h : s.withStack r = .error f) :
    f.ofState = true := by
  cases r with
  | ok stack => cases h
  | error e =>
    cases h
    rfl

theorem combine_fault {op : Value → Value → Except Fault Value}
    (hop : ∀ a b e, op a b = .error e → e.ofState = true) (h : s.combine op = .error f) :
    f.ofState = true := by
  rw [combine] at h
  split at h
  · cases h
    rfl
  · next left right stack _ =>
    cases hr : op left right with
    | ok v =>
      rw [hr] at h
      cases h
    | error e =>
      rw [hr] at h
      cases h
      exact hop left right _ hr

theorem divide_fault {a b : Value} (h : divide a b = .error f) : f.ofState = true := by
  rw [divide] at h
  split at h <;> cases h
  rfl

theorem modulo_fault {a b : Value} (h : modulo a b = .error f) : f.ofState = true := by
  rw [modulo] at h
  split at h <;> cases h
  rfl

theorem store_fault (h : s.store = .error f) : f.ofState = true := by
  rw [store] at h
  split at h <;> cases h
  rfl

theorem retrieve_fault (h : s.retrieve = .error f) : f.ofState = true := by
  rw [retrieve] at h
  split at h
  · cases h
    rfl
  · split at h <;> cases h
    rfl

theorem leave_fault (h : s.leave = .error f) : f.ofState = true := by
  rw [leave] at h
  split at h <;> cases h
  rfl

end State

/-! Intentions. -/

namespace Intent

/-- The intention fails for a cause in the state only, or for want of a parameter. -/
def Caused (i : Instruction) : Intent → Prop
  | .fail f => f.ofState = true ∨ f = .missingParameter ∧ ¬ i.WellFormed
  | _ => True

variable {i : Instruction}

theorem caused_ofResult {r : Except Fault State}
    (h : ∀ f, r = .error f → f.ofState = true) : (ofResult r).Caused i := by
  cases r with
  | ok next => trivial
  | error f => exact Or.inl (h f rfl)

theorem caused_number (hk : i.operation.parameterKind? = some .number)
    {effect : Value → Except Fault State}
    (he : ∀ n f, effect n = .error f → f.ofState = true) :
    (ofResult (i.number.bind effect)).Caused i := by
  cases hn : i.number with
  | ok n => exact caused_ofResult (he n)
  | error f =>
    refine Or.inr ⟨Instruction.number_error hn, fun hw => ?_⟩
    obtain ⟨n, hok⟩ := hw.number hk
    rw [hn] at hok
    cases hok

theorem caused_label (hk : i.operation.parameterKind? = some .label) {use : Label → Intent}
    (hu : ∀ l, (use l).Caused i) : (withLabel i use).Caused i := by
  rw [withLabel]
  cases hl : i.label with
  | ok l => exact hu l
  | error f =>
    refine Or.inr ⟨Instruction.label_error hl, fun hw => ?_⟩
    obtain ⟨l, hok⟩ := hw.label hk
    rw [hl] at hok
    cases hok

theorem caused_branch (s : State) (l : Label) (taken : Value → Bool) :
    (branch s l taken).Caused i := by
  rw [branch]
  split
  · exact Or.inl rfl
  · split <;> trivial

theorem caused_printChar (s : State) : (printChar s).Caused i := by
  rw [printChar]
  split
  · exact Or.inl rfl
  · split
    · trivial
    · exact Or.inl rfl

theorem caused_printNum (s : State) : (printNum s).Caused i := by
  rw [printNum]
  split
  · exact Or.inl rfl
  · trivial

/-- The intention does not fail for want of a parameter. -/
def Supplied : Intent → Prop
  | .fail f => f ≠ .missingParameter
  | .take reading => reading.1 ≠ .error .missingParameter
  | _ => True

end Intent

theorem State.caused_intent (s : State) (index : Nat) (i : Instruction) (input : Input) :
    (s.intent index i input).Caused i := by
  have hkind : ∀ op kind, i.operation = op → op.parameterKind? = some kind →
      i.operation.parameterKind? = some kind := fun op kind ho hk => ho ▸ hk
  have htotal : ∀ (op : Value → Value → Value) a b e,
      (.ok (op a b) : Except Fault Value) = .error e → e.ofState = true := by
    intro op a b e h
    cases h
  rw [State.intent]
  cases ho : i.operation with
  | push =>
    refine Intent.caused_number (hkind _ _ ho rfl) fun n f h => ?_
    cases h
  | duplicate => exact Intent.caused_ofResult fun f => withStack_fault
  | duplicateN => exact Intent.caused_number (hkind _ _ ho rfl) fun n f => withStack_fault
  | swap => exact Intent.caused_ofResult fun f => withStack_fault
  | discard => exact Intent.caused_ofResult fun f => withStack_fault
  | discardN => exact Intent.caused_number (hkind _ _ ho rfl) fun n f => withStack_fault
  | add => exact Intent.caused_ofResult fun f => combine_fault (htotal (· + ·))
  | sub => exact Intent.caused_ofResult fun f => combine_fault (htotal (· - ·))
  | mul => exact Intent.caused_ofResult fun f => combine_fault (htotal (· * ·))
  | div => exact Intent.caused_ofResult fun f => combine_fault fun a b e => divide_fault
  | mod => exact Intent.caused_ofResult fun f => combine_fault fun a b e => modulo_fault
  | store => exact Intent.caused_ofResult fun f => store_fault
  | retrieve => exact Intent.caused_ofResult fun f => retrieve_fault
  | label => exact Intent.caused_label (hkind _ _ ho rfl) fun l => trivial
  | call => exact Intent.caused_label (hkind _ _ ho rfl) fun l => trivial
  | jump => exact Intent.caused_label (hkind _ _ ho rfl) fun l => trivial
  | jumpZero =>
    exact Intent.caused_label (hkind _ _ ho rfl) fun l => Intent.caused_branch s l _
  | jumpNegative =>
    exact Intent.caused_label (hkind _ _ ho rfl) fun l => Intent.caused_branch s l _
  | ret => exact Intent.caused_ofResult fun f => leave_fault
  | exit => trivial
  | printChar => exact Intent.caused_printChar s
  | printNum => exact Intent.caused_printNum s
  | readChar => trivial
  | readNum => trivial

/-- The fault of a read is one of its stream. -/
theorem State.intent_take_fault {s : State} {index : Nat} {i : Instruction} {input rest : Input}
    {f : Fault} (h : s.intent index i input = .take (.error f, rest)) :
    i.operation = .readChar ∧ input.readChar = (.error f, rest) ∨
      i.operation = .readNum ∧ input.readNumber = (.error f, rest) := by
  cases ho : i.operation with
  | readChar =>
    rw [State.intent, ho] at h
    refine Or.inl ⟨rfl, ?_⟩
    rcases hr : input.readChar with ⟨r, after⟩
    simp only [hr, Intent.take.injEq, Prod.mk.injEq] at h
    obtain ⟨hmap, rfl⟩ := h
    cases r with
    | ok c => cases hmap
    | error e =>
      cases hmap
      rfl
  | readNum =>
    rw [State.intent, ho] at h
    exact Or.inr ⟨rfl, Intent.take.inj h⟩
  | _ => exact absurd h (s.intent_ne_take (by rw [ho]; rfl) index input _)

theorem StreamFailure.fault_supplied (failure : StreamFailure) :
    failure.fault ≠ .missingParameter := by
  cases failure <;> simp [fault]

theorem Input.Ending.fault_supplied (ending : Input.Ending) :
    ending.fault ≠ .missingParameter := by
  cases ending <;> simp [fault]

theorem State.supplied_intent {i : Instruction} (h : i.WellFormed) (s : State) (index : Nat)
    (input : Input) : (s.intent index i input).Supplied := by
  have hcaused := s.caused_intent index i input
  have htake := @State.intent_take_fault s index i input
  generalize s.intent index i input = intent at hcaused htake
  cases intent with
  | fail f =>
    rcases hcaused with hstate | ⟨-, hw⟩
    · rintro rfl
      cases hstate
    · exact absurd h hw
  | take reading =>
    obtain ⟨r, rest⟩ := reading
    rintro (rfl : r = .error .missingParameter)
    rcases htake rfl with ⟨-, hread⟩ | ⟨-, hread⟩
    · rcases Input.readChar_fault (congrArg Prod.fst hread) with hf | ⟨bytes, hf⟩
      · exact input.ending.fault_supplied hf.symm
      · cases hf
    · have hfault := Input.readNumber_fault (congrArg Prod.fst hread)
      rcases hfault with hf | ⟨message, hf⟩ | ⟨text, hf⟩
      · exact input.ending.fault_supplied hf.symm
      · cases hf
      · cases hf
  | _ => trivial

theorem Machine.attempt_supplied {i : Instruction} (h : i.WellFormed) (p : Program) (m : Machine) :
    (m.attempt p i).fault ≠ some .missingParameter := by
  have hf := m.passed.fulfil_fulfilled p m.state.pc (m.intent i)
  have hi : (m.intent i).Supplied := m.passed.state.supplied_intent h m.state.pc m.input
  rw [attempt_eq, fault_finish]
  generalize m.passed.fulfil p m.state.pc (m.intent i) = a at hf
  generalize m.intent i = intent at hf hi
  cases hf with
  | failed f => exact fun hm => hi (Option.some.inj hm)
  | @unprinted output failure text next hw =>
    exact fun hm => failure.fault_supplied (Option.some.inj hm)
  | missed f input => exact fun hm => hi (congrArg Except.error (Option.some.inj hm))
  | _ => simp

/-! Sessions. -/

namespace Session

variable {p : Program} {limit : Option Nat} {s : Session}

theorem step_ne_move (ha : s.Anchored) (cause : MoveFault) :
    s.step.result ≠ .error (.move cause) := by
  intro h
  have hfailed := step_failed ha h
  generalize s.step = reply at hfailed h
  cases hfailed with
  | full e hf =>
    cases h
    obtain ⟨used, limit, he⟩ := limits_fullError? hf
    cases he
  | unopened e hu hb =>
    cases h
    obtain ⟨used, limit, he⟩ := limits_begin hb
    cases he
  | faulted i g hi hg => cases h
  | overflowed i r snapshot hi hg hr hp => cases h

theorem Reachable.step_supplied (h : s.Reachable p limit)
    (hp : ∀ i ∈ p.instructions, i.WellFormed) (site : Site) :
    s.step.result ≠ .error (.fault .missingParameter site) := by
  intro he
  obtain ⟨i, hi, hfault, -⟩ := (step_fault_iff h.charted.anchored).mp he
  have hget := hi.present
  rw [h.charted.program] at hget
  exact Machine.attempt_supplied (hp i (Array.mem_of_getElem? hget)) s.program s.machine hfault

/-- The error of a step or of a run, if it failed. -/
def Response.runError? : Response → Option RunError
  | .stepped (.error e) => some e
  | .ran ending => ending.error?
  | _ => none

/-- A run that fails has come to a session whose step fails so. -/
theorem Reachable.run_error (h : s.Reachable p limit) {fuel : Nat} {e : RunError}
    (he : (Session.run fuel s).2.error? = some e) :
    ∃ t : Session, t.Reachable p limit ∧ t.step.result = .error e := by
  induction fuel generalizing s with
  | zero => cases he
  | succ fuel ih =>
    have hs := h.step
    rw [Session.run] at he
    rcases hreply : s.step with ⟨t, result⟩
    rw [hreply] at he hs
    cases result with
    | error e' =>
      cases he
      exact ⟨s, h, by rw [hreply]⟩
    | ok status =>
      cases status with
      | running => exact ih hs he
      | halted reason => cases he

theorem Reachable.serve_error (h : s.Reachable p limit) {request : Request} {e : RunError}
    (he : (s.serve request).2.runError? = some e) :
    ∃ t : Session, t.Reachable p limit ∧ t.step.result = .error e := by
  cases request with
  | step =>
    refine ⟨s, h, ?_⟩
    change (Response.stepped s.step.result).runError? = some e at he
    cases hr : s.step.result with
    | ok status =>
      rw [hr] at he
      cases he
    | error e' =>
      rw [hr] at he
      cases he
      rfl
  | run fuel => exact h.run_error he
  | move m => cases he

theorem Reachable.heed_error (h : s.Reachable p limit) {events : List Event} {response : Response}
    (hr : response ∈ (s.heed events).2) {e : RunError} (he : response.runError? = some e) :
    ∃ t : Session, t.Reachable p limit ∧ t.step.result = .error e := by
  induction events generalizing s with
  | nil => cases hr
  | cons event events ih =>
    cases event with
    | request request =>
      rcases List.mem_cons.mp hr with rfl | hr
      · exact h.serve_error he
      · exact ih (h.serve request) hr
    | streams input output => exact ih (h.streams input output) hr

end Session
end Backstep
