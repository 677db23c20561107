import Backstep.Proofs.Intent

/-! One attempt at an instruction. A fault that the output did not raise leaves
the state, the transcript and the output alone; an attempt without a fault
settles the state that was intended and prints at most one text. -/
namespace Backstep

/-- No write fails, however many bytes it has. -/
def Output.Reliable (o : Output) : Prop :=
  ∀ bytes, (o.write bytes).1 = none

theorem Output.reliable_iff {o : Output} :
    o.Reliable ↔ o.limit = none ∧ o.flushFailure = none := by
  constructor
  · intro h
    have hlimit : o.limit = none := by
      cases hl : o.limit with
      | none => rfl
      | some bound =>
        -- a write of one byte more than the limit
        have hw := h (List.replicate (bound.1 + 1) 0)
        simp only [write, hl, List.length_replicate] at hw
        rw [if_neg (by omega)] at hw
        cases hw
    have hw := h []
    simp only [write, hlimit] at hw
    exact ⟨hlimit, hw⟩
  · rintro ⟨hl, hf⟩ bytes
    simp only [write, hl, hf]

theorem Output.Reliable.write_eq {o : Output} (h : o.Reliable) (bytes : List UInt8) :
    o.write bytes = (none, { o with received := o.received ++ bytes }) := by
  obtain ⟨hl, hf⟩ := Output.reliable_iff.mp h
  simp only [Output.write, hl, hf]

theorem Output.Reliable.write {o : Output} (h : o.Reliable) (bytes : List UInt8) :
    (o.write bytes).2.Reliable := by
  obtain ⟨hl, hf⟩ := Output.reliable_iff.mp h
  rw [h.write_eq]
  exact Output.reliable_iff.mpr ⟨hl, hf⟩

/-- A state that still runs is on an instruction of a program with `size` instructions. -/
def State.Ready (size : Nat) (s : State) : Prop :=
  s.status = .running → s.pc < size

theorem State.settle_ready (s : State) (size index : Nat) : (s.settle size index).Ready size := by
  intro hr
  by_cases hlt : s.pc < size
  · exact hlt
  · have hle : size ≤ s.pc := Nat.le_of_not_lt hlt
    by_cases hs : s.status = .running
    · simp [settle, hs, hle] at hr
    · simp [settle, hs] at hr

namespace Machine

/-- The machine with its program counter past the present instruction. -/
def passed (m : Machine) : Machine :=
  { m with state := { m.state with pc := m.state.pc + 1 } }

def intent (m : Machine) (i : Instruction) : Intent :=
  m.passed.state.intent m.state.pc i m.input

def finish (p : Program) (index : Nat) (a : Attempt) : Attempt :=
  match a.fault with
  | none => ⟨{ a.machine with state := a.machine.state.settle p.size index }, none⟩
  | some f => ⟨{ a.machine with state := { a.machine.state with pc := index } }, some f⟩

theorem attempt_eq (p : Program) (i : Instruction) (m : Machine) :
    m.attempt p i = finish p m.state.pc (m.passed.fulfil p m.state.pc (m.intent i)) := by
  have he := execute_eq p m.state.pc i m.passed
  change finish p m.state.pc (execute p m.state.pc i m.passed) = _
  rw [he]
  rfl

theorem intent_steers (m : Machine) (i : Instruction) :
    (m.intent i).Steers m.passed.state m.state.pc i :=
  State.intent_steers _ _ _ _

theorem fault_finish (p : Program) (index : Nat) (a : Attempt) :
    (finish p index a).fault = a.fault := by
  rw [finish]
  split <;> simp_all

/-- The ways in which an intention can turn out. -/
inductive Fulfilled (p : Program) (index : Nat) (m : Machine) : Intent → Attempt → Prop
  | failed (f : Fault) : Fulfilled p index m (.fail f) ⟨m, some f⟩
  | changed (next : State) : Fulfilled p index m (.change next) ⟨{ m with state := next }, none⟩
  | noted (l : Label) :
      Fulfilled p index m (.note l) ⟨{ m with labels := m.labels.record l index }, none⟩
  | landed {labels : LabelTable} {target : Nat} (l : Label) (land : Nat → State) :
      m.labels.resolve p l = (some target, labels) →
      Fulfilled p index m (.go l land) ⟨{ m with labels, state := land target }, none⟩
  | lost {labels : LabelTable} (l : Label) (land : Nat → State) :
      m.labels.resolve p l = (none, labels) →
      Fulfilled p index m (.go l land) ⟨{ m with labels }, some (.undefinedLabel l)⟩
  | printed {output : Output} (text : String) (next : State) :
      m.output.write (Utf8.encode text) = (none, output) →
      Fulfilled p index m (.print text next)
        ⟨{ m with state := next, output, transcript := m.transcript.print text }, none⟩
  | unprinted {output : Output} {failure : StreamFailure} (text : String) (next : State) :
      m.output.write (Utf8.encode text) = (some failure, output) →
      Fulfilled p index m (.print text next)
        ⟨{ m with state := next, output }, some failure.fault⟩
  | got (v : Value) (input : Input) :
      Fulfilled p index m (.take (.ok v, input)) ⟨{ m with input, state := m.state.push v }, none⟩
  | missed (f : Fault) (input : Input) :
      Fulfilled p index m (.take (.error f, input)) ⟨{ m with input }, some f⟩

theorem fulfil_fulfilled (p : Program) (index : Nat) (m : Machine) (intent : Intent) :
    Fulfilled p index m intent (m.fulfil p index intent) := by
  cases intent with
  | fail f => exact .failed f
  | change next => exact .changed next
  | note l => exact .noted l
  | go l land =>
    simp only [fulfil, goto]
    split
    · next h => exact .landed l land h
    · next h => exact .lost l land h
  | print text next =>
    simp only [fulfil, emit]
    split
    · next h => exact .printed text next h
    · next h => exact .unprinted text next h
  | take reading =>
    obtain ⟨r, input⟩ := reading
    cases r with
    | ok v => exact .got v input
    | error f => exact .missed f input

/-- Nothing that a snapshot or the output can show is different. -/
structure Unmoved (m n : Machine) : Prop where
  state : n.state = m.state
  transcript : n.transcript = m.transcript
  output : n.output = m.output

theorem attempt_fault {p : Program} {i : Instruction} {m : Machine} {f : Fault}
    (h : (m.attempt p i).fault = some f) :
    m.Unmoved (m.attempt p i).machine ∨
      ∃ text next failure, m.intent i = .print text next ∧
        (m.output.write (Utf8.encode text)).1 = some failure ∧ f = failure.fault := by
  have hf := m.passed.fulfil_fulfilled p m.state.pc (m.intent i)
  rw [attempt_eq, fault_finish] at h
  rw [attempt_eq]
  generalize m.passed.fulfil p m.state.pc (m.intent i) = a at hf h
  generalize m.intent i = intent at hf
  cases hf with
  | failed e => exact Or.inl ⟨rfl, rfl, rfl⟩
  | changed next => cases h
  | noted l => cases h
  | landed l land hl => cases h
  | lost l land hl => exact Or.inl ⟨rfl, rfl, rfl⟩
  | printed text next hw => cases h
  | @unprinted output failure text next hw =>
    cases h
    exact Or.inr ⟨text, next, failure, rfl, congrArg Prod.fst hw, rfl⟩
  | got v input => cases h
  | missed e input => exact Or.inl ⟨rfl, rfl, rfl⟩

/-- What was printed by an attempt without a fault: nothing, or one text. -/
def Prints (m n : Machine) : Prop :=
  n.transcript = m.transcript ∧ n.output = m.output ∨
    ∃ text, n.transcript = m.transcript.print text ∧
      n.output = (m.output.write (Utf8.encode text)).2

theorem attempt_ok {p : Program} {i : Instruction} {m : Machine}
    (h : (m.attempt p i).fault = none) :
    m.Prints (m.attempt p i).machine ∧ (m.attempt p i).machine.state.Ready p.size := by
  have hf := m.passed.fulfil_fulfilled p m.state.pc (m.intent i)
  rw [attempt_eq, fault_finish] at h
  rw [attempt_eq]
  generalize m.passed.fulfil p m.state.pc (m.intent i) = a at hf h
  simp only [finish, h]
  refine ⟨?_, State.settle_ready _ _ _⟩
  generalize m.intent i = intent at hf
  cases hf with
  | failed e => cases h
  | changed next => exact Or.inl ⟨rfl, rfl⟩
  | noted l => exact Or.inl ⟨rfl, rfl⟩
  | landed l land hl => exact Or.inl ⟨rfl, rfl⟩
  | lost l land hl => cases h
  | printed text next hw => exact Or.inr ⟨text, rfl, (congrArg Prod.snd hw).symm⟩
  | unprinted text next hw => cases h
  | got v input => exact Or.inl ⟨rfl, rfl⟩
  | missed e input => cases h

end Machine
end Backstep
