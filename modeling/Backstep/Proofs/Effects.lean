import Backstep.Proofs.Attempt

/-! Which instructions touch the streams. Only a print gives the output anything,
and the text is known from the operand stack before it is attempted; only a read
looks at the input. -/
namespace Backstep

def Operation.reads : Operation → Bool
  | .readChar | .readNum => true
  | _ => false

def Operation.prints : Operation → Bool
  | .printChar | .printNum => true
  | _ => false

/-- The text that a value is printed as: the character with this code point, if there is one, or the
decimal numeral. -/
def Operation.printed? (op : Operation) (v : Value) : Option String :=
  match op with
  | .printChar =>
    if 0 ≤ v ∧ v.toNat.isValidChar then some (String.singleton (Char.ofNat v.toNat)) else none
  | .printNum => some (toString v)
  | _ => none

theorem Operation.printed?_printChar (v : Value) :
    printed? .printChar v = (Value.character? v).map String.singleton := by
  rw [printed?, Value.character?]
  split <;> rfl

theorem Operation.printed?_printNum (v : Value) : printed? .printNum v = some (Decimal.write v) := by
  rw [printed?, Decimal.write_eq_toString]

/-- The text that the instruction prints when the operand stack is `stack`. -/
def Instruction.printed? (i : Instruction) (stack : OperandStack) : Option String :=
  stack.values.head?.bind i.operation.printed?

theorem Instruction.head?_of_printed? {i : Instruction} {stack : OperandStack} {text : String}
    (h : i.printed? stack = some text) : ∃ v, stack.values.head? = some v := by
  obtain ⟨v, hv, -⟩ := Option.bind_eq_some_iff.mp h
  exact ⟨v, hv⟩

namespace OperandStack

variable {s rest : OperandStack} {v : Value}

theorem drop_of_pop (h : s.pop = .ok (v, rest)) : s.drop 1 = rest := by
  apply OperandStack.ext
  rw [values_drop, pop_eq_ok h, List.drop_one, List.tail_cons]

theorem head?_of_pop (h : s.pop = .ok (v, rest)) : s.values.head? = some v := by
  rw [pop_eq_ok h, List.head?_cons]

theorem drop_ne (h : s.values.head? = some v) : s.drop 1 ≠ s := by
  intro he
  have hlength := congrArg (fun t => t.values.length) he
  have hne : s.values ≠ [] := by
    intro hnil
    rw [hnil] at h
    cases h
  have hpos := List.length_pos_iff.mpr hne
  simp only [values_drop, List.length_drop] at hlength
  omega

end OperandStack

namespace Intent

/-- Carrying out the intention needs no stream. -/
def Quiet : Intent → Prop
  | .print .. | .take .. => False
  | _ => True

def print? : Intent → Option (String × State)
  | .print text next => some (text, next)
  | _ => none

theorem Quiet.print? {intent : Intent} (h : intent.Quiet) : intent.print? = none := by
  cases intent with
  | print text next => exact h.elim
  | _ => rfl

theorem quiet_ofResult (r : Except Fault State) : (ofResult r).Quiet := by
  cases r <;> exact trivial

theorem quiet_withLabel {i : Instruction} {use : Label → Intent} (h : ∀ l, (use l).Quiet) :
    (withLabel i use).Quiet := by
  rw [withLabel]
  cases i.label with
  | ok l => exact h l
  | error f => exact trivial

theorem quiet_branch (s : State) (l : Label) (taken : Value → Bool) :
    (branch s l taken).Quiet := by
  rw [branch]
  split
  · exact trivial
  · split <;> exact trivial

theorem print?_printChar (s : State) : (printChar s).print? =
    (s.stack.values.head?.bind Operation.printChar.printed?).map
      fun text => (text, { s with stack := s.stack.drop 1 }) := by
  rw [printChar]
  cases hp : s.stack.pop with
  | error f =>
    rw [OperandStack.pop_eq_error hp]
    rfl
  | ok popped =>
    obtain ⟨top, rest⟩ := popped
    rw [OperandStack.head?_of_pop hp, OperandStack.drop_of_pop hp, Option.bind_some,
      Operation.printed?_printChar]
    dsimp only
    cases Value.character? top <;> rfl

theorem print?_printNum (s : State) : (printNum s).print? =
    (s.stack.values.head?.bind Operation.printNum.printed?).map
      fun text => (text, { s with stack := s.stack.drop 1 }) := by
  rw [printNum]
  cases hp : s.stack.pop with
  | error f =>
    rw [OperandStack.pop_eq_error hp]
    rfl
  | ok popped =>
    obtain ⟨top, rest⟩ := popped
    rw [OperandStack.head?_of_pop hp, OperandStack.drop_of_pop hp, Option.bind_some,
      Operation.printed?_printNum]
    rfl

end Intent

namespace State

theorem quiet_intent (s : State) (index : Nat) (i : Instruction) (input : Input)
    (hr : i.operation.reads = false) (hp : i.operation.prints = false) :
    (s.intent index i input).Quiet := by
  rw [State.intent]
  cases ho : i.operation with
  | label => exact Intent.quiet_withLabel fun l => trivial
  | call => exact Intent.quiet_withLabel fun l => trivial
  | jump => exact Intent.quiet_withLabel fun l => trivial
  | jumpZero => exact Intent.quiet_withLabel fun l => Intent.quiet_branch _ _ _
  | jumpNegative => exact Intent.quiet_withLabel fun l => Intent.quiet_branch _ _ _
  | exit => exact trivial
  | printChar => simp [ho, Operation.prints] at hp
  | printNum => simp [ho, Operation.prints] at hp
  | readChar => simp [ho, Operation.reads] at hr
  | readNum => simp [ho, Operation.reads] at hr
  | _ => exact Intent.quiet_ofResult _

/-- An instruction means to print just the text that its operands give, and to drop the top. -/
theorem print?_intent (s : State) (index : Nat) (i : Instruction) (input : Input) :
    (s.intent index i input).print? =
      (i.printed? s.stack).map fun text => (text, { s with stack := s.stack.drop 1 }) := by
  have hquiet := s.quiet_intent index i input
  cases ho : i.operation with
  | printChar =>
    rw [State.intent, ho, Instruction.printed?, ho]
    exact Intent.print?_printChar s
  | printNum =>
    rw [State.intent, ho, Instruction.printed?, ho]
    exact Intent.print?_printNum s
  | readChar =>
    rw [State.intent, ho, Instruction.printed?, ho]
    cases s.stack.values.head? <;> rfl
  | readNum =>
    rw [State.intent, ho, Instruction.printed?, ho]
    cases s.stack.values.head? <;> rfl
  | _ =>
    rw [ho] at hquiet
    rw [(hquiet rfl rfl).print?, Instruction.printed?, ho]
    cases s.stack.values.head? <;> rfl

end State

namespace Machine

variable {p : Program} {i : Instruction} {m : Machine} {text : String}

theorem printed?_of_intent {next : State} (h : m.intent i = .print text next) :
    i.printed? m.state.stack = some text := by
  have hp := m.passed.state.print?_intent m.state.pc i m.input
  change (m.intent i).print? = _ at hp
  rw [h] at hp
  change some (text, next) = (i.printed? m.state.stack).map _ at hp
  cases hi : i.printed? m.state.stack with
  | none =>
    rw [hi] at hp
    cases hp
  | some t =>
    rw [hi] at hp
    cases hp
    rfl

theorem intent_of_printed? (h : i.printed? m.state.stack = some text) :
    m.intent i = .print text { m.passed.state with stack := m.state.stack.drop 1 } := by
  have hp := m.passed.state.print?_intent m.state.pc i m.input
  change (m.intent i).print? = (i.printed? m.state.stack).map _ at hp
  rw [h] at hp
  generalize m.intent i = intent at hp
  cases intent with
  | print t next =>
    cases hp
    rfl
  | _ => cases hp

theorem output_finish (p : Program) (index : Nat) (a : Attempt) :
    (finish p index a).machine.output = a.machine.output := by
  rw [finish]
  split <;> rfl

theorem output_of_printed? (h : i.printed? m.state.stack = some text) :
    (m.attempt p i).machine.output = (m.output.write (Utf8.encode text)).2 := by
  have hf := m.passed.fulfil_fulfilled p m.state.pc (m.intent i)
  rw [attempt_eq, output_finish]
  rw [intent_of_printed? h] at hf ⊢
  generalize m.passed.fulfil p m.state.pc _ = a at hf
  cases hf with
  | printed _ _ ho => exact (congrArg Prod.snd ho).symm
  | unprinted _ _ ho => exact (congrArg Prod.snd ho).symm

theorem output_of_silent (h : i.printed? m.state.stack = none) :
    (m.attempt p i).machine.output = m.output := by
  have hne : ∀ text next, m.intent i ≠ .print text next := by
    intro text next hi
    rw [printed?_of_intent hi] at h
    cases h
  have hf := m.passed.fulfil_fulfilled p m.state.pc (m.intent i)
  rw [attempt_eq, output_finish]
  generalize m.intent i = intent at hf hne
  generalize m.passed.fulfil p m.state.pc intent = a at hf
  cases hf with
  | printed text next ho => exact absurd rfl (hne text next)
  | unprinted text next ho => exact absurd rfl (hne text next)
  | _ => rfl

/-- A print whose output fails has dropped its value by then, and is otherwise undone. -/
theorem attempt_of_write_fails {failure : StreamFailure}
    (h : i.printed? m.state.stack = some text)
    (hw : (m.output.write (Utf8.encode text)).1 = some failure) :
    m.attempt p i = ⟨{ m with
        state := { m.state with stack := m.state.stack.drop 1 }
        output := (m.output.write (Utf8.encode text)).2 }, some failure.fault⟩ := by
  rw [attempt_eq, intent_of_printed? h]
  have hf := m.passed.fulfil_fulfilled p m.state.pc
    (.print text { m.passed.state with stack := m.state.stack.drop 1 })
  generalize m.passed.fulfil p m.state.pc _ = a at hf
  cases hf with
  | printed _ _ ho =>
    change m.output.write (Utf8.encode text) = _ at ho
    rw [ho] at hw
    cases hw
  | unprinted _ _ ho =>
    change m.output.write (Utf8.encode text) = _ at ho
    rw [ho] at hw ⊢
    cases hw
    rfl

end Machine

/-! Reading. -/

namespace State

variable {i : Instruction}

theorem intent_congr_input (h : i.operation.reads = false) (s : State) (index : Nat)
    (input input' : Input) : s.intent index i input = s.intent index i input' := by
  rw [State.intent, State.intent]
  cases ho : i.operation with
  | readChar => simp [ho, Operation.reads] at h
  | readNum => simp [ho, Operation.reads] at h
  | _ => rfl

theorem intent_ne_take (h : i.operation.reads = false) (s : State) (index : Nat) (input : Input)
    (reading : Except Fault Value × Input) : s.intent index i input ≠ .take reading := by
  intro ht
  have hquiet := s.quiet_intent index i input h
  rw [ht] at hquiet
  cases ho : i.operation with
  | printChar =>
    simp only [State.intent, ho, Intent.printChar] at ht
    split at ht
    · cases ht
    · split at ht <;> cases ht
  | printNum =>
    simp only [State.intent, ho, Intent.printNum] at ht
    split at ht <;> cases ht
  | _ => exact hquiet (by rw [ho]; rfl)

end State

theorem Machine.attempt_input {p : Program} {i : Instruction} {m : Machine}
    (h : i.operation.reads = false) : (m.attempt p i).machine.input = m.input := by
  have hne := m.passed.state.intent_ne_take h m.state.pc m.input
  change ∀ reading, m.intent i ≠ .take reading at hne
  have hf := m.passed.fulfil_fulfilled p m.state.pc (m.intent i)
  have hinput : (m.passed.fulfil p m.state.pc (m.intent i)).machine.input = m.input := by
    generalize m.passed.fulfil p m.state.pc (m.intent i) = a at hf
    generalize m.intent i = intent at hf hne
    cases hf with
    | got v input => exact absurd rfl (hne _)
    | missed f input => exact absurd rfl (hne _)
    | _ => rfl
  rw [attempt_eq, finish]
  split <;> exact hinput

end Backstep
