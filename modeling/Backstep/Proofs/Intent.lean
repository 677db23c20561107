import Backstep.Machine.Execute

/-! What an instruction sets out to do depends on the state and on the unread
input only. Carrying it out brings in the label table, the output and the
transcript. `execute_eq` splits every instruction in this way, so that a
statement about instructions needs six cases and not one for each operation. -/
namespace Backstep

inductive Intent where
  | fail (cause : Fault)
  | change (next : State)
  | note (label : Label)
  | go (label : Label) (land : Nat → State)
  | print (text : String) (next : State)
  | take (reading : Except Fault Value × Input)

namespace Intent

def ofResult : Except Fault State → Intent
  | .ok next => .change next
  | .error f => .fail f

def withLabel (i : Instruction) (use : Label → Intent) : Intent :=
  match i.label with
  | .ok l => use l
  | .error f => .fail f

def branch (s : State) (l : Label) (taken : Value → Bool) : Intent :=
  match s.stack.pop with
  | .error f => .fail (.stack f)
  | .ok (top, stack) =>
    if taken top then .go l fun target => { s with stack, pc := target }
    else .change { s with stack }

def printChar (s : State) : Intent :=
  match s.stack.pop with
  | .error f => .fail (.stack f)
  | .ok (top, stack) =>
    match Value.character? top with
    | some c => .print (String.singleton c) { s with stack }
    | none => .fail (.notCharacter top)

def printNum (s : State) : Intent :=
  match s.stack.pop with
  | .error f => .fail (.stack f)
  | .ok (top, stack) => .print (Decimal.write top) { s with stack }

end Intent

namespace State

def intent (s : State) (index : Nat) (i : Instruction) (input : Input) : Intent :=
  match i.operation with
  | .push => .ofResult (i.number.map s.push)
  | .duplicate => .ofResult (s.withStack (s.stack.copy 0))
  | .duplicateN => .ofResult (i.number.bind fun n => s.withStack (s.stack.copy n))
  | .swap => .ofResult (s.withStack s.stack.swap)
  | .discard => .ofResult s.discard
  | .discardN => .ofResult (i.number.bind fun n => s.withStack (s.stack.slide n))
  | .add => .ofResult (s.combine fun a b => .ok (a + b))
  | .sub => .ofResult (s.combine fun a b => .ok (a - b))
  | .mul => .ofResult (s.combine fun a b => .ok (a * b))
  | .div => .ofResult (s.combine divide)
  | .mod => .ofResult (s.combine modulo)
  | .store => .ofResult s.store
  | .retrieve => .ofResult s.retrieve
  | .label => .withLabel i .note
  | .call => .withLabel i fun l => .go l (s.enter index l)
  | .jump => .withLabel i fun l => .go l fun target => { s with pc := target }
  | .jumpZero => .withLabel i fun l => .branch s l fun v => v = 0
  | .jumpNegative => .withLabel i fun l => .branch s l fun v => v < 0
  | .ret => .ofResult s.leave
  | .exit => .change s.exit
  | .printChar => .printChar s
  | .printNum => .printNum s
  | .readChar =>
    let (r, input) := input.readChar
    .take (r.map fun c => (c.toNat : Value), input)
  | .readNum => .take input.readNumber

end State

namespace Machine

def fulfil (p : Program) (index : Nat) (m : Machine) : Intent → Attempt
  | .fail f => m.fail f
  | .change next => ⟨{ m with state := next }, none⟩
  | .note l => ⟨{ m with labels := m.labels.record l index }, none⟩
  | .go l land => m.goto p l fun _ target => land target
  | .print text next => emit text { m with state := next }
  | .take reading => m.receive reading

theorem fulfil_ofResult (p : Program) (index : Nat) (m : Machine) (r : Except Fault State) :
    m.fulfil p index (.ofResult r) = m.commit r := by
  cases r <;> rfl

theorem fulfil_withLabel (p : Program) (index : Nat) (m : Machine) (i : Instruction)
    (use : Label → Intent) :
    m.fulfil p index (.withLabel i use) = m.withLabel i fun l => m.fulfil p index (use l) := by
  rw [Intent.withLabel, withLabel]
  cases i.label <;> rfl

theorem fulfil_branch (p : Program) (index : Nat) (m : Machine) (l : Label)
    (taken : Value → Bool) :
    m.fulfil p index (.branch m.state l taken) = m.branch p l taken := by
  rw [Intent.branch, branch]
  cases m.state.stack.pop with
  | error f => rfl
  | ok popped =>
    dsimp only
    split <;> rfl

theorem fulfil_printChar (p : Program) (index : Nat) (m : Machine) :
    m.fulfil p index (.printChar m.state) = m.printChar := by
  rw [Intent.printChar, printChar]
  cases m.state.stack.pop with
  | error f => rfl
  | ok popped =>
    obtain ⟨top, stack⟩ := popped
    dsimp only
    cases Value.character? top <;> rfl

theorem fulfil_printNum (p : Program) (index : Nat) (m : Machine) :
    m.fulfil p index (.printNum m.state) = m.printNum := by
  rw [Intent.printNum, printNum]
  cases m.state.stack.pop <;> rfl

theorem execute_eq (p : Program) (index : Nat) (i : Instruction) (m : Machine) :
    execute p index i m = m.fulfil p index (m.state.intent index i m.input) := by
  rw [execute, State.intent]
  cases i.operation <;>
    simp only [fulfil_ofResult, fulfil_withLabel, fulfil_branch, fulfil_printChar,
      fulfil_printNum] <;>
    rfl

end Machine

/-! Where control goes. Most instructions leave the program counter, the calls
and the status as they are; the others are named one by one. -/

def Fault.isUndefinedLabel : Fault → Bool
  | .undefinedLabel _ => true
  | _ => false

/-- The next instruction, the calls and the status are the same in both states. -/
structure State.Stays (s next : State) : Prop where
  pc : next.pc = s.pc
  calls : next.calls = s.calls
  status : next.status = s.status

/-- The instruction goes to label `l` when the operand stack is `stack`. -/
def Instruction.Seeks (i : Instruction) (stack : OperandStack) (l : Label) : Prop :=
  Parameter.label? i.parameter = some l ∧
    match i.operation with
    | .call | .jump => True
    | .jumpZero => ∃ v, stack.values.head? = some v ∧ v = 0
    | .jumpNegative => ∃ v, stack.values.head? = some v ∧ v < 0
    | _ => False

def State.Local (s : State) : Except Fault State → Prop
  | .ok next => s.Stays next
  | .error f => f.isUndefinedLabel = false

def Intent.Steers (s : State) (index : Nat) (i : Instruction) : Intent → Prop
  | .fail f => f.isUndefinedLabel = false
  | .change next =>
    s.Stays next ∨
      (i.operation = .ret ∧ ∃ frame, s.calls.pop? = some (frame, next.calls) ∧
        next.pc = frame.returnTo ∧ next.status = s.status) ∨
      i.operation = .exit ∧ next = s.exit
  | .note l => i.defines? = some l
  | .go l land =>
    i.Seeks s.stack l ∧ ∀ target,
      (land target).pc = target ∧ (land target).status = s.status ∧
        (i.operation ≠ .call ∧ (land target).calls = s.calls ∨
          i.operation = .call ∧ (land target).calls = s.calls.push ⟨index, s.pc, l⟩)
  | .print _ next => s.Stays next
  | .take reading => ∀ f, reading.1 = .error f → f.isUndefinedLabel = false

theorem OperandStack.pop_eq_ok {s rest : OperandStack} {v : Value} (h : s.pop = .ok (v, rest)) :
    s.values = v :: rest.values := by
  obtain ⟨chain, sound⟩ := s
  cases chain with
  | empty => simp [pop] at h
  | link a n next far =>
    simp only [pop, Except.ok.injEq, Prod.mk.injEq] at h
    obtain ⟨rfl, rfl⟩ := h
    rfl

theorem OperandStack.pop_eq_error {s : OperandStack} {f : StackFault} (h : s.pop = .error f) :
    s.values = [] := by
  obtain ⟨chain, sound⟩ := s
  cases chain with
  | empty => rfl
  | link a n next far => simp [pop] at h

theorem Instruction.label_eq_ok {i : Instruction} {l : Label} :
    i.label = .ok l ↔ Parameter.label? i.parameter = some l := by
  rw [Instruction.label]
  split <;> simp_all

theorem Instruction.number_error {i : Instruction} {f : Fault} (h : i.number = .error f) :
    f = .missingParameter := by
  rw [Instruction.number] at h
  split at h
  · cases h
  · cases h
    rfl

theorem Instruction.label_error {i : Instruction} {f : Fault} (h : i.label = .error f) :
    f = .missingParameter := by
  rw [Instruction.label] at h
  split at h
  · cases h
  · cases h
    rfl

namespace State

theorem local_withStack (s : State) (r : Except StackFault OperandStack) :
    s.Local (s.withStack r) := by
  cases r with
  | ok stack => exact ⟨rfl, rfl, rfl⟩
  | error f => rfl

theorem local_number {s : State} {i : Instruction} {use : Int → Except Fault State}
    (h : ∀ n, s.Local (use n)) : s.Local (i.number.bind use) := by
  cases hn : i.number with
  | ok n => exact h n
  | error f =>
    rw [Instruction.number_error hn]
    rfl

theorem local_combine {s : State} {f : Value → Value → Except Fault Value}
    (h : ∀ a b e, f a b = .error e → e.isUndefinedLabel = false) : s.Local (s.combine f) := by
  rw [combine]
  split
  · rfl
  · next left right stack _ =>
    cases hf : f left right with
    | ok v => exact ⟨rfl, rfl, rfl⟩
    | error e => exact h left right e hf

theorem divide_error {a b : Value} {e : Fault} (h : divide a b = .error e) :
    e.isUndefinedLabel = false := by
  rw [divide] at h
  split at h <;> cases h
  rfl

theorem modulo_error {a b : Value} {e : Fault} (h : modulo a b = .error e) :
    e.isUndefinedLabel = false := by
  rw [modulo] at h
  split at h <;> cases h
  rfl

theorem local_store (s : State) : s.Local s.store := by
  rw [store]
  split
  · rfl
  · exact ⟨rfl, rfl, rfl⟩

theorem local_retrieve (s : State) : s.Local s.retrieve := by
  rw [retrieve]
  split
  · rfl
  · split
    · exact ⟨rfl, rfl, rfl⟩
    · rfl

end State

/-! Reads fail for what the stream met, or for what stands on it. -/

namespace Input

variable {input : Input} {f : Fault}

theorem readChar_fault (h : input.readChar.1 = .error f) :
    f = input.ending.fault ∨ ∃ bytes, f = .invalidBytes bytes := by
  rw [readChar] at h
  split at h
  · cases h
    exact Or.inl rfl
  · dsimp only at h
    split at h
    · cases h
      exact Or.inl rfl
    · split at h <;> cases h
      exact Or.inr ⟨_, rfl⟩

theorem numberOfLine_fault {line : List UInt8} (h : numberOfLine line = .error f) :
    (∃ message, f = .stream message) ∨ ∃ text, f = .invalidNumber text := by
  rw [numberOfLine] at h
  split at h
  · cases h
    exact Or.inl ⟨_, rfl⟩
  · dsimp only at h
    split at h <;> cases h
    exact Or.inr ⟨_, rfl⟩

theorem readNumber_fault (h : input.readNumber.1 = .error f) :
    f = input.ending.fault ∨ (∃ message, f = .stream message) ∨
      ∃ text, f = .invalidNumber text := by
  rw [readNumber] at h
  split at h
  · exact Or.inr (numberOfLine_fault h)
  · dsimp only at h
    split at h
    · cases h
      exact Or.inl rfl
    · exact Or.inr (numberOfLine_fault h)

theorem readChar_error (h : input.readChar.1 = .error f) : f.isUndefinedLabel = false := by
  rcases readChar_fault h with rfl | ⟨bytes, rfl⟩
  · cases input.ending <;> rfl
  · rfl

theorem readNumber_error (h : input.readNumber.1 = .error f) : f.isUndefinedLabel = false := by
  rcases readNumber_fault h with rfl | ⟨message, rfl⟩ | ⟨text, rfl⟩
  · cases input.ending <;> rfl
  · rfl
  · rfl

end Input

namespace Intent

theorem steers_ofResult {s : State} {index : Nat} {i : Instruction} {r : Except Fault State}
    (h : s.Local r) : (ofResult r).Steers s index i := by
  cases r with
  | ok next => exact Or.inl h
  | error f => exact h

theorem steers_withLabel {s : State} {index : Nat} {i : Instruction} {use : Label → Intent}
    (h : ∀ l, Parameter.label? i.parameter = some l → (use l).Steers s index i) :
    (withLabel i use).Steers s index i := by
  rw [withLabel]
  split
  · next l hl => exact h l (Instruction.label_eq_ok.mp hl)
  · next f hf =>
    rw [Instruction.label_error hf]
    rfl

theorem steers_branch {s : State} {index : Nat} {i : Instruction} {l : Label}
    {taken : Value → Bool} (hc : i.operation ≠ .call)
    (h : ∀ v rest, s.stack.pop = .ok (v, rest) → taken v = true → i.Seeks s.stack l) :
    (branch s l taken).Steers s index i := by
  rw [branch]
  split
  · rfl
  · next v rest hp =>
    split
    · next ht => exact ⟨h v rest hp ht, fun target => ⟨rfl, rfl, Or.inl ⟨hc, rfl⟩⟩⟩
    · exact Or.inl ⟨rfl, rfl, rfl⟩

theorem steers_printChar (s : State) (index : Nat) (i : Instruction) :
    (printChar s).Steers s index i := by
  rw [printChar]
  split
  · rfl
  · split
    · exact ⟨rfl, rfl, rfl⟩
    · rfl

theorem steers_printNum (s : State) (index : Nat) (i : Instruction) :
    (printNum s).Steers s index i := by
  rw [printNum]
  split
  · rfl
  · exact ⟨rfl, rfl, rfl⟩

theorem steers_leave (s : State) (index : Nat) {i : Instruction} (ho : i.operation = .ret) :
    (ofResult s.leave).Steers s index i := by
  rw [State.leave]
  split
  · next frame calls hc => exact Or.inr (Or.inl ⟨ho, frame, hc, rfl, rfl⟩)
  · rfl

end Intent

theorem State.intent_steers (s : State) (index : Nat) (i : Instruction) (input : Input) :
    (s.intent index i input).Steers s index i := by
  rw [State.intent]
  cases ho : i.operation with
  | push =>
    apply Intent.steers_ofResult
    change s.Local (i.number.bind fun n => .ok (s.push n))
    exact State.local_number fun n => ⟨rfl, rfl, rfl⟩
  | duplicate => exact Intent.steers_ofResult (s.local_withStack _)
  | duplicateN => exact Intent.steers_ofResult (State.local_number fun n => s.local_withStack _)
  | swap => exact Intent.steers_ofResult (s.local_withStack _)
  | discard => exact Intent.steers_ofResult (s.local_withStack _)
  | discardN => exact Intent.steers_ofResult (State.local_number fun n => s.local_withStack _)
  | add => exact Intent.steers_ofResult (State.local_combine fun a b e h => nomatch h)
  | sub => exact Intent.steers_ofResult (State.local_combine fun a b e h => nomatch h)
  | mul => exact Intent.steers_ofResult (State.local_combine fun a b e h => nomatch h)
  | div => exact Intent.steers_ofResult (State.local_combine fun a b e => State.divide_error)
  | mod => exact Intent.steers_ofResult (State.local_combine fun a b e => State.modulo_error)
  | store => exact Intent.steers_ofResult s.local_store
  | retrieve => exact Intent.steers_ofResult s.local_retrieve
  | label =>
    apply Intent.steers_withLabel
    intro l hl
    simpa [Intent.Steers, Instruction.defines?, ho] using hl
  | call =>
    apply Intent.steers_withLabel
    intro l hl
    exact ⟨⟨hl, by simp [ho]⟩, fun target => ⟨rfl, rfl, Or.inr ⟨ho, rfl⟩⟩⟩
  | jump =>
    apply Intent.steers_withLabel
    intro l hl
    exact ⟨⟨hl, by simp [ho]⟩, fun target => ⟨rfl, rfl, Or.inl ⟨by simp [ho], rfl⟩⟩⟩
  | jumpZero =>
    apply Intent.steers_withLabel
    intro l hl
    apply Intent.steers_branch (by simp [ho])
    intro v rest hp ht
    exact ⟨hl, by simpa [ho, OperandStack.pop_eq_ok hp] using ht⟩
  | jumpNegative =>
    apply Intent.steers_withLabel
    intro l hl
    apply Intent.steers_branch (by simp [ho])
    intro v rest hp ht
    exact ⟨hl, by simpa [ho, OperandStack.pop_eq_ok hp] using ht⟩
  | ret => exact Intent.steers_leave s index ho
  | exit => exact Or.inr (Or.inr ⟨ho, rfl⟩)
  | printChar => exact Intent.steers_printChar s index i
  | printNum => exact Intent.steers_printNum s index i
  | readChar =>
    intro f (hf : input.readChar.1.map (fun c => (c.toNat : Value)) = .error f)
    cases hr : input.readChar.1 with
    | ok c =>
      rw [hr] at hf
      cases hf
    | error e =>
      rw [hr] at hf
      cases hf
      exact Input.readChar_error hr
  | readNum =>
    intro f hf
    exact Input.readNumber_error hf

theorem Intent.branch_of_head {s : State} {l : Label} {taken : Value → Bool} {v : Value}
    (hv : s.stack.values.head? = some v) (ht : taken v = true) :
    ∃ land, branch s l taken = .go l land := by
  rw [branch]
  split
  · next f hp =>
    rw [OperandStack.pop_eq_error hp] at hv
    cases hv
  · next top rest hp =>
    rw [OperandStack.pop_eq_ok hp] at hv
    cases hv
    exact ⟨_, if_pos ht⟩

theorem State.intent_of_seeks {s : State} {i : Instruction} {l : Label}
    (h : i.Seeks s.stack l) (index : Nat) (input : Input) :
    ∃ land, s.intent index i input = .go l land := by
  obtain ⟨hl, ho⟩ := h
  have hlabel := Instruction.label_eq_ok.mpr hl
  rw [State.intent]
  split at ho
  · next hop =>
    simp only [hop, Intent.withLabel, hlabel]
    exact ⟨_, rfl⟩
  · next hop =>
    simp only [hop, Intent.withLabel, hlabel]
    exact ⟨_, rfl⟩
  · next hop =>
    obtain ⟨v, hv, h0⟩ := ho
    simp only [hop, Intent.withLabel, hlabel]
    exact Intent.branch_of_head hv (decide_eq_true h0)
  · next hop =>
    obtain ⟨v, hv, hneg⟩ := ho
    simp only [hop, Intent.withLabel, hlabel]
    exact Intent.branch_of_head hv (decide_eq_true hneg)
  · exact ho.elim

end Backstep
