import Backstep.Proofs.Bounds

/-! Instructions within range. Every instruction is written with the checked
operations: a value is taken from the stack only where it was looked at, a
divisor is not zero, and the bytes of a character stay in a room of four. It
sets out to do, and does, what the library's instruction does. -/
namespace Backstep

open Checked

/-! What an instruction sets out to do. -/

@[simp] theorem OperandStack.peek?_push (s : OperandStack) (v : Value) :
    (s.push v).peek? = some v := rfl

namespace Utf8

/-- The room for the bytes of one character, with the first byte in it. -/
def room (lead : UInt8) : List UInt8 :=
  [lead, 0, 0, 0]

theorem width_le (lead : UInt8) : width lead ≤ 4 := by
  unfold width
  repeat' split
  all_goals decide

end Utf8

namespace State

/-- A quotient or remainder, which a divisor of zero does not have. -/
def nonzero? (f : Value → Value → Value) (left right : Value) : Option Value :=
  if right = 0 then none else some (f left right)

def checkedCombine (f : Value → Value → Option Value) (s : State) : Option (Except Fault State) :=
  if s.stack.depth < 2 then some (.error (.stack (.underflow 2 s.stack.depth)))
  else
    s.stack.take?.bind fun (right, below) => below.take?.bind fun (left, stack) =>
      (f left right).map fun v => .ok { s with stack := stack.push v }

def checkedDivide (f : Value → Value → Value) (s : State) : Option (Except Fault State) :=
  if 2 ≤ s.stack.depth ∧ s.stack.peek? = some 0 then some (.error .divisionByZero)
  else s.checkedCombine (nonzero? f)

def checkedStore (s : State) : Option (Except Fault State) :=
  s.stack.checkedPopPair.map fun
    | .error e => .error (.stack e)
    | .ok ((address, value), stack) => .ok { s with stack, heap := s.heap.store address value }

def checkedRetrieve (s : State) : Option (Except Fault State) :=
  match s.stack.peek? with
  | none => some (.error (.stack (.underflow 1 0)))
  | some address =>
    match s.heap.retrieve? address with
    | none => some (.error (.undefinedAddress address))
    | some v => s.stack.take?.map fun (_, stack) => .ok { s with stack := stack.push v }

theorem checkedCombine_eq (f : Value → Value → Value) (s : State) :
    s.checkedCombine (fun a b => some (f a b)) = some (s.combine fun a b => .ok (f a b)) := by
  obtain ⟨stack, heap, calls, pc, last, status⟩ := s
  rcases stack.empty_or_push with rfl | ⟨below, right, rfl⟩
  · rfl
  · rcases below.empty_or_push with rfl | ⟨rest, left, rfl⟩
    · rfl
    · simp [checkedCombine, combine, Except.map]

theorem checkedDivide_eq (f : Value → Value → Value) (s : State) :
    s.checkedDivide f =
      some (s.combine fun a b => if b = 0 then .error .divisionByZero else .ok (f a b)) := by
  obtain ⟨stack, heap, calls, pc, last, status⟩ := s
  rcases stack.empty_or_push with rfl | ⟨below, right, rfl⟩
  · rfl
  · rcases below.empty_or_push with rfl | ⟨rest, left, rfl⟩
    · rfl
    · by_cases hzero : right = 0
      · simp [checkedDivide, combine, Except.map, hzero]
      · simp [checkedDivide, checkedCombine, nonzero?, combine, Except.map, hzero]

theorem checkedStore_eq (s : State) : s.checkedStore = some s.store := by
  rw [checkedStore, OperandStack.checkedPopPair_eq, Option.map_some]
  unfold store
  cases s.stack.popPair <;> rfl

theorem checkedRetrieve_eq (s : State) : s.checkedRetrieve = some s.retrieve := by
  obtain ⟨stack, heap, calls, pc, last, status⟩ := s
  rcases stack.empty_or_push with rfl | ⟨rest, address, rfl⟩
  · rfl
  · simp only [checkedRetrieve, retrieve, OperandStack.peek?_push, OperandStack.pop_push,
      OperandStack.take?_push, Option.map_some]
    cases heap.retrieve? address <;> rfl

end State

namespace Input

def checkedReadChar (i : Input) : Option (Except Fault Char × Input) :=
  match i.bytes with
  | [] => some (.error i.ending.fault, i)
  | lead :: after =>
    let width := Utf8.width lead
    (slice? 1 width (Utf8.room lead)).bind fun empty =>
      let rest := { i with bytes := after.drop empty.length }
      if after.length < empty.length then some (.error i.ending.fault, rest)
      else
        let filled := lead :: after.take empty.length ++ (Utf8.room lead).drop width
        (slice? 0 width filled).map fun taken =>
          match Utf8.decodeChar? taken with
          | some c => (.ok c, rest)
          | none => (.error (.invalidBytes taken), rest)


theorem checkedReadChar_eq (i : Input) : i.checkedReadChar = some i.readChar := by
  obtain ⟨bytes, ending⟩ := i
  cases bytes with
  | nil => rfl
  | cons lead after =>
    have hle := Utf8.width_le lead
    obtain ⟨n, hn⟩ := Nat.exists_eq_succ_of_ne_zero (Nat.ne_of_gt (Utf8.width_pos lead))
    rw [hn] at hle
    have hempty : slice? 1 (n + 1) (Utf8.room lead) = some (List.replicate n 0) := by
      have hsmall : n = 0 ∨ n = 1 ∨ n = 2 ∨ n = 3 := by omega
      rcases hsmall with rfl | rfl | rfl | rfl <;> rfl
    simp only [checkedReadChar, readChar, hn, Nat.succ_eq_add_one, hempty, Option.bind_some,
      List.length_replicate, List.take_succ_cons, List.drop_succ_cons, List.length_cons,
      List.length_take]
    -- the stream ends within the character, or its bytes fill the room
    by_cases hfew : after.length < n
    · rw [if_pos hfew, if_pos (by omega)]
    · have hlength : (lead :: after.take n).length = n + 1 := by
        rw [List.length_cons, List.length_take, Nat.min_eq_left (Nat.le_of_not_lt hfew)]
      have hfilled := slice?_append (lead :: after.take n) ((Utf8.room lead).drop (n + 1))
      rw [hlength] at hfilled
      rw [if_neg hfew, if_neg (by omega), hfilled]
      rfl

end Input

namespace Intent

def checkedNumber (i : Instruction) (use : Value → Option (Except Fault State)) : Option Intent :=
  match i.number with
  | .ok n => (use n).map ofResult
  | .error f => some (.fail f)

def checkedLabel (i : Instruction) (use : Label → Option Intent) : Option Intent :=
  match i.label with
  | .ok l => use l
  | .error f => some (.fail f)

def checkedBranch (s : State) (l : Label) (taken : Value → Bool) : Option Intent :=
  match s.stack.peek? with
  | none => some (.fail (.stack (.underflow 1 0)))
  | some top =>
    s.stack.take?.map fun (_, stack) =>
      if taken top then .go l fun target => { s with stack, pc := target }
      else .change { s with stack }

def checkedPrintChar (s : State) : Option Intent :=
  match s.stack.peek? with
  | none => some (.fail (.stack (.underflow 1 0)))
  | some top =>
    match Value.character? top with
    | none => some (.fail (.notCharacter top))
    | some c =>
      s.stack.take?.bind fun (_, stack) => (slice? 0 c.utf8Size (Utf8.room 0)).map fun _ =>
        .print (String.singleton c) { s with stack }

def checkedPrintNum (s : State) : Option Intent :=
  s.stack.checkedPop.map fun
    | .error f => .fail (.stack f)
    | .ok (top, stack) => .print (Decimal.write top) { s with stack }

theorem checkedNumber_eq (i : Instruction) {use : Value → Option (Except Fault State)}
    {effect : Value → Except Fault State} (h : ∀ n, use n = some (effect n)) :
    checkedNumber i use = some (ofResult (i.number.bind effect)) := by
  rw [checkedNumber]
  cases i.number with
  | error f => rfl
  | ok n =>
    dsimp only
    rw [h]
    rfl

theorem checkedLabel_eq (i : Instruction) {use : Label → Option Intent} {intent : Label → Intent}
    (h : ∀ l, use l = some (intent l)) : checkedLabel i use = some (withLabel i intent) := by
  rw [checkedLabel, withLabel]
  cases i.label with
  | error f => rfl
  | ok l => exact h l

theorem checkedBranch_eq (s : State) (l : Label) (taken : Value → Bool) :
    checkedBranch s l taken = some (branch s l taken) := by
  obtain ⟨stack, heap, calls, pc, last, status⟩ := s
  rcases stack.empty_or_push with rfl | ⟨rest, top, rfl⟩
  · rfl
  · simp only [checkedBranch, branch, OperandStack.peek?_push, OperandStack.pop_push,
      OperandStack.take?_push, Option.map_some]

theorem checkedPrintChar_eq (s : State) : checkedPrintChar s = some (printChar s) := by
  obtain ⟨stack, heap, calls, pc, last, status⟩ := s
  rcases stack.empty_or_push with rfl | ⟨rest, top, rfl⟩
  · rfl
  · simp only [checkedPrintChar, printChar, OperandStack.peek?_push, OperandStack.pop_push,
      OperandStack.take?_push, Option.bind_some]
    cases Value.character? top with
    | none => rfl
    | some c =>
      have hroom : c.utf8Size ≤ (Utf8.room 0).length := c.utf8Size_le_four
      dsimp only
      rw [slice?, if_pos ⟨Nat.zero_le _, hroom⟩]
      rfl

theorem checkedPrintNum_eq (s : State) : checkedPrintNum s = some (printNum s) := by
  rw [checkedPrintNum, OperandStack.checkedPop_eq, Option.map_some]
  unfold printNum
  cases s.stack.pop <;> rfl

end Intent

namespace State

def checkedIntent (s : State) (index : Nat) (i : Instruction) (input : Input) : Option Intent :=
  match i.operation with
  | .push => Intent.checkedNumber i fun n => some (.ok (s.push n))
  | .duplicate => (s.stack.checkedCopy 0).map fun r => .ofResult (s.withStack r)
  | .duplicateN => Intent.checkedNumber i fun n => (s.stack.checkedCopy n).map s.withStack
  | .swap => s.stack.checkedSwap.map fun r => .ofResult (s.withStack r)
  | .discard => s.stack.checkedPop.map fun r => .ofResult (s.withStack (r.map Prod.snd))
  | .discardN => Intent.checkedNumber i fun n => (s.stack.checkedSlide n).map s.withStack
  | .add => (s.checkedCombine fun a b => some (a + b)).map .ofResult
  | .sub => (s.checkedCombine fun a b => some (a - b)).map .ofResult
  | .mul => (s.checkedCombine fun a b => some (a * b)).map .ofResult
  | .div => (s.checkedDivide Int.fdiv).map .ofResult
  | .mod => (s.checkedDivide Int.fmod).map .ofResult
  | .store => s.checkedStore.map .ofResult
  | .retrieve => s.checkedRetrieve.map .ofResult
  | .label => Intent.checkedLabel i fun l => some (.note l)
  | .call => Intent.checkedLabel i fun l => some (.go l (s.enter index l))
  | .jump => Intent.checkedLabel i fun l => some (.go l fun target => { s with pc := target })
  | .jumpZero => Intent.checkedLabel i fun l => Intent.checkedBranch s l fun v => v = 0
  | .jumpNegative => Intent.checkedLabel i fun l => Intent.checkedBranch s l fun v => v < 0
  | .ret => some (.ofResult s.leave)
  | .exit => some (.change s.exit)
  | .printChar => Intent.checkedPrintChar s
  | .printNum => Intent.checkedPrintNum s
  | .readChar => input.checkedReadChar.map fun (r, input) =>
      .take (r.map fun c => (c.toNat : Value), input)
  | .readNum => some (.take input.readNumber)

theorem checkedIntent_eq (s : State) (index : Nat) (i : Instruction) (input : Input) :
    s.checkedIntent index i input = some (s.intent index i input) := by
  rw [checkedIntent, intent]
  cases i.operation with
  | push => exact Intent.checkedNumber_eq i fun n => rfl
  | duplicate => exact congrArg (Option.map _) (s.stack.checkedCopy_eq 0)
  | duplicateN =>
    exact Intent.checkedNumber_eq i fun n =>
      congrArg (Option.map s.withStack) (s.stack.checkedCopy_eq n)
  | swap => exact congrArg (Option.map _) s.stack.checkedSwap_eq
  | discard => exact congrArg (Option.map _) s.stack.checkedPop_eq
  | discardN =>
    exact Intent.checkedNumber_eq i fun n =>
      congrArg (Option.map s.withStack) (s.stack.checkedSlide_eq n)
  | add => exact congrArg (Option.map Intent.ofResult) (s.checkedCombine_eq (· + ·))
  | sub => exact congrArg (Option.map Intent.ofResult) (s.checkedCombine_eq (· - ·))
  | mul => exact congrArg (Option.map Intent.ofResult) (s.checkedCombine_eq (· * ·))
  | div => exact congrArg (Option.map Intent.ofResult) (s.checkedDivide_eq Int.fdiv)
  | mod => exact congrArg (Option.map Intent.ofResult) (s.checkedDivide_eq Int.fmod)
  | store => exact congrArg (Option.map Intent.ofResult) s.checkedStore_eq
  | retrieve => exact congrArg (Option.map Intent.ofResult) s.checkedRetrieve_eq
  | label => exact Intent.checkedLabel_eq i fun l => rfl
  | call => exact Intent.checkedLabel_eq i fun l => rfl
  | jump => exact Intent.checkedLabel_eq i fun l => rfl
  | jumpZero => exact Intent.checkedLabel_eq i fun l => Intent.checkedBranch_eq s l _
  | jumpNegative => exact Intent.checkedLabel_eq i fun l => Intent.checkedBranch_eq s l _
  | ret => rfl
  | exit => rfl
  | printChar => exact Intent.checkedPrintChar_eq s
  | printNum => exact Intent.checkedPrintNum_eq s
  | readChar => exact congrArg (Option.map _) input.checkedReadChar_eq
  | readNum => rfl

end State

/-! The machine. -/

namespace Machine

def checkedFulfil (p : Program) (index : Nat) (m : Machine) : Intent → Option Attempt
  | .print text next =>
    match m.output.write (Utf8.encode text) with
    | (none, output) =>
      (m.transcript.checkedPrint text).map fun transcript =>
        ⟨{ m with state := next, output, transcript }, none⟩
    | (some failure, output) => some ⟨{ m with state := next, output }, some failure.fault⟩
  | intent => some (m.fulfil p index intent)

def checkedAttempt (p : Program) (i : Instruction) (m : Machine) : Option Attempt :=
  (m.passed.state.checkedIntent m.state.pc i m.input).bind fun intent =>
    (m.passed.checkedFulfil p m.state.pc intent).map (finish p m.state.pc)

theorem checkedFulfil_eq (p : Program) (index : Nat) (m : Machine) (intent : Intent) :
    m.checkedFulfil p index intent = some (m.fulfil p index intent) := by
  cases intent with
  | print text next =>
    rw [checkedFulfil, fulfil, emit]
    rcases m.output.write (Utf8.encode text) with ⟨_ | failure, output⟩
    · dsimp only
      rw [Transcript.checkedPrint_eq]
      rfl
    · rfl
  | _ => rfl

theorem checkedAttempt_eq (p : Program) (i : Instruction) (m : Machine) :
    m.checkedAttempt p i = some (m.attempt p i) := by
  rw [checkedAttempt, State.checkedIntent_eq, Option.bind_some, checkedFulfil_eq, Option.map_some,
    attempt_eq]
  rfl

end Machine

end Backstep
