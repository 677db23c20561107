import Backstep.Proofs.PlainRun
import Backstep.Proofs.Termination

/-! Code without jumps, run without a recording. One lemma for each way in which
an instruction ends says what it leaves to the code after it. -/
namespace Backstep

namespace Program

def ofCode (codes : List (Operation × Option Parameter)) : Program :=
  .ofList (codes.map fun code => ⟨code.1, code.2, {}⟩)

theorem code_ofCode (codes : List (Operation × Option Parameter)) : (ofCode codes).code = codes := by
  simp [ofCode, code, ofList, Instruction.code, Function.comp_def]

variable {p : Program} {k : Nat} {op : Operation} {a : Option Parameter}
  {rest : List (Operation × Option Parameter)}

theorem get?_of_code (h : p.code.drop k = (op, a) :: rest) :
    ∃ location, p.get? k = some ⟨op, a, location⟩ := by
  have hcode : p.code[k]? = some (op, a) := by
    rw [← List.head?_drop, h]
    rfl
  rw [code, List.getElem?_map, Option.map_eq_some_iff] at hcode
  obtain ⟨⟨op', a', location⟩, hi, hc⟩ := hcode
  cases hc
  rw [Array.getElem?_toList] at hi
  exact ⟨location, hi⟩

theorem size_of_code (h : p.code.drop k = (op, a) :: rest) : p.size = k + 1 + rest.length := by
  have hlength := congrArg List.length h
  simp only [code, List.length_drop, List.length_map, Array.length_toList, List.length_cons]
    at hlength
  change p.instructions.size = _
  omega

theorem code_drop_succ (h : p.code.drop k = (op, a) :: rest) : p.code.drop (k + 1) = rest := by
  rw [← List.drop_drop, h, List.drop_one, List.tail_cons]

theorem code_drop_add {codes : List (Operation × Option Parameter)}
    (h : p.code.drop k = codes ++ rest) : p.code.drop (k + codes.length) = rest := by
  rw [← List.drop_drop, h, List.drop_left]

end Program

theorem State.settle_of_lt {s : State} {size : Nat} (h : s.pc < size) (index : Nat) :
    s.settle size index = { s with last := some index } := by
  have hle : ¬ size ≤ s.pc := by omega
  simp only [settle, hle, and_false, if_false]

namespace Machine

/-- The machine `n` instructions further on, with another stack. -/
def onward (m : Machine) (n : Nat) (stack : OperandStack) : Machine :=
  { m with state := { m.state with
      stack, pc := m.state.pc + n, last := some (m.state.pc + n - 1) } }

theorem onward_onward (m : Machine) (n n' : Nat) (stack stack' : OperandStack) :
    (m.onward n stack).onward n' stack' = m.onward (n + n') stack' := by
  simp only [onward, Nat.add_assoc]

/-- The machine when a text was printed. -/
def wrote (m : Machine) (text : String) : Machine :=
  { m with
    output := { m.output with received := m.output.received ++ Utf8.encode text }
    transcript := m.transcript.print text }

variable {p : Program} {m : Machine} {i : Instruction} {stack : OperandStack}

theorem reliable_wrote (h : m.output.Reliable) (text : String) :
    (m.wrote text).output.Reliable := by
  have hwrite := h.write (Utf8.encode text)
  rw [h.write_eq] at hwrite
  exact hwrite

theorem intent_push (m : Machine) (n : Int) (location : Location) :
    m.intent ⟨.push, some (.number n), location⟩ =
      .change { m.passed.state with stack := m.state.stack.push n } := rfl

theorem attempt_of_change (hp : m.state.pc + 1 < p.size)
    (hi : m.intent i = .change { m.passed.state with stack }) :
    m.attempt p i = ⟨m.onward 1 stack, none⟩ := by
  rw [attempt_eq, hi]
  simp only [fulfil, finish]
  rw [State.settle_of_lt hp]
  rfl

theorem attempt_of_print {text : String} (hp : m.state.pc + 1 < p.size)
    (hi : m.intent i = .print text { m.passed.state with stack }) (ho : m.output.Reliable) :
    m.attempt p i = ⟨(m.onward 1 stack).wrote text, none⟩ := by
  have houtput : m.passed.output.write (Utf8.encode text) = _ := ho.write_eq (Utf8.encode text)
  rw [attempt_eq, hi]
  simp only [fulfil, emit, houtput, finish]
  rw [State.settle_of_lt hp]
  rfl

theorem attempt_of_take {v : Value} {input : Input} (hp : m.state.pc + 1 < p.size)
    (hi : m.intent i = .take (.ok v, input)) :
    m.attempt p i = ⟨{ m.onward 1 (m.state.stack.push v) with input }, none⟩ := by
  rw [attempt_eq, hi]
  simp only [fulfil, receive, finish]
  rw [State.settle_of_lt hp]
  rfl

theorem attempt_exit (p : Program) (m : Machine) (location : Location) :
    m.attempt p ⟨.exit, none, location⟩ = ⟨{ m with state := { m.state with
      pc := m.state.pc + 1, last := some m.state.pc, status := .halted .exit } }, none⟩ := rfl

theorem attempt_of_fail {f : Fault} (hi : m.intent i = .fail f) :
    m.attempt p i = ⟨m, some f⟩ := by
  rw [attempt_eq, hi]
  rfl

end Machine

namespace Session

variable {p : Program} {m m' : Machine} {op : Operation} {a : Option Parameter}
  {rest : List (Operation × Option Parameter)} {n : Nat} {result : Session × Ending}

theorem step_of_code (hs : m.state.status = .running)
    (hcode : p.code.drop m.state.pc = (op, a) :: rest)
    (ha : ∀ location, m.attempt p ⟨op, a, location⟩ = ⟨m', none⟩) :
    Session.step ⟨p, m, none⟩ = ⟨⟨p, m', none⟩, .ok m'.state.status⟩ := by
  obtain ⟨location, hg⟩ := Program.get?_of_code hcode
  exact step_of_attempt (s := ⟨p, m, none⟩) rfl hs hg (ha location)

theorem returns_of_attempt (hs : m.state.status = .running)
    (hcode : p.code.drop m.state.pc = (op, a) :: rest)
    (ha : ∀ location, m.attempt p ⟨op, a, location⟩ = ⟨m', none⟩)
    (h : Returns ⟨p, m', none⟩ n result) (hs' : m'.state.status = .running) :
    Returns ⟨p, m, none⟩ (n + 1) result := by
  have hstep := step_of_code hs hcode ha
  apply Returns.again
  · rw [hstep, hs']
  · rw [hstep]
    exact h

theorem returns_of_halt {reason : HaltReason} (hs : m.state.status = .running)
    (hcode : p.code.drop m.state.pc = (op, a) :: rest)
    (ha : ∀ location, m.attempt p ⟨op, a, location⟩ = ⟨m', none⟩)
    (hs' : m'.state.status = .halted reason) :
    Returns ⟨p, m, none⟩ 1 (⟨p, m', none⟩, .halted reason) := by
  have hstep := step_of_code hs hcode ha
  have hreturns : Returns ⟨p, m, none⟩ 1 _ := .halted (by rw [hstep, hs'])
  rw [hstep] at hreturns
  exact hreturns

theorem returns_of_fault {f : Fault} (hs : m.state.status = .running)
    (hcode : p.code.drop m.state.pc = (op, a) :: rest)
    (ha : ∀ location, m.attempt p ⟨op, a, location⟩ = ⟨m', some f⟩) :
    ∃ location, Returns ⟨p, m, none⟩ 1
      (⟨p, m', none⟩, .failed (.fault f ⟨m.state.pc, op, location⟩)) := by
  obtain ⟨location, hg⟩ := Program.get?_of_code hcode
  have hstep : Session.step ⟨p, m, none⟩ =
      ⟨⟨p, m', none⟩, .error (.fault f ⟨m.state.pc, op, location⟩)⟩ := by
    rw [step_of_unrecorded rfl, advance_of_present (s := ⟨p, m, none⟩) hs hg, ha location]
    rfl
  have hreturns : Returns ⟨p, m, none⟩ 1 _ := .failed (by rw [hstep])
  rw [hstep] at hreturns
  exact ⟨location, hreturns⟩

end Session
end Backstep
