import Backstep.Proofs.RoundTrip
import Backstep.Proofs.StraightLine

/-! Expressions as programs. The code of an expression leaves whatever is on the
stack alone and puts the value of the expression on it; where a divisor is zero
it stops, and the operands that were waiting are on the stack. -/
namespace Backstep

inductive Expression.Operator where
  | add
  | sub
  | mul
  | div
  | mod
  deriving DecidableEq

inductive Expression where
  | literal (n : Int)
  | node (op : Expression.Operator) (left right : Expression)
  deriving DecidableEq

namespace Expression

def Operator.operation : Operator → Operation
  | .add => .add
  | .sub => .sub
  | .mul => .mul
  | .div => .div
  | .mod => .mod

/-- Division rounds down, and a remainder has the sign of the divisor. Neither takes a zero. -/
def Operator.result? : Operator → Int → Int → Option Int
  | .add, a, b => some (a + b)
  | .sub, a, b => some (a - b)
  | .mul, a, b => some (a * b)
  | .div, a, b => if b = 0 then none else some (a.fdiv b)
  | .mod, a, b => if b = 0 then none else some (a.fmod b)

def value? : Expression → Option Int
  | literal n => some n
  | node op left right => left.value?.bind fun a => right.value?.bind fun b => op.result? a b

/-- The operands first, the left one before the right one. -/
def code : Expression → List (Operation × Option Parameter)
  | literal n => [(.push, some (.number n))]
  | node op left right => left.code ++ right.code ++ [(op.operation, none)]

/-- Evaluates the expression, prints the value and exits. -/
def program (e : Expression) : Program :=
  .ofCode (e.code ++ [(.printNum, none), (.exit, none)])

/-- The last instruction of a part has index `k`, and the operands in `waiting` are evaluated by
then but not used, from the outside in. -/
inductive At : Expression → Nat → List Expression → Expression → Prop
  | here (e : Expression) : At e (e.code.length - 1) [] e
  | left {op : Operator} {l r part : Expression} {k : Nat} {waiting : List Expression} :
      At l k waiting part → At (node op l r) k waiting part
  | right {op : Operator} {l r part : Expression} {k : Nat} {waiting : List Expression} :
      At r k waiting part → At (node op l r) (l.code.length + k) (l :: waiting) part

/-- A division or remainder at index `k` whose divisor has the value zero. -/
def DividesByZero (e : Expression) (k : Nat) (waiting : List Expression) (l r : Expression) : Prop :=
  ∃ op, e.At k waiting (node op l r) ∧ (op = .div ∨ op = .mod) ∧ r.value? = some 0

/-- Evaluation stops at index `k`, with these values put on the stack. -/
inductive Stops : Expression → Nat → List Int → Prop
  | here {op : Operator} {l r : Expression} {a : Int} : op = .div ∨ op = .mod →
      l.value? = some a → r.value? = some 0 →
      Stops (node op l r) (l.code.length + r.code.length) [a, 0]
  | left {op : Operator} {l r : Expression} {k : Nat} {vs : List Int} :
      Stops l k vs → Stops (node op l r) k vs
  | right {op : Operator} {l r : Expression} {k : Nat} {a : Int} {vs : List Int} :
      l.value? = some a → Stops r k vs → Stops (node op l r) (l.code.length + k) (a :: vs)

variable {e l r part : Expression} {op : Operator} {k : Nat} {waiting : List Expression}

theorem length_code_node (op : Operator) (l r : Expression) :
    (node op l r).code.length = l.code.length + r.code.length + 1 := by
  simp only [code, List.length_append, List.length_singleton]

theorem code_length_pos (e : Expression) : 0 < e.code.length := by
  cases e with
  | literal n => exact Nat.zero_lt_one
  | node op l r =>
    rw [length_code_node]
    omega

theorem At.lt_length (h : e.At k waiting part) : k < e.code.length := by
  induction h with
  | here e =>
    have hpos := e.code_length_pos
    omega
  | left _ ih =>
    rw [length_code_node]
    omega
  | right _ ih =>
    rw [length_code_node]
    omega

theorem value?_node_eq_some {v : Int} (h : (node op l r).value? = some v) :
    ∃ a b, l.value? = some a ∧ r.value? = some b ∧ op.result? a b = some v := by
  rw [value?, Option.bind_eq_some_iff] at h
  obtain ⟨a, ha, h⟩ := h
  obtain ⟨b, hb, h⟩ := Option.bind_eq_some_iff.mp h
  exact ⟨a, b, ha, hb, h⟩

theorem Operator.result?_eq_none {a b : Int} :
    op.result? a b = none ↔ (op = .div ∨ op = .mod) ∧ b = 0 := by
  cases op <;> simp [result?]

theorem DividesByZero.value?_eq_none (h : e.DividesByZero k waiting l r) : e.value? = none := by
  obtain ⟨op, hat, hop, hr⟩ := h
  generalize hpart : node op l r = part at hat
  induction hat with
  | here e =>
    rw [← hpart, value?, hr]
    cases l.value? with
    | none => rfl
    | some a => exact Operator.result?_eq_none.mpr ⟨hop, rfl⟩
  | left _ ih => rw [value?, ih hpart, Option.bind_none]
  | @right op' l' r' part k waiting _ ih =>
    rw [value?, ih hpart]
    cases l'.value? <;> rfl

/-! The first division by zero. -/

theorem exists_stops (h : e.value? = none) : ∃ k vs, e.Stops k vs := by
  induction e with
  | literal n => cases h
  | node op l r ihl ihr =>
    cases hl : l.value? with
    | none =>
      obtain ⟨k, vs, hstops⟩ := ihl hl
      exact ⟨k, vs, .left hstops⟩
    | some a =>
      cases hr : r.value? with
      | none =>
        obtain ⟨k, vs, hstops⟩ := ihr hr
        exact ⟨_, _, .right hl hstops⟩
      | some b =>
        rw [value?, hl, hr] at h
        obtain ⟨hop, rfl⟩ := Operator.result?_eq_none.mp h
        exact ⟨_, _, .here hop hl hr⟩

theorem DividesByZero.here (hop : op = .div ∨ op = .mod) (hr : r.value? = some 0) :
    (node op l r).DividesByZero (l.code.length + r.code.length) [] l r := by
  have hat := At.here (node op l r)
  rw [length_code_node] at hat
  exact ⟨op, hat, hop, hr⟩

theorem DividesByZero.left {a b : Expression} (h : l.DividesByZero k waiting a b) :
    (node op l r).DividesByZero k waiting a b := by
  obtain ⟨op', hat, hop, hb⟩ := h
  exact ⟨op', .left hat, hop, hb⟩

theorem DividesByZero.right {a b : Expression} (h : r.DividesByZero k waiting a b) :
    (node op l r).DividesByZero (l.code.length + k) (l :: waiting) a b := by
  obtain ⟨op', hat, hop, hb⟩ := h
  exact ⟨op', .right hat, hop, hb⟩

theorem DividesByZero.node_cases {a b : Expression}
    (h : (node op l r).DividesByZero k waiting a b) :
    k = l.code.length + r.code.length ∨ l.DividesByZero k waiting a b ∨
      ∃ k' waiting', k = l.code.length + k' ∧ r.DividesByZero k' waiting' a b := by
  obtain ⟨op', hat, hop, hb⟩ := h
  cases hat with
  | here =>
    left
    rw [length_code_node]
    omega
  | left hat => exact Or.inr (Or.inl ⟨op', hat, hop, hb⟩)
  | right hat => exact Or.inr (Or.inr ⟨_, _, rfl, op', hat, hop, hb⟩)

theorem not_dividesByZero {v : Int} (h : e.value? = some v) :
    ¬ e.DividesByZero k waiting l r := by
  intro hz
  rw [hz.value?_eq_none] at h
  cases h

theorem DividesByZero.lt_length (h : e.DividesByZero k waiting l r) : k < e.code.length := by
  obtain ⟨op, hat, -⟩ := h
  exact hat.lt_length

theorem Stops.dividesByZero {vs : List Int} (h : e.Stops k vs) :
    ∃ waiting l r ws a, e.DividesByZero k waiting l r ∧ waiting.map value? = ws.map some ∧
      l.value? = some a ∧ vs = ws ++ [a, 0] := by
  induction h with
  | here hop hl hr => exact ⟨[], _, _, [], _, .here hop hr, rfl, hl, rfl⟩
  | left _ ih =>
    obtain ⟨waiting, l, r, ws, a, hz, hws, hl, hvs⟩ := ih
    exact ⟨waiting, l, r, ws, a, hz.left, hws, hl, hvs⟩
  | @right op l r k a vs hl _ ih =>
    obtain ⟨waiting, l', r', ws, a', hz, hws, hl', hvs⟩ := ih
    refine ⟨l :: waiting, l', r', a :: ws, a', hz.right, ?_, hl', ?_⟩
    · rw [List.map_cons, List.map_cons, hl, hws]
    · rw [hvs, List.cons_append]

theorem Stops.first {vs : List Int} (h : e.Stops k vs) {k' : Nat} (hk : k' < k) :
    ¬ e.DividesByZero k' waiting l r := by
  intro hz
  induction h generalizing k' waiting with
  | here hop hl hr =>
    rcases hz.node_cases with hlast | hz | ⟨k'', waiting', -, hz⟩
    · omega
    · exact not_dividesByZero hl hz
    · exact not_dividesByZero hr hz
  | left hstops ih =>
    obtain ⟨waiting', l', r', -, -, hlater, -⟩ := hstops.dividesByZero
    have hlt := hlater.lt_length
    rcases hz.node_cases with hlast | hz | ⟨k'', waiting'', rfl, -⟩
    · omega
    · exact ih hk hz
    · omega
  | right hl hstops ih =>
    obtain ⟨waiting', l', r', -, -, hlater, -⟩ := hstops.dividesByZero
    have hlt := hlater.lt_length
    rcases hz.node_cases with hlast | hz | ⟨k'', waiting'', rfl, hz'⟩
    · omega
    · exact not_dividesByZero hl hz
    · exact ih (by omega) hz'

/-! Running the code. -/

section Run

open Session (Returns)

variable {p : Program} {m : Machine} {rest : List (Operation × Option Parameter)} {n : Nat}
  {result : Session × Session.Ending}

theorem intent_operation (m : Machine) (op : Operator) (location : Location)
    {stack : OperandStack} {a b : Int} (h : m.state.stack = (stack.push a).push b) :
    m.intent ⟨op.operation, none, location⟩ =
      match op.result? a b with
      | some v => .change { m.passed.state with stack := stack.push v }
      | none => .fail .divisionByZero := by
  have hpair : m.passed.state.stack.popPair = .ok ((a, b), stack) := by
    change m.state.stack.popPair = _
    rw [h, OperandStack.popPair_push_push]
  cases op <;>
    simp only [Machine.intent, State.intent, Operator.operation, State.combine, hpair,
      State.divide, State.modulo, Operator.result?] <;>
    first
    | rfl
    | split <;> rfl

/-- Where the code of a node stands, that of its parts follows one after the other. -/
theorem code_drop_node (h : p.code.drop k = (node op l r).code ++ rest) :
    p.code.drop k = l.code ++ (r.code ++ (op.operation, none) :: rest) ∧
      p.code.drop (k + l.code.length) = r.code ++ (op.operation, none) :: rest ∧
      p.code.drop (k + (l.code.length + r.code.length)) = (op.operation, none) :: rest := by
  rw [code, List.append_assoc, List.append_assoc, List.singleton_append] at h
  have hright := Program.code_drop_add h
  have hlast := Program.code_drop_add hright
  rw [Nat.add_assoc] at hlast
  exact ⟨h, hright, hlast⟩

/-- The code of an expression puts its value on the stack and goes on behind itself. -/
theorem returns_code {v : Int} (hv : e.value? = some v) (hs : m.state.status = .running)
    (hcode : p.code.drop m.state.pc = e.code ++ rest) (hrest : rest ≠ [])
    (h : Returns ⟨p, m.onward e.code.length (m.state.stack.push v), none⟩ n result) :
    Returns ⟨p, m, none⟩ (n + e.code.length) result := by
  induction e generalizing m rest n v with
  | literal k =>
    cases hv
    change p.code.drop m.state.pc = (.push, some (.number k)) :: rest at hcode
    have hsize := Program.size_of_code hcode
    have hpos := List.length_pos_iff.mpr hrest
    refine Session.returns_of_attempt hs hcode ?_ h hs
    intro location
    exact Machine.attempt_of_change (by omega) (m.intent_push k location)
  | node op l r ihl ihr =>
    obtain ⟨a, b, hl, hr, hop⟩ := value?_node_eq_some hv
    obtain ⟨hleft, hright, hlast⟩ := code_drop_node hcode
    have hsize := Program.size_of_code hlast
    have hpos := List.length_pos_iff.mpr hrest
    have hcount : n + (node op l r).code.length = n + 1 + r.code.length + l.code.length := by
      rw [length_code_node]
      omega
    rw [hcount]
    apply ihl hl hs hleft (by simp)
    apply ihr hr (m := m.onward _ _) hs hright (by simp)
    rw [Machine.onward_onward]
    rw [length_code_node, ← Machine.onward_onward m _ 1 ((m.state.stack.push a).push b)] at h
    refine Session.returns_of_attempt hs hlast ?_ h hs
    intro location
    refine Machine.attempt_of_change ?_ ?_
    · change m.state.pc + (l.code.length + r.code.length) + 1 < p.size
      omega
    · rw [intent_operation _ op location rfl, hop]

theorem Stops.returns {vs : List Int} (h : e.Stops k vs) (hs : m.state.status = .running)
    (hcode : p.code.drop m.state.pc = e.code ++ rest) :
    ∃ op location stack, stack.upward = m.state.stack.upward ++ vs ∧
      Returns ⟨p, m, none⟩ (k + 1) (⟨p, m.onward k stack, none⟩,
        .failed (.fault .divisionByZero ⟨m.state.pc + k, op, location⟩)) := by
  induction h generalizing m rest with
  | @here op l r a hop hl hr =>
    let stack := m.state.stack
    obtain ⟨hleft, hright, hlast⟩ := code_drop_node hcode
    have hattempt : ∀ m : Machine, m.state.stack = (stack.push a).push 0 → ∀ location,
        m.attempt p ⟨op.operation, none, location⟩ = ⟨m, some .divisionByZero⟩ := by
      intro m hm location
      apply Machine.attempt_of_fail
      rw [intent_operation m op location hm, Operator.result?_eq_none.mpr ⟨hop, rfl⟩]
    obtain ⟨location, hreturns⟩ := Session.returns_of_fault
      (m := m.onward (l.code.length + r.code.length) ((stack.push a).push 0)) hs hlast
      (hattempt _ rfl)
    refine ⟨op.operation, location, (stack.push a).push 0, by simp [stack], ?_⟩
    have hcount : l.code.length + r.code.length + 1 = 1 + r.code.length + l.code.length := by
      omega
    rw [hcount]
    apply returns_code hl hs hleft (by simp)
    apply returns_code hr (m := m.onward _ _) hs hright (by simp)
    rw [Machine.onward_onward]
    exact hreturns
  | left hstops ih =>
    obtain ⟨hleft, -⟩ := code_drop_node hcode
    exact ih hs hleft
  | @right op l r k a vs hl hstops ih =>
    obtain ⟨hleft, hright, -⟩ := code_drop_node hcode
    obtain ⟨op', location, stack, hstack, hreturns⟩ :=
      ih (m := m.onward l.code.length (m.state.stack.push a)) hs hright
    refine ⟨op', location, stack, ?_, ?_⟩
    · rw [hstack]
      simp [Machine.onward]
    · have hcount : l.code.length + k + 1 = k + 1 + l.code.length := by omega
      rw [hcount]
      apply returns_code hl hs hleft (by simp)
      rw [Machine.onward_onward] at hreturns
      rw [← Nat.add_assoc]
      exact hreturns

end Run

theorem code_program (e : Expression) :
    e.program.code = e.code ++ [(.printNum, none), (.exit, none)] :=
  Program.code_ofCode _

theorem wellFormed_of_mem_code {c : Operation × Option Parameter} (h : c ∈ e.code) :
    (Instruction.mk c.1 c.2 {}).WellFormed := by
  induction e with
  | literal n =>
    obtain rfl := List.mem_singleton.mp h
    exact ⟨n, rfl⟩
  | node op l r ihl ihr =>
    rw [code, List.mem_append, List.mem_append, List.mem_singleton] at h
    rcases h with (h | h) | rfl
    · exact ihl h
    · exact ihr h
    · cases op <;> exact rfl

theorem read_source (e : Expression) :
    ∃ q, Program.read e.program.source = .ok q ∧ q.code = e.program.code := by
  apply Program.read_source
  intro i hi
  rw [program, Program.ofCode, Program.ofList, List.mem_toArray, List.mem_map] at hi
  obtain ⟨c, hc, rfl⟩ := hi
  rcases List.mem_append.mp hc with hc | hc
  · exact wellFormed_of_mem_code hc
  · simp only [List.mem_cons, List.not_mem_nil, or_false] at hc
    rcases hc with rfl | rfl <;> exact rfl

theorem returns_program {v : Int} (hv : e.value? = some v) {q : Program}
    (hq : q.code = e.program.code) (input : Input) {output : Output} (ho : output.Reliable) :
    ∃ t, (Session.plain q input output).Returns (e.code.length + 2) (t, .halted .exit) ∧
      t.machine.output =
        { output with received := output.received ++ Utf8.encode (toString v) } ∧
      t.machine.transcript.shown = toString v ∧ t.state.stack.values = [] := by
  rw [code_program] at hq
  let evaluated : Machine := Machine.onward { input, output } e.code.length (.push {} v)
  let printed : Machine := (evaluated.onward 1 {}).wrote (Decimal.write v)
  have hcode₁ : q.code.drop evaluated.state.pc = (.printNum, none) :: [(.exit, none)] :=
    Program.code_drop_add (k := 0) hq
  have hcode₂ : q.code.drop printed.state.pc = (.exit, none) :: [] :=
    Program.code_drop_succ hcode₁
  have hsize := Program.size_of_code hcode₁
  have hprint : ∀ location, evaluated.attempt q ⟨.printNum, none, location⟩ = ⟨printed, none⟩ := by
    intro location
    have hintent : evaluated.intent ⟨.printNum, none, location⟩ =
        .print (Decimal.write v) { evaluated.passed.state with stack := {} } := rfl
    refine Machine.attempt_of_print ?_ hintent ho
    rw [hsize, List.length_singleton]
    omega
  have hexit := Session.returns_of_halt rfl hcode₂ (Machine.attempt_exit q printed) rfl
  have hreturns := returns_code (m := { input, output }) hv rfl hq (List.cons_ne_nil _ _)
    (Session.returns_of_attempt rfl hcode₁ hprint hexit rfl)
  rw [Nat.add_comm] at hreturns
  refine ⟨_, hreturns, ?_, ?_, rfl⟩
  · rw [← Decimal.write_eq_toString]
    rfl
  · rw [← Decimal.write_eq_toString]
    exact String.empty_append

end Expression

/-- The source of an expression is read as its program. If the expression has a value the program
prints it in decimal and exits with an empty stack. It has none if and only if some divisor has the
value zero; then the first such division fails, nothing is printed, and the stack holds the
operands that were waiting, the dividend and the zero. -/
theorem expressions_evaluate (e : Expression) :
    ∃ q, Program.read e.program.source = .ok q ∧ q.code = e.program.code ∧
      (∀ v, e.value? = some v → ∀ input output, Output.Reliable output →
        ∃ t, (∀ fuel ≥ e.code.length + 2,
            Session.run fuel (.plain q input output) = (t, .halted .exit)) ∧
          t.machine.output =
            { output with received := output.received ++ Utf8.encode (toString v) } ∧
          t.machine.transcript.shown = toString v ∧ t.state.stack.values = []) ∧
      (e.value? = none ↔ ∃ k waiting l r, e.DividesByZero k waiting l r) ∧
      ((∃ k waiting l r, e.DividesByZero k waiting l r) →
        ∃ k waiting l r, e.DividesByZero k waiting l r ∧
          (∀ k' < k, ∀ waiting l r, ¬ e.DividesByZero k' waiting l r) ∧
          ∃ ws a, waiting.map Expression.value? = ws.map some ∧ l.value? = some a ∧
            ∀ input output, ∃ t site,
              (∀ fuel ≥ k + 1, Session.run fuel (.plain q input output) =
                (t, .failed (.fault .divisionByZero site))) ∧
              site.index = k ∧ t.machine.output = output ∧ t.machine.transcript = {} ∧
              t.state.stack.upward = ws ++ [a, 0]) := by
  obtain ⟨q, hread, hq⟩ := e.read_source
  have hnone : e.value? = none ↔ ∃ k waiting l r, e.DividesByZero k waiting l r := by
    constructor
    · intro hv
      obtain ⟨k, vs, hstops⟩ := Expression.exists_stops hv
      obtain ⟨waiting, l, r, ws, a, hz, -⟩ := hstops.dividesByZero
      exact ⟨k, waiting, l, r, hz⟩
    · rintro ⟨k, waiting, l, r, hz⟩
      exact hz.value?_eq_none
  refine ⟨q, hread, hq, ?_, hnone, ?_⟩
  · intro v hv input output ho
    obtain ⟨t, hreturns, hprinted⟩ := Expression.returns_program hv hq input ho
    exact ⟨t, fun fuel hfuel => hreturns.run_eq hfuel, hprinted⟩
  · intro hz
    obtain ⟨k, vs, hstops⟩ := Expression.exists_stops (hnone.mpr hz)
    obtain ⟨waiting, l, r, ws, a, hfirst, hws, hl, rfl⟩ := hstops.dividesByZero
    refine ⟨k, waiting, l, r, hfirst, fun k' hk _ _ _ => hstops.first hk, ws, a, hws, hl, ?_⟩
    intro input output
    rw [Expression.code_program] at hq
    obtain ⟨op, location, stack, hstack, hreturns⟩ :=
      hstops.returns (m := { input, output }) rfl hq
    refine ⟨_, _, fun fuel hfuel => hreturns.run_eq hfuel, ?_, rfl, rfl, ?_⟩
    · exact Nat.zero_add k
    · exact hstack

example : Expression.value? (.node .div (.literal 7) (.node .sub (.literal 0) (.literal 2))) =
    some (-4) := by decide

end Backstep
