import Backstep.Proofs.Effects
import Backstep.Proofs.Encoding
import Backstep.Proofs.StraightLine

/-! Printed data reads back. A run is looked at through the prints and the reads
it attempts; what else it executes touches neither stream. So the bytes that
were received are known from the prints, and the values that are pushed are known
from the bytes and the kinds of the reads. -/
namespace Backstep

/-- A character, or a number on a line of its own. -/
inductive Item where
  | letter (c : Char)
  | number (n : Int)
  deriving DecidableEq

namespace Item

def value : Item → Value
  | letter c => c.toNat
  | number n => n

def text : Item → String
  | letter c => String.singleton c
  | number n => toString n ++ "\n"

/-- The instructions that print the item, with the values they take from the stack. -/
def prints : Item → List (Operation × Value)
  | letter c => [(.printChar, c.toNat)]
  | number n => [(.printNum, n), (.printChar, 10)]

/-- The instruction that reads the item. -/
def reading : Item → Operation
  | letter _ => .readChar
  | number _ => .readNum

def bytes (items : List Item) : List UInt8 :=
  items.flatMap fun item => Utf8.encode item.text

/-- Code that pushes a value and prints it. -/
def printCode (print : Operation × Value) : List (Operation × Option Parameter) :=
  [(.push, some (.number print.2)), (print.1, none)]

def printer (items : List Item) : Program :=
  .ofCode ((items.flatMap prints).flatMap printCode ++ [(.exit, none)])

def reader (items : List Item) : Program :=
  .ofCode (items.map (fun item => (item.reading, none)) ++ [(.exit, none)])

end Item

namespace Session

variable {s : Session} {i : Instruction}

/-- The print that a step attempts, with the value that it takes. -/
def print? (s : Session) : Option (Operation × Value) :=
  s.current?.bind fun i =>
    if i.operation.prints then s.state.stack.values.head?.map fun v => (i.operation, v) else none

/-- The read that a step attempts. -/
def read? (s : Session) : Option Operation :=
  s.current?.bind fun i => if i.operation.reads then some i.operation else none

/-- The value that a successful step put on the stack, if it did that. -/
def pushed? (s : Session) : Option Value :=
  match s.step with
  | ⟨_, .error _⟩ => none
  | ⟨t, .ok _⟩ =>
    match t.state.stack.values with
    | [] => none
    | v :: below => if below = s.state.stack.values then some v else none

/-- The prints that the first `n` steps attempt. -/
def prints (s : Session) : Nat → List (Operation × Value)
  | 0 => []
  | n + 1 => s.prints n ++ (s.after n).print?.toList

/-- The reads that the first `n` steps attempt, with the values that they push. -/
def reads (s : Session) : Nat → List (Operation × Option Value)
  | 0 => []
  | n + 1 => s.reads n ++ (s.after n).read?.toList.map fun op => (op, (s.after n).pushed?)

/-! Reading. -/

theorem input_step_of_other (h : s.recording = none) (hn : s.read? = none) :
    s.step.session.machine.input = s.machine.input := by
  cases hc : s.current? with
  | some i =>
    rw [session_step_of_current h hc]
    apply Machine.attempt_input
    simpa [read?, hc] using hn
  | none =>
    obtain ⟨status, hs⟩ := session_step_of_idle h hc
    rw [hs]
    rfl

theorem step_of_take {v : Value} {input : Input} (h : s.recording = none)
    (hc : s.current? = some i) (hi : s.machine.intent i = .take (.ok v, input)) :
    s.pushed? = some v ∧ s.step.session.machine.input = input := by
  obtain ⟨hs, hg⟩ := current?_eq_some.mp hc
  have ha : s.machine.attempt s.program i = ⟨{ s.machine with
      input, state := (s.machine.passed.state.push v).settle s.program.size s.state.pc }, none⟩ := by
    rw [Machine.attempt_eq, hi]
    rfl
  have hstep := step_of_attempt h hs hg ha
  constructor
  · simp only [pushed?, hstep]
    exact if_pos rfl
  · rw [hstep]
    rfl

theorem intent_of_reading {m : Machine} {item : Item} {rest : List UInt8} {ending : Input.Ending}
    (ho : i.operation = item.reading) (h : m.input = ⟨Utf8.encode item.text ++ rest, ending⟩) :
    m.intent i = .take (.ok item.value, ⟨rest, ending⟩) := by
  rw [Machine.intent, State.intent, ho, h]
  cases item with
  | letter c =>
    simp only [Item.reading, Item.text, Input.readChar_encode]
    rfl
  | number n =>
    simp only [Item.reading, Item.text, Input.readNumber_encode]
    rfl

/-- Reads of the right kinds push the items and take their bytes. -/
theorem reads_of_bytes (h : s.recording = none) {items : List Item} {n : Nat} {rest : List UInt8}
    {ending : Input.Ending} (hkinds : (s.reads n).map Prod.fst = items.map Item.reading)
    (hinput : s.machine.input = ⟨Item.bytes items ++ rest, ending⟩) :
    s.reads n = items.map (fun item => (item.reading, some item.value)) ∧
      (s.after n).machine.input = ⟨rest, ending⟩ := by
  induction n generalizing items rest with
  | zero =>
    obtain rfl : items = [] := List.map_eq_nil_iff.mp hkinds.symm
    exact ⟨rfl, hinput⟩
  | succ n ih =>
    have hplain := recording_after h n
    simp only [reads] at hkinds ⊢
    cases hr : (s.after n).read? with
    | none =>
      simp only [hr, Option.toList_none, List.map_nil, List.append_nil] at hkinds ⊢
      obtain ⟨hreads, hafter⟩ := ih hkinds hinput
      refine ⟨hreads, ?_⟩
      rw [after, input_step_of_other hplain hr, hafter]
    | some op =>
      simp only [hr, Option.toList_some, List.map_cons, List.map_nil, List.map_append] at hkinds ⊢
      obtain ⟨before, last, rfl, hbefore, hlast⟩ := List.map_eq_append_iff.mp hkinds.symm
      obtain ⟨item, rfl, hop⟩ := List.map_eq_singleton_iff.mp hlast
      have hbytes : Item.bytes (before ++ [item]) ++ rest =
          Item.bytes before ++ (Utf8.encode item.text ++ rest) := by
        simp [Item.bytes]
      rw [hbytes] at hinput
      obtain ⟨hreads, hafter⟩ := ih hbefore.symm hinput
      obtain ⟨i, hc, hi⟩ := Option.bind_eq_some_iff.mp hr
      have ho : i.operation = item.reading := by
        split at hi
        · rw [hop]
          exact Option.some.inj hi
        · cases hi
      obtain ⟨hpushed, hnext⟩ := step_of_take hplain hc (intent_of_reading ho hafter)
      refine ⟨?_, hnext⟩
      rw [hreads, hpushed, List.map_append, ← hop]
      rfl

theorem step_of_read_at_end (h : s.Fires i) (ho : i.operation.reads = true)
    (hinput : s.machine.input = ⟨[], .ended⟩) :
    s.step.result = .error (.fault .endOfInput (siteOf s.state.pc i)) := by
  have hi : s.machine.intent i = .take (.error .endOfInput, ⟨[], .ended⟩) := by
    rw [Machine.intent, State.intent, hinput]
    cases hop : i.operation with
    | readChar => rfl
    | readNum => rfl
    | _ => simp [hop, Operation.reads] at ho
  have ha : (s.machine.attempt s.program i).fault = some .endOfInput := by
    rw [Machine.attempt_eq, hi]
    rfl
  rw [step_of_fault h ha]

/-! Printing. -/

/-- The bytes that a print gives the output. A value that is no character gives none. -/
def printBytes (print : Operation × Value) : List UInt8 :=
  ((print.1.printed? print.2).map Utf8.encode).getD []

theorem flatMap_printBytes (items : List Item) :
    (items.flatMap Item.prints).flatMap printBytes = Item.bytes items := by
  have hitem : ∀ item : Item, item.prints.flatMap printBytes = Utf8.encode item.text := by
    intro item
    cases item with
    | letter c => simp [Item.prints, printBytes, Item.text, Operation.printed?_printChar]
    | number n =>
      have hfeed : Operation.printed? .printChar 10 = some "\n" := rfl
      have hnumeral : Operation.printed? .printNum n = some (toString n) := rfl
      simp [Item.prints, printBytes, Item.text, hfeed, hnumeral, Utf8.encode_append]
  rw [List.flatMap_assoc, Item.bytes]
  exact congrArg (fun f => items.flatMap f) (funext hitem)

theorem print?_of_current (hc : s.current? = some i) :
    s.print?.toList.flatMap printBytes =
      ((i.printed? s.state.stack).map Utf8.encode).getD [] := by
  rw [print?, hc, Option.bind_some, Instruction.printed?]
  cases s.state.stack.values.head? with
  | none => cases i.operation <;> rfl
  | some v => cases ho : i.operation <;> simp [Operation.prints, printBytes, Operation.printed?]

theorem received_step (h : s.recording = none) (ho : s.machine.output.Reliable) :
    s.step.session.machine.output.Reliable ∧
      s.step.session.machine.output.received.toList =
        s.machine.output.received.toList ++ s.print?.toList.flatMap printBytes := by
  cases hc : s.current? with
  | none =>
    obtain ⟨status, hs⟩ := session_step_of_idle h hc
    rw [hs, print?, hc]
    exact ⟨ho, (List.append_nil _).symm⟩
  | some i =>
    rw [session_step_of_current h hc, print?_of_current hc, withMachine]
    cases hp : i.printed? s.state.stack with
    | none =>
      rw [Machine.output_of_silent hp]
      exact ⟨ho, (List.append_nil _).symm⟩
    | some text =>
      rw [Machine.output_of_printed? hp]
      refine ⟨ho.write _, ?_⟩
      rw [ho.write_eq]
      simp

theorem received_after (h : s.recording = none) (ho : s.machine.output.Reliable) (n : Nat) :
    (s.after n).machine.output.Reliable ∧
      (s.after n).machine.output.received.toList =
        s.machine.output.received.toList ++ (s.prints n).flatMap printBytes := by
  induction n with
  | zero => exact ⟨ho, (List.append_nil _).symm⟩
  | succ n ih =>
    obtain ⟨hreliable, hreceived⟩ := received_step (recording_after h n) ih.1
    refine ⟨hreliable, ?_⟩
    rw [after, hreceived, ih.2, prints, List.flatMap_append, List.append_assoc]

/-! Programs that do nothing else. -/

theorem prints_succ (s : Session) (n : Nat) :
    s.prints (n + 1) = s.print?.toList ++ s.step.session.prints n := by
  induction n with
  | zero => simp only [prints, after, List.nil_append, List.append_nil]
  | succ n ih => rw [prints, ih, prints, after_succ, List.append_assoc]

theorem reads_succ (s : Session) (n : Nat) :
    s.reads (n + 1) = (s.read?.toList.map fun op => (op, s.pushed?)) ++ s.step.session.reads n := by
  induction n with
  | zero => simp only [reads, after, List.nil_append, List.append_nil]
  | succ n ih => rw [reads, ih, reads, after_succ, List.append_assoc]

section Code

variable {p : Program} {m : Machine} {op : Operation} {a : Option Parameter}
  {rest : List (Operation × Option Parameter)}

theorem current?_of_code (hs : m.state.status = .running)
    (hcode : p.code.drop m.state.pc = (op, a) :: rest) :
    ∃ location, Session.current? ⟨p, m, none⟩ = some ⟨op, a, location⟩ := by
  obtain ⟨location, hg⟩ := Program.get?_of_code hcode
  exact ⟨location, current?_eq_some.mpr ⟨hs, hg⟩⟩

theorem read?_of_code (hs : m.state.status = .running)
    (hcode : p.code.drop m.state.pc = (op, a) :: rest) (ho : op.reads = true) :
    Session.read? ⟨p, m, none⟩ = some op := by
  obtain ⟨location, hc⟩ := current?_of_code hs hcode
  rw [read?, hc, Option.bind_some, if_pos ho]

/-- Code that only reads attempts all its reads. -/
theorem reads_of_code {items : List Item} {bytes : List UInt8} {ending : Input.Ending}
    (hs : m.state.status = .running) (hinput : m.input = ⟨Item.bytes items ++ bytes, ending⟩)
    (hcode : p.code.drop m.state.pc = items.map (fun item => (item.reading, none)) ++ rest)
    (hrest : rest ≠ []) :
    (Session.reads ⟨p, m, none⟩ items.length).map Prod.fst = items.map Item.reading := by
  induction items generalizing m with
  | nil => rfl
  | cons item items ih =>
    have hread := read?_of_code hs hcode (by cases item <;> rfl)
    have hsize := Program.size_of_code hcode
    have hbytes : Item.bytes (item :: items) ++ bytes =
        Utf8.encode item.text ++ (Item.bytes items ++ bytes) := by
      simp [Item.bytes]
    rw [hbytes] at hinput
    have hpc : m.state.pc + 1 < p.size := by
      have hpos := List.length_pos_iff.mpr hrest
      rw [List.append_eq, List.length_append] at hsize
      omega
    have hstep := step_of_code hs hcode fun location =>
      Machine.attempt_of_take hpc (intent_of_reading rfl hinput)
    have hnext := ih (m := { m.onward 1 (m.state.stack.push item.value) with input := _ }) hs rfl
      (Program.code_drop_succ hcode)
    rw [List.length_cons, reads_succ, hread, hstep]
    simp only [Option.toList_some, List.map_cons, List.map_nil, List.singleton_append]
    rw [hnext]

/-- A print that has a text to print, whatever is below its value. -/
def Printable (print : Operation × Value) : Prop :=
  print.1.prints = true ∧ ∃ text, ∀ (stack : OperandStack) (location : Location),
    (Instruction.mk print.1 none location).printed? (stack.push print.2) = some text

theorem printable_of_mem {items : List Item} {print : Operation × Value}
    (h : print ∈ items.flatMap Item.prints) : Printable print := by
  obtain ⟨item, -, h⟩ := List.mem_flatMap.mp h
  cases item with
  | letter c =>
    obtain rfl := List.mem_singleton.mp h
    refine ⟨rfl, String.singleton c, fun stack location => ?_⟩
    simp [Instruction.printed?, Operation.printed?_printChar]
  | number n =>
    rcases List.mem_cons.mp h with rfl | h
    · exact ⟨rfl, toString n, fun stack location => rfl⟩
    · obtain rfl := List.mem_singleton.mp h
      exact ⟨rfl, "\n", fun stack location => rfl⟩

theorem print?_of_code (hs : m.state.status = .running)
    (hcode : p.code.drop m.state.pc = (op, a) :: rest) :
    Session.print? ⟨p, m, none⟩ =
      if op.prints then m.state.stack.values.head?.map fun v => (op, v) else none := by
  obtain ⟨location, hc⟩ := current?_of_code hs hcode
  rw [print?, hc]
  rfl

/-- Code that only prints attempts all its prints. -/
theorem prints_of_code {prints : List (Operation × Value)}
    (hprintable : ∀ print ∈ prints, Printable print) (hs : m.state.status = .running)
    (ho : m.output.Reliable)
    (hcode : p.code.drop m.state.pc = prints.flatMap Item.printCode ++ rest) (hrest : rest ≠ []) :
    Session.prints ⟨p, m, none⟩ (2 * prints.length) = prints := by
  induction prints generalizing m with
  | nil => rfl
  | cons print prints ih =>
    obtain ⟨op, v⟩ := print
    obtain ⟨hop, text, htext⟩ := hprintable (op, v) List.mem_cons_self
    have hcode₁ : p.code.drop m.state.pc =
        (.push, some (.number v)) :: (op, none) :: (prints.flatMap Item.printCode ++ rest) := hcode
    have hcode₂ := Program.code_drop_succ hcode₁
    have hpc : m.state.pc + 1 + 1 < p.size := by
      have hsize := Program.size_of_code hcode₂
      have hpos := List.length_pos_iff.mpr hrest
      rw [List.length_append] at hsize
      omega
    let pushed := m.onward 1 (m.state.stack.push v)
    have hpush := step_of_code hs hcode₁ fun location =>
      Machine.attempt_of_change (by omega) (m.intent_push v location)
    have hprint := step_of_code (m := pushed) hs hcode₂ fun location =>
      Machine.attempt_of_print hpc (Machine.intent_of_printed? (htext _ location)) ho
    have hnext := ih (fun print h => hprintable print (List.mem_cons_of_mem _ h))
      (m := (pushed.onward 1 (pushed.state.stack.drop 1)).wrote text) hs
      (Machine.reliable_wrote ho text) (Program.code_drop_succ hcode₂)
    have hcount : 2 * (prints.length + 1) = 2 * prints.length + 1 + 1 := by omega
    rw [List.length_cons, hcount, prints_succ, print?_of_code hs hcode₁, hpush, prints_succ,
      print?_of_code (m := pushed) hs hcode₂, hprint, hnext, if_pos hop]
    rfl

end Code

/-- The first `n` steps print the items and nothing else, and give the output these bytes. -/
structure Gives (s : Session) (items : List Item) (n : Nat) (bytes : List UInt8) : Prop where
  recording : s.recording = none
  reliable : s.machine.output.Reliable
  prints : s.prints n = items.flatMap Item.prints
  received : (s.after n).machine.output.received.toList =
    s.machine.output.received.toList ++ bytes

/-- The first `k` steps attempt a read for each item, from an input of these bytes. -/
structure Takes (r : Session) (items : List Item) (k : Nat) (bytes : List UInt8) : Prop where
  recording : r.recording = none
  input : r.machine.input = ⟨bytes, .ended⟩
  kinds : (r.reads k).map Prod.fst = items.map Item.reading

theorem Gives.bytes_eq {items : List Item} {n : Nat} {bytes : List UInt8}
    (h : s.Gives items n bytes) : bytes = Item.bytes items := by
  obtain ⟨-, hreceived⟩ := received_after h.recording h.reliable n
  rw [h.received, h.prints, flatMap_printBytes] at hreceived
  exact List.append_cancel_left hreceived

theorem gives_printer (items : List Item) (input : Input) {output : Output}
    (ho : output.Reliable) :
    ∃ n bytes, (plain (Item.printer items) input output).Gives items n bytes := by
  have hcode : (Item.printer items).code =
      (items.flatMap Item.prints).flatMap Item.printCode ++ [(.exit, none)] :=
    Program.code_ofCode _
  have hprints := prints_of_code (m := { input, output }) (fun _ h => printable_of_mem h) rfl ho
    hcode (List.cons_ne_nil _ _)
  obtain ⟨-, hreceived⟩ := received_after (s := plain (Item.printer items) input output) rfl ho _
  exact ⟨_, _, rfl, ho, hprints, hreceived⟩

theorem takes_reader (items : List Item) (output : Output) :
    ∃ k, (plain (Item.reader items) ⟨Item.bytes items, .ended⟩ output).Takes items k
      (Item.bytes items) := by
  have hcode : (Item.reader items).code =
      items.map (fun item => (item.reading, none)) ++ [(.exit, none)] :=
    Program.code_ofCode _
  have hinput : (⟨Item.bytes items, .ended⟩ : Input) = ⟨Item.bytes items ++ [], .ended⟩ := by
    rw [List.append_nil]
  have hkinds := reads_of_code (m := { input := ⟨Item.bytes items, .ended⟩, output }) rfl hinput
    hcode (List.cons_ne_nil _ _)
  exact ⟨_, rfl, rfl, hkinds⟩

end Session

/-- There are programs that print the items and programs that read them. Whichever they are and
whatever else they execute: the reads push the values that were printed and take all the bytes
that were received, and one more read meets the end of the input. -/
theorem printed_data_reads_back (items : List Item) :
    (∀ input output, Output.Reliable output →
      ∃ n bytes, (Session.plain (Item.printer items) input output).Gives items n bytes) ∧
    ∀ (s : Session) (n : Nat) (bytes : List UInt8), s.Gives items n bytes →
      (∀ output, ∃ k,
        (Session.plain (Item.reader items) ⟨bytes, .ended⟩ output).Takes items k bytes) ∧
      ∀ (r : Session) (k : Nat), r.Takes items k bytes →
        r.reads k = items.map (fun item => (item.reading, some item.value)) ∧
        (r.after k).machine.input = ⟨[], .ended⟩ ∧
        ∀ i, (r.after k).Fires i → i.operation.reads = true →
          (r.after k).step.result =
            .error (.fault .endOfInput (Session.siteOf (r.after k).state.pc i)) := by
  refine ⟨fun input output => Session.gives_printer items input, fun s n bytes hs => ?_⟩
  obtain rfl := hs.bytes_eq
  refine ⟨Session.takes_reader items, fun r k hr => ?_⟩
  have hinput : r.machine.input = ⟨Item.bytes items ++ [], .ended⟩ := by
    rw [hr.input, List.append_nil]
  obtain ⟨hpushed, hend⟩ := Session.reads_of_bytes hr.recording hr.kinds hinput
  exact ⟨hpushed, hend, fun i hi hop => Session.step_of_read_at_end hi hop hend⟩

end Backstep
