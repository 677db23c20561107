import Backstep.Proofs.Comments
import Backstep.Proofs.FilledTable

/-! A label is a name and nothing else. With other names for its labels a program
runs as before, and the new names show up only where a label is shown: in the
frames of calls and in the fault of a label that is not defined. Two labels must
not get the same name, or a look-up could find what it did not find before. -/
namespace Backstep

variable (f : Label → Label)

def Parameter.rename : Parameter → Parameter
  | .number n => .number n
  | .label l => .label (f l)

def Instruction.rename (i : Instruction) : Instruction :=
  { i with parameter := i.parameter.map (Parameter.rename f) }

def Program.rename (p : Program) : Program :=
  ⟨p.instructions.map (Instruction.rename f)⟩

def Frame.rename (frame : Frame) : Frame :=
  { frame with label := f frame.label }

def CallStack.rename (calls : CallStack) : CallStack :=
  ⟨calls.frames.map (Frame.rename f)⟩

def State.rename (s : State) : State :=
  { s with calls := s.calls.rename f }

def Snapshot.rename (s : Snapshot) : Snapshot :=
  { s with state := s.state.rename f }

def Recording.rename (r : Recording) : Recording :=
  { r with log := { r.log with snapshots := r.log.snapshots.map (Snapshot.rename f) } }

def Fault.rename : Fault → Fault
  | .undefinedLabel l => .undefinedLabel (f l)
  | other => other

def RunError.rename : RunError → RunError
  | .fault cause site => .fault (cause.rename f) site
  | other => other

/-! What is looked up. -/

theorem Parameter.number?_rename (a : Option Parameter) :
    number? (a.map (rename f)) = number? a := by
  rcases a with _ | _ | _ <;> rfl

theorem Parameter.label?_rename (a : Option Parameter) :
    label? (a.map (rename f)) = (label? a).map f := by
  rcases a with _ | _ | _ <;> rfl

theorem Instruction.number_rename (i : Instruction) : (i.rename f).number = i.number := by
  have h : Parameter.number? (i.rename f).parameter = Parameter.number? i.parameter :=
    Parameter.number?_rename f i.parameter
  simp only [number, h]

theorem Instruction.label_rename (i : Instruction) : (i.rename f).label = i.label.map f := by
  have h : Parameter.label? (i.rename f).parameter = (Parameter.label? i.parameter).map f :=
    Parameter.label?_rename f i.parameter
  simp only [label, h]
  cases Parameter.label? i.parameter <;> rfl

theorem Instruction.defines?_rename (i : Instruction) :
    (i.rename f).defines? = i.defines?.map f := by
  by_cases h : i.operation = .label
  · simp only [defines?, rename, h, if_true, Parameter.label?_rename]
  · simp only [defines?, rename, h, if_false, Option.map_none]

namespace Program

variable (p : Program)

theorem size_rename : (p.rename f).size = p.size :=
  Array.size_map

theorem get?_rename (index : Nat) : (p.rename f).get? index = (p.get? index).map (·.rename f) :=
  Array.getElem?_map

variable {f}

theorem firstDefinition?_rename (hf : Function.Injective f) (l : Label) :
    (p.rename f).firstDefinition? (f l) = p.firstDefinition? l := by
  have hlist : (p.rename f).instructions.toList =
      p.instructions.toList.map (Instruction.rename f) := Array.toList_map
  rw [firstDefinition?, firstDefinition?, hlist, List.findIdx?_map]
  congr 1
  funext i
  have hsome : some (f l) = (some l).map f := rfl
  simp only [Function.comp_apply, Instruction.defines?_rename, hsome,
    (Option.map_injective hf).eq_iff]

end Program

/-! What is intended. -/

theorem Fault.rename_of_defined {cause : Fault} (h : cause.isUndefinedLabel = false) :
    cause.rename f = cause := by
  cases cause with
  | undefinedLabel l => cases h
  | _ => rfl

namespace Intent

def rename : Intent → Intent
  | .fail cause => .fail (cause.rename f)
  | .change next => .change (next.rename f)
  | .note l => .note (f l)
  | .go l land => .go (f l) fun target => (land target).rename f
  | .print text next => .print text (next.rename f)
  | .take reading => .take reading

variable (s : State)

theorem rename_withStack (r : Except StackFault OperandStack) :
    ofResult ((s.rename f).withStack r) = (ofResult (s.withStack r)).rename f := by
  cases r <;> rfl

theorem rename_combine {use : Value → Value → Except Fault Value}
    (h : ∀ a b e, use a b = .error e → e.isUndefinedLabel = false) :
    ofResult ((s.rename f).combine use) = (ofResult (s.combine use)).rename f := by
  have hstack : (s.rename f).stack = s.stack := rfl
  rw [State.combine, State.combine, hstack]
  cases s.stack.popPair with
  | error e => rfl
  | ok popped =>
    obtain ⟨⟨left, right⟩, rest⟩ := popped
    dsimp only
    cases hu : use left right with
    | ok v => rfl
    | error e =>
      have he := Fault.rename_of_defined f (h left right e hu)
      simp only [Except.map, ofResult, rename, he]

theorem rename_store : ofResult (s.rename f).store = (ofResult s.store).rename f := by
  have hstack : (s.rename f).stack = s.stack := rfl
  rw [State.store, State.store, hstack]
  cases s.stack.popPair <;> rfl

theorem rename_retrieve : ofResult (s.rename f).retrieve = (ofResult s.retrieve).rename f := by
  have hstack : (s.rename f).stack = s.stack := rfl
  have hheap : (s.rename f).heap = s.heap := rfl
  rw [State.retrieve, State.retrieve, hstack, hheap]
  cases s.stack.pop with
  | error e => rfl
  | ok popped =>
    dsimp only
    cases s.heap.retrieve? popped.1 <;> rfl

theorem rename_leave : ofResult (s.rename f).leave = (ofResult s.leave).rename f := by
  obtain ⟨stack, heap, ⟨frames⟩, pc, last, status⟩ := s
  cases frames <;> rfl

theorem rename_withLabel {i : Instruction} {use use' : Label → Intent}
    (h : ∀ l, use' (f l) = (use l).rename f) :
    withLabel (i.rename f) use' = (withLabel i use).rename f := by
  rw [withLabel, withLabel, Instruction.label_rename]
  cases hl : i.label with
  | ok l => exact h l
  | error e =>
    obtain rfl := Instruction.label_error hl
    rfl

theorem rename_branch (l : Label) (taken : Value → Bool) :
    branch (s.rename f) (f l) taken = (branch s l taken).rename f := by
  have hstack : (s.rename f).stack = s.stack := rfl
  rw [branch, branch, hstack]
  cases s.stack.pop with
  | error e => rfl
  | ok popped =>
    dsimp only
    split <;> rfl

theorem rename_printChar : printChar (s.rename f) = (printChar s).rename f := by
  have hstack : (s.rename f).stack = s.stack := rfl
  rw [printChar, printChar, hstack]
  cases s.stack.pop with
  | error e => rfl
  | ok popped =>
    dsimp only
    cases Value.character? popped.1 <;> rfl

theorem rename_printNum : printNum (s.rename f) = (printNum s).rename f := by
  have hstack : (s.rename f).stack = s.stack := rfl
  rw [printNum, printNum, hstack]
  cases s.stack.pop <;> rfl

theorem rename_number {i : Instruction} {use use' : Int → Except Fault State}
    (h : ∀ n, ofResult (use' n) = (ofResult (use n)).rename f) :
    ofResult ((i.rename f).number.bind use') = (ofResult (i.number.bind use)).rename f := by
  rw [Instruction.number_rename]
  cases hn : i.number with
  | ok n => exact h n
  | error e =>
    obtain rfl := Instruction.number_error hn
    rfl

end Intent

theorem State.intent_rename (s : State) (index : Nat) (i : Instruction) (input : Input) :
    (s.rename f).intent index (i.rename f) input = (s.intent index i input).rename f := by
  have hoperation : (i.rename f).operation = i.operation := rfl
  rw [State.intent, State.intent, hoperation]
  cases i.operation with
  | push => exact Intent.rename_number f fun n => rfl
  | duplicate => exact Intent.rename_withStack f s _
  | duplicateN => exact Intent.rename_number f fun n => Intent.rename_withStack f s _
  | swap => exact Intent.rename_withStack f s _
  | discard => exact Intent.rename_withStack f s _
  | discardN => exact Intent.rename_number f fun n => Intent.rename_withStack f s _
  | add => exact Intent.rename_combine f s fun a b e h => by cases h
  | sub => exact Intent.rename_combine f s fun a b e h => by cases h
  | mul => exact Intent.rename_combine f s fun a b e h => by cases h
  | div => exact Intent.rename_combine f s fun a b e => State.divide_error
  | mod => exact Intent.rename_combine f s fun a b e => State.modulo_error
  | store => exact Intent.rename_store f s
  | retrieve => exact Intent.rename_retrieve f s
  | label => exact Intent.rename_withLabel f fun l => rfl
  | call => exact Intent.rename_withLabel f fun l => rfl
  | jump => exact Intent.rename_withLabel f fun l => rfl
  | jumpZero => exact Intent.rename_withLabel f fun l => Intent.rename_branch f s l _
  | jumpNegative => exact Intent.rename_withLabel f fun l => Intent.rename_branch f s l _
  | ret => exact Intent.rename_leave f s
  | exit => rfl
  | printChar => exact Intent.rename_printChar f s
  | printNum => exact Intent.rename_printNum f s
  | readChar => rfl
  | readNum => rfl

/-! Sessions under other names. A table that is filled from the whole program finds first
definitions, and these do not move. -/

def Recast.renamed : Recast where
  program := Program.rename f
  labels p _ := .ofProgram (p.rename f)
  error := RunError.rename f
  size := Program.size_rename f
  logFull _ _ := rfl
  move _ := rfl

def Disguise.renamed : Disguise where
  toRecast := Recast.renamed f
  fault := Fault.rename f
  state := State.rename f
  pc _ := rfl
  withStatus _ _ := rfl
  weight s shown := by simp [Snapshot.size, State.rename, CallStack.rename, CallStack.depth]

namespace Machine

variable {f} {p : Program} {m : Machine} {k : Nat}

theorem fulfil_renamed (hf : Function.Injective f) (ht : m.labels.Knows p k) (index : Nat)
    {intent : Intent} {i : Instruction} (hs : intent.Steers m.state index i) :
    ((Disguise.renamed f).machine p m).fulfil (p.rename f) index (intent.rename f) =
      (Disguise.renamed f).attempt p (m.fulfil p index intent) := by
  cases intent with
  | fail cause => rfl
  | change next => rfl
  | note l => rfl
  | go l land =>
    have hresolve := (ht.resolve l).1
    have hlabels : ((Disguise.renamed f).machine p m).labels = .ofProgram (p.rename f) := rfl
    simp only [fulfil, Intent.rename, goto]
    rw [hlabels, LabelTable.resolve_ofProgram, p.firstDefinition?_rename hf, ← hresolve]
    generalize m.labels.resolve p l = found
    obtain ⟨target, labels⟩ := found
    cases target <;> rfl
  | print text next =>
    have houtput : ((Disguise.renamed f).machine p m).output = m.output := rfl
    simp only [fulfil, Intent.rename, emit]
    rw [houtput]
    generalize m.output.write (Utf8.encode text) = written
    obtain ⟨failure, output⟩ := written
    cases failure with
    | none => rfl
    | some failure => cases failure <;> rfl
  | take reading =>
    obtain ⟨r, input⟩ := reading
    cases r with
    | ok v => rfl
    | error cause =>
      have hcause := Fault.rename_of_defined f (hs cause rfl)
      simp only [fulfil, Intent.rename, receive, Disguise.attempt, Option.map_some]
      exact congrArg (fun cause => Attempt.mk _ (some cause)) hcause.symm

theorem attempt_renamed (hf : Function.Injective f) (ht : m.labels.Knows p k) (i : Instruction) :
    ((Disguise.renamed f).machine p m).attempt (p.rename f) (i.rename f) =
      (Disguise.renamed f).attempt p (m.attempt p i) := by
  have hpassed : m.passed.labels.Knows p k := ht
  have hintent : ((Disguise.renamed f).machine p m).intent (i.rename f) = (m.intent i).rename f :=
    State.intent_rename f m.passed.state m.state.pc i m.input
  have hfulfil := fulfil_renamed hf hpassed m.state.pc (m.intent_steers i)
  have hsize := p.size_rename f
  rw [attempt_eq, attempt_eq, hintent]
  change finish (p.rename f) m.state.pc (((Disguise.renamed f).machine p m.passed).fulfil
    (p.rename f) m.state.pc ((m.intent i).rename f)) = _
  rw [hfulfil]
  generalize m.passed.fulfil p m.state.pc (m.intent i) = a
  obtain ⟨n, fault⟩ := a
  cases fault with
  | none =>
    simp only [finish, Disguise.attempt, Option.map_none, hsize]
    rfl
  | some cause => rfl

end Machine

variable {f}

theorem Disguise.renamed_faithful (hf : Function.Injective f) (p : Program) :
    (Disguise.renamed f).Faithful (Session.Charted p) where
  begin _ hs := hs.begin
  step _ hs := hs.step
  restore _ position hs := hs.restore position
  attempt s hs i hi := by
    obtain ⟨k, ht, -⟩ := hs.known
    rw [← hs.program] at ht
    refine ⟨i.rename f, ?_, Machine.attempt_renamed hf ht i, fun _ => rfl⟩
    change (s.program.rename f).get? s.state.pc = some (i.rename f)
    rw [s.program.get?_rename, hi]
    rfl

namespace Session

theorem fresh_renamed (p : Program) (limit : Option Nat) (input : Input) (output : Output) :
    (Disguise.renamed f).session (fresh p limit input output) =
      (fresh (p.rename f) limit input output).filled := by
  cases limit with
  | none => rfl
  | some limit =>
    have hempty : (Disguise.renamed f).log { limit } = { limit } :=
      congrArg (Log.mk limit · 0) Array.map_empty
    exact congrArg (fun log => Session.mk _ _ (some { log })) hempty

def Response.rename (f : Label → Label) : Response → Response :=
  (Recast.renamed f).response

end Session

/-- Whatever happens to them, sessions of a program under different names for its labels respond
alike and have alike states, recordings and streams, except for the names. -/
theorem label_names_carry_no_meaning (f : Label → Label) (hf : Function.Injective f)
    (p : Program) (limit : Option Nat) (input : Input) (output : Output)
    (events : List Session.Event) :
    let r := (Session.fresh p limit input output).heed events
    let r' := (Session.fresh (p.rename f) limit input output).heed events
    r'.2 = r.2.map (Session.Response.rename f) ∧
      r'.1.state = r.1.state.rename f ∧
      r'.1.recording = r.1.recording.map (Recording.rename f) ∧
      r'.1.machine.transcript = r.1.machine.transcript ∧
      r'.1.machine.input = r.1.machine.input ∧
      r'.1.machine.output = r.1.machine.output ∧
      (∀ l, (r'.1.machine.labels.resolve (p.rename f) (f l)).1 =
        (r.1.machine.labels.resolve p l).1) ∧
      r'.1.snapshots.map Snapshot.size = r.1.snapshots.map Snapshot.size := by
  intro r r'
  have hreachable : (Session.fresh p limit input output).Reachable p limit := .fresh input output
  have hreachable' : (Session.fresh (p.rename f) limit input output).Reachable (p.rename f) limit :=
    .fresh input output
  have hheed := (Disguise.renamed_faithful hf p).heed_disguised
    (fun _ input output hs => hs.withStreams input output) hreachable.charted events
  rw [Session.fresh_renamed, Session.heed_filled hreachable'.charted events] at hheed
  obtain ⟨hsession, hresponses⟩ := Prod.mk.inj hheed
  have hstate := congrArg Session.state hsession
  have hrecording := congrArg Session.recording hsession
  have htranscript := congrArg (fun s => s.machine.transcript) hsession
  have hinput := congrArg (fun s => s.machine.input) hsession
  have houtput := congrArg (fun s => s.machine.output) hsession
  change r'.1.recording = r.1.recording.map (Recording.rename f) at hrecording
  refine ⟨hresponses, hstate, hrecording, htranscript, hinput, houtput, ?_, ?_⟩
  · intro l
    obtain ⟨k, ht, -⟩ := (hreachable.heed events).charted.known
    obtain ⟨k', ht', -⟩ := (hreachable'.heed events).charted.known
    rw [(ht.resolve l).1, (ht'.resolve (f l)).1, p.firstDefinition?_rename hf]
  · rw [Session.snapshots, Session.snapshots, hrecording]
    cases r.1.recording with
    | none => rfl
    | some recording =>
      have hweight : ∀ s : Snapshot, (s.rename f).size = s.size := fun s =>
        (Disguise.renamed f).weight s.state s.shown
      simp [Recording.rename, Log.toList, hweight]

/-- A jump to a label that is not defined. -/
def lostJump : Session :=
  .fresh (Program.ofList [⟨.jump, some (.label ⟨[.space]⟩), {}⟩]) (some 9999) {} {}

theorem label_names_carry_no_meaning_lost :
    let f : Label → Label := fun l => ⟨.tab :: l.symbols⟩
    let lost (l : Label) : Session.Response :=
      .stepped (.error (.fault (.undefinedLabel l) ⟨0, .jump, {}⟩))
    Function.Injective f ∧ (lostJump.heed [.request .step]).2 = [lost ⟨[.space]⟩] ∧
      ((Session.fresh (lostJump.program.rename f) (some 9999) {} {}).heed [.request .step]).2 =
        [lost ⟨[.tab, .space]⟩] := by
  intro f lost
  have hf : Function.Injective f := by
    intro l k h
    obtain ⟨symbols⟩ := l
    obtain ⟨symbols'⟩ := k
    simpa [f] using h
  have hstep : lostJump.step.result = .error (.fault (.undefinedLabel ⟨[.space]⟩) ⟨0, .jump, {}⟩) := by
    apply (Session.step_fault_iff (Session.anchored_fresh _ (some 9999) {} {})).mpr
    refine ⟨⟨.jump, some (.label ⟨[.space]⟩), {}⟩, ⟨⟨rfl, rfl⟩, rfl, rfl⟩, ?_, rfl⟩
    apply (Machine.attempt_undefinedLabel_iff (LabelTable.knows_empty _)).mpr
    exact ⟨⟨rfl, trivial⟩, by decide +kernel⟩
  have hlost : (lostJump.heed [.request .step]).2 = [lost ⟨[.space]⟩] :=
    congrArg (fun result => [Session.Response.stepped result]) hstep
  refine ⟨hf, hlost, ?_⟩
  have hrenamed := (label_names_carry_no_meaning f hf lostJump.program (some 9999) {} {}
    [.request .step]).1
  exact hrenamed.trans (congrArg (List.map (Session.Response.rename f)) hlost)

end Backstep
