import Backstep.Proofs.Reachable
import Backstep.Proofs.Reading
import Backstep.Proofs.Recast

/-! Comments and locations carry no meaning. Reading looks at the symbols of a
text alone, but for the locations that it notes; and a session of a program
without locations differs from one with them in the sites of its errors only. -/
namespace Backstep

/-! Texts with the same symbols. -/

/-- The characters of a text that stand for symbols. -/
def Symbol.written (text : String) : List Char :=
  text.toList.filter fun c => c = ' ' ∨ c = '\t' ∨ c = '\n'

theorem Symbol.ofText_eq_filterMap_written (text : String) :
    ofText text.toList = (written text).filterMap ofChar? := by
  rw [ofText, written, List.filterMap_filter]
  congr
  funext c
  simp only [ofChar?, decide_eq_true_eq]
  grind

theorem SyntaxError.found_facing {layer : Layer} {c d : Cursor} (h : c.symbols = d.symbols) :
    (facing layer c).found = (facing layer d).found := by
  change c.lookahead context = d.lookahead context
  rw [Cursor.lookahead_eq, Cursor.lookahead_eq, h]

theorem Program.readAll_of_symbols {c d : Cursor} (h : c.symbols = d.symbols) :
    (∃ e e', readAll c = .error e ∧ readAll d = .error e' ∧ e.layer = e'.layer ∧
      e.found = e'.found) ∨
    ∃ is js, readAll c = .ok is ∧ readAll d = .ok js ∧
      is.map Instruction.code = js.map Instruction.code := by
  obtain ⟨ps, ⟨hs, is, his, hcodes⟩ | ⟨r, layer, hs, hne, hfails, he⟩⟩ := readAll_cases c <;>
    obtain ⟨qs, ⟨hs', js, hjs, hcodes'⟩ | ⟨r', layer', hs', hne', hfails', he'⟩⟩ := readAll_cases d
  · have hcut : Piece.spelling ps ++ [] = Piece.spelling qs ++ [] := by rw [← hs, h, hs']
    obtain ⟨rfl, -⟩ := Piece.spelling_unique Piece.stuck_nil Piece.stuck_nil hcut
    exact Or.inr ⟨is, js, his, hjs, hcodes.trans hcodes'.symm⟩
  · have hcut : Piece.spelling ps ++ [] = Piece.spelling qs ++ r' := by
      rw [List.append_nil, ← hs, h, hs']
    exact absurd (Piece.spelling_unique Piece.stuck_nil hfails'.stuck hcut).2.symm hne'
  · have hcut : Piece.spelling ps ++ r = Piece.spelling qs ++ [] := by
      rw [List.append_nil, ← hs, h, hs']
    exact absurd (Piece.spelling_unique hfails.stuck Piece.stuck_nil hcut).2 hne
  · have hcut : Piece.spelling ps ++ r = Piece.spelling qs ++ r' := by rw [← hs, h, hs']
    obtain ⟨rfl, rfl⟩ := Piece.spelling_unique hfails.stuck hfails'.stuck hcut
    obtain rfl := hfails.unique hfails'
    refine Or.inl ⟨_, _, he, he', rfl, SyntaxError.found_facing ?_⟩
    rw [Cursor.symbols_skip, Cursor.symbols_skip, h]

/-! Programs without locations. -/

def Instruction.unlocated (i : Instruction) : Instruction :=
  { i with location := {} }

namespace Program

def unlocated (p : Program) : Program :=
  ⟨p.instructions.map Instruction.unlocated⟩

variable (p : Program)

theorem toList_unlocated :
    p.unlocated.instructions.toList = p.instructions.toList.map Instruction.unlocated :=
  Array.toList_map

theorem unlocated_of_code {p q : Program} (h : p.code = q.code) : p.unlocated = q.unlocated := by
  have hcode : ∀ p : Program, p.unlocated.instructions.toList =
      p.code.map fun code => ⟨code.1, code.2, {}⟩ := by
    intro p
    rw [toList_unlocated, code, List.map_map]
    rfl
  have hlist : p.unlocated.instructions.toList = q.unlocated.instructions.toList := by
    rw [hcode, hcode, h]
  exact congrArg Program.mk (Array.toList_inj.mp hlist)

theorem size_unlocated : p.unlocated.size = p.size :=
  Array.size_map

theorem get?_unlocated (index : Nat) :
    p.unlocated.get? index = (p.get? index).map Instruction.unlocated :=
  Array.getElem?_map

theorem definitions_unlocated : p.unlocated.definitions = p.definitions := by
  rw [definitions, definitions, toList_unlocated, List.zipIdx_map, List.filterMap_map]
  rfl

end Program

theorem LabelTable.resolve_unlocated (t : LabelTable) (p : Program) (l : Label) :
    t.resolve p.unlocated l = t.resolve p l := by
  have hfull : ofProgram p.unlocated = ofProgram p := by
    rw [ofProgram, ofProgram, p.definitions_unlocated]
  rw [resolve, resolve, hfull]

theorem Machine.attempt_unlocated (m : Machine) (p : Program) (i : Instruction) :
    m.attempt p.unlocated i.unlocated = m.attempt p i := by
  have hfulfil : ∀ intent, m.passed.fulfil p.unlocated m.state.pc intent =
      m.passed.fulfil p m.state.pc intent := by
    intro intent
    cases intent with
    | go l land =>
      simp only [fulfil, goto, LabelTable.resolve_unlocated]
    | _ => rfl
  have hintent : m.intent i.unlocated = m.intent i := rfl
  rw [attempt_eq, attempt_eq, hintent, hfulfil, finish, finish, p.size_unlocated]

/-! Sessions without locations. -/

def RunError.unlocated : RunError → RunError
  | .fault cause site => .fault cause { site with location := {} }
  | other => other

def Recast.unlocated : Recast where
  program := Program.unlocated
  labels _ labels := labels
  error := RunError.unlocated
  size := Program.size_unlocated
  logFull _ _ := rfl
  move _ := rfl

theorem Recast.unlocated_faithful : Recast.unlocated.Faithful fun _ => True where
  begin _ _ := trivial
  step _ _ := trivial
  restore _ _ _ := trivial
  attempt s _ i hi := by
    refine ⟨i.unlocated, ?_, s.machine.attempt_unlocated s.program i, fun _ => rfl⟩
    change s.program.unlocated.get? s.state.pc = some i.unlocated
    rw [s.program.get?_unlocated, hi]
    rfl

namespace Session

def Response.unlocated : Response → Response :=
  Recast.unlocated.response

theorem heed_unlocated (s : Session) (events : List Event) :
    (Recast.unlocated.session s).heed events =
      (Recast.unlocated.session (s.heed events).1, (s.heed events).2.map Response.unlocated) :=
  Recast.unlocated_faithful.heed_recast (fun _ _ _ _ => trivial) trivial events

theorem fresh_unlocated (p : Program) (limit : Option Nat) (input : Input) (output : Output) :
    Recast.unlocated.session (fresh p limit input output) =
      fresh p.unlocated limit input output := by
  cases limit <;> rfl

theorem heed_of_code {p q : Program} (h : p.code = q.code) (limit : Option Nat) (input : Input)
    (output : Output) (events : List Event) :
    let r := (fresh p limit input output).heed events
    let r' := (fresh q limit input output).heed events
    r.1.machine = r'.1.machine ∧ r.1.recording = r'.1.recording ∧
      r.2.map Response.unlocated = r'.2.map Response.unlocated := by
  intro r r'
  have hp := heed_unlocated (fresh p limit input output) events
  have hq := heed_unlocated (fresh q limit input output) events
  rw [fresh_unlocated, Program.unlocated_of_code h, ← fresh_unlocated, hq] at hp
  obtain ⟨hsession, hresponses⟩ := Prod.mk.inj hp
  exact ⟨(congrArg Session.machine hsession).symm, (congrArg Session.recording hsession).symm,
    hresponses.symm⟩

end Session

/-- Texts with the same symbols are refused with the same words, or give programs with the same
code; sessions of these are the same whatever happens to them, and so is what they respond, but
for the locations in the sites of errors. -/
theorem comments_carry_no_meaning (a b : String) (h : Symbol.written a = Symbol.written b) :
    (∃ e e', Program.read a = .error e ∧ Program.read b = .error e' ∧ e.layer = e'.layer ∧
      e.found = e'.found) ∨
    ∃ p q, Program.read a = .ok p ∧ Program.read b = .ok q ∧ p.code = q.code ∧
      ∀ (limit : Option Nat) (input : Input) (output : Output) (events : List Session.Event),
        let r := (Session.fresh p limit input output).heed events
        let r' := (Session.fresh q limit input output).heed events
        r.1.machine = r'.1.machine ∧ r.1.recording = r'.1.recording ∧
          r.2.map Session.Response.unlocated = r'.2.map Session.Response.unlocated := by
  have hsymbols : (Cursor.ofString a).symbols = (Cursor.ofString b).symbols := by
    rw [Cursor.ofString, Cursor.ofString, Cursor.symbols_ofText, Cursor.symbols_ofText,
      Symbol.ofText_eq_filterMap_written, Symbol.ofText_eq_filterMap_written, h]
  rcases Program.readAll_of_symbols hsymbols with
    ⟨e, e', he, he', hlayer, hfound⟩ | ⟨is, js, his, hjs, hcodes⟩
  · left
    refine ⟨e, e', ?_, ?_, hlayer, hfound⟩
    · rw [Program.read, he]
      rfl
    · rw [Program.read, he']
      rfl
  · right
    have hcode : (Program.ofList is).code = (Program.ofList js).code := by
      rw [Program.code_ofList, Program.code_ofList, hcodes]
    refine ⟨.ofList is, .ofList js, ?_, ?_, hcode, Session.heed_of_code hcode⟩
    · rw [Program.read, his]
      rfl
    · rw [Program.read, hjs]
      rfl

/-- A discard from the empty stack, with a comment and without. -/
theorem comments_carry_no_meaning_discard :
    Symbol.written "# \n\n" = Symbol.written " \n\n" ∧
      ∃ p q, Program.read "# \n\n" = .ok p ∧ Program.read " \n\n" = .ok q ∧
        p.code = [(.discard, none)] ∧
        (((Session.plain p {} {}).heed [.request .step]).2.map Session.Response.unlocated =
          ((Session.plain q {} {}).heed [.request .step]).2.map Session.Response.unlocated) := by
  have hwritten : Symbol.written "# \n\n" = Symbol.written " \n\n" := by decide
  have hs : Symbol.ofText "# \n\n".toList =
      Piece.spelling [⟨_, (.discard, none), [], rfl, .absent⟩] := by decide
  obtain ⟨p, hp, hcode⟩ := Program.read_of_spelling hs
  refine ⟨hwritten, ?_⟩
  rcases comments_carry_no_meaning _ _ hwritten with
    ⟨e, e', he, -⟩ | ⟨p', q, hp', hq, -, hheed⟩
  · rw [hp] at he
    cases he
  · rw [hp] at hp'
    cases hp'
    exact ⟨p, q, hp, hq, hcode, (hheed none {} {} [.request .step]).2.2⟩

end Backstep
