import Backstep.Command.Report
import Backstep.Proofs.ReadBack
import Backstep.Proofs.Settings
import Backstep.Proofs.WrittenForms

/-! What a command without the viewer comes to: its status, the bytes that it writes
and what it does on the way, for every command line and all surroundings. A command
that ends early has not done what would come later, so that its report is the same
whatever the files and the standard input are, apart from its source, and however
long a program may run. -/
namespace Backstep

/-! Listings. -/

def OneLine (text : String) : Prop :=
  '\n' ∉ text.toList

instance (text : String) : Decidable (OneLine text) :=
  inferInstanceAs (Decidable (¬ _))

namespace OneLine

theorem append {a b : String} (ha : OneLine a) (hb : OneLine b) : OneLine (a ++ b) := by
  rw [OneLine, String.toList_append, List.mem_append, not_or]
  exact ⟨ha, hb⟩

theorem ofList {text : List Char} (h : ∀ c ∈ text, c ≠ '\n') : OneLine (String.ofList text) := by
  rw [OneLine, String.toList_ofList]
  exact fun hm => h _ hm rfl

theorem alignRight (n : Nat) {text : String} (h : OneLine text) :
    OneLine (Backstep.alignRight n text) := by
  refine append (ofList fun c hc => ?_) h
  rw [List.eq_of_mem_replicate hc]
  decide

theorem write (n : Int) : OneLine (Decimal.write n) := by
  intro hm
  have hbounds := (Decimal.mark_of_mem_write hm).bounds
  exact absurd hbounds (by decide)

theorem toString_nat (n : Nat) : OneLine (toString n) := by
  have h := write n
  rwa [Decimal.write_eq_toString] at h

theorem location (here : Location) : OneLine here.text := by
  have hcolon : OneLine ":" := by decide
  exact ((toString_nat here.line).append hcolon).append (toString_nat here.column)

theorem parameter (a : Parameter) : OneLine a.text := by
  cases a with
  | number n => exact write n
  | label l =>
    refine append (by decide) (ofList fun c hc => ?_)
    obtain ⟨symbol, -, rfl⟩ := List.mem_map.mp hc
    cases symbol <;> decide

theorem instruction (i : Instruction) : OneLine i.text := by
  have hname : OneLine i.operation.name := by cases i.operation <;> decide
  have hspace : OneLine " " := by decide
  rw [Instruction.text]
  split
  · exact hname
  · next a _ => exact (hname.append hspace).append (parameter a)

end OneLine

namespace Program

/-- The line of a listing that stands for an instruction, without its line feed. -/
def listingRow (i : Instruction) (index : Nat) : String :=
  alignRight 5 (toString index) ++ "  " ++ alignRight 9 i.location.text ++ "  " ++ i.text

theorem oneLine_listingRow (i : Instruction) (index : Nat) : OneLine (listingRow i index) := by
  have hspace : OneLine "  " := by decide
  have hindex := OneLine.alignRight 5 (OneLine.toString_nat index)
  have hplace := OneLine.alignRight 9 (OneLine.location i.location)
  exact (((hindex.append hspace).append hplace).append hspace).append (OneLine.instruction i)

/-- The text has one line for each instruction of the program, in the order of the program. -/
def ListedBy (p : Program) (text : String) : Prop :=
  ∃ rows : List String, rows.length = p.size ∧ (∀ row ∈ rows, OneLine row) ∧
    (∀ index i, p.get? index = some i → rows[index]? = some (listingRow i index)) ∧
    text = String.join (rows.map fun row => row ++ "\n")

theorem listedBy_listing (p : Program) : p.ListedBy p.listing := by
  refine ⟨p.instructions.toList.zipIdx.map fun entry => listingRow entry.1 entry.2,
    ?_, ?_, ?_, ?_⟩
  · simp [size]
  · intro row hrow
    obtain ⟨entry, -, rfl⟩ := List.mem_map.mp hrow
    exact oneLine_listingRow entry.1 entry.2
  · intro index i hi
    have hget : p.instructions.toList[index]? = some i := by
      rw [Array.getElem?_toList]
      exact hi
    simp [List.getElem?_zipIdx, hget]
  · rw [listing, List.map_map]
    rfl

end Program

/-! Runs. -/

theorem Session.Returns.session_eq {s : Session} {n : Nat} {result : Session × Session.Ending}
    (h : s.Returns n result) : result.1 = s.after n := by
  induction h with
  | failed he => rfl
  | halted hr => rfl
  | @again s n result hr _ ih => rw [ih, after_succ]

/-- A run that its fuel does not bring to an end has made so many steps. -/
theorem Session.run_of_not_returns {s : Session} {fuel : Nat}
    (h : ∀ n result, s.Returns n result → fuel < n) :
    Session.run fuel s = (s.after fuel, .unfinished) := by
  induction fuel generalizing s with
  | zero => rfl
  | succ fuel ih =>
    have hone : ∀ result, ¬ s.Returns 1 result := fun result hr =>
      absurd (h 1 result hr) (by omega)
    rw [run_succ, after_succ]
    cases hr : s.step.result with
    | error e => exact (hone _ (.failed hr)).elim
    | ok status =>
      cases status with
      | halted reason => exact (hone _ (.halted hr)).elim
      | running => exact ih fun n result hn => Nat.lt_of_succ_lt_succ (h _ _ (.again hr hn))

namespace Surroundings

/-- The source is a text that reads as the program. -/
def Supplies (w : Surroundings) (o : Options) (p : Program) : Prop :=
  ∃ text, w.source o.file = .ok (Utf8.encode text) ∧ Program.read text = .ok p

/-- What the program reads when there is no viewer: the file that is named as its input, or else the
standard input, unless that was the source. -/
inductive Feeds (w : Surroundings) (o : Options) : Input → Prop
  | file {path : String} {input : Input} : o.input = some path →
      w.files.openInput path = .ok input → Feeds w o input
  | standardInput {path : String} : o.input = none → o.file = some path →
      Feeds w o w.standardInput
  | nothing : o.input = none → o.file = none → Feeds w o {}

variable {w : Surroundings} {o : Options} {p : Program} {input : Input} {fuel : Nat}

theorem Feeds.input_eq (hv : o.viewer = false) (h : w.Feeds o input) :
    w.input o.inputChoice = .ok input := by
  cases h with
  | file hpath hopen =>
    rw [Options.inputChoice, hpath]
    exact hopen
  | standardInput hnone hfile =>
    simp only [Options.inputChoice, hnone, hfile, hv, Bool.false_eq_true, reduceCtorEq, or_self,
      if_false]
    rfl
  | nothing hnone hfile =>
    simp only [Options.inputChoice, hnone, hfile, or_true, if_true]
    rfl

theorem feeds_or_error (w : Surroundings) (o : Options) : (∃ input, w.Feeds o input) ∨
    ∃ path failure, o.input = some path ∧ w.files.openInput path = .error failure := by
  cases hpath : o.input with
  | some path =>
    cases hopen : w.files.openInput path with
    | ok input => exact Or.inl ⟨_, .file hpath hopen⟩
    | error failure => exact Or.inr ⟨path, failure, rfl, hopen⟩
  | none =>
    cases hfile : o.file with
    | some path => exact Or.inl ⟨_, .standardInput hpath hfile⟩
    | none => exact Or.inl ⟨_, .nothing hpath hfile⟩

/-! An errand depends on the answers to what it asks for, and on nothing else. -/

/-- The surroundings answer alike what these deeds ask for. -/
structure AnswersAlike (w w' : Surroundings) (deeds : List Deed) : Prop where
  source : ∀ file, .readSource file ∈ deeds → w'.source file = w.source file
  input : ∀ choice, .openInput choice ∈ deeds → w'.input choice = w.input choice

theorem AnswersAlike.of_cons {w w' : Surroundings} {deed : Deed} {deeds : List Deed}
    (h : w.AnswersAlike w' (deed :: deeds)) : w.AnswersAlike w' deeds :=
  ⟨fun file hm => h.source file (List.mem_cons_of_mem _ hm),
    fun choice hm => h.input choice (List.mem_cons_of_mem _ hm)⟩

theorem carryOut_congr {w' : Surroundings} {fuel' : Nat} (e : Errand Input)
    (h : w.AnswersAlike w' (w.carryOut fuel e).deeds)
    (hidle : ∀ p, .execute p ∉ (w.carryOut fuel e).deeds) :
    w'.carryOut fuel' e = w.carryOut fuel e := by
  induction e with
  | finish r => rfl
  | say text next ih => exact congrArg (Report.preface · text) (ih h hidle)
  | readSource file next ih =>
    have hsame : w'.source file = w.source file := h.source file List.mem_cons_self
    rw [carryOut, carryOut, hsame,
      ih _ h.of_cons fun p hm => hidle p (List.mem_cons_of_mem _ hm)]
  | openInput choice next ih =>
    have hsame : w'.input choice = w.input choice := h.input choice List.mem_cons_self
    rw [carryOut, carryOut, hsame,
      ih _ h.of_cons fun p hm => hidle p (List.mem_cons_of_mem _ hm)]
  | execute o p input => exact absurd List.mem_cons_self (hidle p)

/-! The parts of an errand. -/

theorem carryOut_of_supplies (h : w.Supplies o p) (fuel : Nat) : ∃ diagnostics,
    w.carryOut fuel o.errand =
      ((w.carryOut fuel (o.use p)).preface diagnostics).after (.readSource o.file) := by
  obtain ⟨text, hsource, hread⟩ := h
  simp only [Options.errand, carryOut, hsource, Utf8.decode?_encode, Options.parse, hread]
  simp only [Report.preface, ← String.append_assoc]
  exact ⟨_, rfl⟩

theorem carryOut_of_not_supplies (h : ∀ p, ¬ w.Supplies o p) (fuel : Nat) : ∃ err,
    w.carryOut fuel o.errand = { status := 1, err, deeds := [.readSource o.file] } := by
  simp only [Options.errand, carryOut]
  cases hsource : w.source o.file with
  | error failure => exact ⟨_, rfl⟩
  | ok bytes =>
    cases hdecode : Utf8.decode? bytes with
    | none =>
      simp only [hdecode]
      exact ⟨_, rfl⟩
    | some text =>
      have hbytes := Utf8.decode?_eq_some_iff.mp hdecode
      cases hread : Program.read text with
      | error e =>
        simp only [hdecode, Options.parse, hread]
        exact ⟨_, rfl⟩
      | ok p => exact absurd ⟨text, hbytes ▸ hsource, hread⟩ (h p)

theorem carryOut_use_of_list (hl : o.list = true) (fuel : Nat) :
    w.carryOut fuel (o.use p) = { out := Utf8.encode p.listing } := by
  rw [Options.use, if_pos hl]
  rfl

theorem carryOut_use_of_error {failure : ReadFailure} (hl : o.list = false)
    (hi : w.input o.inputChoice = .error failure) (fuel : Nat) :
    w.carryOut fuel (o.use p) = failure.inputReport.after (.openInput o.inputChoice) := by
  rw [Options.use, if_neg (by simp [hl]), carryOut, hi]
  rfl

theorem carryOut_use_of_ok (hl : o.list = false) (hi : w.input o.inputChoice = .ok input)
    (fuel : Nat) : w.carryOut fuel (o.use p) =
      ((o.perform fuel p input).after (.execute p)).after (.openInput o.inputChoice) := by
  rw [Options.use, if_neg (by simp [hl]), carryOut, hi]
  rfl

end Surroundings

namespace Options

variable {o : Options} {p : Program} {input : Input} {fuel : Nat}

theorem status_perform (o : Options) (fuel : Nat) (p : Program) (input : Input) :
    (o.perform fuel p input).status = 0 ∨ (o.perform fuel p input).status = 1 := by
  rw [perform]
  split
  · generalize Playback.ofSession _ _ = playback
    change playback.after.status = 0 ∨ playback.after.status = 1
    rw [Playback.after]
    cases playback.ending with
    | failed e => exact Or.inr rfl
    | _ => exact Or.inl rfl
  · rcases (Session.plain p input {}).run fuel with ⟨s, ending⟩
    cases ending with
    | failed e => exact Or.inr rfl
    | _ => exact Or.inl rfl

/-- The report of a run that has made `n` steps. -/
theorem perform_of_run (hv : o.viewer = false) {n : Nat} {ending : Session.Ending}
    (h : (Session.plain p input {}).run fuel = ((Session.plain p input {}).after n, ending)) :
    o.perform fuel p input =
      ending.report (((Session.plain p input {}).prints n).flatMap Session.printBytes) := by
  have hreliable : (Session.plain p input {}).machine.output.Reliable :=
    Output.reliable_iff.mpr ⟨rfl, rfl⟩
  have hreceived := (Session.received_after rfl hreliable n).2
  rw [perform, if_neg (by simp [hv]), h]
  change ending.report ((Session.plain p input {}).after n).machine.output.received.toList = _
  rw [hreceived]
  rfl

theorem deeds_perform (hv : o.viewer = false) : (o.perform fuel p input).deeds = [] := by
  rw [perform, if_neg (by simp [hv])]
  rcases (Session.plain p input {}).run fuel with ⟨s, ending⟩
  cases ending <;> rfl

end Options

theorem Surroundings.status_of_proceed (w : Surroundings) (o : Options) (fuel : Nat) :
    (w.carryOut fuel o.errand).status = 0 ∨ (w.carryOut fuel o.errand).status = 1 := by
  by_cases hsupplied : ∃ p, w.Supplies o p
  · obtain ⟨p, hp⟩ := hsupplied
    obtain ⟨diagnostics, hreport⟩ := carryOut_of_supplies hp fuel
    rw [hreport]
    change (w.carryOut fuel (o.use p)).status = 0 ∨ (w.carryOut fuel (o.use p)).status = 1
    cases hl : o.list with
    | true =>
      rw [carryOut_use_of_list hl]
      exact Or.inl rfl
    | false =>
      cases hi : w.input o.inputChoice with
      | error failure =>
        rw [carryOut_use_of_error hl hi]
        exact Or.inr rfl
      | ok input =>
        rw [carryOut_use_of_ok hl hi]
        exact o.status_perform fuel p input
  · obtain ⟨err, hreport⟩ := carryOut_of_not_supplies (fun p hp => hsupplied ⟨p, hp⟩) fuel
    rw [hreport]
    exact Or.inr rfl

/-- A command that has run no program reports the same wherever its questions are answered alike. -/
theorem Surroundings.report_congr {w w' : Surroundings} {fuel : Nat} {name : String}
    {args : List String} {r : Report} (h : w.report fuel name args = r)
    (ha : w.AnswersAlike w' r.deeds) (hidle : ∀ p, .execute p ∉ r.deeds) (fuel' : Nat) :
    w'.report fuel' name args = r := by
  subst h
  exact carryOut_congr _ ha hidle

theorem Session.Returns.report {s : Session} {n : Nat} {result : Session × Session.Ending}
    (h : s.Returns n result) (out : List UInt8) : (result.2.report out).out = out ∧
    ((result.2.report out).status = 0 ↔ ∃ reason, result.2 = .halted reason) ∧
      ((result.2.report out).status = 1 ↔ ∃ e, result.2 = .failed e) := by
  have hended := h.ending_ne
  cases hending : result.2 with
  | halted reason => simp [Session.Ending.report]
  | failed e => simp [Session.Ending.report]
  | unfinished => exact absurd hending hended

/-- The outcome of a command: it is refused, shows its usage, cannot read its source as a program,
lists the program, cannot open the input, or runs the program. Up to then it has done nothing but
what its deeds say, in this order; so in each case but the last its report is the same in all
surroundings that agree in what was looked at, and for any number of steps. -/
theorem command_outcome (w : Surroundings) (name : String) (args : List String) :
    (∀ fuel, (w.report fuel name args).status = 2 ↔ ∃ e, Asks {} args (.refuse e)) ∧
    (∀ e, Asks {} args (.refuse e) → ∃ r : Report, r.status = 2 ∧ r.out = [] ∧ r.deeds = [] ∧
      ∀ (w' : Surroundings) fuel, w'.report fuel name args = r) ∧
    (Asks {} args .help → ∃ r : Report, r.status = 0 ∧ r.out = [] ∧ r.deeds = [] ∧
      ∀ (w' : Surroundings) fuel, w'.report fuel name args = r) ∧
    ∀ o, Asks {} args (.proceed o) → o.viewer = false →
      ((∀ p, ¬ w.Supplies o p) → ∃ r : Report, r.status = 1 ∧ r.out = [] ∧
        r.deeds = [.readSource o.file] ∧
        ∀ (w' : Surroundings) fuel, w'.source o.file = w.source o.file →
          w'.report fuel name args = r) ∧
      ∀ p, w.Supplies o p →
        (o.list = true → ∃ r : Report, r.status = 0 ∧
          (∃ text, p.ListedBy text ∧ r.out = Utf8.encode text) ∧ r.deeds = [.readSource o.file] ∧
          ∀ (w' : Surroundings) fuel, w'.source o.file = w.source o.file →
            w'.report fuel name args = r) ∧
        (o.list = false →
          (∀ path failure, o.input = some path → w.files.openInput path = .error failure →
            ∃ r : Report, r.status = 1 ∧ r.out = [] ∧
              r.deeds = [.readSource o.file, .openInput (.file path)] ∧
              ∀ (w' : Surroundings) fuel, w'.source o.file = w.source o.file →
                w'.files.openInput path = w.files.openInput path →
                w'.report fuel name args = r) ∧
          ((∃ input, w.Feeds o input) ∨
            ∃ path failure, o.input = some path ∧ w.files.openInput path = .error failure) ∧
          ∀ input, w.Feeds o input → ∀ fuel,
            let plain := Session.plain p input {}
            let r := w.report fuel name args
            r.deeds = [.readSource o.file, .openInput o.inputChoice, .execute p] ∧
            (∀ n result, plain.Returns n result → n ≤ fuel →
              r.out = (plain.prints n).flatMap Session.printBytes ∧
                (r.status = 0 ↔ ∃ reason, result.2 = .halted reason) ∧
                (r.status = 1 ↔ ∃ e, result.2 = .failed e)) ∧
            ((∀ n result, plain.Returns n result → fuel < n) →
              r.out = (plain.prints fuel).flatMap Session.printBytes)) := by
  simp -zeta only [← Request.read_eq_iff]
  refine ⟨fun fuel => ⟨fun h => ?_, ?_⟩, ?_, ?_, ?_⟩
  · cases hread : Request.read args with
    | help =>
      rw [Surroundings.report, hread] at h
      cases h
    | refuse e => exact ⟨e, rfl⟩
    | proceed o =>
      rw [Surroundings.report, hread] at h
      rcases w.status_of_proceed o fuel with hstatus | hstatus
      · exact absurd (h.symm.trans hstatus) (by decide)
      · exact absurd (h.symm.trans hstatus) (by decide)
  · rintro ⟨e, hread⟩
    rw [Surroundings.report, hread]
    rfl
  · intro e hread
    refine ⟨e.report name, rfl, rfl, rfl, fun w' fuel => ?_⟩
    rw [Surroundings.report, hread]
    rfl
  · intro hread
    refine ⟨helpReport name, rfl, rfl, rfl, fun w' fuel => ?_⟩
    rw [Surroundings.report, hread]
    rfl
  · intro o hread hviewer
    have hreport : ∀ (w' : Surroundings) fuel,
        w'.report fuel name args = w'.carryOut fuel o.errand := by
      intro w' fuel
      rw [Surroundings.report, hread]
      rfl
    refine ⟨fun hnone => ?_, fun p hp => ⟨fun hlist => ?_, fun hrun => ⟨?_, ?_, ?_⟩⟩⟩
    · obtain ⟨err, hresult⟩ := Surroundings.carryOut_of_not_supplies hnone 0
      refine ⟨{ status := 1, err, deeds := [.readSource o.file] }, rfl, rfl, rfl,
        fun w' fuel hsource => ?_⟩
      rw [← hreport] at hresult
      exact Surroundings.report_congr hresult ⟨by simp [hsource], by simp⟩ (by simp) fuel
    · obtain ⟨diagnostics, hresult⟩ := Surroundings.carryOut_of_supplies hp 0
      rw [← hreport, Surroundings.carryOut_use_of_list hlist] at hresult
      refine ⟨w.report 0 name args, ?_⟩
      rw [hresult]
      refine ⟨rfl, ⟨p.listing, p.listedBy_listing, rfl⟩, rfl, fun w' fuel hsource => ?_⟩
      exact Surroundings.report_congr hresult ⟨by simp [hsource], by simp⟩ (by simp) fuel
    · intro path failure hpath hopen
      have hchoice : o.inputChoice = .file path := by rw [Options.inputChoice, hpath]
      have hinput : w.input o.inputChoice = .error failure := by rw [hchoice]; exact hopen
      obtain ⟨diagnostics, hresult⟩ := Surroundings.carryOut_of_supplies hp 0
      rw [← hreport, Surroundings.carryOut_use_of_error hrun hinput, hchoice] at hresult
      refine ⟨w.report 0 name args, ?_⟩
      rw [hresult]
      refine ⟨rfl, rfl, rfl, fun w' fuel hsource hsame => ?_⟩
      refine Surroundings.report_congr hresult ⟨?_, ?_⟩ ?_ fuel
      · simp [ReadFailure.inputReport, hsource]
      · simp [ReadFailure.inputReport, Surroundings.input, hsame]
      · simp [ReadFailure.inputReport]
    · exact w.feeds_or_error o
    · intro input hfeeds fuel plain r
      obtain ⟨diagnostics, hresult⟩ := Surroundings.carryOut_of_supplies hp fuel
      rw [← hreport, Surroundings.carryOut_use_of_ok hrun (hfeeds.input_eq hviewer)] at hresult
      have hdeeds : (o.perform fuel p input).deeds = [] := Options.deeds_perform hviewer
      rw [show r = _ from hresult]
      refine ⟨?_, fun n result hreturns hn => ?_, fun hmore => ?_⟩
      · simp [hdeeds]
      · have hran : plain.run fuel = (plain.after n, result.2) := by
          rw [hreturns.run_eq hn, ← hreturns.session_eq]
        rw [Options.perform_of_run hviewer hran]
        exact hreturns.report _
      · rw [Options.perform_of_run hviewer (Session.run_of_not_returns hmore)]
        rfl

/-- A program that prints a number, and its source. -/
def onePrinter : Program :=
  Program.ofList [⟨.push, some (.number 1), ⟨1, 1⟩⟩, ⟨.printNum, none, ⟨2, 1⟩⟩,
    ⟨.exit, none, ⟨3, 3⟩⟩]

def onePrinterSource : String :=
  "   \t\n\t\n \t\n\n\n"

/-- The source stands in a file, and no file can be opened as an input. -/
def lockedFiles : Surroundings where
  files :=
    { read := fun path =>
        if path = "one.ws" then .ok (Utf8.encode onePrinterSource) else .error .missing
      openInput := fun _ => .error (.other "Permission denied (os error 13)") }

/-- The program is run, listed, and not run for want of its input. -/
theorem command_outcome_one :
    let run := lockedFiles.report 3 "wstty" ["one.ws"]
    let listed := lockedFiles.report 3 "wstty" ["--list", "one.ws"]
    let closed := lockedFiles.report 3 "wstty" ["one.ws", "--input", "in.txt"]
    (run.status = 0 ∧ run.out = Utf8.encode "1" ∧
      run.deeds = [.readSource (some "one.ws"), .openInput .standardInput, .execute onePrinter]) ∧
    (listed.status = 0 ∧ (∃ text, onePrinter.ListedBy text ∧ listed.out = Utf8.encode text) ∧
      listed.deeds = [.readSource (some "one.ws")]) ∧
    closed.status = 1 ∧ closed.out = [] ∧
      closed.deeds = [.readSource (some "one.ws"), .openInput (.file "in.txt")] := by
  intro run listed closed
  have hread : (Program.read onePrinterSource).toOption = some onePrinter := by decide +kernel
  have hsupplies : ∀ o : Options, o.file = some "one.ws" → lockedFiles.Supplies o onePrinter := by
    intro o hfile
    refine ⟨onePrinterSource, ?_, ?_⟩
    · rw [hfile]
      rfl
    · cases hr : Program.read onePrinterSource with
      | ok p =>
        rw [hr] at hread
        exact congrArg Except.ok (Option.some.inj hread)
      | error e =>
        rw [hr] at hread
        cases hread
  refine ⟨?_, ?_, ?_⟩
  · let o : Options := { file := some "one.ws" }
    have hasks : Asks {} ["one.ws"] (.proceed o) := Request.read_eq_iff.mp (by decide +kernel)
    have hfeeds : lockedFiles.Feeds o {} := .standardInput rfl rfl
    let plain := Session.plain onePrinter {} {}
    have hreturns : plain.Returns 3 (plain.after 3, .halted .exit) :=
      .again (by decide +kernel) (.again (by decide +kernel) (.halted (by decide +kernel)))
    have hrun := ((command_outcome lockedFiles "wstty" ["one.ws"]).2.2.2 o hasks rfl).2 onePrinter
      (hsupplies o rfl)
    obtain ⟨hdeeds, hreturned, -⟩ := (hrun.2 rfl).2.2 {} hfeeds 3
    obtain ⟨hout, hstatus, -⟩ := hreturned 3 _ hreturns (by decide)
    exact ⟨hstatus.mpr ⟨.exit, rfl⟩, hout.trans (by decide +kernel), hdeeds⟩
  · let o : Options := { file := some "one.ws", list := true }
    have hasks : Asks {} ["--list", "one.ws"] (.proceed o) :=
      Request.read_eq_iff.mp (by decide +kernel)
    have hlist := ((command_outcome lockedFiles "wstty" ["--list", "one.ws"]).2.2.2 o hasks rfl).2
      onePrinter (hsupplies o rfl)
    obtain ⟨r, hstatus, hout, hdeeds, hsame⟩ := hlist.1 rfl
    have hr : listed = r := hsame lockedFiles 3 rfl
    rw [hr]
    exact ⟨hstatus, hout, hdeeds⟩
  · let o : Options := { file := some "one.ws", input := some "in.txt" }
    have hasks : Asks {} ["one.ws", "--input", "in.txt"] (.proceed o) :=
      Request.read_eq_iff.mp (by decide +kernel)
    have hclosed := ((command_outcome lockedFiles "wstty" ["one.ws", "--input", "in.txt"]).2.2.2 o
      hasks rfl).2 onePrinter (hsupplies o rfl)
    obtain ⟨r, hstatus, hout, hdeeds, hsame⟩ := (hclosed.2 rfl).1 "in.txt" _ rfl rfl
    have hr : closed = r := hsame lockedFiles 3 rfl rfl
    rw [hr]
    exact ⟨hstatus, hout, hdeeds⟩

end Backstep
