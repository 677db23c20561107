import Backstep.Proofs.Settings
import Mathlib.Data.List.Chain

/-! The operands of a command line, which are program files and dashes. The last one
decides where the program is read from. Two files next to each other are refused, but a
dash takes back the file before it, and nobody is told of a file that is dropped so. -/
namespace Backstep

instance : DecidablePred NamesFile :=
  fun s => inferInstanceAs (Decidable (s.toList.head? ≠ some '-'))

theorem filter_namesFile {path : String} (h : NamesFile path) :
    (some path).filter (NamesFile ·) = some path :=
  Option.filter_some_pos (decide_eq_true h)

/-- The flags that take the argument behind them as their value. -/
def valueFlags : List String :=
  ["--input", "--history-limit"]

/-- The arguments that are neither options nor values of options: program files and dashes. What
stands behind a flag that asks for help is not read. -/
def operands : List String → List String
  | [] => []
  | arg :: args =>
    if arg ∈ helpFlags then []
    else if arg ∈ valueFlags then
      match args with
      | [] => []
      | _ :: args => operands args
    else if NamesFile arg ∨ arg = "-" then arg :: operands args
    else operands args

theorem namesFile_or_dash {args : List String} {s : String} (h : s ∈ operands args) :
    NamesFile s ∨ s = "-" := by
  fun_induction operands args with
  | case1 => cases h
  | case2 arg args hhelp => cases h
  | case3 arg hhelp hvalue => cases h
  | case4 arg hhelp hvalue value args ih => exact ih h
  | case5 arg args hhelp hvalue hoperand ih =>
    rcases List.mem_cons.mp h with rfl | h
    · exact hoperand
    · exact ih h
  | case6 arg args hhelp hvalue hoption ih => exact ih h

theorem operands_of_help {flag : String} (rest : List String) (h : flag ∈ helpFlags) :
    operands (flag :: rest) = [] := by
  rw [operands.eq_def]
  exact if_pos h

theorem operands_of_value (flag value : String) (rest : List String)
    (hhelp : flag ∉ helpFlags) (h : flag ∈ valueFlags) :
    operands (flag :: value :: rest) = operands rest := by
  rw [operands.eq_def]
  simp only [if_neg hhelp, if_pos h]

theorem operands_of_option (flag : String) (rest : List String) (hhelp : flag ∉ helpFlags)
    (hvalue : flag ∉ valueFlags) (h : ¬ (NamesFile flag ∨ flag = "-")) :
    operands (flag :: rest) = operands rest := by
  rw [operands.eq_def]
  simp only [if_neg hhelp, if_neg hvalue, if_neg h]

theorem operands_of_operand {arg : String} (rest : List String) (h : NamesFile arg ∨ arg = "-") :
    operands (arg :: rest) = arg :: operands rest := by
  have hne : ∀ t : String, ¬ (NamesFile t ∨ t = "-") → arg ≠ t := by
    rintro t ht rfl
    exact ht h
  have hhelp : arg ∉ helpFlags := by
    simp [helpFlags, hne "-h" (by decide), hne "--help" (by decide)]
  have hvalue : arg ∉ valueFlags := by
    simp [valueFlags, hne "--input" (by decide), hne "--history-limit" (by decide)]
  rw [operands.eq_def]
  simp only [if_neg hhelp, if_neg hvalue, if_pos h]

/-- Of two operands next to each other at most one names a file. -/
def Apart (a b : String) : Prop :=
  ¬ (NamesFile a ∧ NamesFile b)

theorem apart_dash (a : String) : Apart a "-" ∧ Apart "-" a :=
  ⟨fun h => h.2 rfl, fun h => h.1 rfl⟩

namespace Options

/-- The program file that was named before, and the operands that are left. -/
def line (o : Options) (args : List String) : List String :=
  o.file.toList ++ operands args

variable {o next final : Options} {args first rest : List String} {r : Request}

theorem line_congr (hfile : o.file = next.file) (h : operands args = operands rest) :
    o.line args = next.line rest := by
  rw [line, line, hfile, h]

/-- A setting takes nothing from the line, or it is a dash that takes back what was named. -/
theorem line_of_setting (h : Setting o first next) (rest : List String) :
    o.line (first ++ rest) = next.line rest ∨
      o.line (first ++ rest) = o.file.toList ++ "-" :: next.line rest := by
  cases h with
  | list =>
    have hflag := operands_of_option "--list" rest (by decide) (by decide) (by decide)
    exact Or.inl (line_congr rfl hflag)
  | viewer =>
    have hflag := operands_of_option "--tui" rest (by decide) (by decide) (by decide)
    exact Or.inl (line_congr rfl hflag)
  | verbose =>
    have hflag := operands_of_option "--verbose" rest (by decide) (by decide) (by decide)
    exact Or.inl (line_congr rfl hflag)
  | input path =>
    have hvalue := operands_of_value "--input" path rest (by decide) (by decide)
    exact Or.inl (line_congr rfl hvalue)
  | @historyLimit count n hn =>
    have hvalue := operands_of_value "--history-limit" count rest (by decide) (by decide)
    exact Or.inl (line_congr rfl hvalue)
  | standardInput =>
    exact Or.inr (congrArg _ (operands_of_operand rest (Or.inr rfl)))
  | file hpath hnone =>
    left
    rw [line, line, hnone, List.singleton_append, operands_of_operand rest (Or.inl hpath)]
    rfl

/-- The file that was named before, if there is one, has no dash in front. -/
def Named (o : Options) : Prop :=
  ∀ path ∈ o.file, NamesFile path

theorem Named.setting (ho : o.Named) (h : Setting o first next) : next.Named := by
  cases h with
  | standardInput =>
    intro path hpath
    cases hpath
  | file hpath hnone =>
    intro path hsome
    cases hsome
    exact hpath
  | _ => exact ho

theorem isChain_file (o : Options) : o.file.toList.IsChain Apart := by
  cases o.file with
  | none => exact .nil
  | some path => exact .singleton path

theorem getLast?_file (ho : o.Named) : o.file.toList.getLast?.filter (NamesFile ·) = o.file := by
  cases hfile : o.file with
  | none => rfl
  | some path => exact filter_namesFile (ho path hfile)

/-- Reading that is not refused meets no two files next to each other. -/
theorem isChain_line (h : Asks o args r) (hr : ∀ e, r ≠ .refuse e) :
    (o.line args).IsChain Apart := by
  induction h with
  | @help o flag rest hflag =>
    rw [line, operands_of_help rest hflag, List.append_nil]
    exact o.isChain_file
  | refuse hu => exact absurd rfl (hr _)
  | @proceed o hfile =>
    rw [line, operands, List.append_nil]
    exact o.isChain_file
  | @setting o next first rest r hs _ ih =>
    have hnext := ih hr
    rcases line_of_setting hs rest with hline | hline
    · rw [hline]
      exact hnext
    · have hdash : ("-" :: next.line rest).IsChain Apart :=
        List.isChain_cons.mpr ⟨fun b _ => (apart_dash b).2, hnext⟩
      rw [hline]
      cases o.file with
      | none => exact hdash
      | some path => exact List.isChain_cons_cons.mpr ⟨(apart_dash path).1, hdash⟩

/-- The program file is the last of the line, unless that is a dash. -/
theorem file_of_asks (ho : o.Named) (h : Asks o args (.proceed final)) :
    final.file = (o.line args).getLast?.filter (NamesFile ·) := by
  generalize hr : Request.proceed final = r at h
  induction h with
  | help rest hflag => cases hr
  | refuse hu => cases hr
  | proceed hfile =>
    cases hr
    rw [line, operands, List.append_nil, getLast?_file ho]
  | @setting o next first rest r hs _ ih =>
    rw [ih (ho.setting hs) hr]
    rcases line_of_setting hs rest with hline | hline
    · rw [hline]
    · rw [hline, List.getLast?_append, List.getLast?_cons]
      cases (next.line rest).getLast? with
      | none => rfl
      | some last => rfl

end Options

namespace Request

variable {args before after : List String} {o : Options} {path first second : String}

theorem file_of_read (h : read args = .proceed o) :
    o.file = (operands args).getLast?.filter (NamesFile ·) := by
  have hnone : ({} : Options).Named := fun path hpath => nomatch hpath
  exact Options.file_of_asks hnone (read_eq_iff.mp h)

theorem apart_of_read (h : ∀ e, read args ≠ .refuse e)
    (hsplit : operands args = before ++ first :: second :: after) : Apart first second := by
  have hchain : (operands args).IsChain Apart := Options.isChain_line (read_eq_iff.mp rfl) h
  exact List.isChain_iff_forall_rel_of_append_cons_cons.mp hchain hsplit

theorem refused_of_files (hsplit : operands args = before ++ first :: second :: after)
    (hfirst : NamesFile first) (hsecond : NamesFile second) : ∃ e, read args = .refuse e := by
  by_contra hnone
  exact apart_of_read (fun e he => hnone ⟨e, he⟩) hsplit ⟨hfirst, hsecond⟩

theorem kept_or_dash (h : read args = .proceed o)
    (hsplit : operands args = before ++ path :: after) (hpath : NamesFile path) :
    after = [] ∧ o.file = some path ∨ ∃ rest, after = "-" :: rest := by
  cases after with
  | nil =>
    have hlast : (operands args).getLast? = some path := by
      rw [hsplit, List.getLast?_append]
      rfl
    refine Or.inl ⟨rfl, ?_⟩
    rw [file_of_read h, hlast, filter_namesFile hpath]
  | cons second after =>
    have hmem : second ∈ operands args := by
      rw [hsplit]
      simp
    rcases namesFile_or_dash hmem with hsecond | rfl
    · obtain ⟨e, he⟩ := refused_of_files hsplit hpath hsecond
      rw [he] at h
      cases h
    · exact Or.inr ⟨after, rfl⟩

/-- Two or more operands that are all files are refused. -/
theorem refused_of_length (hfiles : ∀ s ∈ operands args, NamesFile s)
    (hlength : 1 < (operands args).length) : ∃ e, read args = .refuse e := by
  cases hnamed : operands args with
  | nil =>
    rw [hnamed] at hlength
    cases hlength
  | cons first others =>
    rw [hnamed] at hfiles hlength
    cases others with
    | nil => exact absurd hlength (Nat.lt_irrefl 1)
    | cons second rest =>
      have hstart : operands args = [] ++ first :: second :: rest := hnamed
      exact refused_of_files hstart (hfiles first (by simp)) (hfiles second (by simp))

theorem eq_toList_file (h : read args = .proceed o) (hfiles : ∀ s ∈ operands args, NamesFile s) :
    operands args = o.file.toList := by
  have hshort : ¬ 1 < (operands args).length := by
    intro hlength
    obtain ⟨e, he⟩ := refused_of_length hfiles hlength
    rw [he] at h
    cases h
  rw [file_of_read h]
  cases hnamed : operands args with
  | nil => rfl
  | cons path rest =>
    rw [hnamed] at hfiles hshort
    obtain rfl : rest = [] := by
      rw [List.length_cons] at hshort
      exact List.length_eq_zero_iff.mp (by omega)
    rw [List.getLast?_singleton, filter_namesFile (hfiles path List.mem_cons_self)]
    rfl

end Request

open Request in
/-- The program file of a command line that is accepted is its last operand, unless that is a dash;
so a file is dropped just by a dash right behind it. Two files with no operand between them are
refused. Without a dash at most one file is accepted, and it is the program file. -/
theorem program_file_kept (args : List String) :
    (∀ o, read args = .proceed o →
      o.file = (operands args).getLast?.filter (NamesFile ·) ∧
      ∀ before path after, operands args = before ++ path :: after → NamesFile path →
        after = [] ∧ o.file = some path ∨ ∃ rest, after = "-" :: rest) ∧
    (∀ before first second after, operands args = before ++ first :: second :: after →
      NamesFile first → NamesFile second → ∃ e, read args = .refuse e) ∧
    ("-" ∉ operands args →
      (∀ o, read args = .proceed o → operands args = o.file.toList) ∧
      (1 < (operands args).length → ∃ e, read args = .refuse e)) := by
  refine ⟨?accepted, ?refused, ?undashed⟩
  case accepted =>
    intro o ho
    refine ⟨file_of_read ho, ?_⟩
    intro before path after hsplit hpath
    exact kept_or_dash ho hsplit hpath
  case refused =>
    intro before first second after hsplit hfirst hsecond
    exact refused_of_files hsplit hfirst hsecond
  case undashed =>
    intro hdash
    have hfiles : ∀ s ∈ operands args, NamesFile s := by
      intro s hs
      rcases namesFile_or_dash hs with hs' | rfl
      · exact hs'
      · exact absurd hs hdash
    exact ⟨fun o ho => eq_toList_file ho hfiles, refused_of_length hfiles⟩

/-- One file among options is kept, and a value that looks like a file is none; a second file is
refused, also when an option stands between. -/
theorem program_file_kept_viewer :
    let one := ["--tui", "a.ws", "--input", "b.ws"]
    let two := ["a.ws", "--list", "b.ws"]
    Request.read one = .proceed { viewer := true, file := some "a.ws", input := some "b.ws" } ∧
      "-" ∉ operands one ∧ operands one = ["a.ws"] ∧
      operands two = ["a.ws", "b.ws"] ∧ NamesFile "a.ws" ∧ NamesFile "b.ws" ∧
      ∃ e, Request.read two = .refuse e := by
  intro one two
  have hread : Request.read one =
      .proceed { viewer := true, file := some "a.ws", input := some "b.ws" } := by decide
  have hdash : "-" ∉ operands one := by decide
  have htwo : operands two = [] ++ "a.ws" :: "b.ws" :: [] := by decide
  obtain ⟨-, -, halone⟩ := program_file_kept one
  obtain ⟨-, hrefused, -⟩ := program_file_kept two
  exact ⟨hread, hdash, (halone hdash).1 _ hread, htwo, by decide, by decide,
    hrefused [] "a.ws" "b.ws" [] htwo (by decide) (by decide)⟩

/-- With a dash between them two files are accepted, and the first is dropped; before a dash alone
the only file is. -/
theorem file_before_dash_dropped :
    let two := ["a.ws", "-", "b.ws"]
    let one := ["a.ws", "-"]
    operands two = two ∧ NamesFile "a.ws" ∧ NamesFile "b.ws" ∧
      Request.read two = .proceed { file := some "b.ws" } ∧
      operands one = one ∧ Request.read one = .proceed {} := by
  decide

end Backstep
