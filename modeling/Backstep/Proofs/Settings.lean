import Backstep.Command.Options

/-! How a command line is read: one setting after another from the left, up to its end
or to the first argument that asks for help or cannot be used. What stands behind
that argument does not matter. -/
namespace Backstep

def helpFlags : List String :=
  ["-h", "--help"]

/-- The arguments with a dash in front that are known. -/
def knownFlags : List String :=
  helpFlags ++ ["--list", "--tui", "--verbose", "--input", "--history-limit", "-"]

/-- A program file has no dash in front. -/
def NamesFile (s : String) : Prop :=
  s.toList.head? ≠ some '-'

/-- One setting of a command line, from the options before it to those after it. A dash takes back
the program file that was named before. -/
inductive Setting (o : Options) : List String → Options → Prop
  | list : Setting o ["--list"] { o with list := true }
  | viewer : Setting o ["--tui"] { o with viewer := true }
  | verbose : Setting o ["--verbose"] { o with verbose := true }
  | input (path : String) : Setting o ["--input", path] { o with input := some path }
  | historyLimit {count : String} {n : Nat} : byteCount? count = some n →
      Setting o ["--history-limit", count] { o with historyLimit := n }
  | standardInput : Setting o ["-"] { o with file := none }
  | file {path : String} : NamesFile path → o.file = none →
      Setting o [path] { o with file := some path }

/-- With these options set, the arguments that are left cannot be used. -/
inductive Unusable (o : Options) : List String → UsageError → Prop
  | inputWithoutFile : Unusable o ["--input"] .inputWithoutFile
  | limitWithoutCount {rest : List String} : (∀ count ∈ rest.head?, byteCount? count = none) →
      Unusable o ("--history-limit" :: rest) .limitWithoutCount
  | unknownOption {flag : String} (rest : List String) : ¬ NamesFile flag → flag ∉ knownFlags →
      Unusable o (flag :: rest) (.unknownOption flag)
  | secondFile {path : String} (rest : List String) : NamesFile path → o.file ≠ none →
      Unusable o (path :: rest) .secondFile
  | viewerWithoutFile : o.viewer = true → o.file = none → Unusable o [] .viewerWithoutFile

/-- What a command line comes to when these options are set before it. -/
inductive Asks : Options → List String → Request → Prop
  | help {o : Options} {flag : String} (rest : List String) : flag ∈ helpFlags →
      Asks o (flag :: rest) .help
  | refuse {o : Options} {args : List String} {e : UsageError} : Unusable o args e →
      Asks o args (.refuse e)
  | proceed {o : Options} : (o.viewer = true → o.file ≠ none) → Asks o [] (.proceed o)
  | setting {o next : Options} {first rest : List String} {r : Request} :
      Setting o first next → Asks next rest r → Asks o (first ++ rest) r

namespace Argument

theorem ofString_of_namesFile {s : String} (h : NamesFile s) : ofString s = .file s := by
  have hne : ∀ t : String, t.toList.head? = some '-' → s ≠ t := by
    rintro t ht rfl
    exact h ht
  have hdash : s.toList.head? ≠ some '-' := h
  rw [ofString, if_neg (not_or.mpr ⟨hne _ rfl, hne _ rfl⟩), if_neg (hne _ rfl), if_neg (hne _ rfl),
    if_neg (hne _ rfl), if_neg (hne _ rfl), if_neg (hne _ rfl), if_neg (hne _ rfl), if_neg hdash]

theorem ofString_of_unknown {s : String} (h : ¬ NamesFile s) (hk : s ∉ knownFlags) :
    ofString s = .unknown s := by
  have hdash : s.toList.head? = some '-' := Decidable.not_not.mp h
  simp only [knownFlags, helpFlags, List.cons_append, List.nil_append, List.mem_cons,
    List.not_mem_nil, or_false, not_or] at hk
  obtain ⟨h1, h2, h3, h4, h5, h6, h7, h8⟩ := hk
  rw [ofString, if_neg (not_or.mpr ⟨h1, h2⟩), if_neg h3, if_neg h4, if_neg h5, if_neg h6,
    if_neg h7, if_neg h8, if_pos hdash]

/-- What is known of an argument from its role. -/
def Spelled (s : String) : Argument → Prop
  | .help => s ∈ helpFlags
  | .list => s = "--list"
  | .viewer => s = "--tui"
  | .verbose => s = "--verbose"
  | .input => s = "--input"
  | .historyLimit => s = "--history-limit"
  | .standardInput => s = "-"
  | .unknown flag => s = flag ∧ ¬ NamesFile s ∧ s ∉ knownFlags
  | .file path => s = path ∧ NamesFile s

theorem spelled_ofString (s : String) : Spelled s (ofString s) := by
  by_cases hfile : NamesFile s
  · rw [ofString_of_namesFile hfile]
    exact ⟨rfl, hfile⟩
  · by_cases hknown : s ∈ knownFlags
    · simp only [knownFlags, helpFlags, List.cons_append, List.nil_append, List.mem_cons,
        List.not_mem_nil, or_false] at hknown
      rcases hknown with rfl | rfl | rfl | rfl | rfl | rfl | rfl | rfl <;>
        simp [ofString, Spelled, helpFlags]
    · rw [ofString_of_unknown hfile hknown]
      exact ⟨rfl, hfile, hknown⟩

theorem spelled_of_eq {s : String} {a : Argument} (h : ofString s = a) : Spelled s a :=
  h ▸ spelled_ofString s

end Argument

namespace Request

variable {o next : Options}

theorem readFrom_of_setting {first : List String} (h : Setting o first next)
    (rest : List String) : readFrom o (first ++ rest) = readFrom next rest := by
  cases h with
  | historyLimit hn =>
    have ha : Argument.ofString "--history-limit" = .historyLimit := rfl
    rw [readFrom.eq_def]
    simp only [List.cons_append, List.nil_append, ha, hn]
  | file hpath hnone =>
    rw [List.singleton_append, readFrom.eq_def]
    simp only [Argument.ofString_of_namesFile hpath, hnone]
  | _ => rfl

theorem readFrom_of_unusable {args : List String} {e : UsageError} (h : Unusable o args e) :
    readFrom o args = .refuse e := by
  cases h with
  | inputWithoutFile => rfl
  | @limitWithoutCount rest hcount =>
    cases rest with
    | nil => rfl
    | cons count rest =>
      have ha : Argument.ofString "--history-limit" = .historyLimit := rfl
      rw [readFrom.eq_def]
      simp only [ha, hcount count rfl]
  | unknownOption rest hdash hflag =>
    rw [readFrom.eq_def]
    simp only [Argument.ofString_of_unknown hdash hflag]
  | secondFile rest hpath hsome =>
    obtain ⟨first, hfirst⟩ := Option.ne_none_iff_exists'.mp hsome
    rw [readFrom.eq_def]
    simp only [Argument.ofString_of_namesFile hpath, hfirst]
  | viewerWithoutFile hviewer hnone =>
    rw [readFrom, if_pos ⟨hviewer, hnone⟩]

theorem readFrom_of_asks {args : List String} {r : Request} (h : Asks o args r) :
    readFrom o args = r := by
  induction h with
  | help rest hflag =>
    simp only [helpFlags, List.mem_cons, List.not_mem_nil, or_false] at hflag
    rcases hflag with rfl | rfl <;> rfl
  | refuse hu => exact readFrom_of_unusable hu
  | proceed hfile =>
    rw [readFrom, if_neg]
    exact fun h => hfile h.1 h.2
  | setting hs _ ih => rw [readFrom_of_setting hs, ih]

open Argument in
theorem asks_readFrom (o : Options) (args : List String) : Asks o args (readFrom o args) := by
  fun_induction readFrom o args with
  | case1 o hfile => exact .refuse (.viewerWithoutFile hfile.1 hfile.2)
  | case2 o hfile => exact .proceed fun hviewer hnone => hfile ⟨hviewer, hnone⟩
  | case3 o arg args ha => exact .help args (spelled_of_eq ha)
  | case4 o arg args ha ih =>
    obtain rfl : arg = "--list" := spelled_of_eq ha
    exact .setting .list ih
  | case5 o arg args ha ih =>
    obtain rfl : arg = "--tui" := spelled_of_eq ha
    exact .setting .viewer ih
  | case6 o arg args ha ih =>
    obtain rfl : arg = "--verbose" := spelled_of_eq ha
    exact .setting .verbose ih
  | case7 o arg ha =>
    obtain rfl : arg = "--input" := spelled_of_eq ha
    exact .refuse .inputWithoutFile
  | case8 o arg ha path args ih =>
    obtain rfl : arg = "--input" := spelled_of_eq ha
    exact .setting (.input path) ih
  | case9 o arg ha =>
    obtain rfl : arg = "--history-limit" := spelled_of_eq ha
    exact .refuse (.limitWithoutCount fun count hc => nomatch hc)
  | case10 o arg ha count args n hn ih =>
    obtain rfl : arg = "--history-limit" := spelled_of_eq ha
    exact .setting (.historyLimit hn) ih
  | case11 o arg ha count args hnone =>
    obtain rfl : arg = "--history-limit" := spelled_of_eq ha
    refine .refuse (.limitWithoutCount fun c hc => ?_)
    cases hc
    exact hnone
  | case12 o arg args ha ih =>
    obtain rfl : arg = "-" := spelled_of_eq ha
    exact .setting .standardInput ih
  | case13 o arg args flag ha =>
    obtain ⟨rfl, hdash, hunknown⟩ := spelled_of_eq ha
    exact .refuse (.unknownOption args hdash hunknown)
  | case14 o arg args path ha first hfirst =>
    obtain ⟨rfl, hfile⟩ := spelled_of_eq ha
    exact .refuse (.secondFile args hfile (by simp [hfirst]))
  | case15 o arg args path ha hnone ih =>
    obtain ⟨rfl, hfile⟩ := spelled_of_eq ha
    exact .setting (.file hfile hnone) ih

theorem read_eq_iff {args : List String} {r : Request} : read args = r ↔ Asks {} args r := by
  constructor
  · rintro rfl
    exact asks_readFrom {} args
  · exact readFrom_of_asks

end Request
end Backstep
