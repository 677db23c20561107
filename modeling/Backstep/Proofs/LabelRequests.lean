import Backstep.Proofs.FilledTable
import Mathlib.Data.Finset.Card
import Mathlib.Data.Finset.Dedup

/-! The label table under any requests, also such as no run makes. It goes by what was
noted first, rightly or wrongly, up to the first look-up that misses. From that
look-up on it is the table of the program, and nothing changes it any more. -/
namespace Backstep

namespace Program

/-- The labels in the order of their definitions. -/
def definedLabels (p : Program) : List Label :=
  p.instructions.toList.filterMap Instruction.defines?

theorem map_fst_definitions (p : Program) : p.definitions.map Prod.fst = p.definedLabels := by
  have hlabel : ∀ entry : Instruction × Nat,
      (entry.1.defines?.map fun l => (l, entry.2)).map Prod.fst = entry.1.defines? := by
    intro entry
    cases entry.1.defines? <;> rfl
  calc p.definitions.map Prod.fst
    _ = p.instructions.toList.zipIdx.filterMap (Instruction.defines? ∘ Prod.fst) := by
      rw [definitions, List.map_filterMap]
      exact List.filterMap_congr fun entry _ => hlabel entry
    _ = p.definedLabels := by
      rw [← List.filterMap_map, List.zipIdx_map_fst, definedLabels]

end Program

namespace LabelTable

theorem mem_foldl_insertIfNew (definitions : List (Label × Nat)) (l : Label) :
    l ∈ definitions.foldl (fun entries (l, index) => entries.insertIfNew l index)
        ({} : Std.ExtHashMap Label Nat) ↔ l ∈ (definitions.map Prod.fst).toFinset := by
  rw [Std.ExtHashMap.mem_iff_isSome_getElem?, getElem?_foldl_insertIfNew]
  simp

theorem size_foldl_insertIfNew (definitions : List (Label × Nat)) :
    (definitions.foldl (fun entries (l, index) => entries.insertIfNew l index)
      ({} : Std.ExtHashMap Label Nat)).size = (definitions.map Prod.fst).toFinset.card := by
  induction definitions using List.reverseRecOn with
  | nil => exact Std.ExtHashMap.size_empty
  | append_singleton definitions entry ih =>
    have hnames : ((definitions ++ [entry]).map Prod.fst).toFinset =
        insert entry.1 (definitions.map Prod.fst).toFinset := by
      ext l
      simp
    have hmem := mem_foldl_insertIfNew definitions entry.1
    rw [List.foldl_append, List.foldl_cons, List.foldl_nil, hnames,
      Std.ExtHashMap.size_insertIfNew]
    by_cases hnew : entry.1 ∈ (definitions.map Prod.fst).toFinset
    · rw [if_pos (hmem.mpr hnew), ih, Finset.insert_eq_of_mem hnew]
    · rw [if_neg fun h => hnew (hmem.mp h), ih, Finset.card_insert_of_notMem hnew]

theorem count_ofProgram (p : Program) : (ofProgram p).count = p.definedLabels.toFinset.card := by
  rw [count, ofProgram, size_foldl_insertIfNew, Program.map_fst_definitions]

inductive Request where
  | record (l : Label) (index : Nat)
  | resolve (l : Label)
  deriving DecidableEq

/-- The table after a request. -/
def serve (p : Program) (t : LabelTable) : Request → LabelTable
  | .record l index => t.record l index
  | .resolve l => (t.resolve p l).2

def serveAll (p : Program) (t : LabelTable) (requests : List Request) : LabelTable :=
  requests.foldl (serve p) t

/-- The index that was recorded first for the label. -/
def firstRecord? (requests : List Request) (l : Label) : Option Nat :=
  requests.findSome? fun
    | .record k index => if k = l then some index else none
    | .resolve _ => none

/-- A label was looked up that had not been recorded by then. -/
def Missed (requests : List Request) : Prop :=
  ∃ before l after, requests = before ++ .resolve l :: after ∧ firstRecord? before l = none

variable {p : Program} {t : LabelTable} {requests : List Request} {l : Label}

theorem firstRecord?_append (requests more : List Request) (l : Label) :
    firstRecord? (requests ++ more) l = (firstRecord? requests l).or (firstRecord? more l) :=
  List.findSome?_append

theorem Missed.append (h : Missed requests) (more : List Request) : Missed (requests ++ more) := by
  obtain ⟨before, l, after, rfl, hl⟩ := h
  exact ⟨before, l, after ++ more, by simp, hl⟩

theorem missed_resolve (h : firstRecord? requests l = none) : Missed (requests ++ [.resolve l]) :=
  ⟨requests, l, [], rfl, h⟩

theorem Missed.of_append_singleton {request : Request} (h : Missed (requests ++ [request])) :
    Missed requests ∨ ∃ l, request = .resolve l ∧ firstRecord? requests l = none := by
  obtain ⟨before, l, after, hsplit, hl⟩ := h
  rcases List.eq_nil_or_concat after with rfl | ⟨after, last, rfl⟩
  · obtain ⟨rfl, hrequest⟩ := List.append_inj' hsplit rfl
    cases hrequest
    exact Or.inr ⟨l, rfl, hl⟩
  · rw [List.concat_eq_append, ← List.cons_append, ← List.append_assoc] at hsplit
    obtain ⟨rfl, -⟩ := List.append_inj' hsplit rfl
    exact Or.inl ⟨before, l, after, rfl, hl⟩

/-- What the table is after the requests. -/
inductive Phase (p : Program) (requests : List Request) (t : LabelTable) : Prop
  | noting : ¬ Missed requests → t.complete = false → (∀ l, t.find? l = firstRecord? requests l) →
      Phase p requests t
  | filled : Missed requests → t = ofProgram p → Phase p requests t

theorem serve_ofProgram (p : Program) (request : Request) :
    (ofProgram p).serve p request = ofProgram p := by
  cases request with
  | record l index => rfl
  | resolve l => rw [serve, resolve_ofProgram]

theorem serveAll_ofProgram (p : Program) (requests : List Request) :
    (ofProgram p).serveAll p requests = ofProgram p := by
  induction requests with
  | nil => rfl
  | cons request requests ih =>
    change ((ofProgram p).serve p request).serveAll p requests = _
    rw [serve_ofProgram, ih]

theorem resolve_of_some {index : Nat} (h : t.find? l = some index) :
    t.resolve p l = (some index, t) := by
  rw [resolve, h]

theorem resolve_of_none (hc : t.complete = false) (h : t.find? l = none) :
    t.resolve p l = (p.firstDefinition? l, ofProgram p) := by
  rw [resolve, h, ← find?_ofProgram]
  simp [hc]

theorem Phase.serve (h : Phase p requests t) (request : Request) :
    Phase p (requests ++ [request]) (t.serve p request) := by
  cases h with
  | filled hm ht =>
    rw [ht, serve_ofProgram]
    exact .filled (hm.append [request]) rfl
  | noting hm hc hf =>
    cases request with
    | record k index =>
      refine .noting ?_ ?_ fun l => ?_
      · intro hmissed
        rcases hmissed.of_append_singleton with h | ⟨l, hrequest, -⟩
        · exact hm h
        · cases hrequest
      · rw [LabelTable.serve, record, hc]
        rfl
      · rw [LabelTable.serve, find?_record, firstRecord?_append, hf, hf]
        by_cases hkl : k = l
        · subst hkl
          cases hfirst : firstRecord? requests k <;> simp [hc, firstRecord?]
        · simp [hkl, firstRecord?]
    | resolve k =>
      rw [LabelTable.serve]
      cases hfirst : firstRecord? requests k with
      | some index =>
        rw [resolve_of_some ((hf k).trans hfirst)]
        refine .noting ?_ hc fun l => ?_
        · intro hmissed
          rcases hmissed.of_append_singleton with h | ⟨l, hrequest, hl⟩
          · exact hm h
          · cases hrequest
            rw [hl] at hfirst
            cases hfirst
        · rw [hf, firstRecord?_append]
          simp [firstRecord?]
      | none =>
        rw [resolve_of_none hc ((hf k).trans hfirst)]
        exact .filled (missed_resolve hfirst) rfl

theorem phase_serveAll (p : Program) (requests : List Request) :
    Phase p requests (({} : LabelTable).serveAll p requests) := by
  induction requests using List.reverseRecOn with
  | nil =>
    refine .noting ?_ rfl find?_empty
    rintro ⟨before, l, after, hsplit, -⟩
    simp at hsplit
  | append_singleton requests request ih =>
    rw [serveAll, List.foldl_append]
    exact ih.serve request

end LabelTable

open LabelTable in
/-- Up to the first miss a look-up finds what was recorded first. The miss builds the table of the
program, and from then on that is what the table is, whatever is asked of it. -/
theorem label_table_of_requests (p : Program) (requests : List LabelTable.Request) :
    let t := ({} : LabelTable).serveAll p requests
    (¬ Missed requests → t.complete = false ∧
      (∀ l index, firstRecord? requests l = some index → t.resolve p l = (some index, t)) ∧
      ∀ l, firstRecord? requests l = none →
        t.resolve p l = (p.firstDefinition? l, .ofProgram p)) ∧
    (Missed requests → t = .ofProgram p ∧ t.complete = true ∧
      (∀ l, (t.resolve p l).1 = p.firstDefinition? l) ∧
      (∀ more, t.serveAll p more = t) ∧ t.count = p.definedLabels.toFinset.card) := by
  intro t
  have hphase : Phase p requests t := phase_serveAll p requests
  cases hphase with
  | noting hm hc hf =>
    refine ⟨fun _ => ⟨hc, ?_, ?_⟩, fun h => absurd h hm⟩
    · intro l index hl
      exact resolve_of_some ((hf l).trans hl)
    · intro l hl
      exact resolve_of_none hc ((hf l).trans hl)
  | filled hm ht =>
    refine ⟨fun h => absurd hm h, fun _ => ?_⟩
    rw [ht]
    refine ⟨rfl, rfl, fun l => ?_, serveAll_ofProgram p, count_ofProgram p⟩
    rw [resolve_ofProgram]

/-- The label `a` is defined twice, and the second definition is the one recorded. -/
theorem label_table_of_requests_twice :
    let a : Label := ⟨[.space, .tab]⟩
    let b : Label := ⟨[.tab]⟩
    let p := Program.ofList [⟨.duplicate, none, {}⟩, ⟨.label, some (.label a), {}⟩,
      ⟨.label, some (.label a), {}⟩]
    let noted := ({} : LabelTable).serveAll p [.record a 2]
    let built := ({} : LabelTable).serveAll p [.record a 2, .resolve b]
    ¬ LabelTable.Missed [.record a 2] ∧ noted.resolve p a = (some 2, noted) ∧
      noted.resolve p b = (none, .ofProgram p) ∧
      LabelTable.Missed [.record a 2, .resolve b] ∧ (built.resolve p a).1 = some 1 ∧
      built.serveAll p [.record b 0] = built ∧ built.count = 1 := by
  intro a b p noted built
  have hnoting : ¬ LabelTable.Missed [.record a 2] := by
    rintro ⟨before, l, after, hsplit, -⟩
    have hmem : LabelTable.Request.resolve l ∈ [LabelTable.Request.record a 2] := by
      rw [hsplit]
      exact List.mem_append_right _ List.mem_cons_self
    cases List.mem_singleton.mp hmem
  have hmissed : LabelTable.Missed [.record a 2, .resolve b] :=
    ⟨[.record a 2], b, [], rfl, by decide⟩
  obtain ⟨hnoted, -⟩ := label_table_of_requests p [.record a 2]
  obtain ⟨-, hfound, hmisses⟩ := hnoted hnoting
  obtain ⟨-, hbuilt⟩ := label_table_of_requests p [.record a 2, .resolve b]
  obtain ⟨-, -, hfirst, hstays, hcount⟩ := hbuilt hmissed
  refine ⟨hnoting, hfound a 2 (by decide), ?_, hmissed, ?_, hstays _, ?_⟩
  · rw [hmisses b (by decide)]
    rfl
  · rw [hfirst a]
    rfl
  · rw [hcount]
    decide

end Backstep
