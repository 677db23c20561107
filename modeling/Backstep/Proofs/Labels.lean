import Backstep.Proofs.Attempt
import Backstep.Proofs.Steps

/-! The label table is filled as labels are passed, and completed by the first
look-up that misses, but it always answers like a table of the whole program.
Until it is complete, the instructions passed so far are the first `k` of the
program, the table knows the first definitions among them, and control can only
go to places below `k`: the program counter, the returns and the snapshots. -/
namespace Backstep

/-- The index of the first instruction that defines the label. -/
def Program.firstDefinition? (p : Program) (l : Label) : Option Nat :=
  p.instructions.toList.findIdx? fun i => i.defines? = some l

namespace Program

variable {p : Program} {l : Label}

theorem firstDefinition?_eq_some {k : Nat} :
    p.firstDefinition? l = some k ↔
      (∃ i, p.get? k = some i ∧ i.defines? = some l) ∧
        ∀ j < k, ∀ i, p.get? j = some i → i.defines? ≠ some l := by
  simp only [firstDefinition?, List.findIdx?_eq_some_iff_getElem, get?, decide_eq_true_eq,
    Array.getElem_toList, Array.length_toList]
  constructor
  · rintro ⟨hk, hd, hlt⟩
    refine ⟨⟨_, Array.getElem?_eq_getElem hk, hd⟩, ?_⟩
    intro j hj i hi
    obtain ⟨hjs, rfl⟩ := Array.getElem?_eq_some_iff.mp hi
    exact hlt j hj
  · rintro ⟨⟨i, hi, hd⟩, hlt⟩
    obtain ⟨hk, rfl⟩ := Array.getElem?_eq_some_iff.mp hi
    refine ⟨hk, hd, ?_⟩
    intro j hj
    exact hlt j hj _ (Array.getElem?_eq_getElem (by omega))

theorem firstDefinition?_eq_none :
    p.firstDefinition? l = none ↔ ∀ k i, p.get? k = some i → i.defines? ≠ some l := by
  simp only [firstDefinition?, List.findIdx?_eq_none_iff, decide_eq_false_iff_not, get?]
  constructor
  · intro h k i hi
    exact h i (by simpa using Array.mem_of_getElem? hi)
  · intro h i hi
    obtain ⟨k, hk⟩ := Array.getElem?_of_mem (by simpa using hi)
    exact h k i hk

theorem firstDefinition?_eq_none_iff :
    p.firstDefinition? l = none ↔ ∀ i ∈ p.instructions, i.defines? ≠ some l := by
  simp [firstDefinition?]

theorem firstDefinition?_lt_size {k : Nat} (h : p.firstDefinition? l = some k) : k < p.size := by
  obtain ⟨⟨i, hi, -⟩, -⟩ := firstDefinition?_eq_some.mp h
  exact (Array.getElem?_eq_some_iff.mp hi).1

theorem firstDefinition?_of_defines {k : Nat} {i : Instruction} (hi : p.get? k = some i)
    (hd : i.defines? = some l) : ∃ j ≤ k, p.firstDefinition? l = some j := by
  cases hf : p.firstDefinition? l with
  | none => exact absurd hd (firstDefinition?_eq_none.mp hf k i hi)
  | some j =>
    refine ⟨j, ?_, rfl⟩
    by_cases hjk : j ≤ k
    · exact hjk
    · exact absurd hd ((firstDefinition?_eq_some.mp hf).2 k (by omega) i hi)

theorem find?_definitions (is : List Instruction) (l : Label) (n : Nat) :
    (((is.zipIdx n).filterMap fun (i, index) => i.defines?.map fun l => (l, index)).find?
      fun entry => entry.1 = l).map Prod.snd =
      (is.findIdx? fun i => i.defines? = some l).map (· + n) := by
  induction is generalizing n with
  | nil => rfl
  | cons i is ih =>
    rw [List.zipIdx_cons, List.filterMap_cons, List.findIdx?_cons]
    have hshift : ∀ o : Option Nat, (o.map fun k => k + (n + 1)) = (o.map (· + 1)).map (· + n) := by
      intro o
      cases o with
      | none => rfl
      | some k => simp only [Option.map_some, Option.some.injEq]; omega
    cases hd : i.defines? with
    | none =>
      simp only [hd, Option.map_none, reduceCtorEq, decide_false, Bool.false_eq_true, if_false]
      rw [ih, hshift]
    | some l' =>
      simp only [hd, Option.map_some, List.find?_cons, Option.some.injEq]
      by_cases hl : l' = l
      · simp only [hl, decide_true, if_true, Option.map_some, Nat.zero_add]
      · simp only [hl, decide_false, Bool.false_eq_true, if_false]
        rw [ih, hshift]

end Program

namespace LabelTable

variable {p : Program} {t : LabelTable}

theorem getElem?_foldl_insertIfNew (definitions : List (Label × Nat))
    (entries : Std.ExtHashMap Label Nat) (l : Label) :
    (definitions.foldl (fun entries (l, index) => entries.insertIfNew l index) entries)[l]? =
      (entries[l]?).or ((definitions.find? fun entry => entry.1 = l).map Prod.snd) := by
  induction definitions generalizing entries with
  | nil => simp
  | cons entry definitions ih =>
    obtain ⟨l', index⟩ := entry
    rw [List.foldl_cons, ih, Std.ExtHashMap.getElem?_insertIfNew, List.find?_cons]
    by_cases hl : l' = l
    · subst hl
      by_cases hm : l' ∈ entries
      · simp [hm]
      · simp [hm]
    · simp [hl]

theorem find?_ofProgram (p : Program) (l : Label) :
    (ofProgram p).find? l = p.firstDefinition? l := by
  have hd := Program.find?_definitions p.instructions.toList l 0
  rw [find?, ofProgram, getElem?_foldl_insertIfNew]
  simpa [Program.definitions, Program.firstDefinition?] using hd

/-- The table answers for the first `k` instructions, and for all of them once it is complete. -/
structure Knows (t : LabelTable) (p : Program) (k : Nat) : Prop where
  find : ∀ l, t.find? l = (p.firstDefinition? l).filter (· < k)
  whole : t.complete = true → p.size ≤ k

variable {k : Nat} {l : Label} {i : Instruction}

theorem filter_firstDefinition? (h : p.size ≤ k) (l : Label) :
    (p.firstDefinition? l).filter (· < k) = p.firstDefinition? l := by
  cases hf : p.firstDefinition? l with
  | none => rfl
  | some j =>
    have hj := Program.firstDefinition?_lt_size hf
    rw [Option.filter_some, if_pos (by simp; omega)]

theorem knows_empty (p : Program) : ({} : LabelTable).Knows p 0 := by
  refine ⟨fun l => ?_, fun h => nomatch h⟩
  rw [find?_empty]
  cases p.firstDefinition? l <;> rfl

theorem knows_ofProgram (h : p.size ≤ k) : (ofProgram p).Knows p k :=
  ⟨fun l => by rw [find?_ofProgram, filter_firstDefinition? h], fun _ => h⟩

theorem Knows.find?_eq (h : t.Knows p k) (hk : p.size ≤ k) (l : Label) :
    t.find? l = p.firstDefinition? l := by
  rw [h.find, filter_firstDefinition? hk]

theorem Knows.lt_of_find? (h : t.Knows p k) {target : Nat} (hf : t.find? l = some target) :
    p.firstDefinition? l = some target ∧ target < k := by
  rw [h.find, Option.filter_eq_some_iff] at hf
  exact ⟨hf.1, by simpa using hf.2⟩

/-- A look-up gives the first definition, and what the table knows only grows. -/
theorem Knows.resolve (h : t.Knows p k) (l : Label) :
    (t.resolve p l).1 = p.firstDefinition? l ∧
      ∃ k' ≥ k, (t.resolve p l).2.Knows p k' ∧
        ∀ target, p.firstDefinition? l = some target → target < k' := by
  rw [LabelTable.resolve]
  cases hf : t.find? l with
  | some target =>
    obtain ⟨hfirst, hlt⟩ := h.lt_of_find? hf
    refine ⟨hfirst.symm, k, Nat.le_refl k, h, ?_⟩
    intro target' ht
    rw [hfirst] at ht
    cases ht
    exact hlt
  | none =>
    cases hc : t.complete with
    | true =>
      have hnone := h.find?_eq (h.whole hc) l
      rw [hf] at hnone
      refine ⟨hnone, k, Nat.le_refl k, h, ?_⟩
      intro target ht
      rw [← hnone] at ht
      cases ht
    | false =>
      refine ⟨find?_ofProgram p l, max k p.size, Nat.le_max_left _ _,
        knows_ofProgram (Nat.le_max_right _ _), ?_⟩
      intro target ht
      have hlt := Program.firstDefinition?_lt_size ht
      omega

theorem Knows.grow (h : t.Knows p k) (hk : p.size ≤ k) {k' : Nat} (hle : k ≤ k') :
    t.Knows p k' := by
  have hk' : p.size ≤ k' := Nat.le_trans hk hle
  exact ⟨fun l => by rw [h.find?_eq hk, filter_firstDefinition? hk'], fun _ => hk'⟩

theorem filter_succ (hi : p.get? k = some i) (hd : i.defines? ≠ some l) :
    (p.firstDefinition? l).filter (· < k) = (p.firstDefinition? l).filter (· < k + 1) := by
  cases hf : p.firstDefinition? l with
  | none => rfl
  | some j =>
    have hne : j ≠ k := by
      rintro rfl
      obtain ⟨⟨i', hi', hd'⟩, -⟩ := Program.firstDefinition?_eq_some.mp hf
      rw [hi] at hi'
      cases hi'
      exact hd hd'
    have hiff : j < k ↔ j < k + 1 := by omega
    simp only [Option.filter_some, hiff]

theorem Knows.succ (h : t.Knows p k) (hi : p.get? k = some i) (hd : i.defines? = none) :
    t.Knows p (k + 1) := by
  refine ⟨fun l => ?_, fun hc => Nat.le_succ_of_le (h.whole hc)⟩
  rw [h.find]
  exact filter_succ hi (by simp [hd])

theorem Knows.record_succ (h : t.Knows p k) (hi : p.get? k = some i) (hd : i.defines? = some l) :
    (t.record l k).Knows p (k + 1) := by
  cases hc : t.complete with
  | true =>
    simp only [record, hc, if_true]
    exact h.grow (h.whole hc) (Nat.le_succ k)
  | false =>
    refine ⟨fun l' => ?_, fun hc' => ?_⟩
    · rw [find?_record, h.find, h.find]
      obtain ⟨j, hj, hfirst⟩ := Program.firstDefinition?_of_defines hi hd
      by_cases hl : l = l'
      · subst hl
        rw [hfirst, Option.filter_some, Option.filter_some]
        by_cases hlt : j < k
        · have hlt' : j < k + 1 := by omega
          simp [hlt, hlt']
        · have hjk : j = k := by omega
          simp [hjk, hc]
      · simp only [hl, false_and, and_false, if_false]
        exact filter_succ hi (by simpa [hd] using hl)
    · simp [record, hc] at hc'

theorem Knows.record_of_lt (h : t.Knows p k) {index : Nat} (hlt : index < k)
    (hi : p.get? index = some i) (hd : i.defines? = some l) : (t.record l index).Knows p k := by
  obtain ⟨j, hj, hfirst⟩ := Program.firstDefinition?_of_defines hi hd
  have hjk : j < k := by omega
  have hsome : t.find? l = some j := by
    rw [h.find, hfirst, Option.filter_some, if_pos (by simpa using hjk)]
  refine ⟨fun l' => ?_, fun hc => h.whole ?_⟩
  · rw [find?_record, hsome, ← h.find]
    simp
  · rw [record] at hc
    split at hc
    · exact hc
    · exact hc

theorem Knows.pass (h : t.Knows p k) {index : Nat} (hle : index ≤ k) (hi : p.get? index = some i)
    (hd : i.defines? = none) : ∃ k' ≥ k, index < k' ∧ t.Knows p k' := by
  by_cases hlt : index < k
  · exact ⟨k, Nat.le_refl k, hlt, h⟩
  · obtain rfl : index = k := by omega
    exact ⟨index + 1, Nat.le_succ index, Nat.lt_succ_self index, h.succ hi hd⟩

theorem Knows.note (h : t.Knows p k) {index : Nat} (hle : index ≤ k) (hi : p.get? index = some i)
    (hd : i.defines? = some l) : ∃ k' ≥ k, index < k' ∧ (t.record l index).Knows p k' := by
  by_cases hlt : index < k
  · exact ⟨k, Nat.le_refl k, hlt, h.record_of_lt hlt hi hd⟩
  · obtain rfl : index = k := by omega
    exact ⟨index + 1, Nat.le_succ index, Nat.lt_succ_self index, h.record_succ hi hd⟩

end LabelTable

/-! Control stays among the instructions that were passed. -/

theorem CallStack.frames_of_pop? {s rest : CallStack} {frame : Frame}
    (h : s.pop? = some (frame, rest)) : s.frames = frame :: rest.frames := by
  rw [pop?] at h
  split at h
  · next hf =>
    cases h
    exact hf
  · cases h

/-- Control goes on, and every call returns, within the first `k` instructions or right after. -/
def State.Within (k : Nat) (s : State) : Prop :=
  s.pc ≤ k ∧ ∀ frame ∈ s.calls.frames, frame.returnTo ≤ k

namespace State

variable {s next : State} {k : Nat}

theorem Within.mono {k' : Nat} (h : s.Within k) (hle : k ≤ k') : s.Within k' :=
  ⟨Nat.le_trans h.1 hle, fun frame hf => Nat.le_trans (h.2 frame hf) hle⟩

theorem Within.stays (h : s.Within k) (hs : s.Stays next) : next.Within k := by
  refine ⟨?_, ?_⟩
  · rw [hs.pc]
    exact h.1
  · rw [hs.calls]
    exact h.2

theorem Within.leave (h : s.Within k) {frame : Frame}
    (hc : s.calls.pop? = some (frame, next.calls)) (hp : next.pc = frame.returnTo) :
    next.Within k := by
  have hframes := CallStack.frames_of_pop? hc
  refine ⟨?_, ?_⟩
  · rw [hp]
    exact h.2 frame (by rw [hframes]; exact List.mem_cons_self)
  · intro f hf
    exact h.2 f (by rw [hframes]; exact List.mem_cons_of_mem frame hf)

theorem Within.enter (h : s.Within k) {target : Nat} (ht : target ≤ k) {index : Nat} {l : Label}
    (hp : next.pc = target)
    (hc : next.calls = s.calls ∨ next.calls = s.calls.push ⟨index, s.pc, l⟩) :
    next.Within k := by
  refine ⟨by rw [hp]; exact ht, ?_⟩
  rcases hc with hc | hc
  · rw [hc]
    exact h.2
  · rw [hc]
    intro frame hf
    rcases List.mem_cons.mp hf with rfl | hf
    · exact h.1
    · exact h.2 frame hf

end State

namespace Machine

variable {p : Program} {i : Instruction} {m : Machine} {k : Nat}

theorem intent_of_defines {l : Label} (hd : i.defines? = some l) : m.intent i = .note l := by
  rw [Instruction.defines?] at hd
  split at hd
  · next ho =>
    simp only [intent, State.intent, ho, Intent.withLabel, Instruction.label_eq_ok.mpr hd]
  · cases hd

theorem Fulfilled.knows {index : Nat} {intent : Intent} {a : Attempt}
    (hf : Fulfilled p index m intent a) (hs : intent.Steers m.state index i)
    (hd : i.defines? = none) (ht : m.labels.Knows p k) (hw : m.state.Within k) :
    ∃ k' ≥ k, a.machine.labels.Knows p k' ∧ a.machine.state.Within k' := by
  cases hf with
  | failed f => exact ⟨k, Nat.le_refl k, ht, hw⟩
  | changed next =>
    refine ⟨k, Nat.le_refl k, ht, ?_⟩
    rcases hs with hs | ⟨-, frame, hc, hp, -⟩ | ⟨-, rfl⟩
    · exact hw.stays hs
    · exact hw.leave hc hp
    · exact hw
  | noted l =>
    have hl : i.defines? = some l := hs
    rw [hd] at hl
    cases hl
  | @landed labels target l land hr =>
    obtain ⟨hfirst, k', hk', ht', hlt⟩ := ht.resolve l
    rw [hr] at hfirst ht'
    obtain ⟨-, hland⟩ := hs
    obtain ⟨hp, -, hc⟩ := hland target
    have htarget := hlt target hfirst.symm
    have hcalls : (land target).calls = m.state.calls ∨
        (land target).calls = m.state.calls.push ⟨index, m.state.pc, l⟩ := by
      rcases hc with ⟨-, hc⟩ | ⟨-, hc⟩
      · exact Or.inl hc
      · exact Or.inr hc
    exact ⟨k', hk', ht', (hw.mono hk').enter (Nat.le_of_lt htarget) hp hcalls⟩
  | lost l land hr =>
    obtain ⟨-, k', hk', ht', -⟩ := ht.resolve l
    rw [hr] at ht'
    exact ⟨k', hk', ht', hw.mono hk'⟩
  | printed text next ho => exact ⟨k, Nat.le_refl k, ht, hw.stays hs⟩
  | unprinted text next ho => exact ⟨k, Nat.le_refl k, ht, hw.stays hs⟩
  | got v input => exact ⟨k, Nat.le_refl k, ht, hw⟩
  | missed f input => exact ⟨k, Nat.le_refl k, ht, hw⟩

theorem finish_within {a : Attempt} {index : Nat} (hle : index ≤ k)
    (hw : a.machine.state.Within k) : (finish p index a).machine.state.Within k := by
  rw [finish]
  split
  · exact hw
  · exact ⟨hle, hw.2⟩

theorem labels_finish (p : Program) (index : Nat) (a : Attempt) :
    (finish p index a).machine.labels = a.machine.labels := by
  rw [finish]
  split <;> rfl

theorem attempt_knows (ht : m.labels.Knows p k) (hw : m.state.Within k)
    (hi : p.get? m.state.pc = some i) :
    ∃ k' ≥ k, (m.attempt p i).machine.labels.Knows p k' ∧
      (m.attempt p i).machine.state.Within k' := by
  rw [attempt_eq, labels_finish]
  cases hd : i.defines? with
  | some l =>
    obtain ⟨k', hk', hlt, ht'⟩ := ht.note hw.1 hi hd
    rw [intent_of_defines hd]
    exact ⟨k', hk', ht', finish_within (Nat.le_of_lt hlt) ⟨hlt, (hw.mono hk').2⟩⟩
  | none =>
    obtain ⟨k₁, hk₁, hlt, ht₁⟩ := ht.pass hw.1 hi hd
    have hpassed : m.passed.state.Within k₁ := ⟨hlt, (hw.mono hk₁).2⟩
    obtain ⟨k₂, hk₂, ht₂, hw₂⟩ :=
      (m.passed.fulfil_fulfilled p m.state.pc (m.intent i)).knows (m.intent_steers i) hd ht₁ hpassed
    exact ⟨k₂, Nat.le_trans hk₁ hk₂, ht₂, finish_within (by omega) hw₂⟩

end Machine
end Backstep
