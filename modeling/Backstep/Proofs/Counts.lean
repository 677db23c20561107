import Backstep.Proofs.Attempt
import Backstep.Proofs.Bounds

/-! Counts of any size. The operations that take a count copy the value that many
places below the top, or remove that many values there. They fail for every other
count, in the same way however large it is (`counts_of_any_size`). -/
namespace Backstep

namespace Value

theorem index?_eq_some {k : Int} {index : Nat} (h : index? k = some index) : (index : Int) = k := by
  rw [index?] at h
  split at h
  · next hrange =>
    cases h
    exact Int.toNat_of_nonneg hrange.1
  · cases h

theorem index?_eq_none {k : Int} (h : index? k = none) : k < 0 ∨ 0xFFFFFFFFFFFFFFFF < k := by
  have hout : ¬ (0 ≤ k ∧ k ≤ 0xFFFFFFFFFFFFFFFF) := by
    intro hrange
    rw [index?, if_pos hrange] at h
    cases h
  omega

end Value

namespace OperandStack

variable {s t : OperandStack} {below between above : List Value} {v top : Value} {k a b : Int}

@[simp] theorem upward_ofUpward (up : List Value) : (ofUpward up).upward = up := by
  obtain ⟨down, rfl⟩ : ∃ down : List Value, up = down.reverse := ⟨up.reverse, by simp⟩
  induction down with
  | nil => rfl
  | cons v down ih => rw [List.reverse_cons, ofUpward_append, upward_push, ih]

theorem eq_push_of_upward (h : s.upward = below ++ [v]) : s = (ofUpward below).push v := by
  rw [← ofUpward_append, ← h, ofUpward_upward]

theorem eq_empty_of_upward (h : s.upward = []) : s = {} := by
  rw [← ofUpward_upward s, h]
  rfl

theorem copy_of_upward (h : s.upward = below ++ v :: above) :
    s.copy above.length = .ok (s.push v) := by
  have hvalues : s.values = above.reverse ++ v :: below.reverse := by
    simpa [upward] using congrArg List.reverse h
  have hget : s.chain.get? above.length = some v := by simp [get?_chain, hvalues]
  simp [copy, isEmpty, depth_eq, hvalues, hget]

theorem slide_of_upward (h : s.upward = below ++ between ++ [top]) :
    s.slide between.length = .ok (ofUpward (below ++ [top])) := by
  have hkept : (ofUpward (below ++ between)).drop between.length = ofUpward below := by
    rw [← ofUpward_upward (OperandStack.drop _ _), upward_drop, ← length_upward]
    simp
  have hdepth : (ofUpward (below ++ between)).depth = (below ++ between).length := by
    rw [← length_upward, upward_ofUpward]
  rw [eq_push_of_upward h, slide, pop_push]
  simp [hdepth, hkept, ofUpward_append]

/-- The operation fails on the empty stack, and for a count that is not in range. -/
structure Ranged (use : Int → OperandStack → Except StackFault OperandStack) : Prop where
  empty (k : Int) {s : OperandStack} : s.upward = [] → use k s = .error (.underflow 1 0)
  outside {k : Int} {s : OperandStack} : s.upward ≠ [] → k < 0 ∨ s.upward.length ≤ k →
    use k s = .error (.outOfRange k s.upward.length)

theorem ranged_copy : Ranged copy where
  empty k s h := by
    rw [eq_empty_of_upward h]
    rfl
  outside {k s} h hk := by
    have hlength := List.length_pos_iff.mpr h
    rw [length_upward] at hk hlength ⊢
    have hcopy := s.checkedCopy_eq k
    rw [checkedCopy, if_neg (by omega), if_neg (by omega)] at hcopy
    exact (Option.some.inj hcopy).symm

theorem ranged_slide : Ranged slide where
  empty k s h := by
    rw [eq_empty_of_upward h]
    rfl
  outside {k s} h hk := by
    have hlength := List.length_pos_iff.mpr h
    rw [length_upward] at hk hlength ⊢
    have hslide := s.checkedSlide_eq k
    rw [checkedSlide, if_neg (by omega), Checked.minus?_of_le (by omega), Option.bind_some,
      if_neg (by omega)] at hslide
    exact (Option.some.inj hslide).symm

/-- A count in range is that of the values above one of the stack's values. -/
theorem exists_above (hk : 0 ≤ k) (hlt : k < s.upward.length) :
    ∃ below v above, s.upward = below ++ v :: above ∧ k = (above.length : Int) := by
  have hindex : s.upward.length - 1 - k.toNat < s.upward.length := by omega
  refine ⟨s.upward.take (s.upward.length - 1 - k.toNat), s.upward[s.upward.length - 1 - k.toNat],
    s.upward.drop (s.upward.length - 1 - k.toNat + 1), ?_, ?_⟩
  · rw [← List.drop_eq_getElem_cons hindex, List.take_append_drop]
  · rw [List.length_drop]
    omega

theorem exists_between (hk : 0 ≤ k) (hlt : k < s.upward.length) :
    ∃ below between top, s.upward = below ++ between ++ [top] ∧ k = (between.length : Int) := by
  rcases s.empty_or_push with rfl | ⟨rest, top, rfl⟩
  · change k < 0 at hlt
    omega
  · rw [length_upward, depth_push] at hlt
    refine ⟨rest.upward.take (rest.depth - k.toNat), rest.upward.drop (rest.depth - k.toNat), top,
      ?_, ?_⟩
    · rw [List.take_append_drop, upward_push]
    · rw [List.length_drop, length_upward]
      omega

theorem slide_slide (ha : 0 ≤ a) (hb : 0 ≤ b) (hlt : a + b < s.upward.length) :
    ∃ t u, s.slide a = .ok t ∧ t.slide b = .ok u ∧ s.slide (a + b) = .ok u := by
  obtain ⟨below, between, top, hup, hsum⟩ := exists_between (Int.add_nonneg ha hb) hlt
  -- the `b` values that the second slide removes lie below the others
  obtain ⟨lower, upper, rfl, hlower⟩ :
      ∃ lower upper, between = lower ++ upper ∧ lower.length = b := by
    refine ⟨between.take b.toNat, between.drop b.toNat, (List.take_append_drop _ _).symm, ?_⟩
    rw [List.length_take]
    omega
  have hupper : a = upper.length := by
    rw [List.length_append] at hsum
    omega
  have hfirst : s.slide a = .ok (ofUpward (below ++ lower ++ [top])) := by
    rw [hupper]
    apply slide_of_upward
    simpa using hup
  have hsecond := slide_of_upward (upward_ofUpward (below ++ lower ++ [top]))
  rw [hlower] at hsecond
  refine ⟨_, _, hfirst, hsecond, ?_⟩
  rw [hsum]
  exact slide_of_upward hup

theorem pop_of_copy (h : s.copy k = .ok t) : t.pop.map Prod.snd = .ok s := by
  by_cases hnil : s.upward = []
  · rw [ranged_copy.empty k hnil] at h
    cases h
  · by_cases hk : 0 ≤ k ∧ k < s.upward.length
    · obtain ⟨below, v, above, hup, rfl⟩ := exists_above hk.1 hk.2
      rw [copy_of_upward hup] at h
      cases h
      rfl
    · rw [ranged_copy.outside hnil (by omega)] at h
      cases h

/-- The count as an index first, and then the operation with a range of its own. -/
def counted (use : Int → OperandStack → Option (Except StackFault OperandStack)) (n : Int)
    (s : OperandStack) : Option (Except StackFault OperandStack) :=
  if s.isEmpty then some (.error (.underflow 1 0))
  else
    match Value.index? n with
    | some index => use index s
    | none => some (.error (.outOfRange n s.depth))

theorem Ranged.counted_eq {plain : Int → OperandStack → Except StackFault OperandStack}
    (h : Ranged plain) {use : Int → OperandStack → Option (Except StackFault OperandStack)}
    (huse : ∀ n : Int, use n s = some (plain n s))
    (hdepth : s.upward.length ≤ 0xFFFFFFFFFFFFFFFF) : counted use k s = some (plain k s) := by
  rw [counted]
  split
  · next he =>
    have hnil : s.upward = [] := by
      rw [← List.length_eq_zero_iff, length_upward]
      simpa [isEmpty] using he
    rw [h.empty k hnil]
  · next he =>
    have hne : s.upward ≠ [] := by
      rintro hnil
      rw [eq_empty_of_upward hnil] at he
      exact he rfl
    split
    · next index hindex => rw [Value.index?_eq_some hindex, huse]
    · next hindex =>
      have houtside := Value.index?_eq_none hindex
      rw [h.outside hne (by omega), length_upward]

end OperandStack

namespace Machine

variable {p : Program} {m : Machine}

/-- The machine after an instruction that only changes the operand stack, or fails to. -/
def restack (p : Program) (m : Machine) : Except StackFault OperandStack → Attempt
  | .ok stack => ⟨{ m with state := { m.passed.state with stack }.settle p.size m.state.pc }, none⟩
  | .error f => ⟨m, some (.stack f)⟩

theorem attempt_of_stack {i : Instruction} {r : Except StackFault OperandStack}
    (h : m.intent i = .ofResult (m.passed.state.withStack r)) :
    m.attempt p i = m.restack p r := by
  rw [attempt_eq, h, fulfil_ofResult]
  cases r <;> rfl

theorem attempt_duplicateN (p : Program) (m : Machine) (k : Int) (location : Location) :
    m.attempt p ⟨.duplicateN, some (.number k), location⟩ = m.restack p (m.state.stack.copy k) :=
  attempt_of_stack rfl

theorem attempt_discardN (p : Program) (m : Machine) (k : Int) (location : Location) :
    m.attempt p ⟨.discardN, some (.number k), location⟩ = m.restack p (m.state.stack.slide k) :=
  attempt_of_stack rfl

theorem attempt_discard (p : Program) (m : Machine) (location : Location) :
    m.attempt p ⟨.discard, none, location⟩ = m.restack p (m.state.stack.pop.map Prod.snd) :=
  attempt_of_stack rfl

@[simp] theorem stack_restack (stack : OperandStack) :
    (m.restack p (.ok stack)).machine.state.stack = stack := rfl

@[simp] theorem fault_restack (stack : OperandStack) :
    (m.restack p (.ok stack)).fault = none := rfl

theorem restack_ok {r : Except StackFault OperandStack} (h : (m.restack p r).fault = none) :
    ∃ stack, r = .ok stack := by
  cases r with
  | ok stack => exact ⟨stack, rfl⟩
  | error f => cases h

end Machine

/-- A count is in range from zero to one less than the depth. With such a count the value that
many places below the top is copied, or that many values below the top are removed. With any
other one nothing changes but for the fault, which carries the count as it is. -/
theorem counts_of_any_size (p : Program) (m : Machine) (location : Location) :
    let s := m.state.stack
    let xs := s.upward
    let copy (m : Machine) (k : Int) := m.attempt p ⟨.duplicateN, some (.number k), location⟩
    let slide (m : Machine) (k : Int) := m.attempt p ⟨.discardN, some (.number k), location⟩
    let discard (m : Machine) := m.attempt p ⟨.discard, none, location⟩
    (∀ k : Int, xs = [] →
      copy m k = ⟨m, some (.stack (.underflow 1 0))⟩ ∧
        slide m k = ⟨m, some (.stack (.underflow 1 0))⟩) ∧
    (∀ k : Int, xs ≠ [] → k < 0 ∨ xs.length ≤ k →
      copy m k = ⟨m, some (.stack (.outOfRange k xs.length))⟩ ∧
        slide m k = ⟨m, some (.stack (.outOfRange k xs.length))⟩) ∧
    (∀ k : Int, 0 ≤ k → k < xs.length →
      (∃ below v above stack, xs = below ++ v :: above ∧ k = above.length ∧
        copy m k = m.restack p (.ok stack) ∧ stack.upward = xs ++ [v]) ∧
      ∃ below between top stack, xs = below ++ between ++ [top] ∧ k = between.length ∧
        slide m k = m.restack p (.ok stack) ∧ stack.upward = below ++ [top]) ∧
    (∀ a b : Int, 0 ≤ a → 0 ≤ b → a + b < xs.length →
      (slide m a).fault = none ∧ (slide (slide m a).machine b).fault = none ∧
        (slide m (a + b)).fault = none ∧
        (slide (slide m a).machine b).machine.state.stack =
          (slide m (a + b)).machine.state.stack) ∧
    (∀ k : Int, (copy m k).fault = none →
      (discard (copy m k).machine).fault = none ∧
        (discard (copy m k).machine).machine.state.stack = s) ∧
    (xs.length ≤ 0xFFFFFFFFFFFFFFFF → ∀ k : Int,
      s.counted OperandStack.checkedCopy k = some (s.copy k) ∧
        s.counted OperandStack.checkedSlide k = some (s.slide k)) := by
  simp only [Machine.attempt_duplicateN, Machine.attempt_discardN, Machine.attempt_discard]
  refine ⟨?empty, ?outside, ?inside, ?twice, ?undone, ?words⟩
  case empty =>
    intro k hnil
    rw [OperandStack.ranged_copy.empty k hnil, OperandStack.ranged_slide.empty k hnil]
    exact ⟨rfl, rfl⟩
  case outside =>
    intro k hne hk
    rw [OperandStack.ranged_copy.outside hne hk, OperandStack.ranged_slide.outside hne hk]
    exact ⟨rfl, rfl⟩
  case inside =>
    intro k hk hlt
    obtain ⟨below, v, above, hup, rfl⟩ := OperandStack.exists_above hk hlt
    obtain ⟨lower, between, top, hsplit, hlength⟩ := OperandStack.exists_between hk hlt
    refine ⟨⟨below, v, above, m.state.stack.push v, hup, rfl, ?_, ?_⟩,
      lower, between, top, .ofUpward (lower ++ [top]), hsplit, hlength, ?_, ?_⟩
    · rw [OperandStack.copy_of_upward hup]
    · apply OperandStack.upward_push
    · rw [hlength, OperandStack.slide_of_upward hsplit]
    · apply OperandStack.upward_ofUpward
  case twice =>
    intro a b ha hb hlt
    obtain ⟨t, u, hfirst, hsecond, hboth⟩ := OperandStack.slide_slide ha hb hlt
    simp [hfirst, hsecond, hboth]
  case undone =>
    intro k hcopied
    obtain ⟨t, ht⟩ := Machine.restack_ok hcopied
    simp [ht, OperandStack.pop_of_copy ht]
  case words =>
    intro hdepth k
    constructor
    · exact OperandStack.ranged_copy.counted_eq (fun n => OperandStack.checkedCopy_eq _ n) hdepth
    · exact OperandStack.ranged_slide.counted_eq (fun n => OperandStack.checkedSlide_eq _ n) hdepth

end Backstep
