import Backstep.Proofs.Settling

/-! How the stack pane goes to its top when there is more to show. It goes by the number
of its rows, and an empty stack has a row too that says so; so the first value adds no row,
nor does one that comes while a call returns, and the pane then stays where it was. -/
namespace Backstep

/-- The rows of the stack pane: two headers with a gap between them, and under each header its items
or the remark that there are none. -/
def State.stackPaneRows (s : State) : Nat :=
  max s.stack.depth 1 + max s.calls.depth 1 + 3

theorem clampOffset_eq_zero_iff {offset total visible : Nat} :
    clampOffset offset total visible = 0 ↔ offset = 0 ∨ total ≤ visible := by
  unfold clampOffset
  split <;> omega

/-- The first row is on the page if there are more rows than before, if the pane is not scrolled or
if there is room for all of them. -/
theorem ListScroll.offset_settled_eq_zero_iff {s : ListScroll} {total visible : Nat} :
    ((s.jumpIfGrown total).settle total visible).offset = 0 ↔
      s.seen < total ∨ s.offset = 0 ∨ total ≤ visible := by
  change clampOffset (s.jumpIfGrown total).offset total visible = 0 ↔ _
  rw [clampOffset_eq_zero_iff, jumpIfGrown]
  split
  · next h => exact iff_of_true (Or.inl rfl) (Or.inl h)
  · next h => exact (or_iff_right h).symm

namespace Viewer

variable {v : Viewer}

theorem length_section {remark : StackRow} {rows : List StackRow} {empty : Bool}
    (h : empty = true ↔ rows = []) :
    (if empty then [remark] else rows).length = max rows.length 1 := by
  cases rows with
  | nil =>
    rw [if_pos (h.mpr rfl)]
    rfl
  | cons row rows =>
    have hfull : ¬ empty = true := fun hempty => List.cons_ne_nil row rows (h.mp hempty)
    rw [if_neg hfull, List.length_cons]
    omega

theorem isEmpty_stack (s : OperandStack) : s.isEmpty = s.values.isEmpty := by
  rw [OperandStack.isEmpty, OperandStack.depth_eq]
  cases s.values <;> rfl

theorem length_stackRows (v : Viewer) : v.stackRows.length = v.state.stackPaneRows := by
  simp only [stackRows, List.length_append, List.length_cons]
  rw [length_section (by simp [isEmpty_stack]), length_section (by simp [CallStack.isEmpty])]
  simp only [List.length_map, List.length_zipIdx, State.stackPaneRows, OperandStack.depth_eq,
    CallStack.depth]
  omega

/-- The top value stands below the first header. -/
theorem getElem?_stackRows {top : Value} (h : v.state.stack.values.head? = some top) :
    v.stackRows[1]? = some (.value top 0) := by
  obtain ⟨below, hvalues⟩ := List.head?_eq_some_iff.mp h
  simp [stackRows, isEmpty_stack, hvalues]

theorem seen_press (v : Viewer) (settled : Bool) (key : Key) :
    (v.press settled key).stackScroll.seen = v.stackScroll.seen := by
  by_cases hup : key = .up
  · rw [hup, press, scrollUp]
    split <;> rfl
  · by_cases hdown : key = .down
    · rw [hdown, press, scrollDown]
      split <;> rfl
    · rw [(v.unscrolled_press settled hup hdown).stack]

/-- Keys, with whether each counts. -/
def presses (keys : List (Bool × Key)) : List Event :=
  keys.map fun (settled, key) => .press settled key

theorem seen_presses (v : Viewer) (keys : List (Bool × Key)) :
    (v.handleAll (presses keys)).stackScroll.seen = v.stackScroll.seen := by
  induction keys generalizing v with
  | nil => rfl
  | cons first keys ih => exact (ih _).trans (v.seen_press first.1 first.2)

end Viewer

namespace Display

variable {ι σ : Type} (display : Display ι σ) (v : Viewer) (size : ι)

theorem state_render : (display.render v size).1.state = v.state := by
  rw [fst_render, Viewer.state, v.session_settle]
  rfl

theorem stackScroll_render :
    (display.render v size).1.stackScroll =
      (v.stackScroll.jumpIfGrown v.state.stackPaneRows).settle v.state.stackPaneRows
        (visibleRows (display.heights size).stack) := by
  rw [fst_render, v.settle_eq, ← v.length_stackRows]
  rfl

end Display

open Viewer in
/-- When a screen was drawn, keys were pressed and a screen is drawn again, the stack pane is at its
top just if it has more rows than before, was not scrolled then or has room for all of them. So a
deeper stack is shown from its top if there was a value before and the calls are not fewer. None of
this depends on how the screens are laid out and drawn. -/
theorem stack_pane_after_growth {ι σ : Type} (display : Display ι σ) (v : Viewer)
    (first second : ι) (keys : List (Bool × Key)) :
    let drawn := (display.render v first).1
    let pressed := drawn.handleAll (presses keys)
    let again := (display.render pressed second).1
    let visible := visibleRows (display.heights second).stack
    (again.stackScroll.offset = 0 ↔
      drawn.state.stackPaneRows < again.state.stackPaneRows ∨
        pressed.stackScroll.offset = 0 ∨ again.state.stackPaneRows ≤ visible) ∧
    (drawn.state.stack.depth < again.state.stack.depth → 0 < drawn.state.stack.depth →
      drawn.state.calls.depth ≤ again.state.calls.depth → again.stackScroll.offset = 0) ∧
    ∀ top, again.state.stack.values.head? = some top → again.stackScroll.offset = 0 →
      1 < visible → ((again.stackRows.drop again.stackScroll.offset).take visible)[1]? =
        some (.value top 0) := by
  intro drawn pressed again visible
  have hseen : pressed.stackScroll.seen = drawn.state.stackPaneRows := by
    rw [seen_presses, display.stackScroll_render, display.state_render]
    rfl
  have hoffset : again.stackScroll.offset = 0 ↔
      drawn.state.stackPaneRows < again.state.stackPaneRows ∨
        pressed.stackScroll.offset = 0 ∨ again.state.stackPaneRows ≤ visible := by
    have hstate : again.state = pressed.state := display.state_render pressed second
    rw [← hseen, hstate, display.stackScroll_render]
    exact ListScroll.offset_settled_eq_zero_iff
  refine ⟨hoffset, ?_, ?_⟩
  · intro hdeeper hvalue hcalls
    apply hoffset.mpr
    left
    unfold State.stackPaneRows
    omega
  · intro top htop hzero hvisible
    rw [hzero, List.drop_zero, List.getElem?_take_of_lt hvisible, getElem?_stackRows htop]

def twoPushes : Program :=
  Program.ofList [⟨.push, some (.number 65), {}⟩, ⟨.push, some (.number 66), {}⟩]

/-- A viewer at the start of two pushes, with the stack pane in focus. -/
def atStackPane : Viewer :=
  (Playback.ofSession 3 (Session.recorded twoPushes 9999 {} {})).viewer.handleAll
    (Viewer.presses [(true, .tab), (true, .tab)])

/-- The viewer as it is drawn, then after scrolling down by two rows and a step forward, and as it
is drawn again. -/
def scrolledThenStepped (v : Viewer) : Viewer × Viewer × Viewer :=
  let drawn := (v.render ⟨40, 8⟩).1
  let pressed := drawn.handleAll (Viewer.presses [(true, .down), (true, .down), (true, .right)])
  (drawn, pressed, (pressed.render ⟨40, 8⟩).1)

/-- When the second value comes, the pane goes to its top. -/
theorem stack_pane_after_growth_second :
    let (drawn, pressed, again) := scrolledThenStepped (atStackPane.press true .right)
    drawn.state.stack.depth = 1 ∧ again.state.stack.depth = 2 ∧ pressed.stackScroll.offset = 2 ∧
      again.stackScroll.offset = 0 ∧ ((again.stackRows.drop 0).take 2)[1]? = some (.value 66 0) := by
  obtain ⟨-, hgrown, htop⟩ := stack_pane_after_growth .cells (atStackPane.press true .right)
    ⟨40, 8⟩ ⟨40, 8⟩ [(true, .down), (true, .down), (true, .right)]
  have hzero := hgrown (by decide +kernel) (by decide +kernel) (by decide +kernel)
  have hpage := htop 66 (by decide +kernel) hzero (by decide)
  rw [hzero] at hpage
  refine ⟨by decide +kernel, by decide +kernel, by decide +kernel, hzero, hpage⟩

/-- The first value takes the row of the remark that there is none, and the pane stays where it was
scrolled to, below that value. -/
theorem first_value_out_of_sight :
    let (drawn, _, again) := scrolledThenStepped atStackPane
    drawn.state.stack.depth = 0 ∧ again.state.stack.depth = 1 ∧
      again.stackRows[1]? = some (.value 65 0) ∧ again.stackScroll.offset = 2 := by
  have htop : (scrolledThenStepped atStackPane).2.2.state.stack.values.head? = some 65 := by
    decide +kernel
  exact ⟨by decide +kernel, by decide +kernel, Viewer.getElem?_stackRows htop,
    by decide +kernel⟩

end Backstep
