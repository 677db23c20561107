import Backstep.Proofs.Browsing
import Mathlib.Logic.Function.Iterate

/-! Drawing settles the scrolling of the four panes, each by what the pane shows and
by where it was scrolled to before, and changes nothing else (`settle_eq`). Scrolling
that is settled stays, so a screen drawn again at the same size is the same. -/
namespace Backstep

theorem clampOffset_clampOffset (offset total visible : Nat) :
    clampOffset (clampOffset offset total visible) total visible =
      clampOffset offset total visible := by
  unfold clampOffset
  split <;> omega

theorem FocusScroll.follow_follow (s : FocusScroll) (total visible : Nat) (focus : Option Nat) :
    (s.follow total visible focus).follow total visible focus = s.follow total visible focus := by
  have hrow : ∀ row, min (min row (visible - 1)) (visible - 1) = min row (visible - 1) :=
    fun row => Nat.min_eq_left (Nat.min_le_right _ _)
  cases focus with
  | none => simp only [follow, Option.getD_some, hrow, clampOffset_clampOffset]
  | some item => simp only [follow, Option.getD_some, hrow]

namespace ListScroll

theorem settle_settle (s : ListScroll) (total visible : Nat) :
    (s.settle total visible).settle total visible = s.settle total visible := by
  simp only [settle, clampOffset_clampOffset]

/-- Once it is settled, the number of items is no news. -/
theorem jumpIfGrown_settle (s : ListScroll) (total visible : Nat) :
    (s.settle total visible).jumpIfGrown total = s.settle total visible :=
  if_neg (Nat.lt_irrefl total)

end ListScroll

namespace Viewer

/-! Only two keys scroll a pane that has an item in focus or knows how many items it had. -/

structure Unscrolled (v w : Viewer) : Prop where
  program : w.programScroll = v.programScroll
  stack : w.stackScroll = v.stackScroll
  heap : w.heapScroll = v.heapScroll

theorem Unscrolled.of_stop {v w : Viewer} (h : v.stop.Unscrolled w) : v.Unscrolled w :=
  ⟨h.program, h.stack, h.heap⟩

theorem unscrolled_stepped (v : Viewer) (direction : String) (r : Reply Unit) :
    v.Unscrolled (v.stepped direction r) := by
  rw [stepped]
  split <;> exact ⟨rfl, rfl, rfl⟩

theorem unscrolled_press (v : Viewer) (settled : Bool) {key : Key} (hup : key ≠ .up)
    (hdown : key ≠ .down) : v.Unscrolled (v.press settled key) := by
  cases key with
  | left => exact (unscrolled_stepped v.stop _ _).of_stop
  | right => exact (unscrolled_stepped v.stop _ _).of_stop
  | up => exact absurd rfl hup
  | down => exact absurd rfl hdown
  | char c =>
    rw [press]
    split
    · exact ⟨rfl, rfl, rfl⟩
    · split
      · split <;> exact ⟨rfl, rfl, rfl⟩
      · split <;> exact ⟨rfl, rfl, rfl⟩
  | _ => exact ⟨rfl, rfl, rfl⟩

variable (v : Viewer) (height : Nat)

/-! Where a pane is scrolled to, from where it was scrolled to before. -/

def programSettled (scroll : FocusScroll) : FocusScroll :=
  let total := v.session.program.size
  if total = 0 then scroll
  else scroll.follow total (visibleRows height) (v.failing?.or v.current?)

def terminalSettled (offset : Nat) : Nat :=
  let total := v.session.machine.transcript.lines.length
  if total = 0 then offset else clampOffset offset total (visibleRows height)

def stackSettled (scroll : ListScroll) : ListScroll :=
  let total := v.stackRows.length
  (scroll.jumpIfGrown total).settle total (visibleRows height)

def heapSettled (scroll : ListScroll) : ListScroll :=
  let total := v.state.heap.count
  if total = 0 then { scroll with seen := 0 } else scroll.settle total (visibleRows height)

theorem programSettled_settled (scroll : FocusScroll) :
    v.programSettled height (v.programSettled height scroll) =
      v.programSettled height scroll := by
  by_cases h : v.session.program.size = 0
  · exact if_pos h
  · simp only [programSettled, if_neg h, FocusScroll.follow_follow]

theorem terminalSettled_settled (offset : Nat) :
    v.terminalSettled height (v.terminalSettled height offset) =
      v.terminalSettled height offset := by
  by_cases h : v.session.machine.transcript.lines.length = 0
  · exact if_pos h
  · simp only [terminalSettled, if_neg h, clampOffset_clampOffset]

theorem stackSettled_settled (scroll : ListScroll) :
    v.stackSettled height (v.stackSettled height scroll) = v.stackSettled height scroll := by
  simp only [stackSettled, ListScroll.jumpIfGrown_settle, ListScroll.settle_settle]

theorem heapSettled_settled (scroll : ListScroll) :
    v.heapSettled height (v.heapSettled height scroll) = v.heapSettled height scroll := by
  by_cases h : v.state.heap.count = 0
  · simp only [heapSettled, if_pos h]
  · simp only [heapSettled, if_neg h, ListScroll.settle_settle]

/-! The whole screen. -/

theorem settleProgram_eq : v.settleProgram height =
    { v with programScroll := v.programSettled height v.programScroll } := by
  simp only [settleProgram, programSettled]
  split <;> rfl

theorem settleTerminal_eq : v.settleTerminal height =
    { v with terminalOffset := v.terminalSettled height v.terminalOffset } := by
  simp only [settleTerminal, terminalSettled]
  split <;> rfl

theorem settleHeap_eq : v.settleHeap height =
    { v with heapScroll := v.heapSettled height v.heapScroll } := by
  simp only [settleHeap, heapSettled]
  split <;> rfl

theorem settle_eq (heights : PaneHeights) : v.settle heights =
    { v with
      programScroll := v.programSettled heights.program v.programScroll
      terminalOffset := v.terminalSettled heights.terminal v.terminalOffset
      stackScroll := v.stackSettled heights.stack v.stackScroll
      heapScroll := v.heapSettled heights.heap v.heapScroll } := by
  rw [settle, settleProgram_eq, settleTerminal_eq, settleHeap_eq]
  rfl

theorem settle_settle (heights : PaneHeights) :
    (v.settle heights).settle heights = v.settle heights := by
  have hprogram := v.programSettled_settled heights.program v.programScroll
  have hterminal := v.terminalSettled_settled heights.terminal v.terminalOffset
  have hstack := v.stackSettled_settled heights.stack v.stackScroll
  have hheap := v.heapSettled_settled heights.heap v.heapScroll
  rw [settle_eq (v.settle heights), settle_eq v]
  -- what the panes show does not depend on the scrolling
  change { v with
    programScroll := v.programSettled heights.program (v.programSettled _ v.programScroll)
    terminalOffset := v.terminalSettled heights.terminal (v.terminalSettled _ v.terminalOffset)
    stackScroll := v.stackSettled heights.stack (v.stackSettled _ v.stackScroll)
    heapScroll := v.heapSettled heights.heap (v.heapSettled _ v.heapScroll) } = _
  rw [hprogram, hterminal, hstack, hheap]

end Viewer

namespace Display

variable {ι σ : Type} (display : Display ι σ) (v : Viewer) (size : ι)

theorem fst_render : (display.render v size).1 = v.settle (display.heights size) := by
  simp only [render]

theorem render_settled :
    display.render (display.render v size).1 size = display.render v size := by
  simp only [render, v.settle_settle]

theorem iterate_render (n : Nat) :
    (fun v => (display.render v size).1)^[n] (display.render v size).1 =
      (display.render v size).1 := by
  refine Function.iterate_fixed ?_ n
  rw [display.render_settled]

end Display

namespace Viewer

theorem handle_draw (v : Viewer) (size : Size) :
    v.handle (.draw size) = v.settle size.limited.heights :=
  Display.cells.fst_render v size

theorem handleAll_draw (v : Viewer) (size : Size) (n : Nat) :
    (v.render size).1.handleAll (List.replicate n (.draw size)) = (v.render size).1 := by
  induction n with
  | zero => rfl
  | succ n ih =>
    have hdraw : (v.render size).1.handle (.draw size) = (v.render size).1 :=
      congrArg Prod.fst (Display.cells.render_settled v size)
    rw [List.replicate_succ, handleAll, List.foldl_cons, hdraw]
    exact ih

end Viewer

/-- However the screens are laid out and drawn, one that is drawn again at the same size, any number
of times, is the same, and so is the viewer. The first drawing leaves all but the scrolling as it
was. This holds for the screens of cells, whose drawings are events among others. -/
theorem drawing_settles (v : Viewer) :
    (∀ (ι σ : Type) (display : Display ι σ) (size : ι),
      let drawn := (display.render v size).1
      display.render drawn size = display.render v size ∧
      (∀ n, (fun v => (display.render v size).1)^[n] drawn = drawn) ∧
      ∃ program terminal stack heap, drawn = { v with
        programScroll := program, terminalOffset := terminal, stackScroll := stack,
        heapScroll := heap }) ∧
    ∀ size : Size,
      let drawn := (v.render size).1
      drawn.render size = v.render size ∧
        ∀ n, drawn.handleAll (List.replicate n (.draw size)) = drawn := by
  constructor
  · intro ι σ display size
    refine ⟨display.render_settled v size, display.iterate_render v size, ?_⟩
    rw [display.fst_render, v.settle_eq]
    exact ⟨_, _, _, _, rfl⟩
  · intro size
    exact ⟨Display.cells.render_settled v size, v.handleAll_draw size⟩

end Backstep
