import Backstep.Proofs.Settling

/-! How the program pane follows the instruction in focus: the failing one, or else
the current one. The pane keeps it at the target row as far as the ends of the
program allow, and nothing but the keys that scroll the pane changes that row. -/
namespace Backstep

namespace FocusScroll

variable {s : FocusScroll} {total visible item : Nat} {focus : Option Nat}

/-- The row where the item in focus is to stand. -/
def row (s : FocusScroll) (visible : Nat) : Nat :=
  min (s.target.getD (visible / 2)) (visible - 1)

theorem row_lt (s : FocusScroll) (h : 0 < visible) : s.row visible < visible := by
  unfold row
  omega

theorem row_of_target {row : Nat} (h : s.target = some row) (hlt : row < visible) :
    s.row visible = row := by
  rw [FocusScroll.row, h, Option.getD_some]
  omega

theorem target_follow : (s.follow total visible focus).target = some (s.row visible) := rfl

theorem offset_follow :
    (s.follow total visible (some item)).offset =
      clampOffset (item - s.row visible) total visible := rfl

/-- The item in focus is on the page, and the page is filled if there are items enough. -/
theorem follow_shows (hv : 0 < visible) (h : item < total) :
    let offset := (s.follow total visible (some item)).offset
    offset ≤ item ∧ item < offset + visible ∧ offset + visible ≤ max total visible := by
  have hrow := s.row_lt hv
  have hpage := clampOffset_le (item - s.row visible) total visible
  refine ⟨?_, ?_, hpage⟩ <;>
    · rw [offset_follow, clampOffset]
      split <;> omega

/-- Away from the ends of the list the item in focus stands at its row. -/
theorem follow_of_room (h : item - s.row visible ≤ total - visible) :
    s.follow total visible (some item) = ⟨item - s.row visible, some (s.row visible)⟩ := by
  have hoffset : clampOffset (item - s.row visible) total visible = item - s.row visible := by
    unfold clampOffset
    split <;> omega
  exact congrArg (FocusScroll.mk · (some (s.row visible))) hoffset

end FocusScroll

/-! A row of a box. -/

/-- A row of a box with nothing inside. -/
def Box.plain (w : Nat) (border base : Style) : Row :=
  let side : Cell := ⟨"│", border.onto base⟩
  framed side side w (Row.blank base)

theorem Box.getElem?_draw {w h k : Nat} {title : String} {border base : Style}
    {inside : Nat → List (Row → Row)} {paint : Row → Row} (hk : k < h)
    (hpaint : (inside (w - 1))[k]? = some paint) :
    (draw w (h + 2) title border base inside)[k + 1]? = some (paint (plain w border base)) := by
  have hrow : (((inside (w - 1)).take h).map fun paint => paint (plain w border base))[k]? =
      some (paint (plain w border base)) := by
    rw [List.getElem?_map, List.getElem?_take_of_lt hk, hpaint]
    rfl
  have hlength := (List.getElem?_eq_some_iff.mp hrow).1
  simp only [draw, List.cons_append, List.append_assoc, List.getElem?_cons_succ]
  exact (List.getElem?_append_left hlength).trans hrow

theorem Box.draw_of_low {w h : Nat} (hlow : h ≤ 2) (title : String) (border base : Style)
    (inside : Nat → List (Row → Row)) :
    draw w h title border base inside = draw w h title border base fun _ => [] := by
  match h with
  | 0 => rfl
  | 1 => rfl
  | 2 => rfl

/-! What stands in a row. -/

def Line.text (line : Line) : String :=
  String.join (line.map Span.text)

theorem Line.text_cons (span : Span) (line : Line) :
    text (span :: line) = span.text ++ text line := by
  rw [text, List.map_cons, String.join_cons, text]

theorem Instruction.text_spans (i : Instruction) :
    i.spans.text = alignLeft 11 i.group.name ++ i.text := by
  rw [spans, Instruction.text]
  cases i.parameter <;> simp [Line.text, String.append_assoc]

namespace Viewer

variable {v : Viewer} {height index row : Nat}

theorem text_instructionLine (v : Viewer) (i : Instruction) (index : Nat) :
    (v.instructionLine i index).text =
      (v.marking index).sign ++ alignRight 4 (toString index) ++ " " ++
        alignRight 8 i.location.text ++ "  " ++ alignLeft 11 i.group.name ++ i.text := by
  have hspans : Line.text (i.spans.map fun span =>
      { span with style := (v.marking index).restyle span.style }) = i.spans.text := by
    rw [Line.text, List.map_map]
    rfl
  rw [instructionLine]
  simp only [Line.text_cons, hspans, i.text_spans, String.append_assoc]

/-- The instruction that the program pane follows. -/
def inFocus? (v : Viewer) : Option Nat :=
  v.failing?.or v.current?

/-- The lines on the page of the program pane, from its first row on. -/
def programPage (v : Viewer) (height : Nat) : List Line :=
  ((v.programRows.drop v.programScroll.offset).take (visibleRows height)).map fun (i, index) =>
    v.instructionLine i index

theorem getElem?_programPage {i : Instruction} {item : Nat}
    (hi : v.session.program.get? item = some i) (hle : v.programScroll.offset ≤ item)
    (hpage : item < v.programScroll.offset + visibleRows height) :
    (v.programPage height)[item - v.programScroll.offset]? = some (v.instructionLine i item) := by
  obtain ⟨k, rfl⟩ := Nat.exists_eq_add_of_le hle
  have hvisible : k < visibleRows height := Nat.lt_of_add_lt_add_left hpage
  have hrow : v.programRows[v.programScroll.offset + k]? =
      some (i, v.programScroll.offset + k) := by
    rw [programRows, List.getElem?_zipIdx, Array.getElem?_toList]
    change (v.session.program.get? _).map _ = _
    rw [hi, Option.map_some, Nat.zero_add]
  rw [Nat.add_sub_cancel_left, programPage, List.getElem?_map, List.getElem?_take_of_lt hvisible,
    List.getElem?_drop, hrow]
  rfl

/-- The box of the program pane has the lines of its page in it, as far as it has rows. -/
theorem programBox_eq (hne : v.session.program.size ≠ 0) (w height : Nat) :
    v.programBox w height = Box.draw w height " Program " (Theme.border (v.focus = .program)) {}
      fun stop => (v.programPage height).map (Row.writeLeft 1 stop {}) := by
  rw [programBox, if_neg hne, pageBox]
  simp only [programPage, List.map_map]
  rfl

/-- The row of the program pane for an instruction. -/
def instructionRow (v : Viewer) (w : Nat) (i : Instruction) (index : Nat) : Row :=
  (Box.plain w (Theme.border (v.focus = .program)) {}).writeLeft 1 (w - 1) {}
    (v.instructionLine i index)

theorem getElem?_programBox {i : Instruction} {item : Nat} (hheight : 2 < height)
    (hi : v.session.program.get? item = some i) (hle : v.programScroll.offset ≤ item)
    (hpage : item < v.programScroll.offset + visibleRows height) (w : Nat) :
    (v.programBox w height)[item - v.programScroll.offset + 1]? =
      some (v.instructionRow w i item) := by
  have hline := getElem?_programPage hi hle hpage
  obtain ⟨h, rfl⟩ : ∃ h, height = h + 2 := ⟨height - 2, by omega⟩
  have hk : item - v.programScroll.offset < h := by
    have hrows : visibleRows (h + 2) = max h 1 := rfl
    omega
  have hne : v.session.program.size ≠ 0 := by
    have hlt := (Array.getElem?_eq_some_iff.mp hi).1
    rw [Program.size]
    omega
  rw [programBox_eq hne]
  apply Box.getElem?_draw hk
  rw [List.getElem?_map, hline]
  rfl

theorem inFocus?_settleProgram (v : Viewer) (height : Nat) :
    (v.settleProgram height).inFocus? = v.inFocus? := by
  rw [settleProgram_eq]
  rfl

theorem marking_of_inFocus? (h : v.inFocus? = some index) :
    v.marking index = if v.failing? = some index then .failing else .current := by
  rw [marking]
  split
  · rfl
  · next hf =>
    rcases Option.or_eq_some_iff.mp h with hfailing | ⟨-, hcurrent⟩
    · exact absurd hfailing hf
    · rw [if_pos hcurrent]

/-! The target row while stepping. -/

/-- The event does not scroll the program pane: it is no key for that, and a drawing gives the pane
the same height. -/
def Event.KeepsRow (height : Nat) : Event → Prop
  | .press _ key => key ≠ .up ∧ key ≠ .down
  | .draw size => size.limited.programHeight = height

theorem target_handle {e : Event} (he : e.KeepsRow height) (hlt : row < visibleRows height)
    (h : v.programScroll.target = some row) : (v.handle e).programScroll.target = some row := by
  cases e with
  | press settled key =>
    change (v.press settled key).programScroll.target = _
    rw [(v.unscrolled_press settled he.1 he.2).program, h]
  | draw size =>
    have hheight : size.limited.heights.program = height := he
    rw [handle_draw, settle_eq, hheight]
    change (v.programSettled height v.programScroll).target = _
    rw [programSettled]
    split
    · exact h
    · rw [FocusScroll.target_follow, FocusScroll.row_of_target h hlt]

theorem target_handleAll {events : List Event} (he : ∀ e ∈ events, e.KeepsRow height)
    (hlt : row < visibleRows height) (h : v.programScroll.target = some row) :
    (v.handleAll events).programScroll.target = some row := by
  induction events generalizing v with
  | nil => exact h
  | cons e events ih =>
    have hfirst := target_handle (he e List.mem_cons_self) hlt h
    exact ih (fun e hmem => he e (List.mem_cons_of_mem _ hmem)) hfirst

theorem program_handleAll (v : Viewer) (events : List Event) :
    (v.handleAll events).session.program = v.session.program := by
  rw [session_handleAll]
  exact (v.session.alongside_moveAll _).program

theorem programScroll_settleProgram {item : Nat} (h : v.inFocus? = some item)
    (hne : v.session.program.size ≠ 0) :
    (v.settleProgram height).programScroll =
      v.programScroll.follow v.session.program.size (visibleRows height) (some item) := by
  rw [settleProgram, if_neg hne, ← h]
  rfl

/-- The item in focus stands at the target row if that has room on both sides. -/
theorem sub_offset_settleProgram {item : Nat} (h : v.inFocus? = some item)
    (hne : v.session.program.size ≠ 0) (hroom : v.programScroll.row (visibleRows height) ≤ item)
    (hends : item - v.programScroll.row (visibleRows height) ≤
      v.session.program.size - visibleRows height) :
    item - (v.settleProgram height).programScroll.offset =
      v.programScroll.row (visibleRows height) := by
  rw [programScroll_settleProgram h hne, FocusScroll.follow_of_room hends]
  exact Nat.sub_sub_self hroom

end Viewer

open Viewer in
/-- Once the program pane is settled at some height, the instruction in focus is on its page, with a
sign and its index in front, and the page is filled if there are instructions enough. It stands at
the target row unless that is too near to an end of the program; and at the same row stands the
instruction that is in focus after any other keys than those that scroll, if it has the room. The box
of the pane shows the page, but a box without a row between its edges shows none of it. -/
theorem program_pane_follows_focus {v : Viewer} {item : Nat} (height : Nat)
    (hfocus : v.inFocus? = some item) (hlt : item < v.session.program.size) :
    let total := v.session.program.size
    let visible := visibleRows height
    let row := v.programScroll.row visible
    let w := v.settleProgram height
    let offset := w.programScroll.offset
    w.programScroll.target = some row ∧ row < visible ∧
    offset ≤ item ∧ item < offset + visible ∧ offset + visible ≤ max total visible ∧
    (∀ i, v.session.program.get? item = some i →
      (w.programPage height)[item - offset]?.map Line.text =
        some ((if w.failing? = some item then "✗" else "▶") ++ alignRight 4 (toString item) ++ " " ++
          alignRight 8 i.location.text ++ "  " ++ alignLeft 11 i.group.name ++ i.text)) ∧
    (∀ width, w.programBox width height =
      Box.draw width height " Program " (Theme.border (w.focus = .program)) {} fun stop =>
        if height ≤ 2 then [] else (w.programPage height).map (Row.writeLeft 1 stop {})) ∧
    (∀ width i, 2 < height → v.session.program.get? item = some i →
      (w.programBox width height)[item - offset + 1]? = some (w.instructionRow width i item) ∧
        w.marking item ≠ .plain) ∧
    (row ≤ item → item - row ≤ total - visible → item - offset = row) ∧
    ∀ events, (∀ e ∈ events, e.KeepsRow height) →
      let u := w.handleAll events
      ∀ next, u.inFocus? = some next → row ≤ next → next - row ≤ total - visible →
        next - (u.settleProgram height).programScroll.offset = row := by
  intro total visible row w offset
  have hv : 0 < visible := visibleRows_pos height
  have hne : v.session.program.size ≠ 0 := Nat.ne_of_gt (Nat.zero_lt_of_lt hlt)
  have hw : w.programScroll = v.programScroll.follow total visible (some item) :=
    programScroll_settleProgram hfocus hne
  have hoffset : offset = (v.programScroll.follow total visible (some item)).offset :=
    congrArg FocusScroll.offset hw
  obtain ⟨hle, hpage, hfilled⟩ := @FocusScroll.follow_shows v.programScroll _ _ _ hv hlt
  rw [← hoffset] at hle hpage hfilled
  have hsession : w.session = v.session := (v.rests_settleProgram height).session
  have hrow : row < visible := v.programScroll.row_lt hv
  have htarget : w.programScroll.target = some row := by
    rw [hw, FocusScroll.target_follow]
  have hmarking : w.marking item = if w.failing? = some item then .failing else .current :=
    marking_of_inFocus? ((v.inFocus?_settleProgram height).trans hfocus)
  refine ⟨htarget, hrow, hle, hpage, hfilled, ?_, ?_, ?_, sub_offset_settleProgram hfocus hne, ?_⟩
  · intro i hi
    rw [← hsession] at hi
    rw [getElem?_programPage hi hle hpage, Option.map_some, w.text_instructionLine, hmarking]
    split <;> rfl
  · intro width
    have hbox := programBox_eq (v := w) (by rwa [hsession]) width height
    by_cases hlow : height ≤ 2
    · simp only [if_pos hlow]
      rw [hbox, Box.draw_of_low hlow]
    · simp only [if_neg hlow]
      exact hbox
  · intro width i hheight hi
    rw [← hsession] at hi
    refine ⟨getElem?_programBox hheight hi hle hpage width, ?_⟩
    rw [hmarking]
    split <;> simp
  · intro events hevents u next hnext hroom hends
    have hprogram : u.session.program = v.session.program := by
      rw [← hsession]
      exact w.program_handleAll events
    have hu : u.programScroll.row visible = row :=
      FocusScroll.row_of_target (target_handleAll hevents hrow htarget) hrow
    rw [← hprogram] at hne
    rw [← hu] at hroom ⊢
    refine sub_offset_settleProgram hnext hne hroom ?_
    rw [hprogram, hu]
    exact hends

def ninePushes : Program :=
  Program.ofList (List.replicate 9 ⟨.push, some (.number 1), {}⟩)

/-- The viewer before the sixth of nine instructions, with the target row of a taller screen. -/
def beforeSixth : Viewer :=
  { (Playback.ofSession 9 (Session.recorded ninePushes 9999 {} {})).viewer.handleAll
      [.press true (.char '5')] with
    programScroll := ⟨0, some 70⟩ }

/-- With three rows the sixth and the seventh instruction both stand in the last one. -/
theorem program_pane_follows_focus_sixth :
    let w := beforeSixth.settleProgram 5
    let u := w.handleAll [.press true .right]
    beforeSixth.inFocus? = some 5 ∧ 5 < beforeSixth.session.program.size ∧
      w.programScroll.target = some 2 ∧ 5 - w.programScroll.offset = 2 ∧
      u.inFocus? = some 6 ∧ 6 - (u.settleProgram 5).programScroll.offset = 2 := by
  intro w u
  have hfocus : beforeSixth.inFocus? = some 5 := by decide +kernel
  have hlt : 5 < beforeSixth.session.program.size := by decide +kernel
  have hnext : u.inFocus? = some 6 := by decide +kernel
  obtain ⟨htarget, -, -, -, -, -, -, -, hplace, hstays⟩ := program_pane_follows_focus 5 hfocus hlt
  refine ⟨hfocus, hlt, htarget, hplace (by decide +kernel) (by decide +kernel), hnext,
    hstays _ ?_ 6 hnext (by decide +kernel) (by decide +kernel)⟩
  intro e he
  obtain rfl := List.mem_singleton.mp he
  exact ⟨by simp, by simp⟩

end Backstep
