import Backstep.Proofs.Playback
import Backstep.Viewer.Key
import Backstep.Viewer.Render

/-! What the keys of the viewer do to the session that it shows: each is a list
of moves along the history, and drawing makes none. So the history stays as it
is and only the position changes. -/
namespace Backstep
namespace Session

variable {s : Session}

def moveAll (s : Session) (moves : List Move) : Session :=
  moves.foldl (fun s m => (s.move m).session) s

theorem moveAll_append (s : Session) (first second : List Move) :
    s.moveAll (first ++ second) = (s.moveAll first).moveAll second :=
  List.foldl_append

theorem moveAll_induction {P : Session → Prop} (hmove : ∀ s m, P s → P (s.move m).session)
    (moves : List Move) (h : P s) : P (s.moveAll moves) := by
  induction moves generalizing s with
  | nil => exact h
  | cons m moves ih => exact ih (hmove s m h)

/-! What no move changes. -/

/-- The same history and the same streams. -/
structure Alongside (s t : Session) : Prop where
  program : t.program = s.program
  snapshots : t.snapshots = s.snapshots
  input : t.machine.input = s.machine.input
  output : t.machine.output = s.machine.output

theorem Alongside.refl (s : Session) : s.Alongside s :=
  ⟨rfl, rfl, rfl, rfl⟩

theorem Alongside.total {t : Session} (h : s.Alongside t) : t.total = s.total := by
  rw [total_eq, total_eq, h.snapshots]

theorem Alongside.restore {t : Session} (h : s.Alongside t) (position : Nat) :
    s.Alongside (t.restore position).session := by
  have hsnapshots := t.snapshots_restore position
  rcases t.restore_cases position with he | ⟨r, snapshot, -, -, he⟩
  · rw [he]
    exact h
  · rw [he] at hsnapshots ⊢
    exact ⟨h.program, hsnapshots.trans h.snapshots, h.input, h.output⟩

theorem alongside_moveAll (s : Session) (moves : List Move) : s.Alongside (s.moveAll moves) :=
  moveAll_induction
    (fun _ m h => move_induction (fun _ position h => h.restore position) m h) moves (.refl s)

/-! The position after a move. -/

theorem position_back (h : s.position < s.total) : s.back.session.position = s.position - 1 := by
  rw [back]
  split
  · next h0 => rw [h0]
  · exact (restore_of_lt (by omega)).2

theorem position_toStart (h : s.position < s.total) : s.toStart.session.position = 0 := by
  rw [toStart, if_neg (by omega)]
  exact (restore_of_lt (by omega)).2

theorem position_toEnd (h : s.position < s.total) :
    s.toEnd.session.position = s.total - 1 := by
  rw [toEnd, if_neg (by omega)]
  exact (restore_of_lt (by omega)).2

theorem forward_cases (s : Session) :
    s.total ≤ s.position + 1 ∧ s.forward = ⟨s, .error (.move .atEnd)⟩ ∨
      s.position + 1 < s.total ∧ s.forward.result = .ok () ∧
        s.forward.session.position = s.position + 1 := by
  rw [forward]
  split
  · next h => exact Or.inl ⟨h, rfl⟩
  · next h => exact Or.inr ⟨by omega, restore_of_lt (by omega)⟩

theorem position_forward (h : s.position < s.total) :
    s.forward.session.position = min (s.position + 1) (s.total - 1) := by
  rcases s.forward_cases with ⟨hend, he⟩ | ⟨hlt, -, hposition⟩
  · rw [he]
    change s.position = _
    omega
  · rw [hposition]
    omega

theorem forwardBy_succ (n : Nat) (s : Session) :
    s.total ≤ s.position + 1 ∧ s.forwardBy (n + 1) = (s, 0) ∨
      s.position + 1 < s.total ∧ s.forwardBy (n + 1) =
        ((s.forward.session.forwardBy n).1, (s.forward.session.forwardBy n).2 + 1) := by
  rw [forwardBy]
  rcases s.forward_cases with ⟨hend, he⟩ | ⟨hlt, hok, -⟩
  · rw [he]
    exact Or.inl ⟨hend, rfl⟩
  · refine Or.inr ⟨hlt, ?_⟩
    generalize s.forward = reply at hok
    obtain ⟨t, result⟩ := reply
    cases hok
    rfl

theorem moveAll_of_atEnd (h : s.total ≤ s.position + 1) (n : Nat) :
    s.moveAll (List.replicate n .forward) = s := by
  have hstay : s.forward.session = s := by
    rw [forward, if_pos h]
  induction n with
  | zero => rfl
  | succ n ih =>
    change s.forward.session.moveAll (List.replicate n .forward) = s
    rw [hstay, ih]

/-- Stopping at the first move that fails leaves nothing out. -/
theorem forwardBy_eq (n : Nat) (s : Session) :
    (s.forwardBy n).1 = s.moveAll (List.replicate n .forward) := by
  induction n generalizing s with
  | zero => rfl
  | succ n ih =>
    rcases s.forwardBy_succ n with ⟨hend, he⟩ | ⟨-, he⟩
    · rw [he, moveAll_of_atEnd hend]
    · rw [he, ih]
      rfl

theorem forwardBy_count (n : Nat) (s : Session) :
    (s.forwardBy n).2 = min n (s.total - 1 - s.position) ∧
      (s.forwardBy n).1.position = s.position + (s.forwardBy n).2 := by
  induction n generalizing s with
  | zero => exact ⟨(Nat.zero_min _).symm, rfl⟩
  | succ n ih =>
    rcases s.forwardBy_succ n with ⟨hend, he⟩ | ⟨hlt, he⟩
    · rw [he]
      exact ⟨by omega, rfl⟩
    · obtain ⟨hcount, hposition⟩ := ih s.forward.session
      have htotal : s.forward.session.total = s.total := s.total_move .forward
      have hnext := position_forward (s := s) (by omega)
      rw [htotal, hnext] at hcount
      rw [hnext] at hposition
      rw [he]
      dsimp only
      omega

theorem moveAll_of_empty (h : s.total = 0) (moves : List Move) : s.moveAll moves = s := by
  induction moves with
  | nil => rfl
  | cons m moves ih =>
    have hstay : (s.move m).session = s := by
      rcases s.move_cases m with ⟨e, he⟩ | ⟨position, hlt, -⟩
      · rw [he]
      · omega
    change (s.move m).session.moveAll moves = s
    rw [hstay, ih]

theorem Anchored.lt_total (h : s.Anchored) (ht : 0 < s.total) : s.position < s.total := by
  cases hr : s.recording with
  | none => simp [total, hr] at ht
  | some r =>
    rw [total_eq, snapshots_of_recording hr] at ht ⊢
    rw [position_of_recording hr]
    exact h r hr (List.ne_nil_of_length_pos ht)

variable {p : Program} {limit : Nat}

theorem Reachable.run_ends (h : s.Reachable p (some limit)) :
    (Session.run (recordingFuel limit) s).2 ≠ .unfinished := by
  obtain ⟨n, result, hn, hreturns⟩ := h.returns
  have hfuel : n ≤ recordingFuel limit := by
    rw [recordingFuel]
    omega
  rw [hreturns.run_eq hfuel]
  exact hreturns.ending_ne

theorem Reachable.position_toStart_eq_zero (h : s.Reachable p (some limit)) :
    s.toStart.session.position = 0 := by
  by_cases hzero : s.total = 0
  · have hnone : s.snapshots = [] := List.eq_nil_of_length_eq_zero (s.total_eq ▸ hzero)
    rw [toStart, if_pos hzero]
    exact h.position_of_empty hnone
  · exact position_toStart (h.charted.anchored.lt_total (Nat.pos_of_ne_zero hzero))

end Session

/-! Keys. -/

namespace Key

/-- The moves that a key stands for. -/
def moves : Key → List Session.Move
  | .left => [.back]
  | .right => [.forward]
  | .enter => [.toEnd]
  | .backspace => [.toStart]
  | .char c => List.replicate ((Viewer.digit? c).getD 0) .forward
  | _ => []

/-- Where a key leads from position `p` of `n`. -/
def destination (n p : Nat) : Key → Nat
  | .left => p - 1
  | .right => min (p + 1) (n - 1)
  | .enter => n - 1
  | .backspace => 0
  | .char c =>
    match Viewer.digit? c with
    | some d => min (p + d) (n - 1)
    | none => p
  | _ => p

end Key

namespace Viewer

inductive Event where
  | press (settled : Bool) (key : Key)
  | draw (size : Size)

def Event.moves : Event → List Session.Move
  | .press _ key => key.moves
  | .draw _ => []

def handle (v : Viewer) : Event → Viewer
  | .press settled key => v.press settled key
  | .draw size => (v.render size).1

def handleAll (v : Viewer) (events : List Event) : Viewer :=
  events.foldl handle v

theorem digit?_digitChar {d : Nat} (h1 : 1 ≤ d) (h9 : d ≤ 9) :
    digit? (Nat.digitChar d) = some d := by
  have hall : ∀ d : Fin 10, 1 ≤ d.val → digit? (Nat.digitChar d.val) = some d.val := by decide
  exact hall ⟨d, by omega⟩ h1

theorem press_digit (v : Viewer) (settled : Bool) {c : Char} {d : Nat} (h : digit? c = some d) :
    v.press settled (.char c) = v.stop.forwardBy d := by
  have hne : ∀ k, digit? k = none → c ≠ k := by
    rintro k hk rfl
    rw [hk] at h
    cases h
  have hq := hne 'q' rfl
  have hQ := hne 'Q' rfl
  have hspace := hne ' ' rfl
  simp only [press, hq, hQ, hspace, or_self, if_false, h]

theorem session_press_char (v : Viewer) (settled : Bool) {c : Char} (h : digit? c = none) :
    (v.press settled (.char c)).session = v.session := by
  simp only [press, h]
  split
  · rfl
  · split
    · split <;> rfl
    · rfl

theorem session_stepped (v : Viewer) (direction : String) (r : Reply Unit) :
    (v.stepped direction r).session = r.session := by
  rw [stepped]
  split <;> rfl

theorem session_press (v : Viewer) (settled : Bool) (key : Key) :
    (v.press settled key).session = v.session.moveAll key.moves := by
  cases key with
  | left => exact session_stepped _ _ _
  | right => exact session_stepped _ _ _
  | up => cases hf : v.focus <;> simp only [press, scrollUp, hf] <;> rfl
  | down => cases hf : v.focus <;> simp only [press, scrollDown, hf] <;> rfl
  | char c =>
    cases hc : digit? c with
    | some d =>
      rw [press_digit v settled hc, Key.moves, hc]
      exact v.session.forwardBy_eq d
    | none =>
      rw [session_press_char v settled hc, Key.moves, hc]
      rfl
  | _ => rfl

/-- Only the scrolling is different. -/
structure Rests (v w : Viewer) : Prop where
  session : w.session = v.session
  blame : w.blame = v.blame

theorem rests_settleProgram (v : Viewer) (height : Nat) : v.Rests (v.settleProgram height) := by
  simp only [settleProgram]
  split <;> exact ⟨rfl, rfl⟩

theorem rests_settleTerminal (v : Viewer) (height : Nat) : v.Rests (v.settleTerminal height) := by
  simp only [settleTerminal]
  split <;> exact ⟨rfl, rfl⟩

theorem rests_settleStack (v : Viewer) (height : Nat) : v.Rests (v.settleStack height) :=
  ⟨rfl, rfl⟩

theorem rests_settleHeap (v : Viewer) (height : Nat) : v.Rests (v.settleHeap height) := by
  simp only [settleHeap]
  split <;> exact ⟨rfl, rfl⟩

theorem Rests.trans {u v w : Viewer} (h : u.Rests v) (h' : v.Rests w) : u.Rests w :=
  ⟨h'.session.trans h.session, h'.blame.trans h.blame⟩

theorem rests_settle (v : Viewer) (heights : PaneHeights) : v.Rests (v.settle heights) :=
  (((v.rests_settleProgram _).trans (rests_settleTerminal _ _)).trans
    (rests_settleStack _ _)).trans (rests_settleHeap _ _)

theorem session_settle (v : Viewer) (heights : PaneHeights) :
    (v.settle heights).session = v.session :=
  (v.rests_settle heights).session

theorem session_handle (v : Viewer) (e : Event) :
    (v.handle e).session = v.session.moveAll e.moves := by
  cases e with
  | press settled key => exact v.session_press settled key
  | draw size => exact v.session_settle size.limited.heights

theorem session_handleAll (v : Viewer) (events : List Event) :
    (v.handleAll events).session = v.session.moveAll (events.flatMap Event.moves) := by
  induction events generalizing v with
  | nil => rfl
  | cons e events ih =>
    change ((v.handle e).handleAll events).session = _
    rw [ih, session_handle, List.flatMap_cons, Session.moveAll_append]

theorem position_press (v : Viewer) (settled : Bool) (key : Key)
    (h : v.session.position < v.session.total) :
    (v.press settled key).session.position =
      key.destination v.session.total v.session.position := by
  cases key with
  | left =>
    rw [session_press]
    exact Session.position_back h
  | right =>
    rw [session_press]
    exact Session.position_forward h
  | enter =>
    rw [session_press]
    exact Session.position_toEnd h
  | backspace =>
    rw [session_press]
    exact Session.position_toStart h
  | char c =>
    rw [Key.destination]
    cases hc : digit? c with
    | some d =>
      obtain ⟨hcount, hposition⟩ := v.session.forwardBy_count d
      rw [press_digit v settled hc]
      change (v.session.forwardBy d).1.position = min (v.session.position + d) _
      omega
    | none => rw [session_press_char v settled hc]
  | _ => rw [session_press]; rfl

theorem message_press_digit (v : Viewer) (settled : Bool) {c : Char} {d : Nat}
    (h : digit? c = some d) :
    let t := v.press settled (.char c)
    t.message = s!"Stepped forward {t.session.position - v.session.position} step(s)" := by
  intro t
  obtain ⟨-, hposition⟩ := v.session.forwardBy_count d
  have hcount : t.session.position - v.session.position = (v.session.forwardBy d).2 := by
    change (v.press settled (.char c)).session.position - _ = _
    rw [press_digit v settled h]
    change (v.session.forwardBy d).1.position - _ = _
    omega
  rw [hcount]
  change (v.press settled (.char c)).message = _
  rw [press_digit v settled h]
  rfl

/-- A digit does what so many presses of the right arrow do. -/
theorem session_press_digitChar (v : Viewer) (settled : Bool) {d : Nat} (h1 : 1 ≤ d) (h9 : d ≤ 9) :
    (v.press settled (.char (Nat.digitChar d))).session =
      (v.handleAll (List.replicate d (.press settled .right))).session := by
  have hmoves : Event.moves (.press settled .right) = [.forward] := rfl
  rw [session_press, Key.moves, digit?_digitChar h1 h9, session_handleAll, List.flatMap_replicate,
    hmoves, List.flatten_replicate_singleton, Option.getD_some]

end Viewer

/-- However the keys are pressed and the screen is drawn, the viewer goes along the history that was
recorded, by the rule of each key, and shows the run as it was after as many instructions as the
position says. -/
theorem viewer_only_browses (p : Program) (limit : Nat) (input : Input)
    (events : List Viewer.Event) :
    let playback := Playback.ofSession (Session.recordingFuel limit)
      (Session.recorded p limit input {})
    let plain := Session.plain p input {}
    let first := playback.viewer.session
    let v := playback.viewer.handleAll events
    playback.ending ≠ .unfinished ∧ first.position = 0 ∧ first.Alongside v.session ∧
    ((∃ n, plain.Counts n v.session.position) ∧ ∀ n, plain.Counts n v.session.position →
      v.session.state = (plain.after n).state ∧
        v.session.machine.transcript.shown = (plain.after n).machine.transcript.shown) ∧
    (∀ settled key, 0 < first.total → (v.press settled key).session.position =
      key.destination first.total v.session.position) ∧
    (∀ size, (v.render size).1.session = v.session) ∧
    (first.total = 0 → v.session = first) ∧
    ∀ settled d, 1 ≤ d → d ≤ 9 →
      let t := v.press settled (.char (Nat.digitChar d))
      t.message = s!"Stepped forward {t.session.position - v.session.position} step(s)" ∧
        t.session = (v.handleAll (List.replicate d (.press settled .right))).session := by
  intro playback plain first v
  have hreachable : (Session.recorded p limit input {}).Reachable p (some limit) :=
    .fresh input {}
  have hsession : v.session = first.moveAll (events.flatMap Viewer.Event.moves) :=
    playback.viewer.session_handleAll events
  have halong : first.Alongside v.session := hsession ▸ first.alongside_moveAll _
  obtain ⟨hrecounts, hpresents⟩ := Playback.recounts p limit (limit / Snapshot.baseSize) input
    (Output.reliable_iff.mpr ⟨rfl, rfl⟩ : Output.Reliable {})
  change plain.Recounts first at hrecounts
  change plain.Presents first at hpresents
  have hended := hreachable.run (Session.recordingFuel limit)
  have hfirst : first.Reachable p (some limit) := hended.move .toStart
  have hanchored : v.session.Anchored := by
    rw [hsession]
    exact Session.moveAll_induction (fun _ m h =>
      Session.move_induction (fun _ position h => h.restore position) m h) _
      hfirst.charted.anchored
  refine ⟨hreachable.run_ends, hended.position_toStart_eq_zero, halong, ?_, ?_,
    fun size => v.session_settle size.limited.heights, ?_, ?_⟩
  · have hshown : plain.Recounts v.session ∧ plain.Presents v.session := by
      rw [hsession]
      exact Session.moveAll_induction (P := fun s => plain.Recounts s ∧ plain.Presents s)
        (fun _ m h => ⟨h.1.move m, h.2.move h.1 m⟩) _ ⟨hrecounts, hpresents⟩
    obtain ⟨m, hm, hstate, htext⟩ := hshown.2
    refine ⟨⟨m, hm⟩, fun n hn => ?_⟩
    obtain ⟨hs, ht⟩ := Session.eq_of_counts (Output.reliable_iff.mpr ⟨rfl, rfl⟩) hm hn
    exact ⟨hstate.trans hs, htext.trans (congrArg Transcript.shown ht)⟩
  · intro settled key hpos
    rw [← halong.total] at hpos ⊢
    exact v.position_press settled key (hanchored.lt_total hpos)
  · intro hzero
    rw [hsession, Session.moveAll_of_empty hzero]
  · intro settled d h1 h9
    exact ⟨v.message_press_digit settled (Viewer.digit?_digitChar h1 h9),
      v.session_press_digitChar settled h1 h9⟩

end Backstep
