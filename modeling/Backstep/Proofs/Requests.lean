import Backstep.History.Session

/-! Requests to a session and the sessions that serving them leads to. Every
request is made of steps and of restored snapshots, so what these two keep is
kept by any interleaving of requests (`serveAll_induction`). -/
namespace Backstep
namespace Session

inductive Move where
  | back
  | forward
  | toStart
  | toEnd
  deriving DecidableEq

/-- A run is asked for with a bound on its steps; a bound that suffices gives the whole run. -/
inductive Request where
  | step
  | run (fuel : Nat)
  | move (m : Move)
  deriving DecidableEq

inductive Response where
  | stepped (result : Except RunError Status)
  | ran (ending : Ending)
  | moved (result : Except RunError Unit)

def move (s : Session) : Move → Reply Unit
  | .back => s.back
  | .forward => s.forward
  | .toStart => s.toStart
  | .toEnd => s.toEnd

def serve (s : Session) : Request → Session × Response
  | .step => (s.step.session, .stepped s.step.result)
  | .run fuel => ((run fuel s).1, .ran (run fuel s).2)
  | .move m => ((s.move m).session, .moved (s.move m).result)

def serveAll (s : Session) : List Request → Session × List Response
  | [] => (s, [])
  | request :: requests =>
    let (s, response) := s.serve request
    let (s, responses) := s.serveAll requests
    (s, response :: responses)

/-- A session before its first request, with a limit on the recording if there is one. -/
def fresh (p : Program) (limit : Option Nat) (input : Input) (output : Output) : Session :=
  match limit with
  | some limit => recorded p limit input output
  | none => plain p input output

def snapshots (s : Session) : List Snapshot :=
  match s.recording with
  | some r => r.log.toList
  | none => []

theorem snapshots_of_recording {s : Session} {r : Recording} (h : s.recording = some r) :
    s.snapshots = r.log.toList := by
  simp only [snapshots, h]

theorem position_of_recording {s : Session} {r : Recording} (h : s.recording = some r) :
    s.position = r.position := by
  simp only [position, h]

theorem present_of_recording {s : Session} {r : Recording} {snapshot : Snapshot}
    (hr : s.recording = some r) (hp : r.log.toList[r.position]? = some snapshot) :
    s.snapshots[s.position]? = some snapshot := by
  rw [snapshots_of_recording hr, position_of_recording hr]
  exact hp

theorem total_eq (s : Session) : s.total = s.snapshots.length := by
  rw [total, snapshots]
  cases s.recording with
  | none => rfl
  | some r => exact r.log.count_eq

/-! Restoring and moving. -/

def shift (s : Session) (snapshot : Snapshot) (r : Recording) (position : Nat) : Session :=
  { s with
    machine := s.machine.restore snapshot
    recording := some { r with position, full := false } }

theorem restore_of_snapshot {s : Session} {r : Recording} {position : Nat} {snapshot : Snapshot}
    (hr : s.recording = some r) (hs : r.log.toList[position]? = some snapshot) :
    s.restore position = ⟨s.shift snapshot r position, .ok ()⟩ := by
  rw [restore]
  simp only [hr, Log.get?_eq, hs]
  rfl

theorem restore_cases (s : Session) (position : Nat) :
    s.restore position = ⟨s, .error (.move .notRecorded)⟩ ∨
      ∃ r snapshot, s.recording = some r ∧ r.log.toList[position]? = some snapshot ∧
        s.restore position = ⟨s.shift snapshot r position, .ok ()⟩ := by
  cases hr : s.recording with
  | none =>
    left
    simp only [restore, hr]
  | some r =>
    cases hs : r.log.toList[position]? with
    | none =>
      left
      simp only [restore, hr, Log.get?_eq, hs]
    | some snapshot => exact Or.inr ⟨r, snapshot, rfl, hs, restore_of_snapshot hr hs⟩

theorem move_cases (s : Session) (m : Move) :
    (∃ e, s.move m = ⟨s, .error e⟩) ∨
      ∃ position, position < s.total ∧ s.move m = s.restore position := by
  have hrestore : ∀ position, (∃ e, s.restore position = ⟨s, .error e⟩) ∨
      ∃ n, n < s.total ∧ s.restore position = s.restore n := by
    intro position
    rcases s.restore_cases position with h | ⟨r, snapshot, hr, hs, -⟩
    · exact Or.inl ⟨_, h⟩
    · refine Or.inr ⟨position, ?_, rfl⟩
      rw [total_eq, snapshots_of_recording hr]
      exact (List.getElem?_eq_some_iff.mp hs).1
  cases m with
  | back =>
    simp only [move, back]
    split
    · exact Or.inl ⟨_, rfl⟩
    · exact hrestore _
  | forward =>
    simp only [move, forward]
    split
    · exact Or.inl ⟨_, rfl⟩
    · exact hrestore _
  | toStart =>
    simp only [move, toStart]
    split
    · exact Or.inl ⟨_, rfl⟩
    · exact hrestore _
  | toEnd =>
    simp only [move, toEnd]
    split
    · exact Or.inl ⟨_, rfl⟩
    · exact hrestore _

theorem snapshots_restore (s : Session) (position : Nat) :
    (s.restore position).session.snapshots = s.snapshots := by
  rcases s.restore_cases position with he | ⟨r, snapshot, hr, -, he⟩
  · rw [he]
  · rw [he, snapshots_of_recording hr]
    rfl

theorem snapshots_move (s : Session) (m : Move) :
    (s.move m).session.snapshots = s.snapshots := by
  rcases s.move_cases m with ⟨e, he⟩ | ⟨position, -, hp⟩
  · rw [he]
  · rw [hp, snapshots_restore]

theorem total_move (s : Session) (m : Move) : (s.move m).session.total = s.total := by
  rw [total_eq, total_eq, snapshots_move]

theorem restore_of_lt {s : Session} {position : Nat} (h : position < s.total) :
    (s.restore position).result = .ok () ∧ (s.restore position).session.position = position := by
  cases hr : s.recording with
  | none =>
    rw [total, hr] at h
    exact absurd h (Nat.not_lt_zero _)
  | some r =>
    rw [total_eq, snapshots_of_recording hr] at h
    rw [restore_of_snapshot hr (List.getElem?_eq_getElem h)]
    exact ⟨rfl, rfl⟩

/-! What steps and restored snapshots keep, every interleaving of requests keeps. -/

variable {P : Session → Prop}

theorem run_induction (hstep : ∀ s, P s → P s.step.session) (fuel : Nat) {s : Session} (h : P s) :
    P (run fuel s).1 := by
  induction fuel generalizing s with
  | zero => exact h
  | succ fuel ih =>
    have hs := hstep s h
    rw [run]
    generalize s.step = reply at hs
    obtain ⟨t, result⟩ := reply
    cases result with
    | error e => exact hs
    | ok status =>
      cases status with
      | running => exact ih hs
      | halted reason => exact hs

theorem move_induction (hrestore : ∀ s position, P s → P (s.restore position).session) (m : Move)
    {s : Session} (h : P s) : P (s.move m).session := by
  rcases s.move_cases m with ⟨e, he⟩ | ⟨position, -, hp⟩
  · rw [he]
    exact h
  · rw [hp]
    exact hrestore s position h

theorem serveAll_induction (hstep : ∀ s, P s → P s.step.session)
    (hrestore : ∀ s position, P s → P (s.restore position).session) (requests : List Request)
    {s : Session} (h : P s) : P (s.serveAll requests).1 := by
  induction requests generalizing s with
  | nil => exact h
  | cons request requests ih =>
    apply ih
    cases request with
    | step => exact hstep s h
    | run fuel => exact run_induction hstep fuel h
    | move m => exact move_induction hrestore m h

end Session
end Backstep
