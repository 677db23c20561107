import Backstep.Proofs.Reachable

/-! A session in another cast: with another program of the same size and another
label table. In a disguise its states look different as well, though not in what
a recording goes by. Recording and moving see nothing else, so a disguise under
which attempts agree is one under which whole sessions do, whatever happens to
them. -/
namespace Backstep

structure Recast where
  program : Program → Program
  labels : Program → LabelTable → LabelTable
  error : RunError → RunError
  size : ∀ p, (program p).size = p.size
  logFull : ∀ used limit, error (.logFull used limit) = .logFull used limit
  move : ∀ cause, error (.move cause) = .move cause

namespace Recast

def machine (g : Recast) (p : Program) (m : Machine) : Machine :=
  { m with labels := g.labels p m.labels }

def attempt (g : Recast) (p : Program) (a : Attempt) : Attempt :=
  { a with machine := g.machine p a.machine }

def session (g : Recast) (s : Session) : Session :=
  { program := g.program s.program
    machine := g.machine s.program s.machine
    recording := s.recording }

def ending (g : Recast) : Session.Ending → Session.Ending
  | .failed e => .failed (g.error e)
  | other => other

def response (g : Recast) : Session.Response → Session.Response
  | .stepped r => .stepped (r.mapError g.error)
  | .ran e => .ran (g.ending e)
  | .moved r => .moved (r.mapError g.error)

end Recast

structure Disguise extends Recast where
  fault : Fault → Fault
  state : State → State
  pc : ∀ s, (state s).pc = s.pc
  withStatus : ∀ s status, state { s with status } = { state s with status }
  weight : ∀ s shown, (⟨state s, shown⟩ : Snapshot).size = (⟨s, shown⟩ : Snapshot).size

namespace Disguise

def machine (g : Disguise) (p : Program) (m : Machine) : Machine :=
  { m with state := g.state m.state, labels := g.labels p m.labels }

def attempt (g : Disguise) (p : Program) (a : Attempt) : Attempt :=
  ⟨g.machine p a.machine, a.fault.map g.fault⟩

def snapshot (g : Disguise) (s : Snapshot) : Snapshot :=
  ⟨g.state s.state, s.shown⟩

def log (g : Disguise) (l : Log) : Log :=
  { l with snapshots := l.snapshots.map g.snapshot }

def recording (g : Disguise) (r : Recording) : Recording :=
  { r with log := g.log r.log }

def session (g : Disguise) (s : Session) : Session :=
  { program := g.program s.program
    machine := g.machine s.program s.machine
    recording := s.recording.map g.recording }

def reply {α : Type} (g : Disguise) (r : Reply α) : Reply α :=
  ⟨g.session r.session, r.result.mapError g.error⟩

variable (g : Disguise) (s : Session)

theorem status (state : State) : (g.state state).status = state.status := by
  have h := congrArg State.status (g.withStatus state state.status)
  exact h

theorem reply_ok {α : Type} (a : α) : g.reply ⟨s, .ok a⟩ = ⟨g.session s, .ok a⟩ := rfl

theorem reply_error (α : Type) (e : RunError) :
    g.reply (⟨s, .error e⟩ : Reply α) = ⟨g.session s, .error (g.error e)⟩ := rfl

/-! Logs and recordings. -/

theorem count_log (l : Log) : (g.log l).count = l.count :=
  Array.size_map

theorem get?_log (l : Log) (index : Nat) : (g.log l).get? index = (l.get? index).map g.snapshot :=
  Array.getElem?_map

theorem tally_snapshot (snapshots : List Snapshot) :
    tally Snapshot.size (snapshots.map g.snapshot) = tally Snapshot.size snapshots := by
  induction snapshots with
  | nil => rfl
  | cons s snapshots ih =>
    have hsize : (g.snapshot s).size = s.size := g.weight s.state s.shown
    rw [List.map_cons, tally_cons, tally_cons, ih, hsize]

theorem truncate_log (l : Log) (n : Nat) : (g.log l).truncate n = g.log (l.truncate n) := by
  have htally := g.tally_snapshot (l.snapshots.toList.drop n)
  rw [List.map_drop, ← Array.toList_map] at htally
  simp only [Log.truncate, count_log]
  split
  · rfl
  · simp only [log, htally, Array.take_eq_extract, Array.map_extract]

theorem fits_log (l : Log) (s : Snapshot) : (g.log l).fits (g.snapshot s) = l.fits s := by
  have hsize : (g.snapshot s).size = s.size := g.weight s.state s.shown
  change decide (l.used + (g.snapshot s).size ≤ l.limit) = _
  rw [hsize]
  rfl

theorem push_log (l : Log) (s : Snapshot) : (g.log l).push (g.snapshot s) = g.log (l.push s) := by
  have hsize : (g.snapshot s).size = s.size := g.weight s.state s.shown
  simp only [log, Log.push, hsize, Array.map_push]

theorem trim_recording (r : Recording) : (g.recording r).trim = g.recording r.trim := by
  simp only [Recording.trim, recording, truncate_log]

theorem add_recording (r : Recording) (s : Snapshot) :
    (g.recording r).add (g.snapshot s) = g.recording (r.add s) := by
  have hpush := g.push_log r.log s
  simp only [Recording.add, recording, hpush, count_log]

/-! Sessions. -/

theorem position_session : (g.session s).position = s.position := by
  simp only [Session.position, session]
  cases s.recording <;> rfl

theorem total_session : (g.session s).total = s.total := by
  simp only [Session.total, session]
  cases s.recording with
  | none => rfl
  | some r => exact g.count_log r.log

theorem unstarted_session : (g.session s).unstarted = s.unstarted := by
  simp only [Session.unstarted, session]
  cases s.recording with
  | none => rfl
  | some r => simp [recording, log, Log.isEmpty, Array.isEmpty]

theorem fullError?_session : (g.session s).fullError? = s.fullError? := by
  simp only [Session.fullError?, session]
  cases s.recording <;> rfl

theorem setStatus_session (status : Status) :
    (g.session s).setStatus status = g.session (s.setStatus status) := by
  have hstate : { g.state s.machine.state with status } =
      g.state { s.machine.state with status } := (g.withStatus s.machine.state status).symm
  simp only [Session.setStatus, session, machine, hstate]

theorem capture_disguised : (g.session s).capture = g.reply s.capture := by
  obtain ⟨program, machine, recording⟩ := s
  cases recording with
  | none => rfl
  | some r =>
    have htrim := g.trim_recording r
    have hfits := g.fits_log r.trim.log machine.snapshot
    have herror : g.error r.trim.limitError = r.trim.limitError := g.logFull _ _
    change (if (g.recording r).trim.log.fits (g.snapshot machine.snapshot) then _ else _ :
      Reply Unit) = g.reply (if r.trim.log.fits machine.snapshot then _ else _)
    rw [htrim]
    change (if (g.log r.trim.log).fits (g.snapshot machine.snapshot) then _ else _ :
      Reply Unit) = _
    rw [hfits]
    split
    · have hadd := g.add_recording r.trim machine.snapshot
      exact congrArg (fun r => (⟨⟨_, _, some r⟩, .ok ()⟩ : Reply Unit)) hadd
    · rw [reply_error, herror]
      rfl

theorem restore_disguised (position : Nat) :
    (g.session s).restore position = g.reply (s.restore position) := by
  obtain ⟨program, machine, recording⟩ := s
  have herror := g.move .notRecorded
  cases recording with
  | none => simp only [Session.restore, session, Option.map_none, reply_error, herror]
  | some r =>
    have hget : (g.recording r).log.get? position = (r.log.get? position).map g.snapshot :=
      g.get?_log r.log position
    simp only [Session.restore, session, Option.map_some, hget]
    cases r.log.get? position with
    | none => simp only [reply_error, herror, session, Option.map_none, Option.map_some]
    | some snapshot => rfl

theorem follow_disguised : (g.session s).follow = g.reply s.follow := by
  unfold Session.follow
  rw [capture_disguised]
  generalize s.capture = captured
  obtain ⟨t, result⟩ := captured
  cases result with
  | ok u =>
    have hstatus : (g.session t).state.status = t.state.status := g.status t.state
    simp only [reply_ok, hstatus]
  | error e =>
    dsimp only [reply_error]
    rw [position_session, restore_disguised]
    generalize t.restore t.position = restored
    obtain ⟨t, result⟩ := restored
    cases result with
    | error e => rfl
    | ok u =>
      have hclose : (g.session t).close = g.session t.close := by
        simp only [Session.close, session, Option.map_map]
        rfl
      simp only [reply_ok, reply_error, hclose]

theorem opened_session : (g.session s).opened = g.session s.opened := by
  have hsize : (g.session s).program.size = s.program.size := g.size s.program
  have hpc : (g.session s).state.pc = s.state.pc := g.pc s.state
  unfold Session.opened
  rw [hsize, hpc]
  split
  · exact g.setStatus_session s _
  · rfl

theorem begin_disguised : (g.session s).begin = g.reply s.begin := by
  have hunstarted := g.unstarted_session s
  cases hu : s.unstarted with
  | false =>
    rw [hu] at hunstarted
    rw [Session.begin_of_started hu, Session.begin_of_started hunstarted]
    rfl
  | true =>
    rw [hu] at hunstarted
    rw [Session.begin_of_unstarted hu, Session.begin_of_unstarted hunstarted, opened_session,
      capture_disguised]

theorem move_disguised (m : Session.Move) : (g.session s).move m = g.reply (s.move m) := by
  have hposition := g.position_session s
  have htotal := g.total_session s
  cases m with
  | back =>
    simp only [Session.move, Session.back, hposition, restore_disguised]
    split
    · rw [reply_error, g.move]
    · rfl
  | forward =>
    simp only [Session.move, Session.forward, hposition, htotal, restore_disguised]
    split
    · rw [reply_error, g.move]
    · rfl
  | toStart =>
    simp only [Session.move, Session.toStart, htotal, restore_disguised]
    split
    · rw [reply_error, g.move]
    · rfl
  | toEnd =>
    simp only [Session.move, Session.toEnd, htotal, restore_disguised]
    split
    · rw [reply_error, g.move]
    · rfl

/-- Sessions with property `P` keep it and attempt their instructions alike in the disguise. -/
structure Faithful (P : Session → Prop) : Prop where
  begin : ∀ s, P s → P s.begin.session
  step : ∀ s, P s → P s.step.session
  restore : ∀ s position, P s → P (s.restore position).session
  attempt : ∀ s, P s → ∀ i, s.program.get? s.state.pc = some i →
    ∃ j, (g.program s.program).get? s.state.pc = some j ∧
      (g.machine s.program s.machine).attempt (g.program s.program) j =
        g.attempt s.program (s.machine.attempt s.program i) ∧
      ∀ f, .fault (g.fault f) (Session.siteOf s.state.pc j) =
        g.error (.fault f (Session.siteOf s.state.pc i))

variable {g s} {P : Session → Prop}

theorem Faithful.advance (h : g.Faithful P) (hs : P s) :
    (g.session s).advance = g.reply s.advance := by
  have hattempt := h.attempt s hs
  have hsize := g.size s.program
  have hended := g.setStatus_session s (.halted .endOfProgram)
  obtain ⟨program, machine, recording⟩ := s
  have hstatus : (g.machine program machine).state.status = machine.state.status :=
    g.status machine.state
  have hpc : (g.machine program machine).state.pc = machine.state.pc := g.pc machine.state
  simp only [Session.advance, session]
  rw [hstatus, hpc]
  cases machine.state.status with
  | halted reason => rfl
  | running =>
    cases hg : program.get? machine.state.pc with
    | none =>
      have hnone : (g.program program).get? machine.state.pc = none := by
        rw [Program.get?_eq_none_iff, hsize, ← Program.get?_eq_none_iff, hg]
      rw [hnone]
      exact congrArg (Reply.mk · _) hended
    | some i =>
      obtain ⟨j, hj, ha, hsite⟩ := hattempt i hg
      change (g.program program).get? machine.state.pc = some j at hj
      rw [hj]
      dsimp only at ha ⊢
      rw [ha]
      generalize machine.attempt program i = a
      obtain ⟨n, fault⟩ := a
      cases fault with
      | some f => exact congrArg (Reply.mk _ ∘ Except.error) (hsite f)
      | none => exact follow_disguised g ⟨program, n, recording⟩

theorem Faithful.step_disguised (h : g.Faithful P) (hs : P s) :
    (g.session s).step = g.reply s.step := by
  unfold Session.step
  rw [fullError?_session]
  cases he : s.fullError? with
  | some e =>
    obtain ⟨used, limit, rfl⟩ := Session.limits_fullError? he
    rw [reply_error, g.logFull]
  | none =>
    have hb := h.begin s hs
    dsimp only
    rw [begin_disguised]
    generalize s.begin = begun at hb
    obtain ⟨t, result⟩ := begun
    cases result with
    | error e => rfl
    | ok u => exact h.advance hb

theorem Faithful.run_disguised (h : g.Faithful P) (hs : P s) (fuel : Nat) :
    Session.run fuel (g.session s) =
      (g.session (Session.run fuel s).1, g.ending (Session.run fuel s).2) := by
  induction fuel generalizing s with
  | zero => rfl
  | succ fuel ih =>
    have hnext := h.step s hs
    unfold Session.run
    rw [h.step_disguised hs]
    generalize s.step = stepped at hnext
    obtain ⟨t, result⟩ := stepped
    cases result with
    | error e => rfl
    | ok status =>
      cases status with
      | running => exact ih hnext
      | halted reason => rfl

theorem Faithful.serve_disguised (h : g.Faithful P) (hs : P s) (request : Session.Request) :
    (g.session s).serve request =
      (g.session (s.serve request).1, g.response (s.serve request).2) := by
  cases request with
  | step =>
    simp only [Session.serve, h.step_disguised hs]
    rfl
  | run fuel =>
    simp only [Session.serve, h.run_disguised hs]
    rfl
  | move m =>
    simp only [Session.serve, move_disguised]
    rfl

theorem Faithful.serve (h : g.Faithful P) (hs : P s) (request : Session.Request) :
    P (s.serve request).1 :=
  Session.serveAll_induction h.step h.restore [request] hs

theorem Faithful.heed_disguised (h : g.Faithful P)
    (hstreams : ∀ s input output, P s → P (s.withStreams input output)) (hs : P s)
    (events : List Session.Event) :
    (g.session s).heed events = (g.session (s.heed events).1, (s.heed events).2.map g.response) := by
  induction events generalizing s with
  | nil => rfl
  | cons event events ih =>
    cases event with
    | request request =>
      simp only [Session.heed, h.serve_disguised hs, ih (h.serve hs request), List.map_cons]
    | streams input output => exact ih (hstreams s input output hs)

end Disguise

/-! A cast is a disguise that leaves the states as they are. -/

namespace Recast

variable {g : Recast} {P : Session → Prop}

def disguise (g : Recast) : Disguise where
  toRecast := g
  fault := id
  state := id
  pc _ := rfl
  withStatus _ _ := rfl
  weight _ _ := rfl

theorem session_disguise (g : Recast) (s : Session) : g.disguise.session s = g.session s := by
  have hlog : ∀ l, g.disguise.log l = l := fun l =>
    congrArg (fun snapshots => { l with snapshots }) (Array.map_id l.snapshots)
  have hrecording : g.disguise.recording = id := by
    funext r
    exact congrArg (fun log => { r with log }) (hlog r.log)
  have hmap : s.recording.map g.disguise.recording = s.recording := by
    rw [hrecording, Option.map_id, id]
  exact congrArg (Session.mk (g.program s.program) (g.machine s.program s.machine)) hmap

/-- Sessions with property `P` keep it and attempt their instructions alike in the other cast. -/
structure Faithful (g : Recast) (P : Session → Prop) : Prop where
  begin : ∀ s, P s → P s.begin.session
  step : ∀ s, P s → P s.step.session
  restore : ∀ s position, P s → P (s.restore position).session
  attempt : ∀ s, P s → ∀ i, s.program.get? s.state.pc = some i →
    ∃ j, (g.program s.program).get? s.state.pc = some j ∧
      (g.machine s.program s.machine).attempt (g.program s.program) j =
        g.attempt s.program (s.machine.attempt s.program i) ∧
      ∀ f, .fault f (Session.siteOf s.state.pc j) =
        g.error (.fault f (Session.siteOf s.state.pc i))

theorem Faithful.disguise (h : g.Faithful P) : g.disguise.Faithful P where
  begin := h.begin
  step := h.step
  restore := h.restore
  attempt s hs i hi := by
    obtain ⟨j, hj, ha, hsite⟩ := h.attempt s hs i hi
    refine ⟨j, hj, ha.trans ?_, hsite⟩
    exact congrArg (Attempt.mk _) (congrFun Option.map_id _).symm

theorem Faithful.heed_recast {s : Session} (h : g.Faithful P)
    (hstreams : ∀ s input output, P s → P (s.withStreams input output)) (hs : P s)
    (events : List Session.Event) :
    (g.session s).heed events = (g.session (s.heed events).1, (s.heed events).2.map g.response) := by
  rw [← session_disguise, ← session_disguise]
  exact h.disguise.heed_disguised hstreams hs events

end Recast
end Backstep
