import Backstep.Proofs.ExecuteBounds
import Backstep.Proofs.ReadBounds
import Backstep.Proofs.Supplied

/-! Sessions within range. What a session does at an event is written with the
checked operations, with a snapshot restored only where there is one. From a
fresh session this is always in range, and is what the session does. -/
namespace Backstep

open Checked

namespace Session

def checkedRestore (s : Session) (position : Nat) : Option (Reply Unit) :=
  s.recording.bind fun r => (r.log.get? position).bind fun snapshot =>
    (s.machine.transcript.checkedRewind snapshot.shown).map fun transcript =>
      let machine := { s.machine with state := snapshot.state, transcript }
      ⟨{ s with machine, recording := some { r with position, full := false } }, .ok ()⟩

def checkedCapture (s : Session) : Option (Reply Unit) :=
  match s.recording with
  | none => some ⟨s, .ok ()⟩
  | some r =>
    (r.log.checkedTruncate (r.position + 1)).bind fun log =>
      let kept := { r with log }
      if log.fits s.machine.snapshot then
        (kept.checkedAdd s.machine.snapshot).map fun r => ⟨s.withRecording r, .ok ()⟩
      else some ⟨s.withRecording kept, .error kept.limitError⟩

def checkedFollow (s : Session) : Option (Reply Status) :=
  s.checkedCapture.bind fun
    | ⟨s, .ok ()⟩ => some ⟨s, .ok s.state.status⟩
    | ⟨s, .error e⟩ =>
      (s.checkedRestore s.position).map fun restored => ⟨restored.session.close, .error e⟩

def checkedAdvance (s : Session) : Option (Reply Status) :=
  match s.state.status with
  | .halted reason => some ⟨s, .ok (.halted reason)⟩
  | .running =>
    match s.program.get? s.state.pc with
    | none => some ⟨s.setStatus (.halted .endOfProgram), .ok (.halted .endOfProgram)⟩
    | some i =>
      (s.machine.checkedAttempt s.program i).bind fun
        | ⟨m, some f⟩ => some ⟨s.withMachine m, .error (.fault f (siteOf s.state.pc i))⟩
        | ⟨m, none⟩ => (s.withMachine m).checkedFollow

def checkedBegin (s : Session) : Option (Reply Unit) :=
  if s.unstarted then s.opened.checkedCapture else some ⟨s, .ok ()⟩

def checkedStep (s : Session) : Option (Reply Status) :=
  match s.fullError? with
  | some e => some ⟨s, .error e⟩
  | none =>
    s.checkedBegin.bind fun
      | ⟨s, .error e⟩ => some ⟨s, .error e⟩
      | ⟨s, .ok ()⟩ => s.checkedAdvance

def checkedRun : Nat → Session → Option (Session × Ending)
  | 0, s => some (s, .unfinished)
  | fuel + 1, s =>
    s.checkedStep.bind fun
      | ⟨s, .error e⟩ => some (s, .failed e)
      | ⟨s, .ok (.halted reason)⟩ => some (s, .halted reason)
      | ⟨s, .ok .running⟩ => checkedRun fuel s

def checkedMove (s : Session) : Move → Option (Reply Unit)
  | .back =>
    if s.position = 0 then some ⟨s, .error (.move .atBeginning)⟩
    else (minus? s.position 1).bind s.checkedRestore
  | .forward =>
    if s.total ≤ s.position + 1 then some ⟨s, .error (.move .atEnd)⟩
    else s.checkedRestore (s.position + 1)
  | .toStart =>
    if s.total = 0 then some ⟨s, .error (.move .nothingRecorded)⟩ else s.checkedRestore 0
  | .toEnd =>
    if s.total = 0 then some ⟨s, .error (.move .nothingRecorded)⟩
    else (minus? s.total 1).bind s.checkedRestore

def checkedServe (s : Session) : Request → Option (Session × Response)
  | .step => s.checkedStep.map fun reply => (reply.session, .stepped reply.result)
  | .run fuel => (checkedRun fuel s).map fun (s, ending) => (s, .ran ending)
  | .move m => (s.checkedMove m).map fun reply => (reply.session, .moved reply.result)

def checkedHeed (s : Session) : List Event → Option (Session × List Response)
  | [] => some (s, [])
  | .request request :: events =>
    (s.checkedServe request).bind fun (s, response) =>
      (s.checkedHeed events).map fun (s, responses) => (s, response :: responses)
  | .streams input output :: events => (s.withStreams input output).checkedHeed events

variable {p : Program} {limit : Option Nat} {s : Session}

theorem checkedRestore_eq {position : Nat} (h : position < s.total) :
    s.checkedRestore position = some (s.restore position) := by
  cases hr : s.recording with
  | none =>
    rw [total, hr] at h
    exact absurd h (Nat.not_lt_zero _)
  | some r =>
    rw [total_eq, snapshots_of_recording hr] at h
    have hs := List.getElem?_eq_getElem h
    rw [restore_of_snapshot hr hs, checkedRestore, hr, Option.bind_some, Log.get?_eq, hs,
      Option.bind_some, Transcript.checkedRewind_eq]
    rfl

theorem checkedCapture_eq (s : Session) : s.checkedCapture = some s.capture := by
  obtain ⟨program, machine, recording⟩ := s
  cases recording with
  | none => rfl
  | some r =>
    dsimp only [checkedCapture, capture]
    rw [Log.checkedTruncate_eq, Option.bind_some, Recording.checkedAdd_eq]
    change (if r.trim.log.fits machine.snapshot then _ else _) = _
    split <;> rfl

theorem checkedFollow_eq (ha : s.Anchored) (hu : s.unstarted = false) :
    s.checkedFollow = some s.follow := by
  have hc := s.capture_captured
  rw [checkedFollow, checkedCapture_eq, Option.bind_some, follow]
  generalize s.capture = reply at hc
  cases hc with
  | unrecorded hr => rfl
  | added r hr hf => rfl
  | refused r hr hf =>
    -- the snapshot at the position is among those that trimming keeps
    have hp := List.getElem?_eq_getElem (ha r hr ((started_iff hr).mp hu))
    have hin : (s.withRecording r.trim).position < (s.withRecording r.trim).total := by
      rw [total_eq]
      exact (List.getElem?_eq_some_iff.mp (getElem?_trim hp)).1
    obtain ⟨hok, -⟩ := restore_of_lt hin
    dsimp only
    rw [checkedRestore_eq hin, Option.map_some]
    generalize (s.withRecording r.trim).restore _ = restored at hok
    obtain ⟨t, result⟩ := restored
    cases hok
    rfl

theorem checkedAdvance_eq (ha : s.Anchored) (hu : s.unstarted = false) :
    s.checkedAdvance = some s.advance := by
  obtain ⟨program, machine, recording⟩ := s
  simp only [checkedAdvance, advance, state, Machine.checkedAttempt_eq, Option.bind_some]
  cases machine.state.status with
  | halted reason => rfl
  | running =>
    dsimp only
    cases program.get? machine.state.pc with
    | none => rfl
    | some i =>
      dsimp only
      rcases machine.attempt program i with ⟨m, _ | f⟩
      · exact checkedFollow_eq (ha.withMachine m) hu
      · rfl

theorem checkedBegin_eq (s : Session) : s.checkedBegin = some s.begin := by
  rw [checkedBegin]
  split
  · next hu => rw [checkedCapture_eq, begin_of_unstarted hu]
  · next hu => rw [begin_of_started (Bool.eq_false_iff.mpr hu)]

theorem checkedStep_eq (ha : s.Anchored) : s.checkedStep = some s.step := by
  rw [checkedStep, step, checkedBegin_eq, Option.bind_some]
  cases s.fullError? with
  | some e => rfl
  | none =>
    have hanchored := ha.begin
    have hstarted := unstarted_begin (s := s)
    dsimp only
    generalize s.begin = begun at hanchored hstarted
    obtain ⟨t, result⟩ := begun
    cases result with
    | error e => rfl
    | ok u => exact checkedAdvance_eq hanchored (hstarted rfl)

theorem Reachable.checkedRun_eq (h : s.Reachable p limit) (fuel : Nat) :
    checkedRun fuel s = some (Session.run fuel s) := by
  induction fuel generalizing s with
  | zero => rfl
  | succ fuel ih =>
    have hs := h.step
    rw [checkedRun, Session.run, checkedStep_eq h.charted.anchored, Option.bind_some]
    generalize s.step = reply at hs
    obtain ⟨t, result⟩ := reply
    cases result with
    | error e => rfl
    | ok status =>
      cases status with
      | running => exact ih hs
      | halted reason => rfl

theorem Reachable.position_lt_total (h : s.Reachable p limit) (hp : s.position ≠ 0) :
    s.position < s.total := by
  cases hr : s.recording with
  | none =>
    rw [position, hr] at hp
    exact absurd rfl hp
  | some r =>
    rw [position_of_recording hr] at hp ⊢
    rw [total_eq, snapshots_of_recording hr]
    exact h.charted.anchored r hr fun hnil => hp ((h.orderly r hr).start hnil)

/-- A move finds nothing to move to, or it restores a snapshot that is there. -/
theorem Reachable.checkedMove_cases (h : s.Reachable p limit) (m : Move) :
    (∃ cause, cause ≠ .notRecorded ∧ s.move m = ⟨s, .error (.move cause)⟩ ∧
      s.checkedMove m = some (s.move m)) ∨
    ∃ position, position < s.total ∧ s.move m = s.restore position ∧
      s.checkedMove m = s.checkedRestore position := by
  cases m with
  | back =>
    rw [checkedMove, Session.move, back]
    split
    · exact Or.inl ⟨.atBeginning, by simp, rfl, rfl⟩
    · next hp =>
      have hlt := h.position_lt_total hp
      rw [minus?_of_le (by omega)]
      exact Or.inr ⟨s.position - 1, by omega, rfl, rfl⟩
  | forward =>
    rw [checkedMove, Session.move, forward]
    split
    · exact Or.inl ⟨.atEnd, by simp, rfl, rfl⟩
    · exact Or.inr ⟨s.position + 1, by omega, rfl, rfl⟩
  | toStart =>
    rw [checkedMove, Session.move, toStart]
    split
    · exact Or.inl ⟨.nothingRecorded, by simp, rfl, rfl⟩
    · exact Or.inr ⟨0, by omega, rfl, rfl⟩
  | toEnd =>
    rw [checkedMove, Session.move, toEnd]
    split
    · exact Or.inl ⟨.nothingRecorded, by simp, rfl, rfl⟩
    · rw [minus?_of_le (by omega)]
      exact Or.inr ⟨s.total - 1, by omega, rfl, rfl⟩

theorem Reachable.checkedMove_eq (h : s.Reachable p limit) (m : Move) :
    s.checkedMove m = some (s.move m) := by
  rcases h.checkedMove_cases m with ⟨cause, -, -, hchecked⟩ | ⟨position, hlt, hmove, hchecked⟩
  · exact hchecked
  · rw [hchecked, hmove, checkedRestore_eq hlt]

theorem Reachable.move_found (h : s.Reachable p limit) (m : Move) :
    (s.move m).result ≠ .error (.move .notRecorded) := by
  rcases h.checkedMove_cases m with ⟨cause, hne, hmove, -⟩ | ⟨position, hlt, hmove, -⟩
  · rw [hmove]
    simpa using hne
  · rw [hmove, (restore_of_lt hlt).1]
    simp

theorem Reachable.checkedServe_eq (h : s.Reachable p limit) (request : Request) :
    s.checkedServe request = some (s.serve request) := by
  cases request with
  | step =>
    rw [checkedServe, checkedStep_eq h.charted.anchored]
    rfl
  | run fuel =>
    rw [checkedServe, h.checkedRun_eq]
    rfl
  | move m =>
    rw [checkedServe, h.checkedMove_eq]
    rfl

theorem Reachable.checkedHeed_eq (h : s.Reachable p limit) (events : List Event) :
    s.checkedHeed events = some (s.heed events) := by
  induction events generalizing s with
  | nil => rfl
  | cons event events ih =>
    cases event with
    | request request =>
      rw [checkedHeed, h.checkedServe_eq, Option.bind_some, Session.heed]
      dsimp only
      rw [ih (h.serve request)]
      rfl
    | streams input output => exact ih (h.streams input output)

theorem Reachable.heed_found (h : s.Reachable p limit) (events : List Event) :
    .moved (.error (.move .notRecorded)) ∉ (s.heed events).2 := by
  induction events generalizing s with
  | nil => simp [Session.heed]
  | cons event events ih =>
    cases event with
    | request request =>
      intro hm
      rcases List.mem_cons.mp hm with hserve | hm
      · cases request with
        | step => cases hserve
        | run fuel => cases hserve
        | move m => exact h.move_found m (Response.moved.inj hserve).symm
      · exact ih (h.serve request) hm
    | streams input output => exact ih (h.streams input output)

end Session

/-- Every text is read, and every session of every program is led through any events, with all
accesses in range. A run of symbols that is scanned is always a number. No move goes to a snapshot
that is not there, no step or run fails as a move does, and none fails for want of a parameter if
the program was read from a text. -/
theorem accesses_stay_in_range :
    (∀ source, Scanner.readProgram source = some (Program.read source)) ∧
    (∀ (scanner next : Scanner) (run : List Symbol), scanner.parameter? = some (some (run, next)) →
      ∃ n, Literal.decode? run = some n) ∧
    ∀ (p : Program) (limit : Option Nat) (input : Input) (output : Output)
      (events : List Session.Event),
      let s := Session.fresh p limit input output
      let t := s.heed events
      s.checkedHeed events = some t ∧
      t.1.machine.transcript.checkedShown = some t.1.machine.transcript.shown ∧
      .moved (.error (.move .notRecorded)) ∉ t.2 ∧
      ∀ response ∈ t.2, ∀ e, response.runError? = some e →
        (∀ cause, e ≠ .move cause) ∧
        ((∃ source, Program.read source = .ok p) → ∀ site, e ≠ .fault .missingParameter site) := by
  refine ⟨Scanner.readProgram_eq, ?_, ?_⟩
  · intro scanner next run hscan
    obtain ⟨r, hs, hc⟩ := scanner.parameter?_eq
    rw [hscan] at hs
    cases hs
    obtain ⟨n, hn⟩ := Scanner.exists_ofRun? hc .number
    obtain ⟨value, hvalue, -⟩ := Option.map_eq_some_iff.mp hn
    exact ⟨value, hvalue⟩
  · intro p limit input output events s t
    have hs : s.Reachable p limit := .fresh input output
    refine ⟨hs.checkedHeed_eq events, Transcript.checkedShown_eq _, hs.heed_found events, ?_⟩
    intro response hresponse e he
    obtain ⟨u, hu, hstep⟩ := hs.heed_error hresponse he
    constructor
    · rintro cause rfl
      exact Session.step_ne_move hu.charted.anchored cause hstep
    · rintro ⟨source, hread⟩ site rfl
      obtain ⟨pieces, -, hcode⟩ := Program.spelling_of_read hread
      exact hu.step_supplied (Program.wellFormed_of_code hcode) site hstep

end Backstep
