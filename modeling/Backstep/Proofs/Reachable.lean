import Backstep.Proofs.Budget
import Backstep.Proofs.Chronicle
import Backstep.Proofs.Control
import Backstep.Proofs.Outcome

/-! The sessions that a program can come to, by steps and moves in any order.
The streams may be exchanged for any others on the way, so that they can behave
differently at every step, and recover from a failure or not. -/
namespace Backstep
namespace Session

def withStreams (s : Session) (input : Input) (output : Output) : Session :=
  s.withMachine { s.machine with input, output }

inductive Reachable (p : Program) (limit : Option Nat) : Session → Prop
  | fresh (input : Input) (output : Output) : Reachable p limit (fresh p limit input output)
  | step {s : Session} : Reachable p limit s → Reachable p limit s.step.session
  | move {s : Session} (m : Move) : Reachable p limit s → Reachable p limit (s.move m).session
  | streams {s : Session} (input : Input) (output : Output) :
      Reachable p limit s → Reachable p limit (s.withStreams input output)

variable {p : Program} {limit : Option Nat} {s : Session}

theorem Charted.withStreams (h : s.Charted p) (input : Input) (output : Output) :
    (s.withStreams input output).Charted p :=
  ⟨h.program, h.anchored, h.known⟩

theorem Reachable.charted (h : Reachable p limit s) : s.Charted p := by
  induction h with
  | fresh input output => exact charted_fresh p limit input output
  | step _ ih => exact ih.step
  | move m _ ih => exact move_induction (fun _ position hs => hs.restore position) m ih
  | streams input output _ ih => exact ih.withStreams input output

theorem Reachable.orderly (h : Reachable p limit s) : s.Orderly := by
  induction h with
  | fresh input output => exact orderly_fresh p limit input output
  | step hs ih => exact ih.step hs.charted.anchored
  | move m _ ih => exact move_induction (fun _ position hs => hs.restore position) m ih
  | streams input output _ ih => exact ih

theorem Reachable.limit?_eq (h : Reachable p limit s) : s.limit? = limit := by
  induction h with
  | fresh input output => cases limit <;> rfl
  | step hs ih => rw [limit?_step hs.charted.anchored, ih]
  | @move s m _ ih =>
    rcases s.move_cases m with ⟨e, he⟩ | ⟨position, -, hp⟩
    · rw [he, ih]
    · rw [hp, limit?_restore, ih]
  | streams input output _ ih => exact ih

theorem Reachable.recording {n : Nat} (h : Reachable p (some n) s) :
    ∃ r, s.recording = some r ∧ r.log.limit = n :=
  Option.map_eq_some_iff.mp h.limit?_eq

theorem Reachable.unrecorded (h : Reachable p none s) : s.recording = none :=
  Option.map_eq_none_iff.mp h.limit?_eq

theorem Reachable.run (h : Reachable p limit s) (fuel : Nat) :
    Reachable p limit (run fuel s).1 :=
  run_induction (fun _ hs => hs.step) fuel h

theorem Reachable.serve (h : Reachable p limit s) (request : Request) :
    Reachable p limit (s.serve request).1 := by
  cases request with
  | step => exact h.step
  | run fuel => exact h.run fuel
  | move m => exact h.move m

theorem Reachable.serveAll (h : Reachable p limit s) (requests : List Request) :
    Reachable p limit (s.serveAll requests).1 := by
  induction requests generalizing s with
  | nil => exact h
  | cons request requests ih => exact ih (h.serve request)

/-- What can happen to a session: a request, or an exchange of its streams for others. -/
inductive Event where
  | request (request : Request)
  | streams (input : Input) (output : Output)

def heed (s : Session) : List Event → Session × List Response
  | [] => (s, [])
  | .request request :: events =>
    let (s, response) := s.serve request
    let (s, responses) := s.heed events
    (s, response :: responses)
  | .streams input output :: events => (s.withStreams input output).heed events

theorem heed_requests (s : Session) (requests : List Request) :
    s.heed (requests.map .request) = s.serveAll requests := by
  induction requests generalizing s with
  | nil => rfl
  | cons request requests ih => simp only [List.map_cons, heed, serveAll, ih]

theorem Reachable.heed (h : Reachable p limit s) (events : List Event) :
    Reachable p limit (s.heed events).1 := by
  induction events generalizing s with
  | nil => exact h
  | cons event events ih =>
    cases event with
    | request request => exact ih (h.serve request)
    | streams input output => exact ih (h.streams input output)

end Session

/-! The chronicle of a reachable session. -/

inductive Chronicle.Reachable (p : Program) (limit : Option Nat) : Chronicle → Prop
  | fresh (input : Input) (output : Output) :
      Reachable p limit ⟨Session.fresh p limit input output, []⟩
  | step {c : Chronicle} : Reachable p limit c → Reachable p limit c.step
  | move {c : Chronicle} (m : Session.Move) :
      Reachable p limit c → Reachable p limit (c.serve (.move m))
  | streams {c : Chronicle} (input : Input) (output : Output) : Reachable p limit c →
      Reachable p limit ⟨c.session.withStreams input output, c.texts⟩

variable {p : Program} {limit : Option Nat}

theorem Chronicle.Reachable.session {c : Chronicle} (h : c.Reachable p limit) :
    c.session.Reachable p limit := by
  induction h with
  | fresh input output => exact .fresh input output
  | step _ ih => exact ih.step
  | move m _ ih => exact ih.move m
  | streams input output _ ih => exact ih.streams input output

theorem Session.Reachable.chronicle {s : Session} (h : s.Reachable p limit) :
    ∃ texts, Chronicle.Reachable p limit ⟨s, texts⟩ := by
  induction h with
  | fresh input output => exact ⟨[], .fresh input output⟩
  | step _ ih =>
    obtain ⟨texts, hc⟩ := ih
    exact ⟨_, hc.step⟩
  | move m _ ih =>
    obtain ⟨texts, hc⟩ := ih
    exact ⟨texts, hc.move m⟩
  | streams input output _ ih =>
    obtain ⟨texts, hc⟩ := ih
    exact ⟨texts, hc.streams input output⟩

theorem Chronicle.Reachable.recalls {n : Nat} {c : Chronicle} (h : c.Reachable p (some n)) :
    ∃ r, c.session.Recalls r c.texts := by
  induction h with
  | fresh input output => exact Session.Recalls.fresh p n input output
  | step _ ih =>
    obtain ⟨r, hr⟩ := ih
    exact hr.step
  | @move c m _ ih =>
    obtain ⟨r, hr⟩ := ih
    exact hr.move m
  | streams input output _ ih =>
    obtain ⟨r, hr⟩ := ih
    exact ⟨r, hr.of_transcript rfl⟩

/-- A reachable state is that of the snapshot at its position, but for what failed prints took. -/
theorem Session.Reachable.agrees {s : Session} (h : s.Reachable p limit) :
    s.Agrees State.SameButStack := by
  induction h with
  | fresh input output => exact Session.agrees_fresh p limit input output
  | @step s hs ih =>
    apply ih.step State.SameButStack.refl hs.charted.anchored
    · intro hb hne
      cases limit with
      | none => exact absurd (Session.recording_begin hs.unrecorded) hne
      | some n =>
        obtain ⟨texts, hc⟩ := hs.chronicle
        obtain ⟨r, hr⟩ := hc.recalls
        obtain ⟨⟨r', hbegin⟩, hnonempty⟩ := hr.begin
        exact hbegin.ready (hnonempty hb) (ih.begin State.SameButStack.refl)
    · intro i f hf state hstate
      exact (Machine.attempt_fault_sameButStack hf).1.trans hstate
  | move m _ ih =>
    exact Session.move_induction (fun _ n hs => hs.restore State.SameButStack.refl n) m ih
  | streams input output _ ih => exact ih

end Backstep
