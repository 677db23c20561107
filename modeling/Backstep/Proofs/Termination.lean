import Backstep.Proofs.Atomicity

/-! Recorded runs end. A step that lets the run go on has added a snapshot, each
snapshot takes up a fixed number of bytes at least, and the snapshots together
stay within the limit. So the position of the recording bounds the steps that
are left. -/
namespace Backstep

theorem mul_length_le_tally {α : Type} {size : α → Nat} {least : Nat} (h : ∀ a, least ≤ size a)
    (as : List α) : least * as.length ≤ tally size as := by
  induction as with
  | nil => exact Nat.le_refl 0
  | cons a as ih =>
    have ha := h a
    rw [List.length_cons, tally_cons, Nat.mul_succ]
    omega

namespace Session

variable {p : Program} {limit : Nat} {s : Session} {i : Instruction}

/-- Stepping without a bound from `s` ends after `n` steps, with this session and ending. -/
inductive Returns : Session → Nat → Session × Ending → Prop
  | failed {s : Session} {e : RunError} : s.step.result = .error e →
      Returns s 1 (s.step.session, .failed e)
  | halted {s : Session} {reason : HaltReason} : s.step.result = .ok (.halted reason) →
      Returns s 1 (s.step.session, .halted reason)
  | again {s : Session} {n : Nat} {result : Session × Ending} : s.step.result = .ok .running →
      Returns s.step.session n result → Returns s (n + 1) result

theorem run_succ (fuel : Nat) (s : Session) :
    run (fuel + 1) s = match s.step.result with
      | .error e => (s.step.session, .failed e)
      | .ok (.halted reason) => (s.step.session, .halted reason)
      | .ok .running => run fuel s.step.session := by
  rw [run]
  rcases s.step with ⟨t, result⟩
  cases result with
  | error e => rfl
  | ok status => cases status <;> rfl

/-- A bound that suffices gives what stepping without a bound gives. -/
theorem Returns.run_eq {n : Nat} {result : Session × Ending} (h : s.Returns n result) {fuel : Nat}
    (hn : n ≤ fuel) : run fuel s = result := by
  induction h generalizing fuel with
  | failed he =>
    obtain ⟨fuel, rfl⟩ := Nat.exists_eq_add_of_le' hn
    rw [run_succ, he]
  | halted hr =>
    obtain ⟨fuel, rfl⟩ := Nat.exists_eq_add_of_le' hn
    rw [run_succ, hr]
  | @again s n result hr _ ih =>
    obtain ⟨fuel, rfl⟩ := Nat.exists_eq_add_of_le' hn
    rw [← Nat.add_assoc, run_succ, hr]
    exact ih (Nat.le_add_left n fuel)

theorem Returns.ending_ne {n : Nat} {result : Session × Ending} (h : s.Returns n result) :
    result.2 ≠ .unfinished := by
  induction h with
  | failed _ => simp
  | halted _ => simp
  | again _ _ ih => exact ih

theorem fires_of_running (h : s.step.result = .ok .running) : ∃ i, s.Fires i := by
  have hs := s.step_stepped
  generalize s.step = reply at hs h
  cases hs with
  | full e hf => cases h
  | refused e hf hb => cases h
  | advanced hf hb =>
    have ha := s.begin.session.advance_advanced
    generalize s.begin.session.advance = reply at ha h
    cases ha with
    | halted reason hs => cases h
    | ended hs hg => cases h
    | faulted i f hs hg hfault => cases h
    | followed i hs hg hfault => exact ⟨i, (fires_of_begin hf hb hs hg).1⟩

theorem step_recorded {r : Recording} {status : Status} (ha : s.Anchored) (hi : s.Fires i)
    (hr : s.begin.session.recording = some r) (hok : s.step.result = .ok status) :
    s.step.session = (s.begin.session.withMachine
        (s.machine.attempt s.program i).machine).withRecording
      (r.trim.add (s.machine.attempt s.program i).machine.snapshot) := by
  cases hf : (s.machine.attempt s.program i).fault with
  | some f =>
    rw [step_of_fault hi hf] at hok
    cases hok
  | none =>
    rw [step_of_success hi hf] at hok ⊢
    generalize (s.machine.attempt s.program i).machine = m at hok
    have hrm : (s.begin.session.withMachine m).recording = some r := hr
    rcases follow_of_recording hrm (ha.begin.withMachine m) (unstarted_begin hi.room.2) with
      ⟨-, hfollow⟩ | ⟨-, snapshot, -, hfollow⟩
    · rw [hfollow]
      rfl
    · rw [hfollow] at hok
      cases hok

theorem Reachable.step_adds {status : Status} (h : s.Reachable p (some limit)) (hi : s.Fires i)
    (hok : s.step.result = .ok status) :
    s.step.session.position = s.position + 1 ∧
      s.step.session.snapshots =
        s.begin.session.snapshots.take (s.position + 1) ++ [s.step.session.machine.snapshot] := by
  have hanchored := h.charted.anchored
  obtain ⟨r, hr, -⟩ : ∃ r, s.begin.session.recording = some r ∧ r.log.limit = limit :=
    Option.map_eq_some_iff.mp (s.limit?_begin.trans h.limit?_eq)
  have hposition : r.position = s.position := by
    rw [← position_of_recording hr]
    exact (keepsHistory_begin h.orderly hi.present hi.room.2 s.begin.session.machine).1
  have hne := (started_iff hr).mp (unstarted_begin hi.room.2)
  have hlt := hanchored.begin r hr hne
  rw [step_recorded hanchored hi hr hok, snapshots_of_recording hr, ← hposition]
  refine ⟨(position_add r _).trans ?_, toList_add r _⟩
  rw [List.length_take]
  omega

theorem Reachable.position_le (h : s.Reachable p (some limit)) :
    s.position ≤ limit / Snapshot.baseSize := by
  obtain ⟨r, hr, hlimit⟩ := h.recording
  have horderly := h.orderly r hr
  rw [position_of_recording hr]
  by_cases hnil : r.log.toList = []
  · rw [horderly.start hnil]
    exact Nat.zero_le _
  · have hlt := h.charted.anchored r hr hnil
    have hused := horderly.balanced.used
    have hwithin := horderly.balanced.within
    have hleast := mul_length_le_tally Snapshot.baseSize_le_size r.log.toList
    rw [Nat.le_div_iff_mul_le (by decide), Nat.mul_comm]
    calc Snapshot.baseSize * r.position
        ≤ Snapshot.baseSize * r.log.toList.length := Nat.mul_le_mul_left _ (Nat.le_of_lt hlt)
      _ ≤ r.log.used := hused ▸ hleast
      _ ≤ limit := hlimit ▸ hwithin

theorem Reachable.returns (h : s.Reachable p (some limit)) :
    ∃ n result, n + s.position ≤ limit / Snapshot.baseSize + 1 ∧ s.Returns n result := by
  -- a step that lets the run go on takes the position one further, and the limit bounds it
  generalize hk : limit / Snapshot.baseSize - s.position = k
  induction k using Nat.strongRecOn generalizing s with
  | ind k ih =>
    have hle := h.position_le
    cases hr : s.step.result with
    | error e => exact ⟨1, _, by omega, .failed hr⟩
    | ok status =>
      cases status with
      | halted reason => exact ⟨1, _, by omega, .halted hr⟩
      | running =>
        obtain ⟨i, hi⟩ := fires_of_running hr
        have hposition := (h.step_adds hi hr).1
        have hnext := h.step.position_le
        obtain ⟨n, result, hn, hreturns⟩ := ih _ (by omega) h.step rfl
        exact ⟨n + 1, result, by omega, .again hr hreturns⟩

end Session

/-- However the program loops, a recorded run ends: every instruction takes up room in the
recording, and the room is limited. -/
theorem recorded_run_returns {p : Program} {limit : Nat} {s : Session}
    (h : s.Reachable p (some limit)) :
    (∃ n ≤ limit / 120 + 1, ∃ result, s.Returns n result ∧
      ∀ fuel, n ≤ fuel → Session.run fuel s = result) ∧
    (∃ r, s.recording = some r ∧ r.log.used = tally Snapshot.size s.snapshots ∧
      r.log.used ≤ limit) ∧
    ∀ i status, s.Fires i → s.step.result = .ok status → ∃ snapshot : Snapshot,
      120 ≤ snapshot.size ∧ s.step.session.snapshots =
        s.begin.session.snapshots.take (s.position + 1) ++ [snapshot] := by
  refine ⟨?_, ?_, ?_⟩
  · obtain ⟨n, result, hn, hreturns⟩ := h.returns
    exact ⟨n, Nat.le_trans (Nat.le_add_right n s.position) hn, result, hreturns,
      fun fuel hfuel => hreturns.run_eq hfuel⟩
  · obtain ⟨r, hr, hlimit⟩ := h.recording
    have hbalanced := (h.orderly r hr).balanced
    rw [Session.snapshots_of_recording hr]
    exact ⟨r, hr, hbalanced.used, hlimit ▸ hbalanced.within⟩
  · intro i status hi hok
    exact ⟨s.step.session.machine.snapshot, Snapshot.baseSize_le_size _, (h.step_adds hi hok).2⟩

def endlessLoop : Program :=
  Program.ofList [⟨.label, some (.label ⟨[.tab]⟩), {}⟩, ⟨.jump, some (.label ⟨[.tab]⟩), {}⟩]

theorem recorded_run_returns_loop :
    ∃ n ≤ 9, ∃ result, (Session.recorded endlessLoop 1000 {} {}).Returns n result ∧
      Session.run 9 (Session.recorded endlessLoop 1000 {} {}) = result := by
  have hreachable : (Session.recorded endlessLoop 1000 {} {}).Reachable endlessLoop (some 1000) :=
    .fresh {} {}
  obtain ⟨n, hn, result, hreturns, hrun⟩ := (recorded_run_returns hreachable).1
  exact ⟨n, hn, result, hreturns, hrun 9 hn⟩

end Backstep
