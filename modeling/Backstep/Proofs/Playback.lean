import Backstep.Proofs.Lockstep
import Backstep.Proofs.Termination
import Backstep.Viewer.Basic

/-! A recorded run that was taken back to its beginning, beside the run without
a recording. Each snapshot is a state of that run, found under the number of
instructions executed before it, and the present state is one of these, wherever
moves along the history lead. -/
namespace Backstep
namespace Session

variable {s plain : Session}

/-! The run without a recording. -/

/-- The first `n` steps have executed `k` instructions. The first step of an empty program executes
none, but the machine has halted only after it. -/
def Counts (plain : Session) (n k : Nat) : Prop :=
  (plain.program.size = 0 → 0 < n) ∧ plain.executed n = k

theorem Live.shown_step (h : s.Live) : s.machine.transcript.shown.toList <+:
    s.step.session.machine.transcript.shown.toList := by
  rcases h.step_cases with ⟨-, -, -, hm⟩ | ⟨-, i, hf, he⟩
  · simp only [hm.transcript, List.prefix_rfl]
  · rw [he]
    change _ <+: (s.machine.attempt s.program i).machine.transcript.shown.toList
    rcases (Machine.attempt_ok hf).1 with ⟨ht, -⟩ | ⟨text, ht, -⟩
    · simp only [ht, List.prefix_rfl]
    · rw [ht, Transcript.print, String.toList_append]
      exact List.prefix_append _ _

theorem Live.shown_after (h : s.Live) {m n : Nat} (hle : m ≤ n) :
    (s.after m).machine.transcript.shown.toList <+:
      (s.after n).machine.transcript.shown.toList := by
  induction hle with
  | refl => exact List.prefix_rfl
  | step _ ih => exact ih.trans (h.after _).shown_step

theorem Live.of_getElem?_trail (h : s.Live) {m k : Nat} {snapshot : Snapshot}
    (hk : (s.trail m)[k]? = some snapshot) :
    ∃ n ≤ m, s.executed n = k ∧ snapshot = (s.after n).machine.snapshot := by
  have hlt := (List.getElem?_eq_some_iff.mp hk).1
  rw [length_trail] at hlt
  obtain ⟨n, hn, rfl⟩ := s.exists_executed_eq m (Nat.le_of_lt_succ hlt)
  rw [h.getElem?_trail hn] at hk
  exact ⟨n, hn, rfl, (Option.some.inj hk).symm⟩

/-- A machine that has halted stays as it is. -/
theorem after_of_halted {reason : HaltReason} (hr : s.recording = none)
    (hs : s.state.status = .halted reason) (n : Nat) : s.after n = s := by
  have hstep : s.step.session = s := by
    obtain ⟨program, machine, recording⟩ := s
    rw [step_of_unrecorded hr]
    change machine.state.status = _ at hs
    simp only [advance, hs]
  induction n with
  | zero => rfl
  | succ n ih => rw [after_succ, hstep, ih]

theorem opened_of_empty (hp : s.program.size = 0) :
    s.opened = s.setStatus (.halted .endOfProgram) :=
  if_pos (by omega)

theorem session_step_of_empty (hp : s.program.size = 0) (hr : s.recording = none)
    (hs : s.state.status = .running) : s.step.session = s.setStatus (.halted .endOfProgram) := by
  have hg : s.program.get? s.state.pc = none := Program.get?_eq_none_iff.mpr (by omega)
  obtain ⟨program, machine, recording⟩ := s
  change machine.state.status = _ at hs
  change program.get? machine.state.pc = _ at hg
  rw [step_of_unrecorded hr]
  simp only [advance, hs, hg]

/-- What is shown after so many executed instructions does not depend on the steps that failed. -/
theorem eq_of_counts {p : Program} {input : Input} {output : Output}
    (reliable : output.Reliable) {m n k : Nat} (hm : (Session.plain p input output).Counts m k)
    (hn : (Session.plain p input output).Counts n k) :
    ((Session.plain p input output).after m).state = ((Session.plain p input output).after n).state ∧
      ((Session.plain p input output).after m).machine.transcript =
        ((Session.plain p input output).after n).machine.transcript := by
  by_cases hp : p.size = 0
  · obtain ⟨m, rfl⟩ := Nat.exists_eq_succ_of_ne_zero (Nat.ne_of_gt (hm.1 hp))
    obtain ⟨n, rfl⟩ := Nat.exists_eq_succ_of_ne_zero (Nat.ne_of_gt (hn.1 hp))
    rw [Nat.succ_eq_add_one, Nat.succ_eq_add_one, after_succ, after_succ,
      session_step_of_empty hp rfl rfl, after_of_halted rfl rfl, after_of_halted rfl rfl]
    exact ⟨rfl, rfl⟩
  · have hlive : (Session.plain p input output).Live :=
      ⟨rfl, reliable, fun _ => Nat.pos_of_ne_zero hp⟩
    exact hlive.eq_of_executed_eq (hm.2.trans hn.2.symm)

/-! The history beside it. -/

/-- The snapshots are those of the plain run, by the number of executed instructions, and the
transcript still has what was shown with each of them. -/
def Recounts (plain s : Session) : Prop :=
  ∀ k snapshot, s.snapshots[k]? = some snapshot → ∃ n, plain.Counts n k ∧
    snapshot = (plain.after n).machine.snapshot ∧
    (plain.after n).machine.transcript.shown.toList <+: s.machine.transcript.text.toList

/-- The machine is as the plain run had it when as many instructions were executed as the position
says. -/
def Presents (plain s : Session) : Prop :=
  ∃ n, plain.Counts n s.position ∧ s.state = (plain.after n).state ∧
    s.machine.transcript.shown = (plain.after n).machine.transcript.shown

theorem Recounts.restore (h : plain.Recounts s) (position : Nat) :
    plain.Recounts (s.restore position).session := by
  have htext : (s.restore position).session.machine.transcript.text =
      s.machine.transcript.text := by
    rcases s.restore_cases position with he | ⟨r, snapshot, -, -, he⟩
    · rw [he]
    · rw [he]
      exact Transcript.text_rewind _ _
  rw [Recounts, snapshots_restore, htext]
  exact h

theorem Recounts.presents (h : plain.Recounts s) {position : Nat} (hlt : position < s.total) :
    plain.Presents (s.restore position).session := by
  rw [total_eq] at hlt
  rcases s.restore_cases position with he | ⟨r, snapshot, hr, hp, he⟩
  · have hok := (restore_of_lt (total_eq s ▸ hlt)).1
    rw [he] at hok
    cases hok
  · rw [← snapshots_of_recording hr] at hp
    obtain ⟨n, hn, rfl, hprefix⟩ := h position snapshot hp
    rw [he]
    exact ⟨n, hn, rfl, Transcript.shown_rewind hprefix⟩

theorem Recounts.move (h : plain.Recounts s) (m : Move) : plain.Recounts (s.move m).session :=
  move_induction (fun _ position hs => hs.restore position) m h

theorem Presents.move (h : plain.Presents s) (hs : plain.Recounts s) (m : Move) :
    plain.Presents (s.move m).session := by
  rcases s.move_cases m with ⟨e, he⟩ | ⟨position, hlt, hp⟩
  · rw [he]
    exact h
  · rw [hp]
    exact hs.presents hlt

theorem presents_toStart (h : plain.Recounts s)
    (hnone : s.snapshots = [] → plain.Presents s) : plain.Presents s.toStart.session := by
  rw [toStart]
  split
  · next hzero =>
    rw [total_eq] at hzero
    exact hnone (List.eq_nil_of_length_eq_zero hzero)
  · next hpos => exact h.presents (Nat.pos_of_ne_zero hpos)

/-! The end of the recorded run. -/

theorem run_eq_after (fuel : Nat) (s : Session) : ∃ n, (run fuel s).1 = s.after n := by
  induction fuel generalizing s with
  | zero => exact ⟨0, rfl⟩
  | succ fuel ih =>
    rw [run_succ]
    split
    · exact ⟨1, rfl⟩
    · exact ⟨1, rfl⟩
    · obtain ⟨n, hn⟩ := ih s.step.session
      exact ⟨n + 1, hn.trans (s.after_succ n).symm⟩

/-- However far a recorded session was stepped, it has the trail of the plain run up to the state
that it shows. -/
theorem Straight.after_eq (h : s.Straight) (hu : s.unstarted = true) (k : Nat) :
    ∃ m, ((s.after k).snapshots = s.unrecorded.trail m ∨ m = 0 ∧ (s.after k).snapshots = []) ∧
      (s.after k).state = (s.unrecorded.after m).state ∧
      (s.after k).machine.transcript.shown = (s.unrecorded.after m).machine.transcript.shown := by
  have hzero : ∀ m, (0 < m → (s.after m).unstarted = false) → (s.after m).unstarted = true →
      m = 0 := by
    intro m hstarted hun
    by_cases hm : 0 < m
    · rw [hstarted hm] at hun
      cases hun
    · omega
  rcases h.unlimited_or_stopped hu k with hl | ⟨m, -, hlm, hlimited, he⟩
  · obtain ⟨-, hsession, hbegun, hstarted⟩ := h.after hu hl
    have hmachine := congrArg Session.machine hsession
    refine ⟨k, ?_, congrArg Machine.state hmachine,
      congrArg (fun m => m.transcript.shown) hmachine⟩
    rcases (s.after k).begun_or_empty with hall | ⟨hun, hnil⟩
    · exact Or.inl (hall.trans hbegun)
    · exact Or.inr ⟨hzero k hstarted hun, hnil⟩
  · obtain ⟨hs, hsession, hbegun, hstarted⟩ := h.after hu hlm
    obtain ⟨hstate, hshown, hsnapshots, -⟩ := hs.limited hlimited
    have hmachine := congrArg Session.machine hsession
    rw [he]
    refine ⟨m, ?_, hstate.trans (congrArg Machine.state hmachine),
      hshown.trans (congrArg (fun m => m.transcript.shown) hmachine)⟩
    rcases hsnapshots with hall | ⟨hun, hnil⟩
    · exact Or.inl (hall.trans hbegun)
    · exact Or.inr ⟨hzero m hstarted hun, hnil⟩

variable {p : Program} {limit : Nat} {input : Input} {output : Output}

theorem Reachable.position_of_empty (h : s.Reachable p (some limit)) (hs : s.snapshots = []) :
    s.position = 0 := by
  obtain ⟨r, hr, -⟩ := h.recording
  rw [snapshots_of_recording hr] at hs
  rw [position_of_recording hr]
  exact (h.orderly r hr).start hs

/-- The only step of an empty program records the halted machine, or nothing. -/
theorem step_of_empty (hp : s.program.size = 0) (hr : s.recording = some { log := { limit } }) :
    s.step.session.machine = s.opened.machine ∧ s.step.session.position = 0 ∧
      (s.step.session.snapshots = [] ∨ s.step.session.snapshots = [s.opened.machine.snapshot]) := by
  rw [opened_of_empty hp]
  have hs := s.step_stepped
  generalize s.step = reply at hs
  cases hs with
  | full e hf => simp [fullError?, hr] at hf
  | refused e hf hb =>
    rw [(begin_refused hb).1, opened_of_empty hp]
    refine ⟨rfl, ?_, Or.inl ?_⟩
    · exact position_of_recording (s := s) hr
    · exact snapshots_of_recording (s := s) hr
  | advanced hf hb =>
    have hbegun := s.begin_begun
    generalize s.begin = reply at hbegun hb
    cases hbegun with
    | started hu => simp [unstarted, hr, Log.isEmpty] at hu
    | refused r hr' hnil hfits => cases hb
    | added r hr' hnil hfits =>
      rw [hr] at hr'
      cases hr'
      rw [opened_of_empty hp]
      exact ⟨rfl, rfl, Or.inr rfl⟩

theorem run_of_empty (hp : s.program.size = 0) (fuel : Nat) :
    (run (fuel + 1) s).1 = s.step.session := by
  rw [run_succ]
  split
  · rfl
  · rfl
  · next hr =>
    obtain ⟨i, hi⟩ := fires_of_running hr
    have hlt := (Array.getElem?_eq_some_iff.mp hi.present).1
    change s.state.pc < s.program.size at hlt
    omega

theorem recounts_of_empty (hp : p.size = 0) :
    let plain := Session.plain p input output
    let s := (Session.recorded p limit input output).step.session
    plain.Recounts s ∧ plain.Presents s := by
  intro plain s
  have hrecording : (Session.recorded p limit input output).recording =
      some { log := { limit } } := rfl
  obtain ⟨hmachine, hposition, hsnapshots⟩ := step_of_empty hp hrecording
  have hplain : (plain.after 1).machine = (Session.recorded p limit input output).opened.machine := by
    change plain.step.session.machine = _
    rw [opened_of_empty hp, session_step_of_empty hp rfl rfl]
    rfl
  have hcounts : plain.Counts 1 0 := by
    have hidle : ¬ plain.Executes := by
      rintro ⟨-, hlt, -⟩
      exact absurd hlt (Nat.not_lt_of_le (Nat.le_of_eq hp))
    exact ⟨fun _ => Nat.one_pos, congrArg (0 + ·) (if_neg hidle)⟩
  rw [← hplain] at hmachine hsnapshots
  refine ⟨fun k snapshot hk => ?_, 1, ?_, congrArg Machine.state hmachine,
    congrArg (fun m => m.transcript.shown) hmachine⟩
  · change s.snapshots = [] ∨ s.snapshots = _ at hsnapshots
    rcases hsnapshots with hnil | hone
    · rw [hnil] at hk
      cases hk
    · rw [hone, List.getElem?_singleton] at hk
      split at hk
      · next h0 =>
        cases hk
        refine ⟨1, h0 ▸ hcounts, rfl, ?_⟩
        rw [hmachine, Transcript.text, String.toList_append]
        exact List.prefix_append _ _
      · cases hk
  · rw [hposition]
    exact hcounts

theorem recounts_after (hp : 0 < p.size) (reliable : output.Reliable) (n : Nat) :
    let plain := Session.plain p input output
    let s := (Session.recorded p limit input output).after n
    plain.Recounts s ∧ (s.snapshots = [] → s.position = 0 → plain.Presents s) := by
  intro plain s
  have hlive : plain.Live := ⟨rfl, reliable, fun _ => hp⟩
  have hstraight : (Session.recorded p limit input output).Straight := by
    obtain ⟨r, ht⟩ := @Traces.fresh p limit input output reliable
    refine ⟨⟨r, [], ht⟩, fun _ => hp, fun r hr => ?_⟩
    cases hr
    rfl
  obtain ⟨m, hsnapshots, hstate, hshown⟩ := hstraight.after_eq rfl n
  have hcounts : ∀ n, plain.Counts n (plain.executed n) := fun n =>
    ⟨fun h0 => absurd h0 (Nat.ne_of_gt hp), rfl⟩
  refine ⟨fun k snapshot hk => ?_, fun hnil hposition => ?_⟩
  · change s.snapshots = plain.trail m ∨ m = 0 ∧ s.snapshots = [] at hsnapshots
    rcases hsnapshots with htrail | ⟨-, hnil⟩
    · rw [htrail] at hk
      obtain ⟨j, hj, rfl, hsnapshot⟩ := hlive.of_getElem?_trail hk
      refine ⟨j, hcounts j, hsnapshot, ?_⟩
      rw [Transcript.text, String.toList_append, hshown]
      exact (hlive.shown_after hj).trans (List.prefix_append _ _)
    · rw [hnil] at hk
      cases hk
  · obtain rfl : m = 0 := by
      rcases hsnapshots with htrail | ⟨hzero, -⟩
      · have hlength := congrArg List.length (hnil.symm.trans htrail)
        rw [length_trail] at hlength
        cases hlength
      · exact hzero
    refine ⟨0, ?_, hstate, hshown⟩
    rw [hposition]
    exact hcounts 0

end Session

/-- The history of a recorded run is that of the plain run, and so is what is shown at its
beginning. -/
theorem Playback.recounts (p : Program) (limit fuel : Nat) (input : Input) {output : Output}
    (reliable : output.Reliable) :
    let plain := Session.plain p input output
    let s := (Playback.ofSession (fuel + 1) (Session.recorded p limit input output)).viewer.session
    plain.Recounts s ∧ plain.Presents s := by
  intro plain s
  have hreachable : ((Session.recorded p limit input output).run (fuel + 1)).1.Reachable p
      (some limit) := (Session.Reachable.fresh input output).run (fuel + 1)
  have hend : plain.Recounts ((Session.recorded p limit input output).run (fuel + 1)).1 ∧
      (((Session.recorded p limit input output).run (fuel + 1)).1.snapshots = [] →
        plain.Presents ((Session.recorded p limit input output).run (fuel + 1)).1) := by
    by_cases hp : p.size = 0
    · rw [Session.run_of_empty hp]
      obtain ⟨hrecounts, hpresents⟩ := Session.recounts_of_empty hp
      exact ⟨hrecounts, fun _ => hpresents⟩
    · have hempty := hreachable.position_of_empty
      obtain ⟨n, hn⟩ := (Session.recorded p limit input output).run_eq_after (fuel + 1)
      rw [hn] at hempty ⊢
      obtain ⟨hrecounts, hpresents⟩ :=
        Session.recounts_after (Nat.pos_of_ne_zero hp) reliable n
      exact ⟨hrecounts, fun hnil => hpresents hnil (hempty hnil)⟩
  exact ⟨hend.1.move .toStart, Session.presents_toStart hend.1 hend.2⟩

end Backstep
