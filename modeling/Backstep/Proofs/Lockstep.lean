import Backstep.Proofs.Chronicle
import Backstep.Proofs.PlainRun

/-! A session that records, beside one that does not. Until a snapshot does not
fit, both take the same steps, and the snapshots are the trail of the plain
session. When one does not fit, the machine goes back to the last state of that
trail and stays there. -/
namespace Backstep

/-- What an instruction did and printed is undone by going back to a snapshot taken before it. -/
theorem Machine.Prints.restore {m n : Machine} (h : m.Prints n) :
    (n.restore m.snapshot).state = m.state ∧
      (n.restore m.snapshot).transcript.shown = m.transcript.shown := by
  refine ⟨rfl, ?_⟩
  have hbegins : m.transcript.shown.toList <+: n.transcript.text.toList := by
    rcases h with ⟨ht, -⟩ | ⟨text, ht, -⟩
    · rw [ht, Transcript.text, String.toList_append]
      exact List.prefix_append _ _
    · rw [ht, Transcript.print, Transcript.text, String.append_empty, String.toList_append]
      exact List.prefix_append _ _
  exact Transcript.shown_rewind hbegins

namespace Session

variable {s : Session}

theorem Traces.snapshot_eq {r : Recording} {texts : List String} (h : s.Traces r texts)
    {snapshot : Snapshot} (hs : r.log.toList[r.position]? = some snapshot) :
    snapshot = s.machine.snapshot := by
  obtain ⟨text, ht⟩ := h.kept.exists_text hs
  have hne : texts ≠ [] := List.ne_nil_of_mem (List.mem_of_getElem? ht)
  obtain ⟨present, hp, hstate, hshown⟩ := h.present hne
  rw [hs] at hp
  cases hp
  have hsize := h.kept.shown_eq hs hshown
  obtain ⟨state, shown⟩ := snapshot
  cases hstate
  cases hsize
  rfl

def unrecorded (s : Session) : Session :=
  { s with recording := none }

def Limited (s : Session) : Prop :=
  ∃ e, s.step.result = .error e ∧ Limits e

/-- The recording has no snapshots after the present one. -/
def AtLast (s : Session) : Prop :=
  ∀ r, s.recording = some r → r.log.toList.take (r.position + 1) = r.log.toList

/-- The snapshots, with the first one, which is taken when the first step is. -/
def begun (s : Session) : List Snapshot :=
  if s.unstarted then [s.machine.snapshot] else s.snapshots

/-- A recorded session that has only been stepped. -/
structure Straight (s : Session) : Prop where
  traced : ∃ r texts, s.Traces r texts
  opened : s.unstarted = true → s.state.pc < s.program.size
  last : s.AtLast

/-! The parts of a step without the recording. -/

theorem atLast_add (s : Session) (r : Recording) (snapshot : Snapshot) :
    (s.withRecording (r.trim.add snapshot)).AtLast := by
  intro _ hr
  cases hr
  have hlength : (r.trim.add snapshot).log.toList.length = (r.trim.add snapshot).position + 1 := by
    rw [position_add, toList_add, List.length_append, List.length_singleton]
  exact List.take_of_length_le (Nat.le_of_eq hlength)

theorem follow_unlimited (ha : s.Anchored) (hu : s.unstarted = false)
    (hl : ∀ e, s.follow.result = .error e → ¬ Limits e) :
    s.follow.result = .ok s.state.status ∧ s.follow.session.unrecorded = s.unrecorded ∧
      ∀ r, s.recording = some r →
        s.follow.session = s.withRecording (r.trim.add s.machine.snapshot) := by
  have hf := follow_followed ha hu
  generalize s.follow = reply at hf hl
  cases hf with
  | unrecorded hr =>
    refine ⟨rfl, rfl, fun r hs => ?_⟩
    rw [hr] at hs
    cases hs
  | added r hr hfits =>
    refine ⟨rfl, rfl, fun r' hs => ?_⟩
    rw [hr] at hs
    cases hs
    rfl
  | refused r snapshot hr hfits hp => exact absurd ⟨_, _, rfl⟩ (hl _ rfl)

theorem advance_unrecorded (ha : s.Anchored) (hu : s.unstarted = false)
    (hl : ∀ e, s.advance.result = .error e → ¬ Limits e) :
    s.unrecorded.advance = ⟨s.advance.session.unrecorded, s.advance.result⟩ := by
  obtain ⟨program, machine, recording⟩ := s
  simp only [advance, unrecorded] at hl ⊢
  cases hs : machine.state.status with
  | halted reason => rfl
  | running =>
    cases hg : program.get? machine.state.pc with
    | none => rfl
    | some i =>
      simp only [hs, hg] at hl ⊢
      generalize machine.attempt program i = a at hl
      obtain ⟨m, fault⟩ := a
      cases fault with
      | some f => rfl
      | none =>
        have ham : (⟨program, m, recording⟩ : Session).Anchored := ha
        obtain ⟨hresult, hsession, -⟩ := follow_unlimited ham hu hl
        change (⟨⟨program, m, none⟩, .ok m.state.status⟩ : Reply Status) = _
        rw [hresult]
        change _ = (⟨(follow ⟨program, m, recording⟩).session.unrecorded, _⟩ : Reply Status)
        rw [hsession]
        rfl

/-! The whole step. -/

theorem begun_or_empty (s : Session) :
    s.snapshots = s.begun ∨ s.unstarted = true ∧ s.snapshots = [] := by
  cases hu : s.unstarted with
  | false =>
    left
    rw [begun, hu]
    rfl
  | true =>
    obtain ⟨r, hr, hnil⟩ := unstarted_iff.mp hu
    exact Or.inr ⟨rfl, by rw [snapshots_of_recording hr, hnil]⟩

theorem step_of_unlimited (hl : ¬ s.Limited) :
    s.step = s.begin.session.advance ∧ s.begin.result = .ok () := by
  rw [Limited] at hl
  have hs := s.step_stepped
  generalize s.step = reply at hs hl
  cases hs with
  | full e hf => exact absurd ⟨e, rfl, limits_fullError? hf⟩ hl
  | refused e hf hb => exact absurd ⟨e, rfl, limits_begin hb⟩ hl
  | advanced hf hb => exact ⟨rfl, hb⟩

namespace Straight

theorem anchored (h : s.Straight) : s.Anchored := by
  obtain ⟨r, texts, ht⟩ := h.traced
  exact ht.anchored

theorem present (h : s.Straight) (hu : s.unstarted = true) :
    ∃ i, s.program.get? s.state.pc = some i :=
  ⟨_, Array.getElem?_eq_getElem (h.opened hu)⟩

theorem recording_begin (h : s.Straight) : ∃ r, s.begin.session.recording = some r := by
  obtain ⟨r, texts, ht⟩ := h.traced
  obtain ⟨⟨r', ht'⟩, -⟩ := ht.begin
  exact ⟨r', ht'.recording⟩

theorem machine_begin (h : s.Straight) :
    s.begin.session.program = s.program ∧ s.begin.session.machine = s.machine := by
  cases hu : s.unstarted with
  | false =>
    rw [begin_of_started hu]
    exact ⟨rfl, rfl⟩
  | true =>
    obtain ⟨i, hi⟩ := h.present hu
    exact machine_begin_of_present hi

theorem step_unrecorded (h : s.Straight) (hl : ¬ s.Limited) :
    s.unrecorded.step = ⟨s.step.session.unrecorded, s.step.result⟩ := by
  obtain ⟨hp, hm⟩ := h.machine_begin
  obtain ⟨hstep, hb⟩ := step_of_unlimited hl
  have hbegin : s.unrecorded = s.begin.session.unrecorded := by
    rw [unrecorded, unrecorded, hp, hm]
  rw [Limited, hstep] at hl
  rw [step_of_unrecorded rfl, hbegin, hstep]
  exact advance_unrecorded h.anchored.begin (unstarted_begin hb) fun e he hlimits =>
    hl ⟨e, he, hlimits⟩

theorem executes_unrecorded (h : s.Straight) (hl : ¬ s.Limited) :
    s.unrecorded.Executes ↔ s.Executes := by
  rw [Executes, Executes, h.step_unrecorded hl]
  rfl

/-- The first snapshot, if it is still to be taken and there is room for it. -/
theorem begin (h : s.Straight) (hb : s.begin.result = .ok ()) :
    s.begin.session.snapshots = s.begun ∧ s.begin.session.AtLast := by
  cases hu : s.unstarted with
  | false =>
    rw [begin_of_started hu, begun, hu]
    exact ⟨rfl, h.last⟩
  | true =>
    obtain ⟨i, hi⟩ := h.present hu
    have hstarted := unstarted_begin hb
    rw [begun, hu]
    rcases begin_of_present hi hb with he | ⟨r, hr, hnil, he⟩
    · rw [he, hu] at hstarted
      cases hstarted
    · rw [he]
      refine ⟨?_, atLast_add s r _⟩
      have hlist := toList_add r s.machine.snapshot
      rw [hnil, List.take_nil] at hlist
      exact hlist

/-- What a step records: nothing, or the state after the instruction that it executed. -/
theorem step_cases (h : s.Straight) (hl : ¬ s.Limited) :
    s.step.session.unstarted = false ∧ s.step.session.AtLast ∧
      (¬ s.Executes ∧ s.step.session.snapshots = s.begun ∨
        s.Executes ∧
          s.step.session.snapshots = s.begun ++ [s.step.session.machine.snapshot]) := by
  obtain ⟨hp, hm⟩ := h.machine_begin
  obtain ⟨hstep, hb⟩ := step_of_unlimited hl
  obtain ⟨hsnapshots, hlast⟩ := h.begin hb
  have hu := unstarted_begin hb
  have hexecutes : s.Executes ↔ s.begin.session.state.status = .running ∧
      s.begin.session.state.pc < s.begin.session.program.size ∧
      s.begin.session.advance.result.isOk = true := by
    rw [Executes, state, state, hm, hp, hstep]
  rw [Limited, hstep] at hl
  rw [hexecutes, hstep, ← hsnapshots]
  have ha := s.begin.session.advance_advanced
  generalize s.begin.session.advance = reply at ha hl
  cases ha with
  | halted reason hs =>
    refine ⟨hu, hlast, Or.inl ⟨?_, rfl⟩⟩
    rintro ⟨hr, -⟩
    rw [hs] at hr
    cases hr
  | ended hs hg =>
    refine ⟨hu, hlast, Or.inl ⟨?_, rfl⟩⟩
    rintro ⟨-, hlt, -⟩
    exact absurd hlt (Nat.not_lt_of_le (Program.get?_eq_none_iff.mp hg))
  | faulted i f hs hg hf =>
    refine ⟨hu, hlast, Or.inl ⟨?_, rfl⟩⟩
    rintro ⟨-, -, hok⟩
    cases hok
  | followed i hs hg hf =>
    have hlt := (Array.getElem?_eq_some_iff.mp hg).1
    obtain ⟨r, hr⟩ := h.recording_begin
    generalize (s.begin.session.machine.attempt s.begin.session.program i).machine = m at hl ⊢
    obtain ⟨hok, -, hadd⟩ := follow_unlimited (h.anchored.begin.withMachine m) hu fun e he hlimits =>
      hl ⟨e, he, hlimits⟩
    rw [hok, hadd r hr]
    refine ⟨unstarted_add _ r _, atLast_add _ r _, Or.inr ⟨⟨hs, hlt, rfl⟩, ?_⟩⟩
    rw [snapshots_of_recording hr]
    refine (toList_add r _).trans ?_
    rw [hlast r hr]
    rfl

theorem step (h : s.Straight) (hl : ¬ s.Limited) : s.step.session.Straight := by
  obtain ⟨r, texts, ht⟩ := h.traced
  obtain ⟨r', ht'⟩ := ht.step
  obtain ⟨hu, hlast, -⟩ := h.step_cases hl
  refine ⟨⟨r', _, ht'⟩, fun hun => ?_, hlast⟩
  rw [hu] at hun
  cases hun

/-- A step that meets the limit ends at the present state, and no later step gets further. -/
theorem limited (h : s.Straight) (hl : s.Limited) :
    s.step.session.state = s.state ∧
      s.step.session.machine.transcript.shown = s.machine.transcript.shown ∧
      (s.step.session.snapshots = s.begun ∨ s.unstarted = true ∧ s.step.session.snapshots = []) ∧
      s.step.session.step.session = s.step.session := by
  obtain ⟨e, he, hlimits⟩ := hl
  have hs := s.step_stepped
  generalize hstep : s.step = reply at hs he
  cases hs with
  | full e hf => exact ⟨rfl, rfl, s.begun_or_empty, congrArg Reply.session hstep⟩
  | refused e hf hb =>
    obtain ⟨hsession, hu⟩ := begin_refused hb
    obtain ⟨i, hi⟩ := h.present hu
    rw [hsession, opened_of_present hi] at hstep ⊢
    exact ⟨rfl, rfl, s.begun_or_empty, congrArg Reply.session hstep⟩
  | advanced hf hb =>
    obtain ⟨r, texts, ht⟩ := h.traced
    obtain ⟨⟨r', ht'⟩, -⟩ := ht.begin
    obtain ⟨hp, hm⟩ := h.machine_begin
    obtain ⟨hsnapshots, hlast⟩ := h.begin hb
    have ha := s.begin.session.advance_advanced
    generalize s.begin.session.advance = reply at ha he
    cases ha with
    | halted reason hs => cases he
    | ended hs hg => cases he
    | faulted i f hs hg hf =>
      cases he
      obtain ⟨used, limit, hlimit⟩ := hlimits
      cases hlimit
    | followed i hs hg hf =>
      have hundo := (Machine.attempt_ok hf).1.restore
      generalize (s.begin.session.machine.attempt s.begin.session.program i).machine = m at he hundo
      have hrec : (s.begin.session.withMachine m).recording = some r' := ht'.recording
      rcases follow_of_recording hrec (h.anchored.begin.withMachine m) (unstarted_begin hb) with
        ⟨-, hfollow⟩ | ⟨-, snapshot, hposition, hfollow⟩
      · rw [hfollow] at he
        cases he
      · rw [hfollow, ht'.snapshot_eq hposition]
        refine ⟨?_, ?_, Or.inl ?_, congrArg Reply.session (step_of_full rfl)⟩
        · exact hundo.1.trans (congrArg Machine.state hm)
        · exact hundo.2.trans (congrArg (fun m => m.transcript.shown) hm)
        · rw [← hsnapshots, snapshots_of_recording ht'.recording]
          exact (toList_trim r').trans (hlast r' ht'.recording)

end Straight

/-! Any number of steps. -/

/-- None of the first `n` steps meets the limit of the recording. -/
def Unlimited (s : Session) (n : Nat) : Prop :=
  ∀ m < n, ¬ (s.after m).Limited

theorem Straight.after (h : s.Straight) (hu : s.unstarted = true) {n : Nat}
    (hl : s.Unlimited n) :
    (s.after n).Straight ∧ (s.after n).unrecorded = s.unrecorded.after n ∧
      (s.after n).begun = s.unrecorded.trail n ∧ (0 < n → (s.after n).unstarted = false) := by
  induction n with
  | zero =>
    refine ⟨h, rfl, ?_, fun hpos => absurd hpos (Nat.lt_irrefl 0)⟩
    change s.begun = [s.machine.snapshot]
    rw [begun, hu]
    rfl
  | succ n ih =>
    obtain ⟨hstraight, hsession, hbegun, -⟩ := ih fun m hm => hl m (by omega)
    have hn : ¬ (s.after n).Limited := hl n (by omega)
    have hstep := hstraight.step_unrecorded hn
    have hexecutes := hstraight.executes_unrecorded hn
    rw [hsession] at hstep hexecutes
    have hnext : (s.after (n + 1)).unrecorded = s.unrecorded.after (n + 1) :=
      (congrArg Reply.session hstep).symm
    obtain ⟨hstarted, -, hrecord⟩ := hstraight.step_cases hn
    refine ⟨hstraight.step hn, hnext, ?_, fun _ => hstarted⟩
    change (s.after (n + 1)).unstarted = false at hstarted
    rw [begun, hstarted, trail, ← hbegun, ← hnext]
    rcases hrecord with ⟨hx, hsnapshots⟩ | ⟨hx, hsnapshots⟩
    · rw [if_neg (fun hx' => hx (hexecutes.mp hx')), List.append_nil]
      exact hsnapshots
    · rw [if_pos (hexecutes.mpr hx)]
      exact hsnapshots

/-- Either no step met the limit, or the session is where the first such step left it. -/
theorem Straight.unlimited_or_stopped (h : s.Straight) (hu : s.unstarted = true) (n : Nat) :
    s.Unlimited n ∨ ∃ m < n, s.Unlimited m ∧ (s.after m).Limited ∧
      s.after n = s.after (m + 1) := by
  induction n with
  | zero => exact Or.inl fun m hm => absurd hm (Nat.not_lt_zero m)
  | succ n ih =>
    rcases ih with hl | ⟨m, hm, hlm, hlimited, he⟩
    · by_cases hn : (s.after n).Limited
      · exact Or.inr ⟨n, by omega, hl, hn, rfl⟩
      · left
        intro m hm
        by_cases hmn : m = n
        · rw [hmn]
          exact hn
        · exact hl m (by omega)
    · right
      refine ⟨m, by omega, hlm, hlimited, ?_⟩
      have hstraight := (h.after hu hlm).1
      change (s.after n).step.session = _
      rw [he]
      exact (hstraight.limited hlimited).2.2.2

end Session

/-- Recording changes nothing about a run until a snapshot does not fit, and the snapshots are the
states of that run. From then on the recorded machine shows the last state that was recorded. -/
theorem recording_is_plain_run (p : Program) (hp : 0 < p.size) (limit : Nat) (input : Input)
    (output : Output) (reliable : output.Reliable) :
    let plain := Session.plain p input output
    let recorded := Session.recorded p limit input output
    (∀ n, recorded.Unlimited n →
      (recorded.after n).machine = (plain.after n).machine ∧
      (∀ m < n, (recorded.after m).step.result = (plain.after m).step.result) ∧
      (0 < n → (recorded.after n).total = plain.executed n + 1 ∧
        ∀ k ≤ plain.executed n, (∃ m ≤ n, plain.executed m = k) ∧
          ∀ m, plain.executed m = k →
            (recorded.after n).snapshots[k]? = some (plain.after m).machine.snapshot)) ∧
    ∀ n, (recorded.after n).Limited →
      let t := recorded.after (n + 1)
      (∃ m ≤ n, plain.executed m = t.total - 1) ∧
        ∀ m, plain.executed m = t.total - 1 →
          t.state = (plain.after m).state ∧
            t.machine.transcript.shown = (plain.after m).machine.transcript.shown := by
  intro plain recorded
  have hlive : plain.Live := ⟨rfl, reliable, fun _ => hp⟩
  have hstraight : recorded.Straight := by
    obtain ⟨r, ht⟩ := @Session.Traces.fresh p limit input output reliable
    refine ⟨⟨r, [], ht⟩, fun _ => hp, fun r hr => ?_⟩
    cases hr
    rfl
  have hu : recorded.unstarted = true := rfl
  refine ⟨fun n hl => ?_, fun n hn => ?_⟩
  · obtain ⟨-, hsession, hbegun, hstarted⟩ := hstraight.after hu hl
    have hmachine := congrArg Session.machine hsession
    refine ⟨hmachine, fun m hm => ?_, fun hn => ?_⟩
    · have hlm : recorded.Unlimited m := fun j hj => hl j (by omega)
      obtain ⟨hs, hsession, -⟩ := hstraight.after hu hlm
      have hstep := hs.step_unrecorded (hl m hm)
      rw [hsession] at hstep
      exact (congrArg Reply.result hstep).symm
    · have htrail : (recorded.after n).snapshots = plain.trail n := by
        rw [Session.begun, hstarted hn] at hbegun
        exact hbegun
      rw [Session.total_eq, htrail]
      refine ⟨plain.length_trail n, fun k hk => ?_⟩
      obtain ⟨m, hm, hexecuted⟩ := plain.exists_executed_eq n hk
      refine ⟨⟨m, hm, hexecuted⟩, fun j hj => ?_⟩
      rw [hlive.snapshot_eq (hj.trans hexecuted.symm), ← hexecuted]
      exact hlive.getElem?_trail hm
  · intro t
    rcases hstraight.unlimited_or_stopped hu (n + 1) with hl | ⟨m, hm, hlm, hlimited, he⟩
    · exact absurd hn (hl n (by omega))
    · obtain ⟨hs, hsession, hbegun, hstarted⟩ := hstraight.after hu hlm
      obtain ⟨hstate, hshown, hsnapshots, -⟩ := hs.limited hlimited
      have htotal : t.total - 1 = plain.executed m := by
        change (recorded.after (n + 1)).total - 1 = _
        rw [he, Session.total_eq]
        change (recorded.after m).step.session.snapshots.length - 1 = _
        rcases hsnapshots with hall | ⟨hun, hnil⟩
        · rw [hall, hbegun, Session.length_trail]
          rfl
        · -- without even a first snapshot no step has executed anything
          obtain rfl : m = 0 := by
            by_cases h0 : 0 < m
            · rw [hstarted h0] at hun
              cases hun
            · omega
          rw [hnil]
          rfl
      refine ⟨⟨m, by omega, htotal.symm⟩, fun j hj => ?_⟩
      obtain ⟨hsj, htj⟩ := hlive.eq_of_executed_eq (hj.trans htotal)
      rw [hsj, htj]
      change (recorded.after (n + 1)).state = _ ∧
        (recorded.after (n + 1)).machine.transcript.shown = _
      rw [he]
      have hmachine := congrArg Session.machine hsession
      exact ⟨hstate.trans (congrArg Machine.state hmachine),
        hshown.trans (congrArg (fun m => m.transcript.shown) hmachine)⟩

/-- Three instructions, and room for the snapshots before and after the first. -/
def tightProgram : Program :=
  Program.ofList [⟨.push, some (.number 1), {}⟩, ⟨.duplicate, none, {}⟩, ⟨.exit, none, {}⟩]

theorem recording_is_plain_run_tight :
    0 < tightProgram.size ∧ Output.Reliable {} ∧
      let plain := Session.plain tightProgram {} {}
      let recorded := Session.recorded tightProgram 265 {} {}
      (recorded.after 1).Limited ∧ plain.executed 2 = 2 ∧ (recorded.after 2).total = 2 ∧
        (recorded.after 2).state = (plain.after 1).state := by
  have hsize : 0 < tightProgram.size := by decide
  have reliable : Output.Reliable {} := Output.reliable_iff.mpr ⟨rfl, rfl⟩
  have hlimited : ((Session.recorded tightProgram 265 {} {}).after 1).Limited :=
    ⟨_, rfl, _, _, rfl⟩
  refine ⟨hsize, reliable, hlimited, by decide +kernel, by decide +kernel, ?_⟩
  exact (((recording_is_plain_run tightProgram hsize 265 {} {} reliable).2 1 hlimited).2 1
    (by decide +kernel)).1

end Backstep
