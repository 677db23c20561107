import Backstep.Proofs.Requests

/-! The parts of a step: the first snapshot, the instruction, and the snapshot
after it. Each part has a relation that lists what it can do, and a lemma that
the part does one of these; later proofs use the lists and not the parts. -/
namespace Backstep
namespace Session

def withMachine (s : Session) (m : Machine) : Session :=
  { s with machine := m }

def withRecording (s : Session) (r : Recording) : Session :=
  { s with recording := some r }

theorem toList_trim (r : Recording) : r.trim.log.toList = r.log.toList.take (r.position + 1) :=
  Log.toList_truncate _ _

theorem getElem?_trim {r : Recording} {snapshot : Snapshot}
    (h : r.log.toList[r.position]? = some snapshot) :
    r.trim.log.toList[r.position]? = some snapshot := by
  rw [toList_trim, List.getElem?_take_of_lt (by omega), h]

theorem toList_add (r : Recording) (snapshot : Snapshot) :
    (r.trim.add snapshot).log.toList = r.log.toList.take (r.position + 1) ++ [snapshot] := by
  change (r.trim.log.push snapshot).toList = _
  rw [Log.toList_push, toList_trim]

theorem position_add (r : Recording) (snapshot : Snapshot) :
    (r.trim.add snapshot).position = (r.log.toList.take (r.position + 1)).length := by
  change (r.trim.add snapshot).log.count - 1 = _
  rw [Log.count_eq, toList_add, List.length_append, List.length_singleton, Nat.add_sub_cancel]

/-! Taking a snapshot. -/

inductive Captured (s : Session) : Reply Unit → Prop
  | unrecorded : s.recording = none → Captured s ⟨s, .ok ()⟩
  | added (r : Recording) : s.recording = some r → r.trim.log.fits s.machine.snapshot = true →
      Captured s ⟨s.withRecording (r.trim.add s.machine.snapshot), .ok ()⟩
  | refused (r : Recording) : s.recording = some r → r.trim.log.fits s.machine.snapshot = false →
      Captured s ⟨s.withRecording r.trim, .error r.trim.limitError⟩

theorem capture_captured (s : Session) : Captured s s.capture := by
  obtain ⟨program, machine, recording⟩ := s
  cases recording with
  | none => exact .unrecorded rfl
  | some r =>
    cases hf : r.trim.log.fits machine.snapshot with
    | true =>
      simp only [capture, hf, if_true]
      exact .added r rfl hf
    | false =>
      simp only [capture, hf, if_false, Bool.false_eq_true]
      exact .refused r rfl hf

/-- The position of a recording that has begun is one of its snapshots. -/
def Anchored (s : Session) : Prop :=
  ∀ r, s.recording = some r → r.log.toList ≠ [] → r.position < r.log.toList.length

theorem unstarted_iff {s : Session} :
    s.unstarted = true ↔ ∃ r, s.recording = some r ∧ r.log.toList = [] := by
  rw [unstarted]
  cases s.recording with
  | none => simp
  | some r => simp [Log.isEmpty_eq]

theorem started_iff {s : Session} {r : Recording} (hr : s.recording = some r) :
    s.unstarted = false ↔ r.log.toList ≠ [] := by
  simp [unstarted, hr, Log.isEmpty_eq]

inductive Followed (s : Session) : Reply Status → Prop
  | unrecorded : s.recording = none → Followed s ⟨s, .ok s.state.status⟩
  | added (r : Recording) : s.recording = some r → r.trim.log.fits s.machine.snapshot = true →
      Followed s ⟨s.withRecording (r.trim.add s.machine.snapshot), .ok s.state.status⟩
  | refused (r : Recording) (snapshot : Snapshot) : s.recording = some r →
      r.trim.log.fits s.machine.snapshot = false → r.log.toList[r.position]? = some snapshot →
      Followed s ⟨(s.withMachine (s.machine.restore snapshot)).withRecording
        { r.trim with full := true }, .error r.trim.limitError⟩

theorem follow_followed {s : Session} (ha : s.Anchored) (hu : s.unstarted = false) :
    Followed s s.follow := by
  have hc := s.capture_captured
  rw [follow]
  generalize s.capture = reply at hc
  cases hc with
  | unrecorded hr => exact .unrecorded hr
  | added r hr hf => exact .added r hr hf
  | refused r hr hf =>
    have hp := List.getElem?_eq_getElem (ha r hr ((started_iff hr).mp hu))
    have hposition : (s.withRecording r.trim).position = r.position := rfl
    dsimp only
    rw [hposition, restore_of_snapshot rfl (getElem?_trim hp)]
    exact .refused r _ hr hf hp

theorem follow_of_recording {s : Session} {r : Recording} (hr : s.recording = some r)
    (ha : s.Anchored) (hu : s.unstarted = false) :
    r.trim.log.fits s.machine.snapshot = true ∧
        s.follow = ⟨s.withRecording (r.trim.add s.machine.snapshot), .ok s.state.status⟩ ∨
      r.trim.log.fits s.machine.snapshot = false ∧
        ∃ snapshot, r.log.toList[r.position]? = some snapshot ∧
          s.follow = ⟨(s.withMachine (s.machine.restore snapshot)).withRecording
            { r.trim with full := true }, .error r.trim.limitError⟩ := by
  have hf := follow_followed ha hu
  generalize s.follow = reply at hf
  cases hf with
  | unrecorded hn =>
    rw [hr] at hn
    cases hn
  | added r' hr' hf =>
    rw [hr] at hr'
    cases hr'
    exact Or.inl ⟨hf, rfl⟩
  | refused r' snapshot hr' hf hp =>
    rw [hr] at hr'
    cases hr'
    exact Or.inr ⟨hf, snapshot, hp, rfl⟩

/-! The instruction. -/

inductive Advanced (s : Session) : Reply Status → Prop
  | halted (reason : HaltReason) : s.state.status = .halted reason →
      Advanced s ⟨s, .ok (.halted reason)⟩
  | ended : s.state.status = .running → s.program.get? s.state.pc = none →
      Advanced s ⟨s.setStatus (.halted .endOfProgram), .ok (.halted .endOfProgram)⟩
  | faulted (i : Instruction) (f : Fault) : s.state.status = .running →
      s.program.get? s.state.pc = some i → (s.machine.attempt s.program i).fault = some f →
      Advanced s ⟨s.withMachine (s.machine.attempt s.program i).machine,
        .error (.fault f (siteOf s.state.pc i))⟩
  | followed (i : Instruction) : s.state.status = .running →
      s.program.get? s.state.pc = some i → (s.machine.attempt s.program i).fault = none →
      Advanced s (s.withMachine (s.machine.attempt s.program i).machine).follow

theorem advance_advanced (s : Session) : Advanced s s.advance := by
  obtain ⟨program, machine, recording⟩ := s
  simp only [advance]
  split
  · next reason hs => exact .halted reason hs
  · next hs =>
    split
    · next hg => exact .ended hs hg
    · next i hg =>
      split
      · next m f ha =>
        have hf : (machine.attempt program i).fault = some f := by rw [ha]
        have hm : (machine.attempt program i).machine = m := by rw [ha]
        subst hm
        exact .faulted i f hs hg hf
      · next m ha =>
        have hf : (machine.attempt program i).fault = none := by rw [ha]
        have hm : (machine.attempt program i).machine = m := by rw [ha]
        subst hm
        exact .followed i hs hg hf

/-! The first snapshot. -/

/-- The session whose first snapshot is taken: an empty program has ended. -/
def opened (s : Session) : Session :=
  if s.program.size ≤ s.state.pc then s.setStatus (.halted .endOfProgram) else s

theorem opened_eq (s : Session) : ∃ status, s.opened = s.setStatus status := by
  rw [opened]
  split
  · exact ⟨_, rfl⟩
  · exact ⟨s.state.status, rfl⟩

theorem begin_of_started {s : Session} (h : s.unstarted = false) : s.begin = ⟨s, .ok ()⟩ := by
  simp only [begin, h, if_false, Bool.false_eq_true]

theorem begin_of_unstarted {s : Session} (h : s.unstarted = true) :
    s.begin = s.opened.capture := by
  simp only [begin, h, if_true, opened]
  split <;> rfl

theorem recording_opened (s : Session) : s.opened.recording = s.recording := by
  obtain ⟨status, hs⟩ := s.opened_eq
  rw [hs]
  rfl

theorem trim_of_empty {r : Recording} (h : r.log.toList = []) : r.trim = r := by
  have hcount : r.log.count ≤ r.position + 1 := by
    rw [Log.count_eq, h]
    exact Nat.zero_le _
  rw [Recording.trim, Log.truncate, if_pos hcount]

inductive Begun (s : Session) : Reply Unit → Prop
  | started : s.unstarted = false → Begun s ⟨s, .ok ()⟩
  | added (r : Recording) : s.recording = some r → r.log.toList = [] →
      r.trim.log.fits s.opened.machine.snapshot = true →
      Begun s ⟨s.opened.withRecording (r.trim.add s.opened.machine.snapshot), .ok ()⟩
  | refused (r : Recording) : s.recording = some r → r.log.toList = [] →
      r.log.fits s.opened.machine.snapshot = false → Begun s ⟨s.opened, .error r.limitError⟩

theorem begin_begun (s : Session) : Begun s s.begin := by
  cases hu : s.unstarted with
  | false =>
    rw [begin_of_started hu]
    exact .started hu
  | true =>
    obtain ⟨r, hr, hnil⟩ := unstarted_iff.mp hu
    have hopened : s.opened.recording = some r := s.recording_opened.trans hr
    have hc := s.opened.capture_captured
    rw [begin_of_unstarted hu]
    generalize s.opened.capture = reply at hc
    cases hc with
    | unrecorded hn =>
      rw [hopened] at hn
      cases hn
    | added r' hr' hf =>
      rw [hopened] at hr'
      cases hr'
      exact .added r hr hnil hf
    | refused r' hr' hf =>
      rw [hopened] at hr'
      cases hr'
      -- trimming an empty log leaves the session as it is
      have hsame : s.opened.withRecording r = s.opened := by
        rw [withRecording, ← hopened]
      rw [trim_of_empty hnil] at hf ⊢
      rw [hsame]
      exact .refused r hr hnil hf

/-! The whole step. -/

inductive Stepped (s : Session) : Reply Status → Prop
  | full (e : RunError) : s.fullError? = some e → Stepped s ⟨s, .error e⟩
  | refused (e : RunError) : s.fullError? = none → s.begin.result = .error e →
      Stepped s ⟨s.begin.session, .error e⟩
  | advanced : s.fullError? = none → s.begin.result = .ok () →
      Stepped s s.begin.session.advance

theorem step_stepped (s : Session) : Stepped s s.step := by
  rw [step]
  cases hf : s.fullError? with
  | some e => exact .full e hf
  | none =>
    dsimp only
    have hr : s.begin = ⟨s.begin.session, s.begin.result⟩ := rfl
    cases hb : s.begin.result with
    | error e =>
      rw [hb] at hr
      rw [hr]
      exact .refused e hf hb
    | ok u =>
      rw [hb] at hr
      rw [hr]
      exact .advanced hf hb

/-! Recording and restoring touch neither the program nor the label table. -/

variable {s : Session}

theorem machine_begin (s : Session) : s.begin.session.program = s.program ∧
    ∃ status, s.begin.session.machine = (s.setStatus status).machine := by
  obtain ⟨status, hs⟩ := s.opened_eq
  have hb := s.begin_begun
  generalize s.begin = reply at hb
  cases hb with
  | started hu => exact ⟨rfl, s.state.status, rfl⟩
  | added r hr hnil hf =>
    rw [hs]
    exact ⟨rfl, status, rfl⟩
  | refused r hr hnil hf =>
    rw [hs]
    exact ⟨rfl, status, rfl⟩

theorem unstarted_add (s : Session) (r : Recording) (snapshot : Snapshot) :
    (s.withRecording (r.trim.add snapshot)).unstarted = false := by
  apply Bool.eq_false_iff.mpr
  intro hu
  obtain ⟨_, hr, hnil⟩ := unstarted_iff.mp hu
  cases hr
  rw [toList_add] at hnil
  simp at hnil

theorem unstarted_begin (h : s.begin.result = .ok ()) : s.begin.session.unstarted = false := by
  have hb := s.begin_begun
  generalize s.begin = reply at hb h
  cases hb with
  | started hu => exact hu
  | added r hr hnil hf => exact unstarted_add _ r _
  | refused r hr hnil hf => cases h

/-! The position of a recording. -/

theorem Anchored.withMachine (h : s.Anchored) (m : Machine) : (s.withMachine m).Anchored := h

theorem Anchored.setStatus (h : s.Anchored) (status : Status) : (s.setStatus status).Anchored := h

theorem anchored_add (s : Session) (r : Recording) (snapshot : Snapshot) :
    (s.withRecording (r.trim.add snapshot)).Anchored := by
  intro _ hr _
  cases hr
  rw [toList_add, position_add, List.length_append, List.length_singleton]
  omega

theorem Anchored.trim (h : s.Anchored) {r : Recording} (hr : s.recording = some r) (full : Bool) :
    (s.withRecording { r.trim with full }).Anchored := by
  intro _ ht hne
  cases ht
  change r.trim.log.toList ≠ [] at hne
  change r.position < r.trim.log.toList.length
  rw [toList_trim] at hne ⊢
  have hlt := h r hr fun he => hne (by rw [he, List.take_nil])
  rw [List.length_take]
  omega

theorem Anchored.restore (h : s.Anchored) (position : Nat) :
    (s.restore position).session.Anchored := by
  rcases s.restore_cases position with he | ⟨r, snapshot, hr, hs, he⟩
  · rw [he]
    exact h
  · rw [he]
    intro _ ht _
    cases ht
    exact (List.getElem?_eq_some_iff.mp hs).1

theorem Anchored.begin (h : s.Anchored) : s.begin.session.Anchored := by
  have hb := s.begin_begun
  generalize s.begin = reply at hb
  cases hb with
  | started hu => exact h
  | added r hr hnil hf => exact anchored_add s.opened r _
  | refused r hr hnil hf =>
    intro r' hr'
    rw [recording_opened] at hr'
    exact h r' hr'

theorem Anchored.follow (h : s.Anchored) (hu : s.unstarted = false) :
    s.follow.session.Anchored := by
  have hf := follow_followed h hu
  generalize s.follow = reply at hf
  cases hf with
  | unrecorded hr => exact h
  | added r hr hf => exact anchored_add s r _
  | refused r snapshot hr hf hp => exact h.trim hr true

theorem anchored_fresh (p : Program) (limit : Option Nat) (input : Input) (output : Output) :
    (fresh p limit input output).Anchored := by
  intro r hr hne
  cases limit with
  | none => cases hr
  | some limit =>
    cases hr
    exact absurd rfl hne

/-! What holds of the state and of every snapshot. -/

def Holds (P : State → Prop) (s : Session) : Prop :=
  P s.state ∧ ∀ snapshot ∈ s.snapshots, P snapshot.state

variable {P Q : State → Prop}

theorem Holds.imp (h : s.Holds P) (hpq : ∀ state, P state → Q state) : s.Holds Q :=
  ⟨hpq _ h.1, fun snapshot hs => hpq _ (h.2 snapshot hs)⟩

theorem Holds.withMachine (h : s.Holds P) {m : Machine} (hm : P m.state) :
    (s.withMachine m).Holds P :=
  ⟨hm, h.2⟩

theorem Holds.add (h : s.Holds P) {r : Recording} (hr : s.recording = some r) :
    (s.withRecording (r.trim.add s.machine.snapshot)).Holds P := by
  refine ⟨h.1, ?_⟩
  intro snapshot hs
  change snapshot ∈ (r.trim.add s.machine.snapshot).log.toList at hs
  rw [toList_add] at hs
  rcases List.mem_append.mp hs with hs | hs
  · apply h.2
    rw [snapshots_of_recording hr]
    exact List.mem_of_mem_take hs
  · rw [List.mem_singleton.mp hs]
    exact h.1

theorem Holds.trim (h : s.Holds P) {r : Recording} (hr : s.recording = some r) (full : Bool) :
    (s.withRecording { r.trim with full }).Holds P := by
  refine ⟨h.1, ?_⟩
  intro snapshot hs
  change snapshot ∈ r.trim.log.toList at hs
  rw [toList_trim] at hs
  apply h.2
  rw [snapshots_of_recording hr]
  exact List.mem_of_mem_take hs

theorem Holds.restore (h : s.Holds P) (position : Nat) : (s.restore position).session.Holds P := by
  have hsnapshots := s.snapshots_restore position
  rcases s.restore_cases position with he | ⟨r, snapshot, hr, hs, he⟩
  · rw [he]
    exact h
  · refine ⟨?_, ?_⟩
    · rw [he]
      apply h.2 snapshot
      rw [snapshots_of_recording hr]
      exact List.mem_of_getElem? hs
    · rw [hsnapshots]
      exact h.2

theorem Holds.begin (h : s.Holds P) (ho : P s.opened.state) : s.begin.session.Holds P := by
  have hopened : s.opened.Holds P := by
    refine ⟨ho, ?_⟩
    rw [snapshots, recording_opened]
    exact h.2
  have hb := s.begin_begun
  generalize s.begin = reply at hb
  cases hb with
  | started hu => exact h
  | added r hr hnil hf => exact hopened.add (s.recording_opened.trans hr)
  | refused r hr hnil hf => exact hopened

theorem Holds.follow (h : s.Holds P) (ha : s.Anchored) (hu : s.unstarted = false) :
    s.follow.session.Holds P := by
  have hf := follow_followed ha hu
  generalize s.follow = reply at hf
  cases hf with
  | unrecorded hr => exact h
  | added r hr hf => exact h.add hr
  | refused r snapshot hr hf hp =>
    refine ⟨?_, (h.trim hr true).2⟩
    apply h.2 snapshot
    rw [snapshots_of_recording hr]
    exact List.mem_of_getElem? hp

end Session
end Backstep
