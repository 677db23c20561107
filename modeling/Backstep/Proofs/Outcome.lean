import Backstep.Proofs.Steps

/-! What a step comes to. A step attempts the instruction at the program counter
(`Fires`) or has no instruction to attempt; its errors are the faults of that
instruction and the limit of the recording. -/
namespace Backstep
namespace Session

variable {s : Session} {i : Instruction}

/-- A step attempts instruction `i`: the recording has room for its first snapshot and is not
full, and the machine runs and is on `i`. -/
structure Fires (s : Session) (i : Instruction) : Prop where
  room : s.fullError? = none ∧ s.begin.result = .ok ()
  running : s.state.status = .running
  present : s.program.get? s.state.pc = some i

theorem opened_of_present (h : s.program.get? s.state.pc = some i) : s.opened = s := by
  obtain ⟨hlt, -⟩ := Array.getElem?_eq_some_iff.mp h
  have hsize : ¬ s.program.size ≤ s.state.pc := Nat.not_le_of_gt hlt
  rw [opened, if_neg hsize]

theorem machine_begin_of_present (h : s.program.get? s.state.pc = some i) :
    s.begin.session.program = s.program ∧ s.begin.session.machine = s.machine := by
  have hb := s.begin_begun
  generalize s.begin = reply at hb
  cases hb with
  | started hu => exact ⟨rfl, rfl⟩
  | added r hr hnil hf =>
    rw [opened_of_present h]
    exact ⟨rfl, rfl⟩
  | refused r hr hnil hf =>
    rw [opened_of_present h]
    exact ⟨rfl, rfl⟩

theorem step_of_fires (h : s.Fires i) : s.step = s.begin.session.advance := by
  have hs := s.step_stepped
  generalize s.step = reply at hs
  cases hs with
  | full e hf =>
    rw [h.room.1] at hf
    cases hf
  | refused e hf hb =>
    rw [h.room.2] at hb
    cases hb
  | advanced hf hb => rfl

/-- The first snapshot, if a step takes it, comes before the instruction and changes nothing else. -/
theorem begin_of_present (h : s.program.get? s.state.pc = some i)
    (hb : s.begin.result = .ok ()) :
    s.begin.session = s ∨ ∃ r, s.recording = some r ∧ r.log.toList = [] ∧
      s.begin.session = s.withRecording (r.trim.add s.machine.snapshot) := by
  have hbegun := s.begin_begun
  generalize s.begin = reply at hbegun hb
  cases hbegun with
  | started hu => exact Or.inl rfl
  | added r hr hnil hf =>
    rw [opened_of_present h]
    exact Or.inr ⟨r, hr, hnil, rfl⟩
  | refused r hr hnil hf => cases hb

/-- Without room for the first snapshot nothing changes but the status of an empty program. -/
theorem begin_refused {e : RunError} (hb : s.begin.result = .error e) :
    s.begin.session = s.opened ∧ s.unstarted = true := by
  have hbegun := s.begin_begun
  generalize s.begin = reply at hbegun hb
  cases hbegun with
  | started hu => cases hb
  | added r hr hnil hf => cases hb
  | refused r hr hnil hf => exact ⟨rfl, unstarted_iff.mpr ⟨r, hr, hnil⟩⟩

theorem advance_of_present (hs : s.state.status = .running)
    (hg : s.program.get? s.state.pc = some i) :
    s.advance = match s.machine.attempt s.program i with
      | ⟨m, some f⟩ => ⟨s.withMachine m, .error (.fault f (siteOf s.state.pc i))⟩
      | ⟨m, none⟩ => (s.withMachine m).follow := by
  obtain ⟨program, machine, recording⟩ := s
  change machine.state.status = .running at hs
  change program.get? machine.state.pc = some i at hg
  simp only [advance, hs, hg]
  rfl

theorem Fires.begin (h : s.Fires i) : s.begin.session.state.status = .running ∧
    s.begin.session.program.get? s.begin.session.state.pc = some i := by
  obtain ⟨hp, hm⟩ := machine_begin_of_present h.present
  rw [state, hm, hp]
  exact ⟨h.running, h.present⟩

theorem step_of_present (h : s.Fires i) :
    s.step = match s.machine.attempt s.program i with
      | ⟨m, some f⟩ => ⟨s.begin.session.withMachine m, .error (.fault f (siteOf s.state.pc i))⟩
      | ⟨m, none⟩ => (s.begin.session.withMachine m).follow := by
  obtain ⟨hp, hm⟩ := machine_begin_of_present h.present
  obtain ⟨hs, hg⟩ := h.begin
  rw [step_of_fires h, advance_of_present hs hg, state, hm, hp]
  rfl

theorem step_of_fault {f : Fault} (h : s.Fires i)
    (hf : (s.machine.attempt s.program i).fault = some f) :
    s.step = ⟨s.begin.session.withMachine (s.machine.attempt s.program i).machine,
      .error (.fault f (siteOf s.state.pc i))⟩ := by
  rw [step_of_present h]
  generalize s.machine.attempt s.program i = a at hf
  obtain ⟨m, fault⟩ := a
  cases hf
  rfl

theorem step_of_success (h : s.Fires i)
    (hf : (s.machine.attempt s.program i).fault = none) :
    s.step = (s.begin.session.withMachine (s.machine.attempt s.program i).machine).follow := by
  rw [step_of_present h]
  generalize s.machine.attempt s.program i = a at hf
  obtain ⟨m, fault⟩ := a
  cases hf
  rfl

theorem fires_of_begin (hf : s.fullError? = none) (hb : s.begin.result = .ok ())
    (hr : s.begin.session.state.status = .running)
    (hg : s.begin.session.program.get? s.begin.session.state.pc = some i) :
    s.Fires i ∧ s.begin.session.program = s.program ∧ s.begin.session.machine = s.machine := by
  obtain ⟨hp, status, hm⟩ := s.machine_begin
  have hpc : s.begin.session.state.pc = s.state.pc := by
    rw [state, hm]
    rfl
  rw [hp, hpc] at hg
  have hbegin := machine_begin_of_present hg
  rw [state, hbegin.2] at hr
  exact ⟨⟨⟨hf, hb⟩, hr, hg⟩, hbegin⟩

/-! The errors of a step: the recording has no room, or its instruction has a fault. -/

def Limits (e : RunError) : Prop :=
  ∃ used limit, e = .logFull used limit

theorem limits_fullError? {e : RunError} (h : s.fullError? = some e) : Limits e := by
  unfold fullError? at h
  split at h
  · split at h
    · cases h
      exact ⟨_, _, rfl⟩
    · cases h
  · cases h

theorem limits_begin {e : RunError} (h : s.begin.result = .error e) : Limits e := by
  have hb := s.begin_begun
  generalize s.begin = reply at hb h
  cases hb with
  | started hu => cases h
  | added r hr hnil hf => cases h
  | refused r hr hnil hf =>
    cases h
    exact ⟨_, _, rfl⟩

/-- After an instruction without a fault, the machine is shown as it is or the recording is full. -/
theorem follow_outcome (ha : s.Anchored) (hu : s.unstarted = false) :
    s.follow.result = .ok s.state.status ∧ s.follow.session.machine = s.machine ∨
      s.recording ≠ none ∧ ∃ e, s.follow.result = .error e ∧ Limits e := by
  have hf := follow_followed ha hu
  generalize s.follow = reply at hf
  cases hf with
  | unrecorded hr => exact Or.inl ⟨rfl, rfl⟩
  | added r hr hfits => exact Or.inl ⟨rfl, rfl⟩
  | refused r snapshot hr hfits hp =>
    exact Or.inr ⟨by rw [hr]; exact Option.some_ne_none r, _, rfl, _, _, rfl⟩

theorem recording_begin (hr : s.recording = none) : s.begin.session.recording = none := by
  have hu : s.unstarted = false := by
    rw [unstarted, hr]
  rw [begin_of_started hu]
  exact hr

theorem step_outcome (ha : s.Anchored) (h : s.Fires i) :
    (∃ f, (s.machine.attempt s.program i).fault = some f ∧
      s.step.result = .error (.fault f (siteOf s.state.pc i))) ∨
    (s.machine.attempt s.program i).fault = none ∧
      (s.step.result = .ok (s.machine.attempt s.program i).machine.state.status ∧
        s.step.session.machine = (s.machine.attempt s.program i).machine ∨
      s.recording ≠ none ∧ ∃ e, s.step.result = .error e ∧ Limits e) := by
  cases hf : (s.machine.attempt s.program i).fault with
  | some f => exact Or.inl ⟨f, rfl, by rw [step_of_fault h hf]⟩
  | none =>
    rw [step_of_success h hf]
    refine Or.inr ⟨rfl, ?_⟩
    have hanchored := ha.begin.withMachine (s.machine.attempt s.program i).machine
    rcases follow_outcome hanchored (unstarted_begin h.room.2) with hok | ⟨hrec, he⟩
    · exact Or.inl hok
    · exact Or.inr ⟨fun hr => hrec (recording_begin hr), he⟩

/-! The flag of a full recording. -/

theorem fullError?_eq_none {r : Recording} (hr : s.recording = some r) :
    s.fullError? = none ↔ r.full = false := by
  simp [fullError?, hr]

theorem fullError?_add {r : Recording} (hr : s.recording = some r) (hf : s.fullError? = none)
    (t : Session) (snapshot : Snapshot) :
    (t.withRecording (r.trim.add snapshot)).fullError? = none :=
  (fullError?_eq_none (r := r.trim.add snapshot) rfl).mpr ((fullError?_eq_none hr).mp hf)

theorem fullError?_begin (hf : s.fullError? = none) (hb : s.begin.result = .ok ()) :
    s.begin.session.fullError? = none := by
  have hbegun := s.begin_begun
  generalize s.begin = reply at hbegun hb
  cases hbegun with
  | started hu => exact hf
  | added r hr hnil hfits => exact fullError?_add hr hf _ _
  | refused r hr hnil hfits => cases hb

theorem step_of_full {e : RunError} (h : s.fullError? = some e) : s.step = ⟨s, .error e⟩ := by
  rw [step, h]

/-! The ways in which a step fails, with the session after each. -/

/-- The session after an instruction whose snapshot did not fit: the machine is at the snapshot
before it, which is the last one now. -/
def overflowed (s : Session) (i : Instruction) (r : Recording) (snapshot : Snapshot) : Session :=
  (s.begin.session.withMachine
    ((s.machine.attempt s.program i).machine.restore snapshot)).withRecording
      { r.trim with full := true }

inductive Failed (s : Session) : Reply Status → Prop
  | full (e : RunError) : s.fullError? = some e → Failed s ⟨s, .error e⟩
  | unopened (e : RunError) : s.unstarted = true → s.begin.result = .error e →
      Failed s ⟨s.opened, .error e⟩
  | faulted (i : Instruction) (f : Fault) : s.Fires i →
      (s.machine.attempt s.program i).fault = some f →
      Failed s ⟨s.begin.session.withMachine (s.machine.attempt s.program i).machine,
        .error (.fault f (siteOf s.state.pc i))⟩
  | overflowed (i : Instruction) (r : Recording) (snapshot : Snapshot) : s.Fires i →
      (s.machine.attempt s.program i).fault = none → s.begin.session.recording = some r →
      r.log.toList[r.position]? = some snapshot →
      Failed s ⟨s.overflowed i r snapshot, .error r.trim.limitError⟩

theorem failed_of_fires (ha : s.Anchored) (hi : s.Fires i) {e : RunError}
    (he : s.step.result = .error e) : Failed s s.step := by
  cases hf : (s.machine.attempt s.program i).fault with
  | some f =>
    rw [step_of_fault hi hf]
    exact .faulted i f hi hf
  | none =>
    have hanchored := ha.begin.withMachine (s.machine.attempt s.program i).machine
    have hfollowed := follow_followed hanchored (unstarted_begin hi.room.2)
    rw [step_of_success hi hf] at he ⊢
    generalize (s.begin.session.withMachine (s.machine.attempt s.program i).machine).follow =
      reply at hfollowed he
    cases hfollowed with
    | unrecorded hr => cases he
    | added r hr hfits => cases he
    | refused r snapshot hr hfits hp => exact .overflowed i r snapshot hi hf hr hp

theorem step_failed (ha : s.Anchored) {e : RunError} (he : s.step.result = .error e) :
    Failed s s.step := by
  by_cases hfires : ∃ i, s.Fires i
  · obtain ⟨i, hi⟩ := hfires
    exact failed_of_fires ha hi he
  · have hs := s.step_stepped
    generalize s.step = reply at hs he
    cases hs with
    | full e hf => exact .full e hf
    | refused e hf hb =>
      obtain ⟨hsession, hu⟩ := begin_refused hb
      rw [hsession]
      exact .unopened e hu hb
    | advanced hf hb =>
      have had := s.begin.session.advance_advanced
      generalize s.begin.session.advance = reply at had he
      cases had with
      | halted reason hs => cases he
      | ended hs hg => cases he
      | faulted i f hs hg hfault => exact absurd ⟨i, (fires_of_begin hf hb hs hg).1⟩ hfires
      | followed i hs hg hfault => exact absurd ⟨i, (fires_of_begin hf hb hs hg).1⟩ hfires

theorem step_fault_iff (ha : s.Anchored) {f : Fault} {site : Site} :
    s.step.result = .error (.fault f site) ↔
      ∃ i, s.Fires i ∧ (s.machine.attempt s.program i).fault = some f ∧
        site = siteOf s.state.pc i := by
  constructor
  · intro h
    have hfailed := step_failed ha h
    generalize s.step = reply at hfailed h
    cases hfailed with
    | full e hf =>
      cases h
      obtain ⟨used, limit, he⟩ := limits_fullError? hf
      cases he
    | unopened e hu hb =>
      cases h
      obtain ⟨used, limit, he⟩ := limits_begin hb
      cases he
    | faulted i g hi hg =>
      cases h
      exact ⟨i, hi, hg, rfl⟩
    | overflowed i r snapshot hi hg hr hp => cases h
  · rintro ⟨i, hi, hfault, rfl⟩
    rw [step_of_fault hi hfault]

end Session
end Backstep
