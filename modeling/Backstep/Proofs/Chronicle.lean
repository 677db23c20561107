import Backstep.Proofs.Agreement

/-! A chronicle goes with a session and keeps, for every snapshot that the log
still holds, the text that was shown at the moment the snapshot was taken. The
log itself keeps only the length of that text, and the transcript is cut as late
as the next print, so the invariant (`Recalled`) says that the texts of the
chronicle are beginnings of one another and of the whole transcript. -/
namespace Backstep
namespace Session

def noteCapture (s : Session) (texts : List String) : List String :=
  match s.recording with
  | none => texts
  | some r =>
    let kept := texts.take (r.position + 1)
    if r.trim.log.fits s.machine.snapshot then kept ++ [s.machine.transcript.shown] else kept

def noteBegin (s : Session) (texts : List String) : List String :=
  if s.unstarted then s.opened.noteCapture texts else texts

def noteAdvance (s : Session) (texts : List String) : List String :=
  match s.state.status, s.program.get? s.state.pc with
  | .running, some i =>
    match s.machine.attempt s.program i with
    | ⟨_, some _⟩ => texts
    | ⟨machine, none⟩ => (s.withMachine machine).noteCapture texts
  | _, _ => texts

def noteStep (s : Session) (texts : List String) : List String :=
  match s.fullError? with
  | some _ => texts
  | none =>
    match s.begin with
    | ⟨_, .error _⟩ => s.noteBegin texts
    | ⟨t, .ok ()⟩ => t.noteAdvance (s.noteBegin texts)

section

variable {s : Session} {i : Instruction} (texts : List String)

theorem noteAdvance_of_fault {f : Fault} (hs : s.state.status = .running)
    (hg : s.program.get? s.state.pc = some i)
    (hf : (s.machine.attempt s.program i).fault = some f) : s.noteAdvance texts = texts := by
  simp only [noteAdvance, hs, hg]
  generalize s.machine.attempt s.program i = a at hf
  obtain ⟨m, fault⟩ := a
  cases hf
  rfl

theorem noteAdvance_of_success (hs : s.state.status = .running)
    (hg : s.program.get? s.state.pc = some i)
    (hf : (s.machine.attempt s.program i).fault = none) :
    s.noteAdvance texts =
      (s.withMachine (s.machine.attempt s.program i).machine).noteCapture texts := by
  simp only [noteAdvance, hs, hg]
  generalize s.machine.attempt s.program i = a at hf
  obtain ⟨m, fault⟩ := a
  cases hf
  rfl

/-- How far a step gets, and the texts that go with it. -/
theorem noteStep_cases (s : Session) :
    s.step.session = s ∧ s.noteStep texts = texts ∨
      s.step.session = s.begin.session ∧ s.noteStep texts = s.noteBegin texts ∨
      s.begin.result = .ok () ∧ s.step.session = s.begin.session.advance.session ∧
        s.noteStep texts = s.begin.session.noteAdvance (s.noteBegin texts) := by
  have hs := s.step_stepped
  rw [noteStep]
  generalize s.step = reply at hs
  rcases hbegin : s.begin with ⟨t, result⟩
  cases hs with
  | full e hf =>
    rw [hf]
    exact Or.inl ⟨rfl, rfl⟩
  | refused e hf he =>
    rw [hf]
    rw [hbegin] at he ⊢
    cases he
    exact Or.inr (Or.inl ⟨rfl, rfl⟩)
  | advanced hf he =>
    rw [hf]
    rw [hbegin] at he ⊢
    cases he
    exact Or.inr (Or.inr ⟨rfl, rfl, rfl⟩)

end

end Session

/-- A session, with the text that was shown when each of its snapshots was taken. -/
structure Chronicle where
  session : Session
  texts : List String := []

namespace Chronicle

def step (c : Chronicle) : Chronicle :=
  ⟨c.session.step.session, c.session.noteStep c.texts⟩

def run : Nat → Chronicle → Chronicle
  | 0, c => c
  | fuel + 1, c =>
    match c.session.step.result with
    | .ok .running => run fuel c.step
    | _ => c.step

def serve (c : Chronicle) : Session.Request → Chronicle
  | .step => c.step
  | .run fuel => c.run fuel
  | .move m => { c with session := (c.session.move m).session }

def serveAll (c : Chronicle) : List Session.Request → Chronicle
  | [] => c
  | request :: requests => (c.serve request).serveAll requests

theorem session_run (fuel : Nat) (c : Chronicle) :
    (c.run fuel).session = (Session.run fuel c.session).1 := by
  induction fuel generalizing c with
  | zero => rfl
  | succ fuel ih =>
    have hs : c.step.session = c.session.step.session := rfl
    simp only [run, Session.run]
    rcases hr : c.session.step with ⟨t, result⟩
    cases result with
    | error e => rw [hs, hr]
    | ok status =>
      cases status with
      | halted reason => rw [hs, hr]
      | running =>
        change (run fuel c.step).session = (Session.run fuel t).1
        rw [ih, hs, hr]

theorem session_serveAll (requests : List Session.Request) (c : Chronicle) :
    (c.serveAll requests).session = (c.session.serveAll requests).1 := by
  induction requests generalizing c with
  | nil => rfl
  | cons request requests ih =>
    have hs : (c.serve request).session = (c.session.serve request).1 := by
      cases request with
      | step => rfl
      | run fuel => exact session_run fuel c
      | move m => rfl
    rw [serveAll, ih, hs]
    rfl

end Chronicle

/-! The invariant. -/

/-- The texts belong to the snapshots of `log`, and the transcript can show each of them again. -/
structure Recalled (p : Program) (t : Transcript) (log : List Snapshot) (texts : List String) :
    Prop where
  measured : log.map Snapshot.shown = texts.map String.utf8ByteSize
  nested : texts.Pairwise fun a b => a.toList <+: b.toList
  ready : ∀ snapshot ∈ log, snapshot.state.Ready p.size
  within : ∀ text ∈ texts, text.toList <+: t.text.toList

/-- The transcript of `m` can show the texts again, and no write of `m` fails. -/
structure Kept (p : Program) (m : Machine) (log : List Snapshot) (texts : List String) :
    Prop extends Recalled p m.transcript log texts where
  reliable : m.output.Reliable

/-- The texts belong to the snapshots of the recording, and the one at its position is shown. -/
structure Session.Recalls (s : Session) (r : Recording) (texts : List String) : Prop where
  recording : s.recording = some r
  recalled : Recalled s.program s.machine.transcript r.log.toList texts
  unstarted : texts = [] → r.position = 0
  shown : texts ≠ [] → texts[r.position]? = some s.machine.transcript.shown

/-- No write fails, and the state is always that of the snapshot at the position. -/
structure Session.Traces (s : Session) (r : Recording) (texts : List String) : Prop where
  recording : s.recording = some r
  kept : Kept s.program s.machine r.log.toList texts
  unstarted : texts = [] → r.position = 0
  present : texts ≠ [] → ∃ snapshot, r.log.toList[r.position]? = some snapshot ∧
    s.state = snapshot.state ∧ texts[r.position]? = some s.machine.transcript.shown

namespace Recalled

variable {p : Program} {t : Transcript} {log : List Snapshot} {texts : List String}

theorem length_eq (h : Recalled p t log texts) : log.length = texts.length := by
  have hl := congrArg List.length h.measured
  simpa using hl

theorem shown_eq (h : Recalled p t log texts) {n : Nat} {snapshot : Snapshot} {text : String}
    (hs : log[n]? = some snapshot) (ht : texts[n]? = some text) :
    snapshot.shown = text.utf8ByteSize := by
  have hm := congrArg (fun sizes => sizes[n]?) h.measured
  simpa [hs, ht] using hm

theorem exists_text (h : Recalled p t log texts) {n : Nat} {snapshot : Snapshot}
    (hs : log[n]? = some snapshot) : ∃ text, texts[n]? = some text := by
  have hn : n < texts.length := by
    rw [← h.length_eq]
    exact (List.getElem?_eq_some_iff.mp hs).1
  exact ⟨texts[n], List.getElem?_eq_getElem hn⟩

theorem take (h : Recalled p t log texts) (n : Nat) :
    Recalled p t (log.take n) (texts.take n) where
  measured := by rw [List.map_take, List.map_take, h.measured]
  nested := h.nested.sublist (List.take_sublist n texts)
  ready := fun snapshot hs => h.ready snapshot (List.mem_of_mem_take hs)
  within := fun text ht => h.within text (List.mem_of_mem_take ht)

theorem of_within (h : Recalled p t log texts) {u : Transcript}
    (hu : ∀ text ∈ texts, text.toList <+: u.text.toList) : Recalled p u log texts :=
  ⟨h.measured, h.nested, h.ready, hu⟩

theorem snoc {m : Machine} (h : Recalled p m.transcript log texts) (hr : m.state.Ready p.size)
    (ht : ∀ text ∈ texts, text.toList <+: m.transcript.shown.toList) :
    Recalled p m.transcript (log ++ [m.snapshot]) (texts ++ [m.transcript.shown]) where
  measured := by
    rw [List.map_append, List.map_append, h.measured]
    rfl
  nested := by
    rw [List.pairwise_append]
    refine ⟨h.nested, List.pairwise_singleton _ _, ?_⟩
    intro text hm last hl
    rw [List.mem_singleton.mp hl]
    exact ht text hm
  ready := by
    intro snapshot hs
    rcases List.mem_append.mp hs with hs | hs
    · exact h.ready snapshot hs
    · rw [List.mem_singleton.mp hs]
      exact hr
  within := by
    intro text hm
    rcases List.mem_append.mp hm with hm | hm
    · exact h.within text hm
    · rw [List.mem_singleton.mp hm, Transcript.text, String.toList_append]
      exact List.prefix_append _ _

theorem prefix_of_mem_take (h : Recalled p t log texts) {n : Nat} {last text : String}
    (hl : texts[n]? = some last) (ht : text ∈ texts.take (n + 1)) :
    text.toList <+: last.toList := by
  obtain ⟨k, hk⟩ := List.getElem?_of_mem ht
  have hkn : k < n + 1 := by
    have hlt := (List.getElem?_eq_some_iff.mp hk).1
    rw [List.length_take] at hlt
    omega
  rw [List.getElem?_take_of_lt hkn] at hk
  by_cases he : k = n
  · subst he
    rw [hl] at hk
    cases hk
    exact List.prefix_refl _
  · obtain ⟨hkl, rfl⟩ := List.getElem?_eq_some_iff.mp hk
    obtain ⟨hnl, rfl⟩ := List.getElem?_eq_some_iff.mp hl
    exact List.pairwise_iff_getElem.mp h.nested k n hkl hnl (by omega)

theorem restore (h : Recalled p t log texts) {n : Nat} {snapshot : Snapshot} {text : String}
    (hs : log[n]? = some snapshot) (ht : texts[n]? = some text) :
    Recalled p (t.rewind snapshot.shown) log texts ∧
      (t.rewind snapshot.shown).shown = text := by
  constructor
  · apply h.of_within
    rw [Transcript.text_rewind]
    exact h.within
  · rw [h.shown_eq hs ht]
    exact Transcript.shown_rewind (h.within text (List.mem_of_getElem? ht))

end Recalled

namespace Session

variable {s : Session} {r : Recording} {texts : List String}

/-! The texts of the snapshots. Output that fails is no part of the transcript, so the streams do
not matter here. -/

theorem Recalls.fresh (p : Program) (limit : Nat) (input : Input) (output : Output) :
    ∃ r, (recorded p limit input output).Recalls r [] := by
  refine ⟨{ log := { limit } }, rfl, ⟨rfl, .nil, ?_, ?_⟩, fun _ => rfl, fun hn => absurd rfl hn⟩
  · intro snapshot hs
    cases hs
  · intro text ht
    cases ht

theorem Recalls.of_restore {p : Program} {m : Machine} {log : Log} {n : Nat} {snapshot : Snapshot}
    (full : Bool) (h : Recalled p m.transcript log.toList texts)
    (hs : log.toList[n]? = some snapshot) :
    Recalls ⟨p, m.restore snapshot, some ⟨log, n, full⟩⟩ ⟨log, n, full⟩ texts := by
  obtain ⟨text, ht⟩ := h.exists_text hs
  obtain ⟨hk, hshown⟩ := h.restore hs ht
  refine ⟨rfl, hk, ?_, fun _ => ?_⟩
  · intro he
    rw [he] at ht
    cases ht
  · rw [ht, ← hshown]
    rfl

theorem Recalls.restore (h : s.Recalls r texts) (position : Nat) :
    ∃ r', (s.restore position).session.Recalls r' texts := by
  rcases s.restore_cases position with he | ⟨r', snapshot, hr, hs, he⟩
  · rw [he]
    exact ⟨r, h⟩
  · rw [h.recording] at hr
    cases hr
    rw [he]
    exact ⟨_, Recalls.of_restore false h.recalled hs⟩

theorem Recalls.move (h : s.Recalls r texts) (m : Move) :
    ∃ r', (s.move m).session.Recalls r' texts := by
  rcases s.move_cases m with ⟨e, he⟩ | ⟨position, -, hp⟩
  · rw [he]
    exact ⟨r, h⟩
  · rw [hp]
    exact h.restore position

/-- The snapshots up to the present one, seen from a machine that shows at least the same text. -/
theorem Recalls.take (h : s.Recalls r texts) {t : Transcript}
    (ht : s.machine.transcript.shown.toList <+: t.shown.toList) :
    Recalled s.program t (r.log.toList.take (r.position + 1)) (texts.take (r.position + 1)) ∧
      ∀ text ∈ texts.take (r.position + 1), text.toList <+: t.shown.toList := by
  have hshown : ∀ text ∈ texts.take (r.position + 1), text.toList <+: t.shown.toList := by
    intro text hm
    have hne : texts ≠ [] := List.ne_nil_of_mem (List.mem_of_mem_take hm)
    exact (h.recalled.prefix_of_mem_take (h.shown hne) hm).trans ht
  refine ⟨(h.recalled.take _).of_within ?_, hshown⟩
  intro text hm
  rw [Transcript.text, String.toList_append]
  exact (hshown text hm).trans (List.prefix_append _ _)

theorem Recalls.add (h : s.Recalls r texts) {m : Machine} (hm : m.state.Ready s.program.size)
    (ht : s.machine.transcript.shown.toList <+: m.transcript.shown.toList) :
    ((s.withMachine m).withRecording (r.trim.add m.snapshot)).Recalls (r.trim.add m.snapshot)
      (texts.take (r.position + 1) ++ [m.transcript.shown]) := by
  obtain ⟨hk, hshown⟩ := h.take ht
  refine ⟨rfl, ?_, ?_, fun _ => ?_⟩
  · rw [toList_add]
    exact hk.snoc hm hshown
  · intro he
    simp at he
  · rw [position_add, hk.length_eq, List.getElem?_concat_length]
    rfl

theorem Recalls.unstarted_iff (h : s.Recalls r texts) : s.unstarted = true ↔ texts = [] := by
  have hl := h.recalled.length_eq
  rw [Session.unstarted_iff, ← List.length_eq_zero_iff, ← hl, List.length_eq_zero_iff]
  constructor
  · rintro ⟨r', hr, he⟩
    rw [h.recording] at hr
    cases hr
    exact he
  · intro he
    exact ⟨r, h.recording, he⟩

theorem Recalls.started (h : s.Recalls r texts) (hne : texts ≠ []) : s.unstarted = false := by
  apply Bool.eq_false_iff.mpr
  exact fun hu => hne (h.unstarted_iff.mp hu)

theorem Recalls.present (h : s.Recalls r texts) (hne : texts ≠ []) :
    ∃ snapshot, r.log.toList[r.position]? = some snapshot := by
  have hlt := (List.getElem?_eq_some_iff.mp (h.shown hne)).1
  rw [← h.recalled.length_eq] at hlt
  exact ⟨_, List.getElem?_eq_getElem hlt⟩

theorem Recalls.anchored (h : s.Recalls r texts) : s.Anchored := by
  intro r' hr hne
  rw [h.recording] at hr
  cases hr
  have htexts : texts ≠ [] := by
    intro he
    have hl := h.recalled.length_eq
    rw [he] at hl
    exact hne (List.length_eq_zero_iff.mp hl)
  obtain ⟨snapshot, hp⟩ := h.present htexts
  exact (List.getElem?_eq_some_iff.mp hp).1

/-- The present snapshot can run on only on an instruction, so a state like it does too. -/
theorem Recalls.ready (h : s.Recalls r texts) (hne : texts ≠ [])
    (ha : s.Agrees State.SameButStack) : s.state.Ready s.program.size := by
  obtain ⟨snapshot, hp⟩ := h.present hne
  have hpresent := present_of_recording h.recording hp
  exact (ha snapshot hpresent).ready (h.recalled.ready snapshot (List.mem_of_getElem? hp))

theorem Recalls.follow (h : s.Recalls r texts) (hne : texts ≠ []) {m : Machine}
    (hm : m.state.Ready s.program.size)
    (ht : s.machine.transcript.shown.toList <+: m.transcript.shown.toList) :
    ∃ r', (s.withMachine m).follow.session.Recalls r' ((s.withMachine m).noteCapture texts) := by
  have hrec : (s.withMachine m).recording = some r := h.recording
  simp only [noteCapture, hrec]
  rcases follow_of_recording hrec (h.anchored.withMachine m) (h.started hne) with
    ⟨hfits, hf⟩ | ⟨hfits, snapshot, hp, hf⟩
  · rw [hf, if_pos hfits]
    exact ⟨_, h.add hm ht⟩
  · rw [hf, if_neg (Bool.eq_false_iff.mp hfits)]
    obtain ⟨hk, -⟩ := h.take ht
    refine ⟨_, Recalls.of_restore true ?_ (getElem?_trim hp)⟩
    rw [toList_trim]
    exact hk

theorem opened_ready (s : Session) : s.opened.machine.state.Ready s.program.size := by
  intro hr
  rw [opened] at hr ⊢
  split at hr
  · cases hr
  · next hlt =>
    rw [if_neg hlt]
    exact Nat.lt_of_not_le hlt

/-- The first snapshot. After it the log is not empty; without room for it nothing is recorded. -/
theorem Recalls.begin (h : s.Recalls r texts) :
    (∃ r', s.begin.session.Recalls r' (s.noteBegin texts)) ∧
      (s.begin.result = .ok () → s.noteBegin texts ≠ []) := by
  cases hu : s.unstarted with
  | false =>
    have hne : texts ≠ [] := fun he => by simp [h.unstarted_iff.mpr he] at hu
    rw [begin_of_started hu]
    simp only [noteBegin, hu, Bool.false_eq_true, if_false]
    exact ⟨⟨r, h⟩, fun _ => hne⟩
  | true =>
    have he := h.unstarted_iff.mp hu
    subst he
    obtain ⟨status, hs⟩ := s.opened_eq
    have hready := s.opened_ready
    rw [begin_of_unstarted hu]
    simp only [noteBegin, hu, if_true]
    rw [hs] at hready ⊢
    have hrec : (s.setStatus status).recording = some r := h.recording
    have ht : s.machine.transcript.shown.toList <+:
        (s.setStatus status).machine.transcript.shown.toList := List.prefix_refl _
    have hc := (s.setStatus status).capture_captured
    simp only [noteCapture, hrec]
    generalize (s.setStatus status).capture = reply at hc
    cases hc with
    | unrecorded hr =>
      rw [hrec] at hr
      cases hr
    | added r' hr hfits =>
      rw [hrec] at hr
      cases hr
      rw [if_pos hfits]
      exact ⟨⟨_, h.add hready ht⟩, fun _ he => by simp at he⟩
    | refused r' hr hfits =>
      rw [hrec] at hr
      cases hr
      rw [if_neg (Bool.eq_false_iff.mp hfits)]
      refine ⟨⟨r.trim, rfl, ?_, fun _ => h.unstarted rfl, fun hne => ?_⟩, fun hr => nomatch hr⟩
      · rw [toList_trim]
        exact (h.take ht).1
      · simp at hne

theorem Recalls.of_transcript (h : s.Recalls r texts) {m : Machine}
    (hm : m.transcript = s.machine.transcript) : (s.withMachine m).Recalls r texts := by
  refine ⟨h.recording, ?_, h.unstarted, ?_⟩
  · change Recalled s.program m.transcript _ _
    rw [hm]
    exact h.recalled
  · change texts ≠ [] → _ = some m.transcript.shown
    rw [hm]
    exact h.shown

theorem Recalls.advance (h : s.Recalls r texts) (hne : texts ≠ []) :
    ∃ r', s.advance.session.Recalls r' (s.noteAdvance texts) := by
  have ha := s.advance_advanced
  generalize s.advance = reply at ha
  cases ha with
  | halted reason hs =>
    simp only [noteAdvance, hs]
    exact ⟨r, h⟩
  | ended hs hg =>
    simp only [noteAdvance, hs, hg]
    exact ⟨r, h.of_transcript rfl⟩
  | faulted i f hs hg hf =>
    rw [noteAdvance_of_fault texts hs hg hf]
    exact ⟨r, h.of_transcript (Machine.attempt_fault_sameButStack hf).2⟩
  | followed i hs hg hf =>
    rw [noteAdvance_of_success texts hs hg hf]
    obtain ⟨hprints, hready⟩ := Machine.attempt_ok hf
    generalize (s.machine.attempt s.program i).machine = m at hprints hready
    apply h.follow hne hready
    rcases hprints with ⟨ht, -⟩ | ⟨text, ht, -⟩
    · exact ht ▸ List.prefix_refl _
    · rw [ht, Transcript.print, String.toList_append]
      exact List.prefix_append _ _

theorem Recalls.step (h : s.Recalls r texts) :
    ∃ r', s.step.session.Recalls r' (s.noteStep texts) := by
  obtain ⟨⟨r', hb⟩, hne⟩ := h.begin
  rcases s.noteStep_cases texts with ⟨hs, ht⟩ | ⟨hs, ht⟩ | ⟨hok, hs, ht⟩
  · rw [hs, ht]
    exact ⟨r, h⟩
  · rw [hs, ht]
    exact ⟨r', hb⟩
  · rw [hs, ht]
    exact hb.advance (hne hok)

/-! With an output that does not fail, the state is that of a snapshot, too. -/

theorem output_follow (ha : s.Anchored) (hu : s.unstarted = false) :
    s.follow.session.machine.output = s.machine.output := by
  have hf := follow_followed ha hu
  generalize s.follow = reply at hf
  cases hf <;> rfl

theorem output_move (s : Session) (m : Move) :
    (s.move m).session.machine.output = s.machine.output := by
  rcases s.move_cases m with ⟨e, he⟩ | ⟨position, -, hp⟩
  · rw [he]
  · rw [hp]
    rcases s.restore_cases position with he | ⟨r, snapshot, -, -, he⟩
    · rw [he]
    · rw [he]
      rfl

theorem reliable_advance (ho : s.machine.output.Reliable) (ha : s.Anchored)
    (hu : s.unstarted = false) : s.advance.session.machine.output.Reliable := by
  have had := s.advance_advanced
  generalize s.advance = reply at had
  cases had with
  | halted reason hs => exact ho
  | ended hs hg => exact ho
  | faulted i f hs hg hf =>
    change (s.machine.attempt s.program i).machine.output.Reliable
    rw [(ho.attempt_fault hf).output]
    exact ho
  | followed i hs hg hf =>
    rw [output_follow (ha.withMachine (s.machine.attempt s.program i).machine) hu]
    change (s.machine.attempt s.program i).machine.output.Reliable
    rcases (Machine.attempt_ok hf).1 with ⟨-, hp⟩ | ⟨text, -, hp⟩
    · rw [hp]
      exact ho
    · rw [hp]
      exact ho.write _

theorem Traces.recalls (h : s.Traces r texts) : s.Recalls r texts := by
  refine ⟨h.recording, h.kept.toRecalled, h.unstarted, fun hne => ?_⟩
  obtain ⟨snapshot, -, -, ht⟩ := h.present hne
  exact ht

theorem Traces.agrees (h : s.Traces r texts) : s.Agrees Eq := by
  intro snapshot hs
  rw [snapshots_of_recording h.recording, position_of_recording h.recording] at hs
  obtain ⟨text, ht⟩ := h.kept.exists_text hs
  have hne : texts ≠ [] := List.ne_nil_of_mem (List.mem_of_getElem? ht)
  obtain ⟨present, hp, hstate, -⟩ := h.present hne
  rw [hs] at hp
  cases hp
  exact hstate

theorem Recalls.traces (h : s.Recalls r texts) (ha : s.Agrees Eq)
    (ho : s.machine.output.Reliable) : s.Traces r texts := by
  refine ⟨h.recording, ⟨h.recalled, ho⟩, h.unstarted, fun hne => ?_⟩
  obtain ⟨snapshot, hp⟩ := h.present hne
  have hpresent := present_of_recording h.recording hp
  exact ⟨snapshot, hp, ha snapshot hpresent, h.shown hne⟩

theorem Traces.fresh (p : Program) (limit : Nat) {input : Input} {output : Output}
    (h : output.Reliable) : ∃ r, (recorded p limit input output).Traces r [] := by
  obtain ⟨r, hr⟩ := Recalls.fresh p limit input output
  exact ⟨r, hr.traces (agrees_fresh p (some limit) input output) h⟩

theorem Traces.unstarted_iff (h : s.Traces r texts) : s.unstarted = true ↔ texts = [] :=
  h.recalls.unstarted_iff

theorem Traces.anchored (h : s.Traces r texts) : s.Anchored :=
  h.recalls.anchored

theorem Traces.started (h : s.Traces r texts) (hne : texts ≠ []) : s.unstarted = false :=
  h.recalls.started hne

theorem Traces.move (h : s.Traces r texts) (m : Move) :
    ∃ r', (s.move m).session.Traces r' texts := by
  obtain ⟨r', hr⟩ := h.recalls.move m
  have hagrees : (s.move m).session.Agrees Eq :=
    move_induction (fun _ n hs => hs.restore (fun _ => rfl) n) m h.agrees
  exact ⟨r', hr.traces hagrees (s.output_move m ▸ h.kept.reliable)⟩

theorem Traces.begin (h : s.Traces r texts) :
    (∃ r', s.begin.session.Traces r' (s.noteBegin texts)) ∧
      (s.begin.result = .ok () → s.noteBegin texts ≠ []) := by
  obtain ⟨⟨r', hr⟩, hne⟩ := h.recalls.begin
  obtain ⟨-, status, hm⟩ := s.machine_begin
  refine ⟨⟨r', hr.traces (h.agrees.begin fun _ => rfl) ?_⟩, hne⟩
  rw [hm]
  exact h.kept.reliable

theorem Traces.advance (h : s.Traces r texts) (hne : texts ≠ []) :
    ∃ r', s.advance.session.Traces r' (s.noteAdvance texts) := by
  obtain ⟨r', hr⟩ := h.recalls.advance hne
  have hu := h.started hne
  have hready : s.state.Ready s.program.size :=
    h.recalls.ready hne (h.agrees.imp fun a b hab => hab ▸ .refl a)
  refine ⟨r', hr.traces ?_ (reliable_advance h.kept.reliable h.anchored hu)⟩
  apply h.agrees.advance (fun _ => rfl) h.anchored hu fun _ => hready
  intro i f hf state hstate
  exact ((h.kept.reliable.attempt_fault hf).state).trans hstate

theorem Traces.step (h : s.Traces r texts) :
    ∃ r', s.step.session.Traces r' (s.noteStep texts) := by
  obtain ⟨⟨r', hb⟩, hne⟩ := h.begin
  rcases s.noteStep_cases texts with ⟨hs, ht⟩ | ⟨hs, ht⟩ | ⟨hok, hs, ht⟩
  · rw [hs, ht]
    exact ⟨r, h⟩
  · rw [hs, ht]
    exact ⟨r', hb⟩
  · rw [hs, ht]
    exact hb.advance (hne hok)

end Session

namespace Chronicle

def Sound (c : Chronicle) : Prop :=
  ∃ r, c.session.Traces r c.texts

theorem run_induction {P : Chronicle → Prop} (hstep : ∀ c, P c → P c.step) (fuel : Nat)
    {c : Chronicle} (h : P c) : P (c.run fuel) := by
  induction fuel generalizing c with
  | zero => exact h
  | succ fuel ih =>
    simp only [Chronicle.run]
    split
    · exact ih (hstep c h)
    · exact hstep c h

theorem serveAll_induction {P : Chronicle → Prop} (hstep : ∀ c, P c → P c.step)
    (hmove : ∀ c m, P c → P (c.serve (.move m))) (requests : List Session.Request)
    {c : Chronicle} (h : P c) : P (c.serveAll requests) := by
  induction requests generalizing c with
  | nil => exact h
  | cons request requests ih =>
    apply ih
    cases request with
    | step => exact hstep c h
    | run fuel => exact run_induction hstep fuel h
    | move m => exact hmove c m h

theorem Sound.serveAll {c : Chronicle} (h : c.Sound) (requests : List Session.Request) :
    (c.serveAll requests).Sound :=
  serveAll_induction (fun _ ⟨_, hr⟩ => hr.step) (fun _ m ⟨_, hr⟩ => hr.move m) requests h

end Chronicle

end Backstep
