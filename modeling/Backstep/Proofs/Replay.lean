import Backstep.Proofs.Budget
import Backstep.Proofs.Chronicle
import Backstep.Proofs.Effects
import Backstep.Proofs.FilledTable
import Mathlib.Data.List.Chain

/-! Taking a recorded instruction again. What an instruction that does not read
comes to depends on the state alone, and each snapshot of a recording came from
the one before it by such an instruction or by a read. A step from an earlier
position therefore ends where playing the recording ends. -/
namespace Backstep

/-- What the instruction adds to the text that is shown. -/
def Instruction.said (i : Instruction) (stack : OperandStack) : String :=
  (i.printed? stack).getD ""

namespace Machine

variable {p : Program} {i : Instruction} {m n : Machine} {k : Nat}

theorem fulfil_congr {intent : Intent} (hs : n.state = m.state) (hl : n.labels = m.labels)
    (hm : m.output.Reliable) (hn : n.output.Reliable) (hi : ∀ reading, intent ≠ .take reading)
    (index : Nat) :
    (n.fulfil p index intent).fault = (m.fulfil p index intent).fault ∧
      (n.fulfil p index intent).machine.state = (m.fulfil p index intent).machine.state := by
  cases intent with
  | fail f => exact ⟨rfl, hs⟩
  | change next => exact ⟨rfl, rfl⟩
  | note l => exact ⟨rfl, hs⟩
  | go l land =>
    simp only [fulfil, goto, hl]
    split
    · exact ⟨rfl, rfl⟩
    · exact ⟨rfl, hs⟩
  | print text next =>
    simp only [fulfil, emit, hm.write_eq, hn.write_eq, and_self]
  | take reading => exact absurd rfl (hi reading)

theorem finish_congr {a b : Attempt} (hf : a.fault = b.fault)
    (hs : a.machine.state = b.machine.state) (index : Nat) :
    (finish p index a).fault = (finish p index b).fault ∧
      (finish p index a).machine.state = (finish p index b).machine.state := by
  refine ⟨by rw [fault_finish, fault_finish, hf], ?_⟩
  rw [finish, finish, hf]
  split
  · exact congrArg (fun s => s.settle p.size index) hs
  · exact congrArg (fun s => { s with pc := index }) hs

theorem attempt_congr (hs : n.state = m.state) (hl : n.labels = m.labels)
    (hm : m.output.Reliable) (hn : n.output.Reliable) (hr : i.operation.reads = false) :
    (n.attempt p i).fault = (m.attempt p i).fault ∧
      (n.attempt p i).machine.state = (m.attempt p i).machine.state := by
  have hpassed : n.passed.state = m.passed.state := by
    rw [passed, passed, hs]
  have hintent : n.intent i = m.intent i := by
    rw [intent, intent, hpassed, hs]
    exact State.intent_congr_input hr _ _ _ _
  have hne := m.passed.state.intent_ne_take hr m.state.pc m.input
  obtain ⟨hfault, hstate⟩ := fulfil_congr (p := p) (m := m.passed) (n := n.passed) hpassed hl
    hm hn hne m.state.pc
  rw [attempt_eq, attempt_eq, hintent, hs]
  exact finish_congr hfault hstate m.state.pc

/-- A machine in state `s` that has run and read nothing, with the whole program in its table. -/
def alone (p : Program) (s : State) : Machine :=
  { state := s, labels := .ofProgram p }

/-- An instruction that does not read comes to the same whatever was run and read before. -/
theorem attempt_alone (ht : m.labels.Knows p k) (ho : m.output.Reliable)
    (hr : i.operation.reads = false) :
    ((alone p m.state).attempt p i).fault = (m.attempt p i).fault ∧
      ((alone p m.state).attempt p i).machine.state = (m.attempt p i).machine.state := by
  have halone : (alone p m.state).output.Reliable := Output.reliable_iff.mpr ⟨rfl, rfl⟩
  have hfilled : (m.filled p).output.Reliable := ho
  have h := attempt_congr (p := p) (m := m.filled p) (n := alone p m.state) rfl rfl hfilled
    halone hr
  rw [attempt_filled ht] at h
  exact h

theorem said_eq (m : Machine) (i : Instruction) :
    i.said m.state.stack = ((m.intent i).print?.map Prod.fst).getD "" := by
  have hp := m.passed.state.print?_intent m.state.pc i m.input
  change (m.intent i).print? = (i.printed? m.state.stack).map _ at hp
  rw [hp, Instruction.said, Option.map_map]
  cases i.printed? m.state.stack <;> rfl

/-- The text that an attempt without a fault adds to what is shown and to what was written. -/
theorem attempt_said (ho : m.output.Reliable) (h : (m.attempt p i).fault = none) :
    (m.attempt p i).machine.transcript.shown = m.transcript.shown ++ i.said m.state.stack ∧
      (m.attempt p i).machine.output = { m.output with
        received := m.output.received ++ Utf8.encode (i.said m.state.stack) } := by
  have hsilent : m.transcript.shown = m.transcript.shown ++ "" ∧
      m.output = { m.output with received := m.output.received ++ Utf8.encode "" } := by
    have hencode : Utf8.encode "" = [] := rfl
    rw [String.append_empty, hencode, Array.appendList_nil]
    exact ⟨rfl, rfl⟩
  have hf := m.passed.fulfil_fulfilled p m.state.pc (m.intent i)
  rw [attempt_eq, fault_finish] at h
  rw [attempt_eq, m.said_eq]
  generalize m.passed.fulfil p m.state.pc (m.intent i) = a at hf h
  simp only [finish, h]
  generalize m.intent i = intent at hf
  cases hf with
  | printed text next hw =>
    change m.output.write (Utf8.encode text) = _ at hw
    rw [ho.write_eq] at hw
    cases hw
    exact ⟨rfl, rfl⟩
  | failed e => cases h
  | lost l land hl => cases h
  | unprinted text next hw => cases h
  | missed e input => cases h
  | _ => exact hsilent

end Machine

/-! The chain of snapshots. -/

/-- The entry `b` of a recording comes from the entry `a` before it. -/
structure Link (p : Program) (a b : Snapshot × String) : Prop where
  running : a.1.state.status = .running
  executed : ∃ i, p.get? a.1.state.pc = some i ∧ b.2 = a.2 ++ i.said a.1.state.stack ∧
    (i.operation.reads = false →
      ((Machine.alone p a.1.state).attempt p i).fault = none ∧
        ((Machine.alone p a.1.state).attempt p i).machine.state = b.1.state)

theorem Machine.link {p : Program} {i : Instruction} {m : Machine} {k : Nat}
    (ht : m.labels.Knows p k) (ho : m.output.Reliable) (hr : m.state.status = .running)
    (hi : p.get? m.state.pc = some i) (hf : (m.attempt p i).fault = none) {snapshot : Snapshot}
    (hs : snapshot.state = m.state) :
    Link p (snapshot, m.transcript.shown)
      ((m.attempt p i).machine.snapshot, (m.attempt p i).machine.transcript.shown) := by
  refine ⟨by rw [hs]; exact hr, i, by rw [hs]; exact hi, ?_, fun hread => ?_⟩
  · rw [hs]
    exact (attempt_said ho hf).1
  · obtain ⟨hfault, hstate⟩ := attempt_alone ht ho hread
    rw [hs, hfault]
    exact ⟨hf, hstate⟩

namespace Session

variable {p : Program} {s : Session} {r : Recording} {texts : List String}

def Linked (s : Session) (texts : List String) : Prop :=
  (s.snapshots.zip texts).IsChain (Link s.program)

theorem Linked.take (h : s.Linked texts) (n : Nat) :
    ((s.snapshots.take n).zip (texts.take n)).IsChain (Link s.program) := by
  rw [List.zip_eq_zipWith, ← List.take_zipWith]
  exact List.IsChain.take h n

theorem Linked.snoc (h : s.Linked texts) (ht : s.Traces r texts) (hne : texts ≠ [])
    {snapshot : Snapshot} {text : String}
    (hlink : ∀ a : Snapshot, a.state = s.state →
      Link s.program (a, s.machine.transcript.shown) (snapshot, text)) :
    ((r.log.toList.take (r.position + 1) ++ [snapshot]).zip
      (texts.take (r.position + 1) ++ [text])).IsChain (Link s.program) := by
  obtain ⟨present, hp, hstate, hshown⟩ := ht.present hne
  have htake := h.take (r.position + 1)
  rw [snapshots_of_recording ht.recording] at htake
  rw [List.zip_append (ht.kept.take _).length_eq, List.isChain_append]
  refine ⟨htake, List.isChain_singleton _, ?_⟩
  intro a ha b hb
  cases hb
  have hlast : (r.log.toList.zip texts)[r.position]? =
      some (present, s.machine.transcript.shown) :=
    List.getElem?_zip_eq_some.mpr ⟨hp, hshown⟩
  rw [List.zip_eq_zipWith, ← List.take_zipWith, ← List.zip_eq_zipWith, List.getLast?_take,
    if_neg (Nat.succ_ne_zero _), Nat.add_sub_cancel, hlast] at ha
  cases ha
  exact hlink present hstate.symm

theorem Linked.follow (h : s.Linked texts) (ht : s.Traces r texts) (hne : texts ≠ [])
    {m : Machine} (hlink : ∀ a : Snapshot, a.state = s.state →
      Link s.program (a, s.machine.transcript.shown) (m.snapshot, m.transcript.shown)) :
    (s.withMachine m).follow.session.Linked ((s.withMachine m).noteCapture texts) := by
  have hrec : (s.withMachine m).recording = some r := ht.recording
  simp only [noteCapture, hrec]
  rcases follow_of_recording hrec (ht.anchored.withMachine m) (ht.started hne) with
    ⟨hfits, hf⟩ | ⟨hfits, snapshot, -, hf⟩
  · rw [hf, if_pos hfits, Linked]
    change ((r.trim.add m.snapshot).log.toList.zip _).IsChain (Link s.program)
    rw [toList_add]
    exact h.snoc ht hne hlink
  · have htake := h.take (r.position + 1)
    rw [snapshots_of_recording ht.recording, ← toList_trim] at htake
    rw [hf, if_neg (Bool.eq_false_iff.mp hfits)]
    exact htake

theorem Linked.begin (h : s.Linked texts) (ht : s.Traces r texts) :
    s.begin.session.Linked (s.noteBegin texts) := by
  cases hu : s.unstarted with
  | false =>
    rw [begin_of_started hu]
    simp only [noteBegin, hu, Bool.false_eq_true, if_false]
    exact h
  | true =>
    -- one entry at most
    have hrec : s.opened.recording = some r := by
      obtain ⟨status, hs⟩ := s.opened_eq
      rw [hs]
      exact ht.recording
    rw [ht.unstarted_iff.mp hu, Linked]
    simp only [noteBegin, hu, if_true, noteCapture, hrec, List.take_nil, List.nil_append]
    split
    · cases s.begin.session.snapshots with
      | nil => exact List.isChain_nil
      | cons a l =>
        rw [List.zip_cons_cons, List.zip_nil_right]
        exact List.isChain_singleton _
    · rw [List.zip_nil_right]
      exact List.isChain_nil

theorem Linked.advance (h : s.Linked texts) (ht : s.Traces r texts) (hc : s.Charted p)
    (hne : texts ≠ []) : s.advance.session.Linked (s.noteAdvance texts) := by
  obtain rfl := hc.program
  obtain ⟨k, hk, -⟩ := hc.known
  have ha := s.advance_advanced
  generalize s.advance = reply at ha
  cases ha with
  | halted reason hs =>
    simp only [noteAdvance, hs]
    exact h
  | ended hs hg =>
    simp only [noteAdvance, hs, hg]
    exact h
  | faulted i f hs hg hf =>
    rw [noteAdvance_of_fault texts hs hg hf]
    exact h
  | followed i hs hg hf =>
    rw [noteAdvance_of_success texts hs hg hf]
    exact h.follow ht hne fun a ha => Machine.link hk ht.kept.reliable hs hg hf ha

theorem Linked.step (h : s.Linked texts) (ht : s.Traces r texts) (hc : s.Charted p) :
    s.step.session.Linked (s.noteStep texts) := by
  obtain ⟨⟨r', htb⟩, hne⟩ := ht.begin
  rcases s.noteStep_cases texts with ⟨hs, hn⟩ | ⟨hs, hn⟩ | ⟨hok, hs, hn⟩
  · rw [hs, hn]
    exact h
  · rw [hs, hn]
    exact h.begin ht
  · rw [hs, hn]
    exact (h.begin ht).advance htb hc.begin (hne hok)

theorem Linked.move (h : s.Linked texts) (hc : s.Charted p) (m : Move) :
    (s.move m).session.Linked texts := by
  have hm : (s.move m).session.Charted p :=
    move_induction (fun _ position hs => hs.restore position) m hc
  rw [Linked, s.snapshots_move, hm.program, ← hc.program]
  exact h

end Session

/-- What is known of a session and its texts after any requests. -/
structure Chronicle.Coherent (p : Program) (c : Chronicle) : Prop where
  sound : c.Sound
  charted : c.session.Charted p
  orderly : c.session.Orderly
  linked : c.session.Linked c.texts

namespace Chronicle

variable {p : Program} {c : Chronicle}

theorem Coherent.step (h : c.Coherent p) : c.step.Coherent p := by
  obtain ⟨r, hr⟩ := h.sound
  exact ⟨hr.step, h.charted.step, h.orderly.step h.charted.anchored, h.linked.step hr h.charted⟩

theorem Coherent.move (h : c.Coherent p) (m : Session.Move) : (c.serve (.move m)).Coherent p := by
  obtain ⟨r, hr⟩ := h.sound
  exact ⟨hr.move m, Session.move_induction (fun _ position hs => hs.restore position) m h.charted,
    Session.move_induction (fun _ position hs => hs.restore position) m h.orderly,
    h.linked.move h.charted m⟩

theorem coherent_serveAll (p : Program) (limit : Nat) (input : Input) {output : Output}
    (reliable : output.Reliable) (requests : List Session.Request) :
    (serveAll ⟨Session.recorded p limit input output, []⟩ requests).Coherent p := by
  apply serveAll_induction (fun _ h => h.step) (fun _ m h => h.move m)
  exact ⟨Session.Traces.fresh p limit reliable, Session.charted_fresh p (some limit) input output,
    Session.orderly_fresh p (some limit) input output, List.isChain_nil⟩

end Chronicle

/-! The step. -/

theorem Link.attempt {p : Program} {i : Instruction} {m : Machine} {k : Nat} {a b : Snapshot}
    {text : String} (h : Link p (a, m.transcript.shown) (b, text)) (ha : a.state = m.state)
    (ht : m.labels.Knows p k) (ho : m.output.Reliable) (hi : p.get? m.state.pc = some i)
    (hr : i.operation.reads = false) :
    (m.attempt p i).fault = none ∧ (m.attempt p i).machine.state = b.state ∧
      (m.attempt p i).machine.transcript.shown = text := by
  obtain ⟨j, hj, htext, hnext⟩ := h.executed
  rw [ha] at hj htext hnext
  rw [hi] at hj
  cases hj
  obtain ⟨hfault, hstate⟩ := Machine.attempt_alone ht ho hr
  rw [hfault, hstate] at hnext
  obtain ⟨hf, hs⟩ := hnext hr
  exact ⟨hf, hs, (Machine.attempt_said ho hf).1.trans htext.symm⟩

namespace Session

variable {p : Program} {s : Session} {r : Recording} {texts : List String}

theorem Linked.next (h : s.Linked texts) (ht : s.Traces r texts)
    (hlt : r.position + 1 < r.log.toList.length) :
    ∃ a b text, a.state = s.state ∧ r.log.toList[r.position + 1]? = some b ∧
      texts[r.position + 1]? = some text ∧
      Link s.program (a, s.machine.transcript.shown) (b, text) := by
  have hb := List.getElem?_eq_getElem hlt
  obtain ⟨text, htext⟩ := ht.kept.exists_text hb
  have hne : texts ≠ [] := List.ne_nil_of_mem (List.mem_of_getElem? htext)
  obtain ⟨a, ha, hstate, hshown⟩ := ht.present hne
  have hnow : (r.log.toList.zip texts)[r.position]? = some (a, s.machine.transcript.shown) :=
    List.getElem?_zip_eq_some.mpr ⟨ha, hshown⟩
  have hnext : (r.log.toList.zip texts)[r.position + 1]? =
      some (r.log.toList[r.position + 1], text) :=
    List.getElem?_zip_eq_some.mpr ⟨hb, htext⟩
  refine ⟨a, _, text, hstate.symm, hb, htext, ?_⟩
  rw [Linked, snapshots_of_recording ht.recording, List.isChain_iff_getElem] at h
  obtain ⟨_, hnow⟩ := List.getElem?_eq_some_iff.mp hnow
  obtain ⟨hlast, hnext⟩ := List.getElem?_eq_some_iff.mp hnext
  have hlink := h r.position hlast
  rw [hnow, hnext] at hlink
  exact hlink

/-- Taking the instruction between two snapshots again replaces the second by itself. -/
theorem step_again {i : Instruction} (ha : s.Anchored) (hr : s.recording = some r) (ho : r.Orderly)
    (hs : s.state.status = .running) (hg : s.program.get? s.state.pc = some i)
    (hf : (s.machine.attempt s.program i).fault = none)
    (hnext : r.log.toList[r.position + 1]? =
      some (s.machine.attempt s.program i).machine.snapshot) :
    s.step = ⟨(s.withMachine (s.machine.attempt s.program i).machine).withRecording
        ({ r with position := r.position + 1, full := false } : Recording).trim,
      .ok (s.machine.attempt s.program i).machine.state.status⟩ := by
  have hlt := (List.getElem?_eq_some_iff.mp hnext).1
  have hfull : r.full = false := by
    apply Bool.eq_false_iff.mpr
    intro hfull
    have := ho.last hfull
    omega
  have hu : s.unstarted = false := by
    apply Bool.eq_false_iff.mpr
    intro hu
    obtain ⟨r', hr', hnil⟩ := unstarted_iff.mp hu
    rw [hr] at hr'
    cases hr'
    rw [hnil] at hlt
    exact absurd hlt (Nat.not_lt_zero _)
  have hroom : s.fullError? = none := by
    simp [fullError?, hr, hfull]
  have hbegin := begin_of_started hu
  have hfires : s.Fires i := ⟨⟨hroom, by rw [hbegin]⟩, hs, hg⟩
  rw [step_of_success hfires hf, hbegin]
  generalize (s.machine.attempt s.program i).machine = m at hnext
  have hadd := Recording.trim_add ho.balanced hnext
  have hfits := Recording.fits_again ho.balanced hnext
  rcases follow_of_recording (s := s.withMachine m) hr (ha.withMachine m) hu with
    ⟨-, hfollow⟩ | ⟨hn, -⟩
  · rw [hfollow, ← hfull, ← hadd]
    rfl
  · exact absurd hfits (Bool.eq_false_iff.mp hn)

theorem forward_of_next (hr : s.recording = some r) {snapshot : Snapshot}
    (hnext : r.log.toList[r.position + 1]? = some snapshot) :
    s.forward = ⟨s.shift snapshot r (r.position + 1), .ok ()⟩ := by
  have hlt := (List.getElem?_eq_some_iff.mp hnext).1
  rw [forward, total_eq, snapshots_of_recording hr, position_of_recording hr, if_neg (by omega)]
  exact restore_of_snapshot hr hnext

/-- Taken again, an instruction that does not read comes to the next snapshot and its text. -/
theorem Linked.attempt_next (h : s.Linked texts) (ht : s.Traces r texts) (hc : s.Charted p)
    (hlt : r.position + 1 < r.log.toList.length)
    (hread : ∀ i, p.get? s.state.pc = some i → i.operation.reads = false) :
    ∃ i, p.get? s.state.pc = some i ∧ s.state.status = .running ∧
      (s.machine.attempt p i).fault = none ∧
      r.log.toList[r.position + 1]? = some (s.machine.attempt p i).machine.snapshot ∧
      texts[r.position + 1]? = some (s.machine.attempt p i).machine.transcript.shown := by
  obtain rfl := hc.program
  obtain ⟨k, hk, -⟩ := hc.known
  obtain ⟨a, b, text, ha, hb, htext, hlink⟩ := h.next ht hlt
  have hrunning := hlink.running
  obtain ⟨i, hi, -⟩ := hlink.executed
  change s.program.get? a.state.pc = some i at hi
  change a.state.status = .running at hrunning
  rw [ha] at hi hrunning
  obtain ⟨hf, hstate, hshown⟩ := hlink.attempt ha hk ht.kept.reliable hi (hread i hi)
  have hlength := ht.kept.shown_eq hb htext
  rw [← hshown] at hlength htext
  refine ⟨i, hi, hrunning, hf, ?_, htext⟩
  rw [hb, Machine.snapshot, hstate, Transcript.length, ← hlength]

/-- Text that an instruction did not print is hidden before it as after it. -/
theorem hidden_again {m n : Machine} (h : m.Prints n) :
    n.transcript.hidden = (m.restore n.snapshot).transcript.hidden ∨ n.transcript.hidden = "" := by
  rcases h with ⟨ht, -⟩ | ⟨text, ht, -⟩
  · left
    rw [Machine.restore, Machine.snapshot, ht, Transcript.rewind, if_pos rfl]
  · right
    rw [ht]
    rfl

/-- `stepped` is `played`, but for the snapshots after the present one, which are gone, perhaps
with the text they showed, and for `text`, which was written once more. -/
structure Repeats (stepped played : Session) (text : String) : Prop where
  program : stepped.program = played.program
  state : stepped.state = played.state
  shown : stepped.machine.transcript.shown = played.machine.transcript.shown
  hidden : stepped.machine.transcript.hidden = played.machine.transcript.hidden ∨
    stepped.machine.transcript.hidden = ""
  labels : ∀ l, (stepped.machine.labels.resolve stepped.program l).1 =
    (played.machine.labels.resolve played.program l).1
  input : stepped.machine.input = played.machine.input
  output : stepped.machine.output = { played.machine.output with
    received := played.machine.output.received ++ Utf8.encode text }
  recording : stepped.recording = played.recording.map Recording.trim

end Session

/-- From an earlier position of a recording, taking the next instruction again comes to the same
as moving on to the next snapshot, if the instruction does not read. -/
theorem step_repeats_forward (p : Program) (limit : Nat) (input : Input) (output : Output)
    (reliable : output.Reliable) (requests : List Session.Request) :
    let s := ((Session.recorded p limit input output).serveAll requests).1
    s.position + 1 < s.total →
    (∀ i, p.get? s.state.pc = some i → i.operation.reads = false) →
    ∃ i, p.get? s.state.pc = some i ∧
      s.forward.result = .ok () ∧
      s.step.result = .ok s.forward.session.state.status ∧
      s.forward.session.position = s.position + 1 ∧
      s.step.session.position = s.position + 1 ∧
      s.forward.session.snapshots = s.snapshots ∧
      s.step.session.snapshots = s.snapshots.take (s.position + 2) ∧
      s.forward.session.machine.output = s.machine.output ∧
      s.step.session.machine.transcript.shown =
        s.machine.transcript.shown ++ i.said s.state.stack ∧
      s.step.session.Repeats s.forward.session (i.said s.state.stack) := by
  intro s hlt hread
  obtain ⟨⟨r, ht⟩, hc, ho, hl⟩ := Chronicle.coherent_serveAll p limit input reliable requests
  have hs : (Chronicle.serveAll ⟨Session.recorded p limit input output, []⟩ requests).session = s :=
    Chronicle.session_serveAll requests _
  rw [hs] at ht hc ho hl
  have hr := ht.recording
  rw [Session.total_eq, Session.snapshots_of_recording hr, Session.position_of_recording hr] at hlt
  obtain ⟨i, hi, hrunning, hf, hnext, htext⟩ := hl.attempt_next ht hc hlt hread
  obtain ⟨k, hk, -⟩ := hc.known
  obtain ⟨k', hk', -⟩ := hc.step.known
  obtain ⟨hshown, houtput⟩ := Machine.attempt_said ht.kept.reliable hf
  have hplayed := (ht.kept.restore hnext htext).2
  have hprogram := hc.program
  clear_value s
  subst hprogram
  have hstep := Session.step_again hc.anchored hr (ho r hr) hrunning hi hf hnext
  rw [hstep] at hk'
  refine ⟨i, hi, ?_⟩
  rw [Session.forward_of_next hr hnext, hstep, Session.snapshots_of_recording hr,
    Session.position_of_recording hr]
  refine ⟨rfl, rfl, rfl, rfl, rfl, Session.toList_trim _, rfl, hshown, rfl, rfl, hplayed.symm,
    Session.hidden_again (Machine.attempt_ok hf).1, ?_, Machine.attempt_input (hread i hi),
    houtput, rfl⟩
  intro l
  exact (hk'.resolve l).1.trans (hk.resolve l).1.symm

def letterProgram : Program :=
  Program.ofList
    [⟨.push, some (.number 104), {}⟩, ⟨.printChar, none, {}⟩, ⟨.push, some (.number 105), {}⟩]

/-- The recording is full after the letter, with not a byte to spare, and goes back before it. -/
def rewoundLetter : Session :=
  ((Session.recorded letterProgram 385 {} {}).serveAll [.run 9, .move .back]).1

theorem step_repeats_forward_letter :
    Output.Reliable {} ∧ rewoundLetter.position + 1 < rewoundLetter.total ∧
      (∀ i, letterProgram.get? rewoundLetter.state.pc = some i → i.operation.reads = false) ∧
      rewoundLetter.step.result = .ok .running ∧
      rewoundLetter.step.session.state = rewoundLetter.forward.session.state ∧
      rewoundLetter.step.session.machine.output.received = #[104, 104] := by
  have reliable : Output.Reliable {} := Output.reliable_iff.mpr ⟨rfl, rfl⟩
  have hlt : rewoundLetter.position + 1 < rewoundLetter.total := by decide +kernel
  have hpresent : letterProgram.get? rewoundLetter.state.pc = some ⟨.printChar, none, {}⟩ := by
    decide +kernel
  have hread : ∀ i, letterProgram.get? rewoundLetter.state.pc = some i →
      i.operation.reads = false := by
    intro i hi
    rw [hpresent] at hi
    cases hi
    rfl
  have hstatus : rewoundLetter.forward.session.state.status = .running := by decide +kernel
  obtain ⟨i, -, -, hresult, -, -, -, -, -, -, hrepeats⟩ :=
    step_repeats_forward letterProgram 385 {} {} reliable [.run 9, .move .back] hlt hread
  exact ⟨reliable, hlt, hread, hresult.trans (congrArg Except.ok hstatus), hrepeats.state,
    by decide +kernel⟩

end Backstep
