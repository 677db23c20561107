import Backstep.Proofs.Faithfulness
import Backstep.Proofs.Reachable
import Backstep.Proofs.Replay

/-! A recording that has no room for a snapshot. The step that meets the limit
goes back to the snapshot before it and closes the recording, which then answers
every step with the same error until a move succeeds. What was recorded after
that snapshot is gone: it made way for the snapshot that did not fit. -/
namespace Backstep
namespace Session

variable {s t : Session} {i : Instruction} {e : RunError}

/-! While the recording is full. -/

theorem run_of_full (h : s.fullError? = some e) (fuel : Nat) :
    run (fuel + 1) s = (s, .failed e) := by
  rw [run, step_of_full h]

theorem serve_of_full (h : s.fullError? = some e) (request : Request)
    (hm : (s.serve request).2 ≠ .moved (.ok ())) : (s.serve request).1 = s := by
  cases request with
  | step => exact congrArg Reply.session (step_of_full h)
  | run fuel =>
    cases fuel with
    | zero => rfl
    | succ fuel => exact congrArg Prod.fst (run_of_full h fuel)
  | move m =>
    change (s.move m).session = s
    rcases s.move_cases m with ⟨e, he⟩ | ⟨position, hlt, hp⟩
    · rw [he]
    · -- a move to a snapshot that is there succeeds
      have hok : (s.move m).result = .ok () := by
        rw [hp]
        exact (restore_of_lt hlt).1
      exact absurd (congrArg Response.moved hok) hm

theorem serveAll_of_full (h : s.fullError? = some e) (requests : List Request)
    (hm : ∀ response ∈ (s.serveAll requests).2, response ≠ .moved (.ok ())) :
    (s.serveAll requests).1 = s := by
  induction requests with
  | nil => rfl
  | cons request requests ih =>
    have hfirst : (s.serve request).1 = s :=
      serve_of_full h request (hm _ List.mem_cons_self)
    change ((s.serve request).1.serveAll requests).1 = s
    have hrest : ∀ response ∈ ((s.serve request).1.serveAll requests).2,
        response ≠ .moved (.ok ()) := fun response hr => hm response (List.mem_cons_of_mem _ hr)
    rw [hfirst] at hrest ⊢
    exact ih hrest

theorem step_overflow {used bound : Nat} (ha : s.Anchored) (hi : s.Fires i)
    (he : s.step.result = .error (.logFull used bound)) :
    s.step.session.fullError? = some (.logFull used bound) ∧ s.step.session.Agrees Eq := by
  have hf := failed_of_fires ha hi he
  generalize s.step = reply at hf he
  cases hf with
  | full e hfull =>
    rw [hi.room.1] at hfull
    cases hfull
  | unopened e hu hb =>
    rw [hi.room.2] at hb
    cases hb
  | faulted j f hj hfault => cases he
  | overflowed j r snapshot hj hfault hr hp =>
    refine ⟨congrArg some (Except.error.inj he), ?_⟩
    -- the machine is at the snapshot that trimming has left at the position
    intro present hpresent
    change r.trim.log.toList[r.position]? = some present at hpresent
    rw [getElem?_trim hp] at hpresent
    cases hpresent
    rfl

theorem Recalls.shows {r : Recording} {texts : List String} (h : s.Recalls r texts)
    (ha : s.Agrees Eq) (hs : s.unstarted = false) : s.Shows texts s.position := by
  have hne : texts ≠ [] := fun he => by simp [h.unstarted_iff.mpr he] at hs
  obtain ⟨snapshot, hp⟩ := h.present hne
  have hpresent := present_of_recording h.recording hp
  refine ⟨rfl, snapshot, hpresent, ha snapshot hpresent, ?_⟩
  rw [position_of_recording h.recording]
  exact h.shown hne

theorem Orderly.last_of_full (h : s.Orderly) (hf : s.fullError? = some e) :
    s.unstarted = false ∧ s.position + 1 = s.total := by
  cases hr : s.recording with
  | none => simp [fullError?, hr] at hf
  | some r =>
    have hfull : r.full = true := by
      cases hrf : r.full with
      | true => rfl
      | false =>
        rw [(fullError?_eq_none hr).mpr hrf] at hf
        cases hf
    have hlast := (h r hr).last hfull
    rw [total_eq, snapshots_of_recording hr, position_of_recording hr]
    refine ⟨(started_iff hr).mpr ?_, hlast⟩
    apply List.ne_nil_of_length_pos
    omega

/-! No room for the first snapshot. -/

theorem step_of_no_room {n : Nat} (hr : s.recording = some { log := { limit := n } })
    (hsize : n < s.machine.snapshot.size) :
    s.begin.result = .error (.logFull 0 n) ∧ s.step = ⟨s.opened, .error (.logFull 0 n)⟩ := by
  have hu : s.unstarted = true := unstarted_iff.mpr ⟨_, hr, rfl⟩
  have hbegin : s.begin.result = .error (.logFull 0 n) := by
    have hbegun := s.begin_begun
    generalize s.begin = reply at hbegun
    cases hbegun with
    | started hs =>
      rw [hu] at hs
      cases hs
    | added r hr' hnil hfits =>
      rw [hr] at hr'
      cases hr'
      -- the status takes up no room
      obtain ⟨status, hs⟩ := s.opened_eq
      rw [hs] at hfits
      have hle : 0 + s.machine.snapshot.size ≤ n := of_decide_eq_true hfits
      omega
    | refused r hr' hnil hfits =>
      rw [hr] at hr'
      cases hr'
      rfl
  refine ⟨hbegin, ?_⟩
  have hs := s.step_stepped
  generalize s.step = reply at hs
  cases hs with
  | full e hf => simp [fullError?, hr] at hf
  | refused e hf hb =>
    rw [hbegin] at hb
    cases hb
    rw [(begin_refused hbegin).1]
  | advanced hf hb =>
    rw [hbegin] at hb
    cases hb

/-- The session is as it began, or it belongs to an empty program and has ended. -/
def Unbegun (s t : Session) : Prop :=
  t = s ∨ s.program.size = 0 ∧ t = s.setStatus (.halted .endOfProgram)

theorem Unbegun.step {n : Nat} (hr : s.recording = some { log := { limit := n } })
    (hpc : s.state.pc = 0) (hsize : n < s.machine.snapshot.size) (h : s.Unbegun t) :
    t.begin.result = .error (.logFull 0 n) ∧ t.step.result = .error (.logFull 0 n) ∧
      s.Unbegun t.step.session := by
  have hopened : s.Unbegun s.opened := by
    rw [opened]
    split
    · next hle => exact Or.inr ⟨by omega, rfl⟩
    · exact Or.inl rfl
  rcases h with rfl | ⟨hp, rfl⟩
  · obtain ⟨hb, hstep⟩ := step_of_no_room hr hsize
    rw [hstep]
    exact ⟨hb, rfl, hopened⟩
  · have hrt : (s.setStatus (.halted .endOfProgram)).recording =
        some { log := { limit := n } } := hr
    obtain ⟨hb, hstep⟩ := step_of_no_room hrt hsize
    rw [hstep]
    refine ⟨hb, rfl, Or.inr ⟨hp, ?_⟩⟩
    change (s.setStatus (.halted .endOfProgram)).opened = s.setStatus (.halted .endOfProgram)
    rw [opened]
    split <;> rfl

theorem Unbegun.restore (hs : s.snapshots = []) (h : s.Unbegun t) (position : Nat) :
    s.Unbegun (t.restore position).session := by
  have ht : t.snapshots = [] := by
    rcases h with rfl | ⟨-, rfl⟩
    · exact hs
    · exact hs
  rcases t.restore_cases position with he | ⟨r, snapshot, hr, hp, -⟩
  · rw [he]
    exact h
  · rw [← snapshots_of_recording hr, ht] at hp
    cases hp

end Session

/-- An instruction whose snapshot does not fit is undone, and from then on nothing happens until
a move succeeds. Without room for the first snapshot nothing happens at all. -/
theorem full_recording_stops (p : Program) (limit : Nat) :
    (∀ (c : Chronicle) (i : Instruction) (used bound : Nat), c.Reachable p (some limit) →
      c.session.Fires i → c.session.step.result = .error (.logFull used bound) →
      let t := c.step.session
      t.Shows c.step.texts t.position ∧ t.position + 1 = t.total ∧
      t.step = ⟨t, .error (.logFull used bound)⟩ ∧
      (∀ fuel, Session.run (fuel + 1) t = (t, .failed (.logFull used bound))) ∧
      ∀ requests, (∀ response ∈ (t.serveAll requests).2, response ≠ .moved (.ok ())) →
        (t.serveAll requests).1 = t) ∧
    ∀ input output,
      let s := Session.recorded p limit input output
      limit < s.machine.snapshot.size → ∀ requests,
        let t := (s.serveAll requests).1
        s.Unbegun t ∧ t.step.result = .error (.logFull 0 limit) ∧ ∀ i, ¬ t.Fires i := by
  refine ⟨?_, ?_⟩
  · intro c i used bound hc hi he t
    obtain ⟨hfull, hagrees⟩ := Session.step_overflow hc.session.charted.anchored hi he
    obtain ⟨r, hrecalls⟩ := hc.step.recalls
    obtain ⟨hstarted, hlast⟩ := hc.step.session.orderly.last_of_full hfull
    exact ⟨hrecalls.shows hagrees hstarted, hlast, Session.step_of_full hfull,
      Session.run_of_full hfull, Session.serveAll_of_full hfull⟩
  · intro input output s hsize requests t
    have hstep : ∀ u, s.Unbegun u → u.begin.result = .error (.logFull 0 limit) ∧
        u.step.result = .error (.logFull 0 limit) ∧ s.Unbegun u.step.session :=
      fun u hu => hu.step rfl rfl hsize
    have ht : s.Unbegun t :=
      Session.serveAll_induction (fun u hu => (hstep u hu).2.2)
        (fun u position hu => hu.restore rfl position) requests (Or.inl rfl)
    refine ⟨ht, (hstep t ht).2.1, fun i hi => ?_⟩
    have hroom := hi.room.2
    rw [(hstep t ht).1] at hroom
    cases hroom

/-- A letter has been pushed, and there is no room for the snapshot after it is printed. -/
def beforeFullPrint : Chronicle :=
  Chronicle.step ⟨Session.fresh letterProgram (some 300) {} {}, []⟩

theorem full_recording_stops_print :
    beforeFullPrint.session.Fires ⟨.printChar, none, {}⟩ ∧
      beforeFullPrint.session.step.result = .error (.logFull 265 300) ∧
      beforeFullPrint.step.session.machine.output.received = #[104] ∧
      beforeFullPrint.step.session.Shows ["", ""] 1 ∧
      beforeFullPrint.step.session.step =
        ⟨beforeFullPrint.step.session, .error (.logFull 265 300)⟩ ∧
      ((Session.recorded letterProgram 119 {} {}).serveAll [.run 9, .step]).1.step.result =
        .error (.logFull 0 119) := by
  have hreachable : beforeFullPrint.Reachable letterProgram (some 300) :=
    .step (.fresh {} {})
  have hstarted : beforeFullPrint.session.unstarted = false := by decide +kernel
  have hfires : beforeFullPrint.session.Fires ⟨.printChar, none, {}⟩ :=
    ⟨⟨by decide +kernel, by rw [Session.begin_of_started hstarted]⟩, by decide +kernel,
      by decide +kernel⟩
  have hresult : beforeFullPrint.session.step.result = .error (.logFull 265 300) := by
    decide +kernel
  obtain ⟨hshows, -, hstep, -⟩ :=
    (full_recording_stops letterProgram 300).1 _ _ _ _ hreachable hfires hresult
  have hnone := (full_recording_stops letterProgram 119).2 {} {} (by decide) [.run 9, .step]
  exact ⟨hfires, hresult, by decide +kernel, hshows, hstep, hnone.2.1⟩

/-! What a failing step leaves of a recording. -/

namespace Session

variable {s t : Session} {i : Instruction} {e : RunError}

theorem restore_of_present {n : Nat} {snapshot : Snapshot} (h : s.snapshots[n]? = some snapshot) :
    (s.restore n).result = .ok () ∧ (s.restore n).session.state = snapshot.state ∧
      (s.restore n).session.position = n := by
  cases hr : s.recording with
  | none =>
    rw [snapshots, hr] at h
    cases h
  | some r =>
    rw [snapshots_of_recording hr] at h
    rw [restore_of_snapshot hr h]
    exact ⟨rfl, rfl, rfl⟩

theorem restore_of_absent {n : Nat} (h : s.snapshots[n]? = none) :
    s.restore n = ⟨s, .error (.move .notRecorded)⟩ := by
  rcases s.restore_cases n with he | ⟨r, snapshot, hr, hs, -⟩
  · exact he
  · rw [snapshots_of_recording hr, hs] at h
    cases h

/-- The requests had the same result and, where they succeeded, have led to the same place. -/
def Alike (reply other : Reply Unit) : Prop :=
  other.result = reply.result ∧
    (reply.result = .ok () → other.session.state = reply.session.state ∧
      other.session.position = reply.session.position)

theorem alike_error (s t : Session) (e : RunError) : Alike ⟨s, .error e⟩ ⟨t, .error e⟩ := by
  refine ⟨rfl, ?_⟩
  intro hok
  cases hok

theorem alike_restore (h : t.snapshots = s.snapshots) (n : Nat) :
    Alike (s.restore n) (t.restore n) := by
  cases hn : s.snapshots[n]? with
  | none =>
    rw [restore_of_absent hn, restore_of_absent (h ▸ hn)]
    exact alike_error s t _
  | some snapshot =>
    obtain ⟨hsr, hss, hsp⟩ := restore_of_present hn
    obtain ⟨htr, hts, htp⟩ := restore_of_present (s := t) (h ▸ hn)
    exact ⟨htr.trans hsr.symm, fun _ => ⟨hts.trans hss.symm, htp.trans hsp.symm⟩⟩

/-- The recording is the same, and every move leads from `t` to where it leads from `s`. -/
structure KeepsRecording (s t : Session) : Prop where
  snapshots : t.snapshots = s.snapshots
  total : t.total = s.total
  position : t.position = s.position
  moves : ∀ m, Alike (s.move m) (t.move m)

theorem alike_move (hs : t.snapshots = s.snapshots) (hp : t.position = s.position) (m : Move) :
    Alike (s.move m) (t.move m) := by
  have ht : t.total = s.total := by rw [total_eq, total_eq, hs]
  cases m with
  | back =>
    simp only [move, back, hp]
    split
    · exact alike_error s t _
    · exact alike_restore hs _
  | forward =>
    simp only [move, forward, hp, ht]
    split
    · exact alike_error s t _
    · exact alike_restore hs _
  | toStart =>
    simp only [move, toStart, ht]
    split
    · exact alike_error s t _
    · exact alike_restore hs _
  | toEnd =>
    simp only [move, toEnd, ht]
    split
    · exact alike_error s t _
    · exact alike_restore hs _

theorem keepsRecording_of_eq (hs : t.snapshots = s.snapshots) (hp : t.position = s.position) :
    s.KeepsRecording t :=
  ⟨hs, by rw [total_eq, total_eq, hs], hp, alike_move hs hp⟩

theorem step_error_recording (ha : s.Anchored) (hu : s.unstarted = false)
    (he : s.step.result = .error e) :
    (e.site? ≠ none ∨ ∀ i, ¬ s.Fires i) ∧ s.KeepsRecording s.step.session ∨
      e.site? = none ∧ (∃ i, s.Fires i) ∧ s.step.session.position = s.position ∧
        s.step.session.snapshots = s.snapshots.take (s.position + 1) := by
  have hfailed := step_failed ha he
  generalize s.step = reply at hfailed he
  cases hfailed with
  | full e' hf =>
    refine Or.inl ⟨Or.inr fun i hi => ?_, keepsRecording_of_eq rfl rfl⟩
    rw [hi.room.1] at hf
    cases hf
  | unopened e' hun hb =>
    rw [hu] at hun
    cases hun
  | faulted i f hi hf =>
    cases he
    rw [begin_of_started hu]
    exact Or.inl ⟨Or.inl (Option.some_ne_none _), keepsRecording_of_eq rfl rfl⟩
  | overflowed i r snapshot hi hf hr hp =>
    cases he
    rw [begin_of_started hu] at hr
    rw [snapshots_of_recording hr, position_of_recording hr]
    exact Or.inr ⟨rfl, ⟨i, hi⟩, rfl, toList_trim r⟩

theorem started_of_total (h : 0 < s.total) : s.unstarted = false := by
  cases hr : s.recording with
  | none => rw [unstarted, hr]
  | some r =>
    rw [total_eq, snapshots_of_recording hr] at h
    exact (started_iff hr).mpr (List.ne_nil_of_length_pos h)

end Session

theorem Chronicle.Coherent.step_ok {p : Program} {c : Chronicle} (h : c.Coherent p)
    (hlt : c.session.position + 1 < c.session.total)
    (hread : ∀ i, p.get? c.session.state.pc = some i → i.operation.reads = false) :
    ∃ status, c.session.step.result = .ok status := by
  -- the snapshot that the step takes is the one that is recorded next, and finds room again
  obtain ⟨⟨r, ht⟩, hc, ho, hl⟩ := h
  have hr := ht.recording
  rw [Session.total_eq, Session.snapshots_of_recording hr, Session.position_of_recording hr] at hlt
  obtain ⟨i, hi, hrunning, hf, hnext, -⟩ := hl.attempt_next ht hc hlt hread
  rw [← hc.program] at hi hf hnext
  rw [Session.step_again hc.anchored hr (ho r hr) hrunning hi hf hnext]
  exact ⟨_, rfl⟩

/-- A failing step keeps the recording whole, unless an instruction was executed whose snapshot
did not fit: then the snapshots after the position are gone, and no others. If no write fails,
that takes an instruction that reads. -/
theorem failing_step_recording {p : Program} {limit : Nat} {s : Session} {e : RunError}
    (h : s.Reachable p (some limit)) (hs : 0 < s.total) (he : s.step.result = .error e) :
    (e.site? ≠ none ∨ (∀ i, ¬ s.Fires i) → s.KeepsRecording s.step.session) ∧
    (∀ i, e.site? = none → s.Fires i → s.step.session.position = s.position ∧
      s.step.session.snapshots = s.snapshots.take (s.position + 1)) ∧
    ∀ input output requests, output.Reliable →
      s = ((Session.recorded p limit input output).serveAll requests).1 →
      (∀ i, p.get? s.state.pc = some i → i.operation.reads = false) →
      s.KeepsRecording s.step.session := by
  have hcases := Session.step_error_recording h.charted.anchored (Session.started_of_total hs) he
  refine ⟨?_, ?_, ?_⟩
  · intro hcause
    rcases hcases with ⟨-, hkeeps⟩ | ⟨hsite, ⟨i, hi⟩, -⟩
    · exact hkeeps
    · rcases hcause with hne | hnone
      · exact absurd hsite hne
      · exact absurd hi (hnone i)
  · intro i hsite hi
    rcases hcases with ⟨hne | hnone, -⟩ | ⟨-, -, hrest⟩
    · exact absurd hsite hne
    · exact absurd hi (hnone i)
    · exact hrest
  · intro input output requests reliable hsession hread
    rcases hcases with ⟨-, hkeeps⟩ | ⟨-, -, hposition, hsnapshots⟩
    · exact hkeeps
    · apply Session.keepsRecording_of_eq _ hposition
      have hlast : s.total ≤ s.position + 1 := by
        by_contra hlt
        have hc := Chronicle.coherent_serveAll p limit input reliable requests
        have hserved := Chronicle.session_serveAll requests
          ⟨Session.recorded p limit input output, []⟩
        rw [← hsession] at hserved
        obtain ⟨status, hok⟩ := hc.step_ok (by rw [hserved]; omega) (by rw [hserved]; exact hread)
        rw [hserved, he] at hok
        cases hok
      rw [hsnapshots]
      rw [Session.total_eq] at hlast
      exact List.take_of_length_le hlast

/-- A number of one byte has been read and the recording is back at its start, before a number of
two bytes. -/
def beforeReread : Session :=
  let input : Input := { bytes := Utf8.encode "1\n256\n" }
  ((Session.fresh (Program.ofList [⟨.readNum, none, {}⟩]) (some 265) input {}).serveAll
    [.step, .move .toStart]).1

theorem failing_step_recording_reread :
    beforeReread.Reachable beforeReread.program (some 265) ∧ 0 < beforeReread.total ∧
      beforeReread.step.result = .error (.logFull 120 265) ∧
      beforeReread.Fires ⟨.readNum, none, {}⟩ ∧
      beforeReread.step.session.snapshots = beforeReread.snapshots.take 1 := by
  have hreachable : beforeReread.Reachable beforeReread.program (some 265) :=
    (Session.Reachable.fresh _ {}).serveAll [.step, .move .toStart]
  have htotal : 0 < beforeReread.total := by decide +kernel
  have hresult : beforeReread.step.result = .error (.logFull 120 265) := by decide +kernel
  have hstarted := Session.started_of_total htotal
  have hfires : beforeReread.Fires ⟨.readNum, none, {}⟩ :=
    ⟨⟨by decide +kernel, by rw [Session.begin_of_started hstarted]⟩, by decide +kernel,
      by decide +kernel⟩
  exact ⟨hreachable, htotal, hresult, hfires,
    ((failing_step_recording hreachable htotal hresult).2.1 _ rfl hfires).2⟩

/-- The snapshot after the position is lost although the step fails, and no move leads to it. -/
theorem reread_drops_snapshot :
    beforeReread.Reachable beforeReread.program (some 265) ∧ beforeReread.total = 2 ∧
      beforeReread.forward.result = .ok () ∧
      beforeReread.step.result = .error (.logFull 120 265) ∧
      beforeReread.step.session.total = 1 ∧
      beforeReread.step.session.forward.result = .error (.move .atEnd) :=
  ⟨(Session.Reachable.fresh _ {}).serveAll [.step, .move .toStart], by decide +kernel⟩

end Backstep
