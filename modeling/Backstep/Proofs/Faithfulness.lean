import Backstep.Proofs.Chronicle

/-! Moving along a recording shows what was recorded: the state of a snapshot
and the text that was shown when it was taken. -/
namespace Backstep

/-- The session is at snapshot `index`: it has the state of that snapshot and shows the text that
was shown when the snapshot was taken. -/
def Session.Shows (s : Session) (texts : List String) (index : Nat) : Prop :=
  s.position = index ∧ ∃ snapshot, s.snapshots[index]? = some snapshot ∧
    s.state = snapshot.state ∧ texts[index]? = some s.machine.transcript.shown

namespace Session

variable {s : Session} {r : Recording} {texts : List String}

theorem Traces.total_eq_length (h : s.Traces r texts) : s.total = texts.length := by
  rw [total_eq, snapshots_of_recording h.recording, h.kept.length_eq]

theorem Traces.shows (h : s.Traces r texts) (ht : 0 < s.total) :
    s.position < s.total ∧ s.Shows texts s.position := by
  have hpos : s.position = r.position := by rw [position, h.recording]
  have hne : texts ≠ [] := by
    rw [h.total_eq_length] at ht
    exact List.ne_nil_of_length_pos ht
  obtain ⟨snapshot, hp, hstate, htext⟩ := h.present hne
  rw [total_eq, Shows, snapshots_of_recording h.recording, hpos]
  exact ⟨(List.getElem?_eq_some_iff.mp hp).1, rfl, snapshot, hp, hstate, htext⟩

theorem Traces.isValid (h : s.Traces r texts) {snapshot : Snapshot} (hs : snapshot ∈ s.snapshots) :
    (⟨snapshot.shown⟩ : String.Pos.Raw).IsValid s.machine.transcript.text := by
  rw [snapshots_of_recording h.recording] at hs
  obtain ⟨n, hn⟩ := List.getElem?_of_mem hs
  obtain ⟨text, ht⟩ := h.kept.exists_text hn
  obtain ⟨rest, hrest⟩ := h.kept.within text (List.mem_of_getElem? ht)
  rw [String.Pos.Raw.isValid_iff_exists_append]
  refine ⟨text, String.ofList rest, ?_, ?_⟩
  · rw [← String.ofList_toList (s := s.machine.transcript.text), ← hrest, String.ofList_append,
      String.ofList_toList]
  · rw [h.kept.shown_eq hn ht]
    rfl

theorem Traces.nondecreasing (h : s.Traces r texts) :
    (s.snapshots.map Snapshot.shown).Pairwise (· ≤ ·) := by
  rw [snapshots_of_recording h.recording, h.kept.measured, List.pairwise_map]
  exact h.kept.nested.imp utf8ByteSize_le_of_prefix

theorem Traces.forward (n : Nat) (h : s.Traces r texts) (hn : s.position + n < s.total) :
    let t := (s.serveAll (List.replicate n (.move .forward))).1
    (∃ r', t.Traces r' texts) ∧ t.position = s.position + n ∧ t.snapshots = s.snapshots := by
  induction n generalizing s r with
  | zero => exact ⟨⟨r, h⟩, rfl, rfl⟩
  | succ n ih =>
    have hforward : s.move .forward = s.restore (s.position + 1) := by
      simp only [Session.move, Session.forward]
      rw [if_neg (by omega)]
    obtain ⟨r', hr'⟩ := h.move .forward
    have hsnapshots := s.snapshots_move .forward
    have hpos : (s.move .forward).session.position = s.position + 1 := by
      rw [hforward]
      exact (restore_of_lt (by omega)).2
    have htotal := s.total_move .forward
    obtain ⟨ht, hp, hs⟩ := ih hr' (by omega)
    exact ⟨ht, hp.trans (by omega), hs.trans hsnapshots⟩

theorem Traces.visit (h : s.Traces r texts) {n : Nat} (hn : n < s.total) :
    let t := (s.serveAll (.move .toStart :: List.replicate n (.move .forward))).1
    t.snapshots = s.snapshots ∧ t.Shows texts n := by
  have hstart : s.move .toStart = s.restore 0 := by
    simp only [Session.move, Session.toStart]
    rw [if_neg (by omega)]
  obtain ⟨r', hr'⟩ := h.move .toStart
  have hsnapshots := s.snapshots_move .toStart
  have hpos : (s.move .toStart).session.position = 0 := by
    rw [hstart]
    exact (restore_of_lt (by omega)).2
  have htotal := s.total_move .toStart
  obtain ⟨⟨r'', hr''⟩, hp, hs⟩ := hr'.forward n (by omega)
  have hlt :
      0 < ((s.move .toStart).session.serveAll (List.replicate n (.move .forward))).1.total := by
    rw [total_eq, hs, ← total_eq]
    omega
  have hshows := (hr''.shows hlt).2
  rw [hp, hpos, Nat.zero_add] at hshows
  exact ⟨hs.trans hsnapshots, hshows⟩

end Session

/-- A recording keeps what was shown, whatever was asked of the session before. -/
theorem recording_faithful (p : Program) (limit : Nat) (input : Input) (output : Output)
    (reliable : output.Reliable) (requests : List Session.Request) :
    let c := Chronicle.serveAll ⟨Session.recorded p limit input output, []⟩ requests
    let s := c.session
    s = ((Session.recorded p limit input output).serveAll requests).1 ∧
      c.texts.length = s.total ∧
      (0 < s.total → s.position < s.total ∧ s.Shows c.texts s.position) ∧
      (∀ snapshot ∈ s.snapshots,
        (⟨snapshot.shown⟩ : String.Pos.Raw).IsValid s.machine.transcript.text) ∧
      (s.snapshots.map Snapshot.shown).Pairwise (· ≤ ·) ∧
      (∀ n < s.total,
        let t := (s.serveAll (.move .toStart :: List.replicate n (.move .forward))).1
        t.snapshots = s.snapshots ∧ t.Shows c.texts n) ∧
      ∀ m, (s.move m).session.snapshots = s.snapshots ∧
        ((s.move m).result = .ok () ∧
            (s.move m).session.Shows c.texts (s.move m).session.position ∨
          (∃ e, (s.move m).result = .error e) ∧ (s.move m).session = s) := by
  intro c s
  obtain ⟨r, hr⟩ : c.Sound := by
    apply Chronicle.Sound.serveAll
    exact Session.Traces.fresh p limit reliable
  refine ⟨Chronicle.session_serveAll requests _, hr.total_eq_length.symm, hr.shows,
    fun snapshot => hr.isValid, hr.nondecreasing, fun n => hr.visit, fun m => ?_⟩
  refine ⟨s.snapshots_move m, ?_⟩
  rcases s.move_cases m with ⟨e, he⟩ | ⟨position, hlt, hp⟩
  · right
    rw [he]
    exact ⟨⟨e, rfl⟩, rfl⟩
  · left
    obtain ⟨r', hr'⟩ := hr.move m
    have hpos : 0 < (s.move m).session.total := by
      rw [s.total_move]
      omega
    refine ⟨?_, (hr'.shows hpos).2⟩
    rw [hp]
    exact (Session.restore_of_lt hlt).1

/-- Prints two letters; the run is then taken back to before the first one and stepped on. -/
def rewoundGreeting : Chronicle :=
  let program := Program.ofList
    [⟨.push, some (.number 104), {}⟩, ⟨.printChar, none, {}⟩, ⟨.push, some (.number 105), {}⟩,
      ⟨.printChar, none, {}⟩]
  Chronicle.serveAll ⟨Session.recorded program 9999 {} {}, []⟩
    [.run 9, .move .back, .move .back, .move .back, .step]

theorem recording_faithful_greeting :
    Output.Reliable {} ∧ rewoundGreeting.texts = ["", "", "h"] ∧
      rewoundGreeting.session.Shows rewoundGreeting.texts rewoundGreeting.session.position := by
  have reliable : Output.Reliable {} := Output.reliable_iff.mpr ⟨rfl, rfl⟩
  have htotal : 0 < rewoundGreeting.session.total := by decide +kernel
  refine ⟨reliable, by decide +kernel, ?_⟩
  exact ((recording_faithful _ 9999 {} {} reliable _).2.2.1 htotal).2

end Backstep
