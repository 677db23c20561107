import Backstep.Proofs.Browsing
import Backstep.Proofs.Supplied

/-! Where the viewer puts the blame for a run that failed. With an output that does
not fail, a fault leaves the recording at the state in which its instruction was
attempted; so the last snapshot is on that instruction, and the keys of the viewer
only lead back to it. -/
namespace Backstep
namespace Session

variable {p : Program} {limit : Nat} {s : Session} {i : Instruction}

/-! The end of the recording. -/

theorem Traces.getLast?_snapshots {r : Recording} {texts : List String} (h : s.Traces r texts)
    (hlast : s.position + 1 = s.total) : s.snapshots.getLast? = some s.machine.snapshot := by
  rw [total_eq] at hlast
  have hlt : s.position < s.snapshots.length := by omega
  have hget := List.getElem?_eq_getElem hlt
  generalize s.snapshots[s.position] = snapshot at hget
  rw [List.getLast?_eq_getElem?, ← hlast, Nat.add_sub_cancel, hget]
  rw [snapshots_of_recording h.recording, position_of_recording h.recording] at hget
  rw [h.snapshot_eq hget]

/-- A session of a recorded run that has only been stepped, with an output that does not fail. -/
structure Onward (p : Program) (limit : Nat) (s : Session) : Prop where
  reachable : s.Reachable p (some limit)
  traced : ∃ r texts, s.Traces r texts
  last : s.AtLast

theorem Onward.step (h : s.Onward p limit) (hok : s.step.result = .ok .running) :
    s.step.session.Onward p limit := by
  obtain ⟨r, texts, hr⟩ := h.traced
  obtain ⟨i, hi⟩ := fires_of_running hok
  obtain ⟨hposition, hsnapshots⟩ := h.reachable.step_adds hi hok
  obtain ⟨r', hr'⟩ := hr.step
  refine ⟨h.reachable.step, ⟨r', _, hr'⟩, fun r hr => ?_⟩
  rw [snapshots_of_recording hr] at hsnapshots
  rw [position_of_recording hr] at hposition
  apply List.take_of_length_le
  rw [hsnapshots, List.length_append, List.length_take, List.length_singleton]
  omega

end Session

namespace Viewer

variable {v : Viewer}

/-! The blame stays as it was when the viewer was opened. -/

theorem atEnd_iff (h : v.session.Anchored) :
    v.atEnd = true ↔ v.session.position + 1 = v.session.total ∨ v.session.total = 0 := by
  rw [atEnd, decide_eq_true_iff]
  by_cases ht : 0 < v.session.total
  · have hlt := h.lt_total ht
    omega
  · omega

theorem blameHere_eq_some_iff {blame : Blame} :
    v.blameHere = some blame ↔ v.blame = some blame ∧ v.atEnd = true := by
  rw [blameHere]
  cases v.atEnd <;> simp

theorem current?_eq_some {index : Nat} (hs : v.state.status = .running) (hpc : v.state.pc = index)
    (hlt : index < v.session.program.size) : v.current? = some index := by
  have hhalted : v.state.status.isHalted = false := by
    rw [hs]
    rfl
  rw [current?, hpc, if_pos ⟨hlt, hhalted⟩]

end Viewer

/-- The viewer of a playback after some events. -/
structure Playback.Viewed (recorded : Session) (ending : Session.Ending) (v : Viewer) : Prop where
  alongside : recorded.Alongside v.session
  traced : ∃ r texts, v.session.Traces r texts
  blame : ∀ blame, v.blame = some blame ↔ ∃ e, ending = .failed e ∧ blame = e.blame

namespace Playback

variable {recorded : Session} {ending : Session.Ending} {v : Viewer}

theorem Viewed.anchored (h : Viewed recorded ending v) : v.session.Anchored := by
  obtain ⟨r, texts, hr⟩ := h.traced
  exact hr.anchored

theorem Viewed.getLast? (h : Viewed recorded ending v)
    (hlast : v.session.position + 1 = v.session.total) :
    recorded.snapshots.getLast? = some v.session.machine.snapshot := by
  obtain ⟨r, texts, hr⟩ := h.traced
  rw [← h.alongside.snapshots]
  exact hr.getLast?_snapshots hlast

theorem Viewed.blameHere (h : Viewed recorded ending v) {blame : Blame} :
    v.blameHere = some blame ↔ (∃ e, ending = .failed e ∧ blame = e.blame) ∧
      (v.session.position + 1 = v.session.total ∨ v.session.total = 0) := by
  rw [Viewer.blameHere_eq_some_iff, h.blame, Viewer.atEnd_iff h.anchored]

theorem Viewed.failing? (h : Viewed recorded ending v) {index : Nat} :
    v.failing? = some index ↔ (∃ e, ending = .failed e ∧ e.site?.map Site.index = some index) ∧
      (v.session.position + 1 = v.session.total ∨ v.session.total = 0) := by
  rw [Viewer.failing?, Option.bind_eq_some_iff]
  constructor
  · rintro ⟨blame, hblame, hindex⟩
    obtain ⟨⟨e, he, rfl⟩, hplace⟩ := h.blameHere.mp hblame
    exact ⟨⟨e, he, hindex⟩, hplace⟩
  · rintro ⟨⟨e, he, hindex⟩, hplace⟩
    exact ⟨e.blame, h.blameHere.mpr ⟨⟨e, he, rfl⟩, hplace⟩, hindex⟩

end Playback

end Backstep
