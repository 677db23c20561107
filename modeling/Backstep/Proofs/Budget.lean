import Backstep.Proofs.Steps

/-! The account of a recording: the bytes counted as used are those of the
snapshots that the log holds and stay within the limit, a recording without
snapshots is at its start, and a full one is at its last snapshot. -/
namespace Backstep

theorem tally_take_le {α : Type} (size : α → Nat) (as : List α) (n : Nat) :
    tally size (as.take n) ≤ tally size as := by
  have h := tally_append size (as.take n) (as.drop n)
  rw [List.take_append_drop] at h
  omega

namespace Log

variable {l : Log}

structure Balanced (l : Log) : Prop where
  used : l.used = tally Snapshot.size l.toList
  within : l.used ≤ l.limit

theorem limit_truncate (l : Log) (n : Nat) : (l.truncate n).limit = l.limit := by
  rw [truncate]
  split <;> rfl

theorem Balanced.used_truncate (h : l.Balanced) (n : Nat) :
    (l.truncate n).used = tally Snapshot.size (l.toList.take n) := by
  by_cases hn : l.count ≤ n
  · have hlength : l.toList.length ≤ n := l.count_eq ▸ hn
    rw [truncate, if_pos hn, List.take_of_length_le hlength, h.used]
  · have hsum := tally_append Snapshot.size (l.toList.take n) (l.toList.drop n)
    rw [List.take_append_drop, ← h.used] at hsum
    rw [truncate, if_neg hn]
    change l.used - tally Snapshot.size (l.toList.drop n) = _
    omega

theorem Balanced.truncate (h : l.Balanced) (n : Nat) : (l.truncate n).Balanced := by
  have hle := tally_take_le Snapshot.size l.toList n
  have hused := h.used
  have hwithin := h.within
  refine ⟨?_, ?_⟩
  · rw [h.used_truncate, toList_truncate]
  · rw [h.used_truncate, limit_truncate]
    omega

theorem Balanced.push (h : l.Balanced) {snapshot : Snapshot} (hf : l.fits snapshot = true) :
    (l.push snapshot).Balanced := by
  have hfits : l.used + snapshot.size ≤ l.limit := by simpa [fits] using hf
  refine ⟨?_, hfits⟩
  rw [toList_push, tally_append, ← h.used]
  change l.used + snapshot.size = _
  simp

theorem eq_of_toList_eq {k : Log} (hlimit : k.limit = l.limit) (hlist : k.toList = l.toList)
    (hused : k.used = l.used) : k = l := by
  obtain ⟨limit, snapshots, used⟩ := k
  cases hlimit
  cases hused
  cases Array.toList_inj.mp hlist
  rfl

end Log

namespace Recording

variable {r : Recording}

structure Orderly (r : Recording) : Prop where
  balanced : r.log.Balanced
  start : r.log.toList = [] → r.position = 0
  last : r.full = true → r.position + 1 = r.log.toList.length

theorem Orderly.add (h : r.Orderly) {snapshot : Snapshot}
    (hf : r.trim.log.fits snapshot = true) : (r.trim.add snapshot).Orderly := by
  refine ⟨(h.balanced.truncate _).push hf, ?_, ?_⟩
  · rw [Session.toList_add]
    intro he
    simp at he
  · intro _
    rw [Session.position_add, Session.toList_add, List.length_append, List.length_singleton]

theorem Orderly.trim (h : r.Orderly) {full : Bool}
    (hfull : full = true → r.position < r.log.toList.length) :
    ({ r.trim with full } : Recording).Orderly := by
  refine ⟨h.balanced.truncate _, ?_, ?_⟩
  · change r.trim.log.toList = [] → r.position = 0
    rw [Session.toList_trim, List.take_eq_nil_iff]
    rintro (hzero | hnil)
    · omega
    · exact h.start hnil
  · intro hf
    have hlt := hfull hf
    change r.position + 1 = r.trim.log.toList.length
    rw [Session.toList_trim, List.length_take]
    omega

/-! A snapshot that the log holds fits again where it is. -/

theorem used_again (h : r.log.Balanced) {snapshot : Snapshot}
    (hs : r.log.toList[r.position + 1]? = some snapshot) :
    r.trim.log.used + snapshot.size = (r.log.truncate (r.position + 2)).used := by
  change (r.log.truncate (r.position + 1)).used + snapshot.size = _
  rw [h.used_truncate, h.used_truncate, List.take_add_one (i := r.position + 1), hs, tally_append]
  simp

theorem fits_again (h : r.log.Balanced) {snapshot : Snapshot}
    (hs : r.log.toList[r.position + 1]? = some snapshot) :
    r.trim.log.fits snapshot = true := by
  have hle := (h.truncate (r.position + 2)).within
  rw [← used_again h hs, Log.limit_truncate, ← Log.limit_truncate r.log (r.position + 1)] at hle
  exact decide_eq_true hle

/-- Adding it again leaves the log as it is, without what came after. -/
theorem trim_add (h : r.log.Balanced) {snapshot : Snapshot}
    (hs : r.log.toList[r.position + 1]? = some snapshot) :
    r.trim.add snapshot = ({ r with position := r.position + 1 } : Recording).trim := by
  have hlt := (List.getElem?_eq_some_iff.mp hs).1
  have hlog : (r.trim.add snapshot).log = r.log.truncate (r.position + 2) := by
    apply Log.eq_of_toList_eq
    · exact (Log.limit_truncate r.log _).trans (Log.limit_truncate r.log _).symm
    · rw [Session.toList_add, Log.toList_truncate, List.take_add_one (i := r.position + 1), hs]
      rfl
    · exact used_again h hs
  have hposition : (r.trim.add snapshot).position = r.position + 1 := by
    rw [Session.position_add, List.length_take]
    omega
  change (⟨(r.trim.add snapshot).log, (r.trim.add snapshot).position, r.full⟩ : Recording) = _
  rw [hlog, hposition]
  rfl

end Recording

namespace Session

variable {s : Session}

def Orderly (s : Session) : Prop :=
  ∀ r, s.recording = some r → r.Orderly

theorem Orderly.add (h : s.Orderly) {r : Recording} (hr : s.recording = some r)
    {snapshot : Snapshot} (hf : r.trim.log.fits snapshot = true) :
    (s.withRecording (r.trim.add snapshot)).Orderly := by
  intro _ ht
  cases ht
  exact (h r hr).add hf

theorem Orderly.restore (h : s.Orderly) (position : Nat) :
    (s.restore position).session.Orderly := by
  rcases s.restore_cases position with he | ⟨r, snapshot, hr, hs, he⟩
  · rw [he]
    exact h
  · rw [he]
    intro _ ht
    cases ht
    refine ⟨(h r hr).balanced, ?_, fun hf => nomatch hf⟩
    intro hnil
    change r.log.toList = [] at hnil
    rw [hnil] at hs
    cases hs

theorem Orderly.begin (h : s.Orderly) : s.begin.session.Orderly := by
  have hopened : s.opened.Orderly := by
    intro r hr
    rw [recording_opened] at hr
    exact h r hr
  have hb := s.begin_begun
  generalize s.begin = reply at hb
  cases hb with
  | started hu => exact h
  | added r hr hnil hf => exact hopened.add (s.recording_opened.trans hr) hf
  | refused r hr hnil hf => exact hopened

theorem Orderly.follow (h : s.Orderly) (ha : s.Anchored) (hu : s.unstarted = false) :
    s.follow.session.Orderly := by
  have hf := follow_followed ha hu
  generalize s.follow = reply at hf
  cases hf with
  | unrecorded hr => exact h
  | added r hr hf => exact h.add hr hf
  | refused r snapshot hr hf hp =>
    intro _ ht
    cases ht
    exact (h r hr).trim fun _ => (List.getElem?_eq_some_iff.mp hp).1

theorem Orderly.advance (h : s.Orderly) (ha : s.Anchored) (hu : s.unstarted = false) :
    s.advance.session.Orderly := by
  have had := s.advance_advanced
  generalize s.advance = reply at had
  cases had with
  | halted reason hs => exact h
  | ended hs hg => exact h
  | faulted i f hs hg hf => exact h
  | followed i hs hg hf =>
    have hm : (s.withMachine (s.machine.attempt s.program i).machine).Orderly := h
    exact hm.follow (ha.withMachine _) hu

theorem Orderly.step (h : s.Orderly) (ha : s.Anchored) : s.step.session.Orderly := by
  have hs := s.step_stepped
  generalize s.step = reply at hs
  cases hs with
  | full e hf => exact h
  | refused e hf hb => exact h.begin
  | advanced hf hb => exact h.begin.advance ha.begin (unstarted_begin hb)

/-! The limit of a recording is set once and for all. -/

def limit? (s : Session) : Option Nat :=
  s.recording.map fun r => r.log.limit

theorem limit?_trim {r : Recording} (hr : s.recording = some r) (full : Bool) :
    (s.withRecording { r.trim with full }).limit? = s.limit? := by
  rw [limit?, limit?, hr]
  exact congrArg some (Log.limit_truncate r.log _)

theorem limit?_add {r : Recording} (hr : s.recording = some r) (snapshot : Snapshot) :
    (s.withRecording (r.trim.add snapshot)).limit? = s.limit? := by
  rw [limit?, limit?, hr]
  exact congrArg some (Log.limit_truncate r.log _)

theorem limit?_restore (s : Session) (position : Nat) :
    (s.restore position).session.limit? = s.limit? := by
  rcases s.restore_cases position with he | ⟨r, snapshot, hr, -, he⟩
  · rw [he]
  · rw [he, limit?, limit?, hr]
    rfl

theorem limit?_begin (s : Session) : s.begin.session.limit? = s.limit? := by
  have hopened : s.opened.limit? = s.limit? := by
    rw [limit?, recording_opened, limit?]
  have hb := s.begin_begun
  generalize s.begin = reply at hb
  cases hb with
  | started hu => rfl
  | added r hr hnil hf => exact (limit?_add (s.recording_opened.trans hr) _).trans hopened
  | refused r hr hnil hf => exact hopened

theorem limit?_follow (ha : s.Anchored) (hu : s.unstarted = false) :
    s.follow.session.limit? = s.limit? := by
  have hf := follow_followed ha hu
  generalize s.follow = reply at hf
  cases hf with
  | unrecorded hr => rfl
  | added r hr hf => exact limit?_add hr _
  | refused r snapshot hr hf hp => exact limit?_trim hr true

theorem limit?_step (ha : s.Anchored) : s.step.session.limit? = s.limit? := by
  rw [← s.limit?_begin]
  have hs := s.step_stepped
  generalize s.step = reply at hs
  cases hs with
  | full e hf => rw [limit?_begin]
  | refused e hf hb => rfl
  | advanced hf hb =>
    have hu := unstarted_begin hb
    have hanchored := ha.begin
    generalize s.begin.session = t at hu hanchored
    have had := t.advance_advanced
    generalize t.advance = reply at had
    cases had with
    | halted reason hs => rfl
    | ended hs hg => rfl
    | faulted i f hs hg hf => rfl
    | followed i hs hg hf => exact limit?_follow (hanchored.withMachine _) hu

theorem orderly_fresh (p : Program) (limit : Option Nat) (input : Input) (output : Output) :
    (fresh p limit input output).Orderly := by
  intro r hr
  cases limit with
  | none => cases hr
  | some limit =>
    cases hr
    exact ⟨⟨rfl, Nat.zero_le limit⟩, fun _ => rfl, fun hf => nomatch hf⟩

end Session
end Backstep
