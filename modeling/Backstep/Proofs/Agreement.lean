import Backstep.Proofs.Effects
import Backstep.Proofs.Steps

/-! The state of a session beside the snapshot that its recording is at. Taking
a snapshot and going back to one make the two equal, so they can only part when
an instruction fails, and then by the value that a failed print took. -/
namespace Backstep

/-- The states are the same, except perhaps for the operand stack. -/
structure State.SameButStack (s t : State) : Prop where
  heap : s.heap = t.heap
  calls : s.calls = t.calls
  pc : s.pc = t.pc
  last : s.last = t.last
  status : s.status = t.status

namespace State

variable {s t : State}

theorem SameButStack.refl (s : State) : s.SameButStack s :=
  ⟨rfl, rfl, rfl, rfl, rfl⟩

theorem SameButStack.trans {u : State} (h : s.SameButStack t) (ht : t.SameButStack u) :
    s.SameButStack u :=
  ⟨h.heap.trans ht.heap, h.calls.trans ht.calls, h.pc.trans ht.pc, h.last.trans ht.last,
    h.status.trans ht.status⟩

theorem SameButStack.ready {size : Nat} (h : s.SameButStack t) (ht : t.Ready size) :
    s.Ready size := by
  intro hs
  rw [h.pc]
  exact ht (h.status ▸ hs)

end State

theorem Machine.attempt_fault_sameButStack {p : Program} {i : Instruction} {m : Machine}
    {f : Fault} (h : (m.attempt p i).fault = some f) :
    (m.attempt p i).machine.state.SameButStack m.state ∧
      (m.attempt p i).machine.transcript = m.transcript := by
  rcases attempt_fault h with hm | ⟨text, next, failure, hprint, hw, -⟩
  · rw [hm.state, hm.transcript]
    exact ⟨.refl m.state, rfl⟩
  · rw [attempt_of_write_fails (printed?_of_intent hprint) hw]
    exact ⟨⟨rfl, rfl, rfl, rfl, rfl⟩, rfl⟩

theorem Output.Reliable.attempt_fault {p : Program} {i : Instruction} {m : Machine} {f : Fault}
    (ho : m.output.Reliable) (h : (m.attempt p i).fault = some f) :
    m.Unmoved (m.attempt p i).machine := by
  rcases Machine.attempt_fault h with hm | ⟨text, next, failure, -, hw, -⟩
  · exact hm
  · rw [ho] at hw
    cases hw

namespace Session

variable {R : State → State → Prop} {s : Session}

/-- The state stands in relation `R` to that of the snapshot at the present position. -/
def Agrees (R : State → State → Prop) (s : Session) : Prop :=
  ∀ snapshot, s.snapshots[s.position]? = some snapshot → R s.state snapshot.state

theorem Agrees.imp (h : s.Agrees R) {Q : State → State → Prop} (hq : ∀ a b, R a b → Q a b) :
    s.Agrees Q :=
  fun snapshot hs => hq _ _ (h snapshot hs)

theorem agrees_of_empty (h : s.snapshots = []) : s.Agrees R := by
  intro snapshot hs
  rw [h] at hs
  cases hs

theorem agrees_of_unrecorded (h : s.recording = none) : s.Agrees R :=
  agrees_of_empty (by rw [snapshots, h])

theorem agrees_fresh (p : Program) (limit : Option Nat) (input : Input) (output : Output) :
    (fresh p limit input output).Agrees R := by
  apply agrees_of_empty
  cases limit <;> rfl

theorem Agrees.withMachine (h : s.Agrees R) {m : Machine}
    (hm : ∀ state, R s.state state → R m.state state) : (s.withMachine m).Agrees R :=
  fun snapshot hs => hm _ (h snapshot hs)

theorem agrees_add (hrefl : ∀ a, R a a) (s : Session) (r : Recording) :
    (s.withRecording (r.trim.add s.machine.snapshot)).Agrees R := by
  intro snapshot hs
  change (r.trim.add s.machine.snapshot).log.toList[(r.trim.add s.machine.snapshot).position]? =
    some snapshot at hs
  rw [toList_add, position_add, List.getElem?_concat_length] at hs
  cases hs
  exact hrefl _

theorem Agrees.restore (h : s.Agrees R) (hrefl : ∀ a, R a a) (position : Nat) :
    (s.restore position).session.Agrees R := by
  rcases s.restore_cases position with he | ⟨r, present, hr, hp, he⟩
  · rw [he]
    exact h
  · rw [he]
    intro snapshot hs
    change r.log.toList[position]? = some snapshot at hs
    rw [hp] at hs
    cases hs
    exact hrefl _

theorem agrees_follow (hrefl : ∀ a, R a a) (ha : s.Anchored) (hu : s.unstarted = false) :
    s.follow.session.Agrees R := by
  have hf := follow_followed ha hu
  generalize s.follow = reply at hf
  cases hf with
  | unrecorded hr => exact agrees_of_unrecorded hr
  | added r hr hfits => exact agrees_add hrefl s r
  | refused r present hr hfits hp =>
    intro snapshot hs
    change r.trim.log.toList[r.position]? = some snapshot at hs
    rw [getElem?_trim hp] at hs
    cases hs
    exact hrefl _

theorem Agrees.begin (h : s.Agrees R) (hrefl : ∀ a, R a a) : s.begin.session.Agrees R := by
  have hb := s.begin_begun
  generalize s.begin = reply at hb
  cases hb with
  | started hu => exact h
  | added r hr hnil hf => exact agrees_add hrefl s.opened r
  | refused r hr hnil hf =>
    apply agrees_of_empty
    rw [snapshots_of_recording (s.recording_opened.trans hr), hnil]

/-- A recorded state that runs is on an instruction, and a fault keeps the relation: then an
instruction keeps it in every case. -/
theorem Agrees.advance (h : s.Agrees R) (hrefl : ∀ a, R a a) (ha : s.Anchored)
    (hu : s.unstarted = false)
    (hready : s.recording ≠ none → s.state.Ready s.program.size)
    (hfault : ∀ i f, (s.machine.attempt s.program i).fault = some f → ∀ state, R s.state state →
      R (s.machine.attempt s.program i).machine.state state) : s.advance.session.Agrees R := by
  have had := s.advance_advanced
  generalize s.advance = reply at had
  cases had with
  | halted reason hs => exact h
  | ended hs hg =>
    cases hr : s.recording with
    | none => exact agrees_of_unrecorded hr
    | some r =>
      have hlt := hready (by rw [hr]; exact Option.some_ne_none r) hs
      exact absurd hlt (Nat.not_lt_of_le (Program.get?_eq_none_iff.mp hg))
  | faulted i f hs hg hf => exact h.withMachine (hfault i f hf)
  | followed i hs hg hf => exact agrees_follow hrefl (ha.withMachine _) hu

theorem Agrees.step (h : s.Agrees R) (hrefl : ∀ a, R a a) (ha : s.Anchored)
    (hready : s.begin.result = .ok () → s.begin.session.recording ≠ none →
      s.begin.session.state.Ready s.begin.session.program.size)
    (hfault : ∀ i f, (s.begin.session.machine.attempt s.begin.session.program i).fault = some f →
      ∀ state, R s.begin.session.state state →
        R (s.begin.session.machine.attempt s.begin.session.program i).machine.state state) :
    s.step.session.Agrees R := by
  have hs := s.step_stepped
  generalize s.step = reply at hs
  cases hs with
  | full e hf => exact h
  | refused e hf hb => exact h.begin hrefl
  | advanced hf hb =>
    exact (h.begin hrefl).advance hrefl ha.begin (unstarted_begin hb) (hready hb) hfault

end Session
end Backstep
