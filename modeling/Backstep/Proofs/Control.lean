import Backstep.Proofs.Labels

/-! Where control goes. Every look-up of a reachable session finds the first
definition of its label (`Charted`), so calls and taken jumps go there, and an
instruction meets an undefined label only where the program has no definition. -/
namespace Backstep

namespace Machine

variable {p : Program} {i : Instruction} {m : Machine} {k : Nat} {l : Label}

theorem intent_of_seeks (h : i.Seeks m.state.stack l) : ∃ land, m.intent i = .go l land := by
  have hs : i.Seeks m.passed.state.stack l := h
  exact State.intent_of_seeks hs m.state.pc m.input

theorem fulfil_go (p : Program) (index : Nat) (m : Machine) (l : Label) (land : Nat → State) :
    (∃ target, (m.labels.resolve p l).1 = some target ∧
      (m.fulfil p index (.go l land)).fault = none ∧
      (m.fulfil p index (.go l land)).machine.state = land target) ∨
    (m.labels.resolve p l).1 = none ∧
      (m.fulfil p index (.go l land)).fault = some (.undefinedLabel l) := by
  have hf := m.fulfil_fulfilled p index (.go l land)
  generalize m.fulfil p index (.go l land) = a at hf
  cases hf with
  | landed l land hr => exact Or.inl ⟨_, by rw [hr], rfl, rfl⟩
  | lost l land hr => exact Or.inr ⟨by rw [hr], rfl⟩

/-- A call or a taken jump goes to the first definition, where the program goes on. -/
theorem attempt_of_seeks {target : Nat} (ht : m.labels.Knows p k)
    (hr : m.state.status = .running) (hs : i.Seeks m.state.stack l)
    (hd : p.firstDefinition? l = some target) :
    (m.attempt p i).fault = none ∧ (m.attempt p i).machine.state.pc = target ∧
      (m.attempt p i).machine.state.status = .running := by
  obtain ⟨land, hi⟩ := intent_of_seeks hs
  have hsteers := m.intent_steers i
  rw [hi] at hsteers
  obtain ⟨-, hland⟩ := hsteers
  obtain ⟨hpc, hstatus, -⟩ := hland target
  have hlt := Program.firstDefinition?_lt_size hd
  have hresolve := (ht.resolve l).1
  rw [hd] at hresolve
  rw [attempt_eq, fault_finish, hi]
  rcases m.passed.fulfil_go p m.state.pc l land with ⟨t, hrt, hfault, hstate⟩ | ⟨hnone, -⟩
  · change (m.labels.resolve p l).1 = some t at hrt
    rw [hresolve] at hrt
    cases hrt
    have hstop : ¬ (m.passed.state.status = .running ∧ p.size ≤ target) := by omega
    simp only [finish, hfault, hstate, State.settle, hpc, hstatus, if_neg hstop]
    exact ⟨trivial, trivial, hr⟩
  · change (m.labels.resolve p l).1 = none at hnone
    rw [hresolve] at hnone
    cases hnone

theorem isUndefinedLabel_fault (failure : StreamFailure) :
    failure.fault.isUndefinedLabel = false := by
  cases failure <;> rfl

theorem attempt_undefinedLabel_iff (ht : m.labels.Knows p k) :
    (m.attempt p i).fault = some (.undefinedLabel l) ↔
      i.Seeks m.state.stack l ∧ p.firstDefinition? l = none := by
  have hresolve := (ht.resolve l).1
  rw [attempt_eq, fault_finish]
  constructor
  · intro h
    have hf := m.passed.fulfil_fulfilled p m.state.pc (m.intent i)
    have hs := m.intent_steers i
    generalize m.passed.fulfil p m.state.pc (m.intent i) = a at hf h
    generalize m.intent i = intent at hf hs
    cases hf with
    | failed f =>
      cases h
      exact absurd hs (by simp [Intent.Steers, Fault.isUndefinedLabel])
    | changed next => cases h
    | noted l' => cases h
    | landed l' land hr => cases h
    | lost l' land hr =>
      cases h
      change m.labels.resolve p l = _ at hr
      rw [hr] at hresolve
      exact ⟨hs.1, hresolve.symm⟩
    | printed text next hw => cases h
    | unprinted text next hw =>
      have hfault := isUndefinedLabel_fault ‹StreamFailure›
      rw [Option.some.inj h] at hfault
      cases hfault
    | got v input => cases h
    | missed f input =>
      cases h
      exact absurd (hs _ rfl) (by simp [Fault.isUndefinedLabel])
  · rintro ⟨hs, hd⟩
    obtain ⟨land, hi⟩ := intent_of_seeks hs
    rw [hi]
    rcases m.passed.fulfil_go p m.state.pc l land with ⟨t, hrt, -⟩ | ⟨-, hfault⟩
    · change (m.labels.resolve p l).1 = some t at hrt
      rw [hresolve, hd] at hrt
      cases hrt
    · exact hfault

end Machine

/-! The invariant of a session. -/

namespace Session

variable {p : Program} {s : Session} {i : Instruction} {l : Label}

theorem labels_follow (ha : s.Anchored) (hu : s.unstarted = false) :
    s.follow.session.program = s.program ∧
      s.follow.session.machine.labels = s.machine.labels := by
  have hf := follow_followed ha hu
  generalize s.follow = reply at hf
  cases hf <;> exact ⟨rfl, rfl⟩

/-- The table knows a first part of the program, and neither control nor a snapshot is beyond. -/
structure Charted (p : Program) (s : Session) : Prop where
  program : s.program = p
  anchored : s.Anchored
  known : ∃ k, s.machine.labels.Knows p k ∧ s.Holds (State.Within k)

theorem charted_fresh (p : Program) (limit : Option Nat) (input : Input) (output : Output) :
    (fresh p limit input output).Charted p := by
  refine ⟨?_, anchored_fresh p limit input output, 0, ?_⟩
  · cases limit <;> rfl
  · cases limit <;>
      exact ⟨LabelTable.knows_empty p, ⟨Nat.le_refl 0, fun _ hf => nomatch hf⟩,
        fun _ hs => nomatch hs⟩

theorem Charted.restore (h : s.Charted p) (position : Nat) :
    (s.restore position).session.Charted p := by
  obtain ⟨k, ht, hw⟩ := h.known
  have hanchored := h.anchored.restore position
  have hholds := hw.restore position
  rcases s.restore_cases position with he | ⟨r, snapshot, -, -, he⟩
  · rw [he]
    exact h
  · rw [he] at hanchored hholds ⊢
    exact ⟨h.program, hanchored, k, ht, hholds⟩

theorem Charted.begin (h : s.Charted p) : s.begin.session.Charted p := by
  obtain ⟨k, ht, hw⟩ := h.known
  obtain ⟨hp, status, hm⟩ := s.machine_begin
  have hopened : s.opened.state.Within k := by
    obtain ⟨status, hs⟩ := s.opened_eq
    rw [hs]
    exact hw.1
  refine ⟨hp.trans h.program, h.anchored.begin, k, ?_, hw.begin hopened⟩
  rw [hm]
  exact ht

theorem Charted.attempted (h : s.Charted p) (hi : p.get? s.state.pc = some i) :
    (s.withMachine (s.machine.attempt p i).machine).Charted p := by
  obtain ⟨k, ht, hw⟩ := h.known
  obtain ⟨k', hk', ht', hw'⟩ := Machine.attempt_knows ht hw.1 hi
  have hmono : s.Holds (State.Within k') := hw.imp fun state hs => hs.mono hk'
  exact ⟨h.program, h.anchored.withMachine _, k', ht', hmono.withMachine hw'⟩

theorem Charted.follow (h : s.Charted p) (hu : s.unstarted = false) :
    s.follow.session.Charted p := by
  obtain ⟨k, ht, hw⟩ := h.known
  obtain ⟨hp, hl⟩ := labels_follow h.anchored hu
  refine ⟨hp.trans h.program, h.anchored.follow hu, k, ?_, hw.follow h.anchored hu⟩
  rw [hl]
  exact ht

theorem Charted.advance (h : s.Charted p) (hu : s.unstarted = false) :
    s.advance.session.Charted p := by
  obtain rfl := h.program
  have ha := s.advance_advanced
  generalize s.advance = reply at ha
  cases ha with
  | halted reason hs => exact h
  | ended hs hg => exact ⟨rfl, h.anchored.setStatus _, h.known⟩
  | faulted i f hs hg hf => exact h.attempted hg
  | followed i hs hg hf => exact (h.attempted hg).follow hu

theorem Charted.step (h : s.Charted p) : s.step.session.Charted p := by
  have hs := s.step_stepped
  generalize s.step = reply at hs
  cases hs with
  | full e hf => exact h
  | refused e hf hb => exact h.begin
  | advanced hf hb => exact h.begin.advance (unstarted_begin hb)

end Session
end Backstep
