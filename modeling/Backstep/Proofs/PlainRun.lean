import Backstep.Proofs.Attempt
import Backstep.Proofs.Outcome

/-! A session without a recording, advanced by steps. A step executes an
instruction or leaves the state and the transcript alone, so both are known from
the number of executed instructions, and the trail lists them by this number. -/
namespace Backstep
namespace Session

variable {s : Session} {i : Instruction}

/-- The session after `n` steps, successful or not. -/
def after (s : Session) : Nat → Session
  | 0 => s
  | n + 1 => (s.after n).step.session

def Executes (s : Session) : Prop :=
  s.state.status = .running ∧ s.state.pc < s.program.size ∧ s.step.result.isOk = true

instance (s : Session) : Decidable s.Executes :=
  inferInstanceAs (Decidable (_ ∧ _ ∧ _))

/-- How many of the first `n` steps executed an instruction. -/
def executed (s : Session) : Nat → Nat
  | 0 => 0
  | n + 1 => s.executed n + if (s.after n).Executes then 1 else 0

/-- Snapshots of the first state and of the state after each instruction that the first `n` steps
executed. -/
def trail (s : Session) : Nat → List Snapshot
  | 0 => [s.machine.snapshot]
  | n + 1 =>
    s.trail n ++ if (s.after n).Executes then [(s.after (n + 1)).machine.snapshot] else []

/-- Nothing is recorded, no write fails, and a running state is on an instruction. -/
structure Live (s : Session) : Prop where
  recording : s.recording = none
  reliable : s.machine.output.Reliable
  ready : s.state.Ready s.program.size

theorem step_of_unrecorded (h : s.recording = none) : s.step = s.advance := by
  obtain ⟨program, machine, recording⟩ := s
  cases h
  rfl

theorem step_of_attempt {m : Machine} (h : s.recording = none)
    (hs : s.state.status = .running) (hg : s.program.get? s.state.pc = some i)
    (ha : s.machine.attempt s.program i = ⟨m, none⟩) :
    s.step = ⟨s.withMachine m, .ok m.state.status⟩ := by
  rw [step_of_unrecorded h, advance_of_present hs hg, ha]
  obtain ⟨program, machine, recording⟩ := s
  cases h
  rfl

/-- The instruction that a step without a recording attempts. -/
def current? (s : Session) : Option Instruction :=
  if s.state.status = .running then s.program.get? s.state.pc else none

theorem current?_eq_some :
    s.current? = some i ↔ s.state.status = .running ∧ s.program.get? s.state.pc = some i := by
  rw [current?]
  split
  · next h => simp [h]
  · next h => simp [h]

theorem session_step_of_current (h : s.recording = none) (hc : s.current? = some i) :
    s.step.session = s.withMachine (s.machine.attempt s.program i).machine := by
  obtain ⟨hs, hg⟩ := current?_eq_some.mp hc
  rw [step_of_unrecorded h, advance_of_present hs hg]
  generalize s.machine.attempt s.program i = a
  obtain ⟨m, fault⟩ := a
  obtain ⟨program, machine, recording⟩ := s
  cases h
  cases fault <;> rfl

theorem session_step_of_idle (h : s.recording = none) (hc : s.current? = none) :
    ∃ status, s.step.session = s.setStatus status := by
  have ha := s.advance_advanced
  rw [step_of_unrecorded h]
  generalize s.advance = reply at ha
  cases ha with
  | halted reason hs => exact ⟨s.state.status, rfl⟩
  | ended hs hg => exact ⟨_, rfl⟩
  | faulted i f hs hg hf =>
    rw [current?_eq_some.mpr ⟨hs, hg⟩] at hc
    cases hc
  | followed i hs hg hf =>
    rw [current?_eq_some.mpr ⟨hs, hg⟩] at hc
    cases hc

theorem recording_step (h : s.recording = none) : s.step.session.recording = none := by
  cases hc : s.current? with
  | some i =>
    rw [session_step_of_current h hc]
    exact h
  | none =>
    obtain ⟨status, hs⟩ := session_step_of_idle h hc
    rw [hs]
    exact h

theorem recording_after (h : s.recording = none) (n : Nat) : (s.after n).recording = none := by
  induction n with
  | zero => exact h
  | succ n ih => exact recording_step ih

theorem after_succ (s : Session) (n : Nat) : s.after (n + 1) = s.step.session.after n := by
  induction n with
  | zero => rfl
  | succ n ih => rw [after, ih, after]

theorem Live.step_cases (h : s.Live) :
    ¬ s.Executes ∧ s.step.session.recording = none ∧ s.step.session.program = s.program ∧
        s.machine.Unmoved s.step.session.machine ∨
      s.Executes ∧ ∃ i, (s.machine.attempt s.program i).fault = none ∧
        s.step.session = s.withMachine (s.machine.attempt s.program i).machine := by
  have hexecutes : s.Executes ↔
      s.state.status = .running ∧ s.state.pc < s.program.size ∧ s.advance.result.isOk = true := by
    rw [Executes, step_of_unrecorded h.recording]
  rw [step_of_unrecorded h.recording, hexecutes]
  have ha := s.advance_advanced
  generalize s.advance = reply at ha
  cases ha with
  | halted reason hs =>
    refine Or.inl ⟨?_, h.recording, rfl, rfl, rfl, rfl⟩
    rintro ⟨hr, -⟩
    rw [hs] at hr
    cases hr
  | ended hs hg =>
    exact absurd (h.ready hs) (Nat.not_lt_of_le (Program.get?_eq_none_iff.mp hg))
  | faulted i f hs hg hf =>
    rcases Machine.attempt_fault hf with hm | ⟨text, next, failure, -, hw, -⟩
    · refine Or.inl ⟨?_, h.recording, rfl, hm⟩
      rintro ⟨-, -, hok⟩
      cases hok
    · rw [h.reliable] at hw
      cases hw
  | followed i hs hg hf =>
    have hfollow : (s.withMachine (s.machine.attempt s.program i).machine).follow =
        ⟨s.withMachine (s.machine.attempt s.program i).machine,
          .ok (s.machine.attempt s.program i).machine.state.status⟩ := by
      obtain ⟨program, machine, recording⟩ := s
      obtain rfl : recording = none := h.recording
      rfl
    rw [hfollow]
    exact Or.inr ⟨⟨hs, (Array.getElem?_eq_some_iff.mp hg).1, rfl⟩, i, hf, rfl⟩

theorem Live.step (h : s.Live) : s.step.session.Live := by
  rcases h.step_cases with ⟨-, hr, hp, hm⟩ | ⟨-, i, hf, he⟩
  · refine ⟨hr, ?_, ?_⟩
    · rw [hm.output]
      exact h.reliable
    · rw [state, hm.state, hp]
      exact h.ready
  · obtain ⟨hprints, hready⟩ := Machine.attempt_ok hf
    rw [he]
    refine ⟨h.recording, ?_, hready⟩
    change (s.machine.attempt s.program i).machine.output.Reliable
    rcases hprints with ⟨-, ho⟩ | ⟨text, -, ho⟩
    · rw [ho]
      exact h.reliable
    · rw [ho]
      exact h.reliable.write _

theorem Live.rests (h : s.Live) (hn : ¬ s.Executes) :
    s.step.session.state = s.state ∧
      s.step.session.machine.transcript = s.machine.transcript := by
  rcases h.step_cases with ⟨-, -, -, hm⟩ | ⟨he, -⟩
  · exact ⟨hm.state, hm.transcript⟩
  · exact absurd he hn

theorem Live.after (h : s.Live) (n : Nat) : (s.after n).Live := by
  induction n with
  | zero => exact h
  | succ n ih => exact ih.step

theorem executed_mono (s : Session) {m n : Nat} (h : m ≤ n) : s.executed m ≤ s.executed n := by
  induction n with
  | zero =>
    obtain rfl : m = 0 := by omega
    exact Nat.le_refl _
  | succ n ih =>
    by_cases hm : m = n + 1
    · exact Nat.le_of_eq (by rw [hm])
    · have hle := ih (by omega)
      rw [executed]
      omega

theorem exists_executed_eq (s : Session) (n : Nat) {k : Nat} (h : k ≤ s.executed n) :
    ∃ m ≤ n, s.executed m = k := by
  induction n with
  | zero => exact ⟨0, Nat.le_refl 0, by rw [executed] at h ⊢; omega⟩
  | succ n ih =>
    by_cases hk : k ≤ s.executed n
    · obtain ⟨m, hm, he⟩ := ih hk
      exact ⟨m, by omega, he⟩
    · refine ⟨n + 1, Nat.le_refl _, ?_⟩
      have hone : (if (s.after n).Executes then 1 else 0) ≤ 1 := by
        split <;> omega
      rw [executed] at h ⊢
      omega

theorem Live.rests_after (h : s.Live) {m n : Nat} (hle : m ≤ n)
    (he : s.executed m = s.executed n) :
    (s.after n).state = (s.after m).state ∧
      (s.after n).machine.transcript = (s.after m).machine.transcript := by
  induction n with
  | zero =>
    obtain rfl : m = 0 := by omega
    exact ⟨rfl, rfl⟩
  | succ n ih =>
    by_cases hm : m = n + 1
    · rw [hm]
      exact ⟨rfl, rfl⟩
    · have hmono := s.executed_mono (show m ≤ n by omega)
      have hn : ¬ (s.after n).Executes := by
        intro hx
        rw [executed, if_pos hx] at he
        omega
      rw [executed, if_neg hn] at he
      obtain ⟨hstate, htranscript⟩ := ih (by omega) he
      obtain ⟨hs, ht⟩ := (h.after n).rests hn
      exact ⟨hs.trans hstate, ht.trans htranscript⟩

/-- The state and the transcript after so many executed instructions, whatever steps failed. -/
theorem Live.eq_of_executed_eq (h : s.Live) {m n : Nat} (he : s.executed m = s.executed n) :
    (s.after m).state = (s.after n).state ∧
      (s.after m).machine.transcript = (s.after n).machine.transcript := by
  by_cases hle : m ≤ n
  · obtain ⟨hs, ht⟩ := h.rests_after hle he
    exact ⟨hs.symm, ht.symm⟩
  · exact h.rests_after (by omega) he.symm

theorem Live.snapshot_eq (h : s.Live) {m n : Nat} (he : s.executed m = s.executed n) :
    (s.after m).machine.snapshot = (s.after n).machine.snapshot := by
  obtain ⟨hs, ht⟩ := h.eq_of_executed_eq he
  change (s.after m).machine.state = (s.after n).machine.state at hs
  rw [Machine.snapshot, Machine.snapshot, hs, ht]

theorem length_trail (s : Session) (n : Nat) : (s.trail n).length = s.executed n + 1 := by
  induction n with
  | zero => rfl
  | succ n ih =>
    rw [trail, executed, List.length_append, ih]
    by_cases hx : (s.after n).Executes
    · rw [if_pos hx, if_pos hx, List.length_singleton]
    · rw [if_neg hx, if_neg hx, List.length_nil]

theorem Live.getElem?_trail_last (h : s.Live) (n : Nat) :
    (s.trail n)[s.executed n]? = some (s.after n).machine.snapshot := by
  induction n with
  | zero => rfl
  | succ n ih =>
    by_cases hx : (s.after n).Executes
    · rw [trail, executed, if_pos hx, if_pos hx, ← s.length_trail n, List.getElem?_concat_length]
    · obtain ⟨hs, ht⟩ := (h.after n).rests hx
      change (s.after (n + 1)).machine.state = (s.after n).machine.state at hs
      change (s.after (n + 1)).machine.transcript = (s.after n).machine.transcript at ht
      rw [trail, executed, if_neg hx, if_neg hx, List.append_nil, Machine.snapshot, hs, ht]
      exact ih

theorem Live.getElem?_trail (h : s.Live) {m n : Nat} (hle : m ≤ n) :
    (s.trail n)[s.executed m]? = some (s.after m).machine.snapshot := by
  induction n with
  | zero =>
    obtain rfl : m = 0 := by omega
    rfl
  | succ n ih =>
    by_cases hm : m = n + 1
    · rw [hm]
      exact h.getElem?_trail_last (n + 1)
    · have hlength := s.length_trail n
      have hmono := s.executed_mono (show m ≤ n by omega)
      rw [trail, List.getElem?_append_left (by omega)]
      exact ih (by omega)

end Session
end Backstep
