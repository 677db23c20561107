import Backstep.Proofs.Reachable

/-! The states that a program can come to. Control stays in the program, every
frame was left by a call, and the status says where control is. A state that has
halted stays as it is, because a recording is complete or has gone back to a
running state whenever it refuses a step. -/
namespace Backstep

/-- The frame was left by a call of the program, and returns to the instruction after it. -/
structure Frame.OfCall (p : Program) (f : Frame) : Prop where
  callSite : f.callSite < p.size
  call : ∃ i, p.get? f.callSite = some i ∧ i.operation = .call ∧
    Parameter.label? i.parameter = some f.label
  returnTo : f.returnTo = f.callSite + 1

structure State.Wellformed (p : Program) (s : State) : Prop where
  pc : s.pc ≤ p.size
  frames : ∀ frame ∈ s.calls.frames, frame.OfCall p
  last : ∀ index, s.last = some index → index < p.size
  running : s.status = .running → 0 < p.size → s.pc < p.size
  ended : s.status = .halted .endOfProgram → s.pc = p.size
  exited : s.status = .halted .exit → ∃ index i, s.last = some index ∧
    p.get? index = some i ∧ i.operation = .exit ∧ s.pc = index + 1

/-- Instruction `i` at `index` has run, and the state is not settled yet. -/
structure State.Placed (p : Program) (index : Nat) (i : Instruction) (s : State) : Prop where
  pc : s.pc ≤ p.size
  frames : ∀ frame ∈ s.calls.frames, frame.OfCall p
  status : s.status = .running ∨
    s.status = .halted .exit ∧ i.operation = .exit ∧ s.pc = index + 1

namespace State

variable {p : Program} {s next : State} {index : Nat} {i : Instruction}

theorem wellformed_initial (p : Program) : ({} : State).Wellformed p where
  pc := Nat.zero_le _
  frames := fun _ hf => nomatch hf
  last := fun _ hl => nomatch hl
  running := fun _ hp => hp
  ended := fun hs => nomatch hs
  exited := fun hs => nomatch hs

theorem Wellformed.sameButStack (h : s.Wellformed p) (hn : next.SameButStack s) :
    next.Wellformed p := by
  obtain ⟨-, hcalls, hpc, hlast, hstatus⟩ := hn
  refine ⟨?_, ?_, ?_, ?_, ?_, ?_⟩
  · rw [hpc]
    exact h.pc
  · rw [hcalls]
    exact h.frames
  · rw [hlast]
    exact h.last
  · rw [hstatus, hpc]
    exact h.running
  · rw [hstatus, hpc]
    exact h.ended
  · rw [hstatus, hpc, hlast]
    exact h.exited

theorem Wellformed.close (h : s.Wellformed p) (hs : p.size ≤ s.pc) :
    ({ s with status := .halted .endOfProgram } : State).Wellformed p where
  pc := h.pc
  frames := h.frames
  last := h.last
  running := fun hr => nomatch hr
  ended := fun _ => Nat.le_antisymm h.pc hs
  exited := fun he => nomatch he

theorem Placed.settle (h : s.Placed p index i) (hi : p.get? index = some i) :
    (s.settle p.size index).Wellformed p where
  pc := h.pc
  frames := h.frames
  last := by
    intro n hn
    cases hn
    exact (Array.getElem?_eq_some_iff.mp hi).1
  running := fun hr _ => settle_ready s p.size index hr
  ended := by
    intro he
    rcases h.status with hr | ⟨hx, -⟩
    · by_cases hle : p.size ≤ s.pc
      · exact Nat.le_antisymm h.pc hle
      · simp [State.settle, hr, hle] at he
    · simp [State.settle, hx] at he
  exited := by
    intro he
    rcases h.status with hr | ⟨hx, ho, hpc⟩
    · by_cases hle : p.size ≤ s.pc
      · simp [State.settle, hr, hle] at he
      · simp [State.settle, hr, hle] at he
    · exact ⟨index, i, rfl, hi, ho, hpc⟩

theorem Placed.stays (h : s.Placed p index i) (hs : s.Stays next) : next.Placed p index i := by
  refine ⟨?_, ?_, ?_⟩
  · rw [hs.pc]
    exact h.pc
  · rw [hs.calls]
    exact h.frames
  · rw [hs.status, hs.pc]
    exact h.status

theorem Placed.leave (h : s.Placed p index i) (hr : s.status = .running) {frame : Frame}
    (hc : s.calls.pop? = some (frame, next.calls)) (hp : next.pc = frame.returnTo)
    (hs : next.status = s.status) : next.Placed p index i := by
  have hframes := CallStack.frames_of_pop? hc
  have hframe : frame.OfCall p := h.frames frame (by rw [hframes]; exact List.mem_cons_self)
  refine ⟨?_, ?_, Or.inl (hs.trans hr)⟩
  · rw [hp, hframe.returnTo]
    exact hframe.callSite
  · intro f hf
    exact h.frames f (by rw [hframes]; exact List.mem_cons_of_mem frame hf)

theorem Placed.land (h : s.Placed p index i) (hr : s.status = .running)
    (hi : p.get? index = some i) (hpc : s.pc = index + 1) {l : Label} {target : Nat}
    (hseeks : i.Seeks s.stack l) (ht : target < p.size) (hp : next.pc = target)
    (hs : next.status = s.status)
    (hc : next.calls = s.calls ∨
      i.operation = .call ∧ next.calls = s.calls.push ⟨index, s.pc, l⟩) :
    next.Placed p index i := by
  refine ⟨?_, ?_, Or.inl (hs.trans hr)⟩
  · rw [hp]
    exact Nat.le_of_lt ht
  · rcases hc with hc | ⟨ho, hc⟩
    · rw [hc]
      exact h.frames
    · rw [hc]
      intro frame hf
      rcases List.mem_cons.mp hf with rfl | hf
      · exact ⟨(Array.getElem?_eq_some_iff.mp hi).1, ⟨i, hi, ho, hseeks.1⟩, hpc⟩
      · exact h.frames frame hf

end State

namespace Machine

variable {p : Program} {i : Instruction} {m : Machine} {k : Nat}

theorem Fulfilled.placed {index : Nat} {intent : Intent} {a : Attempt}
    (hf : Fulfilled p index m intent a) (hs : intent.Steers m.state index i)
    (ht : m.labels.Knows p k) (h : m.state.Placed p index i) (hr : m.state.status = .running)
    (hi : p.get? index = some i) (hpc : m.state.pc = index + 1) (hok : a.fault = none) :
    a.machine.state.Placed p index i := by
  cases hf with
  | failed f => cases hok
  | changed next =>
    rcases hs with hs | ⟨-, frame, hc, hp, hstatus⟩ | ⟨ho, rfl⟩
    · exact h.stays hs
    · exact h.leave hr hc hp hstatus
    · exact ⟨h.pc, h.frames, Or.inr ⟨rfl, ho, hpc⟩⟩
  | noted l => exact h
  | @landed labels target l land hl =>
    obtain ⟨hseeks, hland⟩ := hs
    obtain ⟨hp, hstatus, hc⟩ := hland target
    have hfirst := (ht.resolve l).1
    rw [hl] at hfirst
    exact h.land hr hi hpc hseeks (Program.firstDefinition?_lt_size hfirst.symm) hp hstatus
      (hc.imp_left And.right)
  | lost l land hl => cases hok
  | printed text next ho => exact h.stays hs
  | unprinted text next ho => cases hok
  | got v input => exact h.stays ⟨rfl, rfl, rfl⟩
  | missed f input => cases hok

theorem attempt_wellformed (h : m.state.Wellformed p) (ht : m.labels.Knows p k)
    (hr : m.state.status = .running) (hi : p.get? m.state.pc = some i) :
    (m.attempt p i).machine.state.Wellformed p := by
  cases hf : (m.attempt p i).fault with
  | some f => exact h.sameButStack (attempt_fault_sameButStack hf).1
  | none =>
    have hpassed : m.passed.state.Placed p m.state.pc i :=
      ⟨(Array.getElem?_eq_some_iff.mp hi).1, h.frames, Or.inl hr⟩
    have hfulfilled := m.passed.fulfil_fulfilled p m.state.pc (m.intent i)
    rw [attempt_eq, fault_finish] at hf
    have hplaced := hfulfilled.placed (m.intent_steers i) ht hpassed hr hi rfl hf
    rw [attempt_eq]
    simp only [finish, hf]
    exact hplaced.settle hi

end Machine

namespace Session

variable {p : Program} {limit : Option Nat} {s : Session}

theorem Holds.advance_wellformed (h : s.Holds (State.Wellformed p)) (hc : s.Charted p)
    (hu : s.unstarted = false) : s.advance.session.Holds (State.Wellformed p) := by
  obtain rfl := hc.program
  obtain ⟨k, hk, -⟩ := hc.known
  have ha := s.advance_advanced
  generalize s.advance = reply at ha
  cases ha with
  | halted reason hs => exact h
  | ended hs hg => exact ⟨h.1.close (Program.get?_eq_none_iff.mp hg), h.2⟩
  | faulted i f hs hg hf => exact h.withMachine (Machine.attempt_wellformed h.1 hk hs hg)
  | followed i hs hg hf =>
    exact (h.withMachine (Machine.attempt_wellformed h.1 hk hs hg)).follow
      (hc.anchored.withMachine _) hu

theorem Holds.step_wellformed (h : s.Holds (State.Wellformed p)) (hc : s.Charted p) :
    s.step.session.Holds (State.Wellformed p) := by
  have hopened : s.opened.state.Wellformed p := by
    rw [opened]
    split
    · next hle => exact h.1.close (hc.program ▸ hle)
    · exact h.1
  have hs := s.step_stepped
  generalize s.step = reply at hs
  cases hs with
  | full e hf => exact h
  | refused e hf hb => exact h.begin hopened
  | advanced hf hb => exact (h.begin hopened).advance_wellformed hc.begin (unstarted_begin hb)

theorem Reachable.wellformed (h : s.Reachable p limit) : s.Holds (State.Wellformed p) := by
  induction h with
  | fresh input output =>
    cases limit <;> exact ⟨State.wellformed_initial p, fun _ hs => nomatch hs⟩
  | step hs ih => exact ih.step_wellformed hs.charted
  | move m _ ih => exact move_induction (fun _ position hs => hs.restore position) m ih
  | streams input output _ ih => exact ih

/-! A recording that does not let the machine go on, because it has no first snapshot or is full,
belongs to a running state. -/

def Awake (s : Session) : Prop :=
  s.unstarted = true ∨ s.fullError? ≠ none → s.state.status = .running

theorem awake_of_open (hu : s.unstarted = false) (hf : s.fullError? = none) : s.Awake := by
  rintro (h | h)
  · rw [hu] at h
    cases h
  · exact absurd hf h

theorem awake_follow {m : Machine} (ha : s.Anchored) (hu : s.unstarted = false)
    (hf : s.fullError? = none) (hr : s.state.status = .running)
    (hagrees : s.Agrees State.SameButStack) : (s.withMachine m).follow.session.Awake := by
  have hfollowed := follow_followed (ha.withMachine m) hu
  generalize (s.withMachine m).follow = reply at hfollowed
  cases hfollowed with
  | unrecorded hn => exact awake_of_open hu hf
  | added r hr' hfits => exact awake_of_open (unstarted_add _ r _) (fullError?_add hr' hf _ _)
  | refused r snapshot hr' hfits hp =>
    -- the machine is back at a snapshot of the state in which it ran the instruction
    intro _
    have hpresent := present_of_recording (s := s) hr' hp
    exact (hagrees snapshot hpresent).status.symm.trans hr

theorem Awake.restore (h : s.Awake) (position : Nat) : (s.restore position).session.Awake := by
  rcases s.restore_cases position with he | ⟨r, snapshot, hr, hs, he⟩
  · rw [he]
    exact h
  · rw [he]
    apply awake_of_open
    · apply (started_iff (r := { r with position, full := false }) rfl).mpr
      exact List.ne_nil_of_mem (List.mem_of_getElem? hs)
    · exact (fullError?_eq_none rfl).mpr rfl

theorem Awake.step (h : s.Awake) (hs : s.Reachable p limit) (hp : 0 < p.size) :
    s.step.session.Awake := by
  have hanchored := hs.charted.anchored
  have hstepped := s.step_stepped
  generalize s.step = reply at hstepped
  cases hstepped with
  | full e hf => exact h
  | refused e hf hb =>
    obtain ⟨hsession, hu⟩ := begin_refused hb
    have hlt := hs.wellformed.1.running (h (Or.inl hu)) hp
    rw [← hs.charted.program] at hlt
    rw [hsession, opened, if_neg (Nat.not_le_of_gt hlt)]
    exact h
  | advanced hf hb =>
    have hu := unstarted_begin hb
    have hfull := fullError?_begin hf hb
    have hagrees := hs.agrees.begin State.SameButStack.refl
    have had := s.begin.session.advance_advanced
    generalize s.begin.session.advance = reply at had
    cases had with
    | halted reason hs => exact awake_of_open hu hfull
    | ended hs hg => exact awake_of_open hu hfull
    | faulted i f hs hg hf => exact awake_of_open hu hfull
    | followed i hs hg hf => exact awake_follow hanchored.begin hu hfull hs hagrees

theorem Reachable.awake (h : s.Reachable p limit) (hp : 0 < p.size) : s.Awake := by
  induction h with
  | fresh input output => cases limit <;> exact fun _ => rfl
  | step hs ih => exact ih.step hs hp
  | move m _ ih => exact move_induction (fun _ position hs => hs.restore position) m ih
  | streams input output _ ih => exact ih

theorem step_of_halted {reason : HaltReason} (hs : s.state.status = .halted reason)
    (hu : s.unstarted = false) (hf : s.fullError? = none) : s.step = ⟨s, .ok (.halted reason)⟩ := by
  obtain ⟨program, machine, recording⟩ := s
  change machine.state.status = .halted reason at hs
  rw [step, hf]
  dsimp only
  rw [begin_of_started hu]
  simp only [advance, hs]

end Session

/-- Whatever was asked of a session before, its state is wellformed, and once it has halted it
stays as it is. -/
theorem reachable_wellformed {p : Program} {limit : Option Nat} {s : Session}
    (h : s.Reachable p limit) :
    s.state.Wellformed p ∧
      (0 < p.size → ∀ reason, s.state.status = .halted reason →
        s.step = ⟨s, .ok (.halted reason)⟩) := by
  refine ⟨h.wellformed.1, fun hp reason hs => ?_⟩
  have hawake := h.awake hp
  have hopen : ¬ (s.unstarted = true ∨ s.fullError? ≠ none) := by
    intro hclosed
    rw [hawake hclosed] at hs
    cases hs
  obtain ⟨hu, hf⟩ := not_or.mp hopen
  exact Session.step_of_halted hs (Bool.eq_false_iff.mpr hu) (Decidable.not_not.mp hf)

/-- The last instruction of the program, an exit, has run, was taken back and has run again. -/
def exitedAgain : Session :=
  let program := Program.ofList [⟨.push, some (.number 7), {}⟩, ⟨.exit, none, {}⟩]
  ((Session.fresh program (some 9999) {} {}).serveAll [.run 9, .move .back, .step]).1

theorem reachable_wellformed_exit :
    exitedAgain.state.status = .halted .exit ∧ exitedAgain.state.Wellformed exitedAgain.program ∧
      exitedAgain.step = ⟨exitedAgain, .ok (.halted .exit)⟩ := by
  have hreachable : exitedAgain.Reachable exitedAgain.program (some 9999) :=
    (Session.Reachable.fresh {} {}).serveAll [.run 9, .move .back, .step]
  have hstatus : exitedAgain.state.status = .halted .exit := by decide +kernel
  obtain ⟨hwellformed, hstays⟩ := reachable_wellformed hreachable
  exact ⟨hstatus, hwellformed, hstays (by decide +kernel) .exit hstatus⟩

end Backstep
