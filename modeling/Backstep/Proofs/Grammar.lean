import Backstep.Proofs.Scanning

/-! The grammar of programs. An instruction is written as the opening of its
operation and an operand (`Encodes`). No written instruction begins another, so a
text is cut into written instructions, and a rest that begins with none, in one
way only (`Piece.spelling_unique`). -/
namespace Backstep

namespace Literal

def bit : Symbol → Nat
  | .tab => 1
  | _ => 0

/-- The number that a run writes: its sign, and then its magnitude in binary. -/
def reading : List Symbol → Int
  | [] => 0
  | sign :: bits =>
    let magnitude : Nat := bits.foldl (fun n s => 2 * n + bit s) 0
    if sign = .tab then -magnitude else magnitude

theorem mapM_digit? {run : List Symbol} (h : .lineFeed ∉ run) :
    run.mapM digit? = some (run.map bit) := by
  induction run with
  | nil => rfl
  | cons s run ih =>
    have hrun := ih fun hm => h (List.mem_cons_of_mem s hm)
    cases s with
    | space => simp [List.mapM_cons, digit?, hrun, bit]
    | tab => simp [List.mapM_cons, digit?, hrun, bit]
    | lineFeed => exact absurd List.mem_cons_self h

theorem magnitude?_eq {run : List Symbol} (h : .lineFeed ∉ run) :
    magnitude? run = some (run.foldl (fun n s => 2 * n + bit s) 0) := by
  rw [magnitude?, mapM_digit? h, Option.map_some, Positional.value_eq_foldl, List.foldl_map]
  simp only [Nat.add_comm]

theorem decode?_eq_reading {run : List Symbol} (h : Symbol.IsRun run) :
    decode? run = some (reading run) := by
  obtain ⟨hne, hfree⟩ := h
  cases run with
  | nil => exact absurd rfl hne
  | cons sign bits =>
    have hbits := magnitude?_eq fun hm => hfree (List.mem_cons_of_mem sign hm)
    cases sign with
    | space => simp [decode?, reading, hbits]
    | tab => simp [decode?, reading, hbits]
    | lineFeed => exact absurd List.mem_cons_self hfree

end Literal

/-! The openings of operations. -/

theorem Group.eq_of_lead_begins {g g' : Group} (h : g.lead <+: g'.lead) : g = g' := by
  have hall : ∀ g ∈ Group.all, ∀ g' ∈ Group.all, g.lead <+: g'.lead → g = g' := by decide
  exact hall g g.mem_all g' g'.mem_all h

theorem Group.eq_of_begins {g g' : Group} {w : List Symbol} (h : g.lead <+: w)
    (h' : g'.lead <+: w) : g = g' := by
  rcases List.prefix_or_prefix_of_prefix h h' with hle | hle
  · exact eq_of_lead_begins hle
  · exact (eq_of_lead_begins hle).symm

namespace Operation

def opening (op : Operation) : List Symbol :=
  op.group.lead ++ op.code

theorem eq_of_code_begins {op op' : Operation} (hg : op.group = op'.group)
    (h : op.code <+: op'.code) : op = op' := by
  have hall : ∀ g ∈ Group.all, ∀ op ∈ g.operations, ∀ op' ∈ g.operations,
      op.code <+: op'.code → op = op' := by decide
  exact hall op.group op.group.mem_all op ((op.mem_operations_iff _).mpr rfl) op'
    ((op'.mem_operations_iff _).mpr hg.symm) h

theorem eq_of_begins {op op' : Operation} {w : List Symbol} (hg : op.group = op'.group)
    (h : op.code <+: w) (h' : op'.code <+: w) : op = op' := by
  rcases List.prefix_or_prefix_of_prefix h h' with hle | hle
  · exact eq_of_code_begins hg hle
  · exact (eq_of_code_begins hg.symm hle).symm

theorem eq_of_opening {op op' : Operation} {r r' : List Symbol}
    (h : op.opening ++ r = op'.opening ++ r') : op = op' ∧ r = r' := by
  simp only [opening, List.append_assoc] at h
  have hg : op.group = op'.group := by
    apply Group.eq_of_begins (List.prefix_append op.group.lead (op.code ++ r))
    rw [h]
    exact List.prefix_append _ _
  rw [hg] at h
  have hcode := List.append_cancel_left h
  have hop : op = op' := by
    apply eq_of_begins hg (List.prefix_append op.code r)
    rw [hcode]
    exact List.prefix_append _ _
  subst hop
  exact ⟨rfl, List.append_cancel_left hcode⟩

end Operation

/-! Written instructions. -/

/-- The symbols of an operand, for each kind of it. -/
inductive Operand : Option ParameterKind → List Symbol → Option Parameter → Prop
  | absent : Operand none [] none
  | number (run : List Symbol) : Symbol.IsRun run →
      Operand (some .number) (run ++ [.lineFeed]) (some (.number (Literal.reading run)))
  | label (run : List Symbol) : Symbol.IsRun run →
      Operand (some .label) (run ++ [.lineFeed]) (some (.label ⟨run⟩))

theorem Operand.eq_of_begins {kind : Option ParameterKind} {a a' : Option Parameter}
    {operand operand' w : List Symbol} (h : Operand kind operand a) (h' : Operand kind operand' a')
    (hw : operand <+: w) (hw' : operand' <+: w) : operand = operand' ∧ a = a' := by
  cases h with
  | absent =>
    cases h'
    exact ⟨rfl, rfl⟩
  | number run hr =>
    cases h' with
    | number run' hr' =>
      obtain rfl := Symbol.eq_of_terminated hr.2 hr'.2 hw hw'
      exact ⟨rfl, rfl⟩
  | label run hr =>
    cases h' with
    | label run' hr' =>
      obtain rfl := Symbol.eq_of_terminated hr.2 hr'.2 hw hw'
      exact ⟨rfl, rfl⟩

/-- The symbols write an instruction with this operation and parameter. -/
def Encodes (symbols : List Symbol) (code : Operation × Option Parameter) : Prop :=
  ∃ operand, symbols = code.1.opening ++ operand ∧ Operand code.1.parameterKind? operand code.2

structure Piece where
  symbols : List Symbol
  code : Operation × Option Parameter
  sound : Encodes symbols code

namespace Piece

variable {p q : Piece} {w : List Symbol}

theorem ext (hs : p.symbols = q.symbols) (hc : p.code = q.code) : p = q := by
  cases p
  cases q
  cases hs
  cases hc
  rfl

theorem symbols_ne_nil (p : Piece) : p.symbols ≠ [] := by
  obtain ⟨operand, hs, -⟩ := p.sound
  intro he
  rw [hs, Operation.opening] at he
  simp [Group.lead_ne_nil] at he

/-- No written instruction begins another. -/
theorem eq_of_begins (hp : p.symbols <+: w) (hq : q.symbols <+: w) : p = q := by
  obtain ⟨a, hsp, hap⟩ := p.sound
  obtain ⟨b, hsq, haq⟩ := q.sound
  obtain ⟨r, hr⟩ := hp
  obtain ⟨r', hr'⟩ := hq
  have hw : p.code.1.opening ++ (a ++ r) = q.code.1.opening ++ (b ++ r') := by
    rw [← List.append_assoc, ← List.append_assoc, ← hsp, ← hsq, hr, hr']
  obtain ⟨hop, hrest⟩ := Operation.eq_of_opening hw
  rw [hop] at hap
  obtain ⟨rfl, hparameter⟩ :=
    hap.eq_of_begins haq (List.prefix_append a r) (by rw [hrest]; exact List.prefix_append b r')
  exact ext (by rw [hsp, hsq, hop]) (Prod.ext hop hparameter)

def spelling (ps : List Piece) : List Symbol :=
  (ps.map symbols).flatten

/-- The text begins with no written instruction. -/
def Stuck (r : List Symbol) : Prop :=
  ∀ p : Piece, ¬ p.symbols <+: r

theorem stuck_nil : Stuck [] := by
  intro p hp
  exact p.symbols_ne_nil (List.prefix_nil.mp hp)

/-- A text is cut into written instructions and a rest that begins with none, in one way. -/
theorem spelling_unique {ps qs : List Piece} {r r' : List Symbol} (hr : Stuck r) (hr' : Stuck r')
    (h : spelling ps ++ r = spelling qs ++ r') : ps = qs ∧ r = r' := by
  induction ps generalizing qs with
  | nil =>
    cases qs with
    | nil => exact ⟨rfl, h⟩
    | cons q qs =>
      refine absurd ?_ (hr q)
      change r = q.symbols ++ spelling qs ++ r' at h
      rw [h, List.append_assoc]
      exact List.prefix_append _ _
  | cons p ps ih =>
    change p.symbols ++ spelling ps ++ r = _ at h
    rw [List.append_assoc] at h
    cases qs with
    | nil =>
      refine absurd ?_ (hr' p)
      change _ = r' at h
      rw [← h]
      exact List.prefix_append _ _
    | cons q qs =>
      change _ = q.symbols ++ spelling qs ++ r' at h
      rw [List.append_assoc] at h
      have hpq : p = q := by
        apply eq_of_begins (List.prefix_append p.symbols (spelling ps ++ r))
        rw [h]
        exact List.prefix_append _ _
      subst hpq
      obtain ⟨rfl, hrest⟩ := ih (List.append_cancel_left h)
      exact ⟨rfl, hrest⟩

end Piece

end Backstep
