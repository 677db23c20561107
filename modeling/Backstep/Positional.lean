/-!
# Positional numerals

The digits of a number in a base, the most significant first and none for zero.
A numeral is read by joining neighbouring digits into digits of the squared
base, and a number is written by dividing it by such squares, so that long
numerals take few operations on large numbers. Main statements: `value_eq_foldl`
reads digit by digit, `digits_eq` gives the last digit and the ones before it,
and `value_digits` reads back what was written.
-/
namespace Backstep
namespace Positional

/-! ## Reading -/

/-- The value of a numeral that has its least significant digit first. -/
def valueUp (base : Nat) (ds : List Nat) : Nat :=
  ds.foldr (fun d n => d + base * n) 0

/-- Joins each two neighbours of a numeral that has its least significant digit first. -/
def pairUp (base : Nat) : List Nat → List Nat
  | low :: high :: ds => (low + base * high) :: pairUp base ds
  | few => few

theorem valueUp_pairUp (base : Nat) (ds : List Nat) :
    valueUp (base * base) (pairUp base ds) = valueUp base ds := by
  induction ds using pairUp.induct with
  | case1 low high ds ih =>
    simp only [pairUp, valueUp, List.foldr_cons] at ih ⊢
    rw [ih, Nat.mul_add, Nat.mul_assoc, Nat.add_assoc]
  | case2 ds h =>
    match ds with
    | [] => rfl
    | [d] => simp [pairUp, valueUp]
    | low :: high :: ds => exact absurd rfl (h low high ds)

/-- Joins neighbours in as many rounds before it reads digit by digit. -/
def valueAfter : Nat → Nat → List Nat → Nat
  | 0, base, ds => valueUp base ds
  | rounds + 1, base, ds =>
    match ds with
    | [] => 0
    | [d] => d
    | ds => valueAfter rounds (base * base) (pairUp base ds)

theorem valueAfter_eq (rounds base : Nat) (ds : List Nat) :
    valueAfter rounds base ds = valueUp base ds := by
  induction rounds generalizing base ds with
  | zero => rfl
  | succ rounds ih =>
    simp only [valueAfter]
    split
    · rfl
    · simp [valueUp]
    · rw [ih, valueUp_pairUp]

def value (base : Nat) (ds : List Nat) : Nat :=
  valueAfter 64 base ds.reverse

theorem value_eq_foldl (base : Nat) (ds : List Nat) :
    value base ds = ds.foldl (fun n d => d + base * n) 0 := by
  simp [value, valueAfter_eq, valueUp]

@[simp] theorem value_append_singleton (base : Nat) (ds : List Nat) (d : Nat) :
    value base (ds ++ [d]) = d + base * value base ds := by
  simp [value_eq_foldl]

/-! ## Writing -/

/-- Writes `n` before `rest`, with one digit for no scale and twice as many for each. -/
def spread : List Nat → Nat → List Nat → List Nat
  | [], n, rest => n :: rest
  | p :: scales, n, rest =>
    let q := n / p
    spread scales q (spread scales (n - p * q) rest)

/-- The squares of squares of `p` up to `n`, put before the ones found so far. -/
def scales : Nat → Nat → Nat → List Nat → List Nat
  | 0, _, _, found => found
  | fuel + 1, n, p, found => if n < p then found else scales fuel n (p * p) (p :: found)

def digits (base n : Nat) : List Nat :=
  (spread (scales (n.log2 + 1) n base []) n []).dropWhile (· = 0)

/-- The last `k` digits of `n`, zeros included. -/
def padded (base : Nat) : Nat → Nat → List Nat
  | 0, _ => []
  | k + 1, n => padded base k (n / base) ++ [n % base]

theorem padded_add (base k m n : Nat) :
    padded base (k + m) n =
      padded base k (n / Nat.pow base m) ++ padded base m (n % Nat.pow base m) := by
  induction m generalizing n with
  | zero => simp [padded]
  | succ m ih =>
    have hp : Nat.pow base (m + 1) = base * Nat.pow base m := Nat.mul_comm _ _
    rw [← Nat.add_assoc, padded, ih, padded, hp, Nat.mod_mul_right_div_self, Nat.mod_mul_right_mod,
      Nat.div_div_eq_div_mul, List.append_assoc]

/-- A list of scales that writes `width` digits. -/
def Scaled (base : Nat) : List Nat → Nat → Prop
  | [], width => width = 1
  | p :: scales, width => ∃ m, width = m + m ∧ p = Nat.pow base m ∧ Scaled base scales m

theorem spread_eq {base : Nat} {scales : List Nat} {width n : Nat} (rest : List Nat)
    (h : Scaled base scales width) (hn : n < Nat.pow base width) :
    spread scales n rest = padded base width n ++ rest := by
  induction scales generalizing width n rest with
  | nil =>
    obtain rfl : width = 1 := h
    have hlt : n < base := by simpa using hn
    simp [spread, padded, Nat.mod_eq_of_lt hlt]
  | cons p scales ih =>
    obtain ⟨m, rfl, rfl, hs⟩ := h
    have hp : Nat.pow base (m + m) = Nat.pow base m * Nat.pow base m := Nat.pow_add base m m
    rw [hp] at hn
    have hpos : 0 < Nat.pow base m := Nat.pos_of_ne_zero fun h0 => by
      rw [h0] at hn
      exact Nat.not_lt_zero n hn
    have hq : n / Nat.pow base m < Nat.pow base m := Nat.div_lt_of_lt_mul hn
    have hr : n - Nat.pow base m * (n / Nat.pow base m) = n % Nat.pow base m :=
      (Nat.mod_eq_sub_mul_div).symm
    simp only [spread]
    rw [hr, ih _ hs (Nat.mod_lt n hpos), ih _ hs hq, padded_add, List.append_assoc]

theorem Scaled.width_pos {base : Nat} {scales : List Nat} {width : Nat}
    (h : Scaled base scales width) : 0 < width := by
  induction scales generalizing width with
  | nil =>
    obtain rfl : width = 1 := h
    exact Nat.one_pos
  | cons p scales ih =>
    obtain ⟨m, rfl, -, hs⟩ := h
    exact Nat.add_pos_left (ih hs) m

theorem exists_scaled {base : Nat} (hb : 1 < base) (fuel n : Nat) (found : List Nat) (m : Nat)
    (h : Scaled base found m) (hn : n < Nat.pow base m <<< fuel) :
    ∃ width, Scaled base (scales fuel n (Nat.pow base m) found) width ∧
      n < Nat.pow base width := by
  induction fuel generalizing found m with
  | zero => exact ⟨m, h, by simpa using hn⟩
  | succ fuel ih =>
    simp only [scales]
    split
    · rename_i hlt
      exact ⟨m, h, hlt⟩
    · have hp : Nat.pow base m * Nat.pow base m = Nat.pow base (m + m) :=
        (Nat.pow_add base m m).symm
      have h2 : 2 ≤ Nat.pow base m :=
        Nat.le_trans hb (Nat.le_self_pow (Nat.ne_of_gt h.width_pos) base)
      rw [hp]
      apply ih (Nat.pow base m :: found) (m + m) ⟨m, rfl, rfl, h⟩
      rw [← hp]
      have hle : Nat.pow base m * 2 ≤ Nat.pow base m * Nat.pow base m := Nat.mul_le_mul_left _ h2
      simp only [Nat.shiftLeft_eq] at hn ⊢
      refine Nat.lt_of_lt_of_le hn ?_
      rw [Nat.pow_succ', ← Nat.mul_assoc]
      exact Nat.mul_le_mul_right _ hle

/-- The written digits are those of any numeral that is wide enough, without leading zeros. -/
theorem exists_digits_eq {base : Nat} (hb : 1 < base) (n : Nat) :
    ∃ width, n < Nat.pow base width ∧ digits base n = (padded base width n).dropWhile (· = 0) := by
  have hn : n < Nat.pow base 1 <<< (n.log2 + 1) := by
    have h1 : Nat.pow base 1 = base := Nat.pow_one base
    rw [h1, Nat.shiftLeft_eq]
    exact Nat.lt_of_lt_of_le Nat.lt_log2_self (Nat.le_mul_of_pos_left _ (by omega))
  obtain ⟨width, hs, hlt⟩ := exists_scaled hb _ n [] 1 rfl hn
  have h1 : Nat.pow base 1 = base := Nat.pow_one base
  rw [h1] at hs
  refine ⟨width, hlt, ?_⟩
  rw [digits, spread_eq [] hs hlt, List.append_nil]

theorem dropWhile_padded_succ {base width n : Nat} (hn : n < Nat.pow base width) :
    (padded base (width + 1) n).dropWhile (· = 0) = (padded base width n).dropWhile (· = 0) := by
  rw [Nat.add_comm width 1, padded_add, Nat.div_eq_of_lt hn, Nat.mod_eq_of_lt hn]
  simp [padded]

theorem digits_eq_dropWhile {base : Nat} (hb : 1 < base) {width n : Nat}
    (hn : n < Nat.pow base width) :
    digits base n = (padded base width n).dropWhile (· = 0) := by
  obtain ⟨w, hw, h⟩ := exists_digits_eq hb n
  rw [h]
  have up (k : Nat) {v : Nat} (hv : n < Nat.pow base v) :
      (padded base (v + k) n).dropWhile (· = 0) = (padded base v n).dropWhile (· = 0) := by
    induction k with
    | zero => rfl
    | succ k ih =>
      rw [← Nat.add_assoc, dropWhile_padded_succ, ih]
      exact Nat.lt_of_lt_of_le hv (Nat.pow_le_pow_right (by omega) (Nat.le_add_right v k))
  rw [← up width hw, Nat.add_comm, up w hn]

theorem eq_zero_of_dropWhile_eq_nil {ds : List Nat} (h : ds.dropWhile (· = 0) = []) {d : Nat}
    (hd : d ∈ ds) : d = 0 := by
  induction ds with
  | nil => simp at hd
  | cons e ds ih =>
    by_cases he : e = 0
    · subst he
      rw [List.dropWhile_cons_of_pos (by simp)] at h
      rcases List.mem_cons.1 hd with rfl | hd
      · rfl
      · exact ih h hd
    · simp [he] at h

theorem padded_zero (base k : Nat) : padded base k 0 = List.replicate k 0 := by
  induction k with
  | zero => rfl
  | succ k ih => simp [padded, ih, List.replicate_succ']

theorem exists_ne_zero_of_mem_padded {base k n : Nat} (hn : n < Nat.pow base k) (h : n ≠ 0) :
    ∃ d ∈ padded base k n, d ≠ 0 := by
  induction k generalizing n with
  | zero =>
    have : n < 1 := hn
    omega
  | succ k ih =>
    by_cases hd : n % base = 0
    · have hp : Nat.pow base (k + 1) = Nat.pow base k * base := rfl
      rw [hp] at hn
      have hq : n / base ≠ 0 := by
        intro h0
        have := Nat.div_add_mod n base
        simp [h0, hd] at this
        omega
      obtain ⟨d, hm, hz⟩ := ih (Nat.div_lt_of_lt_mul (Nat.mul_comm _ base ▸ hn)) hq
      exact ⟨d, by simp [padded, hm], hz⟩
    · exact ⟨n % base, by simp [padded], hd⟩

/-- The last digit of a number and the digits before it. -/
theorem digits_eq {base : Nat} (hb : 1 < base) (n : Nat) :
    digits base n = if n = 0 then [] else digits base (n / base) ++ [n % base] := by
  obtain ⟨width, hn, -⟩ := exists_digits_eq hb n
  have hs : n < Nat.pow base (width + 1) :=
    Nat.lt_of_lt_of_le hn (Nat.pow_le_pow_right (by omega) (Nat.le_succ width))
  have hp : Nat.pow base (width + 1) = Nat.pow base width * base := rfl
  have hq : n / base < Nat.pow base width := by
    rw [hp, Nat.mul_comm] at hs
    exact Nat.div_lt_of_lt_mul hs
  rw [digits_eq_dropWhile hb hs]
  split
  · rename_i h0
    subst h0
    simp [padded_zero]
  · rename_i h0
    rw [digits_eq_dropWhile hb hq, padded, List.dropWhile_append]
    split
    · rename_i hz
      have hz0 : n / base = 0 := by
        apply Classical.byContradiction
        intro hne
        obtain ⟨d, hm, hd⟩ := exists_ne_zero_of_mem_padded hq hne
        exact hd (eq_zero_of_dropWhile_eq_nil (List.isEmpty_iff.1 hz) hm)
      have hd := Nat.div_add_mod n base
      simp only [hz0, Nat.mul_zero, Nat.zero_add] at hd
      have hne : n % base ≠ 0 := by rwa [hd]
      simp [hz0, padded_zero, hne]
    · rfl

@[simp] theorem digits_zero {base : Nat} (hb : 1 < base) : digits base 0 = [] := by
  rw [digits_eq hb, if_pos rfl]

theorem digits_of_ne_zero {base n : Nat} (hb : 1 < base) (h : n ≠ 0) :
    digits base n = digits base (n / base) ++ [n % base] := by
  rw [digits_eq hb, if_neg h]

theorem value_digits {base : Nat} (hb : 1 < base) (n : Nat) : value base (digits base n) = n := by
  induction n using Nat.strongRecOn with
  | _ n ih =>
    by_cases h : n = 0
    · subst h
      rw [digits_zero hb]
      rfl
    · rw [digits_of_ne_zero hb h, value_append_singleton, ih (n / base), Nat.mod_add_div]
      exact Nat.div_lt_self (Nat.pos_of_ne_zero h) hb

theorem lt_of_mem_digits {base : Nat} (hb : 1 < base) {n d : Nat} (h : d ∈ digits base n) :
    d < base := by
  induction n using Nat.strongRecOn with
  | _ n ih =>
    by_cases h0 : n = 0
    · subst h0
      simp [digits_zero hb] at h
    · rw [digits_of_ne_zero hb h0, List.mem_append, List.mem_singleton] at h
      rcases h with h | rfl
      · exact ih _ (Nat.div_lt_self (Nat.pos_of_ne_zero h0) hb) h
      · exact Nat.mod_lt n (by omega)

theorem digits_ne_nil {base n : Nat} (hb : 1 < base) (h : n ≠ 0) : digits base n ≠ [] := by
  simp [digits_of_ne_zero hb h]

end Positional
end Backstep
