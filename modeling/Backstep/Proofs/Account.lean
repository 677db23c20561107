import Backstep.Proofs.Bounds
import Backstep.Proofs.Budget

/-! The log under any requests. The count of used bytes follows the snapshots that
the log holds, through every refusal and every truncation, and no sum or difference
on the way leaves its range (`log_account_exact`). -/
namespace Backstep

namespace Checked

variable {α : Type} {size : α → Nat}

/-- A sum that takes 64 bits. -/
def plus? (a b : Nat) : Option Nat :=
  if a + b ≤ 0xFFFFFFFFFFFFFFFF then some (a + b) else none

def tally? (size : α → Nat) (as : List α) : Option Nat :=
  as.foldlM (fun n a => plus? n (size a)) 0

theorem plus?_of_le {a b : Nat} (h : a + b ≤ 0xFFFFFFFFFFFFFFFF) : plus? a b = some (a + b) :=
  if_pos h

theorem foldlM_plus? {n : Nat} {as : List α} (h : n + tally size as ≤ 0xFFFFFFFFFFFFFFFF) :
    as.foldlM (fun n a => plus? n (size a)) n = some (n + tally size as) := by
  induction as generalizing n with
  | nil => simp
  | cons a as ih =>
    rw [tally_cons, ← Nat.add_assoc] at h ⊢
    rw [List.foldlM_cons, plus?_of_le (by omega)]
    exact ih h

theorem tally?_of_le {as : List α} (h : tally size as ≤ 0xFFFFFFFFFFFFFFFF) :
    tally? size as = some (tally size as) := by
  rw [← Nat.zero_add (tally size as)] at h ⊢
  exact foldlM_plus? h

end Checked

namespace Log

open Checked

inductive Request where
  | push (s : Snapshot)
  | truncate (n : Nat)
  | get (index : Nat)

inductive Answer where
  | done
  | refused (message : String)
  | found (s : Option Snapshot)

def serve (l : Log) : Request → Log × Answer
  | .push s =>
    match l.push? s with
    | some pushed => (pushed, .done)
    | none => (l, .refused (l.refusal s))
  | .truncate n => (l.truncate n, .done)
  | .get index => (l, .found (l.get? index))

def serveAll (l : Log) : List Request → Log × List Answer
  | [] => (l, [])
  | request :: requests =>
    let (next, answer) := l.serve request
    let (last, answers) := next.serveAll requests
    (last, answer :: answers)

/-- The ways in which a request can turn out. -/
inductive Served (l : Log) : Request → Log × Answer → Prop
  | refused (s : Snapshot) :
      l.limit < l.used + s.size → Served l (.push s) (l, .refused (l.refusal s))
  | pushed (s : Snapshot) : l.used + s.size ≤ l.limit → Served l (.push s) (l.push s, .done)
  | truncated (n : Nat) : Served l (.truncate n) (l.truncate n, .done)
  | found (index : Nat) : Served l (.get index) (l, .found (l.get? index))

theorem serve_served (l : Log) (request : Request) : l.Served request (l.serve request) := by
  cases request with
  | push s =>
    rw [serve, push?]
    cases hf : l.fits s with
    | true => exact .pushed s (by simpa [fits] using hf)
    | false => exact .refused s (by simpa [fits] using hf)
  | truncate n => exact .truncated n
  | get index => exact .found index

variable {l : Log} {s : Snapshot} {n : Nat} {request : Request}

theorem serve_push_of_lt (h : l.limit < l.used + s.size) :
    l.serve (.push s) = (l, .refused (l.refusal s)) := by
  have hs := l.serve_served (.push s)
  generalize l.serve (.push s) = served at hs
  cases hs with
  | refused s hlt => rfl
  | pushed s hle => omega

theorem serve_push_of_le (h : l.used + s.size ≤ l.limit) :
    l.serve (.push s) = (l.push s, .done) := by
  have hs := l.serve_served (.push s)
  generalize l.serve (.push s) = served at hs
  cases hs with
  | refused s hlt => omega
  | pushed s hle => rfl

theorem truncate_of_le (h : l.count ≤ n) : l.truncate n = l := if_pos h

theorem truncate_push (l : Log) (s : Snapshot) : (l.push s).truncate l.count = l := by
  have hcount : (l.push s).count = l.count + 1 := Array.size_push s
  apply eq_of_toList_eq
  · exact limit_truncate (l.push s) _
  · rw [toList_truncate, toList_push, count_eq, List.take_left]
  · rw [truncate, if_neg (by omega)]
    change l.used + s.size - tally Snapshot.size ((l.push s).toList.drop l.count) = l.used
    simp [count_eq]

theorem truncate_serve_push (l : Log) (s : Snapshot) :
    (l.serve (.push s)).1.truncate l.count = l := by
  have hs := l.serve_served (.push s)
  generalize l.serve (.push s) = served at hs
  cases hs with
  | refused s hlt => exact truncate_of_le (Nat.le_refl l.count)
  | pushed s hle => exact truncate_push l s

theorem limit_serve (l : Log) (request : Request) : (l.serve request).1.limit = l.limit := by
  have hs := l.serve_served request
  generalize l.serve request = served at hs
  cases hs with
  | refused s hlt => rfl
  | pushed s hle => rfl
  | truncated n => exact limit_truncate l n
  | found index => rfl

theorem Balanced.serve (h : l.Balanced) (request : Request) : (l.serve request).1.Balanced := by
  have hs := l.serve_served request
  generalize l.serve request = served at hs
  cases hs with
  | refused s hlt => exact h
  | pushed s hle => exact h.push (decide_eq_true hle)
  | truncated n => exact h.truncate n
  | found index => exact h

theorem limit_serveAll (l : Log) (requests : List Request) :
    (l.serveAll requests).1.limit = l.limit := by
  induction requests generalizing l with
  | nil => rfl
  | cons request requests ih => exact (ih (l.serve request).1).trans (limit_serve l request)

theorem Balanced.serveAll (h : l.Balanced) (requests : List Request) :
    (l.serveAll requests).1.Balanced := by
  induction requests generalizing l with
  | nil => exact h
  | cons request requests ih => exact ih (h.serve request)

theorem balanced_empty (limit : Nat) : ({ limit } : Log).Balanced :=
  ⟨rfl, Nat.zero_le limit⟩

/-- What a truncation takes off the count is a part of it. -/
theorem Balanced.used_eq (h : l.Balanced) (n : Nat) :
    l.used = (l.truncate n).used + tally Snapshot.size (l.toList.drop n) := by
  rw [h.used_truncate, ← tally_append, List.take_append_drop, h.used]

/-! The same requests with sums of 64 bits. -/

def checkedServe (l : Log) : Request → Option (Log × Answer)
  | .push s =>
    (plus? l.used s.size).map fun used =>
      if l.limit < used then (l, .refused (l.refusal s))
      else ({ l with snapshots := l.snapshots.push s, used }, .done)
  | .truncate n =>
    if l.count ≤ n then some (l, .done)
    else
      (slice? n l.count l.toList).bind fun dropped =>
        (tally? Snapshot.size dropped).bind fun freed =>
          (minus? l.used freed).map fun used =>
            ({ l with snapshots := l.snapshots.take n, used }, .done)
  | .get index => some (l, .found (l.get? index))

def checkedServeAll (l : Log) : List Request → Option (Log × List Answer)
  | [] => some (l, [])
  | request :: requests =>
    (l.checkedServe request).bind fun (next, answer) =>
      (next.checkedServeAll requests).map fun (last, answers) => (last, answer :: answers)

/-- The size of a snapshot to be pushed and the sizes of those held then have a sum that
takes 64 bits. -/
def SumsFit (l : Log) : List Request → Prop
  | [] => True
  | request :: requests =>
    (∀ s, request = .push s → tally Snapshot.size l.toList + s.size ≤ 0xFFFFFFFFFFFFFFFF) ∧
      (l.serve request).1.SumsFit requests

theorem Balanced.used_serve_le (h : l.Balanced) (hused : l.used ≤ 0xFFFFFFFFFFFFFFFF)
    (hfits : ∀ s, request = .push s → l.used + s.size ≤ 0xFFFFFFFFFFFFFFFF) :
    (l.serve request).1.used ≤ 0xFFFFFFFFFFFFFFFF := by
  have hs := l.serve_served request
  generalize l.serve request = served at hs
  cases hs with
  | refused s hlt => exact hused
  | pushed s hle => exact hfits s rfl
  | truncated n =>
    have hsum := h.used_eq n
    dsimp only
    omega
  | found index => exact hused

theorem Balanced.checkedServe_eq (h : l.Balanced) (hused : l.used ≤ 0xFFFFFFFFFFFFFFFF)
    (hfits : ∀ s, request = .push s → l.used + s.size ≤ 0xFFFFFFFFFFFFFFFF) :
    l.checkedServe request = some (l.serve request) := by
  have hs := l.serve_served request
  generalize l.serve request = served at hs
  cases hs with
  | refused s hlt => rw [checkedServe, plus?_of_le (hfits s rfl), Option.map_some, if_pos hlt]
  | pushed s hle =>
    rw [checkedServe, plus?_of_le (hfits s rfl), Option.map_some, if_neg (by omega)]
    rfl
  | truncated n =>
    rw [checkedServe]
    by_cases hn : l.count ≤ n
    · rw [if_pos hn, truncate_of_le hn]
    · have hslice : slice? n l.count l.toList = some (l.toList.drop n) := by
        rw [l.count_eq] at hn ⊢
        rw [slice?, if_pos ⟨by omega, Nat.le_refl _⟩, List.take_length]
      have hsum := h.used_eq n
      rw [if_neg hn, hslice, Option.bind_some, tally?_of_le (by omega), Option.bind_some,
        minus?_of_le (by omega), Log.truncate, if_neg hn]
      rfl
  | found index => rfl

theorem Balanced.checkedServeAll_eq (h : l.Balanced) (hused : l.used ≤ 0xFFFFFFFFFFFFFFFF)
    (requests : List Request) (hfits : l.SumsFit requests) :
    l.checkedServeAll requests = some (l.serveAll requests) := by
  induction requests generalizing l with
  | nil => rfl
  | cons request requests ih =>
    obtain ⟨hfirst, hrest⟩ := hfits
    rw [← h.used] at hfirst
    have hstep := h.checkedServe_eq hused hfirst
    have hnext := ih (h.serve request) (h.used_serve_le hused hfirst) hrest
    rw [checkedServeAll, hstep, Option.bind_some]
    dsimp only
    rw [hnext]
    rfl

end Log

open Checked in
/-- Of a new log after any requests: the bytes used are those of the snapshots held, within the
limit. Just a snapshot that does not fit beside them is refused, and then nothing changes; a
truncation keeps the first ones and never takes off more than is counted; it undoes a push. -/
theorem log_account_exact (limit : Nat) (requests : List Log.Request) :
    let l := (({ limit } : Log).serveAll requests).1
    let held := tally Snapshot.size l.toList
    l.limit = limit ∧ l.used = held ∧ l.used ≤ limit ∧
    (∀ s, limit < held + s.size → l.serve (.push s) = (l, .refused (l.refusal s))) ∧
    (∀ s, held + s.size ≤ limit →
      ∃ next, l.serve (.push s) = (next, .done) ∧ next.toList = l.toList ++ [s]) ∧
    (∀ s, ((l.serve (.push s)).1.serve (.truncate l.toList.length)).1 = l) ∧
    (∀ n, ∃ next, l.serve (.truncate n) = (next, .done) ∧
      next.toList = l.toList.take (min n l.toList.length) ∧
      minus? l.used (tally Snapshot.size (l.toList.drop n)) = some next.used) ∧
    (∀ index, l.serve (.get index) = (l, .found l.toList[index]?)) ∧
    (({ limit } : Log).SumsFit requests →
      ({ limit } : Log).checkedServeAll requests = some (({ limit } : Log).serveAll requests)) := by
  have hnew := Log.balanced_empty limit
  have hlimit := Log.limit_serveAll { limit } requests
  have hb := hnew.serveAll requests
  have hchecked := hnew.checkedServeAll_eq (Nat.zero_le _) requests
  generalize (Log.serveAll { limit } requests).1 = l at hlimit hb ⊢
  intro _ held
  have hheld : l.used = held := hb.used
  rw [← hheld]
  dsimp only at hlimit
  refine ⟨hlimit, rfl, hlimit ▸ hb.within, ?_, ?_, ?_, ?_, ?_, hchecked⟩
  · intro s hlt
    exact Log.serve_push_of_lt (hlimit ▸ hlt)
  · intro s hle
    exact ⟨l.push s, Log.serve_push_of_le (hlimit ▸ hle), Log.toList_push l s⟩
  · intro s
    rw [← Log.count_eq]
    exact Log.truncate_serve_push l s
  · intro n
    refine ⟨l.truncate n, rfl, ?_, ?_⟩
    · rw [Log.toList_truncate, List.take_eq_take_min]
    · rw [hb.used_eq n, minus?_add]
  · intro index
    rw [← Log.get?_eq]
    rfl

/-- The third of three blank snapshots does not fit within twice their size. -/
theorem log_account_exact_blank :
    let blank : Snapshot := ⟨{}, 0⟩
    let pushes : List Log.Request := [.push blank, .push blank]
    let log := (({ limit := 240 } : Log).serveAll pushes).1
    ({ limit := 240 } : Log).SumsFit pushes ∧
      log.serve (.push blank) = (log, .refused (log.refusal blank)) ∧
      ({ limit := 240 } : Log).checkedServeAll pushes =
        some (({ limit := 240 } : Log).serveAll pushes) := by
  intro blank pushes log
  have hfits : ({ limit := 240 } : Log).SumsFit pushes := by
    refine ⟨?_, ?_, trivial⟩ <;>
      · intro s hs
        cases hs
        decide
  obtain ⟨-, -, -, hrefused, -, -, -, -, hchecked⟩ := log_account_exact 240 pushes
  exact ⟨hfits, hrefused blank (by decide), hchecked hfits⟩

end Backstep
