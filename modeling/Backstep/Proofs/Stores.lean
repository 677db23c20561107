import Backstep.History.Log
import Mathlib.Data.Finset.Card
import Mathlib.Data.Finset.Dedup
import Mathlib.Data.List.Perm.Basic

/-! The heap after any stores. It holds what was stored last to each address, and
nothing else about the stores can be seen from it: heaps with the same last values
are equal, whatever was overwritten and in whatever order. -/
namespace Backstep

theorem Log.isSome_push?_iff (l : Log) (s : Snapshot) :
    (l.push? s).isSome = true ↔ l.used + s.size ≤ l.limit := by
  rw [push?, fits]
  split <;> simp_all

namespace Heap

def storeAll (h : Heap) (stores : List (Value × Value)) : Heap :=
  stores.foldl (fun h (address, value) => h.store address value) h

/-- The value was stored to the address, and no other was after it. -/
def LastStored (stores : List (Value × Value)) (address value : Value) : Prop :=
  ∃ before after, stores = before ++ (address, value) :: after ∧ address ∉ after.map Prod.fst

/-- The bytes that a cell counts for. -/
def cellSize (cell : Value × Value) : Nat :=
  Value.size cell.1 + Value.size cell.2

variable {h : Heap} {stores : List (Value × Value)} {a v : Value}

theorem storeAll_cons (h : Heap) (a v : Value) (stores : List (Value × Value)) :
    h.storeAll ((a, v) :: stores) = (h.store a v).storeAll stores := rfl

theorem storeAll_append (h : Heap) (stores more : List (Value × Value)) :
    h.storeAll (stores ++ more) = (h.storeAll stores).storeAll more :=
  List.foldl_append

theorem retrieve?_storeAll_of_not_mem (h : Heap) (hm : a ∉ stores.map Prod.fst) :
    (h.storeAll stores).retrieve? a = h.retrieve? a := by
  induction stores generalizing h with
  | nil => rfl
  | cons store stores ih =>
    rw [List.map_cons, List.mem_cons, not_or] at hm
    rw [storeAll_cons, ih _ hm.2, retrieve?_store, if_neg (Ne.symm hm.1)]

theorem LastStored.retrieve? (hl : LastStored stores a v) (h : Heap) :
    (h.storeAll stores).retrieve? a = some v := by
  obtain ⟨before, after, rfl, hm⟩ := hl
  rw [storeAll_append, storeAll_cons, retrieve?_storeAll_of_not_mem _ hm, retrieve?_store,
    if_pos rfl]

theorem exists_lastStored (hm : a ∈ stores.map Prod.fst) : ∃ v, LastStored stores a v := by
  induction stores with
  | nil => cases hm
  | cons store stores ih =>
    by_cases hlater : a ∈ stores.map Prod.fst
    · obtain ⟨v, before, after, rfl, hafter⟩ := ih hlater
      exact ⟨v, store :: before, after, rfl, hafter⟩
    · obtain rfl : a = store.1 := (List.mem_cons.mp hm).resolve_right hlater
      exact ⟨store.2, [], stores, rfl, hlater⟩

theorem retrieve?_storeAll_eq_none_iff :
    (({} : Heap).storeAll stores).retrieve? a = none ↔ a ∉ stores.map Prod.fst := by
  constructor
  · intro hnone hm
    obtain ⟨v, hl⟩ := exists_lastStored hm
    rw [hl.retrieve?] at hnone
    cases hnone
  · intro hm
    rw [retrieve?_storeAll_of_not_mem _ hm, retrieve?_empty]

theorem retrieve?_storeAll_eq_some_iff :
    (({} : Heap).storeAll stores).retrieve? a = some v ↔ LastStored stores a v := by
  constructor
  · intro hsome
    have hm : a ∈ stores.map Prod.fst := by
      by_contra hnot
      rw [retrieve?_storeAll_eq_none_iff.mpr hnot] at hsome
      cases hsome
    obtain ⟨w, hl⟩ := exists_lastStored hm
    rw [hl.retrieve?] at hsome
    cases hsome
    exact hl
  · intro hl
    exact hl.retrieve? {}

theorem mem_toList_iff : (a, v) ∈ h.toList ↔ h.retrieve? a = some v := by
  rw [toList, Heap.retrieve?]
  exact Std.ExtTreeMap.mem_toList_iff_getElem?_eq_some

theorem toList_increasing (h : Heap) : h.toList.Pairwise fun c d => c.1 < d.1 := by
  have hordered := Std.ExtTreeMap.ordered_keys_toList (t := h.cells)
  exact hordered.imp fun hlt => compare_lt_iff_lt.mp hlt

theorem eq_of_mem_toList {c d : Value × Value} (hc : c ∈ h.toList) (hd : d ∈ h.toList)
    (hcd : c.1 = d.1) : c = d := by
  have hvalue := mem_toList_iff.mp hc
  rw [hcd, mem_toList_iff.mp hd] at hvalue
  exact Prod.ext hcd (Option.some.inj hvalue).symm

theorem length_toList (h : Heap) : h.toList.length = h.count := by
  rw [toList, count]
  exact Std.ExtTreeMap.length_toList

theorem count_eq (h : Heap) : h.count = (h.toList.map Prod.fst).toFinset.card := by
  have hnodup : (h.toList.map Prod.fst).Nodup :=
    List.pairwise_map.mpr (h.toList_increasing.imp fun hlt => ne_of_lt hlt)
  rw [List.toFinset_card_of_nodup hnodup, List.length_map, length_toList]

theorem mem_addresses_iff : a ∈ h.toList.map Prod.fst ↔ h.retrieve? a ≠ none := by
  rw [Option.ne_none_iff_exists', List.mem_map]
  constructor
  · rintro ⟨⟨a, v⟩, hm, rfl⟩
    exact ⟨v, mem_toList_iff.mp hm⟩
  · rintro ⟨v, hv⟩
    exact ⟨(a, v), mem_toList_iff.mpr hv, rfl⟩

theorem count_storeAll (stores : List (Value × Value)) :
    (({} : Heap).storeAll stores).count = (stores.map Prod.fst).toFinset.card := by
  rw [count_eq]
  congr 1
  ext a
  rw [List.mem_toFinset, List.mem_toFinset, mem_addresses_iff, Ne,
    retrieve?_storeAll_eq_none_iff, not_not]

/-- The order of the cells. -/
def cellLe (c d : Value × Value) : Bool :=
  c.1 ≤ d.1

theorem cellLe_trans (c d e : Value × Value) (hcd : cellLe c d = true) (hde : cellLe d e = true) :
    cellLe c e = true :=
  decide_eq_true (le_trans (of_decide_eq_true hcd) (of_decide_eq_true hde))

theorem cellLe_total (c d : Value × Value) : (cellLe c d || cellLe d c) = true := by
  simp [cellLe, le_total]

/-- However the cells of a heap are listed, sorting puts them in order. -/
theorem mergeSort_eq {cells : List (Value × Value)} (hp : cells.Perm h.toList) :
    cells.mergeSort cellLe = h.toList := by
  have hsort := (List.mergeSort_perm cells cellLe).trans hp
  have hsorted := List.pairwise_mergeSort cellLe_trans cellLe_total cells
  have horder : h.toList.Pairwise fun c d => cellLe c d :=
    h.toList_increasing.imp fun hlt => decide_eq_true (le_of_lt hlt)
  refine List.Perm.eq_of_pairwise ?_ hsorted horder hsort
  intro c d hc hd hcd hdc
  refine eq_of_mem_toList (hsort.mem_iff.mp hc) hd ?_
  exact le_antisymm (of_decide_eq_true hcd) (of_decide_eq_true hdc)

/-- Two lists of the last stores differ in their order only. -/
theorem perm_toList {cells : List (Value × Value)} (hn : cells.Nodup)
    (hm : ∀ a v, (a, v) ∈ cells ↔ h.retrieve? a = some v) : cells.Perm h.toList := by
  have hnodup : h.toList.Nodup := by
    refine h.toList_increasing.imp ?_
    rintro c d hlt rfl
    exact lt_irrefl c.1 hlt
  rw [List.perm_ext_iff_of_nodup hn hnodup]
  intro cell
  rw [hm cell.1 cell.2, ← mem_toList_iff]

end Heap

open Heap in
/-- The heap after any stores: a look-up finds what was stored last, the cells are the last stores
in the order of their addresses, and their sizes are what the heap adds to a snapshot, in whatever
order they are counted. Stores with the same last values lead to the same heap. -/
theorem stores_last_write_wins (stores : List (Value × Value)) :
    let h := ({} : Heap).storeAll stores
    (∀ a v, h.retrieve? a = some v ↔ LastStored stores a v) ∧
    (∀ a, h.retrieve? a = none ↔ a ∉ stores.map Prod.fst) ∧
    h.toList.Pairwise (fun c d => c.1 < d.1) ∧
    (∀ a v, (a, v) ∈ h.toList ↔ LastStored stores a v) ∧
    h.count = (stores.map Prod.fst).toFinset.card ∧ h.size = tally cellSize h.toList ∧
    (∀ cells : List (Value × Value), cells.Nodup →
      (∀ a v, (a, v) ∈ cells ↔ LastStored stores a v) →
      cells.mergeSort Heap.cellLe = h.toList ∧ cells.length = h.count ∧
        tally cellSize cells = h.size ∧
        ∀ (s : State) (shown : Nat) (l : Log),
          let bytes := Snapshot.baseSize + s.stack.size + tally cellSize cells +
            Snapshot.frameSize * s.calls.depth
          let snapshot : Snapshot := ⟨{ s with heap := h }, shown⟩
          snapshot.size = bytes ∧ ((l.push? snapshot).isSome = true ↔ l.used + bytes ≤ l.limit)) ∧
    ∀ stores' : List (Value × Value),
      (∀ a v, LastStored stores' a v ↔ LastStored stores a v) →
      ({} : Heap).storeAll stores' = h := by
  intro h
  have hsome : ∀ a v, h.retrieve? a = some v ↔ LastStored stores a v :=
    fun a v => retrieve?_storeAll_eq_some_iff
  refine ⟨hsome, fun a => retrieve?_storeAll_eq_none_iff, h.toList_increasing,
    fun a v => mem_toList_iff.trans (hsome a v), count_storeAll stores, rfl, ?_, ?_⟩
  · intro cells hn hm
    have hp : cells.Perm h.toList := perm_toList hn fun a v => (hm a v).trans (hsome a v).symm
    have hsize : tally cellSize cells = h.size := tally_eq_of_perm cellSize hp
    refine ⟨mergeSort_eq hp, hp.length_eq.trans h.length_toList, hsize, ?_⟩
    intro s shown l bytes snapshot
    have hbytes : snapshot.size = bytes := by
      change Snapshot.baseSize + s.stack.size + h.size + _ = bytes
      rw [← hsize]
    exact ⟨hbytes, hbytes ▸ l.isSome_push?_iff snapshot⟩
  · intro stores' hsame
    refine Heap.ext fun a => Option.ext fun v => ?_
    rw [hsome, retrieve?_storeAll_eq_some_iff, hsame]

/-- An overwritten value and the order of the stores leave no trace. -/
theorem stores_last_write_wins_twice :
    let stores : List (Value × Value) := [(5, 42), (-5, 7), (5, 43)]
    let stores' : List (Value × Value) := [(5, 43), (-5, 7)]
    let h := ({} : Heap).storeAll stores
    (∀ a v, Heap.LastStored stores' a v ↔ Heap.LastStored stores a v) ∧
      ({} : Heap).storeAll stores' = h ∧ stores'.Nodup ∧
      stores'.mergeSort Heap.cellLe = h.toList ∧ stores'.length = h.count ∧
      tally Heap.cellSize stores' = h.size ∧ h.toList = [(-5, 7), (5, 43)] := by
  intro stores stores' h
  have hsame : ∀ a v, Heap.LastStored stores' a v ↔ Heap.LastStored stores a v := by
    intro a v
    rw [← Heap.retrieve?_storeAll_eq_some_iff, ← Heap.retrieve?_storeAll_eq_some_iff]
    change ((({} : Heap).store 5 43).store (-5) 7).retrieve? a = some v ↔
      (((({} : Heap).store 5 42).store (-5) 7).store 5 43).retrieve? a = some v
    simp only [Heap.retrieve?_store, Heap.retrieve?_empty]
    by_cases h5 : 5 = a
    · subst h5
      simp
    · simp [h5]
  have hnodup : stores'.Nodup := by decide
  obtain ⟨-, -, -, hmem, -, -, hcells, hequal⟩ := stores_last_write_wins stores
  have htoList : h.toList = [(-5, 7), (5, 43)] := by decide +kernel
  have hlisted : ∀ a v, (a, v) ∈ stores' ↔ Heap.LastStored stores a v := by
    intro a v
    rw [← hmem a v, htoList]
    simp [stores', or_comm]
  obtain ⟨hsorted, hcount, hsize, -⟩ := hcells stores' hnodup hlisted
  refine ⟨hsame, hequal stores' hsame, hnodup, hsorted, hcount, hsize, htoList⟩

end Backstep
