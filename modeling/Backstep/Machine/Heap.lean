import Backstep.Machine.Value
import Backstep.Tally
import Std.Data.ExtTreeMap

/-!
# The heap

A heap maps the addresses that were stored to, to the values stored last. Any
integer is an address, and reading an address that was never stored to gives
nothing.
-/
namespace Backstep

structure Heap where
  cells : Std.ExtTreeMap Value Value := {}

namespace Heap

def store (h : Heap) (address value : Value) : Heap :=
  ⟨h.cells.insert address value⟩

def retrieve? (h : Heap) (address : Value) : Option Value :=
  h.cells[address]?

/-- The cells in the order of their addresses. -/
def toList (h : Heap) : List (Value × Value) :=
  h.cells.toList

def count (h : Heap) : Nat :=
  h.cells.size

def isEmpty (h : Heap) : Bool :=
  h.cells.isEmpty

def size (h : Heap) : Nat :=
  tally (fun (address, value) => Value.size address + Value.size value) h.toList

@[simp] theorem retrieve?_empty (address : Value) : ({} : Heap).retrieve? address = none := by
  simp [retrieve?]

theorem retrieve?_store (h : Heap) (a v b : Value) :
    (h.store a v).retrieve? b = if a = b then some v else h.retrieve? b := by
  simp [retrieve?, store, Std.ExtTreeMap.getElem?_insert]

theorem ext {h k : Heap} (heq : ∀ address, h.retrieve? address = k.retrieve? address) : h = k := by
  cases h
  cases k
  rw [Heap.mk.injEq]
  exact Std.ExtTreeMap.ext_getElem? heq

end Heap
end Backstep
