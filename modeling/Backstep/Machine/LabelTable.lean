import Backstep.Program.Instruction
import Std.Data.ExtHashMap

/-!
# The label table

Labels are noted when their instructions run. The first lookup that misses
fills the table with every label of the program, where the first definition of
a label counts; from then on the table is complete and a miss is final.
-/
namespace Backstep

structure LabelTable where
  entries : Std.ExtHashMap Label Nat := {}
  complete : Bool := false

namespace LabelTable

def count (t : LabelTable) : Nat :=
  t.entries.size

def isEmpty (t : LabelTable) : Bool :=
  t.entries.isEmpty

def find? (t : LabelTable) (l : Label) : Option Nat :=
  t.entries[l]?

def record (t : LabelTable) (l : Label) (index : Nat) : LabelTable :=
  if t.complete then t else { t with entries := t.entries.insertIfNew l index }

def ofProgram (p : Program) : LabelTable where
  entries := p.definitions.foldl (fun entries (l, index) => entries.insertIfNew l index) {}
  complete := true

def resolve (t : LabelTable) (p : Program) (l : Label) : Option Nat × LabelTable :=
  match t.find? l with
  | some index => (some index, t)
  | none =>
    if t.complete then (none, t)
    else
      let full := ofProgram p
      (full.find? l, full)

@[simp] theorem find?_empty (l : Label) : ({} : LabelTable).find? l = none := by
  simp [find?]

theorem find?_record (t : LabelTable) (l k : Label) (index : Nat) :
    (t.record l index).find? k =
      if t.complete = false ∧ l = k ∧ t.find? l = none then some index else t.find? k := by
  simp only [record, find?]
  split
  · simp [*]
  · simp [*, Std.ExtHashMap.getElem?_insertIfNew]

end LabelTable
end Backstep
