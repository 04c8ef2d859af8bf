import Stepwise.Value
import Stepwise.Pairs

/-!
The heap: arrays and objects, addressed by handle. Cells are only ever added; an array keeps its element type and its
length, an object its class, and an object's fields stay in the order in which they were first written.
-/

namespace Stepwise

set_option autoImplicit false

inductive Cell
  | array (elementType : String) (values : Array Value)
  | object (className : String) (fields : List (String × Value))
  deriving DecidableEq, Repr, Inhabited

def Cell.shown : Cell → Json
  | array elementType values =>
      .object
        [("type", .string "array"), ("elementType", .string elementType),
          ("values", .array (values.toList.map Value.shown))]
  | object className fields =>
      .object
        [("type", .string "object"), ("className", .string className),
          ("fields", .object (fields.map fun field => (field.1, field.2.shown)))]

structure Heap where
  cells : Array Cell
  deriving DecidableEq, Repr, Inhabited

namespace Heap

def empty : Heap := { cells := #[] }

def size (heap : Heap) : Nat := heap.cells.size

def get? (heap : Heap) (handle : Nat) : Option Cell := heap.cells[handle]?

def allocate (heap : Heap) (cell : Cell) : Heap := { cells := heap.cells.push cell }

def set (heap : Heap) (handle : Nat) (cell : Cell) : Heap :=
  { cells := heap.cells.setIfInBounds handle cell }

def shown (heap : Heap) : List (String × Json) :=
  heap.cells.toList.zipIdx.map fun (cell, handle) => (Value.heapId handle, cell.shown)

@[simp] theorem size_allocate (heap : Heap) (cell : Cell) : (heap.allocate cell).size = heap.size + 1 := by
  simp [size, allocate]

theorem get?_allocate (heap : Heap) (cell : Cell) (handle : Nat) :
    (heap.allocate cell).get? handle = if handle = heap.size then some cell else heap.get? handle := by
  simp only [get?, allocate, size, Array.getElem?_push]
  rfl

@[simp] theorem size_set (heap : Heap) (handle : Nat) (cell : Cell) : (heap.set handle cell).size = heap.size := by
  simp [size, set]

theorem get?_set (heap : Heap) (handle other : Nat) (cell : Cell) :
    (heap.set handle cell).get? other =
      if handle = other then (if other < heap.size then some cell else none) else heap.get? other := by
  simp only [get?, set, size, Array.getElem?_setIfInBounds]
  by_cases same : handle = other
  · subst same
    simp only [if_true]
    rfl
  · simp only [same, if_false]

theorem get?_allocate_cases {heap : Heap} {cell found : Cell} {handle : Nat}
    (there : (heap.allocate cell).get? handle = some found) : found = cell ∨ heap.get? handle = some found := by
  rw [get?_allocate] at there
  split at there
  · exact .inl (Option.some.inj there).symm
  · exact .inr there

theorem get?_set_cases {heap : Heap} {handle other : Nat} {cell found : Cell}
    (there : (heap.set handle cell).get? other = some found) :
    found = cell ∨ heap.get? other = some found := by
  rw [get?_set] at there
  split at there
  · split at there
    · exact .inl (Option.some.inj there).symm
    · cases there
  · exact .inr there

end Heap

end Stepwise
