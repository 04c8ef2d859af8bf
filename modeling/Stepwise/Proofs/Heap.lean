import Stepwise.Step

/-!
# The heap from state to state

A cell continues another if it is of the same kind: an array with the same element type and length, or an object of
the same class whose fields are those it had, in order, and perhaps more after them. Adding a cell, writing an element
and writing a field all lead to a heap whose cells continue those there were.

The same changes are described on the heap as data, where a cell is found under its name.
-/

namespace Stepwise

set_option autoImplicit false

inductive Cell.Continues : Cell → Cell → Prop
  | array {elementType : String} {values others : Array Value} (length : others.size = values.size) :
      Continues (.array elementType values) (.array elementType others)
  | object {className : String} {fields others : List (String × Value)}
      (names : fields.map Prod.fst <+: others.map Prod.fst) :
      Continues (.object className fields) (.object className others)

theorem Cell.Continues.refl (cell : Cell) : cell.Continues cell := by
  cases cell with
  | array elementType values => exact .array rfl
  | object className fields => exact .object (List.prefix_refl _)

theorem Cell.Continues.trans {first second third : Cell} (one : first.Continues second)
    (two : second.Continues third) : first.Continues third := by
  cases one with
  | array length =>
      cases two with
      | array later => exact .array (later.trans length)
  | object names =>
      cases two with
      | object later => exact .object (names.trans later)

/-- Every cell of the one heap is continued by the cell under the same handle in the other. -/
def Heap.Continues (before after : Heap) : Prop :=
  ∀ handle cell, before.get? handle = some cell → ∃ later, after.get? handle = some later ∧ cell.Continues later

def Heap.Hold (known : Cell → Prop) (heap : Heap) : Prop :=
  ∀ handle cell, heap.get? handle = some cell → known cell

def shownArray (elementType : String) (values : List Json) : Json :=
  .object [("type", .string "array"), ("elementType", .string elementType), ("values", .array values)]

def shownObject (className : String) (fields : List (String × Json)) : Json :=
  .object [("type", .string "object"), ("className", .string className), ("fields", .object fields)]

namespace Heap

theorem get?_isSome {heap : Heap} {handle : Nat} : (heap.get? handle).isSome ↔ handle < heap.size := by
  simp [get?, size]

theorem lt_size_of_get? {heap : Heap} {handle : Nat} {cell : Cell} (found : heap.get? handle = some cell) :
    handle < heap.size :=
  get?_isSome.mp (by rw [found]; rfl)

theorem hold_empty {known : Cell → Prop} : empty.Hold known := by
  intro handle cell found
  simp [empty, get?] at found

theorem Hold.allocate {known : Cell → Prop} {heap : Heap} (hold : heap.Hold known) {cell : Cell} (new : known cell) :
    (heap.allocate cell).Hold known := by
  intro handle found there
  rcases get?_allocate_cases there with rfl | before
  · exact new
  · exact hold handle found before

theorem Hold.set {known : Cell → Prop} {heap : Heap} (hold : heap.Hold known) (handle : Nat) {cell : Cell}
    (new : known cell) : (heap.set handle cell).Hold known := by
  intro other found there
  rcases get?_set_cases there with rfl | before
  · exact new
  · exact hold other found before

theorem Continues.refl (heap : Heap) : heap.Continues heap :=
  fun _ cell found => ⟨cell, found, .refl cell⟩

theorem Continues.trans {first second third : Heap} (one : first.Continues second) (two : second.Continues third) :
    first.Continues third := by
  intro handle cell found
  obtain ⟨next, foundNext, continues⟩ := one handle cell found
  obtain ⟨last, foundLast, further⟩ := two handle next foundNext
  exact ⟨last, foundLast, continues.trans further⟩

theorem Continues.lt_size {before after : Heap} (continues : before.Continues after) {handle : Nat}
    (inside : handle < before.size) : handle < after.size := by
  obtain ⟨cell, found⟩ := Option.isSome_iff_exists.mp (get?_isSome.mpr inside)
  obtain ⟨later, foundLater, -⟩ := continues handle cell found
  exact lt_size_of_get? foundLater

theorem Continues.size_le {before after : Heap} (continues : before.Continues after) : before.size ≤ after.size :=
  Nat.le_of_not_lt fun shrunk => Nat.lt_irrefl _ (continues.lt_size shrunk)

theorem continues_allocate (heap : Heap) (cell : Cell) : heap.Continues (heap.allocate cell) := by
  intro handle there found
  refine ⟨there, ?_, .refl there⟩
  rw [get?_allocate, if_neg (Nat.ne_of_lt (lt_size_of_get? found))]
  exact found

theorem continues_set {heap : Heap} {handle : Nat} {before after : Cell} (found : heap.get? handle = some before)
    (continues : before.Continues after) : heap.Continues (heap.set handle after) := by
  intro other cell there
  rw [get?_set]
  by_cases same : handle = other
  · subst same
    rw [there] at found
    cases found
    exact ⟨after, by rw [if_pos rfl, if_pos (lt_size_of_get? there)], continues⟩
  · exact ⟨cell, by rw [if_neg same]; exact there, .refl cell⟩

theorem set_eq_self {heap : Heap} {handle : Nat} {cell : Cell} (found : heap.get? handle = some cell) :
    heap.set handle cell = heap := by
  unfold set
  congr 1
  apply Array.ext_getElem?
  intro other
  rw [Array.getElem?_setIfInBounds]
  split
  · next same =>
      subst same
      have inside : handle < heap.cells.size := lt_size_of_get? found
      rw [if_pos inside]
      exact found.symm
  · rfl

theorem getElem?_shown (heap : Heap) (handle : Nat) :
    heap.shown[handle]? = (heap.get? handle).map fun cell => (Value.heapId handle, cell.shown) := by
  simp only [shown, List.getElem?_map, List.getElem?_zipIdx, get?, Array.getElem?_toList, Nat.zero_add,
    Option.map_map]
  rfl

@[simp] theorem length_shown (heap : Heap) : heap.shown.length = heap.size := by
  simp [shown, size]

theorem shown_allocate (heap : Heap) (cell : Cell) :
    (heap.allocate cell).shown = heap.shown ++ [(Value.heapId heap.size, cell.shown)] := by
  apply List.ext_getElem?
  intro handle
  rw [getElem?_shown, get?_allocate, List.getElem?_append, length_shown]
  by_cases old : handle < heap.size
  · rw [if_neg (Nat.ne_of_lt old), if_pos old, getElem?_shown]
  · rw [if_neg old, List.getElem?_singleton]
    by_cases new : handle = heap.size
    · rw [if_pos new, if_pos (by omega), new]
      rfl
    · have absent : heap.get? handle = none := by
        rw [← Option.not_isSome_iff_eq_none, get?_isSome]
        exact old
      rw [if_neg new, if_neg (by omega), absent]
      rfl

theorem shown_set {heap : Heap} {handle : Nat} (inside : handle < heap.size) (cell : Cell) :
    (heap.set handle cell).shown = heap.shown.set handle (Value.heapId handle, cell.shown) := by
  apply List.ext_getElem?
  intro other
  rw [getElem?_shown, get?_set, List.getElem?_set, length_shown]
  by_cases same : handle = other
  · subst same
    rw [if_pos rfl, if_pos rfl, if_pos inside, if_pos inside]
    rfl
  · rw [if_neg same, if_neg same, getElem?_shown]

theorem names_shown (heap : Heap) : heap.shown.map Prod.fst = (List.range heap.size).map Value.heapId := by
  apply List.ext_getElem?
  intro handle
  rw [List.getElem?_map, getElem?_shown, List.getElem?_map]
  by_cases inside : handle < heap.size
  · obtain ⟨cell, found⟩ := Option.isSome_iff_exists.mp (get?_isSome.mpr inside)
    rw [found, List.getElem?_range inside]
    rfl
  · have absent : heap.get? handle = none := by
      rw [← Option.not_isSome_iff_eq_none, get?_isSome]
      exact inside
    rw [absent, List.getElem?_eq_none (by simpa using inside)]
    rfl

end Heap

end Stepwise
