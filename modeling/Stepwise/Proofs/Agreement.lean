import Stepwise.Proofs.Heap
import Mathlib.Data.List.Nodup

/-!
# Agreement of data

Data agrees with other data when a comparison finds no difference. The data of a value agrees with itself, since a
double that is no number is shown by its text; the data of an object does if no two of its fields have the same name,
for fields are compared by name. No cell agrees with null, which stands for a cell that does not exist.

A heap as data has every cell under a name of its own.
-/

namespace Stepwise

set_option autoImplicit false

namespace Pairs

variable {α : Type}

theorem lookup_eq_some_iff_mem {pairs : List (String × α)} (distinct : (pairs.map Prod.fst).Nodup) {name : String}
    {thing : α} : pairs.lookup name = some thing ↔ (name, thing) ∈ pairs := by
  refine ⟨mem_of_lookup, fun member => ?_⟩
  obtain ⟨earlier, later, rfl⟩ := List.append_of_mem member
  rw [List.map_append, List.nodup_append] at distinct
  refine List.lookup_eq_some_iff.mpr ⟨earlier, later, rfl, fun pair before => ?_⟩
  exact bne_iff_ne.mpr (distinct.2.2 pair.1 (List.mem_map_of_mem before) name List.mem_cons_self).symm

theorem lookup_eq_none_iff_not_mem {pairs : List (String × α)} {name : String} :
    pairs.lookup name = none ↔ name ∉ pairs.map Prod.fst := by
  rw [List.lookup_eq_none_iff, List.mem_map]
  constructor
  · rintro apart ⟨pair, member, rfl⟩
    exact bne_iff_ne.mp (apart pair member) rfl
  · intro absent pair member
    exact bne_iff_ne.mpr fun same => absent ⟨pair, member, same.symm⟩

end Pairs

namespace Json

theorem agreesFields_iff {fields others : List (String × Json)} : agreesFields fields others = true ↔
    ∀ field ∈ fields, ∃ other, others.lookup field.1 = some other ∧ field.2.agrees other = true := by
  induction fields with
  | nil => simp [agreesFields]
  | cons field fields ih =>
      obtain ⟨name, data⟩ := field
      rw [agreesFields, Bool.and_eq_true, ih, List.forall_mem_cons]
      cases others.lookup name <;> simp

theorem agrees_object_iff {fields others : List (String × Json)} : (object fields).agrees (object others) = true ↔
    fields.length = others.length ∧
      ∀ field ∈ fields, ∃ other, others.lookup field.1 = some other ∧ field.2.agrees other = true := by
  rw [agrees, Bool.and_eq_true, decide_eq_true_eq, agreesFields_iff]

theorem agrees_object_self {fields : List (String × Json)} (distinct : (fields.map Prod.fst).Nodup)
    (each : ∀ field ∈ fields, field.2.agrees field.2 = true) : (object fields).agrees (object fields) = true :=
  agrees_object_iff.mpr
    ⟨rfl, fun field member => ⟨field.2, (Pairs.lookup_eq_some_iff_mem distinct).mpr member, each field member⟩⟩

theorem agrees_array_self {items : List Json} (each : ∀ item ∈ items, item.agrees item = true) :
    (array items).agrees (array items) = true := by
  rw [agrees]
  induction items with
  | nil => rfl
  | cons item items ih =>
      rw [agreesAll, Bool.and_eq_true]
      exact ⟨each item List.mem_cons_self, ih fun other member => each other (List.mem_cons_of_mem _ member)⟩

theorem agrees_string_self (text : Text) : (string text).agrees (string text) = true :=
  decide_eq_true rfl

end Json

theorem Value.agrees_shown (value : Value) : value.shown.agrees value.shown = true := by
  cases value with
  | int integer => exact decide_eq_true rfl
  | bool truth => exact decide_eq_true rfl
  | char char => exact Json.agrees_string_self _
  | string raw => exact Json.agrees_string_self raw
  | null => rfl
  | void => rfl
  | ref handle => exact Json.agrees_object_self (by simp) (by simp [Json.agrees_string_self])
  | class_ name methods =>
      refine Json.agrees_object_self (by simp) ?_
      simp [Json.agrees_string_self, Json.agrees_array_self]
  | double number =>
      rw [Value.shown]
      split
      · next negative mantissa shift parts =>
          have placed : (Number.Place.ofFloat number).same (.ofFloat number) = true := by
            rw [Number.Place.ofFloat, parts]
            exact decide_eq_true rfl
          exact placed
      · exact Json.agrees_string_self _

def Cell.Distinct : Cell → Prop
  | .array _ _ => True
  | .object _ fields => (fields.map Prod.fst).Nodup

theorem Cell.Distinct.agrees_shown {cell : Cell} (distinct : cell.Distinct) : cell.shown.agrees cell.shown = true := by
  cases cell with
  | array elementType values =>
      refine Json.agrees_object_self (by simp) ?_
      simp [Json.agrees_string_self, Json.agrees_array_self, Value.agrees_shown]
  | object className fields =>
      have own : (Json.object (fields.map fun field => (field.1, field.2.shown))).agrees
          (.object (fields.map fun field => (field.1, field.2.shown))) = true := by
        refine Json.agrees_object_self ?_ (List.forall_mem_map.mpr fun field _ => field.2.agrees_shown)
        rw [List.map_map]
        exact distinct
      refine Json.agrees_object_self (by simp) ?_
      simp [Json.agrees_string_self, own]

theorem Cell.not_null_agrees_shown (cell : Cell) : Json.null.agrees cell.shown = false := by
  cases cell <;> rfl

theorem Value.heapId_inj {handle other : Nat} (same : heapId handle = heapId other) : handle = other := by
  have digits := congrArg String.toList same
  rw [heapId, heapId, String.toList_append, String.toList_append, List.append_cancel_left_eq, Nat.toString_eq_repr,
    Nat.toString_eq_repr, Nat.toList_repr, Nat.toList_repr] at digits
  rw [← Nat.ofDigitChars_ten_toDigits (n := handle), digits, Nat.ofDigitChars_ten_toDigits]

namespace Heap

theorem nodup_names_shown (heap : Heap) : (heap.shown.map Prod.fst).Nodup := by
  rw [names_shown]
  exact List.nodup_range.map fun _ _ => Value.heapId_inj

theorem mem_shown {heap : Heap} {handle : Nat} {cell : Cell} (found : heap.get? handle = some cell) :
    (Value.heapId handle, cell.shown) ∈ heap.shown := by
  refine List.mem_of_getElem? (i := handle) ?_
  rw [getElem?_shown, found]
  rfl

theorem lookup_shown (heap : Heap) (handle : Nat) :
    heap.shown.lookup (Value.heapId handle) = (heap.get? handle).map Cell.shown := by
  cases found : heap.get? handle with
  | some cell => exact (Pairs.lookup_eq_some_iff_mem heap.nodup_names_shown).mpr (mem_shown found)
  | none =>
      refine Pairs.lookup_eq_none_iff_not_mem.mpr fun member => ?_
      rw [names_shown] at member
      obtain ⟨other, inside, same⟩ := List.mem_map.mp member
      rw [Value.heapId_inj same, List.mem_range, ← get?_isSome, found] at inside
      cases inside

end Heap

end Stepwise
