import Stepwise.Proofs.WellFormed

/-!
# Outlines, shown down to a depth

Showing an outline replaces what lies too deep by a marker. Where every record names its kind, and has no field of that
name, the kind can be told from the fields of what is shown. Then showing less is showing more and replacing again,
and what is shown without a loss can be shown of no other outline.
-/

namespace Stepwise

set_option autoImplicit false

namespace Json

/-- Data contains itself, and what its items and fields contain. -/
inductive Contains : Json → Json → Prop
  | self (data : Json) : Contains data data
  | item {items : List Json} {item part : Json} (member : item ∈ items) (inner : Contains item part) :
      Contains (.array items) part
  | field {fields : List (String × Json)} {field : String × Json} {part : Json} (member : field ∈ fields)
      (inner : Contains field.2 part) : Contains (.object fields) part

/-- Data that has neither items nor fields. -/
def IsScalar : Json → Prop
  | array _ | object _ => False
  | _ => True

/-- The data, with everything that lies at a depth replaced by the marker. An item or a field lies one deeper than what
it belongs to; the field that names a kind does not count and stays. -/
def markedAt : Nat → Json → Json
  | 0, _ => Outline.marker
  | depth + 1, array items => array (items.map (markedAt depth))
  | depth + 1, object fields =>
      object (fields.map fun field => if field.1 = "kind" then field else (field.1, markedAt depth field.2))
  | _ + 1, value => value

theorem IsScalar.markedAt_succ {value : Json} (scalar : value.IsScalar) (depth : Nat) :
    value.markedAt (depth + 1) = value := by
  cases value with
  | array items => exact scalar.elim
  | object fields => exact scalar.elim
  | _ => rfl

theorem contains_array_iff {part : Json} {items : List Json} :
    (array items).Contains part ↔ part = array items ∨ ∃ item ∈ items, item.Contains part := by
  constructor
  · intro contains
    cases contains with
    | self => exact .inl rfl
    | item member inner => exact .inr ⟨_, member, inner⟩
  · rintro (rfl | ⟨item, member, inner⟩)
    · exact .self _
    · exact .item member inner

theorem contains_object_iff {part : Json} {fields : List (String × Json)} :
    (object fields).Contains part ↔ part = object fields ∨ ∃ field ∈ fields, field.2.Contains part := by
  constructor
  · intro contains
    cases contains with
    | self => exact .inl rfl
    | field member inner => exact .inr ⟨_, member, inner⟩
  · rintro (rfl | ⟨field, member, inner⟩)
    · exact .self _
    · exact .field member inner

theorem IsScalar.contains_iff {part value : Json} (scalar : value.IsScalar) : value.Contains part ↔ part = value := by
  constructor
  · intro contains
    cases contains with
    | self => rfl
    | item member inner => exact False.elim scalar
    | field member inner => exact False.elim scalar
  · rintro rfl
    exact .self _

end Json

namespace Outline

/-- Something in an outline lies at a depth: the outline itself at depth zero, and an item of a list or a field of a
record one deeper than what it belongs to. -/
inductive HasAt : Outline → Nat → Prop
  | self (outline : Outline) : HasAt outline 0
  | item {items : List Outline} {item : Outline} {depth : Nat} (member : item ∈ items) (inner : HasAt item depth) :
      HasAt (list items) (depth + 1)
  | field {kind : Option String} {fields : List (String × Outline)} {field : String × Outline} {depth : Nat}
      (member : field ∈ fields) (inner : HasAt field.2 depth) : HasAt (record kind fields) (depth + 1)

/-- The outline has no more than so many levels, that of the root being the first. -/
def Within (levels : Nat) (outline : Outline) : Prop :=
  ∀ depth, outline.HasAt depth → depth < levels

/-- A leaf is scalar, and a record names its kind, as no field of it does. -/
def Tagged : Outline → Prop
  | leaf value => value.IsScalar
  | list _ => True
  | record kind fields => kind.isSome = true ∧ "kind" ∉ fields.map Prod.fst

theorem Within.item {count : Nat} {items : List Outline} (within : Within (count + 1) (list items)) :
    ∀ item ∈ items, Within count item :=
  fun _ member depth inner => Nat.lt_of_succ_lt_succ (within (depth + 1) (.item member inner))

theorem within_leaf (count : Nat) (value : Json) : Within (count + 1) (leaf value) := by
  rintro depth ⟨⟩
  exact Nat.succ_pos count

theorem within_record_iff {count : Nat} {kind : Option String} {fields : List (String × Outline)} :
    Within (count + 1) (record kind fields) ↔ ∀ field ∈ fields, Within count field.2 := by
  constructor
  · intro within field member depth inner
    exact Nat.lt_of_succ_lt_succ (within (depth + 1) (.field member inner))
  · intro each depth present
    cases present with
    | self => exact Nat.succ_pos count
    | field member inner => exact Nat.succ_lt_succ (each _ member _ inner)

theorem not_within_zero (outline : Outline) : ¬Within 0 outline :=
  fun within => Nat.not_lt_zero 0 (within 0 (.self outline))

/-- Shows so many levels of an outline, and the marker in place of what lies deeper. -/
def levels : Nat → Outline → Json
  | 0, _ => marker
  | count + 1, outline => outline.shown count

theorem levels_list (count : Nat) (items : List Outline) :
    (list items).levels (count + 1) = .array (items.map (levels count)) := by
  cases count <;> rfl

theorem levels_record (count : Nat) (kind : Option String) (fields : List (String × Outline)) :
    (record kind fields).levels (count + 1) =
      .object (kindField kind ++ fields.map fun field => (field.1, field.2.levels count)) := by
  cases count <;> rfl

theorem levels_leaf (count : Nat) (value : Json) : (leaf value).levels (count + 1) = value := by
  cases count <;> rfl

theorem upTo_eq_levels (depth : Int) (outline : Outline) : outline.upTo depth = outline.levels (depth + 1).toNat := by
  unfold upTo
  split
  · next below =>
      have none : (depth + 1).toNat = 0 := by omega
      rw [none, levels]
  · next inside =>
      have some : (depth + 1).toNat = depth.toNat + 1 := by omega
      rw [some, levels]

theorem markedAt_levels {outline : Outline} (tagged : outline.Throughout Tagged) {count more : Nat}
    (order : count ≤ more) : (outline.levels more).markedAt count = outline.levels count := by
  induction count generalizing outline more with
  | zero => rw [Json.markedAt, levels]
  | succ count ih =>
      obtain ⟨more, rfl⟩ := Nat.exists_eq_add_of_le' (Nat.le_trans (Nat.le_add_left 1 count) order)
      have fewer : count ≤ more := Nat.le_of_succ_le_succ order
      cases tagged with
      | @leaf value own => rw [levels_leaf, levels_leaf, own.markedAt_succ]
      | list own inner =>
          rw [levels_list, levels_list, Json.markedAt, List.map_map]
          exact congrArg Json.array (List.map_congr_left fun item member => ih (inner item member) fewer)
      | @record kind fields own inner =>
          obtain ⟨name, rfl⟩ := Option.isSome_iff_exists.mp own.1
          rw [levels_record, levels_record, Json.markedAt, List.map_append, List.map_map]
          refine congrArg Json.object (congrArg _ (List.map_congr_left fun field member => ?_))
          have apart : field.1 ≠ "kind" := fun same => own.2 (same ▸ List.mem_map_of_mem member)
          exact (if_neg apart).trans (congrArg (Prod.mk field.1) (ih (inner field member) fewer))

theorem not_contains_marker {outline : Outline} (tagged : outline.Throughout Tagged) {count : Nat}
    (within : outline.Within count) : ¬(outline.levels count).Contains marker := by
  induction count generalizing outline with
  | zero => exact absurd within outline.not_within_zero
  | succ count ih =>
      cases tagged with
      | @leaf value own =>
          rw [levels_leaf, own.contains_iff]
          rintro rfl
          exact own
      | @list items own inner =>
          rw [levels_list, Json.contains_array_iff]
          rintro (⟨⟨⟩⟩ | ⟨item, member, contains⟩)
          obtain ⟨part, present, rfl⟩ := List.mem_map.mp member
          exact ih (inner part present) (within.item part present) contains
      | @record kind fields own inner =>
          obtain ⟨name, rfl⟩ := Option.isSome_iff_exists.mp own.1
          rw [levels_record, Json.contains_object_iff]
          rintro (same | ⟨field, member, contains⟩)
          · obtain ⟨first, -⟩ := List.cons.inj (Json.object.inj same)
            cases (Prod.mk.inj first).2
          · rcases List.mem_append.mp member with tag | member
            · rw [List.mem_singleton.mp tag] at contains
              cases contains
            · obtain ⟨part, present, rfl⟩ := List.mem_map.mp member
              exact ih (inner part present) (within_record_iff.mp within part present) contains

theorem eq_of_map_eq {α β : Type} {change : α → β} {ones others : List α}
    (each : ∀ one ∈ ones, ∀ other ∈ others, change one = change other → one = other)
    (same : ones.map change = others.map change) : ones = others := by
  induction ones generalizing others with
  | nil => exact (List.map_eq_nil_iff.mp same.symm).symm
  | cons one ones ih =>
      cases others with
      | nil => cases same
      | cons other others =>
          obtain ⟨first, later⟩ := List.cons.inj same
          rw [each one List.mem_cons_self other List.mem_cons_self first, ih ?_ later]
          exact fun one member other present =>
            each one (List.mem_cons_of_mem _ member) other (List.mem_cons_of_mem _ present)

/-- What is shown without a loss is shown of one outline only. -/
theorem eq_of_levels_eq {outline other : Outline} (tagged : outline.Throughout Tagged)
    (otherTagged : other.Throughout Tagged) {count : Nat} (within : outline.Within count)
    (same : outline.levels count = other.levels count) : outline = other := by
  induction count generalizing outline other with
  | zero => exact absurd within outline.not_within_zero
  | succ count ih =>
      cases tagged with
      | @leaf value own =>
          rw [levels_leaf] at same
          subst same
          cases otherTagged with
          | leaf otherOwn => rw [levels_leaf]
          | list otherOwn otherInner =>
              rw [levels_list] at own
              exact own.elim
          | record otherOwn otherInner =>
              rw [levels_record] at own
              exact own.elim
      | @list items own inner =>
          rw [levels_list] at same
          cases otherTagged with
          | leaf otherOwn =>
              rw [levels_leaf] at same
              subst same
              exact otherOwn.elim
          | list otherOwn otherInner =>
              rw [levels_list] at same
              refine congrArg list (eq_of_map_eq (fun item member other present => ?_) (Json.array.inj same))
              exact ih (inner item member) (otherInner other present) (within.item item member)
          | record otherOwn otherInner =>
              rw [levels_record] at same
              cases same
      | @record kind fields own inner =>
          obtain ⟨name, rfl⟩ := Option.isSome_iff_exists.mp own.1
          rw [levels_record] at same
          cases otherTagged with
          | leaf otherOwn =>
              rw [levels_leaf] at same
              subst same
              exact otherOwn.elim
          | list otherOwn otherInner =>
              rw [levels_list] at same
              cases same
          | record otherOwn otherInner =>
              obtain ⟨otherName, rfl⟩ := Option.isSome_iff_exists.mp otherOwn.1
              rw [levels_record] at same
              obtain ⟨tag, parts⟩ := List.cons.inj (Json.object.inj same)
              obtain rfl := Text.ofString_inj.mp (Json.string.inj (Prod.mk.inj tag).2)
              refine congrArg (record _) (eq_of_map_eq (fun field member other present shown => ?_) parts)
              obtain ⟨named, held⟩ := Prod.mk.inj shown
              exact Prod.ext named
                (ih (inner field member) (otherInner other present) (within_record_iff.mp within field member) held)

end Outline

end Stepwise
