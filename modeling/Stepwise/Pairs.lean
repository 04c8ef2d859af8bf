/-!
Lists of named things in the order in which the names came up.
-/

namespace Stepwise.Pairs

set_option autoImplicit false

variable {α : Type}

/-- Replaces the thing of a name, or adds it at the end if the name is new. -/
def put (name : String) (thing : α) : List (String × α) → List (String × α)
  | [] => [(name, thing)]
  | (other, present) :: rest =>
      if other = name then (other, thing) :: rest else (other, present) :: put name thing rest

theorem lookup_put_self (name : String) (thing : α) (pairs : List (String × α)) :
    (put name thing pairs).lookup name = some thing := by
  induction pairs with
  | nil => simp [put]
  | cons pair rest ih =>
      obtain ⟨other, present⟩ := pair
      by_cases same : other = name
      · simp [put, same]
      · have differs : (name == other) = false := by simpa using Ne.symm same
        simp [put, same, List.lookup_cons, differs, ih]

theorem lookup_put_of_ne (name key : String) (thing : α) (pairs : List (String × α)) (differs : key ≠ name) :
    (put name thing pairs).lookup key = pairs.lookup key := by
  induction pairs with
  | nil => simp [put, differs]
  | cons pair rest ih =>
      obtain ⟨other, present⟩ := pair
      by_cases same : other = name
      · have apart : (key == name) = false := by simpa using differs
        simp [put, same, List.lookup_cons, apart]
      · simp [put, same, List.lookup_cons, ih]

theorem mem_of_lookup {name : String} {thing : α} {pairs : List (String × α)} (found : pairs.lookup name = some thing) :
    (name, thing) ∈ pairs := by
  obtain ⟨earlier, later, rfl, -⟩ := List.lookup_eq_some_iff.mp found
  exact List.mem_append_right _ List.mem_cons_self

theorem put_cases (name : String) (thing : α) (pairs : List (String × α)) :
    (∃ earlier old later, pairs = earlier ++ (name, old) :: later ∧
      put name thing pairs = earlier ++ (name, thing) :: later) ∨
    (name ∉ pairs.map Prod.fst ∧ put name thing pairs = pairs ++ [(name, thing)]) := by
  induction pairs with
  | nil => exact .inr ⟨List.not_mem_nil, rfl⟩
  | cons pair rest hypothesis =>
      obtain ⟨other, present⟩ := pair
      rw [put]
      by_cases same : other = name
      · subst same
        exact .inl ⟨[], present, rest, rfl, if_pos rfl⟩
      · rw [if_neg same]
        rcases hypothesis with ⟨earlier, old, later, split, put⟩ | ⟨fresh, put⟩
        · exact .inl ⟨(other, present) :: earlier, old, later, by rw [split]; rfl, by rw [put]; rfl⟩
        · refine .inr ⟨?_, by rw [put]; rfl⟩
          simp only [List.map_cons, List.mem_cons, not_or]
          exact ⟨fun equal => same equal.symm, fresh⟩

theorem names_put (name : String) (thing : α) (pairs : List (String × α)) :
    pairs.map Prod.fst <+: (put name thing pairs).map Prod.fst := by
  rcases put_cases name thing pairs with ⟨earlier, old, later, split, put⟩ | ⟨-, put⟩
  · rw [put, split]
    simp
  · rw [put, List.map_append]
    exact List.prefix_append _ _

theorem name_mem_put (name : String) (thing : α) (pairs : List (String × α)) :
    name ∈ (put name thing pairs).map Prod.fst :=
  List.mem_map_of_mem (mem_of_lookup (lookup_put_self name thing pairs))

theorem mem_put {name : String} {thing : α} {pairs : List (String × α)} {pair : String × α}
    (member : pair ∈ put name thing pairs) : pair = (name, thing) ∨ pair ∈ pairs := by
  rcases put_cases name thing pairs with ⟨earlier, old, later, split, replaced⟩ | ⟨-, added⟩
  · rw [replaced, List.mem_append, List.mem_cons] at member
    rw [split]
    rcases member with before | same | after
    · exact .inr (List.mem_append_left _ before)
    · exact .inl same
    · exact .inr (List.mem_append_right _ (List.mem_cons_of_mem _ after))
  · rw [added, List.mem_append, List.mem_singleton] at member
    rcases member with before | same
    · exact .inr before
    · exact .inl same

end Stepwise.Pairs
