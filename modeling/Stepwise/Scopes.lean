import Stepwise.Value.Conversion

/-!
Scopes: records of bindings, addressed by handle, each with the scope around it. A name is looked up in a scope and
then in the scopes around it; what is stored under a declared type is converted to it. Scopes are closed in the
reverse order of their opening, so closing only ever takes away the newest record.
-/

namespace Stepwise

set_option autoImplicit false

structure Binding where
  name : String
  value : Value
  typeName : Option String
  deriving DecidableEq, Repr

structure Scope where
  parent : Option Nat
  bindings : List Binding
  deriving DecidableEq, Repr

namespace Scope

def find? (scope : Scope) (name : String) : Option Binding :=
  scope.bindings.find? fun binding => binding.name = name

def store (scope : Scope) (name : String) (value : Value) : Scope :=
  { scope with
    bindings := scope.bindings.map fun binding =>
      if binding.name = name then { binding with value } else binding }

def bind (scope : Scope) (binding : Binding) : Scope :=
  { scope with bindings := scope.bindings ++ [binding] }

end Scope

structure Scopes where
  records : Array Scope
  deriving DecidableEq, Repr

namespace Scopes

def empty : Scopes := { records := #[] }

def size (scopes : Scopes) : Nat := scopes.records.size

def get? (scopes : Scopes) (handle : Nat) : Option Scope := scopes.records[handle]?

def opened (scopes : Scopes) (parent : Option Nat) : Scopes :=
  { records := scopes.records.push { parent, bindings := [] } }

/-- Closes a scope if it is the newest one. -/
def released (scopes : Scopes) (handle : Nat) : Scopes :=
  if handle + 1 = scopes.size then { records := scopes.records.pop } else scopes

/-- Walks from a scope outwards to the first one that binds a name, over at most so many scopes. -/
def resolveWithin (scopes : Scopes) (name : String) : Nat → Nat → Except Failure Nat
  | 0, _ => .error (.bare (.unknownName name))
  | bound + 1, handle =>
      match scopes.get? handle with
      | none => .error (.fault .missingHandle)
      | some scope =>
          if (scope.find? name).isSome then .ok handle
          else
            match scope.parent with
            | none => .error (.bare (.unknownName name))
            | some parent => resolveWithin scopes name bound parent

/-- The scope that binds a name, seen from a scope. A chain of scopes is never longer than their number. -/
def resolve (scopes : Scopes) (handle : Nat) (name : String) : Except Failure Nat :=
  scopes.resolveWithin name (scopes.size + 1) handle

def binding (scopes : Scopes) (handle : Nat) (name : String) : Except Failure (Nat × Scope × Binding) :=
  match scopes.resolve handle name with
  | .error failure => .error failure
  | .ok owner =>
      match scopes.get? owner with
      | none => .error (.fault .missingHandle)
      | some scope =>
          match scope.find? name with
          | none => .error (.bare (.unknownName name))
          | some found => .ok (owner, scope, found)

def lookup (scopes : Scopes) (handle : Nat) (name : String) : Except Failure Value :=
  match scopes.binding handle name with
  | .error failure => .error failure
  | .ok (_, _, found) => .ok found.value

/-- Declares a name in a scope, and yields the value it got. -/
def declare (scopes : Scopes) (handle : Nat) (name : String) (value : Value) (typeName : Option String) :
    Except Failure (Value × Scopes) :=
  match scopes.get? handle with
  | none => .error (.fault .missingHandle)
  | some scope =>
      if (scope.find? name).isSome then .error (.bare (.duplicateName name))
      else
        match value.coerce typeName with
        | .error failure => .error failure
        | .ok stored =>
            let scope := scope.bind { name, value := stored, typeName }
            .ok (stored, { records := scopes.records.setIfInBounds handle scope })

/-- Assigns to a name where it is bound, and yields the value it got. -/
def assign (scopes : Scopes) (handle : Nat) (name : String) (value : Value) :
    Except Failure (Value × Scopes) :=
  match scopes.binding handle name with
  | .error failure => .error failure
  | .ok (owner, scope, found) =>
      match value.coerce found.typeName with
      | .error failure => .error failure
      | .ok stored => .ok (stored, { records := scopes.records.setIfInBounds owner (scope.store name stored) })

/-- The names a scope binds with their values, in the order of their declaration. -/
def snapshot (scopes : Scopes) (handle : Nat) : Except Failure (List (String × Value)) :=
  match scopes.get? handle with
  | none => .error (.fault .missingHandle)
  | some scope => .ok (scope.bindings.map fun binding => (binding.name, binding.value))

@[simp] theorem size_opened (scopes : Scopes) (parent : Option Nat) :
    (scopes.opened parent).size = scopes.size + 1 := by
  simp [size, opened]

theorem released_opened (scopes : Scopes) (parent : Option Nat) :
    (scopes.opened parent).released scopes.size = scopes := by
  simp [released, opened, size]

end Scopes

end Stepwise
