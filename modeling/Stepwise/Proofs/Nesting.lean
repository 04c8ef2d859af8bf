import Stepwise.Proofs.Discipline.Run

/-!
# Scopes are closed in the reverse order of their opening

Closing a scope that is not the newest one does nothing, and nobody would notice. That this never happens is a fact
about whole runs: whatever completes has closed every scope it opened, so what is then to be closed is the newest
scope. It is carried by the discipline that asks for nothing but the order of scopes, which every discipline keeps.

A slot of a variable holds a scope to look from and a name, and the name is resolved again when the slot is written.
Since an expression declares nothing, this is the record that the name resolved to before.
-/

namespace Stepwise

set_option autoImplicit false

def Discipline.nesting (context : Context) : Discipline context :=
  .ofInvariant context (fun _ => True) fun _ => True

theorem State.invariant_true (context : Context) : State.Invariant context (fun _ => True) fun _ => True where
  holds _ := trivial
  bookkept _ _ := trivial
  recorded _ _ _ _ _ := trivial
  declared _ _ := trivial
  stored _ _ _ := ⟨trivial, trivial⟩
  allocated _ _ _ _ := ⟨trivial, trivial⟩
  opened _ _ := trivial
  entered _ _ := trivial
  left _ _ _ := trivial
  framed _ _ := trivial

theorem Discipline.nesting_laws (context : Context) : (nesting context).Laws :=
  (State.invariant_true context).laws

/-- A computation that completes leaves the number of scopes, the current scope and the call stack as they were; every
scope that it closes is the newest one at the time, so that exactly this one is taken away. -/
structure Machine.Balanced {α : Type} (computation : Machine α) (start : State) : Prop where
  size : ∀ {result final}, computation.run start = .ok result final → final.scopes.size = start.scopes.size
  current : ∀ {result final}, computation.run start = .ok result final → final.current = start.current
  frames : ∀ {result final}, computation.run start = .ok result final → final.frames = start.frames
  closing : ∀ {scope state}, computation.marks start (.closing scope) state →
    scope + 1 = state.scopes.size ∧ state.scopes.released scope = { records := state.scopes.records.pop }

/-- The expressions that write to a variable, each with the operand that is evaluated before. -/
inductive Expr.WritesTo (name : String) : Expr → Option Expr → Prop
  | assign (line nameLine : Nat) (value : Expr) : WritesTo name (.assign line (.name nameLine name) value) (some value)
  | compound (line nameLine : Nat) (operator : String) (value : Expr) :
      WritesTo name (.compound line (.name nameLine name) operator value) (some value)
  | update (line : Nat) (form : UpdateForm) (operator : String) (nameLine : Nat) :
      WritesTo name (.update line form operator nameLine name) none

/-- A record that binds a name got a value under it, and nothing else changed. -/
def Scopes.Stores (before : Scopes) (owner : Nat) (name : String) (after : Scopes) : Prop :=
  ∃ scope stored, before.get? owner = some scope ∧ (scope.find? name).isSome ∧
    after = before.replaced owner (scope.store name stored)

theorem Scopes.released_of_newest {scopes : Scopes} {handle : Nat} (newest : handle + 1 = scopes.size) :
    scopes.released handle = { records := scopes.records.pop } := by
  rw [released, if_pos newest]

namespace Machine

theorem ofName_eq_ok {name : String} {slot : Slot} {start final : State}
    (ended : (Slot.ofName name).run start = .ok slot final) : final = start ∧ slot = .binding start.current name := by
  obtain ⟨seen, middle, looked, rest⟩ := run_bind_eq_ok.mp ended
  cases looked
  obtain ⟨owner, after, resolved, yielded⟩ := run_bind_eq_ok.mp rest
  have same : after = start := (ReadsOnly.ofOutcome _).state_of_ok resolved
  cases yielded
  exact ⟨same, rfl⟩

theorem store_eq_ok {options : Options} {line : Nat} {slot : Slot} {value stored : Value} {start final : State}
    (ended : (store options line slot value).run start = .ok stored final) :
    ∃ written, slot.Written value start stored written ∧ final = written.recorded options line none none := by
  obtain ⟨result, written, wrote, rest⟩ := run_bind_eq_ok.mp ended
  obtain ⟨nothing, after, recorded, yielded⟩ := run_bind_eq_ok.mp rest
  rw [run_record] at recorded
  split at recorded
  · cases recorded
  · cases recorded
    cases yielded
    exact ⟨written, Slot.written_of_run wrote, rfl⟩

theorem storeCompound_eq_ok {options : Options} {line : Nat} {operator : String} {slot : Slot}
    {current operand stored : Value} {start final : State}
    (ended : (storeCompound options line operator slot current operand).run start = .ok stored final) :
    ∃ result narrowed written, Value.binary start.heap line (compoundOperator operator) current operand = .ok result ∧
      current.narrowedLike result = .ok narrowed ∧ slot.Written narrowed start stored written ∧
      final = written.recorded options line none none := by
  obtain ⟨seen, same, looked, ended⟩ := run_bind_eq_ok.mp ended
  cases looked
  obtain ⟨result, same, applied, ended⟩ := run_bind_eq_ok.mp ended
  obtain ⟨computed, rfl⟩ := run_ofOutcome_eq_ok.mp applied
  obtain ⟨narrowed, same, cast, ended⟩ := run_bind_eq_ok.mp ended
  obtain ⟨narrows, rfl⟩ := run_ofOutcome_eq_ok.mp cast
  obtain ⟨written, effect, recorded⟩ := store_eq_ok ended
  exact ⟨result, narrowed, written, computed, narrows, effect, recorded⟩

/-- Writing to a variable that is seen from a scope stores into the record that its name resolves to. -/
theorem stores_of_written {scope : Nat} {name : String} {value stored : Value} {start written : State}
    (effect : (Slot.binding scope name).Written value start stored written) :
    ∃ owner, start.scopes.resolve scope name = .ok owner ∧ start.scopes.Stores owner name written.scopes := by
  cases effect with
  | binding assigned =>
      obtain ⟨owner, record, found, resolved, present, there, -, changed⟩ := Scopes.assign_eq_ok assigned
      refine ⟨owner, resolved, record, stored, present, ?_, changed⟩
      rw [there]
      rfl

theorem stores_of_store {options : Options} {line scope : Nat} {name : String} {value stored : Value}
    {start final : State}
    (ended : (store options line (.binding scope name) value).run start = .ok stored final) :
    ∃ owner, start.scopes.resolve scope name = .ok owner ∧ start.scopes.Stores owner name final.scopes := by
  obtain ⟨written, effect, rfl⟩ := store_eq_ok ended
  have stores := stores_of_written effect
  exact stores

theorem stores_of_storeCompound {options : Options} {line scope : Nat} {name operator : String}
    {current operand stored : Value} {start final : State}
    (ended : (storeCompound options line operator (.binding scope name) current operand).run start =
      .ok stored final) :
    ∃ owner, start.scopes.resolve scope name = .ok owner ∧ start.scopes.Stores owner name final.scopes := by
  obtain ⟨result, narrowed, written, -, -, effect, rfl⟩ := storeCompound_eq_ok ended
  have stores := stores_of_written effect
  exact stores

theorem stores_of_updateVariable {options : Options} {line : Nat} {form : UpdateForm} {operator name : String}
    {result : Value} {start final : State}
    (ended : (updateVariable options line form operator name).run start = .ok result final) :
    ∃ owner, start.scopes.resolve start.current name = .ok owner ∧ start.scopes.Stores owner name final.scopes := by
  obtain ⟨seen, middle, looked, rest⟩ := run_bind_eq_ok.mp ended
  cases looked
  obtain ⟨current, first, found, rest⟩ := run_bind_eq_ok.mp rest
  obtain ⟨next, second, stepped, rest⟩ := run_bind_eq_ok.mp rest
  obtain ⟨stored, last, wrote, yielded⟩ := run_bind_eq_ok.mp rest
  have sameFirst : first = start := (ReadsOnly.read _).state_of_ok found
  have sameSecond : second = first := (ReadsOnly.ofOutcome _).state_of_ok stepped
  rw [sameSecond, sameFirst] at wrote
  cases yielded
  exact stores_of_store wrote

end Machine

/-- What evaluation, begun in a state with room for so many more frames, does to the scopes. -/
structure Context.KeepsScopes (context : Context) (room : Nat) (state : State) : Prop where
  statement : ∀ statement : Stmt, (statement.exec context (Calls.within context room)).Balanced state
  expression : ∀ expression : Expr, (expression.eval context (Calls.within context room)).Balanced state
  call : ∀ method className arguments line, context.Declares method className →
    ((Calls.within context room).invoke method className arguments line).Balanced state
  creation : ∀ decl, context.program.class? decl.name = some decl →
    ((Calls.within context room).instantiate decl).Balanced state
  /-- An expression leaves of every record the scope around it, the names it binds, in order, and their types. -/
  shapes : ∀ (expression : Expr) value final,
    (expression.eval context (Calls.within context room)).run state = .ok value final →
    ∀ handle, final.scopes.shape? handle = state.scopes.shape? handle
  /-- A variable is written where its name was bound before the operand was evaluated. -/
  writing : ∀ name expression operand value final, Expr.WritesTo name expression operand →
    (expression.eval context (Calls.within context room)).run state = .ok value final →
    ∃ owner middle, state.scopes.resolve state.current name = .ok owner ∧
      (Expr.evalUpdate context (Calls.within context room) operand).run state = .ok () middle ∧
      middle.scopes.Stores owner name final.scopes

section Reachable

variable {context : Context} {state : State} {room : Nat}

theorem Context.Reaches.placed (reached : context.Reaches state) : state.Placed :=
  (((State.invariant_true context).runs trivial).passing state reached).1

theorem Machine.balanced_of_obeys {free : Option Nat} {α : Type} {computation : Machine α}
    {required : State → α → Prop} (obeys : (Discipline.nesting context).Obeys free room state computation required) :
    computation.Balanced state := by
  have upholds := obeys fun _ _ _ => trivial
  have restores : ∀ {result final}, computation.run state = .ok result final → State.Restores free state final :=
    fun ended => (upholds.ending _ _ ended).1.restores
  refine ⟨fun ended => (restores ended).size, fun ended => (restores ended).current,
    fun ended => (restores ended).frames, fun marked => ?_⟩
  have newest := upholds.marking _ _ marked
  exact ⟨newest, Scopes.released_of_newest newest⟩

theorem Discipline.nesting_obeysCalls (context : Context) (room : Nat) :
    (nesting context).ObeysCalls room (Calls.within context room) :=
  obeysCalls_within (nesting_laws context) (fun _ _ => trivial) (fun _ _ => trivial) room

theorem Stmt.obeys_exec (placed : state.Placed) (room : Nat) (statement : Stmt) :
    (Discipline.nesting context).Obeys (some state.current) room state
      (statement.exec context (Calls.within context room)) (Discipline.nesting context).completion :=
  Discipline.executes_statement (Discipline.nesting_laws context) (Discipline.nesting_obeysCalls context room)
    statement (fun _ _ => trivial) (fun _ _ => trivial) state ⟨placed, trivial⟩

theorem Expr.obeys_eval (placed : state.Placed) (room : Nat) (expression : Expr) :
    (Discipline.nesting context).Obeys none room state
      (expression.eval context (Calls.within context room)) (Discipline.nesting context).value :=
  Discipline.evaluates_of_known (Discipline.nesting_laws context) (Discipline.nesting_obeysCalls context room)
    (fun _ _ => trivial) state ⟨placed, trivial⟩

theorem Expr.follows_eval {expression : Expr} {value : Value} {final : State} (placed : state.Placed)
    (ended : (expression.eval context (Calls.within context room)).run state = .ok value final) :
    (Discipline.nesting context).Follows none room state final :=
  ((expression.obeys_eval placed room fun _ _ _ => trivial).ending _ _ ended).1

/-- An expression declares nothing: every record keeps the scope around it, the names it binds and their types. -/
theorem Expr.shape?_eval {expression : Expr} {value : Value} {final : State} (placed : state.Placed)
    (ended : (expression.eval context (Calls.within context room)).run state = .ok value final) (handle : Nat) :
    final.scopes.shape? handle = state.scopes.shape? handle :=
  (Expr.follows_eval placed ended).restores.shapes handle nofun

theorem Expr.resolve_eval {expression : Expr} {value : Value} {final : State} (placed : state.Placed)
    (ended : (expression.eval context (Calls.within context room)).run state = .ok value final) (handle : Nat)
    (name : String) : final.scopes.resolve handle name = state.scopes.resolve handle name :=
  Scopes.resolve_congr (Expr.follows_eval placed ended).restores.size (Expr.shape?_eval placed ended) handle name

/-- What is written is the record that the name resolved to before the operand was evaluated. -/
theorem Expr.WritesTo.stores {expression : Expr} {operand : Option Expr} {name : String} {result : Value}
    {final : State} (writes : expression.WritesTo name operand) (placed : state.Placed)
    (ended : (expression.eval context (Calls.within context room)).run state = .ok result final) :
    ∃ owner middle, state.scopes.resolve state.current name = .ok owner ∧
      (Expr.evalUpdate context (Calls.within context room) operand).run state = .ok () middle ∧
      middle.scopes.Stores owner name final.scopes := by
  rw [Expr.eval.eq_def] at ended
  obtain ⟨_, _, marked, ended⟩ := Machine.run_bind_eq_ok.mp ended
  cases marked
  cases writes with
  | assign line nameLine value =>
      obtain ⟨slot, same, located, ended⟩ := Machine.run_bind_eq_ok.mp ended
      rw [Expr.locate.eq_1] at located
      obtain ⟨rfl, rfl⟩ := Machine.ofName_eq_ok located
      obtain ⟨given, middle, evaluated, ended⟩ := Machine.run_bind_eq_ok.mp ended
      obtain ⟨owner, resolved, stores⟩ := Machine.stores_of_store ended
      rw [Expr.resolve_eval placed evaluated] at resolved
      refine ⟨owner, middle, resolved, ?_, stores⟩
      exact Machine.run_bind_eq_ok.mpr ⟨given, middle, evaluated, rfl⟩
  | compound line nameLine operator value =>
      obtain ⟨slot, same, located, ended⟩ := Machine.run_bind_eq_ok.mp ended
      rw [Expr.locate.eq_1] at located
      obtain ⟨rfl, rfl⟩ := Machine.ofName_eq_ok located
      obtain ⟨current, first, found, ended⟩ := Machine.run_bind_eq_ok.mp ended
      obtain rfl : first = same := (Machine.ReadsOnly.read _).state_of_ok found
      obtain ⟨given, middle, evaluated, ended⟩ := Machine.run_bind_eq_ok.mp ended
      obtain ⟨owner, resolved, stores⟩ := Machine.stores_of_storeCompound ended
      rw [Expr.resolve_eval placed evaluated] at resolved
      refine ⟨owner, middle, resolved, ?_, stores⟩
      exact Machine.run_bind_eq_ok.mpr ⟨given, middle, evaluated, rfl⟩
  | update line form operator nameLine =>
      obtain ⟨owner, resolved, stores⟩ := Machine.stores_of_updateVariable ended
      exact ⟨owner, state, resolved, rfl, stores⟩

theorem State.Placed.keepsScopes (placed : state.Placed) (room : Nat) : context.KeepsScopes room state where
  statement statement := Machine.balanced_of_obeys (statement.obeys_exec placed room)
  expression expression := Machine.balanced_of_obeys (expression.obeys_eval placed room)
  call method className arguments line declared := by
    have obeys := (Discipline.nesting_obeysCalls context room).invoke line ⟨placed, trivial⟩ declared
      (fun _ (_ : _ ∈ arguments) => trivial)
    exact Machine.balanced_of_obeys obeys
  creation decl found := by
    have obeys := (Discipline.nesting_obeysCalls context room).instantiate ⟨placed, trivial⟩ found
    exact Machine.balanced_of_obeys obeys
  shapes _ _ _ ended := Expr.shape?_eval placed ended
  writing _ _ _ _ _ writes ended := writes.stores placed ended

end Reachable

/-- In every state of a run the scope around a scope is older, so that resolution ends; whatever is evaluated there and
completes, leaves the scopes as it found them; a scope that is closed is the newest; and a run that completes leaves
the global scope and no frame. -/
theorem scopes_closed_in_reverse_order (context : Context) :
    (∀ state, context.Reaches state →
      state.scopes.Nested ∧
      (∀ handle name bound, handle < state.scopes.size → handle < bound →
        state.scopes.resolveWithin name bound handle = state.scopes.resolve handle name) ∧
      ∀ room, context.KeepsScopes room state) ∧
    (∀ scope state, context.Marks (.closing scope) state →
      scope + 1 = state.scopes.size ∧ state.scopes.released scope = { records := state.scopes.records.pop }) ∧
    (∀ final, context.execute.run State.initial = .ok () final →
      final.scopes.size = 1 ∧ final.current = globalScope ∧ final.frames = []) := by
  have runs := (State.invariant_true context).runs trivial
  refine ⟨?_, ?_, ?_⟩
  · intro state reached
    have placed := reached.placed
    refine ⟨placed.nested, ?_, placed.keepsScopes⟩
    intro handle name bound inside enough
    exact placed.nested.resolveWithin_eq name enough (by omega)
  · intro scope state marked
    have newest := runs.marking _ _ marked
    exact ⟨newest, Scopes.released_of_newest newest⟩
  · intro final ended
    have restores := (runs.ending _ _ ended).restores
    exact ⟨restores.size, restores.current, restores.frames⟩

/-- A method with a block in a loop, which declares a variable in each of two rounds. -/
def Context.blocks : Context where
  options := { maxSteps := 20, mode := .all }
  program :=
    { classes :=
        [{ line := 1, name := "Main",
           body :=
             [.method
               { line := 2, returnType := "void", name := "main", params := [],
                 body :=
                   [.declare { line := 3, typeName := "int", name := "left", value := some (.int 3 2), isStatic := false },
                     .while_ 4 (.binary 4 (.name 4 "left") ">" (.int 4 0))
                       (.block 4
                         [.declare
                             { line := 5, typeName := "int", name := "part", value := some (.name 5 "left"),
                               isStatic := false },
                           .evaluate 6 (.update 6 .after "--" 6 "left")])] }] }] }

theorem blocks_closed :
    ∃ final, Context.blocks.execute.run State.initial = .ok () final ∧ final.steps.size = 8 ∧
      final.scopes.size = 1 ∧ final.current = globalScope ∧ final.frames = [] := by
  have yields : (Context.blocks.execute.run State.initial).value? = some () := by decide +kernel
  have counted : (Context.blocks.execute.run State.initial).state.steps.size = 8 := by decide +kernel
  obtain ⟨final, ended⟩ := Ending.exists_of_value? yields
  rw [ended] at counted
  exact ⟨final, ended, counted, (scopes_closed_in_reverse_order .blocks).2.2 final ended⟩

end Stepwise
