import Stepwise.Proofs.CompoundKinds

/-!
# The forms of updating a variable

Three forms of expressions write to a variable what they compute from it: a compound assignment, an assignment of the
same operation written out, and an operator that counts up or down. They go different ways. The compound assignment
reads the variable first, does not record its operation, and casts the result to the kind that was there before the
variable converts it to its declared type; where this type is numeric, conversion alone does the same. An operator that
counts computes on its own and records no operation either.
-/

namespace Stepwise

set_option autoImplicit false

namespace Number

open Float.Model

/-- Whether a double is positive, its mantissa and its exponent, if it is finite and not zero. -/
def finiteParts? : UnpackedFloat → Option (Bool × Nat × Int)
  | .finite sign mantissa exponent _ => some (sign == .positive, mantissa, exponent)
  | _ => none

theorem eq_finite_of_parts {unpacked : UnpackedFloat} {positive : Bool} {mantissa : Nat} {exponent : Int}
    (parts : finiteParts? unpacked = some (positive, mantissa, exponent)) :
    ∃ nonzero, unpacked = .finite (if positive then .positive else .negative) mantissa exponent nonzero := by
  cases unpacked with
  | finite sign m e nonzero =>
      cases parts
      refine ⟨nonzero, ?_⟩
      cases sign <;> rfl
  | infinity | notANumber | zero => cases parts

theorem add_minus_one (number : Float) : number + (-1.0) = number - 1.0 := by
  have minusParts : finiteParts? (-1.0 : Float).toModel.unpack = some (false, 2 ^ 52, -52) := by decide +kernel
  have oneParts : finiteParts? (1.0 : Float).toModel.unpack = some (true, 2 ^ 52, -52) := by decide +kernel
  obtain ⟨_, minus⟩ := eq_finite_of_parts minusParts
  obtain ⟨_, one⟩ := eq_finite_of_parts oneParts
  change Float.ofModel (Float.Model.pack (UnpackedFloat.add _ _ _)) =
    Float.ofModel (Float.Model.pack (UnpackedFloat.sub _ _ _))
  rw [minus, one]
  congr 2
  cases number.toModel.unpack with
  | notANumber => rfl
  | infinity sign => rfl
  | zero sign => rfl
  -- The two operations differ in the sign they give to the second mantissa, and so do the two numbers.
  | finite sign mantissa exponent _ => rfl

theorem ofInt?_one : Number.ofInt? 1 = some 1.0 := by decide +kernel

end Number

namespace Value

variable {typeName : Option String} {current result : Value}

/-- Where the declared type is one of integers or of doubles, the cast to the kind that was there adds nothing to the
conversion. -/
theorem coerce_narrowedLike {primitive : Primitive} (named : typeName.bind Primitive.ofName? = some primitive)
    (numeric : primitive = .integer ∨ primitive = .double) (fits : current.Fits typeName) (result : Value) :
    (current.narrowedLike result >>= fun narrowed => narrowed.coerce typeName) = result.coerce typeName := by
  unfold Fits coerce at *
  rw [named] at fits
  simp only [named]
  rcases numeric with rfl | rfl
  · cases current with
    | int integer =>
        cases result with
        | double number =>
            -- The cast is the conversion, and a second one changes nothing.
            simp only [narrowedLike]
            cases converted : coerceTo .integer (double number) with
            | error failure => rfl
            | ok stored => exact coerceTo_coerceTo converted
        | _ => rfl
    | char character => exact absurd (.tail _ (.head _)) ((coerceTo_eq_self_iff (by decide)).mp fits)
    | _ => rfl
  · cases current with
    | int integer => exact absurd (.head _) ((coerceTo_eq_self_iff (by decide)).mp fits)
    | char character => exact absurd (.tail _ (.head _)) ((coerceTo_eq_self_iff (by decide)).mp fits)
    | _ => rfl

/-- The value is a number with a neighbour at this distance: an integer, a double, or a character whose code plus the
distance is a code as well. -/
def HasNeighbour (distance : Int) : Value → Prop
  | int _ | double _ => True
  | char point => (CodePoint.ofCode? ((point.code : Int) + distance)).isSome
  | _ => False

/-- The operators that count, each with the compound assignment of one that does the same, and by how much. -/
inductive Counts : String → String → Int → Prop
  | up : Counts "++" "+=" 1
  | down : Counts "--" "-=" (-1)

/-- Counting computes what a compound assignment of one does. -/
theorem stepped_eq_narrowed {count combine : String} {distance : Int} (counts : Counts count combine distance)
    (near : current.HasNeighbour distance) (heap : Heap) (line : Nat) :
    ∃ next computed, current.stepped line count = .ok next ∧
      binary heap line (compoundOperator combine) current (.int 1) = .ok computed ∧
      current.narrowedLike computed = .ok next := by
  have named : ∃ operation, BinaryOperator.ofSpelling? (compoundOperator combine) = some (.arithmetic operation) ∧
      ((count = "++" ∧ operation = .add ∧ distance = 1) ∨
        (count ≠ "++" ∧ operation = .subtract ∧ distance = -1)) := by
    cases counts with
    | up => exact ⟨.add, by decide, .inl ⟨rfl, rfl, rfl⟩⟩
    | down => exact ⟨.subtract, by decide, .inr ⟨by decide, rfl, rfl⟩⟩
  obtain ⟨operation, named, direction⟩ := named
  cases current with
  | int integer =>
      rw [binary_of_arithmetic named rfl rfl]
      rcases direction with ⟨up, rfl, -⟩ | ⟨up, rfl, -⟩
      · exact ⟨.int (integer + 1), _, by simp only [stepped, up, if_true], rfl, rfl⟩
      · exact ⟨.int (integer - 1), _, by simp only [stepped, up, if_false]; rfl, rfl, rfl⟩
  | double number =>
      rw [binary_of_arithmetic named rfl rfl]
      have one : (Numeric.integral 1).toDouble = .ok 1.0 := by
        simp only [Numeric.toDouble, Number.ofInt?_one, withinDoubles]
      rcases direction with ⟨up, rfl, -⟩ | ⟨up, rfl, -⟩
      · refine ⟨.double (number + 1.0), .double (number + 1.0), ?_, ?_, rfl⟩
        · simp only [stepped, up, if_true]
        · simp only [numericArithmetic, one]
          rfl
      · refine ⟨.double (number - 1.0), .double (number - 1.0), ?_, ?_, rfl⟩
        · simp only [stepped, up, if_false, Number.add_minus_one]
        · simp only [numericArithmetic, one]
          rfl
  | char point =>
      rw [binary_of_arithmetic named rfl rfl]
      obtain ⟨next, found⟩ := Option.isSome_iff_exists.mp near
      rcases direction with ⟨up, rfl, rfl⟩ | ⟨up, rfl, rfl⟩
      · refine ⟨.char next, .int (point.code + 1), ?_, rfl, ?_⟩
        · simp only [stepped, up, if_true, found]
        · simp only [narrowedLike, coerceTo, found]
      · refine ⟨.char next, .int (point.code - 1), ?_, rfl, ?_⟩
        · simp only [stepped, up, if_false, found]
        · rw [Int.sub_eq_add_neg]
          simp only [narrowedLike, coerceTo, found]
  | _ => cases near

end Value

/-- The second ending is the first with one more step recorded, before the last one if the computation completes. -/
inductive Ending.OneMoreStep {α : Type} : Ending α → Ending α → Prop
  | completed (value : α) (final : State) (before : Array Step) (extra last : Step) :
      OneMoreStep (.ok value { final with steps := before.push last })
        (.ok value { final with steps := (before.push extra).push last })
  | failed (failure : Failure) (final : State) : OneMoreStep (.error failure final) (.error failure final)
  | failedLater (failure : Failure) (final : State) (extra : Step) :
      OneMoreStep (.error failure final) (.error failure { final with steps := final.steps.push extra })

/-- The computation is not cut off on the line by the limit of steps. -/
def Ending.WithinLimit {α : Type} (options : Options) (line : Nat) (ending : Ending α) : Prop :=
  ∀ final, ending ≠ .error (.onLine line (.stepLimit options.maxSteps)) final

namespace Machine

variable {state : State} {scope owner : Nat} {name : String} {record : Scope} {found : Binding}

theorem run_lookup (bound : state.scopes.binding state.current name = .ok (owner, record, found)) :
    (lookup name).run state = .ok found.value state := by
  simp only [lookup, run_bind, run_get, Scopes.lookup, bound]
  rfl

theorem run_read_binding (bound : state.scopes.binding scope name = .ok (owner, record, found)) :
    (Slot.binding scope name).read.run state = .ok found.value state :=
  Slot.read_eq_ok.mpr ⟨rfl, .binding bound⟩

theorem run_store_binding (bound : state.scopes.binding scope name = .ok (owner, record, found)) (options : Options)
    (line : Nat) (value : Value) :
    (store options line (.binding scope name) value).run state =
      match value.coerce found.typeName with
      | .error failure => .error failure state
      | .ok stored =>
          (Machine.record options line none none >>= fun _ => pure stored).run
            { state with scopes := state.scopes.replaced owner (record.store name stored) } := by
  simp only [store, Slot.write, Scopes.assign, run_bind, run_get, bound]
  cases value.coerce found.typeName with
  | error failure => rfl
  | ok stored => rfl

/-- Where the declared type is one of integers or of doubles, a compound assignment does what its operator and an
assignment do. -/
theorem run_storeCompound_binding (bound : state.scopes.binding scope name = .ok (owner, record, found))
    {primitive : Primitive} (named : found.typeName.bind Primitive.ofName? = some primitive)
    (numeric : primitive = .integer ∨ primitive = .double) {current : Value} (fits : current.Fits found.typeName)
    (options : Options) (line : Nat) (operator : String) (operand : Value) :
    (storeCompound options line operator (.binding scope name) current operand).run state =
      (ofOutcome (Value.binary state.heap line (compoundOperator operator) current operand) >>=
        store options line (.binding scope name)).run state := by
  simp only [storeCompound, run_bind, run_get]
  cases Value.binary state.heap line (compoundOperator operator) current operand with
  | error failure => rfl
  | ok result =>
      have converted := Value.coerce_narrowedLike named numeric fits result
      simp only [ofOutcome, run_pure, run_store_binding bound, ← converted]
      cases current.narrowedLike result with
      | error failure => rfl
      | ok narrowed => simp only [run_pure, run_store_binding bound, bind, Except.bind]

/-- A step that is recorded before the writing of a variable comes to stand before the last one. -/
theorem oneMoreStep_of_store (bound : state.scopes.binding scope name = .ok (owner, record, found)) (options : Options)
    (line : Nat) (value : Value)
    (within : ((Machine.record options line none none >>= fun _ => store options line (.binding scope name) value).run
      state).WithinLimit options line) :
    ((store options line (.binding scope name) value).run state).OneMoreStep
      ((Machine.record options line none none >>= fun _ => store options line (.binding scope name) value).run state) := by
  rw [run_bind, run_record] at within ⊢
  by_cases full : options.maxSteps ≤ state.steps.size
  · rw [if_pos full] at within
    exact absurd rfl (within state)
  · rw [if_neg full] at within ⊢
    have boundLater : (state.recorded options line none none).scopes.binding scope name = .ok (owner, record, found) :=
      bound
    rw [run_store_binding bound]
    dsimp only at within ⊢
    rw [run_store_binding boundLater] at within ⊢
    generalize value.coerce found.typeName = outcome at within ⊢
    cases outcome with
    | error failure => exact .failedLater failure state _
    | ok stored =>
        dsimp only at within ⊢
        rw [run_bind, run_record] at within
        rw [run_bind, run_record, run_bind, run_record]
        by_cases fullLater : options.maxSteps ≤ state.steps.size + 1
        · rw [if_pos (by simpa [State.recorded] using fullLater)] at within
          exact absurd rfl (within _)
        · rw [if_neg (by simpa using full), if_neg (by simpa [State.recorded] using fullLater)]
          exact .completed stored { state with scopes := state.scopes.replaced owner (record.store name stored) }
            state.steps _ _

variable (context : Context) (calls : Calls)

theorem run_compound (bound : state.scopes.binding state.current name = .ok (owner, record, found))
    (line nameLine : Nat) (operator : String) (expression : Expr) :
    ((Expr.compound line (.name nameLine name) operator expression).eval context calls).run state =
      (expression.eval context calls >>=
        storeCompound context.options line operator (.binding state.current name) found.value).run state := by
  rw [Expr.eval.eq_def, run_bind_of_ok _ (run_mark _ state)]
  dsimp only
  rw [Expr.locate.eq_1, run_bind_of_ok _ (run_ofName_of_ok (Scopes.binding_eq_ok bound).1), run_bind_of_ok _ (run_read_binding bound)]

theorem run_name (bound : state.scopes.binding state.current name = .ok (owner, record, found)) (line : Nat) :
    ((Expr.name line name).eval context calls).run state = .ok found.value state := by
  rw [Expr.eval.eq_def, run_bind_of_ok _ (run_mark _ state)]
  exact run_lookup bound

theorem run_assign_binary (bound : state.scopes.binding state.current name = .ok (owner, record, found))
    (line nameLine readLine : Nat) (operator : String) (expression : Expr) :
    ((Expr.assign line (.name nameLine name) (.binary line (.name readLine name) operator expression)).eval context
        calls).run state =
      (expression.eval context calls >>= fun operand =>
        applyBinary context.options line operator found.value operand >>=
          store context.options line (.binding state.current name)).run state := by
  rw [Expr.eval.eq_def, run_bind_of_ok _ (run_mark _ state)]
  dsimp only
  rw [Expr.locate.eq_1, run_bind_of_ok _ (run_ofName_of_ok (Scopes.binding_eq_ok bound).1), run_bind, Expr.eval.eq_def,
    run_bind_of_ok _ (run_mark _ state)]
  dsimp only
  rw [run_bind_of_ok _ (run_name context calls bound readLine), run_bind, run_bind]
  cases (expression.eval context calls).run state <;> rfl

/-- With its operand the compound assignment does what the operation written out does, but for one step. -/
theorem oneMoreStep_of_operand (bound : state.scopes.binding scope name = .ok (owner, record, found))
    {primitive : Primitive} (named : found.typeName.bind Primitive.ofName? = some primitive)
    (numeric : primitive = .integer ∨ primitive = .double) {current : Value} (fits : current.Fits found.typeName)
    (options : Options) (line : Nat) {operator combine : String} (same : compoundOperator combine = operator)
    (operand : Value)
    (within : ((applyBinary options line operator current operand >>= store options line (.binding scope name)).run
      state).WithinLimit options line) :
    ((storeCompound options line combine (.binding scope name) current operand).run state).OneMoreStep
      ((applyBinary options line operator current operand >>= store options line (.binding scope name)).run state) := by
  rw [run_storeCompound_binding bound named numeric fits, same]
  have opened : (applyBinary options line operator current operand >>= store options line (.binding scope name)).run state =
      (ofOutcome (Value.binary state.heap line operator current operand) >>= fun result =>
        Machine.record options line none none >>= fun _ => store options line (.binding scope name) result).run state := by
    simp only [applyBinary, run_bind, run_get]
    cases Value.binary state.heap line operator current operand with
    | error failure => rfl
    | ok result =>
        simp only [ofOutcome, run_pure]
        cases (Machine.record options line none none).run state <;> rfl
  rw [opened] at within ⊢
  cases computed : Value.binary state.heap line operator current operand with
  | error failure => exact .failed failure state
  | ok result =>
      rw [computed] at within
      exact oneMoreStep_of_store bound options line result within

/-- Counting a variable writes what a compound assignment of one does. -/
theorem run_update_eq_compound (bound : state.scopes.binding state.current name = .ok (owner, record, found))
    {count combine : String} {distance : Int} (counts : Value.Counts count combine distance)
    (near : found.value.HasNeighbour distance) (line : Nat) (form : UpdateForm) (nameLine otherLine oneLine : Nat) :
    ∃ next, ((Expr.update line form count nameLine name).eval context calls).run state =
        (store context.options line (.binding state.current name) next >>= fun stored =>
          pure (if form = .after then found.value else stored)).run state ∧
      ((Expr.compound line (.name otherLine name) combine (.int oneLine 1)).eval context calls).run state =
        (store context.options line (.binding state.current name) next).run state := by
  obtain ⟨next, computed, steps, applied, cast⟩ := Value.stepped_eq_narrowed counts near state.heap line
  refine ⟨next, ?_, ?_⟩
  · rw [Expr.eval.eq_def, run_bind_of_ok _ (run_mark _ state)]
    simp only [updateVariable, run_bind, run_get, run_read_binding bound, steps, ofOutcome, run_pure]
  · rw [run_compound context calls bound, Expr.eval_literal rfl]
    simp only [run_bind, run_mark, run_pure, storeCompound, run_get, applied, cast, ofOutcome]

end Machine

/-- Where a variable is bound in a reachable state, its binding fits, and after an expression it is bound in the same
place with the same type. -/
theorem Context.Reaches.bound_after {context : Context} {state : State} (reached : context.Reaches state) {room : Nat}
    {name : String} {owner : Nat} {record : Scope} {found : Binding}
    (bound : state.scopes.binding state.current name = .ok (owner, record, found)) {expression : Expr} {operand : Value}
    {after : State} (ended : (expression.eval context (Calls.within context room)).run state = .ok operand after) :
    found.value.Fits found.typeName ∧ ∃ later other, after.scopes.binding state.current name = .ok (owner, later, other) ∧
      other.typeName = found.typeName := by
  have typed := (((State.invariant_typed context).runs State.initial_typed).passing state reached).2
  obtain ⟨-, present, there⟩ := Scopes.binding_eq_ok bound
  obtain ⟨later, other, boundAfter, same⟩ := Scopes.binding_of_shapes
    (Expr.follows_eval reached.placed ended).restores.size (Expr.shape?_eval reached.placed ended) bound
  exact ⟨(typed.scopes owner record present).fits found (Scope.mem_of_find? there).1, later, other, boundAfter, same⟩

/-- Two ways to update agree. A compound assignment to a variable that is declared for integers or doubles yields the
value, or fails with the failure, of the assignment of the operation written out, and leaves the same state but for one
step that the latter records in addition, before its last; unless the limit of steps cuts that one off. And to count a
variable up or down, in either form, is to add one to it or to subtract it, in all that the statement does, if the
variable holds an integer, a double, or a character with a neighbour in this direction. -/
theorem update_forms_agree (context : Context) (state : State) (reached : context.Reaches state) (room : Nat)
    {name : String} {owner : Nat} {record : Scope} {found : Binding}
    (bound : state.scopes.binding state.current name = .ok (owner, record, found)) (line nameLine readLine : Nat) :
    (∀ typeName operator expression, found.typeName = some typeName →
      typeName ∈ ["int", "long", "double"] → operator ∈ ["+", "-", "*", "/", "%"] →
      (((Expr.assign line (.name nameLine name) (.binary line (.name readLine name) operator expression)).eval context
        (Calls.within context room)).run state).WithinLimit context.options line →
      (((Expr.compound line (.name nameLine name) (operator ++ "=") expression).eval context
        (Calls.within context room)).run state).OneMoreStep
        (((Expr.assign line (.name nameLine name) (.binary line (.name readLine name) operator expression)).eval context
          (Calls.within context room)).run state)) ∧
    ∀ count combine distance form inner oneLine, Value.Counts count combine distance →
      found.value.HasNeighbour distance →
      ((Stmt.evaluate line (.update inner form count nameLine name)).exec context (Calls.within context room)).run
          state =
        ((Stmt.evaluate line (.compound inner (.name readLine name) combine (.int oneLine 1))).exec context
          (Calls.within context room)).run state := by
  constructor
  · intro typeName operator expression declared numeric spelled within
    rw [Machine.run_assign_binary context _ bound, Machine.run_bind] at within ⊢
    rw [Machine.run_compound context _ bound, Machine.run_bind]
    have combined : ∀ operator ∈ ["+", "-", "*", "/", "%"], compoundOperator (operator ++ "=") = operator := by decide
    have primitives : ∀ typeName ∈ ["int", "long", "double"], ∃ primitive ∈ [Primitive.integer, .double],
        Primitive.ofName? typeName = some primitive := by decide
    obtain ⟨primitive, member, named⟩ := primitives typeName numeric
    cases evaluated : (expression.eval context (Calls.within context room)).run state with
    | error failure after => exact .failed failure after
    | ok operand after =>
        rw [evaluated] at within
        obtain ⟨fits, later, other, boundAfter, same⟩ := reached.bound_after bound evaluated
        rw [← same] at fits declared
        refine Machine.oneMoreStep_of_operand boundAfter ?_ (by simpa using member) fits _ _ (combined _ spelled) _ within
        rw [declared]
        exact named
  · intro count combine distance form inner oneLine counts near
    -- The statement notes its line first, which leaves the scopes alone.
    have boundThere : ({ state with line } : State).scopes.binding ({ state with line } : State).current name =
        .ok (owner, record, found) := bound
    obtain ⟨next, updated, compounded⟩ := Machine.run_update_eq_compound context (Calls.within context room) boundThere
      counts near inner form nameLine readLine oneLine
    rw [Stmt.exec.eq_def, Stmt.exec.eq_def]
    dsimp only
    simp only [Machine.run_bind, Machine.atLine, Machine.run_modify]
    rw [updated, compounded, Machine.run_bind]
    cases (Machine.store context.options inner (.binding state.current name) next).run { state with line } <;> rfl

def Declaration.total : Declaration where
  line := 3
  typeName := "int"
  name := "total"
  value := some (.int 3 1)
  isStatic := false

/-- The forms of doubling and a half, and of counting up, in a run that has declared the variable. -/
theorem total_updated :
    ∃ state, (Context.stopped .total).Reaches state ∧
      state.scopes.lookup state.current "total" = .ok (.int 1) ∧
      (((Expr.compound 5 (.name 5 "total") "*=" (.double 5 2.5)).eval (.stopped .total)
          (.within (.stopped .total) 1)).run state).OneMoreStep
        (((Expr.assign 5 (.name 5 "total") (.binary 5 (.name 5 "total") "*" (.double 5 2.5))).eval (.stopped .total)
          (.within (.stopped .total) 1)).run state) ∧
      ((Stmt.evaluate 5 (.update 5 .after "++" 5 "total")).exec (.stopped .total) (.within (.stopped .total) 1)).run
          state =
        ((Stmt.evaluate 5 (.compound 5 (.name 5 "total") "+=" (.int 5 1))).exec (.stopped .total)
          (.within (.stopped .total) 1)).run state := by
  have reached := (Context.stopped .total).execute.passes_ending State.initial
  have bound : ((Context.stopped .total).execute.run State.initial).state.scopes.binding
      ((Context.stopped .total).execute.run State.initial).state.current "total" =
      .ok (1, { parent := some 0, bindings := [{ name := "total", value := .int 1, typeName := some "int" }] },
        { name := "total", value := .int 1, typeName := some "int" }) := by decide +kernel
  have completes : (((Expr.assign 5 (.name 5 "total") (.binary 5 (.name 5 "total") "*" (.double 5 2.5))).eval
      (.stopped .total) (.within (.stopped .total) 1)).run
      ((Context.stopped .total).execute.run State.initial).state).value? = some (.int 2) := by decide +kernel
  obtain ⟨final, ended⟩ := Ending.exists_of_value? completes
  obtain ⟨combining, counting⟩ := update_forms_agree _ _ reached 1 bound 5 5 5
  have agree := combining "int" "*" (.double 5 2.5) rfl (by decide) (by decide) fun other cut => by
    rw [ended] at cut
    cases cut
  have spelled : "*" ++ "=" = "*=" := by decide
  rw [spelled] at agree
  refine ⟨_, reached, ?_, agree, counting "++" "+=" 1 .after 5 5 .up trivial⟩
  rw [Scopes.lookup, bound]

end Stepwise
