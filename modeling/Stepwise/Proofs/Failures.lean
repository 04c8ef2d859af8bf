import Stepwise.Proofs.Values
import Stepwise.Eval.Expression

/-!
# Why operations fail

A few issues are about the form of a program alone: an operator or a target that is none, and a jump that stands in no
loop. All others are ordinary. Operations on values, templates and scopes fail for ordinary causes only, and most of
them know no line to report. Operators are given a line and report that one; what they may report besides ordinary
issues is that they are none.
-/

namespace Stepwise

set_option autoImplicit false

variable {α β : Type}

/-- An issue that no single form in a program brings about by itself, as an operator or a target that is none does, or a
jump that stands in no loop. -/
def Issue.Ordinary : Issue → Prop
  | .unsupportedOperator _ | .unsupportedUnary _ | .invalidTarget | .outsideLoop _ => False
  | _ => True

def Failure.Ordinary : Failure → Prop
  | .issue cause _ => cause.Ordinary
  | .fault _ => True

/-- The failure is ordinary, and no line is known of it. -/
def Failure.Unlined : Failure → Prop
  | .issue cause line => line = none ∧ cause.Ordinary
  | .fault _ => True

theorem Failure.Unlined.ordinary {failure : Failure} (unlined : failure.Unlined) : failure.Ordinary := by
  cases failure with
  | issue cause line => exact unlined.2
  | fault cause => trivial

def Unlined (outcome : Except Failure α) : Prop :=
  ∀ failure, outcome = .error failure → failure.Unlined

namespace Unlined

theorem ok (result : α) : Unlined (.ok result : Except Failure α) := nofun

theorem error {failure : Failure} (unlined : failure.Unlined) : Unlined (.error failure : Except Failure α) := by
  rintro _ ⟨⟩
  exact unlined

theorem bare {cause : Issue} (ordinary : cause.Ordinary) : Unlined (.error (.bare cause) : Except Failure α) :=
  .error ⟨rfl, ordinary⟩

theorem fault (cause : Fault) : Unlined (.error (.fault cause) : Except Failure α) :=
  .error trivial

theorem bind {outcome : Except Failure α} {next : α → Except Failure β} (unlined : Unlined outcome)
    (others : ∀ result, Unlined (next result)) : Unlined (outcome >>= next) := by
  cases outcome with
  | ok result => exact others result
  | error failure => exact .error (unlined failure rfl)

theorem map {outcome : Except Failure α} (change : α → β) (unlined : Unlined outcome) :
    Unlined (change <$> outcome) := by
  cases outcome with
  | ok result => exact .ok (change result)
  | error failure => exact .error (unlined failure rfl)

end Unlined

theorem unlined_liftFault (outcome : Except Fault α) : Unlined (liftFault outcome) := by
  cases outcome with
  | ok result => exact .ok result
  | error cause => exact .fault cause

theorem Numeric.unlined_toDouble (number : Numeric) : Unlined number.toDouble := by
  cases number with
  | integral value =>
      change Unlined (withinDoubles (Number.ofInt? value))
      cases Number.ofInt? value with
      | some double => exact .ok double
      | none => exact .fault _
  | double value => exact .ok value

namespace Value

theorem unlined_coerceTo (primitive : Primitive) (value : Value) : Unlined (coerceTo primitive value) := by
  unfold coerceTo
  split
  · exact (Numeric.unlined_toDouble _).map _
  · exact (Numeric.unlined_toDouble _).map _
  · next number =>
      refine Unlined.map _ ?_
      unfold integerPart
      split
      · exact .ok _
      · exact .bare trivial
      · exact .ok _
  · exact .ok _
  · split
    · exact .ok _
    · exact .ok _
  · exact .ok _

theorem unlined_coerce (value : Value) (typeName : Option String) : Unlined (value.coerce typeName) := by
  unfold coerce
  split
  · exact unlined_coerceTo _ value
  · exact .ok _

theorem unlined_narrowedLike (current result : Value) : Unlined (current.narrowedLike result) := by
  unfold narrowedLike
  split
  · exact unlined_coerceTo _ _
  · exact unlined_coerceTo _ _
  · exact .ok _

theorem unlined_text (heap : Heap) (value : Value) : Unlined (value.text heap) := by
  unfold text
  split
  case h_2 value => exact (unlined_liftFault _).map _
  case h_7 handle =>
    split
    · exact .ok _
    · exact .ok _
    · exact .fault _
  all_goals exact .ok _

theorem unlined_rawText (heap : Heap) (value : Value) : Unlined (value.rawText heap) := by
  unfold rawText
  split
  · exact .ok _
  · exact value.unlined_text heap

theorem unlined_consoleText (heap : Heap) (value : Value) : Unlined (value.consoleText heap) := by
  have raw := value.unlined_rawText heap
  unfold consoleText
  split
  · exact .ok _
  · next failure failed => exact .error (raw failure failed)

theorem unlined_joined (heap : Heap) (left right : Value) : Unlined (joined heap left right) :=
  (left.unlined_rawText heap).bind fun _ => (right.unlined_rawText heap).bind fun _ => .ok _

theorem unlined_doubleArithmetic (left right : Float) (operation : Arithmetic) :
    Unlined (doubleArithmetic left right operation) := by
  cases operation with
  | remainder =>
      have rest : Unlined (doubleRemainder left right) := by
        unfold doubleRemainder
        split
        case h_4 => exact .fault _
        all_goals exact .ok _
      unfold doubleArithmetic
      dsimp only
      split
      · exact .ok _
      · next failure failed => exact .error (rest failure failed)
  | _ => exact .ok _

theorem unlined_doubles (left right : Numeric) (operation : Arithmetic) :
    Unlined (do
      let leftDouble ← left.toDouble
      let rightDouble ← right.toDouble
      doubleArithmetic leftDouble rightDouble operation) :=
  left.unlined_toDouble.bind fun _ => right.unlined_toDouble.bind fun _ => unlined_doubleArithmetic _ _ operation

end Value

namespace Template

theorem unlined_fixedArgument (count : Option String) (number : Numeric) : Unlined (fixedArgument count number) := by
  unfold fixedArgument
  extract_lets finish
  have finishes : ∀ digits, Unlined (finish digits) := by
    intro digits
    refine number.unlined_toDouble.bind fun double => ?_
    split
    · exact .fault _
    · exact .ok _
  cases count with
  | some text => exact (unlined_liftFault _).bind finishes
  | none => exact finishes 6

theorem unlined_argument (heap : Heap) (count : Option String) (conversion : Conversion) (value : Value) :
    Unlined (argument heap count conversion value) := by
  unfold argument
  split
  · exact (unlined_fixedArgument count _).map _
  · exact (unlined_liftFault _).map _
  · exact value.unlined_text heap

theorem unlined_fill (heap : Heap) (pieces : List Piece) (values : List Value) : Unlined (fill heap pieces values) := by
  induction pieces generalizing values with
  | nil =>
      rw [fill]
      exact .ok _
  | cons piece rest ih =>
      cases piece with
      | plain char =>
          rw [fill]
          exact (ih values).map _
      | directive count conversion =>
          have shows : conversion ≠ .newline → conversion ≠ .percent →
              Unlined (fill heap (.directive count conversion :: rest) values) := by
            intro notNewline notPercent
            cases values with
            | nil =>
                rw [fill.eq_5 _ _ _ _ notNewline notPercent]
                exact ih []
            | cons value values =>
                have shown := unlined_argument heap count conversion value
                rw [fill.eq_6 _ _ _ _ _ _ notNewline notPercent]
                cases outcome : argument heap count conversion value with
                | error failure => exact .error (shown failure outcome)
                | ok text => exact (ih values).map _
          cases conversion with
          | newline =>
              rw [fill]
              exact (ih values).map _
          | percent =>
              rw [fill]
              exact (ih values).map _
          | integer | fixed | text => exact shows nofun nofun

end Template

theorem ConsoleMethod.unlined_output (heap : Heap) (method : ConsoleMethod) (values : List Value) :
    Unlined (method.output heap values) := by
  unfold output
  split
  case h_4 => exact (Value.unlined_consoleText heap _).map _
  case h_5 => exact Value.unlined_consoleText heap _
  case h_6 => exact (Value.unlined_consoleText heap _).bind fun text => Template.unlined_fill heap _ _
  all_goals exact .ok _

namespace Scopes

variable (scopes : Scopes) (handle : Nat) (name : String)

theorem unlined_resolve : Unlined (scopes.resolve handle name) := by
  have within : ∀ bound handle, Unlined (scopes.resolveWithin name bound handle) := by
    intro bound
    induction bound with
    | zero => exact fun _ => .bare trivial
    | succ bound ih =>
        intro handle
        unfold resolveWithin
        split
        · exact .fault _
        · split
          · exact .ok _
          · split
            · exact .bare trivial
            · exact ih _
  exact within _ handle

theorem unlined_binding : Unlined (scopes.binding handle name) := by
  have resolved := scopes.unlined_resolve handle name
  unfold binding
  split
  · next failure failed => exact .error (resolved failure failed)
  · split
    · exact .fault _
    · split
      · exact .bare trivial
      · exact .ok _

theorem unlined_lookup : Unlined (scopes.lookup handle name) := by
  have bound := scopes.unlined_binding handle name
  unfold lookup
  split
  · next failure failed => exact .error (bound failure failed)
  · exact .ok _

theorem unlined_declare (value : Value) (typeName : Option String) :
    Unlined (scopes.declare handle name value typeName) := by
  have coerced := value.unlined_coerce typeName
  unfold declare
  split
  · exact .fault _
  · split
    · exact .bare trivial
    · split
      · next failure failed => exact .error (coerced failure failed)
      · exact .ok _

theorem unlined_assign (value : Value) : Unlined (scopes.assign handle name value) := by
  have bound := scopes.unlined_binding handle name
  unfold assign
  split
  · next failure failed => exact .error (bound failure failed)
  · next owner scope found _ =>
      have coerced := value.unlined_coerce found.typeName
      split
      · next failure failed => exact .error (coerced failure failed)
      · exact .ok _

end Scopes

def FailsOrdinarily (outcome : Except Failure α) : Prop :=
  ∀ failure, outcome = .error failure → failure.Ordinary

namespace FailsOrdinarily

theorem ok (result : α) : FailsOrdinarily (.ok result : Except Failure α) := nofun

theorem error {failure : Failure} (ordinary : failure.Ordinary) :
    FailsOrdinarily (.error failure : Except Failure α) := by
  rintro _ ⟨⟩
  exact ordinary

end FailsOrdinarily

theorem Unlined.ordinary {outcome : Except Failure α} (unlined : Unlined outcome) : FailsOrdinarily outcome :=
  fun failure failed => (unlined failure failed).ordinary

namespace Value

theorem ordinary_integralArithmetic (line : Nat) (left right : Int) (operation : Arithmetic) :
    FailsOrdinarily (integralArithmetic line left right operation) := by
  cases operation with
  | divide | remainder =>
      unfold integralArithmetic
      dsimp only
      split
      · exact .error trivial
      · exact .ok _
  | _ => exact .ok _

theorem ordinary_numericArithmetic (line : Nat) (operation : Arithmetic) (left right : Numeric) :
    FailsOrdinarily (numericArithmetic line operation left right) := by
  match left, right with
  | .integral one, .integral two => exact ordinary_integralArithmetic line one two operation
  | .integral one, .double two => exact (unlined_doubles _ _ operation).ordinary
  | .double one, _ => exact (unlined_doubles _ _ operation).ordinary

theorem ordinary_applyBinary (heap : Heap) (line : Nat) (spelling : String) (operator : BinaryOperator)
    (left right : Value) : FailsOrdinarily (applyBinary heap line spelling operator left right) := by
  unfold applyBinary
  split
  · exact .ok _
  · exact .ok _
  · exact ordinary_numericArithmetic line _ _ _
  · exact .ok _
  · exact (unlined_joined heap left right).ordinary
  · exact .error trivial

/-- An operator between two operands fails for an ordinary cause, or because it is none. -/
theorem ordinary_or_unsupported {heap : Heap} {line : Nat} {spelling : String} {left right : Value} {failure : Failure}
    (failed : Value.binary heap line spelling left right = .error failure) :
    failure.Ordinary ∨
      BinaryOperator.ofSpelling? spelling = none ∧ failure = .onLine line (.unsupportedOperator spelling) := by
  unfold Value.binary at failed
  split at failed
  · exact .inl (ordinary_applyBinary _ _ _ _ _ _ failure failed)
  · next unknown =>
      cases failed
      exact .inr ⟨unknown, rfl⟩

theorem ordinary_or_unsupportedUnary {line : Nat} {spelling : String} {value : Value} {failure : Failure}
    (failed : value.unary line spelling = .error failure) :
    failure.Ordinary ∨
      (spelling ≠ "!" ∧ spelling ≠ "-") ∧ failure = .onLine line (.unsupportedUnary spelling) := by
  unfold unary at failed
  split at failed
  · split at failed
    · cases failed
    · cases failed
      exact .inl trivial
  · split at failed
    · cases failed
    · cases failed
    · cases failed
      exact .inl trivial
  · next notNegation notMinus =>
      cases failed
      exact .inr ⟨⟨notNegation, notMinus⟩, rfl⟩

theorem ordinary_stepped (line : Nat) (operator : String) (value : Value) :
    FailsOrdinarily (value.stepped line operator) := by
  unfold stepped
  dsimp only
  split
  · exact .ok _
  · split
    · exact .ok _
    · exact .error trivial
  · exact .ok _
  · exact .error trivial

end Value

end Stepwise
