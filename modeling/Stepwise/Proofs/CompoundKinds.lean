import Stepwise.Proofs.FieldTypes
import Stepwise.Proofs.Slots

/-!
# Compound assignments and the kind of what was there

A compound assignment casts its result back to the kind of value that the place held, and then the place converts it to
its declared type. Doubles remain doubles, and integers integers. Characters are the exception, twice. Not every integer is
a code: a result that is none remains an integer, even in a place for characters, and becomes a character again as soon
as a later result is one. And a double that was computed from a character is not cast at all. A field converts nothing,
so that it does not turn an integer into a character.
-/

namespace Stepwise

set_option autoImplicit false

namespace Value

/-- The character with a code, or the code itself if there is none. -/
def ofCode (code : Int) : Value :=
  match CodePoint.ofCode? code with
  | some point => .char point
  | none => .int code

theorem coerceTo_char_int (code : Int) : coerceTo .char (.int code) = .ok (ofCode code) := by
  simp only [coerceTo, ofCode]
  cases CodePoint.ofCode? code <;> rfl

theorem arithmetic_of_compound {operator : String} (combines : operator ∈ ["+=", "-=", "*=", "/=", "%="]) :
    ∃ operation, BinaryOperator.ofSpelling? (compoundOperator operator) = some (.arithmetic operation) := by
  have all : ∀ operator ∈ ["+=", "-=", "*=", "/=", "%="],
      ∃ operation ∈ [Arithmetic.add, .subtract, .multiply, .divide, .remainder],
        BinaryOperator.ofSpelling? (compoundOperator operator) = some (.arithmetic operation) := by decide
  obtain ⟨operation, -, named⟩ := all operator combines
  exact ⟨operation, named⟩

theorem binary_of_arithmetic {spelling : String} {operation : Arithmetic} {left right : Value} {one two : Numeric}
    (named : BinaryOperator.ofSpelling? spelling = some (.arithmetic operation)) (first : left.numeric? = some one)
    (second : right.numeric? = some two) (heap : Heap) (line : Nat) :
    binary heap line spelling left right = numericArithmetic line operation one two := by
  simp only [binary, named, applyBinary, first, second]

/-- What a compound assignment stores in a place of the type, where the kind of value it held and the result that the
operator had with the operand are known. -/
structure Keeps (typeName : Option String) (current operand result stored : Value) : Prop where
  double : current.kind = .double → stored.kind = .double
  int : current.kind = .int → typeName ≠ some "char" → stored.kind = .int
  outside : current.kind = .int → typeName = some "char" →
    ∃ code, coerceTo .integer result = .ok (.int code) ∧ stored = ofCode code
  char : current.kind = .char → operand.isIntegral → ∃ code, result = .int code ∧ stored = ofCode code
  uncast : current.kind = .char → operand.kind = .double → stored = result ∧ stored.kind = .double

section Conversions

variable {typeName : Option String} {current value stored : Value}

/-- A place that takes a value as it is takes any other that is converted no further than this one. -/
theorem coerce_of_fits (fits : current.Fits typeName)
    (alike : ∀ primitive, typeName.bind Primitive.ofName? = some primitive → coerceTo primitive current = .ok current →
      coerceTo primitive stored = .ok stored) : stored.coerce typeName = .ok stored := by
  unfold Fits coerce at *
  cases named : typeName.bind Primitive.ofName? with
  | none => rfl
  | some primitive =>
      rw [named] at fits
      exact alike primitive named fits

theorem coerce_double_of_fits {number other : Float} (fits : (double number).Fits typeName) :
    (double other).coerce typeName = .ok (double other) := by
  apply coerce_of_fits fits
  intro primitive _ kept
  cases primitive with
  | integer => exact absurd (.head _) ((coerceTo_eq_self_iff (by decide)).mp kept)
  | double | boolean | char => rfl

theorem coerce_of_char_fits {point : CodePoint} {other : Value} (fits : (char point).Fits typeName)
    (taken : coerceTo .char other = .ok other) : other.coerce typeName = .ok other := by
  apply coerce_of_fits fits
  intro primitive _ kept
  cases primitive with
  | integer | double => exact absurd (.tail _ (.head _)) ((coerceTo_eq_self_iff (by decide)).mp kept)
  | boolean => rfl
  | char => exact taken

theorem coerce_int_of_fits {integer other : Int} (fits : (int integer).Fits typeName) :
    (typeName ≠ some "char" → (int other).coerce typeName = .ok (int other)) ∧
      (typeName = some "char" → (int other).coerce typeName = .ok (ofCode other)) := by
  refine ⟨fun apart => coerce_of_fits fits fun primitive named kept => ?_, ?_⟩
  · cases primitive with
    | double => exact absurd (.head _) ((coerceTo_eq_self_iff (by decide)).mp kept)
    | integer | boolean => rfl
    | char =>
        obtain ⟨name, rfl, same⟩ := Option.bind_eq_some_iff.mp named
        exact absurd (congrArg some (primitive_eq_char same)) apart
  · rintro rfl
    exact coerceTo_char_int other

theorem coerceTo_char_ofCode (code : Int) : coerceTo .char (ofCode code) = .ok (ofCode code) := by
  unfold ofCode
  cases found : CodePoint.ofCode? code with
  | some point => rfl
  | none => simp only [coerceTo, found]

end Conversions

variable {typeName : Option String} {current operand result narrowed stored : Value} {operation : Arithmetic} {line : Nat}

/-- The two conversions of a compound assignment, the cast to the kind that was there and that of the place. -/
theorem keeps_of_compound {one two : Numeric} (fits : current.Fits typeName) (first : current.numeric? = some one)
    (second : operand.numeric? = some two) (computed : numericArithmetic line operation one two = .ok result)
    (cast : current.narrowedLike result = .ok narrowed) (coerced : narrowed.coerce typeName = .ok stored) :
    Keeps typeName current operand result stored := by
  cases current with
  | double number =>
      refine ⟨fun _ => ?_, nofun, nofun, nofun, nofun⟩
      cases first
      rcases numericArithmetic_eq_ok computed with ⟨left, right, sum, impossible, -⟩ | ⟨other, rfl⟩
      · cases impossible
      · cases cast
        rw [coerce_double_of_fits fits] at coerced
        cases coerced
        rfl
  | int integer =>
      obtain ⟨code, truncated, rfl⟩ : ∃ code, coerceTo .integer result = .ok (.int code) ∧ narrowed = .int code := by
        rcases numericArithmetic_eq_ok computed with ⟨left, right, sum, -, -, rfl⟩ | ⟨number, rfl⟩
        · cases cast
          exact ⟨sum, rfl, rfl⟩
        · obtain ⟨whole, truncated, rfl⟩ := map_eq_ok cast
          exact ⟨whole, cast, rfl⟩
      obtain ⟨plain, coded⟩ := coerce_int_of_fits fits
      refine ⟨nofun, fun _ apart => ?_, fun _ same => ⟨code, truncated, ?_⟩, nofun, nofun⟩
      · rw [plain apart] at coerced
        cases coerced
        rfl
      · rw [coded same] at coerced
        cases coerced
        rfl
  | char point =>
      cases first
      refine ⟨nofun, nofun, nofun, fun _ integral => ?_, fun _ other => ?_⟩
      · obtain ⟨integer, rfl⟩ : ∃ integer, two = .integral integer := by
          cases operand with
          | int | char =>
              cases second
              exact ⟨_, rfl⟩
          | double | bool | string | null | ref | void | class_ => cases integral
        obtain ⟨code, rfl⟩ := integralArithmetic_eq_ok computed
        refine ⟨code, rfl, ?_⟩
        rw [narrowedLike, coerceTo_char_int] at cast
        cases cast
        rw [coerce_of_char_fits fits (coerceTo_char_ofCode code)] at coerced
        cases coerced
        rfl
      · obtain ⟨number, rfl⟩ : ∃ number, operand = .double number := by
          cases operand with
          | double number => exact ⟨number, rfl⟩
          | int | char | bool | string | null | ref | void | class_ => cases other
        cases second
        rcases numericArithmetic_eq_ok computed with ⟨left, right, sum, -, impossible, -⟩ | ⟨sum, rfl⟩
        · cases impossible
        · cases cast
          rw [coerce_of_char_fits fits rfl] at coerced
          cases coerced
          exact ⟨rfl, rfl⟩
  | bool | string | null | ref | void | class_ => cases first

end Value

section Reachable

open Machine

variable {context : Context} {room : Nat}

/-- What a slot of a state was found to hold fits its type, and after the evaluation of an operand the slot can still
be written and is of the same type. -/
theorem Slot.Holds.evaluated {slot : Slot} {current operand : Value} {expression : Expr} {before after : State}
    (holds : slot.Holds before current) (placed : before.Placed)
    (ended : (expression.eval context (Calls.within context room)).run before = .ok operand after) :
    (∃ other, slot.Holds after other) ∧ slot.declaredType after = slot.declaredType before := by
  have kept := State.invariant_continues context before.heap
  obtain ⟨-, restores, continues⟩ := kept.evaluated placed (.refl _) ended
  exact holds.later restores.size (fun handle => restores.shapes handle nofun) continues

/-- A compound assignment that completes leaves in its place what it yields. If the place held a number and the operand
is one, the kind of number is kept: of a double; of an integer, except in a place for characters; and of a character
with an integral operand if the result is a code. Otherwise a result from integers is stored as the character with this
code if there is one and as the code itself if there is none, and from a character and a double the double is stored. -/
theorem compound_keeps_kind (context : Context) (state : State) (reached : context.Reaches state) (room line : Nat)
    (target value : Expr) {operator : String} (combines : operator ∈ ["+=", "-=", "*=", "/=", "%="])
    {stored : Value} {final : State}
    (ended : ((Expr.compound line target operator value).eval context (Calls.within context room)).run state =
      .ok stored final) :
    ∃ slot current operand result middle after,
      (target.locate context (Calls.within context room)).run state = .ok slot middle ∧
      slot.read.run middle = .ok current middle ∧
      (value.eval context (Calls.within context room)).run middle = .ok operand after ∧
      Value.binary after.heap line (compoundOperator operator) current operand = .ok result ∧
      slot.read.run final = .ok stored final ∧
      (current.isNumeric → operand.isNumeric →
        Value.Keeps (slot.declaredType middle) current operand result stored) := by
  have typed := (((State.invariant_typed context).runs State.initial_typed).passing state reached).2
  rw [Expr.eval.eq_def] at ended
  obtain ⟨_, _, marked, ended⟩ := run_bind_eq_ok.mp ended
  cases marked
  obtain ⟨slot, middle, located, ended⟩ := run_bind_eq_ok.mp ended
  obtain ⟨current, same, read, ended⟩ := run_bind_eq_ok.mp ended
  obtain ⟨rfl, holds⟩ := Slot.read_eq_ok.mp read
  obtain ⟨operand, after, evaluated, ended⟩ := run_bind_eq_ok.mp ended
  obtain ⟨result, narrowed, written, computed, cast, effect, rfl⟩ := storeCompound_eq_ok ended
  obtain ⟨placed, -, typedMiddle⟩ := (State.invariant_typed context).located reached.placed typed located
  obtain ⟨held, sameType⟩ := holds.evaluated placed evaluated
  have storedThere := (effect.holds held).recorded context.options line none none
  refine ⟨slot, current, operand, result, middle, after, located, read, evaluated, computed,
    Slot.read_eq_ok.mpr ⟨rfl, storedThere⟩, fun numeric operandNumeric => ?_⟩
  obtain ⟨operation, named⟩ := Value.arithmetic_of_compound combines
  obtain ⟨one, first⟩ := Option.isSome_iff_exists.mp numeric
  obtain ⟨two, second⟩ := Option.isSome_iff_exists.mp operandNumeric
  rw [Value.binary_of_arithmetic named first second] at computed
  have coerced := effect.coerced
  rw [sameType] at coerced
  exact Value.keeps_of_compound (holds.fits typedMiddle) first second computed cast coerced

end Reachable

/-- A program whose run stops in `main`, where a variable has been declared. -/
def Context.stopped (declaration : Declaration) : Context where
  options := { maxSteps := 10, mode := .all }
  program :=
    { classes :=
        [{ line := 1, name := "Main",
           body :=
             [.method
               { line := 2, returnType := "void", name := "main", params := [],
                 body := [.declare declaration, .evaluate 4 (.name 4 "missing")] }] }] }

def Declaration.letter : Declaration where
  line := 3
  typeName := "char"
  name := "letter"
  value := some (.char 3 "a")
  isStatic := false

/-- A compound assignment to that variable. -/
def Expr.shifting (operator : String) (amount : Int) : Expr :=
  .compound 5 (.name 5 "letter") operator (.int 5 amount)

theorem reads_letter :
    (Slot.binding ((Context.stopped .letter).execute.run State.initial).state.current "letter").read.run
        ((Context.stopped .letter).execute.run State.initial).state =
      .ok (.char 'a') ((Context.stopped .letter).execute.run State.initial).state := by
  have held : ((Slot.binding ((Context.stopped .letter).execute.run State.initial).state.current "letter").read.run
      ((Context.stopped .letter).execute.run State.initial).state).value? = some (.char 'a') := by decide +kernel
  obtain ⟨same, readBefore⟩ := Ending.exists_of_value? held
  obtain ⟨rfl, -⟩ := Slot.read_eq_ok.mp readBefore
  exact readBefore

/-- One more is the next character, in the place where the variable is bound. -/
theorem letter_shifted :
    ∃ state final, (Context.stopped .letter).Reaches state ∧
      ((Expr.shifting "+=" 1).eval (.stopped .letter) (.within (.stopped .letter) 1)).run state = .ok (.char 'b') final ∧
      (Slot.binding state.current "letter").read.run final = .ok (.char 'b') final ∧
      Value.Keeps ((Slot.binding state.current "letter").declaredType state) (.char 'a') (.int 1) (.int 98)
        (.char 'b') := by
  have reached := (Context.stopped .letter).execute.passes_ending State.initial
  have yields : (((Expr.shifting "+=" 1).eval (.stopped .letter) (.within (.stopped .letter) 1)).run
      ((Context.stopped .letter).execute.run State.initial).state).value? = some (.char 'b') := by decide +kernel
  obtain ⟨final, ended⟩ := Ending.exists_of_value? yields
  obtain ⟨slot, current, operand, result, middle, after, located, read, evaluated, computed, readAfter, keeps⟩ :=
    compound_keeps_kind _ _ reached 1 5 (.name 5 "letter") (.int 5 1) (by decide) ended
  rw [Expr.locate.eq_1] at located
  obtain ⟨rfl, rfl⟩ := Machine.ofName_eq_ok located
  rw [reads_letter] at read
  cases read
  rw [Expr.eval_literal rfl] at evaluated
  cases evaluated
  cases computed
  exact ⟨_, final, reached, ended, readAfter, keeps rfl rfl⟩

/-- A character that a subtraction takes below zero is an integer afterwards. -/
theorem letter_no_longer_character :
    ∃ state final, (Context.stopped .letter).Reaches state ∧
      (Slot.binding state.current "letter").read.run state = .ok (.char 'a') state ∧
      ((Expr.shifting "-=" 98).eval (.stopped .letter) (.within (.stopped .letter) 1)).run state = .ok (.int (-1)) final ∧
      (Value.int (-1)).kind ≠ (Value.char 'a').kind := by
  have reached := (Context.stopped .letter).execute.passes_ending State.initial
  have yields : (((Expr.shifting "-=" 98).eval (.stopped .letter) (.within (.stopped .letter) 1)).run
      ((Context.stopped .letter).execute.run State.initial).state).value? = some (.int (-1)) := by decide +kernel
  obtain ⟨final, ended⟩ := Ending.exists_of_value? yields
  exact ⟨_, final, reached, reads_letter, ended, by decide⟩

end Stepwise
