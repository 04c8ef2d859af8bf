import Mathlib.Algebra.Order.Floor.Ring
import Mathlib.Algebra.Order.Field.Rat
import Mathlib.Data.Rat.Floor
import Mathlib.Tactic.FieldSimp
import Mathlib.Tactic.Linarith
import Mathlib.Tactic.Positivity
import Stepwise.Proofs.Shadowing
import Stepwise.Proofs.UpdateForms

/-!
# Division of integers

The quotient of two integers is that of the rationals without its fraction, and the remainder is what is left of the
dividend, with its sign. A divisor of zero is refused, and this is all that integral arithmetic ever refuses. A compound
assignment to a variable for integers stores what the operator yields.
-/

namespace Stepwise

set_option autoImplicit false

/-- The quotient of the absolute values, signed, is the one that cuts off towards zero. -/
theorem signedQuotient_eq_tdiv (dividend divisor : Int) : signedQuotient dividend divisor = dividend.tdiv divisor := by
  have nonnegative (number : Nat) : ¬Int.ofNat number < 0 := Int.not_lt.mpr (Int.natCast_nonneg number)
  have negative := Int.negSucc_lt_zero
  unfold signedQuotient
  cases dividend with
  | ofNat left =>
      cases divisor with
      | ofNat right =>
          rw [if_pos (iff_of_false (nonnegative left) (nonnegative right))]
          rfl
      | negSucc right =>
          rw [if_neg fun alike => nonnegative left (alike.mpr (negative right))]
          rfl
  | negSucc left =>
      cases divisor with
      | ofNat right =>
          rw [if_neg fun alike => nonnegative right (alike.mp (negative left))]
          rfl
      | negSucc right =>
          rw [if_pos (iff_of_true (negative left) (negative right))]
          rfl

theorem signedRemainder_eq_tmod (dividend divisor : Int) : signedRemainder dividend divisor = dividend.tmod divisor := by
  unfold signedRemainder
  cases dividend with
  | ofNat left =>
      rw [if_pos (show 0 ≤ Int.ofNat left from Int.natCast_nonneg left)]
      cases divisor <;> rfl
  | negSucc left =>
      rw [if_neg (Int.not_le.mpr (Int.negSucc_lt_zero left))]
      cases divisor <;> rfl

/-- The quotient and the remainder of a division that cuts off towards zero. -/
structure CutsOff (dividend divisor quotient remainder : Int) : Prop where
  sum : dividend = quotient * divisor + remainder
  smaller : |remainder| < |divisor|
  sign : remainder = 0 ∨ remainder.sign = dividend.sign
  towardsZero : quotient =
    if 0 ≤ (dividend : ℚ) / divisor then ⌊(dividend : ℚ) / divisor⌋ else ⌈(dividend : ℚ) / divisor⌉

namespace CutsOff

variable {dividend divisor quotient remainder : Int}

theorem towardsZero_of_sign (sum : dividend = quotient * divisor + remainder) (smaller : |remainder| < |divisor|)
    (sign : remainder = 0 ∨ remainder.sign = dividend.sign) :
    quotient =
      if 0 ≤ (dividend : ℚ) / divisor then ⌊(dividend : ℚ) / divisor⌋ else ⌈(dividend : ℚ) / divisor⌉ := by
  have nonzero : (divisor : ℚ) ≠ 0 := by
    rintro zero
    rw [Int.cast_eq_zero.mp zero, abs_zero] at smaller
    exact absurd (abs_nonneg remainder) (not_le.mpr smaller)
  have fraction : (dividend : ℚ) / divisor = quotient + (remainder : ℚ) / divisor := by
    rw [sum, Int.cast_add, Int.cast_mul, add_div, mul_div_cancel_right₀ _ nonzero]
  have small : |(remainder : ℚ) / divisor| < 1 := by
    rw [abs_div, div_lt_one (abs_pos.mpr nonzero)]
    exact_mod_cast smaller
  obtain ⟨above, below⟩ := abs_lt.mp small
  have alike : 0 ≤ (remainder : ℚ) / divisor * ((dividend : ℚ) / divisor) := by
    rw [div_mul_div_comm]
    refine div_nonneg ?_ (mul_self_nonneg _)
    rcases sign with zero | same
    · rw [zero, Int.cast_zero, zero_mul]
    · have product : 0 ≤ remainder * dividend := by
        rw [← Int.sign_nonneg_iff, Int.sign_mul, same]
        exact mul_self_nonneg _
      exact_mod_cast product
  by_cases positive : 0 ≤ (dividend : ℚ) / divisor
  · rw [if_pos positive, eq_comm, Int.floor_eq_iff, fraction]
    have nonnegative : 0 ≤ (remainder : ℚ) / divisor := by
      by_contra negative
      -- Then the quotient of the rationals is zero, and the one cut off lies strictly between zero and one.
      have zero : (dividend : ℚ) / divisor = 0 := by nlinarith
      have lower : (0 : ℚ) < quotient := by linarith
      have upper : (quotient : ℚ) < 1 := by linarith
      norm_cast at lower upper
      omega
    exact ⟨by linarith, by linarith⟩
  · rw [if_neg positive, eq_comm, Int.ceil_eq_iff, fraction]
    have nonpositive : (remainder : ℚ) / divisor ≤ 0 := by nlinarith
    exact ⟨by linarith, by linarith⟩

theorem tdiv_tmod (dividend : Int) (nonzero : divisor ≠ 0) :
    CutsOff dividend divisor (dividend.tdiv divisor) (dividend.tmod divisor) := by
  have sum : dividend = dividend.tdiv divisor * divisor + dividend.tmod divisor :=
    (Int.tdiv_mul_add_tmod dividend divisor).symm
  have smaller : |dividend.tmod divisor| < |divisor| := by
    rw [Int.abs_eq_natAbs, Int.abs_eq_natAbs, Int.natAbs_tmod]
    exact_mod_cast Nat.mod_lt _ (Int.natAbs_pos.mpr nonzero)
  have sign : dividend.tmod divisor = 0 ∨ (dividend.tmod divisor).sign = dividend.sign := by
    by_cases divides : divisor ∣ dividend
    · exact .inl (Int.tmod_eq_zero_of_dvd divides)
    · exact .inr (by rw [Int.sign_tmod, if_neg divides])
  exact ⟨sum, smaller, sign, towardsZero_of_sign sum smaller sign⟩

end CutsOff

namespace Value

variable {heap : Heap} {line : Nat} {left right : Value} {dividend divisor : Int} {spelling : String}

theorem numeric?_of_integral? {value : Value} {integer : Int} (integral : value.integral? = some integer) :
    value.numeric? = some (.integral integer) := by
  cases value with
  | int | char =>
      cases integral
      rfl
  | double | bool | string | null | ref | void | class_ => cases integral

theorem exists_arithmetic (member : spelling ∈ ["+", "-", "*", "/", "%"]) :
    ∃ operation, BinaryOperator.ofSpelling? spelling = some (.arithmetic operation) ∧
      (operation = .divide ∨ operation = .remainder ↔ spelling ∈ ["/", "%"]) := by
  have all : ∀ spelling ∈ ["+", "-", "*", "/", "%"],
      ∃ operation ∈ [Arithmetic.add, .subtract, .multiply, .divide, .remainder],
        BinaryOperator.ofSpelling? spelling = some (.arithmetic operation) ∧
          (operation = .divide ∨ operation = .remainder ↔ spelling ∈ ["/", "%"]) := by decide
  obtain ⟨operation, -, named, divides⟩ := all spelling member
  exact ⟨operation, named, divides⟩

theorem integralArithmetic_eq_error_iff {operation : Arithmetic} {failure : Failure} :
    integralArithmetic line dividend divisor operation = .error failure ↔
      divisor = 0 ∧ (operation = .divide ∨ operation = .remainder) ∧ failure = .onLine line .divisionByZero := by
  cases operation with
  | add | subtract | multiply => simp [integralArithmetic]
  | divide | remainder =>
      by_cases zero : divisor = 0
      · simp [integralArithmetic, zero, eq_comm]
      · simp [integralArithmetic, zero]

section Integral

variable {operation : Arithmetic} (first : left.integral? = some dividend) (second : right.integral? = some divisor)
include first second

theorem binary_of_integral (named : BinaryOperator.ofSpelling? spelling = some (.arithmetic operation)) :
    binary heap line spelling left right = integralArithmetic line dividend divisor operation :=
  binary_of_arithmetic named (numeric?_of_integral? first) (numeric?_of_integral? second) heap line

/-- Arithmetic on integers and characters fails for a divisor of zero and for nothing else. -/
theorem binary_eq_error_iff (member : spelling ∈ ["+", "-", "*", "/", "%"]) {failure : Failure} :
    binary heap line spelling left right = .error failure ↔
      divisor = 0 ∧ spelling ∈ ["/", "%"] ∧ failure = .onLine line .divisionByZero := by
  obtain ⟨operation, named, divides⟩ := exists_arithmetic member
  rw [binary_of_integral first second named, integralArithmetic_eq_error_iff, divides]

theorem binary_divide (nonzero : divisor ≠ 0) :
    binary heap line "/" left right = .ok (int (dividend.tdiv divisor)) := by
  have named : BinaryOperator.ofSpelling? "/" = some (.arithmetic .divide) := rfl
  rw [binary_of_integral first second named]
  simp only [integralArithmetic, if_neg nonzero, signedQuotient_eq_tdiv]

theorem binary_remainder (nonzero : divisor ≠ 0) :
    binary heap line "%" left right = .ok (int (dividend.tmod divisor)) := by
  have named : BinaryOperator.ofSpelling? "%" = some (.arithmetic .remainder) := rfl
  rw [binary_of_integral first second named]
  simp only [integralArithmetic, if_neg nonzero, signedRemainder_eq_tmod]

end Integral

end Value

/-- The computation has put the value under the name, and it yields the value unless the limit of steps cuts it off. -/
def Ending.Stores (options : Options) (line scope : Nat) (name : String) (value : Value) (ending : Ending Value) :
    Prop :=
  ending.state.scopes.lookup scope name = .ok value ∧ (ending.WithinLimit options line → ending.value? = some value)

namespace Machine

variable {state : State} {scope owner : Nat} {name : String} {record : Scope} {found : Binding} {value stored : Value}

theorem stores_binding (bound : state.scopes.binding scope name = .ok (owner, record, found))
    (coerced : value.coerce found.typeName = .ok stored) (options : Options) (line : Nat) :
    ((store options line (.binding scope name) value).run state).Stores options line scope name stored := by
  have assigned : state.scopes.assign scope name value =
      .ok (stored, state.scopes.replaced owner (record.store name stored)) := by
    simp only [Scopes.assign, bound, coerced, Scopes.replaced]
  have held : (state.scopes.replaced owner (record.store name stored)).lookup scope name = .ok stored :=
    Scopes.lookup_assign_of_same assigned rfl
  rw [run_store_binding bound, coerced]
  dsimp only
  rw [run_bind, run_record]
  by_cases full : options.maxSteps ≤ state.steps.size
  · rw [if_pos full]
    exact ⟨held, fun within => absurd rfl (within _)⟩
  · rw [if_neg full]
    exact ⟨held, fun _ => rfl⟩

end Machine

/-- A variable for integers in a reachable state, what it holds, and an expression with what it evaluates to there. -/
structure IntegerUpdate (context : Context) (room : Nat) (state : State) (name : String) (current : Int)
    (expression : Expr) (operand : Value) (after : State) : Prop where
  reached : context.Reaches state
  bound : ∃ owner record found, state.scopes.binding state.current name = .ok (owner, record, found) ∧
    found.typeName ∈ [some "int", some "long"] ∧ found.value = .int current
  evaluated : (expression.eval context (Calls.within context room)).run state = .ok operand after

/-- How a compound assignment to a variable ends, with calls that have so much room. -/
def Context.updating (context : Context) (room line nameLine : Nat) (name combine : String) (expression : Expr)
    (state : State) : Ending Value :=
  ((Expr.compound line (.name nameLine name) combine expression).eval context (Calls.within context room)).run state

section Compound

variable {context : Context} {room : Nat} {state after : State} {name : String} {current : Int} {expression : Expr}
  {operand : Value}

/-- A compound assignment to a variable for integers applies its operator to what the variable held and what the operand
evaluates to. It stores the integer that this yields, and fails as this fails. -/
theorem IntegerUpdate.ends (update : IntegerUpdate context room state name current expression operand after)
    {operator combine : String} (same : compoundOperator combine = operator) (line nameLine : Nat) :
    (∀ integer, Value.binary after.heap line operator (.int current) operand = .ok (.int integer) →
      (context.updating room line nameLine name combine expression state).Stores context.options line state.current name
        (.int integer)) ∧
    ∀ failure, Value.binary after.heap line operator (.int current) operand = .error failure →
      context.updating room line nameLine name combine expression state = .error failure after := by
  obtain ⟨reached, ⟨owner, record, found, bound, declared, held⟩, evaluated⟩ := update
  obtain ⟨fits, later, other, boundAfter, sameType⟩ := reached.bound_after bound evaluated
  rw [← sameType] at fits declared
  have named : other.typeName.bind Primitive.ofName? = some .integer := by
    simp only [List.mem_cons, List.not_mem_nil, or_false] at declared
    rcases declared with int | long
    · rw [int]
      decide
    · rw [long]
      decide
  rw [Context.updating, Machine.run_compound context _ bound, Machine.run_bind_of_ok _ evaluated,
    Machine.run_storeCompound_binding boundAfter named (.inl rfl) fits, same, held]
  refine ⟨fun integer computed => ?_, fun failure failed => ?_⟩
  · rw [computed]
    refine Machine.stores_binding boundAfter ?_ context.options line
    simp only [Value.coerce, named, Value.coerceTo]
  · rw [failed]
    rfl

end Compound

/-- For integers and characters `/` and `%` yield the quotient cut off towards zero and its remainder, and a compound
assignment to a variable for integers stores the same two. With a divisor of zero they fail, and nothing else in the
arithmetic of integers does. -/
theorem division_cuts_off :
    (∀ dividend divisor : Int, divisor ≠ 0 → ∃ quotient remainder, CutsOff dividend divisor quotient remainder ∧
      (∀ (heap : Heap) (line : Nat) (left right : Value), left.integral? = some dividend →
        right.integral? = some divisor →
        Value.binary heap line "/" left right = .ok (.int quotient) ∧
          Value.binary heap line "%" left right = .ok (.int remainder)) ∧
      ∀ (context : Context) (room line nameLine : Nat) (state after : State) (name : String) (expression : Expr)
        (operand : Value), IntegerUpdate context room state name dividend expression operand after →
        operand.integral? = some divisor →
        (context.updating room line nameLine name "/=" expression state).Stores context.options line state.current name
            (.int quotient) ∧
          (context.updating room line nameLine name "%=" expression state).Stores context.options line state.current
            name (.int remainder)) ∧
    (∀ (heap : Heap) (line : Nat) (left right : Value) (dividend divisor : Int), left.integral? = some dividend →
      right.integral? = some divisor → ∀ spelling ∈ ["+", "-", "*", "/", "%"], ∀ failure,
        Value.binary heap line spelling left right = .error failure ↔
          divisor = 0 ∧ spelling ∈ ["/", "%"] ∧ failure = .onLine line .divisionByZero) ∧
    (∀ (context : Context) (room line nameLine : Nat) (state after : State) (name : String) (current : Int)
      (expression : Expr) (operand : Value), IntegerUpdate context room state name current expression operand after →
      operand.integral? = some 0 → ∀ combine ∈ ["/=", "%="],
        context.updating room line nameLine name combine expression state =
          .error (.onLine line .divisionByZero) after) ∧
    Issue.divisionByZero.message = "Division by zero." := by
  refine ⟨?cutOff, ?refused, ?refusedCompound, rfl⟩
  case cutOff =>
    intro dividend divisor nonzero
    refine ⟨_, _, CutsOff.tdiv_tmod dividend nonzero, ?_, ?_⟩
    · intro heap line left right first second
      exact ⟨Value.binary_divide first second nonzero, Value.binary_remainder first second nonzero⟩
    · intro context room line nameLine state after name expression operand update integral
      exact ⟨(update.ends (by decide) line nameLine).1 _ (Value.binary_divide rfl integral nonzero),
        (update.ends (by decide) line nameLine).1 _ (Value.binary_remainder rfl integral nonzero)⟩
  case refused =>
    intro heap line left right dividend divisor first second spelling member failure
    exact Value.binary_eq_error_iff first second member
  case refusedCompound =>
    intro context room line nameLine state after name current expression operand update zero combine member
    have spelled : ∀ combine ∈ ["/=", "%="], compoundOperator combine ∈ ["/", "%"] ∧
        compoundOperator combine ∈ ["+", "-", "*", "/", "%"] := by decide
    obtain ⟨divides, arithmetic⟩ := spelled combine member
    exact (update.ends rfl line nameLine).2 _ ((Value.binary_eq_error_iff rfl zero arithmetic).mpr ⟨rfl, divides, rfl⟩)

def Declaration.debt : Declaration where
  line := 3
  typeName := "int"
  name := "debt"
  value := some (.unary 3 "-" (.int 3 7))
  isStatic := false

/-- A debt of seven halved is one of three, and one is left over. -/
theorem debt_halved :
    ∃ state, IntegerUpdate (.stopped .debt) 1 state "debt" (-7) (.int 5 2) (.int 2) state ∧
      (Value.int (-7)).integral? = some (-7) ∧ (Value.int 2).integral? = some 2 ∧
      ((Context.stopped .debt).updating 1 5 5 "debt" "/=" (.int 5 2) state).Stores (Context.stopped .debt).options 5
        state.current "debt" (.int (-3)) ∧
      ((Context.stopped .debt).updating 1 5 5 "debt" "%=" (.int 5 2) state).Stores (Context.stopped .debt).options 5
        state.current "debt" (.int (-1)) := by
  have reached := (Context.stopped .debt).execute.passes_ending State.initial
  have bound : ((Context.stopped .debt).execute.run State.initial).state.scopes.binding
      ((Context.stopped .debt).execute.run State.initial).state.current "debt" =
      .ok (1, { parent := some 0, bindings := [{ name := "debt", value := .int (-7), typeName := some "int" }] },
        { name := "debt", value := .int (-7), typeName := some "int" }) := by decide +kernel
  have update : IntegerUpdate (.stopped .debt) 1 ((Context.stopped .debt).execute.run State.initial).state "debt" (-7)
      (.int 5 2) (.int 2) ((Context.stopped .debt).execute.run State.initial).state :=
    { reached, bound := ⟨_, _, _, bound, by decide, rfl⟩
      evaluated := by
        rw [Expr.eval_literal rfl]
        rfl }
  obtain ⟨quotient, remainder, -, computes, stores⟩ := division_cuts_off.1 (-7) 2 (by decide)
  obtain ⟨divided, rest⟩ := computes .empty 5 (.int (-7)) (.int 2) rfl rfl
  obtain rfl : -3 = quotient := by
    cases divided
    rfl
  obtain rfl : -1 = remainder := by
    cases rest
    rfl
  obtain ⟨quotientStored, remainderStored⟩ := stores _ 1 5 5 _ _ _ _ _ update rfl
  exact ⟨_, update, rfl, rfl, quotientStored, remainderStored⟩

end Stepwise
