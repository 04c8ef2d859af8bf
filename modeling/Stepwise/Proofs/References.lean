import Stepwise.Proofs.Heap
import Stepwise.Proofs.Values
import Stepwise.Eval.Expression

/-!
# Operations on references that lead somewhere

A value is anchored in a heap if it is no reference, or refers to a cell of the heap. Operators, conversions and the
console, applied to such values, yield such values, and they never fail for want of a cell.
-/

namespace Stepwise

set_option autoImplicit false

/-- If the value is a reference, its cell exists. -/
def Value.Anchored (heap : Heap) : Value → Prop
  | .ref handle => handle < heap.size
  | _ => True

theorem Value.IsPlain.anchored {value : Value} (plain : value.IsPlain) (heap : Heap) : value.Anchored heap := by
  cases value with
  | ref handle => exact plain.elim
  | _ => trivial

theorem Value.Anchored.mono {value : Value} {before after : Heap} (anchored : value.Anchored before)
    (continues : before.Continues after) : value.Anchored after := by
  cases value with
  | ref handle => exact continues.lt_size anchored
  | _ => trivial

/-- An outcome is sound if it is as required, or a failure that has nothing to do with missing cells. -/
def Sound {α : Type} (outcome : Except Failure α) (required : α → Prop) : Prop :=
  (∀ result, outcome = .ok result → required result) ∧ ∀ failure, outcome = .error failure → failure.Benign

namespace Sound

variable {α β : Type}

theorem ok {result : α} {required : α → Prop} (holds : required result) : Sound (.ok result) required := by
  refine ⟨?_, nofun⟩
  intro other same
  cases same
  exact holds

theorem error {failure : Failure} {required : α → Prop} (benign : failure.Benign) :
    Sound (.error failure : Except Failure α) required := by
  refine ⟨nofun, ?_⟩
  intro other same
  cases same
  exact benign

theorem bind {outcome : Except Failure α} {next : α → Except Failure β} {middle : α → Prop} {required : β → Prop}
    (sound : Sound outcome middle) (others : ∀ result, middle result → Sound (next result) required) :
    Sound (outcome >>= next) required := by
  cases outcome with
  | ok result => exact others result (sound.1 result rfl)
  | error failure => exact error (sound.2 failure rfl)

theorem imp {outcome : Except Failure α} {required weaker : α → Prop} (sound : Sound outcome required)
    (weakens : ∀ result, required result → weaker result) : Sound outcome weaker :=
  ⟨fun result same => weakens result (sound.1 result same), sound.2⟩

theorem map {outcome : Except Failure α} {change : α → β} {middle : α → Prop} {required : β → Prop}
    (sound : Sound outcome middle) (keeps : ∀ result, middle result → required (change result)) :
    Sound (change <$> outcome) required := by
  cases outcome with
  | ok result => exact ok (keeps result (sound.1 result rfl))
  | error failure => exact error (sound.2 failure rfl)

theorem of_benign {outcome : Except Failure α} (benign : ∀ failure, outcome = .error failure → failure.Benign) :
    Sound outcome fun _ => True :=
  ⟨fun _ _ => trivial, benign⟩

end Sound

theorem Number.sound_integerText (integer : Int) : Sound (liftFault (Number.integerText integer)) fun _ => True :=
  .of_benign fun _ failed => benign_of_integerText failed

namespace Value

variable {heap : Heap}

theorem sound_text {value : Value} (anchored : value.Anchored heap) : Sound (value.text heap) fun _ => True := by
  cases value with
  | int integer => exact (Number.sound_integerText integer).map fun _ _ => trivial
  | ref handle =>
      obtain ⟨cell, found⟩ := Option.isSome_iff_exists.mp (Heap.get?_isSome.mpr anchored)
      rw [text, found]
      cases cell <;> exact .ok trivial
  | _ => exact .ok trivial

theorem sound_rawText {value : Value} (anchored : value.Anchored heap) :
    Sound (value.rawText heap) fun _ => True := by
  unfold rawText
  split
  · exact .ok trivial
  · exact sound_text anchored

theorem sound_consoleText {value : Value} (anchored : value.Anchored heap) :
    Sound (value.consoleText heap) fun _ => True := by
  have sound := sound_rawText anchored
  unfold consoleText
  cases outcome : value.rawText heap with
  | ok raw => exact .ok trivial
  | error failure => exact .error (sound.2 failure outcome)

theorem sound_joined {left right : Value} (first : left.Anchored heap) (second : right.Anchored heap) :
    Sound (joined heap left right) (Anchored heap) := by
  refine (sound_rawText first).bind fun leftText _ => ?_
  exact (sound_rawText second).bind fun rightText _ => .ok trivial

theorem sound_integralArithmetic (line : Nat) (left right : Int) (operation : Arithmetic) :
    Sound (integralArithmetic line left right operation) IsPlain := by
  cases operation with
  | add | subtract | multiply => exact .ok trivial
  | divide | remainder =>
      simp only [integralArithmetic]
      split
      · exact .error trivial
      · exact .ok trivial

theorem sound_doubleRemainder (left right : Float) : Sound (doubleRemainder left right) fun _ => True := by
  unfold doubleRemainder
  split
  · exact .ok trivial
  · exact .ok trivial
  · exact .ok trivial
  · exact .error trivial
  · exact .ok trivial
  · exact .ok trivial

theorem sound_doubleArithmetic (left right : Float) (operation : Arithmetic) :
    Sound (doubleArithmetic left right operation) IsPlain := by
  cases operation with
  | add | subtract | multiply | divide => exact .ok trivial
  | remainder =>
      have sound := sound_doubleRemainder left right
      simp only [doubleArithmetic]
      split
      · exact .ok trivial
      · next failure failed => exact .error (sound.2 failure failed)

theorem sound_numericArithmetic (line : Nat) (operation : Arithmetic) (left right : Numeric) :
    Sound (numericArithmetic line operation left right) IsPlain := by
  unfold numericArithmetic
  split
  · exact sound_integralArithmetic line _ _ operation
  · have converts : ∀ number : Numeric, Sound number.toDouble fun _ => True := fun number =>
      .of_benign fun _ failed => benign_of_toDouble failed
    refine (converts left).bind fun leftDouble _ => ?_
    exact (converts right).bind fun rightDouble _ => sound_doubleArithmetic leftDouble rightDouble operation

theorem sound_binary {left right : Value} (line : Nat) (spelling : String) (first : left.Anchored heap)
    (second : right.Anchored heap) : Sound (binary heap line spelling left right) (Anchored heap) := by
  unfold binary
  split
  · unfold applyBinary
    split
    · exact .ok trivial
    · exact .ok trivial
    · exact (sound_numericArithmetic line _ _ _).imp fun result plain => plain.anchored heap
    · exact .ok trivial
    · exact sound_joined first second
    · exact .error trivial
  · exact .error trivial

theorem sound_coerce {value : Value} (typeName : Option String) (anchored : value.Anchored heap) :
    Sound (value.coerce typeName) (Anchored heap) := by
  refine ⟨?_, fun _ failed => benign_of_coerce failed⟩
  intro stored coerced
  rcases plain_or_eq_of_coerce coerced with plain | rfl
  · exact plain.anchored heap
  · exact anchored

theorem sound_narrowedLike {result : Value} (current : Value) (anchored : result.Anchored heap) :
    Sound (current.narrowedLike result) (Anchored heap) := by
  refine ⟨?_, fun _ failed => benign_of_narrowedLike failed⟩
  intro stored narrowed
  rcases plain_or_eq_of_narrowedLike narrowed with plain | rfl
  · exact plain.anchored heap
  · exact anchored

end Value

namespace Template

variable {heap : Heap}

theorem benign_of_readInteger {text : String} {fault : Fault} (failed : Number.readInteger text = .error fault) :
    (Failure.fault fault).Benign := by
  unfold Number.readInteger at failed
  split at failed
  split at failed
  split at failed
  · cases failed
    trivial
  · split at failed
    · cases failed
      trivial
    · cases failed

theorem sound_fixedArgument (count : Option String) (number : Numeric) :
    Sound (fixedArgument count number) fun _ => True := by
  have finish : ∀ digits : Int, True → Sound
      (do
        let double ← number.toDouble
        if maxPlaces < digits.toNat then .error (.fault (.tooManyPlaces digits.toNat))
        else .ok (Number.fixedText digits.toNat double) : Except Failure String) fun _ => True := by
    intro digits _
    refine (Sound.of_benign fun _ failed => Value.benign_of_toDouble failed).bind fun double _ => ?_
    split
    · exact .error trivial
    · exact .ok trivial
  cases count with
  | none => exact finish 6 trivial
  | some text =>
      have reads : Sound (liftFault (Number.readInteger text)) fun _ => True :=
        .of_benign fun _ failed => benign_of_liftFault (fun _ => benign_of_readInteger) failed
      exact reads.bind finish

theorem sound_argument {value : Value} (count : Option String) (conversion : Conversion)
    (anchored : value.Anchored heap) : Sound (argument heap count conversion value) fun _ => True := by
  unfold argument
  split
  · exact (sound_fixedArgument _ _).map fun _ _ => trivial
  · exact (Number.sound_integerText _).map fun _ _ => trivial
  · exact Value.sound_text anchored

/-- Showing a template. The induction follows the pieces; those that show an argument take one each. -/
theorem sound_fill (pieces : List Piece) (values : List Value) (anchored : ∀ value ∈ values, value.Anchored heap) :
    Sound (fill heap pieces values) fun _ => True := by
  fun_induction fill heap pieces values with
  | case1 => exact .ok trivial
  | case2 char rest values hypothesis => exact (hypothesis anchored).map fun _ _ => trivial
  | case3 places rest values hypothesis => exact (hypothesis anchored).map fun _ _ => trivial
  | case4 places rest values hypothesis => exact (hypothesis anchored).map fun _ _ => trivial
  | case5 places conversion rest _ _ hypothesis => exact hypothesis anchored
  | case6 count conversion rest value values _ _ failure failed =>
      have shows := sound_argument count conversion (anchored value List.mem_cons_self)
      exact .error (shows.2 failure failed)
  | case7 count conversion rest value values _ _ text _ hypothesis =>
      have others := hypothesis fun other member => anchored other (List.mem_cons_of_mem _ member)
      exact others.map fun _ _ => trivial

end Template

theorem ConsoleMethod.sound_output {heap : Heap} {arguments : List Value} (method : ConsoleMethod)
    (anchored : ∀ value ∈ arguments, value.Anchored heap) : Sound (method.output heap arguments) fun _ => True := by
  cases arguments with
  | nil => cases method <;> exact .ok trivial
  | cons value values =>
      have first := Value.sound_consoleText (anchored value List.mem_cons_self)
      cases method with
      | println => exact first.map fun _ _ => trivial
      | print => exact first
      | printf =>
          refine first.bind fun text _ => ?_
          exact Template.sound_fill _ _ fun other member => anchored other (List.mem_cons_of_mem _ member)

end Stepwise
