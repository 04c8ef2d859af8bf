import Stepwise.Proofs.Escapes.Values
import Stepwise.Proofs.Linkage.Run
import Stepwise.Proofs.Reading.Shape

/-!
# The strings of a run

Strings come to a run from its literals, and from there on by joining texts; the names of types and classes, which show
in the texts of references, have no backslash. So in every state of a run of a compiled source each string is closed,
wherever it is held, whatever is evaluated yields closed strings, and all of them are spelled in the style of the
literals. Hence a sum that joins texts is written to the console as its two parts would be, one after the other: a
backslash at the end of the one cannot take hold of what the other begins with.
-/

namespace Stepwise

set_option autoImplicit false

/-- What the cell holds is closed and spelled in the style, and its label has no backslash. -/
def Cell.SpelledIn (style : Text.Style) : Cell → Prop
  | .array elementType values => Text.Solid elementType ∧ ∀ value ∈ values, value.SpelledIn style
  | .object className fields => Text.Solid className ∧ ∀ field ∈ fields, field.2.SpelledIn style

structure Step.SpelledIn (style : Text.Style) (step : Step) : Prop where
  bindings : ∀ entry ∈ step.bindings, ∀ value, entry.2 = some value → value.SpelledIn style
  heap : step.heap.Hold (Cell.SpelledIn style)

structure State.SpelledIn (style : Text.Style) (state : State) : Prop where
  scopes : state.scopes.Hold (Value.SpelledIn style)
  heap : state.heap.Hold (Cell.SpelledIn style)
  steps : ∀ step ∈ state.steps, step.SpelledIn style

/-- The raw text of a string literal is closed and spelled in the style, and the element type of an array has no
backslash. -/
def Expr.SpelledIn (style : Text.Style) : Expr → Prop
  | .string _ raw => Text.SpelledIn style raw
  | .newArray _ elementType _ | .arrayOf _ elementType _ => Text.Solid elementType
  | _ => True

def Discipline.spelling (style : Text.Style) (context : Context) : Discipline context where
  node := Expr.SpelledIn style
  settled _ := State.SpelledIn style
  throughout := State.SpelledIn style
  leads _ _ := True
  value _ := Value.SpelledIn style
  slot _ _ := True
  tolerates _ := True
  declaration declaration := '\\' ∉ declaration.typeName.toList
  element name := Text.Solid name

variable {context : Context} {style : Text.Style}

theorem Heap.labelled_of_spelledIn {heap : Heap} (spelled : heap.Hold (Cell.SpelledIn style)) : heap.Labelled := by
  intro handle cell found
  have held := spelled handle cell found
  cases cell with
  | array elementType values => exact held.1
  | object className fields => exact held.1

namespace State.SpelledIn

variable {state after : State}

theorem rescoped (spelled : state.SpelledIn style) {scopes : Scopes} (hold : scopes.Hold (Value.SpelledIn style))
    (current : Nat) : State.SpelledIn style { state with scopes, current } :=
  ⟨hold, spelled.heap, spelled.steps⟩

theorem grown (spelled : state.SpelledIn style) {heap : Heap} (held : heap.Hold (Cell.SpelledIn style)) :
    State.SpelledIn style { state with heap } :=
  ⟨spelled.scopes, held, spelled.steps⟩

theorem framed (spelled : state.SpelledIn style) (frames : List Frame) : State.SpelledIn style { state with frames } :=
  ⟨spelled.scopes, spelled.heap, spelled.steps⟩

theorem sameCore (spelled : state.SpelledIn style) (same : state.SameCore after) : after.SpelledIn style where
  scopes := by
    rw [same.scopes]
    exact spelled.scopes
  heap := by
    rw [same.heap]
    exact spelled.heap
  steps := by
    rw [same.steps]
    exact spelled.steps

theorem recorded (spelled : state.SpelledIn style) (options : Options) (line : Nat) (console : Option Text)
    (event : Option Event) : (state.recorded options line console event).SpelledIn style where
  scopes := spelled.scopes
  heap := spelled.heap
  steps step member := by
    rcases Array.mem_push.mp member with before | this
    · exact spelled.steps step before
    · rw [this]
      exact ⟨State.visible_of_hold spelled.scopes options.mode, spelled.heap⟩

theorem written {slot : Slot} {value stored : Value} (spelled : state.SpelledIn style) (given : value.SpelledIn style)
    (effect : slot.Written value state stored after) : after.SpelledIn style ∧ stored.SpelledIn style := by
  cases effect with
  | binding assigned =>
      obtain ⟨-, -, _, -, -, -, coerced, -⟩ := Scopes.assign_eq_ok assigned
      have kept := Value.spelledIn_coerce given coerced
      exact ⟨spelled.rescoped (spelled.scopes.assign kept assigned) state.current, kept⟩
  | @element handle position elementType values _ found coerced =>
      have kept := Value.spelledIn_coerce given coerced
      have before := spelled.heap handle _ found
      refine ⟨spelled.grown (spelled.heap.set handle ⟨before.1, fun item member => ?_⟩), kept⟩
      rcases Array.mem_or_eq_of_mem_setIfInBounds member with old | this
      · exact before.2 item old
      · rw [this]
        exact kept
  | @field handle name className fields found =>
      have before := spelled.heap handle _ found
      refine ⟨spelled.grown (spelled.heap.set handle ⟨before.1, fun field member => ?_⟩), given⟩
      rcases Pairs.mem_put member with this | old
      · rw [this]
        exact given
      · exact before.2 field old

end State.SpelledIn

theorem Cell.Made.spelledIn {cell : Cell} (named : ∀ decl ∈ context.program.classes, Text.Solid decl.name)
    (made : cell.Made context (fun name => Text.Solid name) (Value.SpelledIn style)) : cell.SpelledIn style := by
  cases cell with
  | array elementType values => exact ⟨made.1, fun value member => (made.2 value member).1⟩
  | object className fields =>
      obtain ⟨decl, found, admitted, -⟩ := made
      obtain ⟨rfl, member⟩ := Program.class?_eq_some found
      exact ⟨named decl member, fun field inside => (admitted field inside).1⟩

theorem Discipline.spelling_stateLaws (named : ∀ decl ∈ context.program.classes, Text.Solid decl.name) :
    (spelling style context).StateLaws where
  throughout_of_settled spelled := spelled
  leads_refl _ := trivial
  leads_trans _ _ := trivial
  bookkept ready same := ⟨ready.settled.sameCore same, trivial⟩
  recorded line console event ready _ := ⟨ready.settled.recorded _ line console event, trivial⟩
  declared ready given declared := by
    obtain ⟨-, -, -, coerced, -⟩ := Scopes.declare_eq_ok declared
    have hold := Scopes.Hold.declare ready.settled.scopes (Value.spelledIn_coerce given coerced) declared
    exact ⟨ready.settled.rescoped hold _, trivial⟩
  stored line ready _ given _ ended := by
    obtain ⟨spelled, kept⟩ := ready.settled.written given (Slot.written_of_run ended)
    exact ⟨spelled, spelled.recorded _ line none none, trivial, kept⟩
  allocated line ready made same := by
    subst same
    have spelled := ready.settled.grown (ready.settled.heap.allocate (Cell.Made.spelledIn named made))
    exact ⟨spelled, spelled.recorded _ line none (some .allocation), trivial, trivial⟩
  opened ready _ := ⟨ready.settled.rescoped (ready.settled.scopes.opened _) _, trivial⟩
  entered ready _ := ⟨ready.settled.rescoped ready.settled.scopes _, trivial⟩
  left ready newest _ _ := ⟨ready.settled.rescoped (ready.settled.scopes.released newest) _, trivial⟩
  pushed ready _ _ := ⟨ready.settled.framed _, trivial⟩
  popped ready _ := ⟨ready.settled.framed _, trivial⟩

theorem Discipline.spelling_finds {α : Type} {state : State} {computation : Machine α} {required : α → Prop}
    (yields : ∀ result final, computation.run state = .ok result final → required result) :
    (spelling style context).Finds state computation required :=
  ⟨yields, fun _ _ _ => trivial⟩

theorem Discipline.spelling_accepts {α : Type} {outcome : Except Failure α} {required : α → Prop}
    (yields : ∀ result, outcome = .ok result → required result) : (spelling style context).Accepts outcome required :=
  ⟨yields, fun _ _ => trivial⟩

theorem Discipline.spelling_read {state : State} (spelled : state.SpelledIn style) (slot : Slot) :
    (spelling style context).Finds state slot.read (Value.SpelledIn style) := by
  cases slot with
  | binding scope name => exact .look (.ofOutcome (spelling_accepts fun value found => spelled.scopes.lookup found))
  | element handle position =>
      refine .look ?_
      split
      · next elementType values found =>
          split
          · next value inside => exact .yields ((spelled.heap handle _ found).2 value (Array.mem_of_getElem? inside))
          · exact .fails trivial
      · exact .fails trivial
  | field handle name =>
      refine .look ?_
      split
      · next className fields found =>
          split
          · next value bound =>
              exact .yields ((spelled.heap handle _ found).2 _ (Pairs.mem_of_lookup bound))
          · exact .fails trivial
      · exact .fails trivial
  | length size => exact .yields trivial

theorem Discipline.spelling_valueLaws (named : ∀ decl ∈ context.program.classes, Text.Solid decl.name) :
    (spelling style context).ValueLaws where
  toContentLaws := .of_all fun _ _ _ => trivial
  plain _ _ isPlain := isPlain.spelledIn
  classValue _ _ member := named _ member
  text _ known := known
  character _ _ := by
    unfold Machine.literalChar
    split
    · exact .yields trivial
    · exact .fails trivial
  sized known := known
  listed known := known
  declaredElement solid _ := by
    apply Text.solid_ofString
    rw [String.toList_ofList]
    exact fun member => solid (List.dropLast_subset _ (List.dropLast_subset _ member))
  value_mono _ spelled := spelled
  slot_mono _ _ _ := trivial
  benign _ := trivial
  lookup _ ready := .look (.ofOutcome (spelling_accepts fun _ found => ready.settled.scopes.lookup found))
  ofName _ _ := spelling_finds fun _ _ _ => trivial
  here _ _ := trivial
  ofIndex _ _ _ _ := spelling_finds fun _ _ _ => trivial
  ofField _ _ _ _ := spelling_finds fun _ _ _ => trivial
  read ready _ := spelling_read ready.settled _
  write_error _ _ _ _ := trivial
  declare_error _ _ _ _ := trivial
  methodOf _ _ _ _ := spelling_finds fun _ _ _ => trivial
  binary _ _ ready first second := by
    have labelled := Heap.labelled_of_spelledIn ready.settled.heap
    exact spelling_accepts fun _ applied => Value.spelledIn_binary labelled first second applied
  narrowed _ spelled := spelling_accepts fun _ narrowed => Value.spelledIn_narrowedLike spelled narrowed
  coerced _ spelled := spelling_accepts fun _ coerced => Value.spelledIn_coerce spelled coerced
  console _ _ _ := spelling_accepts fun _ _ => trivial

theorem Discipline.spelling_laws (named : ∀ decl ∈ context.program.classes, Text.Solid decl.name) :
    (spelling style context).Laws where
  toStateLaws := spelling_stateLaws named
  toValueLaws := spelling_valueLaws named

theorem Text.Solid.of_nameParts {name : String} (parts : ∀ part ∈ name.toList, Scan.isNamePart part = true) :
    Text.Solid name :=
  Text.solid_ofString fun member => absurd (parts '\\' member) (by decide)

theorem Expr.ReadFrom.spelledIn {expression : Expr} (read : expression.ReadFrom Token.Genuine) :
    expression.SpelledIn .free := by
  cases read with
  | string given kind => exact (given.string kind).spelledIn_free
  | newArray given typed kind sized => exact Text.Solid.of_nameParts (typed.named_type kind.1).2
  | arrayOf given typed kind inner => exact Text.Solid.of_nameParts (typed.named_type kind.1).2
  | arrayLiteral given inner => exact Text.solid_ofString (by decide)
  -- The form of an operation depends on its level; none is a literal or an array.
  | @operation level => cases level <;> trivial
  | _ => trivial

def Expr.quoted? : Expr → Option String
  | .string _ raw => some raw
  | _ => none

/-- All string literals of the program are spelled in the style. -/
def Program.LiteralsIn (style : Text.Style) (program : Program) : Prop :=
  ∀ expression ∈ program.expressions, ∀ part ∈ expression.parts, ∀ raw ∈ part.quoted?,
    ∀ letter ∈ Text.letters (Text.ofString raw), style.admits letter

instance [DecidablePred style.admits] (program : Program) : Decidable (program.LiteralsIn style) :=
  inferInstanceAs (Decidable (∀ expression ∈ program.expressions, ∀ part ∈ expression.parts, ∀ raw ∈ part.quoted?,
    ∀ letter ∈ Text.letters (Text.ofString raw), style.admits letter))

theorem Program.literalsIn_free (program : Program) : program.LiteralsIn .free :=
  fun _ _ _ _ _ _ _ _ => trivial

theorem Expr.SpelledIn.restyled {expression : Expr} (spelled : expression.SpelledIn .free)
    (literal : ∀ raw ∈ expression.quoted?, ∀ letter ∈ Text.letters (Text.ofString raw), style.admits letter) :
    expression.SpelledIn style := by
  cases expression with
  | string line raw => exact ⟨Text.SpelledIn.closed spelled, literal raw rfl⟩
  | newArray line elementType size => exact spelled
  | arrayOf line elementType elements => exact spelled
  | _ => trivial

theorem TypeName.not_mem {known : TokenKind → Prop} {name : String} (typed : TypeName known name) :
    '\\' ∉ name.toList := by
  cases typed with
  | plain kind parts => exact fun member => absurd (parts '\\' member) (by decide)
  | @array base kind parts =>
      rw [String.toList_append, List.mem_append, not_or]
      exact ⟨fun member => absurd (parts '\\' member) (by decide), by decide⟩

namespace Context.Compiles

variable {source : String}

theorem spelled_parts (compiles : context.Compiles source) (literals : context.program.LiteralsIn style)
    {expression : Expr} (member : expression ∈ context.program.expressions) :
    ∀ part ∈ expression.parts, part.SpelledIn style := by
  intro part partOf
  have literal := literals expression member part partOf
  obtain ⟨compiled, accepted, same⟩ := compiles
  rw [← same] at member
  obtain ⟨decl, present, inside⟩ := List.mem_flatMap.mp member
  have read := (readFrom_genuine_of_compile accepted decl present).expressions expression inside
  exact (read.parts part partOf).spelledIn.restyled literal

theorem spelled_expressions (compiles : context.Compiles source) (literals : context.program.LiteralsIn style) :
    ∀ part ∈ context.program.expressions, part.SpelledIn style :=
  fun part member => compiles.spelled_parts literals member part part.mem_parts_self

theorem closed_classNames (compiles : context.Compiles source) :
    ∀ decl ∈ context.program.classes, Text.Solid decl.name := by
  obtain ⟨compiled, accepted, same⟩ := compiles
  rw [← same]
  intro decl member
  obtain ⟨token, genuine, kind, named⟩ := (readFrom_genuine_of_compile accepted decl member).name
  rw [named]
  exact .of_nameParts (genuine.identifier kind).2

theorem plain_typeNames (compiles : context.Compiles source) :
    ∀ declaration ∈ context.program.declarations, '\\' ∉ declaration.typeName.toList := by
  obtain ⟨compiled, accepted, same⟩ := compiles
  rw [← same]
  exact fun declaration inside => (shaped_declarations_of_compile accepted declaration inside).typed.not_mem

theorem spells (compiles : context.Compiles source) (literals : context.program.LiteralsIn style) :
    (Discipline.spelling style context).Upholds (· ≠ []) State.initial context.execute fun final _ =>
      (Discipline.spelling style context).Follows (some globalScope) maxCallDepth State.initial final := by
  have initial : State.initial.SpelledIn style := by
    refine ⟨fun handle scope found => ?_, Heap.hold_empty, nofun⟩
    rw [State.eq_of_initial found]
    exact nofun
  exact Discipline.runs_execute (Discipline.spelling_laws compiles.closed_classNames)
    (compiles.spelled_expressions literals) compiles.plain_typeNames ⟨State.initial_placed, initial⟩ fun _ _ _ => trivial

theorem spelled_of_reaches (compiles : context.Compiles source) (literals : context.program.LiteralsIn style)
    {state : State} (reached : context.Reaches state) : state.SpelledIn style :=
  ((compiles.spells literals).passing state reached).2

theorem labelled_of_reaches (compiles : context.Compiles source) {state : State} (reached : context.Reaches state) :
    state.heap.Labelled :=
  Heap.labelled_of_spelledIn (compiles.spelled_of_reaches context.program.literalsIn_free reached).heap

/-- What an expression of the program yields, evaluated in some state of a run, is closed and spelled in the style of
the literals. -/
theorem spelled_of_eval (compiles : context.Compiles source) (literals : context.program.LiteralsIn style)
    {state final : State} {room : Nat} {expression : Expr} {value : Value} (reached : context.Reaches state)
    (member : expression ∈ context.program.expressions)
    (ended : (expression.eval context (Calls.within context room)).run state = .ok value final) :
    value.SpelledIn style := by
  have laws : (Discipline.spelling style context).Laws := Discipline.spelling_laws compiles.closed_classNames
  have obeys := Discipline.obeysCalls_within laws (compiles.spelled_expressions literals) compiles.plain_typeNames room
  have holds := (compiles.spells literals).passing state reached
  have evaluates := Discipline.evaluates_of_known laws obeys (compiles.spelled_parts literals member) state
    ⟨holds.1, holds.2⟩
  exact ((evaluates fun _ _ _ => trivial).ending value final ended).2

end Context.Compiles

/-- The heap holds the value, in an array or in a field of an object. -/
inductive Heap.Contains (heap : Heap) (value : Value) : Prop
  | element {handle : Nat} {elementType : String} {values : Array Value}
      (found : heap.get? handle = some (.array elementType values)) (member : value ∈ values)
  | field {handle : Nat} {className name : String} {fields : List (String × Value)}
      (found : heap.get? handle = some (.object className fields)) (member : (name, value) ∈ fields)

/-- The state holds the value, in a variable, in the heap, or in what a step shows. -/
inductive State.Contains (state : State) (value : Value) : Prop
  | variable_ {handle : Nat} {scope : Scope} {name : String} {typeName : Option String}
      (found : state.scopes.get? handle = some scope) (member : { name, value, typeName } ∈ scope.bindings)
  | cell (held : state.heap.Contains value)
  | shown {step : Step} {name : String} (recorded : step ∈ state.steps) (member : (name, some value) ∈ step.bindings)
  | shownCell {step : Step} (recorded : step ∈ state.steps) (held : step.heap.Contains value)

/-- The value arises in runs of the program: a state of a run holds it, or an expression of the program yields it where
it is evaluated in such a state, with room for some number of frames. -/
inductive Context.Arises (context : Context) (value : Value) : Prop
  | held {state : State} (reached : context.Reaches state) (contained : state.Contains value)
  | evaluated {state final : State} {expression : Expr} {room : Nat} (reached : context.Reaches state)
      (member : expression ∈ context.program.expressions)
      (ended : (expression.eval context (Calls.within context room)).run state = .ok value final)

theorem Heap.spelled_of_contains {heap : Heap} {value : Value} (spelled : heap.Hold (Cell.SpelledIn style))
    (held : heap.Contains value) : value.SpelledIn style := by
  cases held with
  | element found member => exact (spelled _ _ found).2 value member
  | field found member => exact (spelled _ _ found).2 _ member

theorem State.SpelledIn.of_contains {state : State} {value : Value} (spelled : state.SpelledIn style)
    (contained : state.Contains value) : value.SpelledIn style := by
  cases contained with
  | variable_ found member => exact spelled.scopes _ _ found _ member
  | cell held => exact Heap.spelled_of_contains spelled.heap held
  | shown recorded member => exact (spelled.steps _ recorded).bindings _ member value rfl
  | shownCell recorded held => exact Heap.spelled_of_contains (spelled.steps _ recorded).heap held

theorem Context.Arises.spelled {source : String} {value : Value} (arises : context.Arises value)
    (compiles : context.Compiles source) (literals : context.program.LiteralsIn style) : value.SpelledIn style := by
  cases arises with
  | held reached contained => exact (compiles.spelled_of_reaches literals reached).of_contains contained
  | evaluated reached member ended => exact compiles.spelled_of_eval literals reached member ended

theorem Context.Arises.closed {source : String} {value : Value} (arises : context.Arises value)
    (compiles : context.Compiles source) : value.Closed :=
  (arises.spelled compiles context.program.literalsIn_free).closed

/-- Every string that arises in a run of a compiled source is closed. A sum of two values that are not both numbers is
printed as the one value and then the other would be, with the same failure if one of them has no text, and a character
is printed as it is. -/
theorem sums_print_by_parts (context : Context) (source : String) (compiles : context.Compiles source) :
    (∀ raw, context.Arises (.string raw) → Text.Closed raw) ∧
    (∀ state left right line, context.Reaches state → context.Arises left → context.Arises right →
      left.numeric? = none ∨ right.numeric? = none →
      (do
        let sum ← Value.binary state.heap line "+" left right
        ConsoleMethod.print.output state.heap [sum]) =
      (do
        let front ← ConsoleMethod.print.output state.heap [left]
        let back ← ConsoleMethod.print.output state.heap [right]
        return front ++ back)) ∧
    ∀ heap point, ConsoleMethod.print.output heap [.char point] = .ok [point] := by
  refine ⟨?_, ?_, ?_⟩
  · exact fun raw arises => arises.closed compiles
  · intro state left right line reached first second apart
    have labelled := compiles.labelled_of_reaches reached
    rw [Value.binary_plus line apart]
    exact Value.output_joined labelled (first.closed compiles) right
  · intro heap point
    exact congrArg Except.ok (Text.expanded_rawPoint point)

/-- A source that joins a string with a backslash at its end to a character that an escape could end with. -/
def trailingBackslash : String :=
  "class Main \x7b void main() \x7b String path = \"a\\\\\"; char mark = 'n'; System.out.print(path + mark); \x7d \x7d"

def Context.ofTrailingBackslash : Context :=
  .ofSource { maxSteps := 10, mode := .local_ } trailingBackslash

/-- The sum of the two is printed as an a, a backslash and an n, and not as an a and a line break. -/
theorem trailing_backslash_printed :
    Context.ofTrailingBackslash.Compiles trailingBackslash ∧
      ∃ state, Context.ofTrailingBackslash.Reaches state ∧
        Context.ofTrailingBackslash.Arises (.string "a\\\\") ∧ Context.ofTrailingBackslash.Arises (.char 'n') ∧
        Text.Closed (Text.ofString "a\\\\") ∧
        (do
          let sum ← Value.binary state.heap 1 "+" (.string "a\\\\") (.char 'n')
          ConsoleMethod.print.output state.heap [sum]) = .ok "a\\n" := by
  have evaluated : (compile trailingBackslash).toOption.isSome = true ∧
      (Context.ofTrailingBackslash.execute.run State.initial).state.steps.back?.map Step.bindings =
        some [("path", some (.string "a\\\\")), ("mark", some (.char 'n'))] := by
    rw [Context.ofTrailingBackslash, Context.ofSource, compile, scan, toList_of_written trailingBackslash rfl]
    decide +kernel
  obtain ⟨accepted, last⟩ := evaluated
  have compiles : Context.ofTrailingBackslash.Compiles trailingBackslash := Context.compiles_ofSource _ accepted
  have reached := Context.ofTrailingBackslash.execute.passes_ending State.initial
  obtain ⟨step, found, bindings⟩ := Option.map_eq_some_iff.mp last
  have recorded := Array.mem_of_back? found
  have path : Context.ofTrailingBackslash.Arises (.string "a\\\\") :=
    .held reached (.shown recorded (by rw [bindings]; exact List.mem_cons_self))
  have mark : Context.ofTrailingBackslash.Arises (.char 'n') :=
    .held reached (.shown recorded (by rw [bindings]; exact List.mem_cons_of_mem _ List.mem_cons_self))
  obtain ⟨closed, printed, -⟩ := sums_print_by_parts _ _ compiles
  refine ⟨compiles, _, reached, path, mark, closed _ path, ?_⟩
  rw [printed _ _ _ 1 reached path mark (.inl rfl)]
  rfl

end Stepwise
