import Stepwise.Proofs.Heap
import Stepwise.Proofs.Nesting

/-!
# Fields and their declared types

The making of an object converts the value of every field to its declared type. Later writes do not: an assignment
stores what it is given, and a compound assignment what it has narrowed to the kind of value that was there. So a field
fits its type for as long as the program assigns to it only what fits: then a compound assignment keeps it that way,
unless it is a field of characters. Such a one may leave their range and come back into it, and remains an integer.
-/

namespace Stepwise

set_option autoImplicit false

namespace Value

variable {heap : Heap} {line : Nat} {spelling : String} {current operand result narrowed : Value}

theorem doubleArithmetic_eq_ok {left right : Float} {operation : Arithmetic}
    (computed : doubleArithmetic left right operation = .ok result) : ∃ number, result = double number := by
  cases operation with
  | add | subtract | multiply | divide =>
      cases computed
      exact ⟨_, rfl⟩
  | remainder =>
      simp only [doubleArithmetic] at computed
      split at computed
      · cases computed
        exact ⟨_, rfl⟩
      · cases computed

theorem integralArithmetic_eq_ok {left right : Int} {operation : Arithmetic}
    (computed : integralArithmetic line left right operation = .ok result) : ∃ integer, result = int integer := by
  cases operation with
  | add | subtract | multiply =>
      cases computed
      exact ⟨_, rfl⟩
  | divide | remainder =>
      simp only [integralArithmetic] at computed
      split at computed
      · cases computed
      · cases computed
        exact ⟨_, rfl⟩

/-- Arithmetic yields an integer if both operands are integral, and a double otherwise. -/
theorem numericArithmetic_eq_ok {operation : Arithmetic} {one two : Numeric}
    (computed : numericArithmetic line operation one two = .ok result) :
    (∃ left right integer, one = .integral left ∧ two = .integral right ∧ result = int integer) ∨
      ∃ number, result = double number := by
  unfold numericArithmetic at computed
  split at computed
  · next left right =>
      obtain ⟨integer, same⟩ := integralArithmetic_eq_ok computed
      exact .inl ⟨left, right, integer, rfl, rfl, same⟩
  · obtain ⟨left, -, computed⟩ := bind_eq_ok computed
    obtain ⟨right, -, computed⟩ := bind_eq_ok computed
    exact .inr (doubleArithmetic_eq_ok computed)

theorem narrowedLike_of_not_numeric (current : Value) (apart : result.numeric? = none) :
    current.narrowedLike result = .ok result := by
  cases current <;> cases result <;> first | rfl | cases apart

theorem kind_not_mem_converts {value : Value} (apart : value.numeric? = none) (primitive : Primitive) :
    value.kind ∉ primitive.converts := by
  cases value with
  | int | double | char => cases apart
  | _ => cases primitive <;> simp [kind, Primitive.converts]

/-- A compound assignment to what holds no character keeps its kind, unless it leaves no number. -/
theorem kind_of_compound (applied : binary heap line spelling current operand = .ok result)
    (cast : current.narrowedLike result = .ok narrowed) :
    narrowed.numeric? = none ∨ narrowed.kind = current.kind ∨ current.kind = .char := by
  rcases binary_eq_ok applied with ⟨truth, rfl⟩ | ⟨operation, one, two, first, -, computed⟩ | joins
  · rw [narrowedLike_of_not_numeric current rfl] at cast
    cases cast
    exact .inl rfl
  · cases current with
    | int integer =>
        rcases numericArithmetic_eq_ok computed with ⟨left, right, sum, -, -, rfl⟩ | ⟨number, rfl⟩
        · cases cast
          exact .inr (.inl rfl)
        · obtain ⟨whole, -, rfl⟩ := map_eq_ok cast
          exact .inr (.inl rfl)
    | double number =>
        rcases numericArithmetic_eq_ok computed with ⟨left, right, sum, rfl, -, -⟩ | ⟨number, rfl⟩
        · cases first
        · cases cast
          exact .inr (.inl rfl)
    | char character => exact .inr (.inr rfl)
    | _ => cases first
  · obtain ⟨leftText, -, joins⟩ := bind_eq_ok joins
    obtain ⟨rightText, -, joins⟩ := bind_eq_ok joins
    cases joins
    rw [narrowedLike_of_not_numeric current rfl] at cast
    cases cast
    exact .inl rfl

theorem primitive_eq_char {typeName : String} (named : Primitive.ofName? typeName = some .char) :
    typeName = "char" := by
  unfold Primitive.ofName? at named
  split at named
  · cases named
  · split at named
    · cases named
    · split at named
      · cases named
      · split at named
        · assumption
        · cases named

theorem fits_of_compound {typeName : String} (other : typeName ≠ "char") (fits : current.Fits (some typeName))
    (applied : binary heap line spelling current operand = .ok result)
    (cast : current.narrowedLike result = .ok narrowed) : narrowed.Fits (some typeName) := by
  unfold Fits coerce at *
  rw [Option.bind_some] at *
  cases named : Primitive.ofName? typeName with
  | none => rfl
  | some primitive =>
      rw [named] at fits
      dsimp only at fits ⊢
      by_cases char : primitive = .char
      · rw [char] at named
        exact absurd (primitive_eq_char named) other
      · rw [coerceTo_eq_self_iff char] at fits ⊢
        rcases kind_of_compound applied cast with apart | same | impossible
        · exact kind_not_mem_converts apart primitive
        · rw [same]
          exact fits
        · rw [impossible] at fits
          cases primitive <;> simp_all [Primitive.converts]

end Value

/-- The program assigns the expression to a member of the name. -/
def Program.Assigns (program : Program) (name : String) (value : Expr) : Prop :=
  ∃ line fieldLine object nameLine,
    Expr.assign line (.field fieldLine object nameLine name) value ∈ program.expressions

/-- The program applies a compound assignment to a member of the name. -/
def Program.Combines (program : Program) (name : String) : Prop :=
  ∃ line fieldLine object nameLine operator value,
    Expr.compound line (.field fieldLine object nameLine name) operator value ∈ program.expressions

/-- Whatever the expression yields when it is evaluated in one of the states, it fits the type. -/
def Expr.Suits (context : Context) (states : State → Prop) (expression : Expr) (typeName : String) : Prop :=
  ∀ room before after value, states before →
    (expression.eval context (Calls.within context room)).run before = .ok value after → value.Fits (some typeName)

theorem Expr.suits_of_literal {context : Context} {states : State → Prop} {expression : Expr} {value : Value}
    {typeName : String} (literal : expression.literal? = some value) (fits : value.Fits (some typeName)) :
    expression.Suits context states typeName := by
  intro room before after other _ ended
  rw [Expr.eval_literal literal] at ended
  cases ended
  exact fits

/-- The program writes to the field in such ways only that what it holds goes on fitting its type. An expression that is
assigned has to suit the type in the states of the run in which it is evaluated. -/
structure Declaration.Respected (context : Context) (declaration : Declaration) : Prop where
  assigned : ∀ value, context.program.Assigns declaration.name value →
    value.Suits context (context.Marks (.evaluating value)) declaration.typeName
  combined : declaration.typeName = "char" → ¬context.program.Combines declaration.name

def ClassDecl.DeclaresOnce (decl : ClassDecl) (declaration : Declaration) : Prop :=
  decl.instanceFields.filter (·.name = declaration.name) = [declaration]

variable {context : Context}

/-- An object has all the fields that its class declares; one that is declared once, and respected, fits its type. -/
def Cell.Respects (context : Context) : Cell → Prop
  | .array .. => True
  | .object className fields =>
      ∀ decl, context.program.class? className = some decl →
        (∀ declaration ∈ decl.instanceFields, declaration.name ∈ fields.map Prod.fst) ∧
          ∀ declaration, decl.DeclaresOnce declaration → declaration.Respected context →
            ∀ value, (declaration.name, value) ∈ fields → value.Fits (some declaration.typeName)

/-- A value that may be written to a slot: to a field that is declared once, and respected, one that fits its type. -/
def Slot.Takes (context : Context) (state : State) : Slot → Value → Prop
  | .field handle name, value =>
      ∀ className fields decl declaration, state.heap.get? handle = some (.object className fields) →
        context.program.class? className = some decl → decl.DeclaresOnce declaration → declaration.name = name →
          declaration.Respected context → value.Fits (some declaration.typeName)
  | _, _ => True

def Discipline.fitting (context : Context) : Discipline context where
  node expression := expression ∈ context.program.expressions
  settled _ state := state.heap.Hold (Cell.Respects context)
  throughout state := state.heap.Hold (Cell.Respects context)
  leads before after := before.heap.Continues after.heap
  value _ _ := True
  slot _ _ := True
  tolerates _ := True
  watches := context.Marks
  content := Slot.Takes context

theorem ClassDecl.DeclaresOnce.eq {decl : ClassDecl} {declaration other : Declaration}
    (once : decl.DeclaresOnce declaration) (member : other ∈ decl.instanceFields)
    (same : other.name = declaration.name) : other = declaration := by
  have chosen : other ∈ decl.instanceFields.filter (·.name = declaration.name) :=
    List.mem_filter.mpr ⟨member, decide_eq_true same⟩
  rw [once] at chosen
  exact List.mem_singleton.mp chosen

/-- What an object is made of fits, however the program goes on with it. -/
theorem Cell.Made.fits {className : String} {fields : List (String × Value)} {element : String → Prop}
    {admitted : Value → Prop} (made : Cell.Made context element admitted (.object className fields)) {decl : ClassDecl}
    (classed : context.program.class? className = some decl) :
    (∀ declaration ∈ decl.instanceFields, declaration.name ∈ fields.map Prod.fst) ∧
      ∀ declaration, decl.DeclaresOnce declaration →
        ∀ value, (declaration.name, value) ∈ fields → value.Fits (some declaration.typeName) := by
  obtain ⟨found, foundClass, given, names, -⟩ := made
  rw [classed] at foundClass
  cases foundClass
  refine ⟨names, fun declaration once value member => ?_⟩
  obtain ⟨other, present, same, fits⟩ := (given _ member).2
  rw [once.eq present same] at fits
  exact fits

theorem Cell.Made.respects {cell : Cell} {element : String → Prop} {admitted : Value → Prop}
    (made : cell.Made context element admitted) : cell.Respects context := by
  cases cell with
  | array elementType values => trivial
  | object className fields =>
      intro decl classed
      obtain ⟨names, fits⟩ := Cell.Made.fits made classed
      exact ⟨names, fun declaration once _ => fits declaration once⟩

theorem State.respects_written {state written : State} {slot : Slot} {value stored : Value}
    (respects : state.heap.Hold (Cell.Respects context)) (takes : slot.Takes context state value)
    (effect : slot.Written value state stored written) : written.heap.Hold (Cell.Respects context) := by
  cases effect with
  | binding assigned => exact respects
  | @element handle position elementType values _ found coerced => exact respects.set handle trivial
  | @field handle name className fields found =>
      refine respects.set handle fun decl classed => ?_
      obtain ⟨names, fits⟩ := respects handle _ found decl classed
      refine ⟨fun declaration member => (Pairs.names_put _ _ _).subset (names declaration member), ?_⟩
      intro declaration once respected other member
      rcases Pairs.mem_put member with this | before
      · obtain ⟨same, rfl⟩ := Prod.mk.inj this
        exact takes className fields decl declaration found classed once same respected
      · exact fits declaration once respected other before

theorem Discipline.fitting_stateLaws (context : Context) : (fitting context).StateLaws where
  throughout_of_settled respects := respects
  leads_refl state := .refl state.heap
  leads_trans one two := one.trans two
  bookkept ready same := by
    refine ⟨?_, ?_⟩
    · change Heap.Hold _ _
      rw [same.heap]
      exact ready.settled
    · change Heap.Continues _ _
      rw [same.heap]
      exact .refl _
  recorded _ _ _ ready _ := ⟨ready.settled, .refl _⟩
  declared ready _ _ := ⟨ready.settled, .refl _⟩
  stored _ ready _ _ takes ended := by
    have written := Slot.written_of_run ended
    have respects := State.respects_written ready.settled takes written
    exact ⟨respects, respects, written.continues, trivial⟩
  allocated {room state cell after} _ ready made same := by
    subst same
    have respects := Heap.Hold.allocate ready.settled (Cell.Made.respects made)
    exact ⟨respects, respects, state.heap.continues_allocate cell, trivial⟩
  opened ready _ := ⟨ready.settled, .refl _⟩
  entered ready _ := ⟨ready.settled, .refl _⟩
  left ready _ _ _ := ⟨ready.settled, .refl _⟩
  pushed ready _ _ := ⟨ready.settled, .refl _⟩
  popped ready _ := ⟨ready.settled, .refl _⟩

theorem Slot.read_field_eq_ok {handle : Nat} {name : String} {before after : State} {current : Value}
    (read : (Slot.field handle name).read.run before = .ok current after) :
    ∃ className fields, before.heap.get? handle = some (.object className fields) ∧ (name, current) ∈ fields := by
  obtain ⟨seen, middle, looked, rest⟩ := Machine.run_bind_eq_ok.mp read
  cases looked
  split at rest
  · next className fields found =>
      split at rest
      · next value bound =>
          cases rest
          exact ⟨className, fields, found, Pairs.mem_of_lookup bound⟩
      · cases rest
  · cases rest

theorem Slot.takes_of_assign {state before : State} {slot : Slot} {room line : Nat} {target expression : Expr}
    {value : Value} (known : .assign line target expression ∈ context.program.expressions)
    (denoted : slot.MemberOf target) (marked : context.Marks (.evaluating expression) before)
    (ended : (expression.eval context (Calls.within context room)).run before = .ok value state) :
    slot.Takes context state value := by
  cases slot with
  | field handle name =>
      obtain ⟨fieldLine, object, nameLine, rfl⟩ := denoted handle name rfl
      rintro className fields decl declaration - - - rfl respected
      exact respected.assigned expression ⟨line, fieldLine, object, nameLine, known⟩ _ _ _ _ marked ended
  | binding | element | length => trivial

theorem Slot.takes_of_compound {before after : State} {slot : Slot} {line : Nat} {target expression : Expr}
    {operator : String} {current operand result narrowed : Value}
    (known : .compound line target operator expression ∈ context.program.expressions)
    (denoted : slot.MemberOf target) (respects : before.heap.Hold (Cell.Respects context))
    (read : slot.read.run before = .ok current before) (continues : before.heap.Continues after.heap)
    (applied : Value.binary after.heap line (compoundOperator operator) current operand = .ok result)
    (cast : current.narrowedLike result = .ok narrowed) : slot.Takes context after narrowed := by
  cases slot with
  | field handle name =>
      obtain ⟨fieldLine, object, nameLine, rfl⟩ := denoted handle name rfl
      obtain ⟨className, fields, found, member⟩ := read_field_eq_ok read
      obtain ⟨later, foundLater, same⟩ := continues handle _ found
      cases same with
      | @object _ _ others names =>
          rintro otherName otherFields decl declaration there classed once rfl respected
          rw [foundLater] at there
          cases there
          have other : declaration.typeName ≠ "char" := fun char =>
            respected.combined char ⟨line, fieldLine, object, nameLine, operator, expression, known⟩
          have fits := (respects handle _ found decl classed).2 declaration once respected current member
          exact Value.fits_of_compound other fits applied cast
  | binding | element | length => trivial

theorem Discipline.fitting_contentLaws (context : Context) : (fitting context).ContentLaws where
  assigned known denoted marked ended := Slot.takes_of_assign known denoted marked ended
  compounded known denoted ready read continues applied cast :=
    Slot.takes_of_compound known denoted ready.settled read continues applied cast
  updated _ _ _ _ := trivial

theorem Discipline.fitting_laws (context : Context) : (fitting context).Laws where
  toStateLaws := fitting_stateLaws context
  toValueLaws :=
    have free : (fitting context).Unrestricted := ⟨fun _ _ => trivial, fun _ _ => trivial, fun _ => trivial, fun _ => trivial⟩
    free.valueLaws (fitting_contentLaws context)

theorem Discipline.fitting_runs (context : Context) :
    (fitting context).Upholds (· ≠ []) State.initial context.execute fun final _ =>
      (fitting context).Follows (some globalScope) maxCallDepth State.initial final :=
  runs_execute (fitting_laws context) (fun _ member => member) (fun _ _ => trivial)
    ⟨State.initial_placed, Heap.hold_empty⟩ fun _ _ marked => marked

/-- A new object has every field that its class declares, and each that is declared once fits its type. In every state
of a run an object still has these fields, and they fit their types as far as the program respects them: as it assigns
to members of the name only what yields values that fit, where the run evaluates it, and applies no compound assignment
to them if the field is of characters. -/
theorem fields_fit_while_respected (context : Context) (state : State) (reached : context.Reaches state)
    {className : String} {decl : ClassDecl} (classed : context.program.class? className = some decl) :
    (∀ room fields final,
      ((Calls.within context room).instantiate decl).run state = .ok (.object className fields) final →
      (∀ declaration ∈ decl.instanceFields, ∃ value, (declaration.name, value) ∈ fields) ∧
        ∀ declaration, decl.DeclaresOnce declaration → ∀ value, (declaration.name, value) ∈ fields →
          value.coerce (some declaration.typeName) = .ok value) ∧
    ∀ handle fields, state.heap.get? handle = some (.object className fields) →
      (∀ declaration ∈ decl.instanceFields, ∃ value, (declaration.name, value) ∈ fields) ∧
        ∀ declaration, decl.DeclaresOnce declaration → declaration.Respected context →
          ∀ value, (declaration.name, value) ∈ fields →
            value.coerce (some declaration.typeName) = .ok value ∧ value.InKind declaration.typeName := by
  obtain ⟨placed, respects⟩ := (Discipline.fitting_runs context).passing state reached
  have present : ∀ {fields : List (String × Value)} {name : String}, name ∈ fields.map Prod.fst →
      ∃ value, (name, value) ∈ fields := by
    intro fields name inside
    obtain ⟨field, member, rfl⟩ := List.mem_map.mp inside
    exact ⟨field.2, member⟩
  refine ⟨?_, ?_⟩
  · intro room fields final ended
    have named : decl.name = className := (Program.class?_eq_some classed).1
    rw [← named] at classed
    have obeys := (Discipline.nesting_obeysCalls context room).instantiate ⟨placed, trivial⟩ classed
    have made := ((obeys fun _ _ _ => trivial).ending _ final ended).2
    rw [named] at classed
    obtain ⟨names, fits⟩ := Cell.Made.fits made classed
    exact ⟨fun declaration member => present (names declaration member), fits⟩
  · intro handle fields found
    obtain ⟨names, fits⟩ := respects handle _ found decl classed
    refine ⟨fun declaration member => present (names declaration member), ?_⟩
    intro declaration once respected value member
    have fitting := fits declaration once respected value member
    exact ⟨fitting, fitting.inKind⟩

/-- A class with one field and a main method that makes an object of the class and writes to the field. -/
def ClassDecl.writing (declaration : Declaration) (writes : List Stmt) : ClassDecl where
  line := 1
  name := "Main"
  body :=
    [.field declaration,
      .method
        { line := 3, returnType := "void", name := "main", params := [],
          body :=
            .declare
                { line := 4, typeName := "Main", name := "it", value := some (.create 4 "Main"), isStatic := false } ::
              writes }]

def Context.writing (declaration : Declaration) (writes : List Stmt) : Context where
  options := { maxSteps := 20, mode := .all }
  program := { classes := [.writing declaration writes] }

/-- A field of integers whose initialiser is a character. -/
def Declaration.code : Declaration where
  line := 2
  typeName := "int"
  name := "code"
  value := some (.char 2 "a")
  isStatic := false

def Stmt.codeWrites : List Stmt :=
  [.evaluate 5 (.assign 5 (.field 5 (.name 5 "it") 5 "code") (.int 5 5)),
    .evaluate 6 (.compound 6 (.field 6 (.name 6 "it") 6 "code") "+=" (.int 6 1))]

theorem code_field_fits :
    ∃ state, (Context.writing .code Stmt.codeWrites).Reaches state ∧
      state.heap.get? 0 = some (.object "Main" [("code", .int 6)]) ∧
      (ClassDecl.writing .code Stmt.codeWrites).DeclaresOnce .code ∧
      Declaration.code.Respected (Context.writing .code Stmt.codeWrites) ∧
      (Value.int 6).coerce (some "int") = .ok (.int 6) := by
  have reached := (Context.writing .code Stmt.codeWrites).execute.passes_ending State.initial
  have cell : ((Context.writing .code Stmt.codeWrites).execute.run State.initial).state.heap.get? 0 =
      some (.object "Main" [("code", .int 6)]) := by decide +kernel
  have respected : Declaration.code.Respected (Context.writing .code Stmt.codeWrites) := by
    refine ⟨?_, ?_⟩
    · rintro value ⟨line, fieldLine, object, nameLine, member⟩
      have only : value = .int 5 5 := by
        simp [Context.writing, ClassDecl.writing, Declaration.code, Stmt.codeWrites, Program.expressions,
          ClassDecl.expressions, Member.expressions, Stmt.expressionsAll, Stmt.expressions, Declaration.expressions,
          Expr.partsOf, Expr.parts] at member
        exact member.2.2
      rw [only]
      exact Expr.suits_of_literal rfl rfl
    · exact fun char => absurd char (by decide)
  obtain ⟨-, held⟩ := fields_fit_while_respected _ _ reached (show Program.class? _ "Main" = some _ from rfl)
  have once : (ClassDecl.writing .code Stmt.codeWrites).DeclaresOnce .code := rfl
  exact ⟨_, reached, cell, once, respected, ((held 0 _ cell).2 .code once respected _ List.mem_cons_self).1⟩

def Declaration.half : Declaration where
  line := 2
  typeName := "double"
  name := "half"
  value := none
  isStatic := false

def Stmt.halfWrites : List Stmt :=
  [.evaluate 5 (.assign 5 (.field 5 (.name 5 "it") 5 "half") (.int 5 1))]

/-- An assignment leaves an integer in a field of doubles. -/
theorem integer_in_double_field :
    ∃ state, (Context.writing .half Stmt.halfWrites).Reaches state ∧
      state.heap.get? 0 = some (.object "Main" [("half", .int 1)]) ∧
      (Context.writing .half Stmt.halfWrites).program.class? "Main" = some (.writing .half Stmt.halfWrites) ∧
      (ClassDecl.writing .half Stmt.halfWrites).DeclaresOnce .half ∧
      (Value.int 1).coerce (some Declaration.half.typeName) ≠ .ok (.int 1) := by
  have reached := (Context.writing .half Stmt.halfWrites).execute.passes_ending State.initial
  have cell : ((Context.writing .half Stmt.halfWrites).execute.run State.initial).state.heap.get? 0 =
      some (.object "Main" [("half", .int 1)]) := by decide +kernel
  refine ⟨_, reached, cell, rfl, rfl, fun fits => ?_⟩
  exact ((Value.Fits.inKind fits).1 rfl).1 rfl

end Stepwise
