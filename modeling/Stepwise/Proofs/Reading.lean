import Stepwise.Tree.Grammar

/-!
# What reading yields

Every expression that is read is put together from tokens of the input, in the ways that `Expr.ReadFrom` lists: which
token a literal, a name or an operator comes from, and which line an expression has. What the grammar guarantees of
expressions follows from this by induction over the ways.

A reader yields what it is told to when it is begun among tokens that are available. The readers of expressions call
each other with a bound on the depth, and the induction is over that bound, for all of them at once.
-/

namespace Stepwise

set_option autoImplicit false

structure Cursor.Within (available : Token → Prop) (cursor : Cursor) : Prop where
  current : available cursor.current
  rest : ∀ token ∈ cursor.rest, available token

/-- How an expression can come about from available tokens. -/
inductive Expr.ReadFrom (available : Token → Prop) : Expr → Prop
  | int {token : Token} {value : Int} (given : available token)
      (kind : token.kind = .integerLiteral ∨ token.kind = .longLiteral)
      (spelled : Number.readInteger token.value = .ok value) : ReadFrom available (.int token.line value)
  | double {token : Token} {value : Float} (given : available token) (kind : token.kind = .doubleLiteral)
      (spelled : Number.readDouble token.value = .ok value) : ReadFrom available (.double token.line value)
  | bool {token : Token} (value : Bool) (given : available token)
      (kind : token.kind = .keyword (if value then .true_ else .false_)) :
      ReadFrom available (.bool token.line value)
  | string {token : Token} (given : available token) (kind : token.kind = .stringLiteral) :
      ReadFrom available (.string token.line token.value)
  | char {token : Token} (given : available token) (kind : token.kind = .charLiteral) :
      ReadFrom available (.char token.line token.value)
  | null {token : Token} (given : available token) (kind : token.kind = .keyword .null_) :
      ReadFrom available (.null token.line)
  | name {token : Token} (given : available token)
      (kind : token.kind = .identifier ∨ token.kind = .keyword .system) :
      ReadFrom available (.name token.line token.value)
  | operation {level : Level} {left right : Expr} {operator : Token} (first : ReadFrom available left)
      (given : available operator) (held : level.holds operator.kind = true) (second : ReadFrom available right) :
      ReadFrom available (level.node left operator.value right)
  | unary {operator : Token} {argument : Expr} (given : available operator)
      (kind : operator.kind = .symbol .bang ∨ operator.kind = .symbol .minus)
      (inner : ReadFrom available argument) : ReadFrom available (.unary operator.line operator.value argument)
  | conditional {test consequent alternate : Expr} (condition : ReadFrom available test)
      (first : ReadFrom available consequent) (second : ReadFrom available alternate) :
      ReadFrom available (.conditional test.line test consequent alternate)
  | assign {target value : Expr} (targeted : target.isTarget = true) (located : ReadFrom available target)
      (evaluated : ReadFrom available value) : ReadFrom available (.assign target.line target value)
  | compound {target value : Expr} {operator : Token} (targeted : target.isTarget = true)
      (located : ReadFrom available target) (given : available operator)
      (kind : operator.kind.isCompoundAssignment = true) (evaluated : ReadFrom available value) :
      ReadFrom available (.compound target.line target operator.value value)
  | field {object : Expr} {name : Token} (inner : ReadFrom available object) (given : available name)
      (kind : name.kind = .identifier) : ReadFrom available (.field object.line object name.line name.value)
  | index {object position : Expr} (container : ReadFrom available object) (number : ReadFrom available position) :
      ReadFrom available (.index object.line object position)
  | call {callee : Expr} {arguments : List Expr} (called : ReadFrom available callee)
      (passed : ∀ argument ∈ arguments, ReadFrom available argument) :
      ReadFrom available (.call callee.line callee arguments)
  | create {start type : Token} (given : available start) (typed : available type)
      (kind : type.kind = .identifier) : ReadFrom available (.create start.line type.value)
  | newArray {start type : Token} {size : Expr} (given : available start) (typed : available type)
      (kind : type.kind.isType = true ∧ type.kind ≠ .keyword .void) (sized : ReadFrom available size) :
      ReadFrom available (.newArray start.line type.value size)
  | arrayOf {start type : Token} {values : List Expr} (given : available start) (typed : available type)
      (kind : type.kind.isType = true ∧ type.kind ≠ .keyword .void)
      (inner : ∀ value ∈ values, ReadFrom available value) :
      ReadFrom available (.arrayOf start.line type.value values)
  | arrayLiteral {brace : Token} {values : List Expr} (given : available brace)
      (inner : ∀ value ∈ values, ReadFrom available value) : ReadFrom available (.arrayOf brace.line "int" values)
  | updateBefore {operator name : Token} (given : available operator) (kind : operator.kind.isUpdate = true)
      (named : available name) (nameKind : name.kind = .identifier) :
      ReadFrom available (.update operator.line .before operator.value name.line name.value)
  | updateAfter {operator name : Token} (given : available operator) (kind : operator.kind.isUpdate = true)
      (named : available name) (nameKind : name.kind = .identifier) :
      ReadFrom available (.update name.line .after operator.value name.line name.value)

namespace Reader

variable {available : Token → Prop} {α β : Type}

/-- Begun among available tokens, a reader stays among them, and what it yields is as told. -/
def Yields (available : Token → Prop) (reader : Reader α) (told : α → Prop) : Prop :=
  ∀ cursor result after, cursor.Within available → reader.run cursor = .ok result after →
    after.Within available ∧ told result

theorem run_bind (first : Reader α) (next : α → Reader β) (cursor : Cursor) :
    (first >>= next).run cursor =
      match first.run cursor with
      | .ok result middle => (next result).run middle
      | .error rejection middle => .error rejection middle :=
  rfl

theorem Yields.pure {result : α} {told : α → Prop} (holds : told result) :
    Yields available (pure result : Reader α) told := by
  intro cursor given after within ended
  cases ended
  exact ⟨within, holds⟩

theorem Yields.reject {rejection : Rejection} {told : α → Prop} :
    Yields available (reject rejection : Reader α) told := by
  intro cursor given after within ended
  cases ended

theorem Yields.bind {first : Reader α} {next : α → Reader β} {middle : α → Prop} {told : β → Prop}
    (yields : Yields available first middle) (others : ∀ result, middle result → Yields available (next result) told) :
    Yields available (first >>= next) told := by
  intro cursor result after within ended
  rw [run_bind] at ended
  cases outcome : first.run cursor with
  | error rejection between =>
      rw [outcome] at ended
      cases ended
  | ok value between =>
      rw [outcome] at ended
      obtain ⟨inside, held⟩ := yields cursor value between within outcome
      exact others value held between result after inside ended

theorem yields_get : Yields available (get : Reader Cursor) (Cursor.Within available) := by
  intro cursor result after within ended
  cases ended
  exact ⟨within, within⟩

theorem yields_current : Yields available current available :=
  yields_get.bind fun _ within => .pure within.current

theorem within_advanced {cursor : Cursor} (within : cursor.Within available) : cursor.advanced.Within available := by
  unfold Cursor.advanced
  split
  · exact within
  · split
    · exact within
    · next token tokens behind =>
        have inside := within.rest
        rw [behind] at inside
        exact ⟨inside token List.mem_cons_self, fun other member => inside other (List.mem_cons_of_mem _ member)⟩

theorem yields_advance : Yields available advance available := by
  refine yields_get.bind fun cursor within => ?_
  intro other result after _ ended
  cases ended
  exact ⟨within_advanced within, within.current⟩

theorem within_next? {cursor next : Cursor} (within : cursor.Within available) (moved : cursor.next? = some next) :
    next.Within available := by
  obtain ⟨current, rest⟩ := cursor
  cases rest with
  | nil => cases moved
  | cons token tokens =>
      cases moved
      exact ⟨within.rest token List.mem_cons_self, fun other member => within.rest other (List.mem_cons_of_mem _ member)⟩

theorem yields_step : Yields available step fun _ => True := by
  refine yields_get.bind fun cursor within => ?_
  split
  · next next moved =>
      intro other result after _ ended
      cases ended
      exact ⟨within_next? within moved, trivial⟩
  · exact .reject

theorem yields_at? (kind : TokenKind) : Yields available (at? kind) fun _ => True :=
  yields_get.bind fun _ _ => .pure trivial

theorem yields_accept (kind : TokenKind) : Yields available (accept kind) fun _ => True := by
  refine (yields_at? kind).bind fun found _ => ?_
  split
  · exact yields_step.bind fun _ _ => .pure trivial
  · exact .pure trivial

theorem yields_complain {complaint : Complaint} {token : Token} {told : α → Prop} :
    Yields available (complain complaint token : Reader α) told :=
  .reject

theorem yields_expect (place : Expectation) :
    Yields available (expect place) fun token => available token ∧ token.kind = place.kind := by
  intro cursor result after within ended
  unfold expect at ended
  rw [run_bind] at ended
  change (if cursor.current.kind = place.kind then advance else _).run cursor = _ at ended
  split at ended
  · next kind =>
      cases ended
      exact ⟨within_advanced within, within.current, kind⟩
  · cases ended

theorem yields_literal {value : Except Fault α} : Yields available (literal value) fun result => value = .ok result := by
  cases value with
  | ok value => exact .pure rfl
  | error fault => exact .reject

structure ReadsExpressions (available : Token → Prop) (fuel : Nat) : Prop where
  assignment : Yields available (assignment fuel) (Expr.ReadFrom available)
  conditional : Yields available (conditional fuel) (Expr.ReadFrom available)
  operation : ∀ level, Yields available (operation fuel level) (Expr.ReadFrom available)
  operationRest : ∀ level left, Expr.ReadFrom available left →
    Yields available (operationRest fuel level left) (Expr.ReadFrom available)
  unary : Yields available (unary fuel) (Expr.ReadFrom available)
  accesses : ∀ head, Expr.ReadFrom available head → Yields available (accesses fuel head) (Expr.ReadFrom available)
  expressions : Yields available (expressions fuel) fun read => ∀ expression ∈ read, Expr.ReadFrom available expression
  arrayValues : Yields available (arrayValues fuel) fun read => ∀ expression ∈ read, Expr.ReadFrom available expression
  arrayLiteral : Yields available (arrayLiteral fuel) fun read =>
    (∃ brace, available brace ∧ read.1 = brace.line) ∧ ∀ expression ∈ read.2, Expr.ReadFrom available expression
  creation : Yields available (creation fuel) (Expr.ReadFrom available)
  primary : Yields available (primary fuel) (Expr.ReadFrom available)

theorem readsExpressions_zero : ReadsExpressions available 0 where
  assignment := .reject
  conditional := .reject
  operation _ := .reject
  operationRest _ _ _ := .reject
  unary := .reject
  accesses _ _ := .reject
  expressions := .reject
  arrayValues := .reject
  arrayLiteral := .reject
  creation := .reject
  primary := .reject

variable {fuel : Nat}

theorem yields_requireTarget (target : Expr) (operator : Token) :
    Yields available (requireTarget target operator) fun _ => target.isTarget = true := by
  unfold requireTarget
  split
  · next targeted => exact .pure targeted
  · exact yields_complain

theorem yields_assignment (reads : ReadsExpressions available fuel) :
    Yields available (assignment (fuel + 1)) (Expr.ReadFrom available) := by
  rw [assignment]
  refine reads.conditional.bind fun left readLeft => ?_
  refine yields_current.bind fun operator given => ?_
  split
  · refine yields_advance.bind fun _ _ => ?_
    refine (yields_requireTarget left operator).bind fun _ targeted => ?_
    exact reads.assignment.bind fun value readValue => .pure (.assign targeted readLeft readValue)
  · split
    · next kind =>
        refine yields_advance.bind fun _ _ => ?_
        refine (yields_requireTarget left operator).bind fun _ targeted => ?_
        exact reads.assignment.bind fun value readValue => .pure (.compound targeted readLeft given kind readValue)
    · exact .pure readLeft

theorem yields_conditional (reads : ReadsExpressions available fuel) :
    Yields available (conditional (fuel + 1)) (Expr.ReadFrom available) := by
  rw [conditional]
  refine (reads.operation _).bind fun test readTest => ?_
  refine (yields_accept _).bind fun found _ => ?_
  split
  · refine reads.assignment.bind fun consequent first => ?_
    refine (yields_expect _).bind fun _ _ => ?_
    exact reads.conditional.bind fun alternate second => .pure (.conditional readTest first second)
  · exact .pure readTest

theorem yields_operand (reads : ReadsExpressions available fuel) (level : Level) {next : Expr → Reader Expr}
    (others : ∀ operand, Expr.ReadFrom available operand → Yields available (next operand) (Expr.ReadFrom available)) :
    Yields available
      (match level.tighter with
        | some tighter => operation fuel tighter >>= next
        | none => unary fuel >>= next) (Expr.ReadFrom available) := by
  split
  · exact (reads.operation _).bind others
  · exact reads.unary.bind others

theorem yields_operation (reads : ReadsExpressions available fuel) (level : Level) :
    Yields available (operation (fuel + 1) level) (Expr.ReadFrom available) := by
  rw [operation]
  exact yields_operand reads level fun left readLeft => reads.operationRest level left readLeft

theorem yields_operationRest (reads : ReadsExpressions available fuel) (level : Level) {left : Expr}
    (readLeft : Expr.ReadFrom available left) :
    Yields available (operationRest (fuel + 1) level left) (Expr.ReadFrom available) := by
  rw [operationRest]
  refine yields_current.bind fun operator given => ?_
  split
  · next held =>
      refine yields_advance.bind fun _ _ => ?_
      refine yields_operand reads level fun right readRight => ?_
      exact reads.operationRest level _ (.operation readLeft given held readRight)
  · exact .pure readLeft

theorem yields_unary (reads : ReadsExpressions available fuel) :
    Yields available (unary (fuel + 1)) (Expr.ReadFrom available) := by
  rw [unary]
  refine yields_current.bind fun operator given => ?_
  split
  · next kind =>
      refine yields_advance.bind fun _ _ => ?_
      have spelled : operator.kind = .symbol .bang ∨ operator.kind = .symbol .minus := by simpa using kind
      exact reads.unary.bind fun argument inner => .pure (.unary given spelled inner)
  · split
    · next kind =>
        refine yields_advance.bind fun _ _ => ?_
        exact (yields_expect _).bind fun name named => .pure (.updateBefore given kind named.1 named.2)
    · exact reads.primary.bind fun head readHead => reads.accesses head readHead

theorem yields_accesses (reads : ReadsExpressions available fuel) {head : Expr}
    (readHead : Expr.ReadFrom available head) :
    Yields available (accesses (fuel + 1) head) (Expr.ReadFrom available) := by
  rw [accesses]
  refine (yields_accept _).bind fun called _ => ?_
  split
  · refine (yields_at? _).bind fun empty _ => ?_
    extract_lets finish
    have closes : ∀ arguments, (∀ argument ∈ arguments, Expr.ReadFrom available argument) →
        Yields available (finish arguments) (Expr.ReadFrom available) := by
      intro arguments passed
      exact (yields_expect _).bind fun _ _ => reads.accesses _ (.call readHead passed)
    split
    · exact (Yields.pure nofun).bind closes
    · exact reads.expressions.bind closes
  · refine (yields_accept _).bind fun dotted _ => ?_
    split
    · exact (yields_expect _).bind fun name named => reads.accesses _ (.field readHead named.1 named.2)
    · refine (yields_accept _).bind fun bracketed _ => ?_
      split
      · refine reads.assignment.bind fun position readPosition => ?_
        exact (yields_expect _).bind fun _ _ => reads.accesses _ (.index readHead readPosition)
      · exact .pure readHead

theorem yields_expressions (reads : ReadsExpressions available fuel) :
    Yields available (expressions (fuel + 1)) fun read => ∀ expression ∈ read, Expr.ReadFrom available expression := by
  rw [expressions]
  refine reads.assignment.bind fun first readFirst => ?_
  refine (yields_accept _).bind fun more _ => ?_
  split
  · exact reads.expressions.bind fun others readOthers => .pure (List.forall_mem_cons.mpr ⟨readFirst, readOthers⟩)
  · exact .pure (List.forall_mem_singleton.mpr readFirst)

theorem yields_arrayValues (reads : ReadsExpressions available fuel) :
    Yields available (arrayValues (fuel + 1)) fun read => ∀ expression ∈ read, Expr.ReadFrom available expression := by
  rw [arrayValues]
  refine reads.assignment.bind fun first readFirst => ?_
  refine (yields_accept _).bind fun more _ => ?_
  split
  · refine (yields_at? _).bind fun closed _ => ?_
    split
    · exact .pure (List.forall_mem_singleton.mpr readFirst)
    · exact reads.arrayValues.bind fun others readOthers => .pure (List.forall_mem_cons.mpr ⟨readFirst, readOthers⟩)
  · exact .pure (List.forall_mem_singleton.mpr readFirst)

theorem yields_arrayLiteral (reads : ReadsExpressions available fuel) :
    Yields available (arrayLiteral (fuel + 1)) fun read =>
      (∃ brace, available brace ∧ read.1 = brace.line) ∧ ∀ expression ∈ read.2, Expr.ReadFrom available expression := by
  rw [arrayLiteral]
  refine yields_advance.bind fun brace given => ?_
  refine (yields_at? _).bind fun empty _ => ?_
  extract_lets finish
  have closes : ∀ values, (∀ value ∈ values, Expr.ReadFrom available value) →
      Yields available (finish values) fun read =>
        (∃ brace, available brace ∧ read.1 = brace.line) ∧
          ∀ expression ∈ read.2, Expr.ReadFrom available expression := by
    intro values inner
    exact (yields_expect _).bind fun _ _ => .pure ⟨⟨brace, given, rfl⟩, inner⟩
  split
  · exact (Yields.pure nofun).bind closes
  · exact reads.arrayValues.bind closes

theorem yields_unless {condition : Prop} [Decidable condition] {complaint : Complaint} {token : Token}
    {next : Unit → Reader α} {told : α → Prop} (others : ¬condition → Yields available (next ()) told) :
    Yields available (if condition then complain complaint token >>= next else next ()) told := by
  split
  · exact Yields.bind yields_complain fun _ (impossible : False) => impossible.elim
  · next fine => exact others fine

theorem yields_creation (reads : ReadsExpressions available fuel) :
    Yields available (creation (fuel + 1)) (Expr.ReadFrom available) := by
  rw [creation]
  refine yields_advance.bind fun start given => ?_
  refine yields_current.bind fun type typed => ?_
  refine yields_unless fun fine => ?_
  have kind : type.kind.isType = true ∧ type.kind ≠ .keyword .void := by
    simp only [Bool.or_eq_true, Bool.not_eq_true', decide_eq_true_eq, not_or, Bool.not_eq_false] at fine
    exact fine
  refine yields_advance.bind fun _ _ => ?_
  refine (yields_accept _).bind fun called _ => ?_
  split
  · refine yields_unless fun named => ?_
    refine yields_current.bind fun close _ => ?_
    refine yields_unless fun _ => ?_
    exact yields_advance.bind fun _ _ => .pure (.create given typed (by simpa using named))
  · refine (yields_accept _).bind fun bracketed _ => ?_
    split
    · refine (yields_accept _).bind fun empty _ => ?_
      split
      · refine yields_current.bind fun brace _ => ?_
        refine yields_unless fun _ => ?_
        exact reads.arrayLiteral.bind fun read held => .pure (.arrayOf given typed kind held.2)
      · refine reads.assignment.bind fun size sized => ?_
        exact (yields_expect _).bind fun _ _ => .pure (.newArray given typed kind sized)
    · exact yields_complain

theorem yields_primary (reads : ReadsExpressions available fuel) :
    Yields available (primary (fuel + 1)) (Expr.ReadFrom available) := by
  rw [primary]
  refine yields_current.bind fun token given => ?_
  split
  · next kind =>
      refine yields_advance.bind fun _ _ => ?_
      refine yields_current.bind fun operator after => ?_
      split
      · next update => exact yields_advance.bind fun _ _ => .pure (.updateAfter after update given kind)
      · exact .pure (.name given (.inl kind))
  · next kind => exact yields_advance.bind fun _ _ => .pure (.name given (.inr kind))
  · next kind =>
      refine yields_advance.bind fun _ _ => ?_
      exact yields_literal.bind fun value spelled => .pure (.int given (.inl kind) spelled)
  · next kind =>
      refine yields_advance.bind fun _ _ => ?_
      exact yields_literal.bind fun value spelled => .pure (.int given (.inr kind) spelled)
  · next kind =>
      refine yields_advance.bind fun _ _ => ?_
      exact yields_literal.bind fun value spelled => .pure (.double given kind spelled)
  · next kind => exact yields_advance.bind fun _ _ => .pure (.string given kind)
  · next kind => exact yields_advance.bind fun _ _ => .pure (.char given kind)
  · next kind => exact yields_advance.bind fun _ _ => .pure (.bool true given kind)
  · next kind => exact yields_advance.bind fun _ _ => .pure (.bool false given kind)
  · next kind => exact yields_advance.bind fun _ _ => .pure (.null given kind)
  · exact reads.creation
  · refine reads.arrayLiteral.bind fun read held => ?_
    obtain ⟨⟨brace, braced, line⟩, inner⟩ := held
    refine .pure ?_
    rw [line]
    exact .arrayLiteral braced inner
  · refine yields_advance.bind fun _ _ => ?_
    refine reads.assignment.bind fun inner readInner => ?_
    exact (yields_expect _).bind fun _ _ => .pure readInner
  · split
    · exact yields_complain
    · exact yields_complain

/-- Whatever the bound on the depth, what is read comes from available tokens. -/
theorem readsExpressions (fuel : Nat) : ReadsExpressions available fuel := by
  -- The readers call each other with a smaller bound, so that all of them are treated at once.
  induction fuel with
  | zero => exact readsExpressions_zero
  | succ fuel reads =>
      exact
        { assignment := yields_assignment reads
          conditional := yields_conditional reads
          operation := yields_operation reads
          operationRest := fun level _ readLeft => yields_operationRest reads level readLeft
          unary := yields_unary reads
          accesses := fun _ readHead => yields_accesses reads readHead
          expressions := yields_expressions reads
          arrayValues := yields_arrayValues reads
          arrayLiteral := yields_arrayLiteral reads
          creation := yields_creation reads
          primary := yields_primary reads }

theorem yields_expression : Yields available expression (Expr.ReadFrom available) :=
  yields_get.bind fun _ _ => (readsExpressions _).assignment

end Reader

end Stepwise
