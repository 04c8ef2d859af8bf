import Stepwise.Proofs.Printing.Program
import Stepwise.Proofs.Reading.Program
import Stepwise.Proofs.Reading.Step
import Stepwise.Proofs.Scanning

/-!
# What is read has a shape that the grammar knows

The tokens of a source are genuine: their texts fit their kinds. An expression that was read from genuine tokens can be
printed by its texts alone.

A statement that is read depends on the token behind it as well, since an `else` there would have been taken. So what is
told of the readers of statements is told of the cursor that they leave behind, too.
-/

namespace Stepwise

set_option autoImplicit false

theorem Keyword.ofSpelling?_spelling (word : Keyword) : ofSpelling? word.spelling = some word := by
  cases word <;> decide

theorem Keyword.isNamePart_spelling (word : Keyword) : ∀ part ∈ word.spelling.toList, Scan.isNamePart part = true := by
  have all : word.spelling.toList.all Scan.isNamePart = true := by cases word <;> decide
  exact List.all_eq_true.mp all

theorem Level.ofOperator?_of_holds {level : Level} {kind : TokenKind} (held : level.holds kind = true) :
    ∃ mark, kind = .symbol mark ∧ ofOperator? mark.spelling = some level := by
  unfold holds at held
  split at held
  all_goals first | exact ⟨_, rfl, by decide⟩ | cases held

namespace Token.Genuine

variable {token : Token}

theorem named_identifier (genuine : token.Genuine) (kind : token.kind = .identifier) :
    (Word.named token.value).kind = .identifier := by
  rw [Word.named, (genuine.identifier kind).1]

theorem named_keyword (genuine : token.Genuine) {word : Keyword} (kind : token.kind = .keyword word) :
    (Word.named token.value).kind = .keyword word := by
  rw [Word.named, genuine.keyword word kind, word.ofSpelling?_spelling]

theorem named_type (genuine : token.Genuine) (typed : token.kind.isType = true) :
    (Word.named token.value).kind = token.kind ∧ ∀ part ∈ token.value.toList, Scan.isNamePart part = true := by
  have wordy : token.kind = .identifier ∨ ∃ word, token.kind = .keyword word := by
    unfold TokenKind.isType at typed
    split at typed
    all_goals first | exact .inl ‹_› | exact .inr ⟨_, ‹_›⟩ | cases typed
  rcases wordy with kind | ⟨word, kind⟩
  · rw [genuine.named_identifier kind, kind]
    exact ⟨rfl, (genuine.identifier kind).2⟩
  · rw [genuine.named_keyword kind, kind, genuine.keyword word kind]
    exact ⟨rfl, word.isNamePart_spelling⟩

theorem ne_void (genuine : token.Genuine) (typed : token.kind.isType = true ∧ token.kind ≠ .keyword .void) :
    token.value ≠ "void" := by
  intro same
  have kind := (genuine.named_type typed.1).1
  rw [same] at kind
  exact typed.2 kind.symm

theorem mem_updates (genuine : token.Genuine) (kind : token.kind.isUpdate = true) : token.value ∈ ["++", "--"] := by
  unfold TokenKind.isUpdate at kind
  split at kind
  iterate 2
    next same =>
      rw [genuine.symbol _ same]
      decide
  cases kind

end Token.Genuine

/-- An expression that was read from genuine tokens has a shape that the grammar knows. -/
theorem Expr.ReadFrom.shaped {expression : Expr} (read : expression.ReadFrom Token.Genuine) : expression.Shaped := by
  induction read with
  | int given kind spelled => exact .int _ spelled
  | double given kind spelled => exact .double _ spelled
  | bool value => exact .bool _ value
  | string => exact .string _ _
  | char => exact .char _ _
  | null => exact .null _
  | name given kind => exact .name _ (kind.imp given.named_identifier given.named_keyword)
  | @operation level left right operator first given held second firstShaped secondShaped =>
      obtain ⟨mark, kind, ranked⟩ := Level.ofOperator?_of_holds held
      rw [← given.symbol mark kind] at ranked
      cases level with
      | disjunction => exact .logical _ ranked (.inl rfl) firstShaped secondShaped
      | conjunction => exact .logical _ ranked (.inr rfl) firstShaped secondShaped
      | comparison | sum | product => exact .binary _ ranked (by decide) firstShaped secondShaped
  | @unary operator argument given kind inner innerShaped =>
      have prefixed : operator.value ∈ ["!", "-"] := by
        rcases kind with bang | minus
        · rw [given.symbol .bang bang]
          decide
        · rw [given.symbol .minus minus]
          decide
      exact .unary _ prefixed innerShaped
  | conditional condition first second conditionShaped firstShaped secondShaped =>
      exact .conditional _ conditionShaped firstShaped secondShaped
  | assign targeted located evaluated targetShaped valueShaped => exact .assign _ targeted targetShaped valueShaped
  | @compound target value operator targeted located given kind evaluated targetShaped valueShaped =>
      have combines : operator.value ∈ ["+=", "-=", "*=", "/=", "%="] := by
        unfold TokenKind.isCompoundAssignment at kind
        split at kind
        iterate 5
          next same =>
            rw [given.symbol _ same]
            decide
        cases kind
      exact .compound _ targeted combines targetShaped valueShaped
  | field inner given kind innerShaped => exact .field _ _ (given.named_identifier kind) innerShaped
  | index container number containerShaped numberShaped => exact .index _ containerShaped numberShaped
  | call called passed calledShaped passedShaped => exact .call _ calledShaped passedShaped
  | create given typed kind => exact .create _ (typed.named_identifier kind)
  | newArray given typed kind sized sizedShaped =>
      have same := (typed.named_type kind.1).1
      exact .newArray _ (same ▸ kind.1) (typed.ne_void kind) sizedShaped
  | arrayOf given typed kind inner innerShaped =>
      have same := (typed.named_type kind.1).1
      exact .arrayOf _ (same ▸ kind.1) (typed.ne_void kind) innerShaped
  | arrayLiteral given inner innerShaped => exact .arrayOf _ (by decide) (by decide) innerShaped
  | updateBefore given kind named nameKind =>
      exact .update _ _ .before (given.mem_updates kind) (named.named_identifier nameKind)
  | updateAfter given kind named nameKind =>
      exact .update _ _ .after (given.mem_updates kind) (named.named_identifier nameKind)

namespace Reader

variable {α β : Type} {ready : Cursor → Prop} {middle told : α → Cursor → Prop} {result : β → Cursor → Prop}

/-- What a reader yields and where it ends, if it is begun at a cursor of some kind among genuine tokens. -/
def Gives (ready : Cursor → Prop) (reader : Reader α) (told : α → Cursor → Prop) : Prop :=
  ∀ cursor result after, cursor.Within Token.Genuine → ready cursor → reader.run cursor = .ok result after →
    after.Within Token.Genuine ∧ told result after

theorem Gives.pure {value : α} (holds : ∀ cursor, ready cursor → told value cursor) :
    Gives ready (pure value : Reader α) told := by
  intro cursor given after within begun ended
  cases ended
  exact ⟨within, holds cursor begun⟩

theorem Gives.bind {first : Reader α} {next : α → Reader β} (gives : Gives ready first middle)
    (others : ∀ value, Gives (middle value) (next value) result) : Gives ready (first >>= next) result := by
  intro cursor given after within begun ended
  rw [run_bind] at ended
  cases outcome : first.run cursor with
  | error rejection between =>
      rw [outcome] at ended
      cases ended
  | ok value between =>
      rw [outcome] at ended
      obtain ⟨inside, held⟩ := gives cursor value between within begun outcome
      exact others value between given after inside held ended

theorem Gives.weaken {other : Cursor → Prop} {reader : Reader α} (gives : Gives ready reader told)
    (implies : ∀ cursor, other cursor → ready cursor) : Gives other reader told :=
  fun cursor value after within begun ended => gives cursor value after within (implies cursor begun) ended

theorem Gives.assuming {known : Prop} {reader : Reader α} (fact : ∀ cursor, ready cursor → known)
    (gives : known → Gives ready reader told) : Gives ready reader told :=
  fun cursor value after within begun ended => gives (fact cursor begun) cursor value after within begun ended

/-- Where only the result of the first reader matters, and not where it ends. -/
theorem Gives.andThen {first : Reader α} {next : α → Reader β} {known : α → Prop}
    (gives : Gives ready first fun value _ => known value)
    (others : ∀ value, known value → Gives (fun _ => True) (next value) result) : Gives ready (first >>= next) result :=
  gives.bind fun value => .assuming (fun _ held => held) fun held => (others value held).weaken fun _ _ => trivial

theorem Yields.andThen {first : Reader α} {next : α → Reader β} {known : α → Prop}
    (yields : Yields Token.Genuine first known)
    (others : ∀ value, known value → Gives (fun _ => True) (next value) result) : Gives ready (first >>= next) result :=
  Gives.andThen (fun cursor value after within _ ended => yields cursor value after within ended) others

theorem gives_reject {rejection : Rejection} : Gives ready (reject rejection : Reader α) told := by
  intro cursor given after within begun ended
  cases ended

theorem gives_complain {complaint : Complaint} {token : Token} : Gives ready (complain complaint token : Reader α) told := by
  intro cursor given after within begun ended
  cases ended

theorem gives_unless {condition : Prop} [Decidable condition] {complaint : Complaint} {token : Token}
    {next : Unit → Reader α} (others : ¬condition → Gives ready (next ()) told) :
    Gives ready (if condition then complain complaint token >>= next else next ()) told := by
  split
  · exact Yields.andThen yields_complain fun _ (impossible : False) => impossible.elim
  · next fine => exact others fine

theorem gives_current : Gives ready current fun token cursor => token = cursor.current ∧ ready cursor := by
  intro cursor token after within begun ended
  cases ended
  exact ⟨within, rfl, begun⟩

theorem gives_shape? : Gives ready shape? fun shape cursor => cursor.shape? = shape := by
  intro cursor shape after within begun ended
  cases ended
  exact ⟨within, rfl⟩

theorem gives_accept (kind : TokenKind) : Gives ready (accept kind) fun found cursor =>
    if found then ∃ before, ready before ∧ before.current.kind = kind else ready cursor ∧ cursor.current.kind ≠ kind := by
  intro cursor found after within begun ended
  by_cases same : cursor.current.kind = kind
  · cases moved : cursor.next? with
    | none =>
        rw [run_accept_of_last same moved] at ended
        cases ended
    | some next =>
        rw [run_accept_of_eq same moved] at ended
        cases ended
        exact ⟨within_next? within moved, cursor, begun, same⟩
  · rw [run_accept_of_ne same] at ended
    cases ended
    exact ⟨within, begun, same⟩

theorem gives_typeName {known : TokenKind → Prop} (types : ∀ kind, known kind → kind.isType = true) :
    Gives (fun cursor => known cursor.current.kind) typeName fun name _ => TypeName known name := by
  intro cursor name after within begun ended
  refine ⟨(yields_typeName cursor name after within ended).1, ?_⟩
  obtain ⟨same, parts⟩ := within.current.named_type (types _ begun)
  rw [← same] at begun
  rw [typeName, run_bind_of_ok run_advance, run_bind_of_ok run_get] at ended
  split at ended
  · cases ended
    exact .array begun parts
  · cases ended
    exact .plain begun parts

theorem isType_of_shape? {cursor : Cursor} {shape : Shape} (announced : cursor.shape? = some shape) :
    cursor.current.kind.isType = true := by
  rw [Cursor.shape?] at announced
  split at announced
  · cases announced
  · next typed => simpa using typed

theorem Yields.imp {reader : Reader α} {known more : α → Prop} (yields : Yields Token.Genuine reader known)
    (implies : ∀ value, known value → more value) : Yields Token.Genuine reader more := by
  intro cursor value after within ended
  obtain ⟨inside, held⟩ := yields cursor value after within ended
  exact ⟨inside, implies value held⟩

theorem yields_name (place : Expectation) (identified : place.kind = .identifier) :
    Yields Token.Genuine (expect place) fun token => (Word.named token.value).kind = .identifier :=
  (yields_expect place).imp fun _ held => held.1.named_identifier (held.2.trans identified)

theorem gives_declaration : Gives (fun cursor => cursor.current.kind.isType = true) declaration
    fun declared _ => declared.Shaped ∧ declared.isStatic = false := by
  refine gives_current.bind fun start => ?_
  refine Gives.andThen ((gives_typeName fun _ typed => typed).weaken fun _ begun => begun.2) fun type typed => ?_
  refine (yields_name _ rfl).andThen fun name named => ?_
  refine (yields_accept _).andThen fun valued _ => ?_
  extract_lets finish
  have closes : ∀ value, (∀ expression, value = some expression → expression.Shaped) →
      Gives (fun _ => True) (finish value) fun declared _ => declared.Shaped ∧ declared.isStatic = false := by
    intro value shaped
    exact (yields_expect _).andThen fun _ _ => .pure fun _ _ => ⟨⟨typed, named, shaped⟩, rfl⟩
  split
  · exact (yields_someExpression.imp fun _ held expression same => (held expression same).shaped).andThen closes
  · exact (Yields.pure nofun).andThen closes

theorem gives_forInit : Gives (fun _ => True) forInit fun read _ =>
    ∀ clause, read = some clause → clause.Shaped := by
  refine (yields_accept _).andThen fun empty _ => ?_
  split
  · exact .pure fun _ _ => nofun
  · refine gives_shape?.bind fun shape => ?_
    split
    · next announced =>
        refine Gives.andThen (gives_declaration.weaken fun _ begun => isType_of_shape? (begun.trans announced)) ?_
        intro declared shaped
        refine .pure fun _ _ clause same => ?_
        cases same
        exact .declare shaped.1 shaped.2
    · refine yields_evaluation.andThen fun found read => ?_
      refine .pure fun _ _ clause same => ?_
      cases same
      exact .evaluate _ read.2.shaped

structure EndsAt (statement : Stmt) (after : Cursor) : Prop where
  shaped : statement.Shaped
  closed : statement.isOpen = true → after.current.kind ≠ .keyword .else_

structure ShapesStatements (fuel : Nat) : Prop where
  statement : Gives (fun _ => True) (statement fuel) EndsAt
  block : Gives (fun _ => True) (block fuel) fun read _ => ∀ statement ∈ read, statement.Shaped
  statements : Gives (fun _ => True) (statements fuel) fun read _ => ∀ statement ∈ read, statement.Shaped

variable {fuel : Nat}

theorem gives_declared : Gives (fun cursor => cursor.current.kind.isType = true) (Stmt.declare <$> declaration) EndsAt := by
  refine Gives.andThen gives_declaration fun declared shaped => ?_
  exact .pure fun _ _ => ⟨.declare shaped.1 shaped.2, nofun⟩

theorem gives_ordinary {token : Token} :
    Gives ready
      (do
        match ← shape? with
        | some .method => complain .misplacedMethod token
        | some .variable => .declare <$> declaration
        | none =>
            let (line, value) ← evaluation
            return .evaluate line value) EndsAt := by
  refine gives_shape?.bind fun shape => ?_
  split
  · exact gives_complain
  · exact gives_declared.weaken fun _ announced => isType_of_shape? announced
  · refine yields_evaluation.andThen fun found read => ?_
    exact .pure fun _ _ => ⟨.evaluate _ read.2.shaped, nofun⟩

theorem gives_conditional_statement (shapes : ShapesStatements fuel) {line : Nat} {test : Expr} (condition : test.Shaped) :
    Gives (fun _ => True)
      (do
        let consequent ← statement fuel
        if ← accept (.keyword .else_) then
          let alternate ← statement fuel
          return .ifElse line test consequent alternate
        else return .ifThen line test consequent) EndsAt := by
  refine shapes.statement.bind fun consequent => ?_
  refine (gives_accept _).bind fun found => ?_
  split
  · have closed : ∀ cursor : Cursor,
        (∃ before, EndsAt consequent before ∧ before.current.kind = .keyword .else_) →
          consequent.Shaped ∧ consequent.isOpen = false := by
      rintro _ ⟨before, ends, same⟩
      exact ⟨ends.shaped, Bool.eq_false_iff.mpr fun opened => ends.closed opened same⟩
    refine Gives.assuming closed fun first => ?_
    refine Gives.bind (shapes.statement.weaken fun _ _ => trivial) fun alternate => ?_
    exact .pure fun _ ends => ⟨.ifElse _ condition first.1 first.2 ends.shaped, ends.closed⟩
  · exact .pure fun _ refused => ⟨.ifThen _ condition refused.1.shaped, fun _ => refused.2⟩

theorem gives_statement (shapes : ShapesStatements fuel) :
    Gives (fun _ => True) (statement (fuel + 1)) EndsAt := by
  rw [statement]
  refine yields_current.andThen fun token given => ?_
  split
  · exact gives_complain
  · refine yields_advance.andThen fun _ _ => ?_
    exact (yields_condition _ _).andThen fun test condition => gives_conditional_statement shapes condition.shaped
  · refine yields_advance.andThen fun _ _ => ?_
    refine (yields_condition _ _).andThen fun test condition => ?_
    refine shapes.statement.bind fun body => ?_
    exact .pure fun _ ends => ⟨.while_ _ condition.shaped ends.shaped, ends.closed⟩
  · refine yields_advance.andThen fun _ _ => ?_
    refine shapes.statement.bind fun body => .assuming (fun _ ends => ends.shaped) fun inner => ?_
    refine (yields_expect _).andThen fun _ _ => ?_
    refine (yields_condition _ _).andThen fun test condition => ?_
    exact (yields_expect _).andThen fun _ _ => .pure fun _ _ => ⟨.doWhile _ condition.shaped inner, by simp [Stmt.isOpen]⟩
  · refine yields_advance.andThen fun _ _ => ?_
    refine (yields_expect _).andThen fun _ _ => ?_
    refine Gives.andThen gives_forInit fun init first => ?_
    refine (yields_expressionUnless _).andThen fun test condition => ?_
    refine (yields_expect _).andThen fun _ _ => ?_
    refine (yields_expressionUnless _).andThen fun update last => ?_
    refine (yields_expect _).andThen fun _ _ => ?_
    refine shapes.statement.bind fun body => ?_
    refine .pure fun _ ends => ⟨?_, ends.closed⟩
    exact .for_ _ first (fun expression same => (condition expression same).shaped)
      (fun expression same => (last expression same).shaped) ends.shaped
  · refine yields_advance.andThen fun _ _ => ?_
    refine (yields_expressionUnless _).andThen fun argument value => ?_
    refine (yields_expect _).andThen fun _ _ => .pure fun _ _ => ⟨?_, by simp [Stmt.isOpen]⟩
    exact .return_ _ fun expression same => (value expression same).shaped
  · refine yields_advance.andThen fun _ _ => ?_
    exact (yields_expect _).andThen fun _ _ => .pure fun _ _ => ⟨.break_ _, by simp [Stmt.isOpen]⟩
  · refine yields_advance.andThen fun _ _ => ?_
    exact (yields_expect _).andThen fun _ _ => .pure fun _ _ => ⟨.continue_ _, by simp [Stmt.isOpen]⟩
  · exact Gives.andThen shapes.block fun body inner => .pure fun _ _ => ⟨.block _ inner, by simp [Stmt.isOpen]⟩
  · exact yields_advance.andThen fun _ _ => .pure fun _ _ => ⟨.block _ (List.forall_mem_nil _), by simp [Stmt.isOpen]⟩
  · refine yields_advance.andThen fun _ _ => ?_
    refine gives_shape?.bind fun shape => ?_
    split
    · refine yields_current.andThen fun found _ => ?_
      exact Yields.andThen yields_complain fun _ (impossible : False) => impossible.elim
    · next announced =>
        have declared : ∀ cursor : Cursor, cursor.shape? = shape → cursor.current.kind.isType = true := by
          intro cursor same
          rw [Classical.not_not.mp announced] at same
          exact isType_of_shape? same
        exact gives_declared.weaken declared
  · exact gives_unless fun _ => gives_ordinary

theorem gives_block (shapes : ShapesStatements fuel) :
    Gives (fun _ => True) (block (fuel + 1)) fun read _ => ∀ statement ∈ read, statement.Shaped := by
  rw [block]
  refine (yields_expect _).andThen fun _ _ => ?_
  refine Gives.andThen shapes.statements fun body inner => ?_
  exact (yields_expect _).andThen fun _ _ => .pure fun _ _ => inner

theorem gives_statements (shapes : ShapesStatements fuel) :
    Gives (fun _ => True) (statements (fuel + 1)) fun read _ => ∀ statement ∈ read, statement.Shaped := by
  rw [statements]
  refine yields_current.andThen fun token _ => ?_
  split
  · exact .pure fun _ _ => List.forall_mem_nil _
  · refine shapes.statement.bind fun first => .assuming (fun _ ends => ends.shaped) fun shaped => ?_
    refine Gives.andThen (shapes.statements.weaken fun _ _ => trivial) fun others readOthers => ?_
    exact .pure fun _ _ => List.forall_mem_cons.mpr ⟨shaped, readOthers⟩

/-- Whatever the bound on the depth, the statements that are read have shapes that the grammar knows. -/
theorem shapesStatements (fuel : Nat) : ShapesStatements fuel := by
  induction fuel with
  | zero => exact ⟨gives_reject, gives_reject, gives_reject⟩
  | succ fuel shapes => exact ⟨gives_statement shapes, gives_block shapes, gives_statements shapes⟩

theorem gives_param : Gives (fun _ => True) param fun declared _ => declared.Shaped := by
  refine (yields_accept _).andThen fun _ _ => ?_
  refine gives_current.bind fun start => ?_
  refine gives_unless fun fine => ?_
  simp only [Bool.or_eq_true, Bool.not_eq_true', decide_eq_true_eq, not_or, Bool.not_eq_false] at fine
  have types : ∀ kind : TokenKind, kind.isType = true ∧ kind ≠ .keyword .void → kind.isType = true :=
    fun _ typed => typed.1
  refine Gives.andThen ((gives_typeName types).weaken fun _ begun => begun.1 ▸ fine) fun type typed => ?_
  exact (yields_name _ rfl).andThen fun name named => .pure fun _ _ => ⟨typed, named⟩

theorem gives_params (fuel : Nat) :
    Gives (fun _ => True) (params fuel) fun read _ => ∀ param ∈ read, param.Shaped := by
  induction fuel with
  | zero => exact gives_reject
  | succ fuel hypothesis =>
      rw [params]
      refine Gives.andThen gives_param fun first shaped => ?_
      refine (yields_accept _).andThen fun more _ => ?_
      split
      · refine Gives.andThen hypothesis fun others readOthers => ?_
        exact .pure fun _ _ => List.forall_mem_cons.mpr ⟨shaped, readOthers⟩
      · exact .pure fun _ _ => List.forall_mem_singleton.mpr shaped

theorem gives_method (fuel : Nat) :
    Gives (fun cursor => cursor.current.kind.isType = true) (method fuel) fun declared _ => declared.Shaped := by
  refine gives_current.bind fun start => ?_
  refine Gives.andThen ((gives_typeName fun _ typed => typed).weaken fun _ begun => begun.2) fun type typed => ?_
  refine (yields_name _ rfl).andThen fun name named => ?_
  refine (yields_expect _).andThen fun _ _ => ?_
  refine (yields_at? _).andThen fun empty _ => ?_
  extract_lets finish
  have closes : ∀ parameters, (∀ param ∈ parameters, param.Shaped) →
      Gives (fun _ => True) (finish parameters) fun declared _ => declared.Shaped := by
    intro parameters shaped
    refine (yields_expect _).andThen fun _ _ => ?_
    refine Gives.andThen (shapesStatements fuel).block fun body inner => ?_
    exact .pure fun _ _ => ⟨typed, named, shaped, inner⟩
  split
  · exact (Yields.pure nofun).andThen closes
  · exact Gives.andThen (gives_params fuel) closes

theorem gives_members (fuel : Nat) :
    Gives (fun _ => True) (members fuel) fun read _ => ∀ member ∈ read, member.Shaped := by
  induction fuel with
  | zero => exact gives_reject
  | succ fuel hypothesis =>
      rw [members]
      refine yields_current.andThen fun token _ => ?_
      split
      · exact .pure fun _ _ => List.forall_mem_nil _
      · refine (yields_modifiers fuel).andThen fun isStatic _ => ?_
        refine gives_shape?.bind fun shape => ?_
        split
        · refine Gives.andThen ((gives_method fuel).weaken fun _ announced => isType_of_shape? announced) ?_
          intro first shaped
          refine Gives.andThen hypothesis fun others readOthers => ?_
          exact .pure fun _ _ => List.forall_mem_cons.mpr ⟨.method shaped, readOthers⟩
        · refine Gives.andThen (gives_declaration.weaken fun _ announced => isType_of_shape? announced) ?_
          rintro first ⟨shaped, -⟩
          refine Gives.andThen hypothesis fun others readOthers => ?_
          refine .pure fun _ _ => List.forall_mem_cons.mpr ⟨.field ?_, readOthers⟩
          exact ⟨shaped.typed, shaped.named, shaped.value⟩
        · exact yields_current.andThen fun _ _ => gives_complain

theorem gives_classDecl (fuel : Nat) : Gives (fun _ => True) (classDecl fuel) fun decl _ => decl.Shaped := by
  refine yields_advance.andThen fun start _ => ?_
  refine (yields_name _ rfl).andThen fun name named => ?_
  refine (yields_expect _).andThen fun _ _ => ?_
  refine Gives.andThen (gives_members fuel) fun body inner => ?_
  exact (yields_expect _).andThen fun _ _ => .pure fun _ _ => ⟨named, inner⟩

theorem gives_classes (fuel : Nat) :
    Gives (fun _ => True) (classes fuel) fun read _ => ∀ decl ∈ read, decl.Shaped := by
  induction fuel with
  | zero => exact gives_reject
  | succ fuel hypothesis =>
      rw [classes]
      refine yields_current.andThen fun token _ => ?_
      split
      · exact .pure fun _ _ => List.forall_mem_nil _
      · split
        · refine yields_advance.andThen fun _ _ => ?_
          exact (yields_directive _ fuel).andThen fun _ _ => hypothesis
        · refine (yields_modifiers fuel).andThen fun _ _ => ?_
          refine yields_current.andThen fun start _ => ?_
          refine gives_unless fun _ => ?_
          refine Gives.andThen (gives_classDecl fuel) fun first shaped => ?_
          refine Gives.andThen hypothesis fun others readOthers => ?_
          exact .pure fun _ _ => List.forall_mem_cons.mpr ⟨shaped, readOthers⟩

theorem gives_program : Gives (fun _ => True) program fun read _ => read.Shaped := by
  refine yields_get.andThen fun _ _ => ?_
  exact Gives.andThen (gives_classes _) fun _ inner => .pure fun _ _ => inner

end Reader

/-- A program that genuine tokens spell has a shape that the grammar knows. -/
theorem Program.shaped_of_ofTokens {tokens : List Token} {program : Program} (genuine : ∀ token ∈ tokens, token.Genuine)
    (spelled : Program.ofTokens tokens = .ok program) : program.Shaped := by
  obtain ⟨first, rest, after, rfl, ended⟩ := Program.run_of_ofTokens spelled
  rw [List.forall_mem_cons] at genuine
  exact (Reader.gives_program _ _ _ ⟨genuine.1, genuine.2⟩ trivial ended).2

theorem shaped_of_compile {source : String} {compiled : Compiled} (accepted : compile source = .ok compiled) :
    compiled.program.Shaped := by
  obtain ⟨scanned, spelled⟩ := compile_eq_ok accepted
  exact Program.shaped_of_ofTokens (genuine_of_scan scanned) spelled

theorem readFrom_genuine_of_compile {source : String} {compiled : Compiled}
    (accepted : compile source = .ok compiled) :
    ∀ decl ∈ compiled.program.classes, decl.ReadFrom Token.Genuine := by
  obtain ⟨scanned, spelled⟩ := compile_eq_ok accepted
  obtain ⟨first, rest, after, same, ended⟩ := Program.run_of_ofTokens spelled
  have genuine := genuine_of_scan scanned
  rw [same, List.forall_mem_cons] at genuine
  exact (Reader.yields_program _ _ _ ⟨genuine.1, genuine.2⟩ ended).2

theorem shaped_expressions_of_compile {source : String} {compiled : Compiled}
    (accepted : compile source = .ok compiled) : ∀ part ∈ compiled.program.expressions, part.Shaped := by
  intro part inside
  obtain ⟨decl, member, partOf⟩ := List.mem_flatMap.mp inside
  exact ((readFrom_genuine_of_compile accepted decl member).expressions part partOf).shaped

theorem ForInit.shaped_declarations {init : Option ForInit} (shaped : ∀ clause, init = some clause → clause.Shaped) :
    ∀ declaration ∈ ForInit.declarations init, declaration.Shaped := by
  cases init with
  | none => exact nofun
  | some clause =>
      cases shaped clause rfl with
      | declare declared => exact List.forall_mem_singleton.mpr declared
      | evaluate => exact nofun

theorem Stmt.Shaped.declarations {statement : Stmt} (shaped : statement.Shaped) :
    ∀ declaration ∈ statement.declarations, declaration.Shaped := by
  induction shaped with
  | declare declared =>
      rw [Stmt.declarations]
      exact List.forall_mem_singleton.mpr declared
  | block line inner innerDeclarations =>
      rw [Stmt.declarations]
      exact Stmt.forall_mem_declarationsAll.mpr innerDeclarations
  | ifThen line condition first firstDeclarations =>
      rw [Stmt.declarations]
      exact firstDeclarations
  | ifElse line condition first closed second firstDeclarations secondDeclarations =>
      rw [Stmt.declarations, List.forall_mem_append]
      exact ⟨firstDeclarations, secondDeclarations⟩
  | while_ line condition inner innerDeclarations | doWhile line condition inner innerDeclarations =>
      rw [Stmt.declarations]
      exact innerDeclarations
  | for_ line first condition last inner innerDeclarations =>
      rw [Stmt.declarations, List.forall_mem_append]
      exact ⟨ForInit.shaped_declarations first, innerDeclarations⟩
  | evaluate | return_ | break_ | continue_ =>
      rw [Stmt.declarations]
      exact nofun

theorem shaped_declarations_of_compile {source : String} {compiled : Compiled}
    (accepted : compile source = .ok compiled) :
    ∀ declaration ∈ compiled.program.declarations, declaration.Shaped := by
  intro declaration inside
  obtain ⟨decl, present, inside⟩ := List.mem_flatMap.mp inside
  obtain ⟨member, declared, inside⟩ := List.mem_flatMap.mp inside
  cases (shaped_of_compile accepted decl present).body member declared with
  | method shaped =>
      have body := fun statement within => (shaped.body statement within).declarations
      exact Stmt.forall_mem_declarationsAll.mpr body declaration inside
  | field shaped =>
      rw [List.mem_singleton.mp inside]
      exact shaped

end Stepwise
