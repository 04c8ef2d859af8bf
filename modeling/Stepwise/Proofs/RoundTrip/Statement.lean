import Stepwise.Proofs.Printing.Program
import Stepwise.Proofs.RoundTrip.Expression
import Stepwise.Tree.Grammar

/-!
# Printed statements are read back
-/

namespace Stepwise

set_option autoImplicit false

/-- Of the words that can begin a type, only a name can begin an expression. -/
theorem TokenKind.eq_identifier_of_isType {kind : TokenKind} (typed : kind.isType = true)
    (starts : kind.beginsExpression = true) : kind = .identifier := by
  unfold isType at typed
  split at typed
  all_goals first | rfl | cases starts | cases typed

namespace Word

theorem type_plain {base : String} (parts : ∀ part ∈ base.toList, Scan.isNamePart part = true) :
    type base = [named base] := by
  unfold type
  split
  · next rest reversed =>
      have bracket : ']' ∈ base.toList := by
        rw [← List.mem_reverse, reversed]
        exact List.mem_cons_self
      exact absurd (parts ']' bracket) (by decide)
  · rfl

theorem type_array (base : String) :
    type (base ++ "[]") = [named base, symbol .leftBracket, symbol .rightBracket] := by
  have reversed : (base ++ "[]").toList.reverse = ']' :: '[' :: base.toList.reverse := by simp
  unfold type
  rw [reversed]
  simp

end Word

namespace Cursor

variable {before one two after : Cursor} {word : Word} {words : List Word}

theorem Takes.ahead (takes : before.Takes word after) (distance : Nat) :
    before.ahead (distance + 1) = after.ahead distance := by
  obtain ⟨current, rest⟩ := before
  have moved := takes.moved
  have shorter := takes.shorter
  unfold advanced at moved
  split at moved
  · subst moved
    exact absurd shorter (Nat.succ_ne_self _)
  · cases rest with
    | nil => cases shorter
    | cons token tokens =>
        subst moved
        cases distance with
        | zero => rfl
        | succ distance => simp only [Cursor.ahead, List.getD_cons_succ, List.getLastD_cons]

/-- In front of a type and a name, what follows the name tells what is declared. -/
theorem shape?_of_type {known : TokenKind → Prop} {text name : String} (typed : TypeName known text)
    (types : ∀ kind, known kind → kind.isType = true) (spells : before.Spells (Word.type text) one)
    (named : one.Takes (.named name) two) (identified : (Word.named name).kind = .identifier) :
    before.shape? = some (if two.current.kind = .symbol .leftParen then .method else .variable) := by
  have kindOne : one.current.kind = .identifier := named.kind.trans identified
  cases typed with
  | plain kind parts =>
      rw [Word.type_plain parts] at spells
      obtain ⟨next, taken, spells⟩ := spells.named
      cases spells_nil.mp spells
      have typed : before.current.kind.isType = true := by rw [taken.kind, types _ kind]
      have first : (before.ahead 1).kind = .identifier := by rw [taken.ahead, ahead, kindOne]
      have second : before.ahead 2 = two.current := by rw [taken.ahead, named.ahead, ahead]
      simp only [shape?, typed, first, second, Bool.not_true, Bool.false_eq_true, if_false, if_true]
  | array kind =>
      rw [Word.type_array] at spells
      obtain ⟨three, taken, spells⟩ := spells.named
      obtain ⟨four, opening, spells⟩ := spells.symbol
      obtain ⟨five, closing, spells⟩ := spells.symbol
      cases spells_nil.mp spells
      have typed : before.current.kind.isType = true := by rw [taken.kind, types _ kind]
      have first : (before.ahead 1).kind = .symbol .leftBracket := by rw [taken.ahead, ahead, opening.kind]; rfl
      have second : (before.ahead 2).kind = .symbol .rightBracket := by
        rw [taken.ahead, opening.ahead, ahead, closing.kind]; rfl
      have third : (before.ahead 3).kind = .identifier := by
        rw [taken.ahead, opening.ahead, closing.ahead, ahead, kindOne]
      have fourth : before.ahead 4 = two.current := by
        rw [taken.ahead, opening.ahead, closing.ahead, named.ahead, ahead]
      simp [shape?, typed, first, second, third, fourth]

theorem kind_of_type {known : TokenKind → Prop} {text : String} (typed : TypeName known text)
    (spells : before.Spells (Word.type text) after) : known before.current.kind := by
  cases typed with
  | plain kind parts =>
      rw [Word.type_plain parts] at spells
      rw [spells.kind_head]
      exact kind
  | array kind =>
      rw [Word.type_array] at spells
      rw [spells.kind_head]
      exact kind

/-- In front of words with which no declaration begins, none is announced. -/
theorem shape?_of_begins {more : List Word} (begins : Word.Begins words) (continues : Word.Continues more)
    (spells : before.Spells (words ++ more) after) : before.shape? = none := by
  obtain ⟨first, rest, same, starts, behind⟩ := begins.append_continues continues
  rw [same] at spells
  have kind := spells.kind_head
  by_cases typed : first.kind.isType = true
  · have identified : first.kind = .identifier := TokenKind.eq_identifier_of_isType typed starts
    obtain ⟨second, tail, rfl, different, inner⟩ := (behind identified).exists_cons
    obtain ⟨one, taken, spells⟩ := spells.cons (by rw [identified]; nofun)
    have next : (before.ahead 1).kind = second.kind := by rw [taken.ahead, ahead, spells.kind_head]
    have unclosed : (before.ahead 1).kind = .symbol .leftBracket → (before.ahead 2).kind ≠ .symbol .rightBracket := by
      intro bracket
      rw [next] at bracket
      obtain ⟨third, more, rfl, some⟩ := inner bracket
      obtain ⟨two, opening, spells⟩ := spells.cons (by rw [bracket]; nofun)
      rw [taken.ahead, opening.ahead, ahead, spells.kind_head]
      exact some
    rw [← next] at different
    rw [← kind] at typed
    simp only [shape?, typed, different, Bool.not_true, Bool.false_eq_true, if_false]
    rw [if_neg]
    simp only [Bool.and_eq_true, decide_eq_true_eq]
    exact fun all => unclosed all.1.1 all.1.2
  · rw [← kind, Bool.not_eq_true] at typed
    simp only [shape?, typed, Bool.not_false, if_true]

end Cursor

/-- The kinds of tokens that can stand behind a statement or a member, and begin neither. -/
def TokenKind.stops : List TokenKind :=
  [.symbol .rightBrace, .endOfInput, .keyword .else_]

theorem TokenKind.not_mem_stops {kind : TokenKind} (plain : kind.isType = true ∨ kind.beginsExpression = true) :
    kind ∉ stops := by
  have marks : ∀ stop ∈ stops, stop.isType = false ∧ stop.beginsExpression = false := by decide
  intro member
  obtain ⟨typed, starts⟩ := marks kind member
  rw [typed, starts] at plain
  rcases plain with no | no <;> cases no

theorem Cursor.not_stopped {cursor : Cursor} (more : cursor.current.kind ∉ TokenKind.stops) :
    ¬(decide (cursor.current.kind = .symbol .rightBrace) || cursor.current.isEnd) = true := by
  simp only [TokenKind.stops, List.mem_cons, List.not_mem_nil, or_false, not_or] at more
  simp [Token.isEnd, more]

namespace Reader

variable {before one two after : Cursor} {spelling : Spelling}

theorem run_shape? {shape : Option Shape} (announced : before.shape? = shape) :
    shape?.run before = .ok shape before := by
  rw [← announced]
  rfl

theorem run_typeName {known : TokenKind → Prop} {text : String} (typed : TypeName known text)
    (spells : before.Spells (Word.type text) after) (bare : after.current.kind ≠ .symbol .leftBracket) :
    typeName.run before = .ok text after := by
  cases typed with
  | plain kind parts =>
      rw [Word.type_plain parts] at spells
      obtain ⟨one, taken, spells⟩ := spells.named
      cases Cursor.spells_nil.mp spells
      have word := taken.value.trans (Word.value_named text)
      rw [typeName, run_bind_of_ok (run_advance_of_takes taken), run_bind_of_ok run_get, if_neg (by simp [*]), run_pure,
        word]
  | @array base kind =>
      rw [Word.type_array] at spells
      obtain ⟨one, taken, spells⟩ := spells.named
      obtain ⟨two, opening, spells⟩ := spells.symbol
      obtain ⟨three, closing, spells⟩ := spells.symbol
      cases Cursor.spells_nil.mp spells
      have word := taken.value.trans (Word.value_named base)
      have brackets : (decide (one.current.kind = .symbol .leftBracket) &&
          decide ((one.ahead 1).kind = .symbol .rightBracket)) = true := by
        rw [opening.ahead, Cursor.ahead, opening.kind, closing.kind]
        rfl
      rw [typeName, run_bind_of_ok (run_advance_of_takes taken), run_bind_of_ok run_get, if_pos brackets,
        run_bind_of_ok (run_advance_of_takes opening), run_bind_of_ok (run_advance_of_takes closing), run_pure, word]

theorem run_expressionUnless_none {kind : TokenKind} (ended : before.current.kind = kind) :
    (expressionUnless kind).run before = .ok none before := by
  rw [expressionUnless, run_bind_of_ok run_at?, if_pos (decide_eq_true ended), run_pure]

theorem run_expressionUnless {expression : Option Expr}
    (shaped : ∀ present, expression = some present → present.Shaped)
    (spells : before.Spells (Expr.wordsOf spelling expression) after) (kind : TokenKind)
    (ended : after.current.kind = kind) (loose : kind.binding = 0)
    (other : kind.beginsExpression = false) :
    ∃ read, (expressionUnless kind).run before = .ok read after ∧
      read.map Expr.erased = expression.map Expr.erased := by
  cases expression with
  | none =>
      cases Cursor.spells_nil.mp spells
      exact ⟨none, run_expressionUnless_none ended, rfl⟩
  | some present =>
      have shape := shaped present rfl
      have begins : Word.Begins (present.words spelling) := shape.begins
      obtain ⟨read, ran, same⟩ := run_expression_of_spells shape spells (by rw [ended, loose])
      refine ⟨some read, ?_, by rw [Option.map_some, same, Option.map_some]⟩
      rw [expressionUnless, run_bind_of_ok run_at?, decide_eq_false (begins.current_ne spells kind other), if_neg nofun]
      exact run_bind_of_ok ran

theorem run_condition {test : Expr} (shaped : test.Shaped) (spells : before.Spells (test.guarding spelling) after)
    (open_ close : Expectation) (opens : open_.kind = .symbol .leftParen)
    (closes : close.kind = .symbol .rightParen) :
    ∃ read, (condition open_ close).run before = .ok read after ∧ read.erased = test.erased := by
  obtain ⟨one, opening, spells⟩ := spells.symbol
  obtain ⟨two, spellsTest, spells⟩ := Cursor.spells_append.mp spells
  obtain ⟨three, closing, spells⟩ := spells.symbol
  cases Cursor.spells_nil.mp spells
  obtain ⟨read, ran, same⟩ := run_expression_of_spells shaped spellsTest (by rw [closing.kind]; rfl)
  refine ⟨read, ?_, same⟩
  rw [condition, run_bind_of_ok (run_expect_of_takes opening opens.symm), run_bind_of_ok ran,
    run_bind_of_ok (run_expect_of_takes closing closes.symm), run_pure]

theorem run_evaluation {value : Expr} (shaped : value.Shaped)
    (spells : before.Spells (value.words spelling ++ [.symbol .semicolon]) after) :
    ∃ read, evaluation.run before = .ok (read.line, read) after ∧ read.erased = value.erased := by
  obtain ⟨one, spellsValue, spells⟩ := Cursor.spells_append.mp spells
  obtain ⟨two, ending, spells⟩ := spells.symbol
  cases Cursor.spells_nil.mp spells
  obtain ⟨read, ran, same⟩ := run_expression_of_spells shaped spellsValue (by rw [ending.kind]; rfl)
  refine ⟨read, ?_, same⟩
  rw [evaluation, run_bind_of_ok ran, run_bind_of_ok (run_expect_of_takes ending (by rfl)), run_pure]

theorem run_declaration {declared : Declaration} (shaped : declared.Shaped)
    (spells : before.Spells (declared.words spelling) after) :
    ∃ read, declaration.run before = .ok read after ∧ read.isStatic = false ∧
      { read with isStatic := declared.isStatic }.erased = declared.erased := by
  obtain ⟨line, type, name, value, isStatic⟩ := declared
  have identified : (Word.named name).kind = .identifier := shaped.named
  obtain ⟨one, spellsType, spells⟩ := Cursor.spells_append.mp spells
  obtain ⟨two, named, spells⟩ := spells.named
  have bare : one.current.kind ≠ .symbol .leftBracket := by rw [named.kind, identified]; nofun
  have word : one.current.value = name := named.value.trans (Word.value_named name)
  have runType : typeName.run before = .ok type one := run_typeName shaped.typed spellsType bare
  have runName : (expect .variableName).run one = .ok one.current two := run_expect_of_takes named identified
  rw [declaration, run_bind_of_ok run_current, run_bind_of_ok runType, run_bind_of_ok runName, word]
  cases value with
  | none =>
      obtain ⟨three, ending, spells⟩ := spells.symbol
      cases Cursor.spells_nil.mp spells
      have plain : two.current.kind ≠ .symbol .assign := by rw [ending.kind]; nofun
      rw [run_bind_of_ok (run_accept_of_ne plain)]
      exact ⟨_, run_bind_of_ok (run_expect_of_takes ending (by rfl)), rfl, rfl⟩
  | some value =>
      obtain ⟨three, mark, spells⟩ := spells.symbol
      obtain ⟨four, spellsValue, spells⟩ := Cursor.spells_append.mp spells
      obtain ⟨five, ending, spells⟩ := spells.symbol
      cases Cursor.spells_nil.mp spells
      obtain ⟨read, ran, same⟩ := run_expression_of_spells (shaped.value value rfl) spellsValue
        (by rw [ending.kind]; rfl)
      have runValue : (some <$> expression).run three = .ok (some read) four := run_bind_of_ok ran
      rw [run_bind_of_ok (run_accept_of_takes mark (by rfl)), if_pos rfl, run_bind_of_ok runValue]
      refine ⟨_, run_bind_of_ok (run_expect_of_takes ending (by rfl)), rfl, ?_⟩
      simp only [Declaration.erased, Option.map_some, same]

theorem run_declaration_of_local {declared : Declaration} (shaped : declared.Shaped)
    (local_ : declared.isStatic = false) (spells : before.Spells (declared.words spelling) after) :
    ∃ read, declaration.run before = .ok read after ∧ read.erased = declared.erased := by
  obtain ⟨read, ran, still, same⟩ := run_declaration shaped spells
  rw [local_, ← still] at same
  exact ⟨read, ran, same⟩

theorem shape?_of_declaration {declared : Declaration} (shaped : declared.Shaped)
    (spells : before.Spells (declared.words spelling) after) :
    before.shape? = some .variable ∧ before.current.kind.isType = true := by
  obtain ⟨one, spellsType, spells⟩ := Cursor.spells_append.mp spells
  obtain ⟨two, named, spells⟩ := spells.named
  have plain : two.current.kind ≠ .symbol .leftParen := by
    cases value : declared.value with
    | none =>
        rw [value] at spells
        rw [spells.kind_head]
        nofun
    | some =>
        rw [value] at spells
        rw [spells.kind_head]
        nofun
  have shape := Cursor.shape?_of_type shaped.typed (fun _ typed => typed) spellsType named shaped.named
  rw [if_neg plain] at shape
  exact ⟨shape, Cursor.kind_of_type shaped.typed spellsType⟩

theorem run_forInit {init : Option ForInit} (shaped : ∀ clause, init = some clause → clause.Shaped)
    (spells : before.Spells (ForInit.words spelling init) after) :
    ∃ read, forInit.run before = .ok read after ∧ read.map ForInit.erased = init.map ForInit.erased := by
  match init, shaped with
  | none, _ =>
      obtain ⟨one, ending, spells⟩ := spells.symbol
      cases Cursor.spells_nil.mp spells
      exact ⟨none, run_bind_of_ok (run_accept_of_takes ending (by rfl)), rfl⟩
  | some (.declare declared), shaped =>
      cases shaped _ rfl with
      | declare shape local_ =>
          obtain ⟨announced, typed⟩ := shape?_of_declaration shape spells
          obtain ⟨read, ran, same⟩ := run_declaration_of_local shape local_ spells
          have some_ : before.current.kind ≠ .symbol .semicolon := by
            intro ended
            rw [ended] at typed
            cases typed
          refine ⟨some (.declare read), ?_, ?_⟩
          · rw [forInit, run_bind_of_ok (run_accept_of_ne some_), if_neg Bool.false_ne_true, run_bind_of_ok (run_shape? announced),
              if_pos rfl, run_bind_of_ok ran, run_pure]
          · simp only [Option.map_some, ForInit.erased, same]
  | some (.evaluate line value), shaped =>
      cases shaped _ rfl with
      | evaluate _ shape =>
          have begins : Word.Begins (value.words spelling) := shape.begins
          have continues : Word.Continues [.symbol .semicolon] := Word.continues_symbol .semicolon [] (by rintro ⟨⟩)
          have announced := Cursor.shape?_of_begins begins continues spells
          obtain ⟨read, ran, same⟩ := run_evaluation shape spells
          have some_ : before.current.kind ≠ .symbol .semicolon := (begins.append continues).current_ne spells _ rfl
          refine ⟨some (.evaluate read.line read), ?_, ?_⟩
          · rw [forInit, run_bind_of_ok (run_accept_of_ne some_), if_neg Bool.false_ne_true, run_bind_of_ok (run_shape? announced),
              if_neg (by rintro ⟨⟩), run_bind_of_ok ran, run_pure]
          · simp only [Option.map_some, ForInit.erased, same]

abbrev ReadsStatement (before : Cursor) (read : Stmt) (after : Cursor) : Prop :=
  Reads statement (4 * before.rest.length + 2) before read after

abbrev ReadsBlock (before : Cursor) (read : List Stmt) (after : Cursor) : Prop :=
  Reads block (4 * before.rest.length + 1) before read after

abbrev ReadsBody (before : Cursor) (read : List Stmt) (after : Cursor) : Prop :=
  Reads statements (4 * before.rest.length + 3) before read after

theorem reads_ordinary {outcome : Stmt}
    (plain : before.current.kind.isType = true ∨ before.current.kind.beginsExpression = true)
    (shorter : after.rest.length ≤ before.rest.length)
    (ran : (do
        match ← shape? with
        | some .method => complain .misplacedMethod before.current
        | some .variable => .declare <$> declaration
        | none =>
            let (line, value) ← evaluation
            return .evaluate line value : Reader Stmt).run before = .ok outcome after) :
    ReadsStatement before outcome after := by
  apply Reads.of_succ (by omega)
  intro fuel enough
  rw [statement, run_bind_of_ok run_current]
  generalize before.current.kind = kind at plain
  rcases plain with typed | starts
  · unfold TokenKind.isType at typed
    split at typed
    all_goals first | exact ran | cases typed
  · unfold TokenKind.beginsExpression at starts
    split at starts
    all_goals first | exact ran | cases starts

end Reader

namespace Stmt

open Reader

variable {spelling : Spelling} {test : Expr} {consequent alternate body : Stmt}

/-- A statement is read back from its words, unless an `else` behind them would belong to it. -/
def ReadsBack (spelling : Spelling) (statement : Stmt) : Prop :=
  ∀ ⦃before after : Cursor⦄, before.Spells (statement.words spelling) after →
    (statement.isOpen = true → after.current.kind ≠ .keyword .else_) →
    ∃ read, read.erased = statement.erased ∧ ReadsStatement before read after

theorem readsBack_declare {declared : Declaration} (shaped : declared.Shaped) (local_ : declared.isStatic = false) :
    (Stmt.declare declared).ReadsBack spelling := by
  intro before after spells _
  obtain ⟨announced, typed⟩ := shape?_of_declaration shaped spells
  obtain ⟨read, ran, same⟩ := run_declaration_of_local shaped local_ spells
  refine ⟨.declare read, by simp only [erased, same], reads_ordinary (.inl typed) spells.shorter ?_⟩
  rw [run_bind_of_ok (run_shape? announced)]
  exact run_bind_of_ok ran

theorem readsBack_evaluate (line : Nat) {value : Expr} (shaped : value.Shaped) :
    (Stmt.evaluate line value).ReadsBack spelling := by
  intro before after spells _
  have begins : Word.Begins (value.words spelling) := shaped.begins
  have continues : Word.Continues [.symbol .semicolon] := Word.continues_symbol .semicolon [] nofun
  obtain ⟨first, others, same, starts, -⟩ := begins.append_continues continues
  have head : before.Spells (first :: others) after := same ▸ spells
  obtain ⟨read, ran, same⟩ := run_evaluation shaped spells
  refine ⟨.evaluate read.line read, by simp only [erased, same], reads_ordinary (.inr ?_) spells.shorter ?_⟩
  · rw [head.kind_head, starts]
  · rw [run_bind_of_ok (run_shape? (Cursor.shape?_of_begins begins continues spells))]
    exact run_bind_of_ok ran

theorem readsBack_ifThen (line : Nat) (condition : test.Shaped) (first : consequent.ReadsBack spelling) :
    (Stmt.ifThen line test consequent).ReadsBack spelling := by
  intro before after spells plain
  obtain ⟨one, begins, spells⟩ := spells.keyword
  obtain ⟨two, spellsTest, spells⟩ := Cursor.spells_append.mp spells
  have last : after.current.kind ≠ .keyword .else_ := plain rfl
  obtain ⟨t, runTest, sameTest⟩ := run_condition condition spellsTest .ifOpen .ifClose rfl rfl
  obtain ⟨c, sameFirst, readsFirst⟩ := first spells fun _ => last
  have fewer := begins.shorter
  have less := spellsTest.shorter
  have small := readsFirst.shorter
  have kind : before.current.kind = .keyword .if_ := begins.kind
  refine ⟨.ifThen before.current.line t c, by simp only [erased, sameTest, sameFirst], Reads.of_succ (by omega) ?_⟩
  intro fuel enough
  rw [statement, run_bind_of_ok run_current, kind]
  dsimp only
  rw [run_bind_of_ok (run_advance_of_takes begins), run_bind_of_ok runTest,
    run_bind_of_ok (readsFirst.run fuel (by omega)), run_bind_of_ok (run_accept_of_ne last)]
  rfl

theorem readsBack_ifElse (line : Nat) (condition : test.Shaped) (first : consequent.ReadsBack spelling)
    (closed : consequent.isOpen = false) (second : alternate.ReadsBack spelling) :
    (Stmt.ifElse line test consequent alternate).ReadsBack spelling := by
  intro before after spells plain
  obtain ⟨one, begins, spells⟩ := spells.keyword
  obtain ⟨two, spellsTest, spells⟩ := Cursor.spells_append.mp spells
  obtain ⟨three, spellsFirst, spells⟩ := Cursor.spells_append.mp spells
  obtain ⟨four, more, spellsSecond⟩ := spells.keyword
  obtain ⟨t, runTest, sameTest⟩ := run_condition condition spellsTest .ifOpen .ifClose rfl rfl
  obtain ⟨c, sameFirst, readsFirst⟩ := first spellsFirst fun opened => by rw [closed] at opened; cases opened
  obtain ⟨a, sameSecond, readsSecond⟩ := second spellsSecond plain
  have fewer := begins.shorter
  have less := spellsTest.shorter
  have small := readsFirst.shorter
  have smaller := more.shorter
  have last := readsSecond.shorter
  have kind : before.current.kind = .keyword .if_ := begins.kind
  refine ⟨.ifElse before.current.line t c a, by simp only [erased, sameTest, sameFirst, sameSecond],
    Reads.of_succ (by omega) ?_⟩
  intro fuel enough
  rw [statement, run_bind_of_ok run_current, kind]
  dsimp only
  rw [run_bind_of_ok (run_advance_of_takes begins), run_bind_of_ok runTest,
    run_bind_of_ok (readsFirst.run fuel (by omega)), run_bind_of_ok (run_accept_of_takes more (by rfl)), if_pos rfl,
    run_bind_of_ok (readsSecond.run fuel (by omega)), run_pure]

theorem readsBack_while (line : Nat) (condition : test.Shaped) (inner : body.ReadsBack spelling) :
    (Stmt.while_ line test body).ReadsBack spelling := by
  intro before after spells plain
  obtain ⟨one, begins, spells⟩ := spells.keyword
  obtain ⟨two, spellsTest, spells⟩ := Cursor.spells_append.mp spells
  obtain ⟨t, runTest, sameTest⟩ := run_condition condition spellsTest .whileOpen .whileClose rfl rfl
  obtain ⟨b, sameBody, readsBody⟩ := inner spells plain
  have fewer := begins.shorter
  have less := spellsTest.shorter
  have small := readsBody.shorter
  have kind : before.current.kind = .keyword .while_ := begins.kind
  refine ⟨.while_ before.current.line t b, by simp only [erased, sameTest, sameBody], Reads.of_succ (by omega) ?_⟩
  intro fuel enough
  rw [statement, run_bind_of_ok run_current, kind]
  dsimp only
  rw [run_bind_of_ok (run_advance_of_takes begins), run_bind_of_ok runTest,
    run_bind_of_ok (readsBody.run fuel (by omega)), run_pure]

theorem readsBack_doWhile (line : Nat) (condition : test.Shaped) (inner : body.ReadsBack spelling) :
    (Stmt.doWhile line test body).ReadsBack spelling := by
  intro before after spells _
  obtain ⟨one, begins, spells⟩ := spells.keyword
  obtain ⟨two, spellsBody, spells⟩ := Cursor.spells_append.mp spells
  obtain ⟨three, mark, spells⟩ := spells.keyword
  obtain ⟨four, spellsTest, spells⟩ := Cursor.spells_append.mp spells
  obtain ⟨five, ending, spells⟩ := spells.symbol
  cases Cursor.spells_nil.mp spells
  obtain ⟨b, sameBody, readsBody⟩ := inner spellsBody fun _ => by rw [mark.kind]; nofun
  obtain ⟨t, runTest, sameTest⟩ := run_condition condition spellsTest .whileOpen .whileClose rfl rfl
  have fewer := begins.shorter
  have small := readsBody.shorter
  have smaller := mark.shorter
  have less := spellsTest.shorter
  have last := ending.shorter
  have kind : before.current.kind = .keyword .do_ := begins.kind
  refine ⟨.doWhile before.current.line t b, by simp only [erased, sameTest, sameBody], Reads.of_succ (by omega) ?_⟩
  intro fuel enough
  rw [statement, run_bind_of_ok run_current, kind]
  dsimp only
  rw [run_bind_of_ok (run_advance_of_takes begins), run_bind_of_ok (readsBody.run fuel (by omega)),
    run_bind_of_ok (run_expect_of_takes mark (by rfl)), run_bind_of_ok runTest, run_bind_of_ok (run_expect_of_takes ending (by rfl)),
    run_pure]

theorem readsBack_for (line : Nat) {init : Option ForInit} {condition update : Option Expr}
    (first : ∀ clause, init = some clause → clause.Shaped)
    (second : ∀ expression, condition = some expression → expression.Shaped)
    (third : ∀ expression, update = some expression → expression.Shaped) (inner : body.ReadsBack spelling) :
    (Stmt.for_ line init condition update body).ReadsBack spelling := by
  intro before after spells plain
  obtain ⟨one, begins, spells⟩ := spells.keyword
  obtain ⟨two, opening, spells⟩ := spells.symbol
  obtain ⟨three, spellsInit, spells⟩ := Cursor.spells_append.mp spells
  obtain ⟨four, spellsTest, spells⟩ := Cursor.spells_append.mp spells
  obtain ⟨five, mark, spells⟩ := spells.symbol
  obtain ⟨six, spellsUpdate, spells⟩ := Cursor.spells_append.mp spells
  obtain ⟨seven, closing, spells⟩ := spells.symbol
  obtain ⟨i, runInit, sameInit⟩ := run_forInit first spellsInit
  obtain ⟨t, runTest, sameTest⟩ := run_expressionUnless second spellsTest (.symbol .semicolon) mark.kind rfl rfl
  obtain ⟨u, runUpdate, sameUpdate⟩ := run_expressionUnless third spellsUpdate (.symbol .rightParen) closing.kind rfl rfl
  obtain ⟨b, sameBody, readsBody⟩ := inner spells plain
  have fewer := begins.shorter
  have less := opening.shorter
  have lengthInit := spellsInit.shorter
  have lengthTest := spellsTest.shorter
  have lengthMark := mark.shorter
  have lengthUpdate := spellsUpdate.shorter
  have lengthClosing := closing.shorter
  have last := readsBody.shorter
  have kind : before.current.kind = .keyword .for_ := begins.kind
  refine ⟨.for_ before.current.line i t u b, by simp only [erased, sameInit, sameTest, sameUpdate, sameBody],
    Reads.of_succ (by omega) ?_⟩
  intro fuel enough
  rw [statement, run_bind_of_ok run_current, kind]
  dsimp only
  rw [run_bind_of_ok (run_advance_of_takes begins), run_bind_of_ok (run_expect_of_takes opening (by rfl)),
    run_bind_of_ok runInit, run_bind_of_ok runTest, run_bind_of_ok (run_expect_of_takes mark (by rfl)),
    run_bind_of_ok runUpdate, run_bind_of_ok (run_expect_of_takes closing (by rfl)),
    run_bind_of_ok (readsBody.run fuel (by omega)), run_pure]

theorem readsBack_return (line : Nat) {argument : Option Expr}
    (value : ∀ expression, argument = some expression → expression.Shaped) :
    (Stmt.return_ line argument).ReadsBack spelling := by
  intro before after spells _
  obtain ⟨one, begins, spells⟩ := spells.keyword
  obtain ⟨two, spellsArgument, spells⟩ := Cursor.spells_append.mp spells
  obtain ⟨three, ending, spells⟩ := spells.symbol
  cases Cursor.spells_nil.mp spells
  obtain ⟨a, ran, same⟩ := run_expressionUnless value spellsArgument (.symbol .semicolon) ending.kind rfl rfl
  have fewer := begins.shorter
  have less := spellsArgument.shorter
  have last := ending.shorter
  have kind : before.current.kind = .keyword .return_ := begins.kind
  refine ⟨.return_ before.current.line a, by simp only [erased, same], Reads.of_succ (by omega) ?_⟩
  intro fuel enough
  rw [statement, run_bind_of_ok run_current, kind]
  dsimp only
  rw [run_bind_of_ok (run_advance_of_takes begins), run_bind_of_ok ran, run_bind_of_ok (run_expect_of_takes ending (by rfl)),
    run_pure]

theorem readsBack_jump {jump : Nat → Stmt} (bare : jump = .break_ ∨ jump = .continue_) (line : Nat) :
    (jump line).ReadsBack spelling := by
  intro before after spells _
  refine ⟨jump before.current.line, by rcases bare with rfl | rfl <;> rfl, ?_⟩
  rcases bare with rfl | rfl
  all_goals
    obtain ⟨one, begins, spells⟩ := spells.keyword
    obtain ⟨two, ending, spells⟩ := spells.symbol
    cases Cursor.spells_nil.mp spells
    have fewer := begins.shorter
    have last := ending.shorter
    have kind := begins.kind
    apply Reads.of_succ (by omega)
    intro fuel enough
    rw [statement, run_bind_of_ok run_current, kind]
    dsimp only [Word.keyword]
    rw [run_bind_of_ok (run_advance_of_takes begins), run_bind_of_ok (run_expect_of_takes ending (by rfl)), run_pure]

theorem length_words_pos (spelling : Spelling) (statement : Stmt) : 0 < (statement.words spelling).length := by
  cases statement
  all_goals
    simp only [words, Declaration.words, List.length_append, List.length_cons]
    omega

/-- What stands in front of a statement does not look like what can stand behind one. -/
theorem Shaped.current_not_mem {statement : Stmt} (shaped : statement.Shaped) {before after : Cursor}
    (spells : before.Spells (statement.words spelling) after) : before.current.kind ∉ TokenKind.stops := by
  cases shaped with
  | declare shaped => exact TokenKind.not_mem_stops (.inl (shape?_of_declaration shaped spells).2)
  | evaluate line shaped =>
      obtain ⟨first, others, same, starts, -⟩ := shaped.begins.append_continues (Word.continues_symbol .semicolon [] nofun)
      rw [words, same] at spells
      rw [spells.kind_head]
      exact TokenKind.not_mem_stops (.inr starts)
  | block | ifThen | ifElse | while_ | doWhile | for_ | return_ | break_ | continue_ =>
      rw [spells.kind_head]
      decide

theorem readsBackAll {body : List Stmt} (shaped : ∀ statement ∈ body, statement.Shaped)
    (readsBack : ∀ statement ∈ body, statement.ReadsBack spelling) {before after : Cursor}
    (spells : before.Spells (wordsAll spelling body) after) (closed : after.current.kind = .symbol .rightBrace) :
    ∃ read, erasedAll read = erasedAll body ∧ ReadsBody before read after := by
  induction body generalizing before with
  | nil =>
      cases Cursor.spells_nil.mp spells
      refine ⟨[], rfl, Reads.of_succ (Nat.le_refl _) fun fuel enough => ?_⟩
      rw [Reader.statements, run_bind_of_ok run_current, if_pos (by rw [closed]; rfl), run_pure]
  | cons first others hypothesis =>
      rw [List.forall_mem_cons] at shaped readsBack
      obtain ⟨one, spellsFirst, spellsOthers⟩ := Cursor.spells_append.mp spells
      have more := Cursor.not_stopped (shaped.1.current_not_mem spellsFirst)
      have next : one.current.kind ≠ .keyword .else_ := by
        cases others with
        | nil =>
            cases Cursor.spells_nil.mp spellsOthers
            rw [closed]
            simp
        | cons second others =>
            obtain ⟨two, spellsSecond, -⟩ := Cursor.spells_append.mp spellsOthers
            have behind : one.current.kind ∉ TokenKind.stops := (shaped.2 second List.mem_cons_self).current_not_mem spellsSecond
            intro same
            exact behind (by rw [same]; decide)
      obtain ⟨head, sameHead, readsHead⟩ := readsBack.1 spellsFirst fun _ => next
      obtain ⟨tail, sameTail, readsTail⟩ := hypothesis shaped.2 readsBack.2 spellsOthers
      have fewer := spellsFirst.length
      have some := length_words_pos spelling first
      have last := readsTail.shorter
      refine ⟨head :: tail, by simp only [erasedAll, sameHead, sameTail], Reads.of_succ (by omega) ?_⟩
      intro fuel enough
      rw [Reader.statements, run_bind_of_ok run_current, if_neg more, run_bind_of_ok (readsHead.run fuel (by omega)),
        run_bind_of_ok (readsTail.run fuel (by omega)), run_pure]

theorem readsBack_braced {body : List Stmt} (shaped : ∀ statement ∈ body, statement.Shaped)
    (readsBack : ∀ statement ∈ body, statement.ReadsBack spelling) {before after : Cursor}
    (spells : before.Spells (.symbol .leftBrace :: (wordsAll spelling body ++ [.symbol .rightBrace])) after) :
    ∃ read, erasedAll read = erasedAll body ∧ ReadsBlock before read after := by
  obtain ⟨one, opening, spells⟩ := spells.symbol
  obtain ⟨two, spellsBody, spells⟩ := Cursor.spells_append.mp spells
  obtain ⟨three, closing, spells⟩ := spells.symbol
  cases Cursor.spells_nil.mp spells
  obtain ⟨read, same, reads⟩ := readsBackAll shaped readsBack spellsBody closing.kind
  have fewer := opening.shorter
  have small := reads.shorter
  have last := closing.shorter
  refine ⟨read, same, Reads.of_succ (by omega) fun fuel enough => ?_⟩
  rw [Reader.block, run_bind_of_ok (run_expect_of_takes opening (by rfl)), run_bind_of_ok (reads.run fuel (by omega)),
    run_bind_of_ok (run_expect_of_takes closing (by rfl)), run_pure]

theorem readsBack_block (line : Nat) {body : List Stmt} (shaped : ∀ statement ∈ body, statement.Shaped)
    (readsBack : ∀ statement ∈ body, statement.ReadsBack spelling) : (Stmt.block line body).ReadsBack spelling := by
  intro before after spells _
  obtain ⟨read, same, reads⟩ := readsBack_braced shaped readsBack spells
  have kind : before.current.kind = .symbol .leftBrace := spells.kind_head
  refine ⟨.block before.current.line read, by simp only [erased, same], Reads.of_succ reads.shorter ?_⟩
  intro fuel enough
  rw [statement, run_bind_of_ok run_current, kind]
  exact run_bind_of_ok (reads.run fuel enough)

/-- Every statement that the grammar knows is read back from its words. -/
theorem Shaped.readsBack {statement : Stmt} (shaped : statement.Shaped) : statement.ReadsBack spelling := by
  induction shaped with
  | declare shaped local_ => exact readsBack_declare shaped local_
  | evaluate line shaped => exact readsBack_evaluate line shaped
  | block line inner back => exact readsBack_block line inner back
  | ifThen line condition first back => exact readsBack_ifThen line condition back
  | ifElse line condition first closed second firstBack secondBack =>
      exact readsBack_ifElse line condition firstBack closed secondBack
  | while_ line condition inner back => exact readsBack_while line condition back
  | doWhile line condition inner back => exact readsBack_doWhile line condition back
  | for_ line first condition last inner back => exact readsBack_for line first condition last back
  | return_ line value => exact readsBack_return line value
  | break_ line => exact readsBack_jump (.inl rfl) line
  | continue_ line => exact readsBack_jump (.inr rfl) line

end Stmt

end Stepwise
