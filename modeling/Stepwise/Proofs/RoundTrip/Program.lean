import Stepwise.Proofs.RoundTrip.Statement

/-!
# Printed programs are read back

A member is announced as a method or a field by the tokens behind its type and its name. The members of a class are
read one after the other up to the brace that closes the class, and the classes of a program up to its end, so that
none is lost.
-/

namespace Stepwise

set_option autoImplicit false

namespace Reader

variable {before one two after : Cursor} {spelling : Spelling}

abbrev ReadsParams (before : Cursor) (read : List Param) (after : Cursor) : Prop :=
  Reads params (before.rest.length + 1) before read after

theorem run_param {declared : Param} (shaped : declared.Shaped) (spells : before.Spells declared.words after) :
    ∃ read, param.run before = .ok read after ∧ read.erased = declared.erased := by
  obtain ⟨line, type, name⟩ := declared
  have identified : (Word.named name).kind = .identifier := shaped.named
  obtain ⟨one, spellsType, spells⟩ := Cursor.spells_append.mp spells
  obtain ⟨two, named, spells⟩ := spells.named
  cases Cursor.spells_nil.mp spells
  have begins : before.current.kind.isType = true ∧ before.current.kind ≠ .keyword .void :=
    Cursor.kind_of_type shaped.typed spellsType
  have plain : before.current.kind ≠ .keyword .final := by
    intro same
    rw [same] at begins
    cases begins.1
  have fine : ¬(!before.current.kind.isType || decide (before.current.kind = .keyword .void)) = true := by
    rw [begins.1, decide_eq_false begins.2]
    nofun
  have bare : one.current.kind ≠ .symbol .leftBracket := by rw [named.kind, identified]; nofun
  have word : one.current.value = name := named.value.trans (Word.value_named name)
  have runType : typeName.run before = .ok type one := run_typeName shaped.typed spellsType bare
  have runName : (expect .parameterName).run one = .ok one.current after := run_expect_of_takes named identified
  refine ⟨{ line := before.current.line, typeName := type, name }, ?_, rfl⟩
  rw [param, run_bind_of_ok (run_accept_of_ne plain), run_bind_of_ok run_current, if_neg fine, run_bind_of_ok runType,
    run_bind_of_ok runName, run_pure, word]

theorem reads_params {declared : Param} {others : List Param} (shaped : ∀ one ∈ declared :: others, one.Shaped)
    (spells : before.Spells (Param.listed (declared :: others)) after) (last : after.current.kind ≠ .symbol .comma) :
    ∃ read, read.map Param.erased = (declared :: others).map Param.erased ∧ ReadsParams before read after := by
  induction others generalizing declared before with
  | nil =>
      obtain ⟨read, ran, same⟩ := run_param (shaped declared List.mem_cons_self) spells
      refine ⟨[read], by simp only [List.map_cons, same, List.map_nil], Reads.of_succ spells.shorter ?_⟩
      intro fuel enough
      rw [params, run_bind_of_ok ran, run_bind_of_ok (run_accept_of_ne last)]
      rfl
  | cons second others hypothesis =>
      obtain ⟨one, spellsFirst, spells⟩ := Cursor.spells_append.mp spells
      obtain ⟨two, comma, spells⟩ := spells.symbol
      obtain ⟨read, ran, same⟩ := run_param (shaped declared List.mem_cons_self) spellsFirst
      obtain ⟨rest, sameRest, reads⟩ :=
        hypothesis (fun one member => shaped one (List.mem_cons_of_mem _ member)) spells
      have fewer := spellsFirst.shorter
      have less := comma.shorter
      have small := reads.shorter
      refine ⟨read :: rest, by rw [List.map_cons, same, sameRest]; rfl, Reads.of_succ (by omega) ?_⟩
      intro fuel enough
      rw [params, run_bind_of_ok ran, run_bind_of_ok (run_accept_of_takes comma (by rfl)), if_pos rfl,
        run_bind_of_ok (reads.run fuel (by omega)), run_pure]

theorem isType_of_params {declared : Param} {others : List Param} (shaped : declared.Shaped)
    (spells : before.Spells (Param.listed (declared :: others)) after) : before.current.kind.isType = true := by
  cases others with
  | nil =>
      obtain ⟨one, spellsType, -⟩ := Cursor.spells_append.mp spells
      exact (Cursor.kind_of_type shaped.typed spellsType).1
  | cons second others =>
      obtain ⟨two, spells, -⟩ := Cursor.spells_append.mp spells
      obtain ⟨one, spellsType, -⟩ := Cursor.spells_append.mp spells
      exact (Cursor.kind_of_type shaped.typed spellsType).1

abbrev ReadsMethod (before : Cursor) (read : Method) (after : Cursor) : Prop :=
  Reads method (4 * before.rest.length + 1) before read after

theorem reads_method {declared : Method} (shaped : declared.Shaped)
    (spells : before.Spells (declared.words spelling) after) :
    ∃ read, read.erased = declared.erased ∧ ReadsMethod before read after := by
  obtain ⟨line, type, name, parameters, body⟩ := declared
  have identified : (Word.named name).kind = .identifier := shaped.named
  obtain ⟨one, spellsType, spells⟩ := Cursor.spells_append.mp spells
  obtain ⟨two, named, spells⟩ := spells.named
  obtain ⟨three, opening, spells⟩ := spells.symbol
  obtain ⟨four, spellsParameters, spells⟩ := Cursor.spells_append.mp spells
  obtain ⟨five, closing, spells⟩ := spells.symbol
  have bare : one.current.kind ≠ .symbol .leftBracket := by rw [named.kind, identified]; rintro ⟨⟩
  have word : one.current.value = name := named.value.trans (Word.value_named name)
  have runType : typeName.run before = .ok type one := run_typeName shaped.typed spellsType bare
  have runName : (expect .methodName).run one = .ok one.current two := run_expect_of_takes named identified
  obtain ⟨b, sameBody, readsBody⟩ :=
    Stmt.readsBack_braced shaped.body (fun statement member => (shaped.body statement member).readsBack) spells
  have lengthType := spellsType.shorter
  have lengthName := named.shorter
  have lengthOpening := opening.shorter
  have lengthParameters := spellsParameters.shorter
  have lengthClosing := closing.shorter
  have last := readsBody.shorter
  cases parameters with
  | nil =>
      cases Cursor.spells_nil.mp spellsParameters
      have empty : three.current.kind = .symbol .rightParen := closing.kind
      refine ⟨{ line := before.current.line, returnType := type, name, params := [], body := b },
        by simp only [Method.erased, sameBody], by omega, ?_⟩
      intro fuel enough
      rw [method, run_bind_of_ok run_current, run_bind_of_ok runType, run_bind_of_ok runName,
        run_bind_of_ok (run_expect_of_takes opening (by rfl)), run_bind_of_ok run_at?, decide_eq_true empty, if_pos rfl, word,
        run_bind_of_ok (run_pure []), run_bind_of_ok (run_expect_of_takes closing (by rfl)),
        run_bind_of_ok (readsBody.run fuel (by omega)), run_pure]
  | cons param others =>
      have some : three.current.kind ≠ .symbol .rightParen := by
        have typed := isType_of_params (shaped.params param List.mem_cons_self) spellsParameters
        intro same
        rw [same] at typed
        cases typed
      obtain ⟨p, sameParameters, readsParameters⟩ :=
        reads_params shaped.params spellsParameters (by rw [closing.kind]; rintro ⟨⟩)
      refine ⟨{ line := before.current.line, returnType := type, name, params := p, body := b },
        by simp only [Method.erased, sameBody, sameParameters], by omega, ?_⟩
      intro fuel enough
      rw [method, run_bind_of_ok run_current, run_bind_of_ok runType, run_bind_of_ok runName,
        run_bind_of_ok (run_expect_of_takes opening (by rfl)), run_bind_of_ok run_at?, decide_eq_false some,
        if_neg Bool.false_ne_true, word, run_bind_of_ok (readsParameters.run fuel (by omega)),
        run_bind_of_ok (run_expect_of_takes closing (by rfl)), run_bind_of_ok (readsBody.run fuel (by omega)), run_pure]

theorem isModifier_of_isType {kind : TokenKind} (typed : kind.isType = true) : kind.isModifier = false := by
  unfold TokenKind.isType at typed
  split at typed
  all_goals first | rfl | cases typed

theorem reads_modifiers_nothing (plain : before.current.kind.isModifier = false) :
    Reads modifiers (before.rest.length + 1) before false before := by
  apply Reads.of_succ (Nat.le_refl _)
  intro fuel enough
  rw [modifiers, run_bind_of_ok run_current, if_neg (by rw [plain]; exact Bool.false_ne_true), run_pure]

theorem reads_modifiers_static (taken : before.Takes (.keyword .static) after)
    (plain : after.current.kind.isModifier = false) : Reads modifiers (before.rest.length + 1) before true after := by
  have fewer := taken.shorter
  have kind : before.current.kind = .keyword .static := taken.kind
  have others := reads_modifiers_nothing plain
  apply Reads.of_succ (by omega)
  intro fuel enough
  rw [modifiers, run_bind_of_ok run_current, if_pos (by rw [kind]; rfl), run_bind_of_ok (run_advance_of_takes taken),
    run_bind_of_ok (others.run fuel (by omega)), run_pure, kind]
  rfl

abbrev ReadsMembers (before : Cursor) (read : List Member) (after : Cursor) : Prop :=
  Reads members (4 * before.rest.length + 4) before read after

theorem readsMembers_nothing (closed : before.current.kind = .symbol .rightBrace) : ReadsMembers before [] before := by
  apply Reads.of_succ (Nat.le_refl _)
  intro fuel enough
  rw [members, run_bind_of_ok run_current, if_pos (by rw [closed]; rfl), run_pure]

theorem readsMembers_method {first : Method} {others : List Member}
    (typed : before.current.kind.isType = true) (announced : before.shape? = some .method)
    (reads : ReadsMethod before first one) (shorter : one.rest.length < before.rest.length)
    (rest : ReadsMembers one others after) : ReadsMembers before (.method first :: others) after := by
  have last := rest.shorter
  have free := reads_modifiers_nothing (isModifier_of_isType typed)
  have more := Cursor.not_stopped (TokenKind.not_mem_stops (.inl typed))
  apply Reads.of_succ (by omega)
  intro fuel enough
  rw [members, run_bind_of_ok run_current, if_neg more, run_bind_of_ok (free.run fuel (by omega)),
    run_bind_of_ok (run_shape? announced)]
  dsimp only
  rw [run_bind_of_ok (reads.run fuel (by omega)), run_bind_of_ok (rest.run fuel (by omega)), run_pure]

theorem readsMembers_field {isStatic : Bool} {first : Declaration} {others : List Member}
    (more : before.current.kind ∉ TokenKind.stops) (marked : Reads modifiers (before.rest.length + 1) before isStatic one)
    (announced : one.shape? = some .variable) (ran : declaration.run one = .ok first two)
    (shorter : two.rest.length < one.rest.length) (rest : ReadsMembers two others after) :
    ReadsMembers before (.field { first with isStatic } :: others) after := by
  have fewer := marked.shorter
  have last := rest.shorter
  apply Reads.of_succ (by omega)
  intro fuel enough
  rw [members, run_bind_of_ok run_current, if_neg (Cursor.not_stopped more),
    run_bind_of_ok (marked.run fuel (by omega)), run_bind_of_ok (run_shape? announced)]
  dsimp only
  rw [run_bind_of_ok ran, run_bind_of_ok (rest.run fuel (by omega)), run_pure]

theorem shape?_of_method {declared : Method} (shaped : declared.Shaped)
    (spells : before.Spells (declared.words spelling) after) :
    before.shape? = some .method ∧ before.current.kind.isType = true := by
  obtain ⟨one, spellsType, spells⟩ := Cursor.spells_append.mp spells
  obtain ⟨two, named, spells⟩ := spells.named
  have opens : two.current.kind = .symbol .leftParen := spells.kind_head
  have shape := Cursor.shape?_of_type shaped.typed (fun _ typed => typed) spellsType named shaped.named
  rw [if_pos opens] at shape
  exact ⟨shape, Cursor.kind_of_type shaped.typed spellsType⟩

theorem length_declaration_pos (spelling : Spelling) (declared : Declaration) :
    0 < (declared.words spelling).length := by
  simp only [Declaration.words, List.length_append, List.length_cons]
  omega

theorem reads_members {body : List Member} (shaped : ∀ member ∈ body, member.Shaped)
    (spells : before.Spells (Member.wordsAll spelling body) after) (closed : after.current.kind = .symbol .rightBrace) :
    ∃ read, read.map Member.erased = body.map Member.erased ∧ ReadsMembers before read after := by
  induction body generalizing before with
  | nil =>
      cases Cursor.spells_nil.mp spells
      exact ⟨[], rfl, readsMembers_nothing closed⟩
  | cons first others hypothesis =>
      rw [List.forall_mem_cons] at shaped
      obtain ⟨two, spellsFirst, spellsOthers⟩ := Cursor.spells_append.mp spells
      obtain ⟨rest, sameRest, readsRest⟩ := hypothesis shaped.2 spellsOthers
      cases shaped.1 with
      | @method declared shape =>
          obtain ⟨announced, typed⟩ := shape?_of_method shape spellsFirst
          obtain ⟨read, same, reads⟩ := reads_method shape spellsFirst
          have fewer := spellsFirst.length
          have some : 0 < (Member.words spelling (.method declared)).length := by
            simp only [Member.words, Method.words, List.length_append, List.length_cons]
            omega
          refine ⟨.method read :: rest, by simp only [List.map_cons, Member.erased, same, sameRest], ?_⟩
          exact readsMembers_method typed announced reads (by omega) readsRest
      | @field declared shape =>
          obtain ⟨one, spellsModifiers, spellsFirst⟩ := Cursor.spells_append.mp spellsFirst
          obtain ⟨announced, typed⟩ := shape?_of_declaration shape spellsFirst
          obtain ⟨read, ran, -, same⟩ := run_declaration shape spellsFirst
          have fewer := spellsFirst.length
          have some := length_declaration_pos spelling declared
          have plain := isModifier_of_isType typed
          refine ⟨.field { read with isStatic := declared.isStatic } :: rest,
            by simp only [List.map_cons, Member.erased, same, sameRest], ?_⟩
          cases isStatic : declared.isStatic with
          | false =>
              rw [isStatic] at spellsModifiers
              cases Cursor.spells_nil.mp spellsModifiers
              exact readsMembers_field (TokenKind.not_mem_stops (.inl typed)) (reads_modifiers_nothing plain) announced
                ran (by omega) readsRest
          | true =>
              rw [isStatic] at spellsModifiers
              obtain ⟨three, taken, spellsModifiers⟩ := spellsModifiers.keyword
              cases Cursor.spells_nil.mp spellsModifiers
              have more : before.current.kind ∉ TokenKind.stops := by rw [taken.kind]; decide
              exact readsMembers_field more (reads_modifiers_static taken plain) announced ran (by omega) readsRest

abbrev ReadsClass (before : Cursor) (read : ClassDecl) (after : Cursor) : Prop :=
  Reads classDecl (4 * before.rest.length) before read after

abbrev ReadsClasses (before : Cursor) (read : List ClassDecl) (after : Cursor) : Prop :=
  Reads classes (4 * before.rest.length + 5) before read after

theorem reads_classDecl {decl : ClassDecl} (shaped : decl.Shaped) (spells : before.Spells (decl.words spelling) after) :
    ∃ read, read.erased = decl.erased ∧ ReadsClass before read after := by
  obtain ⟨line, name, body⟩ := decl
  have identified : (Word.named name).kind = .identifier := shaped.named
  obtain ⟨one, begins, spells⟩ := spells.keyword
  obtain ⟨two, named, spells⟩ := spells.named
  obtain ⟨three, opening, spells⟩ := spells.symbol
  obtain ⟨four, spellsBody, spells⟩ := Cursor.spells_append.mp spells
  obtain ⟨five, closing, spells⟩ := spells.symbol
  cases Cursor.spells_nil.mp spells
  have word : one.current.value = name := named.value.trans (Word.value_named name)
  have runName : (expect .className).run one = .ok one.current two := run_expect_of_takes named identified
  obtain ⟨read, same, reads⟩ := reads_members shaped.body spellsBody closing.kind
  have lengthBegins := begins.shorter
  have lengthName := named.shorter
  have lengthOpening := opening.shorter
  have lengthBody := reads.shorter
  have last := closing.shorter
  refine ⟨{ line := before.current.line, name, body := read }, by simp only [ClassDecl.erased, same], by omega, ?_⟩
  intro fuel enough
  rw [classDecl, run_bind_of_ok (run_advance_of_takes begins), run_bind_of_ok runName,
    run_bind_of_ok (run_expect_of_takes opening (by rfl)), run_bind_of_ok (reads.run fuel (by omega)),
    run_bind_of_ok (run_expect_of_takes closing (by rfl)), run_pure, word]

theorem reads_classes {decls : List ClassDecl} (shaped : ∀ decl ∈ decls, decl.Shaped)
    (spells : before.Spells (ClassDecl.wordsAll spelling decls) after) (ended : after.current.kind = .endOfInput) :
    ∃ read, read.map ClassDecl.erased = decls.map ClassDecl.erased ∧ ReadsClasses before read after := by
  induction decls generalizing before with
  | nil =>
      cases Cursor.spells_nil.mp spells
      have stopped : after.current.isEnd = true := decide_eq_true ended
      refine ⟨[], rfl, Reads.of_succ (Nat.le_refl _) fun fuel enough => ?_⟩
      rw [classes, run_bind_of_ok run_current, if_pos stopped, run_pure]
  | cons first others hypothesis =>
      rw [List.forall_mem_cons] at shaped
      obtain ⟨one, spellsFirst, spellsOthers⟩ := Cursor.spells_append.mp spells
      obtain ⟨read, same, reads⟩ := reads_classDecl shaped.1 spellsFirst
      obtain ⟨rest, sameRest, readsRest⟩ := hypothesis shaped.2 spellsOthers
      have kind : before.current.kind = .keyword .class_ := spellsFirst.kind_head
      have free := reads_modifiers_nothing (by rw [kind]; rfl)
      have fewer := spellsFirst.length
      have some : 0 < (first.words spelling).length := Nat.succ_pos _
      have last := readsRest.shorter
      have more : ¬before.current.isEnd = true := by rw [Token.isEnd, kind]; decide
      have named : decide (before.current.kind = .identifier) = false := decide_eq_false (by rw [kind]; simp)
      have plain : ¬(decide (before.current.kind = .identifier) && (decide (before.current.value = "import") ||
          decide (before.current.value = "package"))) = true := by
        rw [named, Bool.false_and]
        exact Bool.false_ne_true
      refine ⟨read :: rest, by simp only [List.map_cons, same, sameRest], Reads.of_succ (by omega) ?_⟩
      intro fuel enough
      rw [classes, run_bind_of_ok run_current, if_neg more, if_neg plain, run_bind_of_ok (free.run fuel (by omega)),
        run_bind_of_ok run_current, if_neg (fun different => different kind),
        run_bind_of_ok (reads.run fuel (by omega)), run_bind_of_ok (readsRest.run fuel (by omega)), run_pure]

end Reader

/-- Tokens that spell a program whose shape the grammar knows are read as this program. -/
theorem Program.ofTokens_of_words {program : Program} {spelling : Spelling} {tokens : List Token}
    (shaped : program.Shaped) (printed : tokens.map Token.word = program.words spelling) :
    ∃ read, Program.ofTokens tokens = .ok read ∧ read.erased = program.erased := by
  obtain ⟨front, behind, rfl, spelled, final⟩ := List.map_eq_append_iff.mp printed
  obtain ⟨last, rfl, word⟩ := List.map_eq_singleton_iff.mp final
  have ended : last.kind = .endOfInput := congrArg Word.kind word
  obtain ⟨⟨first, rest⟩, stands⟩ := Cursor.exists_tokens_eq (List.append_ne_nil_of_right_ne_nil front (List.cons_ne_nil last []))
  have spells : Cursor.Spells { current := first, rest } (ClassDecl.wordsAll spelling program.classes)
      { current := last, rest := [] } := ⟨front, spelled, stands.symm⟩
  have terminated : (rest.getLastD first).isEnd = true := by
    have lasts := congrArg List.getLast? stands
    rw [List.getLast?_concat, Cursor.tokens, List.getLast?_cons, Option.some.injEq, ← List.getLastD_eq_getLast?] at lasts
    rw [← lasts]
    exact decide_eq_true ended
  obtain ⟨read, same, reads⟩ := Reader.reads_classes shaped spells ended
  have ran : Reader.program.run { current := first, rest } = .ok { classes := read } { current := last, rest := [] } := by
    have enough : 4 * rest.length + 5 ≤ 4 * rest.length + 8 := by omega
    rw [Reader.program, Reader.run_bind_of_ok Reader.run_get, Reader.run_bind_of_ok (reads.run _ enough),
      Reader.run_pure]
  refine ⟨{ classes := read }, ?_, by rw [erased, same, erased]⟩
  rw [stands, Cursor.tokens, Program.ofTokens_cons terminated, ran]

end Stepwise
