import Stepwise.Proofs.Reading.Step
import Stepwise.Proofs.Reading.Program

/-!
# Reading ends

A reader takes tokens as it goes, and the bound on the depth of its calls is a multiple of the number of tokens that
are left. A token that marks the end is never taken, so a reader that finds one in its way complains. It follows that
no bound is ever too small: a list of tokens whose last one marks the end is read as a program, or there is a complaint
about a line, or a literal has a text without a value.

The bounds are stated for each reader by the number of tokens behind the cursor, with an allowance that says how many
calls it can make before a token is taken.
-/

namespace Stepwise

set_option autoImplicit false

variable {available : Token → Prop} {α β : Type}

/-- The tokens under and behind the cursor are available, and the last of them marks the end. -/
structure Cursor.Ready (available : Token → Prop) (cursor : Cursor) : Prop where
  within : cursor.Within available
  terminated : (cursor.rest.getLastD cursor.current).isEnd = true

/-- A literal without a value, and the fault that says so. -/
def Token.Faulty (token : Token) (fault : Fault) : Prop :=
  ((token.kind = .integerLiteral ∨ token.kind = .longLiteral) ∧ Number.readInteger token.value = .error fault) ∨
    (token.kind = .doubleLiteral ∧ Number.readDouble token.value = .error fault)

/-- The reasons for a rejection that lie in the tokens. -/
inductive Rejection.Justified (available : Token → Prop) : Rejection → Prop
  | malformed (error : SourceError) : Justified available (.malformed error)
  | fault {token : Token} {fault : Fault} (given : available token) (faulty : token.Faulty fault) :
      Justified available (.fault fault)

theorem Token.not_isEnd_of {token : Token} (test : TokenKind → Bool) (passed : test token.kind = true)
    (ends : test .endOfInput = false) : token.isEnd = false := by
  unfold isEnd
  rw [decide_eq_false_iff_not]
  intro same
  rw [same, ends] at passed
  cases passed

theorem Token.not_isEnd_of_kind {token : Token} {kind : TokenKind} (same : token.kind = kind)
    (other : kind ≠ .endOfInput) : token.isEnd = false := by
  unfold isEnd
  rw [same, decide_eq_false other]

theorem Cursor.Ready.rest_ne_nil {cursor : Cursor} (ready : cursor.Ready available)
    (more : cursor.current.isEnd = false) : cursor.rest ≠ [] := by
  intro empty
  have last := ready.terminated
  rw [empty, List.getLastD_nil, more] at last
  cases last

theorem Cursor.Ready.next? {cursor : Cursor} (ready : cursor.Ready available) (more : cursor.current.isEnd = false) :
    cursor.next? = some cursor.advanced :=
  Cursor.next?_eq_advanced more (ready.rest_ne_nil more)

theorem Cursor.Ready.advanced {cursor : Cursor} (ready : cursor.Ready available)
    (more : cursor.current.isEnd = false) :
    cursor.advanced.Ready available ∧ cursor.advanced.rest.length + 1 = cursor.rest.length := by
  obtain ⟨first, others, behind⟩ := List.exists_cons_of_ne_nil (ready.rest_ne_nil more)
  have inside := Reader.within_advanced ready.within
  have last := ready.terminated
  have moved : cursor.advanced = { current := first, rest := others } := by
    unfold Cursor.advanced
    rw [more, behind]
    rfl
  rw [behind, List.getLastD_cons] at last
  rw [moved] at inside ⊢
  exact ⟨⟨inside, last⟩, by rw [behind, List.length_cons]⟩

namespace Reader

/-- Begun at a cursor, a reader either gets to a cursor with at most so many tokens behind it, or rejects the tokens
for a reason that lies in them. -/
structure Proceeds (available : Token → Prop) (limit : Nat) (reader : Reader α) (cursor : Cursor) : Prop where
  ended : ∀ result after, reader.run cursor = .ok result after → after.Ready available ∧ after.rest.length ≤ limit
  rejected : ∀ rejection after, reader.run cursor = .error rejection after → rejection.Justified available

namespace Proceeds

variable {limit : Nat} {cursor between : Cursor}

/-- A reader that does the same as another from another cursor on. -/
theorem of_run_eq {reader other : Reader α} (proceeds : Proceeds available limit other between)
    (same : reader.run cursor = other.run between) : Proceeds available limit reader cursor := by
  constructor
  · rw [same]
    exact proceeds.ended
  · rw [same]
    exact proceeds.rejected

theorem of_run_ok {reader : Reader α} {result : α} (ended : reader.run cursor = .ok result between)
    (ready : between.Ready available) (enough : between.rest.length ≤ limit) :
    Proceeds available limit reader cursor := by
  constructor
  · intro found after same
    rw [ended] at same
    cases same
    exact ⟨ready, enough⟩
  · intro rejection after same
    rw [ended] at same
    cases same

theorem of_run_error {reader : Reader α} {rejection : Rejection} (failed : reader.run cursor = .error rejection between)
    (justified : rejection.Justified available) : Proceeds available limit reader cursor := by
  constructor
  · intro found after same
    rw [failed] at same
    cases same
  · intro other after same
    rw [failed] at same
    cases same
    exact justified

theorem pure {result : α} (ready : cursor.Ready available) (enough : cursor.rest.length ≤ limit) :
    Proceeds available limit (pure result : Reader α) cursor :=
  of_run_ok (run_pure result) ready enough

theorem complain {complaint : Complaint} {token : Token} :
    Proceeds available limit (complain complaint token : Reader α) cursor :=
  of_run_error run_complain (.malformed _)

theorem weaken {reader : Reader α} {smaller : Nat} (proceeds : Proceeds available smaller reader cursor)
    (le : smaller ≤ limit) : Proceeds available limit reader cursor := by
  constructor
  · intro result after same
    obtain ⟨ready, fits⟩ := proceeds.ended result after same
    exact ⟨ready, Nat.le_trans fits le⟩
  · exact proceeds.rejected

theorem bind {first : Reader α} {next : α → Reader β} {middle : Nat}
    (proceeds : Proceeds available middle first cursor)
    (others : ∀ result between, between.Ready available → between.rest.length ≤ middle →
      Proceeds available limit (next result) between) :
    Proceeds available limit (first >>= next) cursor := by
  cases outcome : first.run cursor with
  | error rejection between =>
      exact of_run_error (run_bind_of_error outcome) (proceeds.rejected rejection between outcome)
  | ok result between =>
      obtain ⟨ready, fits⟩ := proceeds.ended result between outcome
      exact of_run_eq (others result between ready fits) (run_bind_of_ok outcome)

theorem current {next : Token → Reader β} (others : Proceeds available limit (next cursor.current) cursor) :
    Proceeds available limit (current >>= next) cursor :=
  of_run_eq others (run_bind_of_ok run_current)

theorem advance {next : Token → Reader β} (ready : cursor.Ready available) (more : cursor.current.isEnd = false)
    (others : ∀ behind, behind.Ready available → behind.rest.length + 1 = cursor.rest.length →
      Proceeds available limit (next cursor.current) behind) :
    Proceeds available limit (advance >>= next) cursor := by
  obtain ⟨behind, shorter⟩ := ready.advanced more
  exact of_run_eq (others cursor.advanced behind shorter) (run_bind_of_ok run_advance)

theorem skip {next : Token → Reader β} (ready : cursor.Ready available)
    (others : ∀ behind, behind.Ready available → behind.rest.length ≤ cursor.rest.length →
      Proceeds available limit (next cursor.current) behind) :
    Proceeds available limit (Reader.advance >>= next) cursor := by
  cases more : cursor.current.isEnd with
  | false => exact advance ready more fun behind follows fewer => others behind follows (by omega)
  | true =>
      have stays : cursor.advanced = cursor := if_pos more
      have still : (Reader.advance >>= next).run cursor = (next cursor.current).run cursor := by
        rw [run_bind_of_ok run_advance, stays]
      exact of_run_eq (others cursor ready (Nat.le_refl _)) still

theorem map {reader : Reader α} {change : α → β} (proceeds : Proceeds available limit reader cursor) :
    Proceeds available limit (change <$> reader) cursor :=
  proceeds.bind fun _ _ ready fits => pure ready fits

theorem at? {kind : TokenKind} {next : Bool → Reader β} (others : ∀ found, Proceeds available limit (next found) cursor) :
    Proceeds available limit (at? kind >>= next) cursor :=
  of_run_eq (others _) (run_bind_of_ok run_at?)

theorem accept {kind : TokenKind} {yes no : Reader β} (ready : cursor.Ready available)
    (taken : ∀ behind, behind.Ready available → behind.rest.length + 1 = cursor.rest.length →
      Proceeds available limit yes behind)
    (refused : Proceeds available limit no cursor) (other : kind ≠ .endOfInput) :
    Proceeds available limit (accept kind >>= fun found => if found = true then yes else no) cursor := by
  by_cases same : cursor.current.kind = kind
  · have more := Token.not_isEnd_of_kind same other
    obtain ⟨behind, shorter⟩ := ready.advanced more
    exact of_run_eq (taken cursor.advanced behind shorter) (run_bind_of_ok (run_accept_of_eq same (ready.next? more)))
  · exact of_run_eq refused (run_bind_of_ok (run_accept_of_ne same))

/-- A token that is taken where it stands and not missed where it does not. -/
theorem tryAccept {kind : TokenKind} {next : Bool → Reader β} (ready : cursor.Ready available)
    (others : ∀ found behind, behind.Ready available → behind.rest.length ≤ cursor.rest.length →
      Proceeds available limit (next found) behind)
    (other : kind ≠ .endOfInput) : Proceeds available limit (Reader.accept kind >>= next) cursor := by
  by_cases same : cursor.current.kind = kind
  · have more := Token.not_isEnd_of_kind same other
    obtain ⟨behind, shorter⟩ := ready.advanced more
    exact of_run_eq (others true cursor.advanced behind (by omega))
      (run_bind_of_ok (run_accept_of_eq same (ready.next? more)))
  · exact of_run_eq (others false cursor ready (Nat.le_refl _)) (run_bind_of_ok (run_accept_of_ne same))

theorem expect {place : Expectation} {next : Token → Reader β} (ready : cursor.Ready available)
    (others : ∀ token behind, behind.Ready available → behind.rest.length + 1 = cursor.rest.length →
      Proceeds available limit (next token) behind) :
    Proceeds available limit (expect place >>= next) cursor := by
  by_cases same : cursor.current.kind = place.kind
  · have other : place.kind ≠ .endOfInput := by cases place <;> nofun
    obtain ⟨behind, shorter⟩ := ready.advanced (Token.not_isEnd_of_kind same other)
    exact of_run_eq (others cursor.current cursor.advanced behind shorter) (run_bind_of_ok (run_expect_of_eq same))
  · obtain ⟨error, failed⟩ := run_expect_of_ne same
    exact of_run_error (run_bind_of_error failed) (.malformed error)

theorem literal {value : Except Fault α} {next : α → Reader β} {token : Token} (given : available token)
    (faulty : ∀ fault, value = .error fault → token.Faulty fault)
    (others : ∀ result, Proceeds available limit (next result) cursor) :
    Proceeds available limit (literal value >>= next) cursor := by
  cases value with
  | ok result => exact others result
  | error fault => exact of_run_error rfl (.fault given (faulty fault rfl))

theorem guarded {condition : Prop} [Decidable condition] {complaint : Complaint} {token : Token}
    {next : Unit → Reader α} (others : ¬condition → Proceeds available limit (next ()) cursor) :
    Proceeds available limit (if condition then Reader.complain complaint token >>= next else next ()) cursor := by
  split
  · exact of_run_error (run_bind_of_error run_complain) (.malformed _)
  · next fine => exact others fine

end Proceeds

end Reader

/-- The calls from an operation of a level down to a prefix operator, and those that follow. -/
def Level.allowance : Level → Nat
  | disjunction => 9
  | conjunction => 8
  | comparison => 7
  | sum => 6
  | product => 5

namespace Reader

/-- The calls that each reader of expressions can make before a token is taken. -/
structure ProceedsExpressions (available : Token → Prop) (fuel : Nat) : Prop where
  assignment : ∀ cursor, cursor.Ready available → 16 * cursor.rest.length + 11 ≤ fuel →
    Proceeds available cursor.rest.length (assignment fuel) cursor
  conditional : ∀ cursor, cursor.Ready available → 16 * cursor.rest.length + 10 ≤ fuel →
    Proceeds available cursor.rest.length (conditional fuel) cursor
  operation : ∀ level cursor, cursor.Ready available → 16 * cursor.rest.length + level.allowance ≤ fuel →
    Proceeds available cursor.rest.length (operation fuel level) cursor
  operationRest : ∀ level left cursor, cursor.Ready available → 16 * cursor.rest.length + 1 ≤ fuel →
    Proceeds available cursor.rest.length (operationRest fuel level left) cursor
  unary : ∀ cursor, cursor.Ready available → 16 * cursor.rest.length + 4 ≤ fuel →
    Proceeds available cursor.rest.length (unary fuel) cursor
  accesses : ∀ head cursor, cursor.Ready available → 16 * cursor.rest.length + 1 ≤ fuel →
    Proceeds available cursor.rest.length (accesses fuel head) cursor
  expressions : ∀ cursor, cursor.Ready available → 16 * cursor.rest.length + 12 ≤ fuel →
    Proceeds available cursor.rest.length (expressions fuel) cursor
  arrayValues : ∀ cursor, cursor.Ready available → 16 * cursor.rest.length + 12 ≤ fuel →
    Proceeds available cursor.rest.length (arrayValues fuel) cursor
  arrayLiteral : ∀ cursor, cursor.Ready available → cursor.current.isEnd = false →
    16 * cursor.rest.length + 2 ≤ fuel → Proceeds available cursor.rest.length (arrayLiteral fuel) cursor
  creation : ∀ cursor, cursor.Ready available → cursor.current.isEnd = false →
    16 * cursor.rest.length + 2 ≤ fuel → Proceeds available cursor.rest.length (creation fuel) cursor
  primary : ∀ cursor, cursor.Ready available → 16 * cursor.rest.length + 3 ≤ fuel →
    Proceeds available cursor.rest.length (primary fuel) cursor

variable {fuel : Nat} {cursor : Cursor}

theorem proceeds_requireTarget {next : Unit → Reader β} {limit : Nat} (target : Expr) (operator : Token)
    (others : Proceeds available limit (next ()) cursor) :
    Proceeds available limit (requireTarget target operator >>= next) cursor := by
  unfold requireTarget
  split
  · exact others
  · exact .of_run_error (run_bind_of_error run_complain) (.malformed _)

theorem proceeds_assignment (reads : ProceedsExpressions available fuel) (ready : cursor.Ready available)
    (enough : 16 * cursor.rest.length + 11 ≤ fuel + 1) :
    Proceeds available cursor.rest.length (assignment (fuel + 1)) cursor := by
  rw [assignment]
  apply (reads.conditional cursor ready (by omega)).bind
  intro left between stays shorter
  have value : ∀ behind : Cursor, behind.Ready available → behind.rest.length + 1 = between.rest.length →
      Proceeds available between.rest.length (assignment fuel) behind := by
    intro behind follows fewer
    exact (reads.assignment behind follows (by omega)).weaken (by omega)
  have finish : ∀ (make : Expr → Expr) (behind : Cursor), behind.Ready available →
      behind.rest.length + 1 = between.rest.length →
      Proceeds available cursor.rest.length (assignment fuel >>= fun value => Pure.pure (make value)) behind := by
    intro make behind follows fewer
    apply (value behind follows fewer).bind
    intro result after last fits
    exact .pure last (by omega)
  apply Proceeds.current
  split
  · next kind =>
      apply Proceeds.advance stays (Token.not_isEnd_of_kind kind (by simp))
      intro behind follows fewer
      exact proceeds_requireTarget left _ (finish _ behind follows fewer)
  · split
    · next kind =>
        apply Proceeds.advance stays (Token.not_isEnd_of TokenKind.isCompoundAssignment kind rfl)
        intro behind follows fewer
        exact proceeds_requireTarget left _ (finish _ behind follows fewer)
    · exact .pure stays shorter

theorem proceeds_conditional (reads : ProceedsExpressions available fuel) (ready : cursor.Ready available)
    (enough : 16 * cursor.rest.length + 10 ≤ fuel + 1) :
    Proceeds available cursor.rest.length (conditional (fuel + 1)) cursor := by
  rw [conditional]
  apply (reads.operation .disjunction cursor ready (by rw [Level.allowance]; omega)).bind
  intro test between stays shorter
  refine Proceeds.accept stays ?_ ?_ (by simp)
  · intro behind follows fewer
    apply (reads.assignment behind follows (by omega)).bind
    intro consequent middle inside fits
    apply Proceeds.expect inside
    intro colon next beyond less
    apply (reads.conditional next beyond (by omega)).bind
    intro alternate after last small
    exact .pure last (by omega)
  · exact .pure stays shorter

theorem proceeds_operand (reads : ProceedsExpressions available fuel) (level : Level) {next : Expr → Reader Expr}
    {limit : Nat} (ready : cursor.Ready available) (enough : 16 * cursor.rest.length + level.allowance ≤ fuel + 1)
    (others : ∀ operand between, between.Ready available → between.rest.length ≤ cursor.rest.length →
      Proceeds available limit (next operand) between) :
    Proceeds available limit
      (match level.tighter with
        | some tighter => operation fuel tighter >>= next
        | none => unary fuel >>= next) cursor := by
  split
  · next tighter found =>
      have smaller : tighter.allowance + 1 = level.allowance := by cases level <;> cases found <;> rfl
      exact (reads.operation tighter cursor ready (by omega)).bind others
  · next found =>
      have last : level.allowance = 5 := by
        -- Only the last level has no tighter one.
        cases level <;> cases found
        rfl
      exact (reads.unary cursor ready (by omega)).bind others

theorem proceeds_operation (reads : ProceedsExpressions available fuel) (level : Level)
    (ready : cursor.Ready available) (enough : 16 * cursor.rest.length + level.allowance ≤ fuel + 1) :
    Proceeds available cursor.rest.length (operation (fuel + 1) level) cursor := by
  have least : 5 ≤ level.allowance := by cases level <;> decide
  rw [operation]
  apply proceeds_operand reads level ready enough
  intro left between stays shorter
  exact (reads.operationRest level left between stays (by omega)).weaken shorter

theorem proceeds_operationRest (reads : ProceedsExpressions available fuel) (level : Level) (left : Expr)
    (ready : cursor.Ready available) (enough : 16 * cursor.rest.length + 1 ≤ fuel + 1) :
    Proceeds available cursor.rest.length (operationRest (fuel + 1) level left) cursor := by
  have most : level.allowance ≤ 9 := by cases level <;> decide
  rw [operationRest]
  apply Proceeds.current
  split
  · next held =>
      apply Proceeds.advance ready (Token.not_isEnd_of level.holds held (by cases level <;> rfl))
      intro behind follows fewer
      apply proceeds_operand reads level follows (by omega)
      intro right between stays shorter
      exact (reads.operationRest level _ between stays (by omega)).weaken (by omega)
  · exact .pure ready (Nat.le_refl _)

theorem proceeds_unary (reads : ProceedsExpressions available fuel) (ready : cursor.Ready available)
    (enough : 16 * cursor.rest.length + 4 ≤ fuel + 1) :
    Proceeds available cursor.rest.length (unary (fuel + 1)) cursor := by
  rw [unary]
  apply Proceeds.current
  split
  · next kind =>
      have more : cursor.current.isEnd = false :=
        Token.not_isEnd_of (fun kind => decide (kind = .symbol .bang) || decide (kind = .symbol .minus)) kind rfl
      apply Proceeds.advance ready more
      intro behind follows fewer
      apply (reads.unary behind follows (by omega)).bind
      intro argument after last fits
      exact .pure last (by omega)
  · split
    · next kind =>
        apply Proceeds.advance ready (Token.not_isEnd_of TokenKind.isUpdate kind rfl)
        intro behind follows fewer
        apply Proceeds.expect follows
        intro name after last fits
        exact .pure last (by omega)
    · apply (reads.primary cursor ready (by omega)).bind
      intro head between stays shorter
      exact (reads.accesses head between stays (by omega)).weaken shorter

theorem proceeds_accesses (reads : ProceedsExpressions available fuel) (head : Expr) (ready : cursor.Ready available)
    (enough : 16 * cursor.rest.length + 1 ≤ fuel + 1) :
    Proceeds available cursor.rest.length (accesses (fuel + 1) head) cursor := by
  -- Every access takes a token, and what comes behind it has the same bound with one token less.
  have onwards : ∀ (access : Expr) (after : Cursor), after.Ready available →
      after.rest.length + 1 ≤ cursor.rest.length →
      Proceeds available cursor.rest.length (accesses fuel access) after := by
    intro access after last fits
    exact (reads.accesses access after last (by omega)).weaken (by omega)
  rw [accesses]
  refine Proceeds.accept ready ?_ ?_ (by simp)
  · intro behind follows fewer
    apply Proceeds.at?
    intro empty
    extract_lets finish
    have closes : ∀ arguments between, between.Ready available → between.rest.length ≤ behind.rest.length →
        Proceeds available cursor.rest.length (finish arguments) between := by
      intro arguments between stays shorter
      apply Proceeds.expect stays
      intro close after last fits
      exact onwards _ after last (by omega)
    split
    · exact closes [] behind follows (Nat.le_refl _)
    · exact (reads.expressions behind follows (by omega)).bind closes
  · refine Proceeds.accept ready ?_ ?_ (by simp)
    · intro behind follows fewer
      apply Proceeds.expect follows
      intro name after last fits
      exact onwards _ after last (by omega)
    · refine Proceeds.accept ready ?_ ?_ (by simp)
      · intro behind follows fewer
        apply (reads.assignment behind follows (by omega)).bind
        intro position between stays shorter
        apply Proceeds.expect stays
        intro close after last fits
        exact onwards _ after last (by omega)
      · exact .pure ready (Nat.le_refl _)

theorem proceeds_expressions (reads : ProceedsExpressions available fuel) (ready : cursor.Ready available)
    (enough : 16 * cursor.rest.length + 12 ≤ fuel + 1) :
    Proceeds available cursor.rest.length (expressions (fuel + 1)) cursor := by
  rw [expressions]
  apply (reads.assignment cursor ready (by omega)).bind
  intro first between stays shorter
  refine Proceeds.accept stays ?_ ?_ (by simp)
  · intro behind follows fewer
    apply (reads.expressions behind follows (by omega)).bind
    intro others after last fits
    exact .pure last (by omega)
  · exact .pure stays shorter

theorem proceeds_arrayValues (reads : ProceedsExpressions available fuel) (ready : cursor.Ready available)
    (enough : 16 * cursor.rest.length + 12 ≤ fuel + 1) :
    Proceeds available cursor.rest.length (arrayValues (fuel + 1)) cursor := by
  rw [arrayValues]
  apply (reads.assignment cursor ready (by omega)).bind
  intro first between stays shorter
  refine Proceeds.accept stays ?_ ?_ (by simp)
  · intro behind follows fewer
    apply Proceeds.at?
    intro closed
    split
    · exact .pure follows (by omega)
    · apply (reads.arrayValues behind follows (by omega)).bind
      intro others after last fits
      exact .pure last (by omega)
  · exact .pure stays shorter

theorem proceeds_arrayLiteral (reads : ProceedsExpressions available fuel) (ready : cursor.Ready available)
    (more : cursor.current.isEnd = false) (enough : 16 * cursor.rest.length + 2 ≤ fuel + 1) :
    Proceeds available cursor.rest.length (arrayLiteral (fuel + 1)) cursor := by
  rw [arrayLiteral]
  apply Proceeds.advance ready more
  intro behind follows fewer
  apply Proceeds.at?
  intro empty
  extract_lets finish
  have closes : ∀ values between, between.Ready available → between.rest.length ≤ behind.rest.length →
      Proceeds available cursor.rest.length (finish values) between := by
    intro values between stays shorter
    apply Proceeds.expect stays
    intro close after last fits
    exact .pure last (by omega)
  split
  · exact closes [] behind follows (Nat.le_refl _)
  · exact (reads.arrayValues behind follows (by omega)).bind closes

theorem proceeds_creation (reads : ProceedsExpressions available fuel) (ready : cursor.Ready available)
    (more : cursor.current.isEnd = false) (enough : 16 * cursor.rest.length + 2 ≤ fuel + 1) :
    Proceeds available cursor.rest.length (creation (fuel + 1)) cursor := by
  rw [creation]
  apply Proceeds.advance ready more
  intro behind follows fewer
  apply Proceeds.current
  apply Proceeds.guarded
  intro fine
  have typed : behind.current.kind.isType = true := by
    simp only [Bool.or_eq_true, Bool.not_eq_true', decide_eq_true_eq, not_or, Bool.not_eq_false] at fine
    exact fine.1
  apply Proceeds.advance follows (Token.not_isEnd_of TokenKind.isType typed rfl)
  intro next beyond less
  refine Proceeds.accept beyond ?_ ?_ (by simp)
  · intro open_ inside small
    apply Proceeds.guarded
    intro named
    apply Proceeds.current
    apply Proceeds.guarded
    intro closed
    apply Proceeds.advance inside (Token.not_isEnd_of_kind (Decidable.not_not.mp closed) (by simp))
    intro after last fits
    exact .pure last (by omega)
  · refine Proceeds.accept beyond ?_ ?_ (by simp)
    · intro open_ inside small
      refine Proceeds.accept inside ?_ ?_ (by simp)
      · intro close outside tiny
        apply Proceeds.current
        apply Proceeds.guarded
        intro braced
        apply (reads.arrayLiteral close outside (Token.not_isEnd_of_kind (Decidable.not_not.mp braced) (by simp))
          (by omega)).bind
        rintro ⟨line, values⟩ after last fits
        exact .pure last (by omega)
      · apply (reads.assignment open_ inside (by omega)).bind
        intro size between stays shorter
        apply Proceeds.expect stays
        intro close after last fits
        exact .pure last (by omega)
    · exact .complain

theorem proceeds_primary (reads : ProceedsExpressions available fuel) (ready : cursor.Ready available)
    (enough : 16 * cursor.rest.length + 3 ≤ fuel + 1) :
    Proceeds available cursor.rest.length (primary (fuel + 1)) cursor := by
  have given := ready.within.current
  -- Most primary expressions are one token, and are finished when it has been taken.
  have single : ∀ (next : Token → Reader Expr), cursor.current.isEnd = false →
      (∀ behind : Cursor, behind.Ready available → behind.rest.length ≤ cursor.rest.length →
        Proceeds available cursor.rest.length (next cursor.current) behind) →
      Proceeds available cursor.rest.length (advance >>= next) cursor := by
    intro next more others
    exact Proceeds.advance ready more fun behind follows fewer => others behind follows (by omega)
  rw [primary]
  apply Proceeds.current
  split
  · next kind =>
      apply Proceeds.advance ready (Token.not_isEnd_of_kind kind (by simp))
      intro behind follows fewer
      apply Proceeds.current
      split
      · next update =>
          apply Proceeds.advance follows (Token.not_isEnd_of TokenKind.isUpdate update rfl)
          intro after last fits
          exact .pure last (by omega)
      · exact .pure follows (by omega)
  · next kind => exact single _ (Token.not_isEnd_of_kind kind (by simp)) fun behind follows fits => .pure follows fits
  · next kind =>
      apply single _ (Token.not_isEnd_of_kind kind (by simp))
      intro behind follows fits
      exact Proceeds.literal given (fun fault failed => .inl ⟨.inl kind, failed⟩) fun _ => .pure follows fits
  · next kind =>
      apply single _ (Token.not_isEnd_of_kind kind (by simp))
      intro behind follows fits
      exact Proceeds.literal given (fun fault failed => .inl ⟨.inr kind, failed⟩) fun _ => .pure follows fits
  · next kind =>
      apply single _ (Token.not_isEnd_of_kind kind (by simp))
      intro behind follows fits
      exact Proceeds.literal given (fun fault failed => .inr ⟨kind, failed⟩) fun _ => .pure follows fits
  · next kind => exact single _ (Token.not_isEnd_of_kind kind (by simp)) fun behind follows fits => .pure follows fits
  · next kind => exact single _ (Token.not_isEnd_of_kind kind (by simp)) fun behind follows fits => .pure follows fits
  · next kind => exact single _ (Token.not_isEnd_of_kind kind (by simp)) fun behind follows fits => .pure follows fits
  · next kind => exact single _ (Token.not_isEnd_of_kind kind (by simp)) fun behind follows fits => .pure follows fits
  · next kind => exact single _ (Token.not_isEnd_of_kind kind (by simp)) fun behind follows fits => .pure follows fits
  · next kind =>
      have more := Token.not_isEnd_of_kind kind (by simp)
      exact reads.creation cursor ready more (by omega)
  · next kind =>
      have more := Token.not_isEnd_of_kind kind (by simp)
      apply (reads.arrayLiteral cursor ready more (by omega)).bind
      rintro ⟨line, values⟩ after last fits
      exact .pure last fits
  · next kind =>
      apply Proceeds.advance ready (Token.not_isEnd_of_kind kind (by simp))
      intro behind follows fewer
      apply (reads.assignment behind follows (by omega)).bind
      intro inner between stays shorter
      apply Proceeds.expect stays
      intro close after last fits
      exact .pure last (by omega)
  · split
    · exact .complain
    · exact .complain

/-- A bound that covers the tokens behind the cursor is enough for every reader of expressions. -/
theorem proceedsExpressions (fuel : Nat) : ProceedsExpressions available fuel := by
  induction fuel with
  | zero =>
      have least : ∀ level : Level, 5 ≤ level.allowance := by intro level; cases level <;> decide
      constructor
      case operation =>
        intro level cursor ready enough
        have := least level
        omega
      all_goals
        intros
        omega
  | succ fuel reads =>
      exact
        { assignment := fun _ => proceeds_assignment reads
          conditional := fun _ => proceeds_conditional reads
          operation := fun level _ => proceeds_operation reads level
          operationRest := fun level left _ => proceeds_operationRest reads level left
          unary := fun _ => proceeds_unary reads
          accesses := fun head _ => proceeds_accesses reads head
          expressions := fun _ => proceeds_expressions reads
          arrayValues := fun _ => proceeds_arrayValues reads
          arrayLiteral := fun _ => proceeds_arrayLiteral reads
          creation := fun _ => proceeds_creation reads
          primary := fun _ => proceeds_primary reads }

theorem proceeds_expression (ready : cursor.Ready available) :
    Proceeds available cursor.rest.length expression cursor := by
  have enough := (proceedsExpressions (16 * cursor.rest.length + 16)).assignment cursor ready (by omega)
  exact enough.of_run_eq (run_bind_of_ok run_get)

theorem proceeds_typeName (ready : cursor.Ready available) :
    Proceeds available cursor.rest.length typeName cursor := by
  rw [typeName]
  apply Proceeds.skip ready
  intro behind follows fewer
  apply Proceeds.of_run_eq _ (run_bind_of_ok run_get)
  split
  · apply Proceeds.skip follows
    intro next beyond less
    apply Proceeds.skip beyond
    intro after last fits
    exact .pure last (by omega)
  · exact .pure follows fewer

theorem proceeds_declaration (ready : cursor.Ready available) :
    Proceeds available (cursor.rest.length - 1) declaration cursor := by
  rw [declaration]
  apply Proceeds.current
  apply (proceeds_typeName ready).bind
  intro type between stays shorter
  apply Proceeds.expect stays
  intro name behind follows fewer
  extract_lets finish
  have closes : ∀ value next, next.Ready available → next.rest.length ≤ behind.rest.length →
      Proceeds available (cursor.rest.length - 1) (finish value) next := by
    intro value next beyond less
    apply Proceeds.expect beyond
    intro close after last fits
    exact .pure last (by omega)
  refine Proceeds.accept follows ?_ ?_ nofun
  · intro next beyond less
    apply (proceeds_expression beyond).map.bind
    intro value after last fits
    exact closes value after last (by omega)
  · exact closes none behind follows (Nat.le_refl _)

theorem proceeds_evaluation (ready : cursor.Ready available) :
    Proceeds available (cursor.rest.length - 1) evaluation cursor := by
  rw [evaluation]
  apply (proceeds_expression ready).bind
  intro value between stays shorter
  apply Proceeds.expect stays
  intro close after last fits
  exact .pure last (by omega)

theorem proceeds_expressionUnless (kind : TokenKind) (ready : cursor.Ready available) :
    Proceeds available cursor.rest.length (expressionUnless kind) cursor := by
  rw [expressionUnless]
  apply Proceeds.at?
  intro found
  split
  · exact .pure ready (Nat.le_refl _)
  · exact (proceeds_expression ready).map

theorem proceeds_shape? {limit : Nat} {next : Option Shape → Reader α}
    (others : Proceeds available limit (next cursor.shape?) cursor) :
    Proceeds available limit (shape? >>= next) cursor :=
  others.of_run_eq (run_bind_of_ok rfl)

theorem proceeds_forInit (ready : cursor.Ready available) :
    Proceeds available cursor.rest.length forInit cursor := by
  rw [forInit]
  refine Proceeds.accept ready ?_ ?_ nofun
  · intro behind follows fewer
    exact .pure follows (by omega)
  · apply proceeds_shape?
    split
    · apply (proceeds_declaration ready).bind
      intro declared after last fits
      exact .pure last (by omega)
    · apply (proceeds_evaluation ready).bind
      rintro ⟨line, value⟩ after last fits
      exact .pure last (by omega)

theorem proceeds_condition (before behind : Expectation) (ready : cursor.Ready available) :
    Proceeds available cursor.rest.length (condition before behind) cursor := by
  rw [condition]
  apply Proceeds.expect ready
  intro open_ inside follows fewer
  apply (proceeds_expression follows).bind
  intro test between stays shorter
  apply Proceeds.expect stays
  intro close after last fits
  exact .pure last (by omega)

/-- The calls that each reader of statements can make before a token is taken. A statement takes one at least. -/
structure ProceedsStatements (available : Token → Prop) (fuel : Nat) : Prop where
  statement : ∀ cursor, cursor.Ready available → 4 * cursor.rest.length + 2 ≤ fuel →
    Proceeds available (cursor.rest.length - 1) (statement fuel) cursor
  block : ∀ cursor, cursor.Ready available → 4 * cursor.rest.length + 1 ≤ fuel →
    Proceeds available (cursor.rest.length - 1) (block fuel) cursor
  statements : ∀ cursor, cursor.Ready available → 4 * cursor.rest.length + 3 ≤ fuel →
    Proceeds available cursor.rest.length (statements fuel) cursor

section Forms

variable {token : Token}

/-- A statement that begins with a word of its own has taken a token once this word is behind it. -/
theorem proceeds_worded {kind : TokenKind} {next : Token → Reader Stmt} (ready : cursor.Ready available)
    (stands : cursor.current.kind = kind) (word : kind ≠ .endOfInput)
    (others : ∀ behind : Cursor, behind.Ready available → behind.rest.length + 1 = cursor.rest.length →
      Proceeds available behind.rest.length (next cursor.current) behind) :
    Proceeds available (cursor.rest.length - 1) (advance >>= next) cursor := by
  apply Proceeds.advance ready (Token.not_isEnd_of_kind stands word)
  intro behind follows fewer
  exact (others behind follows fewer).weaken (by omega)

theorem proceeds_if (reads : ProceedsStatements available fuel) (ready : cursor.Ready available)
    (enough : 4 * cursor.rest.length + 2 ≤ fuel) :
    Proceeds available cursor.rest.length (do
      let test ← condition .ifOpen .ifClose
      let consequent ← statement fuel
      if ← accept (.keyword .else_) then
        let alternate ← statement fuel
        return Stmt.ifElse token.line test consequent alternate
      else return Stmt.ifThen token.line test consequent) cursor := by
  apply (proceeds_condition _ _ ready).bind
  intro test between stays shorter
  apply (reads.statement between stays (by omega)).bind
  intro consequent next beyond less
  refine Proceeds.accept beyond ?_ ?_ (by simp)
  · intro other inside small
    apply (reads.statement other inside (by omega)).bind
    intro alternate after last fits
    exact .pure last (by omega)
  · exact .pure beyond (by omega)

theorem proceeds_while (reads : ProceedsStatements available fuel) (ready : cursor.Ready available)
    (enough : 4 * cursor.rest.length + 2 ≤ fuel) :
    Proceeds available cursor.rest.length (do
      let test ← condition .whileOpen .whileClose
      let body ← statement fuel
      return Stmt.while_ token.line test body) cursor := by
  apply (proceeds_condition _ _ ready).bind
  intro test between stays shorter
  apply (reads.statement between stays (by omega)).bind
  intro body after last fits
  exact .pure last (by omega)

theorem proceeds_do (reads : ProceedsStatements available fuel) (ready : cursor.Ready available)
    (enough : 4 * cursor.rest.length + 2 ≤ fuel) :
    Proceeds available cursor.rest.length (do
      let body ← statement fuel
      let _ ← expect .doWhile
      let test ← condition .whileOpen .whileClose
      let _ ← expect .doEnd
      return Stmt.doWhile token.line test body) cursor := by
  apply (reads.statement cursor ready enough).bind
  intro body between stays shorter
  apply Proceeds.expect stays
  intro while_ next beyond less
  apply (proceeds_condition _ _ beyond).bind
  intro test other inside small
  apply Proceeds.expect inside
  intro close after last fits
  exact .pure last (by omega)

theorem proceeds_for (reads : ProceedsStatements available fuel) (ready : cursor.Ready available)
    (enough : 4 * cursor.rest.length + 2 ≤ fuel) :
    Proceeds available cursor.rest.length (do
      let _ ← expect .forOpen
      let init ← forInit
      let test ← expressionUnless (.symbol .semicolon)
      let _ ← expect .forCondition
      let update ← expressionUnless (.symbol .rightParen)
      let _ ← expect .forClose
      let body ← statement fuel
      return Stmt.for_ token.line init test update body) cursor := by
  apply Proceeds.expect ready
  intro open_ first begins less
  apply (proceeds_forInit begins).bind
  intro init second goes small
  apply (proceeds_expressionUnless _ goes).bind
  intro test third stays shorter
  apply Proceeds.expect stays
  intro middle fourth beyond tiny
  apply (proceeds_expressionUnless _ beyond).bind
  intro update fifth inside least
  apply Proceeds.expect inside
  intro close sixth outside narrow
  apply (reads.statement sixth outside (by omega)).bind
  intro body after last fits
  exact .pure last (by omega)

theorem proceeds_return (ready : cursor.Ready available) :
    Proceeds available cursor.rest.length (do
      let argument ← expressionUnless (.symbol .semicolon)
      let _ ← expect .returnEnd
      return Stmt.return_ token.line argument) cursor := by
  apply (proceeds_expressionUnless _ ready).bind
  intro argument between stays shorter
  apply Proceeds.expect stays
  intro close after last fits
  exact .pure last (by omega)

theorem proceeds_jump {jump : Stmt} (place : Expectation) (ready : cursor.Ready available) :
    Proceeds available cursor.rest.length (expect place >>= fun _ => pure jump) cursor := by
  apply Proceeds.expect ready
  intro close after last fits
  exact .pure last (by omega)

theorem proceeds_final (ready : cursor.Ready available) :
    Proceeds available cursor.rest.length (do
      if (← shape?) ≠ some .variable then complain .declarationExpected (← current)
      Stmt.declare <$> declaration) cursor := by
  apply proceeds_shape?
  split
  · exact Proceeds.current (.of_run_error (run_bind_of_error run_complain) (.malformed _))
  · exact (proceeds_declaration ready).map.weaken (by omega)

theorem proceeds_ordinary (ready : cursor.Ready available) :
    Proceeds available (cursor.rest.length - 1) (do
      match ← shape? with
      | some .method => complain .misplacedMethod token
      | some .variable => Stmt.declare <$> declaration
      | none =>
          let (line, value) ← evaluation
          return Stmt.evaluate line value) cursor := by
  apply proceeds_shape?
  split
  · exact .complain
  · exact (proceeds_declaration ready).map
  · apply (proceeds_evaluation ready).bind
    rintro ⟨line, value⟩ after last fits
    exact .pure last fits

end Forms

theorem proceeds_statement (reads : ProceedsStatements available fuel) (ready : cursor.Ready available)
    (enough : 4 * cursor.rest.length + 2 ≤ fuel + 1) :
    Proceeds available (cursor.rest.length - 1) (statement (fuel + 1)) cursor := by
  rw [statement]
  apply Proceeds.current
  split
  · exact .complain
  · next kind => exact proceeds_worded ready kind (by simp) fun _ follows _ => proceeds_if reads follows (by omega)
  · next kind => exact proceeds_worded ready kind (by simp) fun _ follows _ => proceeds_while reads follows (by omega)
  · next kind => exact proceeds_worded ready kind (by simp) fun _ follows _ => proceeds_do reads follows (by omega)
  · next kind => exact proceeds_worded ready kind (by simp) fun _ follows _ => proceeds_for reads follows (by omega)
  · next kind => exact proceeds_worded ready kind (by simp) fun _ follows _ => proceeds_return follows
  · next kind => exact proceeds_worded ready kind (by simp) fun _ follows _ => proceeds_jump _ follows
  · next kind => exact proceeds_worded ready kind (by simp) fun _ follows _ => proceeds_jump _ follows
  · apply (reads.block cursor ready (by omega)).bind
    intro body after last fits
    exact .pure last fits
  · next kind => exact proceeds_worded ready kind (by simp) fun _ follows _ => .pure follows (Nat.le_refl _)
  · next kind => exact proceeds_worded ready kind (by simp) fun _ follows _ => proceeds_final follows
  · exact Proceeds.guarded fun _ => proceeds_ordinary ready

theorem proceeds_block (reads : ProceedsStatements available fuel) (ready : cursor.Ready available)
    (enough : 4 * cursor.rest.length + 1 ≤ fuel + 1) :
    Proceeds available (cursor.rest.length - 1) (block (fuel + 1)) cursor := by
  rw [block]
  apply Proceeds.expect ready
  intro open_ behind follows fewer
  apply (reads.statements behind follows (by omega)).bind
  intro body between stays shorter
  apply Proceeds.expect stays
  intro close after last fits
  exact .pure last (by omega)

theorem proceeds_statements (reads : ProceedsStatements available fuel) (ready : cursor.Ready available)
    (enough : 4 * cursor.rest.length + 3 ≤ fuel + 1) :
    Proceeds available cursor.rest.length (statements (fuel + 1)) cursor := by
  rw [statements]
  apply Proceeds.current
  split
  · exact .pure ready (Nat.le_refl _)
  · next inner =>
      have more : cursor.current.isEnd = false := by
        rw [Bool.or_eq_true, not_or, Bool.not_eq_true, Bool.not_eq_true] at inner
        exact inner.2
      have behind := List.length_pos_iff.mpr (ready.rest_ne_nil more)
      apply (reads.statement cursor ready (by omega)).bind
      intro first between stays shorter
      apply (reads.statements between stays (by omega)).bind
      intro others after last fits
      exact .pure last (by omega)

theorem proceedsStatements (fuel : Nat) : ProceedsStatements available fuel := by
  induction fuel with
  | zero =>
      constructor
      all_goals
        intros
        omega
  | succ fuel reads =>
      exact ⟨fun _ => proceeds_statement reads, fun _ => proceeds_block reads, fun _ => proceeds_statements reads⟩

theorem proceeds_param (ready : cursor.Ready available) :
    Proceeds available (cursor.rest.length - 1) param cursor := by
  rw [param]
  refine Proceeds.tryAccept ready ?_ nofun
  intro final behind follows fewer
  apply Proceeds.current
  apply Proceeds.guarded
  intro typed
  apply (proceeds_typeName follows).bind
  intro type between stays shorter
  apply Proceeds.expect stays
  intro name after last fits
  exact .pure last (by omega)

theorem proceeds_params (fuel : Nat) (cursor : Cursor) (ready : cursor.Ready available)
    (enough : cursor.rest.length + 1 ≤ fuel) : Proceeds available cursor.rest.length (params fuel) cursor := by
  induction fuel generalizing cursor with
  | zero => omega
  | succ fuel hypothesis =>
      rw [params]
      apply (proceeds_param ready).bind
      intro first between stays shorter
      refine Proceeds.accept stays ?_ ?_ (by simp)
      · intro behind follows fewer
        apply (hypothesis behind follows (by omega)).bind
        intro others after last fits
        exact .pure last (by omega)
      · exact .pure stays (by omega)

theorem proceeds_method (fuel : Nat) (ready : cursor.Ready available) (enough : 4 * cursor.rest.length + 2 ≤ fuel) :
    Proceeds available (cursor.rest.length - 1) (method fuel) cursor := by
  rw [method]
  apply Proceeds.current
  apply (proceeds_typeName ready).bind
  intro type between stays shorter
  apply Proceeds.expect stays
  intro name behind follows fewer
  apply Proceeds.expect follows
  intro open_ next beyond less
  apply Proceeds.at?
  intro empty
  extract_lets finish
  have closes : ∀ parameters other, other.Ready available → other.rest.length ≤ next.rest.length →
      Proceeds available (cursor.rest.length - 1) (finish parameters) other := by
    intro parameters other inside small
    apply Proceeds.expect inside
    intro close outer outside tiny
    apply ((proceedsStatements fuel).block outer outside (by omega)).bind
    intro body after last fits
    exact .pure last (by omega)
  split
  · exact closes [] next beyond (Nat.le_refl _)
  · exact (proceeds_params fuel next beyond (by omega)).bind closes

theorem proceeds_modifiers (fuel : Nat) (cursor : Cursor) (ready : cursor.Ready available)
    (enough : cursor.rest.length + 1 ≤ fuel) : Proceeds available cursor.rest.length (modifiers fuel) cursor := by
  induction fuel generalizing cursor with
  | zero => omega
  | succ fuel hypothesis =>
      rw [modifiers]
      apply Proceeds.current
      split
      · next kind =>
          apply Proceeds.advance ready (Token.not_isEnd_of TokenKind.isModifier kind rfl)
          intro behind follows fewer
          apply (hypothesis behind follows (by omega)).bind
          intro others after last fits
          exact .pure last (by omega)
      · exact .pure ready (Nat.le_refl _)

theorem proceeds_members (fuel : Nat) (cursor : Cursor) (ready : cursor.Ready available)
    (enough : 4 * cursor.rest.length + 4 ≤ fuel) : Proceeds available cursor.rest.length (members fuel) cursor := by
  induction fuel generalizing cursor with
  | zero => omega
  | succ fuel hypothesis =>
      rw [members]
      apply Proceeds.current
      split
      · exact .pure ready (Nat.le_refl _)
      · next inner =>
          have more : cursor.current.isEnd = false := by
            rw [Bool.or_eq_true, not_or, Bool.not_eq_true, Bool.not_eq_true] at inner
            exact inner.2
          have behind := List.length_pos_iff.mpr (ready.rest_ne_nil more)
          apply (proceeds_modifiers fuel cursor ready (by omega)).bind
          intro isStatic between stays shorter
          -- A member takes a token at least, so the members behind it have less to go through.
          have onwards : ∀ (first : Member) (next : Cursor), next.Ready available →
              next.rest.length ≤ between.rest.length - 1 →
              Proceeds available cursor.rest.length (members fuel >>= fun others => pure (first :: others)) next := by
            intro first next beyond less
            apply (hypothesis next beyond (by omega)).bind
            intro others after last fits
            exact .pure last (by omega)
          apply proceeds_shape?
          split
          · apply (proceeds_method fuel stays (by omega)).bind
            intro first next beyond less
            exact onwards _ next beyond less
          · apply (proceeds_declaration stays).bind
            intro first next beyond less
            exact onwards _ next beyond less
          · exact Proceeds.current .complain

theorem proceeds_classDecl (fuel : Nat) (ready : cursor.Ready available)
    (enough : 4 * cursor.rest.length + 4 ≤ fuel) :
    Proceeds available (cursor.rest.length - 1) (classDecl fuel) cursor := by
  rw [classDecl]
  apply Proceeds.skip ready
  intro behind follows fewer
  apply Proceeds.expect follows
  intro name next beyond less
  apply Proceeds.expect beyond
  intro open_ other inside small
  apply (proceeds_members fuel other inside (by omega)).bind
  intro body between stays shorter
  apply Proceeds.expect stays
  intro close after last fits
  exact .pure last (by omega)

theorem proceeds_directive (word : String) (fuel : Nat) (cursor : Cursor) (ready : cursor.Ready available)
    (enough : cursor.rest.length + 1 ≤ fuel) :
    Proceeds available cursor.rest.length (directive word fuel) cursor := by
  induction fuel generalizing cursor with
  | zero => omega
  | succ fuel hypothesis =>
      rw [directive]
      apply Proceeds.current
      split
      · apply Proceeds.skip ready
        intro after last fits
        exact .pure last fits
      · split
        · exact .complain
        · next more =>
            apply Proceeds.advance ready (Bool.not_eq_true _ ▸ more)
            intro behind follows fewer
            exact (hypothesis behind follows (by omega)).weaken (by omega)

theorem proceeds_classes (fuel : Nat) (cursor : Cursor) (ready : cursor.Ready available)
    (enough : 4 * cursor.rest.length + 5 ≤ fuel) : Proceeds available cursor.rest.length (classes fuel) cursor := by
  induction fuel generalizing cursor with
  | zero => omega
  | succ fuel hypothesis =>
      rw [classes]
      apply Proceeds.current
      split
      · exact .pure ready (Nat.le_refl _)
      · next unfinished =>
          have more : cursor.current.isEnd = false := Bool.not_eq_true _ ▸ unfinished
          have behind := List.length_pos_iff.mpr (ready.rest_ne_nil more)
          split
          · apply Proceeds.advance ready more
            intro next follows fewer
            apply (proceeds_directive _ fuel next follows (by omega)).bind
            intro _ between stays shorter
            exact (hypothesis between stays (by omega)).weaken (by omega)
          · apply (proceeds_modifiers fuel cursor ready (by omega)).bind
            intro _ between stays shorter
            apply Proceeds.current
            apply Proceeds.guarded
            intro declared
            apply (proceeds_classDecl fuel stays (by omega)).bind
            intro first next beyond less
            apply (hypothesis next beyond (by omega)).bind
            intro others after last fits
            exact .pure last (by omega)

theorem proceeds_program (ready : cursor.Ready available) :
    Proceeds available cursor.rest.length program cursor := by
  have enough := proceeds_classes (4 * cursor.rest.length + 8) cursor ready (by omega)
  apply Proceeds.of_run_eq _ (run_bind_of_ok run_get)
  apply enough.bind
  intro decls after last fits
  exact .pure last fits

end Reader

/-- Tokens whose last one marks the end are rejected only for what they say. -/
theorem Program.justified_of_ofTokens {first : Token} {rest : List Token} {rejection : Rejection}
    (terminated : (rest.getLastD first).isEnd = true)
    (rejected : Program.ofTokens (first :: rest) = .error rejection) :
    rejection.Justified (· ∈ first :: rest) := by
  have within : Cursor.Within (· ∈ first :: rest) { current := first, rest } :=
    ⟨List.mem_cons_self, fun token member => List.mem_cons_of_mem _ member⟩
  have proceeds := Reader.proceeds_program ⟨within, terminated⟩
  rw [Program.ofTokens_cons terminated] at rejected
  split at rejected
  · cases rejected
  · next found after failed =>
      cases rejected
      exact proceeds.rejected _ _ failed

end Stepwise
