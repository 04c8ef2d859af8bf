import Stepwise.Proofs.Printing
import Stepwise.Proofs.Reading.Step

/-!
# Readers on words

What a reader does on tokens that spell given words. There is a rule for each alternative of the grammar of
expressions: from what the readers of the parts do follows what the reader of the whole does. The bound on the depth is
a multiple of the number of tokens behind the cursor, with an allowance for each reader, and every rule shows that it
suffices.
-/

namespace Stepwise

set_option autoImplicit false

namespace Cursor

/-- Between two cursors stand tokens with these words. -/
def Spells (before : Cursor) (words : List Word) (after : Cursor) : Prop :=
  ∃ spelled, spelled.map Token.word = words ∧ before.tokens = spelled ++ after.tokens

/-- Under a cursor stands a token with this word, and another cursor stands behind it. -/
structure Takes (before : Cursor) (word : Word) (after : Cursor) : Prop where
  kind : before.current.kind = word.kind
  value : before.current.value = word.value
  moved : before.advanced = after
  shorter : after.rest.length + 1 = before.rest.length

def ofWords (first : Word) (others : List Word) : Cursor :=
  { current := first.token, rest := others.map Word.token }

variable {before after : Cursor} {word : Word} {words : List Word}

theorem Takes.next? (takes : before.Takes word after) : before.next? = some after := by
  have shorter := takes.shorter
  rw [← takes.moved] at shorter ⊢
  refine next?_eq_advanced ?_ fun last => ?_
  · cases stays : before.current.isEnd with
    | false => rfl
    | true =>
        rw [show before.advanced = before from if_pos stays] at shorter
        omega
  · rw [last] at shorter
    cases shorter

theorem spells_nil : before.Spells [] after ↔ before = after := by
  constructor
  · rintro ⟨spelled, none, same⟩
    rw [List.map_eq_nil_iff] at none
    rw [none] at same
    exact tokens_injective same
  · rintro rfl
    exact ⟨[], rfl, rfl⟩

theorem spells_append {first second : List Word} :
    before.Spells (first ++ second) after ↔ ∃ middle, before.Spells first middle ∧ middle.Spells second after := by
  constructor
  · rintro ⟨spelled, same, stands⟩
    obtain ⟨left, right, rfl, one, two⟩ := List.map_eq_append_iff.mp same
    obtain ⟨middle, there⟩ := exists_tokens_eq (List.append_ne_nil_of_right_ne_nil right (tokens_ne_nil after))
    rw [List.append_assoc, there] at stands
    exact ⟨middle, ⟨left, one, stands⟩, right, two, there.symm⟩
  · rintro ⟨middle, ⟨left, rfl, one⟩, right, rfl, two⟩
    exact ⟨left ++ right, List.map_append, by rw [one, two, List.append_assoc]⟩

theorem Spells.cons (spells : before.Spells (word :: words) after) (more : word.kind ≠ .endOfInput) :
    ∃ middle, before.Takes word middle ∧ middle.Spells words after := by
  obtain ⟨spelled, same, stands⟩ := spells
  obtain ⟨token, others, rfl, rfl, tail⟩ := List.map_eq_cons_iff.mp same
  obtain ⟨middle, there⟩ := exists_tokens_eq (List.append_ne_nil_of_right_ne_nil others (tokens_ne_nil after))
  obtain ⟨current, rest⟩ := before
  rw [List.cons_append, there] at stands
  cases stands
  have inner : current.isEnd = false := decide_eq_false more
  have moved : (Cursor.mk current middle.tokens).advanced = middle := by
    unfold advanced
    rw [inner]
    rfl
  exact ⟨middle, ⟨rfl, rfl, moved, rfl⟩, others, tail, there.symm⟩

section Words

variable {mark : Symbol} {reserved : Keyword} {text : String}

theorem Spells.symbol (spells : before.Spells (.symbol mark :: words) after) :
    ∃ middle, before.Takes (.symbol mark) middle ∧ middle.Spells words after :=
  spells.cons nofun

theorem Spells.keyword (spells : before.Spells (.keyword reserved :: words) after) :
    ∃ middle, before.Takes (.keyword reserved) middle ∧ middle.Spells words after :=
  spells.cons nofun

theorem Spells.named (spells : before.Spells (.named text :: words) after) :
    ∃ middle, before.Takes (.named text) middle ∧ middle.Spells words after :=
  spells.cons (Word.named_ne_end text)

theorem Spells.operator (spells : before.Spells (.operator text :: words) after) :
    ∃ middle, before.Takes (.operator text) middle ∧ middle.Spells words after :=
  spells.cons (Word.operator_ne_end text)

end Words

theorem Spells.kind_head (spells : before.Spells (word :: words) after) : before.current.kind = word.kind := by
  obtain ⟨spelled, same, stands⟩ := spells
  obtain ⟨token, others, rfl, rfl, -⟩ := List.map_eq_cons_iff.mp same
  obtain ⟨current, rest⟩ := before
  cases stands
  rfl

theorem Spells.length (spells : before.Spells words after) :
    after.rest.length + words.length = before.rest.length := by
  obtain ⟨spelled, rfl, stands⟩ := spells
  have lengths := congrArg List.length stands
  simp only [tokens, List.length_cons, List.length_append] at lengths
  rw [List.length_map]
  omega

theorem Spells.shorter (spells : before.Spells words after) : after.rest.length ≤ before.rest.length :=
  spells.length ▸ Nat.le_add_right _ _

end Cursor

namespace Reader

variable {α : Type} {before middle after : Cursor} {word : Word}

theorem run_advance_of_takes (takes : before.Takes word after) : advance.run before = .ok before.current after := by
  rw [run_advance, takes.moved]

theorem run_accept_of_takes (takes : before.Takes word after) {kind : TokenKind} (same : word.kind = kind) :
    (accept kind).run before = .ok true after := by
  exact run_accept_of_eq (takes.kind.trans same) takes.next?

theorem run_expect_of_takes (takes : before.Takes word after) {place : Expectation}
    (same : word.kind = place.kind) : (expect place).run before = .ok before.current after := by
  rw [run_expect_of_eq (takes.kind.trans same), takes.moved]

/-- Within every bound on the depth from a certain one on, a reader yields a result and gets to a cursor. -/
structure Reads (family : Nat → Reader α) (bound : Nat) (before : Cursor) (result : α) (after : Cursor) : Prop where
  shorter : after.rest.length ≤ before.rest.length
  run : ∀ fuel, bound ≤ fuel → (family fuel).run before = .ok result after

/-- What a reader with a bound on the depth of its calls does is told for the bounds that are not zero. -/
theorem Reads.of_succ {family : Nat → Reader α} {bound : Nat} {result : α}
    (shorter : after.rest.length ≤ before.rest.length)
    (run : ∀ fuel, bound ≤ fuel → (family (fuel + 1)).run before = .ok result after) :
    Reads family (bound + 1) before result after := by
  constructor
  · exact shorter
  · intro fuel enough
    obtain ⟨less, rfl⟩ := Nat.exists_eq_add_of_le' (Nat.le_of_add_left_le enough)
    exact run less (Nat.le_of_add_le_add_right enough)

theorem Reads.of_succ_succ {family : Nat → Reader α} {bound : Nat} {result : α}
    (shorter : after.rest.length ≤ before.rest.length)
    (run : ∀ fuel, bound ≤ fuel → (family (fuel + 2)).run before = .ok result after) :
    Reads family (bound + 2) before result after := by
  refine .of_succ shorter fun fuel enough => ?_
  obtain ⟨less, rfl⟩ := Nat.exists_eq_add_of_le' (Nat.le_of_add_left_le enough)
  exact run less (Nat.le_of_add_le_add_right enough)

end Reader

namespace Rank

/-- The reader of the expressions of a rank and of all tighter ones. -/
def reader : Rank → Nat → Reader Expr
  | assignment => Reader.assignment
  | conditional => Reader.conditional
  | operation level => fun fuel => Reader.operation fuel level
  | unary => Reader.unary
  | access => fun fuel => Reader.primary fuel >>= Reader.accesses fuel

/-- The calls that the reader can make before a token is taken. -/
def allowance : Rank → Nat
  | assignment => 11
  | conditional => 10
  | operation .disjunction => 9
  | operation .conjunction => 8
  | operation .comparison => 7
  | operation .sum => 6
  | operation .product => 5
  | unary => 4
  | access => 3

/-- The reader of what can follow an expression that begins one of the rank. -/
def rest : Rank → Expr → Nat → Reader Expr
  | operation level, first => fun fuel => Reader.operationRest fuel level first
  | access, first => fun fuel => Reader.accesses fuel first
  | _, first => fun _ => pure first

abbrev Reads (rank : Rank) (before : Cursor) (read : Expr) (after : Cursor) : Prop :=
  Reader.Reads rank.reader (16 * before.rest.length + rank.allowance) before read after

/-- Behind an expression that begins one of the rank, the rest is read between two cursors. -/
abbrev Goes (rank : Rank) (first : Expr) (before : Cursor) (read : Expr) (after : Cursor) : Prop :=
  Reader.Reads (rank.rest first) (16 * before.rest.length + 1) before read after

theorem allowance_next (level : Level) : (operation level).next.allowance + 1 = (operation level).allowance := by
  cases level <;> rfl

theorem allowance_bounds (rank : Rank) : 3 ≤ rank.allowance ∧ rank.allowance ≤ 11 := by
  cases rank with
  | operation level => cases level <;> decide
  | assignment | conditional | unary | access => decide

end Rank

namespace Reader

variable {before after one two three four : Cursor} {operator : String}

section Loose

variable {target value test consequent alternate : Expr}

theorem reads_assignment_of_conditional (first : Rank.conditional.Reads before value after)
    (plain : after.current.kind ≠ .symbol .assign) (simple : after.current.kind.isCompoundAssignment = false) :
    Rank.assignment.Reads before value after := by
  apply Reads.of_succ first.shorter
  intro fuel enough
  have begins : (conditional fuel).run before = .ok value after := first.run fuel enough
  rw [Rank.reader, assignment, run_bind_of_ok begins, run_bind_of_ok run_current, if_neg plain, simple]
  rfl

theorem reads_assign (first : Rank.conditional.Reads before target one) (taken : one.Takes (.symbol .assign) two)
    (targeted : target.isTarget = true) (second : Rank.assignment.Reads two value after) :
    Rank.assignment.Reads before (.assign target.line target value) after := by
  have fewer := first.shorter
  have less := taken.shorter
  have last := second.shorter
  have kind : one.current.kind = .symbol .assign := taken.kind
  apply Reads.of_succ (by omega)
  intro fuel enough
  have begins : (conditional fuel).run before = .ok target one := first.run fuel enough
  have ends : (assignment fuel).run two = .ok value after := by
    apply second.run
    change _ + 11 ≤ _
    omega
  rw [Rank.reader, assignment, run_bind_of_ok begins, run_bind_of_ok run_current, if_pos kind,
    run_bind_of_ok (run_advance_of_takes taken), requireTarget, if_pos targeted, run_bind_of_ok (run_pure ()),
    run_bind_of_ok ends, run_pure]

theorem reads_compound (first : Rank.conditional.Reads before target one)
    (combines : (Word.operator operator).kind.isCompoundAssignment = true) (taken : one.Takes (.operator operator) two)
    (targeted : target.isTarget = true) (second : Rank.assignment.Reads two value after) :
    Rank.assignment.Reads before (.compound target.line target operator value) after := by
  have fewer := first.shorter
  have less := taken.shorter
  have last := second.shorter
  have compound : one.current.kind.isCompoundAssignment = true := by rw [taken.kind, combines]
  have plain : one.current.kind ≠ .symbol .assign := by
    intro same
    rw [same] at compound
    cases compound
  have text : one.current.value = operator := taken.value.trans (Word.value_operator operator)
  apply Reads.of_succ (by omega)
  intro fuel enough
  have begins : (conditional fuel).run before = .ok target one := first.run fuel enough
  have ends : (assignment fuel).run two = .ok value after := by
    apply second.run
    change _ + 11 ≤ _
    omega
  rw [Rank.reader, assignment, run_bind_of_ok begins, run_bind_of_ok run_current, if_neg plain, if_pos compound,
    run_bind_of_ok (run_advance_of_takes taken), requireTarget, if_pos targeted, run_bind_of_ok (run_pure ()),
    run_bind_of_ok ends, run_pure, text]

theorem reads_conditional_of_operation (first : (Rank.operation .disjunction).Reads before test after)
    (plain : after.current.kind ≠ .symbol .question) : Rank.conditional.Reads before test after := by
  apply Reads.of_succ first.shorter
  intro fuel enough
  have begins : (operation fuel .disjunction).run before = .ok test after := first.run fuel enough
  rw [Rank.reader, conditional, run_bind_of_ok begins, run_bind_of_ok (run_accept_of_ne plain)]
  rfl

theorem reads_conditional (first : (Rank.operation .disjunction).Reads before test one)
    (mark : one.Takes (.symbol .question) two) (second : Rank.assignment.Reads two consequent three)
    (colon : three.Takes (.symbol .colon) four) (third : Rank.conditional.Reads four alternate after) :
    Rank.conditional.Reads before (.conditional test.line test consequent alternate) after := by
  have fewer := first.shorter
  have less := mark.shorter
  have small := second.shorter
  have smaller := colon.shorter
  have last := third.shorter
  apply Reads.of_succ (by omega)
  intro fuel enough
  have begins : (operation fuel .disjunction).run before = .ok test one := first.run fuel enough
  have goes : (assignment fuel).run two = .ok consequent three := by
    apply second.run
    change _ + 11 ≤ _
    omega
  have ends : (conditional fuel).run four = .ok alternate after := by
    apply third.run
    change _ + 10 ≤ _
    omega
  rw [Rank.reader, conditional, run_bind_of_ok begins, run_bind_of_ok (run_accept_of_takes mark (by rfl)), if_pos rfl,
    run_bind_of_ok goes, run_bind_of_ok (run_expect_of_takes colon (by rfl)), run_bind_of_ok ends, run_pure]

end Loose

section Tight

variable {left right argument head result : Expr} {level : Level}

theorem run_operand {fuel : Nat} {next : Expr → Reader Expr}
    (reads : ((Rank.operation level).next.reader fuel).run before = .ok left after) :
    (match level.tighter with
      | some tighter => operation fuel tighter >>= next
      | none => unary fuel >>= next).run before = (next left).run after := by
  cases level <;> exact run_bind_of_ok reads

theorem reads_operation (first : (Rank.operation level).next.Reads before left one)
    (others : (Rank.operation level).Goes left one result after) :
    (Rank.operation level).Reads before result after := by
  have fewer := first.shorter
  have last := others.shorter
  have bounds := (Rank.operation level).next.allowance_bounds
  rw [Rank.Reads, ← Rank.allowance_next level, ← Nat.add_assoc]
  apply Reads.of_succ (by omega)
  intro fuel enough
  have ends : (operationRest fuel level left).run one = .ok result after := others.run fuel (by omega)
  change (operation (fuel + 1) level).run before = _
  rw [operation]
  exact (run_operand (first.run fuel enough)).trans ends

theorem goes_operation_end (plain : level.holds before.current.kind = false) :
    (Rank.operation level).Goes left before left before := by
  apply Reads.of_succ (Nat.le_refl _)
  intro fuel enough
  change (operationRest (fuel + 1) level left).run before = _
  rw [operationRest, run_bind_of_ok run_current, plain]
  rfl

theorem goes_operation (held : level.holds (Word.operator operator).kind = true)
    (taken : before.Takes (.operator operator) one) (second : (Rank.operation level).next.Reads one right two)
    (others : (Rank.operation level).Goes (level.node left operator right) two result after) :
    (Rank.operation level).Goes left before result after := by
  have fewer := taken.shorter
  have small := second.shorter
  have last := others.shorter
  have bounds := (Rank.operation level).next.allowance_bounds
  have text : before.current.value = operator := taken.value.trans (Word.value_operator operator)
  rw [← taken.kind] at held
  apply Reads.of_succ (by omega)
  intro fuel enough
  have ends : (operationRest fuel level (level.node left operator right)).run two = .ok result after :=
    others.run fuel (by omega)
  change (operationRest (fuel + 1) level left).run before = _
  rw [← text] at ends
  rw [operationRest, run_bind_of_ok run_current, if_pos held, run_bind_of_ok (run_advance_of_takes taken)]
  exact (run_operand (second.run fuel (by omega))).trans ends

theorem reads_unary (prefixed : (Word.operator operator).kind = .symbol .bang ∨
      (Word.operator operator).kind = .symbol .minus)
    (taken : before.Takes (.operator operator) one) (inner : Rank.unary.Reads one argument after) :
    Rank.unary.Reads before (.unary before.current.line operator argument) after := by
  have fewer := taken.shorter
  have last := inner.shorter
  have text : before.current.value = operator := taken.value.trans (Word.value_operator operator)
  rw [← taken.kind] at prefixed
  apply Reads.of_succ (by omega)
  intro fuel enough
  have ends : (unary fuel).run one = .ok argument after := by
    apply inner.run
    change _ + 4 ≤ _
    omega
  rw [Rank.reader, unary, run_bind_of_ok run_current, if_pos (by simpa using prefixed),
    run_bind_of_ok (run_advance_of_takes taken), run_bind_of_ok ends, run_pure, text]

theorem isUpdate_iff {kind : TokenKind} :
    kind.isUpdate = true ↔ kind = .symbol .plusPlus ∨ kind = .symbol .minusMinus := by
  constructor
  · intro update
    unfold TokenKind.isUpdate at update
    split at update
    · exact .inl rfl
    · exact .inr rfl
    · cases update
  · rintro (rfl | rfl) <;> rfl

theorem reads_updateBefore {name : String} (steps : (Word.operator operator).kind.isUpdate = true)
    (taken : before.Takes (.operator operator) one) (named : (Word.named name).kind = .identifier)
    (identified : one.Takes (.named name) after) :
    Rank.unary.Reads before (.update before.current.line .before operator one.current.line name) after := by
  have fewer := taken.shorter
  have last := identified.shorter
  have text : before.current.value = operator := taken.value.trans (Word.value_operator operator)
  have word : one.current.value = name := identified.value.trans (Word.value_named name)
  rw [← taken.kind] at steps
  have plain : ¬(decide (before.current.kind = .symbol .bang) || decide (before.current.kind = .symbol .minus)) =
      true := by
    rcases isUpdate_iff.mp steps with same | same
    all_goals
      rw [same]
      decide
  apply Reads.of_succ (by omega)
  intro fuel enough
  have ends : (expect (.updateName operator)).run one = .ok one.current after := run_expect_of_takes identified named
  rw [Rank.reader, unary, run_bind_of_ok run_current, if_neg plain, if_pos steps,
    run_bind_of_ok (run_advance_of_takes taken), text, run_bind_of_ok ends, run_pure, word]

theorem run_primary_of_prefix (fuel : Nat)
    (prefixed : before.current.kind ∈
      [.symbol .bang, .symbol .minus, .symbol .plusPlus, .symbol .minusMinus]) :
    ∃ rejection, (primary fuel).run before = .error rejection before := by
  cases fuel with
  | zero => exact ⟨_, rfl⟩
  | succ fuel =>
      rw [primary, run_bind_of_ok run_current]
      simp only [List.mem_cons, List.not_mem_nil, or_false] at prefixed
      obtain same | same | same | same := prefixed
      all_goals
        rw [same]
        exact ⟨_, rfl⟩

theorem reads_unary_of_access (inner : Rank.access.Reads before head after) : Rank.unary.Reads before head after := by
  apply Reads.of_succ inner.shorter
  intro fuel enough
  have begins : (primary fuel >>= accesses fuel).run before = .ok head after := inner.run fuel enough
  have bare : ∀ kind ∈ [TokenKind.symbol .bang, .symbol .minus, .symbol .plusPlus, .symbol .minusMinus],
      before.current.kind ≠ kind := by
    intro kind listed same
    obtain ⟨rejection, failed⟩ := run_primary_of_prefix fuel (same ▸ listed)
    rw [run_bind_of_error failed] at begins
    cases begins
  have plain : ¬(decide (before.current.kind = .symbol .bang) || decide (before.current.kind = .symbol .minus)) =
      true := by
    simp [bare]
  have still : ¬before.current.kind.isUpdate = true := by
    rw [isUpdate_iff]
    simp [bare]
  rw [Rank.reader, unary, run_bind_of_ok run_current, if_neg plain, if_neg still]
  exact begins

end Tight

section Accesses

variable {head position result : Expr} {arguments values : List Expr} {name : String}

/-- The expressions between two cursors, with commas between them, as a reader of them reads them. -/
abbrev ReadsList (list : Nat → Reader (List Expr)) (before : Cursor) (read : List Expr) (after : Cursor) : Prop :=
  Reads list (16 * before.rest.length + 12) before read after

theorem goes_access_end (bare : before.current.kind ≠ .symbol .leftParen) (plain : before.current.kind ≠ .symbol .dot)
    (simple : before.current.kind ≠ .symbol .leftBracket) : Rank.access.Goes head before head before := by
  apply Reads.of_succ (Nat.le_refl _)
  intro fuel enough
  change (accesses (fuel + 1) head).run before = _
  rw [accesses, run_bind_of_ok (run_accept_of_ne bare), if_neg Bool.false_ne_true,
    run_bind_of_ok (run_accept_of_ne plain), if_neg Bool.false_ne_true, run_bind_of_ok (run_accept_of_ne simple)]
  rfl

theorem goes_call_nothing (opens : before.Takes (.symbol .leftParen) one) (closes : one.Takes (.symbol .rightParen) two)
    (others : Rank.access.Goes (.call head.line head []) two result after) :
    Rank.access.Goes head before result after := by
  have fewer := opens.shorter
  have less := closes.shorter
  have last := others.shorter
  have empty : one.current.kind = .symbol .rightParen := closes.kind
  apply Reads.of_succ (by omega)
  intro fuel enough
  have ends : (accesses fuel (.call head.line head [])).run two = .ok result after := others.run fuel (by omega)
  change (accesses (fuel + 1) head).run before = _
  rw [accesses, run_bind_of_ok (run_accept_of_takes opens (by rfl)), if_pos rfl, run_bind_of_ok run_at?,
    decide_eq_true empty]
  exact (run_bind_of_ok (run_expect_of_takes closes (by rfl))).trans ends

theorem goes_call (opens : before.Takes (.symbol .leftParen) one) (some : one.current.kind ≠ .symbol .rightParen)
    (passed : ReadsList expressions one arguments two) (closes : two.Takes (.symbol .rightParen) three)
    (others : Rank.access.Goes (.call head.line head arguments) three result after) :
    Rank.access.Goes head before result after := by
  have fewer := opens.shorter
  have small := passed.shorter
  have less := closes.shorter
  have last := others.shorter
  apply Reads.of_succ (by omega)
  intro fuel enough
  have goes := passed.run fuel (by omega)
  have ends : (accesses fuel (.call head.line head arguments)).run three = .ok result after :=
    others.run fuel (by omega)
  change (accesses (fuel + 1) head).run before = _
  rw [accesses, run_bind_of_ok (run_accept_of_takes opens (by rfl)), if_pos rfl, run_bind_of_ok run_at?,
    decide_eq_false some]
  exact (run_bind_of_ok goes).trans ((run_bind_of_ok (run_expect_of_takes closes (by rfl))).trans ends)

theorem goes_field (dot : before.Takes (.symbol .dot) one) (named : (Word.named name).kind = .identifier)
    (identified : one.Takes (.named name) two)
    (others : Rank.access.Goes (.field head.line head one.current.line name) two result after) :
    Rank.access.Goes head before result after := by
  have fewer := dot.shorter
  have less := identified.shorter
  have last := others.shorter
  have bare : before.current.kind ≠ .symbol .leftParen := by rw [dot.kind]; decide
  have word : one.current.value = name := identified.value.trans (Word.value_named name)
  apply Reads.of_succ (by omega)
  intro fuel enough
  have ends : (accesses fuel (.field head.line head one.current.line name)).run two = .ok result after :=
    others.run fuel (by omega)
  have member : (expect .memberName).run one = .ok one.current two := run_expect_of_takes identified named
  change (accesses (fuel + 1) head).run before = _
  rw [accesses, run_bind_of_ok (run_accept_of_ne bare), if_neg Bool.false_ne_true,
    run_bind_of_ok (run_accept_of_takes dot (by rfl)), if_pos rfl, run_bind_of_ok member, word]
  exact ends

theorem goes_index (opens : before.Takes (.symbol .leftBracket) one) (inner : Rank.assignment.Reads one position two)
    (closes : two.Takes (.symbol .rightBracket) three)
    (others : Rank.access.Goes (.index head.line head position) three result after) :
    Rank.access.Goes head before result after := by
  have fewer := opens.shorter
  have small := inner.shorter
  have less := closes.shorter
  have last := others.shorter
  have bare : before.current.kind ≠ .symbol .leftParen := by rw [opens.kind]; decide
  have plain : before.current.kind ≠ .symbol .dot := by rw [opens.kind]; decide
  apply Reads.of_succ (by omega)
  intro fuel enough
  have goes : (assignment fuel).run one = .ok position two := by
    apply inner.run
    change _ + 11 ≤ _
    omega
  have ends : (accesses fuel (.index head.line head position)).run three = .ok result after :=
    others.run fuel (by omega)
  change (accesses (fuel + 1) head).run before = _
  rw [accesses, run_bind_of_ok (run_accept_of_ne bare), if_neg Bool.false_ne_true,
    run_bind_of_ok (run_accept_of_ne plain), if_neg Bool.false_ne_true, run_bind_of_ok (run_accept_of_takes opens (by rfl)), if_pos rfl,
    run_bind_of_ok goes, run_bind_of_ok (run_expect_of_takes closes (by rfl))]
  exact ends

/-- A reader of expressions with commas between them, by what it does behind a comma. -/
def Lists (list : Nat → Reader (List Expr)) (more : Nat → Expr → Reader (List Expr)) : Prop :=
  ∀ fuel, list (fuel + 1) =
    assignment fuel >>= fun first =>
      accept (.symbol .comma) >>= fun comma => if comma = true then more fuel first else pure [first]

section Lists

variable {list : Nat → Reader (List Expr)} {more : Nat → Expr → Reader (List Expr)}

theorem Lists.reads_last (lists : Lists list more) (first : Rank.assignment.Reads before head after)
    (last : after.current.kind ≠ .symbol .comma) : ReadsList list before [head] after := by
  apply Reads.of_succ first.shorter
  intro fuel enough
  have begins : (assignment fuel).run before = .ok head after := first.run fuel enough
  rw [lists, run_bind_of_ok begins, run_bind_of_ok (run_accept_of_ne last)]
  rfl

theorem Lists.reads_further (lists : Lists list more) (first : Rank.assignment.Reads before head one)
    (comma : one.Takes (.symbol .comma) two) (shorter : after.rest.length ≤ two.rest.length)
    (others : ∀ fuel, 16 * two.rest.length + 12 ≤ fuel → (more fuel head).run two = .ok (head :: arguments) after) :
    ReadsList list before (head :: arguments) after := by
  have fewer := first.shorter
  have less := comma.shorter
  apply Reads.of_succ (by omega)
  intro fuel enough
  have begins : (assignment fuel).run before = .ok head one := first.run fuel enough
  rw [lists, run_bind_of_ok begins, run_bind_of_ok (run_accept_of_takes comma (by rfl)), if_pos rfl]
  exact others fuel (by omega)

end Lists

theorem lists_expressions : Lists expressions fun fuel first => expressions fuel >>= fun others => pure (first :: others) :=
  expressions.eq_2

theorem lists_arrayValues :
    Lists arrayValues fun fuel first =>
      at? (.symbol .rightBrace) >>= fun ends =>
        if ends = true then pure [first] else arrayValues fuel >>= fun others => pure (first :: others) :=
  arrayValues.eq_2

theorem readsList_more (first : Rank.assignment.Reads before head one) (comma : one.Takes (.symbol .comma) two)
    (others : ReadsList expressions two arguments after) : ReadsList expressions before (head :: arguments) after :=
  lists_expressions.reads_further first comma others.shorter fun fuel enough => run_bind_of_ok (others.run fuel enough)

/-- A comma in an array literal is followed by another value if no closing brace stands there. -/
theorem readsValues_more (first : Rank.assignment.Reads before head one) (comma : one.Takes (.symbol .comma) two)
    (more : two.current.kind ≠ .symbol .rightBrace) (others : ReadsList arrayValues two values after) :
    ReadsList arrayValues before (head :: values) after := by
  refine lists_arrayValues.reads_further first comma others.shorter fun fuel enough => ?_
  rw [run_bind_of_ok run_at?, decide_eq_false more, if_neg Bool.false_ne_true]
  exact run_bind_of_ok (others.run fuel enough)

end Accesses

section Primary

variable {head result inner size : Expr} {values : List Expr} {text : String}

abbrev ReadsHead (before : Cursor) (read : Expr) (after : Cursor) : Prop :=
  Reads primary (16 * before.rest.length + 3) before read after

theorem reads_access (first : ReadsHead before head one) (others : Rank.access.Goes head one result after) :
    Rank.access.Reads before result after := by
  have fewer := first.shorter
  have last := others.shorter
  constructor
  · omega
  · intro fuel enough
    have begins : (primary fuel).run before = .ok head one := first.run fuel enough
    change 16 * before.rest.length + 3 ≤ fuel at enough
    have ends : (accesses fuel head).run one = .ok result after := others.run fuel (by omega)
    change (primary fuel >>= accesses fuel).run before = _
    rw [run_bind_of_ok begins, ends]

/-- A name is not taken for a variable that is counted up or down. -/
theorem reads_name (named : before.Takes (.named text) after) (identified : (Word.named text).kind = .identifier)
    (still : after.current.kind.isUpdate = false) : ReadsHead before (.name before.current.line text) after := by
  have kind : before.current.kind = .identifier := named.kind.trans identified
  have word : before.current.value = text := named.value.trans (Word.value_named text)
  apply Reads.of_succ (by have := named.shorter; omega)
  intro fuel enough
  rw [primary, run_bind_of_ok run_current, kind]
  dsimp only
  rw [run_bind_of_ok (run_advance_of_takes named), run_bind_of_ok run_current, still, word]
  rfl

theorem reads_updateAfter (named : before.Takes (.named text) one) (identified : (Word.named text).kind = .identifier)
    (taken : one.Takes (.operator operator) after) (steps : (Word.operator operator).kind.isUpdate = true) :
    ReadsHead before (.update before.current.line .after operator before.current.line text) after := by
  have fewer := named.shorter
  have less := taken.shorter
  have kind : before.current.kind = .identifier := named.kind.trans identified
  have word : before.current.value = text := named.value.trans (Word.value_named text)
  have sign : one.current.value = operator := taken.value.trans (Word.value_operator operator)
  rw [← taken.kind] at steps
  apply Reads.of_succ (by omega)
  intro fuel enough
  rw [primary, run_bind_of_ok run_current, kind]
  dsimp only
  rw [run_bind_of_ok (run_advance_of_takes named), run_bind_of_ok run_current, if_pos steps,
    run_bind_of_ok (run_advance_of_takes taken), run_pure, sign, word]

theorem reads_system (named : before.Takes (.named text) after) (system : (Word.named text).kind = .keyword .system) :
    ReadsHead before (.name before.current.line text) after := by
  have kind : before.current.kind = .keyword .system := named.kind.trans system
  have word : before.current.value = text := named.value.trans (Word.value_named text)
  apply Reads.of_succ (by have := named.shorter; omega)
  intro fuel enough
  rw [primary, run_bind_of_ok run_current, kind]
  dsimp only
  rw [run_bind_of_ok (run_advance_of_takes named), run_pure, word]

/-- What the token of a literal with such a text is read as. -/
inductive Literal (text : String) (line : Nat) : TokenKind → Expr → Prop
  | int {value : Int} (spelled : Number.readInteger text = .ok value) :
      Literal text line .integerLiteral (.int line value)
  | double {value : Float} (spelled : Number.readDouble text = .ok value) :
      Literal text line .doubleLiteral (.double line value)
  | string : Literal text line .stringLiteral (.string line text)
  | char : Literal text line .charLiteral (.char line text)

theorem reads_literal {kind : TokenKind} (taken : before.Takes { kind, value := text } after)
    (literal : Literal text before.current.line kind result) : ReadsHead before result after := by
  have same : before.current.kind = kind := taken.kind
  have word : before.current.value = text := taken.value
  apply Reads.of_succ (by have := taken.shorter; omega)
  intro fuel enough
  rw [primary, run_bind_of_ok run_current, same]
  cases literal with
  | int spelled | double spelled =>
      dsimp only
      rw [run_bind_of_ok (run_advance_of_takes taken), word, spelled]
      rfl
  | string | char =>
      dsimp only
      rw [run_bind_of_ok (run_advance_of_takes taken), run_pure, word]

theorem reads_bool {value : Bool} (taken : before.Takes (.keyword (if value then .true_ else .false_)) after) :
    ReadsHead before (.bool before.current.line value) after := by
  have kind : before.current.kind = .keyword (if value then .true_ else .false_) := taken.kind
  apply Reads.of_succ (by have := taken.shorter; omega)
  intro fuel enough
  rw [primary, run_bind_of_ok run_current, kind]
  cases value
  all_goals
    dsimp only
    exact run_bind_of_ok (run_advance_of_takes taken)

theorem reads_null (taken : before.Takes (.keyword .null_) after) :
    ReadsHead before (.null before.current.line) after := by
  have kind : before.current.kind = .keyword .null_ := taken.kind
  apply Reads.of_succ (by have := taken.shorter; omega)
  intro fuel enough
  rw [primary, run_bind_of_ok run_current, kind]
  exact run_bind_of_ok (run_advance_of_takes taken)

theorem reads_group (opens : before.Takes (.symbol .leftParen) one) (grouped : Rank.assignment.Reads one inner two)
    (closes : two.Takes (.symbol .rightParen) after) : ReadsHead before inner after := by
  have fewer := opens.shorter
  have small := grouped.shorter
  have less := closes.shorter
  have kind : before.current.kind = .symbol .leftParen := opens.kind
  apply Reads.of_succ (by omega)
  intro fuel enough
  have goes : (assignment fuel).run one = .ok inner two := by
    apply grouped.run
    change _ + 11 ≤ _
    omega
  rw [primary, run_bind_of_ok run_current, kind]
  dsimp only
  rw [run_bind_of_ok (run_advance_of_takes opens), run_bind_of_ok goes, run_bind_of_ok (run_expect_of_takes closes (by rfl)),
    run_pure]

/-- A creation begins with its keyword and the name of a type that has values. -/
structure Creates (before : Cursor) (text : String) (one two : Cursor) : Prop where
  begins : before.Takes (.keyword .new_) one
  named : one.Takes (.named text) two
  typed : (Word.named text).kind.isType = true
  solid : text ≠ "void"

theorem kind_ne_void {text : String} (solid : text ≠ "void") : (Word.named text).kind ≠ .keyword .void := by
  intro same
  apply solid
  unfold Word.named Keyword.ofSpelling? at same
  split at same
  · next word found =>
      cases same
      have spelled := List.find?_some found
      exact (of_decide_eq_true spelled).symm
  · cases same

theorem Creates.run {fuel : Nat} (creates : Creates before text one two) {outcome : Reading Expr}
    (others : (do
      if ← accept (.symbol .leftParen) then
        if one.current.kind ≠ .identifier then complain .invalidNew before.current
        let close ← current
        if close.kind ≠ .symbol .rightParen then complain .constructorArguments close
        let _ ← advance
        return .create before.current.line one.current.value
      else if ← accept (.symbol .leftBracket) then
        if ← accept (.symbol .rightBracket) then
          let brace ← current
          if brace.kind ≠ .symbol .leftBrace then complain (.initializerExpected one.current.value) brace
          let (_, values) ← arrayLiteral fuel
          return .arrayOf before.current.line one.current.value values
        else
          let size ← assignment fuel
          let _ ← expect .sizeClose
          return .newArray before.current.line one.current.value size
      else complain .invalidNew before.current : Reader Expr).run two = outcome) :
    (primary (fuel + 2)).run before = outcome := by
  have kind : before.current.kind = .keyword .new_ := creates.begins.kind
  have typed : one.current.kind.isType = true := by rw [creates.named.kind, creates.typed]
  have solid : one.current.kind ≠ .keyword .void := by
    rw [creates.named.kind]
    exact kind_ne_void creates.solid
  have fine : ¬(!one.current.kind.isType || decide (one.current.kind = .keyword .void)) = true := by
    rw [typed, decide_eq_false solid]
    nofun
  rw [primary, run_bind_of_ok run_current, kind]
  dsimp only
  rw [creation, run_bind_of_ok (run_advance_of_takes creates.begins), run_bind_of_ok run_current, if_neg fine,
    run_bind_of_ok (run_advance_of_takes creates.named)]
  exact others

theorem reads_create (creates : Creates before text one two) (named : (Word.named text).kind = .identifier)
    (opens : two.Takes (.symbol .leftParen) three) (closes : three.Takes (.symbol .rightParen) after) :
    ReadsHead before (.create before.current.line text) after := by
  have first := creates.begins.shorter
  have second := creates.named.shorter
  have third := opens.shorter
  have fourth := closes.shorter
  have identified : one.current.kind = .identifier := creates.named.kind.trans named
  have empty : three.current.kind = .symbol .rightParen := closes.kind
  have word : one.current.value = text := creates.named.value.trans (Word.value_named text)
  apply Reads.of_succ_succ (by omega)
  intro fuel enough
  apply creates.run
  rw [run_bind_of_ok (run_accept_of_takes opens (by rfl)), if_pos rfl, if_neg (fun different => different identified),
    run_bind_of_ok run_current, if_neg (fun different => different empty),
    run_bind_of_ok (run_advance_of_takes closes), run_pure, word]

theorem reads_newArray (creates : Creates before text one two) (opens : two.Takes (.symbol .leftBracket) three)
    (some : three.current.kind ≠ .symbol .rightBracket) (sized : Rank.assignment.Reads three size four)
    (closes : four.Takes (.symbol .rightBracket) after) :
    ReadsHead before (.newArray before.current.line text size) after := by
  have first := creates.begins.shorter
  have second := creates.named.shorter
  have third := opens.shorter
  have small := sized.shorter
  have fourth := closes.shorter
  have bare : two.current.kind ≠ .symbol .leftParen := by rw [opens.kind]; nofun
  have word : one.current.value = text := creates.named.value.trans (Word.value_named text)
  apply Reads.of_succ_succ (by omega)
  intro fuel enough
  have goes : (assignment fuel).run three = .ok size four := by
    apply sized.run
    change _ + 11 ≤ _
    omega
  apply creates.run
  rw [run_bind_of_ok (run_accept_of_ne bare), if_neg nofun, run_bind_of_ok (run_accept_of_takes opens (by rfl)), if_pos rfl,
    run_bind_of_ok (run_accept_of_ne some), if_neg nofun, run_bind_of_ok goes,
    run_bind_of_ok (run_expect_of_takes closes (by rfl)), run_pure, word]

abbrev ReadsLiteral (before : Cursor) (read : List Expr) (after : Cursor) : Prop :=
  Reads arrayLiteral (16 * before.rest.length + 2) before (before.current.line, read) after

theorem readsLiteral_nothing (opens : before.Takes (.symbol .leftBrace) one)
    (closes : one.Takes (.symbol .rightBrace) after) : ReadsLiteral before [] after := by
  have first := opens.shorter
  have second := closes.shorter
  have empty : one.current.kind = .symbol .rightBrace := closes.kind
  apply Reads.of_succ (by omega)
  intro fuel enough
  rw [arrayLiteral, run_bind_of_ok (run_advance_of_takes opens), run_bind_of_ok run_at?, decide_eq_true empty]
  exact run_bind_of_ok (run_expect_of_takes closes (by rfl))

theorem readsLiteral (opens : before.Takes (.symbol .leftBrace) one) (some : one.current.kind ≠ .symbol .rightBrace)
    (inner : ReadsList arrayValues one values two) (closes : two.Takes (.symbol .rightBrace) after) :
    ReadsLiteral before values after := by
  have first := opens.shorter
  have small := inner.shorter
  have second := closes.shorter
  apply Reads.of_succ (by omega)
  intro fuel enough
  rw [arrayLiteral, run_bind_of_ok (run_advance_of_takes opens), run_bind_of_ok run_at?, decide_eq_false some]
  exact (run_bind_of_ok (inner.run fuel (by omega))).trans (run_bind_of_ok (run_expect_of_takes closes (by rfl)))

theorem reads_arrayOf (creates : Creates before text one two) (opens : two.Takes (.symbol .leftBracket) three)
    (closes : three.Takes (.symbol .rightBracket) four) (braced : four.current.kind = .symbol .leftBrace)
    (inner : ReadsLiteral four values after) : ReadsHead before (.arrayOf before.current.line text values) after := by
  have first := creates.begins.shorter
  have second := creates.named.shorter
  have third := opens.shorter
  have fourth := closes.shorter
  have last := inner.shorter
  have bare : two.current.kind ≠ .symbol .leftParen := by rw [opens.kind]; nofun
  have word : one.current.value = text := creates.named.value.trans (Word.value_named text)
  apply Reads.of_succ_succ (by omega)
  intro fuel enough
  apply creates.run
  rw [run_bind_of_ok (run_accept_of_ne bare), if_neg nofun, run_bind_of_ok (run_accept_of_takes opens (by rfl)), if_pos rfl,
    run_bind_of_ok (run_accept_of_takes closes (by rfl)), if_pos rfl, run_bind_of_ok run_current,
    if_neg (fun different => different braced), run_bind_of_ok (inner.run fuel (by omega)), word]
  rfl

end Primary

end Reader

end Stepwise
