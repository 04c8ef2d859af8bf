import Stepwise.Proofs.RoundTrip.Rules
import Stepwise.Proofs.Tree

/-!
# Printed expressions are read back

The operands of an operator that groups to the left are read by a loop, and so are calls and accesses. So what is shown
of an expression is how its words open a reading at its rank: whatever the loop of the rank goes on to read behind the
words, from the expression that they spell, is read from the beginning of the words as well. Where the token behind the
words does not bind as tightly as the rank, the loop ends, and the expression is read.

From a rank one gets to every looser one. A place between parentheses asks for nothing.
-/

namespace Stepwise

set_option autoImplicit false

/-- How tightly a token binds to an expression in front of it: as tightly as the rank of what it would make of it. -/
def TokenKind.binding : TokenKind → Nat
  | symbol .assign | symbol .plusAssign | symbol .minusAssign | symbol .starAssign | symbol .slashAssign
  | symbol .percentAssign => 1
  | symbol .question => 2
  | symbol .orOr => 3
  | symbol .andAnd => 4
  | symbol .less | symbol .greater | symbol .lessEqual | symbol .greaterEqual | symbol .equal
  | symbol .notEqual => 5
  | symbol .plus | symbol .minus => 6
  | symbol .star | symbol .slash | symbol .percent => 7
  | symbol .leftParen | symbol .dot | symbol .leftBracket => 9
  | symbol .plusPlus | symbol .minusMinus => 10
  | _ => 0

namespace Rank

/-- What may stand behind an expression of the rank binds less tightly than this. A rank that groups to the left goes on
with operators of its own. -/
def limit : Rank → Nat
  | operation level => (operation level).height + 1
  | access => 10
  | rank => rank.height

theorem height_injective {one two : Rank} (same : one.height = two.height) : one = two := by
  rcases one with _ | _ | ⟨_ | _ | _ | _ | _⟩ | _ | _
  all_goals rcases two with _ | _ | ⟨_ | _ | _ | _ | _⟩ | _ | _ <;> first | rfl | cases same

theorem height_next {rank : Rank} (other : rank ≠ access) : rank.next.height = rank.height + 1 := by
  cases rank with
  | operation level => cases level <;> rfl
  | access => exact absurd rfl other
  | assignment | conditional | unary => rfl

theorem height_le (rank : Rank) : 1 ≤ rank.height ∧ rank.height ≤ 9 := by
  cases rank with
  | operation level => cases level <;> decide
  | assignment | conditional | unary | access => decide

theorem height_le_limit (rank : Rank) : rank.height ≤ rank.limit ∧ rank.limit ≤ rank.height + 1 := by
  cases rank with
  | operation level => cases level <;> decide
  | assignment | conditional | unary | access => decide

theorem limit_mono {one two : Rank} (le : one.height ≤ two.height) : one.limit ≤ two.limit := by
  rcases Nat.eq_or_lt_of_le le with same | less
  · exact Nat.le_of_eq (congrArg limit (height_injective same))
  · exact Nat.le_trans (height_le_limit one).2 (Nat.le_trans less (height_le_limit two).1)

/-- Whatever the rest of the rank is, behind what is read, the whole is read from the beginning. -/
def Opens (rank : Rank) (before : Cursor) (read : Expr) (after : Cursor) : Prop :=
  ∀ result final, rank.Goes read after result final → rank.Reads before result final

variable {rank : Rank} {before after : Cursor} {read : Expr}

theorem binding_of_holds {level : Level} {kind : TokenKind} (held : level.holds kind = true) :
    kind.binding = (operation level).height := by
  unfold Level.holds at held
  split at held
  all_goals first | rfl | cases held

theorem height_level (level : Level) : 3 ≤ (operation level).height ∧ (operation level).height ≤ 7 := by
  cases level <;> decide

theorem goes_end (loose : after.current.kind.binding < rank.height) : rank.Goes read after read after := by
  cases rank with
  | operation level =>
      apply Reader.goes_operation_end
      rw [Bool.eq_false_iff]
      intro held
      rw [binding_of_holds held] at loose
      exact Nat.lt_irrefl _ loose
  | access =>
      have bound : ∀ kind : TokenKind, 9 ≤ kind.binding → after.current.kind ≠ kind := by
        intro kind tight same
        rw [same] at loose
        exact absurd loose (Nat.not_lt.mpr tight)
      exact Reader.goes_access_end (bound _ (by decide)) (bound _ (by decide)) (bound _ (by decide))
  | assignment | conditional | unary => exact ⟨Nat.le_refl _, fun _ _ => rfl⟩

theorem Opens.closed (opens : rank.Opens before read after) (loose : after.current.kind.binding < rank.height) :
    rank.Reads before read after :=
  opens read after (goes_end loose)

theorem eq_of_goes {first result : Expr} {final : Cursor} (plain : rank.rest first = fun _ => pure first)
    (goes : rank.Goes first after result final) : result = first ∧ final = after := by
  have ended := goes.run _ (Nat.le_refl _)
  rw [plain] at ended
  cases ended
  exact ⟨rfl, rfl⟩

theorem opens_of_reads (other : rank ≠ access) (reads : rank.next.Reads before read after)
    (loose : after.current.kind.binding < rank.limit) : rank.Opens before read after := by
  intro result final goes
  have bound : ∀ kind : TokenKind, rank.limit ≤ kind.binding → after.current.kind ≠ kind := by
    intro kind tight same
    rw [same] at loose
    exact absurd loose (Nat.not_lt.mpr tight)
  cases rank with
  | assignment =>
      obtain ⟨rfl, rfl⟩ := eq_of_goes rfl goes
      apply Reader.reads_assignment_of_conditional reads (bound _ (by decide))
      rw [Bool.eq_false_iff]
      intro compound
      unfold TokenKind.isCompoundAssignment at compound
      split at compound
      iterate 5 next same => exact bound _ (by decide) same
      cases compound
  | conditional =>
      obtain ⟨rfl, rfl⟩ := eq_of_goes rfl goes
      exact Reader.reads_conditional_of_operation reads (bound _ (by decide))
  | operation level => exact Reader.reads_operation reads goes
  | unary =>
      obtain ⟨rfl, rfl⟩ := eq_of_goes rfl goes
      exact Reader.reads_unary_of_access reads
  | access => exact absurd rfl other

/-- What opens a reading at a rank opens one at every looser rank. -/
theorem Opens.descend {tight : Rank} (opens : tight.Opens before read after) (le : rank.height ≤ tight.height)
    (loose : after.current.kind.binding < rank.limit) : rank.Opens before read after := by
  generalize steps : tight.height - rank.height = distance
  induction distance generalizing rank with
  | zero =>
      have same : rank = tight := height_injective (by omega)
      rw [same]
      exact opens
  | succ distance hypothesis =>
      have other : rank ≠ access := by
        rintro rfl
        have := (height_le tight).2
        change tight.height - 9 = _ at steps
        omega
      have higher := height_next other
      have below := height_le_limit rank
      have above := height_le_limit rank.next
      have next : rank.next.Opens before read after := hypothesis (by omega) (by omega) (by omega)
      exact opens_of_reads other (next.closed (by omega)) loose

theorem opens_of_head (head : Reader.ReadsHead before read after) : access.Opens before read after :=
  fun _ _ goes => Reader.reads_access head goes

theorem opens_of_plain (reads : rank.Reads before read after)
    (plain : ∀ first, rank.rest first = fun _ => pure first) :
    rank.Opens before read after := by
  intro result final goes
  obtain ⟨rfl, rfl⟩ := eq_of_goes (plain read) goes
  exact reads

end Rank

def TokenKind.beginsExpression : TokenKind → Bool
  | identifier | integerLiteral | doubleLiteral | stringLiteral | charLiteral | keyword .system | keyword .true_
  | keyword .false_ | keyword .null_ | keyword .new_ | symbol .leftParen | symbol .bang | symbol .minus
  | symbol .plusPlus | symbol .minusMinus => true
  | _ => false

namespace Word

/-- What can stand behind a name in an expression: not another name, and no brackets with nothing between them. -/
def Continues : List Word → Prop
  | [] => False
  | first :: others => first.kind ≠ .identifier ∧ (first.kind = .symbol .leftBracket →
      ∃ second more, others = second :: more ∧ second.kind ≠ .symbol .rightBracket)

/-- Words with which an expression can begin, and no declaration. -/
def Begins : List Word → Prop
  | [] => False
  | first :: others => first.kind.beginsExpression = true ∧ (first.kind = .identifier → others ≠ [] → Continues others)

variable {first : Word} {words more : List Word} {operator : String}

theorem Continues.append (continues : Continues words) : Continues (words ++ more) := by
  match words, continues with
  | first :: others, ⟨different, inner⟩ =>
      refine ⟨different, fun bracket => ?_⟩
      obtain ⟨second, rest, rfl, some⟩ := inner bracket
      exact ⟨second, rest ++ more, rfl, some⟩

theorem Continues.exists_cons (continues : Continues words) :
    ∃ first others, words = first :: others ∧ first.kind ≠ .identifier ∧ (first.kind = .symbol .leftBracket →
      ∃ second more, others = second :: more ∧ second.kind ≠ .symbol .rightBracket) := by
  match words, continues with
  | first :: others, ⟨different, inner⟩ => exact ⟨first, others, rfl, different, inner⟩

/-- Where something stands behind an expression, it stands behind a name that the expression begins with. -/
theorem Begins.append_continues (begins : Begins words) (continues : Continues more) :
    ∃ first others, words ++ more = first :: others ∧ first.kind.beginsExpression = true ∧
      (first.kind = .identifier → Continues others) := by
  match words, begins with
  | first :: others, ⟨starts, inner⟩ =>
      refine ⟨first, others ++ more, rfl, starts, fun named => ?_⟩
      cases others with
      | nil => exact continues
      | cons second rest => exact (inner named nofun).append

theorem Begins.append (begins : Begins words) (continues : Continues more) : Begins (words ++ more) := by
  obtain ⟨first, others, same, starts, behind⟩ := begins.append_continues continues
  rw [same]
  exact ⟨starts, fun named _ => behind named⟩

theorem Begins.head_ne (begins : Begins words) (kind : TokenKind) (other : kind.beginsExpression = false) :
    ∃ first others, words = first :: others ∧ first.kind ≠ kind := by
  match words, begins with
  | first :: others, ⟨starts, _⟩ =>
      refine ⟨first, others, rfl, ?_⟩
      rintro rfl
      rw [other] at starts
      cases starts

theorem Begins.current_ne (begins : Begins words) {before after : Cursor} (spells : before.Spells words after)
    (kind : TokenKind) (other : kind.beginsExpression = false) : before.current.kind ≠ kind := by
  obtain ⟨first, others, rfl, different⟩ := begins.head_ne kind other
  rw [spells.kind_head]
  exact different

theorem begins_of_kind {kind : TokenKind} (same : first.kind = kind)
    (starts : kind.beginsExpression = true) (other : kind ≠ .identifier) :
    Begins (first :: words) := by
  rw [← same] at starts other
  exact ⟨starts, fun named => absurd named other⟩

theorem begins_named {name : String} (kind : (named name).kind = .identifier ∨ (named name).kind = .keyword .system) :
    Begins [named name] := by
  refine ⟨?_, fun _ some => absurd rfl some⟩
  rcases kind with same | same
  all_goals
    rw [same]
    rfl

theorem continues_of_binding (binds : 0 < first.kind.binding) (other : first.kind.binding ≠ 9) :
    Continues (first :: words) := by
  constructor
  · intro same
    rw [same] at binds
    cases binds
  · intro same
    rw [same] at other
    exact absurd rfl other

theorem continues_symbol (mark : Symbol) (words : List Word) (plain : mark ≠ .leftBracket) :
    Continues (.symbol mark :: words) := by
  refine ⟨nofun, fun same => ?_⟩
  cases same
  exact absurd rfl plain

end Word

theorem Level.holds_of_ofOperator? {operator : String} {level : Level}
    (ranked : Level.ofOperator? operator = some level) : level.holds (Word.operator operator).kind = true := by
  unfold Level.ofOperator? at ranked
  split at ranked
  all_goals cases ranked <;> decide

theorem Level.binding_of_ofOperator? {operator : String} {level : Level}
    (ranked : Level.ofOperator? operator = some level) :
    3 ≤ (Word.operator operator).kind.binding ∧ (Word.operator operator).kind.binding ≤ 7 := by
  rw [Rank.binding_of_holds (holds_of_ofOperator? ranked)]
  exact Rank.height_level level

theorem Word.prefix_kind {operator : String} (prefixed : operator ∈ ["!", "-"]) :
    (Word.operator operator).kind = .symbol .bang ∨ (Word.operator operator).kind = .symbol .minus := by
  simp only [List.mem_cons, List.not_mem_nil, or_false] at prefixed
  rcases prefixed with rfl | rfl <;> decide

theorem Word.isCompoundAssignment_of_mem {operator : String} (combines : operator ∈ ["+=", "-=", "*=", "/=", "%="]) :
    (Word.operator operator).kind.isCompoundAssignment = true := by
  revert operator
  decide

theorem Word.isUpdate_of_mem {operator : String} (steps : operator ∈ ["++", "--"]) :
    (Word.operator operator).kind.isUpdate = true := by
  revert operator
  decide

theorem TokenKind.binding_of_isCompoundAssignment {kind : TokenKind} (compound : kind.isCompoundAssignment = true) :
    kind.binding = 1 := by
  unfold isCompoundAssignment at compound
  split at compound
  all_goals first | rfl | cases compound

theorem TokenKind.binding_of_isUpdate {kind : TokenKind} (update : kind.isUpdate = true) : kind.binding = 10 := by
  rcases Reader.isUpdate_iff.mp update with rfl | rfl <;> rfl

namespace Expr

variable {spelling : Spelling} {expression : Expr} {required : Rank} {words : List Word}

theorem begins_placed (begins : Word.Begins words) : Word.Begins (expression.placed required words) := by
  unfold placed
  split
  · exact Word.begins_of_kind rfl rfl nofun
  · exact begins

/-- No declaration begins as the words of an expression do. -/
theorem Shaped.begins (shaped : expression.Shaped) : Word.Begins (expression.words spelling) := by
  induction shaped with
  | int | double | string | char | null => exact Word.begins_of_kind rfl rfl nofun
  | bool line value => cases value <;> exact Word.begins_of_kind rfl rfl nofun
  | create | newArray | arrayOf => exact Word.begins_of_kind rfl rfl nofun
  | name line kind => exact Word.begins_named kind
  | binary line ranked joins first second firstBegins secondBegins
  | logical line ranked joins first second firstBegins secondBegins =>
      apply (begins_placed firstBegins).append
      have bounds := Level.binding_of_ofOperator? ranked
      exact Word.continues_of_binding (by omega) (by omega)
  | unary line prefixed inner begins =>
      rcases Word.prefix_kind prefixed with same | same
      all_goals exact Word.begins_of_kind same rfl nofun
  | conditional line condition first second conditionBegins =>
      exact (begins_placed conditionBegins).append (Word.continues_symbol .question _ nofun)
  | assign line targeted located evaluated targetBegins =>
      exact (begins_placed targetBegins).append (Word.continues_symbol .assign _ nofun)
  | compound line targeted combines located evaluated targetBegins =>
      have height := TokenKind.binding_of_isCompoundAssignment (Word.isCompoundAssignment_of_mem combines)
      exact (begins_placed targetBegins).append (Word.continues_of_binding (by omega) (by omega))
  | field line nameLine kind inner begins =>
      exact (begins_placed begins).append (Word.continues_symbol .dot _ nofun)
  | index line container number containerBegins numberBegins =>
      refine (begins_placed containerBegins).append ⟨nofun, fun _ => ?_⟩
      obtain ⟨first, others, same, some⟩ := (begins_placed numberBegins).head_ne (.symbol .rightBracket) rfl
      rw [same]
      exact ⟨first, _, rfl, some⟩
  | call line called passed calledBegins =>
      exact (begins_placed calledBegins).append (Word.continues_symbol .leftParen _ nofun)
  | update line nameLine form steps kind =>
      have update := Word.isUpdate_of_mem steps
      have height := TokenKind.binding_of_isUpdate update
      cases form with
      | before =>
          rcases Reader.isUpdate_iff.mp update with same | same
          all_goals exact Word.begins_of_kind same rfl nofun
      | after => exact (Word.begins_named (.inl kind)).append (Word.continues_of_binding (by omega) (by omega))

theorem begins_listed (spelling : Spelling) {first : Expr} (shaped : first.Shaped) (others : List Expr) :
    Word.Begins (listed spelling (first :: others)) := by
  have begins : Word.Begins (first.placed .assignment (first.words spelling)) := begins_placed shaped.begins
  cases others with
  | nil => exact begins
  | cons second others => exact begins.append (Word.continues_symbol .comma _ nofun)

theorem isTarget_of_erased {read : Expr} (same : read.erased = expression.erased)
    (targeted : expression.isTarget = true) : read.isTarget = true := by
  rw [← isTarget_erased, same, isTarget_erased, targeted]

/-- The words of an expression open a reading of it at its rank, unless what stands behind them binds too tightly. -/
def ReadsBack (spelling : Spelling) (expression : Expr) : Prop :=
  ∀ ⦃before after : Cursor⦄, before.Spells (expression.words spelling) after →
    after.current.kind.binding < expression.rank.limit →
    ∃ read, read.erased = expression.erased ∧ expression.rank.Opens before read after

variable {before after : Cursor}

/-- At a place that asks for a rank, an expression opens a reading at that rank. -/
theorem ReadsBack.opens (readsBack : expression.ReadsBack spelling)
    (spells : before.Spells (expression.placed required (expression.words spelling)) after)
    (loose : after.current.kind.binding < required.limit) :
    ∃ read, read.erased = expression.erased ∧ required.Opens before read after := by
  unfold placed at spells
  split at spells
  · obtain ⟨one, opening, spells⟩ := spells.symbol
    obtain ⟨two, inner, spells⟩ := Cursor.spells_append.mp spells
    obtain ⟨three, closing, spells⟩ := spells.symbol
    cases Cursor.spells_nil.mp spells
    have ended : two.current.kind.binding = 0 := by rw [closing.kind]; rfl
    have low := Rank.height_le expression.rank
    have below := Rank.height_le_limit expression.rank
    obtain ⟨read, same, opens⟩ := readsBack inner (by omega)
    have whole : Rank.assignment.Opens one read two := opens.descend low.1 (by rw [ended]; decide)
    have grouped := Reader.reads_group opening (whole.closed (by rw [ended]; decide)) closing
    exact ⟨read, same, (Rank.opens_of_head grouped).descend (Rank.height_le required).2 loose⟩
  · next high =>
      have le : required.height ≤ expression.rank.height := Nat.not_lt.mp high
      obtain ⟨read, same, opens⟩ := readsBack spells (Nat.lt_of_lt_of_le loose (Rank.limit_mono le))
      exact ⟨read, same, opens.descend le loose⟩

theorem ReadsBack.reads (readsBack : expression.ReadsBack spelling)
    (spells : before.Spells (expression.placed required (expression.words spelling)) after)
    (loose : after.current.kind.binding < required.height) :
    ∃ read, read.erased = expression.erased ∧ required.Reads before read after := by
  have below := Rank.height_le_limit required
  obtain ⟨read, same, opens⟩ := readsBack.opens spells (by omega)
  exact ⟨read, same, opens.closed loose⟩

section Cases

variable {left right test consequent alternate target value object position argument callee : Expr}
  {arguments values : List Expr} {operator name : String} {level : Level}

theorem words_node (level : Level) (left right : Expr) (operator : String) :
    (level.node left operator right).words spelling =
      left.placed (.ofOperator operator) (left.words spelling) ++
        .operator operator :: right.placed (Rank.ofOperator operator).next (right.words spelling) := by
  cases level <;> rfl

theorem rank_node (level : Level) (left right : Expr) (operator : String) :
    (level.node left operator right).rank = .ofOperator operator := by
  cases level <;> rfl

theorem readsBack_node (ranked : Level.ofOperator? operator = some level) (first : left.ReadsBack spelling)
    (second : right.ReadsBack spelling) : (level.node left operator right).ReadsBack spelling := by
  intro before after spells loose
  have held := Level.holds_of_ofOperator? ranked
  have binds := Rank.binding_of_holds held
  have rank : Rank.ofOperator operator = .operation level := by rw [Rank.ofOperator, ranked]
  have higher : (Rank.operation level).next.height = (Rank.operation level).height + 1 := Rank.height_next nofun
  rw [words_node, rank] at spells
  rw [rank_node, rank] at loose
  obtain ⟨one, spellsLeft, spells⟩ := Cursor.spells_append.mp spells
  obtain ⟨two, taken, spellsRight⟩ := spells.operator
  obtain ⟨l, sameLeft, opens⟩ := first.opens spellsLeft (by rw [taken.kind, binds]; exact Nat.lt_succ_self _)
  obtain ⟨r, sameRight, reads⟩ := second.reads spellsRight (by rw [higher]; exact loose)
  refine ⟨level.node l operator r, erased_node level sameLeft sameRight operator, ?_⟩
  rw [rank_node, rank]
  intro result final goes
  exact opens result final (Reader.goes_operation held taken reads goes)

theorem readsBack_unary (line : Nat) (prefixed : operator ∈ ["!", "-"]) (inner : argument.ReadsBack spelling) :
    (Expr.unary line operator argument).ReadsBack spelling := by
  intro before after spells loose
  obtain ⟨one, taken, spells⟩ := spells.operator
  obtain ⟨read, same, reads⟩ := inner.reads spells loose
  refine ⟨.unary before.current.line operator read, by simp only [erased, same], ?_⟩
  exact Rank.opens_of_plain (Reader.reads_unary (Word.prefix_kind prefixed) taken reads) fun _ => rfl

theorem readsBack_conditional (line : Nat) (condition : test.ReadsBack spelling) (first : consequent.ReadsBack spelling)
    (second : alternate.ReadsBack spelling) :
    (Expr.conditional line test consequent alternate).ReadsBack spelling := by
  intro before after spells loose
  obtain ⟨one, spellsTest, spells⟩ := Cursor.spells_append.mp spells
  obtain ⟨two, mark, spells⟩ := spells.symbol
  obtain ⟨three, spellsFirst, spells⟩ := Cursor.spells_append.mp spells
  obtain ⟨four, colon, spellsSecond⟩ := spells.symbol
  obtain ⟨t, sameTest, readsTest⟩ := condition.reads spellsTest (by rw [mark.kind]; decide)
  obtain ⟨c, sameFirst, readsFirst⟩ := first.reads spellsFirst (by rw [colon.kind]; decide)
  obtain ⟨a, sameSecond, readsSecond⟩ := second.reads spellsSecond loose
  refine ⟨.conditional t.line t c a, by simp only [erased, sameTest, sameFirst, sameSecond], ?_⟩
  exact Rank.opens_of_plain (Reader.reads_conditional readsTest mark readsFirst colon readsSecond) fun _ => rfl

theorem readsBack_assign (line : Nat) (targeted : target.isTarget = true) (located : target.ReadsBack spelling)
    (evaluated : value.ReadsBack spelling) : (Expr.assign line target value).ReadsBack spelling := by
  intro before after spells loose
  obtain ⟨one, spellsTarget, spells⟩ := Cursor.spells_append.mp spells
  obtain ⟨two, taken, spellsValue⟩ := spells.symbol
  obtain ⟨t, sameTarget, readsTarget⟩ := located.reads spellsTarget (by rw [taken.kind]; decide)
  obtain ⟨v, sameValue, readsValue⟩ := evaluated.reads spellsValue loose
  refine ⟨.assign t.line t v, by simp only [erased, sameTarget, sameValue], ?_⟩
  exact Rank.opens_of_plain
    (Reader.reads_assign readsTarget taken (isTarget_of_erased sameTarget targeted) readsValue) fun _ => rfl

theorem readsBack_compound (line : Nat) (targeted : target.isTarget = true)
    (combines : operator ∈ ["+=", "-=", "*=", "/=", "%="]) (located : target.ReadsBack spelling)
    (evaluated : value.ReadsBack spelling) : (Expr.compound line target operator value).ReadsBack spelling := by
  intro before after spells loose
  have compound := Word.isCompoundAssignment_of_mem combines
  have binds := TokenKind.binding_of_isCompoundAssignment compound
  obtain ⟨one, spellsTarget, spells⟩ := Cursor.spells_append.mp spells
  obtain ⟨two, taken, spellsValue⟩ := spells.operator
  obtain ⟨t, sameTarget, readsTarget⟩ := located.reads spellsTarget (by rw [taken.kind, binds]; decide)
  obtain ⟨v, sameValue, readsValue⟩ := evaluated.reads spellsValue loose
  refine ⟨.compound t.line t operator v, by simp only [erased, sameTarget, sameValue], ?_⟩
  exact Rank.opens_of_plain
    (Reader.reads_compound readsTarget compound taken (isTarget_of_erased sameTarget targeted) readsValue) fun _ => rfl

theorem readsBack_field (line nameLine : Nat) (kind : (Word.named name).kind = .identifier)
    (inner : object.ReadsBack spelling) : (Expr.field line object nameLine name).ReadsBack spelling := by
  intro before after spells loose
  obtain ⟨one, spellsObject, spells⟩ := Cursor.spells_append.mp spells
  obtain ⟨two, dot, spells⟩ := spells.symbol
  obtain ⟨three, named, spells⟩ := spells.named
  cases Cursor.spells_nil.mp spells
  obtain ⟨read, same, opens⟩ := inner.opens spellsObject (by rw [dot.kind]; decide)
  refine ⟨.field read.line read two.current.line name, by simp only [erased, same], fun result final goes => ?_⟩
  exact opens result final (Reader.goes_field dot kind named goes)

theorem readsBack_index (line : Nat) (container : object.ReadsBack spelling) (number : position.ReadsBack spelling) :
    (Expr.index line object position).ReadsBack spelling := by
  intro before after spells loose
  obtain ⟨one, spellsObject, spells⟩ := Cursor.spells_append.mp spells
  obtain ⟨two, opening, spells⟩ := spells.symbol
  obtain ⟨three, spellsPosition, spells⟩ := Cursor.spells_append.mp spells
  obtain ⟨four, closing, spells⟩ := spells.symbol
  cases Cursor.spells_nil.mp spells
  obtain ⟨o, sameObject, opens⟩ := container.opens spellsObject (by rw [opening.kind]; decide)
  obtain ⟨p, samePosition, readsPosition⟩ := number.reads spellsPosition (by rw [closing.kind]; decide)
  refine ⟨.index o.line o p, by simp only [erased, sameObject, samePosition], fun result final goes => ?_⟩
  exact opens result final (Reader.goes_index opening readsPosition closing goes)

/-- Expressions with commas between them are read back where a reader of one, and of one more, is given. -/
theorem readsBack_listed {Reads : Cursor → List Expr → Cursor → Prop}
    (last : ∀ {before after head}, Rank.assignment.Reads before head after → after.current.kind ≠ .symbol .comma →
      Reads before [head] after)
    (more : ∀ {before one two after head others}, Rank.assignment.Reads before head one →
      one.Takes (.symbol .comma) two → two.current.kind ≠ .symbol .rightBrace → Reads two others after →
      Reads before (head :: others) after)
    {first : Expr} {others : List Expr} (shaped : ∀ one ∈ first :: others, one.Shaped)
    (readsBack : ∀ one ∈ first :: others, one.ReadsBack spelling)
    (spells : before.Spells (listed spelling (first :: others)) after) (loose : after.current.kind.binding = 0)
    (ended : after.current.kind ≠ .symbol .comma) :
    ∃ read, erasedAll read = erasedAll (first :: others) ∧ Reads before read after := by
  have head := readsBack first List.mem_cons_self
  induction others generalizing first before with
  | nil =>
      obtain ⟨read, same, reads⟩ := head.reads spells (by rw [loose]; decide)
      exact ⟨[read], by simp only [erasedAll, same], last reads ended⟩
  | cons second others hypothesis =>
      obtain ⟨one, spellsFirst, spells⟩ := Cursor.spells_append.mp spells
      obtain ⟨two, comma, spells⟩ := spells.symbol
      have begins := begins_listed spelling (shaped second (List.mem_cons_of_mem _ List.mem_cons_self)) others
      obtain ⟨read, same, reads⟩ := head.reads spellsFirst (by rw [comma.kind]; decide)
      obtain ⟨rest, sameRest, readsRest⟩ := hypothesis (fun one member => shaped one (List.mem_cons_of_mem _ member))
        (fun one member => readsBack one (List.mem_cons_of_mem _ member)) spells
        (readsBack second (List.mem_cons_of_mem _ List.mem_cons_self))
      exact ⟨read :: rest, by simp only [erasedAll, same, sameRest],
        more reads comma (begins.current_ne spells _ rfl) readsRest⟩

theorem readsBack_call (line : Nat) (called : callee.ReadsBack spelling)
    (shaped : ∀ argument ∈ arguments, argument.Shaped)
    (passed : ∀ argument ∈ arguments, argument.ReadsBack spelling) :
    (Expr.call line callee arguments).ReadsBack spelling := by
  intro before after spells loose
  obtain ⟨one, spellsCallee, spells⟩ := Cursor.spells_append.mp spells
  obtain ⟨two, opening, spells⟩ := spells.symbol
  obtain ⟨three, spellsArguments, spells⟩ := Cursor.spells_append.mp spells
  obtain ⟨four, closing, spells⟩ := spells.symbol
  cases Cursor.spells_nil.mp spells
  obtain ⟨c, sameCallee, opens⟩ := called.opens spellsCallee (by rw [opening.kind]; decide)
  cases arguments with
  | nil =>
      cases Cursor.spells_nil.mp spellsArguments
      refine ⟨.call c.line c [], by simp only [erased, sameCallee], fun result final goes => ?_⟩
      exact opens result final (Reader.goes_call_nothing opening closing goes)
  | cons argument others =>
      have begins := begins_listed spelling (shaped argument List.mem_cons_self) others
      obtain ⟨read, same, reads⟩ := readsBack_listed Reader.lists_expressions.reads_last
        (fun first comma _ rest => Reader.readsList_more first comma rest) shaped passed spellsArguments
        (by rw [closing.kind]; rfl) (by rw [closing.kind]; decide)
      refine ⟨.call c.line c read, by simp only [erased, sameCallee, same], fun result final goes => ?_⟩
      exact opens result final (Reader.goes_call opening (begins.current_ne spellsArguments _ rfl) reads closing goes)

theorem readsBack_arrayOf (line : Nat) {elementType : String} (typed : (Word.named elementType).kind.isType = true)
    (solid : elementType ≠ "void") (shaped : ∀ value ∈ values, value.Shaped)
    (inner : ∀ value ∈ values, value.ReadsBack spelling) :
    (Expr.arrayOf line elementType values).ReadsBack spelling := by
  intro before after spells loose
  obtain ⟨one, begins, spells⟩ := spells.keyword
  obtain ⟨two, named, spells⟩ := spells.named
  obtain ⟨three, opening, spells⟩ := spells.symbol
  obtain ⟨four, closing, spells⟩ := spells.symbol
  obtain ⟨five, brace, spells⟩ := spells.symbol
  obtain ⟨six, spellsValues, spells⟩ := Cursor.spells_append.mp spells
  obtain ⟨seven, last, spells⟩ := spells.symbol
  cases Cursor.spells_nil.mp spells
  have creates : Reader.Creates before elementType one two := { begins, named, typed, solid }
  cases values with
  | nil =>
      cases Cursor.spells_nil.mp spellsValues
      have literal := Reader.readsLiteral_nothing brace last
      refine ⟨.arrayOf before.current.line elementType [], rfl, ?_⟩
      exact Rank.opens_of_head (Reader.reads_arrayOf creates opening closing brace.kind literal)
  | cons value others =>
      have starts := begins_listed spelling (shaped value List.mem_cons_self) others
      obtain ⟨read, same, reads⟩ := readsBack_listed Reader.lists_arrayValues.reads_last Reader.readsValues_more shaped
        inner spellsValues (by rw [last.kind]; rfl) (by rw [last.kind]; nofun)
      refine ⟨.arrayOf before.current.line elementType read, by simp only [erased, same], ?_⟩
      exact Rank.opens_of_head
        (Reader.reads_arrayOf creates opening closing brace.kind
          (Reader.readsLiteral brace (starts.current_ne spellsValues _ rfl) reads last))

theorem readsBack_newArray (line : Nat) {elementType : String} {size : Expr}
    (typed : (Word.named elementType).kind.isType = true) (solid : elementType ≠ "void")
    (shaped : size.Shaped) (sized : size.ReadsBack spelling) :
    (Expr.newArray line elementType size).ReadsBack spelling := by
  intro before after spells loose
  obtain ⟨one, begins, spells⟩ := spells.keyword
  obtain ⟨two, named, spells⟩ := spells.named
  obtain ⟨three, opening, spells⟩ := spells.symbol
  obtain ⟨four, spellsSize, spells⟩ := Cursor.spells_append.mp spells
  obtain ⟨five, closing, spells⟩ := spells.symbol
  cases Cursor.spells_nil.mp spells
  have creates : Reader.Creates before elementType one two := { begins, named, typed, solid }
  have starts : Word.Begins (size.placed .assignment (size.words spelling)) := begins_placed shaped.begins
  obtain ⟨read, same, reads⟩ := sized.reads spellsSize (by rw [closing.kind]; decide)
  refine ⟨.newArray before.current.line elementType read, by simp only [erased, same], ?_⟩
  exact Rank.opens_of_head (Reader.reads_newArray creates opening (starts.current_ne spellsSize _ rfl) reads closing)

theorem readsBack_create (line : Nat) (kind : (Word.named name).kind = .identifier) :
    (Expr.create line name).ReadsBack spelling := by
  intro before after spells loose
  obtain ⟨one, begins, spells⟩ := spells.keyword
  obtain ⟨two, named, spells⟩ := spells.named
  obtain ⟨three, opening, spells⟩ := spells.symbol
  obtain ⟨four, closing, spells⟩ := spells.symbol
  cases Cursor.spells_nil.mp spells
  have typed : (Word.named name).kind.isType = true := by rw [kind]; rfl
  have solid : name ≠ "void" := by rintro rfl; cases kind
  have creates : Reader.Creates before name one two := { begins, named, typed, solid }
  exact ⟨.create before.current.line name, rfl,
    Rank.opens_of_head (Reader.reads_create creates kind opening closing)⟩

theorem readsBack_update (line nameLine : Nat) (form : UpdateForm) (steps : operator ∈ ["++", "--"])
    (kind : (Word.named name).kind = .identifier) :
    (Expr.update line form operator nameLine name).ReadsBack spelling := by
  intro before after spells loose
  have update := Word.isUpdate_of_mem steps
  cases form with
  | before =>
      obtain ⟨one, taken, spells⟩ := spells.operator
      obtain ⟨two, named, spells⟩ := spells.named
      cases Cursor.spells_nil.mp spells
      refine ⟨.update before.current.line .before operator one.current.line name, rfl, ?_⟩
      exact Rank.opens_of_plain (Reader.reads_updateBefore update taken kind named) fun _ => rfl
  | after =>
      obtain ⟨one, named, spells⟩ := spells.named
      obtain ⟨two, taken, spells⟩ := spells.operator
      cases Cursor.spells_nil.mp spells
      refine ⟨.update before.current.line .after operator before.current.line name, rfl, ?_⟩
      exact Rank.opens_of_head (Reader.reads_updateAfter named kind taken update)

theorem readsBack_single {word : Word} (single : expression.words spelling = [word])
    (tight : expression.rank = .access) (more : word.kind ≠ .endOfInput)
    (reads : ∀ {before after}, before.Takes word after → after.current.kind.isUpdate = false →
      ∃ read, read.erased = expression.erased ∧ Reader.ReadsHead before read after) :
    expression.ReadsBack spelling := by
  intro before after spells loose
  rw [single] at spells
  rw [tight] at loose ⊢
  obtain ⟨one, taken, spells⟩ := spells.cons more
  cases Cursor.spells_nil.mp spells
  have still : after.current.kind.isUpdate = false := by
    rw [Bool.eq_false_iff]
    intro update
    rw [TokenKind.binding_of_isUpdate update] at loose
    exact Nat.lt_irrefl _ loose
  obtain ⟨read, same, head⟩ := reads taken still
  exact ⟨read, same, Rank.opens_of_head head⟩

end Cases

/-- The words of every expression that the grammar knows open a reading of it. -/
theorem Shaped.readsBack (shaped : expression.Shaped) : expression.ReadsBack spelling := by
  induction shaped with
  | int line spelled =>
      exact readsBack_single rfl rfl nofun fun taken _ =>
        ⟨_, by rfl, Reader.reads_literal taken (.int (spelling.readInteger_int spelled))⟩
  | double line spelled =>
      exact readsBack_single rfl rfl nofun fun taken _ =>
        ⟨_, by rfl, Reader.reads_literal taken (.double (spelling.readDouble_double spelled))⟩
  | bool line value => exact readsBack_single rfl rfl nofun fun taken _ => ⟨_, by rfl, Reader.reads_bool taken⟩
  | string line raw => exact readsBack_single rfl rfl nofun fun taken _ => ⟨_, by rfl, Reader.reads_literal taken .string⟩
  | char line raw => exact readsBack_single rfl rfl nofun fun taken _ => ⟨_, by rfl, Reader.reads_literal taken .char⟩
  | null line => exact readsBack_single rfl rfl nofun fun taken _ => ⟨_, by rfl, Reader.reads_null taken⟩
  | name line kind =>
      apply readsBack_single rfl rfl (Word.named_ne_end _)
      intro before after named still
      rcases kind with identified | system
      · exact ⟨_, by rfl, Reader.reads_name named identified still⟩
      · exact ⟨_, by rfl, Reader.reads_system named system⟩
  | @binary line level left right operator ranked joins first second firstBack secondBack =>
      have node := readsBack_node ranked firstBack secondBack
      cases level with
      | comparison | sum | product => exact node
      | disjunction => exact absurd rfl joins.1
      | conjunction => exact absurd rfl joins.2
  | @logical line level left right operator ranked joins first second firstBack secondBack =>
      have node := readsBack_node ranked firstBack secondBack
      rcases joins with rfl | rfl
      all_goals exact node
  | unary line prefixed inner back => exact readsBack_unary line prefixed back
  | conditional line condition first second conditionBack firstBack secondBack =>
      exact readsBack_conditional line conditionBack firstBack secondBack
  | assign line targeted located evaluated targetBack valueBack =>
      exact readsBack_assign line targeted targetBack valueBack
  | compound line targeted combines located evaluated targetBack valueBack =>
      exact readsBack_compound line targeted combines targetBack valueBack
  | field line nameLine kind inner back => exact readsBack_field line nameLine kind back
  | index line container number objectBack positionBack => exact readsBack_index line objectBack positionBack
  | call line called passed calledBack passedBack => exact readsBack_call line calledBack passed passedBack
  | create line kind => exact readsBack_create line kind
  | newArray line typed solid sized back => exact readsBack_newArray line typed solid sized back
  | arrayOf line typed solid inner back => exact readsBack_arrayOf line typed solid inner back
  | update line nameLine form steps kind => exact readsBack_update line nameLine form steps kind

end Expr

/-- An expression that is printed is read back, and nothing behind it is taken. -/
theorem Reader.run_expression_of_spells {expression : Expr} {spelling : Spelling} {before after : Cursor}
    (shaped : expression.Shaped) (spells : before.Spells (expression.words spelling) after)
    (loose : after.current.kind.binding = 0) :
    ∃ read, Reader.expression.run before = .ok read after ∧ read.erased = expression.erased := by
  have low := (Rank.height_le expression.rank).1
  have below := Rank.height_le_limit expression.rank
  obtain ⟨read, same, opens⟩ := shaped.readsBack spells (by omega)
  have whole : Rank.assignment.Opens before read after := opens.descend low (by rw [loose]; decide)
  have reads : Rank.assignment.Reads before read after := whole.closed (by rw [loose]; decide)
  refine ⟨read, ?_, same⟩
  rw [Reader.expression, run_bind_of_ok run_get]
  exact reads.run (16 * before.rest.length + 16) (Nat.add_le_add_left (by decide) _)

/-- The kinds of tokens that end an expression. -/
def TokenKind.closers : List TokenKind :=
  [.symbol .semicolon, .symbol .rightParen, .symbol .rightBracket, .symbol .comma, .symbol .rightBrace,
    .symbol .colon, .endOfInput]

/-- What is printed of an expression, with parentheses only where an operand binds less tightly than its place asks
for, is read as the same expression, up to its last word and no further. -/
theorem Expr.reads_words {expression : Expr} {spelling : Spelling} {before after : Cursor}
    (shaped : expression.Shaped) (spells : before.Spells (expression.words spelling) after)
    (closed : after.current.kind ∈ TokenKind.closers) :
    ∃ read, Reader.expression.run before = .ok read after ∧ read.erased = expression.erased := by
  have loose : ∀ kind ∈ TokenKind.closers, kind.binding = 0 := by decide
  exact Reader.run_expression_of_spells shaped spells (loose _ closed)

/-- `a = (b + 1) * -c[0] < d ? e(a, --b).f : (a = b)`. -/
def Expr.sample : Expr :=
  .assign 1 (.name 1 "a") (.conditional 1
    (.binary 1 (.binary 1 (.binary 1 (.name 1 "b") "+" (.int 1 1)) "*" (.unary 1 "-" (.index 1 (.name 1 "c") (.int 1 0))))
      "<" (.name 1 "d"))
    (.field 1 (.call 1 (.name 1 "e") [.name 1 "a", .update 1 .before "--" 1 "b"]) 1 "f")
    (.assign 1 (.name 1 "a") (.name 1 "b")))

theorem Expr.shaped_sample : Expr.sample.Shaped := by
  have names : ∀ text ∈ ["a", "b", "c", "d", "e", "f"], (Word.named text).kind = .identifier := by decide
  have name : ∀ text ∈ ["a", "b", "c", "d", "e", "f"], (Expr.name 1 text).Shaped :=
    fun text member => .name 1 (.inl (names text member))
  have a := name "a" (by decide)
  have b := name "b" (by decide)
  have digit : ∀ text value, (Number.readInteger text).toOption = some value → (Expr.int 1 value).Shaped := by
    intro text value read
    refine Shaped.int 1 (?_ : Number.readInteger text = .ok value)
    cases outcome : Number.readInteger text with
    | error fault =>
        rw [outcome] at read
        cases read
    | ok found =>
        rw [outcome] at read
        cases read
        rfl
  have one := digit "1" 1 (by decide +kernel)
  have zero := digit "0" 0 (by decide +kernel)
  have sum : Level.ofOperator? "+" = some .sum := by decide
  have product : Level.ofOperator? "*" = some .product := by decide
  have comparison : Level.ofOperator? "<" = some .comparison := by decide
  have element : (Expr.index 1 (.name 1 "c") (.int 1 0)).Shaped := .index 1 (name "c" (by decide)) zero
  have factor : (Expr.binary 1 (.name 1 "b") "+" (.int 1 1)).Shaped := .binary 1 sum (by decide) b one
  have negated : (Expr.unary 1 "-" (.index 1 (.name 1 "c") (.int 1 0))).Shaped := .unary 1 (by decide) element
  have test := Shaped.binary 1 comparison (by decide) (.binary 1 product (by decide) factor negated)
    (name "d" (by decide))
  have passed : ∀ argument ∈ [Expr.name 1 "a", .update 1 .before "--" 1 "b"], argument.Shaped := by
    rw [List.forall_mem_cons, List.forall_mem_singleton]
    exact ⟨a, .update 1 1 .before (by decide) (by decide)⟩
  have called := Shaped.call 1 (name "e" (by decide)) passed
  have member := Shaped.field 1 1 (names "f" (by decide)) called
  exact .assign 1 rfl a (.conditional 1 test member (.assign 1 rfl a b))

def Expr.sampleWords (spelling : Spelling) : List Word :=
  [.named "a", .symbol .assign, .symbol .leftParen, .named "b", .symbol .plus,
    { kind := .integerLiteral, value := spelling.int 1 }, .symbol .rightParen, .symbol .star, .symbol .minus,
    .named "c", .symbol .leftBracket, { kind := .integerLiteral, value := spelling.int 0 }, .symbol .rightBracket,
    .symbol .less, .named "d", .symbol .question, .named "e", .symbol .leftParen, .named "a", .symbol .comma,
    .symbol .minusMinus, .named "b", .symbol .rightParen, .symbol .dot, .named "f", .symbol .colon,
    .symbol .leftParen, .named "a", .symbol .assign, .named "b", .symbol .rightParen]

theorem Expr.reads_sample :
    Expr.sample.Shaped ∧
      ∃ read, Reader.expression.run
          (.ofWords (.named "a") ((Expr.sampleWords .chosen).tail ++ [.symbol .semicolon])) =
          .ok read (.ofWords (.symbol .semicolon) []) ∧
        read.erased = Expr.sample.erased := by
  have spells : Cursor.Spells (.ofWords (.named "a") ((Expr.sampleWords .chosen).tail ++ [.symbol .semicolon]))
      (Expr.sample.words .chosen) (.ofWords (.symbol .semicolon) []) :=
    ⟨(Expr.sampleWords .chosen).map Word.token, rfl, rfl⟩
  exact ⟨Expr.shaped_sample, Expr.reads_words Expr.shaped_sample spells (by decide)⟩

end Stepwise
