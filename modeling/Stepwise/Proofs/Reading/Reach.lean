import Mathlib.Data.List.Infix
import Stepwise.Proofs.Printing
import Stepwise.Proofs.Reading.Course.Grammar

/-!
# How far reading goes

A list of tokens whose last one marks the end is read to an end of its own. On the way the cursor stands at places of
the list, goes forward only, and does not get behind the first token that marks an end; if the list is a program, this
is where the cursor is left. What is rejected at a place is rejected for the tokens up to there and four more: any other
list with the same tokens so far is rejected in the same way.
-/

namespace Stepwise

set_option autoImplicit false

namespace Cursor

/-- Where the cursor stands in a list that it goes through: how many tokens are before it. -/
def place (tokens : List Token) (cursor : Cursor) : Nat :=
  tokens.length - cursor.tokens.length

variable {cursor after start startOther : Cursor} {count : Nat} {tokens others : List Token}

theorem tokens_next {following : Cursor} (moved : cursor.next? = some following) :
    cursor.tokens = cursor.current :: following.tokens := by
  obtain ⟨current, rest⟩ := cursor
  cases rest <;> cases moved
  rfl

namespace Onward

theorem tokens_eq_drop (onward : Onward count cursor after) : after.tokens = cursor.tokens.drop count := by
  induction onward with
  | here cursor => rfl
  | step more moved onward hypothesis => rw [hypothesis, tokens_next moved, List.drop_succ_cons]

theorem findIdx_isEnd (onward : Onward count cursor after) :
    cursor.tokens.findIdx Token.isEnd = count + after.tokens.findIdx Token.isEnd := by
  induction onward with
  | here cursor => exact (Nat.zero_add _).symm
  | step more moved onward hypothesis =>
      rw [tokens_next moved, List.findIdx_cons, more, hypothesis]
      simp only [cond_false]
      omega

theorem place_eq (onward : Onward count cursor after) : after.place cursor.tokens = count := by
  have lengths := onward.length
  simp only [place, tokens, List.length_cons]
  omega

theorem place_le (onward : Onward count cursor after) : cursor.place tokens ≤ after.place tokens := by
  have lengths := onward.length
  simp only [place, Cursor.tokens, List.length_cons]
  omega

end Onward

theorem getElem?_tokens {distance : Nat} (near : distance < cursor.tokens.length) :
    cursor.tokens[distance]? = some (cursor.ahead distance) := by
  cases distance with
  | zero => rfl
  | succ distance =>
      have within : distance < cursor.rest.length := Nat.lt_of_succ_lt_succ near
      simp only [tokens, ahead, List.getElem?_cons_succ, List.getD_eq_getElem?_getD, List.getElem?_eq_getElem within,
        Option.getD_some]

end Cursor

/-- The first token that marks the end is the last one. -/
def Token.EndsOnce (tokens : List Token) : Prop :=
  tokens.findIdx Token.isEnd + 1 = tokens.length
deriving Decidable

namespace Token.EndsOnce

variable {tokens others : List Token}

/-- Nothing follows such tokens in other ones of the kind. -/
theorem eq_of_begins (ends : EndsOnce tokens) (endsOther : EndsOnce others) (begins : tokens <+: others) :
    tokens = others := by
  obtain ⟨more, rfl⟩ := begins
  unfold EndsOnce at ends endsOther
  rw [List.findIdx_append, if_pos (by omega), List.length_append] at endsOther
  have nothing : more = [] := List.eq_nil_of_length_eq_zero (by omega)
  rw [nothing, List.append_nil]

end Token.EndsOnce

namespace Token

def final : Token :=
  { kind := .endOfInput, value := "", line := 1, column := 1 }

/-- A keyword twice, some names behind it, and the end. -/
def doubled (names : Nat) : List Token :=
  [(Word.keyword .class_).token, (Word.keyword .class_).token] ++ List.replicate names (Word.named "x").token ++ [final]

/-- A class, then the end, and more behind it. -/
def severed : List Token :=
  [Word.keyword .class_, Word.named "A", Word.symbol .leftBrace, Word.symbol .rightBrace].map Word.token ++
    [final, (Word.keyword .class_).token, final]

end Token

namespace Program

variable {tokens others : List Token} {start startOther stop : Cursor}

theorem start?_eq_some (started : start? tokens = some start) : start.tokens = tokens ∧ start.Terminated := by
  cases tokens with
  | nil => cases started
  | cons first rest =>
      by_cases terminated : (rest.getLastD first).isEnd = true
      · have same : start? (first :: rest) = some { current := first, rest } := if_pos terminated
        cases same.symm.trans started
        exact ⟨rfl, terminated⟩
      · have none_ : start? (first :: rest) = none := if_neg terminated
        cases none_.symm.trans started

theorem exists_start? {last : Token} (final : tokens.getLast? = some last) (ended : last.isEnd = true) :
    ∃ start, start? tokens = some start := by
  cases tokens with
  | nil => cases final
  | cons first rest =>
      rw [List.getLast?_cons] at final
      have terminated : (rest.getLastD first).isEnd = true := by
        rw [List.getLastD_eq_getLast?, Option.some.inj final]
        exact ended
      exact ⟨_, if_pos terminated⟩

theorem exists_start?_of_endsOnce (ends : Token.EndsOnce tokens) : ∃ start, start? tokens = some start := by
  unfold Token.EndsOnce at ends
  have within : tokens.findIdx Token.isEnd < tokens.length := by omega
  have final : tokens.getLast? = some tokens[tokens.findIdx Token.isEnd] := by
    rw [List.getLast?_eq_getElem?, ← List.getElem?_eq_getElem within]
    congr 1
    omega
  exact exists_start? final (List.findIdx_getElem (w := within))

theorem ofTokens_eq (started : start? tokens = some start) :
    ofTokens tokens =
      match Reader.program.run start with
      | .ok program _ => .ok program
      | .error rejection _ => .error rejection := by
  unfold ofTokens
  split
  · next absent =>
      rw [started] at absent
      cases absent
  · next found =>
      rw [started] at found
      cases found
      rfl

/-- Lists that agree in the tokens up to a place and in four more look alike from their first tokens on. -/
theorem alike_of_begins {place : Nat} (ends : Token.EndsOnce tokens) (endsOther : Token.EndsOnce others)
    (started : start? tokens = some start) (startedOther : start? others = some startOther)
    (agree : tokens.take (place + 5) <+: others) : start.Alike place startOther := by
  obtain ⟨spelled, -⟩ := start?_eq_some started
  obtain ⟨spelledOther, -⟩ := start?_eq_some startedOther
  by_cases long : place + 5 ≤ tokens.length
  · intro distance near
    obtain ⟨more, rfl⟩ := agree
    have inside : distance < (tokens.take (place + 5)).length := by
      rw [List.length_take]
      omega
    have one : tokens[distance]? = some (start.ahead distance) := by
      rw [← start.getElem?_tokens (by rw [spelled]; omega), spelled]
    have two : (tokens.take (place + 5) ++ more)[distance]? = some (startOther.ahead distance) := by
      rw [← startOther.getElem?_tokens (by rw [spelledOther, List.length_append]; omega), spelledOther]
    rw [List.getElem?_append_left inside, List.getElem?_take_of_lt (by omega), one] at two
    exact Option.some.inj two
  · rw [List.take_of_length_le (by omega)] at agree
    cases ends.eq_of_begins endsOther agree
    rw [started] at startedOther
    cases startedOther
    exact .refl place start

/-- A rejection is local. If a list of tokens, of which only the last marks the end, is rejected while the cursor stands
at a place, then every other such list that agrees with it up to this place and in four tokens more (or in all of its
tokens, if there are fewer) is rejected at the same place with the same rejection. -/
theorem rejection_local {place : Nat} {rejection : Rejection} (ends : Token.EndsOnce tokens)
    (endsOther : Token.EndsOnce others) (started : start? tokens = some start)
    (rejected : Reader.program.run start = .error rejection stop) (stands : stop.tokens = tokens.drop place)
    (agree : tokens.take (place + 5) <+: others) :
    ofTokens tokens = .error rejection ∧ ofTokens others = .error rejection ∧
      ∃ startOther stopOther, start? others = some startOther ∧
        Reader.program.run startOther = .error rejection stopOther ∧ stopOther.tokens = others.drop place := by
  obtain ⟨startOther, startedOther⟩ := exists_start?_of_endsOnce endsOther
  obtain ⟨spelled, terminated⟩ := start?_eq_some started
  obtain ⟨spelledOther, terminatedOther⟩ := start?_eq_some startedOther
  have finished := Reader.not_exhausted (Reader.proceeds_program terminated.ready)
  obtain ⟨count, onward, echoes⟩ := Reader.local_program.echoed start terminated finished
  rw [rejected] at onward echoes
  have counted : count = place := by
    have lengths := congrArg List.length (onward.tokens_eq_drop.symm.trans stands)
    have some_ := List.length_pos_iff.mpr stop.tokens_ne_nil
    rw [stands, List.length_drop] at some_
    rw [spelled, List.length_drop, List.length_drop] at lengths
    omega
  subst counted
  obtain ⟨there, same⟩ := echoes startOther terminatedOther (alike_of_begins ends endsOther started startedOther agree)
  have ran := Reading.eq_error same
  refine ⟨?_, ?_, startOther, _, startedOther, ran, spelledOther ▸ there.tokens_eq_drop⟩
  · rw [ofTokens_eq started, rejected]
  · rw [ofTokens_eq startedOther, ran]

/-- The second keyword is the complaint, however many names follow. -/
theorem rejection_local_doubled :
    (Token.doubled 9).take (1 + 5) <+: Token.doubled 4 ∧
      ofTokens (Token.doubled 9) = .error (.malformed { complaint := .expected .className (some "class"), line := 1 }) ∧
      ofTokens (Token.doubled 4) = .error (.malformed { complaint := .expected .className (some "class"), line := 1 }) := by
  have agree : (Token.doubled 9).take (1 + 5) <+: Token.doubled 4 := by decide
  have stands : Cursor.tokens { current := (Word.keyword .class_).token, rest := (Token.doubled 9).drop 2 } =
      (Token.doubled 9).drop 1 := rfl
  obtain ⟨one, two, -⟩ := rejection_local (by decide) (by decide) rfl rfl stands agree
  exact ⟨agree, one, two⟩

end Program

namespace Reader

variable {cursor after start : Cursor}

/-- Classes are read up to a token that marks an end. -/
theorem isEnd_of_classes {fuel : Nat} {decls : List ClassDecl} (ended : (classes fuel).run cursor = .ok decls after) :
    after.current.isEnd = true := by
  induction fuel generalizing cursor decls with
  | zero => cases ended
  | succ fuel hypothesis =>
      rw [classes, run_bind_of_ok run_current] at ended
      split at ended
      · next final =>
          cases ended
          exact final
      · split at ended
        · obtain ⟨_, _, -, ended⟩ := run_bind_eq_ok ended
          obtain ⟨_, _, -, ended⟩ := run_bind_eq_ok ended
          exact hypothesis ended
        · obtain ⟨_, _, -, ended⟩ := run_bind_eq_ok ended
          rw [run_bind_of_ok run_current] at ended
          split at ended
          · cases ended
          · obtain ⟨_, _, -, ended⟩ := run_bind_eq_ok ended
            obtain ⟨_, _, others, ended⟩ := run_bind_eq_ok ended
            cases ended
            exact hypothesis others

theorem isEnd_of_program {read : Program} (ended : program.run cursor = .ok read after) : after.current.isEnd = true := by
  rw [program, run_bind_of_ok run_get] at ended
  obtain ⟨decls, _, classes, ended⟩ := run_bind_eq_ok ended
  cases ended
  exact isEnd_of_classes classes

end Reader

namespace Program

variable {tokens : List Token} {start : Cursor}

/-- Reading comes to an end, and the cursor stays inside the list. -/
structure Contained (tokens : List Token) (start : Cursor) : Prop where
  begins : start.tokens = tokens
  /-- The bounds on the depth are never too small, and larger ones make no difference. -/
  finishes : (Reader.program.run start).outcome ≠ .error .exhausted
  unbounded : ∀ fuel ≥ 4 * start.rest.length + 8,
    (Reader.classes fuel).run start = (Reader.classes (4 * start.rest.length + 8)).run start
  unboundedExpression : ∀ cursor : Cursor, cursor.Terminated → ∀ fuel ≥ 16 * cursor.rest.length + 16,
    (Reader.assignment fuel).run cursor = Reader.expression.run cursor
  /-- Wherever the cursor is, it stands at a place of the list, and at the first end at most. -/
  inside : ∀ cursor ∈ start :: Reader.program.trail start,
    cursor.tokens = tokens.drop (cursor.place tokens) ∧ cursor.place tokens ≤ tokens.findIdx Token.isEnd
  forward : (start :: Reader.program.trail start).Pairwise fun before after => before.place tokens ≤ after.place tokens
  complete : ∀ program after, Reader.program.run start = .ok program after →
    after.place tokens = tokens.findIdx Token.isEnd

theorem contained (started : start? tokens = some start) : Contained tokens start := by
  obtain ⟨spelled, terminated⟩ := start?_eq_some started
  have finished := Reader.not_exhausted (Reader.proceeds_program terminated.ready)
  have chain := Reader.local_program.forward start terminated
  have ordered : (start :: Reader.program.trail start).Pairwise Cursor.Further := List.isChain_iff_pairwise.mp chain
  subst spelled
  refine
    { begins := rfl
      finishes := finished
      unbounded := fun fuel le => ?_
      unboundedExpression := fun cursor ends fuel le => ?_
      inside := fun cursor member => ?_
      forward := ?_
      complete := fun program after ended => ?_ }
  · refine (Reader.local_classes le).run_eq terminated ?_
    exact Reader.not_exhausted (Reader.proceeds_classes _ start terminated.ready (by omega))
  · refine (Reader.localExpressions le).assignment.run_eq ends ?_
    exact Reader.not_exhausted ((Reader.proceedsExpressions _).assignment cursor ends.ready (by omega))
  · have reached : start.Further cursor := by
      cases member with
      | head => exact .refl start
      | tail _ later => exact (List.pairwise_cons.mp ordered).1 cursor later
    obtain ⟨count, onward⟩ := reached
    rw [onward.place_eq, onward.findIdx_isEnd]
    exact ⟨onward.tokens_eq_drop, Nat.le_add_right _ _⟩
  · exact ordered.imp fun ⟨_, onward⟩ => onward.place_le
  · obtain ⟨count, onward⟩ := Reader.local_program.further terminated
    rw [ended] at onward
    replace onward : Cursor.Onward count start after := onward
    have final : after.tokens.findIdx Token.isEnd = 0 := by
      rw [Cursor.tokens, List.findIdx_cons, Reader.isEnd_of_program ended]
      rfl
    rw [onward.findIdx_isEnd, final]
    exact onward.place_eq

/-- Tokens whose last one marks the end, whatever stands before it, are read from the first on, reading comes to an end,
and the cursor stays inside the list. -/
theorem reading_contained {last : Token} (final : tokens.getLast? = some last) (ended : last.isEnd = true) :
    ∃ start, start? tokens = some start ∧ Contained tokens start := by
  obtain ⟨start, started⟩ := exists_start? final ended
  exact ⟨start, started, contained started⟩

theorem severed_contained :
    Token.severed.findIdx Token.isEnd = 4 ∧ Token.severed.length = 7 ∧
      ∃ start, start? Token.severed = some start ∧ Contained Token.severed start :=
  ⟨rfl, rfl, @reading_contained Token.severed Token.final rfl rfl⟩

end Program

end Stepwise
