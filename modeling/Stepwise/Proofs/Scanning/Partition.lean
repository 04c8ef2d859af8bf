import Mathlib.Data.List.Infix
import Mathlib.Data.List.TakeWhile
import Stepwise.Proofs.Scanning

/-!
# How a source is parted into tokens

A source that has tokens is parted into gaps and the texts of its tokens, by turns, with nothing left over: a gap is
made of blanks, of comments up to the end of their line, and of comments that are closed. The text of a token is told
by its kind and value, and its place by the text before it, as the number of line breaks and the number of characters
since the last of them. A source without tokens has a complaint about one of its lines.
-/

namespace Stepwise

set_option autoImplicit false

/-- The place behind a text that begins a source: the line after as many line breaks as the text has, and the column
after as many characters as follow the last of them. -/
def Position.behind (text : List Char) : Position :=
  { line := 1 + text.count '\n', column := 1 + (text.reverse.takeWhile (· ≠ '\n')).length }

namespace Position

theorem behind_concat (text : List Char) (char : Char) : behind (text ++ [char]) = (behind text).next char := by
  by_cases broken : char = '\n'
  · subst broken
    simp [behind, next, Nat.add_assoc]
  · simp [behind, next, broken, Nat.add_comm]

theorem after_behind (before text : List Char) : (behind before).after text = behind (before ++ text) := by
  induction text generalizing before with
  | nil => rw [List.append_nil]; rfl
  | cons char text ih =>
      have moved : (behind before).after (char :: text) = ((behind before).next char).after text := rfl
      rw [moved, ← behind_concat, ih, List.append_assoc, List.singleton_append]

theorem line_after (position : Position) (text : List Char) :
    (position.after text).line = position.line + text.count '\n' := by
  induction text generalizing position with
  | nil => rfl
  | cons char text ih =>
      have moved : position.after (char :: text) = (position.next char).after text := rfl
      rw [moved, ih, List.count_cons, next]
      split
      · simp [*, Nat.add_comm, Nat.add_left_comm]
      · simp [*]

end Position

/-- A part of a source that holds no token, given what comes behind it. A comment that begins with two slashes goes on
up to the end of its line, the other kind up to the first mark that closes it. -/
inductive Gap (behind : List Char) : List Char → Prop
  | nothing : Gap behind []
  | blank {char : Char} {gap : List Char} (space : char ∈ [' ', '\t', '\r', '\x0c', '\n']) (more : Gap behind gap) :
      Gap behind (char :: gap)
  | lineComment {body gap : List Char} (inside : '\n' ∉ body)
      (ended : ∀ char ∈ (gap ++ behind).head?, char = '\n') (more : Gap behind gap) :
      Gap behind ('/' :: '/' :: (body ++ gap))
  | blockComment {body gap : List Char} (inside : ¬['*', '/'] <:+: body ++ ['*']) (more : Gap behind gap) :
      Gap behind ('/' :: '*' :: (body ++ '*' :: '/' :: gap))

def Token.position (token : Token) : Position :=
  { line := token.line, column := token.column }

/-- The texts that a token can have in a source. A long literal can end in a small letter as well. -/
def Token.IsWrittenAs (token : Token) (text : List Char) : Prop :=
  text = token.spelling ∨ token.kind = .longLiteral ∧ text = token.value.toList ++ ['l']

/-- How the text that comes behind another one is parted into tokens. -/
inductive Parted : List Char → List Char → List Token → Prop
  | ending {before gap : List Char} {last : Token} (blank : Gap [] gap) (kind : last.kind = .endOfInput)
      (value : last.value = "EOF") (placed : last.position = .behind (before ++ gap)) : Parted before gap [last]
  | token {before gap text rest : List Char} {token : Token} {tokens : List Token} (blank : Gap (text ++ rest) gap)
      (placed : token.position = .behind (before ++ gap)) (inner : token.isEnd = false)
      (written : token.IsWrittenAs text) (filled : text ≠ [])
      (others : Parted (before ++ gap ++ text) rest tokens) :
      Parted before (gap ++ text ++ rest) (token :: tokens)

namespace Scan

/-- A character that begins an operator or nothing, given what comes behind it. -/
structure BeginsSymbol (char : Char) (rest : List Char) : Prop where
  solid : isSpace char = false
  unnamed : isNameStart char = false
  unnumbered : Text.isDigit char = false
  unquoted : char ≠ '"' ∧ char ≠ '\''
  uncommented : char = '/' → rest.head? ≠ some '/' ∧ rest.head? ≠ some '*'

/-- What one step of the scanner can do at the beginning of a text. -/
inductive Steps (char : Char) (rest : List Char) : Piece → Nat → Prop
  | space (blank : isSpace char = true) : Steps char rest .gap 1
  | lineComment {behind : List Char} (slash : char = '/') (begins : rest = '/' :: behind) :
      Steps char rest .gap (2 + (behind.takeWhile (· ≠ '\n')).length)
  | blockComment {behind : List Char} {length : Nat} (slash : char = '/') (begins : rest = '*' :: behind)
      (closed : commentLength? behind = some length) : Steps char rest .gap (2 + length)
  | name {piece : Piece} {length : Nat} (start : isNameStart char = true)
      (taken : nameToken (char :: rest) = (piece, length)) : Steps char rest piece length
  | number {piece : Piece} {length : Nat} (unnamed : isNameStart char = false) (digit : Text.isDigit char = true)
      (taken : numberToken (char :: rest) = (piece, length)) : Steps char rest piece length
  | string {body : List Char} (quote : char = '"') (closed : stringBody? rest = some body) :
      Steps char rest (.token .stringLiteral (String.ofList body)) (body.length + 2)
  | char {body : List Char} (quote : char = '\'') (closed : charBody rest = .ok body) :
      Steps char rest (.token .charLiteral (String.ofList body)) (body.length + 2)
  | symbol {piece : Piece} {length : Nat} (begins : BeginsSymbol char rest)
      (taken : symbolToken char rest = .ok (piece, length)) : Steps char rest piece length

theorem steps_of_piece {char : Char} {rest : List Char} {found : Piece} {length : Nat}
    (taken : piece char rest = .ok (found, length)) : Steps char rest found length := by
  unfold piece at taken
  split at taken
  · next blank =>
      cases taken
      exact .space blank
  next solid =>
  split at taken
  · next commented =>
      simp only [Bool.and_eq_true, decide_eq_true_eq] at commented
      obtain ⟨behind, rfl⟩ := List.head?_eq_some_iff.mp commented.2
      rw [List.takeWhile_cons_of_pos (by decide), List.length_cons] at taken
      cases taken
      rw [show 1 + ((behind.takeWhile (· ≠ '\n')).length + 1) = 2 + (behind.takeWhile (· ≠ '\n')).length by omega]
      exact .lineComment commented.1 rfl
  next unlined =>
  split at taken
  · next commented =>
      simp only [Bool.and_eq_true, decide_eq_true_eq] at commented
      obtain ⟨behind, rfl⟩ := List.head?_eq_some_iff.mp commented.2
      split at taken
      · next length closed =>
          cases taken
          exact .blockComment commented.1 rfl closed
      · cases taken
  next unblocked =>
  split at taken
  · next start => exact .name start (Except.ok.inj taken)
  next unnamed =>
  split at taken
  · next digit => exact .number (by simpa using unnamed) digit (Except.ok.inj taken)
  next unnumbered =>
  split at taken
  · next quote =>
      split at taken
      · next body closed =>
          cases taken
          exact .string quote closed
      · cases taken
  next unquoted =>
  split at taken
  · next quote =>
      split at taken
      · next body closed =>
          cases taken
          exact .char quote closed
      · cases taken
  next plain =>
  simp only [Bool.and_eq_true, decide_eq_true_eq, not_and] at unlined unblocked
  refine .symbol ⟨?_, ?_, ?_, ⟨unquoted, plain⟩, fun slash => ⟨unlined slash, unblocked slash⟩⟩ taken
  · simpa using solid
  · simpa using unnamed
  · simpa using unnumbered

theorem numeral_prefix (chars : List Char) : (numeral chars).1 <+: chars := by
  unfold numeral
  dsimp only
  split
  · next rest behind =>
      have whole := List.takeWhile_append_dropWhile (p := Text.isDigit) (l := chars)
      rw [behind] at whole
      refine ⟨rest.dropWhile Text.isDigit, ?_⟩
      rw [List.append_assoc, List.cons_append, List.takeWhile_append_dropWhile, whole]
  · exact List.takeWhile_prefix _

theorem numeral_ne_nil {char : Char} (rest : List Char) (digit : Text.isDigit char = true) :
    (numeral (char :: rest)).1 ≠ [] := by
  unfold numeral
  dsimp only
  split
  all_goals simp [digit]

theorem concat_prefix_of_drop {text chars rest : List Char} {char : Char} (begins : text <+: chars)
    (behind : chars.drop text.length = char :: rest) : text ++ [char] <+: chars := by
  refine ⟨rest, ?_⟩
  rw [List.append_assoc, List.singleton_append, ← behind]
  exact (List.prefix_append_drop begins).symm

theorem stringBody?_prefix {chars body : List Char} (found : stringBody? chars = some body) :
    body ++ ['"'] <+: chars := by
  fun_induction stringBody? chars generalizing body with
  | case1 => cases found
  | case2 rest =>
      cases found
      exact ⟨rest, rfl⟩
  | case3 char rest ih =>
      obtain ⟨inner, foundInner, rfl⟩ := Option.map_eq_some_iff.mp found
      exact List.prefix_cons_inj '\\' |>.mpr (List.prefix_cons_inj char |>.mpr (ih foundInner))
  | case4 char rest _ _ ih =>
      obtain ⟨inner, foundInner, rfl⟩ := Option.map_eq_some_iff.mp found
      exact List.prefix_cons_inj char |>.mpr (ih foundInner)

theorem charBody_prefix {chars body : List Char} (found : charBody chars = .ok body) : body ++ ['\''] <+: chars := by
  unfold charBody at found
  split at found
  case h_4 char rest =>
    cases found
    exact ⟨rest, rfl⟩
  case h_6 char rest _ _ _ _ =>
    cases found
    exact ⟨rest, rfl⟩
  all_goals cases found

theorem chars_of_ofChars? {chars : List Char} {symbol : Symbol} (found : Symbol.ofChars? chars = some symbol) :
    symbol.spelling.toList = chars := by
  have spelled := List.find?_some found
  exact of_decide_eq_true spelled

structure Takes (chars : List Char) (kind : TokenKind) (value : String) (length : Nat) (text : List Char) : Prop where
  begins : text <+: chars
  length_eq : text.length = length
  ne_nil : text ≠ []
  inner : kind ≠ .endOfInput
  written : ∀ line column, Token.IsWrittenAs { kind, value, line, column } text

theorem takes_nameToken {char : Char} {rest : List Char} {kind : TokenKind} {value : String} {length : Nat}
    (start : isNameStart char = true) (taken : nameToken (char :: rest) = (.token kind value, length)) :
    ∃ text, Takes (char :: rest) kind value length text := by
  have part : isNamePart char = true := by
    simp only [isNameStart, isNamePart, Bool.or_eq_true] at start ⊢
    exact start.imp_left (Text.isNameChar_of_isLetter char)
  have filled : (char :: rest).takeWhile isNamePart ≠ [] := by simp [part]
  unfold nameToken at taken
  dsimp only at taken
  split at taken
  all_goals
    cases taken
    exact ⟨_, List.takeWhile_prefix _, rfl, filled, nofun, fun _ _ => .inl String.toList_ofList.symm⟩

theorem takes_numberToken {char : Char} {rest : List Char} {kind : TokenKind} {value : String} {length : Nat}
    (digit : Text.isDigit char = true) (taken : numberToken (char :: rest) = (.token kind value, length)) :
    ∃ text, Takes (char :: rest) kind value length text := by
  have begins := numeral_prefix (char :: rest)
  have filled := numeral_ne_nil rest digit
  unfold numberToken at taken
  dsimp only at taken
  generalize (numeral (char :: rest)).1 = digits at taken begins filled
  split at taken
  · cases taken
    exact ⟨digits, begins, rfl, filled, nofun, fun _ _ => .inl String.toList_ofList.symm⟩
  · split at taken
    · next behind =>
        cases taken
        refine ⟨digits ++ ['L'], concat_prefix_of_drop begins behind, by simp, by simp, nofun, fun _ _ => .inl ?_⟩
        simp only [Token.spelling, String.toList_ofList]
    · next behind =>
        cases taken
        refine ⟨digits ++ ['l'], concat_prefix_of_drop begins behind, by simp, by simp, nofun,
          fun _ _ => .inr ⟨rfl, ?_⟩⟩
        rw [String.toList_ofList]
    · cases taken
      exact ⟨digits, begins, rfl, filled, nofun, fun _ _ => .inl String.toList_ofList.symm⟩

theorem takes_symbolToken {char : Char} {rest : List Char} {kind : TokenKind} {value : String} {length : Nat}
    (taken : symbolToken char rest = .ok (.token kind value, length)) :
    ∃ text, Takes (char :: rest) kind value length text := by
  unfold symbolToken at taken
  split at taken
  · next symbol found =>
      have spelled := chars_of_ofChars? found
      cases taken
      refine ⟨symbol.spelling.toList, ?_, rfl, ?_, nofun, fun _ _ => .inl rfl⟩
      · rw [spelled]
        exact List.prefix_cons_inj char |>.mpr (List.take_prefix 1 rest)
      · rw [spelled]
        exact List.cons_ne_nil _ _
  · split at taken
    · next symbol found =>
        have spelled := chars_of_ofChars? found
        cases taken
        refine ⟨symbol.spelling.toList, ?_, ?_, ?_, nofun, fun _ _ => .inl rfl⟩
        all_goals rw [spelled]
        · exact ⟨rest, rfl⟩
        · rfl
        · exact List.cons_ne_nil _ _
    · cases taken

/-- A step that takes a token takes one of the texts that the token can have. -/
theorem takes_of_steps {char : Char} {rest : List Char} {kind : TokenKind} {value : String} {length : Nat}
    (steps : Steps char rest (.token kind value) length) : ∃ text, Takes (char :: rest) kind value length text := by
  cases steps with
  | name start taken => exact takes_nameToken start taken
  | number _ digit taken => exact takes_numberToken digit taken
  | symbol _ taken => exact takes_symbolToken taken
  | @string body quote closed =>
      have begins := stringBody?_prefix closed
      refine ⟨'"' :: (body ++ ['"']), ?_, by simp, List.cons_ne_nil _ _, nofun, fun _ _ => .inl ?_⟩
      · rw [quote]
        exact List.prefix_cons_inj '"' |>.mpr begins
      · simp only [Token.spelling, String.toList_ofList]
  | @char body quote closed =>
      have begins := charBody_prefix closed
      refine ⟨'\'' :: (body ++ ['\'']), ?_, by simp, List.cons_ne_nil _ _, nofun, fun _ _ => .inl ?_⟩
      · rw [quote]
        exact List.prefix_cons_inj '\'' |>.mpr begins
      · simp only [Token.spelling, String.toList_ofList]

theorem commentLength?_eq_some {chars : List Char} {length : Nat} (closed : commentLength? chars = some length) :
    ∃ body rest, chars = body ++ '*' :: '/' :: rest ∧ length = body.length + 2 ∧ ¬['*', '/'] <:+: body ++ ['*'] := by
  fun_induction commentLength? chars generalizing length with
  | case1 rest =>
      cases closed
      exact ⟨[], rest, rfl, rfl, by decide⟩
  | case2 char rest other ih =>
      obtain ⟨inner, closedInner, rfl⟩ := Option.map_eq_some_iff.mp closed
      obtain ⟨body, behind, rfl, rfl, inside⟩ := ih closedInner
      refine ⟨char :: body, behind, rfl, rfl, ?_⟩
      intro early
      rcases List.infix_cons_iff.mp early with first | later
      · -- The mark would stand at the beginning, where the first form of the definition applies.
        obtain ⟨same, next⟩ := List.cons_prefix_cons.mp first
        cases body with
        | nil => exact absurd next (by decide)
        | cons second body =>
            obtain ⟨slash, -⟩ := List.cons_prefix_cons.mp next
            exact other _ same.symm (by rw [← slash]; rfl)
      · exact inside later
  | case3 => cases closed

/-- A comment up to the end of its line leaves nothing of the line behind. -/
theorem takeWhile_drop_line (chars : List Char) :
    ∃ body behind, chars = body ++ behind ∧ chars.takeWhile (· ≠ '\n') = body ∧ '\n' ∉ body ∧
      ∀ char ∈ behind.head?, char = '\n' := by
  refine ⟨chars.takeWhile (· ≠ '\n'), chars.dropWhile (· ≠ '\n'), List.takeWhile_append_dropWhile.symm, rfl, ?_, ?_⟩
  · intro inside
    have other := List.mem_takeWhile_imp inside
    simp at other
  · intro char first
    have stopped := List.head?_dropWhile_not (· ≠ '\n') chars
    rw [first] at stopped
    simpa using stopped

theorem gap_of_steps {char : Char} {rest gap behind : List Char} {length : Nat} (steps : Steps char rest .gap length)
    (goes : gap ++ behind = rest.drop (length - 1)) (more : Gap behind gap) :
    Gap behind (char :: rest.take (length - 1) ++ gap) := by
  cases steps with
  | space blank =>
      refine .blank ?_ more
      simpa [isSpace, or_assoc] using blank
  | @lineComment chars slash begins =>
      obtain ⟨body, line, rfl, whole, inside, ended⟩ := takeWhile_drop_line chars
      have shorter : 2 + body.length - 1 = body.length + 1 := by omega
      rw [whole, begins, shorter, List.drop_succ_cons, List.drop_left] at goes
      rw [whole, begins, shorter, List.take_succ_cons, List.take_left, slash]
      refine .lineComment inside ?_ more
      rw [goes]
      exact ended
  | @blockComment chars number slash begins closed =>
      obtain ⟨body, after, rfl, rfl, inside⟩ := commentLength?_eq_some closed
      have shorter : 2 + (body.length + 2) - 1 = (body ++ ['*', '/']).length + 1 := by simp; omega
      rw [show body ++ '*' :: '/' :: after = (body ++ ['*', '/']) ++ after by simp] at begins
      rw [begins, shorter, List.take_succ_cons, List.take_left, slash]
      have joined : '/' :: '*' :: (body ++ ['*', '/']) ++ gap = '/' :: '*' :: (body ++ '*' :: '/' :: gap) := by simp
      rw [joined]
      exact .blockComment inside more
  | name _ taken =>
      unfold nameToken at taken
      cases taken
  | number _ _ taken =>
      unfold numberToken at taken
      dsimp only at taken
      split at taken
      · cases taken
      · split at taken <;> cases taken
  | symbol _ taken =>
      unfold symbolToken at taken
      split at taken
      · cases taken
      · split at taken <;> cases taken

end Scan

theorem Parted.widened {before taken rest : List Char} {tokens : List Token} (parted : Parted (before ++ taken) rest tokens)
    (joins : ∀ gap behind, gap ++ behind = rest → Gap behind gap → Gap behind (taken ++ gap)) :
    Parted before (taken ++ rest) tokens := by
  cases parted with
  | ending blank kind value placed =>
      rw [List.append_assoc] at placed
      exact .ending (joins rest [] (List.append_nil rest) blank) kind value placed
  | @token _ gap text rest token tokens blank placed inner written filled others =>
      rw [List.append_assoc] at placed
      rw [List.append_assoc before taken gap] at others
      rw [List.append_assoc, ← List.append_assoc taken, ← List.append_assoc]
      exact .token (joins gap (text ++ rest) (by simp) blank) placed inner written filled others

theorem parted_tokensFrom {position : Position} {before chars : List Char} {tokens : List Token}
    (scanned : Scan.tokensFrom position chars = .ok tokens) (here : position = .behind before) :
    Parted before chars tokens := by
  fun_induction Scan.tokensFrom position chars generalizing before tokens with
  | case1 position =>
      cases scanned
      rw [here]
      exact .ending .nothing rfl rfl (by rw [List.append_nil]; rfl)
  | case2 => cases scanned
  | case3 => cases scanned
  | case4 position char rest length taken others scannedOthers stepped =>
      rename_i ih
      cases scanned
      have steps := Scan.steps_of_piece stepped
      have further : Parted (before ++ taken) _ _ := ih scannedOthers (by rw [here, Position.after_behind])
      rw [show char :: rest = taken ++ rest.drop (length - 1) by simp [taken]]
      exact further.widened fun gap behind goes more => Scan.gap_of_steps steps goes more
  | case5 position char rest length taken others scannedOthers kind value stepped =>
      rename_i ih
      cases scanned
      obtain ⟨text, takes⟩ := Scan.takes_of_steps (Scan.steps_of_piece stepped)
      have whole : taken = text := by
        have cut := List.prefix_iff_eq_take.mp takes.begins
        have filled := List.length_pos_of_ne_nil takes.ne_nil
        rw [takes.length_eq] at cut filled
        rw [cut, List.take_cons filled]
      have further : Parted (before ++ taken) _ _ := ih scannedOthers (by rw [here, Position.after_behind])
      rw [show char :: rest = [] ++ taken ++ rest.drop (length - 1) by simp [taken], whole]
      rw [whole] at further
      refine .token .nothing ?_ (decide_eq_false takes.inner) (takes.written _ _) takes.ne_nil ?_
      · rw [here, List.append_nil]
        rfl
      · rw [List.append_nil]
        exact further

/-- Every token stands behind some text that begins the source. -/
theorem Parted.place {before text : List Char} {tokens : List Token} (parted : Parted before text tokens) :
    ∀ token ∈ tokens, ∃ passed, passed <+: text ∧ token.position = .behind (before ++ passed) := by
  induction parted with
  | @ending before gap last _ _ _ placed =>
      exact List.forall_mem_singleton.mpr ⟨gap, List.prefix_rfl, placed⟩
  | @token before gap text rest token tokens _ placed _ _ _ _ ih =>
      refine List.forall_mem_cons.mpr ⟨⟨gap, ⟨text ++ rest, by simp⟩, placed⟩, ?_⟩
      intro other member
      obtain ⟨passed, begins, stands⟩ := ih other member
      refine ⟨gap ++ text ++ passed, List.prefix_append_right_inj _ |>.mpr begins, ?_⟩
      simpa only [List.append_assoc] using stands

namespace Scan

theorem isLexical_of_charBody {chars : List Char} {complaint : Complaint} (failed : charBody chars = .error complaint) :
    complaint.isLexical = true := by
  unfold charBody at failed
  split at failed
  all_goals cases failed
  all_goals rfl

theorem isLexical_of_symbolToken {char : Char} {rest : List Char} {complaint : Complaint}
    (failed : symbolToken char rest = .error complaint) : complaint.isLexical = true := by
  unfold symbolToken at failed
  split at failed
  · cases failed
  · split at failed
    · cases failed
    · cases failed
      rfl

/-- A step that fails makes a complaint of the scanner. -/
theorem isLexical_of_piece {char : Char} {rest : List Char} {complaint : Complaint}
    (failed : piece char rest = .error complaint) : complaint.isLexical = true := by
  unfold piece at failed
  split at failed
  · cases failed
  · split at failed
    · cases failed
    · split at failed
      · split at failed
        · cases failed
        · cases failed
          rfl
      · split at failed
        · cases failed
        · split at failed
          · cases failed
          · split at failed
            · split at failed
              · cases failed
              · cases failed
                rfl
            · split at failed
              · split at failed
                · cases failed
                · next found =>
                    cases failed
                    exact isLexical_of_charBody found
              · exact isLexical_of_symbolToken failed

end Scan

/-- A complaint of the scanner is about a line that the text has. -/
theorem lexical_of_tokensFrom {position : Position} {chars : List Char} {error : SourceError}
    (failed : Scan.tokensFrom position chars = .error error) :
    error.complaint.isLexical = true ∧ position.line ≤ error.line ∧ error.line ≤ position.line + chars.count '\n' := by
  fun_induction Scan.tokensFrom position chars with
  | case1 => cases failed
  | case2 position char rest complaint stepped =>
      cases failed
      exact ⟨Scan.isLexical_of_piece stepped, Nat.le_refl _, Nat.le_add_right _ _⟩
  | case3 position char rest found length stepped taken cause failedOthers ih =>
      cases failed
      obtain ⟨lexical, lower, upper⟩ := ih failedOthers
      have passed : (char :: rest).count '\n' = taken.count '\n' + (rest.drop (length - 1)).count '\n' := by
        rw [← List.count_append]
        simp [taken]
      rw [Position.line_after] at lower upper
      exact ⟨lexical, by omega, by omega⟩
  | case4 => cases failed
  | case5 => cases failed

/-- The lines of a source are counted from one, and every line break begins another. -/
def lineCount (source : String) : Nat :=
  1 + source.toList.count '\n'

/-- A source is parted into the texts of its tokens and the gaps around them, or it has a complaint about one of its
lines. -/
theorem scan_parts (source : String) :
    match scan source with
    | .error error => error.complaint.isLexical = true ∧ 1 ≤ error.line ∧ error.line ≤ lineCount source
    | .ok tokens => Parted [] source.toList tokens := by
  cases scanned : scan source with
  | error error => exact lexical_of_tokensFrom scanned
  | ok tokens => exact parted_tokensFrom scanned rfl

/-- Two tokens and the end, with blanks and a line break between them. -/
theorem broken_increment_parted :
    ∃ tokens, scan "x  \n ++" = .ok tokens ∧ tokens.length = 3 ∧ Parted [] "x  \n ++".toList tokens := by
  have parts := scan_parts "x  \n ++"
  have counted : (scan "x  \n ++").map List.length = .ok 3 := by decide +kernel
  cases scanned : scan "x  \n ++" with
  | error error =>
      rw [scanned] at counted
      cases counted
  | ok tokens =>
      rw [scanned] at parts counted
      exact ⟨tokens, rfl, Except.ok.inj counted, parts⟩

end Stepwise
