import Stepwise.Proofs.Printing
import Stepwise.Proofs.Scanning.Partition

/-!
# Written tokens are scanned as they were

The tokens of a source, written one after another with a space between each two, are scanned as the same kinds with the
same values. For each token it is enough that its text stands for it in front of a space and at the end of the input:
the characters that ended the token in the source may have been others, but neither end can prolong a name or a
numeral, complete a longer symbol or open a comment.
-/

namespace Stepwise

set_option autoImplicit false

/-- The texts of tokens with a space between each two. The token that marks the end has no text. -/
def Token.spaced (tokens : List Token) : List Char :=
  [' '].intercalate ((tokens.filter fun token => !token.isEnd).map Token.spelling)

namespace Scan

/-- Nothing, or a text that a space begins. -/
def Apart (behind : List Char) : Prop :=
  ∀ char ∈ behind.head?, char = ' '

/-- The text of the token, set apart from what comes behind it, is taken for the token. -/
def Stands (token : Token) : Prop :=
  ∃ first others, token.spelling = first :: others ∧
    ∀ behind, Apart behind →
      piece first (others ++ behind) = .ok (.token token.kind token.value, others.length + 1)

theorem apart_nil : Apart [] := nofun

theorem apart_space (rest : List Char) : Apart (' ' :: rest) := by
  intro char first
  exact (Option.some.inj first).symm

theorem takeWhile_run {test : Char → Bool} {run behind : List Char} (all : ∀ char ∈ run, test char = true)
    (ends : ∀ char ∈ behind.head?, test char = false) :
    (run ++ behind).takeWhile test = run ∧ (run ++ behind).dropWhile test = behind := by
  rw [List.takeWhile_append_of_pos all, List.dropWhile_append_of_pos all]
  cases behind with
  | nil => exact ⟨List.append_nil run, rfl⟩
  | cons char rest =>
      have other : ¬test char = true := by
        rw [ends char rfl]
        exact Bool.false_ne_true
      exact ⟨by rw [List.takeWhile_cons_of_neg other, List.append_nil], List.dropWhile_cons_of_neg other⟩

/-- What no space passes does not go on behind a text that is set apart. -/
theorem Apart.ends {behind : List Char} (apart : Apart behind) {test : Char → Bool} (space : test ' ' = false) :
    ∀ char ∈ behind.head?, test char = false := by
  intro char first
  rw [apart char first]
  exact space

theorem not_isNameStart_of_isSpace {char : Char} (blank : isSpace char = true) : isNameStart char = false := by
  simp only [isSpace, Bool.or_eq_true, decide_eq_true_eq] at blank
  rcases blank with (((rfl | rfl) | rfl) | rfl) | rfl
  all_goals decide

theorem not_isDigit_of_isSpace {char : Char} (blank : isSpace char = true) : Text.isDigit char = false := by
  simp only [isSpace, Bool.or_eq_true, decide_eq_true_eq] at blank
  rcases blank with (((rfl | rfl) | rfl) | rfl) | rfl
  all_goals decide

theorem piece_name {char : Char} (rest : List Char) (start : isNameStart char = true) :
    piece char rest = .ok (nameToken (char :: rest)) := by
  have solid : isSpace char = false := by
    by_contra blank
    rw [not_isNameStart_of_isSpace (by simpa using blank)] at start
    cases start
  have other : char ≠ '/' := by
    rintro rfl
    revert start
    decide
  simp [piece, solid, other, start]

theorem piece_number {char : Char} (rest : List Char) (unnamed : isNameStart char = false)
    (digit : Text.isDigit char = true) : piece char rest = .ok (numberToken (char :: rest)) := by
  have solid : isSpace char = false := by
    by_contra blank
    rw [not_isDigit_of_isSpace (by simpa using blank)] at digit
    cases digit
  have other : char ≠ '/' := by
    rintro rfl
    revert digit
    decide
  simp [piece, solid, other, unnamed, digit]

theorem piece_string {rest body : List Char} (closed : stringBody? rest = some body) :
    piece '"' rest = .ok (.token .stringLiteral (String.ofList body), body.length + 2) := by
  unfold piece
  rw [closed]
  rfl

theorem piece_char {rest body : List Char} (closed : charBody rest = .ok body) :
    piece '\'' rest = .ok (.token .charLiteral (String.ofList body), body.length + 2) := by
  unfold piece
  rw [closed]
  rfl

theorem ofChars?_space (char : Char) : Symbol.ofChars? [char, ' '] = none := by
  have solid : ∀ symbol : Symbol, ' ' ∉ symbol.spelling.toList := by
    intro symbol
    cases symbol <;> decide
  refine List.find?_eq_none.mpr fun symbol _ same => solid symbol ?_
  rw [of_decide_eq_true same]
  simp

theorem piece_symbol {char : Char} {rest : List Char} (begins : BeginsSymbol char rest) :
    piece char rest = symbolToken char rest := by
  have unlined : (decide (char = '/') && decide (rest.head? = some '/')) = false := by
    simpa using fun slash => (begins.uncommented slash).1
  have unblocked : (decide (char = '/') && decide (rest.head? = some '*')) = false := by
    simpa using fun slash => (begins.uncommented slash).2
  simp [piece, begins.solid, begins.unnamed, begins.unnumbered, begins.unquoted, unlined, unblocked]

/-- A space in place of what came behind a symbol opens no comment. -/
theorem BeginsSymbol.apart {char : Char} {rest others behind : List Char} (begins : BeginsSymbol char rest)
    (kept : others <+: rest) (apart : Apart behind) : BeginsSymbol char (others ++ behind) := by
  refine { begins with uncommented := fun slash => ?_ }
  cases others with
  | nil =>
      constructor
      all_goals
        intro found
        cases apart _ found
  | cons other others =>
      obtain ⟨more, rfl⟩ := kept
      exact begins.uncommented slash

/-- A symbol is scanned again in front of a space, which completes no longer one. -/
theorem symbolToken_apart {char : Char} {others behind : List Char} {symbol : Symbol}
    (found : Symbol.ofChars? (char :: others) = some symbol) (short : others.length ≤ 1) (apart : Apart behind) :
    symbolToken char (others ++ behind) = .ok (.token (.symbol symbol) symbol.spelling, others.length + 1) := by
  have spelled := chars_of_ofChars? found
  have length_eq : symbol.spelling.length = others.length + 1 := by
    rw [← String.length_toList, spelled, List.length_cons]
  unfold symbolToken
  match others, behind, apart with
  | [], [], _ =>
      simp [found, length_eq]
  | [], space :: rest, apart =>
      have same : space = ' ' := apart space rfl
      simp [same, ofChars?_space, found]
  | [other], behind, _ =>
      simp [found, length_eq]

theorem stands_symbol {char : Char} {rest : List Char} {kind : TokenKind} {value : String} {length : Nat}
    (begins : BeginsSymbol char rest) (taken : symbolToken char rest = .ok (.token kind value, length))
    (line column : Nat) : Stands { kind, value, line, column } := by
  have stands : ∀ (others : List Char) (symbol : Symbol), others <+: rest → others.length ≤ 1 →
      Symbol.ofChars? (char :: others) = some symbol →
      Stands { kind := .symbol symbol, value := symbol.spelling, line, column } := by
    intro others symbol kept short found
    refine ⟨char, others, chars_of_ofChars? found, fun behind apart => ?_⟩
    rw [piece_symbol (begins.apart kept apart)]
    exact symbolToken_apart found short apart
  unfold symbolToken at taken
  split at taken
  · next symbol found =>
      cases taken
      exact stands (rest.take 1) symbol (List.take_prefix 1 rest) (List.length_take_le 1 rest) found
  · split at taken
    · next symbol found =>
        cases taken
        exact stands [] symbol List.nil_prefix (by simp) found
    · cases taken

theorem stands_name {char : Char} {rest : List Char} {kind : TokenKind} {value : String} {length : Nat}
    (start : isNameStart char = true) (taken : nameToken (char :: rest) = (.token kind value, length))
    (line column : Nat) : Stands { kind, value, line, column } := by
  have part : isNamePart char = true := by
    simp only [isNameStart, isNamePart, Bool.or_eq_true] at start ⊢
    exact start.imp_left (Text.isNameChar_of_isLetter char)
  have word : ∀ other ∈ char :: rest.takeWhile isNamePart, isNamePart other = true :=
    List.forall_mem_cons.mpr ⟨part, fun _ member => List.mem_takeWhile_imp member⟩
  have whole : (char :: rest).takeWhile isNamePart = char :: rest.takeWhile isNamePart :=
    List.takeWhile_cons_of_pos part
  have again : ∀ behind, Apart behind →
      nameToken (char :: (rest.takeWhile isNamePart ++ behind)) = nameToken (char :: rest) := by
    intro behind apart
    have run := (takeWhile_run word (apart.ends (by decide))).1
    unfold nameToken
    rw [← List.cons_append, run, whole]
  refine ⟨char, rest.takeWhile isNamePart, ?_, ?_⟩
  · unfold nameToken at taken
    rw [whole] at taken
    dsimp only at taken
    split at taken
    all_goals
      cases taken
      exact String.toList_ofList
  · intro behind apart
    rw [piece_name _ start, again behind apart, taken]
    unfold nameToken at taken
    rw [whole] at taken
    cases taken
    rfl

theorem numeral_cases (chars : List Char) :
    numeral chars = (chars.takeWhile Text.isDigit, false) ∨
      ∃ fraction, (∀ char ∈ fraction, Text.isDigit char = true) ∧
        numeral chars = (chars.takeWhile Text.isDigit ++ '.' :: fraction, true) := by
  unfold numeral
  dsimp only
  split
  · exact .inr ⟨_, fun _ member => List.mem_takeWhile_imp member, rfl⟩
  · exact .inl rfl

theorem numeral_whole {whole behind : List Char} (digits : ∀ char ∈ whole, Text.isDigit char = true)
    (ends : ∀ char ∈ behind.head?, Text.isDigit char = false ∧ char ≠ '.') :
    numeral (whole ++ behind) = (whole, false) := by
  obtain ⟨taken, dropped⟩ := takeWhile_run digits fun char first => (ends char first).1
  unfold numeral
  rw [taken, dropped]
  dsimp only
  split
  · exact absurd rfl (ends '.' rfl).2
  · rfl

theorem numeral_fraction {whole fraction behind : List Char} (digits : ∀ char ∈ whole, Text.isDigit char = true)
    (more : ∀ char ∈ fraction, Text.isDigit char = true) (ends : ∀ char ∈ behind.head?, Text.isDigit char = false) :
    numeral (whole ++ '.' :: (fraction ++ behind)) = (whole ++ '.' :: fraction, true) := by
  have point : ∀ char ∈ ('.' :: (fraction ++ behind)).head?, Text.isDigit char = false := by
    rintro char ⟨⟩
    decide
  obtain ⟨taken, dropped⟩ := takeWhile_run digits point
  unfold numeral
  rw [taken, dropped]
  simp only [(takeWhile_run more ends).1]

theorem numberToken_integer {whole behind : List Char} (digits : ∀ char ∈ whole, Text.isDigit char = true)
    (apart : Apart behind) :
    numberToken (whole ++ behind) = (.token .integerLiteral (String.ofList whole), whole.length) := by
  have ends : ∀ char ∈ behind.head?, Text.isDigit char = false ∧ char ≠ '.' := by
    intro char first
    rw [apart char first]
    decide
  unfold numberToken
  rw [numeral_whole digits ends]
  simp only [Bool.false_eq_true, if_false, List.drop_left]
  split
  · cases apart 'L' rfl
  · cases apart 'l' rfl
  · rfl

theorem numberToken_long {whole : List Char} (behind : List Char) (digits : ∀ char ∈ whole, Text.isDigit char = true) :
    numberToken (whole ++ 'L' :: behind) = (.token .longLiteral (String.ofList whole), whole.length + 1) := by
  have ends : ∀ char ∈ ('L' :: behind).head?, Text.isDigit char = false ∧ char ≠ '.' := by
    rintro char ⟨⟩
    decide
  unfold numberToken
  rw [numeral_whole digits ends]
  simp only [Bool.false_eq_true, if_false, List.drop_left]

theorem numberToken_double {whole fraction behind : List Char} (digits : ∀ char ∈ whole, Text.isDigit char = true)
    (more : ∀ char ∈ fraction, Text.isDigit char = true) (apart : Apart behind) :
    numberToken (whole ++ '.' :: (fraction ++ behind)) =
      (.token .doubleLiteral (String.ofList (whole ++ '.' :: fraction)), (whole ++ '.' :: fraction).length) := by
  unfold numberToken
  rw [numeral_fraction digits more (apart.ends (by decide))]
  rfl

theorem stands_number {char : Char} {rest : List Char} {kind : TokenKind} {value : String} {length : Nat}
    (unnamed : isNameStart char = false) (digit : Text.isDigit char = true)
    (taken : numberToken (char :: rest) = (.token kind value, length))
    (line column : Nat) : Stands { kind, value, line, column } := by
  have whole : (char :: rest).takeWhile Text.isDigit = char :: rest.takeWhile Text.isDigit :=
    List.takeWhile_cons_of_pos digit
  have digits : ∀ other ∈ char :: rest.takeWhile Text.isDigit, Text.isDigit other = true :=
    List.forall_mem_cons.mpr ⟨digit, fun _ member => List.mem_takeWhile_imp member⟩
  generalize rest.takeWhile Text.isDigit = others at whole digits
  have cases := numeral_cases (char :: rest)
  rw [whole] at cases
  unfold numberToken at taken
  rcases cases with found | ⟨fraction, more, found⟩
  · rw [found] at taken
    simp only [Bool.false_eq_true, if_false] at taken
    have long : Stands { kind := .longLiteral, value := String.ofList (char :: others), line, column } := by
      refine ⟨char, others ++ ['L'], by simp [Token.spelling], fun behind _ => ?_⟩
      rw [piece_number _ unnamed digit, List.append_assoc, ← List.cons_append, List.singleton_append,
        numberToken_long behind digits, List.length_append]
      rfl
    split at taken
    · cases taken
      exact long
    · cases taken
      exact long
    · cases taken
      refine ⟨char, others, String.toList_ofList, fun behind apart => ?_⟩
      rw [piece_number _ unnamed digit, ← List.cons_append, numberToken_integer digits apart]
      rfl
  · rw [found] at taken
    cases taken
    refine ⟨char, others ++ '.' :: fraction, String.toList_ofList, fun behind apart => ?_⟩
    have joined : char :: (others ++ '.' :: fraction ++ behind) = char :: others ++ '.' :: (fraction ++ behind) := by
      simp
    rw [piece_number _ unnamed digit, joined, numberToken_double digits more apart]
    rfl

theorem stringBody?_append {chars body : List Char} (behind : List Char) (found : stringBody? chars = some body) :
    stringBody? (body ++ '"' :: behind) = some body := by
  fun_induction stringBody? chars generalizing body with
  | case1 => cases found
  | case2 rest =>
      cases found
      rfl
  | case3 char rest ih =>
      obtain ⟨inner, foundInner, rfl⟩ := Option.map_eq_some_iff.mp found
      simp only [List.cons_append, stringBody?, ih foundInner, Option.map_some]
  | case4 char rest unquoted unescaped ih =>
      obtain ⟨inner, foundInner, rfl⟩ := Option.map_eq_some_iff.mp found
      have plain : char ≠ '\\' := by
        rintro rfl
        cases rest with
        | nil => cases foundInner
        | cons other rest => exact unescaped other rest rfl rfl
      rw [List.cons_append, stringBody?.eq_4, ih foundInner, Option.map_some]
      · exact unquoted
      · exact fun _ _ same => absurd same plain

theorem charBody_append {chars body : List Char} (behind : List Char) (found : charBody chars = .ok body) :
    charBody (body ++ '\'' :: behind) = .ok body := by
  unfold charBody at found
  split at found
  case h_4 char rest =>
    cases found
    rfl
  case h_6 char rest unbroken unquoted unescaped plain =>
    cases found
    exact charBody.eq_6 char behind unbroken unquoted (fun _ same _ => plain same) plain
  all_goals cases found

/-- Wherever a step takes a token, the text of the token stands for it. -/
theorem stands_of_piece {char : Char} {rest : List Char} {kind : TokenKind} {value : String} {length : Nat}
    (taken : piece char rest = .ok (.token kind value, length)) (line column : Nat) :
    Stands { kind, value, line, column } := by
  cases steps_of_piece taken with
  | name start taken => exact stands_name start taken line column
  | number unnamed digit taken => exact stands_number unnamed digit taken line column
  | symbol begins taken => exact stands_symbol begins taken line column
  | @string body quote closed =>
      refine ⟨'"', body ++ ['"'], by simp only [Token.spelling, String.toList_ofList], fun behind _ => ?_⟩
      rw [List.append_assoc, List.singleton_append, piece_string (stringBody?_append behind closed), List.length_append]
      rfl
  | @char body quote closed =>
      refine ⟨'\'', body ++ ['\''], by simp only [Token.spelling, String.toList_ofList], fun behind _ => ?_⟩
      rw [List.append_assoc, List.singleton_append, piece_char (charBody_append behind closed), List.length_append]
      rfl

/-- A token whose text stands in front of some other text is taken from the two. -/
theorem tokensFrom_append {token : Token} {behind : List Char} {tokens : List Token} (position : Position)
    (stands : Stands token) (apart : Apart behind)
    (scanned : tokensFrom (position.after token.spelling) behind = .ok tokens) :
    ∃ again, again.word = token.word ∧ tokensFrom position (token.spelling ++ behind) = .ok (again :: tokens) := by
  obtain ⟨first, others, spelled, taken⟩ := stands
  rw [spelled] at scanned ⊢
  refine ⟨{ kind := token.kind, value := token.value, line := position.line, column := position.column }, rfl, ?_⟩
  rw [List.cons_append, tokensFrom, taken behind apart]
  simp only [Nat.add_sub_cancel, List.take_left, List.drop_left]
  rw [scanned]

theorem tokensFrom_space (position : Position) (rest : List Char) :
    tokensFrom position (' ' :: rest) = tokensFrom (position.after [' ']) rest := by
  have blank : piece ' ' rest = .ok (.gap, 1) := rfl
  rw [tokensFrom, blank]
  simp only [Nat.sub_self, List.take_zero, List.drop_zero]
  cases tokensFrom (position.after [' ']) rest with
  | error error => rfl
  | ok tokens => rfl

theorem tokensFrom_nil (position : Position) :
    ∃ last, tokensFrom position [] = .ok [last] ∧ last.word = { kind := .endOfInput, value := "EOF" } := by
  rw [tokensFrom]
  exact ⟨_, rfl, rfl⟩

/-- Texts that stand for their tokens, with spaces between them, are scanned as those tokens. -/
theorem tokensFrom_intercalate (position : Position) {tokens : List Token} (stand : ∀ token ∈ tokens, Stands token) :
    ∃ again last, tokensFrom position ([' '].intercalate (tokens.map Token.spelling)) = .ok (again ++ [last]) ∧
      again.map Token.word = tokens.map Token.word ∧ last.word = { kind := .endOfInput, value := "EOF" } := by
  induction tokens generalizing position with
  | nil =>
      obtain ⟨last, scanned, ending⟩ := tokensFrom_nil position
      exact ⟨[], last, scanned, rfl, ending⟩
  | cons token others ih =>
      have first := stand token List.mem_cons_self
      cases others with
      | nil =>
          obtain ⟨last, scannedEnd, ending⟩ := tokensFrom_nil (position.after token.spelling)
          obtain ⟨found, same, scanned⟩ := tokensFrom_append position first apart_nil scannedEnd
          refine ⟨[found], last, ?_, congrArg (List.cons · []) same, ending⟩
          rw [List.map_singleton, List.intercalate_singleton, ← List.append_nil token.spelling]
          exact scanned
      | cons next others =>
          obtain ⟨again, last, scannedOthers, words, ending⟩ :=
            ih ((position.after token.spelling).after [' ']) fun other member => stand other (List.mem_cons_of_mem _ member)
          rw [← tokensFrom_space] at scannedOthers
          obtain ⟨found, same, scanned⟩ := tokensFrom_append position first (apart_space _) scannedOthers
          refine ⟨found :: again, last, ?_, ?_, ending⟩
          · rw [List.map_cons, List.map_cons, List.intercalate_cons_cons, List.append_assoc, List.singleton_append,
              List.cons_append]
            exact scanned
          · rw [List.map_cons, List.map_cons, same, words]

theorem stands_of_tokensFrom {position : Position} {chars : List Char} {tokens : List Token}
    (scanned : tokensFrom position chars = .ok tokens) : ∀ token ∈ tokens, token.isEnd = false → Stands token := by
  have known : ∀ token ∈ tokens, token.kind = .endOfInput ∨
      ∀ line column, Stands { kind := token.kind, value := token.value, line, column } :=
    forall_mem_tokensFrom (fun kind value => kind = .endOfInput ∨ ∀ line column, Stands { kind, value, line, column })
      scanned (.inl rfl) fun _ _ _ _ _ taken => .inr (stands_of_piece taken)
  intro token member unended
  rcases known token member with ending | stands
  · rw [Token.isEnd, ending] at unended
    cases unended
  · exact stands token.line token.column

end Scan

theorem Parted.ends {before text : List Char} {tokens : List Token} (parted : Parted before text tokens) :
    ∃ inner last, tokens = inner ++ [last] ∧ (∀ token ∈ inner, token.isEnd = false) ∧
      last.word = { kind := .endOfInput, value := "EOF" } := by
  induction parted with
  | @ending before gap last _ kind value _ =>
      refine ⟨[], last, rfl, nofun, ?_⟩
      rw [Token.word, kind, value]
  | @token before gap text rest token tokens _ _ inner _ _ _ ih =>
      obtain ⟨others, last, rfl, further, ending⟩ := ih
      exact ⟨token :: others, last, rfl, List.forall_mem_cons.mpr ⟨inner, further⟩, ending⟩

theorem Token.spaced_ends {inner : List Token} {last : Token} (unended : ∀ token ∈ inner, token.isEnd = false)
    (ending : last.isEnd = true) : Token.spaced (inner ++ [last]) = [' '].intercalate (inner.map Token.spelling) := by
  have kept : inner.filter (fun token => !token.isEnd) = inner :=
    List.filter_eq_self.mpr fun token member => by rw [unended token member, Bool.not_false]
  rw [Token.spaced, List.filter_append, kept, List.filter_singleton, ending]
  simp

/-- The tokens of a source, written with spaces between them, are scanned again with the same kinds and values. -/
theorem scan_spaced {source : String} {tokens : List Token} (scanned : scan source = .ok tokens) :
    ∃ again, scan (String.ofList (Token.spaced tokens)) = .ok again ∧ again.map Token.word = tokens.map Token.word := by
  have stands := Scan.stands_of_tokensFrom scanned
  obtain ⟨inner, last, rfl, unended, ending⟩ := (parted_tokensFrom scanned (show Position.start = .behind [] from rfl)).ends
  have marks : last.isEnd = true := by
    have kind : last.kind = .endOfInput := congrArg Word.kind ending
    rw [Token.isEnd, kind]
    rfl
  obtain ⟨again, end', scannedAgain, words, endingAgain⟩ :=
    Scan.tokensFrom_intercalate .start fun token member =>
      stands token (List.mem_append_left _ member) (unended token member)
  refine ⟨again ++ [end'], ?_, ?_⟩
  · rw [scan, String.toList_ofList, Token.spaced_ends unended marks]
    exact scannedAgain
  · rw [List.map_append, List.map_append, words, List.map_singleton, List.map_singleton, ending, endingAgain]

/-- A dot that ends a numeral and one behind a double, an `L` apart from its digits, two slashes, a string that ends in
backslashes and a quoted quote stay apart. -/
theorem hazards_spaced :
    ∃ tokens again, scan "1. 2.5.x 7l 3 L a+ +b / / c \"\\\\\" '\\'' d// e" = .ok tokens ∧
      scan (String.ofList (Token.spaced tokens)) = .ok again ∧ again.map Token.word = tokens.map Token.word := by
  have accepted : (scan "1. 2.5.x 7l 3 L a+ +b / / c \"\\\\\" '\\'' d// e").toOption.isSome = true := by
    rw [scan, toList_of_written _ rfl]
    decide +kernel
  cases scanned : scan "1. 2.5.x 7l 3 L a+ +b / / c \"\\\\\" '\\'' d// e" with
  | error error =>
      rw [scanned] at accepted
      cases accepted
  | ok tokens =>
      obtain ⟨again, scannedAgain, same⟩ := scan_spaced scanned
      exact ⟨tokens, again, rfl, scannedAgain, same⟩

end Stepwise
