import Stepwise.Proofs.Escapes

/-!
# The tokens of a source

What holds of every token that one step of the scanner can take, and of the token that marks the end, holds of every
token of a source. In particular the text of a character literal, with its escape translated, is one character, and the
text of a keyword, a symbol or a name tells which kind of token it is.
-/

namespace Stepwise

set_option autoImplicit false

/-- The characters of a source that is written out are at hand: they need not be decoded. -/
theorem toList_of_written (source : String) {chars : List Char} (written : source = String.ofList chars) :
    source.toList = chars := by
  rw [written, String.toList_ofList]

namespace Scan

/-- Tokens come from steps of the scanner, but for the one that marks the end. -/
theorem forall_mem_tokensFrom (known : TokenKind → String → Prop) {position : Position} {chars : List Char}
    {tokens : List Token} (scanned : tokensFrom position chars = .ok tokens) (last : known .endOfInput "EOF")
    (taken : ∀ char rest kind value length, piece char rest = .ok (.token kind value, length) → known kind value) :
    ∀ token ∈ tokens, known token.kind token.value := by
  fun_induction tokensFrom position chars generalizing tokens with
  | case1 position =>
      cases scanned
      exact List.forall_mem_singleton.mpr last
  | case2 => cases scanned
  | case3 => cases scanned
  | case4 position char rest length text others scannedOthers stepped =>
      rename_i hypothesis
      cases scanned
      exact hypothesis scannedOthers
  | case5 position char rest length text others scannedOthers kind value stepped =>
      rename_i hypothesis
      cases scanned
      exact List.forall_mem_cons.mpr ⟨taken char rest kind value length stepped, hypothesis scannedOthers⟩

theorem terminated_tokensFrom {position : Position} {chars : List Char} {tokens : List Token}
    (scanned : tokensFrom position chars = .ok tokens) :
    ∃ first rest, tokens = first :: rest ∧ (rest.getLastD first).isEnd = true := by
  fun_induction tokensFrom position chars generalizing tokens with
  | case1 position =>
      cases scanned
      exact ⟨_, [], rfl, rfl⟩
  | case2 => cases scanned
  | case3 => cases scanned
  | case4 position char rest length text others scannedOthers stepped =>
      rename_i hypothesis
      cases scanned
      exact hypothesis scannedOthers
  | case5 position char rest length text others scannedOthers kind value stepped =>
      rename_i hypothesis
      cases scanned
      obtain ⟨first, rest, rfl, terminated⟩ := hypothesis scannedOthers
      exact ⟨_, first :: rest, rfl, by rw [List.getLastD_cons]; exact terminated⟩

theorem charBody_cases {chars body : List Char} (found : charBody chars = .ok body) :
    ∃ char, body = [char] ∨ body = ['\\', char] := by
  unfold charBody at found
  split at found
  · cases found
  · cases found
  · cases found
  · next char _ =>
      cases found
      exact ⟨char, .inr rfl⟩
  · cases found
  · next char _ _ _ _ _ =>
      cases found
      exact ⟨char, .inl rfl⟩
  · cases found

theorem decodedLiteral_charBody {chars body : List Char} (found : charBody chars = .ok body) :
    ∃ char, (Text.decodedLiteral (String.ofList body)).toList = [char] := by
  obtain ⟨char, plain | escaped⟩ := charBody_cases found
  · rw [plain]
    exact ⟨char, by simp [Text.decodedLiteral]⟩
  · rw [escaped]
    exact ⟨(Text.escaped? char).getD char, by simp [Text.decodedLiteral]⟩

theorem nameToken_kind {chars : List Char} {value : String} {length : Nat} :
    nameToken chars ≠ (.token .charLiteral value, length) := by
  unfold nameToken
  intro same
  dsimp only at same
  split at same <;> cases same

theorem numberToken_kind {chars : List Char} {value : String} {length : Nat} :
    numberToken chars ≠ (.token .charLiteral value, length) := by
  unfold numberToken
  intro same
  dsimp only at same
  split at same
  · cases same
  · split at same <;> cases same

theorem symbolToken_kind {char : Char} {rest : List Char} {value : String} {length : Nat} :
    symbolToken char rest ≠ .ok (.token .charLiteral value, length) := by
  unfold symbolToken
  intro same
  split at same
  · cases same
  · split at same <;> cases same

/-- A step that takes a character literal takes what stands between its quotes. -/
theorem charBody_of_piece {char : Char} {rest : List Char} {value : String} {length : Nat}
    (taken : piece char rest = .ok (.token .charLiteral value, length)) :
    ∃ body, charBody rest = .ok body ∧ value = String.ofList body := by
  unfold piece at taken
  split at taken
  · cases taken
  · split at taken
    · cases taken
    · split at taken
      · split at taken <;> cases taken
      · split at taken
        · exact absurd (Except.ok.inj taken) nameToken_kind
        · split at taken
          · exact absurd (Except.ok.inj taken) numberToken_kind
          · split at taken
            · split at taken <;> cases taken
            · split at taken
              · split at taken
                · next body found =>
                    cases taken
                    exact ⟨body, found, rfl⟩
                · cases taken
              · exact absurd taken symbolToken_kind

end Scan

/-- Every character literal of a source stands for one character. -/
theorem decodedLiteral_of_scan {source : String} {tokens : List Token} (scanned : scan source = .ok tokens)
    {token : Token} (member : token ∈ tokens) (kind : token.kind = .charLiteral) :
    ∃ char, (Text.decodedLiteral token.value).toList = [char] := by
  let decodes : TokenKind → String → Prop := fun kind value =>
    kind = .charLiteral → ∃ char, (Text.decodedLiteral value).toList = [char]
  refine Scan.forall_mem_tokensFrom decodes scanned nofun ?_ token member kind
  rintro char rest _ value length taken rfl
  obtain ⟨body, found, rfl⟩ := Scan.charBody_of_piece taken
  exact Scan.decodedLiteral_charBody found

/-- What the kind of a token says about its text. A name is not spelled as a keyword, and all its characters can stand
in a name; the raw text of a string is closed. -/
structure TokenKind.Fits (kind : TokenKind) (value : String) : Prop where
  keyword : ∀ word, kind = .keyword word → value = word.spelling
  symbol : ∀ mark, kind = .symbol mark → value = mark.spelling
  identifier : kind = .identifier →
    Keyword.ofSpelling? value = none ∧ ∀ part ∈ value.toList, Scan.isNamePart part = true
  string : kind = .stringLiteral → Text.Closed (Text.ofString value)

abbrev Token.Genuine (token : Token) : Prop :=
  token.kind.Fits token.value

theorem Keyword.spelling_of_ofSpelling? {text : String} {word : Keyword} (found : ofSpelling? text = some word) :
    word.spelling = text := by
  have spelled := List.find?_some found
  exact of_decide_eq_true spelled

namespace Scan

theorem fits_nameToken {chars : List Char} {kind : TokenKind} {value : String} {length : Nat}
    (taken : nameToken chars = (.token kind value, length)) : kind.Fits value := by
  unfold nameToken at taken
  dsimp only at taken
  have parts : ∀ part ∈ chars.takeWhile isNamePart, isNamePart part = true := List.all_eq_true.mp List.all_takeWhile
  cases found : Keyword.ofSpelling? (String.ofList (chars.takeWhile isNamePart)) with
  | some word =>
      rw [found] at taken
      cases taken
      refine ⟨fun other same => ?_, nofun, nofun, nofun⟩
      cases same
      exact (Keyword.spelling_of_ofSpelling? found).symm
  | none =>
      rw [found] at taken
      cases taken
      exact ⟨nofun, nofun, fun _ => ⟨found, by rw [String.toList_ofList]; exact parts⟩, nofun⟩

theorem fits_numberToken {chars : List Char} {kind : TokenKind} {value : String} {length : Nat}
    (taken : numberToken chars = (.token kind value, length)) : kind.Fits value := by
  unfold numberToken at taken
  dsimp only at taken
  split at taken
  · cases taken
    exact ⟨nofun, nofun, nofun, nofun⟩
  · split at taken
    all_goals
      cases taken
      exact ⟨nofun, nofun, nofun, nofun⟩

theorem fits_symbolToken {char : Char} {rest : List Char} {kind : TokenKind} {value : String} {length : Nat}
    (taken : symbolToken char rest = .ok (.token kind value, length)) : kind.Fits value := by
  have fits : ∀ mark : Symbol, (TokenKind.symbol mark).Fits mark.spelling := fun mark =>
    ⟨nofun, fun other same => by cases same; rfl, nofun, nofun⟩
  unfold symbolToken at taken
  split at taken
  · cases taken
    exact fits _
  · split at taken
    · cases taken
      exact fits _
    · cases taken

theorem fits_piece {char : Char} {rest : List Char} {kind : TokenKind} {value : String} {length : Nat}
    (taken : piece char rest = .ok (.token kind value, length)) : kind.Fits value := by
  unfold piece at taken
  split at taken
  · cases taken
  · split at taken
    · cases taken
    · split at taken
      · split at taken <;> cases taken
      · split at taken
        · exact fits_nameToken (Except.ok.inj taken)
        · split at taken
          · exact fits_numberToken (Except.ok.inj taken)
          · split at taken
            · split at taken
              · next body found =>
                  cases taken
                  exact ⟨nofun, nofun, nofun, fun _ => by rw [Text.ofString, String.toList_ofList]; exact closed_stringBody? found⟩
              · cases taken
            · split at taken
              · split at taken
                · cases taken
                  exact ⟨nofun, nofun, nofun, nofun⟩
                · cases taken
              · exact fits_symbolToken taken

end Scan

/-- The text of every token of a source fits its kind. -/
theorem genuine_of_scan {source : String} {tokens : List Token} (scanned : scan source = .ok tokens) :
    ∀ token ∈ tokens, token.Genuine :=
  Scan.forall_mem_tokensFrom TokenKind.Fits scanned ⟨nofun, nofun, nofun, nofun⟩ fun _ _ _ _ _ => Scan.fits_piece

end Stepwise
