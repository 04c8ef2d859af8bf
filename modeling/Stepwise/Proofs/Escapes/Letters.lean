import Stepwise.Proofs.Escapes

/-!
# The letters of raw text

Raw text spells the text that it stands for letter by letter: each letter is one code point, written as itself or as an
escape. Two raw texts that stand for the same text differ at most in the spelling of their letters, and raw text stands
for itself if none of its letters is an escape. Where characters come to a string as values, they are spelled in one
way: a backslash is doubled, and any other character is written as itself.
-/

namespace Stepwise.Text

set_option autoImplicit false

theorem eq_of_escaped?_eq {char other plain : Char} (first : escaped? char = some plain)
    (second : escaped? other = some plain) : char = other := by
  unfold escaped? at first
  split at first <;> cases first
  all_goals
    unfold escaped? at second
    split at second <;> first | rfl | cases second

theorem eq_of_escapedPoint?_eq {one two plain : CodePoint} (first : escapedPoint? one = some plain)
    (second : escapedPoint? two = some plain) : one = two := by
  obtain ⟨oneStood, firstEscaped, rfl⟩ := Option.map_eq_some_iff.mp first
  obtain ⟨twoStood, secondEscaped, same⟩ := Option.map_eq_some_iff.mp second
  cases CodePoint.ofChar_inj same
  obtain ⟨oneChar, firstChar, firstKnown⟩ := Option.bind_eq_some_iff.mp firstEscaped
  obtain ⟨twoChar, secondChar, secondKnown⟩ := Option.bind_eq_some_iff.mp secondEscaped
  cases eq_of_escaped?_eq firstKnown secondKnown
  rw [← CodePoint.ofChar_of_char?_eq firstChar, CodePoint.ofChar_of_char?_eq secondChar]

/-- A code point that raw text stands for, as it is written there. -/
inductive Letter
  | itself (point : CodePoint)
  | escape (point plain : CodePoint) (known : escapedPoint? point = some plain)

namespace Letter

/-- The code point that a letter stands for. -/
def stands : Letter → CodePoint
  | itself point => point
  | escape _ plain _ => plain

def written : Letter → Text
  | itself point => [point]
  | escape point _ _ => [.backslash, point]

def isEscape : Letter → Bool
  | itself _ => false
  | escape .. => true

/-- A letter as the raw text of a character has it. -/
def Plain : Letter → Prop
  | itself point => point ≠ .backslash
  | escape point _ _ => point = .backslash

instance : DecidablePred Plain
  | itself point => inferInstanceAs (Decidable (point ≠ .backslash))
  | escape point _ _ => inferInstanceAs (Decidable (point = .backslash))

theorem eq_of_stands {one two : Letter} (same : one.stands = two.stands) (form : one.isEscape = two.isEscape) :
    one = two := by
  cases one with
  | itself point =>
      cases two with
      | itself other => exact congrArg itself same
      | escape other plain known => cases form
  | escape point plain known =>
      cases two with
      | itself other => cases form
      | escape other alike knownOther =>
          cases same
          cases eq_of_escapedPoint?_eq known knownOther
          rfl

theorem eq_of_map_stands {one two : List Letter} (same : one.map stands = two.map stands)
    (forms : one.map isEscape = two.map isEscape) : one = two := by
  induction one generalizing two with
  | nil => exact (List.map_eq_nil_iff.mp same.symm).symm
  | cons letter rest hypothesis =>
      cases two with
      | nil => cases same
      | cons other others =>
          rw [List.map_cons, List.map_cons, List.cons.injEq] at same forms
          rw [eq_of_stands same.1 forms.1, hypothesis same.2 forms.2]

theorem Plain.isEscape_eq {letter : Letter} (plain : letter.Plain) :
    letter.isEscape = decide (letter.stands = .backslash) := by
  cases letter with
  | itself point => exact (decide_eq_false plain).symm
  | escape point stood known =>
      cases plain
      cases known
      rfl

theorem map_isEscape_of_plain {letters : List Letter} (plain : ∀ letter ∈ letters, letter.Plain) :
    letters.map isEscape = (letters.map stands).map fun point => decide (point = .backslash) := by
  rw [List.map_map]
  exact List.map_congr_left fun letter member => (plain letter member).isEscape_eq

theorem length_le_flatMap_written (letters : List Letter) : letters.length ≤ (letters.flatMap written).length := by
  induction letters with
  | nil => exact Nat.le_refl 0
  | cons letter rest hypothesis =>
      rw [List.flatMap_cons, List.length_append, List.length_cons]
      cases letter <;> simp only [written, List.length_cons, List.length_nil] <;> omega

/-- Letters are written as what they stand for if and only if none of them is an escape. -/
theorem map_stands_eq_iff (letters : List Letter) :
    letters.map stands = letters.flatMap written ↔ ∀ letter ∈ letters, letter.isEscape = false := by
  induction letters with
  | nil => simp
  | cons letter rest hypothesis =>
      cases letter with
      | itself point => simpa [stands, written, isEscape] using hypothesis
      | escape point plain known =>
          -- The escape is longer than what it stands for, and nothing behind it is shorter.
          have longer (same : (escape point plain known :: rest).map stands =
              (escape point plain known :: rest).flatMap written) : False := by
            have lengths := congrArg List.length same
            have behind := length_le_flatMap_written rest
            simp only [List.length_map, List.length_cons, List.flatMap_cons, List.length_append, written,
              List.length_nil] at lengths
            omega
          exact iff_of_false longer fun none => Bool.noConfusion (none _ List.mem_cons_self)

end Letter

/-- The letters of a backslash and the code point behind it: two, if there is no such escape. -/
def pairLetters (point : CodePoint) : List Letter :=
  match known : escapedPoint? point with
  | some plain => [.escape point plain known]
  | none => [.itself .backslash, .itself point]

def letters : Text → List Letter
  | [] => []
  | [point] => [.itself point]
  | first :: second :: rest =>
      if first = .backslash then pairLetters second ++ letters rest else .itself first :: letters (second :: rest)

theorem letters_escape (point : CodePoint) (rest : Text) :
    letters (.backslash :: point :: rest) = pairLetters point ++ letters rest := by
  rw [letters, if_pos rfl]

theorem letters_cons_of_ne {point : CodePoint} (solid : point ≠ .backslash) (rest : Text) :
    letters (point :: rest) = .itself point :: letters rest := by
  cases rest <;> simp [letters, solid]

theorem map_stands_pairLetters (point : CodePoint) : (pairLetters point).map Letter.stands = expandedPair point := by
  unfold pairLetters expandedPair
  split <;> next known => simp [known, Letter.stands]

theorem flatMap_written_pairLetters (point : CodePoint) :
    (pairLetters point).flatMap Letter.written = [.backslash, point] := by
  unfold pairLetters
  split <;> rfl

/-- The text that raw text stands for shows what its letters stand for. -/
theorem map_stands_letters (text : Text) : (letters text).map Letter.stands = expanded text := by
  fun_induction letters text with
  | case1 => rfl
  | case2 point => rfl
  | case3 point rest hypothesis => rw [List.map_append, map_stands_pairLetters, hypothesis, expanded_escape]
  | case4 first second rest solid hypothesis =>
      rw [List.map_cons, hypothesis, expanded_cons_of_ne solid]
      rfl

theorem flatMap_written_letters (text : Text) : (letters text).flatMap Letter.written = text := by
  fun_induction letters text with
  | case1 => rfl
  | case2 point => rfl
  | case3 point rest hypothesis =>
      rw [List.flatMap_append, flatMap_written_pairLetters, hypothesis]
      rfl
  | case4 first second rest solid hypothesis =>
      rw [List.flatMap_cons, hypothesis]
      rfl

theorem letters_injective : Function.Injective letters := by
  intro one two same
  rw [← flatMap_written_letters one, same, flatMap_written_letters]

/-- Raw texts that stand for the same text are the same if they have their escapes at the same places. -/
theorem eq_of_expanded_eq {one two : Text} (same : expanded one = expanded two)
    (forms : (letters one).map Letter.isEscape = (letters two).map Letter.isEscape) : one = two := by
  rw [← map_stands_letters, ← map_stands_letters] at same
  exact letters_injective (Letter.eq_of_map_stands same forms)

/-- Raw text stands for itself if and only if none of its letters is an escape. -/
theorem expanded_eq_self_iff (text : Text) :
    expanded text = text ↔ ∀ letter ∈ letters text, letter.isEscape = false := by
  have asLetters := Letter.map_stands_eq_iff (letters text)
  rw [map_stands_letters, flatMap_written_letters] at asLetters
  exact asLetters

theorem Closed.letters_append {front : Text} (closed : Closed front) (back : Text) :
    letters (front ++ back) = letters front ++ letters back := by
  induction closed with
  | nil => rfl
  | @escape point rest more hypothesis =>
      change letters (.backslash :: point :: (rest ++ back)) = _
      rw [letters_escape, letters_escape, hypothesis, List.append_assoc]
  | plain solid more hypothesis =>
      rw [List.cons_append, letters_cons_of_ne solid, letters_cons_of_ne solid, hypothesis, List.cons_append]

theorem Closed.expanded_append {front : Text} (closed : Closed front) (back : Text) :
    expanded (front ++ back) = expanded front ++ expanded back := by
  rw [← map_stands_letters, closed.letters_append, List.map_append, map_stands_letters, map_stands_letters]

theorem letters_of_notMem {text : Text} (solid : .backslash ∉ text) : letters text = text.map .itself := by
  induction text with
  | nil => rfl
  | cons point rest hypothesis =>
      rw [List.mem_cons, not_or] at solid
      rw [letters_cons_of_ne (Ne.symm solid.1), hypothesis solid.2, List.map_cons]

theorem Solid.expanded_eq {text : Text} (solid : Solid text) : expanded text = text := by
  rw [expanded_eq_self_iff, letters_of_notMem solid]
  intro letter member
  obtain ⟨point, -, rfl⟩ := List.mem_map.mp member
  rfl

theorem plain_of_mem_letters_rawPoint {point : CodePoint} {letter : Letter} (member : letter ∈ letters (rawPoint point)) :
    letter.Plain := by
  unfold rawPoint at member
  split at member
  · rw [show letters [.backslash, .backslash] = [.escape .backslash .backslash rfl] from rfl, List.mem_singleton] at member
    rw [member]
    exact rfl
  · next solid =>
      rw [letters, List.mem_singleton] at member
      rw [member]
      exact solid

/-- A style of spelling: the letters that raw text may have. The letters of characters are always among them. -/
structure Style where
  admits : Letter → Prop
  plain : ∀ letter, letter.Plain → admits letter

def Style.free : Style where
  admits _ := True
  plain _ _ := trivial

/-- The style in which each character is spelled in one way. -/
def Style.uniform : Style where
  admits := Letter.Plain
  plain _ plain := plain

instance : DecidablePred Style.uniform.admits :=
  inferInstanceAs (DecidablePred Letter.Plain)

/-- Closed raw text that is spelled in the style. -/
structure SpelledIn (style : Style) (text : Text) : Prop where
  closed : Closed text
  admitted : ∀ letter ∈ letters text, style.admits letter

variable {style : Style}

theorem Closed.spelledIn_free {text : Text} (closed : Closed text) : SpelledIn .free text :=
  ⟨closed, fun _ _ => trivial⟩

theorem SpelledIn.append {front back : Text} (first : SpelledIn style front) (second : SpelledIn style back) :
    SpelledIn style (front ++ back) := by
  constructor
  · exact first.closed.append second.closed
  · intro letter member
    rw [first.closed.letters_append, List.mem_append] at member
    exact member.elim (first.admitted letter) (second.admitted letter)

theorem Solid.spelledIn {text : Text} (solid : Solid text) : SpelledIn style text := by
  constructor
  · exact solid.closed
  · intro letter member
    rw [letters_of_notMem solid] at member
    obtain ⟨point, inside, rfl⟩ := List.mem_map.mp member
    exact style.plain _ fun same => solid (same ▸ inside)

theorem spelledIn_rawPoint (point : CodePoint) : SpelledIn style (rawPoint point) :=
  ⟨closed_rawPoint point, fun letter member => style.plain letter (plain_of_mem_letters_rawPoint member)⟩

/-- Where each character is spelled in one way, raw texts that stand for the same text are the same. -/
theorem SpelledIn.eq_of_expanded_eq {one two : Text} (first : SpelledIn .uniform one)
    (second : SpelledIn .uniform two) (same : expanded one = expanded two) : one = two := by
  apply Text.eq_of_expanded_eq same
  rw [Letter.map_isEscape_of_plain first.admitted, Letter.map_isEscape_of_plain second.admitted, map_stands_letters,
    map_stands_letters, same]

end Stepwise.Text
