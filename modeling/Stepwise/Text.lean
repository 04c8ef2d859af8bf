/-!
Text: code points in a row. The surrogates, which are no characters by themselves, are code points like any other, so
that a text of a run can hold what no text of a file does. In raw text a backslash and the code point behind it stand
for one code point. Strings keep their escapes as raw text until they are written to the console; a backslash before
anything that is no escape stays where it is.
-/

namespace Stepwise

set_option autoImplicit false

structure CodePoint where
  code : Nat
  valid : code < 0x110000
  deriving DecidableEq, Repr

abbrev Text : Type := List CodePoint

namespace CodePoint

def ofChar (char : Char) : CodePoint where
  code := char.toNat
  valid := by
    have range := char.valid
    unfold UInt32.isValidChar Nat.isValidChar at range
    change char.val.toNat < 0x110000
    omega

instance : Coe Char CodePoint := ⟨ofChar⟩

def ofCode? : Int → Option CodePoint
  | .ofNat code => if valid : code < 0x110000 then some { code, valid } else none
  | .negSucc _ => none

def char? (point : CodePoint) : Option Char :=
  if point.code.isValidChar then some (Char.ofNat point.code) else none

def backslash : CodePoint := ofChar '\\'

theorem ofChar_inj {one two : Char} (same : ofChar one = ofChar two) : one = two :=
  Char.toNat_inj.mp (congrArg code same)

theorem ofChar_of_char?_eq {point : CodePoint} {char : Char} (found : point.char? = some char) : ofChar char = point := by
  unfold char? at found
  split at found
  · next scalar =>
      have kept : (Char.ofNat point.code).toNat = point.code := by
        unfold Char.ofNat
        rw [dif_pos scalar]
        rfl
      cases found
      cases point
      unfold ofChar
      congr
  · cases found

end CodePoint

namespace Text

def ofString (text : String) : Text := text.toList.map CodePoint.ofChar

instance : Coe String Text := ⟨ofString⟩

def toString? (text : Text) : Option String :=
  (text.mapM CodePoint.char?).map String.ofList

@[simp] theorem ofString_inj {one two : String} : ofString one = ofString two ↔ one = two :=
  (List.map_inj_right fun _ _ => CodePoint.ofChar_inj).trans String.toList_inj

def escaped? : Char → Option Char
  | 'n' => some '\n'
  | 't' => some '\t'
  | 'r' => some '\r'
  | 'b' => some '\x08'
  | 'f' => some '\x0c'
  | '\'' => some '\''
  | '"' => some '"'
  | '\\' => some '\\'
  | _ => none

def escapedPoint? (point : CodePoint) : Option CodePoint :=
  (point.char?.bind escaped?).map .ofChar

/-- What a backslash and the code point behind it are written as. -/
def expandedPair (point : CodePoint) : Text :=
  match escapedPoint? point with
  | some plain => [plain]
  | none => [.backslash, point]

/-- The text that raw text stands for, read from left to right. -/
def expanded : Text → Text
  | [] => []
  | [point] => [point]
  | first :: second :: rest =>
      if first = .backslash then expandedPair second ++ expanded rest else first :: expanded (second :: rest)

/-- The text of a character literal: an escape stands for its character, and for the character behind the backslash
if there is no such escape. -/
def decodedLiteral (raw : String) : String :=
  match raw.toList with
  | ['\\', char] => String.ofList [(escaped? char).getD char]
  | _ => raw

/-- Raw text for a code point: a backslash is doubled, so that it stands for itself. -/
def rawPoint (point : CodePoint) : Text :=
  if point = .backslash then [.backslash, .backslash] else [point]

end Text

end Stepwise
