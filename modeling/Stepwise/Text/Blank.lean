/-!
Membership of a character in a table of code point ranges, whose ranges hold both of their ends; the blank characters,
of which a text without content consists; and line ends. The blanks are more than what separates tokens. A text may end
its lines by a line feed, a carriage return, or one after the other: all of them are read as line feeds, so that lines
are counted the same way whatever wrote the text.
-/

namespace Stepwise.Text

set_option autoImplicit false

def within (ranges : List (Nat × Nat)) (char : Char) : Bool :=
  ranges.any fun range => range.1 ≤ char.toNat && char.toNat ≤ range.2

/-- The ranges of blank characters, among them the separators U+001C to U+001F. -/
def blankRanges : List (Nat × Nat) :=
    [(0x9, 0xD), (0x1C, 0x20), (0x85, 0x85), (0xA0, 0xA0), (0x1680, 0x1680), (0x2000, 0x200A), (0x2028, 0x2029),
     (0x202F, 0x202F), (0x205F, 0x205F), (0x3000, 0x3000)]

def isBlank (char : Char) : Bool :=
  within blankRanges char

def isBlankText (text : String) : Bool :=
  text.toList.all isBlank

/-- The characters with a line feed for every line end. -/
def unifiedLines : List Char → List Char
  | [] => []
  | '\r' :: '\n' :: rest => '\n' :: unifiedLines rest
  | char :: rest => (if char = '\r' then '\n' else char) :: unifiedLines rest

def unifyLines (text : String) : String :=
  String.ofList (unifiedLines text.toList)

end Stepwise.Text
