import Stepwise.Number.Literal
import Stepwise.Run

/-!
The arguments of the exporting command: a source, and options in any order. An option with two dashes may be cut short
as long as it stays the only one that begins so, and may have its value attached by an equals sign; options with one
dash may be drawn together. After two dashes alone nothing is an option. A word that looks like an option and is none
is refused only when all words have been read, so that a request for help in front of the end is still met.
-/

namespace Stepwise.CommandLine

set_option autoImplicit false

inductive ExportOption
  | help | out | maxSteps | allVariables | verbose
  deriving DecidableEq, Repr

namespace ExportOption

def longNames : List (String × ExportOption) :=
  [("help", help), ("out", out), ("max-steps", maxSteps), ("all-variables", allVariables), ("verbose", verbose)]

def ofLetter? (letter : Char) : Option ExportOption :=
  if letter = 'h' then some help else if letter = 'v' then some verbose else none

def takesValue : ExportOption → Bool
  | out | maxSteps => true
  | help | allVariables | verbose => false

/-- The options whose long name begins with a text; only the one of that name where there is one. -/
def beginning (start : String) : List ExportOption :=
  match longNames.lookup start with
  | some option => [option]
  | none => (longNames.filter fun entry => start.toList.isPrefixOf entry.1.toList).map Prod.snd

end ExportOption

/-- One argument, by its look alone. -/
inductive Word
  /-- A value or the source. -/
  | plain (text : String)
  /-- Two dashes alone. -/
  | divider
  | option (option : ExportOption) (value : Option String)
  /-- Options with one dash drawn together. -/
  | cluster (options : List ExportOption)
  /-- Looks like an option, and is none. -/
  | unknown
  /-- Begins like several options. -/
  | ambiguous
  /-- Options with one dash drawn together with a letter that names none. -/
  | malformed
  deriving DecidableEq, Repr

namespace Word

/-- Whether the characters after a dash make up a negative number. A line may end behind it. -/
def isNumeral (chars : List Char) : Bool :=
  let isDecimal := fun char => (Text.decimalValue? char).isSome
  let numeral := if chars.getLast? = some '\n' then chars.dropLast else chars
  match numeral.dropWhile isDecimal with
  | [] => !numeral.isEmpty
  | '.' :: fraction => !fraction.isEmpty && fraction.all isDecimal
  | _ => false

/-- A word that begins with a dash and names no option. A negative number is a value, and so is what has a space in
it. -/
def other (text : String) : Word :=
  if isNumeral (text.toList.drop 1) || text.toList.contains ' ' then .plain text else .unknown

def ofLong (text : String) (chars : List Char) : Word :=
  let name := String.ofList (chars.takeWhile (· ≠ '='))
  let value :=
    match chars.dropWhile (· ≠ '=') with
    | _ :: value => some (String.ofList value)
    | [] => none
  match ExportOption.beginning name with
  | [named] => .option named value
  | [] => other text
  | _ => .ambiguous

/-- The letters that are drawn together with a first one. An equals sign may stand between, if letters follow. -/
def drawnLetters : List Char → List Char
  | '=' :: letter :: letters => letter :: letters
  | letters => letters

def ofShort (text : String) : List Char → Word
  | [] => .plain text
  | letter :: rest =>
      match ExportOption.ofLetter? letter with
      | none => other text
      | some named =>
          match (drawnLetters rest).mapM ExportOption.ofLetter? with
          | some others => .cluster (named :: others)
          | none => .malformed

def ofText (text : String) : Word :=
  match text.toList with
  | ['-', '-'] => .divider
  | '-' :: '-' :: chars => ofLong text chars
  | '-' :: chars => ofShort text chars
  | _ => .plain text

def ofArguments : List String → List Word
  | [] => []
  | text :: others =>
      match ofText text with
      | .divider => .divider :: others.map .plain
      | word => word :: ofArguments others

end Word

structure ExportRequest where
  source : String
  out : Option String
  /-- The limit of steps; none where the option for it was given a divider for its value. -/
  maxSteps : Option Int
  mode : VariablesMode
  verbose : Bool
  deriving DecidableEq, Repr

/-- Why there is no request. -/
inductive Refusal
  | helpAsked | badArguments
  deriving DecidableEq, Repr

def Refusal.status : Refusal → Nat
  | helpAsked => 0
  | badArguments => 2

structure Reading where
  source : Option String
  out : Option String
  maxSteps : Option Int
  mode : VariablesMode
  verbose : Bool
  /-- Whether a word was left over. -/
  leftover : Bool
  deriving DecidableEq, Repr

namespace Reading

def start : Reading :=
  { source := none, out := none, maxSteps := some defaultMaxSteps, mode := .local_, verbose := false, leftover := false }

def switch (reading : Reading) : ExportOption → Except Refusal Reading
  | .help => .error .helpAsked
  | .allVariables => .ok { reading with mode := .all }
  | .verbose => .ok { reading with verbose := true }
  | .out | .maxSteps => .error .badArguments

def switchAll (reading : Reading) : List ExportOption → Except Refusal Reading
  | [] => .ok reading
  | option :: options =>
      match reading.switch option with
      | .ok next => next.switchAll options
      | .error refusal => .error refusal

/-- Notes an option with its value. The last value counts. A divider is no value, and takes back the one that was
given before. -/
def assign (reading : Reading) (option : ExportOption) (value : String) : Except Refusal Reading :=
  match option with
  | .out => .ok { reading with out := if value = "--" then none else some value }
  | .maxSteps =>
      if value = "--" then .ok { reading with maxSteps := none }
      else
        match Number.readInteger value with
        | .ok steps => .ok { reading with maxSteps := some steps }
        | .error _ => .error .badArguments
  | _ => .error .badArguments

def place (reading : Reading) (text : String) : Reading :=
  match reading.source with
  | none => { reading with source := some text }
  | some _ => { reading with leftover := true }

/-- Reads words one after the other. A divider is part of the source next to it; elsewhere it is left over. -/
def words (reading : Reading) (afterSource : Bool) : List Word → Except Refusal Reading
  | [] => .ok reading
  | .plain text :: others => (reading.place text).words reading.source.isNone others
  | .divider :: others =>
      let adjacent := afterSource || (reading.source.isNone && !others.isEmpty)
      { reading with leftover := reading.leftover || !adjacent }.words false others
  | .unknown :: others => { reading with leftover := true }.words false others
  | .cluster options :: others =>
      match reading.switchAll options with
      | .ok next => next.words false others
      | .error refusal => .error refusal
  | .option option (some value) :: others =>
      match reading.assign option value with
      | .ok next => next.words false others
      | .error refusal => .error refusal
  | .option option none :: others =>
      if option.takesValue then
        match others with
        | .plain value :: rest =>
            match reading.assign option value with
            | .ok next => next.words false rest
            | .error refusal => .error refusal
        | _ => .error .badArguments
      else
        match reading.switch option with
        | .ok next => next.words false others
        | .error refusal => .error refusal
  | .ambiguous :: _ | .malformed :: _ => .error .badArguments

def request (reading : Reading) : Except Refusal ExportRequest :=
  match reading.source with
  | some source =>
      if reading.leftover then .error .badArguments
      else
        .ok { source, out := reading.out, maxSteps := reading.maxSteps, mode := reading.mode,
              verbose := reading.verbose }
  | none => .error .badArguments

end Reading

def ExportRequest.ofArguments (arguments : List String) : Except Refusal ExportRequest :=
  let words := Word.ofArguments arguments
  if words.contains .ambiguous then .error .badArguments
  else
    match Reading.start.words false words with
    | .ok reading => reading.request
    | .error refusal => .error refusal

end Stepwise.CommandLine
