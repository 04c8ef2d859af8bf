import Stepwise.Source
import Stepwise.Text.Blank

/-!
The checking command: reports the first problem of a source, or how many classes and tokens it has, with a list of the
tokens on request.
-/

namespace Stepwise.CommandLine

set_option autoImplicit false

/-- How a command ends: its status and what it prints. -/
structure Ending where
  status : Nat
  output : String
  deriving DecidableEq, Repr

def checkUsage : Ending :=
  { status := 1, output := "Usage: javavis.py <file.java> [--tokens]\n" }

structure CheckRequest where
  file : String
  listTokens : Bool
  deriving DecidableEq, Repr

/-- The request of the arguments, if they name a file. Arguments that are not known do not matter. -/
def CheckRequest.ofArguments : List String → Option CheckRequest
  | [] => none
  | file :: others => some { file, listTokens := others.contains "--tokens" }

def alignedRight (width : Nat) (text : String) : String :=
  String.ofList (List.replicate (width - text.length) ' ') ++ text

def alignedLeft (width : Nat) (text : String) : String :=
  text ++ String.ofList (List.replicate (width - text.length) ' ')

def tokenLine (token : String × String × Nat) : String :=
  alignedRight 4 (toString token.2.2) ++ "  " ++ alignedLeft 16 token.1 ++ " " ++ token.2.1 ++ "\n"

def findingLines (finding : Finding) : String :=
  "[ERROR] line " ++ toString finding.line ++ ": " ++ finding.message ++ "\n" ++
    (match finding.hint with
      | some hint => "        hint: " ++ hint ++ "\n"
      | none => "")

/-- The line that sums up a source without a problem, with the time in milliseconds as text. -/
def summaryLine (compiled : Compiled) (elapsed : String) : String :=
  "OK | Classes: " ++ toString compiled.program.classes.length ++ " | Tokens: " ++
    toString compiled.tokens.length ++ " | Time: " ++ elapsed ++ " ms\n"

inductive Verdict
  | problem (finding : Finding)
  | sound (compiled : Compiled)
  deriving Repr

/-- Checks the text of a file. A blank text that does not compile has no problem to report and is not sound either. -/
def verdict (text : String) : Except Rejection Verdict :=
  let source := Text.unifyLines text
  match check source with
  | some finding => .ok (.problem finding)
  | none =>
      match compile source with
      | .error rejection => .error rejection
      | .ok compiled => .ok (.sound compiled)

def Verdict.ending (verdict : Verdict) (listTokens : Bool) (elapsed : String) : Ending :=
  match verdict with
  | .problem finding => { status := 1, output := findingLines finding }
  | .sound compiled =>
      let listing := if listTokens then String.join ((describeTokens compiled.tokens).map tokenLine) else ""
      { status := 0, output := listing ++ summaryLine compiled elapsed }

end Stepwise.CommandLine
