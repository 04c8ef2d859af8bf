import Stepwise.Token.Scan
import Stepwise.Tree.Grammar
import Stepwise.Text.Blank

/-!
Sources: a text is compiled into its tokens and its program, or rejected. Checking reports only the first thing that
is wrong, and finds nothing wrong with a blank text.
-/

namespace Stepwise

set_option autoImplicit false

structure Compiled where
  tokens : List Token
  program : Program
  deriving Repr

def compile (source : String) : Except Rejection Compiled :=
  match scan source with
  | .error error => .error (.malformed error)
  | .ok tokens =>
      match Program.ofTokens tokens with
      | .error rejection => .error rejection
      | .ok program => .ok { tokens, program }

structure Finding where
  line : Nat
  message : String
  hint : Option String
  deriving DecidableEq, Repr

def Rejection.text : Rejection → String
  | .malformed error => error.text
  | .fault cause => cause.message
  | .unterminated => "Token stream must end with an EOF token."
  | .exhausted => "The program nests too deeply."

/-- The report of a rejection. What is not about a line of the source is reported on the first. -/
def Rejection.finding : Rejection → Finding
  | .malformed error => { line := error.line, message := error.message, hint := error.hint }
  | other => { line := 1, message := "Unable to parse code: " ++ other.text, hint := none }

/-- The first problem of a source, if there is one. -/
def check (source : String) : Option Finding :=
  if Text.isBlankText source then none
  else
    match compile source with
    | .ok _ => none
    | .error rejection => some rejection.finding

end Stepwise
