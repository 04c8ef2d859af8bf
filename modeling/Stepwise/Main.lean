import Stepwise.CommandLine.Check
import Stepwise.CommandLine.Export

/-!
The program: checks a source file, or with `export` in front of the other arguments writes the trace of its run.
-/

namespace Stepwise.CommandLine

set_option autoImplicit false

/-- Milliseconds with two places, for a time in nanoseconds. -/
def millisecondsText (nanoseconds : Nat) : String :=
  String.ofList (Number.fixedDigits 2 (Number.roundHalfEven nanoseconds 10000))

def checkMain (arguments : List String) : IO UInt32 := do
  match CheckRequest.ofArguments arguments with
  | none =>
      IO.print checkUsage.output
      return UInt32.ofNat checkUsage.status
  | some request =>
      let text ← IO.FS.readFile request.file
      let begun ← IO.monoNanosNow
      match verdict text with
      | .ok verdict =>
          let ended ← IO.monoNanosNow
          let ending := verdict.ending request.listTokens (millisecondsText (ended - begun))
          IO.print ending.output
          return UInt32.ofNat ending.status
      | .error rejection =>
          IO.eprintln rejection.text
          return 1

def exportMain (arguments : List String) : IO UInt32 := do
  match ExportRequest.ofArguments arguments with
  | .error refusal =>
      IO.eprintln "usage: export source [--out OUT] [--max-steps N] [--all-variables] [-v]"
      return UInt32.ofNat refusal.status
  | .ok request =>
      let text ← IO.FS.readFile request.source
      let resolved ← IO.FS.realPath request.source
      match request.perform (Path.ofText resolved.toString).parent text with
      | .error error =>
          IO.eprintln error.text
          return 1
      | .ok done =>
          for file in done.files do
            IO.FS.createDirAll file.path.parent.text
            IO.FS.writeFile file.path.text file.text
          for entry in done.log do
            IO.eprint entry.line
          return UInt32.ofNat done.status

end Stepwise.CommandLine

def main (arguments : List String) : IO UInt32 :=
  match arguments with
  | "export" :: others => Stepwise.CommandLine.exportMain others
  | _ => Stepwise.CommandLine.checkMain arguments
