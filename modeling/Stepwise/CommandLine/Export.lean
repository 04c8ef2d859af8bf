import Stepwise.CommandLine.Arguments
import Stepwise.Json.Document
import Stepwise.Path
import Stepwise.Step.Change
import Stepwise.Text.Blank

/-!
The exporting command: runs a source and writes its trace to two files, a document with all that was recorded and a
table with one row for each step. What happened is told in a log.

In a table fields are separated by commas, and every row ends with a carriage return and a line feed. A field that
holds a separator, a quote or a line end stands in quotes, with its quotes doubled.
-/

namespace Stepwise.CommandLine

set_option autoImplicit false

namespace Table

def needsQuotes (point : CodePoint) : Bool :=
  point = .ofChar ',' || point = .ofChar '"' || point = .ofChar '\r' || point = .ofChar '\n'

def doubled (field : Text) : Text :=
  field.flatMap fun point => if point = .ofChar '"' then [point, point] else [point]

def fieldText (field : Text) : Text :=
  if field.any needsQuotes then [.ofChar '"'] ++ doubled field ++ [.ofChar '"'] else field

def rowText (fields : List Text) : Text :=
  [.ofChar ','].intercalate (fields.map fieldText) ++ Text.ofString "\r\n"

def text (rows : List (List Text)) : Text :=
  rows.flatMap rowText

end Table

inductive Level
  | info | error
  deriving DecidableEq, Repr

def Level.label : Level → String
  | info => "INFO"
  | error => "ERROR"

structure LogEntry where
  level : Level
  message : String
  deriving DecidableEq, Repr

def LogEntry.line (entry : LogEntry) : String :=
  "[" ++ entry.level.label ++ "] " ++ entry.message ++ "\n"

structure Output where
  path : Path
  text : String
  deriving DecidableEq, Repr

/-- How an export ends: its status, its log, and the files it writes. -/
structure Export where
  status : Nat
  log : List LogEntry
  files : List Output
  deriving DecidableEq, Repr

def tableHeader : List Text :=
  ["step", "line", "event", "changed_variables", "changed_heap", "console_output"]

def traceDocument (steps : List Step) : Except Fault String :=
  (Json.array (steps.map Step.shown)).document

def traceTable (steps : List Step) : Text :=
  Table.text (tableHeader :: StepView.rows (steps.map Step.view))

inductive ExportError
  | run (error : RunError)
  /-- There is no limit of steps to run the source with. -/
  | limitMissing
  | blocked (obstacle : Path.Obstacle)
  /-- The table would hold a surrogate, which no file does. -/
  | surrogate
  deriving DecidableEq, Repr

def ExportError.text : ExportError → String
  | .run error => error.text
  | .limitMissing => "'<' not supported between instances of 'list' and 'int'"
  | .blocked .fileInPlace => "File exists."
  | .blocked .notADirectory => "Not a directory."
  | .surrogate => "surrogates not allowed"

namespace Export

def ofSourceError (error : SourceError) : Export :=
  { status := 1
    log := { level := .error, message := "Syntax error at line " ++ toString error.line ++ ": " ++ error.message } ::
      (match error.hint with
        | some hint => [{ level := .error, message := "hint: " ++ hint }]
        | none => [])
    files := [] }

def lineText : Option Nat → String
  | some line => toString line
  | none => "None"

def ofIssue (issue : Issue) (line : Option Nat) : Export :=
  { status := 2
    log := [{ level := .error, message := "Runtime error at line " ++ lineText line ++ ": " ++ issue.message }]
    files := [] }

def ofTrace (directory : Path) (stem : String) (steps : List Step) : Except ExportError Export :=
  match traceDocument steps, (traceTable steps).toString? with
  | .error fault, _ => .error (.run (.failed (.fault fault)))
  | .ok _, none => .error .surrogate
  | .ok document, some table =>
      let files : List Output :=
        [{ path := directory.child (stem ++ ".trace.json"), text := document },
          { path := directory.child (stem ++ ".steps.csv"), text := table }]
      .ok
        { status := 0
          log := files.map (fun file => { level := .info, message := "Wrote " ++ file.path.text }) ++
            [{ level := .info, message := toString steps.length ++ " step(s) exported." }]
          files }

end Export

def ExportRequest.directory (request : ExportRequest) (home : Path) : Path :=
  match request.out with
  | some out => Path.ofText out
  | none => home

/-- The trace of the source. A source that does not compile is rejected before the limit is looked at. -/
def ExportRequest.trace (request : ExportRequest) (source : String) : Except ExportError (List Step) :=
  match request.maxSteps with
  | some limit =>
      match interpret source limit request.mode.name with
      | .ok steps => .ok steps
      | .error error => .error (.run error)
  | none =>
      match compile source with
      | .ok _ => .error .limitMissing
      | .error rejection => .error (.run (.rejected rejection))

def ExportRequest.perform (request : ExportRequest) (home : Path) (text : String) : Except ExportError Export :=
  match request.trace (Text.unifyLines text) with
  | .error (.run (.rejected (.malformed error))) => .ok (.ofSourceError error)
  | .error (.run (.failed (.issue issue line))) => .ok (.ofIssue issue line)
  | .error error => .error error
  | .ok steps =>
      let source := Path.ofText request.source
      let directory := request.directory home
      match directory.obstacle? source with
      | some obstacle => .error (.blocked obstacle)
      | none => Export.ofTrace directory source.stem steps

end Stepwise.CommandLine
