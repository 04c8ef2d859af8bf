import Stepwise.Service.Request
import Stepwise.Tree.Outline

/-!
The service: what a client can ask about a source, and the replies. A source can be checked, shown as a tree, or run.
A run is refused before it starts when the source is blank or does not compile, so that a report of a syntax error
never comes from a run; a run that fails is reported as such. A fault is not turned into a reply.
-/

namespace Stepwise.Service

set_option autoImplicit false

inductive ReportKind
  | syntactic | runtime
  deriving DecidableEq, Repr

def ReportKind.label : ReportKind → String
  | syntactic => "syntax"
  | runtime => "runtime"

structure Report where
  kind : ReportKind
  message : String
  line : Option Nat
  hint : Option String
  deriving DecidableEq, Repr

namespace Report

def ofFinding (finding : Finding) : Report :=
  { kind := .syntactic, message := finding.message, line := some finding.line, hint := finding.hint }

def ofIssue (issue : Issue) (line : Option Nat) : Report :=
  { kind := .runtime, message := issue.message, line, hint := none }

def noCode : Report :=
  { kind := .syntactic, message := "No code provided.", line := none, hint := none }

/-- The report as data. What is not known is left out. -/
def shown (report : Report) : Json :=
  .object
    ([("kind", .string report.kind.label), ("message", .string report.message)] ++
      (match report.line with | some line => [("line", .int line)] | none => []) ++
      (match report.hint with | some hint => [("hint", .string hint)] | none => []))

end Report

inductive Reply
  | page (text : String)
  | alive
  | checked (report : Option Report)
  | outlined (tokenCount : Nat) (outline : Json)
  | outlineRefused (report : Report)
  | traced (steps : List Step)
  | runRefused (report : Report)
  | unprocessable (flaws : List FieldFlaw)
  deriving Repr

namespace Reply

/-- The status of a reply: 200 for an answer, 400 for a source that was refused, 422 for a flawed request. A check
that finds something is an answer. -/
def status : Reply → Nat
  | page _ | alive | checked _ | outlined .. | traced _ => 200
  | outlineRefused _ | runRefused _ => 400
  | unprocessable _ => 422

def body : Reply → Json
  | page text => .string text
  | alive => .object [("status", .string "ok")]
  | checked none => .object [("error", .null)]
  | checked (some report) => .object [("error", report.shown)]
  | outlined tokenCount outline =>
      .object [("token_count", .int tokenCount), ("ast", outline), ("error", .null)]
  | outlineRefused report => .object [("ast", .null), ("error", report.shown)]
  | traced steps => .object [("trace", .array (steps.map Step.shown)), ("error", .null)]
  | runRefused report => .object [("trace", .array []), ("error", report.shown)]
  | unprocessable flaws =>
      .object [("invalid", .array (flaws.map fun flaw => .array [.string flaw.1, .string flaw.2.label]))]

end Reply

def welcome : String :=
  "<h2>Java Execution Visualizer API</h2><p>POST <code>/api/interpret</code> with JSON: " ++
    "<code>\x7b\"code\": \"...\"\x7d</code></p>"

def validate (request : CodeRequest) : Reply :=
  .checked ((check request.code).map Report.ofFinding)

def outline (request : CodeRequest) : Except RunError Reply :=
  match compile request.code with
  | .ok compiled => .ok (.outlined compiled.tokens.length (compiled.program.outline.upTo Outline.defaultDepth))
  | .error (.malformed error) => .ok (.outlineRefused (.ofFinding (Rejection.malformed error).finding))
  | .error rejection => .error (.rejected rejection)

def run (request : RunRequest) : Except RunError Reply :=
  if Text.isBlankText request.code then .ok (.runRefused .noCode)
  else
    match check request.code with
    | some finding => .ok (.runRefused (.ofFinding finding))
    | none =>
        match interpret request.code request.maxSteps request.mode.name with
        | .ok steps => .ok (.traced steps)
        | .error (.rejected (.malformed error)) =>
            .ok (.runRefused (.ofFinding (Rejection.malformed error).finding))
        | .error (.failed (.issue issue line)) => .ok (.runRefused (.ofIssue issue line))
        | .error error => .error error

inductive Endpoint
  | index | health | validate | parse | interpret
  deriving DecidableEq, Repr

def Endpoint.ofName? (name : String) : Option Endpoint :=
  match name with
  | "index" => some .index
  | "health" => some .health
  | "validate" => some .validate
  | "parse" => some .parse
  | "interpret" => some .interpret
  | _ => none

def answer (readInteger : IntegerReader) (endpoint : Endpoint) (body : Json) : Except RunError Reply :=
  match endpoint with
  | .index => .ok (.page welcome)
  | .health => .ok .alive
  | .validate =>
      match CodeRequest.ofJson body with
      | .ok request => .ok (validate request)
      | .error flaws => .ok (.unprocessable flaws)
  | .parse =>
      match CodeRequest.ofJson body with
      | .ok request => outline request
      | .error flaws => .ok (.unprocessable flaws)
  | .interpret =>
      match RunRequest.ofJson readInteger body with
      | .ok request => run request
      | .error flaws => .ok (.unprocessable flaws)

end Stepwise.Service
