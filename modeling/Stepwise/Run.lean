import Stepwise.Eval.Statement
import Stepwise.Source

/-!
Runs of programs. A call takes a frame of the call stack, and so does the making of an object; how many frames still
fit is what calls are defined by recursion on. A run declares the classes, initialises the static fields, and then
executes `Main.main`. A trace is the list of the steps it recorded.
-/

namespace Stepwise

set_option autoImplicit false

open Machine

def maxCallDepth : Nat := 3000

namespace Machine

/-- The value that the body of a method yields by the way it completed. -/
def methodResult : Completion → Machine Value
  | .returned value => return value
  | .normal => return .void
  | .jump jump => fail (.outsideLoop jump)

/-- Runs the body of a method in a frame and a scope of its own. -/
def runFrame (frame : Frame) (activation : Nat) (body : Machine Completion) : Machine Value := do
  pushFrame frame
  enterScope activation
  let completion ← body
  let value ← methodResult completion
  popFrame
  leaveScope activation frame.scope
  return value

def bindParams (activation : Nat) : List Param → List Value → Machine Unit
  | param :: params, argument :: arguments => do
      declareIn activation param.name argument (some param.typeName)
      noteDeclared param.name
      bindParams activation params arguments
  | _, _ => return ()

def checkArguments (method : Method) (arguments : List Value) (line : Nat) : Machine Unit :=
  if arguments.length = method.params.length then return ()
  else failOn line (.argumentCount method.name method.params.length arguments.length)

/-- The fields of a new object, in the order of their declaration. -/
def initialFields (context : Context) (calls : Calls) (fields : List (String × Value)) :
    List Declaration → Machine (List (String × Value))
  | [] => return fields
  | declaration :: others => do
      let value ←
        match declaration.value with
        | some expression => expression.eval context calls
        | none => pure (Value.default declaration.typeName)
      let stored ← ofOutcome (value.coerce (some declaration.typeName))
      initialFields context calls (Pairs.put declaration.name stored fields) others

end Machine

/-- Calls with room for so many more frames. The initialisers of an object see the global scope only. -/
def Calls.within (context : Context) : Nat → Calls
  | 0 =>
      { invoke := fun method _ arguments line => do
          checkArguments method arguments line
          failOn line .stackOverflow
        instantiate := fun _ => fail .stackOverflow }
  | room + 1 =>
      { invoke := fun method className arguments line => do
          checkArguments method arguments line
          let activation ← openScope globalScope
          bindParams activation method.params arguments
          let frame : Frame := { methodName := method.name, line := method.line, scope := (← get).current, className }
          runFrame frame activation (Stmt.execAll context (Calls.within context room) method.body)
        instantiate := fun decl => do
          let outer := (← get).current
          enterScope globalScope
          pushFrame { methodName := "<init>", line := decl.line, scope := outer, className := decl.name }
          let fields ← initialFields context (Calls.within context room) [] decl.instanceFields
          enterScope outer
          popFrame
          return .object decl.name fields }

def Calls.outermost (context : Context) : Calls :=
  Calls.within context (maxCallDepth - 1)

namespace Machine

def declareClasses : List ClassDecl → Machine Unit
  | [] => return ()
  | decl :: decls => do
      atLine decl.line
      declareIn globalScope decl.name (.class_ decl.name decl.methodNames) none
      declareClasses decls

def declareAll (context : Context) : List Declaration → Machine Unit
  | [] => return ()
  | declaration :: others => do
      declaration.exec context (Calls.outermost context)
      declareAll context others

/-- Initialises the static fields of the classes that have any, each class in a frame of its own. -/
def initializeStatics (context : Context) : List ClassDecl → Machine Unit
  | [] => return ()
  | decl :: decls => do
      if !decl.staticFields.isEmpty then
        pushFrame { methodName := "<clinit>", line := decl.line, scope := globalScope, className := decl.name }
        declareAll context decl.staticFields
        popFrame
      initializeStatics context decls

end Machine

def Program.entryPoint? (program : Program) : Option Method :=
  (program.class? "Main").bind fun decl => decl.method? "main"

def Context.execute (context : Context) : Machine Unit := do
  declareClasses context.program.classes
  match context.program.entryPoint? with
  | none => fail .noEntryPoint
  | some main =>
      initializeStatics context context.program.classes
      let outer := (← get).current
      let activation ← openScope globalScope
      let frame : Frame := { methodName := "main", line := main.line, scope := outer, className := "Main" }
      let _ ← runFrame frame activation (Stmt.execAll context (Calls.outermost context) main.body)

/-- The trace of a program, or the failure of its run with the line it is attributed to. -/
def Program.trace (program : Program) (options : Options) : Except Failure (List Step) :=
  match ({ options, program } : Context).execute.run State.initial with
  | .ok _ state => .ok state.steps.toList
  | .error failure state => .error (failure.attributed state.line)

inductive RunError
  | rejected (rejection : Rejection)
  | failed (failure : Failure)
  | limitNotPositive
  | unknownMode (name : String)
  /-- A session runs one program only. -/
  | sessionUsed
  deriving DecidableEq, Repr

def RunError.text : RunError → String
  | .rejected rejection => rejection.text
  | .failed failure => failure.message
  | .limitNotPositive => "max_steps must be positive."
  | .unknownMode name => "variables must be one of ('local', 'all'), got " ++ Text.quoted name ++ "."
  | .sessionUsed => "Interpreter instances run a single program; create a new one."

def VariablesMode.name : VariablesMode → String
  | .local_ => "local"
  | .all => "all"

def VariablesMode.ofName? (name : String) : Option VariablesMode :=
  if name = "local" then some .local_ else if name = "all" then some .all else none

theorem VariablesMode.ofName?_name (mode : VariablesMode) : VariablesMode.ofName? mode.name = some mode := by
  cases mode <;> rfl

def defaultMaxSteps : Nat := 25000

def Options.of (maxSteps : Int) (mode : String) : Except RunError Options :=
  if maxSteps < 1 then .error .limitNotPositive
  else
    match VariablesMode.ofName? mode with
    | some mode => .ok { maxSteps := maxSteps.toNat, mode }
    | none => .error (.unknownMode mode)

/-- Compiles and runs a source. A source that is not blank has to record a step. -/
def interpret (source : String) (maxSteps : Int) (mode : String) : Except RunError (List Step) :=
  match compile source with
  | .error rejection => .error (.rejected rejection)
  | .ok compiled =>
      match Options.of maxSteps mode with
      | .error error => .error error
      | .ok options =>
          match compiled.program.trace options with
          | .error failure => .error (.failed failure)
          | .ok [] =>
              if Text.isBlankText source then .ok [] else .error (.failed (.bare .noSteps))
          | .ok steps => .ok steps

/-- A session can run one program. A source that does not compile leaves it unused. -/
structure Session where
  options : Options
  used : Bool
  deriving DecidableEq, Repr

def Session.run (session : Session) (source : String) : Except RunError (List Step) × Session :=
  match compile source with
  | .error rejection => (.error (.rejected rejection), session)
  | .ok compiled =>
      if session.used then (.error .sessionUsed, session)
      else
        let outcome :=
          match compiled.program.trace session.options with
          | .error failure => .error (.failed failure)
          | .ok steps => .ok steps
        (outcome, { session with used := true })

def Session.runAll (session : Session) : List String → List (Except RunError (List Step))
  | [] => []
  | source :: sources =>
      let (outcome, next) := session.run source
      outcome :: next.runAll sources

end Stepwise
