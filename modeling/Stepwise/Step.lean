import Stepwise.Heap

/-!
Steps: what is recorded of a run after every observable operation. A step keeps the heap as it was and the frames of
the call stack, the innermost first; the variables are those of the innermost scope, or every name declared so far, a
name that is not in scope having no value.
-/

namespace Stepwise

set_option autoImplicit false

/-- What a step marks, beyond the line being executed. -/
inductive Event
  | allocation | return_
  deriving DecidableEq, Repr

def Event.label : Event → String
  | allocation => "allocation"
  | return_ => "return"

/-- A frame of the call stack: the method, the line of its declaration, its class, and the scope to go back to. -/
structure Frame where
  methodName : String
  line : Nat
  scope : Nat
  className : String
  deriving DecidableEq, Repr

structure Step where
  line : Nat
  bindings : List (String × Option Value)
  heap : Heap
  frames : List Frame
  console : Option Text
  event : Option Event
  deriving Repr

def notDeclared : Json := .string "not-declared"

namespace Frame

def shown (frame : Frame) : Json :=
  .object [("methodName", .string frame.methodName), ("line", .int frame.line)]

end Frame

namespace Step

def shownVariables (step : Step) : List (String × Json) :=
  step.bindings.map fun entry =>
    (entry.1, match entry.2 with | some value => value.shown | none => notDeclared)

/-- The frames as data, the outermost first. -/
def shownFrames (step : Step) : List Json :=
  step.frames.reverse.map Frame.shown

def optionalField (name : String) : Option Text → List (String × Json)
  | some text => [(name, .string text)]
  | none => []

def shown (step : Step) : Json :=
  .object
    ([("lineNumber", .int step.line), ("variables", .object step.shownVariables),
        ("heap", .object step.heap.shown), ("callStack", .array step.shownFrames)] ++
      optionalField "consoleOutput" step.console ++
      optionalField "event" (step.event.map fun event => event.label))

end Step

end Stepwise
