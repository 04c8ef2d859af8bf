import Stepwise.Step

/-!
Changes from step to step. A step is looked at as data; a heap cell, which is never null, has changed when it is new or
holds other data than before, a variable when it is new, holds other data, or refers to a cell that has changed. A row
sums up one step of a trace.
-/

namespace Stepwise

set_option autoImplicit false

structure StepView where
  line : Nat
  bindings : List (String × Json)
  heap : List (String × Json)
  console : Option Text
  event : Option String
  deriving Repr

def Step.view (step : Step) : StepView :=
  { line := step.line, bindings := step.shownVariables, heap := step.heap.shown, console := step.console,
    event := step.event.map Event.label }

def differs (before : List (String × Json)) (name : String) (data : Json) : Bool :=
  match before.lookup name with
  | some old => !old.agrees data
  | none => true

namespace StepView

def cell (step : StepView) (name : String) : Json :=
  (step.heap.lookup name).getD .null

/-- The names of the cells that changed since the step before. Nothing has changed in the first step. -/
def changedCells (step : StepView) : Option StepView → List String
  | none => []
  | some before => (step.heap.filter fun entry => !(before.cell entry.1).agrees entry.2).map Prod.fst

def refersTo (cells : List String) (data : Json) : Bool :=
  match data.field? "__ref__" with
  | some (.string cell) => cells.any fun name => cell = name
  | _ => false

def changedVariables (step : StepView) : Option StepView → List String
  | none => []
  | some before =>
      let cells := step.changedCells (some before)
      (step.bindings.filter fun entry =>
        differs before.bindings entry.1 entry.2 || refersTo cells entry.2).map Prod.fst

end StepView

def consoleLine (text : Option Text) : Text :=
  match text with
  | some text => text.flatMap fun point => if point = .ofChar '\n' then Text.ofString "\\n" else [point]
  | none => []

namespace StepView

def row (number : Nat) (before : Option StepView) (step : StepView) : List Text :=
  [toString number, toString step.line, step.event.getD "", " ".intercalate (step.changedVariables before),
    " ".intercalate (step.changedCells before), consoleLine step.console]

def rowsFrom (number : Nat) (before : Option StepView) : List StepView → List (List Text)
  | [] => []
  | step :: steps => step.row number before :: rowsFrom (number + 1) (some step) steps

def rows (steps : List StepView) : List (List Text) :=
  rowsFrom 0 none steps

end StepView

end Stepwise
