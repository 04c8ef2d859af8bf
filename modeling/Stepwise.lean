import Stepwise.Service
import Stepwise.Main
import Stepwise.Proofs.Nesting
import Stepwise.Proofs.Storage
import Stepwise.Proofs.HeapTrace
import Stepwise.Proofs.Linkage.Run
import Stepwise.Proofs.Isolation
import Stepwise.Proofs.StepLimit
import Stepwise.Proofs.Display
import Stepwise.Proofs.Termination
import Stepwise.Proofs.Outcomes
import Stepwise.Proofs.Attribution.Straight
import Stepwise.Proofs.RoundTrip
import Stepwise.Proofs.Scanning.Stability
import Stepwise.Proofs.SourceLines
import Stepwise.Proofs.WellFormed
import Stepwise.Proofs.Replies
import Stepwise.Proofs.CallStack
import Stepwise.Proofs.Reading.Reach
import Stepwise.Proofs.Escapes.Console
import Stepwise.Proofs.FieldTypes
import Stepwise.Proofs.ReturnTypes
import Stepwise.Proofs.StepOrder
import Stepwise.Proofs.UpdateForms
import Stepwise.Proofs.Loops
import Stepwise.Proofs.Shadowing
import Stepwise.Proofs.Comparison
import Stepwise.Proofs.Division
import Stepwise.Proofs.Doubles.Text
import Stepwise.Proofs.Changes
import Stepwise.Proofs.Outlines.Nodes
import Stepwise.Proofs.Templates
