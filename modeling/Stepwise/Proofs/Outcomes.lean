import Stepwise.Proofs.Reading.Progress
import Stepwise.Proofs.Linkage.Run

/-!
# How a run can end

A source is rejected with a complaint about a line, or its run ends with an issue of the language, or with a trace.
Numbers and texts have limits of their own, though, and a source that goes beyond one ends with a fault, which is
neither. The faults are accounted for here: while reading they come from a numeral of the source that has no value,
and while running from an operation on numbers or texts. No bound on the depth of reading is ever too small, no handle
leads nowhere, and no character literal is malformed.
-/

namespace Stepwise

set_option autoImplicit false

def Fault.IsLimit : Fault → Prop
  | .missingHandle | .malformedCharacter _ => False
  | _ => True

/-- The ways in which interpreting a source can end. -/
inductive Accounted (source : String) : Except RunError (List Step) → Prop
  | traced (steps : List Step) : Accounted source (.ok steps)
  | complained (error : SourceError) : Accounted source (.error (.rejected (.malformed error)))
  | issued (cause : Issue) (line : Option Nat) : Accounted source (.error (.failed (.issue cause line)))
  | unread {tokens : List Token} {token : Token} {fault : Fault} (scanned : scan source = .ok tokens)
      (member : token ∈ tokens) (faulty : token.Faulty fault) : Accounted source (.error (.rejected (.fault fault)))
  | limited {compiled : Compiled} {fault : Fault} (accepted : compile source = .ok compiled) (limit : fault.IsLimit) :
      Accounted source (.error (.failed (.fault fault)))

theorem accounted_of_failure {source : String} {compiled : Compiled} (accepted : compile source = .ok compiled)
    {failure : Failure} (benign : failure.Benign) : Accounted source (.error (.failed failure)) := by
  cases failure with
  | issue cause line => exact .issued cause line
  | fault fault => exact .limited accepted (by cases fault <;> exact benign)

theorem accounted_of_rejection {source : String} {rejection : Rejection} (rejected : compile source = .error rejection) :
    Accounted source (.error (.rejected rejection)) := by
  unfold compile at rejected
  split at rejected
  · cases rejected
    exact .complained _
  · next tokens scanned =>
      obtain ⟨first, rest, rfl, terminated⟩ := Scan.terminated_tokensFrom scanned
      split at rejected
      · next found failed =>
          cases rejected
          cases Program.justified_of_ofTokens terminated failed with
          | malformed error => exact .complained error
          | fault given faulty => exact .unread scanned given faulty
      · cases rejected

theorem Failure.Benign.attributed {failure : Failure} (benign : failure.Benign) (line : Nat) :
    (failure.attributed line).Benign := by
  cases failure with
  | issue cause own => cases own <;> trivial
  | fault fault => exact benign

theorem benign_of_trace {source : String} {compiled : Compiled} (accepted : compile source = .ok compiled)
    {options : Options} {failure : Failure} (failed : compiled.program.trace options = .error failure) :
    failure.Benign := by
  have compiles : Context.Compiles { options, program := compiled.program } source := ⟨compiled, accepted, rfl⟩
  unfold Program.trace at failed
  split at failed
  · cases failed
  · next cause state ended =>
      cases failed
      exact (compiles.runs.failing cause state ended).attributed state.line

/-- Whatever the source, interpreting it with a positive limit and a known mode ends with a trace, with a complaint
about the source, with an issue, or with a fault that a numeral of the source or an operation on numbers or texts
accounts for. -/
theorem interpret_accounted (source : String) (maxSteps : Int) (mode : String) (positive : 1 ≤ maxSteps)
    (known : mode = "local" ∨ mode = "all") : Accounted source (interpret source maxSteps mode) := by
  obtain ⟨options, asked⟩ : ∃ options, Options.of maxSteps mode = .ok options := by
    unfold Options.of
    rw [if_neg (by omega)]
    rcases known with rfl | rfl
    · exact ⟨_, rfl⟩
    · exact ⟨_, rfl⟩
  unfold interpret
  split
  · next rejection rejected => exact accounted_of_rejection rejected
  · next compiled accepted =>
      rw [asked]
      dsimp only
      split
      · next failure failed => exact accounted_of_failure accepted (benign_of_trace accepted failed)
      · split
        · exact .traced []
        · exact .issued .noSteps none
      · next steps _ _ => exact .traced steps

def errorOf? : Except RunError (List Step) → Option RunError
  | .ok _ => none
  | .error error => some error

theorem eq_error_of_errorOf? {outcome : Except RunError (List Step)} {error : RunError}
    (found : errorOf? outcome = some error) : outcome = .error error := by
  cases outcome with
  | ok steps => cases found
  | error other => exact congrArg Except.error (Option.some.inj found)

/-- A variable that has not been assigned holds the first character, and there is none before it. -/
def charBelowFirst : String :=
  "class Main \x7b void main() \x7b char c; c--; \x7d \x7d"

theorem interpret_charBelowFirst :
    interpret charBelowFirst 25000 "local" = .error (.failed (.fault .charOutOfRange)) := by
  have reports : errorOf? (interpret charBelowFirst 25000 "local") = some (.failed (.fault .charOutOfRange)) := by
    rw [interpret, compile, scan, toList_of_written charBelowFirst rfl]
    decide +kernel
  exact eq_error_of_errorOf? reports

theorem charBelowFirst_limited :
    interpret charBelowFirst 25000 "local" = .error (.failed (.fault .charOutOfRange)) ∧
      Accounted charBelowFirst (interpret charBelowFirst 25000 "local") :=
  ⟨interpret_charBelowFirst, interpret_accounted charBelowFirst 25000 "local" (by decide) (.inl rfl)⟩

/-- Not every run ends with a trace, a complaint about the source or an issue. -/
theorem interpret_escapes :
    ¬∀ (source : String) (maxSteps : Int) (mode : String), 1 ≤ maxSteps → mode = "local" ∨ mode = "all" →
      (∃ steps, interpret source maxSteps mode = .ok steps) ∨
        (∃ error, interpret source maxSteps mode = .error (.rejected (.malformed error))) ∨
          ∃ cause line, interpret source maxSteps mode = .error (.failed (.issue cause line)) := by
  intro documented
  have ends := documented charBelowFirst 25000 "local" (by decide) (.inl rfl)
  rw [interpret_charBelowFirst] at ends
  obtain ⟨_, ended⟩ | ⟨_, ended⟩ | ⟨_, _, ended⟩ := ends
  all_goals cases ended

end Stepwise
