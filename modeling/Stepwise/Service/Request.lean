import Stepwise.Json
import Stepwise.Run

/-!
Requests: what a body of data has to hold to ask for something. Every field is read on its own, so that a body is
refused with all of its flaws at once; fields that are not asked for do not matter. Which data counts as an integer is
for the reader of requests to say, and so is a parameter.
-/

namespace Stepwise.Service

set_option autoImplicit false

inductive Flaw
  | missing
  | notText
  /-- Text with a surrogate, which no source holds. -/
  | notUnicode
  | notInteger (reason : String)
  | tooSmall
  | tooLarge
  | notAmongChoices
  deriving DecidableEq, Repr

def Flaw.label : Flaw → String
  | missing => "missing"
  | notText => "string_type"
  | notUnicode => "string_unicode"
  | notInteger reason => reason
  | tooSmall => "greater_than_equal"
  | tooLarge => "less_than_equal"
  | notAmongChoices => "literal_error"

structure CodeRequest where
  code : String
  deriving DecidableEq, Repr

structure RunRequest where
  code : String
  maxSteps : Nat
  mode : VariablesMode
  positive : 1 ≤ maxSteps
  bounded : maxSteps ≤ defaultMaxSteps
  deriving DecidableEq, Repr

abbrev Limit : Type := { limit : Nat // 1 ≤ limit ∧ limit ≤ defaultMaxSteps }

def Limit.default : Limit := ⟨defaultMaxSteps, by decide, by decide⟩

def Limit.ofInteger (steps : Int) : Except Flaw Limit :=
  if small : steps < 1 then .error .tooSmall
  else if large : (defaultMaxSteps : Int) < steps then .error .tooLarge
  else .ok ⟨steps.toNat, by omega, by omega⟩

def readCode (body : Json) : Except Flaw String :=
  match body.field? "code" with
  | none => .error .missing
  | some (.string code) =>
      match code.toString? with
      | some code => .ok code
      | none => .error .notUnicode
  | some _ => .error .notText

/-- Reads an integer from data, or says in a word why there is none. -/
abbrev IntegerReader : Type := Json → Except String Int

def readLimit (readInteger : IntegerReader) (body : Json) : Except Flaw Limit :=
  match body.field? "max_steps" with
  | none => .ok .default
  | some data =>
      match readInteger data with
      | .ok steps => Limit.ofInteger steps
      | .error reason => .error (.notInteger reason)

def readMode (body : Json) : Except Flaw VariablesMode :=
  match body.field? "variables" with
  | none => .ok .local_
  | some (.string name) =>
      match name.toString?.bind VariablesMode.ofName? with
      | some mode => .ok mode
      | none => .error .notAmongChoices
  | some _ => .error .notAmongChoices

abbrev FieldFlaw : Type := String × Flaw

def flawIn {α : Type} (field : String) : Except Flaw α → List FieldFlaw
  | .ok _ => []
  | .error flaw => [(field, flaw)]

def CodeRequest.ofJson (body : Json) : Except (List FieldFlaw) CodeRequest :=
  match readCode body with
  | .ok code => .ok { code }
  | .error flaw => .error [("code", flaw)]

def RunRequest.ofJson (readInteger : IntegerReader) (body : Json) : Except (List FieldFlaw) RunRequest :=
  match readCode body, readLimit readInteger body, readMode body with
  | .ok code, .ok limit, .ok mode =>
      .ok { code, maxSteps := limit.1, mode, positive := limit.2.1, bounded := limit.2.2 }
  | code, limit, mode => .error (flawIn "code" code ++ flawIn "max_steps" limit ++ flawIn "variables" mode)

end Stepwise.Service
