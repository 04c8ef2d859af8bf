import Stepwise.Service
import Stepwise.Proofs.Outcomes
import Stepwise.Proofs.StepLimit
import Stepwise.Proofs.SourceLines

/-!
# What is refused, and why

Three parts look at a source on their own: the check, the tree and the run. They look for the same thing, that the
source compiles, and so a run that is asked for is refused for its syntax exactly if the check finds something, with
what it finds. What is left of the runs ends as a run of the program does.

The parts differ on blank texts. A check finds nothing wrong with them, whereas a run of nothing is refused, and what
counts as blank is more than what may stand between tokens: a text of other blanks passes the check although it has a
character that begins no token.
-/

namespace Stepwise

set_option autoImplicit false

namespace Scan

/-- Of the blank characters only those that may stand between tokens are taken by a step. -/
theorem isSpace_of_piece {char : Char} {rest : List Char} {found : Piece} {length : Nat}
    (blank : Text.isBlank char = true) (taken : piece char rest = .ok (found, length)) :
    isSpace char = true := by
  have unslashed : char ≠ '/' := by
    rintro rfl
    revert blank
    decide
  cases found with
  | token kind value =>
      have solid := not_isBlank_of_piece taken
      rw [blank] at solid
      cases solid
  | gap =>
      cases steps_of_piece taken with
      | space space => exact space
      | lineComment slash _ => exact absurd slash unslashed
      | blockComment slash _ _ => exact absurd slash unslashed
      | name start _ =>
          rw [Text.forall_blank isNameStart (by decide +kernel) blank] at start
          cases start
      | number _ digit _ =>
          rw [Text.forall_blank Text.isDigit (by decide +kernel) blank] at digit
          cases digit
      | symbol _ taken =>
          unfold symbolToken at taken
          split at taken
          · cases taken
          · split at taken <;> cases taken

theorem tokensFrom_of_space {position : Position} {char : Char} {rest : List Char} (space : isSpace char = true) :
    tokensFrom position (char :: rest) = tokensFrom (position.after [char]) rest := by
  have taken : piece char rest = .ok (.gap, 1) := if_pos space
  rw [tokensFrom, taken]
  dsimp only
  rw [Nat.sub_self, List.take_zero, List.drop_zero]
  cases tokensFrom (position.after [char]) rest <;> rfl

theorem scanned_blank_iff (position : Position) {chars : List Char} (blank : ∀ char ∈ chars, Text.isBlank char = true) :
    (∃ tokens, tokensFrom position chars = .ok tokens) ↔ ∀ char ∈ chars, isSpace char = true := by
  induction chars generalizing position with
  | nil => simp [tokensFrom]
  | cons char rest ih =>
      have others := fun other member => blank other (List.mem_cons_of_mem char member)
      cases space : isSpace char with
      | true => rw [tokensFrom_of_space space, ih _ others, List.forall_mem_cons, space, eq_self, true_and]
      | false =>
          apply iff_of_false
          · rintro ⟨tokens, scanned⟩
            rw [tokensFrom] at scanned
            split at scanned
            · cases scanned
            · next taken =>
                rw [isSpace_of_piece (blank char List.mem_cons_self) taken] at space
                cases space
          · intro spaces
            rw [spaces char List.mem_cons_self] at space
            cases space

end Scan

/-- A blank source compiles exactly if it has no other characters than may stand between tokens. -/
theorem compiles_blank_iff {source : String} (blank : Text.isBlankText source = true) :
    (∃ compiled, compile source = .ok compiled) ↔ ∀ char ∈ source.toList, Scan.isSpace char = true := by
  rw [← Scan.scanned_blank_iff .start (List.all_eq_true.mp blank)]
  constructor
  · rintro ⟨compiled, accepted⟩
    exact ⟨_, (compile_eq_ok accepted).1⟩
  · rintro ⟨tokens, scanned⟩
    obtain ⟨last, rfl, ended⟩ := Scan.tokensFrom_blank (List.all_eq_true.mp blank) scanned
    refine ⟨{ tokens := [last], program := { classes := [] } }, ?_⟩
    rw [compile, scan, scanned]
    dsimp only
    rw [Program.ofTokens_end ended]

section Check

variable {source : String}

theorem check_of_blank (blank : Text.isBlankText source = true) : check source = none :=
  if_pos blank

theorem check_of_accepted {compiled : Compiled} (accepted : compile source = .ok compiled) : check source = none := by
  rw [check, accepted]
  exact ite_self _

theorem check_of_rejected {rejection : Rejection} (written : Text.isBlankText source = false)
    (rejected : compile source = .error rejection) : check source = some rejection.finding := by
  rw [check, if_neg (Bool.eq_false_iff.mp written), rejected]

theorem accepted_of_check (written : Text.isBlankText source = false) (passed : check source = none) :
    ∃ compiled, compile source = .ok compiled := by
  cases compiles : compile source with
  | ok compiled => exact ⟨compiled, rfl⟩
  | error rejection =>
      rw [check_of_rejected written compiles] at passed
      cases passed

end Check

/-- A source passes the check exactly if it compiles or is blank. What the check finds in a source that is not blank is
the complaint with which it is rejected, by line, message and hint; and the blank sources that do not compile are those
with a character that may not stand between tokens. -/
theorem check_passes_iff (source : String) :
    (check source = none ↔ (∃ compiled, compile source = .ok compiled) ∨ Text.isBlankText source = true) ∧
      (∀ error, Text.isBlankText source = false → compile source = .error (.malformed error) →
        check source = some { line := error.line, message := error.message, hint := error.hint }) ∧
      (Text.isBlankText source = true →
        ((∃ compiled, compile source = .ok compiled) ↔ ∀ char ∈ source.toList, Scan.isSpace char = true)) := by
  refine ⟨⟨?_, ?_⟩, fun error written rejected => check_of_rejected written rejected, compiles_blank_iff⟩
  · intro passed
    cases blank : Text.isBlankText source with
    | true => exact .inr rfl
    | false => exact .inl (accepted_of_check blank passed)
  · rintro (⟨compiled, accepted⟩ | blank)
    · exact check_of_accepted accepted
    · exact check_of_blank blank

def complaintOf? : Except Rejection Compiled → Option SourceError
  | .error (.malformed error) => some error
  | _ => none

theorem eq_error_of_complaintOf? {outcome : Except Rejection Compiled} {error : SourceError}
    (found : complaintOf? outcome = some error) : outcome = .error (.malformed error) := by
  match outcome with
  | .error (.malformed other) => rw [Option.some.inj found]
  | .error (.fault _) | .error .unterminated | .error .exhausted | .ok _ => cases found

/-- A class body that is not closed is found, with a hint, on the line where the source ends; and a form feed is a
blank source that compiles. -/
theorem check_unclosed :
    check "\nclass A \x7b" = some
        { line := 2
          message := "Expected '\x7d' to close class body."
          hint := some "Blocks end with '\x7d'. Check for a missing closing brace or an extra '\x7b' earlier." } ∧
      Text.isBlankText "\x0c" = true ∧ ∃ compiled, compile "\x0c" = .ok compiled := by
  have written : Text.isBlankText "\nclass A \x7b" = false := by decide +kernel
  have rejected : compile "\nclass A \x7b" = .error (.malformed { complaint := .expected .classClose none, line := 2 }) :=
    eq_error_of_complaintOf? (by decide +kernel)
  have blank : Text.isBlankText "\x0c" = true := by decide +kernel
  exact ⟨(check_passes_iff "\nclass A \x7b").2.1 _ written rejected, blank,
    ((check_passes_iff "\x0c").2.2 blank).mpr (List.all_eq_true.mp (by decide +kernel))⟩

/-- A single blank that may not stand between tokens passes the check and is rejected all the same. -/
theorem check_overlooks :
    ¬∀ source, (check source = none ↔ ∃ compiled, compile source = .ok compiled) ∧
      ∀ error, compile source = .error (.malformed error) →
        check source = some { line := error.line, message := error.message, hint := error.hint } := by
  intro agrees
  have rejected : compile "\u00a0" = .error (.malformed { complaint := .unexpectedChar '\u00a0', line := 1 }) :=
    eq_error_of_complaintOf? (by decide +kernel)
  have passed : check "\u00a0" = none := check_of_blank (by decide +kernel)
  obtain ⟨compiled, accepted⟩ := (agrees "\u00a0").1.mp passed
  rw [rejected] at accepted
  cases accepted

namespace Service

/-- A request is answered with a status and a body. -/
def Answers (outcome : Except RunError Reply) (status : Nat) (body : Json) : Prop :=
  ∃ reply, outcome = .ok reply ∧ reply.status = status ∧ reply.body = body

/-- A run is refused with a report, and shows no steps. -/
def Refuses (outcome : Except RunError Reply) (report : Report) : Prop :=
  Answers outcome 400 (.object [("trace", .array []), ("error", report.shown)])

/-- The check of a source shows a report. -/
def Finds (code : String) (report : Report) : Prop :=
  Answers (.ok (validate { code })) 200 (.object [("error", report.shown)])

/-- How a run ends that is not refused for its syntax: with steps within the limit, with a report of the issue that the
run failed with, or with a fault, to which there is no reply. -/
inductive Ran (request : RunRequest) : Except RunError Reply → Prop
  | traced {outcome : Except RunError Reply} (steps : List Step)
      (ended : interpret request.code request.maxSteps request.mode.name = .ok steps)
      (bounds : 1 ≤ steps.length ∧ steps.length ≤ request.maxSteps)
      (answers : Answers outcome 200 (.object [("trace", .array (steps.map Step.shown)), ("error", .null)])) :
      Ran request outcome
  | failed {outcome : Except RunError Reply} (issue : Issue) (line : Option Nat)
      (ended : interpret request.code request.maxSteps request.mode.name = .error (.failed (.issue issue line)))
      (refuses : Refuses outcome { kind := .runtime, message := issue.message, line, hint := none }) :
      Ran request outcome
  | escaped (fault : Fault)
      (ended : interpret request.code request.maxSteps request.mode.name = .error (.failed (.fault fault))) :
      Ran request (.error (.failed (.fault fault)))

theorem kind_of_shown {one two : Report} (same : one.shown = two.shown) : one.kind = two.kind := by
  have labels : one.kind.label = two.kind.label := by
    injection same with fields
    simp only [List.cons_append, List.nil_append, List.cons.injEq, Prod.mk.injEq, Json.string.injEq, true_and] at fields
    exact Text.ofString_inj.mp fields.1
  revert labels
  cases one.kind <;> cases two.kind <;> decide

theorem kind_of_refuses {outcome : Except RunError Reply} {one two : Report} (first : Refuses outcome one)
    (second : Refuses outcome two) : one.kind = two.kind := by
  obtain ⟨reply, rfl, -, body⟩ := first
  obtain ⟨other, same, -, again⟩ := second
  cases same
  rw [body] at again
  injection again with fields
  simp only [List.cons.injEq, Prod.mk.injEq, and_true, true_and] at fields
  exact kind_of_shown fields

section Requests

variable {request : RunRequest}

theorem run_of_blank (blank : Text.isBlankText request.code = true) : run request = .ok (.runRefused .noCode) :=
  if_pos blank

theorem run_of_found {finding : Finding} (written : Text.isBlankText request.code = false)
    (found : check request.code = some finding) : run request = .ok (.runRefused (.ofFinding finding)) := by
  rw [run, if_neg (Bool.eq_false_iff.mp written), found]

theorem finds_iff {code : String} {report : Report} :
    Finds code report ↔ ∃ finding, check code = some finding ∧ (Report.ofFinding finding).shown = report.shown := by
  unfold Finds Answers validate
  cases check code with
  | none => simp [Reply.body, Report.shown]
  | some finding => simp [Reply.body, Reply.status]

theorem not_blank_of_found {finding : Finding} (found : check request.code = some finding) :
    Text.isBlankText request.code = false := by
  cases blank : Text.isBlankText request.code with
  | false => rfl
  | true =>
      rw [check_of_blank blank] at found
      cases found

/-- What the check finds is what a run is refused with. -/
theorem refuses_of_finds {report : Report} (finds : Finds request.code report) : Refuses (run request) report := by
  obtain ⟨finding, found, same⟩ := finds_iff.mp finds
  refine ⟨_, run_of_found (not_blank_of_found found) found, rfl, ?_⟩
  rw [Reply.body, same]

theorem Options.of_request (request : RunRequest) :
    Options.of request.maxSteps request.mode.name = .ok { maxSteps := request.maxSteps, mode := request.mode } := by
  have positive := request.positive
  rw [Options.of, if_neg (by omega), VariablesMode.ofName?_name]
  rfl

theorem ran_of_accepted {compiled : Compiled} (written : Text.isBlankText request.code = false)
    (accepted : compile request.code = .ok compiled) : Ran request (run request) := by
  have ends := interpret_of_accepted accepted (Options.of_request request)
  unfold run
  rw [if_neg (Bool.eq_false_iff.mp written), check_of_accepted accepted]
  dsimp only
  cases traced : compiled.program.trace { maxSteps := request.maxSteps, mode := request.mode } with
  | error failure =>
      rw [traced] at ends
      cases failure with
      | issue issue line =>
          rw [reported] at ends
          rw [ends]
          exact .failed issue line ends ⟨_, rfl, rfl, rfl⟩
      | fault fault =>
          rw [reported] at ends
          rw [ends]
          exact .escaped fault ends
  | ok steps =>
      rw [traced] at ends
      cases steps with
      | nil =>
          rw [reported] at ends
          rw [ends]
          exact .failed .noSteps none ends ⟨_, rfl, rfl, rfl⟩
      | cons step steps =>
          obtain ⟨final, ended, shown⟩ := Program.trace_eq_ok traced
          have limited := (Context.counts_of_completed ended).1.1
          rw [← Array.length_toList, ← shown] at limited
          rw [reported] at ends
          rw [ends]
          exact .traced _ ends ⟨Nat.succ_pos _, limited⟩ ⟨_, rfl, rfl, rfl⟩
          nofun

theorem Ran.not_syntactic {outcome : Except RunError Reply} {report : Report} (ran : Ran request outcome)
    (refused : Refuses outcome report) : report.kind ≠ .syntactic := by
  cases ran with
  | traced steps _ _ answers =>
      obtain ⟨reply, rfl, status, -⟩ := answers
      obtain ⟨other, same, refusal, -⟩ := refused
      cases same
      rw [status] at refusal
      cases refusal
  | failed issue line _ refuses =>
      have kinds := kind_of_refuses refused refuses
      rw [kinds]
      nofun
  | escaped fault _ =>
      obtain ⟨_, impossible, -⟩ := refused
      cases impossible

/-- A run is refused for its syntax exactly if the source is blank or the check finds something in it, and then it is
refused with what the check finds. Every other source has a tree and is run, and the run does not reject it. -/
theorem run_replies (request : RunRequest) :
    ((∃ report, report.kind = .syntactic ∧ Refuses (run request) report) ↔
        Text.isBlankText request.code = true ∨ ∃ report, Finds request.code report) ∧
      (∀ report, Finds request.code report → Refuses (run request) report) ∧
      (Text.isBlankText request.code = false → (∀ report, ¬Finds request.code report) →
        (∃ body, Answers (outline { code := request.code }) 200 body) ∧ Ran request (run request) ∧
          ∀ rejection, interpret request.code request.maxSteps request.mode.name ≠ .error (.rejected rejection)) := by
  have goesAhead : Text.isBlankText request.code = false → (∀ report, ¬Finds request.code report) →
      ∃ compiled, compile request.code = .ok compiled := by
    intro written silent
    cases passed : check request.code with
    | none => exact accepted_of_check written passed
    | some finding => exact absurd (finds_iff.mpr ⟨finding, passed, rfl⟩) (silent _)
  refine ⟨⟨?_, ?_⟩, fun report => refuses_of_finds, ?_⟩
  · rintro ⟨report, syntactic, refused⟩
    by_contra neither
    simp only [not_or, Bool.not_eq_true, not_exists] at neither
    obtain ⟨compiled, accepted⟩ := goesAhead neither.1 neither.2
    exact (ran_of_accepted neither.1 accepted).not_syntactic refused syntactic
  · rintro (blank | ⟨report, finds⟩)
    · exact ⟨.noCode, rfl, _, run_of_blank blank, rfl, rfl⟩
    · obtain ⟨finding, found, -⟩ := finds_iff.mp finds
      exact ⟨.ofFinding finding, rfl, refuses_of_finds (finds_iff.mpr ⟨finding, found, rfl⟩)⟩
  · intro written silent
    obtain ⟨compiled, accepted⟩ := goesAhead written silent
    refine ⟨?_, ran_of_accepted written accepted, ?_⟩
    · have outlined : ∃ count tree, outline { code := request.code } = .ok (.outlined count tree) := by
        rw [outline, accepted]
        exact ⟨_, _, rfl⟩
      obtain ⟨count, tree, replied⟩ := outlined
      exact ⟨_, _, replied, rfl, rfl⟩
    · intro rejection rejected
      rw [interpret, accepted, Options.of_request] at rejected
      dsimp only at rejected
      split at rejected
      · cases rejected
      · split at rejected <;> cases rejected
      · cases rejected

end Requests

/-- A request to run a source in at most so many steps. -/
def RunRequest.ofCode (code : String) (maxSteps : Nat) (positive : 1 ≤ maxSteps) (bounded : maxSteps ≤ defaultMaxSteps) :
    RunRequest :=
  { code, maxSteps, mode := .local_, positive, bounded }

/-- A source that the check finds something in, and one that is run until it divides by zero. -/
theorem run_refused_and_failed :
    (∃ report, report.kind = .syntactic ∧ Refuses (run (.ofCode "class \x7b" 10 (by decide) (by decide))) report) ∧
      Ran (.ofCode dividing 10 (by decide) (by decide)) (run (.ofCode dividing 10 (by decide) (by decide))) := by
  constructor
  · have found : check "class \x7b" = some { line := 1, message := "Expected class name.", hint := none } := by
      decide +kernel
    exact (run_replies (.ofCode "class \x7b" 10 (by decide) (by decide))).1.mpr
      (.inr ⟨_, finds_iff.mpr ⟨_, found, rfl⟩⟩)
  · have evaluated : Text.isBlankText dividing = false ∧ check dividing = none := by
      rw [check, Text.isBlankText, compile, scan, toList_of_written dividing rfl]
      decide +kernel
    obtain ⟨written, passed⟩ := evaluated
    have silent : ∀ report, ¬Finds dividing report := by
      intro report finds
      obtain ⟨finding, found, -⟩ := finds_iff.mp finds
      rw [passed] at found
      cases found
    exact ((run_replies (.ofCode dividing 10 (by decide) (by decide))).2.2 written silent).2.1

end Service

end Stepwise
