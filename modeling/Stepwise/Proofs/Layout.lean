import Stepwise.Proofs.Relining.Reading
import Stepwise.Proofs.Relining.Run
import Stepwise.Proofs.Scanning.Partition
import Stepwise.Proofs.Printing

/-!
# Layout has no meaning

Two sources whose tokens have the same kinds and texts differ in their gaps only, and so in the lines and columns of
their tokens. Since reading and running carry lines along without looking at them, such sources are compiled to the
same program but for its lines, or are rejected with the same complaint; and their runs record the same steps but for
the lines in them, or fail for the same cause.

Only one decision is made about the text itself: whether it is blank, where a run has recorded nothing. A run that
ends has found its entry point, and a blank text has none.
-/

namespace Stepwise

set_option autoImplicit false

def Rejection.erased : Rejection → Rejection
  | .malformed error => .malformed { error with line := 0 }
  | other => other

def Step.erased (step : Step) : Step :=
  { step with line := 0, frames := step.frames.map fun frame => { frame with line := 0 } }

/-- The failure without its line. Its family and its message are those of its cause. -/
def Failure.erased : Failure → Failure
  | .issue cause _ => .issue cause none
  | .fault cause => .fault cause

def RunError.erased : RunError → RunError
  | .rejected rejection => .rejected rejection.erased
  | .failed failure => .failed failure.erased
  | other => other

/-- What a compilation yields, but for the lines: a program, or the reason why there is none. -/
def erasedProgram : Except Rejection Compiled → Except Rejection Program
  | .ok compiled => .ok compiled.program.erased
  | .error rejection => .error rejection.erased

/-- What a run yields, but for the lines: a trace, or the reason why there is none. -/
def erasedTrace : Except RunError (List Step) → Except RunError (List Step)
  | .ok steps => .ok (steps.map Step.erased)
  | .error error => .error error.erased

theorem Rejection.relined_zero (rejection : Rejection) : rejection.relined (fun _ => 0) = rejection.erased := by
  cases rejection <;> rfl

theorem Step.erased_relined (move : Nat → Nat) (step : Step) : (step.relined move).erased = step.erased := by
  simp only [erased, relined, List.map_map]
  rfl

theorem Failure.erased_relined (move : Nat → Nat) (failure : Failure) : (failure.relined move).erased = failure.erased := by
  cases failure <;> rfl

theorem Failure.erased_attributed (failure : Failure) (line : Nat) : (failure.attributed line).erased = failure.erased := by
  match failure with
  | .issue cause none => rfl
  | .issue cause (some own) => rfl
  | .fault cause => rfl

namespace Text

def blankCodes : List Nat :=
  blankRanges.flatMap fun range => (List.range (range.2 + 1 - range.1)).map (range.1 + ·)

theorem mem_blankCodes {char : Char} (blank : isBlank char = true) : char.toNat ∈ blankCodes := by
  obtain ⟨range, listed, inside⟩ := List.any_eq_true.mp blank
  simp only [Bool.and_eq_true, decide_eq_true_eq] at inside
  refine List.mem_flatMap.mpr ⟨range, listed, List.mem_map.mpr ⟨char.toNat - range.1, ?_, ?_⟩⟩
  · rw [List.mem_range]
    omega
  · omega

/-- What is true of no code point of a blank character is true of no blank character. -/
theorem forall_blank (test : Char → Bool) (refused : blankCodes.all (fun code => !test (Char.ofNat code)) = true)
    {char : Char} (blank : isBlank char = true) : test char = false := by
  have tested := List.all_eq_true.mp refused char.toNat (mem_blankCodes blank)
  rw [Char.ofNat_toNat] at tested
  simpa using tested

end Text

namespace Scan

theorem not_isBlank_of_ofChars? {char : Char} {others : List Char} {symbol : Symbol}
    (found : Symbol.ofChars? (char :: others) = some symbol) : Text.isBlank char = false := by
  have solid : symbol.spelling.toList.head?.any Text.isBlank = false := by
    cases symbol <;> decide +kernel
  rw [chars_of_ofChars? found] at solid
  exact solid

theorem not_isBlank_of_piece {char : Char} {rest : List Char} {kind : TokenKind} {value : String} {length : Nat}
    (taken : piece char rest = .ok (.token kind value, length)) : Text.isBlank char = false := by
  cases steps_of_piece taken with
  | name start _ =>
      by_contra blank
      rw [Text.forall_blank isNameStart (by decide +kernel) (by simpa using blank)] at start
      cases start
  | number _ digit _ =>
      by_contra blank
      rw [Text.forall_blank Text.isDigit (by decide +kernel) (by simpa using blank)] at digit
      cases digit
  | string quote _ =>
      rw [quote]
      decide
  | char quote _ =>
      rw [quote]
      decide
  | symbol _ taken =>
      unfold symbolToken at taken
      split at taken
      · next found => exact not_isBlank_of_ofChars? found
      · split at taken
        · next found => exact not_isBlank_of_ofChars? found
        · cases taken

theorem tokensFrom_blank {position : Position} {chars : List Char} {tokens : List Token}
    (blank : ∀ char ∈ chars, Text.isBlank char = true) (scanned : tokensFrom position chars = .ok tokens) :
    ∃ last, tokens = [last] ∧ last.isEnd = true := by
  fun_induction tokensFrom position chars generalizing tokens with
  | case1 position =>
      cases scanned
      exact ⟨_, rfl, rfl⟩
  | case2 => cases scanned
  | case3 => cases scanned
  | case4 position char rest length taken others scannedOthers stepped =>
      rename_i ih
      cases scanned
      exact ih (fun other member => blank other (List.mem_cons_of_mem _ (List.mem_of_mem_drop member))) scannedOthers
  | case5 position char rest length taken others scannedOthers kind value stepped =>
      have solid := not_isBlank_of_piece stepped
      rw [blank char List.mem_cons_self] at solid
      cases solid

end Scan

theorem Program.ofTokens_end {last : Token} (ended : last.isEnd = true) : Program.ofTokens [last] = .ok { classes := [] } := by
  have nothing : ∀ fuel, (Reader.classes (fuel + 1)).run { current := last, rest := [] } =
      .ok [] { current := last, rest := [] } := by
    intro fuel
    rw [Reader.classes, Reader.run_bind_of_ok Reader.run_current, if_pos ended, Reader.run_pure]
  have terminated : (([] : List Token).getLastD last).isEnd = true := ended
  rw [Program.ofTokens_cons terminated, Reader.program, Reader.run_bind_of_ok Reader.run_get,
    Reader.run_bind_of_ok (nothing _)]
  rfl

/-- A blank source declares no class. -/
theorem no_class_of_blank {source : String} {compiled : Compiled} (blank : Text.isBlankText source = true)
    (accepted : compile source = .ok compiled) : compiled.program.classes = [] := by
  unfold compile at accepted
  split at accepted
  · cases accepted
  · next tokens scanned =>
      obtain ⟨last, rfl, ended⟩ := Scan.tokensFrom_blank (List.all_eq_true.mp blank) scanned
      rw [Program.ofTokens_end ended] at accepted
      cases accepted
      rfl

/-- Tokens with the same kinds and texts are the same once their lines are erased. -/
theorem Token.relined_zero_of_words {ones twos : List Token} (same : ones.map Token.word = twos.map Token.word) :
    ones.map (Token.relined fun _ => 0) = twos.map (Token.relined fun _ => 0) := by
  have ofWord : ∀ tokens : List Token, tokens.map (Token.relined fun _ => 0) =
      (tokens.map Token.word).map fun word => { kind := word.kind, value := word.value, line := 0, column := 0 } := by
    intro tokens
    rw [List.map_map]
    rfl
  rw [ofWord, ofWord, same]

/-- What a compilation yields but for the lines is what is read from the tokens without their lines. -/
theorem erasedProgram_compile {source : String} {tokens : List Token} (scanned : scan source = .ok tokens) :
    erasedProgram (compile source) = Program.ofTokens (tokens.map (Token.relined fun _ => 0)) := by
  rw [Program.ofTokens_relined, compile, scanned]
  dsimp only
  cases Program.ofTokens tokens with
  | ok program => exact congrArg Except.ok program.relined_zero.symm
  | error rejection => exact congrArg Except.error rejection.relined_zero.symm

/-- What is left of an outcome of a run without its lines. -/
def erasedOutcome : Except Failure (List Step) → Except Failure (List Step)
  | .ok steps => .ok (steps.map Step.erased)
  | .error failure => .error failure.erased

theorem Program.trace_erased (program : Program) (options : Options) :
    erasedOutcome (program.erased.trace options) = erasedOutcome (program.trace options) := by
  by_cases empty : program.classes = []
  · have moved : program.erased.classes = [] := List.map_eq_nil_iff.mpr empty
    rw [trace_of_no_class empty, trace_of_no_class moved]
  · unfold trace
    rw [← program.relined_zero, program.run_relined _ options empty]
    cases ({ options, program } : Context).execute.run .initial with
    | ok result after =>
        dsimp only [erasedOutcome, State.relined]
        rw [Array.toList_map, List.map_map]
        exact congrArg (fun change => Except.ok (after.steps.toList.map change)) (funext (Step.erased_relined _))
    | error failure after =>
        dsimp only [erasedOutcome]
        rw [Failure.erased_attributed, Failure.erased_attributed, Failure.erased_relined]

/-- What is reported of a run. A trace without a step is reported as a failure. -/
def reported : Except Failure (List Step) → Except RunError (List Step)
  | .error failure => .error (.failed failure)
  | .ok [] => .error (.failed (.bare .noSteps))
  | .ok steps => .ok steps

theorem erasedTrace_reported (outcome : Except Failure (List Step)) :
    erasedTrace (reported outcome) = reported (erasedOutcome outcome) := by
  match outcome with
  | .error failure => rfl
  | .ok [] => rfl
  | .ok (step :: steps) => rfl

/-- The text of a source that compiles has no other part in what is reported. -/
theorem interpret_of_accepted {source : String} {compiled : Compiled} {options : Options} {maxSteps : Int} {mode : String}
    (accepted : compile source = .ok compiled) (asked : Options.of maxSteps mode = .ok options) :
    interpret source maxSteps mode = reported (compiled.program.trace options) := by
  unfold interpret
  rw [accepted]
  dsimp only
  rw [asked]
  dsimp only
  cases traced : compiled.program.trace options with
  | error failure => rfl
  | ok steps =>
      cases steps with
      | cons step steps => rfl
      | nil =>
          have written : ¬Text.isBlankText source = true := by
            intro blank
            rw [Program.trace_of_no_class (no_class_of_blank blank accepted)] at traced
            cases traced
          exact if_neg written

/-- Two sources whose tokens have the same kinds and texts are compiled to the same program but for its lines, or
rejected with the same complaint; and under the same options their runs yield the same trace but for its lines, or fail
for the same cause. -/
theorem layout_meaningless {first second : String} {ones twos : List Token} (scannedFirst : scan first = .ok ones)
    (scannedSecond : scan second = .ok twos) (same : ones.map Token.word = twos.map Token.word) :
    erasedProgram (compile first) = erasedProgram (compile second) ∧
      ∀ (maxSteps : Int) (mode : String),
        erasedTrace (interpret first maxSteps mode) = erasedTrace (interpret second maxSteps mode) := by
  have compiles : erasedProgram (compile first) = erasedProgram (compile second) := by
    rw [erasedProgram_compile scannedFirst, erasedProgram_compile scannedSecond, Token.relined_zero_of_words same]
  refine ⟨compiles, fun maxSteps mode => ?_⟩
  cases one : compile first with
  | error rejection =>
      cases two : compile second with
      | error other =>
          rw [one, two] at compiles
          have alike : rejection.erased = other.erased := Except.error.inj compiles
          simp only [interpret, one, two, erasedTrace, RunError.erased, alike]
      | ok other =>
          rw [one, two] at compiles
          cases compiles
  | ok compiled =>
      cases two : compile second with
      | error rejection =>
          rw [one, two] at compiles
          cases compiles
      | ok other =>
          rw [one, two] at compiles
          have alike : compiled.program.erased = other.program.erased := Except.ok.inj compiles
          cases asked : Options.of maxSteps mode with
          | error error => simp only [interpret, one, two, asked]
          | ok options =>
              rw [interpret_of_accepted one asked, interpret_of_accepted two asked, erasedTrace_reported,
                erasedTrace_reported, ← Program.trace_erased, alike, Program.trace_erased]

def crowded : String :=
  "class Main\x7bvoid main()\x7bint x=1;x++;\x7d\x7d"

def spread : String :=
  "class Main // entry\n\x7b\n  void main ( ) \x7b\n  int x = 1; /* a\n b */ x++;\n\x7d\n\x7d\n"

theorem crowded_spread :
    ∃ ones twos, scan crowded = .ok ones ∧ scan spread = .ok twos ∧ ones.map Token.word = twos.map Token.word ∧
      erasedProgram (compile crowded) = erasedProgram (compile spread) ∧
        erasedTrace (interpret crowded 100 "all") = erasedTrace (interpret spread 100 "all") := by
  have alike : (match scan crowded, scan spread with
      | .ok ones, .ok twos => decide (ones.map Token.word = twos.map Token.word)
      | _, _ => false) = true := by
    rw [scan, scan, toList_of_written crowded rfl, toList_of_written spread rfl]
    decide +kernel
  cases one : scan crowded with
  | error error =>
      rw [one] at alike
      cases alike
  | ok ones =>
      cases two : scan spread with
      | error error =>
          rw [one, two] at alike
          cases alike
      | ok twos =>
          rw [one, two] at alike
          have same : ones.map Token.word = twos.map Token.word := of_decide_eq_true alike
          obtain ⟨compiles, runs⟩ := layout_meaningless one two same
          exact ⟨ones, twos, rfl, rfl, same, compiles, runs 100 "all"⟩

end Stepwise
