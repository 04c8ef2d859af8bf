import Stepwise.Proofs.Layout
import Stepwise.Proofs.Outcomes

/-!
# Every line that is reported is the line of a token

Reading and running carry lines along, whatever they are. So a line in a result cannot be told from any other line by
two replacements that agree on the lines of the tokens, and is therefore one of these. This holds of every line in a
program, of the lines of complaints, of the lines in a trace and of those of issues. An issue that names no line is
given the line noted last, which is a line of the program as well, and so not zero: only a program without a class
leaves an issue without a line.
-/

namespace Stepwise

set_option autoImplicit false

/-- Lines are replaced in the same way wherever there is a token. -/
def Agree (tokens : List Token) (one two : Nat → Nat) : Prop :=
  ∀ token ∈ tokens, one token.line = two token.line

/-- What no two such replacements tell apart is the line of a token. -/
theorem mem_lines_of_agree {tokens : List Token} {line : Nat}
    (same : ∀ one two, Agree tokens one two → one line = two line) : line ∈ tokens.map Token.line := by
  by_contra missing
  have agree : Agree tokens (fun _ => 0) fun other => if other = line then 1 else 0 := by
    intro token member
    have other : token.line ≠ line := by
      rintro rfl
      exact missing (List.mem_map_of_mem member)
    exact (if_neg other).symm
  have told := same _ _ agree
  rw [if_pos rfl] at told
  cases told

variable {tokens : List Token} {program : Program}

namespace Agree

variable {one two : Nat → Nat} (agree : Agree tokens one two)
include agree

theorem moved : tokens.map (Token.relined one) = tokens.map (Token.relined two) := by
  refine List.map_congr_left fun token member => ?_
  rw [Token.relined, Token.relined, agree token member]

theorem programs (read : Program.ofTokens tokens = .ok program) : program.relined one = program.relined two := by
  have reads := Program.ofTokens_relined one tokens
  rw [agree.moved, Program.ofTokens_relined, read] at reads
  exact (Except.ok.inj reads).symm

theorem rejections {rejection : Rejection} (rejected : Program.ofTokens tokens = .error rejection) :
    rejection.relined one = rejection.relined two := by
  have reads := Program.ofTokens_relined one tokens
  rw [agree.moved, Program.ofTokens_relined, rejected] at reads
  exact (Except.error.inj reads).symm

variable {state : State} (read : Program.ofTokens tokens = .ok program) (declares : program.classes ≠ [])
  {options : Options}
include read declares

theorem completed {result : Unit}
    (ended : ({ options, program } : Context).execute.run .initial = .ok result state) :
    state.relined one = state.relined two := by
  have runs := program.run_relined one options declares
  rw [agree.programs read, program.run_relined two options declares, ended] at runs
  injection runs with _ same
  exact same.symm

theorem failed {failure : Failure}
    (ended : ({ options, program } : Context).execute.run .initial = .error failure state) :
    failure.relined one = failure.relined two ∧ state.relined one = state.relined two := by
  have runs := program.run_relined one options declares
  rw [agree.programs read, program.run_relined two options declares, ended] at runs
  injection runs with failures same
  exact ⟨failures.symm, same.symm⟩

end Agree

theorem complaint_line_mem {error : SourceError} (rejected : Program.ofTokens tokens = .error (.malformed error)) :
    error.line ∈ tokens.map Token.line := by
  refine mem_lines_of_agree fun one two agree => ?_
  have same : error.relined one = error.relined two := Rejection.malformed.inj (agree.rejections rejected)
  exact congrArg SourceError.line same

/-- A frame, a step or a state whose lines are told apart by no such replacements has the lines of tokens. -/
theorem Frame.line_mem {frame : Frame}
    (same : ∀ one two, Agree tokens one two → frame.relined one = frame.relined two) :
    frame.line ∈ tokens.map Token.line :=
  mem_lines_of_agree fun one two agree => congrArg Frame.line (same one two agree)

theorem Step.lines_mem {step : Step} (same : ∀ one two, Agree tokens one two → step.relined one = step.relined two) :
    step.line ∈ tokens.map Token.line ∧ ∀ frame ∈ step.frames, frame.line ∈ tokens.map Token.line := by
  constructor
  · exact mem_lines_of_agree fun one two agree => congrArg Step.line (same one two agree)
  · intro frame member
    refine Frame.line_mem fun one two agree => ?_
    exact List.map_inj_left.mp (congrArg Step.frames (same one two agree)) frame member

theorem State.lines_mem {state : State}
    (same : ∀ one two, Agree tokens one two → state.relined one = state.relined two) :
    state.line ∈ tokens.map Token.line ∧
      ∀ step ∈ state.steps.toList,
        step.line ∈ tokens.map Token.line ∧ ∀ frame ∈ step.frames, frame.line ∈ tokens.map Token.line := by
  constructor
  · exact mem_lines_of_agree fun one two agree => congrArg State.line (same one two agree)
  · intro step member
    refine Step.lines_mem fun one two agree => ?_
    have steps : state.steps.toList.map (Step.relined one) = state.steps.toList.map (Step.relined two) := by
      rw [← Array.toList_map, ← Array.toList_map]
      exact congrArg (fun state => state.steps.toList) (same one two agree)
    exact List.map_inj_left.mp steps step member

theorem Failure.line_mem {cause : Issue} {line : Nat}
    (same : ∀ one two, Agree tokens one two →
      (Failure.issue cause (some line)).relined one = (Failure.issue cause (some line)).relined two) :
    line ∈ tokens.map Token.line := by
  refine mem_lines_of_agree fun one two agree => ?_
  injection same one two agree with _ lines
  exact Option.some.inj lines

/-- The lines of tokens are lines of the source. -/
theorem token_line_bounds {source : String} (scanned : scan source = .ok tokens) :
    ∀ line ∈ tokens.map Token.line, 1 ≤ line ∧ line ≤ lineCount source := by
  intro line member
  obtain ⟨token, inside, rfl⟩ := List.mem_map.mp member
  have parted : Parted [] source.toList tokens := parted_tokensFrom scanned rfl
  obtain ⟨passed, begins, placed⟩ := parted.place token inside
  have counted : token.line = 1 + passed.count '\n' := congrArg Position.line placed
  have fewer : passed.count '\n' ≤ source.toList.count '\n' := begins.sublist.count_le '\n'
  rw [counted, lineCount]
  omega

/-- A program whose run ends otherwise than for want of an entry point declares a class. -/
theorem declares_of_trace (options : Options) (ends : program.trace options ≠ .error (.issue .noEntryPoint none)) :
    program.classes ≠ [] :=
  fun none => ends (Program.trace_of_no_class none options)

/-- Every line in the trace of a program is the line of a token. -/
theorem trace_lines_mem {steps : List Step} {options : Options} (read : Program.ofTokens tokens = .ok program)
    (traced : program.trace options = .ok steps) :
    ∀ step ∈ steps, step.line ∈ tokens.map Token.line ∧ ∀ frame ∈ step.frames, frame.line ∈ tokens.map Token.line := by
  have declares : program.classes ≠ [] := declares_of_trace options (by rw [traced]; nofun)
  unfold Program.trace at traced
  split at traced
  · next state ended =>
      cases traced
      exact (State.lines_mem fun one two agree => agree.completed read declares ended).2
  · cases traced

theorem issue_line_mem {cause : Issue} {line : Nat} {options : Options} (read : Program.ofTokens tokens = .ok program)
    (failed : program.trace options = .error (.issue cause (some line))) : line ∈ tokens.map Token.line := by
  have declares : program.classes ≠ [] := declares_of_trace options (by rw [failed]; nofun)
  unfold Program.trace at failed
  split at failed
  · cases failed
  · next failure state ended =>
      have ends := fun one two (agree : Agree tokens one two) => agree.failed read declares ended
      have noted := (State.lines_mem fun one two agree => (ends one two agree).2).1
      match failure with
      | .fault cause => cases failed
      | .issue cause (some own) =>
          cases failed
          exact Failure.line_mem fun one two agree => (ends one two agree).1
      | .issue cause none =>
          injection failed with same
          injection same with _ lines
          split at lines
          · cases lines
          · cases lines
            exact noted

/-- Only a program without a class leaves an issue without a line. -/
theorem no_class_of_unlined {source : String} {cause : Issue} {options : Options} (scanned : scan source = .ok tokens)
    (read : Program.ofTokens tokens = .ok program) (failed : program.trace options = .error (.issue cause none)) :
    program.classes = [] := by
  by_contra declares
  unfold Program.trace at failed
  split at failed
  · cases failed
  · next failure state ended =>
      have ends := fun one two (agree : Agree tokens one two) => agree.failed read declares ended
      have noted := (State.lines_mem fun one two agree => (ends one two agree).2).1
      have positive := (token_line_bounds scanned _ noted).1
      match failure with
      | .fault cause => cases failed
      | .issue cause (some own) => cases failed
      | .issue cause none =>
          injection failed with same
          injection same with _ lines
          rw [if_neg (by omega)] at lines
          cases lines

theorem read_of_compile {source : String} {compiled : Compiled} (scanned : scan source = .ok tokens)
    (accepted : compile source = .ok compiled) : Program.ofTokens tokens = .ok compiled.program := by
  rw [compile, scanned] at accepted
  dsimp only at accepted
  split at accepted
  · cases accepted
  · next program read =>
      cases accepted
      exact read

theorem rejected_of_compile {source : String} {rejection : Rejection} (scanned : scan source = .ok tokens)
    (rejected : compile source = .error rejection) : Program.ofTokens tokens = .error rejection := by
  rw [compile, scanned] at rejected
  dsimp only at rejected
  split at rejected
  · next found read =>
      cases rejected
      exact read
  · cases rejected

theorem ok_of_reported {outcome : Except Failure (List Step)} {steps : List Step} (same : reported outcome = .ok steps) :
    outcome = .ok steps := by
  match outcome with
  | .error failure => cases same
  | .ok [] => cases same
  | .ok (step :: others) =>
      cases same
      rfl

theorem failed_of_reported {outcome : Except Failure (List Step)} {failure : Failure}
    (same : reported outcome = .error (.failed failure)) : outcome = .error failure ∨ failure = .bare .noSteps := by
  match outcome with
  | .error other =>
      cases same
      exact .inl rfl
  | .ok [] =>
      cases same
      exact .inr rfl
  | .ok (step :: others) => cases same

/-- Either a program is run and what is reported is what the run yields, or nothing is said of a run. -/
theorem interpret_cases (source : String) (maxSteps : Int) (mode : String) :
    (∃ compiled options, compile source = .ok compiled ∧
      interpret source maxSteps mode = reported (compiled.program.trace options)) ∨
      ∃ error, interpret source maxSteps mode = .error error ∧ ∀ failure, error ≠ .failed failure := by
  cases accepted : compile source with
  | error rejection =>
      refine .inr ⟨.rejected rejection, ?_, nofun⟩
      rw [interpret, accepted]
  | ok compiled =>
      cases asked : Options.of maxSteps mode with
      | ok options => exact .inl ⟨compiled, options, rfl, interpret_of_accepted accepted asked⟩
      | error error =>
          refine .inr ⟨error, ?_, ?_⟩
          · rw [interpret, accepted]
            dsimp only
            rw [asked]
          · rintro failure rfl
            unfold Options.of at asked
            split at asked
            · cases asked
            · split at asked
              · cases asked
              · cases asked

/-- Whatever the options, the lines that are reported of a source are lines of its tokens. -/
structure Located (source : String) (tokens : List Token) : Prop where
  bounds : ∀ line ∈ tokens.map Token.line, 1 ≤ line ∧ line ≤ lineCount source
  complaint : ∀ error, compile source = .error (.malformed error) → error.line ∈ tokens.map Token.line
  trace : ∀ maxSteps mode steps, interpret source maxSteps mode = .ok steps → ∀ step ∈ steps,
    step.line ∈ tokens.map Token.line ∧ ∀ frame ∈ step.frames, frame.line ∈ tokens.map Token.line
  issue : ∀ maxSteps mode cause line, interpret source maxSteps mode = .error (.failed (.issue cause (some line))) →
    line ∈ tokens.map Token.line
  /-- An issue has no line only if it is that there are no steps, or if the program declares no class. -/
  unlined : ∀ maxSteps mode cause, interpret source maxSteps mode = .error (.failed (.issue cause none)) →
    cause = .noSteps ∨ ∃ compiled, compile source = .ok compiled ∧ compiled.program.classes = []

theorem runs_of_interpret {source : String} {maxSteps : Int} {mode : String} (scanned : scan source = .ok tokens) :
    (∀ steps, interpret source maxSteps mode = .ok steps → ∃ program options,
      Program.ofTokens tokens = .ok program ∧ program.trace options = .ok steps) ∧
    ∀ failure, interpret source maxSteps mode = .error (.failed failure) → failure = .bare .noSteps ∨
      ∃ compiled options, compile source = .ok compiled ∧ Program.ofTokens tokens = .ok compiled.program ∧
        compiled.program.trace options = .error failure := by
  obtain ⟨compiled, options, accepted, reports⟩ | ⟨error, ended, other⟩ := interpret_cases source maxSteps mode
  · have read := read_of_compile scanned accepted
    rw [reports]
    constructor
    · intro steps same
      exact ⟨compiled.program, options, read, ok_of_reported same⟩
    · intro failure same
      rcases failed_of_reported same with failed | missing
      · exact .inr ⟨compiled, options, accepted, read, failed⟩
      · exact .inl missing
  · rw [ended]
    constructor
    · exact nofun
    · intro failure same
      exact absurd (Except.error.inj same) (other failure)

/-- Every line that is reported of a source that has tokens is the line of one of them. A source without tokens is not
read, and the complaint about that is all that is reported. -/
theorem reported_lines (source : String) :
    match scan source with
    | .error error => ∀ maxSteps mode, interpret source maxSteps mode = .error (.rejected (.malformed error))
    | .ok tokens => Located source tokens := by
  cases scanned : scan source with
  | error error =>
      intro maxSteps mode
      simp only [interpret, compile, scanned]
  | ok tokens =>
      constructor
      case bounds => exact token_line_bounds scanned
      case complaint =>
        intro error rejected
        exact complaint_line_mem (rejected_of_compile scanned rejected)
      case trace =>
        intro maxSteps mode steps same
        obtain ⟨program, options, read, traced⟩ := (runs_of_interpret scanned).1 steps same
        exact trace_lines_mem read traced
      case issue =>
        intro maxSteps mode cause line same
        obtain missing | ⟨compiled, options, _, read, failed⟩ := (runs_of_interpret scanned).2 _ same
        · cases missing
        · exact issue_line_mem read failed
      case unlined =>
        intro maxSteps mode cause same
        obtain missing | ⟨compiled, options, accepted, read, failed⟩ := (runs_of_interpret scanned).2 _ same
        · cases missing
          exact .inl rfl
        · exact .inr ⟨compiled, accepted, no_class_of_unlined scanned read failed⟩

/-- A division by zero on the fourth line, in a method that is called from another line. -/
def dividing : String :=
  "class Main \x7b\n  void main() \x7b half(0); \x7d\n  int half(int n) \x7b\n    return 1 / n;\n  \x7d\n\x7d"

theorem dividing_located :
    ∃ tokens, scan dividing = .ok tokens ∧
      interpret dividing 100 "local" = .error (.failed (.issue .divisionByZero (some 4))) ∧
        4 ∈ tokens.map Token.line := by
  have evaluated : errorOf? (interpret dividing 100 "local") = some (.failed (.issue .divisionByZero (some 4))) ∧
      (scan dividing).toOption.isSome = true := by
    rw [interpret, compile, scan, toList_of_written dividing rfl]
    decide +kernel
  obtain ⟨reports, accepted⟩ := evaluated
  have failed := eq_error_of_errorOf? reports
  cases scanned : scan dividing with
  | error error =>
      rw [scanned] at accepted
      cases accepted
  | ok tokens =>
      have located := reported_lines dividing
      rw [scanned] at located
      exact ⟨tokens, rfl, failed, located.issue 100 "local" _ _ failed⟩

end Stepwise
