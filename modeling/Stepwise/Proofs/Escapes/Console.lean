import Stepwise.Proofs.Escapes.Run

/-!
# Raw text on the console and in comparisons

A string is held as raw text, and what it stands for is found where it is written to the console. This concerns the
value printed, or the template, but not what a directive inserts: under %s a string shows its raw text. Two strings are
compared by their raw texts as well, so that the same text, spelled in two ways, makes two strings. Where the literals
of a program spell each character in one way, so do all strings of its runs, and equal are those that print the same.
-/

namespace Stepwise

set_option autoImplicit false

variable {heap : Heap}

theorem Template.pieces_text : Template.pieces "%s" = [.directive none .text] := by
  have directive : Template.directive? [.ofChar 's'] = some (.directive none .text, 1) := by decide
  change Template.pieces [Template.percent, .ofChar 's'] = _
  rw [Template.pieces, if_pos rfl, directive]
  change _ :: Template.pieces [] = _
  rw [Template.pieces]

namespace ConsoleMethod

theorem output_printf_text (value : Value) : printf.output heap [.string "%s", value] = value.text heap := by
  have shown : Template.argument heap none .text value = value.text heap := by
    unfold Template.argument
    rfl
  change Template.fill heap (Template.pieces "%s") [value] = _
  rw [Template.pieces_text, Template.fill.eq_def]
  dsimp only
  rw [shown]
  cases value.text heap with
  | error failure => rfl
  | ok text => exact congrArg Except.ok (List.append_nil text)

/-- Printed is what the text of the value stands for. -/
theorem output_print (value : Value) : print.output heap [value] = Text.expanded <$> value.text heap := by
  change value.consoleText heap = _
  unfold Value.consoleText Value.rawText
  cases value with
  | char point => exact congrArg Except.ok (Text.expanded_rawPoint point)
  | _ =>
      dsimp only
      split <;> next outcome => rw [outcome]; rfl

theorem printf_eq_print {value : Value} (labelled : heap.Labelled) (closed : value.Closed)
    (noString : ∀ raw, value ≠ .string raw) :
    printf.output heap [.string "%s", value] = print.output heap [value] := by
  have kept : ∀ text, value.text heap = .ok text → Text.expanded text = text := by
    intro text written
    cases value with
    | char point =>
        cases written
        rfl
    | string raw => exact absurd rfl (noString raw)
    | _ => exact (Value.solid_text labelled closed nofun noString written).expanded_eq
  rw [output_printf_text, output_print]
  cases written : value.text heap with
  | error failure => rfl
  | ok text => exact congrArg Except.ok (kept text written).symm

theorem printf_string_eq_print_iff (raw : Text) :
    printf.output heap [.string "%s", .string raw] = print.output heap [.string raw] ↔
      ∀ letter ∈ Text.letters raw, letter.isEscape = false := by
  rw [output_printf_text, output_print, ← Text.expanded_eq_self_iff]
  change Except.ok raw = .ok (Text.expanded raw) ↔ _
  rw [Except.ok.injEq, eq_comm]

theorem print_strings_eq_iff (one two : Text) :
    print.output heap [.string one] = print.output heap [.string two] ↔ Text.expanded one = Text.expanded two := by
  change Except.ok (Text.expanded one) = .ok (Text.expanded two) ↔ _
  rw [Except.ok.injEq]

end ConsoleMethod

theorem Value.equal_strings_iff (line : Nat) (one two : Text) :
    binary heap line "==" (.string one) (.string two) = .ok (.bool true) ↔ one = two := by
  have named : BinaryOperator.ofSpelling? "==" = some .equal := by decide
  unfold binary
  rw [named]
  change Except.ok (bool (decide (one = two))) = .ok (bool true) ↔ _
  rw [Except.ok.injEq, bool.injEq, decide_eq_true_iff]

theorem Context.Arises.of_last {context : Context} {name : String} {value : Value}
    {bindings : List (String × Option Value)}
    (last : (context.execute.run State.initial).state.steps.back?.map Step.bindings = some bindings)
    (member : (name, some value) ∈ bindings) : context.Arises value := by
  obtain ⟨step, found, rfl⟩ := Option.map_eq_some_iff.mp last
  have reached := context.execute.passes_ending State.initial
  exact .held reached (.shown (Array.mem_of_back? found) member)

/-- Under the directive for text, printf shows each value that arises in a run as the text that print would decode. So
the two agree on it, unless it is a string and one of its letters is an escape. -/
theorem printf_shows_undecoded (context : Context) (source : String) (compiles : context.Compiles source) :
    ∀ state value, context.Reaches state → context.Arises value →
      ConsoleMethod.print.output state.heap [value] =
        Text.expanded <$> ConsoleMethod.printf.output state.heap [.string "%s", value] ∧
      (ConsoleMethod.printf.output state.heap [.string "%s", value] = ConsoleMethod.print.output state.heap [value] ↔
        ∀ raw, value = .string raw → ∀ letter ∈ Text.letters raw, letter.isEscape = false) := by
  intro state value reached arises
  constructor
  · rw [ConsoleMethod.output_print, ConsoleMethod.output_printf_text]
  · by_cases text : ∃ raw, value = .string raw
    · obtain ⟨raw, rfl⟩ := text
      rw [ConsoleMethod.printf_string_eq_print_iff]
      constructor
      · intro unescaped other same
        cases same
        exact unescaped
      · intro unescaped
        exact unescaped raw rfl
    · have noString := fun raw same => text ⟨raw, same⟩
      have labelled := compiles.labelled_of_reaches reached
      have agree := ConsoleMethod.printf_eq_print labelled (arises.closed compiles) noString
      exact iff_of_true agree fun raw same => absurd same (noString raw)

/-- A source in which the same text is spelled in two ways. -/
def spelledTwice : String :=
  "class Main \x7b void main() \x7b String plain = \"don't\"; String marked = \"don\\'t\"; \x7d \x7d"

def Context.ofSpelledTwice : Context :=
  .ofSource { maxSteps := 10, mode := .local_ } spelledTwice

theorem Context.arises_ofSpelledTwice :
    Context.ofSpelledTwice.Compiles spelledTwice ∧ Context.ofSpelledTwice.Arises (.string "don't") ∧
      Context.ofSpelledTwice.Arises (.string "don\\'t") := by
  have evaluated : (compile spelledTwice).toOption.isSome = true ∧
      (Context.ofSpelledTwice.execute.run State.initial).state.steps.back?.map Step.bindings =
        some [("plain", some (.string "don't")), ("marked", some (.string "don\\'t"))] := by
    rw [Context.ofSpelledTwice, Context.ofSource, compile, scan, toList_of_written spelledTwice rfl]
    decide +kernel
  obtain ⟨accepted, last⟩ := evaluated
  exact ⟨Context.compiles_ofSource _ accepted, .of_last last List.mem_cons_self, .of_last last (List.mem_cons_of_mem _ List.mem_cons_self)⟩

/-- The plain spelling is shown as it is printed, the other is not. -/
theorem marked_shown_undecoded :
    Context.ofSpelledTwice.Compiles spelledTwice ∧
      ∃ state, Context.ofSpelledTwice.Reaches state ∧
        Context.ofSpelledTwice.Arises (.string "don't") ∧ Context.ofSpelledTwice.Arises (.string "don\\'t") ∧
        ConsoleMethod.printf.output state.heap [.string "%s", .string "don't"] =
          ConsoleMethod.print.output state.heap [.string "don't"] ∧
        ConsoleMethod.printf.output state.heap [.string "%s", .string "don\\'t"] ≠
          ConsoleMethod.print.output state.heap [.string "don\\'t"] := by
  obtain ⟨compiles, plain, marked⟩ := Context.arises_ofSpelledTwice
  have reached := Context.ofSpelledTwice.execute.passes_ending State.initial
  have ofPlain := (printf_shows_undecoded _ _ compiles _ _ reached plain).2
  have ofMarked := (printf_shows_undecoded _ _ compiles _ _ reached marked).2
  refine ⟨compiles, _, reached, plain, marked, ofPlain.mpr ?_, ?_⟩
  · intro raw same
    cases same
    decide
  · intro agree
    exact absurd (ofMarked.mp agree _ rfl) (by decide)

/-- In a run of that source, printf shows the backslash in front of the quotation mark, which print leaves out. -/
theorem marked_shown_apart :
    Context.ofSpelledTwice.Compiles spelledTwice ∧ Context.ofSpelledTwice.Arises (.string "don\\'t") ∧
      ∀ heap, ConsoleMethod.printf.output heap [.string "%s", .string "don\\'t"] = .ok "don\\'t" ∧
        ConsoleMethod.print.output heap [.string "don\\'t"] = .ok "don't" := by
  obtain ⟨compiles, -, marked⟩ := Context.arises_ofSpelledTwice
  refine ⟨compiles, marked, fun heap => ⟨?_, rfl⟩⟩
  rw [ConsoleMethod.output_printf_text]
  rfl

/-- Two strings are equal if and only if they print the same text and have their escapes at the same places of it. In
runs of a program whose literals spell each character in one way, strings are equal if they print the same. -/
theorem equal_strings_print_and_spell_alike (context : Context) (source : String) (compiles : context.Compiles source) :
    (∀ heap line one two,
      Value.binary heap line "==" (.string one) (.string two) = .ok (.bool true) ↔
        ConsoleMethod.print.output heap [.string one] = ConsoleMethod.print.output heap [.string two] ∧
        (Text.letters one).map Text.Letter.isEscape = (Text.letters two).map Text.Letter.isEscape) ∧
    (context.program.LiteralsIn .uniform →
      ∀ heap line one two, context.Arises (.string one) → context.Arises (.string two) →
        (Value.binary heap line "==" (.string one) (.string two) = .ok (.bool true) ↔
          ConsoleMethod.print.output heap [.string one] = ConsoleMethod.print.output heap [.string two])) := by
  constructor
  · intro heap line one two
    rw [Value.equal_strings_iff, ConsoleMethod.print_strings_eq_iff]
    constructor
    · intro same
      rw [same]
      exact ⟨rfl, rfl⟩
    · intro ⟨printed, places⟩
      exact Text.eq_of_expanded_eq printed places
  · intro literals heap line one two first second
    rw [Value.equal_strings_iff, ConsoleMethod.print_strings_eq_iff]
    constructor
    · exact congrArg Text.expanded
    · intro printed
      have spelledFirst : Text.SpelledIn .uniform one := first.spelled compiles literals
      have spelledSecond : Text.SpelledIn .uniform two := second.spelled compiles literals
      exact spelledFirst.eq_of_expanded_eq spelledSecond printed

/-- A source whose literals have no escape but the doubled backslash. -/
def pathAndDrive : String :=
  "class Main \x7b void main() \x7b String path = \"C:\\\\\"; String drive = \"C:\"; \x7d \x7d"

def Context.ofPathAndDrive : Context :=
  .ofSource { maxSteps := 10, mode := .local_ } pathAndDrive

/-- The path differs from the drive, because the one is not printed as the other is. -/
theorem path_differs_from_drive :
    Context.ofPathAndDrive.Compiles pathAndDrive ∧ Context.ofPathAndDrive.program.LiteralsIn .uniform ∧
      Context.ofPathAndDrive.Arises (.string "C:\\\\") ∧ Context.ofPathAndDrive.Arises (.string "C:") ∧
      ∀ heap line, Value.binary heap line "==" (.string "C:\\\\") (.string "C:") ≠ .ok (.bool true) := by
  have evaluated : (compile pathAndDrive).toOption.isSome = true ∧
      Context.ofPathAndDrive.program.LiteralsIn .uniform ∧
      (Context.ofPathAndDrive.execute.run State.initial).state.steps.back?.map Step.bindings =
        some [("path", some (.string "C:\\\\")), ("drive", some (.string "C:"))] := by
    rw [Context.ofPathAndDrive, Context.ofSource, compile, scan, toList_of_written pathAndDrive rfl]
    decide +kernel
  obtain ⟨accepted, literals, last⟩ := evaluated
  have compiles : Context.ofPathAndDrive.Compiles pathAndDrive := Context.compiles_ofSource _ accepted
  have whole : Context.ofPathAndDrive.Arises (.string "C:\\\\") := .of_last last List.mem_cons_self
  have drive : Context.ofPathAndDrive.Arises (.string "C:") := .of_last last (List.mem_cons_of_mem _ List.mem_cons_self)
  refine ⟨compiles, literals, whole, drive, ?_⟩
  intro heap line same
  have compared := (equal_strings_print_and_spell_alike _ _ compiles).2 literals heap line _ _ whole drive
  have printed := (ConsoleMethod.print_strings_eq_iff _ _).mp (compared.mp same)
  exact absurd printed (by decide)

/-- The two spellings of the same text are printed the same, and are not equal. -/
theorem marked_differs_from_plain :
    Context.ofSpelledTwice.Compiles spelledTwice ∧
      Context.ofSpelledTwice.Arises (.string "don't") ∧ Context.ofSpelledTwice.Arises (.string "don\\'t") ∧
      ∀ heap line,
        ConsoleMethod.print.output heap [.string "don't"] = ConsoleMethod.print.output heap [.string "don\\'t"] ∧
        Value.binary heap line "==" (.string "don't") (.string "don\\'t") = .ok (.bool false) := by
  obtain ⟨compiles, plain, marked⟩ := Context.arises_ofSpelledTwice
  exact ⟨compiles, plain, marked, fun heap line => ⟨rfl, rfl⟩⟩

end Stepwise
