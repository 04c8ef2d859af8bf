import Stepwise.Proofs.Reading.Shape
import Stepwise.Proofs.RoundTrip.Program

/-!
# A compiled program is read back as it was

The shape of a compiled program is one that the grammar knows, and from the words of such a program the same program is
read. So every statement keeps its kind and its place, an `else` stays with its `if`, and no member is lost.
-/

namespace Stepwise

set_option autoImplicit false

/-- Whatever tokens spell a compiled program, on whatever lines, the same program is read from them. -/
theorem compiled_reads_back {source : String} {compiled : Compiled} (accepted : compile source = .ok compiled)
    (spelling : Spelling) {tokens : List Token} (printed : tokens.map Token.word = compiled.program.words spelling) :
    ∃ again, Program.ofTokens tokens = .ok again ∧ again.erased = compiled.program.erased := by
  have shaped : compiled.program.Shaped := shaped_of_compile accepted
  exact Program.ofTokens_of_words shaped printed

/-- A source with a static field, an array and an `else` that could belong to two statements. -/
def nestedElse : String :=
  "class Main \x7b static int n = 2; int[] f(int x) \x7b if (x > 1) if (x > n) x--; else x = -(x + 1) * 2; " ++
    "return new int[] \x7b x, 3 \x7d; \x7d \x7d"

theorem nestedElse_reads_back :
    ∃ compiled, compile nestedElse = .ok compiled ∧
      ∃ again, Program.ofTokens ((compiled.program.words .chosen).map Word.token) = .ok again ∧
        again.erased = compiled.program.erased := by
  have accepted : (compile nestedElse).toOption.isSome = true := by
    rw [compile, scan, toList_of_written nestedElse String.ofList_append.symm]
    decide +kernel
  cases outcome : compile nestedElse with
  | error rejection =>
      rw [outcome] at accepted
      cases accepted
  | ok compiled =>
      have printed : ((compiled.program.words .chosen).map Word.token).map Token.word =
          compiled.program.words .chosen := by
        rw [List.map_map]
        exact List.map_id _
      exact ⟨compiled, rfl, compiled_reads_back outcome .chosen printed⟩

end Stepwise
