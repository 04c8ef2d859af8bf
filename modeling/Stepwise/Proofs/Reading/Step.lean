import Stepwise.Proofs.Reading.Program

/-!
# What the elementary readers do

At a given cursor each elementary reader does one thing: it tells what is under the cursor, or takes one token, or
rejects. A reader that begins with another one goes on from where that one ended.
-/

namespace Stepwise

set_option autoImplicit false

namespace Cursor

def tokens (cursor : Cursor) : List Token :=
  cursor.current :: cursor.rest

theorem tokens_injective {one two : Cursor} (same : one.tokens = two.tokens) : one = two := by
  cases one
  cases two
  cases same
  rfl

theorem tokens_ne_nil (cursor : Cursor) : cursor.tokens ≠ [] :=
  nofun

theorem exists_tokens_eq {tokens : List Token} (nonempty : tokens ≠ []) : ∃ cursor, tokens = Cursor.tokens cursor := by
  obtain ⟨first, rest, rfl⟩ := List.exists_cons_of_ne_nil nonempty
  exact ⟨{ current := first, rest }, rfl⟩

theorem next?_eq_advanced {cursor : Cursor} (more : cursor.current.isEnd = false) (behind : cursor.rest ≠ []) :
    cursor.next? = some cursor.advanced := by
  obtain ⟨current, rest⟩ := cursor
  obtain ⟨first, others, rfl⟩ := List.exists_cons_of_ne_nil behind
  rw [advanced, more]
  rfl

end Cursor

namespace Reader

variable {α β : Type} {cursor between : Cursor} {kind : TokenKind}

@[simp] theorem run_pure (result : α) : (pure result : Reader α).run cursor = .ok result cursor := rfl

@[simp] theorem run_get : (get : Reader Cursor).run cursor = .ok cursor cursor := rfl

@[simp] theorem run_current : current.run cursor = .ok cursor.current cursor := rfl

@[simp] theorem run_at? : (at? kind).run cursor = .ok (decide (cursor.current.kind = kind)) cursor := rfl

@[simp] theorem run_advance : advance.run cursor = .ok cursor.current cursor.advanced := rfl

theorem run_bind_of_ok {first : Reader α} {next : α → Reader β} {result : α}
    (ended : first.run cursor = .ok result between) : (first >>= next).run cursor = (next result).run between := by
  rw [run_bind, ended]

theorem run_bind_of_error {first : Reader α} {next : α → Reader β} {rejection : Rejection}
    (failed : first.run cursor = .error rejection between) : (first >>= next).run cursor = .error rejection between := by
  rw [run_bind, failed]

theorem run_bind_eq_ok {first : Reader α} {next : α → Reader β} {result : β}
    (ended : (first >>= next).run cursor = .ok result between) :
    ∃ value middle, first.run cursor = .ok value middle ∧ (next value).run middle = .ok result between := by
  rw [run_bind] at ended
  cases outcome : first.run cursor with
  | ok value middle =>
      rw [outcome] at ended
      exact ⟨value, middle, rfl, ended⟩
  | error rejection middle =>
      rw [outcome] at ended
      cases ended

theorem trail_bind_of_ok {first : Reader α} {next : α → Reader β} {result : α}
    (ended : first.run cursor = .ok result between) :
    (first >>= next).trail cursor = first.trail cursor ++ (next result).trail between := by
  dsimp only [bind, Reader.bind]
  rw [ended]

theorem trail_bind_of_error {first : Reader α} {next : α → Reader β} {rejection : Rejection}
    (failed : first.run cursor = .error rejection between) : (first >>= next).trail cursor = first.trail cursor := by
  dsimp only [bind, Reader.bind]
  rw [failed]

theorem run_complain {complaint : Complaint} {token : Token} :
    (complain complaint token : Reader α).run cursor = .error (.malformed { complaint, line := token.line }) cursor :=
  rfl

theorem run_step_of_next (moved : cursor.next? = some between) : step.run cursor = .ok () between := by
  rw [step, run_bind_of_ok run_get, moved]
  rfl

theorem run_step_of_last (last : cursor.next? = none) : step.run cursor = .error (.fault .missingHandle) cursor := by
  rw [step, run_bind_of_ok run_get, last]
  rfl

theorem run_accept_of_last (same : cursor.current.kind = kind) (last : cursor.next? = none) :
    (accept kind).run cursor = .error (.fault .missingHandle) cursor := by
  rw [accept, run_bind_of_ok run_at?, if_pos (decide_eq_true same), run_bind_of_error (run_step_of_last last)]

theorem run_accept_of_eq (same : cursor.current.kind = kind) (moved : cursor.next? = some between) :
    (accept kind).run cursor = .ok true between := by
  rw [accept, run_bind_of_ok run_at?, if_pos (decide_eq_true same), run_bind_of_ok (run_step_of_next moved), run_pure]

theorem run_accept_of_ne (different : cursor.current.kind ≠ kind) : (accept kind).run cursor = .ok false cursor := by
  rw [accept, run_bind_of_ok run_at?, if_neg (by simpa using different), run_pure]

theorem run_expect_of_eq {place : Expectation} (same : cursor.current.kind = place.kind) :
    (expect place).run cursor = .ok cursor.current cursor.advanced := by
  rw [expect, run_bind_of_ok run_current, if_pos same, run_advance]

theorem run_expect_of_ne {place : Expectation} (different : cursor.current.kind ≠ place.kind) :
    ∃ error, (expect place).run cursor = .error (.malformed error) cursor := by
  rw [expect, run_bind_of_ok run_current, if_neg different]
  exact ⟨_, rfl⟩

end Reader

theorem Program.ofTokens_cons {first : Token} {rest : List Token} (terminated : (rest.getLastD first).isEnd = true) :
    Program.ofTokens (first :: rest) =
      match Reader.program.run { current := first, rest } with
      | .ok program _ => .ok program
      | .error rejection _ => .error rejection := by
  have started : Program.start? (first :: rest) = some { current := first, rest } := if_pos terminated
  unfold Program.ofTokens
  split
  · next missing =>
      rw [started] at missing
      cases missing
  · next cursor found =>
      rw [started] at found
      cases found
      rfl

end Stepwise
