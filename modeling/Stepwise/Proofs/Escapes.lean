import Stepwise.Text
import Stepwise.Token.Scan

/-!
# Raw text and the text it stands for

Raw text is closed if every backslash of it, read from left to right, has the character that it escapes behind it. What
closed text stands for does not depend on what comes behind it, so that pieces of raw text may be joined first and
translated later. The text of a string literal is closed, and a backslash that comes from a character is doubled.
-/

namespace Stepwise

set_option autoImplicit false

namespace Text

/-- Raw text in which every backslash has the code point that it escapes behind it. -/
inductive Closed : Text → Prop
  | nil : Closed []
  | escape (point : CodePoint) {rest : Text} (more : Closed rest) : Closed (.backslash :: point :: rest)
  | plain {point : CodePoint} {rest : Text} (solid : point ≠ .backslash) (more : Closed rest) : Closed (point :: rest)

theorem expanded_escape (point : CodePoint) (rest : Text) :
    expanded (.backslash :: point :: rest) = expandedPair point ++ expanded rest := by
  rw [expanded, if_pos rfl]

theorem expanded_cons_of_ne {point : CodePoint} (solid : point ≠ .backslash) (rest : Text) :
    expanded (point :: rest) = point :: expanded rest := by
  cases rest <;> simp [expanded, solid]

theorem Closed.of_not_mem {text : Text} (solid : .backslash ∉ text) : Closed text := by
  induction text with
  | nil => exact .nil
  | cons point rest hypothesis =>
      rw [List.mem_cons, not_or] at solid
      exact .plain (Ne.symm solid.1) (hypothesis solid.2)

theorem Closed.append {front back : Text} (first : Closed front) (second : Closed back) : Closed (front ++ back) := by
  induction first with
  | nil => exact second
  | escape point more hypothesis => exact .escape point hypothesis
  | plain solid more hypothesis => exact .plain solid hypothesis

/-- Text without a backslash. -/
def Solid (text : Text) : Prop :=
  .backslash ∉ text

theorem solid_ofString {text : String} (solid : '\\' ∉ text.toList) : Solid text := by
  intro member
  obtain ⟨char, inside, same⟩ := List.mem_map.mp member
  exact solid (CodePoint.ofChar_inj same ▸ inside)

theorem Solid.closed {text : Text} (solid : Solid text) : Closed text :=
  .of_not_mem solid

theorem Solid.append {front back : Text} (first : Solid front) (second : Solid back) : Solid (front ++ back) := by
  unfold Solid at *
  rw [List.mem_append, not_or]
  exact ⟨first, second⟩

theorem closed_rawPoint (point : CodePoint) : Closed (rawPoint point) := by
  unfold rawPoint
  split
  · exact .escape .backslash .nil
  · next solid => exact .plain solid .nil

theorem expanded_rawPoint (point : CodePoint) : expanded (rawPoint point) = [point] := by
  unfold rawPoint
  split
  · next same =>
      subst same
      rfl
  · next solid => exact expanded_cons_of_ne solid []

end Text

/-- What stands between the quotes of a string literal is closed. -/
theorem Scan.closed_stringBody? {chars body : List Char} (found : stringBody? chars = some body) :
    Text.Closed (body.map .ofChar) := by
  fun_induction stringBody? chars generalizing body with
  | case1 => cases found
  | case2 =>
      cases found
      exact .nil
  | case3 char rest hypothesis =>
      obtain ⟨others, foundOthers, rfl⟩ := Option.map_eq_some_iff.mp found
      exact .escape (.ofChar char) (hypothesis foundOthers)
  | case4 char rest unquoted alone hypothesis =>
      obtain ⟨others, foundOthers, rfl⟩ := Option.map_eq_some_iff.mp found
      refine .plain (fun same => ?_) (hypothesis foundOthers)
      cases CodePoint.ofChar_inj same
      -- A backslash at the end leaves the literal without a closing quote.
      cases rest with
      | nil => cases foundOthers
      | cons next rest => exact alone next rest rfl rfl

end Stepwise
