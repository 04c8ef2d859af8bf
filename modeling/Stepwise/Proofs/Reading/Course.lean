import Mathlib.Data.List.Chain
import Stepwise.Proofs.Reading.Progress

/-!
# The way through the tokens

A reader looks at the token under the cursor and at four more at most, goes forward token by token, and does not pass
one that marks an end. Begun at another cursor with the same tokens in sight it ends in the same way, as many tokens
from there. Both are shown at once for a pair of readers, of which the second may have a larger bound on the depth: this
covers two lists of different lengths, and says besides that a bound that was large enough can be any larger one.
-/

namespace Stepwise

set_option autoImplicit false

variable {α β : Type}

namespace Cursor

/-- The last token of the list marks the end. -/
def Terminated (cursor : Cursor) : Prop :=
  (cursor.rest.getLastD cursor.current).isEnd = true

/-- So many tokens on, and none of the tokens that were passed marks an end. -/
inductive Onward : Nat → Cursor → Cursor → Prop
  | here (cursor : Cursor) : Onward 0 cursor cursor
  | step {count : Nat} {cursor next after : Cursor} (more : cursor.current.isEnd = false)
      (moved : cursor.next? = some next) (onward : Onward count next after) : Onward (count + 1) cursor after

def Further (before after : Cursor) : Prop :=
  ∃ count, Onward count before after

/-- The same tokens are in sight on the way to a place so many tokens on, and of the four behind it. -/
def Alike (count : Nat) (cursor other : Cursor) : Prop :=
  ∀ distance ≤ count + 4, cursor.ahead distance = other.ahead distance

variable {cursor other following between after : Cursor} {count further : Nat}

theorem Terminated.ready (terminated : cursor.Terminated) : cursor.Ready fun _ => True where
  within := ⟨trivial, fun _ _ => trivial⟩
  terminated := terminated

theorem Terminated.next (terminated : cursor.Terminated) (moved : cursor.next? = some following) :
    following.Terminated := by
  obtain ⟨current, rest⟩ := cursor
  cases rest with
  | nil => cases moved
  | cons first others =>
      cases moved
      rw [Terminated, List.getLastD_cons] at terminated
      exact terminated

theorem Terminated.onward_advanced (terminated : cursor.Terminated) :
    Onward (if cursor.current.isEnd then 0 else 1) cursor cursor.advanced := by
  cases more : cursor.current.isEnd with
  | true =>
      rw [show cursor.advanced = cursor from if_pos more]
      exact .here cursor
  | false => exact .step more (terminated.ready.next? more) (.here _)

theorem ahead_next (moved : cursor.next? = some following) (distance : Nat) :
    following.ahead distance = cursor.ahead (distance + 1) := by
  obtain ⟨current, rest⟩ := cursor
  cases rest with
  | nil => cases moved
  | cons first others =>
      cases moved
      cases distance with
      | zero => rfl
      | succ distance => simp only [ahead, List.getD_cons_succ, List.getLastD_cons]

namespace Onward

theorem trans (first : Onward count cursor between) (second : Onward further between after) :
    Onward (count + further) cursor after := by
  induction first with
  | here cursor => exact (Nat.zero_add further).symm ▸ second
  | step more moved onward hypothesis =>
      rw [Nat.add_right_comm]
      exact .step more moved (hypothesis second)

theorem terminated (onward : Onward count cursor after) (terminated : cursor.Terminated) : after.Terminated := by
  induction onward with
  | here cursor => exact terminated
  | step more moved onward hypothesis => exact hypothesis (terminated.next moved)

theorem unique (first : Onward count cursor after) (second : Onward count cursor between) : after = between := by
  induction first with
  | here cursor =>
      cases second
      rfl
  | step more moved onward hypothesis =>
      cases second with
      | step _ same others =>
          cases moved.symm.trans same
          exact hypothesis others

theorem length (onward : Onward count cursor after) : after.rest.length + count = cursor.rest.length := by
  induction onward with
  | here cursor => rfl
  | @step count cursor following after more moved onward hypothesis =>
      obtain ⟨current, rest⟩ := cursor
      cases rest with
      | nil => cases moved
      | cons first others =>
          cases moved
          rw [← Nat.add_assoc, hypothesis, List.length_cons]

theorem count_unique (first : Onward count cursor after) (second : Onward further cursor after) : count = further := by
  have one := first.length
  have two := second.length
  omega

theorem ahead (onward : Onward count cursor after) (distance : Nat) :
    after.ahead distance = cursor.ahead (distance + count) := by
  induction onward with
  | here cursor => rfl
  | step more moved onward hypothesis => rw [hypothesis, ahead_next moved, Nat.add_assoc]

end Onward

theorem Further.refl (cursor : Cursor) : cursor.Further cursor :=
  ⟨0, .here cursor⟩

theorem Further.trans (first : cursor.Further between) (second : between.Further after) : cursor.Further after := by
  obtain ⟨count, onward⟩ := first
  obtain ⟨further, onwards⟩ := second
  exact ⟨count + further, onward.trans onwards⟩

instance : Trans Further Further Further where
  trans := Further.trans

theorem Further.terminated (further : cursor.Further after) (terminated : cursor.Terminated) : after.Terminated := by
  obtain ⟨count, onward⟩ := further
  exact onward.terminated terminated

namespace Alike

theorem refl (count : Nat) (cursor : Cursor) : Alike count cursor cursor :=
  fun _ _ => rfl

theorem of_le (alike : Alike further cursor other) (fewer : count ≤ further) : Alike count cursor other :=
  fun distance near => alike distance (by omega)

theorem current (alike : Alike count cursor other) : cursor.current = other.current :=
  alike 0 (Nat.zero_le _)

/-- Two cursors that have gone equally far still have the rest of the way in sight. -/
theorem onward {beyond : Cursor} (alike : Alike (count + further) cursor other) (first : Onward count cursor after)
    (second : Onward count other beyond) : Alike further after beyond := by
  intro distance near
  rw [first.ahead, second.ahead]
  exact alike _ (by omega)

theorem shape? (alike : Alike count cursor other) : cursor.shape? = other.shape? := by
  have seen : ∀ distance ≤ 4, cursor.ahead distance = other.ahead distance :=
    fun distance near => alike distance (by omega)
  simp only [Cursor.shape?, alike.current, seen 1 (by decide), seen 2 (by decide), seen 3 (by decide),
    seen 4 (by decide)]

end Alike

end Cursor

namespace Reading

def outcome : Reading α → Except Rejection α
  | .ok result _ => .ok result
  | .error rejection _ => .error rejection

theorem ext {one two : Reading α} (same : one.outcome = two.outcome) (there : one.cursor = two.cursor) : one = two := by
  cases one <;> cases two <;> cases same <;> cases there <;> rfl

theorem eq_ok {reading : Reading α} {result : α} (same : reading.outcome = .ok result) :
    reading = .ok result reading.cursor := by
  cases reading <;> cases same
  rfl

theorem eq_error {reading : Reading α} {rejection : Rejection} (same : reading.outcome = .error rejection) :
    reading = .error rejection reading.cursor := by
  cases reading <;> cases same
  rfl

end Reading

namespace Reader

open Cursor (Onward Further Alike)

/-- From wherever the same tokens are in sight, a reader ends as told, as many tokens from there. -/
def Echoes (reader : Reader α) (cursor : Cursor) (ended : Reading α) : Prop :=
  ∃ count, Onward count cursor ended.cursor ∧ ∀ other : Cursor, other.Terminated → Alike count cursor other →
    Onward count other (reader.run other).cursor ∧ (reader.run other).outcome = ended.outcome

/-- The first reader only goes forward; and if it has not run out of its bound, then the second one ends as it did
wherever the same tokens are in sight. -/
structure Local (first second : Reader α) : Prop where
  forward : ∀ cursor : Cursor, cursor.Terminated → List.IsChain Further (cursor :: first.trail cursor)
  echoed : ∀ cursor : Cursor, cursor.Terminated → (first.run cursor).outcome ≠ .error .exhausted →
    Echoes second cursor (first.run cursor)

theorem isChain_append {related : Cursor → Cursor → Prop} {cursor : Cursor} {first second : List Cursor}
    (one : List.IsChain related (cursor :: first)) (two : List.IsChain related (first.getLastD cursor :: second)) :
    List.IsChain related (cursor :: (first ++ second)) := by
  induction first generalizing cursor with
  | nil => exact two
  | cons next others hypothesis =>
      rw [List.isChain_cons_cons] at one
      rw [List.getLastD_cons] at two
      exact List.isChain_cons_cons.mpr ⟨one.1, hypothesis one.2 two⟩

theorem further_getLastD {cursor : Cursor} {trail : List Cursor} (chain : List.IsChain Further (cursor :: trail)) :
    Further cursor (trail.getLastD cursor) := by
  induction trail generalizing cursor with
  | nil => exact .refl cursor
  | cons next others hypothesis =>
      rw [List.isChain_cons_cons] at chain
      rw [List.getLastD_cons]
      exact chain.1.trans (hypothesis chain.2)

namespace Local

variable {first second : Reader α} {next follow : α → Reader β} {cursor : Cursor}

theorem further (confined : Local first second) (terminated : cursor.Terminated) :
    Further cursor (first.run cursor).cursor := by
  rw [← first.trail_ending cursor]
  exact further_getLastD (confined.forward cursor terminated)

/-- What a reader did without running out of its bound the other one does too. -/
theorem run_eq (confined : Local first second) (terminated : cursor.Terminated)
    (finished : (first.run cursor).outcome ≠ .error .exhausted) : second.run cursor = first.run cursor := by
  obtain ⟨count, onward, echoes⟩ := confined.echoed cursor terminated finished
  obtain ⟨there, same⟩ := echoes cursor terminated (.refl count cursor)
  exact Reading.ext same (there.unique onward)

theorem bind (confined : Local first second) (others : ∀ result, Local (next result) (follow result)) :
    Local (first >>= next) (second >>= follow) where
  forward cursor terminated := by
    have chain := confined.forward cursor terminated
    have inside := (confined.further terminated).terminated terminated
    have ending := first.trail_ending cursor
    cases outcome : first.run cursor with
    | ok result between =>
        rw [outcome] at ending inside
        rw [trail_bind_of_ok outcome]
        exact isChain_append chain (ending ▸ (others result).forward between inside)
    | error rejection between =>
        rw [trail_bind_of_error outcome]
        exact chain
  echoed cursor terminated finished := by
    have inside := (confined.further terminated).terminated terminated
    have echoed := confined.echoed cursor terminated
    rw [run_bind] at finished ⊢
    cases outcome : first.run cursor with
    | ok result between =>
        rw [outcome] at finished echoed inside
        obtain ⟨count, onward, echoes⟩ := echoed nofun
        obtain ⟨further, onwards, answers⟩ := (others result).echoed between inside finished
        refine ⟨count + further, onward.trans onwards, fun other ends alike => ?_⟩
        obtain ⟨there, same⟩ := echoes other ends (alike.of_le (Nat.le_add_right count further))
        obtain ⟨beyond, replied⟩ := answers _ (there.terminated ends) (alike.onward onward there)
        rw [run_bind, Reading.eq_ok same]
        exact ⟨there.trans beyond, replied⟩
    | error rejection between =>
        rw [outcome] at finished echoed
        obtain ⟨count, onward, echoes⟩ :=
          echoed fun same => finished (congrArg Except.error (Except.error.inj same))
        refine ⟨count, onward, fun other ends alike => ?_⟩
        obtain ⟨there, same⟩ := echoes other ends alike
        rw [run_bind, Reading.eq_error same]
        exact ⟨there, rfl⟩

theorem pure (result : α) : Local (pure result) (pure result) where
  forward cursor _ := .singleton cursor
  echoed cursor _ _ := ⟨0, .here cursor, fun other _ _ => ⟨.here other, rfl⟩⟩

theorem map {change : α → β} (confined : Local first second) : Local (change <$> first) (change <$> second) :=
  confined.bind fun result => .pure (change result)

theorem reject (rejection : Rejection) : Local (reject rejection : Reader α) (reject rejection) where
  forward cursor _ := .singleton cursor
  echoed cursor _ _ := ⟨0, .here cursor, fun other _ _ => ⟨.here other, rfl⟩⟩

/-- A reader that has run out of its bound says nothing about one with a larger bound. -/
theorem exhausted : Local (Reader.reject .exhausted) second where
  forward cursor _ := .singleton cursor
  echoed _ _ finished := absurd rfl finished

theorem branch {condition : Prop} [Decidable condition] {yes no : Reader α} {yesSecond noSecond : Reader α}
    (confined : Local yes yesSecond) (otherwise : Local no noSecond) :
    Local (if condition then yes else no) (if condition then yesSecond else noSecond) := by
  split
  · exact confined
  · exact otherwise

theorem guarded {condition : Prop} [Decidable condition] {complaint : Complaint} {token : Token}
    {after afterSecond : Unit → Reader α} (others : Local (after ()) (afterSecond ())) :
    Local (if condition then complain complaint token >>= after else after ())
      (if condition then complain complaint token >>= afterSecond else afterSecond ()) :=
  branch ((reject _).bind fun _ => others) others

/-- A reader that goes by what is in sight. -/
theorem look {next follow : Cursor → Reader α} (others : ∀ cursor, Local (next cursor) (follow cursor))
    (seen : ∀ cursor other, Alike 0 cursor other → follow other = follow cursor) : Local (get >>= next) (get >>= follow) where
  forward cursor terminated := (others cursor).forward cursor terminated
  echoed cursor terminated finished := by
    obtain ⟨count, onward, echoes⟩ := (others cursor).echoed cursor terminated finished
    refine ⟨count, onward, fun other ends alike => ?_⟩
    have same : (get >>= follow).run other = (follow cursor).run other := by
      rw [← seen cursor other (alike.of_le (Nat.zero_le count))]
      rfl
    rw [same]
    exact echoes other ends alike

/-- A reader that takes its bound from where it stands, and never too small. -/
theorem bounded {read : Nat → Reader α} {bound : Cursor → Nat}
    (reads : ∀ {fuel more : Nat}, fuel ≤ more → Local (read fuel) (read more))
    (enough : ∀ cursor : Cursor, cursor.Terminated → ((read (bound cursor)).run cursor).outcome ≠ .error .exhausted) :
    Local (get >>= fun cursor => read (bound cursor)) (get >>= fun cursor => read (bound cursor)) where
  forward cursor terminated := (reads (Nat.le_refl _)).forward cursor terminated
  echoed cursor terminated finished := by
    -- Both bounds are compared with one that is as large as either.
    have larger := fun other =>
      (reads (Nat.le_max_left (bound cursor) (bound other))).echoed cursor terminated finished
    obtain ⟨count, onward, -⟩ := larger cursor
    refine ⟨count, onward, fun other ends alike => ?_⟩
    have same := (reads (Nat.le_max_right (bound cursor) (bound other))).run_eq ends (enough other ends)
    change Onward count other ((read (bound other)).run other).cursor ∧ ((read (bound other)).run other).outcome = _
    rw [← same]
    obtain ⟨equal, passed, echoes⟩ := larger other
    cases onward.count_unique passed
    exact echoes other ends alike

end Local

theorem local_current : Local current current :=
  .look (fun _ => .pure _) fun _ _ alike => by rw [alike.current]

theorem local_at? (kind : TokenKind) : Local (at? kind) (at? kind) :=
  .look (fun _ => .pure _) fun _ _ alike => by rw [alike.current]

theorem local_shape? : Local shape? shape? :=
  .look (fun _ => .pure _) fun _ _ alike => by rw [alike.shape?]

theorem local_advance : Local advance advance where
  forward cursor terminated := .cons_cons ⟨_, terminated.onward_advanced⟩ (.singleton _)
  echoed cursor terminated _ := by
    refine ⟨_, terminated.onward_advanced, fun other ends alike => ?_⟩
    rw [run_advance, run_advance, alike.current]
    exact ⟨ends.onward_advanced, rfl⟩

theorem local_accept {kind : TokenKind} (inner : kind ≠ .endOfInput) : Local (accept kind) (accept kind) where
  forward cursor terminated := by
    by_cases same : cursor.current.kind = kind
    · have more := Token.not_isEnd_of_kind same inner
      have moved := terminated.ready.next? more
      have passed : (accept kind).trail cursor = [cursor.advanced] := by
        rw [accept, trail_bind_of_ok run_at?, if_pos (decide_eq_true same), trail_bind_of_ok (run_step_of_next moved),
          step, trail_bind_of_ok run_get, moved]
        rfl
      rw [passed]
      exact .cons_cons ⟨1, .step more moved (.here _)⟩ (.singleton _)
    · have stays : (accept kind).trail cursor = [] := by
        rw [accept, trail_bind_of_ok run_at?, if_neg (by simpa using same)]
        rfl
      rw [stays]
      exact .singleton cursor
  echoed cursor terminated _ := by
    by_cases same : cursor.current.kind = kind
    · have more := Token.not_isEnd_of_kind same inner
      have moved := terminated.ready.next? more
      rw [run_accept_of_eq same moved]
      refine ⟨1, .step more moved (.here _), fun other ends alike => ?_⟩
      rw [alike.current] at same more
      have follows := ends.ready.next? more
      rw [run_accept_of_eq same follows]
      exact ⟨.step more follows (.here _), rfl⟩
    · rw [run_accept_of_ne same]
      refine ⟨0, .here cursor, fun other ends alike => ?_⟩
      rw [alike.current] at same
      rw [run_accept_of_ne same]
      exact ⟨.here other, rfl⟩

theorem local_symbol (mark : Symbol) : Local (accept (.symbol mark)) (accept (.symbol mark)) :=
  local_accept nofun

theorem local_keyword (word : Keyword) : Local (accept (.keyword word)) (accept (.keyword word)) :=
  local_accept nofun

theorem local_complain {complaint : Complaint} {token : Token} :
    Local (complain complaint token : Reader α) (complain complaint token) :=
  .reject _

theorem local_expect (place : Expectation) : Local (expect place) (expect place) :=
  local_current.bind fun _ => .branch local_advance local_complain

theorem local_literal (value : Except Fault α) : Local (literal value) (literal value) := by
  cases value with
  | ok value => exact .pure value
  | error fault => exact .reject _

theorem local_requireTarget (target : Expr) (operator : Token) :
    Local (requireTarget target operator) (requireTarget target operator) :=
  .branch (.pure ()) local_complain

end Reader

end Stepwise
