import Stepwise.Proofs.Nesting
import Stepwise.Proofs.StepLimit

/-!
# Every run ends

The machine runs loops by recursion on a bound and calls by recursion on the room for frames. Neither recursion is what
ends a run. Here loops and calls are unrolled as often as some fuel allows, with no relation to the limit of the run,
and what happens when the fuel runs out is left open. The checks that remain are those that count: a round of a loop
is counted against the limit of steps, and a call or a creation is refused if the call stack is full.

With enough fuel this makes no difference. Along every path of calls the call stack grows, so that a call finds it full
before the fuel is spent; and the count of rounds never falls, not even in what the rounds call, so that a loop is cut
off before its rounds are.

The walk outwards through the scopes has a bound as well, and does not need it either: the scope around a scope is
older.
-/

namespace Stepwise

set_option autoImplicit false

open Machine

/-- Loops and calls, unrolled as often as the fuel allows. What happens without fuel is given. -/
def Evaluator.unrolled (context : Context) (spent : (α : Type) → Machine α) : Nat → Evaluator
  | 0 =>
      { invoke := fun _ _ _ _ => spent Value
        instantiate := fun _ => spent Cell
        loop := fun _ _ => spent Completion }
  | fuel + 1 =>
      { invoke := fun method className arguments line => do
          checkArguments method arguments line
          if maxCallDepth ≤ (← get).frames.length then failOn line .stackOverflow
          else enterMethod context (Evaluator.unrolled context spent fuel) method className arguments
        instantiate := fun decl => do
          if maxCallDepth ≤ (← get).frames.length then fail .stackOverflow
          else initialise context (Evaluator.unrolled context spent fuel).toCalls decl
        loop := fun _ round => Machine.unrolled (spent Completion) round fuel }

namespace Coupling

variable {program : Program} {mode : VariablesMode} {limit room fuel : Nat} {spent : (α : Type) → Machine α}

theorem limits_unrolled_full :
    (limits program mode limit limit).CouplesCalls 0 (Calls.within ⟨⟨limit, mode⟩, program⟩ 0)
      (Evaluator.unrolled ⟨⟨limit, mode⟩, program⟩ spent (fuel + 1)).toCalls where
  invoke method className arguments line ready := by
    rw [Calls.within, Evaluator.unrolled]
    apply (runs_checkArguments limits_laws method arguments line ready.agree).seq
    rintro - oneSame twoSame ⟨rfl, rfl⟩
    obtain ⟨rfl, within⟩ := ready.agree
    have full : maxCallDepth ≤ twoSame.frames.length := Nat.le_of_eq within.frames.symm
    apply Runs.look_right
    rw [if_pos full]
    exact Couples.fails limits_laws.toViewLaws ready
  instantiate {one two} decl ready := by
    rw [Calls.within, Evaluator.unrolled]
    obtain ⟨rfl, within⟩ := ready.agree
    have full : maxCallDepth ≤ two.frames.length := Nat.le_of_eq within.frames.symm
    apply Runs.look_right
    rw [if_pos full]
    exact Couples.fails limits_laws.toViewLaws ready

/-- A call with room for its frame is made, and what it calls has room for one frame less and one unit of fuel less. -/
theorem limits_unrolled_free
    (supports : (limits program mode limit limit).Supports room (.within ⟨⟨limit, mode⟩, program⟩ room)
      (.unrolled ⟨⟨limit, mode⟩, program⟩ spent fuel)) :
    (limits program mode limit limit).CouplesCalls (room + 1) (Calls.within ⟨⟨limit, mode⟩, program⟩ (room + 1))
      (Evaluator.unrolled ⟨⟨limit, mode⟩, program⟩ spent (fuel + 1)).toCalls where
  invoke method className arguments line ready := by
    rw [Calls.invoke_within_succ, Evaluator.unrolled]
    apply (runs_checkArguments limits_laws method arguments line ready.agree).seq
    rintro - oneSame twoSame ⟨rfl, rfl⟩
    have executes := executes_statements limits_laws supports method.body
    have enters := runs_enterMethod limits_laws method className arguments executes ready.agree
    obtain ⟨rfl, within⟩ := ready.agree
    have frames := within.frames
    have free : ¬maxCallDepth ≤ twoSame.frames.length := by omega
    apply Runs.look_right
    rw [if_neg free]
    exact enters.couples ready
  instantiate {one two} decl ready := by
    rw [Calls.instantiate_within_succ, Evaluator.unrolled]
    have initialises := runs_initialise limits_laws supports.toCouplesCalls decl ready.agree
    obtain ⟨rfl, within⟩ := ready.agree
    have frames := within.frames
    have free : ¬maxCallDepth ≤ two.frames.length := by omega
    apply Runs.look_right
    rw [if_neg free]
    exact initialises.couples ready

/-- The machine's evaluator and the unrolled one, with fuel for the frames that fit and for the rounds of a loop. -/
theorem limits_supports_unrolled (enough : room + limit + 1 < fuel) :
    (limits program mode limit limit).Supports room (.within ⟨⟨limit, mode⟩, program⟩ room)
      (.unrolled ⟨⟨limit, mode⟩, program⟩ spent fuel) := by
  have loops : ∀ {room fuel : Nat} {restLeft restRight : Machine (Option Completion)} (line : Nat), limit < fuel →
      (limits program mode limit limit).Executes room restLeft restRight →
      (limits program mode limit limit).Executes room
        (Machine.loop ⟨limit, mode⟩ line (tick ⟨limit, mode⟩ line >>= fun _ => restLeft))
        (Machine.unrolled (spent Completion) (tick ⟨limit, mode⟩ line >>= fun _ => restRight) fuel) := by
    intro room fuel restLeft restRight line enough executes one two ready
    unfold Machine.loop
    rw [Machine.repeated_eq_unrolled]
    have rounds : min limit limit < limit + 1 + one.iterations := by omega
    exact limits_unrolled line executes ready rounds (by omega)
  -- Each call takes one frame and one unit of fuel.
  induction room generalizing fuel with
  | zero =>
      obtain ⟨less, rfl⟩ : ∃ less, fuel = less + 1 := ⟨fuel - 1, by omega⟩
      exact ⟨limits_unrolled_full, fun line => loops line (by omega)⟩
  | succ room ih =>
      obtain ⟨less, rfl⟩ : ∃ less, fuel = less + 1 := ⟨fuel - 1, by omega⟩
      exact ⟨limits_unrolled_free (ih (by omega)), fun line => loops line (by omega)⟩

theorem limits_runs_unrolled (program : Program) (mode : VariablesMode) (spent : (α : Type) → Machine α)
    (enough : maxCallDepth + limit < fuel) :
    (limits program mode limit limit).Runs State.initial State.initial
      (Context.execute ⟨⟨limit, mode⟩, program⟩)
      (Context.executeBy ⟨⟨limit, mode⟩, program⟩ (.unrolled ⟨⟨limit, mode⟩, program⟩ spent fuel))
      fun oneEnd twoEnd _ => (limits program mode limit limit).agree maxCallDepth oneEnd twoEnd := by
  have fits : maxCallDepth - 1 + limit + 1 < fuel := by
    simp only [maxCallDepth] at enough ⊢
    omega
  rw [← Context.executeBy_within]
  exact runs_executeBy limits_laws (limits_supports_unrolled fits) limits_initial rfl

end Coupling

/-- With enough fuel a run of the unrolled evaluator ends, and as it does on the machine. -/
theorem Context.run_executeBy_unrolled (context : Context) (spent : (α : Type) → Machine α) {fuel : Nat}
    (enough : maxCallDepth + context.options.maxSteps < fuel) :
    (context.executeBy (.unrolled context spent fuel)).run State.initial = context.execute.run State.initial := by
  obtain ⟨⟨limit, mode⟩, program⟩ := context
  dsimp only at enough
  have alike := Coupling.limits_runs_unrolled program mode spent enough
    fun _ _ impossible => absurd impossible (Nat.lt_irrefl _)
  generalize (Context.mk ⟨limit, mode⟩ program).execute.run State.initial = one at alike ⊢
  generalize (Context.executeBy _ _).run State.initial = two at alike ⊢
  cases alike with
  | completed finished => rw [finished.2.1]
  | failed same => rw [same]
  | stopped stops => exact absurd stops.1 (Nat.lt_irrefl _)

/-- Every run ends: some fuel is enough for it, with any more of it the run ends the same way, in a trace or a failure,
and what would happen without fuel does not matter. Nor does the bound of the walk outwards through the scopes. -/
theorem every_run_ends (context : Context) :
    (∃ fuel, ∀ more, fuel ≤ more → ∀ spent : (α : Type) → Machine α,
      (context.executeBy (.unrolled context spent more)).run State.initial = context.execute.run State.initial) ∧
    (∀ state, context.Reaches state → ∀ handle name bound, handle < state.scopes.size → handle < bound →
      state.scopes.resolveWithin name bound handle = state.scopes.resolve handle name) := by
  constructor
  · refine ⟨maxCallDepth + context.options.maxSteps + 1, ?_⟩
    intro more enough spent
    exact context.run_executeBy_unrolled spent enough
  · intro state reached handle name bound inside enough
    exact reached.placed.nested.resolveWithin_eq name enough (by omega)

/-- A method that does nothing, without end. -/
def Context.endless : Context where
  options := { maxSteps := 3, mode := .all }
  program :=
    { classes :=
        [{ line := 1, name := "Main",
           body :=
             [.method
               { line := 2, returnType := "void", name := "main", params := [],
                 body := [.while_ 3 (.bool 3 true) (.block 3 [])] }] }] }

/-- It is stopped by the count of its rounds, and more fuel does not make it go on. -/
theorem endless_stopped :
    ∃ fuel final, ∀ more, fuel ≤ more → ∀ spent : (α : Type) → Machine α,
      (Context.endless.executeBy (.unrolled .endless spent more)).run State.initial =
        .error (.onLine 3 (.stepLimit 3)) final := by
  obtain ⟨fuel, enough⟩ := (every_run_ends .endless).1
  have fails : (Context.endless.execute.run State.initial).failure? = some (.onLine 3 (.stepLimit 3)) := by
    decide +kernel
  obtain ⟨final, ended⟩ := Ending.exists_of_failure? fails
  exact ⟨fuel, final, fun more above spent => (enough more above spent).trans ended⟩

end Stepwise
