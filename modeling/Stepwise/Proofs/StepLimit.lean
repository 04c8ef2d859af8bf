import Stepwise.Proofs.Coupling.Run
import Stepwise.Proofs.HeapTrace

/-!
# The limit of steps only cuts runs off

Two runs of one program under two limits are in the very same state until a limit is hit: the limit is compared with
the steps there are before another one is recorded, and with the rounds of loops after another one is counted, and
nothing else looks at it. If the left limit is the smaller one, then the left run may be cut off. If it is the larger
one, then this is shown of runs whose steps and rounds stay within the smaller limit.

A loop is given so many rounds that its last one is cut off by the count of rounds. The count of a run never falls, so
it is enough to count the rounds that were begun before the loop and those of the loop.
-/

namespace Stepwise

set_option autoImplicit false

/-- The steps and rounds of a state are within a limit, and so many more frames fit on its call stack. -/
structure State.Within (limit room : Nat) (state : State) : Prop where
  steps : state.steps.size ≤ limit
  iterations : state.iterations ≤ limit
  frames : state.frames.length + room = maxCallDepth

theorem State.Within.of_same {limit room : Nat} {before after : State} (within : before.Within limit room)
    (steps : after.steps = before.steps) (iterations : after.iterations = before.iterations)
    (frames : after.frames = before.frames) : after.Within limit room := by
  constructor
  · rw [steps]
    exact within.steps
  · rw [iterations]
    exact within.iterations
  · rw [frames]
    exact within.frames

namespace Coupling

/-- The runs of a program under two limits. They are in the same state, until the left one is cut off by the smaller
limit. -/
def limits (program : Program) (mode : VariablesMode) (first second : Nat) : Coupling where
  left := { options := { maxSteps := first, mode }, program }
  right := { options := { maxSteps := second, mode }, program }
  known state := second < first → state.steps.size ≤ second ∧ state.iterations ≤ second
  agree room one two := two = one ∧ one.Within (min first second) room
  own _ := True
  leads before after := before.steps.size ≤ after.steps.size ∧ before.iterations ≤ after.iterations
  failing one two := two = one
  stops failure := first < second ∧ ∃ line, failure = .onLine line (.stepLimit first)
  leads_refl _ := ⟨Nat.le_refl _, Nat.le_refl _⟩
  leads_trans one two := ⟨Nat.le_trans one.1 two.1, Nat.le_trans one.2 two.2⟩

variable {program : Program} {mode : VariablesMode} {first second room : Nat} {one two : State}

theorem limits_agree_of_same {after : State} (agree : (limits program mode first second).agree room one two)
    (steps : after.steps = one.steps) (iterations : after.iterations = one.iterations)
    (frames : after.frames = one.frames) : (limits program mode first second).agree room after after :=
  ⟨rfl, agree.2.of_same steps iterations frames⟩

theorem limits_record (line : Nat) (console : Option Text) (event : Option Event)
    (ready : (limits program mode first second).Ready room one two) :
    (limits program mode first second).Couples room one two
      (Machine.record { maxSteps := first, mode } line console event)
      (Machine.record { maxSteps := second, mode } line console event) fun _ => True := by
  obtain ⟨rfl, within⟩ := ready.agree
  have bound := within.steps
  intro known
  rw [Machine.run_record, Machine.run_record]
  by_cases full : first ≤ two.steps.size
  · rw [if_pos full]
    by_cases larger : first < second
    · exact .stopped ⟨larger, line, rfl⟩
    -- The steps are within both limits, so the left limit is hit only if it is the right one as well.
    · have same : second = first := by omega
      rw [same, if_pos full]
      exact .failed rfl
  · have recorded := known (two.recorded { maxSteps := first, mode } line console event)
      (Machine.passes_of_ok (by rw [Machine.run_record, if_neg full]))
    have another : two.steps.size + 1 ≤ second := by
      by_cases smaller : second < first
      · have counted := (recorded smaller).1
        simpa [State.recorded] using counted
      · omega
    have free : ¬second ≤ two.steps.size := by omega
    rw [if_neg full, if_neg free]
    apply Alike.completed
    constructor
    · intro state passed
      rcases Machine.passes_record passed with rfl | rfl
      · simp [limits, State.recorded]
      · exact (limits program mode first second).leads_refl _
    · have size : (two.recorded { maxSteps := first, mode } line console event).steps.size ≤ min first second := by
        simp only [State.recorded, Array.size_push]
        omega
      exact ⟨⟨⟨rfl, size, within.iterations, within.frames⟩, ready.current⟩, trivial⟩

theorem limits_tick (line : Nat) (ready : (limits program mode first second).Ready room one two) :
    (limits program mode first second).Runs one two (Machine.tick { maxSteps := first, mode } line)
      (Machine.tick { maxSteps := second, mode } line) fun oneEnd twoEnd _ =>
        (limits program mode first second).Ready room oneEnd twoEnd ∧ oneEnd.iterations = one.iterations + 1 := by
  obtain ⟨rfl, within⟩ := ready.agree
  have bound := within.iterations
  have climbs : (limits program mode first second).leads two { two with iterations := two.iterations + 1 } :=
    ⟨Nat.le_refl _, Nat.le_succ _⟩
  apply Runs.change_seq climbs
  apply Runs.look
  apply Runs.given
  intro known
  dsimp only
  by_cases full : first < two.iterations + 1
  · rw [if_pos full]
    by_cases larger : first < second
    · exact fun _ => .stopped ⟨larger, line, rfl⟩
    · have same : second = first := by omega
      rw [same, if_pos full]
      exact .fails rfl
  · have fits : two.iterations + 1 ≤ second := by
      by_cases smaller : second < first
      · exact (known smaller).2
      · omega
    have free : ¬second < two.iterations + 1 := by omega
    have rounds : two.iterations + 1 ≤ min first second := by omega
    rw [if_neg full, if_neg free]
    exact .yields ⟨⟨⟨rfl, within.steps, rounds, within.frames⟩, ready.current⟩, rfl⟩

theorem limits_laws : (limits program mode first second).Laws where
  program := rfl
  leads_of_same _ steps iterations :=
    ⟨Nat.le_of_eq (congrArg Array.size steps).symm, Nat.le_of_eq iterations.symm⟩
  leads_noting name state := by
    rw [State.noting_eq]
    exact ⟨Nat.le_refl _, Nat.le_refl _⟩
  failing agree := agree.1
  current agree := congrArg State.current agree.1
  heap agree := by rw [agree.1]
  classes agree := by rw [agree.1]
  global _ := rfl
  size agree := congrArg (fun state => state.scopes.size) agree.1
  resolve name _ agree _ := by
    rw [agree.1]
    rfl
  lookup name _ agree _ := by
    rw [agree.1]
    rfl
  assigned name value _ agree _ := by
    rw [agree.1]
    exact .same fun _ _ _ => limits_agree_of_same agree rfl rfl rfl
  declared name value typeName agree _ := by
    rw [agree.1]
    apply Rescopes.same
    intro stored scopes _
    rw [State.noting_eq]
    exact limits_agree_of_same agree rfl rfl rfl
  classDeclared agree _ := by
    rw [agree.1]
    exact .same fun _ _ _ => limits_agree_of_same agree rfl rfl rfl
  atLine line agree := by
    rw [agree.1]
    exact limits_agree_of_same agree rfl rfl rfl
  reheaped heap agree := by
    rw [agree.1]
    exact limits_agree_of_same agree rfl rfl rfl
  opened agree _ := by
    rw [agree.1]
    exact ⟨trivial, limits_agree_of_same agree rfl rfl rfl⟩
  entered handle agree := by
    rw [agree.1]
    exact limits_agree_of_same agree rfl rfl rfl
  closed outer agree _ := by
    rw [agree.1]
    exact limits_agree_of_same agree rfl rfl rfl
  pushed frame agree := by
    obtain ⟨rfl, within⟩ := agree
    refine ⟨rfl, within.steps, within.iterations, ?_⟩
    have frames := within.frames
    simp only [List.length_cons]
    omega
  popped before agree := by
    obtain ⟨rfl, within⟩ := agree
    refine ⟨rfl, within.steps, within.iterations, ?_⟩
    have under := before.2.frames
    have frames := within.frames
    simp only [List.length_tail]
    omega
  record line console event ready := limits_record line console event ready
  tick line ready := (limits_tick line ready).imp fun _ _ _ done => ⟨done.1, trivial⟩

/-- A loop with enough rounds for the smaller limit on both sides. What comes after the last round does not matter: it
is never reached. -/
theorem limits_unrolled {restLeft restRight : Machine (Option Completion)} {lastLeft lastRight : Machine Completion}
    {boundLeft boundRight : Nat} (line : Nat)
    (executes : (limits program mode first second).Executes room restLeft restRight)
    (ready : (limits program mode first second).Ready room one two)
    (enoughLeft : min first second < boundLeft + one.iterations)
    (enoughRight : min first second < boundRight + one.iterations) :
    (limits program mode first second).Couples room one two
      (Machine.unrolled lastLeft (Machine.tick { maxSteps := first, mode } line >>= fun _ => restLeft) boundLeft)
      (Machine.unrolled lastRight (Machine.tick { maxSteps := second, mode } line >>= fun _ => restRight) boundRight)
      fun _ => True := by
  -- What is left of either bound and the count of rounds together stay above the limit.
  have within := ready.agree.2.iterations
  induction boundLeft generalizing boundRight one two with
  | zero => omega
  | succ boundLeft ih =>
      obtain ⟨smaller, rfl⟩ : ∃ smaller, boundRight = smaller + 1 := ⟨boundRight - 1, by omega⟩
      rw [Machine.unrolled, Machine.unrolled]
      have round : (limits program mode first second).Runs one two
          (Machine.tick { maxSteps := first, mode } line >>= fun _ => restLeft)
          (Machine.tick { maxSteps := second, mode } line >>= fun _ => restRight) fun oneEnd twoEnd _ =>
            (limits program mode first second).Ready room oneEnd twoEnd ∧
              one.iterations + 1 ≤ oneEnd.iterations := by
        apply (limits_tick line ready).seq
        intro _ oneNext twoNext counted
        apply (executes oneNext twoNext counted.1).led.imp
        intro oneEnd twoEnd result done
        have climbs := done.1.2
        rw [counted.2] at climbs
        exact ⟨done.2.1, climbs⟩
      apply round.seq
      intro completion oneNext twoNext done
      obtain ⟨further, counted⟩ := done
      cases completion with
      | some completion => exact .yields ⟨further, trivial⟩
      | none => exact ih further (by omega) (by omega) further.agree.2.iterations

theorem limits_supports (room : Nat) :
    (limits program mode first second).Supports room (.within (limits program mode first second).left room)
      (.within (limits program mode first second).right room) := by
  apply supports_within limits_laws
  intro room restLeft restRight line executes one two ready
  unfold Machine.loop
  rw [Machine.repeated_eq_unrolled, Machine.repeated_eq_unrolled]
  have limit : (limits program mode first second).left.options.maxSteps = first := rfl
  have other : (limits program mode first second).right.options.maxSteps = second := rfl
  exact limits_unrolled line executes ready (by omega) (by omega)

theorem limits_initial : (limits program mode first second).agree maxCallDepth State.initial State.initial :=
  ⟨rfl, Nat.zero_le _, Nat.zero_le _, Nat.zero_add _⟩

theorem limits_runs (program : Program) (mode : VariablesMode) (first second : Nat) :
    (limits program mode first second).Runs State.initial State.initial
      (Context.execute { options := { maxSteps := first, mode }, program })
      (Context.execute { options := { maxSteps := second, mode }, program }) fun oneEnd twoEnd _ =>
        (limits program mode first second).agree maxCallDepth oneEnd twoEnd := by
  rw [← Context.executeBy_within, ← Context.executeBy_within]
  exact runs_executeBy limits_laws (limits_supports _) limits_initial rfl

end Coupling

section Limits

variable {program : Program} {mode : VariablesMode} {limit larger : Nat} {final : State}

/-- Under a larger limit a run ends as under the smaller one, unless that cuts it off. -/
theorem Context.execute_larger (above : limit ≤ larger) :
    (∃ line state, (Context.mk ⟨limit, mode⟩ program).execute.run State.initial =
      .error (.onLine line (.stepLimit limit)) state) ∨
    (Context.mk ⟨larger, mode⟩ program).execute.run State.initial =
      (Context.mk ⟨limit, mode⟩ program).execute.run State.initial := by
  have alike := Coupling.limits_runs program mode limit larger
    fun _ _ smaller => absurd above (Nat.not_le_of_lt smaller)
  generalize (Context.mk ⟨limit, mode⟩ program).execute.run State.initial = one at alike ⊢
  generalize (Context.mk ⟨larger, mode⟩ program).execute.run State.initial = two at alike ⊢
  cases alike with
  | completed finished =>
      rw [finished.2.1]
      exact .inr rfl
  | failed same =>
      rw [same]
      exact .inr rfl
  | stopped stops =>
      obtain ⟨-, line, rfl⟩ := stops
      exact .inl ⟨line, _, rfl⟩

/-- The steps and rounds of a run that completes are within the limit, and there were never more of them before. -/
theorem Context.counts_of_completed
    (ended : (Context.mk ⟨limit, mode⟩ program).execute.run State.initial = .ok () final) :
    (final.steps.size ≤ limit ∧ final.iterations ≤ limit) ∧
      ∀ state, (Context.mk ⟨limit, mode⟩ program).Reaches state →
        state.steps.size ≤ final.steps.size ∧ state.iterations ≤ final.iterations := by
  have alike := Coupling.limits_runs program mode limit limit
    fun _ _ impossible => absurd impossible (Nat.lt_irrefl _)
  rw [ended] at alike
  cases alike with
  | completed finished =>
      have steps := finished.2.2.steps
      have iterations := finished.2.2.iterations
      rw [Nat.min_self] at steps iterations
      exact ⟨⟨steps, iterations⟩, finished.1⟩

/-- A run that completes with no more steps and rounds than a smaller limit completes under that limit as well. -/
theorem Context.execute_smaller
    (ended : (Context.mk ⟨larger, mode⟩ program).execute.run State.initial = .ok () final)
    (steps : final.steps.size ≤ limit) (iterations : final.iterations ≤ limit) :
    (Context.mk ⟨limit, mode⟩ program).execute.run State.initial = .ok () final := by
  -- With the larger limit on the left, the states that this run passes have to be known to stay within the smaller.
  have counts := (Context.counts_of_completed ended).2
  have alike := Coupling.limits_runs program mode larger limit fun state passed _ => by
    have bound := counts state passed
    omega
  rw [ended] at alike
  generalize (Context.mk ⟨limit, mode⟩ program).execute.run State.initial = two at alike ⊢
  cases alike with
  | completed finished => rw [finished.2.1]

theorem Program.trace_of_completed
    (ended : (Context.mk ⟨limit, mode⟩ program).execute.run State.initial = .ok () final) :
    program.trace ⟨limit, mode⟩ = .ok final.steps.toList := by
  rw [Program.trace, ended]

theorem Program.trace_of_cut {line : Nat} {state : State}
    (cut : (Context.mk ⟨limit, mode⟩ program).execute.run State.initial =
      .error (.onLine line (.stepLimit limit)) state) :
    program.trace ⟨limit, mode⟩ = .error (.onLine line (.stepLimit limit)) := by
  rw [Program.trace, cut]
  rfl

end Limits

/-- A run that its limit does not cut off ends in the same trace or failure under any larger limit. A trace has no more
steps than the limit. And a run that completes under the larger limit gives the same trace under the smaller one if
that covers both its steps and the rounds of its loops; otherwise the smaller limit cuts it off. -/
theorem limit_only_cuts_off (program : Program) (mode : VariablesMode) (limit larger : Nat) (above : limit ≤ larger) :
    ((∀ line, program.trace ⟨limit, mode⟩ ≠ .error (.onLine line (.stepLimit limit))) →
      program.trace ⟨larger, mode⟩ = program.trace ⟨limit, mode⟩) ∧
    (∀ steps, program.trace ⟨limit, mode⟩ = .ok steps → steps.length ≤ limit) ∧
    (∀ final, (Context.mk ⟨larger, mode⟩ program).execute.run State.initial = .ok () final →
      program.trace ⟨larger, mode⟩ = .ok final.steps.toList ∧
      (max final.steps.toList.length final.iterations ≤ limit →
        program.trace ⟨limit, mode⟩ = .ok final.steps.toList) ∧
      (limit < max final.steps.toList.length final.iterations →
        ∃ line, program.trace ⟨limit, mode⟩ = .error (.onLine line (.stepLimit limit)))) := by
  constructor
  · intro uncut
    rcases Context.execute_larger above with ⟨line, state, cut⟩ | same
    · exact absurd (Program.trace_of_cut cut) (uncut line)
    · rw [Program.trace, Program.trace, same]
  constructor
  · intro steps traced
    obtain ⟨final, ended, rfl⟩ := Program.trace_eq_ok traced
    have counts := (Context.counts_of_completed ended).1
    simpa using counts.1
  · intro final ended
    refine ⟨Program.trace_of_completed ended, ?_, ?_⟩
    · intro covered
      have steps : final.steps.size ≤ limit := by
        simp only [Array.length_toList] at covered
        omega
      exact Program.trace_of_completed (Context.execute_smaller ended steps (by omega))
    · intro exceeded
      rcases Context.execute_larger above with ⟨line, state, cut⟩ | same
      · exact ⟨line, Program.trace_of_cut cut⟩
      -- Had the run not been cut off, it would have had the same steps and rounds, within the limit.
      · rw [same] at ended
        have counts := (Context.counts_of_completed ended).1
        simp only [Array.length_toList] at exceeded
        omega

/-- A program with one step and two loops, each of which is left in its first round. -/
def Program.ofTwoLoops : Program where
  classes :=
    [{ line := 1, name := "Main",
       body :=
         [.method
           { line := 2, returnType := "void", name := "main", params := [],
             body :=
               [.declare { line := 3, typeName := "int", name := "count", value := some (.int 3 0), isStatic := false },
                 .while_ 4 (.bool 4 false) (.evaluate 4 (.update 4 .after "++" 4 "count")),
                 .while_ 5 (.bool 5 false) (.evaluate 5 (.update 5 .after "++" 5 "count"))] }] }]

theorem two_loops_cut_off :
    ∃ final, (Context.mk ⟨9, .all⟩ .ofTwoLoops).execute.run State.initial = .ok () final ∧
      final.steps.size = 1 ∧ final.iterations = 2 ∧
      Program.ofTwoLoops.trace ⟨2, .all⟩ = .ok final.steps.toList ∧
      ∃ line, Program.ofTwoLoops.trace ⟨1, .all⟩ = .error (.onLine line (.stepLimit 1)) := by
  have counts : ((Context.mk ⟨9, .all⟩ .ofTwoLoops).execute.run State.initial).state.steps.size = 1 ∧
      ((Context.mk ⟨9, .all⟩ .ofTwoLoops).execute.run State.initial).state.iterations = 2 := by decide +kernel
  have completes : (Program.ofTwoLoops.trace ⟨9, .all⟩).toOption.isSome = true := by decide +kernel
  cases traced : Program.ofTwoLoops.trace ⟨9, .all⟩ with
  | error failure =>
      rw [traced] at completes
      cases completes
  | ok shown =>
      obtain ⟨final, ended, rfl⟩ := Program.trace_eq_ok traced
      rw [ended] at counts
      obtain ⟨steps, iterations⟩ : final.steps.size = 1 ∧ final.iterations = 2 := counts
      have two := (limit_only_cuts_off .ofTwoLoops .all 2 9 (by decide)).2.2 final ended
      have one := (limit_only_cuts_off .ofTwoLoops .all 1 9 (by decide)).2.2 final ended
      refine ⟨final, ended, steps, iterations, two.2.1 ?_, one.2.2 ?_⟩
      · rw [Array.length_toList, steps, iterations]
        decide
      · rw [Array.length_toList, steps, iterations]
        decide

end Stepwise
