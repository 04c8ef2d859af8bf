import Stepwise.Proofs.Jumps
import Stepwise.Proofs.Nesting
import Stepwise.Proofs.Padding.Run
import Stepwise.Proofs.UpdateForms

/-!
# Two ways to write a loop

A `for` loop does what the block does that has its first clause, and then a `while` loop with the body and the update in
a block. The block of the `while` loop has a scope that the `for` loop has not. It is empty all the time, since the body
is a block itself and the update is an expression. So the two runs are compared with a gap in every round, which is
opened after the test and closed after the update.

In the `while` loop a `continue` of the body would skip the update.
-/

namespace Stepwise

set_option autoImplicit false

def ForInit.statement : ForInit → Stmt
  | .declare declaration => .declare declaration
  | .evaluate line expression => .evaluate line expression

/-- Where the parts of a `while` loop stand that a `for` loop has not. -/
structure LoopLines where
  block : Nat
  test : Nat
  body : Nat
  update : Nat
  deriving DecidableEq, Repr

/-- The update of a loop as a statement, if there is one. -/
def LoopLines.updates (lines : LoopLines) (update : Option Expr) : List Stmt :=
  (update.map (Stmt.evaluate lines.update)).toList

/-- The `while` loop for a `for` loop. A test that is missing holds. -/
def LoopLines.whileLoop (lines : LoopLines) (line : Nat) (test update : Option Expr) (body : Stmt) : Stmt :=
  .while_ line (test.getD (.bool lines.test true)) (.block lines.body (body :: lines.updates update))

/-- The block that does what a `for` loop does. -/
def LoopLines.loop (lines : LoopLines) (line : Nat) (init : Option ForInit) (test update : Option Expr) (body : Stmt) :
    Stmt :=
  .block lines.block ((init.map ForInit.statement).toList ++ [lines.whileLoop line test update body])

section Statements

variable {context : Context} {calls : Calls} {start : State}

theorem Stmt.run_execAll_singleton (statement : Stmt) :
    (Stmt.execAll context calls [statement]).run start = (statement.exec context calls).run start := by
  rw [Stmt.execAll.eq_2, Machine.run_bind]
  cases (statement.exec context calls).run start with
  | error failure final => rfl
  | ok completion final =>
      cases completion with
      | normal =>
          rw [Stmt.execAll.eq_1]
          rfl
      | jump jump => rfl
      | returned value => rfl

theorem ForInit.run_execAll (clause : ForInit) (others : List Stmt) :
    (Stmt.execAll context calls (clause.statement :: others)).run start =
      (clause.exec context calls >>= fun _ => Stmt.execAll context calls others).run start := by
  rw [Stmt.execAll.eq_2]
  cases clause with
  | declare declaration =>
      rw [ForInit.statement, Stmt.exec.eq_def, ForInit.exec]
      exact Machine.run_bind_assoc ..
  | evaluate line expression =>
      rw [ForInit.statement, Stmt.exec.eq_def, ForInit.exec]
      simp only [Machine.run_bind, Machine.atLine, Machine.run_modify]
      cases (expression.eval context calls).run _ <;> rfl

theorem Stmt.run_block_seq {α : Type} (line : Nat) (body : List Stmt) (next : Completion → Machine α) :
    ((Stmt.block line body).exec context calls >>= next).run start =
      (Machine.atLine line >>= fun _ => Machine.inScope (Stmt.execAll context calls body) >>= next).run start := by
  rw [Stmt.exec.eq_def]
  exact Machine.run_bind_assoc ..

end Statements

/-- The state is in the newest scope, which lies inside another one, and no frame goes back to it. -/
structure State.Innermost (newest : Nat) (state : State) : Prop where
  placed : state.Placed
  current : state.current = newest
  size : newest + 1 = state.scopes.size
  global : 0 < newest
  frames : ∀ frame ∈ state.frames, frame.scope < newest

namespace State.Innermost

variable {newest : Nat} {one two : State}

theorem entering {state : State} (placed : state.Placed) (line : Nat) :
    (State.entering { state with line }).Innermost state.scopes.size := by
  have opened := placed.opened placed.current
  refine ⟨⟨opened.nested, ?_, opened.frames⟩, rfl, ?_, Nat.zero_lt_of_lt placed.current, placed.frames⟩
  · change state.scopes.size < (state.scopes.opened _).size
    rw [Scopes.size_opened]
    exact Nat.lt_succ_self _
  · exact (Scopes.size_opened ..).symm

/-- What keeps the order of scopes ends in the same scope. -/
theorem ending {context : Context} {room : Nat} {α : Type} {computation : Machine α} {required : State → α → Prop}
    (innermost : one.Innermost newest) (executes : (Discipline.nesting context).Executes room computation required)
    {result : α} {final : State} (ended : computation.run one = .ok result final) : final.Innermost newest := by
  have upholds := executes one ⟨innermost.placed, trivial⟩ fun _ _ _ => trivial
  have follows := (upholds.ending result final ended).1
  exact
    { placed := follows.ready.placed
      current := follows.restores.current.trans innermost.current
      size := innermost.size.trans follows.restores.size.symm
      global := innermost.global
      frames := follows.restores.frames ▸ innermost.frames }

theorem frames_placed (innermost : one.Innermost newest) :
    one.frames.map (Frame.placed (ScopeGap.inside newest).place) = one.frames := by
  have same : ∀ frame ∈ one.frames, Frame.placed (ScopeGap.inside newest).place frame = frame := by
    intro frame member
    rw [Frame.placed, ScopeGap.place_of_lt (innermost.frames frame member)]
  exact (List.map_congr_left same).trans (List.map_id one.frames)

theorem open_gap (innermost : one.Innermost newest) (padded : State.Padded .closed one two) :
    State.Padded (.inside newest) one two.entering := by
  have scopes := padded.scopes.eq_of_closed
  have current : two.current = newest := padded.current.trans innermost.current
  refine ⟨?_, ?_, padded.heap, ?_, padded.declared, padded.iterations, padded.steps⟩
  · change Scopes.Padded _ one.scopes (two.scopes.opened (some two.current))
    rw [scopes, current]
    exact .open_gap innermost.placed.nested innermost.global innermost.size
  · change two.scopes.size = _
    rw [scopes, innermost.current, ← innermost.size]
    exact (if_neg (Nat.lt_irrefl newest)).symm
  · change two.frames = _
    rw [innermost.frames_placed, padded.frames_of_closed]

theorem close_gap (innermost : one.Innermost newest) (padded : State.Padded (.inside newest) one two) :
    State.Padded .closed one { two with scopes := two.scopes.released (newest + 1), current := newest } := by
  have scopes := padded.scopes.close_gap innermost.placed.nested innermost.size
  refine ⟨?_, innermost.current.symm, padded.heap, ?_, padded.declared, padded.iterations, padded.steps⟩
  · change Scopes.Padded _ one.scopes (two.scopes.released (newest + 1))
    rw [scopes]
    exact .refl one.scopes
  · change two.frames = _
    rw [placed_closed, padded.frames, innermost.frames_placed]

end State.Innermost

namespace Machine

def forRound (context : Context) (calls : Calls) (test update : Option Expr) (body : Stmt) :
    Machine (Option Completion) := do
  if ← Expr.evalTest context calls test then
    let completion ← body.exec context calls
    match afterBody completion with
    | some final => return some final
    | none =>
        Expr.evalUpdate context calls update
        return none
  else return some .normal

def whileRound (context : Context) (calls : Calls) (test : Expr) (body : Stmt) : Machine (Option Completion) := do
  if ← test.evalCondition context calls then
    let completion ← body.exec context calls
    return afterBody completion
  else return some .normal

end Machine

namespace Coupling

open Machine

variable {context : Context} {one two : State} {newest : Nat}

/-- The scope of the loop is the innermost one before and after. -/
theorem Runs.innermost {α : Type} {left right : Machine α} {gap : ScopeGap} {room : Nat}
    {required : State → α → Prop} {done : State → State → α → Prop} (innermost : one.Innermost newest)
    (executes : (Discipline.nesting context).Executes room left required)
    (runs : (beside context gap).Runs one two left right done) :
    (beside context gap).Runs one two left right fun oneEnd twoEnd result =>
      oneEnd.Innermost newest ∧ done oneEnd twoEnd result :=
  runs.also fun _ _ => innermost.ending executes

/-- The last statement of the block is the update, if there is one. It leaves the next round to come. -/
theorem run_updates {calls : Calls} (lines : LoopLines) (expression : Expr) (start : State) :
    (Stmt.execAll context calls (lines.updates (some expression)) >>= fun completion =>
        pure (afterBody completion)).run start =
      (atLine lines.update >>= fun _ => Expr.evalUpdate context calls (some expression) >>= fun _ =>
        pure none).run start := by
  have single : lines.updates (some expression) = [.evaluate lines.update expression] := rfl
  rw [run_bind, single, Stmt.run_execAll_singleton, Stmt.exec.eq_def, Expr.evalUpdate]
  simp only [run_bind, atLine, run_modify]
  cases (expression.eval context calls).run _ <;> rfl

theorem beside_update (all : context.options.mode = .all) (room : Nat) (lines : LoopLines) (update : Option Expr)
    {gap : ScopeGap} (padded : State.Padded gap one two) :
    (beside context gap).Runs one two
      (Expr.evalUpdate context (Calls.within context room) update >>= fun _ => pure none)
      (Stmt.execAll context (Calls.within context room) (lines.updates update) >>= fun completion =>
        pure (afterBody completion)) fun oneEnd twoEnd _ => State.Padded gap oneEnd twoEnd := by
  cases update with
  | none =>
      rw [LoopLines.updates, Option.map_none, Option.toList_none, Stmt.execAll.eq_1, Expr.evalUpdate]
      exact .yields_seq (.yields padded)
  | some expression =>
      have noted := padded.atLine one.line lines.update
      have evaluated : (beside context gap).Runs one { two with line := lines.update }
          (Expr.evalUpdate context (Calls.within context room) (some expression))
          (Expr.evalUpdate context (Calls.within context room) (some expression)) fun oneEnd twoEnd _ =>
            State.Padded gap oneEnd twoEnd := by
        apply (beside_expression all noted room expression).seq
        exact fun _ _ _ further => .yields further
      apply Runs.of_run_right (run_updates lines expression two)
      apply Runs.change_right
      exact evaluated.seq fun _ _ _ further => .yields further

theorem beside_bodyAndUpdate (all : context.options.mode = .all) (room : Nat) (lines : LoopLines) (update : Option Expr)
    {gap : ScopeGap} {line : Nat} {body : List Stmt} (stays : ¬Stmt.Leaves .continue_ (.block line body))
    (padded : State.Padded gap one two) :
    (beside context gap).Runs one two
      ((Stmt.block line body).exec context (Calls.within context room) >>= fun completion =>
        match afterBody completion with
        | some final => pure (some final)
        | none => Expr.evalUpdate context (Calls.within context room) update >>= fun _ => pure none)
      (Stmt.execAll context (Calls.within context room) (.block line body :: lines.updates update) >>= fun completion =>
        pure (afterBody completion)) fun oneEnd twoEnd _ => State.Padded gap oneEnd twoEnd := by
  rw [Stmt.execAll.eq_2]
  apply Runs.of_run_right (run_bind_assoc ..)
  have executed := (beside_block all padded room line body).also
    fun _ _ => Stmt.jumps_exec
  apply executed.seq
  rintro completion oneNext twoNext ⟨jumps, further⟩
  match completion with
  | .normal => exact beside_update all room lines update further
  | .returned value => exact .yields further
  | .jump .break_ => exact .yields further
  | .jump .continue_ => exact absurd (jumps .continue_ rfl) stays

theorem nesting_bodyAndUpdate (room : Nat) (update : Option Expr) (body : Stmt) :
    (Discipline.nesting context).Executes room
      (body.exec context (Calls.within context room) >>= fun completion =>
        match afterBody completion with
        | some final => pure (some final)
        | none => Expr.evalUpdate context (Calls.within context room) update >>= fun _ => pure none)
      fun _ _ => True := by
  have laws := Discipline.nesting_laws context
  have calls := Discipline.nesting_obeysCalls context room
  refine (Discipline.executes_statement laws calls body (fun _ _ => trivial) fun _ _ => trivial).andThen laws
    fun completion => ?_
  cases afterBody completion with
  | some final => exact .yields laws fun _ => trivial
  | none =>
      exact (Discipline.executes_update laws calls fun _ _ => trivial).andThen laws
        fun _ => .yields laws fun _ => trivial

theorem beside_test (all : context.options.mode = .all) (room : Nat) (lines : LoopLines) (test : Option Expr)
    {gap : ScopeGap} (padded : State.Padded gap one two) :
    (beside context gap).Runs one two (Expr.evalTest context (Calls.within context room) test)
      ((test.getD (.bool lines.test true)).evalCondition context (Calls.within context room)) fun oneEnd twoEnd _ =>
        State.Padded gap oneEnd twoEnd := by
  cases test with
  | none =>
      rw [Expr.evalTest, Option.getD_none, Expr.evalCondition, Expr.eval_literal rfl]
      exact .of_run_right rfl (.yields padded)
  | some test =>
      apply (beside_expression all padded room test).seq
      intro value oneNext twoNext further
      cases value with
      | bool value => exact .yields further
      | _ => exact .fails trivial

/-- A round that is counted, and that ends the loop on both sides or on neither. -/
theorem beside_round (all : context.options.mode = .all) (room : Nat) (lines : LoopLines) (line : Nat)
    (test update : Option Expr) {blockLine : Nat} {body : List Stmt}
    (stays : ¬Stmt.Leaves .continue_ (.block blockLine body)) (innermost : one.Innermost newest)
    (padded : State.Padded .closed one two) :
    (beside context .closed).Runs one two
      (tick context.options line >>= fun _ =>
        forRound context (Calls.within context room) test update (.block blockLine body))
      (tick context.options line >>= fun _ =>
        whileRound context (Calls.within context room) (test.getD (.bool lines.test true))
          (.block lines.body (.block blockLine body :: lines.updates update)))
      fun oneEnd twoEnd _ => oneEnd.Innermost newest ∧ State.Padded .closed oneEnd twoEnd := by
  have laws := Discipline.nesting_laws context
  have calls := Discipline.nesting_obeysCalls context room
  have counts : (Discipline.nesting context).Executes room (tick context.options line) fun _ _ => True :=
    fun _ ready => Discipline.obeys_tick laws line ready
  apply (Runs.innermost innermost counts (beside_tick line padded)).seq
  rintro - oneCounted twoCounted ⟨inner, further, -⟩
  have tests := Discipline.executes_test laws calls fun _ (_ : _ ∈ Expr.partsOf test) => trivial
  apply (Runs.innermost inner tests (beside_test all room lines test further)).seq
  rintro decided oneNext twoNext ⟨inside, later⟩
  cases decided with
  | false => exact .yields ⟨inside, later⟩
  | true =>
      have opened := inside.open_gap (later.atLine oneNext.line lines.body)
      have rounds := Runs.innermost inside (nesting_bodyAndUpdate room update (.block blockLine body))
        (beside_bodyAndUpdate all room lines update stays opened)
      apply Runs.of_run_right (Stmt.run_block_seq ..)
      apply Runs.change_right
      apply Runs.inScope_right
      apply (rounds.of_padding .closed ScopeGap.closed.Fits).imp
      rintro oneEnd twoEnd _ ⟨innerEnd, padded⟩
      have closed := innerEnd.close_gap padded
      have size : twoNext.scopes.size = newest + 1 := later.scopes.size.trans inside.size.symm
      have current : twoNext.current = newest := later.current.trans inside.current
      rw [← size, ← current] at closed
      exact ⟨innerEnd, closed⟩

theorem beside_loop (all : context.options.mode = .all) (room : Nat) (lines : LoopLines) (line : Nat)
    (test update : Option Expr) {blockLine : Nat} {body : List Stmt}
    (stays : ¬Stmt.Leaves .continue_ (.block blockLine body)) (innermost : one.Innermost newest)
    (padded : State.Padded .closed one two) :
    (beside context .closed).Runs one two
      (loop context.options line (tick context.options line >>= fun _ =>
        forRound context (Calls.within context room) test update (.block blockLine body)))
      (Stmt.execAll context (Calls.within context room) [lines.whileLoop line test update (.block blockLine body)])
      fun oneEnd twoEnd _ => State.Padded .closed oneEnd twoEnd := by
  have rounds : ∀ one two, one.Innermost newest ∧ State.Padded .closed one two →
      (beside context .closed).Runs one two
        (tick context.options line >>= fun _ =>
          forRound context (Calls.within context room) test update (.block blockLine body))
        (tick context.options line >>= fun _ =>
          whileRound context (Calls.within context room) (test.getD (.bool lines.test true))
            (.block lines.body (.block blockLine body :: lines.updates update)))
        fun oneEnd twoEnd outcome =>
          match outcome with
          | some _ => State.Padded .closed oneEnd twoEnd
          | none => oneEnd.Innermost newest ∧ State.Padded .closed oneEnd twoEnd := by
    rintro one two ⟨innermost, padded⟩
    apply (beside_round all room lines line test update stays innermost padded).imp
    rintro oneEnd twoEnd (_ | completion) done
    · exact done
    · exact done.2
  apply Runs.of_run_right (Stmt.run_execAll_singleton _)
  rw [LoopLines.whileLoop, Stmt.exec.eq_def]
  apply Runs.change_right
  exact runs_repeated line _ _ (fun _ _ _ => trivial) rounds ⟨innermost, padded.atLine one.line line⟩

theorem beside_init (all : context.options.mode = .all) (room : Nat) (clause : ForInit)
    (padded : State.Padded .closed one two) :
    (beside context .closed).Runs one two (clause.exec context (Calls.within context room))
      (clause.exec context (Calls.within context room)) fun oneEnd twoEnd _ => State.Padded .closed oneEnd twoEnd := by
  have executes := executes_forInit (beside_laws all .closed) (beside_supports all .closed room).toCouplesCalls clause
  exact (executes one two ⟨padded, .inr (ScopeGap.fits_closed _)⟩).imp fun _ _ _ done => done.1.agree

/-- A `for` loop and the block that does what it does. -/
theorem beside_for (all : context.options.mode = .all) (room : Nat) (lines : LoopLines) (line : Nat)
    (init : Option ForInit) (test update : Option Expr) {blockLine : Nat} {body : List Stmt}
    (stays : ¬Stmt.Leaves .continue_ (.block blockLine body)) (placed : one.Placed) :
    (beside context .closed).Runs one one
      ((Stmt.for_ line init test update (.block blockLine body)).exec context (Calls.within context room))
      ((lines.loop line init test update (.block blockLine body)).exec context (Calls.within context room))
      fun oneEnd twoEnd _ => State.Padded .closed oneEnd twoEnd := by
  have noted := (State.Padded.refl one).atLine line lines.block
  have innermost := State.Innermost.entering placed line
  rw [LoopLines.loop, Stmt.exec.eq_def, Stmt.exec.eq_def]
  apply Runs.change_seq trivial
  have agree : (beside context .closed).agree room { one with line } { one with line := lines.block } := noted
  refine (runs_inScope (beside_laws all .closed) agree (ScopeGap.fits_closed _) ?_).imp fun _ _ _ done => done.1
  extract_lets rounds
  cases init with
  | none => exact beside_loop all room lines line test update stays innermost noted.entering
  | some clause =>
      have clauses : (Discipline.nesting context).Executes room
          (clause.exec context (Calls.within context room)) fun _ _ => True :=
        Discipline.executes_forInit (Discipline.nesting_laws context) (Discipline.nesting_obeysCalls context room)
          (fun _ _ => trivial) fun _ _ => trivial
      apply Runs.of_run_right (ForInit.run_execAll clause _)
      apply (Runs.innermost innermost clauses (beside_init all room clause noted.entering)).seq
      rintro - oneNext twoNext ⟨inside, padded⟩
      exact beside_loop all room lines line test update stays inside padded

end Coupling

/-- The states agree in all but the line noted and the scopes that the frames of their steps are to be left for. What
the steps show is the same. -/
structure State.Resembles (one two : State) : Prop where
  scopes : two.scopes = one.scopes
  current : two.current = one.current
  heap : two.heap = one.heap
  frames : two.frames = one.frames
  declared : two.declared = one.declared
  iterations : two.iterations = one.iterations
  steps : two.steps.map Step.unscoped = one.steps.map Step.unscoped
  shown : two.steps.map Step.shown = one.steps.map Step.shown

theorem State.Padded.resembles {one two : State} (padded : State.Padded .closed one two) : one.Resembles two where
  scopes := padded.scopes.eq_of_closed
  current := padded.current
  heap := padded.heap
  frames := padded.frames_of_closed
  declared := padded.declared
  iterations := padded.iterations
  steps := padded.steps
  shown := by
    have shown : ∀ steps : Array Step, steps.map Step.shown = (steps.map Step.unscoped).map Step.shown := by
      intro steps
      rw [Array.map_map]
      exact congrArg (steps.map ·) (funext fun step => step.shown_unscoped.symm)
    rw [shown, padded.steps, ← shown]

/-- Both computations complete with the same result in states that resemble each other, or fail with the same failure. -/
inductive Ending.Matches {α : Type} : Ending α → Ending α → Prop
  | completed {result : α} {one two : State} (resembles : one.Resembles two) : Matches (.ok result one) (.ok result two)
  | failed {failure : Failure} {one two : State} : Matches (.error failure one) (.error failure two)

/-- In the mode that shows all names declared so far, and under any limit, executing a `for` loop in a state of a run
and executing the block with its first clause and the `while` loop end alike: with the same completion, the same scopes
and heap and the same steps, or with the same failure. The body is a block, and no `continue` in it belongs to the
loop. -/
theorem for_agrees_with_while (context : Context) (all : context.options.mode = .all) (state : State)
    (reached : context.Reaches state) (room : Nat) (lines : LoopLines) (line blockLine : Nat) (init : Option ForInit)
    (test update : Option Expr) (body : List Stmt) (stays : ¬Stmt.Leaves .continue_ (.block blockLine body)) :
    Ending.Matches
      (((Stmt.for_ line init test update (.block blockLine body)).exec context (Calls.within context room)).run state)
      (((lines.loop line init test update (.block blockLine body)).exec context
        (Calls.within context room)).run state) := by
  have placed := reached.placed
  have nested : ∀ between, ((Stmt.for_ line init test update (.block blockLine body)).exec context
      (Calls.within context room)).passes state between → between.scopes.Nested :=
    fun between passed => ((Stmt.obeys_exec placed room _ fun _ _ _ => trivial).passing between passed).1.nested
  have alike := Coupling.beside_for all room lines line init test update stays placed nested
  generalize ((Stmt.for_ line init test update (.block blockLine body)).exec context _).run state = one at alike ⊢
  generalize ((lines.loop line init test update (.block blockLine body)).exec context _).run state = two at alike ⊢
  cases alike with
  | completed finished => exact .completed finished.2.resembles
  | failed agree => exact .failed
  | stopped stops => exact stops.elim

/-- Adding up the numbers below two. -/
def ForInit.index : ForInit :=
  .declare { line := 5, typeName := "int", name := "index", value := some (.int 5 0), isStatic := false }

def Stmt.summing : List Stmt :=
  [.evaluate 6 (.compound 6 (.name 6 "total") "+=" (.name 6 "index"))]

theorem summing_matches :
    ∃ state, (Context.stopped .total).Reaches state ∧
      (((Stmt.for_ 5 (some .index) (some (.binary 5 (.name 5 "index") "<" (.int 5 2)))
        (some (.update 5 .after "++" 5 "index")) (.block 5 Stmt.summing)).exec (.stopped .total)
          (.within (.stopped .total) 1)).run state).value? = some .normal ∧
      Ending.Matches
        (((Stmt.for_ 5 (some .index) (some (.binary 5 (.name 5 "index") "<" (.int 5 2)))
          (some (.update 5 .after "++" 5 "index")) (.block 5 Stmt.summing)).exec (.stopped .total)
            (.within (.stopped .total) 1)).run state)
        (((LoopLines.loop ⟨5, 5, 5, 5⟩ 5 (some .index) (some (.binary 5 (.name 5 "index") "<" (.int 5 2)))
          (some (.update 5 .after "++" 5 "index")) (.block 5 Stmt.summing)).exec (.stopped .total)
            (.within (.stopped .total) 1)).run state) := by
  have reached := (Context.stopped .total).execute.passes_ending State.initial
  have completes : (((Stmt.for_ 5 (some .index) (some (.binary 5 (.name 5 "index") "<" (.int 5 2)))
      (some (.update 5 .after "++" 5 "index")) (.block 5 Stmt.summing)).exec (.stopped .total)
        (.within (.stopped .total) 1)).run ((Context.stopped .total).execute.run State.initial).state).value? =
      some .normal := by decide +kernel
  refine ⟨_, reached, completes, for_agrees_with_while _ rfl _ reached 1 _ 5 5 _ _ _ _ ?_⟩
  intro leaves
  cases leaves with
  | block line member inner =>
      cases List.mem_singleton.mp member
      cases inner

end Stepwise
