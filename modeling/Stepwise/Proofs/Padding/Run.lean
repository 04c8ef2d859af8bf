import Stepwise.Proofs.Coupling.Run
import Stepwise.Proofs.Padding

/-!
# Runs that differ by an empty scope

Two runs of the same code, of which the right one has an empty scope in its arena that the left one has not, end alike:
a name that is looked up from the place of a scope is found where the other run finds it. In the mode that shows every
name declared so far their steps show the same; the frames of the call stack name different scopes to go back to, but
this is not shown.

Nothing may be declared where the left run is in the scope around the gap, for there the right run would declare it in
the empty scope. Expressions declare nothing there, and a block declares in a scope of its own.
-/

namespace Stepwise

set_option autoImplicit false

def Step.unscoped (step : Step) : Step :=
  { step with frames := step.frames.map (Frame.placed fun _ => globalScope) }

namespace Step

theorem shown_unscoped (step : Step) : step.unscoped.shown = step.shown := by
  have frames : step.unscoped.shownFrames = step.shownFrames := by
    simp only [shownFrames, unscoped, ← List.map_reverse, List.map_map]
    rfl
  unfold shown
  rw [frames]
  rfl

end Step

/-- The states agree, but that the right one has an empty scope where the gap says, and may have noted another line. -/
structure State.Padded (gap : ScopeGap) (one two : State) : Prop where
  scopes : Scopes.Padded gap one.scopes two.scopes
  current : two.current = gap.place one.current
  heap : two.heap = one.heap
  frames : two.frames = one.frames.map (Frame.placed gap.place)
  declared : two.declared = one.declared
  iterations : two.iterations = one.iterations
  steps : two.steps.map Step.unscoped = one.steps.map Step.unscoped

namespace State

variable {gap : ScopeGap} {one two : State}

theorem unscoped_placed (place : Nat → Nat) (frames : List Frame) :
    (frames.map (Frame.placed place)).map (Frame.placed fun _ => globalScope) =
      frames.map (Frame.placed fun _ => globalScope) := by
  rw [List.map_map]
  rfl

theorem placed_closed (frames : List Frame) : frames.map (Frame.placed ScopeGap.closed.place) = frames := by
  have same : Frame.placed ScopeGap.closed.place = id := rfl
  rw [same, List.map_id]

theorem Padded.refl (state : State) : Padded .closed state state :=
  ⟨.refl state.scopes, rfl, rfl, (placed_closed state.frames).symm, rfl, rfl, rfl⟩

theorem Padded.frames_of_closed (padded : Padded .closed one two) : two.frames = one.frames :=
  padded.frames.trans (placed_closed one.frames)

theorem Padded.size_steps (padded : Padded gap one two) : two.steps.size = one.steps.size := by
  have sizes := congrArg Array.size padded.steps
  simpa only [Array.size_map] using sizes

theorem Padded.allVariables (padded : Padded gap one two) (nested : one.scopes.Nested) :
    two.allVariables = one.allVariables := by
  simp only [State.allVariables, padded.declared, padded.current, padded.scopes.lookup nested]

theorem Padded.recorded (padded : Padded gap one two) (nested : one.scopes.Nested) {options : Options}
    (all : options.mode = .all) (line : Nat) (console : Option Text) (event : Option Event) :
    Padded gap (one.recorded options line console event) (two.recorded options line console event) where
  scopes := padded.scopes
  current := padded.current
  heap := padded.heap
  frames := padded.frames
  declared := padded.declared
  iterations := padded.iterations
  steps := by
    have variables_ : two.visible options.mode = one.visible options.mode := by
      rw [all]
      exact padded.allVariables nested
    simp only [State.recorded, Array.map_push, padded.steps, variables_, padded.heap, padded.frames, Step.unscoped,
      unscoped_placed]

theorem Padded.rescoped (padded : Padded gap one two) {first second : Scopes} (scopes : Scopes.Padded gap first second) :
    Padded gap { one with scopes := first } { two with scopes := second } :=
  ⟨scopes, padded.current, padded.heap, padded.frames, padded.declared, padded.iterations, padded.steps⟩

theorem Padded.entered (padded : Padded gap one two) (handle : Nat) :
    Padded gap { one with current := handle } { two with current := gap.place handle } :=
  ⟨padded.scopes, rfl, padded.heap, padded.frames, padded.declared, padded.iterations, padded.steps⟩

theorem Padded.atLine (padded : Padded gap one two) (line other : Nat) :
    Padded gap { one with line } { two with line := other } :=
  ⟨padded.scopes, padded.current, padded.heap, padded.frames, padded.declared, padded.iterations, padded.steps⟩

theorem Padded.entering (padded : Padded gap one two) : Padded gap one.entering two.entering := by
  have entered := (padded.rescoped (padded.scopes.opened one.current)).entered one.scopes.size
  rw [← padded.scopes.size, ← padded.current] at entered
  exact entered

theorem Padded.noting (padded : Padded gap one two) (name : String) :
    Padded gap (one.noting name) (two.noting name) := by
  unfold State.noting
  rw [padded.declared]
  split
  · exact padded
  · exact ⟨padded.scopes, padded.current, padded.heap, padded.frames, rfl, padded.iterations, padded.steps⟩

end State

namespace Coupling

/-- Two runs of a program, the right one with an empty scope where the gap says. They look from scopes of which some may
be told, and are never in the empty one. -/
def padding (context : Context) (gap : ScopeGap) (own : Nat → Prop) : Coupling where
  left := context
  right := context
  known state := state.scopes.Nested
  agree _ := State.Padded gap
  own := own
  leads _ _ := True
  failing _ _ := True
  stops _ := False
  leads_refl _ := trivial
  leads_trans _ _ := trivial
  place := gap.place

abbrev beside (context : Context) (gap : ScopeGap) : Coupling :=
  padding context gap gap.Fits

variable {context : Context} {gap : ScopeGap} {own : Nat → Prop} {room : Nat} {one two : State}

/-- Where nothing is declared, both runs may look from any scope. -/
theorem padding_viewLaws (all : context.options.mode = .all) (own : Nat → Prop) :
    (padding context gap own).ViewLaws where
  program := rfl
  leads_of_same _ _ _ := trivial
  failing _ := trivial
  current padded := padded.current
  heap padded := padded.heap
  classes padded := by
    rw [padded.frames, List.map_map]
    rfl
  resolve {_ one two handle} name nested padded _ := by
    have resolved := padded.scopes.resolve nested handle name
    change (two.scopes.resolve (gap.place handle) name).map _ = _
    rw [resolved]
    cases one.scopes.resolve handle name <;> rfl
  lookup {_ _ _ handle} name nested padded _ := padded.scopes.lookup nested handle name
  assigned {_ _ _ handle} name value nested padded _ := by
    apply (padded.scopes.assign nested handle name value).imp
    exact fun first second further => padded.rescoped further
  reheaped heap padded :=
    ⟨padded.scopes, padded.current, rfl, padded.frames, padded.declared, padded.iterations, padded.steps⟩
  record {_ one two} line console event ready := by
    apply Runs.given
    intro nested
    have recorded := ready.agree.recorded nested all line console event
    exact runs_record line console event rfl ready.agree.size_steps trivial trivial ⟨⟨recorded, ready.current⟩, trivial⟩

theorem beside_tick (line : Nat) (padded : State.Padded gap one two) :
    (beside context gap).Runs one two (Machine.tick context.options line) (Machine.tick context.options line)
      fun oneEnd twoEnd _ => State.Padded gap oneEnd twoEnd ∧ oneEnd.current = one.current := by
  have counted : State.Padded gap { one with iterations := one.iterations + 1 }
      { two with iterations := one.iterations + 1 } :=
    ⟨padded.scopes, padded.current, padded.heap, padded.frames, padded.declared, rfl, padded.steps⟩
  exact runs_tick line rfl padded.iterations trivial trivial ⟨counted, rfl⟩

theorem beside_laws (all : context.options.mode = .all) (gap : ScopeGap) : (beside context gap).Laws where
  toViewLaws := padding_viewLaws all gap.Fits
  leads_noting _ _ := trivial
  global padded := ScopeGap.place_global padded.scopes.fits
  size padded := padded.scopes.size
  declared {_ one two handle} name value typeName padded seen := by
    have apart : gap ≠ .inside handle := by
      rintro rfl
      rcases seen with global | own
      · exact absurd (padded.scopes.fits handle rfl).1 (by simp [global, globalScope])
      · exact absurd (own handle rfl).2 (Nat.lt_irrefl handle)
    apply (padded.scopes.declare apart name value (some typeName)).imp
    exact fun first second further => (padded.rescoped further).noting name
  classDeclared {_ one two decl} padded _ := by
    have apart : gap ≠ .inside globalScope := fun same => absurd (padded.scopes.fits _ same).1 (Nat.lt_irrefl _)
    have declared := padded.scopes.declare apart decl.name (.class_ decl.name decl.methodNames) none
    rw [ScopeGap.place_global padded.scopes.fits] at declared
    exact declared.imp fun first second further => padded.rescoped further
  atLine line padded := padded.atLine line line
  opened {_ _ _ parent} padded _ := ⟨padded.scopes.fits, padded.rescoped (padded.scopes.opened parent)⟩
  entered handle padded := padded.entered handle
  closed outer padded own := (padded.rescoped (padded.scopes.released own)).entered outer
  pushed frame padded :=
    ⟨padded.scopes, padded.current, padded.heap, congrArg _ padded.frames, padded.declared, padded.iterations,
      padded.steps⟩
  popped _ padded := by
    refine ⟨padded.scopes, padded.current, padded.heap, ?_, padded.declared, padded.iterations, padded.steps⟩
    rw [padded.frames, List.map_tail]
  tick line ready := (beside_tick line ready.agree).couples ready

/-- How two computations end does not depend on where they look from, nor on where the gap is. -/
theorem Runs.of_padding {α : Type} {left right : Machine α} {done : State → State → α → Prop}
    (runs : (padding context gap own).Runs one two left right done) (other : ScopeGap) (seen : Nat → Prop) :
    (padding context other seen).Runs one two left right done := by
  intro known
  have alike := runs known
  generalize left.run one = first at alike ⊢
  generalize right.run two = second at alike ⊢
  cases alike with
  | completed finished => exact .completed finished
  | failed agree => exact .failed agree
  | stopped stops => exact .stopped stops

theorem beside_supports (all : context.options.mode = .all) (gap : ScopeGap) (room : Nat) :
    (beside context gap).Supports room (.within context room) (.within context room) :=
  supports_within_of_limit (beside_laws all gap) rfl room

theorem padding_couplesCalls (all : context.options.mode = .all) (gap : ScopeGap) (room : Nat) :
    (padding context gap fun _ => True).CouplesCalls room (Calls.within context room)
      (Calls.within context room) := by
  have laws : (beside context gap).Laws := beside_laws all gap
  have below := fun less (_ : room = less + 1) => beside_supports all gap less
  constructor
  · intro one two method className arguments line ready
    have runs := runs_invoke laws below method className arguments line ready.agree
    exact (runs.imp fun _ _ _ done => ⟨⟨done.1, .inr trivial⟩, trivial⟩).of_padding gap _
  · intro one two decl ready
    have runs := runs_instantiate laws below decl ready.agree
    exact (runs.imp fun _ _ _ done => ⟨⟨done.1, .inr trivial⟩, trivial⟩).of_padding gap _

theorem beside_expression (all : context.options.mode = .all) (padded : State.Padded gap one two) (room : Nat)
    (expression : Expr) :
    (beside context gap).Runs one two (expression.eval context (Calls.within context room))
      (expression.eval context (Calls.within context room)) fun oneEnd twoEnd _ => State.Padded gap oneEnd twoEnd := by
  have treats := treats_expression (padding_viewLaws all fun _ => True) (padding_couplesCalls all gap room) expression
  exact ((treats.evaluates one two ⟨padded, .inr trivial⟩).imp fun _ _ _ done => done.1.agree).of_padding gap gap.Fits

theorem beside_block (all : context.options.mode = .all) (padded : State.Padded gap one two) (room line : Nat)
    (body : List Stmt) :
    (beside context gap).Runs one two ((Stmt.block line body).exec context (Calls.within context room))
      ((Stmt.block line body).exec context (Calls.within context room)) fun oneEnd twoEnd _ =>
        State.Padded gap oneEnd twoEnd := by
  have laws : (beside context gap).Laws := beside_laws all gap
  have executes : (beside context gap).Executes room (Stmt.execAllBy context (.within context room) body)
      (Stmt.execAllBy context (.within context room) body) :=
    executes_statements laws (beside_supports all gap room) body
  rw [Evaluator.within, Stmt.execAllBy_ofCalls] at executes
  have noted := padded.atLine line line
  have inside := executes _ _ ⟨noted.entering, .inr noted.scopes.fits⟩
  have ends := runs_inScope laws noted noted.scopes.fits (inside.imp fun _ _ _ done => done.1.agree)
  rw [Stmt.exec.eq_def]
  apply Runs.change_seq trivial
  exact ends.imp fun _ _ _ done => done.1

end Coupling

end Stepwise
