import Stepwise.Proofs.Conduct.Expression

/-!
# The conduct of statements

Executing a statement is conducted if calling methods and making objects is. If it completes by a jump, such a jump
stands in the statement, outside of the loops in it: a loop takes up the jumps of its body.
-/

namespace Stepwise

set_option autoImplicit false

open Machine

def Completion.Stays (completion : Completion) : Prop :=
  ∀ jump, completion ≠ .jump jump

def Completion.JumpsBy (jumps : Jump → Prop) (completion : Completion) : Prop :=
  ∀ jump, completion = .jump jump → jumps jump

theorem Completion.Stays.jumpsBy {completion : Completion} (stays : completion.Stays) (jumps : Jump → Prop) :
    completion.JumpsBy jumps :=
  fun jump same => absurd same (stays jump)

theorem Completion.JumpsBy.imp {completion : Completion} {jumps others : Jump → Prop} (jumpsBy : completion.JumpsBy jumps)
    (weakens : ∀ jump, jumps jump → others jump) : completion.JumpsBy others :=
  fun jump same => weakens jump (jumpsBy jump same)

theorem stays_of_afterBody {completion final : Completion} (ended : afterBody completion = some final) :
    final.Stays := by
  match completion with
  | .jump .break_ =>
      cases ended
      exact nofun
  | .returned value =>
      cases ended
      exact nofun
  | .normal | .jump .continue_ => cases ended

namespace Conduct

variable {context : Context} {C : Conduct context} {room : Nat} {calls : Calls} (laws : C.Laws)
include laws

theorem conducts_loop {stage : Stage} {round : Machine (Option Completion)} (options : Options) (line : Nat)
    (conducts : C.Conducts stage round fun outcome => ∀ completion, outcome = some completion → completion.Stays) :
    C.Conducts stage (loop options line round) Completion.Stays := by
  have rounds : ∀ bound, C.Conducts stage (repeated line options.maxSteps round bound) Completion.Stays := by
    intro bound
    induction bound with
    | zero => exact .failOn laws line trivial
    | succ bound ih =>
        refine conducts.seq laws fun outcome stays => ?_
        cases outcome with
        | some completion => exact .yields laws (stays completion rfl)
        | none => exact ih
  exact rounds _

variable (supports : C.Supports room calls)
include supports

theorem conducts_declarationValue (declaration : Declaration) (known : ∀ part ∈ declaration.expressions, C.node part) :
    C.Conducts (.within room) (declaration.eval context calls) fun _ => True := by
  obtain ⟨line, typeName, name, value, isStatic⟩ := declaration
  cases value with
  | none => exact .yields laws trivial
  | some expression =>
      cases expression with
      | arrayOf literalLine elementType values =>
          simp only [Declaration.expressions, Expr.partsOf, Expr.parts, List.forall_mem_cons] at known
          refine conducts_arrayOf laws literalLine _ fun value member => ?_
          exact evaluates_expression laws supports value (Expr.forall_mem_partsAll.mp known.2 value member)
      | _ => exact evaluates_expression laws supports _ known

theorem conducts_declaration (declaration : Declaration) (known : ∀ part ∈ declaration.expressions, C.node part) :
    C.Conducts (.within room) (declaration.exec context calls) fun _ => True := by
  refine (conducts_atLine laws declaration.line).seq laws fun _ _ => ?_
  refine (conducts_declarationValue laws supports declaration known).seq laws fun value _ => ?_
  refine .look fun state => ?_
  refine (conducts_declareIn laws state.current declaration.name value _).seq laws fun _ _ => ?_
  refine (conducts_noteDeclared laws declaration.name).seq laws fun _ _ => ?_
  exact conducts_record laws declaration.line none none

theorem conducts_forInit (clause : ForInit) (known : ∀ part ∈ ForInit.expressions (some clause), C.node part) :
    C.Conducts (.within room) (clause.exec context calls) fun _ => True := by
  cases clause with
  | declare declaration => exact conducts_declaration laws supports declaration known
  | evaluate line expression =>
      refine (conducts_atLine laws line).seq laws fun _ _ => ?_
      exact Conducts.seq laws (evaluates_expression laws supports expression known) fun _ _ => .yields laws trivial

theorem conducts_evalTest (test : Option Expr) (known : ∀ part ∈ Expr.partsOf test, C.node part) :
    C.Conducts (.within room) (Expr.evalTest context calls test) fun _ => True := by
  cases test with
  | some test => exact conducts_evalCondition laws supports test known
  | none => exact .yields laws trivial

theorem conducts_evalUpdate (update : Option Expr) (known : ∀ part ∈ Expr.partsOf update, C.node part) :
    C.Conducts (.within room) (Expr.evalUpdate context calls update) fun _ => True := by
  cases update with
  | some expression =>
      exact Conducts.seq laws (evaluates_expression laws supports expression known) fun _ _ => .yields laws trivial
  | none => exact .yields laws trivial

theorem conducts_returning (line : Nat) (argument : Option Expr) (known : ∀ part ∈ Expr.partsOf argument, C.node part) :
    C.Conducts (.within room) (returning context calls line argument) Completion.Stays := by
  have finish : ∀ value : Value, C.Conducts (.within room)
      (record context.options line none (some .return_) >>= fun _ => pure (Completion.returned value))
      Completion.Stays :=
    fun value => conducts_record_yield laws line none _ nofun
  cases argument with
  | some expression =>
      exact Conducts.seq laws (evaluates_expression laws supports expression known) fun value _ => finish value
  | none => exact (finish .void).of_run fun _ => rfl

omit laws supports in
def Executes (C : Conduct context) (room : Nat) (calls : Calls) (statement : Stmt) : Prop :=
  C.Conducts (.within room) (statement.exec context calls) (Completion.JumpsBy statement.Leaves)

omit supports in
theorem conducts_execAll_of_forall {statements : List Stmt}
    (executes : ∀ statement ∈ statements, C.Executes room calls statement) :
    C.Conducts (.within room) (Stmt.execAll context calls statements)
      (Completion.JumpsBy fun jump => Stmt.LeavesAny jump statements) := by
  induction statements with
  | nil =>
      rw [Stmt.execAll.eq_def]
      exact .yields laws nofun
  | cons statement others ih =>
      rw [Stmt.execAll.eq_def]
      refine Conducts.seq laws (executes statement List.mem_cons_self) fun completion jumps => ?_
      have first : completion.JumpsBy fun jump => Stmt.LeavesAny jump (statement :: others) :=
        jumps.imp fun jump leaves => ⟨statement, List.mem_cons_self, leaves⟩
      cases completion with
      | normal =>
          refine (ih fun other member => executes other (List.mem_cons_of_mem _ member)).imp fun result later => ?_
          exact later.imp fun jump ⟨other, member, leaves⟩ => ⟨other, List.mem_cons_of_mem _ member, leaves⟩
      | jump jump => exact .yields laws first
      | returned value => exact .yields laws first

theorem executes_while {test : Expr} {body : Stmt} (line : Nat) (known : ∀ part ∈ test.parts, C.node part)
    (executes : C.Executes room calls body) : C.Executes room calls (.while_ line test body) := by
  unfold Executes
  rw [Stmt.exec.eq_def]
  refine (conducts_atLine laws line).seq laws fun _ _ => ?_
  refine (conducts_loop laws context.options line ?_).imp fun _ stays => stays.jumpsBy _
  refine (conducts_tick laws line).seq laws fun _ _ => ?_
  refine (conducts_evalCondition laws supports test known).seq laws fun decided _ => ?_
  refine .branch ?_ (.yields laws ?_)
  · exact Conducts.seq laws executes fun completion _ => .yields laws fun final ended => stays_of_afterBody ended
  · rintro final ⟨⟩
    exact nofun

theorem executes_doWhile {test : Expr} {body : Stmt} (line : Nat) (known : ∀ part ∈ test.parts, C.node part)
    (executes : C.Executes room calls body) : C.Executes room calls (.doWhile line test body) := by
  unfold Executes
  rw [Stmt.exec.eq_def]
  refine (conducts_atLine laws line).seq laws fun _ _ => ?_
  refine (conducts_loop laws context.options line ?_).imp fun _ stays => stays.jumpsBy _
  refine (conducts_tick laws line).seq laws fun _ _ => ?_
  refine Conducts.seq laws executes fun completion _ => ?_
  split
  · next final ended =>
      refine .yields laws ?_
      rintro final ⟨⟩
      exact stays_of_afterBody ended
  · refine (conducts_evalCondition laws supports test known).seq laws fun decided _ => ?_
    refine .branch (.yields laws nofun) (.yields laws ?_)
    rintro final ⟨⟩
    exact nofun

theorem executes_for {init : Option ForInit} {test update : Option Expr} {body : Stmt} (line : Nat)
    (first : ∀ part ∈ ForInit.expressions init, C.node part) (tested : ∀ part ∈ Expr.partsOf test, C.node part)
    (last : ∀ part ∈ Expr.partsOf update, C.node part) (executes : C.Executes room calls body) :
    C.Executes room calls (.for_ line init test update body) := by
  unfold Executes
  rw [Stmt.exec.eq_def]
  refine (conducts_atLine laws line).seq laws fun _ _ => ?_
  refine conducts_inScope laws ?_
  -- With and without a first clause the same rounds follow.
  extract_lets rounds
  have loops : ∀ entry, C.Conducts (.within room) (rounds entry)
      (Completion.JumpsBy (Stmt.for_ line init test update body).Leaves) := by
    intro entry
    refine (conducts_loop laws context.options line ?_).imp fun _ stays => stays.jumpsBy _
    refine (conducts_tick laws line).seq laws fun _ _ => ?_
    refine (conducts_evalTest laws supports test tested).seq laws fun decided _ => ?_
    refine .branch ?_ (.yields laws ?_)
    · refine Conducts.seq laws executes fun completion _ => ?_
      split
      · next final ended =>
          refine .yields laws ?_
          rintro final ⟨⟩
          exact stays_of_afterBody ended
      · exact (conducts_evalUpdate laws supports update last).seq laws fun _ _ => .yields laws nofun
    · rintro final ⟨⟩
      exact nofun
  cases init with
  | some clause => exact (conducts_forInit laws supports clause first).seq laws fun entry _ => loops entry
  | none => exact loops ()

/-- Every statement whose expressions are known of is conducted. -/
theorem executes_statement (statement : Stmt) (known : ∀ part ∈ statement.expressions, C.node part) :
    C.Executes room calls statement := by
  induction statement using Stmt.induction with
  | declare declaration =>
      unfold Executes
      rw [Stmt.exec.eq_def]
      exact (conducts_declaration laws supports declaration known).seq laws fun _ _ => .yields laws nofun
  | evaluate line expression =>
      unfold Executes
      rw [Stmt.exec.eq_def]
      refine (conducts_atLine laws line).seq laws fun _ _ => ?_
      exact Conducts.seq laws (evaluates_expression laws supports expression known) fun _ _ => .yields laws nofun
  | block line body ih =>
      unfold Executes
      rw [Stmt.exec.eq_def]
      rw [Stmt.expressions, Stmt.forall_mem_expressionsAll] at known
      refine (conducts_atLine laws line).seq laws fun _ _ => ?_
      refine conducts_inScope laws ?_
      refine (conducts_execAll_of_forall laws fun statement member =>
        ih statement member (known statement member)).imp fun completion jumps => ?_
      exact jumps.imp fun jump ⟨statement, member, leaves⟩ => .block line member leaves
  | ifThen line test consequent ih =>
      unfold Executes
      rw [Stmt.exec.eq_def]
      rw [Stmt.expressions, List.forall_mem_append] at known
      refine (conducts_atLine laws line).seq laws fun _ _ => ?_
      refine (conducts_evalCondition laws supports test known.1).seq laws fun decided _ => ?_
      refine .branch ?_ (.yields laws nofun)
      exact (ih known.2).imp fun completion jumps => jumps.imp fun jump leaves => .ifThen line test leaves
  | ifElse line test consequent alternate consequence alternative =>
      unfold Executes
      rw [Stmt.exec.eq_def]
      simp only [Stmt.expressions, List.forall_mem_append] at known
      refine (conducts_atLine laws line).seq laws fun _ _ => ?_
      refine (conducts_evalCondition laws supports test known.1.1).seq laws fun decided _ => ?_
      refine .branch ?_ ?_
      · refine (consequence known.1.2).imp fun completion jumps => ?_
        exact jumps.imp fun jump leaves => .consequent line test alternate leaves
      · refine (alternative known.2).imp fun completion jumps => ?_
        exact jumps.imp fun jump leaves => .alternate line test consequent leaves
  | while_ line test body ih =>
      rw [Stmt.expressions, List.forall_mem_append] at known
      exact executes_while laws supports line known.1 (ih known.2)
  | doWhile line test body ih =>
      rw [Stmt.expressions, List.forall_mem_append] at known
      exact executes_doWhile laws supports line known.1 (ih known.2)
  | for_ line init test update body ih =>
      simp only [Stmt.expressions, List.forall_mem_append] at known
      exact executes_for laws supports line known.1.1.1 known.1.1.2 known.1.2 (ih known.2)
  | return_ line argument =>
      unfold Executes
      rw [Stmt.exec.eq_def]
      refine (conducts_atLine laws line).seq laws fun _ _ => ?_
      exact (conducts_returning laws supports line argument known).imp fun _ stays => stays.jumpsBy _
  | break_ line =>
      unfold Executes
      rw [Stmt.exec.eq_def]
      refine (conducts_atLine laws line).seq laws fun _ _ => ?_
      refine conducts_record_yield laws line none none ?_
      rintro jump ⟨⟩
      exact .break_ line rfl
  | continue_ line =>
      unfold Executes
      rw [Stmt.exec.eq_def]
      refine (conducts_atLine laws line).seq laws fun _ _ => ?_
      refine conducts_record_yield laws line none none ?_
      rintro jump ⟨⟩
      exact .continue_ line rfl

theorem conducts_execAll (statements : List Stmt) (known : ∀ part ∈ Stmt.expressionsAll statements, C.node part) :
    C.Conducts (.within room) (Stmt.execAll context calls statements)
      (Completion.JumpsBy fun jump => Stmt.LeavesAny jump statements) :=
  conducts_execAll_of_forall laws fun statement member =>
    executes_statement laws supports statement (Stmt.forall_mem_expressionsAll.mp known statement member)

end Conduct

end Stepwise
