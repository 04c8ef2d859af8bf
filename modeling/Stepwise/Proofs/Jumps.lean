import Stepwise.Proofs.Conduct.Run

/-!
# Jumps and the loops that take them up

A jump passes through blocks and branches up to the next loop around it, and no further: a loop completes normally or
by a return. So a statement is left by a jump only if the jump stands in it outside of the loops in it, and the frame of
a method is reached by a jump only if the method has such a jump. This is the only way in which a run can fail for a
jump.
-/

namespace Stepwise

set_option autoImplicit false

def Stmt.IsLoop : Stmt → Prop
  | .while_ .. | .doWhile .. | .for_ .. => True
  | _ => False

/-- Every jump of the program lies in a loop of its own method. -/
def Program.JumpsInLoops (program : Program) : Prop :=
  ∀ decl ∈ program.classes, ∀ method ∈ decl.methodDeclarations, ∀ jump, ¬Stmt.LeavesAny jump method.body

theorem Stmt.IsLoop.not_leaves {statement : Stmt} (loop : statement.IsLoop) (jump : Jump) :
    ¬statement.Leaves jump := by
  intro leaves
  cases leaves <;> exact loop

section Statements

variable {context : Context} {room : Nat} {statement : Stmt} {start final : State} {completion : Completion}

/-- What a statement jumps out with are jumps that stand in it. -/
theorem Stmt.jumps_exec (ended : (statement.exec context (Calls.within context room)).run start = .ok completion final) :
    completion.JumpsBy statement.Leaves := by
  have laws := Conduct.free_laws context
  have supports := Conduct.supports_within laws (fun _ _ => trivial) room
  have executes := Conduct.executes_statement laws supports statement fun _ _ => trivial
  exact (executes.ending ended).2

theorem Stmt.IsLoop.stays (loop : statement.IsLoop)
    (ended : (statement.exec context (Calls.within context room)).run start = .ok completion final) :
    completion.Stays := by
  intro jump same
  exact loop.not_leaves jump (Stmt.jumps_exec ended jump same)

end Statements

theorem Completion.Stays.eq_normal_or_returned {completion : Completion} (stays : completion.Stays) :
    completion = .normal ∨ ∃ value, completion = .returned value := by
  cases completion with
  | normal => exact .inl rfl
  | jump jump => exact absurd rfl (stays jump)
  | returned value => exact .inr ⟨value, rfl⟩

def Program.Strays (program : Program) (jump : Jump) : Prop :=
  ∃ decl ∈ program.classes, ∃ method ∈ decl.methodDeclarations, Stmt.LeavesAny jump method.body

/-- A run fails for a jump only if a method has it outside of its loops. -/
def Conduct.straying (context : Context) : Conduct context where
  node _ := True
  leads _ _ _ := True
  tolerates failure := ∀ jump line, failure = .issue (.outsideLoop jump) line → context.program.Strays jump

theorem Expr.Unfit.not_outsideLoop {expression : Expr} {jump : Jump} : ¬expression.Unfit (.outsideLoop jump) := by
  intro unfit
  cases unfit

theorem Conduct.straying_laws (context : Context) : (straying context).Laws where
  trans _ _ := trivial
  quiet _ _ _ := trivial
  recorded _ _ _ _ _ := trivial
  framed _ _ := trivial
  ordinary ordinary := by
    rintro jump line rfl
    exact ordinary.elim
  unfit line _ unfit := by
    rintro jump _ same
    cases same
    exact absurd unfit Expr.Unfit.not_outsideLoop
  astray method leaves found := by
    rintro jump line same
    cases same
    obtain ⟨decl, name, member, named⟩ :
        ∃ decl name, decl ∈ context.program.classes ∧ decl.method? name = some method := by
      rcases found with ⟨className, decl, name, classed, named⟩ | entry
      · exact ⟨decl, name, (Program.class?_eq_some classed).2, named⟩
      · obtain ⟨decl, classed, named⟩ := Option.bind_eq_some_iff.mp entry
        exact ⟨decl, "main", (Program.class?_eq_some classed).2, named⟩
    exact ⟨decl, member, method, (ClassDecl.method?_eq_some named).2, leaves⟩

theorem Failure.issue_of_attributed {failure : Failure} {current : Nat} {cause : Issue} {line : Option Nat}
    (attributed : failure.attributed current = .issue cause line) : ∃ own, failure = .issue cause own := by
  cases failure with
  | fault fault => cases attributed
  | issue other own =>
      cases own <;> cases attributed <;> exact ⟨_, rfl⟩

theorem Program.strays_of_trace {program : Program} {options : Options} {jump : Jump} {line : Option Nat}
    (failed : program.trace options = .error (.issue (.outsideLoop jump) line)) : program.Strays jump := by
  have conducted := Conduct.execute_conducted (Conduct.straying_laws { options, program }) fun _ _ => trivial
  unfold Program.trace at failed
  split at failed
  · cases failed
  · next failure final ended =>
      obtain ⟨own, same⟩ := Failure.issue_of_attributed (Except.error.inj failed)
      exact conducted.2 ended jump own same

/-- A loop completes normally or by a return, and a statement that completes by a jump has this jump outside of the
loops in it. Where every jump lies in a loop of its own method, no run fails for a jump. -/
theorem loops_take_up_jumps (program : Program) (options : Options) :
    (∀ room statement start completion final, Stmt.IsLoop statement →
      (statement.exec { options, program } (Calls.within { options, program } room)).run start = .ok completion final →
        completion = .normal ∨ ∃ value, completion = .returned value) ∧
    (∀ room statement start jump final,
      (Stmt.exec { options, program } (Calls.within { options, program } room) statement).run start =
          .ok (.jump jump) final →
        statement.Leaves jump) ∧
    (program.JumpsInLoops → ∀ jump line, program.trace options ≠ .error (.issue (.outsideLoop jump) line)) := by
  constructor
  · intro room statement start completion final loop ended
    exact (loop.stays ended).eq_normal_or_returned
  constructor
  · intro room statement start jump final ended
    exact Stmt.jumps_exec ended jump rfl
  · intro inside jump line failed
    obtain ⟨decl, member, method, declared, leaves⟩ := Program.strays_of_trace failed
    exact inside decl member method declared jump leaves

/-- A block that an inner loop with a `break` does not end, and a `continue` does. -/
def Stmt.stirred : Stmt :=
  .block 3 [.while_ 4 (.bool 4 true) (.block 4 [.break_ 4]), .continue_ 5, .return_ 6 none]

def Stmt.stirring : Stmt :=
  .doWhile 3 (.bool 7 false) .stirred

def Context.stirring : Context where
  options := { maxSteps := 10, mode := .local_ }
  program :=
    { classes :=
        [{ line := 1, name := "Main",
           body := [.method { line := 2, returnType := "void", name := "main", params := [], body := [.stirring] }] }] }

/-- The block completes by a jump that it has, and the loop around it normally, so that the run does not fail. -/
theorem stirring_taken_up :
    ∃ completion first second,
      (Stmt.stirring.exec .stirring (.within .stirring 1)).run State.initial = .ok completion first ∧
      (completion = .normal ∨ ∃ value, completion = .returned value) ∧
      (Stmt.stirred.exec .stirring (.within .stirring 1)).run State.initial = .ok (.jump .continue_) second ∧
      Stmt.stirred.Leaves .continue_ ∧ Context.stirring.program.JumpsInLoops ∧
      ∀ jump line, Context.stirring.program.trace Context.stirring.options ≠ .error (.issue (.outsideLoop jump) line) := by
  have loops : ((Stmt.stirring.exec .stirring (.within .stirring 1)).run State.initial).value? = some .normal := by
    decide +kernel
  have jumps : ((Stmt.stirred.exec .stirring (.within .stirring 1)).run State.initial).value? =
      some (.jump .continue_) := by
    decide +kernel
  obtain ⟨first, looped⟩ := Ending.exists_of_value? loops
  obtain ⟨second, jumped⟩ := Ending.exists_of_value? jumps
  have inside : Context.stirring.program.JumpsInLoops := by
    intro decl member method declared jump leaves
    obtain rfl := List.mem_singleton.mp member
    obtain rfl := List.mem_singleton.mp declared
    obtain ⟨statement, among, leaves⟩ := leaves
    obtain rfl := List.mem_singleton.mp among
    cases leaves
  obtain ⟨stays, own, none⟩ := loops_take_up_jumps Context.stirring.program Context.stirring.options
  exact ⟨.normal, first, second, looped, stays 1 .stirring _ _ _ trivial looped, jumped, own 1 .stirred _ _ _ jumped,
    inside, none inside⟩

end Stepwise
