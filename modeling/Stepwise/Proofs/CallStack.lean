import Stepwise.Proofs.Conduct.Run
import Stepwise.Proofs.HeapTrace
import Stepwise.Proofs.Reading.Program
import Stepwise.Proofs.Scanning

/-!
# The call stack of every step

Frames are pushed in four places and popped again in each of them, so that what runs in a frame leaves the stack as it
found it. The stack of a step therefore consists of the frames in which it runs: the outermost is that of the static
fields of a class, or that of the entry point, and all others are of calls and of objects in the making. The room that
is left for frames bounds how many there are, and the names of the frames that no method has are told apart from those
of methods by characters that no name contains.
-/

namespace Stepwise

set_option autoImplicit false

section Frames

variable (program : Program) (frame : Frame)

/-- The frame in which static fields of a class are initialised. -/
def Frame.IsStatics : Prop :=
  frame.methodName = "<clinit>" ∧ ∃ decl ∈ program.classes, frame.line = decl.line

def Frame.IsEntry : Prop :=
  frame.methodName = "main" ∧ ∃ main, program.entryPoint? = some main ∧ frame.line = main.line

/-- The frame in which the fields of a new object are initialised. -/
def Frame.IsCreation : Prop :=
  frame.methodName = "<init>" ∧ ∃ decl ∈ program.classes, frame.line = decl.line

/-- The frame of one of the methods of a class. -/
def Frame.IsCall : Prop :=
  ∃ decl ∈ program.classes, ∃ method ∈ decl.methods, frame.methodName = method.name ∧ frame.line = method.line

end Frames

/-- How the stack of a step is composed, given what is known of its outermost frame. -/
structure Step.Stacked (program : Program) (outermost : Frame → Prop) (step : Step) : Prop where
  bounds : 1 ≤ step.frames.length ∧ step.frames.length ≤ maxCallDepth
  root : ∃ frame, step.frames.getLast? = some frame ∧ outermost frame
  deeper : ∀ frame ∈ step.frames.dropLast,
    (frame.IsCreation program ∨ frame.IsCall program) ∧ frame.methodName ≠ "<clinit>"

namespace ClassDecl

variable {decl : ClassDecl} {method : Method} {name : String}

theorem mem_methodNames (declared : method ∈ decl.methodDeclarations) : method.name ∈ decl.methodNames := by
  have collects : ∀ (methods : List Method) (names : List String), method.name ∈ names ∨ method ∈ methods →
      method.name ∈ methods.foldl
        (fun names method => if names.contains method.name then names else names ++ [method.name]) names := by
    intro methods
    induction methods with
    | nil => simp
    | cons first others ih =>
        intro names known
        -- The names met so far stay, and the name of the first method is among them afterwards.
        have adds : ∀ name, name ∈ names ∨ name = first.name →
            name ∈ if names.contains first.name then names else names ++ [first.name] := by
          intro name given
          split
          · next present => exact given.elim id fun same => same ▸ List.contains_iff_mem.mp present
          · exact List.mem_append.mpr (given.imp_right List.mem_singleton.mpr)
        rcases known with known | member
        · exact ih _ (.inl (adds _ (.inl known)))
        · rcases List.mem_cons.mp member with rfl | later
          · exact ih _ (.inl (adds _ (.inr rfl)))
          · exact ih _ (.inr later)
  exact collects _ [] (.inr declared)

theorem mem_methods (found : decl.method? name = some method) : method ∈ decl.methods := by
  obtain ⟨rfl, declared⟩ := method?_eq_some found
  exact List.mem_filterMap.mpr ⟨method.name, mem_methodNames declared, found⟩

end ClassDecl

theorem method_name_ne {source : String} {compiled : Compiled} (accepted : compile source = .ok compiled)
    {decl : ClassDecl} {method : Method} (member : decl ∈ compiled.program.classes) (declared : method ∈ decl.methods) :
    method.name ≠ "<clinit>" := by
  obtain ⟨scanned, spelled⟩ := compile_eq_ok accepted
  have read := Program.readFrom_of_ofTokens spelled decl member
  obtain ⟨name, -, found⟩ := List.mem_filterMap.mp declared
  cases read.body _ (ClassDecl.mem_body (ClassDecl.method?_eq_some found).2) with
  | method declared =>
      obtain ⟨token, given, kind, named⟩ := declared.name
      have parts := ((genuine_of_scan scanned token given).identifier kind).2
      rw [← named] at parts
      intro bracketed
      rw [bracketed] at parts
      have part := parts '<' (by decide)
      revert part
      decide

/-- What a run pushes on the stack, from some stage on, before it records a step. -/
inductive Context.Stacks (context : Context) : Stage → List Frame → Prop
  | nothing (room : Nat) : Stacks context (.within room) []
  | push {outer inner : Stage} {frame : Frame} {deeper : List Frame} (opens : context.Opens outer frame inner)
      (grown : Stacks context inner deeper) : Stacks context outer (deeper ++ [frame])

namespace Context.Stacks

variable {context : Context} {pushed : List Frame}

/-- What is pushed in a frame are frames of creations and of calls, and no more than there is room for. -/
theorem deeper {room : Nat} (grown : context.Stacks (.within room) pushed) :
    pushed.length ≤ room ∧ ∀ frame ∈ pushed, frame.IsCreation context.program ∨ frame.IsCall context.program := by
  generalize reached : Stage.within room = stage at grown
  induction grown generalizing room with
  | nothing other => exact ⟨Nat.zero_le _, List.forall_mem_nil _⟩
  | push opens grown ih =>
      cases opens with
      | statics | entry => cases reached
      | call declares scope left =>
          cases reached
          obtain ⟨decl, name, present, found⟩ := declares
          obtain ⟨bound, inner⟩ := ih rfl
          refine ⟨by simpa using bound, List.forall_mem_append.mpr ⟨inner, List.forall_mem_singleton.mpr (.inr ?_)⟩⟩
          exact ⟨decl, (Program.class?_eq_some present).2, _, ClassDecl.mem_methods found, rfl, rfl⟩
      | @creation decl member scope left =>
          cases reached
          obtain ⟨bound, inner⟩ := ih rfl
          refine ⟨by simpa using bound, List.forall_mem_append.mpr ⟨inner, List.forall_mem_singleton.mpr (.inl ?_)⟩⟩
          exact ⟨rfl, decl, member, rfl⟩

end Context.Stacks

namespace Conduct

/-- The stack at the end of a computation is that at its beginning, and the stacks of the steps that it records extend
it. -/
def stacking (context : Context) : Conduct context where
  node _ := True
  leads stage before after :=
    after.frames = before.frames ∧
      ∃ more, after.steps.toList = before.steps.toList ++ more ∧
        ∀ step ∈ more, ∃ pushed, context.Stacks stage pushed ∧ step.frames = pushed ++ before.frames
  tolerates _ := True

theorem stacking_laws (context : Context) : (stacking context).Laws where
  trans {stage first second third} := by
    rintro ⟨kept, more, recorded, stacked⟩ ⟨keptAgain, others, recordedAgain, stackedAgain⟩
    refine ⟨keptAgain.trans kept, more ++ others, by rw [recordedAgain, recorded, List.append_assoc], ?_⟩
    rw [kept] at stackedAgain
    exact List.forall_mem_append.mpr ⟨stacked, stackedAgain⟩
  quiet stage frames steps := ⟨frames, [], by rw [steps, List.append_nil], List.forall_mem_nil _⟩
  recorded room line console event state :=
    ⟨rfl, [_], Array.toList_push, List.forall_mem_singleton.mpr ⟨[], .nothing room, rfl⟩⟩
  framed {outer frame inner before inside} opens := by
    rintro ⟨kept, more, recorded, stacked⟩
    refine ⟨congrArg List.tail kept, more, recorded, fun step member => ?_⟩
    obtain ⟨pushed, grown, extended⟩ := stacked step member
    exact ⟨pushed ++ [frame], .push opens grown, by rw [extended, List.append_assoc, List.singleton_append]⟩
  ordinary _ := trivial
  unfit _ _ _ := trivial
  astray _ _ _ := trivial

end Conduct

theorem Step.stacked_of_push {source : String} {compiled : Compiled} {options : Options}
    (accepted : compile source = .ok compiled) {step : Step} {frame : Frame} {deeper : List Frame}
    {outermost : Frame → Prop} (rooted : outermost frame)
    (grown : Context.Stacks { options, program := compiled.program } (.within (maxCallDepth - 1)) deeper)
    (frames : step.frames = deeper ++ [frame]) : step.Stacked compiled.program outermost := by
  obtain ⟨bound, inner⟩ := grown.deeper
  refine ⟨?_, ⟨frame, by rw [frames, List.getLast?_concat], rooted⟩, ?_⟩
  · rw [frames, List.length_append, List.length_singleton]
    exact ⟨Nat.le_add_left .., Nat.add_le_of_le_sub (by decide) bound⟩
  · rw [frames, List.dropLast_concat]
    intro other member
    refine ⟨inner other member, ?_⟩
    rcases inner other member with ⟨creation, -⟩ | ⟨decl, present, method, declared, named, -⟩
    · rw [creation]
      decide
    · rw [named]
      exact method_name_ne accepted present declared

/-- A trace consists of steps that are recorded while static fields are initialised, and then of steps of the entry
point. -/
theorem trace_stacked {source : String} {compiled : Compiled} {options : Options} {steps : List Step}
    (accepted : compile source = .ok compiled) (traced : compiled.program.trace options = .ok steps) :
    ∃ initialising running, steps = initialising ++ running ∧
      (∀ step ∈ initialising, step.Stacked compiled.program (Frame.IsStatics compiled.program)) ∧
      ∀ step ∈ running, step.Stacked compiled.program (Frame.IsEntry compiled.program) := by
  obtain ⟨final, ended, rfl⟩ := Program.trace_eq_ok traced
  obtain ⟨between, ⟨empty, initialising, recorded, statics⟩, -, running, continued, entry⟩ :=
    (Conduct.execute_conducted (Conduct.stacking_laws { options, program := compiled.program })
      fun _ _ => trivial).1 ended
  have whole : final.steps.toList = initialising ++ running := by
    rw [continued, recorded]
    rfl
  -- The stack is empty before either part, so that what is pushed is the whole stack of a step.
  refine ⟨initialising, running, whole, fun step member => ?_, fun step member => ?_⟩
  · obtain ⟨pushed, grown, extended⟩ := statics step member
    rw [show State.initial.frames = [] from rfl, List.append_nil] at extended
    cases grown with
    | push opens grown =>
        cases opens with
        | @statics decl present =>
            exact Step.stacked_of_push accepted ⟨rfl, decl, present, rfl⟩ grown extended
  · obtain ⟨pushed, grown, extended⟩ := entry step member
    rw [empty, show State.initial.frames = [] from rfl, List.append_nil] at extended
    cases grown with
    | push opens grown =>
        cases opens with
        | @entry main found scope =>
            exact Step.stacked_of_push accepted ⟨rfl, main, found, rfl⟩ grown extended

/-- A static field, an object and a method that the initialisers of both call. -/
def layered : String :=
  "class Main \x7b\n  static int start = twice(1);\n  int own = twice(start);\n  void main() \x7b\n" ++
    "    Main other = new Main();\n  \x7d\n  int twice(int n) \x7b\n    return n + n;\n  \x7d\n\x7d"

theorem layered_stacked :
    ∃ compiled steps, compile layered = .ok compiled ∧
      compiled.program.trace { maxSteps := 100, mode := .local_ } = .ok steps ∧
      steps.map (fun step => step.frames.map Frame.methodName) =
        [["twice", "<clinit>"], ["twice", "<clinit>"], ["<clinit>"], ["twice", "<init>", "main"],
          ["twice", "<init>", "main"], ["main"], ["main"]] ∧
      ∃ initialising running, steps = initialising ++ running ∧
        (∀ step ∈ initialising, step.Stacked compiled.program (Frame.IsStatics compiled.program)) ∧
        ∀ step ∈ running, step.Stacked compiled.program (Frame.IsEntry compiled.program) := by
  have ends : ((compile layered).toOption.bind fun compiled =>
      (compiled.program.trace { maxSteps := 100, mode := .local_ }).toOption.map fun steps =>
        steps.map fun step => step.frames.map Frame.methodName) =
      some [["twice", "<clinit>"], ["twice", "<clinit>"], ["<clinit>"], ["twice", "<init>", "main"],
        ["twice", "<init>", "main"], ["main"], ["main"]] := by
    rw [compile, scan, toList_of_written layered String.ofList_append.symm]
    decide +kernel
  cases accepted : compile layered with
  | error rejection =>
      rw [accepted] at ends
      cases ends
  | ok compiled =>
      rw [accepted] at ends
      cases traced : compiled.program.trace { maxSteps := 100, mode := .local_ } with
      | error failure =>
          simp only [Except.toOption, Option.bind_some, traced] at ends
          cases ends
      | ok steps =>
          simp only [Except.toOption, Option.bind_some, traced] at ends
          exact ⟨compiled, steps, rfl, traced, Option.some.inj ends, trace_stacked accepted traced⟩

end Stepwise
