import Stepwise.Proofs.Discipline
import Stepwise.Proofs.Heap

/-!
# The operations of the machine under a discipline

Recording, counting rounds, declaring, storing, allocating, and running a computation in a scope or a frame of its
own. Storing and allocating change the heap or a scope and then record; a discipline need not be settled in between.
A scope or a frame that is opened for a computation is closed again when that completes, and since the computation
restores what it found, what is closed is what was opened.
-/

namespace Stepwise

set_option autoImplicit false

/-- What writing a value to a slot does: the value as it was stored, and the state after. -/
inductive Slot.Written (value : Value) (before : State) : Slot → Value → State → Prop
  | binding {scope : Nat} {name : String} {stored : Value} {scopes : Scopes}
      (assigned : before.scopes.assign scope name value = .ok (stored, scopes)) :
      Written value before (.binding scope name) stored { before with scopes }
  | element {handle position : Nat} {elementType : String} {values : Array Value} {stored : Value}
      (found : before.heap.get? handle = some (.array elementType values))
      (coerced : value.coerce (some elementType) = .ok stored) :
      Written value before (.element handle position) stored
        { before with heap := before.heap.set handle (.array elementType (values.setIfInBounds position stored)) }
  | field {handle : Nat} {name className : String} {fields : List (String × Value)}
      (found : before.heap.get? handle = some (.object className fields)) :
      Written value before (.field handle name) value
        { before with heap := before.heap.set handle (.object className (Pairs.put name value fields)) }

theorem Slot.written_of_run {slot : Slot} {value stored : Value} {before after : State}
    (ended : (slot.write value).run before = .ok stored after) : slot.Written value before stored after := by
  cases slot with
  | binding scope name =>
      simp only [write, Machine.run_bind, Machine.run_get] at ended
      cases assigned : before.scopes.assign scope name value with
      | error failure => simp [assigned, Machine.ofOutcome] at ended
      | ok outcome =>
          simp only [assigned, Machine.ofOutcome, Machine.run_pure, Machine.run_modify] at ended
          cases ended
          exact .binding assigned
  | element handle position =>
      simp only [write, Machine.run_bind, Machine.run_get] at ended
      split at ended
      · next elementType values found =>
          cases coerced : value.coerce (some elementType) with
          | error failure => simp [coerced, Machine.ofOutcome, Machine.run_bind] at ended
          | ok converted =>
              simp only [coerced, Machine.ofOutcome, Machine.run_bind, Machine.run_pure, Machine.run_modify] at ended
              cases ended
              exact .element found coerced
      · cases ended
  | field handle name =>
      simp only [write, Machine.run_bind, Machine.run_get] at ended
      split at ended
      · next className fields found =>
          simp only [Machine.run_bind, Machine.run_pure, Machine.run_modify] at ended
          cases ended
          exact .field found
      · cases ended
  | length size => cases ended

theorem Slot.Written.restores {slot : Slot} {value stored : Value} {before after : State}
    (written : slot.Written value before stored after) : State.Restores none before after := by
  cases written with
  | binding assigned => exact ⟨Scopes.size_assign assigned, rfl, rfl, fun handle _ => Scopes.shape?_assign assigned handle⟩
  | element found coerced => exact ⟨rfl, rfl, rfl, fun _ _ => rfl⟩
  | field found => exact ⟨rfl, rfl, rfl, fun _ _ => rfl⟩

theorem Slot.Written.placed {slot : Slot} {value stored : Value} {before after : State}
    (written : slot.Written value before stored after) (placed : before.Placed) : after.Placed := by
  cases written with
  | binding assigned =>
      refine ⟨placed.nested.assign assigned, ?_, ?_⟩
      · rw [Scopes.size_assign assigned]
        exact placed.current
      · rw [Scopes.size_assign assigned]
        exact placed.frames
  | element found coerced => exact ⟨placed.nested, placed.current, placed.frames⟩
  | field found => exact ⟨placed.nested, placed.current, placed.frames⟩

theorem Slot.Written.continues {slot : Slot} {value stored : Value} {before after : State}
    (written : slot.Written value before stored after) : before.heap.Continues after.heap := by
  cases written with
  | binding assigned => exact .refl _
  | element found coerced => exact Heap.continues_set found (.array Array.size_setIfInBounds)
  | field found => exact Heap.continues_set found (.object (Pairs.names_put _ _ _))

namespace Machine

variable {α β : Type}

theorem run_record (options : Options) (line : Nat) (console : Option Text) (event : Option Event)
    (start : State) :
    (record options line console event).run start =
      if options.maxSteps ≤ start.steps.size then .error (.onLine line (.stepLimit options.maxSteps)) start
      else .ok () (start.recorded options line console event) := by
  simp only [record, run_bind, run_get]
  split <;> rfl

theorem passes_record {options : Options} {line : Nat} {console : Option Text} {event : Option Event}
    {start state : State} (passed : (record options line console event).passes start state) :
    state = start ∨ state = start.recorded options line console event := by
  simp only [record, passes_bind, run_get, passes_get] at passed
  rcases passed with same | ⟨seen, middle, ended, passed⟩
  · exact .inl same
  · cases ended
    split at passed
    · rcases passed with same | ⟨result, middle, ended, -⟩
      · exact .inl same
      · cases ended
    · exact passed

theorem marks_record {options : Options} {line : Nat} {console : Option Text} {event : Option Event}
    {start state : State} {sign : Mark} : ¬(record options line console event).marks start sign state := by
  simp only [record, marks_bind, run_get, marks_get, false_or]
  rintro ⟨seen, middle, ended, marked⟩
  split at marked
  · rcases marked with marked | ⟨result, middle, ended, -⟩
    · exact marked
    · cases ended
  · exact marked

/-- A computation that changes the state at most once, and then completes. -/
structure ChangesOnce (computation : Machine α) : Prop where
  passing : ∀ start state, computation.passes start state →
    state = start ∨ ∃ result, computation.run start = .ok result state
  unmarked : ∀ start sign state, ¬computation.marks start sign state

theorem ReadsOnly.changesOnce {computation : Machine α} (reads : computation.ReadsOnly) :
    computation.ChangesOnce :=
  ⟨fun start state passed => .inl (reads.passing start state passed), reads.unmarked⟩

theorem ReadsOnly.seq_changesOnce {first : Machine α} {next : α → Machine β} (reads : first.ReadsOnly)
    (others : ∀ result, (next result).ChangesOnce) : (first >>= next).ChangesOnce where
  passing start state := by
    rintro (passed | ⟨result, middle, ended, passed⟩)
    · exact .inl (reads.passing start state passed)
    · have same : middle = start := reads.state_of_ok ended
      subst same
      rcases (others result).passing middle state passed with same | ⟨final, finished⟩
      · exact .inl same
      · exact .inr ⟨final, by rw [run_bind_of_ok next ended, finished]⟩
  unmarked start sign state := by
    rintro (marked | ⟨result, middle, -, marked⟩)
    · exact reads.unmarked start sign state marked
    · exact (others result).unmarked middle sign state marked

theorem changesOnce_modify_pure (change : State → State) (result : α) :
    (modify change >>= fun _ => pure result : Machine α).ChangesOnce where
  passing start state := by
    rintro ((same | changed) | ⟨nothing, middle, ended, passed⟩)
    · exact .inl same
    · exact .inr ⟨result, by rw [changed]; rfl⟩
    · cases ended
      exact .inr ⟨result, by rw [passed]; rfl⟩
  unmarked start sign state := by
    rintro (marked | ⟨nothing, middle, -, marked⟩)
    · exact marked
    · exact marked

theorem changesOnce_write (slot : Slot) (value : Value) : (slot.write value).ChangesOnce := by
  cases slot with
  | binding scope name =>
      refine ReadsOnly.seq_changesOnce .get fun state => ?_
      refine ReadsOnly.seq_changesOnce (.ofOutcome _) fun outcome => ?_
      exact changesOnce_modify_pure _ _
  | element handle position =>
      refine ReadsOnly.seq_changesOnce .get fun state => ?_
      split
      · refine ReadsOnly.seq_changesOnce (.ofOutcome _) fun stored => ?_
        exact changesOnce_modify_pure _ _
      · exact (ReadsOnly.raise _).changesOnce
  | field handle name =>
      refine ReadsOnly.seq_changesOnce .get fun state => ?_
      split
      · exact changesOnce_modify_pure _ _
      · exact (ReadsOnly.raise _).changesOnce
  | length size => exact (ReadsOnly.raise _).changesOnce

theorem changesOnce_modify (change : State → State) : (modify change : Machine Unit).ChangesOnce where
  passing start state := by
    rintro (same | changed)
    · exact .inl same
    · exact .inr ⟨(), by rw [changed]; rfl⟩
  unmarked _ _ _ marked := marked

end Machine

namespace State

theorem Placed.opened {state : State} (placed : state.Placed) {parent : Nat} (older : parent < state.scopes.size) :
    Placed { state with scopes := state.scopes.opened (some parent) } where
  nested := placed.nested.opened older
  current := by
    have inside := placed.current
    simp only [Scopes.size_opened]
    omega
  frames frame member := by
    have inside := placed.frames frame member
    simp only [Scopes.size_opened]
    omega

theorem Placed.entered {state : State} (placed : state.Placed) {handle : Nat} (inside : handle < state.scopes.size) :
    Placed { state with current := handle } :=
  ⟨placed.nested, inside, placed.frames⟩

theorem Placed.left {state : State} (placed : state.Placed) {handle outer : Nat}
    (newest : handle + 1 = state.scopes.size) (older : outer < handle)
    (below : ∀ frame ∈ state.frames, frame.scope < handle) :
    Placed { state with scopes := state.scopes.released handle, current := outer } where
  nested := placed.nested.released handle
  current := by
    rw [Scopes.size_released_of_newest _ _ newest]
    exact older
  frames frame member := by
    rw [Scopes.size_released_of_newest _ _ newest]
    exact below frame member

theorem Placed.pushed {state : State} (placed : state.Placed) {frame : Frame}
    (inside : frame.scope < state.scopes.size) : Placed { state with frames := frame :: state.frames } where
  nested := placed.nested
  current := placed.current
  frames other member := by
    rcases List.mem_cons.mp member with same | older
    · rw [same]
      exact inside
    · exact placed.frames other older

theorem Placed.popped {state : State} (placed : state.Placed) {frame : Frame} {frames : List Frame}
    (stack : state.frames = frame :: frames) : Placed { state with frames } where
  nested := placed.nested
  current := placed.current
  frames other member := placed.frames other (by rw [stack]; exact List.mem_cons_of_mem frame member)

end State

namespace Discipline

variable {context : Context} {D : Discipline context} {free : Option Nat} {room : Nat} {start : State}
  {α β : Type} (laws : D.Laws)
include laws

theorem obeys_record (line : Nat) (console : Option Text) {event : Option Event} (ready : D.Ready room start)
    (ordinary : event ≠ some .allocation) :
    D.Obeys free room start (Machine.record context.options line console event) fun _ _ => True := by
  obtain ⟨settled, leads⟩ := laws.recorded line console event ready ordinary
  have after : D.Ready room (start.recorded context.options line console event) :=
    ⟨ready.placed.recorded _ _ _ _, settled⟩
  refine fun _ => ⟨?_, fun sign state marked => absurd marked Machine.marks_record, ?_, ?_⟩
  · intro state passed
    rcases Machine.passes_record passed with rfl | rfl
    · exact ready.holds laws
    · exact after.holds laws
  · intro result final ended
    rw [Machine.run_record] at ended
    split at ended
    · cases ended
    · cases ended
      exact ⟨⟨after, State.restores_recorded _ _ _ _ _ _, leads⟩, trivial⟩
  · intro failure final ended
    rw [Machine.run_record] at ended
    split at ended
    · cases ended
      exact laws.benign trivial
    · cases ended

theorem obeys_record_yield (line : Nat) (console : Option Text) {event : Option Event} {result : α}
    {required : State → α → Prop} (ready : D.Ready room start) (ordinary : event ≠ some .allocation)
    (holds : ∀ final, D.Follows free room start final → required final result) :
    D.Obeys free room start
      (Machine.record context.options line console event >>= fun _ => pure result) required := by
  refine (obeys_record laws line console ready ordinary).seq laws ?_
  intro _ state follows _
  exact .yields laws follows.ready (holds state follows)

/-- A change that is recorded at once. In between, the discipline need not be settled. -/
theorem obeys_recorded_change {computation : Machine α} {give : α → β} {event : Option Event}
    {required : State → β → Prop} (line : Nat) (ready : D.Ready room start) (once : computation.ChangesOnce)
    (changed : ∀ result after, computation.run start = .ok result after →
      D.Holds after ∧ D.Follows free room start (after.recorded context.options line none event) ∧
        required (after.recorded context.options line none event) (give result))
    (failed : ∀ failure after, computation.run start = .error failure after → D.tolerates failure) :
    D.Obeys free room start
      (computation >>= fun result => Machine.record context.options line none event >>= fun _ => pure (give result))
      required := by
  -- Between the change and the record only what holds throughout is known.
  have first : D.Runs (start.frames <:+ ·) start computation fun state result =>
      computation.run start = .ok result state := by
    refine fun _ => ⟨?_, fun sign state marked => absurd marked (once.unmarked _ _ _), fun _ _ ended => ended, failed⟩
    intro state passed
    rcases once.passing start state passed with rfl | ⟨result, ended⟩
    · exact ready.holds laws
    · exact (changed result state ended).1
  refine first.seq ?_
  intro result after _ ended
  obtain ⟨holds, follows, finished⟩ := changed result after ended
  have second : D.Runs (start.frames <:+ ·) after (Machine.record context.options line none event) fun state _ =>
      state = after.recorded context.options line none event := by
    refine fun _ => ⟨?_, fun sign state marked => absurd marked Machine.marks_record, ?_, ?_⟩
    · intro state passed
      rcases Machine.passes_record passed with rfl | rfl
      · exact holds
      · exact follows.ready.holds laws
    · intro _ final recorded
      rw [Machine.run_record] at recorded
      split at recorded
      · cases recorded
      · cases recorded
        rfl
    · intro failure final recorded
      rw [Machine.run_record] at recorded
      split at recorded
      · cases recorded
        exact laws.benign trivial
      · cases recorded
  refine second.seq ?_
  rintro - state - rfl
  exact .yields (follows.ready.holds laws) ⟨follows, finished⟩

theorem obeys_store {slot : Slot} {value : Value} (line : Nat) (ready : D.Ready room start)
    (there : D.slot start slot) (admitted : D.value start value) (fitting : D.content start slot value) :
    D.Obeys none room start (Machine.store context.options line slot value) D.value := by
  refine obeys_recorded_change laws line ready (Machine.changesOnce_write slot value) ?_ ?_
  · intro stored written ended
    obtain ⟨holds, settled, leads, kept⟩ := laws.stored line ready there admitted fitting ended
    have effect := Slot.written_of_run ended
    have placed := effect.placed ready.placed
    exact ⟨⟨placed, holds⟩, ⟨⟨placed.recorded _ _ _ _, settled⟩,
      effect.restores.trans (State.restores_recorded _ _ _ _ _ _), leads⟩, kept⟩
  · intro failure after ended
    exact laws.write_error ready there admitted ended

theorem obeys_allocate {cell : Cell} (line : Nat) (ready : D.Ready room start)
    (made : cell.Made context D.element (D.value start)) :
    D.Obeys none room start (Machine.allocate context.options line cell) D.value := by
  refine .look ?_
  refine obeys_recorded_change laws line ready (Machine.changesOnce_modify _) ?_ ?_
  · intro _ after ended
    cases ended
    obtain ⟨holds, settled, leads, kept⟩ := laws.allocated line ready made rfl
    have placed : State.Placed { start with heap := start.heap.allocate cell } :=
      ⟨ready.placed.nested, ready.placed.current, ready.placed.frames⟩
    exact ⟨⟨placed, holds⟩, ⟨⟨placed.recorded _ _ _ _, settled⟩, ⟨rfl, rfl, rfl, fun _ _ => rfl⟩, leads⟩, kept⟩
  · intro failure after ended
    cases ended

theorem obeys_atLine (line : Nat) (ready : D.Ready room start) :
    D.Obeys free room start (Machine.atLine line) fun _ _ => True :=
  (Obeys.change laws ready (follows_of_sameCore laws ready ⟨rfl, rfl, rfl, rfl, rfl⟩)).imp fun _ _ _ _ => trivial

theorem obeys_noteDeclared (name : String) (ready : D.Ready room start) :
    D.Obeys free room start (Machine.noteDeclared name) fun _ _ => True := by
  refine (Obeys.change laws ready (follows_of_sameCore laws ready ?_)).imp fun _ _ _ _ => trivial
  split <;> exact ⟨rfl, rfl, rfl, rfl, rfl⟩

theorem obeys_tick (line : Nat) (ready : D.Ready room start) :
    D.Obeys free room start (Machine.tick context.options line) fun _ _ => True := by
  refine (Obeys.change laws ready (follows_of_sameCore laws ready ⟨rfl, rfl, rfl, rfl, rfl⟩)).seq laws ?_
  intro _ state follows _
  refine .look ?_
  split
  · exact .failOn laws line _ follows.ready
  · exact .yields laws follows.ready trivial

theorem obeys_declareIn {handle : Nat} {value : Value} (name : String) (typeName : Option String)
    (ready : D.Ready room start) (inside : handle < start.scopes.size) (admitted : D.value start value) :
    D.Obeys (some handle) room start (Machine.declareIn handle name value typeName) fun _ _ => True := by
  refine .look ?_
  have accepts : D.Accepts (start.scopes.declare handle name value typeName) fun outcome =>
      start.scopes.declare handle name value typeName = .ok outcome :=
    ⟨fun _ same => same, fun _ failed => laws.declare_error ready inside admitted failed⟩
  refine (Obeys.ofOutcome laws ready accepts).seq laws ?_
  rintro ⟨stored, scopes⟩ state - ⟨rfl, declared⟩
  obtain ⟨settled, leads⟩ := laws.declared ready admitted declared
  have same : scopes.size = state.scopes.size := Scopes.size_declare declared
  have placed : State.Placed { state with scopes } := by
    refine ⟨ready.placed.nested.declare declared, ?_, ?_⟩
    · rw [same]
      exact ready.placed.current
    · rw [same]
      exact ready.placed.frames
  have restores : State.Restores (some handle) state { state with scopes } := by
    refine ⟨same, rfl, rfl, fun other apart => ?_⟩
    exact Scopes.shape?_declare_of_ne declared fun equal => apart (by rw [equal])
  exact (Obeys.change laws ready ⟨⟨placed, settled⟩, restores, leads⟩).imp fun _ _ _ _ => trivial

omit laws in
/-- Seen from a state in which an evaluation began, one more scope is open: the newest, which may bind any names. -/
structure Activated (D : Discipline context) (room : Nat) (start state : State) : Prop where
  ready : D.Ready room state
  size : state.scopes.size = start.scopes.size + 1
  frames : state.frames = start.frames
  shapes : ∀ handle, handle ≠ start.scopes.size → state.scopes.shape? handle = start.scopes.shape? handle
  leads : D.leads start state

theorem Activated.follows {middle state : State} (activated : D.Activated room start middle)
    (follows : D.Follows (some start.scopes.size) room middle state) : D.Activated room start state where
  ready := follows.ready
  size := follows.restores.size.trans activated.size
  frames := follows.restores.frames.trans activated.frames
  shapes handle apart := by
    rw [follows.restores.shapes handle fun same => apart (Option.some.inj same).symm]
    exact activated.shapes handle apart
  leads := laws.leads_trans activated.leads follows.leads

theorem runs_openScope {allowed : List Frame → Prop} {parent : Nat} (ready : D.Ready room start)
    (older : parent < start.scopes.size) :
    D.Runs allowed start (Machine.openScope parent) fun state handle =>
      handle = start.scopes.size ∧ state.current = start.current ∧ D.Activated room start state := by
  obtain ⟨settled, leads⟩ := laws.opened ready older
  have after : D.Ready room { start with scopes := start.scopes.opened (some parent) } :=
    ⟨ready.placed.opened older, settled⟩
  refine Runs.look (Runs.change_seq (ready.holds laws) (.yields (after.holds laws) ⟨rfl, rfl, after, ?_, rfl, ?_, leads⟩))
  · exact Scopes.size_opened _ _
  · exact fun handle apart => Scopes.shape?_opened_of_ne _ _ apart

/-- Closing the scope that was opened, and going on where the evaluation began. -/
theorem runs_leaveScope {allowed : List Frame → Prop} {state : State} (ready : D.Ready room start)
    (activated : D.Activated room start state) :
    D.Runs allowed state (Machine.leaveScope start.scopes.size start.current) fun final _ =>
      D.Follows none room start final ∧ D.leads state final := by
  have newest : start.scopes.size + 1 = state.scopes.size := activated.size.symm
  have below : ∀ frame ∈ state.frames, frame.scope < start.scopes.size := by
    rw [activated.frames]
    exact ready.placed.frames
  have placed := activated.ready.placed.left newest ready.placed.current below
  obtain ⟨settled, leads⟩ := laws.left activated.ready newest ready.placed.current below
  have restores : State.Restores none start
      { state with scopes := state.scopes.released start.scopes.size, current := start.current } :=
    ⟨Scopes.size_released_of_newest _ _ newest, rfl, activated.frames,
      fun handle _ => Scopes.shape?_released activated.size activated.shapes handle⟩
  have after : D.Ready room
      { state with scopes := state.scopes.released start.scopes.size, current := start.current } := ⟨placed, settled⟩
  refine Runs.mark_seq newest (Runs.change (activated.ready.holds laws) (after.holds laws) ?_)
  exact ⟨⟨after, restores, laws.leads_trans activated.leads leads⟩, leads⟩

theorem Ready.entered {handle : Nat} (ready : D.Ready room start) (inside : handle < start.scopes.size) :
    D.Ready room { start with current := handle } :=
  ⟨ready.placed.entered inside, (laws.entered ready inside).1⟩

theorem obeys_inScope {body : Machine α} {required : State → α → Prop} (ready : D.Ready room start)
    (stable : ∀ before after result, D.leads before after → required before result → required after result)
    (obeys : ∀ state, D.Ready room state → D.Obeys (some state.current) room state body required) :
    D.Obeys none room start (Machine.inScope body) required := by
  refine .look ?_
  refine Runs.seq (runs_openScope laws ready ready.placed.current) ?_
  rintro handle opened - ⟨rfl, -, activated⟩
  have inside : start.scopes.size < opened.scopes.size := by
    rw [activated.size]
    exact Nat.lt_succ_self _
  have entered := activated.ready.entered laws inside
  have leads := laws.leads_trans activated.leads (laws.entered activated.ready inside).2
  have active : D.Activated room start { opened with current := start.scopes.size } :=
    ⟨entered, activated.size, activated.frames, activated.shapes, leads⟩
  refine Runs.change_seq (activated.ready.holds laws) ?_
  have runs := obeys _ entered
  refine Runs.seq (Runs.allow runs fun frames above => by rw [← activated.frames]; exact above) ?_
  rintro result state - ⟨follows, holds⟩
  refine Runs.seq (runs_leaveScope laws ready (active.follows laws follows)) ?_
  rintro - final holdsFinal ⟨finished, carried⟩
  exact .yields holdsFinal ⟨finished, stable state final result carried holds⟩

def completion (D : Discipline context) (state : State) (completion : Completion) : Prop :=
  ∀ value, completion = .returned value → D.value state value

/-- The body of a method in a frame and an open scope of its own. -/
theorem runs_runFrame {allowed : List Frame → Prop} {body : Machine Completion} {frame : Frame} {state : State}
    (ready : D.Ready (room + 1) start) (above : ∀ frames, frame :: start.frames <:+ frames → allowed frames)
    (activated : D.Activated (room + 1) start state) (pushes : context.Pushes frame)
    (back : frame.scope = start.current)
    (obeys : ∀ state, D.Ready room state → D.Obeys (some state.current) room state body D.completion) :
    D.Runs allowed state (Machine.runFrame frame start.scopes.size body) fun final value =>
      D.Follows none (room + 1) start final ∧ D.value final value := by
  have inside : frame.scope < state.scopes.size := by
    have older := ready.placed.current
    rw [back, activated.size]
    omega
  obtain ⟨settled, leads⟩ := laws.pushed activated.ready inside pushes
  have pushed : D.Ready room { state with frames := frame :: state.frames } :=
    ⟨activated.ready.placed.pushed inside, settled⟩
  have newest : start.scopes.size < state.scopes.size := by
    rw [activated.size]
    exact Nat.lt_succ_self _
  have entered : D.Ready room { state with frames := frame :: state.frames, current := start.scopes.size } :=
    pushed.entered laws newest
  refine Runs.change_seq (activated.ready.holds laws) ?_
  refine Runs.change_seq (pushed.holds laws) ?_
  have runs := obeys _ entered
  refine Runs.seq (Runs.allow runs fun frames inside => above frames (by rw [← activated.frames]; exact inside)) ?_
  rintro completion ended - ⟨follows, held⟩
  have result : D.Runs allowed ended (Machine.methodResult completion) fun state value =>
      state = ended ∧ D.value ended value := by
    cases completion with
    | normal => exact .yields (follows.ready.holds laws) ⟨rfl, laws.plain ended trivial⟩
    | jump jump => exact .fails (follows.ready.holds laws) (laws.benign trivial)
    | returned value => exact .yields (follows.ready.holds laws) ⟨rfl, held value rfl⟩
  refine result.seq ?_
  rintro value same - ⟨rfl, admitted⟩
  have stack : same.frames = frame :: start.frames := by
    rw [follows.restores.frames, activated.frames]
  obtain ⟨settledBelow, leadsBelow⟩ := laws.popped follows.ready stack
  have popped : D.Ready (room + 1) { same with frames := start.frames } :=
    ⟨follows.ready.placed.popped stack, settledBelow⟩
  have tail : same.frames.tail = start.frames := by rw [stack]; rfl
  have closing : D.Activated (room + 1) start { same with frames := same.frames.tail } := by
    rw [tail]
    refine ⟨popped, ?_, rfl, ?_, ?_⟩
    · exact follows.restores.size.trans activated.size
    · intro handle apart
      rw [follows.restores.shapes handle fun equal => apart (Option.some.inj equal).symm]
      exact activated.shapes handle apart
    · have opening := laws.leads_trans activated.leads (laws.leads_trans leads (laws.entered pushed newest).2)
      exact laws.leads_trans opening (laws.leads_trans follows.leads leadsBelow)
  have before := follows.ready.holds laws
  refine Runs.change_seq before ?_
  rw [back]
  refine Runs.seq (runs_leaveScope laws ready closing) ?_
  rintro - final holdsFinal ⟨finished, carried⟩
  have toPopped : D.leads same { same with frames := same.frames.tail } := by
    rw [tail]
    exact leadsBelow
  exact .yields holdsFinal ⟨finished, laws.value_mono (laws.leads_trans toPopped carried) admitted⟩

end Discipline

end Stepwise
