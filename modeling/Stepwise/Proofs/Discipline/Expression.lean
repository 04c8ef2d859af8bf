import Stepwise.Proofs.Discipline.Operations

/-!
# Expressions under a discipline

Evaluating an expression obeys a discipline, if calling methods and making objects does. The induction is over the
expression; what is known of the expressions of the program is handed down to its parts. An expression declares
nothing, so every scope keeps its shape.
-/

namespace Stepwise

set_option autoImplicit false

structure Discipline.ObeysCalls {context : Context} (D : Discipline context) (room : Nat) (calls : Calls) : Prop where
  within : calls = Calls.within context room
  invoke : ∀ {state : State} {method : Method} {className : String} {arguments : List Value} (line : Nat),
    D.Ready room state → context.Declares method className → (∀ value ∈ arguments, D.value state value) →
    D.Obeys none room state (calls.invoke method className arguments line) D.value
  instantiate : ∀ {state : State} {decl : ClassDecl}, D.Ready room state →
    context.program.class? decl.name = some decl →
    D.Obeys none room state (calls.instantiate decl) fun final cell => cell.Made context D.element (D.value final)

theorem Program.class?_eq_some {program : Program} {name : String} {decl : ClassDecl}
    (found : program.class? name = some decl) : decl.name = name ∧ decl ∈ program.classes := by
  refine ⟨?_, List.mem_of_find?_eq_some found⟩
  simpa using List.find?_some found

theorem Machine.methodNamed_eq_ok {context : Context} {line : Nat} {name className : String} {method : Method}
    {start final : State} (ended : (methodNamed context line name).run start = .ok (method, className) final) :
    context.Declares method className := by
  obtain ⟨found, middle, -, ended⟩ := run_bind_eq_ok.mp ended
  split at ended
  · next selected there =>
      cases ended
      obtain ⟨decl, present, chosen⟩ := Option.bind_eq_some_iff.mp there
      exact ⟨decl, name, present, chosen⟩
  · cases ended

theorem Machine.methodNamed_eq_error {context : Context} {line : Nat} {name : String} {failure : Failure}
    {start final : State} (ended : (methodNamed context line name).run start = .error failure final) :
    failure.Benign := by
  rcases run_bind_eq_error.mp ended with ended | ⟨className, middle, -, ended⟩
  · obtain ended | ⟨seen, middle, -, ended⟩ := run_bind_eq_error.mp ended
    · cases ended
    · split at ended <;> cases ended
  · split at ended
    · cases ended
    · cases ended
      trivial

theorem Machine.methodOf_eq_ok {context : Context} {line : Nat} {receiver : Value} {name className : String}
    {method : Method} {start final : State}
    (ended : (methodOf context line receiver name).run start = .ok (method, className) final) :
    context.Declares method className := by
  unfold methodOf at ended
  split at ended
  · obtain ⟨nothing, middle, ended, -⟩ := run_bind_eq_ok.mp ended
    cases ended
  · obtain ⟨⟨handle, cell⟩, middle, -, ended⟩ := run_bind_eq_ok.mp ended
    cases cell with
    | array elementType values => cases ended
    | object owner fields =>
        dsimp only at ended
        split at ended
        · next selected there =>
            cases ended
            obtain ⟨decl, present, chosen⟩ := Option.bind_eq_some_iff.mp there
            exact ⟨decl, name, present, chosen⟩
        · cases ended

namespace Slot

variable {start final : State} {slot : Slot} {container index : Value} {name : String}

theorem memberOf_of_ofName {line : Nat} (ended : (ofName name).run start = .ok slot final) :
    slot.MemberOf (.name line name) := by
  obtain ⟨state, _, -, ended⟩ := Machine.run_bind_eq_ok.mp ended
  obtain ⟨owner, _, -, ended⟩ := Machine.run_bind_eq_ok.mp ended
  cases ended
  exact nofun

theorem memberOf_of_ofField {line nameLine number : Nat} {object : Expr}
    (ended : (ofField number container name).run start = .ok slot final) :
    slot.MemberOf (.field line object nameLine name) := by
  obtain ⟨⟨handle, cell⟩, _, -, ended⟩ := Machine.run_bind_eq_ok.mp ended
  cases cell with
  | object className fields =>
      cases ended
      rintro _ _ ⟨⟩
      exact ⟨line, object, nameLine, rfl⟩
  | array elementType values =>
      dsimp only at ended
      split at ended
      · cases ended
        exact nofun
      · cases ended

theorem memberOf_of_ofIndex {number : Nat} {target : Expr}
    (ended : (ofIndex number container index).run start = .ok slot final) : slot.MemberOf target := by
  obtain ⟨⟨handle, cell⟩, _, -, ended⟩ := Machine.run_bind_eq_ok.mp ended
  cases cell with
  | object className fields => cases ended
  | array elementType values =>
      dsimp only at ended
      split at ended
      · cases ended
      · split at ended
        · cases ended
          exact nofun
        · obtain ⟨text, _, -, ended⟩ := Machine.run_bind_eq_ok.mp ended
          cases ended

end Slot

namespace Discipline

variable {context : Context} {D : Discipline context} {room : Nat} {start : State} (laws : D.Laws)
include laws

theorem finds_truth (state : State) (line : Nat) (value : Value) :
    D.Finds state (Machine.truth line value) fun _ => True := by
  refine ⟨fun _ _ _ => trivial, ?_⟩
  intro failure final ended
  cases value with
  | bool truth => cases ended
  | _ =>
      cases ended
      exact laws.benign trivial

theorem obeys_truth {free : Option Nat} (line : Nat) (value : Value) (ready : D.Ready room start) :
    D.Obeys free room start (Machine.truth line value) fun _ _ => True :=
  (Obeys.reading laws ready (.truth line value) (finds_truth laws start line value)).imp fun _ _ _ _ => trivial

theorem obeys_applyBinary {left right : Value} (line : Nat) (operator : String) (ready : D.Ready room start)
    (first : D.value start left) (second : D.value start right) :
    D.Obeys none room start (Machine.applyBinary context.options line operator left right) D.value := by
  refine .look ?_
  refine (Obeys.ofOutcome laws ready (laws.binary line operator ready first second)).seq laws ?_
  rintro result state - ⟨rfl, admitted⟩
  exact obeys_record_yield laws line none ready nofun fun _ follows => laws.value_mono follows.leads admitted

theorem obeys_applyUnary (line : Nat) (operator : String) (value : Value) (ready : D.Ready room start) :
    D.Obeys none room start (Machine.applyUnary context.options line operator value) D.value := by
  have accepts : D.Accepts (value.unary line operator) Value.IsPlain :=
    ⟨fun _ applied => Value.unary_isPlain applied, fun _ failed => laws.benign (Value.benign_of_unary failed)⟩
  refine (Obeys.ofOutcome laws ready accepts).seq laws ?_
  rintro result state - ⟨rfl, plain⟩
  exact obeys_record_yield laws line none ready nofun fun final _ => laws.plain final plain

theorem obeys_writeConsole {arguments : List Value} (line : Nat) (method : ConsoleMethod)
    (ready : D.Ready room start) (admitted : ∀ value ∈ arguments, D.value start value) :
    D.Obeys none room start (Machine.writeConsole context.options line method arguments) D.value := by
  refine .look ?_
  refine (Obeys.ofOutcome laws ready (laws.console method ready admitted)).seq laws ?_
  rintro output state - ⟨rfl, -⟩
  exact obeys_record_yield laws line (some output) ready nofun fun final _ => laws.plain final trivial

theorem obeys_storeCompound {slot : Slot} {current operand : Value} (line : Nat) (operator : String)
    (ready : D.Ready room start) (there : D.slot start slot) (held : D.value start current)
    (given : D.value start operand)
    (fitting : ∀ result narrowed,
      Value.binary start.heap line (compoundOperator operator) current operand = .ok result →
      current.narrowedLike result = .ok narrowed → D.content start slot narrowed) :
    D.Obeys none room start (Machine.storeCompound context.options line operator slot current operand) D.value := by
  refine .look ?_
  refine (Obeys.ofOutcome laws ready ((laws.binary line _ ready held given).also fun _ same => same)).seq laws ?_
  rintro result state - ⟨rfl, computed, applied⟩
  refine (Obeys.ofOutcome laws ready ((laws.narrowed current computed).also fun _ same => same)).seq laws ?_
  rintro narrowed same - ⟨rfl, admitted, cast⟩
  exact obeys_store laws line ready there admitted (fitting result narrowed applied cast)

theorem obeys_updateVariable (line : Nat) (form : UpdateForm) (operator name : String)
    (ready : D.Ready room start) :
    D.Obeys none room start (Machine.updateVariable context.options line form operator name) D.value := by
  refine .look ?_
  have there : D.slot start (.binding start.current name) := laws.here name ready
  refine (Obeys.reading laws ready (.read _) (laws.read ready there)).seq laws ?_
  rintro current state - ⟨rfl, held⟩
  have accepts : D.Accepts (current.stepped line operator) Value.IsPlain :=
    ⟨fun _ applied => Value.stepped_isPlain applied, fun _ failed => laws.benign (Value.benign_of_stepped failed)⟩
  refine (Obeys.ofOutcome laws ready accepts).seq laws ?_
  rintro next same - ⟨rfl, plain⟩
  have fitting := laws.updated same same.current name next
  refine (obeys_store laws line ready there (laws.plain same plain) fitting).seq laws ?_
  intro stored final follows kept
  refine .yields laws follows.ready ?_
  split
  · exact laws.value_mono follows.leads held
  · exact kept

theorem obeys_makeArray (line : Nat) {elementType : String} (size : Value) (known : D.element elementType)
    (ready : D.Ready room start) :
    D.Obeys none room start (Machine.makeArray context.options line elementType size) D.value := by
  unfold Machine.makeArray
  split
  · exact .failOn laws line _ ready
  · next length _ =>
      split
      · have accepts : D.Accepts (liftFault (Number.integerText length)) fun _ => True :=
          ⟨fun _ _ => trivial, fun _ failed => laws.benign (Number.benign_of_integerText failed)⟩
        refine (Obeys.ofOutcome laws ready accepts).seq laws ?_
        intro text state follows _
        exact .failOn laws line _ follows.ready
      · refine obeys_allocate laws line ready ⟨known, ?_⟩
        intro value member
        have same : value = Value.default elementType := (Array.mem_replicate.mp member).2
        rw [same]
        exact ⟨laws.plain start (Value.default_isPlain elementType), Value.default_fits elementType⟩

theorem obeys_makeObject {calls : Calls} (line : Nat) (className : String) (obeys : D.ObeysCalls room calls)
    (ready : D.Ready room start) :
    D.Obeys none room start (Machine.makeObject context calls line className) D.value := by
  unfold Machine.makeObject
  split
  · exact .failOn laws line _ ready
  · next decl found =>
      have named := (Program.class?_eq_some found).1
      refine (obeys.instantiate ready (by rw [named]; exact found)).seq laws ?_
      intro cell state follows made
      exact obeys_allocate laws line follows.ready made

omit laws in
def Evaluates (D : Discipline context) (room : Nat) (calls : Calls) (expression : Expr) : Prop :=
  ∀ start, D.Ready room start → D.Obeys none room start (expression.eval context calls) D.value

omit laws in
def Locates (D : Discipline context) (room : Nat) (calls : Calls) (expression : Expr) : Prop :=
  ∀ start, D.Ready room start → D.Obeys none room start (expression.locate context calls) fun final slot =>
    D.slot final slot ∧ slot.MemberOf expression

variable {calls : Calls}

omit laws in
theorem evaluates_of_body {expression : Expr} {body : Machine Value}
    (opens : expression.eval context calls = Machine.mark (.evaluating expression) >>= fun _ => body)
    (obeys : ∀ start, D.Ready room start → D.Obeys none room start body D.value) :
    D.Evaluates room calls expression := by
  intro start ready
  rw [opens]
  exact .mark_seq (List.suffix_refl _) (obeys start ready)

theorem evaluates_plain {expression : Expr} {value : Value}
    (opens : expression.eval context calls = Machine.mark (.evaluating expression) >>= fun _ => pure value)
    (plain : value.IsPlain) : D.Evaluates room calls expression :=
  evaluates_of_body opens fun start ready => .yields laws ready (laws.plain start plain)

theorem evaluates_binary {left right : Expr} (line : Nat) (operator : String)
    (first : D.Evaluates room calls left) (second : D.Evaluates room calls right) :
    D.Evaluates room calls (.binary line left operator right) := by
  refine evaluates_of_body (Expr.eval.eq_def ..) fun start ready => ?_
  refine (first start ready).seq laws ?_
  intro leftValue middle follows held
  refine (second middle follows.ready).seq laws ?_
  intro rightValue state further given
  exact obeys_applyBinary laws line operator further.ready (laws.value_mono further.leads held) given

theorem evaluates_logical {left right : Expr} (line : Nat) (operator : String)
    (first : D.Evaluates room calls left) (second : D.Evaluates room calls right) :
    D.Evaluates room calls (.logical line left operator right) := by
  refine evaluates_of_body (Expr.eval.eq_def ..) fun start ready => ?_
  have finish : ∀ result state, D.Ready room state → D.Obeys none room state
      (Machine.record context.options line none none >>= fun _ => pure (Value.bool result)) D.value :=
    fun result state ready => obeys_record_yield laws line none ready (Option.some_ne_none _).symm fun final _ => laws.plain final trivial
  refine (first start ready).seq laws ?_
  intro leftValue middle follows _
  refine (obeys_truth laws left.line leftValue follows.ready).seq laws ?_
  intro decided state further _
  extract_lets finished
  split
  · refine (Obeys.yields laws further.ready trivial : D.Obeys none room state (pure decided) fun _ _ => True).seq laws ?_
    exact fun result after later _ => finish result after later.ready
  · refine (second state further.ready).seq laws ?_
    intro rightValue after later _
    refine (obeys_truth laws right.line rightValue later.ready).seq laws ?_
    exact fun result final last _ => finish result final last.ready

theorem evaluates_conditional {test consequent alternate : Expr} (line : Nat)
    (condition : D.Evaluates room calls test) (first : D.Evaluates room calls consequent)
    (second : D.Evaluates room calls alternate) :
    D.Evaluates room calls (.conditional line test consequent alternate) := by
  refine evaluates_of_body (Expr.eval.eq_def ..) fun start ready => ?_
  have finish : ∀ {branch : Expr}, D.Evaluates room calls branch → ∀ state, D.Ready room state →
      D.Obeys none room state
        (branch.eval context calls >>= fun value =>
          Machine.record context.options line none none >>= fun _ => pure value) D.value := by
    intro branch evaluates state ready
    refine (evaluates state ready).seq laws ?_
    intro value after follows held
    exact obeys_record_yield laws line none follows.ready (Option.some_ne_none _).symm fun _ later => laws.value_mono later.leads held
  refine (condition start ready).seq laws ?_
  intro testValue middle follows _
  refine (obeys_truth laws test.line testValue follows.ready).seq laws ?_
  intro decided state further _
  extract_lets finished
  split
  · exact finish first state further.ready
  · exact finish second state further.ready

theorem evaluates_assign {line : Nat} {target value : Expr} (obeys : D.ObeysCalls room calls)
    (known : D.node (.assign line target value))
    (located : D.Locates room calls target) (evaluated : D.Evaluates room calls value) :
    D.Evaluates room calls (.assign line target value) := by
  refine evaluates_of_body (Expr.eval.eq_def ..) fun start ready => ?_
  refine (located start ready).seq laws ?_
  rintro slot middle follows ⟨there, denoted⟩
  refine (evaluated middle follows.ready).also.seq laws ?_
  rintro newValue state further ⟨given, ended, watched⟩
  have marked := watched _ _ (value.marks_eval context calls middle)
  rw [obeys.within] at ended
  exact obeys_store laws line further.ready (laws.slot_mono further.leads further.restores.size there) given
    (laws.assigned known denoted marked ended)

theorem evaluates_compound {line : Nat} {operator : String} {target value : Expr}
    (known : D.node (.compound line target operator value)) (located : D.Locates room calls target)
    (evaluated : D.Evaluates room calls value) : D.Evaluates room calls (.compound line target operator value) := by
  refine evaluates_of_body (Expr.eval.eq_def ..) fun start ready => ?_
  refine (located start ready).seq laws ?_
  rintro slot middle follows ⟨there, denoted⟩
  have reads : ∀ current final, slot.read.run middle = .ok current final → slot.read.run middle = .ok current middle := by
    intro current final ended
    rw [(Machine.ReadsOnly.read slot).state_of_ok ended] at ended
    exact ended
  have finds := (laws.read follows.ready there).also reads
  refine (Obeys.reading laws follows.ready (.read slot) finds).seq laws ?_
  rintro current same - ⟨rfl, held, read⟩
  refine (evaluated same follows.ready).seq laws ?_
  intro operand state further given
  have still := laws.slot_mono further.leads further.restores.size there
  refine obeys_storeCompound laws line operator further.ready still (laws.value_mono further.leads held) given ?_
  intro result narrowed applied cast
  exact laws.compounded known denoted follows.ready read further.leads applied cast

theorem locates_field {object : Expr} (line nameLine : Nat) (name : String)
    (evaluated : D.Evaluates room calls object) : D.Locates room calls (.field line object nameLine name) := by
  intro start ready
  rw [Expr.locate.eq_2]
  refine (evaluated start ready).seq laws ?_
  intro container state follows held
  exact .finding laws follows.ready (.ofField line container name)
    ((laws.ofField line name follows.ready held).also fun _ _ => Slot.memberOf_of_ofField)

theorem locates_index {object position : Expr} (line : Nat) (evaluated : D.Evaluates room calls object)
    (numbered : D.Evaluates room calls position) : D.Locates room calls (.index line object position) := by
  intro start ready
  rw [Expr.locate.eq_3]
  refine (evaluated start ready).seq laws ?_
  intro container middle follows held
  refine (numbered middle follows.ready).seq laws ?_
  intro index state further given
  have still := laws.value_mono further.leads held
  exact .finding laws further.ready (.ofIndex line container index)
    ((laws.ofIndex line further.ready still given).also fun _ _ => Slot.memberOf_of_ofIndex)

theorem obeys_readSlot {slot : Slot} (ready : D.Ready room start) (there : D.slot start slot) :
    D.Obeys none room start slot.read D.value :=
  .finding laws ready (.read slot) (laws.read ready there)

theorem evaluates_field {object : Expr} (line nameLine : Nat) (name : String)
    (evaluated : D.Evaluates room calls object) : D.Evaluates room calls (.field line object nameLine name) := by
  refine evaluates_of_body (Expr.eval.eq_def ..) fun start ready => ?_
  refine (evaluated start ready).seq laws ?_
  intro container state follows held
  refine (Obeys.reading laws follows.ready (.ofField line container name)
    (laws.ofField line name follows.ready held)).seq laws ?_
  rintro slot same - ⟨rfl, there⟩
  exact obeys_readSlot laws follows.ready there

theorem evaluates_index {object position : Expr} (line : Nat) (evaluated : D.Evaluates room calls object)
    (numbered : D.Evaluates room calls position) : D.Evaluates room calls (.index line object position) := by
  refine evaluates_of_body (Expr.eval.eq_def ..) fun start ready => ?_
  refine (evaluated start ready).seq laws ?_
  intro container middle follows held
  refine (numbered middle follows.ready).seq laws ?_
  intro index state further given
  have still := laws.value_mono further.leads held
  refine (Obeys.reading laws further.ready (.ofIndex line container index)
    (laws.ofIndex line further.ready still given)).seq laws ?_
  rintro slot same - ⟨rfl, there⟩
  exact obeys_readSlot laws further.ready there

theorem obeys_evalAll {expressions : List Expr} (evaluated : ∀ expression ∈ expressions, D.Evaluates room calls expression)
    (ready : D.Ready room start) :
    D.Obeys none room start (Expr.evalAll context calls expressions) fun final values =>
      ∀ value ∈ values, D.value final value := by
  induction expressions generalizing start with
  | nil =>
      rw [Expr.evalAll.eq_1]
      exact .yields laws ready nofun
  | cons expression others hypothesis =>
      rw [Expr.evalAll.eq_2]
      refine (evaluated expression List.mem_cons_self start ready).seq laws ?_
      intro value middle follows held
      refine (hypothesis (fun other member => evaluated other (List.mem_cons_of_mem _ member)) follows.ready).seq laws ?_
      intro values state further rest
      refine .yields laws further.ready ?_
      exact List.forall_mem_cons.mpr ⟨laws.value_mono further.leads held, rest⟩

theorem obeys_evalElements {expressions : List Expr} (elementType : String)
    (evaluated : ∀ expression ∈ expressions, D.Evaluates room calls expression) (ready : D.Ready room start) :
    D.Obeys none room start (Expr.evalElements context calls elementType expressions) fun final values =>
      ∀ value ∈ values, D.value final value ∧ value.Fits (some elementType) := by
  induction expressions generalizing start with
  | nil =>
      rw [Expr.evalElements.eq_1]
      exact .yields laws ready nofun
  | cons expression others hypothesis =>
      rw [Expr.evalElements.eq_2]
      refine (evaluated expression List.mem_cons_self start ready).seq laws ?_
      intro value middle follows held
      have accepts : D.Accepts (value.coerce (some elementType)) fun stored =>
          D.value middle stored ∧ stored.Fits (some elementType) :=
        ⟨fun stored coerced => ⟨(laws.coerced _ held).1 stored coerced, Value.fits_of_coerce coerced⟩,
          (laws.coerced _ held).2⟩
      refine (Obeys.ofOutcome laws follows.ready accepts).seq laws ?_
      rintro stored same - ⟨rfl, kept, fits⟩
      refine (hypothesis (fun other member => evaluated other (List.mem_cons_of_mem _ member)) follows.ready).seq laws ?_
      intro values state further rest
      refine .yields laws further.ready ?_
      exact List.forall_mem_cons.mpr ⟨⟨laws.value_mono further.leads kept, fits⟩, rest⟩

theorem obeys_arrayOf {values : List Expr} (line : Nat) {elementType : String} (known : D.element elementType)
    (evaluated : ∀ value ∈ values, D.Evaluates room calls value) (ready : D.Ready room start) :
    D.Obeys none room start
      (Expr.evalElements context calls elementType values >>= fun items =>
        Machine.allocate context.options line (.array elementType items.toArray)) D.value := by
  refine (obeys_evalElements laws elementType evaluated ready).seq laws ?_
  intro items state follows admitted
  refine obeys_allocate laws line follows.ready ⟨known, ?_⟩
  intro item member
  exact admitted item (List.mem_toArray.mp member)

theorem obeys_arguments {arguments : List Expr} {method : Method} {className : String} (line : Nat)
    (obeys : D.ObeysCalls room calls) (evaluated : ∀ argument ∈ arguments, D.Evaluates room calls argument)
    (declared : context.Declares method className) (ready : D.Ready room start) :
    D.Obeys none room start
      (Expr.evalAll context calls arguments >>= fun values => calls.invoke method className values line)
      D.value := by
  refine (obeys_evalAll laws evaluated ready).seq laws ?_
  intro values state follows admitted
  exact obeys.invoke line follows.ready declared admitted

theorem evaluates_call {callee : Expr} {arguments : List Expr} (line : Nat) (obeys : D.ObeysCalls room calls)
    (receiver : ∀ fieldLine object nameLine name, callee = .field fieldLine object nameLine name →
      D.Evaluates room calls object)
    (evaluated : ∀ argument ∈ arguments, D.Evaluates room calls argument) :
    D.Evaluates room calls (.call line callee arguments) := by
  refine evaluates_of_body (Expr.eval.eq_def ..) fun start ready => ?_
  dsimp only
  split
  · split
    · exact .failOn laws line _ ready
    · next method _ =>
        refine (obeys_evalAll laws evaluated ready).seq laws ?_
        intro values state follows admitted
        exact obeys_writeConsole laws line method follows.ready admitted
  · split
    · next symbol _ =>
        have finds : D.Finds start (Machine.methodNamed context line symbol) fun found =>
            context.Declares found.1 found.2 :=
          ⟨fun _ _ ended => Machine.methodNamed_eq_ok ended,
            fun _ _ ended => laws.benign (Machine.methodNamed_eq_error ended)⟩
        refine (Obeys.reading laws ready (.methodNamed context line symbol) finds).seq laws ?_
        rintro ⟨method, className⟩ same - ⟨rfl, declared⟩
        exact obeys_arguments laws line obeys evaluated declared ready
    · next fieldLine object nameLine symbol _ =>
        refine (receiver fieldLine object nameLine symbol rfl start ready).seq laws ?_
        intro value state follows held
        have finds : D.Finds state (Machine.methodOf context line value symbol) fun found =>
            context.Declares found.1 found.2 :=
          ⟨fun _ _ ended => Machine.methodOf_eq_ok ended, (laws.methodOf line symbol follows.ready held).2⟩
        refine (Obeys.reading laws follows.ready (.methodOf context line value symbol) finds).seq laws ?_
        rintro ⟨method, className⟩ same - ⟨rfl, declared⟩
        exact obeys_arguments laws line obeys evaluated declared follows.ready
    · exact .failOn laws line _ ready

theorem evaluates_literalChar {line : Nat} {raw : String} (known : D.node (.char line raw)) :
    D.Evaluates room calls (.char line raw) := by
  refine evaluates_of_body (Expr.eval.eq_def ..) fun start ready => ?_
  exact .finding laws ready (.literalChar raw) (laws.character start known)

theorem evaluates_name (line : Nat) (name : String) : D.Evaluates room calls (.name line name) := by
  refine evaluates_of_body (Expr.eval.eq_def ..) fun start ready => ?_
  exact .finding laws ready (.lookup name) (laws.lookup name ready)

theorem locates_name (line : Nat) (name : String) : D.Locates room calls (.name line name) := by
  intro start ready
  rw [Expr.locate.eq_1]
  exact .finding laws ready (.ofName name) ((laws.ofName name ready).also fun _ _ => Slot.memberOf_of_ofName)

theorem locates_nothing {expression : Expr}
    (refused : expression.locate context calls = Machine.failOn expression.line .invalidTarget) :
    D.Locates room calls expression := by
  intro start ready
  rw [refused]
  exact .failOn laws _ _ ready

omit laws in
/-- What the induction over an expression carries. The object of a member access is evaluated by itself when the
access is what a call calls. -/
structure Treats (D : Discipline context) (room : Nat) (calls : Calls) (expression : Expr) : Prop where
  evaluates : D.Evaluates room calls expression
  locates : D.Locates room calls expression
  object : ∀ line object nameLine name, expression = .field line object nameLine name → D.Evaluates room calls object

theorem Treats.of_evaluates {expression : Expr} (evaluates : D.Evaluates room calls expression)
    (refused : expression.locate context calls = Machine.failOn expression.line .invalidTarget)
    (other : expression.isTarget = false) : D.Treats room calls expression := by
  refine ⟨evaluates, locates_nothing laws refused, ?_⟩
  rintro line object nameLine name rfl
  cases other

/-- Every expression whose parts are known of is evaluated as the discipline demands. -/
theorem treats_expression (obeys : D.ObeysCalls room calls) (expression : Expr)
    (known : ∀ part ∈ expression.parts, D.node part) : D.Treats room calls expression := by
  -- One case for each form of expression; every form but names, fields and elements is refused as a target.
  induction expression using Expr.induction with
  | int | double | bool | null =>
      exact .of_evaluates laws (evaluates_plain laws (Expr.eval_literal rfl) trivial) (Expr.locate.eq_def ..) rfl
  | string line raw =>
      have admitted : D.node (.string line raw) := known _ (by simp [Expr.parts])
      refine .of_evaluates laws ?_ (Expr.locate.eq_def ..) rfl
      exact evaluates_of_body (Expr.eval_literal rfl) fun start ready => .yields laws ready (laws.text start admitted)
  | char line raw =>
      have admitted : D.node (.char line raw) := known _ (by simp [Expr.parts])
      exact .of_evaluates laws (evaluates_literalChar laws admitted) (Expr.locate.eq_def ..) rfl
  | name line symbol =>
      refine ⟨evaluates_name laws line symbol, locates_name laws line symbol, ?_⟩
      rintro _ _ _ _ ⟨⟩
  | binary line left operator right first second =>
      simp only [Expr.parts, List.forall_mem_cons, List.forall_mem_append] at known
      have evaluates := evaluates_binary laws line operator (first known.2.1).evaluates (second known.2.2).evaluates
      exact .of_evaluates laws evaluates (Expr.locate.eq_def ..) rfl
  | logical line left operator right first second =>
      simp only [Expr.parts, List.forall_mem_cons, List.forall_mem_append] at known
      have evaluates := evaluates_logical laws line operator (first known.2.1).evaluates (second known.2.2).evaluates
      exact .of_evaluates laws evaluates (Expr.locate.eq_def ..) rfl
  | unary line operator argument hypothesis =>
      simp only [Expr.parts, List.forall_mem_cons] at known
      refine .of_evaluates laws ?_ (Expr.locate.eq_def ..) rfl
      refine evaluates_of_body (Expr.eval.eq_def ..) fun start ready => ?_
      refine ((hypothesis known.2).evaluates start ready).seq laws ?_
      exact fun value state follows _ => obeys_applyUnary laws line operator value follows.ready
  | conditional line test consequent alternate condition first second =>
      simp only [Expr.parts, List.forall_mem_cons, List.forall_mem_append] at known
      have evaluates := evaluates_conditional laws line (condition known.2.1.1).evaluates
        (first known.2.1.2).evaluates (second known.2.2).evaluates
      exact .of_evaluates laws evaluates (Expr.locate.eq_def ..) rfl
  | assign line target value located evaluated =>
      simp only [Expr.parts, List.forall_mem_cons, List.forall_mem_append] at known
      have evaluates := evaluates_assign laws obeys known.1 (located known.2.1).locates (evaluated known.2.2).evaluates
      exact .of_evaluates laws evaluates (Expr.locate.eq_def ..) rfl
  | compound line target operator value located evaluated =>
      simp only [Expr.parts, List.forall_mem_cons, List.forall_mem_append] at known
      have evaluates := evaluates_compound laws known.1 (located known.2.1).locates (evaluated known.2.2).evaluates
      exact .of_evaluates laws evaluates (Expr.locate.eq_def ..) rfl
  | field line object nameLine name hypothesis =>
      simp only [Expr.parts, List.forall_mem_cons] at known
      have evaluated := (hypothesis known.2).evaluates
      refine ⟨evaluates_field laws line nameLine name evaluated, locates_field laws line nameLine name evaluated, ?_⟩
      intro _ other _ _ same
      cases same
      exact evaluated
  | index line object position evaluated numbered =>
      simp only [Expr.parts, List.forall_mem_cons, List.forall_mem_append] at known
      have container := (evaluated known.2.1).evaluates
      have index := (numbered known.2.2).evaluates
      refine ⟨evaluates_index laws line container index, locates_index laws line container index, ?_⟩
      rintro _ _ _ _ ⟨⟩
  | call line callee arguments called given =>
      simp only [Expr.parts, List.forall_mem_cons, List.forall_mem_append] at known
      have evaluates := evaluates_call laws line obeys (called known.2.1).object
        fun argument member => (given argument member (Expr.forall_mem_partsAll.mp known.2.2 _ member)).evaluates
      exact .of_evaluates laws evaluates (Expr.locate.eq_def ..) rfl
  | create line className =>
      refine .of_evaluates laws ?_ (Expr.locate.eq_def ..) rfl
      exact evaluates_of_body (Expr.eval.eq_def ..) fun start ready => obeys_makeObject laws line className obeys ready
  | newArray line elementType size hypothesis =>
      simp only [Expr.parts, List.forall_mem_cons] at known
      refine .of_evaluates laws ?_ (Expr.locate.eq_def ..) rfl
      refine evaluates_of_body (Expr.eval.eq_def ..) fun start ready => ?_
      refine ((hypothesis known.2).evaluates start ready).seq laws ?_
      exact fun value state follows _ => obeys_makeArray laws line value (laws.sized known.1) follows.ready
  | arrayOf line elementType values hypothesis =>
      simp only [Expr.parts, List.forall_mem_cons] at known
      refine .of_evaluates laws ?_ (Expr.locate.eq_def ..) rfl
      refine evaluates_of_body (Expr.eval.eq_def ..) fun start ready => ?_
      refine obeys_arrayOf laws line (laws.listed known.1) ?_ ready
      exact fun value member => (hypothesis value member (Expr.forall_mem_partsAll.mp known.2 _ member)).evaluates
  | update line form operator nameLine name =>
      refine .of_evaluates laws ?_ (Expr.locate.eq_def ..) rfl
      exact evaluates_of_body (Expr.eval.eq_def ..) fun start ready =>
        obeys_updateVariable laws line form operator name ready

end Discipline

end Stepwise
