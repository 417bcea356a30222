import ScriptStudio.Machine.Run

/-!
# Steps of the machine

How steps that end in a known way go on, and a call taken apart into what happens before its body
and what happens after it.
-/

namespace ScriptStudio

namespace Machine

section

variable {α β : Type} {step : Exec α} {machine after : Machine}

theorem bind_of_ok {a : α} (h : step machine = .ok a after) (next : α → Exec β) :
    (step >>= next) machine = next a after := by
  show EStateM.bind step next machine = next a after
  rw [EStateM.bind, h]

theorem bind_of_error {stop : Stop} (h : step machine = .error stop after) (next : α → Exec β) :
    (step >>= next) machine = .error stop after := by
  show EStateM.bind step next machine = .error stop after
  rw [EStateM.bind, h]

theorem bind_eq_ok_iff {next : α → Exec β} {b : β} :
    (step >>= next) machine = .ok b after ↔
      ∃ a middle, step machine = .ok a middle ∧ next a middle = .ok b after := by
  cases h : step machine with
  | ok a middle =>
    rw [bind_of_ok h]
    constructor
    · intro hnext
      exact ⟨a, middle, rfl, hnext⟩
    · rintro ⟨_, _, ⟨⟩, hnext⟩
      exact hnext
  | error stop middle =>
    rw [bind_of_error h]
    simp

end

theorem assign_apply (name : String) (value : Value) (machine : Machine) :
    assign name value machine =
      .ok () { machine with store := machine.store.set name value } := rfl

theorem lookup_apply (name : String) (machine : Machine) :
    lookup name machine =
      match machine.store.get? name with
      | some value => .ok value machine
      | none => .error (.fault (.undefinedVariable name)) machine := by
  show (match machine.store.get? name with
    | some value => (pure value : Exec Value)
    | none => throw (Stop.fault (.undefinedVariable name))) machine = _
  cases machine.store.get? name <;> rfl

theorem lookupFunction_apply (name : String) (machine : Machine) :
    lookupFunction name machine =
      match machine.functions.get? name with
      | some function => .ok function machine
      | none => .error (.fault (.undefinedFunction name)) machine := by
  show (match machine.functions.get? name with
    | some function => (pure function : Exec Function)
    | none => throw (Stop.fault (.undefinedFunction name))) machine = _
  cases machine.functions.get? name <;> rfl

section

variable {machine : Machine} {line : String} {rest : List String}

theorem ask_of_line (hinput : machine.input = .lines (line :: rest)) (hline : line ≠ breakLine)
    (prompt : String) :
    ask prompt machine = .ok (.text line)
      { machine with screen := machine.screen ++ prompt, input := .lines rest } := by
  obtain ⟨store, functions, record, screen, input, asked, returning, returned⟩ := machine
  obtain rfl : input = .lines (line :: rest) := hinput
  show (if line = breakLine then throw .interrupted else pure (.text line) : Exec Value) _ = _
  rw [if_neg hline]
  rfl

theorem ask_of_break (hinput : machine.input = .lines (breakLine :: rest)) (prompt : String) :
    ask prompt machine = .error .interrupted
      { machine with screen := machine.screen ++ prompt, input := .lines rest } := by
  obtain ⟨store, functions, record, screen, input, asked, returning, returned⟩ := machine
  obtain rfl : input = .lines (breakLine :: rest) := hinput
  rfl

theorem ask_of_end (hinput : machine.input = .lines []) (prompt : String) :
    ask prompt machine = .error .endOfInput
      { machine with screen := machine.screen ++ prompt } := by
  obtain ⟨store, functions, record, screen, input, asked, returning, returned⟩ := machine
  obtain rfl : input = .lines [] := hinput
  rfl

end

/-! ## What a step leaves alone -/

/-- The machine that a run leaves, however it ends. -/
def left {α : Type} : EStateM.Result Stop Machine α → Machine
  | .ok _ machine => machine
  | .error _ machine => machine

/-- A step leaves alone what a view shows of the machine. -/
def Spares {α γ : Type} (view : Machine → γ) (step : Exec α) : Prop :=
  ∀ machine, view (left (step machine)) = view machine

section

variable {α β γ : Type} {view : Machine → γ}

variable {step : Exec α}

theorem Spares.of_ok (hstep : Spares view step) {machine after : Machine} {a : α}
    (h : step machine = .ok a after) : view after = view machine := by
  have hspared := hstep machine
  rw [h] at hspared
  exact hspared

theorem Spares.pure (a : α) : Spares view (pure a) := fun _ => rfl

theorem Spares.throw (stop : Stop) : Spares view (throw stop : Exec α) := fun _ => rfl

theorem Spares.modify {change : Machine → Machine}
    (hchange : ∀ machine, view (change machine) = view machine) : Spares view (modify change) :=
  hchange

theorem Spares.bind {next : α → Exec β} (hstep : Spares view step)
    (hnext : ∀ a, Spares view (next a)) : Spares view (step >>= next) := by
  intro machine
  have hspared := hstep machine
  cases h : step machine with
  | ok a after =>
    rw [h] at hspared
    rw [bind_of_ok h, hnext a after]
    exact hspared
  | error stop after =>
    rw [h] at hspared
    rw [bind_of_error h]
    exact hspared

theorem Spares.ite {condition : Prop} [Decidable condition] {other : Exec α}
    (hstep : Spares view step) (hother : Spares view other) :
    Spares view (if condition then step else other) := by
  split
  · exact hstep
  · exact hother

theorem Spares.lift (result : Except Stop α) : Spares view (lift result) := by
  cases result with
  | ok a => exact Spares.pure a
  | error stop => exact Spares.throw stop

theorem Spares.lookup (name : String) : Spares view (lookup name) := by
  intro machine
  rw [lookup_apply]
  cases machine.store.get? name <;> rfl

theorem Spares.lookupFunction (name : String) : Spares view (lookupFunction name) := by
  intro machine
  rw [lookupFunction_apply]
  cases machine.functions.get? name <;> rfl

theorem Spares.assign (hstore : ∀ machine store, view { machine with store := store } =
      view machine) (name : String) (value : Value) : Spares view (assign name value) :=
  fun machine => hstore machine _

theorem Spares.define (hfunctions : ∀ machine functions,
      view { machine with functions := functions } = view machine) (function : Function) :
    Spares view (define function) :=
  fun machine => hfunctions machine _

theorem Spares.say (hscreen : ∀ machine screen, view { machine with screen := screen } =
      view machine) (hrecord : ∀ machine record, view { machine with record := record } =
      view machine) (line : String) : Spares view (say line) :=
  Spares.bind (Spares.bind (Spares.modify fun machine => hscreen machine _)
    fun _ => Spares.modify fun machine => hscreen machine _)
    fun _ => Spares.modify fun machine => hrecord machine _

theorem Spares.ask (hscreen : ∀ machine screen, view { machine with screen := screen } =
      view machine) (hinput : ∀ machine input asked,
      view { machine with input := input, asked := asked } = view machine) (prompt : String) :
    Spares view (ask prompt) := by
  refine Spares.bind (fun _ => rfl) fun machine => ?_
  rcases machine.input with (_ | ⟨line, rest⟩) | pending
  · exact Spares.bind (Spares.modify fun machine => hscreen machine _) fun _ => Spares.throw _
  · exact Spares.bind (Spares.modify fun machine => hscreen machine _) fun _ =>
      Spares.bind (Spares.modify fun machine => hinput machine _ _) fun _ =>
        Spares.ite (Spares.throw _) (Spares.pure _)
  · exact Spares.bind (Spares.modify fun machine => hinput machine _ _) fun _ => Spares.pure _

end

/-! ## Counting loops -/

/-- The value of an expression that may be left out. -/
def evalOption (fuel : Nat) (absent : Value) : Option Expr → Exec Value
  | none => pure absent
  | some e => eval fuel e

/-- A counting loop whose three numbers have their values. -/
def countLoop (fuel : Nat) (name : String) (body : Stmt) (start stop step : Value) : Exec Unit :=
  match start.toNumeric.number?, stop.toNumeric.number?, step.toNumeric.number? with
  | some first, some last, some stride => do
    assign name start.toNumeric
    if stride.isPositive || stride.isNegative then
      execCount fuel ⟨name, last, stride⟩ body first
    else throw (.fault .loopStepZero)
  | _, _, _ => throw (.fault .loopNotNumeric)

theorem exec_give (fuel : Nat) (e : Option Expr) :
    exec (fuel + 1) (.give e) = (do
      let value ← evalOption fuel .nothing e
      modify fun machine => { machine with returning := true, returned := value }) := by
  cases e <;> rfl

theorem exec_count (fuel : Nat) (name : String) (start stop : Expr) (step : Option Expr)
    (body : Stmt) :
    exec (fuel + 1) (.count name start stop step body) = (do
      let first ← eval fuel start
      let last ← eval fuel stop
      let stride ← evalOption fuel (.int 1) step
      countLoop fuel name body first last stride) := by
  cases step <;> rfl

/-! ## Calls -/

/-- The start of a call: finds the function, binds its parameters and takes back the marks. -/
def enter (fuel : Nat) (name : String) (arguments : List Expr) : Exec Function := do
  let function ← lookupFunction name
  if arguments.length ≠ function.parameters.length then
    throw (.fault (.wrongArity name function.parameters.length arguments.length))
  else
    bindArguments fuel function.parameters arguments
    modify fun machine => { machine with returning := false, returned := .nothing }
    return function

/-- The end of a call: gives what was returned and puts variables back. -/
def leave (saved : Bindings Value) : Exec Value := do
  let machine ← get
  modify fun machine => { machine with store := saved, returning := false }
  return machine.returned

/-- A call enters its function, executes the body and leaves. -/
theorem call_succ_apply (fuel : Nat) (name : String) (arguments : List Expr) (machine : Machine) :
    call (fuel + 1) name arguments machine =
      (enter fuel name arguments >>= fun function =>
        exec fuel function.body >>= fun _ => leave machine.store) machine := by
  rw [call, enter]
  cases hfound : machine.functions.get? name with
  | none =>
    have hlookup : lookupFunction name machine =
        .error (.fault (.undefinedFunction name)) machine := by
      rw [lookupFunction_apply, hfound]
    rw [bind_assoc, bind_of_error hlookup, bind_of_error hlookup]
  | some function =>
    have hlookup : lookupFunction name machine = .ok function machine := by
      rw [lookupFunction_apply, hfound]
    rw [bind_assoc, bind_of_ok hlookup, bind_of_ok hlookup]
    split
    · rfl
    · simp only [bind_assoc, pure_bind]
      rfl

/-- The register is empty when a body begins. -/
theorem returned_of_enter {fuel : Nat} {name : String} {arguments : List Expr}
    {machine start : Machine} {function : Function}
    (h : enter fuel name arguments machine = .ok function start) : start.returned = .nothing := by
  obtain ⟨found, middle, -, hrest⟩ := bind_eq_ok_iff.mp h
  split at hrest
  · cases hrest
  · obtain ⟨_, bound, -, hmarks⟩ := bind_eq_ok_iff.mp hrest
    cases hmarks
    rfl

theorem call_eq_ok_iff {fuel : Nat} {name : String} {arguments : List Expr}
    {machine after : Machine} {value : Value} :
    call (fuel + 1) name arguments machine = .ok value after ↔
      ∃ function start ended, enter fuel name arguments machine = .ok function start ∧
        exec fuel function.body start = .ok () ended ∧ value = ended.returned ∧
        after = { ended with store := machine.store, returning := false } := by
  rw [call_succ_apply]
  constructor
  · intro h
    obtain ⟨function, start, hstart, hbody⟩ := bind_eq_ok_iff.mp h
    obtain ⟨_, ended, hended, hleave⟩ := bind_eq_ok_iff.mp hbody
    cases hleave
    exact ⟨function, start, ended, hstart, hended, rfl, rfl⟩
  · rintro ⟨function, start, ended, hstart, hended, rfl, rfl⟩
    rw [bind_of_ok hstart, bind_of_ok hended]
    rfl

end Machine

end ScriptStudio
