import ScriptStudio.Proofs.Agreement

/-!
# Returns that jump

The machine executes a return by setting a mark, and the blocks around it skip what is left of
them. This module has a second evaluator, in which a return is a jump out of the body of its
function and nothing looks at the mark, and shows that the two cannot be told apart by a call as
long as no function has a loop.

* `Body`, `earlyEval`, `earlyCall`, `earlyExec`: the evaluator whose returns jump.
* `Stmt.isLoopFree`, `LoopFree`: no function has a loop, and none that it defines.
* `Near`: machines that differ at most in the mark, with a say on the mark of the first.
* `Follows`: a statement that sets the mark and one that jumps.
* `early`: the simulation, by induction on fuel.
-/

namespace ScriptStudio

mutual

/-- There is no loop in the statement, nor in the functions that it defines. -/
def Stmt.isLoopFree : Stmt → Bool
  | .block body => Stmt.areLoopFree body
  | .define _ _ body => body.isLoopFree
  | .branch _ thenBranch elseBranch => thenBranch.isLoopFree && Stmt.optionIsLoopFree elseBranch
  | .loop _ _ => false
  | .count _ _ _ _ _ => false
  | _ => true

/-- There is no loop in several statements. -/
def Stmt.areLoopFree : List Stmt → Bool
  | [] => true
  | s :: rest => s.isLoopFree && Stmt.areLoopFree rest

/-- There is no loop in a statement that may be left out. -/
def Stmt.optionIsLoopFree : Option Stmt → Bool
  | none => true
  | some s => s.isLoopFree

end

namespace Machine

/-! ## The evaluator whose returns jump -/

/-- Part of the body of a function. A return abandons it, with all that is left of the body. -/
abbrev Body := ExceptT Unit Exec

namespace Body

/-- A step that is no return. -/
def act {α : Type} (step : Exec α) : Body α := ExceptT.lift step

/-- Jumps out of the body. -/
def abandon : Body Unit := throw ()

end Body

open Body

mutual

/-- The value of an expression. -/
def earlyEval : (fuel : Nat) → Expr → Exec Value
  | 0, _ => throw .exhausted
  | fuel + 1, e =>
    match e with
    | .literal _ value => return value
    | .reference name => lookup name
    | .binary left op right => do
      let leftValue ← earlyEval fuel left
      let rightValue ← earlyEval fuel right
      lift (Value.binary op leftValue rightValue)
    | .unary op operand => do
      let value ← earlyEval fuel operand
      lift (Value.unary op value)
    | .group inner => earlyEval fuel inner
    | .input prompt => do
      let value ← earlyEval fuel prompt
      ask (← textOf value)
    | .call name arguments => earlyCall fuel name arguments
    | .unknown node => throw (.fault (.unknownExpression node.kindName))

/-- The value of a call. The body ends at its end or at a return, which is all the same here. -/
def earlyCall : (fuel : Nat) → String → List Expr → Exec Value
  | 0, _, _ => throw .exhausted
  | fuel + 1, name, arguments => do
    let function ← lookupFunction name
    if arguments.length ≠ function.parameters.length then
      throw (.fault (.wrongArity name function.parameters.length arguments.length))
    let saved := (← get).store
    earlyArguments fuel function.parameters arguments
    modify fun machine => { machine with returned := .nothing }
    let _ ← (earlyExec fuel function.body).run
    let result := (← get).returned
    modify fun machine => { machine with store := saved }
    return result

/-- Evaluates arguments from left to right and binds each parameter as soon as it has its value. -/
def earlyArguments : (fuel : Nat) → List String → List Expr → Exec Unit
  | 0, _, _ => throw .exhausted
  | fuel + 1, parameter :: parameters, argument :: arguments => do
    assign parameter (← earlyEval fuel argument)
    earlyArguments fuel parameters arguments
  | _ + 1, _, _ => return ()

/-- Executes a statement. A return leaves its value and jumps. -/
def earlyExec : (fuel : Nat) → Stmt → Body Unit
  | 0, _ => act (throw .exhausted)
  | fuel + 1, statement =>
    match statement with
    | .say e => do
      let value ← act (earlyEval fuel e)
      let line ← act (textOf value)
      act (say line)
    | .assign name e => do
      let value ← act (earlyEval fuel e)
      act (assign name value)
    | .block body => earlyBlock fuel body
    | .define name parameters body => act (define ⟨name, parameters, body⟩)
    | .give e => do
      let value ←
        match e with
        | some e => act (earlyEval fuel e)
        | none => pure .nothing
      act (modify fun machine => { machine with returned := value })
      abandon
    | .branch condition thenBranch elseBranch => do
      let value ← act (earlyEval fuel condition)
      if value.isTruthy then earlyExec fuel thenBranch
      else
        match elseBranch with
        | some elseBranch => earlyExec fuel elseBranch
        | none => return ()
    | .loop condition body => earlyLoop fuel condition body
    | .count name start stop step body => do
      let start ← act (earlyEval fuel start)
      let stop ← act (earlyEval fuel stop)
      let step ←
        match step with
        | some step => act (earlyEval fuel step)
        | none => pure (.int 1)
      match start.toNumeric.number?, stop.toNumeric.number?, step.toNumeric.number? with
      | some first, some last, some stride =>
        act (assign name start.toNumeric)
        if stride.isPositive || stride.isNegative then
          earlyCount fuel ⟨name, last, stride⟩ body first
        else act (throw (.fault .loopStepZero))
      | _, _, _ => act (throw (.fault .loopNotNumeric))
    | .unknown node => act (throw (.fault (.unknownStatement node.kindName)))

/-- Executes statements one after the other. -/
def earlyBlock : (fuel : Nat) → List Stmt → Body Unit
  | 0, _ => act (throw .exhausted)
  | _ + 1, [] => return ()
  | fuel + 1, statement :: rest => do
    earlyExec fuel statement
    earlyBlock fuel rest

/-- Executes a body while a condition holds. -/
def earlyLoop : (fuel : Nat) → Expr → Stmt → Body Unit
  | 0, _, _ => act (throw .exhausted)
  | fuel + 1, condition, body => do
    let value ← act (earlyEval fuel condition)
    if value.isTruthy then
      earlyExec fuel body
      earlyLoop fuel condition body
    else return ()

/-- Executes a body for every value of the counter from the current one on. -/
def earlyCount : (fuel : Nat) → Count → Stmt → Number → Body Unit
  | 0, _, _, _ => act (throw .exhausted)
  | fuel + 1, count, body, current => do
    if count.continues current then
      earlyExec fuel body
      let next ← act (lift ((current.add count.step).mapError .number))
      act (assign count.name (.ofNumber next))
      earlyCount fuel count body next
    else return ()

end

/-- The value of an expression that may be left out. -/
def earlyOption (fuel : Nat) (absent : Value) : Option Expr → Exec Value
  | none => pure absent
  | some e => earlyEval fuel e

theorem earlyExec_give (fuel : Nat) (e : Option Expr) :
    earlyExec (fuel + 1) (.give e) = (do
      let value ← act (earlyOption fuel .nothing e)
      act (modify fun machine => { machine with returned := value })
      abandon) := by
  cases e <;> rfl

/-! ## Machines that differ in the mark -/

/-- No function has a loop, and none that it defines. -/
def LoopFree (machine : Machine) : Prop :=
  ∀ name function, machine.functions.get? name = some function → function.body.isLoopFree = true

/-- The machines differ at most in the mark of a return. -/
def SameButMark (machine other : Machine) : Prop :=
  ∃ mark, other = { machine with returning := mark }

/-- The machines differ at most in the mark of a return, the first has a mark that is allowed, and
their functions have no loops. -/
structure Near (allowed : Bool → Prop) (machine other : Machine) : Prop where
  loopFree : machine.LoopFree
  mark : allowed machine.returning
  same : SameButMark machine other

/-- No mark is set, as it is while a body goes on. -/
abbrev Unmarked (mark : Bool) : Prop := mark = false

namespace Near

variable {allowed : Bool → Prop}

/-- Where no mark is set is allowed, unmarked machines are near. -/
theorem of_unmarked (hallowed : allowed false) {machine other : Machine}
    (h : Near Unmarked machine other) : Near allowed machine other :=
  ⟨h.loopFree, h.mark ▸ hallowed, h.same⟩

theorem modify {change : Machine → Machine}
    (hfunctions : ∀ machine, (change machine).functions = machine.functions)
    (hmark : ∀ machine, (change machine).returning = machine.returning)
    (hchange : ∀ machine mark, change { machine with returning := mark } =
      { change machine with returning := mark }) :
    Keeps (Near allowed) (modify change) := by
  refine Matches.modify ?_
  rintro machine _ ⟨hfree, hallowed, mark, rfl⟩
  refine ⟨?_, ?_, mark, hchange machine mark⟩
  · intro name function hfound
    rw [hfunctions] at hfound
    exact hfree name function hfound
  · rw [hmark]
    exact hallowed

theorem assign (name : String) (value : Value) : Keeps (Near allowed) (assign name value) :=
  modify (fun _ => rfl) (fun _ => rfl) fun _ _ => rfl

theorem print (text : String) : Keeps (Near allowed) (print text) :=
  modify (fun _ => rfl) (fun _ => rfl) fun _ _ => rfl

theorem say (line : String) : Keeps (Near allowed) (say line) :=
  ((print line).bind fun _ => print "\n").bind fun _ =>
    modify (fun _ => rfl) (fun _ => rfl) fun _ _ => rfl

theorem ask (prompt : String) : Keeps (Near allowed) (ask prompt) := by
  refine Keeps.ask ?_ print (fun _ => ?_) (fun _ _ => ?_) prompt
  · rintro machine _ ⟨-, -, mark, rfl⟩
    rfl
  · exact modify (fun _ => rfl) (fun _ => rfl) fun _ _ => rfl
  · exact modify (fun _ => rfl) (fun _ => rfl) fun _ _ => rfl

theorem lookup (name : String) : Keeps (Near allowed) (lookup name) := by
  refine Keeps.lookup ?_
  rintro machine _ ⟨-, -, mark, rfl⟩
  rfl

theorem define {function : Function} (hbody : function.body.isLoopFree = true) :
    Keeps (Near allowed) (define function) := by
  refine Matches.modify ?_
  rintro machine _ ⟨hfree, hallowed, mark, rfl⟩
  refine ⟨?_, hallowed, mark, rfl⟩
  intro name found hfound
  by_cases hself : name = function.name
  · subst hself
    rw [Bindings.get?_set_self] at hfound
    cases hfound
    exact hbody
  · rw [Bindings.get?_set_of_ne hself] at hfound
    exact hfree name found hfound

theorem lookupFunction_bind {α : Type} (name : String) {next next' : Function → Exec α}
    (hnext : ∀ function, function.body.isLoopFree = true →
      Matches (Near allowed) (next function) (next' function)) :
    Matches (Near allowed) (lookupFunction name >>= next) (lookupFunction name >>= next') := by
  rintro machine _ ⟨hfree, hallowed, mark, rfl⟩
  have hlookup := lookupFunction_apply name machine
  have hlookup' := lookupFunction_apply name { machine with returning := mark }
  cases hfound : machine.functions.get? name with
  | none =>
    rw [hfound] at hlookup hlookup'
    rw [bind_of_error hlookup, bind_of_error hlookup']
    exact .error _ ⟨hfree, hallowed, mark, rfl⟩
  | some function =>
    rw [hfound] at hlookup hlookup'
    rw [bind_of_ok hlookup, bind_of_ok hlookup']
    exact hnext function (hfree name function hfound) ⟨hfree, hallowed, mark, rfl⟩

end Near

/-! ## Marks and jumps -/

/-- A statement has been executed with marks and with jumps: both go on and no mark is set, or the
first has set the mark and the second has jumped, or both stop for the same reason. -/
inductive EndAlike :
    EStateM.Result Stop Machine Unit → EStateM.Result Stop Machine (Except Unit Unit) → Prop
  | passed {machine other : Machine} (h : Near Unmarked machine other) :
    EndAlike (.ok () machine) (.ok (.ok ()) other)
  | jumped {machine other : Machine} (h : Near (· = true) machine other) :
    EndAlike (.ok () machine) (.ok (.error ()) other)
  | stopped (stop : Stop) {machine other : Machine} (h : Near Unmarked machine other) :
    EndAlike (.error stop machine) (.error stop other)

/-- From machines without a mark, a statement with marks and one with jumps end alike. -/
def Follows (step : Exec Unit) (part : Body Unit) : Prop :=
  ∀ ⦃machine other⦄, Near Unmarked machine other → EndAlike (step machine) (part.run other)

namespace Follows

theorem pure : Follows (pure ()) (pure ()) := fun _ _ h => .passed h

theorem bind {α : Type} {step step' : Exec α} {next : α → Exec Unit} {next' : α → Body Unit}
    (hstep : Matches (Near Unmarked) step step') (hnext : ∀ a, Follows (next a) (next' a)) :
    Follows (step >>= next) (act step' >>= next') := by
  intro machine other h
  have hrun : (act step' >>= next').run = step' >>= fun a => (next' a).run :=
    ExceptT.run_bind_lift step' next'
  have hends := hstep h
  rw [hrun]
  generalize hended : step machine = ended at hends
  generalize hended' : step' other = ended' at hends
  cases hends with
  | ok a hafter =>
    rw [bind_of_ok hended, bind_of_ok hended']
    exact hnext a hafter
  | error stop hafter =>
    rw [bind_of_error hended, bind_of_error hended']
    exact .stopped stop hafter

theorem act {step step' : Exec Unit} (hstep : Matches (Near Unmarked) step step') :
    Follows step (act step') := by
  rw [← bind_pure step, ← bind_pure (Body.act step')]
  exact bind hstep fun _ => pure

theorem ite {condition : Prop} [Decidable condition] {step other : Exec Unit}
    {part otherPart : Body Unit} (hstep : Follows step part) (hother : Follows other otherPart) :
    Follows (if condition then step else other) (if condition then part else otherPart) := by
  split
  · exact hstep
  · exact hother

/-- Where one evaluator sets the mark the other jumps. -/
theorem give {step step' : Exec Value} (hstep : Matches (Near Unmarked) step step') :
    Follows
      (step >>= fun value =>
        modify fun machine => { machine with returning := true, returned := value })
      (Body.act step' >>= fun value =>
        Body.act (modify fun machine => { machine with returned := value }) >>= fun _ =>
          abandon) := by
  refine bind hstep fun value => ?_
  rintro machine _ ⟨hfree, -, mark, rfl⟩
  exact .jumped ⟨hfree, rfl, mark, rfl⟩

theorem andThen {step next : Exec Unit} {part nextPart : Body Unit} (hstep : Follows step part)
    (hnext : Follows next nextPart)
    (hskip : ∀ machine after, step machine = .ok () after → after.returning = true →
      next after = .ok () after) :
    Follows (step >>= fun _ => next) (part >>= fun _ => nextPart) := by
  intro machine other h
  have hends := hstep h
  rw [ExceptT.run_bind]
  generalize hended : step machine = ended at hends
  generalize hended' : part.run other = ended' at hends
  cases hends with
  | passed hafter =>
    rw [bind_of_ok hended, bind_of_ok hended']
    exact hnext hafter
  | jumped hafter =>
    rw [bind_of_ok hended, bind_of_ok hended', hskip machine _ hended hafter.mark]
    exact .jumped hafter
  | stopped stop hafter =>
    rw [bind_of_error hended, bind_of_error hended']
    exact .stopped stop hafter

theorem leave {step : Exec Unit} {part : Body Unit} (h : Follows step part)
    {allowed : Bool → Prop} (hallowed : allowed false) (saved : Bindings Value)
    {machine other : Machine} (hstart : Near Unmarked machine other) :
    Alike (Near allowed) ((step >>= fun _ => leave saved) machine)
      ((part.run >>= fun _ => do
        let ended ← get
        modify fun machine => { machine with store := saved }
        return ended.returned) other) := by
  have hends := h hstart
  generalize hended : step machine = ended at hends
  generalize hended' : part.run other = ended' at hends
  cases hends with
  | passed hafter =>
    obtain ⟨hfree, -, mark, rfl⟩ := hafter
    rw [bind_of_ok hended, bind_of_ok hended']
    exact .ok _ ⟨hfree, hallowed, mark, rfl⟩
  | jumped hafter =>
    obtain ⟨hfree, -, mark, rfl⟩ := hafter
    rw [bind_of_ok hended, bind_of_ok hended']
    exact .ok _ ⟨hfree, hallowed, mark, rfl⟩
  | stopped stop hafter =>
    rw [bind_of_error hended, bind_of_error hended']
    exact .error stop (hafter.of_unmarked hallowed)

end Follows

/-- A block goes on where no mark is set. -/
theorem execBlock_unmarked {fuel : Nat} {statement : Stmt} {rest : List Stmt} {machine : Machine}
    (h : machine.returning = false) :
    execBlock (fuel + 1) (statement :: rest) machine =
      (exec fuel statement >>= fun _ => execBlock fuel rest) machine := by
  rw [execBlock]
  show (if machine.returning = true then pure () else
    exec fuel statement >>= fun _ => execBlock fuel rest : Exec Unit) machine = _
  rw [h]
  rfl

/-- A block skips what is left of it where the mark is set. -/
theorem execBlock_marked {fuel : Nat} (statements : List Stmt) {machine : Machine}
    (h : machine.returning = true) : execBlock (fuel + 1) statements machine = .ok () machine := by
  cases statements with
  | nil => rfl
  | cons statement rest =>
    rw [execBlock]
    show (if machine.returning = true then pure () else
      exec fuel statement >>= fun _ => execBlock fuel rest : Exec Unit) machine = _
    rw [if_pos h]
    rfl

/-! ## The simulation -/

/-- With one amount of fuel the two evaluators end alike. Expressions do so whatever mark is set,
and leave no mark where there was none. -/
structure Early (fuel : Nat) : Prop where
  eval : ∀ {allowed : Bool → Prop}, allowed false → ∀ e,
    Matches (Near allowed) (eval fuel e) (earlyEval fuel e)
  call : ∀ {allowed : Bool → Prop}, allowed false → ∀ name arguments,
    Matches (Near allowed) (call fuel name arguments) (earlyCall fuel name arguments)
  arguments : ∀ {allowed : Bool → Prop}, allowed false → ∀ parameters arguments,
    Matches (Near allowed) (bindArguments fuel parameters arguments)
      (earlyArguments fuel parameters arguments)
  exec : ∀ s : Stmt, s.isLoopFree = true → Follows (exec fuel s) (earlyExec fuel s)
  block : ∀ statements, Stmt.areLoopFree statements = true →
    Follows (execBlock fuel statements) (earlyBlock fuel statements)

namespace Early

theorem zero : Early 0 where
  eval _ _ := Keeps.throw _
  call _ _ _ := Keeps.throw _
  arguments _ _ _ := Keeps.throw _
  exec _ _ := Follows.act (Keeps.throw _)
  block _ _ := Follows.act (Keeps.throw _)

variable {fuel : Nat} {allowed : Bool → Prop} (ih : Early fuel)

include ih

theorem eval_succ (hallowed : allowed false) (e : Expr) :
    Matches (Near allowed) (Machine.eval (fuel + 1) e) (earlyEval (fuel + 1) e) := by
  cases e with
  | literal kind value => exact Keeps.pure value
  | reference name => exact Near.lookup name
  | binary left op right =>
    exact (ih.eval hallowed left).bind fun _ => (ih.eval hallowed right).bind fun _ =>
      Keeps.lift _
  | unary op operand => exact (ih.eval hallowed operand).bind fun _ => Keeps.lift _
  | group inner => exact ih.eval hallowed inner
  | input prompt =>
    exact (ih.eval hallowed prompt).bind fun _ => (Keeps.lift _).bind fun text => Near.ask text
  | call name arguments => exact ih.call hallowed name arguments
  | unknown node => exact Keeps.throw _

theorem call_succ (hallowed : allowed false) (name : String) (arguments : List Expr) :
    Matches (Near allowed) (Machine.call (fuel + 1) name arguments)
      (earlyCall (fuel + 1) name arguments) := by
  rw [Machine.call, earlyCall]
  refine Near.lookupFunction_bind name fun function hbody => ?_
  refine Matches.ite ((Keeps.throw _).bind fun _ => ?_) ?_
  all_goals
    refine Matches.get_bind fun before before' hbefore => ?_
    refine (ih.arguments hallowed _ _).bind fun _ => ?_
    obtain ⟨-, -, mark, rfl⟩ := hbefore
    rintro machine _ ⟨hfree, -, mark', rfl⟩
    exact (ih.exec function.body hbody).leave hallowed before.store ⟨hfree, rfl, mark', rfl⟩

theorem arguments_succ (hallowed : allowed false) (parameters : List String)
    (arguments : List Expr) :
    Matches (Near allowed) (bindArguments (fuel + 1) parameters arguments)
      (earlyArguments (fuel + 1) parameters arguments) := by
  cases parameters with
  | nil => exact Keeps.pure ()
  | cons parameter parameters =>
    cases arguments with
    | nil => exact Keeps.pure ()
    | cons argument arguments =>
      exact (ih.eval hallowed argument).bind fun value =>
        (Near.assign parameter value).bind fun _ => ih.arguments hallowed _ _

theorem exec_succ (s : Stmt) (hs : s.isLoopFree = true) :
    Follows (Machine.exec (fuel + 1) s) (earlyExec (fuel + 1) s) := by
  have heval (e : Expr) : Matches (Near Unmarked) (Machine.eval fuel e) (earlyEval fuel e) :=
    ih.eval (show Unmarked false from rfl) e
  cases s with
  | say e =>
    exact Follows.bind (heval e) fun _ => Follows.bind (Keeps.lift _) fun line =>
      Follows.act (Near.say line)
  | assign name e =>
    exact Follows.bind (heval e) fun value => Follows.act (Near.assign name value)
  | block body => exact ih.block body hs
  | define name parameters body => exact Follows.act (Near.define hs)
  | give e =>
    rw [exec_give, earlyExec_give]
    refine Follows.give ?_
    cases e with
    | none => exact Keeps.pure _
    | some e => exact heval e
  | branch condition thenBranch elseBranch =>
    rw [Stmt.isLoopFree, Bool.and_eq_true] at hs
    refine Follows.bind (heval condition) fun _ => Follows.ite (ih.exec thenBranch hs.1) ?_
    cases elseBranch with
    | none => exact Follows.pure
    | some elseBranch => exact ih.exec elseBranch hs.2
  | loop condition body => cases hs
  | count name start stop step body => cases hs
  | unknown node => exact Follows.act (Keeps.throw _)

theorem block_succ (statements : List Stmt) (hstatements : Stmt.areLoopFree statements = true) :
    Follows (execBlock (fuel + 1) statements) (earlyBlock (fuel + 1) statements) := by
  cases statements with
  | nil => exact Follows.pure
  | cons statement rest =>
    rw [Stmt.areLoopFree, Bool.and_eq_true] at hstatements
    have hboth := Follows.andThen (ih.exec statement hstatements.1) (ih.block rest hstatements.2) ?_
    · intro machine other h
      rw [execBlock_unmarked h.mark, earlyBlock]
      exact hboth h
    · intro machine after hended hmark
      -- The statement has ended, so there is fuel left for the block to look at the mark.
      cases fuel with
      | zero => cases hended
      | succ fuel => exact execBlock_marked rest hmark

end Early

theorem early (fuel : Nat) : Early fuel := by
  induction fuel with
  | zero => exact Early.zero
  | succ fuel ih =>
    exact ⟨ih.eval_succ, ih.call_succ, ih.arguments_succ, ih.exec_succ, ih.block_succ⟩

/-- Where no function has a loop, a call is the same with marks and with jumps: it gives the same
value or stops for the same reason, and it leaves the same machine, the mark apart, so that what was
printed, recorded and asked, the input that is left, the variables and the functions are the
same. -/
theorem call_alike_earlyCall {machine : Machine} (hfree : machine.LoopFree) (fuel : Nat)
    (name : String) (arguments : List Expr) :
    Alike SameButMark (call fuel name arguments machine)
      (earlyCall fuel name arguments machine) := by
  have hnear : Near (fun _ => True) machine machine := ⟨hfree, trivial, machine.returning, rfl⟩
  exact ((early fuel).call trivial name arguments hnear).mono fun _ _ h => h.same

/-- A return in two blocks and a branch, with calls before it and statements after it. -/
def answeringEarly : Machine :=
  { functions := ⟨[("same", ⟨"same", ["x"], .block [.give (some (.reference "x"))]⟩),
      ("answer", ⟨"answer", ["now"], .block
        [.branch (.call "same" [.reference "now"])
          (.block
            [.block [.say (.call "same" [.reference "now"]), .give (some (.reference "now"))],
              .say (.reference "missing")])
          (some (.give none)),
          .say (.reference "missing")]⟩)]⟩ }

/-- The call ends at its return, with marks as with jumps. -/
theorem call_answeringEarly :
    ∃ after other,
      call 20 "answer" [.literal .string (.text "yes")] answeringEarly =
        .ok (.text "yes") after ∧
      earlyCall 20 "answer" [.literal .string (.text "yes")] answeringEarly =
        .ok (.text "yes") other ∧
      SameButMark after other ∧ after.record = #["yes"] := by
  have hfree : answeringEarly.LoopFree := by
    intro name function hfound
    obtain ⟨before, later, hentries, -⟩ := List.lookup_eq_some_iff.mp hfound
    have hmem : (name, function) ∈ answeringEarly.functions.entries := by simp [hentries]
    have hall : ∀ entry ∈ answeringEarly.functions.entries, entry.2.body.isLoopFree = true := by
      decide
    exact hall _ hmem
  have hcall : ∃ after, call 20 "answer" [.literal .string (.text "yes")] answeringEarly =
      .ok (.text "yes") after ∧ after.record = #["yes"] := ⟨_, rfl, rfl⟩
  obtain ⟨after, hcall, hrecord⟩ := hcall
  have halike := call_alike_earlyCall hfree 20 "answer" [.literal .string (.text "yes")]
  rw [hcall] at halike
  generalize hended : earlyCall 20 "answer" [.literal .string (.text "yes")] answeringEarly =
    ended at halike
  cases halike with
  | ok _ hsame => exact ⟨after, _, hcall, rfl, hsame, hrecord⟩

end Machine

end ScriptStudio
