import Mathlib.Data.List.Basic
import ScriptStudio.Proofs.Agreement
import ScriptStudio.Proofs.LoggedRuns

/-!
# Calls that have not ended

A call that ends puts back the variables it has found. A stop inside a call puts nothing back: the
variables are then those of the function that was running. This module logs the bindings that a run
makes, without those of calls that have ended, and shows that the log
tells the variables exactly, however the run ends.

* `Bindings.setAll_eq_self_iff`: which bindings change nothing.
* `lasting`: the recorder of these bindings.
* `Accounts`: the variables after a run are the ones before it with the log on top.
* `openBindings`: the log of an expression.
* `Settled`: the log of an expression that has a value is empty.
* `store_of_eval`: such an expression leaves the variables as they were.
-/

namespace ScriptStudio

namespace Bindings

variable {α : Type}

/-- Binds names one after the other. -/
def setAll (bindings : Bindings α) : List (String × α) → Bindings α
  | [] => bindings
  | (name, value) :: rest => (bindings.set name value).setAll rest

/-- What a name is bound to last in a list of bindings. -/
def last? (name : String) (bound : List (String × α)) : Option α := bound.reverse.lookup name

theorem last?_cons (name : String) (entry : String × α) (bound : List (String × α)) :
    last? name (entry :: bound) =
      (last? name bound).or (if name = entry.1 then some entry.2 else none) := by
  obtain ⟨key, value⟩ := entry
  unfold last?
  rw [List.reverse_cons, List.lookup_append, List.lookup_cons]
  by_cases hkey : name = key
  · simp [hkey]
  · simp [hkey, beq_eq_false_iff_ne.mpr hkey]

theorem last?_filter_ne (name key : String) (bound : List (String × α)) :
    last? name (bound.filter (·.1 ≠ key)) = if name = key then none else last? name bound := by
  induction bound with
  | nil => simp [last?]
  | cons entry bound ih =>
    by_cases hentry : entry.1 = key
    · rw [List.filter_cons_of_neg (by simpa using hentry), ih, last?_cons, hentry]
      by_cases hname : name = key <;> simp [hname]
    · rw [List.filter_cons_of_pos (by simpa using hentry), last?_cons, last?_cons, ih]
      by_cases hname : name = key
      · have hother : key ≠ entry.1 := Ne.symm hentry
        simp [hname, hother]
      · simp [hname]

theorem setAll_cons (key : String) (value : α) (rest bound : List (String × α)) :
    setAll ⟨(key, value) :: rest⟩ bound =
      ⟨(key, (last? key bound).getD value) ::
        (setAll ⟨rest⟩ (bound.filter (·.1 ≠ key))).entries⟩ := by
  induction bound generalizing value rest with
  | nil => rfl
  | cons entry bound ih =>
    obtain ⟨name, bound'⟩ := entry
    rw [setAll, last?_cons]
    by_cases hname : key = name
    · subst hname
      have hset : set ⟨(key, value) :: rest⟩ key bound' = ⟨(key, bound') :: rest⟩ := by
        simp [set, setEntry]
      rw [hset, ih, List.filter_cons_of_neg (by simp)]
      cases last? key bound <;> simp
    · have hset : set ⟨(key, value) :: rest⟩ name bound' =
          ⟨(key, value) :: setEntry name bound' rest⟩ := by
        simp [set, setEntry, hname]
      rw [hset, ih, List.filter_cons_of_pos (by simpa using Ne.symm hname), setAll]
      simp [hname, set]

theorem setAll_append (bindings : Bindings α) (bound more : List (String × α)) :
    bindings.setAll (bound ++ more) = (bindings.setAll bound).setAll more := by
  induction bound generalizing bindings with
  | nil => rfl
  | cons entry bound ih => exact ih (bindings.set entry.1 entry.2)

theorem get?_setAll (bindings : Bindings α) (bound : List (String × α)) (name : String) :
    (bindings.setAll bound).get? name = (last? name bound).or (bindings.get? name) := by
  induction bound generalizing bindings with
  | nil => rfl
  | cons entry bound ih =>
    obtain ⟨key, value⟩ := entry
    rw [setAll, ih, last?_cons]
    by_cases hname : name = key
    · subst hname
      cases last? name bound <;> simp
    · cases last? name bound <;> simp [hname, get?_set_of_ne hname]

/-- Bindings change nothing exactly if every name that they bind has its last value already. -/
theorem setAll_eq_self_iff (bindings : Bindings α) (bound : List (String × α)) :
    bindings.setAll bound = bindings ↔
      ∀ name value, last? name bound = some value → bindings.get? name = some value := by
  constructor
  · intro hself name value hlast
    rw [← hself, get?_setAll, hlast]
    rfl
  · obtain ⟨entries⟩ := bindings
    induction entries generalizing bound with
    | nil =>
      intro hsame
      cases bound with
      | nil => rfl
      | cons entry bound =>
        cases hlast : last? entry.1 (entry :: bound) with
        | none => simp [last?_cons] at hlast
        | some value => cases hsame _ _ hlast
    | cons entry rest ih =>
      obtain ⟨key, value⟩ := entry
      intro hsame
      have hrest : setAll ⟨rest⟩ (bound.filter (·.1 ≠ key)) = ⟨rest⟩ := by
        refine ih _ fun name value' hlast => ?_
        rw [last?_filter_ne] at hlast
        split at hlast
        · cases hlast
        · rename_i hname
          have hfound := hsame name value' hlast
          rwa [get?, List.lookup_cons, beq_eq_false_iff_ne.mpr hname] at hfound
      have hfirst : (last? key bound).getD value = value := by
        cases hlast : last? key bound with
        | none => rfl
        | some value' =>
          have hfound := hsame key value' hlast
          simpa [get?] using hfound.symm
      rw [setAll_cons, hrest, hfirst]

end Bindings

namespace Machine

/-- The bindings that a run makes are written down. A call that ends takes back its own, and one
that stops leaves them. -/
def lasting : Recorder (String × Value) where
  bound name value := [(name, value)]
  ended _ _ := []
  stopped bindings := bindings

open Log

variable {fuel : Nat}

/-! ## The log tells the variables -/

/-- After a run, however it has ended, the variables are those before it with the log on top. -/
def Accounts {α : Type} (run : Log (String × Value) α) : Prop :=
  ∀ machine, (left (run.result machine)).store = machine.store.setAll (run.entries machine)

section

variable {α β : Type}

theorem Accounts.act {step : Exec α} (hstep : Spares Machine.store step) : Accounts (act step) :=
  hstep

theorem Accounts.pure (a : α) : Accounts (pure a : Log (String × Value) α) :=
  Accounts.act (Spares.pure a)

theorem Accounts.throw (stop : Stop) : Accounts (Log.act (throw stop) : Log (String × Value) α) :=
  Accounts.act (Spares.throw stop)

theorem Accounts.note : Accounts (note [] : Log (String × Value) Unit) := fun _ => rfl

theorem Accounts.assign (name : String) (value : Value) : Accounts (lasting.assign name value) :=
  fun _ => rfl

theorem Accounts.bind {run : Log (String × Value) α} {next : α → Log (String × Value) β}
    (hrun : Accounts run) (hnext : ∀ a, Accounts (next a)) : Accounts (run >>= next) := by
  intro machine
  have hfirst := hrun machine
  show (left (andThen run next machine).result).store =
    machine.store.setAll (andThen run next machine).entries
  unfold andThen
  cases hended : (run machine).result with
  | ok a after =>
    rw [show run.result machine = .ok a after from hended] at hfirst
    have hstore : after.store = machine.store.setAll (run.entries machine) := hfirst
    rw [Bindings.setAll_append, ← hstore]
    exact hnext a after
  | error stop after =>
    rw [show run.result machine = .error stop after from hended] at hfirst
    exact hfirst

theorem Accounts.ite {condition : Prop} [Decidable condition] {run other : Log (String × Value) α}
    (hrun : Accounts run) (hother : Accounts other) :
    Accounts (if condition then run else other) := by
  split
  · exact hrun
  · exact hother

theorem Accounts.calling {before : Log (String × Value) Function}
    {body : Function → Log (String × Value) Unit} (hbefore : Accounts before)
    (hbody : ∀ function, Accounts (body function)) : Accounts (lasting.calling before body) := by
  intro machine
  have hfirst := hbefore machine
  show (left (lasting.calling before body machine).result).store =
    machine.store.setAll (lasting.calling before body machine).entries
  unfold Recorder.calling
  cases hstart : (before machine).result with
  | error stop after =>
    rw [show before.result machine = .error stop after from hstart] at hfirst
    exact hfirst
  | ok function start =>
    rw [show before.result machine = .ok function start from hstart] at hfirst
    have hsecond := hbody function start
    dsimp only
    cases hended : (body function start).result with
    | ok _ after => rfl
    | error stop after =>
      rw [show (body function).result start = .error stop after from hended] at hsecond
      have hstore : start.store = machine.store.setAll (before.entries machine) := hfirst
      rw [show lasting.stopped _ = _ from rfl, Bindings.setAll_append, ← hstore]
      exact hsecond

end

/-- The log tells the variables, with one amount of fuel. -/
structure AccountsAll (fuel : Nat) : Prop where
  eval : ∀ e, Accounts (logEval lasting fuel e)
  call : ∀ name arguments, Accounts (logCall lasting fuel name arguments)
  arguments : ∀ parameters arguments, Accounts (logArguments lasting fuel parameters arguments)
  exec : ∀ depth statement, Accounts (logExec lasting fuel depth statement)
  block : ∀ depth statements, Accounts (logBlock lasting fuel depth statements)
  loop : ∀ depth condition body, Accounts (logLoop lasting fuel depth condition body)
  count : ∀ depth count body current, Accounts (logCount lasting fuel depth count body current)

theorem AccountsAll.exec_succ (ih : AccountsAll fuel) (depth : Nat) (statement : Stmt) :
    Accounts (logExec lasting (fuel + 1) depth statement) := by
  have hoption (absent : Value) (e : Option Expr) : Accounts (logOption lasting fuel absent e) := by
    cases e with
    | none => exact Accounts.pure absent
    | some e => exact ih.eval e
  cases statement with
  | say e =>
    refine Accounts.note.bind fun _ => (ih.eval e).bind fun _ =>
      (Accounts.act (Spares.lift _)).bind fun line => ?_
    exact (Accounts.act (Spares.say (fun _ _ => rfl) (fun _ _ => rfl) line)).bind fun _ =>
      Accounts.note
  | assign name e =>
    exact Accounts.note.bind fun _ => (ih.eval e).bind fun value => Accounts.assign name value
  | block body => exact Accounts.note.bind fun _ => ih.block depth body
  | define name parameters body =>
    exact Accounts.note.bind fun _ => Accounts.act (Spares.define (fun _ _ => rfl) _)
  | give e =>
    rw [logExec_give]
    exact Accounts.note.bind fun _ => (hoption _ e).bind fun value =>
      (Accounts.act (Spares.modify fun _ => rfl)).bind fun _ => Accounts.note
  | branch condition thenBranch elseBranch =>
    refine Accounts.note.bind fun _ => (ih.eval condition).bind fun _ =>
      Accounts.ite (ih.exec depth thenBranch) ?_
    cases elseBranch with
    | none => exact Accounts.pure ()
    | some elseBranch => exact ih.exec depth elseBranch
  | loop condition body => exact Accounts.note.bind fun _ => ih.loop depth condition body
  | count name start stop step body =>
    rw [logExec_count]
    refine Accounts.note.bind fun _ => (ih.eval start).bind fun first =>
      (ih.eval stop).bind fun last => (hoption _ step).bind fun stride => ?_
    unfold logCountLoop
    split
    · exact (Accounts.assign name _).bind fun _ =>
        Accounts.ite (ih.count depth _ body _) (Accounts.throw _)
    · exact Accounts.throw _
  | unknown node => exact Accounts.note.bind fun _ => Accounts.throw _

theorem AccountsAll.eval_succ (ih : AccountsAll fuel) (e : Expr) :
    Accounts (logEval lasting (fuel + 1) e) := by
  cases e with
  | literal kind value => exact Accounts.pure value
  | reference name => exact Accounts.act (Spares.lookup name)
  | binary left op right =>
    exact (ih.eval left).bind fun _ => (ih.eval right).bind fun _ =>
      Accounts.act (Spares.lift _)
  | unary op operand => exact (ih.eval operand).bind fun _ => Accounts.act (Spares.lift _)
  | group inner => exact ih.eval inner
  | input prompt =>
    exact (ih.eval prompt).bind fun _ => (Accounts.act (Spares.lift _)).bind fun text =>
      Accounts.note.bind fun _ =>
        Accounts.act (Spares.ask (fun _ _ => rfl) (fun _ _ _ => rfl) text)
  | call name arguments => exact ih.call name arguments
  | unknown node => exact Accounts.throw _

theorem AccountsAll.call_succ (ih : AccountsAll fuel) (name : String) (arguments : List Expr) :
    Accounts (logCall lasting (fuel + 1) name arguments) := by
  rw [logCall]
  refine Accounts.calling (Accounts.note.bind fun _ => ?_) fun function => ?_
  · refine (Accounts.act (Spares.lookupFunction name)).bind fun function => ?_
    exact Accounts.ite (Accounts.throw _) ((ih.arguments _ _).bind fun _ => Accounts.pure function)
  · refine Accounts.bind (Accounts.act (Spares.modify ?_)) fun _ => ih.exec 0 function.body
    exact fun _ => rfl

theorem AccountsAll.arguments_succ (ih : AccountsAll fuel) (parameters : List String)
    (arguments : List Expr) : Accounts (logArguments lasting (fuel + 1) parameters arguments) := by
  cases parameters with
  | nil => exact Accounts.pure ()
  | cons parameter parameters =>
    cases arguments with
    | nil => exact Accounts.pure ()
    | cons argument arguments =>
      exact (ih.eval argument).bind fun value => (Accounts.assign parameter value).bind fun _ =>
        ih.arguments _ _

theorem AccountsAll.succ (ih : AccountsAll fuel) : AccountsAll (fuel + 1) where
  eval := ih.eval_succ
  call := ih.call_succ
  arguments := ih.arguments_succ
  exec := ih.exec_succ
  block depth statements := by
    cases statements with
    | nil => exact Accounts.pure ()
    | cons statement rest =>
      exact (Accounts.act fun _ => rfl).bind fun machine => Accounts.ite (Accounts.pure ())
        ((ih.exec depth statement).bind fun _ => ih.block depth rest)
  loop depth condition body :=
    Accounts.note.bind fun _ => (ih.eval condition).bind fun _ => Accounts.ite
      ((ih.exec (depth + 1) body).bind fun _ => ih.loop depth condition body) (Accounts.pure ())
  count depth count body current :=
    Accounts.note.bind fun _ => Accounts.ite
      ((ih.exec (depth + 1) body).bind fun _ => (Accounts.act (Spares.lift _)).bind fun next =>
        (Accounts.assign count.name _).bind fun _ => ih.count depth count body next)
      (Accounts.pure ())

theorem accountsAll (fuel : Nat) : AccountsAll fuel := by
  induction fuel with
  | zero => constructor <;> intros <;> exact Accounts.throw _
  | succ fuel ih => exact ih.succ

/-! ## Expressions that stop -/

/-- The bindings made by those calls of an expression that have not ended. -/
def openBindings (fuel : Nat) (e : Expr) (machine : Machine) : List (String × Value) :=
  (logEval lasting fuel e).entries machine

/-- An expression that stops leaves the variables with all that was bound by the calls which have
not ended, nested ones included. They are as before exactly if each name that was bound so has ended
up with the value it had. -/
theorem store_of_stopped_eval {fuel : Nat} {e : Expr} {machine after : Machine} {stop : Stop}
    (h : eval fuel e machine = .error stop after) :
    after.store = machine.store.setAll (openBindings fuel e machine) ∧
      (after.store = machine.store ↔
        ∀ name value, Bindings.last? name (openBindings fuel e machine) = some value →
          machine.store.get? name = some value) := by
  have hstore := (accountsAll fuel).eval e machine
  rw [(logsNothingElse lasting fuel).eval, h] at hstore
  refine ⟨hstore, ?_⟩
  rw [← Bindings.setAll_eq_self_iff]
  exact ⟨fun hsame => hstore.symm.trans hsame, fun hsame => hstore.trans hsame⟩

/-- A function that stops after it has bound its parameter and a variable of its own. -/
def stopping : Machine :=
  { store := ⟨[("a", .text "one")]⟩
    functions := ⟨[("f", ⟨"f", ["p"], .block
      [.assign "local" (.literal .string (.text "two")), .say (.reference "missing")]⟩)]⟩ }

/-- Parameter and variable stay behind when the call stops. -/
theorem eval_stopping :
    eval 9 (.call "f" [.reference "a"]) stopping =
        .error (.fault (.undefinedVariable "missing"))
          { stopping with
            store := ⟨[("a", .text "one"), ("p", .text "one"), ("local", .text "two")]⟩ } ∧
      openBindings 9 (.call "f" [.reference "a"]) stopping =
        [("p", .text "one"), ("local", .text "two")] ∧
      (⟨[("a", .text "one"), ("p", .text "one"), ("local", .text "two")]⟩ : Bindings Value) ≠
        stopping.store := by
  have hstops : eval 9 (.call "f" [.reference "a"]) stopping =
      .error (.fault (.undefinedVariable "missing"))
        { stopping with
          store := ⟨[("a", .text "one"), ("p", .text "one"), ("local", .text "two")]⟩ } := by rfl
  have hopen : openBindings 9 (.call "f" [.reference "a"]) stopping =
      [("p", .text "one"), ("local", .text "two")] := by rfl
  refine ⟨hstops, hopen, fun hsame => ?_⟩
  have hbound := (store_of_stopped_eval hstops).2.mp hsame "p" (.text "one") (by rw [hopen]; rfl)
  cases hbound

/-! ## Expressions that have a value -/

/-- A run that ends with a value has nothing in its log. -/
def Settled {α : Type} (run : Log (String × Value) α) : Prop :=
  ∀ ⦃machine a after⦄, run.result machine = .ok a after → run.entries machine = []

theorem Settled.act {α : Type} (step : Exec α) : Settled (Log.act step) := fun _ _ _ _ => rfl

theorem Settled.bind {α β : Type} {run : Log (String × Value) α}
    {next : α → Log (String × Value) β} (hrun : Settled run) (hnext : ∀ a, Settled (next a)) :
    Settled (run >>= next) := by
  intro machine b last h
  rw [result_bind] at h
  obtain ⟨a, after, hfirst, hsecond⟩ := bind_eq_ok_iff.mp h
  rw [entries_bind_of_ok hfirst, hrun hfirst, hnext a hsecond, List.append_nil]

theorem Settled.calling (before : Log (String × Value) Function)
    (body : Function → Log (String × Value) Unit) : Settled (lasting.calling before body) := by
  intro machine value after h
  have hended : (lasting.calling before body machine).result = .ok value after := h
  show (lasting.calling before body machine).entries = []
  unfold Recorder.calling at hended ⊢
  split at hended
  · cases hended
  · split at hended
    · cases hended
    · simp only [*, lasting]

theorem settled_logEval (fuel : Nat) (e : Expr) : Settled (logEval lasting fuel e) := by
  induction fuel generalizing e with
  | zero =>
    rw [logEval]
    exact Settled.act _
  | succ fuel ih =>
    cases e with
    | literal kind value => exact Settled.act _
    | reference name => exact Settled.act _
    | binary left op right =>
      exact (ih left).bind fun _ => (ih right).bind fun _ => Settled.act _
    | unary op operand => exact (ih operand).bind fun _ => Settled.act _
    | group inner => exact ih inner
    | input prompt =>
      exact (ih prompt).bind fun _ => (Settled.act _).bind fun _ =>
        Settled.bind (fun _ _ _ _ => rfl) fun _ => Settled.act _
    | call name arguments =>
      cases fuel with
      | zero =>
        rw [logEval, logCall]
        exact Settled.act _
      | succ fuel =>
        rw [logEval, logCall]
        exact Settled.calling _ _
    | unknown node => exact Settled.act _

theorem openBindings_of_eval {e : Expr} {machine after : Machine} {value : Value}
    (h : eval fuel e machine = .ok value after) : openBindings fuel e machine = [] := by
  rw [← (logsNothingElse lasting fuel).eval] at h
  exact settled_logEval fuel e h

/-- An expression that has a value leaves the variables as they were. -/
theorem store_of_eval {e : Expr} {machine after : Machine} {value : Value}
    (h : eval fuel e machine = .ok value after) : after.store = machine.store := by
  have hstore := (accountsAll fuel).eval e machine
  rw [(logsNothingElse lasting fuel).eval, h] at hstore
  calc after.store = machine.store.setAll (openBindings fuel e machine) := hstore
    _ = machine.store := by rw [openBindings_of_eval h, Bindings.setAll]

/-- An expression that has a value leaves the variables as they were, names, values and order. All
calls that it made have ended, and with each of them went its parameters and all that its body has
bound. -/
theorem store_of_ended_eval {fuel : Nat} {e : Expr} {machine after : Machine} {value : Value}
    (h : eval fuel e machine = .ok value after) :
    openBindings fuel e machine = [] ∧ after.store = machine.store :=
  ⟨openBindings_of_eval h, store_of_eval h⟩

/-- A function that rebinds its parameter and a variable of its caller, counts, defines a function,
and calls itself and the function it has defined. -/
def rebinding : Machine :=
  { store := ⟨[("a", .text "one"), ("again", .bool true)]⟩
    functions := ⟨[("f", ⟨"f", ["again"], .block
      [.assign "a" (.literal .string (.text "two")),
        .count "i" (.literal .number (.int 0)) (.literal .number (.int 1)) none
          (.block [.assign "a" (.reference "i")]),
        .define "g" [] (.block [.assign "i" (.reference "a"), .give (some (.reference "i"))]),
        .branch (.reference "again")
          (.block [.assign "again" (.call "f" [.literal .boolean (.bool false)])]) none,
        .give (some (.call "g" []))]⟩)]⟩ }

theorem eval_rebinding :
    ∃ after, eval 30 (.call "f" [.reference "again"]) rebinding = .ok (.int 1) after ∧
      openBindings 30 (.call "f" [.reference "again"]) rebinding = [] ∧
      after.store = ⟨[("a", .text "one"), ("again", .bool true)]⟩ := by
  have hends : ∃ after,
      eval 30 (.call "f" [.reference "again"]) rebinding = .ok (.int 1) after := ⟨_, rfl⟩
  obtain ⟨after, hends⟩ := hends
  exact ⟨after, hends, store_of_ended_eval hends⟩

end Machine

end ScriptStudio
