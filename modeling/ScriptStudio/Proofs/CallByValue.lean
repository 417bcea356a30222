import Mathlib.Data.List.Forall2
import ScriptStudio.Proofs.OpenCalls

/-!
# Arguments and parameters

A call binds each parameter as soon as its argument has a value, in the variables of the caller. An
argument therefore sees the parameters before its own in place of variables of the caller that have
the same names, and so do the functions that it calls.

* `evalArguments`: the values of arguments in the scope of the caller.
* `evalInTurn`: the values that a call gives to its parameters.
* `Separate`: a condition on names under which the two are the same.
-/

namespace ScriptStudio

namespace Bindings

variable {α : Type}

theorem get?_setAll_of_notMem {names : List String} {name : String} (h : name ∉ names)
    (bindings : Bindings α) (values : List α) :
    (bindings.setAll (names.zip values)).get? name = bindings.get? name := by
  induction names generalizing bindings values with
  | nil => rfl
  | cons first names ih =>
    obtain ⟨hfirst, hrest⟩ := not_or.mp (List.mem_cons.not.mp h)
    cases values with
    | nil => rfl
    | cons value values =>
      rw [List.zip_cons_cons, setAll, ih hrest, get?_set_of_ne hfirst]

/-- Distinct names are bound to their own values. -/
theorem forall₂_get?_setAll {names : List String} {values : List α} (hdistinct : names.Nodup)
    (hlength : names.length = values.length) (bindings : Bindings α) :
    List.Forall₂ (fun name value => (bindings.setAll (names.zip values)).get? name = some value)
      names values := by
  induction names generalizing bindings values with
  | nil =>
    obtain rfl := List.length_eq_zero_iff.mp hlength.symm
    exact .nil
  | cons first names ih =>
    obtain ⟨hfirst, hrest⟩ := List.nodup_cons.mp hdistinct
    cases values with
    | nil => cases hlength
    | cons value values =>
      rw [List.zip_cons_cons, setAll]
      refine .cons ?_ (ih hrest (Nat.succ.inj hlength) _)
      rw [get?_setAll_of_notMem hfirst, get?_set_self]

end Bindings

namespace Machine

/-! ## Arguments in the scope of the caller and in turn -/

variable {fuel : Nat} {arguments : List Expr} {machine after : Machine} {value : Value}

/-- The values of arguments in the scope of the caller, from left to right. -/
def evalArguments : (fuel : Nat) → List Expr → Exec (List Value)
  | 0, _ => throw .exhausted
  | _ + 1, [] => return []
  | fuel + 1, argument :: arguments => do
    let value ← eval fuel argument
    let values ← evalArguments fuel arguments
    return value :: values

/-- The values of arguments where each parameter is bound before the next argument is evaluated. -/
def evalInTurn : (fuel : Nat) → List String → List Expr → Exec (List Value)
  | 0, _, _ => throw .exhausted
  | fuel + 1, parameter :: parameters, argument :: arguments => do
    let value ← eval fuel argument
    assign parameter value
    let values ← evalInTurn fuel parameters arguments
    return value :: values
  | _ + 1, _, _ => return []

theorem bindArguments_eq (fuel : Nat) (parameters : List String) (arguments : List Expr) :
    bindArguments fuel parameters arguments =
      evalInTurn fuel parameters arguments >>= fun _ => pure () := by
  induction fuel generalizing parameters arguments with
  | zero =>
    rw [bindArguments, evalInTurn]
    rfl
  | succ fuel ih =>
    cases parameters <;> cases arguments <;> simp [bindArguments, evalInTurn, ih]

theorem store_of_evalInTurn {parameters : List String} {values : List Value}
    (hlength : arguments.length = parameters.length)
    (h : evalInTurn fuel parameters arguments machine = .ok values after) :
    values.length = parameters.length ∧
      after.store = machine.store.setAll (parameters.zip values) := by
  induction fuel generalizing parameters arguments machine values with
  | zero =>
    rw [evalInTurn] at h
    cases h
  | succ fuel ih =>
    rcases parameters with _ | ⟨parameter, parameters⟩
    · rw [evalInTurn] at h
      · cases h
        exact ⟨rfl, rfl⟩
      · simp
    rcases arguments with _ | ⟨argument, arguments⟩
    · cases hlength
    rw [evalInTurn] at h
    obtain ⟨value, middle, hvalue, hrest⟩ := bind_eq_ok_iff.mp h
    rw [bind_of_ok (assign_apply parameter value middle)] at hrest
    obtain ⟨later, last, hlast, hpure⟩ := bind_eq_ok_iff.mp hrest
    cases hpure
    obtain ⟨hcount, hstore⟩ := ih (Nat.succ.inj hlength) hlast
    refine ⟨by simp [hcount], ?_⟩
    rw [hstore, List.zip_cons_cons, Bindings.setAll, store_of_eval hvalue]

theorem enter_eq_ok_iff {name : String} {start : Machine} {function : Function}
    (hfunction : machine.functions.get? name = some function)
    (hlength : arguments.length = function.parameters.length) :
    enter fuel name arguments machine = .ok function start ↔
      ∃ values bound, evalInTurn fuel function.parameters arguments machine = .ok values bound ∧
        start = { bound with returning := false, returned := .nothing } := by
  have hlookup : lookupFunction name machine = .ok function machine := by
    rw [lookupFunction_apply, hfunction]
  rw [enter, bind_of_ok hlookup, if_neg (not_not_intro hlength), bindArguments_eq, bind_assoc]
  constructor
  · intro h
    obtain ⟨values, bound, hvalues, hmarks⟩ := bind_eq_ok_iff.mp h
    cases hmarks
    exact ⟨values, bound, hvalues, rfl⟩
  · rintro ⟨values, bound, hvalues, rfl⟩
    rw [bind_of_ok hvalues]
    rfl

/-! ## Arguments that do not name earlier parameters -/

/-- No argument names a parameter before its own, and all calls in arguments are allowed. -/
def Apart (mayCall : String → Prop) : (bound parameters : List String) → List Expr → Prop
  | bound, parameter :: parameters, argument :: arguments =>
    argument.Within ⟨fun name => name ∉ bound, mayCall, True⟩ ∧
      Apart mayCall (parameter :: bound) parameters arguments
  | _, _, _ => True

/-- Neither an argument nor a function that it can reach names a parameter before its own. -/
def Separate (machine : Machine) (parameters : List String) (arguments : List Expr) : Prop :=
  ∃ mayCall, Apart mayCall [] parameters arguments ∧
    machine.Knows ⟨fun name => name ∉ parameters.dropLast, mayCall, True⟩

theorem eval_of_unseen {vocabulary outer : Vocabulary} {seen : String → Prop} {e : Expr}
    {store : Bindings Value} (hseen : ∀ name, vocabulary.mayName name → seen name)
    (hwidens : Widens outer vocabulary (Agree vocabulary seen)) (he : e.Within outer)
    (hknows : machine.Knows vocabulary)
    (hstore : ∀ name, seen name → store.get? name = machine.store.get? name)
    (h : eval fuel e machine = .ok value after) :
    eval fuel e { machine with store := store } = .ok value { after with store := store } ∧
      after.Knows vocabulary := by
  have hkeeps := ((respects_agree hseen).evalsAlike hwidens fuel).eval e he
  have halike := hkeeps (⟨hknows, store, rfl, hstore⟩ : Agree vocabulary seen machine _)
  rw [h] at halike
  cases hother : eval fuel e { machine with store := store } with
  | error stop other =>
    rw [hother] at halike
    cases halike
  | ok value' other =>
    have hsame : other.store = store := store_of_eval hother
    rw [hother] at halike
    cases halike with
    | ok _ hagree =>
      obtain ⟨hknows', store', rfl, -⟩ := hagree
      cases hsame
      exact ⟨rfl, hknows'⟩

theorem evalInTurn_of_apart {mayCall : String → Prop} {hidden : List String}
    {bound parameters : List String} {store : Bindings Value} {values : List Value}
    (hhidden : parameters ≠ [] → ∀ name, name ∈ bound ∨ name ∈ parameters.dropLast → name ∈ hidden)
    (hknows : machine.Knows ⟨fun name => name ∉ hidden, mayCall, True⟩)
    (hapart : Apart mayCall bound parameters arguments)
    (hlength : arguments.length = parameters.length)
    (hstore : ∀ name, name ∉ bound → store.get? name = machine.store.get? name)
    (hvalues : evalArguments fuel arguments machine = .ok values after) :
    evalInTurn fuel parameters arguments { machine with store := store } =
      .ok values { after with store := store.setAll (parameters.zip values) } := by
  induction fuel generalizing bound parameters arguments machine store values with
  | zero =>
    rw [evalArguments] at hvalues
    cases hvalues
  | succ fuel ih =>
    rcases parameters with _ | ⟨parameter, parameters⟩
    · obtain rfl := List.length_eq_zero_iff.mp hlength
      rw [evalArguments] at hvalues
      cases hvalues
      rw [evalInTurn]
      · rfl
      · simp
    rcases arguments with _ | ⟨argument, arguments⟩
    · cases hlength
    rw [evalArguments] at hvalues
    obtain ⟨value, middle, hvalue, hrest⟩ := bind_eq_ok_iff.mp hvalues
    obtain ⟨later, last, hlater, hpure⟩ := bind_eq_ok_iff.mp hrest
    cases hpure
    obtain ⟨hargument, hapart⟩ := hapart
    have hseen (name : String) (hname : name ∉ hidden) : name ∉ bound := fun hbound =>
      hname (hhidden (List.cons_ne_nil _ _) name (Or.inl hbound))
    have hwidens : Widens ⟨fun name => name ∉ bound, mayCall, True⟩
        ⟨fun name => name ∉ hidden, mayCall, True⟩
        (Agree ⟨fun name => name ∉ hidden, mayCall, True⟩ fun name => name ∉ bound) :=
      ⟨fun name hname => Agree.lookup hname, fun _ hname => hname, fun hask => hask⟩
    obtain ⟨hinTurn, hknows'⟩ := eval_of_unseen hseen hwidens hargument hknows hstore hvalue
    have hhidden' : parameters ≠ [] → ∀ name,
        name ∈ parameter :: bound ∨ name ∈ parameters.dropLast → name ∈ hidden := by
      intro hne name hname
      refine hhidden (List.cons_ne_nil _ _) name ?_
      rw [List.dropLast_cons_of_ne_nil hne]
      rcases hname with hname | hname
      · rcases List.mem_cons.mp hname with rfl | hbound
        · exact Or.inr List.mem_cons_self
        · exact Or.inl hbound
      · exact Or.inr (List.mem_cons_of_mem _ hname)
    have hstore' (name : String) (hname : name ∉ parameter :: bound) :
        (store.set parameter value).get? name = middle.store.get? name := by
      obtain ⟨hother, hbound⟩ := not_or.mp (List.mem_cons.not.mp hname)
      rw [Bindings.get?_set_of_ne hother, hstore name hbound, store_of_eval hvalue]
    have hrest := ih hhidden' hknows' hapart (Nat.succ.inj hlength) hstore' hlater
    rw [evalInTurn, bind_of_ok hinTurn, bind_of_ok (assign_apply parameter value _),
      bind_of_ok hrest]
    rfl

/-- Call by value: the body of a function with distinct parameters starts with each of them bound to
the value of its argument in the scope of the caller exactly if the arguments have these values also
in turn, that is, if no binding of an earlier parameter changes the value of a later argument. Where
no argument names an earlier parameter, itself or through functions, the call is the execution of
the body from there. -/
theorem enter_by_value {fuel : Nat} {name : String} {arguments : List Expr}
    {machine after : Machine} {function : Function} {values : List Value}
    (hfunction : machine.functions.get? name = some function)
    (hdistinct : function.parameters.Nodup)
    (hlength : arguments.length = function.parameters.length)
    (hvalues : evalArguments fuel arguments machine = .ok values after) :
    ((∃ start, enter fuel name arguments machine = .ok function start ∧
        List.Forall₂ (fun parameter value => start.store.get? parameter = some value)
          function.parameters values) ↔
      ∃ bound, evalInTurn fuel function.parameters arguments machine = .ok values bound) ∧
    (machine.Separate function.parameters arguments →
      ∃ start : Machine,
        start = { after with
          store := machine.store.setAll (function.parameters.zip values)
          returning := false
          returned := .nothing } ∧
        enter fuel name arguments machine = .ok function start ∧
        call (fuel + 1) name arguments machine =
          (exec fuel function.body >>= fun _ => leave machine.store) start) := by
  refine ⟨⟨?_, ?_⟩, ?_⟩
  · rintro ⟨start, henter, hbound⟩
    obtain ⟨values', bound, hinTurn, rfl⟩ := (enter_eq_ok_iff hfunction hlength).mp henter
    obtain ⟨hcount, hstore⟩ := store_of_evalInTurn hlength hinTurn
    have hbound' := Bindings.forall₂_get?_setAll hdistinct hcount.symm machine.store
    rw [← hstore] at hbound'
    have hsame : values = values' := by
      refine Relator.RightUnique.forall₂ ?_ hbound hbound'
      intro parameter value value' hvalue hvalue'
      exact Option.some.inj (hvalue.symm.trans hvalue')
    exact ⟨bound, hsame ▸ hinTurn⟩
  · rintro ⟨bound, hinTurn⟩
    obtain ⟨hcount, hstore⟩ := store_of_evalInTurn hlength hinTurn
    refine ⟨_, (enter_eq_ok_iff hfunction hlength).mpr ⟨values, bound, hinTurn, rfl⟩, ?_⟩
    show List.Forall₂ (fun parameter value => bound.store.get? parameter = some value) _ _
    rw [hstore]
    exact Bindings.forall₂_get?_setAll hdistinct hcount.symm machine.store
  · rintro ⟨mayCall, hapart, hknows⟩
    have hhidden : function.parameters ≠ [] → ∀ name,
        name ∈ [] ∨ name ∈ function.parameters.dropLast → name ∈ function.parameters.dropLast := by
      intro _ name hname
      simpa using hname
    have hinTurn := evalInTurn_of_apart hhidden hknows hapart hlength (fun _ _ => rfl) hvalues
    have henter := (enter_eq_ok_iff hfunction hlength).mpr ⟨values, _, hinTurn, rfl⟩
    exact ⟨_, rfl, henter, by rw [call_succ_apply, bind_of_ok henter]⟩

/-- A function of two parameters. -/
def showing : Function := ⟨"show", ["a", "b"], .block [.say (.reference "a")]⟩

/-- A machine whose variables have the names of the parameters of its function. -/
def swapping : Machine :=
  { store := ⟨[("a", .text "one"), ("b", .text "two")]⟩
    functions := ⟨[("show", showing)]⟩ }

/-- Swapped arguments are not passed by value, since the second one sees the first parameter.
Arguments in the order of the parameters are. -/
theorem enter_swapping :
    (evalArguments 9 [.reference "b", .reference "a"] swapping =
        .ok [.text "two", .text "one"] swapping ∧
      ¬∃ start, enter 9 "show" [.reference "b", .reference "a"] swapping = .ok showing start ∧
        List.Forall₂ (fun parameter value => start.store.get? parameter = some value)
          showing.parameters [.text "two", .text "one"]) ∧
    enter 9 "show" [.reference "a", .reference "b"] swapping = .ok showing swapping := by
  have hfunction : swapping.functions.get? "show" = some showing := by rfl
  constructor
  · have hvalues : evalArguments 9 [.reference "b", .reference "a"] swapping =
        .ok [.text "two", .text "one"] swapping := by rfl
    have hinTurn : evalInTurn 9 showing.parameters [.reference "b", .reference "a"] swapping =
        .ok [.text "two", .text "two"]
          { swapping with store := ⟨[("a", .text "two"), ("b", .text "two")]⟩ } := by rfl
    refine ⟨hvalues, fun hstart => ?_⟩
    obtain ⟨bound, hbound⟩ := (enter_by_value hfunction (by decide) rfl hvalues).1.mp hstart
    rw [hinTurn] at hbound
    simp at hbound
  · have hvalues : evalArguments 9 [.reference "a", .reference "b"] swapping =
        .ok [.text "one", .text "two"] swapping := by rfl
    have hapart : Apart (fun _ => False) [] ["a", "b"] [.reference "a", .reference "b"] :=
      ⟨List.not_mem_nil, (by decide : "b" ∉ ["a"]), trivial⟩
    obtain ⟨start, rfl, henter, -⟩ := (enter_by_value hfunction (by decide) rfl hvalues).2
      ⟨fun _ => False, hapart, fun _ _ hcall => hcall.elim⟩
    exact henter

end Machine

end ScriptStudio
