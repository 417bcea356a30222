import ScriptStudio.Proofs.Agreement

/-!
# What holds throughout a run

A property of the machine holds throughout a run, however the run ends, if it is kept by the few
actions that touch the machine. As with two machines side by side, a vocabulary says which of these
actions a program and its functions can take. A program that does not ask is never stopped by the
end of the input or by a break.

* `Sound`, `Preserves`: a step that ends with the property intact.
* `Upholds`: what a property owes to a vocabulary.
* `Upholds.preservesAll`: a run preserves every property that does.
-/

namespace ScriptStudio

namespace Machine

/-! ## Steps that keep a property -/

/-- A run has ended with a property intact. The input has stopped it only if it may ask. -/
inductive Sound (vocabulary : Vocabulary) (holds : Machine → Prop) {α : Type} :
    EStateM.Result Stop Machine α → Prop
  | ok (a : α) {machine : Machine} (h : holds machine) : Sound vocabulary holds (.ok a machine)
  | error {stop : Stop} {machine : Machine}
    (hstop : stop.isFromInput = true → vocabulary.mayAsk) (h : holds machine) :
    Sound vocabulary holds (.error stop machine)

theorem Sound.mono {vocabulary : Vocabulary} {holds weaker : Machine → Prop} {α : Type}
    {ended : EStateM.Result Stop Machine α} (h : Sound vocabulary holds ended)
    (himp : ∀ ⦃machine⦄, holds machine → weaker machine) : Sound vocabulary weaker ended := by
  cases h with
  | ok a hafter => exact .ok a (himp hafter)
  | error hstop hafter => exact .error hstop (himp hafter)

/-- From a machine with the property, a step ends with the property intact. -/
def Preserves {α : Type} (vocabulary : Vocabulary) (holds : Machine → Prop) (step : Exec α) :
    Prop :=
  ∀ ⦃machine⦄, holds machine → Sound vocabulary holds (step machine)

section

variable {α β : Type} {vocabulary : Vocabulary} {holds : Machine → Prop}

theorem Preserves.pure (a : α) : Preserves vocabulary holds (pure a) := fun _ h => .ok a h

theorem Preserves.throw {stop : Stop} (hstop : stop.isFromInput = false) :
    Preserves vocabulary holds (throw stop : Exec α) := by
  intro machine h
  refine .error ?_ h
  rw [hstop]
  rintro ⟨⟩

theorem Preserves.modify {change : Machine → Machine}
    (hchange : ∀ ⦃machine⦄, holds machine → holds (change machine)) :
    Preserves vocabulary holds (modify change) :=
  fun _ h => .ok () (hchange h)

theorem Preserves.bind {step : Exec α} {next : α → Exec β}
    (hstep : Preserves vocabulary holds step)
    (hnext : ∀ a, Preserves vocabulary holds (next a)) :
    Preserves vocabulary holds (step >>= next) := by
  intro machine h
  have hends := hstep h
  generalize hended : step machine = ended at hends
  cases hends with
  | ok a hafter =>
    rw [bind_of_ok hended]
    exact hnext a hafter
  | error hstop hafter =>
    rw [bind_of_error hended]
    exact .error hstop hafter

theorem Preserves.get_bind {next : Machine → Exec α}
    (hnext : ∀ ⦃machine⦄, holds machine → Preserves vocabulary holds (next machine)) :
    Preserves vocabulary holds (get >>= next) :=
  fun _ h => hnext h h

theorem Preserves.ite {condition : Prop} [Decidable condition] {step other : Exec α}
    (hstep : Preserves vocabulary holds step) (hother : Preserves vocabulary holds other) :
    Preserves vocabulary holds (if condition then step else other) := by
  split
  · exact hstep
  · exact hother

theorem Preserves.lookup (name : String) : Preserves vocabulary holds (lookup name) := by
  intro machine h
  rw [lookup_apply]
  cases machine.store.get? name with
  | none => exact Preserves.throw rfl h
  | some value => exact .ok value h

end

/-! ## Properties that answer for a vocabulary -/

/-- Every action that a vocabulary allows keeps the property, and functions keep to the
vocabulary. -/
structure Upholds (vocabulary : Vocabulary) (holds : Machine → Prop) : Prop where
  knows : ∀ ⦃machine⦄, holds machine → machine.Knows vocabulary
  keeps_assign : ∀ name value, vocabulary.mayName name → ∀ ⦃machine⦄, holds machine →
    holds { machine with store := machine.store.set name value }
  keeps_define : ∀ function : Function, function.Within vocabulary → ∀ ⦃machine⦄, holds machine →
    holds { machine with functions := machine.functions.set function.name function }
  keeps_say : ∀ line ⦃machine⦄, holds machine →
    holds { machine with
      screen := machine.screen ++ line ++ "\n"
      record := machine.record.push line }
  preserves_ask : vocabulary.mayAsk → ∀ prompt, Preserves vocabulary holds (ask prompt)
  keeps_mark : ∀ returning returned ⦃machine⦄, holds machine →
    holds { machine with returning := returning, returned := returned }
  keeps_restore : ∀ ⦃before machine⦄, holds before → holds machine →
    holds { machine with store := before.store }

/-- A step preserves the property, as a relation to any other step. -/
abbrev PreservesLeft (vocabulary : Vocabulary) (holds : Machine → Prop) {α : Type}
    (step _other : Exec α) : Prop :=
  Preserves vocabulary holds step

section

variable {vocabulary : Vocabulary} {holds : Machine → Prop} {fuel : Nat}

theorem Upholds.preservesSay (hupholds : Upholds vocabulary holds) (line : String) :
    Preserves vocabulary holds (say line) :=
  fun _ h => .ok () (hupholds.keeps_say line h)

variable {name : String}

theorem Upholds.preservesAssign (hupholds : Upholds vocabulary holds)
    (hname : vocabulary.mayName name) (value : Value) :
    Preserves vocabulary holds (assign name value) :=
  Preserves.modify (hupholds.keeps_assign name value hname)

theorem Upholds.lookupFunction_bind {α : Type} (hupholds : Upholds vocabulary holds)
    (hname : vocabulary.mayCall name) {next : Function → Exec α}
    (hnext : ∀ function, function.Within vocabulary → Preserves vocabulary holds (next function)) :
    Preserves vocabulary holds (lookupFunction name >>= next) := by
  intro machine h
  have hlookup := lookupFunction_apply name machine
  cases hfound : machine.functions.get? name with
  | none =>
    rw [hfound] at hlookup
    rw [bind_of_error hlookup]
    exact Preserves.throw rfl h
  | some function =>
    rw [hfound] at hlookup
    rw [bind_of_ok hlookup]
    exact hnext function (hupholds.knows h name function hname hfound) h

variable (hupholds : Upholds vocabulary holds)

include hupholds

theorem Upholds.stmtRules : StmtRules vocabulary (PreservesLeft vocabulary holds) where
  pure := Preserves.pure
  throw := Preserves.throw
  bind := Preserves.bind
  lookup name _ := Preserves.lookup name
  ask := hupholds.preserves_ask
  assign _ value hname := hupholds.preservesAssign hname value
  define function hfunction := Preserves.modify (hupholds.keeps_define function hfunction)
  say := hupholds.preservesSay
  give _ := Preserves.modify (hupholds.keeps_mark _ _)
  unlessReturning hstep :=
    Preserves.get_bind fun _ _ => Preserves.ite (Preserves.pure ()) hstep

theorem Upholds.call_succ
    (ih : RunsRelated vocabulary (PreservesLeft vocabulary holds) fuel fuel) (name : String)
    (arguments : List Expr) (hname : vocabulary.mayCall name)
    (harguments : Expr.AllWithin vocabulary arguments) :
    Preserves vocabulary holds (call (fuel + 1) name arguments) := by
  rw [call]
  refine hupholds.lookupFunction_bind hname fun function hfunction => ?_
  refine Preserves.ite ((Preserves.throw rfl).bind fun _ => ?_) ?_
  all_goals
    refine Preserves.get_bind fun before hbefore => ?_
    refine (ih.bindArguments _ _ hfunction.1 harguments).bind fun _ => ?_
    refine (Preserves.modify (hupholds.keeps_mark _ _)).bind fun _ => ?_
    refine (ih.exec _ hfunction.2).bind fun _ => ?_
    refine Preserves.get_bind fun _ _ => ?_
    refine Preserves.bind (Preserves.modify ?_) fun _ => Preserves.pure _
    intro machine h
    exact hupholds.keeps_restore hbefore (hupholds.keeps_mark false machine.returned h)

/-! ## Whole runs -/

/-- Every run within a vocabulary preserves every property that answers for it. -/
theorem Upholds.preservesAll (fuel : Nat) :
    RunsRelated vocabulary (PreservesLeft vocabulary holds) fuel fuel := by
  induction fuel with
  | zero => exact hupholds.stmtRules.zero
  | succ fuel ih => exact hupholds.stmtRules.succ ih (hupholds.call_succ ih)

theorem Upholds.preservesExecAll (fuel : Nat) {statements : List Stmt}
    (hstatements : Stmt.AllWithin vocabulary statements) :
    Preserves vocabulary holds (execAll fuel statements) := by
  induction statements with
  | nil => exact Preserves.pure ()
  | cons statement rest ih =>
    exact ((hupholds.preservesAll fuel).exec statement hstatements.1).bind fun _ =>
      ih hstatements.2

end

end Machine

end ScriptStudio
