import ScriptStudio.Proofs.RunRelations

/-!
# Two machines side by side

A relation between machines is kept by every run of a program if it is kept by the few actions that
touch the machine: reading and binding a variable, finding and defining a function, speaking,
asking, marking a return and putting variables back. It only has to answer for those that the
vocabulary of the program allows.

* `Matches`, `Keeps`: two steps that end alike from related machines.
* `Respects`: what a relation owes to a vocabulary.
* `Respects.runsAlike`, `Respects.evalsAlike`: a run keeps every relation that does. An expression
  may name more than the functions it calls.
-/

namespace ScriptStudio

namespace Machine

/-! ## Steps that end alike -/

/-- Two runs end in the same way, and the machines they leave are related. -/
inductive Alike (related : Machine → Machine → Prop) {α : Type} :
    EStateM.Result Stop Machine α → EStateM.Result Stop Machine α → Prop
  | ok (a : α) {machine other : Machine} (h : related machine other) :
    Alike related (.ok a machine) (.ok a other)
  | error (stop : Stop) {machine other : Machine} (h : related machine other) :
    Alike related (.error stop machine) (.error stop other)

theorem Alike.mono {α : Type} {related weaker : Machine → Machine → Prop}
    {ended ended' : EStateM.Result Stop Machine α} (h : Alike related ended ended')
    (himp : ∀ machine other, related machine other → weaker machine other) :
    Alike weaker ended ended' := by
  cases h with
  | ok a hafter => exact .ok a (himp _ _ hafter)
  | error stop hafter => exact .error stop (himp _ _ hafter)

/-- From related machines two steps end alike. -/
def Matches {α : Type} (related : Machine → Machine → Prop) (step step' : Exec α) : Prop :=
  ∀ ⦃machine other⦄, related machine other → Alike related (step machine) (step' other)

/-- From related machines a step ends alike. -/
abbrev Keeps {α : Type} (related : Machine → Machine → Prop) (step : Exec α) : Prop :=
  Matches related step step

section

variable {α β : Type} {related : Machine → Machine → Prop}

theorem Keeps.pure (a : α) : Keeps related (pure a) := fun _ _ h => .ok a h

theorem Keeps.throw (stop : Stop) : Keeps related (throw stop : Exec α) :=
  fun _ _ h => .error stop h

theorem Matches.bind {step step' : Exec α} {next next' : α → Exec β}
    (hstep : Matches related step step') (hnext : ∀ a, Matches related (next a) (next' a)) :
    Matches related (step >>= next) (step' >>= next') := by
  intro machine other h
  show Alike related (EStateM.bind step next machine) (EStateM.bind step' next' other)
  unfold EStateM.bind
  have hends := hstep h
  revert hends
  generalize step machine = ended
  generalize step' other = ended'
  rintro (⟨a, hafter⟩ | ⟨stop, hafter⟩)
  · exact hnext a hafter
  · exact .error stop hafter

theorem Matches.modify {change change' : Machine → Machine}
    (hchange : ∀ ⦃machine other⦄, related machine other →
      related (change machine) (change' other)) :
    Matches related (modify change) (modify change') :=
  fun _ _ h => .ok () (hchange h)

theorem Matches.get_bind {next next' : Machine → Exec α}
    (hnext : ∀ ⦃machine other⦄, related machine other →
      Matches related (next machine) (next' other)) :
    Matches related (get >>= next) (get >>= next') :=
  fun _ _ h => hnext h h

theorem Matches.ite {condition : Prop} [Decidable condition] {step step' other other' : Exec α}
    (hstep : Matches related step step') (hother : Matches related other other') :
    Matches related (if condition then step else other) (if condition then step' else other') := by
  split
  · exact hstep
  · exact hother

theorem Keeps.lift (result : Except Stop α) : Keeps related (lift result) := by
  cases result with
  | ok a => exact Keeps.pure a
  | error stop => exact Keeps.throw stop

theorem Keeps.lookup {name : String}
    (hsame : ∀ ⦃machine other⦄, related machine other →
      other.store.get? name = machine.store.get? name) :
    Keeps related (lookup name) := by
  intro machine other h
  rw [lookup_apply, lookup_apply, hsame h]
  cases machine.store.get? name with
  | none => exact .error _ h
  | some value => exact .ok value h

theorem Keeps.ask
    (hsame : ∀ ⦃machine other⦄, related machine other → other.input = machine.input)
    (hprint : ∀ text, Keeps related (print text))
    (hlines : ∀ rest, Keeps related (modify fun machine => { machine with input := .lines rest }))
    (hreplies : ∀ prompt rest, Keeps related (modify fun machine =>
      { machine with asked := machine.asked.push prompt, input := .replies rest }))
    (prompt : String) : Keeps related (ask prompt) := by
  refine Matches.get_bind fun machine other h => ?_
  rw [hsame h]
  rcases machine.input with (_ | ⟨line, rest⟩) | pending
  · exact (hprint prompt).bind fun _ => Keeps.throw _
  · exact (hprint prompt).bind fun _ => (hlines rest).bind fun _ =>
      Matches.ite (Keeps.throw _) (Keeps.pure _)
  · exact (hreplies prompt pending.tail).bind fun _ => Keeps.pure _

end

/-! ## Relations that answer for a vocabulary -/

/-- Every action that a vocabulary allows keeps the relation. -/
structure Respects (vocabulary : Vocabulary) (related : Machine → Machine → Prop) : Prop where
  keeps_lookup : ∀ name, vocabulary.mayName name → Keeps related (lookup name)
  keeps_assign : ∀ name value, vocabulary.mayName name → Keeps related (assign name value)
  /-- Both machines know the same function, and it keeps to the vocabulary in its turn. -/
  same_function : ∀ name, vocabulary.mayCall name → ∀ ⦃machine other⦄, related machine other →
    other.functions.get? name = machine.functions.get? name ∧
      ∀ function, machine.functions.get? name = some function → function.Within vocabulary
  keeps_define : ∀ function : Function, function.Within vocabulary →
    Keeps related (define function)
  keeps_say : ∀ line, Keeps related (say line)
  keeps_ask : vocabulary.mayAsk → ∀ prompt, Keeps related (ask prompt)
  same_marks : ∀ ⦃machine other⦄, related machine other →
    other.returning = machine.returning ∧ other.returned = machine.returned
  keeps_mark : ∀ returning returned ⦃machine other⦄, related machine other →
    related { machine with returning := returning, returned := returned }
      { other with returning := returning, returned := returned }
  keeps_restore : ∀ ⦃machine other before before'⦄, related before before' →
    related machine other →
    related { machine with store := before.store } { other with store := before'.store }

section

variable {α : Type} {vocabulary : Vocabulary} {related : Machine → Machine → Prop}

theorem Respects.lookupFunction_bind (hrespects : Respects vocabulary related) {name : String}
    (hname : vocabulary.mayCall name) {next : Function → Exec α}
    (hnext : ∀ function, function.Within vocabulary → Keeps related (next function)) :
    Keeps related (lookupFunction name >>= next) := by
  intro machine other h
  obtain ⟨hsame, hwithin⟩ := hrespects.same_function name hname h
  have hlookup := lookupFunction_apply name machine
  have hlookup' := lookupFunction_apply name other
  rw [hsame] at hlookup'
  cases hfound : machine.functions.get? name with
  | none =>
    rw [hfound] at hlookup hlookup'
    rw [bind_of_error hlookup, bind_of_error hlookup']
    exact .error _ h
  | some function =>
    rw [hfound] at hlookup hlookup'
    rw [bind_of_ok hlookup, bind_of_ok hlookup']
    exact hnext function (hwithin function hfound) h

/-- An expression may name more than the functions that it calls. -/
structure Widens (outer vocabulary : Vocabulary) (related : Machine → Machine → Prop) : Prop where
  keeps_lookup : ∀ name, outer.mayName name → Keeps related (lookup name)
  mayCall : ∀ name, outer.mayCall name → vocabulary.mayCall name
  mayAsk : outer.mayAsk → vocabulary.mayAsk

variable {outer : Vocabulary} {fuel : Nat} (hrespects : Respects vocabulary related)
  (hwidens : Widens outer vocabulary related)

include hrespects

theorem Respects.widens : Widens vocabulary vocabulary related :=
  ⟨hrespects.keeps_lookup, fun _ hname => hname, fun hask => hask⟩

include hwidens in
theorem Respects.exprRules : ExprRules outer vocabulary (Matches related) where
  pure := Keeps.pure
  throw _ := Keeps.throw _
  bind := Matches.bind
  lookup := hwidens.keeps_lookup
  ask hask := hrespects.keeps_ask (hwidens.mayAsk hask)
  assign := hrespects.keeps_assign

theorem Respects.stmtRules : StmtRules vocabulary (Matches related) where
  toExprRules := hrespects.exprRules hrespects.widens
  define := hrespects.keeps_define
  say := hrespects.keeps_say
  give _ := Matches.modify (hrespects.keeps_mark _ _)
  unlessReturning hstep := by
    refine Matches.get_bind fun machine other h => ?_
    rw [(hrespects.same_marks h).1]
    exact Matches.ite (Keeps.pure ()) hstep

include hwidens in
theorem Respects.call_succ (hevals : EvalsRelated outer vocabulary (Matches related) fuel fuel)
    (hexec : ∀ s : Stmt, s.Within vocabulary → Keeps related (exec fuel s))
    (name : String) (arguments : List Expr) (hname : outer.mayCall name)
    (harguments : Expr.AllWithin outer arguments) :
    Keeps related (call (fuel + 1) name arguments) := by
  rw [call]
  refine hrespects.lookupFunction_bind (hwidens.mayCall name hname) fun function hfunction => ?_
  refine Matches.ite ((Keeps.throw _).bind fun _ => ?_) ?_
  all_goals
    refine Matches.get_bind fun before before' hbefore => ?_
    refine (hevals.bindArguments _ _ hfunction.1 harguments).bind fun _ => ?_
    refine (Matches.modify (hrespects.keeps_mark _ _)).bind fun _ => ?_
    refine (hexec _ hfunction.2).bind fun _ => ?_
    refine Matches.get_bind fun machine other h => ?_
    rw [(hrespects.same_marks h).2]
    refine Matches.bind (Matches.modify ?_) fun _ => Keeps.pure _
    intro machine other h
    rw [(hrespects.same_marks h).2]
    exact hrespects.keeps_restore hbefore (hrespects.keeps_mark false _ h)

/-! ## Whole runs -/

/-- Every run within a vocabulary keeps every relation that answers for it. -/
theorem Respects.runsAlike (fuel : Nat) : RunsRelated vocabulary (Matches related) fuel fuel := by
  induction fuel with
  | zero => exact hrespects.stmtRules.zero
  | succ fuel ih =>
    exact hrespects.stmtRules.succ ih
      (hrespects.call_succ hrespects.widens ih.toEvalsRelated ih.exec)

include hwidens in
/-- The evaluation of an expression keeps the relation also where the expression names more than its
functions do. -/
theorem Respects.evalsAlike (fuel : Nat) :
    EvalsRelated outer vocabulary (Matches related) fuel fuel := by
  induction fuel with
  | zero => exact (hrespects.exprRules hwidens).zero
  | succ fuel ih =>
    exact (hrespects.exprRules hwidens).succ ih
      (hrespects.call_succ hwidens ih (hrespects.runsAlike fuel).exec)

theorem Respects.keeps_execAll (fuel : Nat) {statements : List Stmt}
    (hstatements : Stmt.AllWithin vocabulary statements) :
    Keeps related (execAll fuel statements) := by
  induction statements with
  | nil => exact Keeps.pure ()
  | cons statement rest ih =>
    exact ((hrespects.runsAlike fuel).exec statement hstatements.1).bind fun _ =>
      ih hstatements.2

end

end Machine

end ScriptStudio
