import ScriptStudio.Proofs.RunInPieces
import ScriptStudio.Proofs.Ungrouping

/-!
# Parentheses

Parentheses tell how a text is read. Once it is read they have no meaning of their own: a run with
them and a run without them do the same. They only take fuel, one unit each time that a pair of them
is passed, and so the run with parentheses is given its fuel once more for each pair there is.

* `Machine.SameBare`: machines that are the same without the parentheses of their functions.
* `Attained`, `Attains`: runs that end alike unless the first has too little fuel.
* `attainsAll`: programs that differ in parentheses run alike, by induction on fuel.
-/

namespace ScriptStudio

/-! ## Machines that differ in parentheses -/

/-- Names are bound in the same order, each to values that are related. -/
def Bindings.Rel {α : Type} (related : α → α → Prop) (bindings others : Bindings α) : Prop :=
  List.Forall₂ (fun entry other => other.1 = entry.1 ∧ related entry.2 other.2)
    bindings.entries others.entries

namespace Bindings

variable {α : Type} {related : α → α → Prop} {bindings others : Bindings α}

theorem Rel.get? (h : Rel related bindings others) (name : String) :
    Option.Rel related (bindings.get? name) (others.get? name) := by
  unfold Rel at h
  show Option.Rel related (bindings.entries.lookup name) (others.entries.lookup name)
  generalize bindings.entries = entries at h ⊢
  generalize others.entries = entries' at h ⊢
  induction h with
  | nil => exact .none
  | @cons entry entry' rest rest' hentry hrest ih =>
    obtain ⟨key, bound⟩ := entry
    obtain ⟨key', bound'⟩ := entry'
    obtain ⟨hkey, hbound⟩ := hentry
    obtain rfl : key' = key := hkey
    rw [List.lookup_cons, List.lookup_cons]
    cases name == key' with
    | true => exact .some hbound
    | false => exact ih

theorem Rel.set {value value' : α} (h : Rel related bindings others) (name : String)
    (hvalue : related value value') :
    Rel related (bindings.set name value) (others.set name value') := by
  unfold Rel at h ⊢
  show List.Forall₂ _ (setEntry name value bindings.entries) (setEntry name value' others.entries)
  generalize bindings.entries = entries at h ⊢
  generalize others.entries = entries' at h ⊢
  induction h with
  | nil => exact .cons ⟨rfl, hvalue⟩ .nil
  | @cons entry entry' rest rest' hentry hrest ih =>
    rw [setEntry, setEntry, hentry.1]
    split
    · exact .cons ⟨rfl, hvalue⟩ hrest
    · exact .cons hentry ih

end Bindings

/-- The function without the parentheses of its body. -/
def Function.ungroup (function : Function) : Function :=
  { function with body := function.body.ungroup }

/-- Functions that are the same without parentheses. -/
structure Function.SameBare (limit limit' : Nat) (function function' : Function) : Prop where
  name : function'.name = function.name
  parameters : function'.parameters = function.parameters
  body : Stmt.SameBare limit limit' function.body function'.body

theorem Function.SameBare.eq_ungroup {limit : Nat} {function function' : Function}
    (h : function.SameBare limit 0 function') : function' = function.ungroup := by
  obtain ⟨name, parameters, body⟩ := function'
  obtain ⟨rfl, rfl, hbody⟩ := h
  rw [Function.ungroup, ← Stmt.SameBare.eq_ungroup hbody]

/-- The machine without the parentheses of its functions. -/
def Machine.ungroup (machine : Machine) : Machine :=
  { machine with
    functions := ⟨machine.functions.entries.map fun entry => (entry.1, entry.2.ungroup)⟩ }

/-- How many parentheses the functions of a machine have. -/
def Machine.groups (machine : Machine) : Nat :=
  (machine.functions.entries.map fun entry => entry.2.body.groups).sum

namespace Machine

/-- Machines that are the same without the parentheses of their functions. -/
def SameBare (limit limit' : Nat) (machine other : Machine) : Prop :=
  ∃ functions : Bindings Function, other = { machine with functions := functions } ∧
    Bindings.Rel (Function.SameBare limit limit') machine.functions functions

section

variable {limit limit' : Nat}

variable {machine : Machine}

theorem SameBare.symm {other : Machine} (h : SameBare limit limit' machine other) :
    SameBare limit' limit other machine := by
  obtain ⟨functions, rfl, hrel⟩ := h
  refine ⟨machine.functions, rfl, List.Forall₂.flip (hrel.imp ?_)⟩
  rintro entry other ⟨hname, hfunction⟩
  exact ⟨hname.symm, hfunction.name.symm, hfunction.parameters.symm, hfunction.body.symm⟩

theorem sameBare_ungroup (h : machine.groups ≤ limit) :
    SameBare limit 0 machine machine.ungroup := by
  refine ⟨_, rfl, ?_⟩
  unfold Bindings.Rel
  rw [List.forall₂_map_right_iff, List.forall₂_same]
  intro entry hentry
  have hle : entry.2.body.groups ≤ machine.groups :=
    List.le_sum_of_mem (List.mem_map_of_mem hentry)
  exact ⟨rfl, rfl, rfl, Stmt.sameBare_ungroup (hle.trans h)⟩

theorem SameBare.eq_ungroup {other : Machine} (h : SameBare limit 0 machine other) :
    other = machine.ungroup := by
  obtain ⟨⟨entries⟩, rfl, hrel⟩ := h
  have hentries : List.Forall₂ Eq
      (machine.functions.entries.map fun entry => (entry.1, entry.2.ungroup)) entries := by
    refine List.forall₂_map_left_iff.mpr (hrel.imp ?_)
    rintro ⟨name, function⟩ ⟨name', function'⟩ ⟨hname, hfunction⟩
    exact Prod.ext hname.symm hfunction.eq_ungroup.symm
  rw [List.forall₂_eq_eq_eq] at hentries
  rw [← hentries]
  rfl

/-- A change that has nothing to do with functions. -/
theorem SameBare.keeps_modify {change : Machine → Machine}
    (hfunctions : ∀ machine, (change machine).functions = machine.functions)
    (hchange : ∀ machine functions, change { machine with functions := functions } =
      { change machine with functions := functions }) :
    Keeps (SameBare limit limit') (modify change) := by
  refine Matches.modify ?_
  rintro machine _ ⟨functions, rfl, hrel⟩
  refine ⟨functions, hchange machine functions, ?_⟩
  rw [hfunctions]
  exact hrel

theorem SameBare.keeps_lookup (name : String) : Keeps (SameBare limit limit') (lookup name) := by
  refine Keeps.lookup ?_
  rintro machine _ ⟨functions, rfl, -⟩
  rfl

theorem SameBare.keeps_assign (name : String) (value : Value) :
    Keeps (SameBare limit limit') (assign name value) :=
  SameBare.keeps_modify (fun _ => rfl) fun _ _ => rfl

theorem SameBare.keeps_mark (returning : Bool) (returned : Value) :
    Keeps (SameBare limit limit') (modify fun machine =>
      { machine with returning := returning, returned := returned }) :=
  SameBare.keeps_modify (fun _ => rfl) fun _ _ => rfl

theorem SameBare.keeps_print (text : String) : Keeps (SameBare limit limit') (print text) :=
  SameBare.keeps_modify (fun _ => rfl) fun _ _ => rfl

theorem SameBare.keeps_say (line : String) : Keeps (SameBare limit limit') (say line) :=
  Matches.bind ((SameBare.keeps_print line).bind fun _ => SameBare.keeps_print "\n") fun _ =>
    SameBare.keeps_modify (fun _ => rfl) fun _ _ => rfl

theorem SameBare.keeps_ask (prompt : String) : Keeps (SameBare limit limit') (ask prompt) := by
  refine Keeps.ask ?_ SameBare.keeps_print (fun _ => ?_) (fun _ _ => ?_) prompt
  · rintro machine _ ⟨functions, rfl, -⟩
    rfl
  · exact SameBare.keeps_modify (fun _ => rfl) fun _ _ => rfl
  · exact SameBare.keeps_modify (fun _ => rfl) fun _ _ => rfl

theorem SameBare.matches_define {function function' : Function}
    (h : function.SameBare limit limit' function') :
    Matches (SameBare limit limit') (define function) (define function') := by
  refine Matches.modify ?_
  rintro machine _ ⟨functions, rfl, hrel⟩
  rw [h.name]
  exact ⟨functions.set function.name function', rfl, hrel.set function.name h⟩

end

/-! ## Runs that may have less fuel -/

/-- Unless the first run runs out of fuel, the two end alike. -/
inductive Attained (related : Machine → Machine → Prop) {α : Type} :
    EStateM.Result Stop Machine α → EStateM.Result Stop Machine α → Prop
  | exhausted (after : Machine) (ended' : EStateM.Result Stop Machine α) :
    Attained related (.error .exhausted after) ended'
  | alike {ended ended' : EStateM.Result Stop Machine α} (h : Alike related ended ended') :
    Attained related ended ended'

/-- From related machines the second step attains what the first does. -/
def Attains {α : Type} (related : Machine → Machine → Prop) (step step' : Exec α) : Prop :=
  ∀ ⦃machine other⦄, related machine other → Attained related (step machine) (step' other)

section

variable {α β : Type} {related : Machine → Machine → Prop}

variable {step step' : Exec α}

theorem Matches.attains (h : Matches related step step') : Attains related step step' :=
  fun _ _ hrelated => .alike (h hrelated)

theorem Attained.mono {weaker : Machine → Machine → Prop}
    {ended ended' : EStateM.Result Stop Machine α} (h : Attained related ended ended')
    (himp : ∀ machine other, related machine other → weaker machine other) :
    Attained weaker ended ended' := by
  cases h with
  | exhausted after => exact .exhausted after ended'
  | alike halike => exact .alike (halike.mono himp)

theorem Attains.exhausted (step' : Exec α) : Attains related (throw .exhausted) step' :=
  fun machine other _ => .exhausted machine (step' other)

theorem Attains.bind {next next' : α → Exec β} (hstep : Attains related step step')
    (hnext : ∀ a, Attains related (next a) (next' a)) :
    Attains related (step >>= next) (step' >>= next') := by
  intro machine other h
  have hends := hstep h
  generalize hended : step machine = ended at hends
  generalize hended' : step' other = ended' at hends
  rcases hends with ⟨after⟩ | ⟨⟨a, hafter⟩ | ⟨stop, hafter⟩⟩
  · rw [bind_of_error hended]
    exact .exhausted after _
  · rw [bind_of_ok hended, bind_of_ok hended']
    exact hnext a hafter
  · rw [bind_of_error hended, bind_of_error hended']
    exact .alike (.error stop hafter)

theorem Attains.get_bind {next next' : Machine → Exec α}
    (hnext : ∀ ⦃machine other⦄, related machine other →
      Attains related (next machine) (next' other)) :
    Attains related (get >>= next) (get >>= next') :=
  fun _ _ h => hnext h h

theorem Attains.ite {condition : Prop} [Decidable condition] {other other' : Exec α}
    (hstep : Attains related step step') (hother : Attains related other other') :
    Attains related (if condition then step else other) (if condition then step' else other') := by
  split
  · exact hstep
  · exact hother

end

theorem SameBare.lookupFunction_bind {α : Type} {limit limit' : Nat} {name : String}
    {next next' : Function → Exec α}
    (hnext : ∀ function function', Function.SameBare limit limit' function function' →
      Attains (SameBare limit limit') (next function) (next' function')) :
    Attains (SameBare limit limit') (lookupFunction name >>= next)
      (lookupFunction name >>= next') := by
  rintro machine _ ⟨functions, rfl, hrel⟩
  have hlookup := lookupFunction_apply name machine
  have hlookup' := lookupFunction_apply name { machine with functions := functions }
  have hfound := hrel.get? name
  generalize machine.functions.get? name = found at hlookup hfound
  generalize functions.get? name = found' at hlookup' hfound
  cases hfound with
  | none =>
    rw [bind_of_error hlookup, bind_of_error hlookup']
    exact .alike (.error _ ⟨functions, rfl, hrel⟩)
  | some hfunction =>
    rw [bind_of_ok hlookup, bind_of_ok hlookup']
    exact hnext _ _ hfunction ⟨functions, rfl, hrel⟩

/-! ## The fuel that parentheses take -/

theorem exists_succ_of_le {limit fuel fuel' : Nat} (h : (limit + 1) * (fuel + 1) ≤ fuel') :
    ∃ rest, fuel' = rest + 1 ∧ (limit + 1) * fuel ≤ rest := by
  rw [Nat.mul_succ] at h
  exact ⟨fuel' - 1, by omega, by omega⟩

theorem exists_core (e : Expr) {fuel fuel' : Nat} (h : e.groups + fuel < fuel') :
    ∃ core rest, eval fuel' e = eval (rest + 1) core ∧ fuel ≤ rest ∧ core.ungroup = e.ungroup ∧
      core.groups ≤ e.groups ∧ ∀ inner, core ≠ .group inner := by
  obtain ⟨rest, rfl⟩ : ∃ rest, fuel' = rest + 1 := ⟨fuel' - 1, by omega⟩
  cases e with
  | group inner =>
    rw [Expr.groups] at h
    obtain ⟨core, rest', heval, hrest, hsame, hle, hcore⟩ :=
      exists_core inner (show inner.groups + fuel < rest by omega)
    exact ⟨core, rest', heval, hrest, hsame, hle.trans (Nat.le_succ _), hcore⟩
  | _ => exact ⟨_, rest, rfl, by omega, rfl, le_rfl, by simp⟩

/-- With one amount of fuel, programs that differ in parentheses run alike if the second has that
fuel once more for each of its parentheses. -/
structure AttainsAll (limit limit' fuel : Nat) : Prop where
  eval : ∀ {fuel' : Nat} {e e' : Expr}, (limit' + 1) * fuel ≤ fuel' →
    Expr.SameBare limit limit' e e' →
    Attains (SameBare limit limit') (eval fuel e) (eval fuel' e')
  call : ∀ {fuel' : Nat} (name : String) {arguments arguments' : List Expr},
    (limit' + 1) * fuel ≤ fuel' →
    List.Forall₂ (Expr.SameBare limit limit') arguments arguments' →
    Attains (SameBare limit limit') (call fuel name arguments) (call fuel' name arguments')
  bindArguments : ∀ {fuel' : Nat} (parameters : List String) {arguments arguments' : List Expr},
    (limit' + 1) * fuel ≤ fuel' →
    List.Forall₂ (Expr.SameBare limit limit') arguments arguments' →
    Attains (SameBare limit limit') (bindArguments fuel parameters arguments)
      (bindArguments fuel' parameters arguments')
  exec : ∀ {fuel' : Nat} {s s' : Stmt}, (limit' + 1) * fuel ≤ fuel' →
    Stmt.SameBare limit limit' s s' →
    Attains (SameBare limit limit') (exec fuel s) (exec fuel' s')
  execBlock : ∀ {fuel' : Nat} {body body' : List Stmt}, (limit' + 1) * fuel ≤ fuel' →
    List.Forall₂ (Stmt.SameBare limit limit') body body' →
    Attains (SameBare limit limit') (execBlock fuel body) (execBlock fuel' body')
  execLoop : ∀ {fuel' : Nat} {condition condition' : Expr} {body body' : Stmt},
    (limit' + 1) * fuel ≤ fuel' → Expr.SameBare limit limit' condition condition' →
    Stmt.SameBare limit limit' body body' →
    Attains (SameBare limit limit') (execLoop fuel condition body) (execLoop fuel' condition' body')
  execCount : ∀ {fuel' : Nat} (count : Count) (current : Number) {body body' : Stmt},
    (limit' + 1) * fuel ≤ fuel' → Stmt.SameBare limit limit' body body' →
    Attains (SameBare limit limit') (execCount fuel count body current)
      (execCount fuel' count body' current)

section

variable {limit limit' fuel : Nat}

theorem AttainsAll.zero : AttainsAll limit limit' 0 where
  eval _ _ := Attains.exhausted _
  call _ _ _ _ _ := Attains.exhausted _
  bindArguments _ _ _ _ _ := Attains.exhausted _
  exec _ _ := Attains.exhausted _
  execBlock _ _ := Attains.exhausted _
  execLoop _ _ _ := Attains.exhausted _
  execCount _ _ _ _ _ _ := Attains.exhausted _

variable (hall : AttainsAll limit limit' fuel) {fuel' : Nat}

include hall

theorem AttainsAll.eval_succ {e e' : Expr} (hfuel : (limit' + 1) * (fuel + 1) ≤ fuel')
    (he : Expr.SameBare limit limit' e e') :
    Attains (SameBare limit limit') (Machine.eval (fuel + 1) e) (Machine.eval fuel' e') := by
  rw [Nat.mul_succ] at hfuel
  by_cases hgroup : ∃ inner, e = .group inner
  · obtain ⟨inner, rfl⟩ := hgroup
    exact hall.eval (by omega) ⟨he.same, (Nat.le_succ _).trans he.groups_le, he.groups_le'⟩
  -- Parentheses around the second expression are taken off before its form is looked at.
  · have hneeded : e'.groups + (limit' + 1) * fuel < fuel' := by
      have := he.groups_le'
      omega
    obtain ⟨core, rest, heval, hrest, hsame, hle, hcore⟩ := exists_core e' hneeded
    have hbare : Expr.SameBare limit limit' e core :=
      ⟨hsame.trans he.same, he.groups_le, hle.trans he.groups_le'⟩
    rw [heval]
    cases hbare.parallel (fun inner h => hgroup ⟨inner, h⟩) hcore with
    | literal kind value => exact Matches.attains (Keeps.pure value)
    | reference name => exact Matches.attains (SameBare.keeps_lookup name)
    | binary op hleft hright =>
      exact (hall.eval hrest hleft).bind fun _ => (hall.eval hrest hright).bind fun _ =>
        Matches.attains (Keeps.lift _)
    | unary op hoperand =>
      exact (hall.eval hrest hoperand).bind fun _ => Matches.attains (Keeps.lift _)
    | input hprompt =>
      exact (hall.eval hrest hprompt).bind fun _ =>
        Matches.attains ((Keeps.lift _).bind fun text => SameBare.keeps_ask text)
    | call name harguments => exact hall.call name hrest harguments
    | unknown node => exact Matches.attains (Keeps.throw _)

theorem AttainsAll.call_succ (name : String) {arguments arguments' : List Expr}
    (hfuel : (limit' + 1) * fuel ≤ fuel')
    (harguments : List.Forall₂ (Expr.SameBare limit limit') arguments arguments') :
    Attains (SameBare limit limit') (Machine.call (fuel + 1) name arguments)
      (Machine.call (fuel' + 1) name arguments') := by
  rw [Machine.call, Machine.call]
  refine SameBare.lookupFunction_bind fun function function' hfunction => ?_
  rw [hfunction.parameters, harguments.length_eq]
  refine Attains.ite ((Matches.attains (Keeps.throw _)).bind fun _ => ?_) ?_
  all_goals
    refine Attains.get_bind fun before before' hbefore => ?_
    refine (hall.bindArguments _ hfuel harguments).bind fun _ => ?_
    refine (Matches.attains (SameBare.keeps_mark _ _)).bind fun _ => ?_
    refine (hall.exec hfuel hfunction.body).bind fun _ => ?_
    refine Attains.get_bind fun machine other h => ?_
    obtain ⟨_, rfl, -⟩ := hbefore
    obtain ⟨_, rfl, -⟩ := h
    refine Matches.attains (Matches.bind ?_ fun _ => Keeps.pure _)
    exact SameBare.keeps_modify (fun _ => rfl) fun _ _ => rfl

theorem AttainsAll.bindArguments_succ (parameters : List String) {arguments arguments' : List Expr}
    (hfuel : (limit' + 1) * fuel ≤ fuel')
    (harguments : List.Forall₂ (Expr.SameBare limit limit') arguments arguments') :
    Attains (SameBare limit limit') (Machine.bindArguments (fuel + 1) parameters arguments)
      (Machine.bindArguments (fuel' + 1) parameters arguments') := by
  cases parameters with
  | nil => exact Matches.attains (Keeps.pure ())
  | cons parameter parameters =>
    cases harguments with
    | nil => exact Matches.attains (Keeps.pure ())
    | cons hargument hrest =>
      exact (hall.eval hfuel hargument).bind fun value =>
        (Matches.attains (SameBare.keeps_assign parameter value)).bind fun _ =>
          hall.bindArguments parameters hfuel hrest

theorem AttainsAll.evalOption (absent : Value) {e e' : Option Expr}
    (hfuel : (limit' + 1) * fuel ≤ fuel') (he : Option.Rel (Expr.SameBare limit limit') e e') :
    Attains (SameBare limit limit') (Machine.evalOption fuel absent e)
      (Machine.evalOption fuel' absent e') := by
  cases he with
  | none => exact Matches.attains (Keeps.pure absent)
  | some he => exact hall.eval hfuel he

theorem AttainsAll.countLoop (name : String) {body body' : Stmt} (start stop step : Value)
    (hfuel : (limit' + 1) * fuel ≤ fuel') (hbody : Stmt.SameBare limit limit' body body') :
    Attains (SameBare limit limit') (Machine.countLoop fuel name body start stop step)
      (Machine.countLoop fuel' name body' start stop step) := by
  unfold Machine.countLoop
  split
  · exact (Matches.attains (SameBare.keeps_assign name _)).bind fun _ =>
      Attains.ite (hall.execCount _ _ hfuel hbody) (Matches.attains (Keeps.throw _))
  · exact Matches.attains (Keeps.throw _)

theorem AttainsAll.exec_succ {s s' : Stmt} (hfuel : (limit' + 1) * fuel ≤ fuel')
    (hs : Stmt.SameBare limit limit' s s') :
    Attains (SameBare limit limit') (Machine.exec (fuel + 1) s) (Machine.exec (fuel' + 1) s') := by
  cases hs.parallel with
  | say he =>
    exact (hall.eval hfuel he).bind fun _ =>
      Matches.attains ((Keeps.lift _).bind fun line => SameBare.keeps_say line)
  | assign name he =>
    exact (hall.eval hfuel he).bind fun value => Matches.attains (SameBare.keeps_assign name value)
  | block hbody => exact hall.execBlock hfuel hbody
  | define name parameters hbody =>
    exact Matches.attains (SameBare.matches_define ⟨rfl, rfl, hbody⟩)
  | give he =>
    rw [exec_give, exec_give]
    exact (hall.evalOption _ hfuel he).bind fun _ =>
      Matches.attains (SameBare.keeps_mark _ _)
  | branch hcondition hthen helse =>
    refine (hall.eval hfuel hcondition).bind fun _ => Attains.ite (hall.exec hfuel hthen) ?_
    cases helse with
    | none => exact Matches.attains (Keeps.pure ())
    | some helse => exact hall.exec hfuel helse
  | loop hcondition hbody => exact hall.execLoop hfuel hcondition hbody
  | count name hstart hstop hstep hbody =>
    rw [exec_count, exec_count]
    exact (hall.eval hfuel hstart).bind fun _ => (hall.eval hfuel hstop).bind fun _ =>
      (hall.evalOption _ hfuel hstep).bind fun _ => hall.countLoop name _ _ _ hfuel hbody
  | unknown node => exact Matches.attains (Keeps.throw _)

theorem AttainsAll.succ : AttainsAll limit limit' (fuel + 1) where
  eval hfuel he := hall.eval_succ hfuel he
  call name _ _ hfuel harguments := by
    obtain ⟨rest, rfl, hrest⟩ := exists_succ_of_le hfuel
    exact hall.call_succ name hrest harguments
  bindArguments parameters _ _ hfuel harguments := by
    obtain ⟨rest, rfl, hrest⟩ := exists_succ_of_le hfuel
    exact hall.bindArguments_succ parameters hrest harguments
  exec hfuel hs := by
    obtain ⟨rest, rfl, hrest⟩ := exists_succ_of_le hfuel
    exact hall.exec_succ hrest hs
  execBlock hfuel hbody := by
    obtain ⟨rest, rfl, hrest⟩ := exists_succ_of_le hfuel
    cases hbody with
    | nil => exact Matches.attains (Keeps.pure ())
    | cons hstatement htail =>
      rw [Machine.execBlock, Machine.execBlock]
      refine Attains.get_bind fun machine other h => ?_
      obtain ⟨_, rfl, -⟩ := h
      exact Attains.ite (Matches.attains (Keeps.pure ()))
        ((hall.exec hrest hstatement).bind fun _ => hall.execBlock hrest htail)
  execLoop hfuel hcondition hbody := by
    obtain ⟨rest, rfl, hrest⟩ := exists_succ_of_le hfuel
    exact (hall.eval hrest hcondition).bind fun _ => Attains.ite
      ((hall.exec hrest hbody).bind fun _ => hall.execLoop hrest hcondition hbody)
      (Matches.attains (Keeps.pure ()))
  execCount count current _ _ hfuel hbody := by
    obtain ⟨rest, rfl, hrest⟩ := exists_succ_of_le hfuel
    exact Attains.ite
      ((hall.exec hrest hbody).bind fun _ => (Matches.attains (Keeps.lift _)).bind fun _ =>
        (Matches.attains (SameBare.keeps_assign _ _)).bind fun _ => hall.execCount _ _ hrest hbody)
      (Matches.attains (Keeps.pure ()))

end

/-! ## Whole programs -/

theorem attainsAll (limit limit' fuel : Nat) : AttainsAll limit limit' fuel := by
  induction fuel with
  | zero => exact AttainsAll.zero
  | succ fuel ih => exact ih.succ

section

variable {limit limit' fuel fuel' : Nat}

theorem attains_execAll {statements statements' : List Stmt}
    (hfuel : (limit' + 1) * fuel ≤ fuel')
    (h : List.Forall₂ (Stmt.SameBare limit limit') statements statements') :
    Attains (SameBare limit limit') (execAll fuel statements) (execAll fuel' statements') := by
  induction h with
  | nil => exact Matches.attains (Keeps.pure ())
  | cons hstatement hrest ih =>
    exact ((attainsAll limit limit' fuel).exec hfuel hstatement).bind fun _ => ih

theorem attains_execReported {statements statements' : List Stmt}
    (hfuel : (limit' + 1) * fuel ≤ fuel')
    (h : List.Forall₂ (Stmt.SameBare limit limit') statements statements') :
    Attains (SameBare limit limit') (execReported fuel statements)
      (execReported fuel' statements') := by
  intro machine other hrelated
  have hends := attains_execAll hfuel h hrelated
  unfold execReported
  generalize hended : execAll fuel statements machine = ended at hends
  generalize hended' : execAll fuel' statements' other = ended' at hends
  rcases hends with ⟨after⟩ | ⟨⟨a, hafter⟩ | ⟨stop, hafter⟩⟩
  · rw [tryCatch_of_error hended]
    exact .exhausted after _
  · rw [tryCatch_of_ok hended, tryCatch_of_ok hended']
    exact .alike (.ok a hafter)
  · rw [tryCatch_of_error hended, tryCatch_of_error hended']
    cases stop with
    | fault cause => exact .alike (SameBare.keeps_say _ hafter)
    | _ => exact .alike (.error _ hafter)

theorem attained_interpret {program program' : Program} {machine other : Machine}
    (hfuel : (limit' + 1) * fuel ≤ fuel')
    (hprogram : List.Forall₂ (Stmt.SameBare limit limit') program.statements program'.statements)
    (hmachine : SameBare limit limit' machine other) :
    Attained (SameBare limit limit') (interpret fuel program machine)
      (interpret fuel' program' other) := by
  have hblank :
      SameBare limit limit' { machine with record := #[] } { other with record := #[] } := by
    obtain ⟨functions, rfl, hrel⟩ := hmachine
    exact ⟨functions, rfl, hrel⟩
  rw [interpret_apply, interpret_apply]
  refine (attains_execReported hfuel hprogram).bind (fun _ => ?_) hblank
  refine Attains.get_bind fun after after' hafter => ?_
  obtain ⟨_, rfl, -⟩ := hafter
  exact Matches.attains (Keeps.pure _)

end

/-- Parentheses have no meaning. A program and the machine it runs on may lose all of them: either
run ends alike if the other has ended, with the same lines or the same stop, and the two machines
differ only in the parentheses of their functions. All that parentheses take is fuel. -/
theorem interpret_ungroup (fuel extra : Nat) (program : Program) (machine : Machine) :
    Attained (fun after bare => bare = after.ungroup) (interpret fuel program machine)
        (interpret (fuel + extra) program.ungroup machine.ungroup) ∧
      Attained (fun bare after => bare = after.ungroup)
        (interpret fuel program.ungroup machine.ungroup)
        (interpret ((program.groups + machine.groups + 1) * fuel + extra) program machine) := by
  have hprogram := program.forall₂_ungroup (Nat.le_add_right program.groups machine.groups)
  have hmachine := sameBare_ungroup (Nat.le_add_left machine.groups program.groups)
  constructor
  · exact (attained_interpret (by omega) hprogram hmachine).mono fun _ _ h => h.eq_ungroup
  · have hprogram' := List.Forall₂.flip (hprogram.imp fun _ _ h => h.symm)
    exact (attained_interpret (Nat.le_add_right _ _) hprogram' hmachine.symm).mono
      fun _ _ h => h.symm.eq_ungroup

end Machine

end ScriptStudio
