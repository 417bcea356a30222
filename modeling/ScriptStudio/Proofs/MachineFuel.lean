import ScriptStudio.Proofs.RunRelations

/-!
# The fuel of the machine

Fuel plays no part in what a run finds: a run that did not use up its fuel does the same with more
of it.

* `Improves`: two steps do the same from every machine, unless the first runs out of fuel.
  Sequencing keeps this.
* `runsImprove`: one more unit of fuel improves every run.
* `Improves.ok_of_le`: a run that has ended well ends in the same way with more fuel.
-/

namespace ScriptStudio

namespace Machine

/-- The steps do the same from every machine, unless the first runs out of fuel there. -/
def Improves {α : Type} (step step' : Exec α) : Prop :=
  ∀ machine, (∃ after, step machine = .error .exhausted after) ∨ step machine = step' machine

namespace Improves

variable {α β : Type}

theorem refl (step : Exec α) : Improves step step := fun _ => .inr rfl

theorem exhausted (step : Exec α) : Improves (throw .exhausted) step :=
  fun machine => .inl ⟨machine, rfl⟩

theorem trans {first second third : Exec α} (h : Improves first second)
    (h' : Improves second third) : Improves first third := by
  intro machine
  rcases h machine with hexhausted | hsame
  · exact .inl hexhausted
  · rw [hsame]
    exact h' machine

theorem bind {step step' : Exec α} {next next' : α → Exec β} (h : Improves step step')
    (hnext : ∀ a, Improves (next a) (next' a)) : Improves (step >>= next) (step' >>= next') := by
  intro machine
  rcases h machine with ⟨after, hexhausted⟩ | hsame
  · exact .inl ⟨after, bind_of_error hexhausted next⟩
  -- the first step does the same in both, so the second begins at the same machine
  · cases hended : step machine with
    | ok a after =>
      rw [bind_of_ok hended, bind_of_ok (hsame ▸ hended)]
      exact hnext a after
    | error stop after =>
      rw [bind_of_error hended, bind_of_error (hsame ▸ hended)]
      exact .inr rfl

theorem ite {condition : Prop} [Decidable condition] {step step' other other' : Exec α}
    (hstep : Improves step step') (hother : Improves other other') :
    Improves (if condition then step else other) (if condition then step' else other') := by
  split
  · exact hstep
  · exact hother

theorem of_le {run : Nat → Exec α} (h : ∀ fuel, Improves (run fuel) (run (fuel + 1)))
    {fuel more : Nat} (hle : fuel ≤ more) : Improves (run fuel) (run more) := by
  induction hle with
  | refl => exact refl _
  | step _ ih => exact ih.trans (h _)

/-- A run that has ended well ends in the same way with more fuel. -/
theorem ok_of_le {run : Nat → Exec α} (h : ∀ fuel, Improves (run fuel) (run (fuel + 1)))
    {fuel more : Nat} (hle : fuel ≤ more) {machine after : Machine} {a : α}
    (hended : run fuel machine = .ok a after) : run more machine = .ok a after := by
  rcases of_le h hle machine with ⟨stopped, hexhausted⟩ | hsame
  · rw [hended] at hexhausted
    cases hexhausted
  · rw [← hsame, hended]

end Improves

theorem Improves.stmtRules : StmtRules .full Improves where
  pure _ := refl _
  throw _ := refl _
  bind := bind
  lookup _ _ := refl _
  ask _ _ := refl _
  assign _ _ _ := refl _
  define _ _ := refl _
  say _ := refl _
  give _ := refl _
  unlessReturning hstep := (refl _).bind fun _ => ite (refl _) hstep

theorem Improves.zero : RunsRelated .full Improves 0 1 where
  eval _ _ := exhausted _
  call _ _ _ _ := exhausted _
  bindArguments _ _ _ _ := exhausted _
  exec _ _ := exhausted _
  execBlock _ _ := exhausted _
  execLoop _ _ _ _ := exhausted _
  execCount _ _ _ _ _ := exhausted _

theorem Improves.call_succ {fuel : Nat} (h : RunsRelated .full Improves fuel (fuel + 1))
    (name : String) (arguments : List Expr) :
    Improves (call (fuel + 1) name arguments) (call (fuel + 2) name arguments) := by
  have henter : Improves (enter fuel name arguments) (enter (fuel + 1) name arguments) :=
    (refl _).bind fun function => ite (refl _)
      ((h.bindArguments _ _ (fun _ _ => trivial) (Expr.allWithin_full arguments)).bind fun _ =>
        refl _)
  intro machine
  rw [call_succ_apply, call_succ_apply]
  exact (henter.bind fun function =>
    (h.exec function.body function.body.within_full).bind fun _ => refl _) machine

/-- One more unit of fuel improves every run. -/
theorem runsImprove (fuel : Nat) : RunsRelated .full Improves fuel (fuel + 1) := by
  induction fuel with
  | zero => exact Improves.zero
  | succ fuel ih =>
    exact Improves.stmtRules.succ ih fun name arguments _ _ => Improves.call_succ ih name arguments

end Machine

end ScriptStudio
