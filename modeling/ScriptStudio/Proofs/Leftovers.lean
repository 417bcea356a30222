import ScriptStudio.Proofs.RunInPieces

/-!
# What one run leaves to the next

A run starts with the machine that the run before it has left. Besides variables and functions that
machine holds a screen, a record, the questions asked, the value of the last return and the mark of
a return. This module shows which of these the next run can see: the mark, and nothing else.

* `Blind`: a step that does not depend on the value of the last return. `runsBlind` shows that no
  run does, because a call forgets the value before its body begins.
* `SamePresent`, `respects_samePresent`: nothing depends on what was printed and asked before.
* `SameTraces`: what can be seen of two runs.
-/

namespace ScriptStudio

namespace Machine

/-! ## The value of the last return -/

/-- The machines differ at most in the value of the last return. -/
def SameButReturned (machine other : Machine) : Prop :=
  ∃ value, other = { machine with returned := value }

/-- A step that does not depend on the value of the last return. -/
abbrev Blind {α : Type} (step : Exec α) : Prop := Keeps SameButReturned step

theorem SameButReturned.refl (machine : Machine) : SameButReturned machine machine :=
  ⟨machine.returned, rfl⟩

theorem Alike.refl {α : Type} {related : Machine → Machine → Prop}
    (hrelated : ∀ machine, related machine machine) (ended : EStateM.Result Stop Machine α) :
    Alike related ended ended := by
  cases ended with
  | ok a after => exact .ok a (hrelated after)
  | error stop after => exact .error stop (hrelated after)

theorem Alike.trans {α : Type} {related related' joined : Machine → Machine → Prop}
    (hjoined : ∀ first second third, related first second → related' second third →
      joined first third)
    {ended ended' ended'' : EStateM.Result Stop Machine α} (h : Alike related ended ended')
    (h' : Alike related' ended' ended'') : Alike joined ended ended'' := by
  cases h with
  | ok a hfirst =>
    cases h' with
    | ok _ hsecond => exact .ok a (hjoined _ _ _ hfirst hsecond)
  | error stop hfirst =>
    cases h' with
    | error _ hsecond => exact .error stop (hjoined _ _ _ hfirst hsecond)

theorem Blind.modify {change : Machine → Machine}
    (hchange : ∀ machine value, change { machine with returned := value } =
      { change machine with returned := value }) : Blind (modify change) := by
  refine Matches.modify ?_
  rintro machine _ ⟨value, rfl⟩
  exact ⟨value, hchange machine value⟩

theorem Blind.assign (name : String) (value : Value) : Blind (assign name value) :=
  Blind.modify fun _ _ => rfl

theorem Blind.print (text : String) : Blind (print text) := Blind.modify fun _ _ => rfl

theorem Blind.say (line : String) : Blind (say line) :=
  ((Blind.print line).bind fun _ => Blind.print "\n").bind fun _ => Blind.modify fun _ _ => rfl

theorem Blind.ask (prompt : String) : Blind (ask prompt) := by
  refine Keeps.ask ?_ Blind.print (fun _ => ?_) (fun _ _ => ?_) prompt
  · rintro machine _ ⟨value, rfl⟩
    rfl
  · exact Blind.modify fun _ _ => rfl
  · exact Blind.modify fun _ _ => rfl

theorem Blind.lookup (name : String) : Blind (lookup name) := by
  refine Keeps.lookup ?_
  rintro machine _ ⟨value, rfl⟩
  rfl

theorem Blind.lookupFunction (name : String) : Blind (lookupFunction name) := by
  rintro machine _ ⟨value, rfl⟩
  rw [lookupFunction_apply, lookupFunction_apply]
  cases machine.functions.get? name with
  | none => exact .error _ ⟨value, rfl⟩
  | some function => exact .ok function ⟨value, rfl⟩

theorem Blind.enter {fuel : Nat} {arguments : List Expr}
    (harguments : ∀ parameters, Blind (bindArguments fuel parameters arguments))
    (name : String) : Blind (enter fuel name arguments) := by
  refine (Blind.lookupFunction name).bind fun function => ?_
  refine Matches.ite (Keeps.throw _) ?_
  refine (harguments function.parameters).bind fun _ => ?_
  refine Matches.bind (Matches.modify ?_) fun _ => Keeps.pure function
  rintro machine _ ⟨value, rfl⟩
  exact SameButReturned.refl _

theorem Blind.bind_of_forgets {α β : Type} {step : Exec α} (hstep : Blind step)
    (hforgets : ∀ ⦃machine a after⦄, step machine = .ok a after → after.returned = .nothing)
    (next : α → Exec β) : Blind (step >>= next) := by
  intro machine other h
  have halike := hstep h
  generalize hended : step machine = ended at halike
  generalize hended' : step other = ended' at halike
  cases halike with
  | error stop hafter =>
    rw [bind_of_error hended, bind_of_error hended']
    exact .error stop hafter
  | ok a hafter =>
    obtain ⟨value, rfl⟩ := hafter
    rename_i after
    have hsame : { after with returned := value } = after := by
      rw [show value = after.returned from (hforgets hended').trans (hforgets hended).symm]
    rw [bind_of_ok hended, bind_of_ok hended', hsame]
    exact Alike.refl SameButReturned.refl _

theorem Blind.call {fuel : Nat} {arguments : List Expr}
    (harguments : ∀ parameters, Blind (bindArguments fuel parameters arguments))
    (name : String) : Blind (call (fuel + 1) name arguments) := by
  rintro machine _ ⟨value, rfl⟩
  rw [call_succ_apply, call_succ_apply]
  exact (Blind.enter harguments name).bind_of_forgets (fun _ _ _ => returned_of_enter) _
    ⟨value, rfl⟩

theorem Blind.stmtRules : StmtRules .full (Matches SameButReturned) where
  pure := Keeps.pure
  throw _ := Keeps.throw _
  bind := Matches.bind
  lookup name _ := Blind.lookup name
  ask _ := Blind.ask
  assign name value _ := Blind.assign name value
  define _ _ := Blind.modify fun _ _ => rfl
  say := Blind.say
  give value := by
    -- A return sets the value anew, so that afterwards the machines are the same.
    refine Matches.modify ?_
    rintro machine _ ⟨_, rfl⟩
    exact SameButReturned.refl _
  unlessReturning hstep := by
    refine Matches.get_bind ?_
    rintro machine _ ⟨_, rfl⟩
    exact Matches.ite (Keeps.pure ()) hstep

/-- Nothing depends on the value of the last return. -/
theorem runsBlind (fuel : Nat) : RunsRelated .full (Matches SameButReturned) fuel fuel := by
  induction fuel with
  | zero => exact Blind.stmtRules.zero
  | succ fuel ih =>
    refine Blind.stmtRules.succ ih fun name arguments _ harguments => ?_
    exact Blind.call (fun parameters => ih.bindArguments parameters arguments
      (fun _ _ => trivial) harguments) name

theorem Blind.execAll (fuel : Nat) (statements : List Stmt) :
    Blind (execAll fuel statements) := by
  induction statements with
  | nil => exact Keeps.pure ()
  | cons statement rest ih =>
    exact ((runsBlind fuel).exec statement statement.within_full).bind fun _ => ih

theorem Blind.execReported (fuel : Nat) (statements : List Stmt) :
    Blind (execReported fuel statements) := by
  refine Keeps.tryCatch (Blind.execAll fuel statements) fun stop => ?_
  cases stop with
  | fault cause => exact Blind.say _
  | _ => exact Keeps.throw _

/-! ## What was printed and asked before -/

/-- The machines differ only in what was printed and asked before, and have gone on from there in
the same way. -/
def SamePresent (before before' machine other : Machine) : Prop :=
  ∃ printed questions,
    machine.screen = before.screen ++ printed ∧ machine.asked = before.asked ++ questions ∧
    other = { machine with
      screen := before'.screen ++ printed
      asked := before'.asked ++ questions }

section

variable {before before' : Machine}

theorem SamePresent.modify {change : Machine → Machine}
    (hscreen : ∀ machine, (change machine).screen = machine.screen)
    (hasked : ∀ machine, (change machine).asked = machine.asked)
    (hchange : ∀ machine screen asked, change { machine with screen := screen, asked := asked } =
      { change machine with screen := screen, asked := asked }) :
    Keeps (SamePresent before before') (modify change) := by
  refine Matches.modify ?_
  rintro machine _ ⟨printed, questions, hprinted, hquestions, rfl⟩
  exact ⟨printed, questions, (hscreen machine).trans hprinted, (hasked machine).trans hquestions,
    hchange machine _ _⟩

theorem SamePresent.print (text : String) :
    Keeps (SamePresent before before') (print text) := by
  refine Matches.modify ?_
  rintro machine _ ⟨printed, questions, hprinted, hquestions, rfl⟩
  refine ⟨printed ++ text, questions, ?_, hquestions, ?_⟩
  · rw [hprinted, String.append_assoc]
  · rw [String.append_assoc]

theorem SamePresent.say (line : String) : Keeps (SamePresent before before') (say line) :=
  ((SamePresent.print line).bind fun _ => SamePresent.print "\n").bind fun _ =>
    SamePresent.modify (fun _ => rfl) (fun _ => rfl) fun _ _ _ => rfl

theorem SamePresent.ask (prompt : String) : Keeps (SamePresent before before') (ask prompt) := by
  refine Keeps.ask ?_ SamePresent.print (fun _ => ?_) (fun question rest => ?_) prompt
  · rintro machine _ ⟨_, _, _, _, rfl⟩
    rfl
  · exact SamePresent.modify (fun _ => rfl) (fun _ => rfl) fun _ _ _ => rfl
  · refine Matches.modify ?_
    rintro machine _ ⟨printed, questions, hprinted, hquestions, rfl⟩
    refine ⟨printed, questions.push question, hprinted, ?_, ?_⟩
    · rw [hquestions, Array.push_append]
    · rw [Array.push_append]

/-- No action looks at the screen or at the questions. -/
theorem respects_samePresent : Respects .full (SamePresent before before') where
  keeps_lookup name _ := by
    refine Keeps.lookup ?_
    rintro machine _ ⟨_, _, _, _, rfl⟩
    rfl
  keeps_assign _ _ _ := SamePresent.modify (fun _ => rfl) (fun _ => rfl) fun _ _ _ => rfl
  same_function _ _ := by
    rintro machine _ ⟨_, _, _, _, rfl⟩
    exact ⟨rfl, fun function _ => function.within_full⟩
  keeps_define _ _ := SamePresent.modify (fun _ => rfl) (fun _ => rfl) fun _ _ _ => rfl
  keeps_say := SamePresent.say
  keeps_ask _ := SamePresent.ask
  same_marks := by
    rintro machine _ ⟨_, _, _, _, rfl⟩
    exact ⟨rfl, rfl⟩
  keeps_mark _ _ := by
    rintro machine _ ⟨printed, questions, hprinted, hquestions, rfl⟩
    exact ⟨printed, questions, hprinted, hquestions, rfl⟩
  keeps_restore := by
    rintro machine _ saved _ ⟨_, _, _, _, rfl⟩ ⟨printed, questions, hprinted, hquestions, rfl⟩
    exact ⟨printed, questions, hprinted, hquestions, rfl⟩

end

/-! ## Two runs of one program -/

/-- What can be seen of two runs is the same: what they print, say and ask, what they read, and the
variables and functions that they leave. -/
structure SameTraces (before before' after after' : Machine) : Prop where
  store : after'.store = after.store
  functions : after'.functions = after.functions
  record : after'.record = after.record
  input : after'.input = after.input
  screen : ∃ printed, after.screen = before.screen ++ printed ∧
    after'.screen = before'.screen ++ printed
  asked : ∃ questions, after.asked = before.asked ++ questions ∧
    after'.asked = before'.asked ++ questions

theorem SameTraces.of_present {before before' after middle after' : Machine}
    (h : SamePresent before before' after middle) (h' : SameButReturned middle after') :
    SameTraces before before' after after' := by
  obtain ⟨printed, questions, hprinted, hquestions, rfl⟩ := h
  obtain ⟨value, rfl⟩ := h'
  exact ⟨rfl, rfl, rfl, rfl, ⟨printed, hprinted, rfl⟩, ⟨questions, hquestions, rfl⟩⟩

theorem interpret_alike (fuel : Nat) (program : Program) (input : Input) {machine other : Machine}
    (hstore : other.store = machine.store) (hfunctions : other.functions = machine.functions)
    (hreturning : other.returning = machine.returning) :
    Alike (SameTraces machine other) (interpret fuel program { machine with input := input })
      (interpret fuel program { other with input := input }) := by
  -- The way leads over the first machine with the screen and the questions of the second.
  let between : Machine := { machine with
    input := input
    record := #[]
    screen := other.screen
    asked := other.asked }
  have hpresent :
      SamePresent machine other { machine with input := input, record := #[] } between :=
    ⟨"", #[], by simp, by simp, by simp [between]⟩
  have hreturned : SameButReturned between { other with input := input, record := #[] } := by
    refine ⟨other.returned, ?_⟩
    simp only [between, ← hstore, ← hfunctions, ← hreturning]
  have hruns : Alike (SameTraces machine other)
      (execReported fuel program.statements { machine with input := input, record := #[] })
      (execReported fuel program.statements { other with input := input, record := #[] }) := by
    refine Alike.trans ?_
      (respects_samePresent.keeps_execReported fuel (Stmt.allWithin_full _) hpresent)
      (Blind.execReported fuel _ hreturned)
    intro first second third hfirst hsecond
    exact SameTraces.of_present hfirst hsecond
  exact Alike.interpret (fun _ _ hafter => hafter.record) hruns

/-- A program of one block that says one line. -/
def blockProgram : Program := ⟨[.block [.say (.literal .string (.text "in the block"))]]⟩

/-- The block is skipped if the mark of a return is set. -/
theorem interpret_blockProgram (machine : Machine) :
    ∃ after, interpret 4 blockProgram machine =
      .ok (if machine.returning then [] else ["in the block"]) after := by
  obtain ⟨store, functions, record, screen, input, asked, returning, returned⟩ := machine
  cases returning with
  | true => exact ⟨_, rfl⟩
  | false => exact ⟨_, rfl⟩

/-- Of two machines with the same variables and functions, every program shows the same exactly if
both or none of them have the mark of a return set. Neither the value of the last return nor the
record, the screen and the questions of earlier runs make a difference. -/
theorem interpret_alike_iff (machine other : Machine) (hstore : other.store = machine.store)
    (hfunctions : other.functions = machine.functions) :
    (∀ fuel program input, Alike (SameTraces machine other)
        (interpret fuel program { machine with input := input })
        (interpret fuel program { other with input := input })) ↔
      other.returning = machine.returning := by
  constructor
  · intro hsame
    have halike := hsame 4 blockProgram (.lines [])
    obtain ⟨after, hended⟩ := interpret_blockProgram { machine with input := .lines [] }
    obtain ⟨after', hended'⟩ := interpret_blockProgram { other with input := .lines [] }
    rw [hended, hended'] at halike
    generalize hsaid : (if machine.returning then [] else ["in the block"]) = said at halike
    generalize hsaid' : (if other.returning then [] else ["in the block"]) = said' at halike
    cases halike
    rw [← hsaid'] at hsaid
    revert hsaid
    cases machine.returning <;> cases other.returning <;> simp
  · intro hreturning fuel program input
    exact interpret_alike fuel program input hstore hfunctions hreturning

/-- A program that has printed leaves its lines behind, which no later program sees. -/
def printed : Machine := { record := #["old"], screen := "old\n" }

/-- A program that ended with a return outside of functions leaves its mark behind. -/
def marked : Machine := { returning := true }

/-- Printed lines make no difference to the next program, and the mark of a return does: a block is
skipped. -/
theorem interpret_after_give :
    interpret 3 ⟨[.say (.literal .string (.text "old"))]⟩ {} = .ok ["old"] printed ∧
      (∀ fuel program input, Alike (SameTraces {} printed)
        (interpret fuel program { input := input })
        (interpret fuel program { printed with input := input })) ∧
      interpret 2 ⟨[.give none]⟩ {} = .ok [] marked ∧
      ¬∀ fuel program input, Alike (SameTraces {} marked)
        (interpret fuel program { input := input })
        (interpret fuel program { marked with input := input }) := by
  refine ⟨rfl, (interpret_alike_iff {} printed rfl rfl).mpr rfl, rfl, fun hsame => ?_⟩
  have hmark := (interpret_alike_iff {} marked rfl rfl).mp hsame
  cases hmark

end Machine

end ScriptStudio
