import Mathlib
import ScriptStudio.Console.Session
import ScriptStudio.Proofs.GrammarJoin
import ScriptStudio.Proofs.ScanLines
import ScriptStudio.Proofs.Simulation

/-!
# Running a source text in pieces

What was said and printed before a run has no influence on it. A text that ends in a line end and is
followed by another text is therefore run as the two texts would be run one after the other.

* `respects_withPast`: a run only adds to the record and to the screen.
* `interpret_append`: two programs run as one program.
* `Spells.append_newline`: two source texts read as one text.
-/

namespace ScriptStudio

namespace Machine

/-! ## What came before -/

/-- The machine with more on its screen and in its record, put there earlier. -/
def withPast (screen : String) (record : Array String) (machine : Machine) : Machine :=
  { machine with screen := screen ++ machine.screen, record := record ++ machine.record }

section

variable (screen : String) (record : Array String)

theorem keeps_modify_withPast {change : Machine → Machine}
    (hchange : ∀ machine, change (machine.withPast screen record) =
      (change machine).withPast screen record) :
    Keeps (fun machine other => other = machine.withPast screen record) (modify change) := by
  refine Matches.modify ?_
  rintro machine _ rfl
  exact hchange machine

theorem keeps_print_withPast (text : String) :
    Keeps (fun machine other => other = machine.withPast screen record) (print text) := by
  refine keeps_modify_withPast screen record fun machine => ?_
  simp [withPast, String.append_assoc]

theorem keeps_say_withPast (line : String) :
    Keeps (fun machine other => other = machine.withPast screen record) (say line) := by
  refine Matches.bind ((keeps_print_withPast _ _ line).bind fun _ => keeps_print_withPast _ _ "\n")
    fun _ => keeps_modify_withPast screen record fun machine => ?_
  simp [withPast]

theorem keeps_ask_withPast (prompt : String) :
    Keeps (fun machine other => other = machine.withPast screen record) (ask prompt) := by
  refine Keeps.ask ?_ (keeps_print_withPast screen record) (fun _ => ?_) (fun _ _ => ?_) prompt
  · rintro machine _ rfl
    rfl
  · exact keeps_modify_withPast screen record fun _ => rfl
  · exact keeps_modify_withPast screen record fun _ => rfl

/-- No action looks at the screen or the record. -/
theorem respects_withPast :
    Respects .full fun machine other => other = machine.withPast screen record where
  keeps_lookup name _ := by
    refine Keeps.lookup ?_
    rintro machine _ rfl
    rfl
  keeps_assign _ _ _ := keeps_modify_withPast screen record fun _ => rfl
  same_function _ _ := by
    rintro machine _ rfl
    exact ⟨rfl, fun function _ => function.within_full⟩
  keeps_define _ _ := keeps_modify_withPast screen record fun _ => rfl
  keeps_say := keeps_say_withPast screen record
  keeps_ask _ := keeps_ask_withPast screen record
  same_marks := by
    rintro machine _ rfl
    exact ⟨rfl, rfl⟩
  keeps_mark _ _ := by
    rintro machine _ rfl
    rfl
  keeps_restore := by
    rintro machine _ before _ rfl rfl
    rfl

end

theorem withPast_blank (machine : Machine) :
    { machine with screen := "", record := #[] }.withPast machine.screen machine.record =
      machine := by
  simp [withPast]

/-! ## Programs one after the other -/

theorem execAll_append (fuel : Nat) (first second : List Stmt) :
    execAll fuel (first ++ second) = execAll fuel first >>= fun _ => execAll fuel second := by
  induction first with
  | nil => simp [execAll]
  | cons statement rest ih => simp [execAll, ih]

/-- Runs statements and reports a fault as a line. -/
def execReported (fuel : Nat) (statements : List Stmt) : Exec Unit :=
  tryCatch (execAll fuel statements) fun
    | .fault cause => say (faultLine cause)
    | stop => throw stop

variable {machine final : Machine} {statements : List Stmt} {fuel : Nat} {program : Program}
  {output : List String} {source : String}

theorem tryCatch_of_ok {α : Type} {step : Exec α} {after : Machine} {a : α}
    (h : step machine = .ok a after) (handler : Stop → Exec α) :
    tryCatch step handler machine = .ok a after := by
  show EStateM.tryCatch step handler machine = .ok a after
  rw [EStateM.tryCatch, h]

theorem tryCatch_of_error {α : Type} {step : Exec α} {after : Machine} {stop : Stop}
    (h : step machine = .error stop after) (handler : Stop → Exec α) :
    tryCatch step handler machine = handler stop after := by
  show EStateM.tryCatch step handler machine = handler stop after
  rw [EStateM.tryCatch, h]
  rfl

theorem tryCatch_congr {α : Type} {step step' : Exec α} {machine' : Machine}
    (h : step machine = step' machine') (handler : Stop → Exec α) :
    tryCatch step handler machine = tryCatch step' handler machine' := by
  show EStateM.tryCatch step handler machine = EStateM.tryCatch step' handler machine'
  rw [EStateM.tryCatch, EStateM.tryCatch, h]

theorem Keeps.tryCatch {α : Type} {related : Machine → Machine → Prop} {step : Exec α}
    {handler : Stop → Exec α} (hstep : Keeps related step)
    (hhandler : ∀ stop, Keeps related (handler stop)) :
    Keeps related (tryCatch step handler) := by
  intro machine other h
  show Alike related (EStateM.tryCatch step handler machine) (EStateM.tryCatch step handler other)
  unfold EStateM.tryCatch
  have hends := hstep h
  revert hends
  generalize step machine = ended
  generalize step other = ended'
  rintro (⟨a, hafter⟩ | ⟨stop, hafter⟩)
  · exact .ok a hafter
  · exact hhandler stop hafter

theorem Respects.keeps_execReported {vocabulary : Vocabulary} {related : Machine → Machine → Prop}
    (hrespects : Respects vocabulary related) (fuel : Nat)
    (hstatements : Stmt.AllWithin vocabulary statements) :
    Keeps related (execReported fuel statements) := by
  refine Keeps.tryCatch (hrespects.keeps_execAll fuel hstatements) fun stop => ?_
  cases stop with
  | fault cause => exact hrespects.keeps_say _
  | _ => exact Keeps.throw _

theorem execReported_withPast (screen : String) (record : Array String)
    (h : execReported fuel statements machine = .ok () final) :
    execReported fuel statements (machine.withPast screen record) =
      .ok () (final.withPast screen record) := by
  have hkeeps := (respects_withPast screen record).keeps_execReported fuel
    (Stmt.allWithin_full statements)
  have halike := hkeeps (rfl : machine.withPast screen record = machine.withPast screen record)
  rw [h] at halike
  revert halike
  generalize execReported fuel statements (machine.withPast screen record) = ended
  rintro (⟨_, rfl⟩ | _)
  rfl

/-- A reported run adds to the screen. -/
theorem execReported_prints (h : execReported fuel statements machine = .ok () final) :
    ∃ printed, final.screen = machine.screen ++ printed := by
  have hkeeps := (respects_withPast machine.screen machine.record).keeps_execReported fuel
    (Stmt.allWithin_full statements)
  have halike := hkeeps machine.withPast_blank.symm
  rw [h] at halike
  revert halike
  generalize execReported fuel statements { machine with screen := "", record := #[] } = ended
  rintro (⟨_, hfinal⟩ | _)
  exact ⟨_, by rw [hfinal]; rfl⟩

theorem execReported_of_execAll (h : execAll fuel statements machine = .ok () final) :
    execReported fuel statements machine = .ok () final :=
  tryCatch_of_ok h _

theorem interpret_apply (fuel : Nat) (program : Program) (machine : Machine) :
    interpret fuel program machine =
      (execReported fuel program.statements >>= fun _ => get >>= fun after =>
        pure after.record.toList) { machine with record := #[] } := rfl

theorem Alike.interpret {related : Machine → Machine → Prop} {fuel fuel' : Nat}
    {program program' : Program} {machine other : Machine}
    (hrecord : ∀ after after', related after after' → after'.record = after.record)
    (hruns : Alike related (execReported fuel program.statements { machine with record := #[] })
      (execReported fuel' program'.statements { other with record := #[] })) :
    Alike related (interpret fuel program machine) (interpret fuel' program' other) := by
  rw [interpret_apply, interpret_apply]
  generalize hended : execReported fuel program.statements { machine with record := #[] } =
    ended at hruns
  generalize hended' : execReported fuel' program'.statements { other with record := #[] } =
    ended' at hruns
  cases hruns with
  | error stop hafter =>
    rw [bind_of_error hended, bind_of_error hended']
    exact .error stop hafter
  | ok _ hafter =>
    rw [bind_of_ok hended, bind_of_ok hended']
    rename_i after after'
    show Alike _ (.ok after.record.toList after) (.ok after'.record.toList after')
    rw [hrecord _ _ hafter]
    exact .ok _ hafter

theorem interpret_eq_ok_iff :
    interpret fuel program machine = .ok output final ↔
      execReported fuel program.statements { machine with record := #[] } = .ok () final ∧
        output = final.record.toList := by
  rw [interpret_apply]
  cases hended : execReported fuel program.statements { machine with record := #[] } with
  | ok _ after =>
    rw [bind_of_ok hended]
    constructor
    · rintro ⟨⟩
      exact ⟨rfl, rfl⟩
    · rintro ⟨⟨⟩, rfl⟩
      rfl
  | error stop after =>
    rw [bind_of_error hended]
    simp

/-- Two programs run as one program say what they say one after the other, and leave the same
machine up to the record. -/
theorem interpret_append {first second : Program} {middle : Machine}
    (hfirst : execAll fuel first.statements { machine with record := #[] } = .ok () middle)
    (hsecond : interpret fuel second middle = .ok output final) :
    interpret fuel ⟨first.statements ++ second.statements⟩ machine =
      .ok (middle.record.toList ++ output) (final.withPast "" middle.record) := by
  obtain ⟨hreported, rfl⟩ := interpret_eq_ok_iff.mp hsecond
  have hpast : { middle with record := #[] }.withPast "" middle.record = middle := by
    simp [withPast]
  have hjoined := execReported_withPast "" middle.record hreported
  rw [hpast] at hjoined
  have hrun : execAll fuel (first.statements ++ second.statements) { machine with record := #[] } =
      execAll fuel second.statements middle := by
    rw [execAll_append, bind_of_ok hfirst]
  refine interpret_eq_ok_iff.mpr ⟨?_, by simp [withPast]⟩
  rw [← hjoined]
  exact tryCatch_congr hrun _

/-! ## Source texts -/

/-- A source text spells a program. -/
def Spells (source : String) (program : Program) : Prop :=
  ∃ tokens, tokenize source = .ok tokens ∧ Program.ofTokens tokens = .ok program

theorem Spells.eq {program' : Program} (h : Spells source program) (h' : Spells source program') :
    program = program' := by
  obtain ⟨tokens, hscan, hread⟩ := h
  obtain ⟨tokens', hscan', hread'⟩ := h'
  rw [hscan] at hscan'
  cases hscan'
  rw [hread] at hread'
  cases hread'
  rfl

theorem Spells.append_newline {first second : String} {firstProgram secondProgram : Program}
    (hfirst : Spells first firstProgram) (hsecond : Spells second secondProgram) :
    Spells (first ++ "\n" ++ second) ⟨firstProgram.statements ++ secondProgram.statements⟩ := by
  obtain ⟨firstTokens, hscan, hread⟩ := hfirst
  obtain ⟨secondTokens, hscan', hread'⟩ := hsecond
  obtain ⟨body, place, hbody, rfl, hjoined⟩ := tokenize_append_newline hscan hscan'
  have halike : (secondTokens.map (Token.down place.line)).map Grammar.spelling =
      secondTokens.map Grammar.spelling := by
    rw [List.map_map]
    rfl
  exact ⟨_, hjoined, Program.ofTokens_joined hbody rfl rfl hread hread' halike⟩

/-- What a run of a source text makes of a stop. -/
def reportStop : Stop → Exec (List String)
  | .interrupted => throw .interrupted
  | .exhausted => throw .exhausted
  | .fault cause => report (faultLine cause)
  | stop => report ("❌ Unexpected error: " ++ stop.message)

theorem runSource_of_spells (hspells : Spells source program) (fuel : Nat) :
    runSource fuel false source = tryCatch (interpret fuel program) reportStop := by
  obtain ⟨tokens, hscan, hread⟩ := hspells
  have htokens : runTokens fuel false tokens = interpret fuel program := by
    simp [runTokens, printDetails, hread]
  unfold runSource
  rw [hscan]
  simp only [printDetails, Bool.false_eq_true, if_false, pure_bind, htokens]
  refine congrArg (tryCatch _) (funext fun stop => ?_)
  cases stop <;> rfl

theorem runSource_of_interpret (hspells : Spells source program)
    (hrun : interpret fuel program machine = .ok output final) :
    runSource fuel false source machine = .ok output final := by
  rw [runSource_of_spells hspells]
  exact tryCatch_of_ok hrun _

/-- Running in pieces is running at once: where a first text runs through and a second one after it
runs through or ends with a fault, the two with a line end between them print and say what they
print and say one after the other, and leave the same variables, functions and marks. -/
theorem runSource_append_newline {fuel : Nat} {first second : String}
    {firstProgram secondProgram : Program} (machine : Machine) {middle final : Machine}
    {output : List String} (hfirst : Spells first firstProgram)
    (hsecond : Spells second secondProgram)
    (hthrough : execAll fuel firstProgram.statements { machine with record := #[] } =
      .ok () middle)
    (hends : interpret fuel secondProgram middle = .ok output final) :
    ∃ firstPrinted secondPrinted joined,
      runSource fuel false first machine = .ok middle.record.toList middle ∧
      middle.screen = machine.screen ++ firstPrinted ∧
      runSource fuel false second middle = .ok output final ∧
      final.screen = middle.screen ++ secondPrinted ∧
      runSource fuel false (first ++ "\n" ++ second) machine =
        .ok (middle.record.toList ++ output) joined ∧
      joined.screen = machine.screen ++ (firstPrinted ++ secondPrinted) ∧
      joined.store = final.store ∧ joined.functions = final.functions ∧
      joined.returning = final.returning ∧ joined.returned = final.returned ∧
      joined.input = final.input ∧ joined.asked = final.asked := by
  have hreported := execReported_of_execAll hthrough
  obtain ⟨firstPrinted, hprinted⟩ := execReported_prints hreported
  obtain ⟨secondPrinted, hprinted'⟩ := execReported_prints (interpret_eq_ok_iff.mp hends).1
  have hmiddle : interpret fuel firstProgram machine = .ok middle.record.toList middle :=
    interpret_eq_ok_iff.mpr ⟨hreported, rfl⟩
  have hjoined := interpret_append hthrough hends
  refine ⟨firstPrinted, secondPrinted, final.withPast "" middle.record,
    runSource_of_interpret hfirst hmiddle, hprinted, runSource_of_interpret hsecond hends,
    hprinted', runSource_of_interpret (hfirst.append_newline hsecond) hjoined,
    ?_, rfl, rfl, rfl, rfl, rfl, rfl⟩
  calc (final.withPast "" middle.record).screen
      = final.screen := by simp [withPast]
    _ = machine.screen ++ firstPrinted ++ secondPrinted := by rw [hprinted', hprinted]
    _ = machine.screen ++ (firstPrinted ++ secondPrinted) := String.append_assoc

/-- A comment ends with its text, and the fault of the second text ends the joined run. -/
theorem runSource_append_newline_comment :
    ∃ joined,
      runSource 9 false ("kas x = \"a\" # note" ++ "\n" ++ "say x\nsay y") {} =
        .ok ["a", faultLine (.undefinedVariable "y")] joined ∧
      joined.screen = "a\n" ++ faultLine (.undefinedVariable "y") ++ "\n" ∧
      joined.store = ⟨[("x", .text "a")]⟩ := by
  have hfirst : Spells "kas x = \"a\" # note" ⟨[.assign "x" (.literal .string (.text "a"))]⟩ :=
    ⟨_, by cbv, by cbv⟩
  have hsecond : Spells "say x\nsay y" ⟨[.say (.reference "x"), .say (.reference "y")]⟩ :=
    ⟨_, by cbv, by cbv⟩
  have hthrough : execAll 9 [.assign "x" (.literal .string (.text "a"))] {} =
      .ok () { store := ⟨[("x", .text "a")]⟩ } := by rfl
  have hends : interpret 9 ⟨[.say (.reference "x"), .say (.reference "y")]⟩
      { store := ⟨[("x", .text "a")]⟩ } =
      .ok ["a", faultLine (.undefinedVariable "y")]
        { store := ⟨[("x", .text "a")]⟩
          record := #["a", faultLine (.undefinedVariable "y")]
          screen := "a\n" ++ faultLine (.undefinedVariable "y") ++ "\n" } := by rfl
  obtain ⟨firstPrinted, secondPrinted, joined, -, hprinted, -, hprinted', hrun, hscreen,
    hstore, -⟩ := runSource_append_newline {} hfirst hsecond hthrough hends
  refine ⟨joined, hrun, ?_, hstore⟩
  rw [hscreen, ← String.append_assoc, ← hprinted, ← hprinted']

end Machine

end ScriptStudio
