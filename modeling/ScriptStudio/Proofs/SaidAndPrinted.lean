import ScriptStudio.Proofs.Invariants
import ScriptStudio.Proofs.RunInPieces

/-!
# What is said and what is printed

A line that is said is printed and recorded. While a program runs that asks nothing, the screen
therefore shows the record, whatever stops the program. The output of a source text is the record
only if the program ends or ends with a fault: a number that cannot be computed or written leaves
nothing in the output but its own report, and the lines said before it are on the screen alone.

* `asLines`: the text of lines on the screen.
* `Value.IsLong`: the values that cannot be written.
* `Vocabulary.quiet`: programs that ask nothing.
* `Echoes`, `upholds_echoes`: the screen shows what the record has got.
* `interpret_quiet`: it still does when a program ends or is stopped.
* `lostLines`: the lines that are printed but not given.
-/

namespace ScriptStudio

/-- Lines as they stand on the screen. -/
def asLines : List String → String
  | [] => ""
  | line :: rest => line ++ "\n" ++ asLines rest

theorem asLines_append (lines more : List String) :
    asLines (lines ++ more) = asLines lines ++ asLines more := by
  induction lines with
  | nil => simp [asLines]
  | cons line rest ih => simp [asLines, ih, String.append_assoc]

theorem length_le_length_asLines (lines : List String) : lines.length ≤ (asLines lines).length := by
  induction lines with
  | nil => simp
  | cons line rest ih =>
    have hend : "\n".length = 1 := rfl
    simp only [asLines, List.length_cons, String.length_append, hend]
    omega

/-- Lines in front of others can be seen on the screen. -/
theorem asLines_append_eq_iff (screen : String) (lines more : List String) :
    screen ++ asLines (lines ++ more) = screen ++ asLines more ↔ lines = [] := by
  constructor
  · intro hsame
    have hlength := congrArg String.length hsame
    have hlines := length_le_length_asLines lines
    simp only [asLines_append, String.length_append] at hlength
    exact List.length_eq_zero_iff.mp (by omega)
  · rintro rfl
    rfl

/-- An integer that has more digits than are written. -/
def Value.IsLong : Value → Prop
  | .int n => Nat.pow 10 integerDigitLimit ≤ n.natAbs
  | _ => False

theorem Value.saidOrStop_of_isLong {value : Value} (h : value.IsLong) :
    value.saidOrStop = .error (.number .tooManyDigits) := by
  cases value with
  | int n =>
    have hlarge : Nat.pow 10 integerDigitLimit ≤ n.natAbs := h
    rw [saidOrStop, said, integerText, if_pos hlarge]
    rfl
  | _ => exact h.elim

theorem Value.exists_saidOrStop {value : Value} (h : ¬value.IsLong) :
    ∃ text, value.saidOrStop = .ok text := by
  cases value with
  | int n =>
    have hsmall : ¬Nat.pow 10 integerDigitLimit ≤ n.natAbs := h
    rw [saidOrStop, said, integerText, if_neg hsmall]
    exact ⟨_, rfl⟩
  | _ => exact ⟨_, rfl⟩

/-- Nothing may be asked. -/
def Vocabulary.quiet : Vocabulary := ⟨fun _ => True, fun _ => True, False⟩

namespace Machine

/-! ## The screen shows the record -/

/-- Since an earlier time lines were added to the record, and just these lines were printed. -/
def Echoes (before machine : Machine) : Prop :=
  ∃ said : List String, machine.record.toList = before.record.toList ++ said ∧
    machine.screen = before.screen ++ asLines said

theorem Echoes.refl (machine : Machine) : Echoes machine machine :=
  ⟨[], by simp, by simp [asLines]⟩

variable {machine : Machine} {source : String} {program : Program}

theorem Echoes.say {before : Machine} (h : Echoes before machine) (line : String) :
    Echoes before { machine with
      screen := machine.screen ++ line ++ "\n"
      record := machine.record.push line } := by
  obtain ⟨said, hrecord, hscreen⟩ := h
  refine ⟨said ++ [line], by simp [hrecord], ?_⟩
  simp [hscreen, asLines_append, asLines, String.append_assoc]

/-- Without questions, the screen shows what the record has got at every time. -/
theorem upholds_echoes (before : Machine) :
    Upholds .quiet fun machine => machine.Knows .quiet ∧ Echoes before machine where
  knows _ h := h.1
  keeps_assign _ _ _ _ h := h
  keeps_define _ hfunction _ h := ⟨h.1.define hfunction, h.2⟩
  keeps_say line _ h := ⟨h.1, h.2.say line⟩
  preserves_ask hask := hask.elim
  keeps_mark _ _ _ h := h
  keeps_restore _ _ _ h := h

/-! ## Programs and their stops -/

theorem Preserves.tryCatch {α : Type} {vocabulary : Vocabulary} {holds : Machine → Prop}
    {step : Exec α} {handler : Stop → Exec α} (hstep : Preserves vocabulary holds step)
    (hhandler : ∀ ⦃stop⦄, (stop.isFromInput = true → vocabulary.mayAsk) →
      Preserves vocabulary holds (handler stop)) :
    Preserves vocabulary holds (tryCatch step handler) := by
  intro machine h
  have hends := hstep h
  generalize hended : step machine = ended at hends
  cases hends with
  | ok a hafter =>
    rw [tryCatch_of_ok hended]
    exact .ok a hafter
  | error hstop hafter =>
    rw [tryCatch_of_error hended]
    exact hhandler hstop hafter

theorem Upholds.preservesExecReported {vocabulary : Vocabulary} {holds : Machine → Prop}
    (hupholds : Upholds vocabulary holds) (fuel : Nat) {statements : List Stmt}
    (hstatements : Stmt.AllWithin vocabulary statements) :
    Preserves vocabulary holds (execReported fuel statements) := by
  refine (hupholds.preservesExecAll fuel hstatements).tryCatch fun stop hstop => ?_
  cases stop with
  | fault cause => exact hupholds.preservesSay _
  | _ => exact fun _ h => .error hstop h

/-! ## Running a source text -/

/-- A text that spells no program is reported by one line. -/
theorem runSource_of_not_spells (h : ∀ program, ¬Spells source program) (fuel : Nat)
    (machine : Machine) :
    ∃ line, runSource fuel false source machine =
      .ok [line] { machine with screen := machine.screen ++ line ++ "\n" } := by
  unfold runSource
  cases hscan : tokenize source with
  | error error => exact ⟨_, rfl⟩
  | ok tokens =>
    cases hread : Program.ofTokens tokens with
    | ok program => exact absurd ⟨tokens, hscan, hread⟩ (h program)
    | error failure =>
      simp only [runTokens, printDetails, hread]
      cases failure with
      | refused error => exact ⟨_, rfl⟩
      | _ => exact ⟨_, rfl⟩

section

variable {fuel : Nat} {program : Program} {machine after : Machine}

theorem interpret_of_ok
    (h : execAll fuel program.statements { machine with record := #[] } = .ok () after) :
    interpret fuel program machine = .ok after.record.toList after :=
  interpret_eq_ok_iff.mpr ⟨execReported_of_execAll h, rfl⟩

/-- A fault is said, and the program gives its record. -/
theorem interpret_of_fault {cause : Fault}
    (h : execAll fuel program.statements { machine with record := #[] } =
      .error (.fault cause) after) :
    interpret fuel program machine = .ok (after.record.push (faultLine cause)).toList
      { after with
        screen := after.screen ++ faultLine cause ++ "\n"
        record := after.record.push (faultLine cause) } :=
  interpret_eq_ok_iff.mpr ⟨tryCatch_of_error h _, rfl⟩

/-- Every other stop ends the interpretation too. -/
theorem interpret_of_stop {stop : Stop} (hstop : ∀ cause, stop ≠ .fault cause)
    (h : execAll fuel program.statements { machine with record := #[] } = .error stop after) :
    interpret fuel program machine = .error stop after := by
  have hreported : execReported fuel program.statements { machine with record := #[] } =
      .error stop after := by
    rw [execReported, tryCatch_of_error h]
    cases stop with
    | fault cause => exact absurd rfl (hstop cause)
    | _ => rfl
  rw [interpret_apply, bind_of_error hreported]

end

/-- The lines that a program has said when a number stops it. -/
def linesBeforeNumber (fuel : Nat) (program : Program) (machine : Machine) : List String :=
  match execAll fuel program.statements { machine with record := #[] } with
  | .error (.number _) after => after.record.toList
  | _ => []

/-- The lines of a source text that are printed but are no part of its output. -/
def lostLines (fuel : Nat) (source : String) (machine : Machine) : List String :=
  match tokenize source with
  | .error _ => []
  | .ok tokens =>
    match Program.ofTokens tokens with
    | .error _ => []
    | .ok program => linesBeforeNumber fuel program machine

theorem lostLines_of_spells (h : Spells source program) (fuel : Nat) (machine : Machine) :
    lostLines fuel source machine = linesBeforeNumber fuel program machine := by
  obtain ⟨tokens, hscan, hread⟩ := h
  simp [lostLines, hscan, hread]

theorem lostLines_of_not_spells (h : ∀ program, ¬Spells source program) (fuel : Nat)
    (machine : Machine) : lostLines fuel source machine = [] := by
  unfold lostLines
  cases hscan : tokenize source with
  | error error => rfl
  | ok tokens =>
    cases hread : Program.ofTokens tokens with
    | ok program => exact absurd ⟨tokens, hscan, hread⟩ (h program)
    | error failure => simp [hread]

theorem execAll_quiet (hprogram : Stmt.AllWithin .quiet program.statements)
    (hknows : machine.Knows .quiet) (fuel : Nat) :
    Sound .quiet (fun after => after.screen = machine.screen ++ asLines after.record.toList)
      (execAll fuel program.statements { machine with record := #[] }) := by
  let before : Machine := { machine with record := #[] }
  have hends := (upholds_echoes before).preservesExecAll fuel hprogram
    (show before.Knows .quiet ∧ Echoes before before from ⟨hknows, Echoes.refl before⟩)
  have hshows : ∀ after : Machine, Echoes before after →
      after.screen = machine.screen ++ asLines after.record.toList := by
    rintro after ⟨said, hrecord, hscreen⟩
    rw [hscreen, hrecord]
    rfl
  exact hends.mono fun after hafter => hshows after hafter.2

/-- A program that asks nothing is interpreted with the screen showing the record, whether it gives
its output or is stopped. -/
theorem interpret_quiet (hprogram : Stmt.AllWithin .quiet program.statements)
    (hknows : machine.Knows .quiet) (fuel : Nat) :
    Sound .quiet (fun after => after.screen = machine.screen ++ asLines after.record.toList)
      (interpret fuel program machine) := by
  have hends := execAll_quiet hprogram hknows fuel
  generalize hended : execAll fuel program.statements { machine with record := #[] } =
    ended at hends
  cases hends with
  | ok _ hafter =>
    rw [interpret_of_ok hended]
    exact .ok _ hafter
  | @error stop after hstop hafter =>
    by_cases hfault : ∃ cause, stop = .fault cause
    · -- The line that reports the fault is said like any other.
      obtain ⟨cause, rfl⟩ := hfault
      rw [interpret_of_fault hended]
      refine .ok _ ?_
      simp [hafter, asLines_append, asLines, String.append_assoc]
    · rw [interpret_of_stop (not_exists.mp hfault) hended]
      exact .error hstop hafter

/-- What a program that asks nothing prints is its record, line by line, and its output is that
record; a stop that it does not report leaves the screen and the record alike too. The two are
alike because no expression and no statement, however it ends, takes a line off the record or adds
one that it does not print. -/
theorem interpret_prints_record {program : Program} {machine : Machine}
    (hprogram : Stmt.AllWithin .quiet program.statements) (hknows : machine.Knows .quiet)
    (fuel : Nat) :
    (∀ output after, interpret fuel program machine = .ok output after →
        output = after.record.toList ∧
          after.screen = machine.screen ++ asLines after.record.toList) ∧
      (∀ stop after, interpret fuel program machine = .error stop after →
        after.screen = machine.screen ++ asLines after.record.toList) ∧
      ∀ before : Machine, before.Knows .quiet →
        (∀ e : Expr, e.Within .quiet → Sound .quiet (Echoes before) (eval fuel e before)) ∧
          ∀ s : Stmt, s.Within .quiet → Sound .quiet (Echoes before) (exec fuel s before) := by
  have hends := interpret_quiet hprogram hknows fuel
  refine ⟨fun output after hok => ?_, fun stop after hstop => ?_, fun before hbefore => ?_⟩
  · rw [hok] at hends
    cases hends with
    | ok _ hafter => exact ⟨(interpret_eq_ok_iff.mp hok).2, hafter⟩
  · rw [hstop] at hends
    cases hends with
    | error _ hafter => exact hafter
  · have hall := (upholds_echoes before).preservesAll fuel
    have hstart : before.Knows .quiet ∧ Echoes before before := ⟨hbefore, Echoes.refl before⟩
    exact ⟨fun e he => (hall.eval e he hstart).mono fun _ h => h.2,
      fun s hs => (hall.exec s hs hstart).mono fun _ h => h.2⟩

theorem runSource_of_quiet (hspells : Spells source program)
    (hprogram : Stmt.AllWithin .quiet program.statements) (hknows : machine.Knows .quiet)
    (fuel : Nat) :
    (∃ after, runSource fuel false source machine = .error .exhausted after) ∨
      ∃ output after, runSource fuel false source machine = .ok output after ∧
        after.screen =
          machine.screen ++ asLines (linesBeforeNumber fuel program machine ++ output) := by
  have hends := execAll_quiet hprogram hknows fuel
  rw [runSource_of_spells hspells]
  unfold linesBeforeNumber
  generalize hended : execAll fuel program.statements { machine with record := #[] } =
    ended at hends
  cases hends with
  | ok _ hafter => exact .inr ⟨_, _, tryCatch_of_ok (interpret_of_ok hended) _, hafter⟩
  | error hstop hafter =>
    rename_i stop after
    cases stop with
    | fault cause =>
      refine .inr ⟨_, _, tryCatch_of_ok (interpret_of_fault hended) _, ?_⟩
      simp [hafter, asLines_append, asLines, String.append_assoc]
    | number error =>
      refine .inr ⟨_, _, tryCatch_of_error (interpret_of_stop (by simp) hended) _, ?_⟩
      simp [hafter, asLines_append, asLines, String.append_assoc]
    | exhausted => exact .inl ⟨_, tryCatch_of_error (interpret_of_stop (by simp) hended) _⟩
    | endOfInput => exact (hstop rfl).elim
    | interrupted => exact (hstop rfl).elim

/-- A text that asks nothing always gives an output, unless its fuel ends. What it prints is the
output, line by line, whether it cannot be scanned or read, ends well or ends with a fault. Only
where a number stops the program are lines lost from the output, all that were said before, so that
the print is the output exactly if nothing was said by then. -/
theorem runSource_prints {source : String} {machine : Machine}
    (hquiet : ∀ program, Spells source program → Stmt.AllWithin .quiet program.statements)
    (hknows : machine.Knows .quiet) (fuel : Nat) :
    (∃ after, runSource fuel false source machine = .error .exhausted after) ∨
      ∃ output after, runSource fuel false source machine = .ok output after ∧
        after.screen = machine.screen ++ asLines (lostLines fuel source machine ++ output) ∧
        (after.screen = machine.screen ++ asLines output ↔ lostLines fuel source machine = []) := by
  have hprints : (∃ after, runSource fuel false source machine = .error .exhausted after) ∨
      ∃ output after, runSource fuel false source machine = .ok output after ∧
        after.screen = machine.screen ++ asLines (lostLines fuel source machine ++ output) := by
    by_cases hspells : ∃ program, Spells source program
    · obtain ⟨program, hspells⟩ := hspells
      rw [lostLines_of_spells hspells]
      exact runSource_of_quiet hspells (hquiet program hspells) hknows fuel
    · have hunread := not_exists.mp hspells
      obtain ⟨line, hrun⟩ := runSource_of_not_spells hunread fuel machine
      refine .inr ⟨[line], _, hrun, ?_⟩
      rw [lostLines_of_not_spells hunread]
      simp [asLines, String.append_assoc]
  obtain hexhausted | ⟨output, after, hrun, hscreen⟩ := hprints
  · exact .inl hexhausted
  · refine .inr ⟨output, after, hrun, hscreen, ?_⟩
    rw [hscreen]
    exact asLines_append_eq_iff _ _ _

/-- A machine with one variable. -/
def holding (value : Value) : Machine := { store := ⟨[("x", value)]⟩ }

/-- The least integer that has too many digits to be written. -/
def unwritable : Value := .int (Nat.pow 10 integerDigitLimit : Nat)

theorem isLong_unwritable : unwritable.IsLong := by
  show Nat.pow 10 integerDigitLimit ≤ ((Nat.pow 10 integerDigitLimit : Nat) : Int).natAbs
  rw [Int.natAbs_natCast]

/-- Says a line and then a variable. -/
def sayingTwice : Program := ⟨[.say (.literal .string (.text "a")), .say (.reference "x")]⟩

/-- The second line cannot be written. -/
theorem execAll_sayingTwice :
    execAll 9 sayingTwice.statements { holding unwritable with record := #[] } =
      .error (.number .tooManyDigits)
        { holding unwritable with screen := "a\n", record := #["a"] } := by
  have hruns (value : Value) :
      execAll 9 sayingTwice.statements { holding value with record := #[] } =
      ((lift value.saidOrStop >>= say) >>= fun _ => execAll 9 [])
        { holding value with screen := "a\n", record := #["a"] } := rfl
  rw [hruns, Value.saidOrStop_of_isLong isLong_unwritable]
  rfl

/-- The stop is not reported, and the screen shows the line that was recorded before it. -/
theorem interpret_sayingTwice :
    ∃ after, interpret 9 sayingTwice (holding unwritable) = .error (.number .tooManyDigits) after ∧
      after.record = #["a"] ∧ after.screen = asLines ["a"] := by
  have hquiet : Stmt.AllWithin .quiet sayingTwice.statements := by
    simp [sayingTwice, Stmt.AllWithin, Stmt.Within, Expr.Within, Vocabulary.quiet]
  have hknows : (holding unwritable).Knows .quiet := by
    rintro name function - ⟨⟩
  have hstop := interpret_of_stop (by simp) execAll_sayingTwice
  obtain ⟨-, hprinted, -⟩ := interpret_prints_record hquiet hknows 9
  exact ⟨_, hstop, rfl, hprinted _ _ hstop⟩

/-- The first line is printed, and the output has the report only. -/
theorem runSource_sayingTwice :
    ∃ output after, runSource 9 false "say \"a\"\nsay x" (holding unwritable) = .ok output after ∧
      lostLines 9 "say \"a\"\nsay x" (holding unwritable) = ["a"] ∧
      after.screen = "a\n" ++ asLines output ∧ after.screen ≠ asLines output := by
  have hspells : Spells "say \"a\"\nsay x" sayingTwice := ⟨_, by cbv, by cbv⟩
  have hquiet : ∀ program, Spells "say \"a\"\nsay x" program →
      Stmt.AllWithin .quiet program.statements := by
    intro program hprogram
    rw [hprogram.eq hspells]
    simp [sayingTwice, Stmt.AllWithin, Stmt.Within, Expr.Within, Vocabulary.quiet]
  have hknows : (holding unwritable).Knows .quiet := by
    rintro name function - ⟨⟩
  have hlost : lostLines 9 "say \"a\"\nsay x" (holding unwritable) = ["a"] := by
    rw [lostLines_of_spells hspells, linesBeforeNumber, execAll_sayingTwice]
  obtain ⟨after, hexhausted⟩ | ⟨output, after, hrun, hprinted, hsame⟩ :=
    runSource_prints hquiet hknows 9
  · rw [runSource_of_spells hspells,
      tryCatch_of_error (interpret_of_stop (by simp) execAll_sayingTwice)] at hexhausted
    cases hexhausted
  · rw [hlost] at hprinted hsame
    refine ⟨output, after, hrun, hlost, ?_, fun heq => ?_⟩
    · rw [hprinted]
      rfl
    · have hempty := hsame.mp heq
      cases hempty

end Machine

end ScriptStudio
