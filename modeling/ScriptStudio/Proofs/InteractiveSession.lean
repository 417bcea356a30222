import ScriptStudio.Console.Interactive
import ScriptStudio.Proofs.SaidAndPrinted

/-!
# Sessions of the interactive loop

The loop reads lines until one of them ends it, the input ends or the user breaks off. A line that
is run as a program never ends the loop by a stop of its own, because the stops of a program are
reported; but the listing of the variables writes their values outside of any program. A session
therefore goes through to its end exactly if the variables are never to be listed while one of them
holds an integer that has too many digits to be written.

* `LineEnds`: how a line that is run as a program ends, and what it leaves of the input.
* `ListsLong`: the next line asks for variables that cannot be listed.
* `RoundEnds`: how one round ends.
* `Reaches`: the machines at which the rounds of a session begin.
* `loop_ends`: how the loop ends, by induction on the rounds.
-/

namespace ScriptStudio

namespace Machine

/-! ## Listing variables -/

theorem variableLine_of_isLong {value : Value} (h : value.IsLong) (name : String)
    (machine : Machine) :
    variableLine name value machine = .error (.number .tooManyDigits) machine := by
  rw [variableLine, textOf, Value.saidOrStop_of_isLong h]
  rfl

theorem exists_variableLine {value : Value} (h : ¬value.IsLong) (name : String)
    (machine : Machine) : ∃ line, variableLine name value machine = .ok line machine := by
  obtain ⟨text, htext⟩ := Value.exists_saidOrStop h
  rw [variableLine, textOf, htext]
  exact ⟨_, rfl⟩

theorem printVariables_of_writable {entries : List (String × Value)}
    (h : ∀ entry ∈ entries, ¬entry.2.IsLong) (machine : Machine) :
    ∃ screen, printVariables entries machine = .ok () { machine with screen := screen } := by
  induction entries generalizing machine with
  | nil => exact ⟨machine.screen, rfl⟩
  | cons entry rest ih =>
    obtain ⟨name, value⟩ := entry
    obtain ⟨hvalue, hrest⟩ := List.forall_mem_cons.mp h
    obtain ⟨line, hline⟩ := exists_variableLine hvalue name machine
    obtain ⟨screen, hprinted⟩ :=
      ih hrest { machine with screen := machine.screen ++ line ++ "\n" }
    refine ⟨screen, ?_⟩
    rw [printVariables, bind_of_ok hline]
    exact hprinted

theorem printVariables_of_isLong {entries : List (String × Value)}
    (h : ∃ entry ∈ entries, entry.2.IsLong) (machine : Machine) :
    ∃ after, printVariables entries machine = .error (.number .tooManyDigits) after := by
  induction entries generalizing machine with
  | nil =>
    obtain ⟨entry, hentry, -⟩ := h
    cases hentry
  | cons entry rest ih =>
    obtain ⟨name, value⟩ := entry
    rw [printVariables]
    by_cases hvalue : value.IsLong
    · exact ⟨machine, bind_of_error (variableLine_of_isLong hvalue name machine) _⟩
    · obtain ⟨line, hline⟩ := exists_variableLine hvalue name machine
      have hlater : ∃ entry ∈ rest, entry.2.IsLong := by
        obtain ⟨entry, hentry, hlong⟩ := h
        obtain rfl | hrest := List.mem_cons.mp hentry
        · exact absurd hlong hvalue
        · exact ⟨entry, hrest, hlong⟩
      rw [bind_of_ok hline]
      exact ih hlater _

/-! ## What a program line does to the input -/

/-- What is left of the lines of the input is the end of given lines. -/
def LeavesOf (pending : List String) (machine : Machine) : Prop :=
  ∃ rest, machine.input = .lines rest ∧ rest <:+ pending

/-- Questions take lines from the front. -/
theorem upholds_leavesOf (pending : List String) : Upholds .full (LeavesOf pending) where
  knows _ _ := fun _ function _ _ => function.within_full
  keeps_assign _ _ _ _ h := h
  keeps_define _ _ _ h := h
  keeps_say _ _ h := h
  preserves_ask _ prompt := by
    rintro machine ⟨rest, hinput, hsuffix⟩
    cases rest with
    | nil =>
      rw [ask_of_end hinput]
      exact .error (fun _ => trivial) ⟨[], hinput, hsuffix⟩
    | cons line rest =>
      have hrest : rest <:+ pending := (List.suffix_cons line rest).trans hsuffix
      by_cases hline : line = breakLine
      · subst hline
        rw [ask_of_break hinput]
        exact .error (fun _ => trivial) ⟨rest, rfl, hrest⟩
      · rw [ask_of_line hinput hline]
        exact .ok _ ⟨rest, rfl, hrest⟩
  keeps_mark _ _ _ h := h
  keeps_restore _ _ _ h := h

/-- How a program line can end. It gives an output and leaves the end of the input, or the user has
broken off, or it goes on for longer than the fuel lasts. -/
inductive LineEnds (pending : List String) : EStateM.Result Stop Machine (List String) → Prop
  | given (output : List String) {after : Machine} (h : LeavesOf pending after) :
    LineEnds pending (.ok output after)
  | interrupted (after : Machine) : LineEnds pending (.error .interrupted after)
  | exhausted (after : Machine) : LineEnds pending (.error .exhausted after)

theorem LineEnds.of_reportStop {pending : List String} {machine : Machine}
    (h : LeavesOf pending machine) (stop : Stop) : LineEnds pending (reportStop stop machine) := by
  cases stop with
  | interrupted => exact .interrupted machine
  | exhausted => exact .exhausted machine
  | _ => exact .given _ h

theorem preserves_interpret (pending : List String) (fuel : Nat) (program : Program) :
    Preserves .full (LeavesOf pending) (interpret fuel program) := by
  have hreported := (upholds_leavesOf pending).preservesExecReported fuel
    (Stmt.allWithin_full program.statements)
  refine Preserves.bind (Preserves.modify ?_) fun _ => hreported.bind fun _ =>
    Preserves.get_bind fun _ _ => Preserves.pure _
  exact fun _ h => h

theorem lineEnds_runSource (fuel : Nat) (source : String) {pending : List String}
    {machine : Machine} (h : LeavesOf pending machine) :
    LineEnds pending (runSource fuel false source machine) := by
  by_cases hspells : ∃ program, Spells source program
  · obtain ⟨program, hspells⟩ := hspells
    rw [runSource_of_spells hspells]
    have hends := preserves_interpret pending fuel program h
    generalize hended : interpret fuel program machine = ended at hends
    cases hends with
    | ok output hafter =>
      rw [tryCatch_of_ok hended]
      exact .given output hafter
    | error hstop hafter =>
      rw [tryCatch_of_error hended]
      exact LineEnds.of_reportStop hafter _
  · obtain ⟨line, hrun⟩ := runSource_of_not_spells (not_exists.mp hspells) fuel machine
    rw [hrun]
    exact .given [line] h

end Machine

namespace Interactive

open Machine

/-! ## One round -/

/-- The next line asks for a list of the variables, and one of them cannot be written. -/
def ListsLong (machine : Machine) : Prop :=
  ∃ line rest, machine.input = .lines (line :: rest) ∧
    Command.ofLine line = .showVariables ∧ ∃ entry ∈ machine.store.entries, entry.2.IsLong

/-- How a round can end that has lines to read: the session is over, or it goes on with fewer lines,
or the fuel has run out, or the variables could not be listed. -/
inductive RoundEnds (machine : Machine) (pending : List String) :
    EStateM.Result Stop Machine Bool → Prop
  | last (after : Machine) (h : ¬ListsLong machine) : RoundEnds machine pending (.ok false after)
  | next {after : Machine} {rest : List String} (hinput : after.input = .lines rest)
    (hfewer : rest.length < pending.length) (h : ¬ListsLong machine) :
    RoundEnds machine pending (.ok true after)
  | exhausted (after : Machine) (h : ¬ListsLong machine) :
    RoundEnds machine pending (.error .exhausted after)
  | unlisted (after : Machine) (h : ListsLong machine) :
    RoundEnds machine pending (.error (.number .tooManyDigits) after)

/-- What a round makes of a stop. -/
def endSession : Stop → Exec Bool
  | .interrupted => farewell
  | .endOfInput => farewell
  | stop => throw stop

variable {machine : Machine} {line : String}

theorem round_of_error {fuel : Nat} {after : Machine} {stop : Stop}
    (h : ask "DoroLang> " machine = .error stop after) :
    round fuel machine = endSession stop after := by
  rw [round, tryCatch_of_error (bind_of_error h _)]
  cases stop <;> rfl

/-- A line that was read is carried out. -/
theorem round_of_line {fuel : Nat} {after : Machine}
    (h : ask "DoroLang> " machine = .ok (.text line) after) :
    round fuel machine = tryCatch (carryOut fuel (Command.ofLine line)) endSession after := by
  rw [round, tryCatch_congr (bind_of_ok h _)]
  refine congrFun (congrArg (tryCatch _) (funext fun stop => ?_)) after
  cases stop <;> rfl

/-- A break is no command. -/
theorem ofLine_breakLine : Command.ofLine breakLine = .code breakLine := by
  cbv

theorem not_listsLong_of_ofLine {rest : List String}
    (hinput : machine.input = .lines (line :: rest))
    (hline : Command.ofLine line ≠ .showVariables) : ¬ListsLong machine := by
  rintro ⟨line', rest', hinput', hlists, -⟩
  rw [hinput] at hinput'
  cases hinput'
  exact hline hlists

theorem printLines_apply (lines : List String) (machine : Machine) :
    printLines lines machine =
      .ok () { machine with screen := machine.screen ++ asLines lines } := by
  induction lines generalizing machine with
  | nil => simp [printLines, asLines, pure, EStateM.pure]
  | cons line rest ih =>
    have hline : printLine line machine =
        .ok () { machine with screen := machine.screen ++ line ++ "\n" } := rfl
    rw [printLines, bind_of_ok hline, ih]
    simp [asLines, String.append_assoc]

/-- The variables are listed under a heading, if there are any. -/
theorem carryOut_showVariables (fuel : Nat) (machine : Machine) :
    carryOut fuel .showVariables machine =
      if machine.store.entries.isEmpty then
        .ok true { machine with screen := machine.screen ++ "📊 No variables defined" ++ "\n" }
      else
        (printVariables machine.store.entries >>= fun _ => pure true)
          { machine with screen := machine.screen ++ "📊 Variables:" ++ "\n" } := by
  show (if machine.store.entries.isEmpty = true then
      (printLine "📊 No variables defined" >>= fun _ => pure true : Exec Bool)
    else
      (printLine "📊 Variables:" >>= fun _ =>
        printVariables machine.store.entries >>= fun _ => pure true)) machine = _
  split <;> rfl

theorem carryOut_showVariables_of_isLong (fuel : Nat)
    (h : ∃ entry ∈ machine.store.entries, entry.2.IsLong) :
    ∃ after, carryOut fuel .showVariables machine = .error (.number .tooManyDigits) after := by
  have hbound : machine.store.entries.isEmpty = false := by
    obtain ⟨entry, hentry, -⟩ := h
    exact List.isEmpty_eq_false_iff_exists_mem.mpr ⟨entry, hentry⟩
  obtain ⟨after, hlisted⟩ := printVariables_of_isLong h
    { machine with screen := machine.screen ++ "📊 Variables:" ++ "\n" }
  refine ⟨after, ?_⟩
  rw [carryOut_showVariables, hbound]
  exact bind_of_error hlisted _

theorem carryOut_showVariables_of_writable (fuel : Nat)
    (h : ∀ entry ∈ machine.store.entries, ¬entry.2.IsLong) :
    ∃ screen, carryOut fuel .showVariables machine =
      .ok true { machine with screen := screen } := by
  rw [carryOut_showVariables]
  split
  · exact ⟨_, rfl⟩
  · obtain ⟨screen, hlisted⟩ := printVariables_of_writable h
      { machine with screen := machine.screen ++ "📊 Variables:" ++ "\n" }
    refine ⟨screen, ?_⟩
    rw [bind_of_ok hlisted]
    rfl

section

variable {fuel : Nat} {source : String} {machine after : Machine}

theorem carryOut_code_of_ok {output : List String}
    (h : runSource fuel false source machine = .ok output after) :
    carryOut fuel (.code source) machine = .ok true after := by
  rw [carryOut, bind_of_ok h]
  rfl

theorem carryOut_code_of_error {stop : Stop}
    (h : runSource fuel false source machine = .error stop after) :
    carryOut fuel (.code source) machine = .error stop after :=
  bind_of_error h _

end

theorem roundEnds_carryOut (fuel : Nat) {read : Machine} {rest : List String}
    (hinput : machine.input = .lines (line :: rest)) (hread : read.input = .lines rest)
    (hstore : read.store = machine.store) :
    RoundEnds machine (line :: rest)
      (tryCatch (carryOut fuel (Command.ofLine line)) endSession read) := by
  have hfewer : rest.length < (line :: rest).length := Nat.lt_succ_self _
  cases hcommand : Command.ofLine line with
  | showVariables =>
    by_cases hlong : ∃ entry ∈ machine.store.entries, entry.2.IsLong
    · obtain ⟨after, hended⟩ := carryOut_showVariables_of_isLong fuel (hstore ▸ hlong)
      rw [tryCatch_of_error hended]
      exact .unlisted after ⟨line, rest, hinput, hcommand, hlong⟩
    · have hwritable : ∀ entry ∈ read.store.entries, ¬entry.2.IsLong := by
        rw [hstore]
        exact fun entry hentry hvalue => hlong ⟨entry, hentry, hvalue⟩
      obtain ⟨screen, hended⟩ := carryOut_showVariables_of_writable fuel hwritable
      rw [tryCatch_of_ok hended]
      exact .next hread hfewer fun ⟨_, _, _, _, hentry⟩ => hlong hentry
  | exit => exact .last _ (not_listsLong_of_ofLine hinput (by simp [hcommand]))
  | clear => exact .next hread hfewer (not_listsLong_of_ofLine hinput (by simp [hcommand]))
  | help =>
    have hended : carryOut fuel .help read =
        .ok true { read with screen := read.screen ++ asLines helpLines } := by
      rw [carryOut, bind_of_ok (printLines_apply helpLines read)]
      rfl
    rw [tryCatch_of_ok hended]
    exact .next hread hfewer (not_listsLong_of_ofLine hinput (by simp [hcommand]))
  | nothing => exact .next hread hfewer (not_listsLong_of_ofLine hinput (by simp [hcommand]))
  | code source =>
    have hother := not_listsLong_of_ofLine hinput (by simp [hcommand])
    have hends := lineEnds_runSource fuel source ⟨rest, hread, List.suffix_refl rest⟩
    generalize hended : runSource fuel false source read = ended at hends
    cases hends with
    | given output hleaves =>
      obtain ⟨left, hleft, hsuffix⟩ := hleaves
      rw [tryCatch_of_ok (carryOut_code_of_ok hended)]
      exact .next hleft (Nat.lt_of_le_of_lt hsuffix.length_le hfewer) hother
    | interrupted after =>
      rw [tryCatch_of_error (carryOut_code_of_error hended)]
      exact .last _ hother
    | exhausted after =>
      rw [tryCatch_of_error (carryOut_code_of_error hended)]
      exact .exhausted after hother

theorem roundEnds_round (fuel : Nat) {pending : List String}
    (hinput : machine.input = .lines pending) : RoundEnds machine pending (round fuel machine) := by
  cases pending with
  | nil =>
    rw [round_of_error (ask_of_end hinput _)]
    refine .last _ ?_
    rintro ⟨line, rest, hinput', -⟩
    rw [hinput] at hinput'
    cases hinput'
  | cons line rest =>
    by_cases hline : line = breakLine
    · subst hline
      rw [round_of_error (ask_of_break hinput _)]
      exact .last _ (not_listsLong_of_ofLine hinput (by simp [ofLine_breakLine]))
    · rw [round_of_line (ask_of_line hinput hline _)]
      exact roundEnds_carryOut fuel hinput rfl rfl

theorem round_of_listsLong (fuel : Nat) (h : ListsLong machine) :
    ∃ after, round fuel machine = .error (.number .tooManyDigits) after := by
  obtain ⟨line, rest, hinput, -⟩ := id h
  have hround := roundEnds_round fuel hinput
  generalize round fuel machine = ended at hround
  cases hround with
  | unlisted after _ => exact ⟨after, rfl⟩
  | last _ hlists => exact absurd h hlists
  | next _ _ hlists => exact absurd h hlists
  | exhausted _ hlists => exact absurd h hlists

/-! ## Whole sessions -/

/-- From one machine the rounds of a session go on to another, where a round begins. -/
inductive Reaches (fuel : Nat) : Machine → Machine → Prop
  | here (machine : Machine) : Reaches fuel machine machine
  | round {machine middle after : Machine} (h : round fuel machine = .ok true middle)
    (hrest : Reaches fuel middle after) : Reaches fuel machine after

/-- Every line that the session runs as a program ends. -/
def LinesEnd (fuel : Nat) (machine : Machine) : Prop :=
  ∀ middle after, Reaches fuel machine middle → round fuel middle ≠ .error .exhausted after

/-- The loop comes to its end, and no listing has met a value that cannot be written; or it stops at
the first that does. The induction is on the rounds, of which there are more than lines. -/
theorem loop_ends (fuel : Nat) {rounds : Nat} {pending : List String}
    (hinput : machine.input = .lines pending) (hrounds : pending.length < rounds)
    (hends : LinesEnd fuel machine) :
    ((∃ after, loop fuel rounds machine = .ok () after) ∧
        ∀ middle, Reaches fuel machine middle → ¬ListsLong middle) ∨
      (∃ after, loop fuel rounds machine = .error (.number .tooManyDigits) after) ∧
        ∃ middle, Reaches fuel machine middle ∧ ListsLong middle := by
  induction rounds generalizing machine pending with
  | zero => exact absurd hrounds (Nat.not_lt_zero _)
  | succ rounds ih =>
    have hround := roundEnds_round fuel hinput
    rw [loop]
    generalize hended : round fuel machine = ended at hround
    cases hround with
    | last after hlists =>
      refine .inl ⟨⟨after, ?_⟩, ?_⟩
      · rw [bind_of_ok hended]
        rfl
      · intro middle hreaches
        cases hreaches with
        | here => exact hlists
        | round hnext _ =>
          rw [hended] at hnext
          cases hnext
    | next hleft hfewer hlists =>
      rename_i middle left
      rw [bind_of_ok hended]
      have hlater := ih hleft (by omega) fun reached after hreaches =>
        hends reached after (.round hended hreaches)
      obtain ⟨hended', hwritable⟩ | ⟨hended', reached, hreaches, hlong⟩ := hlater
      · refine .inl ⟨hended', ?_⟩
        intro reached hreaches
        cases hreaches with
        | here => exact hlists
        | round hnext hrest =>
          rw [hended] at hnext
          cases hnext
          exact hwritable reached hrest
      · exact .inr ⟨hended', reached, .round hended hreaches, hlong⟩
    | exhausted after _ => exact absurd hended (hends machine after (.here machine))
    | unlisted after hlists =>
      exact .inr ⟨⟨after, bind_of_error hended _⟩, machine, .here machine, hlists⟩

/-- The machine when the first line is asked for. -/
def begun (machine : Machine) : Machine :=
  { machine with screen := machine.screen ++ asLines banner }

/-- A session all of whose lines end comes to its end or is stopped by an integer that has too many
digits to be written. It comes to its end exactly if no round is to list the variables while one of
them holds such an integer. -/
theorem run_survives_iff (fuel : Nat) {machine : Machine} {pending : List String}
    (hinput : machine.input = .lines pending) (hends : LinesEnd fuel (begun machine)) :
    ((∃ after, run fuel machine = .ok () after) ∨
        ∃ after, run fuel machine = .error (.number .tooManyDigits) after) ∧
      ((∃ after, run fuel machine = .ok () after) ↔
        ∀ middle, Reaches fuel (begun machine) middle → ¬ListsLong middle) := by
  have hrun : run fuel machine = loop fuel (pending.length + 1) (begun machine) := by
    rw [run, bind_of_ok (printLines_apply banner machine)]
    show loop fuel (roundsFor machine.input) (begun machine) = _
    rw [hinput]
    rfl
  have hbegun : (begun machine).input = .lines pending := hinput
  rw [hrun]
  obtain ⟨hended, hwritable⟩ | ⟨⟨after, hended⟩, middle, hreaches, hlong⟩ :=
    loop_ends fuel hbegun (Nat.lt_succ_self _) hends
  · exact ⟨.inl hended, fun _ => hwritable, fun _ => hended⟩
  · refine ⟨.inr ⟨after, hended⟩, ?_, ?_⟩
    · rintro ⟨other, hended'⟩
      rw [hended] at hended'
      cases hended'
    · exact fun hwritable => absurd hlong (hwritable middle hreaches)

/-- A session with an integer variable, some lines to come and a screen. -/
def holdingInteger (screen : String) (n : Nat) (pending : List String) : Machine :=
  { store := ⟨[("x", .int n)]⟩, screen := screen, input := .lines pending }

/-- A program line that squares the variable. -/
theorem round_squaring (screen : String) (n : Nat) (pending : List String) :
    round 9 (holdingInteger screen n ("kas x = x * x" :: pending)) =
      .ok true (holdingInteger (screen ++ "DoroLang> ") (n * n) pending) := by
  have hspells : Spells "kas x = x * x"
      ⟨[.assign "x" (.binary (.reference "x") .times (.reference "x"))]⟩ := ⟨_, by cbv, by cbv⟩
  have hcommand : Command.ofLine "kas x = x * x" = .code "kas x = x * x" := by cbv
  have hrun : interpret 9 ⟨[.assign "x" (.binary (.reference "x") .times (.reference "x"))]⟩
      (holdingInteger (screen ++ "DoroLang> ") n pending) =
      .ok [] (holdingInteger (screen ++ "DoroLang> ") (n * n) pending) := rfl
  have hask : ask "DoroLang> " (holdingInteger screen n ("kas x = x * x" :: pending)) =
      .ok (.text "kas x = x * x") (holdingInteger (screen ++ "DoroLang> ") n pending) :=
    ask_of_line rfl (by decide) _
  rw [round_of_line hask, hcommand,
    tryCatch_of_ok (carryOut_code_of_ok (runSource_of_interpret hspells hrun))]

/-- Half as many digits as can be written. -/
def halfDigits : Nat := 2150

/-- An integer that can be written, whose square cannot. -/
def half : Nat := 10 ^ halfDigits

theorem isLong_square_half : (Value.int (half * half : Nat)).IsLong := by
  have hdigits : integerDigitLimit = halfDigits + halfDigits := rfl
  show Nat.pow 10 integerDigitLimit ≤ ((half * half : Nat) : Int).natAbs
  rw [Int.natAbs_natCast, Nat.pow_eq, hdigits, half, pow_add]

/-- One line squares the variable and the next asks for the list. The first line ends well, and the
session does not. -/
theorem run_squaring :
    LinesEnd 9 (begun (holdingInteger "" half ["kas x = x * x", "vars"])) ∧
      ∃ after, run 9 (holdingInteger "" half ["kas x = x * x", "vars"]) =
        .error (.number .tooManyDigits) after := by
  let squared := holdingInteger ("" ++ asLines banner ++ "DoroLang> ") (half * half) ["vars"]
  have hfirst : round 9 (begun (holdingInteger "" half ["kas x = x * x", "vars"])) =
      .ok true squared :=
    round_squaring ("" ++ asLines banner) half ["vars"]
  have hlists : ListsLong squared :=
    ⟨"vars", [], rfl, by cbv, _, List.mem_singleton.mpr rfl, isLong_square_half⟩
  obtain ⟨stopped, hsecond⟩ := round_of_listsLong 9 hlists
  have hends : LinesEnd 9 (begun (holdingInteger "" half ["kas x = x * x", "vars"])) := by
    intro middle after hreaches hexhausted
    cases hreaches with
    | here =>
      rw [hfirst] at hexhausted
      cases hexhausted
    | round hround hrest =>
      rw [hfirst] at hround
      cases hround
      cases hrest with
      | here =>
        rw [hsecond] at hexhausted
        cases hexhausted
      | round hround _ =>
        rw [hsecond] at hround
        cases hround
  have hsurvives := run_survives_iff 9 rfl hends
  refine ⟨hends, hsurvives.1.resolve_left fun hended => ?_⟩
  exact hsurvives.2.mp hended squared (.round hfirst (.here squared)) hlists

end Interactive

end ScriptStudio
