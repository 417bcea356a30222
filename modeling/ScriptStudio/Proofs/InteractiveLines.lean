import ScriptStudio.Proofs.FirstWords
import ScriptStudio.Proofs.StudioChanges
import ScriptStudio.Studio.Running

/-!
# Lines of the interactive console

A line is run as it stands if it begins with one of three words, and behind the word `say`
otherwise. The choice is made on the characters of the line, so it is right only as far as they show
what the line is.

* A line that is a program is run as it stands exactly if its first statement is one of the three
  that begin with these words and no comment comes before it. Otherwise the word `say` is put in
  front of it, and nothing that begins like a statement, a line end or an end is an expression.
* A line that is an expression is never a program. It is said, unless it begins with a name that
  itself begins with one of the three words: then it is run as it stands and refused.

`Studio.runLine_cases` puts this together.
-/

namespace ScriptStudio

/-! ## Statements that the console looks for -/

/-- The statement begins with one of the words that the console looks for. -/
def Stmt.isLookedFor : Stmt → Bool
  | .say _ | .assign _ _ | .branch _ _ _ => true
  | _ => false

/-- The first statement begins with one of the words that the console looks for. -/
def Program.isLookedFor (program : Program) : Bool := program.statements.head?.any Stmt.isLookedFor

/-- The kinds of the words that the console looks for. -/
def Running.openingKinds : List TokenKind := [.sayKw, .kasKw, .ifKw]

open Running

theorem Stmt.Derives.isLookedFor_iff {ending : List Token → Prop} {s : Stmt} {first : Token}
    {more : List Token} (h : s.Derives ending (first :: more)) :
    s.isLookedFor = true ↔ first.kind ∈ openingKinds := by
  cases h <;> simp [Stmt.isLookedFor, openingKinds, *]

theorem Program.Derives.isLookedFor_nil {found : Program} (h : found.Derives NoEnding []) :
    found.isLookedFor = false := by
  obtain ⟨statements⟩ := found
  generalize hnothing : [] = tokens at h
  cases h with
  | nil => rfl
  | cons hfirst _ _ =>
    obtain ⟨first, more, rfl, -⟩ := Grammar.begins_of_stmtDerives hfirst
    cases hnothing

theorem Program.Derives.isLookedFor_cons {found : Program} {first : Token} {later : List Token}
    (h : found.Derives NoEnding (first :: later)) :
    first.kind ∈ Grammar.leaders ∧ (found.isLookedFor = true ↔ first.kind ∈ openingKinds) := by
  obtain ⟨statements⟩ := found
  generalize htokens : first :: later = tokens at h
  cases h with
  | nil => cases htokens
  | cons hfirst _ _ =>
    obtain ⟨token, more, rfl, hkind⟩ := Grammar.begins_of_stmtDerives hfirst
    obtain ⟨rfl, -⟩ := List.cons.inj htokens
    exact ⟨hkind, by simpa [Program.isLookedFor] using hfirst.isLookedFor_iff⟩

namespace Running

open Grammar

/-! ## The words at the front of a line -/

/-- The text begins with one of the words that the console looks for. -/
def Opens (text : List Char) : Prop := ∃ word ∈ statementOpenings, word.toList <+: text

theorem looksLikeStatement_iff (line : String) :
    looksLikeStatement line = true ↔ Opens (line.toList.dropWhile Text.isBlank) := by
  simp [looksLikeStatement, Opens]

theorem isName_of_mem_openings {word : String} (h : word ∈ statementOpenings) :
    Pattern.IsName word.toList := by
  have hreserved : ∀ word ∈ statementOpenings, word ∈ reservedWords.map Prod.fst := by decide
  obtain ⟨entry, hentry, rfl⟩ := List.mem_map.mp (hreserved word h)
  exact Pattern.isName_of_mem_reservedWords hentry

theorem not_opens_nil : ¬Opens [] := by
  rintro ⟨word, hword, hprefix⟩
  obtain ⟨first, rest, hname, -⟩ := isName_of_mem_openings hword
  rw [hname, List.prefix_nil] at hprefix
  cases hprefix

theorem not_opens_comment (rest : List Char) : ¬Opens ('#' :: rest) := by
  rintro ⟨word, hword, hprefix⟩
  obtain ⟨first, more, hname, hfirst, -⟩ := isName_of_mem_openings hword
  rw [hname] at hprefix
  obtain ⟨rfl, -⟩ := List.cons_prefix_cons.mp hprefix
  exact absurd hfirst (by decide)

theorem opens_iff_of_leads {token : Token} {text : List Char}
    (h : Leads token.kind token.text.toList text) :
    Opens text ↔
      token.kind ∈ openingKinds ∨ token.kind = .identifier ∧ Opens token.text.toList := by
  have hreserved : ∀ entry ∈ reservedWords, ∀ word ∈ statementOpenings,
      word.toList <+: entry.1.toList → entry.2 ∈ openingKinds := by decide
  have hspelled : ∀ kind ∈ openingKinds, ∃ entry ∈ spellings, entry.2 = kind ∧
      entry.1 ∈ statementOpenings := by decide
  constructor
  · rintro ⟨word, hword, hprefix⟩
    have hname := isName_of_mem_openings hword
    have hlexeme := (h.isPrefix_iff hname).mp hprefix
    obtain ⟨first, more, hcons, hfirst, -⟩ := hname
    obtain ⟨c, rest, length, rfl, -, -⟩ := id h
    rw [hcons] at hprefix
    obtain ⟨rfl, -⟩ := List.cons_prefix_cons.mp hprefix
    rcases h.name_or_reserved hfirst with ⟨hkind, -⟩ | ⟨hentry, -⟩
    · exact .inr ⟨hkind, word, hword, hlexeme⟩
    · rw [String.ofList_toList] at hentry
      exact .inl (hreserved _ hentry word hword hlexeme)
  · rintro (hkind | ⟨-, word, hword, hprefix⟩)
    · obtain ⟨entry, hentry, hsame, hopening⟩ := hspelled _ hkind
      have htext : token.text = entry.1 := h.isSpelled entry hentry hsame.symm
      refine ⟨entry.1, hopening, (h.isPrefix_iff (isName_of_mem_openings hopening)).mpr ?_⟩
      rw [htext]
    · exact ⟨word, hword, (h.isPrefix_iff (isName_of_mem_openings hword)).mpr hprefix⟩

/-! ## What a line is -/

/-- A comment stands at the front of the line. -/
def IsCommented (line : String) : Prop :=
  ∃ rest, line.toList.dropWhile Text.isBlank = '#' :: rest

/-- The whole line is an expression. -/
def IsExpression (line : String) (e : Expr) : Prop :=
  ∃ tokens rest, tokenize line = .ok tokens ∧
    expression (fuelFor tokens) tokens = .ok (e, rest) ∧ (peek rest).kind = .endOfFile

/-- The line begins with a name that begins like one of the words that the console looks for. -/
def IsMistakable (line : String) : Prop :=
  ∃ name rest, tokenize line = .ok (name :: rest) ∧ name.kind = .identifier ∧
    Opens name.text.toList

variable {code line : String} {found : Program} {e : Expr}

theorem program_eq_ok_iff :
    program code = .ok found ↔
      ∃ tokens, tokenize code = .ok tokens ∧ Program.ofTokens tokens = .ok found := by
  unfold program
  cases tokenize code with
  | error error => simp [Except.mapError, bind, Except.bind]
  | ok tokens =>
    cases hread : Program.ofTokens tokens <;> simp [Except.mapError, bind, Except.bind, hread]

theorem exists_failure (h : ∀ found, program code ≠ .ok found) :
    ∃ failure, program code = .error failure := by
  cases hread : program code with
  | error failure => exact ⟨failure, rfl⟩
  | ok found => exact absurd hread (h found)

theorem programItems_of_program (h : program code = .ok found) :
    ∃ tokens fuel rest, tokenize code = .ok tokens ∧
      programItems fuel tokens = .ok (found.statements, rest) := by
  obtain ⟨tokens, hscan, hread⟩ := program_eq_ok_iff.mp h
  have hclosed := (scanned_of_tokenize hscan).endsOnce.closed
  obtain ⟨rest, hitems⟩ := (Program.ofTokens_eq_ok_iff hclosed.ne_nil).mp hread
  exact ⟨tokens, _, rest, hscan, hitems⟩

theorem program_ne_ok_of_expression (h : IsExpression line e) (found : Program) :
    program line ≠ .ok found := by
  have hapart : ∀ kind ∈ openers, kind ∉ .endOfFile :: .newline :: leaders := by decide
  intro hread
  obtain ⟨tokens, rest, hscan, hexpression, -⟩ := h
  obtain ⟨others, fuel, last, hscan', hitems⟩ := programItems_of_program hread
  rw [hscan] at hscan'
  cases hscan'
  exact hapart _ (kind_mem_openers hexpression) (kind_of_programItems hitems)

/-! ## Lines behind the word `say` -/

theorem tokenize_say {tokens : List Token} (h : tokenize line = .ok tokens) :
    ∃ word others, word.kind = .sayKw ∧ tokenize ("say " ++ line) = .ok (word :: others) ∧
      others.map spelling = tokens.map spelling := by
  have hword : Lexeme .sayKw "say".toList := .spelled (by decide)
  obtain ⟨others, hscan, halike⟩ := tokenize_lexeme_blank hword h
  exact ⟨_, others, rfl, hscan, halike⟩

/-- An expression behind the word `say` is said. -/
theorem program_say_of_expression (h : IsExpression line e) :
    program ("say " ++ line) = .ok ⟨[.say e]⟩ := by
  obtain ⟨tokens, rest, hscan, hexpression, hend⟩ := h
  obtain ⟨word, others, hword, hscan', halike⟩ := tokenize_say hscan
  have hended := (scanned_of_tokenize hscan).endsOnce.closed.ended
  have hparses := expression_parses (fuelFor tokens) tokens [.make .say, .make .item, .program]
    [.stmts []]
  rw [hexpression] at hparses
  obtain ⟨hrest, hreading, -⟩ := hparses.2 hended
  have hleft : Reading ([.make .say, .make .item, .program], [.expr e, .stmts []], rest)
      ([], [.stmts [.say e]], rest) := by
    cases rest with
    | nil => exact absurd rfl hrest.ne_nil
    | cons last rest => exact .make (.make (.turn (if_pos (by simpa using hend)) .refl))
  -- the same expression is read from tokens that spell the same
  obtain ⟨more, hmore⟩ := (hreading.andThen hleft).alike halike
  refine program_eq_ok_iff.mpr ⟨_, hscan', ?_⟩
  have hended' := (scanned_of_tokenize hscan').endsOnce.closed.ended
  rw [Program.ofTokens_eq_ok_iff_reading hended']
  exact ⟨more, (reading_say hword).andThen hmore⟩

theorem program_say_ne_ok {first : Program} (h : program line = .ok first) (found : Program) :
    program ("say " ++ line) ≠ .ok found := by
  have hapart : ∀ kind ∈ .endOfFile :: .newline :: leaders, kind ∉ openers := by decide
  intro hread
  obtain ⟨tokens, fuel, rest, hscan, hitems⟩ := programItems_of_program h
  obtain ⟨word, others, hword, hscan', halike⟩ := tokenize_say hscan
  obtain ⟨all, fuel', rest', hall, hitems'⟩ := programItems_of_program hread
  rw [hscan'] at hall
  cases hall
  have hne : others ≠ [] := by
    rintro rfl
    have hclosed := (scanned_of_tokenize hscan).endsOnce.closed
    exact hclosed.ne_nil (by simpa using halike)
  obtain ⟨fuel'', e, he⟩ := expression_of_programItems_say hword hne hitems'
  -- behind `say` the text begins as the line does
  have hopener := kind_mem_openers he
  rw [kind_peek_of_spelling halike] at hopener
  exact hapart _ (kind_of_programItems hitems) hopener

/-! ## The choice -/

theorem looksLikeStatement_of_program (h : program line = .ok found) :
    looksLikeStatement line = true ↔ found.isLookedFor = true ∧ ¬IsCommented line := by
  have hapart : ∀ kind ∈ leaders, kind ≠ .identifier := by decide
  obtain ⟨tokens, hscan, hread⟩ := program_eq_ok_iff.mp h
  obtain ⟨hrest, rfl⟩ := Scan.result_eq_ok_iff.mp hscan
  obtain ⟨hderives, -⟩ :=
    Program.derives_of_ofTokens (fun _ => kind_ne_endOfFile_of_mem_scan) rfl hread
  rw [looksLikeStatement_iff, IsCommented]
  cases opening_of_scan hrest with
  | nothing htext hwords =>
    rw [hwords] at hderives
    simp [htext, not_opens_nil, hderives.isLookedFor_nil]
  | comment htext _ => simp [htext, not_opens_comment]
  | @word first later hleads hwords =>
    rw [hwords] at hderives
    obtain ⟨hleader, hlooked⟩ := hderives.isLookedFor_cons
    have hsign : ¬∃ rest, line.toList.dropWhile Text.isBlank = '#' :: rest := by
      rintro ⟨rest, htext⟩
      exact (htext ▸ hleads).not_comment
    rw [opens_iff_of_leads hleads, hlooked]
    simp [hsign, hapart _ hleader]

theorem looksLikeStatement_of_expression (h : IsExpression line e) :
    looksLikeStatement line = true ↔ IsMistakable line := by
  have hapart : ∀ kind ∈ openers, kind ≠ .newline ∧ kind ∉ openingKinds := by decide
  obtain ⟨tokens, rest, hscan, hexpression, -⟩ := h
  obtain ⟨hrest, rfl⟩ := Scan.result_eq_ok_iff.mp hscan
  have hopener := kind_mem_openers hexpression
  have hopening := opening_of_scan hrest
  rw [looksLikeStatement_iff]
  cases htokens : (scan .start line.toList).tokens with
  | nil =>
    have hend : TokenKind.endOfFile ∉ openers := by decide
    rw [htokens] at hopener
    exact absurd hopener hend
  | cons first later =>
    rw [htokens] at hopener hopening hscan
    obtain ⟨hline, hkinds⟩ := hapart first.kind hopener
    have hmistakable : IsMistakable line ↔ first.kind = .identifier ∧ Opens first.text.toList := by
      simp [IsMistakable, hscan]
    rw [hmistakable]
    -- an expression begins with the first token, and with a comment that would be a line end
    cases hopening with
    | nothing _ hwords =>
      rw [words_cons_of_ne hline] at hwords
      cases hwords
    | comment _ hfirst => exact absurd (hfirst first rfl) hline
    | word hleads hwords =>
      rw [words_cons_of_ne hline] at hwords
      obtain ⟨rfl, -⟩ := List.cons.inj hwords
      rw [opens_iff_of_leads hleads]
      simp [hkinds]

end Running

namespace Studio

open Running

/-- Shows a line of the interactive console among the output. -/
def echo (line : String) : Act Unit := write (·.write (">>> " ++ line ++ "\n") "input")

variable {line : String} {studio : Studio}

theorem echo_apply (line : String) (studio : Studio) :
    echo line studio = .ok () (after (echo line) studio) := rfl

theorem runLine_eq (hclear : Text.lower (Text.trim line) ≠ "clear")
    (hreset : Text.lower (Text.trim line) ≠ "reset") (hdemo : studio.isDemo = false) :
    runLine line studio = execute true (codeOfLine line) (after (echo line) studio) := by
  unfold runLine
  rw [get_bind_apply, hdemo, if_neg Bool.false_ne_true]
  split
  · rename_i hword
    exact absurd hword hclear
  · rename_i hword
    exact absurd hword hreset
  · exact bind_of_ok (echo_apply line studio) _

variable {interactive : Bool} {code : String}

theorem execute_of_ok (hdemo : studio.isDemo = false) {found : Program}
    (h : program code = .ok found) :
    execute interactive code studio = runProgram interactive found studio := by
  rw [execute, get_bind_apply, hdemo, h]
  rfl

theorem execute_of_error (hdemo : studio.isDemo = false) {failure : Failure}
    (h : program code = .error failure) :
    execute interactive code studio = reportRun failure studio := by
  rw [execute, get_bind_apply, hdemo, h]
  rfl

/-- What becomes of a line that is a program or an expression. A program is run as it stands if its
first statement is looked for and no comment comes before it; every other program is taken for an
expression and refused. An expression, which is never a program, is said, unless it begins with a
name that is mistaken for a statement; then it is refused as the program it is not. -/
theorem runLine_cases (hclear : Text.lower (Text.trim line) ≠ "clear")
    (hreset : Text.lower (Text.trim line) ≠ "reset") (hdemo : studio.isDemo = false) :
    (∀ found, program line = .ok found →
      (found.isLookedFor = true ∧ ¬IsCommented line →
        runLine line studio = (do echo line; runProgram true found) studio) ∧
      (¬(found.isLookedFor = true ∧ ¬IsCommented line) →
        ∃ failure, program ("say " ++ line) = .error failure ∧
          runLine line studio = (do echo line; reportRun failure) studio)) ∧
    ∀ e, IsExpression line e → ∃ failure, program line = .error failure ∧
      (¬IsMistakable line →
        runLine line studio = (do echo line; runProgram true ⟨[.say e]⟩) studio) ∧
      (IsMistakable line →
        runLine line studio = (do echo line; reportRun failure) studio) := by
  have hecho : ∀ act : Act Unit,
      (do echo line; act) studio = act (after (echo line) studio) := fun act =>
    bind_of_ok (echo_apply line studio) fun _ => act
  have hshown : (after (echo line) studio).isDemo = false := hdemo
  simp only [hecho, runLine_eq hclear hreset hdemo]
  refine ⟨fun found hfound => ⟨fun hlooked => ?_, fun hlooked => ?_⟩, fun e he => ?_⟩
  · rw [← looksLikeStatement_of_program hfound] at hlooked
    rw [codeOfLine, if_pos hlooked]
    exact execute_of_ok hshown hfound
  · rw [← looksLikeStatement_of_program hfound] at hlooked
    obtain ⟨failure, hfailure⟩ := exists_failure (program_say_ne_ok hfound)
    rw [codeOfLine, if_neg hlooked]
    exact ⟨failure, hfailure, execute_of_error hshown hfailure⟩
  · obtain ⟨failure, hfailure⟩ := exists_failure (program_ne_ok_of_expression he)
    rw [← looksLikeStatement_of_expression he]
    refine ⟨failure, hfailure, fun hlooked => ?_, fun hlooked => ?_⟩
    · rw [codeOfLine, if_neg hlooked]
      exact execute_of_ok hshown (program_say_of_expression he)
    · rw [codeOfLine, if_pos hlooked]
      exact execute_of_error hshown hfailure

/-- Lines of all sorts: a statement that is looked for, an expression, and an expression that is
mistaken for a statement. -/
theorem runLine_cases_yes :
    runLine " say yes" {} = (do echo " say yes"; runProgram true ⟨[.say (.reference "yes")]⟩) {} ∧
      runLine "yes" {} = (do echo "yes"; runProgram true ⟨[.say (.reference "yes")]⟩) {} ∧
      ∃ failure, program "say_yes" = .error failure ∧
        runLine "say_yes" {} = (do echo "say_yes"; reportRun failure) {} := by
  have hdemo : ({} : Studio).isDemo = false := rfl
  have hsay : program " say yes" = .ok ⟨[.say (.reference "yes")]⟩ := by
    have htokens : tokenize " say yes" = .ok [⟨.sayKw, "say", ⟨1, 2⟩⟩, ⟨.identifier, "yes", ⟨1, 6⟩⟩,
        ⟨.endOfFile, "", ⟨1, 9⟩⟩] := by cbv
    exact program_eq_ok_iff.mpr ⟨_, htokens, rfl⟩
  have hplain : ¬IsCommented " say yes" := by
    rintro ⟨rest, htext⟩
    cases htext
  have hyes : tokenize "yes" = .ok [⟨.identifier, "yes", ⟨1, 1⟩⟩, ⟨.endOfFile, "", ⟨1, 4⟩⟩] := by
    cbv
  have hjoined : tokenize "say_yes" =
      .ok [⟨.identifier, "say_yes", ⟨1, 1⟩⟩, ⟨.endOfFile, "", ⟨1, 8⟩⟩] := by
    cbv
  have hright : ¬IsMistakable "yes" := by
    rintro ⟨name, rest, htokens, -, word, hword, hprefix⟩
    rw [hyes] at htokens
    cases htokens
    revert word
    decide
  refine ⟨?_, ?_, ?_⟩
  · exact ((runLine_cases (by decide) (by decide) hdemo).1 _ hsay).1 ⟨rfl, hplain⟩
  · obtain ⟨failure, -, hsaid, -⟩ :=
      (runLine_cases (by decide) (by decide) hdemo).2 (.reference "yes") ⟨_, _, hyes, rfl, rfl⟩
    exact hsaid hright
  · obtain ⟨failure, hfailure, -, hrefused⟩ :=
      (runLine_cases (by decide) (by decide) hdemo).2 (.reference "say_yes")
        ⟨_, _, hjoined, rfl, rfl⟩
    exact ⟨failure, hfailure, hrefused ⟨_, _, hjoined, rfl, "say", by decide, by decide⟩⟩

/-- A loop that runs not once. -/
def idleLoop : String := "while false \x7b say yes \x7d"

/-- A loop is a program that the console does not run: it prints an error where the program prints
nothing. -/
theorem runLine_idleLoop :
    Text.lower (Text.trim idleLoop) ≠ "clear" ∧ Text.lower (Text.trim idleLoop) ≠ "reset" ∧
      ∃ found, program idleLoop = .ok found ∧
        (after (runLine idleLoop) {}).site.screen ≠
          (after (do echo idleLoop; runProgram true found) {}).site.screen := by
  have hloop : tokenize idleLoop = .ok [⟨.whileKw, "while", ⟨1, 1⟩⟩, ⟨.falseKw, "false", ⟨1, 7⟩⟩,
      ⟨.leftBrace, "\x7b", ⟨1, 13⟩⟩, ⟨.sayKw, "say", ⟨1, 15⟩⟩, ⟨.identifier, "yes", ⟨1, 19⟩⟩,
      ⟨.rightBrace, "\x7d", ⟨1, 23⟩⟩, ⟨.endOfFile, "", ⟨1, 24⟩⟩] := by
    cbv
  have hread : program idleLoop = .ok ⟨[.loop (.literal .boolean (.bool false))
      (.block [.say (.reference "yes")])]⟩ :=
    program_eq_ok_iff.mpr ⟨_, hloop, rfl⟩
  have hcode : codeOfLine idleLoop = "say while false \x7b say yes \x7d" := by decide
  have hsaid : tokenize "say while false \x7b say yes \x7d" = .ok [⟨.sayKw, "say", ⟨1, 1⟩⟩,
      ⟨.whileKw, "while", ⟨1, 5⟩⟩, ⟨.falseKw, "false", ⟨1, 11⟩⟩, ⟨.leftBrace, "\x7b", ⟨1, 17⟩⟩,
      ⟨.sayKw, "say", ⟨1, 19⟩⟩, ⟨.identifier, "yes", ⟨1, 23⟩⟩, ⟨.rightBrace, "\x7d", ⟨1, 27⟩⟩,
      ⟨.endOfFile, "", ⟨1, 28⟩⟩] := by
    cbv
  have hfailure : program (codeOfLine idleLoop) =
      .error (.ofParse (.refused ⟨.noExpression, ⟨.whileKw, "while", ⟨1, 5⟩⟩⟩)) := by
    rw [hcode, program, hsaid]
    rfl
  refine ⟨by decide, by decide, _, hread, ?_⟩
  rw [after, runLine_eq (by decide) (by decide) rfl, execute_of_error rfl hfailure]
  decide +kernel

end Studio

end ScriptStudio
