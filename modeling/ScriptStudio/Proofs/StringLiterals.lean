import ScriptStudio.Proofs.ScanJoined

/-!
# Literals of texts

Every text can be written as a literal, with its backslashes, quotation marks and control characters
escaped, and every such literal is one string token. What the literal stands for is another matter,
because its escapes are replaced one kind after the other. The escape of a backslash ends with a
backslash, and if the text goes on with a letter of an earlier kind, that backslash is taken for the
beginning of an escape. And the backslashes that were read can begin an escape of the last kind.

* `replaceEscape_cons`, `replaceEscape_escape`, `replaceEscape_slash`: one replacement, by what
  stands at the front.
* `halfRead`: the text between two replacements. The control letters behind a backslash were taken
  for escapes, and the escapes of the kinds that are left still stand.
* `unescape_flatMap`: what the literal of a text stands for, for every text.
* `literalText_literalOf_iff`: the texts that are written and read back as they are.
-/

namespace ScriptStudio

/-! ## One replacement -/

section Replacement

variable {letter meaning : Char} {text : List Char}

theorem replaceEscape_cons {c : Char} (hc : c ≠ '\\') (text : List Char) :
    replaceEscape letter meaning (c :: text) = c :: replaceEscape letter meaning text := by
  cases text with
  | nil => rfl
  | cons d rest => simp [replaceEscape, hc]

theorem replaceEscape_escape (text : List Char) :
    replaceEscape letter meaning ('\\' :: letter :: text) =
      meaning :: replaceEscape letter meaning text := by
  simp [replaceEscape]

theorem replaceEscape_slash (h : text.head? ≠ some letter) :
    replaceEscape letter meaning ('\\' :: text) = '\\' :: replaceEscape letter meaning text := by
  cases text with
  | nil => rfl
  | cons d rest =>
    have hd : d ≠ letter := by simpa using h
    simp [replaceEscape, hd]

theorem replaceEscape_other {d : Char} (hd : d ≠ letter) (hslash : d ≠ '\\')
    (text : List Char) :
    replaceEscape letter meaning ('\\' :: d :: text) =
      '\\' :: d :: replaceEscape letter meaning text := by
  rw [replaceEscape_slash (by simpa using hd), replaceEscape_cons hslash]

variable (letter) in
theorem head?_replaceEscape_ne {c : Char} (h : text.head? ≠ some c) (hmeaning : meaning ≠ c) :
    (replaceEscape letter meaning text).head? ≠ some c := by
  fun_cases replaceEscape letter meaning text with
  | case1 => simp
  | case2 d => exact h
  | case3 d e rest hescape => simpa using hmeaning
  | case4 d e rest hescape => exact h

theorem length_replaceEscape_le :
    (replaceEscape letter meaning text).length ≤ text.length := by
  fun_induction replaceEscape letter meaning text with
  | case1 => exact Nat.le_refl _
  | case2 c => exact Nat.le_refl _
  | case3 c d rest hescape ih =>
    simp only [List.length_cons]
    omega
  | case4 c d rest hescape ih =>
    simp only [List.length_cons] at ih ⊢
    omega

theorem replaceEscape_eq_self (h : ¬['\\', letter] <:+: text) :
    replaceEscape letter meaning text = text := by
  fun_induction replaceEscape letter meaning text with
  | case1 => rfl
  | case2 c => rfl
  | case3 c d rest hescape ih =>
    simp only [Bool.and_eq_true, decide_eq_true_eq] at hescape
    obtain ⟨rfl, rfl⟩ := hescape
    exact absurd (List.infix_append [] ['\\', d] rest) h
  | case4 c d rest hescape ih =>
    rw [ih fun hlater => h (List.infix_cons hlater)]

/-- Where there is one, a replacement makes the text shorter. -/
theorem not_infix_of_length_replaceEscape
    (h : (replaceEscape letter meaning text).length = text.length) :
    ¬['\\', letter] <:+: text := by
  fun_induction replaceEscape letter meaning text with
  | case1 => simp
  | case2 c =>
    intro hinfix
    exact absurd hinfix.length_le (by simp)
  | case3 c d rest hescape ih =>
    have hle := @length_replaceEscape_le letter meaning rest
    simp only [List.length_cons] at h
    omega
  | case4 c d rest hescape ih =>
    rw [List.infix_cons_iff]
    rintro (hfront | hlater)
    · obtain ⟨later, hlater⟩ := hfront
      obtain ⟨rfl, hrest⟩ := List.cons.inj hlater
      obtain ⟨rfl, -⟩ := List.cons.inj hrest
      simp at hescape
    · exact ih (by simpa using h) hlater

end Replacement

/-! ## Literals -/

/-- The control characters and the letters of their escapes. -/
def controls : List (Char × Char) := [('n', '\n'), ('t', '\t'), ('r', '\r')]

/-- The character, or its escape if it has one in the table. -/
def escaped (table : List (Char × Char)) (c : Char) : List Char :=
  match table.find? fun escape => escape.2 == c with
  | some escape => ['\\', escape.1]
  | none => [c]

/-- The characters that escapes and literals are made of. -/
def marks : List (Char × Char) := [('\\', '\\'), ('"', '"')]

/-- The escapes with which a text is written between quotation marks. -/
def literalEscapes : List (Char × Char) := controls ++ marks

/-- The literal of a text: the text between quotation marks, with its line feeds, tabs, carriage
returns, backslashes and quotation marks escaped. -/
def literalOf (text : String) : String :=
  String.ofList ('"' :: (text.toList.flatMap (escaped literalEscapes) ++ ['"']))

theorem escaped_cases (table : List (Char × Char)) (c : Char) :
    (∃ escape ∈ table, escape.2 = c ∧ escaped table c = ['\\', escape.1]) ∨
      ((∀ escape ∈ table, escape.2 ≠ c) ∧ escaped table c = [c]) := by
  unfold escaped
  cases hfind : table.find? fun escape => escape.2 == c with
  | some escape =>
    have hescape := List.find?_some hfind
    exact .inl ⟨escape, List.mem_of_find?_eq_some hfind, by simpa using hescape, rfl⟩
  | none => exact .inr ⟨by simpa using hfind, rfl⟩

variable {c : Char}

theorem escaped_of_forall_ne {table : List (Char × Char)} (h : ∀ escape ∈ table, escape.2 ≠ c) :
    escaped table c = [c] := by
  have hfind : (table.find? fun escape => escape.2 == c) = none := by simpa using h
  rw [escaped, hfind]

theorem enclosed_flatMap_escaped (text : List Char) :
    Enclosed '"' (text.flatMap (escaped literalEscapes)) := by
  have hletters : ∀ escape ∈ literalEscapes, escape.1 ≠ '\n' := by decide
  induction text with
  | nil => exact .nil
  | cons c text ih =>
    rw [List.flatMap_cons]
    obtain ⟨escape, hescape, -, heq⟩ | ⟨hplain, heq⟩ := escaped_cases literalEscapes c
    · rw [heq]
      exact .escape (hletters escape hescape) ih
    · rw [heq]
      exact .plain (hplain ('"', '"') (by decide)).symm (hplain ('\\', '\\') (by decide)).symm ih

/-- A literal is one string token. -/
theorem tokenize_literalOf (text : String) :
    tokenize (literalOf text) = .ok [⟨.string, literalOf text, Place.start⟩,
      ⟨.endOfFile, "", Place.endOf (literalOf text).toList⟩] := by
  have hlexeme := Lexeme.quoted (.inl rfl) (enclosed_flatMap_escaped text.toList)
  have hnothing : AtBlank [] := by simp [AtBlank]
  have hscan := scan_lexeme hlexeme hnothing Place.start
  rw [List.append_nil, scan] at hscan
  rw [tokenize, Scan.result_eq_ok_iff, literalOf, String.toList_ofList, hscan, ← Place.endOf_nil,
    Place.advance_endOf]
  exact ⟨rfl, rfl⟩

/-! ## Reading a literal -/

/-- The first three replacements. -/
def readControls (text : List Char) : List Char :=
  controls.foldl (fun text escape => replaceEscape escape.1 escape.2 text) text

theorem unescape_eq (text : List Char) :
    unescape text = replaceEscape '\'' '\''
      (replaceEscape '"' '"' (replaceEscape '\\' '\\' (readControls text))) := rfl

theorem readControls_cons (hc : c ≠ '\\') (text : List Char) :
    readControls (c :: text) = c :: readControls text := by
  simp only [readControls, controls, List.foldl_cons, List.foldl_nil, replaceEscape_cons hc]

/-- The character in front of the text is no backslash that a control letter follows. -/
def KeepsApart (c : Char) (text : List Char) : Prop :=
  c = '\\' → ∀ escape ∈ controls, text.head? ≠ some escape.1

theorem readControls_slash {text : List Char} (h : KeepsApart '\\' text) :
    readControls ('\\' :: text) = '\\' :: readControls text := by
  have hn := h rfl ('n', '\n') (by decide)
  have ht : (replaceEscape 'n' '\n' text).head? ≠ some 't' :=
    head?_replaceEscape_ne 'n' (h rfl ('t', '\t') (by decide)) (by decide)
  have hr : (replaceEscape 't' '\t' (replaceEscape 'n' '\n' text)).head? ≠ some 'r' :=
    head?_replaceEscape_ne 't'
      (head?_replaceEscape_ne 'n' (h rfl ('r', '\r') (by decide)) (by decide)) (by decide)
  simp only [readControls, controls, List.foldl_cons, List.foldl_nil]
  rw [replaceEscape_slash hn, replaceEscape_slash ht, replaceEscape_slash hr]

theorem readControls_escape {escape : Char × Char} (h : escape ∈ controls) (text : List Char) :
    readControls ('\\' :: escape.1 :: text) = escape.2 :: readControls text := by
  simp only [controls, List.mem_cons, List.not_mem_nil, or_false] at h
  simp only [readControls, controls, List.foldl_cons, List.foldl_nil]
  rcases h with rfl | rfl | rfl
  · rw [replaceEscape_escape, replaceEscape_cons (by decide), replaceEscape_cons (by decide)]
  · rw [replaceEscape_other (by decide) (by decide), replaceEscape_escape,
      replaceEscape_cons (by decide)]
  · rw [replaceEscape_other (by decide) (by decide), replaceEscape_other (by decide) (by decide),
      replaceEscape_escape]

/-- A literal between two replacements. Control letters behind a backslash were taken for escapes,
and the escapes of the table still stand. -/
def halfRead (table : List (Char × Char)) : List Char → List Char
  | [] => []
  | [c] => escaped table c
  | c :: d :: rest =>
    match if c = '\\' then controls.lookup d else none with
    | some meaning => '\\' :: meaning :: halfRead table rest
    | none => escaped table c ++ halfRead table (d :: rest)

theorem halfRead_misread (table : List (Char × Char)) {escape : Char × Char}
    (h : escape ∈ controls) (text : List Char) :
    halfRead table ('\\' :: escape.1 :: text) = '\\' :: escape.2 :: halfRead table text := by
  have hlookup : ∀ escape ∈ controls, controls.lookup escape.1 = some escape.2 := by decide
  rw [halfRead, if_pos rfl, hlookup escape h]

theorem halfRead_cons (table : List (Char × Char)) {text : List Char} (h : KeepsApart c text) :
    halfRead table (c :: text) = escaped table c ++ halfRead table text := by
  cases text with
  | nil => simp [halfRead]
  | cons d rest =>
    have hnone : (if c = '\\' then controls.lookup d else none) = none := by
      split
      · rename_i hslash
        rw [List.lookup_eq_none_iff]
        intro escape hescape
        simpa using h hslash escape hescape
      · rfl
    rw [halfRead, hnone]

theorem induction_misread {motive : List Char → Prop} (text : List Char) (nil : motive [])
    (misread : ∀ escape ∈ controls, ∀ text, motive text → motive ('\\' :: escape.1 :: text))
    (cons : ∀ c text, KeepsApart c text → motive text → motive (c :: text)) : motive text := by
  fun_induction halfRead [] text with
  | case1 => exact nil
  | case2 c => exact cons c [] (by simp [KeepsApart]) nil
  | case3 c d rest meaning hmeaning ih =>
    split at hmeaning
    · rename_i hslash
      subst hslash
      obtain ⟨front, back, hcontrols, -⟩ := List.lookup_eq_some_iff.mp hmeaning
      have hescape : (d, meaning) ∈ controls := by simp [hcontrols]
      exact misread (d, meaning) hescape rest ih
    · cases hmeaning
  | case4 c d rest hmeaning ih =>
    refine cons c (d :: rest) ?_ ih
    intro hslash escape hescape
    rw [if_pos hslash, List.lookup_eq_none_iff] at hmeaning
    simpa using hmeaning escape hescape

/-! ### One character of the text, read by each kind of replacement -/

theorem readControls_escaped {later : List Char} (h : KeepsApart c later) :
    readControls (escaped literalEscapes c ++ later) =
      escaped marks c ++ readControls later := by
  have hletters : ∀ mark ∈ marks, ∀ escape ∈ controls, mark.1 ≠ escape.1 := by decide
  obtain ⟨escape, hescape, rfl, heq⟩ | ⟨hplain, heq⟩ := escaped_cases literalEscapes c
  · rw [heq]
    rcases List.mem_append.mp hescape with hcontrol | hmark
    · have hread : ∀ escape ∈ controls, escaped marks escape.2 = [escape.2] := by decide
      rw [hread escape hcontrol]
      exact readControls_escape hcontrol later
    · -- The escape of a mark is no control escape and is left standing.
      have hstands : KeepsApart '\\' (escape.1 :: later) := by
        intro _ control hcontrol
        simpa using hletters escape hmark control hcontrol
      simp only [marks, List.mem_cons, List.not_mem_nil, or_false] at hmark
      rcases hmark with rfl | rfl
      · exact (readControls_slash hstands).trans (congrArg _ (readControls_slash h))
      · exact (readControls_slash hstands).trans (congrArg _ (readControls_cons (by decide) later))
  · have hmarks : ∀ mark ∈ marks, mark.2 ≠ c :=
      fun mark hmark => hplain mark (List.mem_append_right _ hmark)
    rw [heq, escaped_of_forall_ne hmarks]
    exact readControls_cons (hmarks ('\\', '\\') (by decide)).symm later

theorem replaceEscape_slash_escaped (c : Char) (later : List Char) :
    replaceEscape '\\' '\\' (escaped marks c ++ later) =
      escaped [('"', '"')] c ++ replaceEscape '\\' '\\' later := by
  by_cases hslash : c = '\\'
  · subst hslash
    exact replaceEscape_escape later
  by_cases hquote : c = '"'
  · subst hquote
    exact replaceEscape_other (by decide) (by decide) later
  rw [escaped_of_forall_ne (by simp [marks, Ne.symm hslash, Ne.symm hquote]),
    escaped_of_forall_ne (by simp [Ne.symm hquote])]
  exact replaceEscape_cons hslash later

theorem replaceEscape_quote_escaped (c : Char) {later : List Char} (h : later.head? ≠ some '"') :
    replaceEscape '"' '"' (escaped [('"', '"')] c ++ later) =
      escaped [] c ++ replaceEscape '"' '"' later := by
  by_cases hquote : c = '"'
  · subst hquote
    exact replaceEscape_escape later
  rw [escaped_of_forall_ne (by simp [Ne.symm hquote]), escaped_of_forall_ne (by simp)]
  by_cases hslash : c = '\\'
  · subst hslash
    exact replaceEscape_slash h
  · exact replaceEscape_cons hslash later

/-! ### The whole text -/

theorem readControls_flatMap (text : List Char) :
    readControls (text.flatMap (escaped literalEscapes)) =
      halfRead marks text := by
  have hplain : ∀ escape ∈ controls, escaped literalEscapes escape.1 = [escape.1] := by decide
  have hslash : ∀ escape ∈ controls, '\\' ≠ escape.1 := by decide
  induction text using induction_misread with
  | nil => rfl
  | misread escape hescape text ih =>
    have hfirst :
        KeepsApart '\\' ('\\' :: escape.1 :: text.flatMap (escaped literalEscapes)) := by
      intro _ other hother
      simpa using hslash other hother
    rw [halfRead_misread _ hescape, List.flatMap_cons, List.flatMap_cons, hplain escape hescape]
    change readControls ('\\' :: '\\' :: escape.1 :: text.flatMap (escaped literalEscapes)) = _
    rw [readControls_slash hfirst, readControls_escape hescape, ih]
  | cons c text h ih =>
    rw [halfRead_cons _ h, List.flatMap_cons, readControls_escaped, ih]
    intro hc escape hescape
    cases text with
    | nil => simp
    | cons d rest =>
      obtain ⟨other, -, -, heq⟩ | ⟨-, heq⟩ := escaped_cases literalEscapes d
      · rw [List.flatMap_cons, heq]
        simpa using hslash escape hescape
      · rw [List.flatMap_cons, heq]
        simpa using h hc escape hescape

theorem replaceEscape_slash_halfRead (text : List Char) :
    replaceEscape '\\' '\\' (halfRead marks text) =
      halfRead [('"', '"')] text := by
  have hmeanings : ∀ escape ∈ controls, escape.2 ≠ '\\' := by decide
  induction text using induction_misread with
  | nil => rfl
  | misread escape hescape text ih =>
    have hmeaning := hmeanings escape hescape
    rw [halfRead_misread _ hescape, halfRead_misread _ hescape,
      replaceEscape_other hmeaning hmeaning, ih]
  | cons c text h ih =>
    rw [halfRead_cons _ h, halfRead_cons _ h, replaceEscape_slash_escaped, ih]

theorem head?_halfRead_ne (text : List Char) : (halfRead [('"', '"')] text).head? ≠ some '"' := by
  induction text using induction_misread with
  | nil => simp [halfRead]
  | misread escape hescape text ih =>
    rw [halfRead_misread _ hescape]
    simp
  | cons c text h ih =>
    rw [halfRead_cons _ h]
    obtain ⟨escape, -, -, heq⟩ | ⟨hplain, heq⟩ := escaped_cases [('"', '"')] c
    · simp [heq]
    · rw [heq]
      simpa using (hplain ('"', '"') (by simp)).symm

theorem replaceEscape_quote_halfRead (text : List Char) :
    replaceEscape '"' '"' (halfRead [('"', '"')] text) = halfRead [] text := by
  have hmeanings : ∀ escape ∈ controls, escape.2 ≠ '\\' ∧ escape.2 ≠ '"' := by decide
  induction text using induction_misread with
  | nil => rfl
  | misread escape hescape text ih =>
    obtain ⟨hslash, hquote⟩ := hmeanings escape hescape
    rw [halfRead_misread _ hescape, halfRead_misread _ hescape, replaceEscape_other hquote hslash,
      ih]
  | cons c text h ih =>
    rw [halfRead_cons _ h, halfRead_cons _ h,
      replaceEscape_quote_escaped c (head?_halfRead_ne text), ih]

/-- What is between the quotation marks of a literal stands for the text in which the control
letters behind backslashes were taken for escapes, and then apostrophes behind backslashes too. -/
theorem unescape_flatMap (text : List Char) :
    unescape (text.flatMap (escaped literalEscapes)) =
      replaceEscape '\'' '\'' (halfRead [] text) := by
  rw [unescape_eq, readControls_flatMap, replaceEscape_slash_halfRead,
    replaceEscape_quote_halfRead]

theorem length_halfRead (text : List Char) : (halfRead [] text).length = text.length := by
  induction text using induction_misread with
  | nil => rfl
  | misread escape hescape text ih => simp [halfRead_misread _ hescape, ih]
  | cons c text h ih => simp [halfRead_cons _ h, escaped, ih]

theorem halfRead_eq_self_iff (text : List Char) :
    halfRead [] text = text ↔ ∀ escape ∈ controls, ¬['\\', escape.1] <:+: text := by
  have hmeanings : ∀ escape ∈ controls, escape.2 ≠ escape.1 := by decide
  induction text using induction_misread with
  | nil => simp [halfRead]
  | misread escape hescape text ih =>
    rw [halfRead_misread _ hescape]
    refine iff_of_false ?_ ?_
    · intro heq
      exact hmeanings escape hescape (List.cons.inj (List.cons.inj heq).2).1
    · intro h
      exact h escape hescape (List.infix_append [] ['\\', escape.1] text)
  | cons c text h ih =>
    have hlater : halfRead [] text = text ↔ ∀ escape ∈ controls, ¬['\\', escape.1] <:+: text := ih
    have hhead : escaped [] c ++ halfRead [] text = c :: halfRead [] text := rfl
    rw [halfRead_cons _ h, hhead, List.cons.injEq, hlater, and_iff_right rfl]
    refine forall₂_congr fun escape hescape => ?_
    rw [List.infix_cons_iff, not_or]
    refine (and_iff_right ?_).symm
    rintro ⟨later, hlater⟩
    obtain ⟨rfl, hrest⟩ := List.cons.inj hlater
    exact h rfl escape hescape (by rw [← hrest]; rfl)

/-- Every text can be written as a literal, which is one string token. The literal stands for the
text exactly if no backslash of the text is followed by one of the letters n, t and r or by an
apostrophe. -/
theorem literalText_literalOf_iff (text : String) :
    tokenize (literalOf text) = .ok [⟨.string, literalOf text, Place.start⟩,
        ⟨.endOfFile, "", Place.endOf (literalOf text).toList⟩] ∧
      (literalText (literalOf text) = text ↔
        ∀ letter ∈ ['n', 't', 'r', '\''], ¬['\\', letter] <:+: text.toList) := by
  refine ⟨tokenize_literalOf text, ?_⟩
  have hvalue : literalText (literalOf text) =
      String.ofList (replaceEscape '\'' '\'' (halfRead [] text.toList)) := by
    rw [← unescape_flatMap, literalText, literalOf, String.toList_ofList, List.tail_cons,
      List.dropLast_concat]
  have hcontrols : (∀ letter ∈ ['n', 't', 'r', '\''], ¬['\\', letter] <:+: text.toList) ↔
      halfRead [] text.toList = text.toList ∧ ¬['\\', '\''] <:+: text.toList := by
    rw [halfRead_eq_self_iff]
    simp [controls, and_assoc]
  rw [hvalue, hcontrols]
  constructor
  · intro heq
    have hread : replaceEscape '\'' '\'' (halfRead [] text.toList) = text.toList :=
      String.ofList_injective (by rw [heq, String.ofList_toList])
    have hlength : (replaceEscape '\'' '\'' (halfRead [] text.toList)).length =
        (halfRead [] text.toList).length := by
      rw [hread, length_halfRead]
    have hquote := not_infix_of_length_replaceEscape hlength
    rw [replaceEscape_eq_self hquote] at hread
    rw [hread] at hquote
    exact ⟨hread, hquote⟩
  · rintro ⟨hself, hquote⟩
    rw [hself, replaceEscape_eq_self hquote, String.ofList_toList]

/-- The literal of a path, whose backslash and letter are read as a backslash and a line end. -/
theorem literalText_literalOf_path :
    literalOf "C:\\new" = "\"C:\\\\new\"" ∧
      literalText (literalOf "C:\\new") = "C:\\\new" ∧
      literalText (literalOf "C:\\new") ≠ "C:\\new" := by
  decide

end ScriptStudio
