import Mathlib.Data.List.Basic
import Mathlib.Tactic.IntervalCases
import ScriptStudio.Proofs.TextFiles
import ScriptStudio.Studio.Preferences

/-!
# Settings that are written and read

A datum is plain if it is made of texts, lists and null. What the writer makes of plain data is read
back, whatever follows it; that is what `Spells` and its likes for items and fields say. An item
that is a built path ends the text where it stands, and such a text cannot be read.

* `Preferences.read_save`: plain settings are read back from the settings file.
* `Preferences.read_save_unfinished`: settings with a built path among the recent files leave a file
  that cannot be read.
-/

namespace ScriptStudio

/-- A datum that is made of texts, lists and null. -/
inductive Datum.Plain : Datum → Prop where
  | null : Plain .null
  | text (s : String) : Plain (.text s)
  | list {items : List Datum} (plain : ∀ item ∈ items, Plain item) : Plain (.list items)

namespace SettingsReader

open SettingsWriter (escape quoted newLine followedBy)

/-! ## Texts in quotes -/

theorem hexUnit?_hexDigits {n : Nat} (h : n < 32) (more : List Char) :
    hexUnit? (Text.hexDigits 4 n ++ more) = some n := by
  interval_cases n <;> rfl

theorem length_hexDigits (width n : Nat) : (Text.hexDigits width n).length = width := by
  induction width generalizing n with
  | zero => rfl
  | succ width ih => simp [Text.hexDigits, ih]

theorem unitChar_toNat (c : Char) : unitChar c.toNat = c := by
  have hvalid : c.toNat < 0xd800 ∨ 0xdfff < c.toNat ∧ c.toNat < 0x110000 := c.valid
  rw [unitChar, if_neg (by simp; omega), Char.ofNat_toNat]

variable {more gap chars : List Char} {datum : Datum}

/-- A control character is read from its number. -/
theorem unicodeEscape_hexDigits {c : Char} (h : c.toNat < 32) (hmore : more ≠ []) :
    unicodeEscape (Text.hexDigits 4 c.toNat ++ more) = .ok (c, more) := by
  have hlength : (Text.hexDigits 4 c.toNat ++ more).length = 4 + more.length := by
    rw [List.length_append, length_hexDigits]
  have hpos : 0 < more.length := List.length_pos_iff.mpr hmore
  have hdrop : (Text.hexDigits 4 c.toNat ++ more).drop 4 = more :=
    List.drop_left' (length_hexDigits 4 c.toNat)
  have hsurrogate : isHighSurrogate c.toNat = false := by
    simp only [isHighSurrogate, Bool.and_eq_false_iff, decide_eq_false_iff_not]
    omega
  rw [unicodeEscape, if_neg (by omega), hexUnit?_hexDigits h]
  simp only [hdrop, hsurrogate, Bool.false_eq_true, if_false, unitChar_toNat]

theorem stringTail_escape (opened fuel : Nat) (read : List Char) (c : Char) (hmore : more ≠ []) :
    stringTail opened (fuel + 1) read (escape c ++ more) =
      stringTail opened fuel (c :: read) more := by
  unfold escape
  split_ifs with hquote hline hreturn htab hfeed hback hcontrol
  · rw [Bool.or_eq_true, beq_iff_eq, beq_iff_eq] at hquote
    rcases hquote with rfl | rfl <;> rfl
  · rw [beq_iff_eq.mp hline]
    rfl
  · rw [beq_iff_eq.mp hreturn]
    rfl
  · rw [beq_iff_eq.mp htab]
    rfl
  · rw [beq_iff_eq.mp hfeed]
    rfl
  · rw [beq_iff_eq.mp hback]
    rfl
  · have hescape := unicodeEscape_hexDigits hcontrol hmore
    rw [List.cons_append, List.cons_append, stringTail]
    simp [hescape, bind, Except.bind]
  · rw [Bool.not_eq_true, Bool.or_eq_false_iff] at hquote
    simp [stringTail, hquote.1, hquote.2, hcontrol]

theorem stringTail_flatMap_escape (opened : Nat) (text rest : List Char) {fuel : Nat}
    (hfuel : text.length < fuel) (read : List Char) :
    stringTail opened fuel read (text.flatMap escape ++ '"' :: rest) =
      .ok (String.ofList (read.reverse ++ text), rest) := by
  induction text generalizing fuel read with
  | nil =>
    obtain ⟨fuel, rfl⟩ := Nat.exists_eq_add_of_lt hfuel
    simp [stringTail]
  | cons c text ih =>
    obtain ⟨fuel, rfl⟩ : ∃ n, fuel = n + 1 := ⟨fuel - 1, by simp at hfuel; omega⟩
    rw [List.flatMap_cons, List.append_assoc, stringTail_escape _ _ _ _ (by simp),
      ih (by simpa using hfuel)]
    simp

theorem escape_ne_nil (c : Char) : escape c ≠ [] := by
  unfold escape
  split_ifs <;> exact List.cons_ne_nil _ _

theorem length_le_flatMap_escape (text : List Char) :
    text.length ≤ (text.flatMap escape).length := by
  induction text with
  | nil => rfl
  | cons c text ih =>
    have hpos := List.length_pos_iff.mpr (escape_ne_nil c)
    rw [List.flatMap_cons, List.length_append, List.length_cons]
    omega

theorem stringTail_quoted (text : String) (rest : List Char) :
    ∃ inner, (quoted text).toList ++ rest = '"' :: inner ∧
      stringTail (inner.length + 1) (inner.length + 1) [] inner = .ok (text, rest) := by
  refine ⟨text.toList.flatMap escape ++ '"' :: rest, by simp [quoted], ?_⟩
  have hlength := length_le_flatMap_escape text.toList
  have hfuel : text.toList.length < (text.toList.flatMap escape ++ '"' :: rest).length + 1 := by
    rw [List.length_append]
    omega
  rw [stringTail_flatMap_escape _ _ _ hfuel]
  simp

theorem return_notMem_quoted (text : String) : '\r' ∉ (quoted text).toList := by
  have hescape : ∀ c, '\r' ∉ escape c := by
    intro c
    unfold escape
    split_ifs with hquote _ hreturn _ _ _ hcontrol
    · rw [Bool.or_eq_true, beq_iff_eq, beq_iff_eq] at hquote
      rcases hquote with rfl | rfl <;> decide
    · decide
    · decide
    · decide
    · decide
    · decide
    · interval_cases c.toNat <;> decide
    · rw [beq_iff_eq] at hreturn
      simpa using fun h => hreturn h.symm
  simp [quoted, hescape]

/-! ## Between the parts -/

/-- The text begins with a part of a value and not with an end. -/
def Opens (chars : List Char) : Prop :=
  ∃ c rest, chars = c :: rest ∧ isSpace c = false ∧ c ≠ ']' ∧ c ≠ '\x7d'

theorem skip_append (hgap : gap.all isSpace) (rest : List Char) :
    skip (gap ++ rest) = skip rest := by
  rw [skip, List.dropWhile_append_of_pos (by simpa using hgap)]
  rfl

theorem skip_cons {c : Char} (hc : isSpace c = false) (rest : List Char) :
    skip (c :: rest) = c :: rest := by
  rw [skip, List.dropWhile_cons_of_neg (by simp [hc])]

theorem Opens.skip_append (h : Opens chars) (rest : List Char) :
    skip (chars ++ rest) = chars ++ rest := by
  obtain ⟨c, chars, rfl, hspace, _⟩ := h
  exact skip_cons hspace _

theorem Opens.append (h : Opens chars) (rest : List Char) : Opens (chars ++ rest) := by
  obtain ⟨c, chars, rfl, hspace⟩ := h
  exact ⟨c, chars ++ rest, rfl, hspace⟩

theorem all_isSpace_newLine (depth : Nat) : (newLine depth).toList.all isSpace := by
  simp [newLine, isSpace]

theorem return_notMem_newLine (depth : Nat) : '\r' ∉ (newLine depth).toList := by
  simp [newLine]

/-! ## Values -/

/-- The text spells the datum: the reader finds the datum in front of whatever follows. -/
structure Spells (chars : List Char) (datum : Datum) : Prop where
  opens : Opens chars
  return_notMem : '\r' ∉ chars
  value_append : ∀ fuel rest, chars.length ≤ fuel → value fuel (chars ++ rest) = .ok (datum, rest)

/-- The text spells the items of a list: the reader finds them before a closing bracket. -/
structure SpellsItems (chars : List Char) (list : List Datum) : Prop where
  opens : Opens chars
  return_notMem : '\r' ∉ chars
  items_append : ∀ fuel gap rest, chars.length < fuel → gap.all isSpace →
    items fuel (chars ++ (gap ++ ']' :: rest)) = .ok (list, rest)

theorem spells_null : Spells "null".toList .null where
  opens := ⟨'n', _, rfl, rfl, by decide, by decide⟩
  return_notMem := by decide
  value_append fuel rest hfuel := by
    obtain ⟨fuel, rfl⟩ := Nat.exists_eq_add_of_le hfuel
    rw [String.length_toList, Nat.add_comm]
    rfl

theorem spells_quoted (text : String) : Spells (quoted text).toList (.text text) where
  opens := ⟨'"', text.toList.flatMap escape ++ ['"'], by simp [quoted], rfl, by decide, by decide⟩
  return_notMem := return_notMem_quoted text
  value_append fuel rest hfuel := by
    obtain ⟨inner, hinner, htail⟩ := stringTail_quoted text rest
    obtain ⟨fuel, rfl⟩ : ∃ n, fuel = n + 1 := ⟨fuel - 1, by simp [quoted] at hfuel; omega⟩
    rw [hinner, value, if_pos (by decide), htail]
    rfl

theorem spells_nil : Spells "[]".toList (.list []) where
  opens := ⟨'[', _, rfl, rfl, by decide, by decide⟩
  return_notMem := by decide
  value_append fuel rest hfuel := by
    obtain ⟨fuel, rfl⟩ := Nat.exists_eq_add_of_le hfuel
    simp [value, skip_cons, isSpace, Nat.add_comm]

theorem value_bracket (fuel : Nat) {rest : List Char} (h : ∀ after, skip rest ≠ ']' :: after) :
    value (fuel + 1) ('[' :: rest) =
      (items fuel (skip rest)).map fun found => (.list found.1, found.2) := by
  rw [value, if_neg (by decide), if_pos (by decide)]
  split
  · exact absurd ‹_› (h _)
  · cases items fuel (skip rest) <;> rfl

theorem value_brace (fuel : Nat) {rest : List Char} (h : ∀ after, skip rest ≠ '\x7d' :: after) :
    value (fuel + 1) ('\x7b' :: rest) =
      (fields fuel [] (skip rest)).map fun found => (.object found.1, found.2) := by
  rw [value, if_neg (by decide), if_neg (by decide), if_pos (by decide)]
  split
  · exact absurd ‹_› (h _)
  · cases fields fuel [] (skip rest) <;> rfl

/-- A list is spelled by its items between brackets. -/
theorem SpellsItems.spells {list : List Datum} (h : SpellsItems chars list)
    {before after : List Char} (hbefore : before.all isSpace) (hafter : after.all isSpace)
    (hreturn : '\r' ∉ before ∧ '\r' ∉ after) :
    Spells ('[' :: (before ++ (chars ++ (after ++ [']'])))) (.list list) where
  opens := ⟨'[', _, rfl, rfl, by decide, by decide⟩
  return_notMem := by simp [hreturn.1, hreturn.2, h.return_notMem]
  value_append fuel rest hfuel := by
    obtain ⟨fuel, rfl⟩ : ∃ n, fuel = n + 1 := ⟨fuel - 1, by simp at hfuel; omega⟩
    have hskip : skip (before ++ (chars ++ (after ++ [']'])) ++ rest) =
        chars ++ (after ++ ']' :: rest) := by
      rw [List.append_assoc, skip_append hbefore, List.append_assoc, h.opens.skip_append]
      simp
    have hopen : ∀ inner, skip (before ++ (chars ++ (after ++ [']'])) ++ rest) ≠ ']' :: inner := by
      intro inner
      obtain ⟨c, more, rfl, _, hc, _⟩ := h.opens
      rw [hskip]
      simp [hc]
    rw [List.cons_append, value_bracket fuel hopen, hskip,
      h.items_append fuel after rest (by simp at hfuel; omega) hafter]
    rfl

theorem Spells.item (h : Spells chars datum) :
    SpellsItems chars [datum] where
  opens := h.opens
  return_notMem := h.return_notMem
  items_append fuel gap rest hfuel hgap := by
    obtain ⟨fuel, rfl⟩ : ∃ n, fuel = n + 1 := ⟨fuel - 1, by omega⟩
    rw [items, h.value_append fuel _ (by omega)]
    simp only [bind, Except.bind]
    rw [skip_append hgap, skip_cons rfl]
    rfl

theorem SpellsItems.cons {list : List Datum} (h : Spells chars datum)
    (hmore : SpellsItems more list) (hgap : gap.all isSpace) (hreturn : '\r' ∉ gap) :
    SpellsItems (chars ++ (',' :: (gap ++ more))) (datum :: list) where
  opens := h.opens.append _
  return_notMem := by simp [h.return_notMem, hreturn, hmore.return_notMem]
  items_append fuel space rest hfuel hspace := by
    obtain ⟨fuel, rfl⟩ : ∃ n, fuel = n + 1 := ⟨fuel - 1, by omega⟩
    simp only [List.length_append, List.length_cons] at hfuel
    rw [items, List.append_assoc, h.value_append fuel _ (by omega)]
    simp only [bind, Except.bind, List.cons_append]
    rw [skip_cons rfl]
    simp only [List.append_assoc]
    rw [skip_append hgap, hmore.opens.skip_append,
      hmore.items_append fuel space rest (by omega) hspace]
    rfl

/-! ## Objects -/

/-- The text spells the fields of an object: the reader finds them before a closing brace, and adds
them to those that it has. -/
structure SpellsFields (chars : List Char) (entries : List (String × Datum)) : Prop where
  opens : Opens chars
  return_notMem : '\r' ∉ chars
  fields_append : ∀ fuel before gap rest, chars.length < fuel → gap.all isSpace →
    fields fuel before (chars ++ (gap ++ '\x7d' :: rest)) =
      .ok (entries.foldl (fun known entry => Datum.setField entry.1 entry.2 known) before, rest)

/-- A name with its colon and a blank. -/
def label (name : String) : List Char := (quoted name).toList ++ [':', ' ']

theorem opens_label (name : String) (rest : List Char) : Opens (label name ++ rest) :=
  ((spells_quoted name).opens.append _).append rest

theorem return_notMem_label (name : String) : '\r' ∉ label name := by
  simp [label, return_notMem_quoted]

/-- How the reader goes on after a field. -/
def fieldsAfter (fuel : Nat) (known : List (String × Datum)) (rest : List Char) :
    Except ReadError (List (String × Datum) × List Char) :=
  match skip rest with
  | '\x7d' :: after => return (known, after)
  | ',' :: after => fields fuel known (skip after)
  | other => fail .expectingComma other

theorem fieldsAfter_brace (fuel : Nat) (known : List (String × Datum)) (hgap : gap.all isSpace)
    (rest : List Char) : fieldsAfter fuel known (gap ++ '\x7d' :: rest) = .ok (known, rest) := by
  rw [fieldsAfter, skip_append hgap, skip_cons rfl]
  rfl

theorem fieldsAfter_comma (fuel : Nat) (known : List (String × Datum)) (rest : List Char) :
    fieldsAfter fuel known (',' :: rest) = fields fuel known (skip rest) := by
  rw [fieldsAfter, skip_cons rfl]
  rfl

/-- After a label the reader looks for a value. -/
theorem fields_label (fuel : Nat) (before : List (String × Datum)) (name : String)
    (tail : List Char) :
    fields (fuel + 1) before (label name ++ tail) =
      value fuel (skip tail) >>= fun found =>
        fieldsAfter fuel (Datum.setField name found.1 before) found.2 := by
  obtain ⟨inner, hinner, htail⟩ := stringTail_quoted name (':' :: ' ' :: tail)
  have hblank : skip (' ' :: tail) = skip tail := skip_append (show [' '].all isSpace from rfl) tail
  rw [label, List.append_assoc, List.cons_append, List.cons_append, List.nil_append, hinner, fields,
    htail]
  simp only [bind, Except.bind]
  rw [skip_cons rfl]
  simp only [hblank]
  rfl

theorem Spells.field (h : Spells chars datum) (name : String) :
    SpellsFields (label name ++ chars) [(name, datum)] where
  opens := opens_label name chars
  return_notMem := by simp [return_notMem_label, h.return_notMem]
  fields_append fuel before gap rest hfuel hgap := by
    obtain ⟨fuel, rfl⟩ : ∃ n, fuel = n + 1 := ⟨fuel - 1, by omega⟩
    rw [List.length_append] at hfuel
    rw [List.append_assoc, fields_label, h.opens.skip_append, h.value_append fuel _ (by omega)]
    exact fieldsAfter_brace _ _ hgap _

theorem SpellsFields.cons {entries : List (String × Datum)} (name : String) (h : Spells chars datum)
    (hmore : SpellsFields more entries) (hgap : gap.all isSpace) (hreturn : '\r' ∉ gap) :
    SpellsFields (label name ++ (chars ++ (',' :: (gap ++ more)))) ((name, datum) :: entries) where
  opens := opens_label name _
  return_notMem := by
    simp [return_notMem_label, h.return_notMem, hreturn, hmore.return_notMem]
  fields_append fuel before space rest hfuel hspace := by
    obtain ⟨fuel, rfl⟩ : ∃ n, fuel = n + 1 := ⟨fuel - 1, by omega⟩
    simp only [List.length_append, List.length_cons] at hfuel
    rw [List.append_assoc, fields_label, List.append_assoc, h.opens.skip_append,
      h.value_append fuel _ (by omega), List.cons_append, List.append_assoc]
    refine (fieldsAfter_comma _ _ _).trans ?_
    rw [skip_append hgap, hmore.opens.skip_append,
      hmore.fields_append fuel _ space rest (by omega) hspace]
    rfl

theorem SpellsFields.spells {entries : List (String × Datum)} (h : SpellsFields chars entries)
    {before after : List Char} (hbefore : before.all isSpace) (hafter : after.all isSpace)
    (hreturn : '\r' ∉ before ∧ '\r' ∉ after) :
    Spells ('\x7b' :: (before ++ (chars ++ (after ++ ['\x7d']))))
      (.object (entries.foldl (fun known entry => Datum.setField entry.1 entry.2 known) [])) where
  opens := ⟨'\x7b', _, rfl, rfl, by decide, by decide⟩
  return_notMem := by simp [hreturn.1, hreturn.2, h.return_notMem]
  value_append fuel rest hfuel := by
    obtain ⟨fuel, rfl⟩ : ∃ n, fuel = n + 1 := ⟨fuel - 1, by simp at hfuel; omega⟩
    have hskip : skip (before ++ (chars ++ (after ++ ['\x7d'])) ++ rest) =
        chars ++ (after ++ '\x7d' :: rest) := by
      rw [List.append_assoc, skip_append hbefore, List.append_assoc, h.opens.skip_append]
      simp
    have hopen : ∀ inner,
        skip (before ++ (chars ++ (after ++ ['\x7d'])) ++ rest) ≠ '\x7d' :: inner := by
      intro inner
      obtain ⟨c, more, rfl, _, _, hc⟩ := h.opens
      rw [hskip]
      simp [hc]
    rw [List.cons_append, value_brace fuel hopen, hskip,
      h.fields_append fuel [] after rest (by simp at hfuel; omega) hafter]
    rfl

/-- A text that spells a datum is read as that datum. -/
theorem Spells.document {chars : List Char} {datum : Datum} (h : Spells chars datum)
    (hmark : chars.head? ≠ some (Char.ofNat 0xfeff)) : document chars = .ok datum := by
  have hskip : skip chars = chars := by simpa using h.opens.skip_append []
  have hvalue := h.value_append (2 * chars.length + 2) [] (by omega)
  rw [List.append_nil] at hvalue
  rw [SettingsReader.document, if_neg (by simpa using hmark), hskip, hvalue]
  rfl

/-! ## Texts that break off -/

/-- The text of items breaks off where another item is due. -/
structure BreaksOff (chars : List Char) : Prop where
  return_notMem : '\r' ∉ chars
  bracket_ne : ∀ after, skip chars ≠ ']' :: after
  items_error : ∀ fuel, chars.length < fuel → ∃ error, items fuel (skip chars) = .error error

theorem breaksOff_nil : BreaksOff [] where
  return_notMem := List.not_mem_nil
  bracket_ne := by simp [skip]
  items_error fuel hfuel := by
    obtain ⟨fuel, rfl⟩ : ∃ n, fuel = n + 1 := ⟨fuel - 1, by simp at hfuel; omega⟩
    cases fuel with
    | zero => exact ⟨_, rfl⟩
    | succ fuel => exact ⟨_, rfl⟩

theorem BreaksOff.cons (h : Spells chars datum) (hmore : BreaksOff more) (hgap : gap.all isSpace)
    (hreturn : '\r' ∉ gap) :
    BreaksOff (chars ++ (',' :: (gap ++ more))) where
  return_notMem := by simp [h.return_notMem, hreturn, hmore.return_notMem]
  bracket_ne after := by
    obtain ⟨c, inner, rfl, hspace, hc, _⟩ := h.opens
    rw [List.cons_append, skip_cons hspace]
    simp [hc]
  items_error fuel hfuel := by
    obtain ⟨fuel, rfl⟩ : ∃ n, fuel = n + 1 := ⟨fuel - 1, by omega⟩
    simp only [List.length_append, List.length_cons] at hfuel
    obtain ⟨error, herror⟩ := hmore.items_error fuel (by omega)
    refine ⟨error, ?_⟩
    rw [h.opens.skip_append, items, h.value_append fuel _ (by omega)]
    simp only [bind, Except.bind]
    rw [skip_cons rfl]
    simp only [skip_append hgap, herror]

theorem BreaksOff.document {chars : List Char} (h : BreaksOff chars) (name : String)
    {outer inner : List Char} (houter : outer.all isSpace) (hinner : inner.all isSpace) :
    ∃ error, document ('\x7b' :: (outer ++ (label name ++ ('[' :: (inner ++ chars))))) =
      .error error := by
  have hlist : skip ('[' :: (inner ++ chars)) = '[' :: (inner ++ chars) := skip_cons rfl _
  have hbracket : ∀ after, skip (inner ++ chars) ≠ ']' :: after := by
    rw [skip_append hinner]
    exact h.bracket_ne
  have hfields : skip (outer ++ (label name ++ ('[' :: (inner ++ chars)))) =
      label name ++ ('[' :: (inner ++ chars)) := by
    obtain ⟨c, rest, hopen, hspace, _⟩ := opens_label name ('[' :: (inner ++ chars))
    rw [skip_append houter, hopen, skip_cons hspace]
  have hbrace : ∀ after,
      skip (outer ++ (label name ++ ('[' :: (inner ++ chars)))) ≠ '\x7d' :: after := by
    intro after
    obtain ⟨c, rest, hopen, _, _, hc⟩ := opens_label name ('[' :: (inner ++ chars))
    rw [hfields, hopen]
    simp [hc]
  -- the object, its first field and the list take one unit of fuel each
  obtain ⟨fuel, hfuel, hlength⟩ : ∃ fuel,
      2 * ('\x7b' :: (outer ++ (label name ++ ('[' :: (inner ++ chars))))).length + 2 =
        fuel + 1 + 1 + 1 ∧ chars.length < fuel := by
    refine ⟨2 * (outer.length + (label name).length + inner.length + chars.length) + 3, ?_, ?_⟩
    · simp only [List.length_append, List.length_cons]
      omega
    · omega
  obtain ⟨error, herror⟩ := h.items_error fuel hlength
  refine ⟨error, ?_⟩
  rw [SettingsReader.document, if_neg (by simp), hfuel, skip_cons rfl, value_brace _ hbrace,
    hfields, fields_label, hlist, value_bracket _ hbracket, skip_append hinner, herror]
  rfl

end SettingsReader

namespace SettingsWriter

open SettingsReader

/-- The datum has a written form at every depth, and that spells it. -/
def Writable (datum : Datum) : Prop :=
  ∀ depth, ∃ written, SettingsWriter.datum depth datum = .ok written ∧ Spells written.toList datum

variable {list : List Datum}

theorem exists_spellsItems (depth : Nat) (hlist : ∀ item ∈ list, Writable item) (hne : list ≠ []) :
    ∃ written, items depth list = .ok written ∧ SpellsItems written.toList list := by
  induction list with
  | nil => exact absurd rfl hne
  | cons first rest ih =>
    rw [List.forall_mem_cons] at hlist
    obtain ⟨written, hwritten, hspells⟩ := hlist.1 depth
    cases rest with
    | nil => exact ⟨written, by rw [items, hwritten], hspells.item⟩
    | cons second rest =>
      obtain ⟨more, hmore, hspellsMore⟩ := ih hlist.2 (List.cons_ne_nil _ _)
      refine ⟨written ++ ("," ++ newLine depth ++ more), ?_, ?_⟩
      · rw [items, hwritten, hmore]
        rfl
      · simpa using SpellsItems.cons hspells hspellsMore (all_isSpace_newLine depth)
          (return_notMem_newLine depth)

theorem writable_list (hlist : ∀ item ∈ list, Writable item) : Writable (.list list) := by
  intro depth
  cases list with
  | nil => exact ⟨"[]", by rw [datum], spells_nil⟩
  | cons first rest =>
    obtain ⟨written, hwritten, hspells⟩ :=
      exists_spellsItems (depth + 1) hlist (List.cons_ne_nil _ _)
    refine ⟨"[" ++ newLine (depth + 1) ++ written ++ (newLine depth ++ "]"), ?_, ?_⟩
    · rw [datum, hwritten]
      rfl
    · simpa using hspells.spells (all_isSpace_newLine (depth + 1)) (all_isSpace_newLine depth)
        ⟨return_notMem_newLine (depth + 1), return_notMem_newLine depth⟩

/-- Fields with values that can be written are written. -/
theorem exists_spellsFields (depth : Nat) {entries : List (String × Datum)}
    (hentries : ∀ entry ∈ entries, Writable entry.2) (hne : entries ≠ []) :
    ∃ written, fields depth entries = .ok written ∧ SpellsFields written.toList entries := by
  induction entries with
  | nil => exact absurd rfl hne
  | cons first rest ih =>
    obtain ⟨name, value⟩ := first
    rw [List.forall_mem_cons] at hentries
    obtain ⟨written, hwritten, hspells⟩ := hentries.1 depth
    cases rest with
    | nil =>
      refine ⟨quoted name ++ ": " ++ written, ?_, ?_⟩
      · rw [fields, hwritten]
        rfl
      · simpa [label] using hspells.field name
    | cons second rest =>
      obtain ⟨more, hmore, hspellsMore⟩ := ih hentries.2 (List.cons_ne_nil _ _)
      refine ⟨quoted name ++ ": " ++ written ++ ("," ++ newLine depth ++ more), ?_, ?_⟩
      · rw [fields, hwritten, hmore]
        rfl
      · simpa [label] using SpellsFields.cons name hspells hspellsMore (all_isSpace_newLine depth)
          (return_notMem_newLine depth)

theorem exists_breaksOff (depth : Nat) (hlist : ∀ item ∈ list, Writable item) (built : String)
    (later : List Datum) :
    ∃ written, items depth (list ++ .path built :: later) = .error written ∧
      BreaksOff written.toList := by
  induction list with
  | nil =>
    refine ⟨"", ?_, breaksOff_nil⟩
    cases later with
    | nil => rw [List.nil_append, items, datum]
    | cons second rest =>
      rw [List.nil_append, items, datum]
      rfl
  | cons first rest ih =>
    rw [List.forall_mem_cons] at hlist
    obtain ⟨written, hwritten, hspells⟩ := hlist.1 depth
    obtain ⟨more, hmore, hbreaks⟩ := ih hlist.2
    obtain ⟨second, tail, hcons⟩ : ∃ second tail, rest ++ .path built :: later = second :: tail :=
      List.exists_cons_of_ne_nil (by simp)
    refine ⟨written ++ ("," ++ newLine depth ++ more), ?_, ?_⟩
    · rw [hcons] at hmore
      rw [List.cons_append, hcons, items, hwritten, hmore]
      rfl
    · simpa using BreaksOff.cons hspells hbreaks (all_isSpace_newLine depth)
        (return_notMem_newLine depth)

end SettingsWriter

theorem Datum.Plain.writable {datum : Datum} (h : datum.Plain) :
    SettingsWriter.Writable datum := by
  induction h with
  | null => exact fun depth => ⟨"null", by rw [SettingsWriter.datum], SettingsReader.spells_null⟩
  | text s =>
    exact fun depth =>
      ⟨SettingsWriter.quoted s, by rw [SettingsWriter.datum], SettingsReader.spells_quoted s⟩
  | list _ ih => exact SettingsWriter.writable_list ih

namespace Preferences

open SettingsReader SettingsWriter

/-- Settings that are made of texts, lists and null. -/
structure Values.Plain (values : Values) : Prop where
  recentFiles : values.recentFiles.Plain
  theme : values.theme.Plain
  lastFolder : values.lastFolder.Plain

variable {values : Values} {disk : Disk}

theorem Values.Plain.exists_written (h : values.Plain) :
    ∃ text, values.datum.written = .ok text ∧ '\r' ∉ text.toList ∧
      Datum.ofText text = .ok values.datum := by
  have hentries : ∀ entry ∈ [("recent_files", values.recentFiles), ("theme", values.theme),
      ("last_opened_folder", values.lastFolder)], Writable entry.2 := by
    simpa using ⟨h.recentFiles.writable, h.theme.writable, h.lastFolder.writable⟩
  obtain ⟨written, hwritten, hfields⟩ := exists_spellsFields 1 hentries (List.cons_ne_nil _ _)
  have hspells := hfields.spells (all_isSpace_newLine 1) (all_isSpace_newLine 0)
    ⟨return_notMem_newLine 1, return_notMem_newLine 0⟩
  have htext : ("\x7b" ++ newLine 1 ++ written ++ (newLine 0 ++ "\x7d")).toList =
      '\x7b' :: ((newLine 1).toList ++ (written.toList ++ ((newLine 0).toList ++ ['\x7d']))) := by
    simp
  refine ⟨"\x7b" ++ newLine 1 ++ written ++ (newLine 0 ++ "\x7d"), ?_, ?_, ?_⟩
  · rw [Values.datum, Datum.written, SettingsWriter.datum, hwritten]
    rfl
  · rw [htext]
    exact hspells.return_notMem
  · rw [Datum.ofText, htext, hspells.document (by simp)]
    rfl

theorem exists_written_unfinished {items later : List Datum} {built : String}
    (hitems : ∀ item ∈ items, item.Plain)
    (hrecent : values.recentFiles = .list (items ++ .path built :: later)) :
    ∃ text, values.datum.written = .error text ∧ '\r' ∉ text.toList ∧
      ∃ message, Datum.ofText text = .error message := by
  obtain ⟨written, hwritten, hbreaks⟩ :=
    exists_breaksOff 2 (fun item hitem => (hitems item hitem).writable) built later
  obtain ⟨error, herror⟩ := hbreaks.document "recent_files" (all_isSpace_newLine 1)
    (all_isSpace_newLine 2)
  obtain ⟨first, rest, hcons⟩ : ∃ first rest, items ++ .path built :: later = first :: rest :=
    List.exists_cons_of_ne_nil (by simp)
  have htext : ("\x7b" ++ newLine 1 ++
      (quoted "recent_files" ++ ": " ++ ("[" ++ newLine 2 ++ written))).toList =
      '\x7b' :: ((newLine 1).toList ++ (label "recent_files" ++
        ('[' :: ((newLine 2).toList ++ written.toList)))) := by
    simp [label]
  refine ⟨"\x7b" ++ newLine 1 ++
    (quoted "recent_files" ++ ": " ++ ("[" ++ newLine 2 ++ written)), ?_, ?_, ?_⟩
  · rw [hcons] at hrecent hwritten
    rw [Values.datum, Datum.written, SettingsWriter.datum, SettingsWriter.fields, hrecent,
      SettingsWriter.datum, hwritten]
    rfl
  · rw [htext]
    simp [return_notMem_newLine, return_notMem_label, hbreaks.return_notMem]
  · rw [Datum.ofText, htext, herror]
    exact ⟨_, rfl⟩

/-! ## The settings file -/

theorem placeOf_path : Disk.placeOf path = [path] := by
  decide +kernel

/-- The settings file lies directly in the working directory. -/
theorem locate_path (disk : Disk) : disk.locate path = .ok [path] := by
  have hslash : Path.endsWithSlash path = false := by decide +kernel
  have hsteps : Path.steps path = [path] := by decide +kernel
  refine (Disk.locate_eq_ok_iff hslash).mpr ⟨by decide +kernel, ?_⟩
  rw [hsteps]
  rfl

theorem locateOrFail_path (disk : Disk) : disk.locateOrFail path = .ok [path] :=
  Disk.orFail_eq_ok_iff.mpr ⟨by decide +kernel, locate_path disk⟩

theorem exists_writeText_path (h : disk.takes [path] = true) (text : String) :
    ∃ after, disk.writeText path text = .ok after := by
  have hlocate : Disk.orFail path (disk.locateForWriting path) = .ok [path] := by
    rw [Disk.locateForWriting, if_neg (by decide +kernel)]
    exact locateOrFail_path disk
  unfold Disk.writeText Disk.writeOctets
  rw [hlocate]
  dsimp only [bind, Except.bind]
  unfold Disk.takes at h
  split at h
  · exact ⟨_, by simp only [*]; rfl⟩
  · exact ⟨_, by simp only [*]; rfl⟩
  · cases h
  · cases h

theorem exists?_path (disk : Disk) : disk.exists? path = (disk.entryAt [path]).isSome := by
  rw [Disk.exists?, Disk.find?, locateOrFail_path]

/-- The settings are read from the text of the settings file. -/
theorem read_of_readText {text : String} (h : disk.readText path = .ok text) :
    read disk = (Datum.ofText text).mapError Trouble.settings >>= fun datum =>
      (Values.ofDatum datum).map some := by
  have hthere : disk.exists? path = true := by
    rw [exists?_path]
    cases hentry : disk.entryAt [path] with
    | some entry => rfl
    | none =>
      rw [Disk.readText, Disk.readOctets, locateOrFail_path] at h
      simp only [bind, Except.bind, hentry] at h
      cases h
  rw [read, if_pos hthere, h]
  simp only [bind, Except.bind, Except.mapError]
  cases Datum.ofText text with
  | error message => rfl
  | ok datum =>
    dsimp only
    cases Values.ofDatum datum <;> rfl

theorem read_writeText {after : Disk} {text : String} (h : disk.writeText path text = .ok after)
    (hreturn : '\r' ∉ text.toList) :
    read after = (Datum.ofText text).mapError Trouble.settings >>= fun datum =>
      (Values.ofDatum datum).map some :=
  read_of_readText (Disk.readText_writeText h hreturn)

/-- Plain settings are read back from where they are saved. -/
theorem read_save (h : values.Plain) (hplace : disk.takes [path] = true) :
    read (save values disk).1 = .ok (some values) := by
  obtain ⟨text, hwritten, hreturn, hread⟩ := h.exists_written
  obtain ⟨after, hafter⟩ := exists_writeText_path hplace text
  have hsave : (save values disk).1 = after := by
    rw [save, hwritten]
    simp only [hafter]
  rw [hsave, read_writeText hafter hreturn, hread]
  rfl

/-- Settings with a built path among the recent files spoil the settings file. -/
theorem read_save_unfinished {items later : List Datum} {built : String}
    (hitems : ∀ item ∈ items, item.Plain)
    (hrecent : values.recentFiles = .list (items ++ .path built :: later))
    (hplace : disk.takes [path] = true) :
    ∃ trouble, read (save values disk).1 = .error trouble := by
  obtain ⟨text, hwritten, hreturn, message, hread⟩ := exists_written_unfinished hitems hrecent
  obtain ⟨after, hafter⟩ := exists_writeText_path hplace text
  have hsave : (save values disk).1 = after := by
    rw [save, hwritten]
    simp only [hafter]
  refine ⟨.settings message, ?_⟩
  rw [hsave, read_writeText hafter hreturn, hread]
  rfl

theorem read_save_refused (values : Values) (hplace : ¬disk.takes [path] = true) :
    ∃ trouble, read (save values disk).1 = .error trouble := by
  have hwrite : ∀ text after, disk.writeText path text ≠ .ok after := by
    intro text after hafter
    obtain ⟨_, _, htakes, _⟩ := Disk.writeText_eq hafter
    rw [placeOf_path] at htakes
    exact hplace htakes
  have hsave : (save values disk).1 = disk := by
    rw [save]
    split
    split
    · exact absurd ‹_› (hwrite _ _)
    · rfl
  rw [hsave, read, exists?_path, Disk.readText, Disk.readOctets, locateOrFail_path]
  unfold Disk.takes at hplace
  split at hplace
  · exact absurd rfl hplace
  · exact absurd rfl hplace
  · simp only [bind, Except.bind, *]
    exact ⟨_, rfl⟩
  · simp only [bind, Except.bind, *]
    exact ⟨_, rfl⟩

end Preferences

end ScriptStudio
