import Mathlib.Data.Nat.SuccPred
import ScriptStudio.Editor.FindReplace
import ScriptStudio.Proofs.ScanLines

/-!
# Replacing all occurrences

The leftmost occurrences of a query that do not overlap cut a text into pieces. Replacing all
occurrences joins the pieces by the replacement instead, whatever that is: what was put in is not
searched again, and an occurrence that comes about at its edges stays.

* `Pieces`: a text and its pieces, without regard to any replacement.
* `Buffer.search?_of_isLeast`: a search in a part of the text finds the first occurrence there.
* `Buffer.search?_of_pieces`: what a search finds in the text from a position on.
* `FindRequest.replaceFrom_of_pieces`: the loop, by induction on the pieces that are left.
* `FindRequest.replaceAll_of_pieces`: the text afterwards and the number that is reported.
-/

namespace ScriptStudio

/-! ## Pieces -/

/-- The pieces of a text between the occurrences of a query, each the first one that begins after
the end of the one before. -/
inductive Pieces (query : List Char) : List Char → List (List Char) → Prop
  | last {text : List Char} (hnone : ¬query <:+: text) : Pieces query text [text]
  | next {before after : List Char} {pieces : List (List Char)}
    (hfirst : ∀ n < before.length, ¬query <+: (before ++ query ++ after).drop n)
    (hafter : Pieces query after pieces) :
    Pieces query (before ++ query ++ after) (before :: pieces)

namespace Pieces

variable {query text : List Char} {pieces others : List (List Char)}

theorem ne_nil (h : Pieces query text pieces) : pieces ≠ [] := by
  cases h <;> simp

/-- The query joins the pieces to the text. -/
theorem intercalate_eq (h : Pieces query text pieces) : query.intercalate pieces = text := by
  induction h with
  | last _ => exact List.intercalate_singleton
  | next _ hafter ih => rw [List.intercalate_cons_of_ne_nil hafter.ne_nil, ih]

theorem isInfix_iff_exists_drop (query text : List Char) :
    query <:+: text ↔ ∃ n, query <+: text.drop n := by
  constructor
  · rintro ⟨before, after, rfl⟩
    exact ⟨before.length, after, by simp⟩
  · rintro ⟨n, hn⟩
    exact hn.isInfix.trans (List.drop_suffix n text).isInfix

theorem exists_pieces (hquery : query ≠ []) (text : List Char) :
    ∃ pieces, Pieces query text pieces := by
  induction hlength : text.length using Nat.strong_induction_on generalizing text with
  | _ length ih =>
    by_cases hoccurs : ∃ n, query <+: text.drop n
    · classical
      obtain ⟨after, hafter⟩ := Nat.find_spec hoccurs
      have htext : text.take (Nat.find hoccurs) ++ query ++ after = text := by
        rw [List.append_assoc, hafter, List.take_append_drop]
      have hshorter : after.length < length := by
        have hpositive := List.length_pos_iff.mpr hquery
        rw [← hlength, ← htext, List.length_append, List.length_append]
        omega
      obtain ⟨pieces, hpieces⟩ := ih _ hshorter after rfl
      have hfirst : ∀ n < (text.take (Nat.find hoccurs)).length,
          ¬query <+: (text.take (Nat.find hoccurs) ++ query ++ after).drop n := by
        intro n hn
        rw [htext]
        exact Nat.find_min hoccurs (Nat.lt_of_lt_of_le hn (List.length_take_le _ _))
      have hnext := Pieces.next hfirst hpieces
      rw [htext] at hnext
      exact ⟨_, hnext⟩
    · exact ⟨[text], .last (mt (isInfix_iff_exists_drop query text).mp hoccurs)⟩

theorem eq_cons_or_singleton (h : Pieces query text pieces) :
    (¬query <:+: text ∧ pieces = [text]) ∨
      ∃ before after rest, text = before ++ query ++ after ∧ pieces = before :: rest ∧
        (∀ n < before.length, ¬query <+: text.drop n) ∧ Pieces query after rest := by
  cases h with
  | last hnone => exact .inl ⟨hnone, rfl⟩
  | next hfirst hafter => exact .inr ⟨_, _, _, rfl, rfl, hfirst, hafter⟩

theorem isPrefix_drop_length (before query after : List Char) :
    query <+: (before ++ query ++ after).drop before.length := by
  rw [List.append_assoc, List.drop_left]
  exact List.prefix_append query after

/-- A text has its pieces in one way only. -/
theorem unique (h : Pieces query text pieces) (hothers : Pieces query text others) :
    pieces = others := by
  induction h generalizing others with
  | last hnone =>
    rcases hothers.eq_cons_or_singleton with ⟨-, rfl⟩ | ⟨before, after, rest, rfl, -⟩
    · rfl
    · exact absurd ⟨before, after, rfl⟩ hnone
  | @next before after pieces hfirst hafter ih =>
    rcases hothers.eq_cons_or_singleton with
      ⟨hnone, -⟩ | ⟨before', after', rest, htext, rfl, hfirst', hafter'⟩
    · exact absurd ⟨before, after, rfl⟩ hnone
    · have hle : before.length ≤ before'.length := by
        by_contra hlt
        refine hfirst before'.length (Nat.lt_of_not_le hlt) ?_
        rw [htext]
        exact isPrefix_drop_length before' query after'
      have hge : before'.length ≤ before.length := by
        by_contra hlt
        exact hfirst' before.length (Nat.lt_of_not_le hlt) (isPrefix_drop_length before query after)
      rw [List.append_assoc, List.append_assoc] at htext
      obtain ⟨rfl, hrest⟩ := List.append_inj htext (Nat.le_antisymm hle hge)
      obtain rfl := List.append_cancel_left hrest
      rw [ih hafter']

end Pieces

/-! ## Searching -/

namespace Buffer

section

variable {matchCase : Bool} {query chars : List Char} {limit n : Nat}

theorem offset?_of_never
    (h : ∀ n < limit, startsWith matchCase query (chars.drop n) = false) :
    offset? matchCase query limit chars = none := by
  induction limit generalizing chars with
  | zero => rfl
  | succ limit ih =>
    have hhere : startsWith matchCase query chars = false := h 0 limit.succ_pos
    cases chars with
    | nil => simp [offset?, hhere]
    | cons c rest =>
      have hrest := ih fun n hn => h (n + 1) (Nat.succ_lt_succ hn)
      simp [offset?, hhere, hrest]

theorem offset?_of_first (hlimit : n < limit) (hlength : n ≤ chars.length)
    (hat : startsWith matchCase query (chars.drop n) = true)
    (hfirst : ∀ m < n, startsWith matchCase query (chars.drop m) = false) :
    offset? matchCase query limit chars = some n := by
  induction n generalizing chars limit with
  | zero =>
    obtain ⟨limit, rfl⟩ := Nat.exists_eq_succ_of_ne_zero hlimit.ne'
    rw [List.drop_zero] at hat
    simp [offset?, hat]
  | succ n ih =>
    obtain ⟨limit, rfl⟩ := Nat.exists_eq_succ_of_ne_zero (Nat.ne_zero_of_lt hlimit)
    have hhere : startsWith matchCase query chars = false := hfirst 0 n.succ_pos
    cases chars with
    | nil => exact absurd hlength (Nat.not_succ_le_zero n)
    | cons c rest =>
      have hrest := ih (Nat.lt_of_succ_lt_succ hlimit) (Nat.le_of_succ_le_succ hlength) hat
        fun m hm => hfirst (m + 1) (Nat.succ_lt_succ hm)
      simp [offset?, hhere, hrest]

theorem startsWith_drop_newline (hline : '\n' ∉ query) (rest : List Char) (n : Nat) :
    startsWith true query ((rest ++ ['\n']).drop n) = true ↔ query <+: rest.drop n := by
  rw [startsWith, if_pos rfl]
  rcases Nat.lt_or_ge rest.length n with hlate | hearly
  · rw [List.drop_eq_nil_of_le (by simpa using hlate), List.drop_eq_nil_of_le hlate.le,
      List.isPrefixOf_iff_prefix]
  · rw [List.drop_append_of_le_length hearly, Pattern.isPrefixOf_append_newline hline,
      List.isPrefixOf_iff_prefix]

end

/-- The positions at which the text goes on with the query. -/
def occurrences (buffer : Buffer) (query : List Char) : Set Nat :=
  {p | query <+: buffer.text.drop p}

section

variable {buffer : Buffer} {query front rest : List Char} {start stop p : Nat}

theorem add_length_mem_occurrences_iff (htext : buffer.text = front ++ rest) (n : Nat) :
    front.length + n ∈ buffer.occurrences query ↔ query <+: rest.drop n := by
  rw [occurrences, Set.mem_ofPred_eq, htext, ← List.drop_drop, List.drop_left]

theorem startsWith_drop_content (hline : '\n' ∉ query) (start n : Nat) :
    startsWith true query ((buffer.content.drop start).drop n) = true ↔
      start + n ∈ buffer.occurrences query := by
  rw [List.drop_drop]
  exact startsWith_drop_newline hline buffer.text (start + n)

theorem search?_of_isLeast (hline : '\n' ∉ query)
    (hleast : IsLeast {p ∈ buffer.occurrences query | start ≤ p} p) (hstop : p < stop)
    (hsize : p < buffer.size) : buffer.search? true query start stop = some p := by
  obtain ⟨⟨hoccurs, hstart⟩, hfirst⟩ := hleast
  obtain ⟨n, rfl⟩ := Nat.exists_eq_add_of_le hstart
  have hlimit : n < stop - start := by omega
  have hlength : n ≤ (buffer.content.drop start).length := by
    rw [size] at hsize
    rw [List.length_drop, content, List.length_append, List.length_singleton]
    omega
  rw [search?,
    offset?_of_first hlimit hlength ((startsWith_drop_content hline start n).mpr hoccurs),
    Option.map_some]
  intro m hm
  rw [Bool.eq_false_iff, Ne, startsWith_drop_content hline]
  intro hearlier
  have hle := hfirst ⟨hearlier, Nat.le_add_right start m⟩
  omega

theorem search?_of_forall_not_mem (hline : '\n' ∉ query)
    (hnone : ∀ p, start ≤ p → p < stop → p ∉ buffer.occurrences query) :
    buffer.search? true query start stop = none := by
  rw [search?, offset?_of_never, Option.map_none]
  intro n hn
  rw [Bool.eq_false_iff, Ne, startsWith_drop_content hline]
  exact hnone (start + n) (Nat.le_add_right start n) (by omega)

/-- The first occurrence in the text after a position. -/
theorem search?_of_pieces (hline : '\n' ∉ query) (htext : buffer.text = front ++ rest) :
    (¬query <:+: rest → buffer.search? true query front.length buffer.size = none) ∧
    ∀ before after, rest = before ++ query ++ after →
      (∀ n < before.length, ¬query <+: rest.drop n) →
      buffer.search? true query front.length buffer.size = some (front.length + before.length) := by
  constructor
  · intro hnone
    apply search?_of_forall_not_mem hline
    intro p hstart _ hoccurs
    obtain ⟨n, rfl⟩ := Nat.exists_eq_add_of_le hstart
    rw [add_length_mem_occurrences_iff htext] at hoccurs
    exact hnone ((Pieces.isInfix_iff_exists_drop query rest).mpr ⟨n, hoccurs⟩)
  · intro before after hrest hfirst
    have hsize : front.length + before.length < buffer.size := by
      rw [size, htext, hrest]
      simp only [List.length_append]
      omega
    refine search?_of_isLeast hline ⟨⟨?_, Nat.le_add_right _ _⟩, ?_⟩ hsize hsize
    · rw [add_length_mem_occurrences_iff htext, hrest]
      exact Pieces.isPrefix_drop_length before query after
    · rintro p ⟨hoccurs, hstart⟩
      obtain ⟨n, rfl⟩ := Nat.exists_eq_add_of_le hstart
      rw [add_length_mem_occurrences_iff htext] at hoccurs
      have hle : before.length ≤ n := Nat.le_of_not_lt fun hn => hfirst n hn hoccurs
      omega

end

variable {buffer : Buffer} {front middle rest : List Char}

/-- The characters in the middle of a text. -/
theorem slice_of_text (htext : buffer.text = front ++ middle ++ rest) :
    buffer.slice front.length (front.length + middle.length) = middle := by
  rw [slice, content, htext, ← List.length_append, List.append_assoc, List.take_left,
    List.drop_left]

theorem min_length_text (htext : buffer.text = front ++ middle ++ rest) :
    min (front.length + middle.length) buffer.text.length = front.length + middle.length := by
  rw [htext, List.length_append, List.length_append]
  omega

/-- Taking out the middle of a text. -/
theorem text_delete (htext : buffer.text = front ++ middle ++ rest) :
    (buffer.delete front.length (front.length + middle.length)).text = front ++ rest := by
  rw [delete_stays, cut, min_length_text htext]
  split
  · rename_i hle
    have hmiddle : middle = [] := List.length_eq_zero_iff.mp (by omega)
    rw [htext, hmiddle, List.append_nil]
  · show buffer.text.take front.length ++ buffer.text.drop (front.length + middle.length) =
      front ++ rest
    rw [htext, ← List.length_append, List.drop_left, List.append_assoc, List.take_left]

theorem closeGap_first (first last : Nat) : closeGap first last first = first :=
  if_pos le_rfl

theorem closeGap_last {first last : Nat} (h : first ≤ last) : closeGap first last last = first := by
  rw [closeGap]
  split
  · omega
  · exact if_pos le_rfl

/-- Taking out the characters before the cursor. -/
theorem cursor_delete (htext : buffer.text = front ++ middle ++ rest)
    (hcursor : buffer.cursor = front.length + middle.length) :
    (buffer.delete front.length (front.length + middle.length)).cursor = front.length := by
  rw [delete_stays, cut, min_length_text htext]
  split
  · omega
  · show closeGap _ _ buffer.cursor = front.length
    rw [hcursor, closeGap_last (Nat.le_add_right _ _)]

/-- Putting characters into a text. -/
theorem text_insert (htext : buffer.text = front ++ rest) (chars : List Char) :
    (buffer.insert front.length chars).text = front ++ chars ++ rest := by
  have hpoint : min front.length buffer.text.length = front.length := by
    rw [htext, List.length_append]
    omega
  simp only [insert, hpoint]
  rw [htext, List.take_left, List.drop_left]

theorem forward_of_text (htext : buffer.text = front ++ middle ++ rest) :
    buffer.forward front.length middle.length = front.length + middle.length := by
  rw [forward, size, htext, List.length_append, List.length_append]
  omega

end Buffer

/-! ## Replacing -/

namespace FindRequest

variable {request : FindRequest} {buffer : Buffer}

/-- One occurrence is replaced in the text. -/
theorem text_replaced {front before after : List Char}
    (htext : buffer.text = front ++ (before ++ request.query.toList ++ after)) :
    ((buffer.delete (front.length + before.length)
        (buffer.forward (front.length + before.length) request.query.length)).insert
          (front.length + before.length) request.replacement.toList).text =
      front ++ before ++ request.replacement.toList ++ after := by
  rw [← List.append_assoc, ← List.append_assoc] at htext
  rw [← String.length_toList, ← List.length_append, Buffer.forward_of_text htext]
  exact Buffer.text_insert (Buffer.text_delete htext) _

/-- From a position on, the pieces of what follows it are joined by the replacement. One turn is
enough for each piece, and each but the last piece takes the query at least from what is left. -/
theorem replaceFrom_of_pieces (hquery : request.query.toList ≠ [])
    (hline : '\n' ∉ request.query.toList) (hcase : request.matchCase = true) {rest : List Char}
    {pieces : List (List Char)} (hpieces : Pieces request.query.toList rest pieces)
    {front : List Char} (htext : buffer.text = front ++ rest) {fuel : Nat}
    (hfuel : rest.length < fuel) (count : Nat) :
    ∃ after, request.replaceFrom fuel front.length count buffer =
        some (after, count + (pieces.length - 1)) ∧
      after.text = front ++ request.replacement.toList.intercalate pieces := by
  induction hpieces generalizing buffer front fuel count with
  | last hnone =>
    obtain ⟨fuel, rfl⟩ := Nat.exists_eq_succ_of_ne_zero (Nat.ne_zero_of_lt hfuel)
    refine ⟨buffer, ?_, by rw [htext, List.intercalate_singleton]⟩
    rw [replaceFrom, occurrence?, hcase, (Buffer.search?_of_pieces hline htext).1 hnone]
    rfl
  | @next before after pieces hfirst hafter ih =>
    obtain ⟨fuel, rfl⟩ := Nat.exists_eq_succ_of_ne_zero (Nat.ne_zero_of_lt hfuel)
    have hreplaced := text_replaced htext
    rw [replaceFrom, occurrence?, hcase,
      (Buffer.search?_of_pieces hline htext).2 before after rfl hfirst]
    dsimp only
    generalize (buffer.delete (front.length + before.length)
      (buffer.forward (front.length + before.length) request.query.length)).insert
        (front.length + before.length) request.replacement.toList = replaced at hreplaced ⊢
    have hforward : replaced.forward (front.length + before.length) request.replacement.length =
        (front ++ before ++ request.replacement.toList).length := by
      rw [← String.length_toList, ← List.length_append, Buffer.forward_of_text hreplaced,
        ← List.length_append]
    have hshorter : after.length < fuel := by
      have hpositive := List.length_pos_iff.mpr hquery
      simp only [List.length_append] at hfuel
      omega
    obtain ⟨final, hfinal, hjoined⟩ := ih hreplaced hshorter (count + 1)
    refine ⟨final, ?_, ?_⟩
    · have hlength := List.length_pos_iff.mpr hafter.ne_nil
      rw [hforward, hfinal, List.length_cons]
      congr 2
      omega
    · rw [hjoined, List.intercalate_cons_of_ne_nil hafter.ne_nil]
      simp only [List.append_assoc]

/-- Replacing all occurrences with regard to case ends. The text afterwards is the pieces of the
text before, which has them in one way, joined by the replacement, and the number that is reported
is that of the gaps between them. -/
theorem replaceAll_of_pieces (request : FindRequest) (buffer : Buffer) (desk : Desk)
    (hquery : request.query ≠ "") (hline : '\n' ∉ request.query.toList)
    (hcase : request.matchCase = true) :
    ∃ pieces, (∀ others, Pieces request.query.toList buffer.text others ↔ others = pieces) ∧
      request.query.toList.intercalate pieces = buffer.text ∧
      ∃ after, after.text = request.replacement.toList.intercalate pieces ∧
        request.replaceAll buffer desk = .done after
          (desk.tell .info "Replace All" s!"Replaced {pieces.length - 1} occurrences") := by
  have hchars : request.query.toList ≠ [] := by simpa using hquery
  obtain ⟨pieces, hpieces⟩ := Pieces.exists_pieces hchars buffer.text
  have hfuel : buffer.text.length < buffer.size + 1 := by
    rw [Buffer.size]
    omega
  obtain ⟨after, hafter, htext⟩ :=
    replaceFrom_of_pieces hchars hline hcase hpieces (List.nil_append _).symm hfuel 0
  refine ⟨pieces, fun others => ⟨fun hothers => hothers.unique hpieces, fun h => h ▸ hpieces⟩,
    hpieces.intercalate_eq, after, htext, ?_⟩
  rw [List.length_nil, Nat.zero_add] at hafter
  rw [replaceAll, if_neg (by simpa using hquery), hafter]

/-- A query that overlaps itself, and a replacement of two lines that begins and ends with it. -/
theorem replaceAll_overlapping :
    ("aa" ≠ "" ∧ '\n' ∉ "aa".toList) ∧
      ∃ after, after.text = "aa\naaaxaa\naa".toList ∧
        replaceAll { query := "aa", replacement := "aa\naa", matchCase := true }
          { text := "aaaxaa".toList } {} =
            .done after (Desk.tell {} .info "Replace All" "Replaced 2 occurrences") := by
  obtain ⟨pieces, hpieces, -, after, htext, hdone⟩ :=
    replaceAll_of_pieces { query := "aa", replacement := "aa\naa", matchCase := true }
      { text := "aaaxaa".toList } {} (by decide) (by decide) rfl
  have hcut : Pieces "aa".toList ([] ++ "aa".toList ++ (['a', 'x'] ++ "aa".toList ++ []))
      [[], ['a', 'x'], []] := .next (by decide) (.next (by decide) (.last (by decide)))
  obtain rfl := (hpieces _).mp hcut
  exact ⟨⟨by decide, by decide⟩, after, htext, hdone⟩

end FindRequest

end ScriptStudio
