import ScriptStudio.Editor.Completion
import ScriptStudio.Proofs.LinePositions
import ScriptStudio.Proofs.ReplaceOccurrences

/-!
# The word that a completion replaces

The word to complete is the last one of the line before the cursor, and other characters may stand
between it and the cursor. Accepting a completion takes out as many characters before the cursor as
the word has. These are the word exactly if nothing stands between.

* `Completion.TypedAt`: the text around the word to complete.
* `Completion.exists_typedAt`: where completions are offered there is such a word.
* `Completion.text_accept`: what accepting a completion leaves.
-/

namespace ScriptStudio

namespace Completion

/-! ## The word to complete -/

/-- The text is cut around the last word of the line before the cursor: `gap` is what stands between
the word and the cursor. -/
structure TypedAt (buffer : Buffer) (front word gap after : List Char) : Prop where
  text_eq : buffer.text = front ++ (word ++ gap) ++ after
  cursor_eq : buffer.cursor = (front ++ (word ++ gap)).length
  word_ne_nil : word ≠ []
  isWord : ∀ c ∈ word, Text.isWord c = true
  front_getLast? : ∀ c ∈ front.getLast?, Text.isWord c = false
  gap_isWord : ∀ c ∈ gap, Text.isWord c = false
  gap_newline : '\n' ∉ gap

theorem lastWord?_eq_some {line : List Char} {typed : String} (h : lastWord? line = some typed) :
    ∃ head gap, line = head ++ (typed.toList ++ gap) ∧ typed.toList ≠ [] ∧
      (∀ c ∈ typed.toList, Text.isWord c = true) ∧ (∀ c ∈ head.getLast?, Text.isWord c = false) ∧
      ∀ c ∈ gap, Text.isWord c = false := by
  -- seen from the end, the line is the gap, the word and the rest
  let rest := line.reverse.dropWhile fun c => !Text.isWord c
  have htyped : typed.toList = (rest.takeWhile Text.isWord).reverse ∧ typed.toList ≠ [] := by
    rw [lastWord?] at h
    split at h
    · cases h
    · rename_i hne
      obtain rfl := Option.some.inj h
      rw [String.toList_ofList]
      exact ⟨rfl, by simpa using hne⟩
  refine ⟨(rest.dropWhile Text.isWord).reverse,
    (line.reverse.takeWhile fun c => !Text.isWord c).reverse, ?_, htyped.2, ?_, ?_, ?_⟩
  · rw [htyped.1, ← List.reverse_append, ← List.reverse_append, List.append_assoc,
      List.takeWhile_append_dropWhile, List.takeWhile_append_dropWhile, List.reverse_reverse]
  · intro c hc
    rw [htyped.1, List.mem_reverse] at hc
    exact List.mem_takeWhile_imp hc
  · intro c hc
    rw [List.getLast?_reverse] at hc
    have hnot := List.head?_dropWhile_not Text.isWord rest
    rw [hc] at hnot
    exact hnot
  · intro c hc
    rw [List.mem_reverse] at hc
    simpa using List.mem_takeWhile_imp hc

theorem typed_of_ofBuffer? {buffer : Buffer} {completion : Completion}
    (h : ofBuffer? buffer = some completion) :
    lastWord? (lineBeforeCursor buffer) = some completion.typed := by
  obtain ⟨typed, htyped, hoffers⟩ := Option.bind_eq_some_iff.mp h
  dsimp only at hoffers
  split at hoffers
  · cases hoffers
  · obtain rfl := Option.some.inj hoffers
    exact htyped

/-- Where completions are offered, the line before the cursor has a word. -/
theorem exists_typedAt {buffer : Buffer} {completion : Completion}
    (h : ofBuffer? buffer = some completion) :
    ∃ front gap after, TypedAt buffer front completion.typed.toList gap after := by
  obtain ⟨lines, current, hline⟩ := buffer.exists_lineAt buffer.cursor
  have htyped := typed_of_ofBuffer? h
  rw [lineBeforeCursor, hline.slice_start] at htyped
  obtain ⟨head, gap, rfl, hne, hword, hhead, hgap⟩ := lastWord?_eq_some htyped
  -- a line with a word in it is not behind the whole text
  have hcursor : buffer.cursor ≤ buffer.text.length := by
    by_contra hend
    have hnil := (hline.current_eq_nil (Nat.lt_of_not_le hend)).2
    simp [hne] at hnil
  have htake : buffer.text.take buffer.cursor =
      lines ++ head ++ (completion.typed.toList ++ gap) := by
    rw [List.append_assoc, ← hline.take_eq, Buffer.content,
      List.take_append_of_le_length hcursor]
  refine ⟨lines ++ head, gap, buffer.text.drop buffer.cursor, ?_, ?_, hne, hword, ?_, hgap, ?_⟩
  · rw [← htake, List.take_append_drop]
  · rw [← htake, List.length_take, Nat.min_eq_left hcursor]
  · intro c hc
    rw [List.getLast?_append, Option.mem_def, Option.or_eq_some_iff] at hc
    rcases hc with hc | ⟨-, hc⟩
    · exact hhead c hc
    · rw [hline.closed.eq_newline hc]
      rfl
  · intro hmem
    exact hline.notMem (by simp [hmem])

/-! ## What accepting leaves -/

section

variable {buffer : Buffer} {typed : String} {front gap after : List Char}

theorem text_accept (h : TypedAt buffer front typed.toList gap after) (word : String) :
    (accept buffer typed word).text =
      front ++ (typed.toList ++ gap).take gap.length ++ word.toList ++ after := by
  let kept := front ++ (typed.toList ++ gap).take gap.length
  let cut := (typed.toList ++ gap).drop gap.length
  have hkept : kept ++ cut = front ++ (typed.toList ++ gap) := by
    show front ++ (typed.toList ++ gap).take gap.length ++ (typed.toList ++ gap).drop gap.length = _
    rw [List.append_assoc, List.take_append_drop]
  have htext : buffer.text = kept ++ cut ++ after := by
    rw [hkept, h.text_eq]
  have hcut : cut.length = typed.length := by
    rw [List.length_drop, List.length_append, Nat.add_sub_cancel, String.length_toList]
  have hcursor : buffer.cursor = kept.length + cut.length := by
    rw [h.cursor_eq, ← hkept, List.length_append]
  have hfirst : buffer.cursor - typed.length = kept.length := by omega
  rw [accept, hfirst, hcursor, Buffer.cursor_delete htext hcursor]
  exact Buffer.text_insert (Buffer.text_delete htext) word.toList

theorem take_append_eq_iff (h : TypedAt buffer front typed.toList gap after) (word : List Char) :
    (typed.toList ++ gap).take gap.length ++ word = word ++ gap ↔ gap = [] := by
  constructor
  · intro hsame
    by_contra hgap
    -- what stays begins with a word character, and the gap has none
    have hnone : ((typed.toList ++ gap).take gap.length).countP Text.isWord = 0 := by
      have hcount := congrArg (List.countP Text.isWord) hsame
      have hzero : gap.countP Text.isWord = 0 :=
        List.countP_eq_zero.mpr (by simpa using h.gap_isWord)
      rw [List.countP_append, List.countP_append] at hcount
      omega
    obtain ⟨c, rest, hword⟩ := List.exists_cons_of_ne_nil h.word_ne_nil
    obtain ⟨d, others, rfl⟩ := List.exists_cons_of_ne_nil hgap
    rw [hword, List.cons_append, List.length_cons, List.take_succ_cons, List.countP_cons_of_pos]
      at hnone
    · omega
    · exact h.isWord c (by simp [hword])
  · rintro rfl
    simp

end

/-- Accepting a completion leaves what stands before the word to complete and after the cursor. It
puts the accepted word in the place of the word to complete exactly if that one touches the cursor;
otherwise as many characters of the two stay as there are between the word and the cursor. -/
theorem text_accept_iff (buffer : Buffer) {completion : Completion}
    (hoffers : ofBuffer? buffer = some completion) (word : String) :
    (∃ front gap after, TypedAt buffer front completion.typed.toList gap after) ∧
      ∀ front gap after, TypedAt buffer front completion.typed.toList gap after →
        (accept buffer completion.typed word).text =
          front ++ (completion.typed.toList ++ gap).take gap.length ++ word.toList ++ after ∧
        ((accept buffer completion.typed word).text = front ++ (word.toList ++ gap) ++ after ↔
          gap = []) := by
  refine ⟨exists_typedAt hoffers, fun front gap after htyped => ⟨text_accept htyped word, ?_⟩⟩
  rw [text_accept htyped, ← take_append_eq_iff htyped word.toList, List.append_assoc front,
    List.append_left_inj, List.append_right_inj]

/-- The word to complete touches the cursor. -/
def touching : Buffer := { text := "kas sum = 1\nsay su + 1".toList, cursor := 18 }

theorem text_accept_touching :
    ofBuffer? touching = some ⟨"su", ["sum"]⟩ ∧
      (accept touching "su" "sum").text = "kas sum = 1\nsay sum + 1".toList := by
  have hoffers : ofBuffer? touching = some ⟨"su", ["sum"]⟩ := rfl
  have htyped : TypedAt touching "kas sum = 1\nsay ".toList "su".toList [] " + 1".toList :=
    ⟨rfl, rfl, by decide, List.all_eq_true.mp rfl, fun _ hc => Option.some.inj hc ▸ rfl,
      by simp, by decide⟩
  exact ⟨hoffers, ((text_accept_iff touching hoffers "sum").2 _ _ _ htyped).2.mpr rfl⟩

/-- A blank stands between the word to complete and the cursor. -/
def apart : Buffer := { text := "sa ".toList, cursor := 3 }

/-- The blank and one letter of the word go, and the other letter stays. -/
theorem text_accept_apart :
    ofBuffer? apart = some ⟨"sa", ["say"]⟩ ∧ TypedAt apart [] "sa".toList [' '] [] ∧
      (accept apart "sa" "say").text = "ssay".toList ∧
      (accept apart "sa" "say").text ≠ [] ++ ("say".toList ++ [' ']) ++ [] :=
  ⟨rfl, ⟨rfl, rfl, by decide, List.all_eq_true.mp rfl, by simp,
    fun _ hc => List.mem_singleton.mp hc ▸ rfl, by decide⟩, by decide, by decide⟩

end Completion

end ScriptStudio
