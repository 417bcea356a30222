import Mathlib.Order.Lattice.Nat
import Mathlib.Tactic.IntervalCases
import ScriptStudio.Proofs.ReplaceOccurrences

/-!
# Finding and replacing one occurrence after the other

Finding looks from the cursor on and then from the beginning up to the cursor. An occurrence belongs
to the part that it begins in, so the two parts together have all of them, those included that the
cursor stands inside.

* `FindRequest.findNext_wrapped`: finding with both parts.
* `FindRequest.ReplacesInTurn`: replacing again and again until nothing is found.
* `FindRequest.exists_replacesInTurn`: what that leaves, by induction on the pieces of the text that
  the cursor has not passed yet.
* `FindRequest.replacesInTurn_replaceAll`: it comes to the same as replacing all occurrences.
-/

namespace ScriptStudio

namespace Buffer

variable {buffer : Buffer} {query : List Char} {p : Nat}

/-! ## Occurrences -/

theorem exists_mem_occurrences_iff : (∃ p, p ∈ buffer.occurrences query) ↔ query <:+: buffer.text :=
  (Pieces.isInfix_iff_exists_drop query buffer.text).symm

theorem add_length_le_of_mem_occurrences (hquery : query ≠ []) (h : p ∈ buffer.occurrences query) :
    p + query.length ≤ buffer.text.length := by
  have hlength : query.length ≤ buffer.text.length - p := by
    rw [← List.length_drop]
    exact h.length_le
  have hpositive := List.length_pos_iff.mpr hquery
  omega

theorem lt_size_of_mem_occurrences (hquery : query ≠ []) (h : p ∈ buffer.occurrences query) :
    p < buffer.size := by
  have hbound := add_length_le_of_mem_occurrences hquery h
  rw [size]
  omega

/-- The buffer with the characters from a position on selected and the cursor after them. -/
def showing (buffer : Buffer) (position count : Nat) : Buffer :=
  (buffer.select position (position + count)).moveCursor (position + count)

end Buffer

/-- The user was asked whether to go on from the beginning. -/
def Desk.askedToWrap (desk : Desk) : Desk :=
  (desk.askYesNo "Search" "Reached end of file. Continue from beginning?").2

namespace FindRequest

variable {request : FindRequest} {buffer : Buffer} {desk : Desk} {p : Nat}

/-! ## Finding with both parts -/

/-- The query is reported as not found. -/
def reportMissing (request : FindRequest) (desk : Desk) : Desk :=
  desk.tell .info "Search" s!"Could not find '{request.query}'"

variable {later : Desk}

theorem ne_reportMissing (hshown : desk.shown.size ≤ later.shown.size) :
    desk ≠ request.reportMissing later := by
  rintro rfl
  have hsize : (request.reportMissing later).shown.size = later.shown.size + 1 := Array.size_push _
  omega

theorem size_shown_askedToWrap (desk : Desk) :
    desk.askedToWrap.shown.size = desk.shown.size + 1 :=
  Array.size_push _

theorem findNext_of_located (hquery : request.query.toList ≠ [])
    (hoccurs : p ∈ buffer.occurrences request.query.toList)
    (hlocate : request.locate buffer desk = (some p, later)) :
    request.findNext buffer desk = (buffer.showing p request.query.length, later) := by
  have hforward : buffer.forward p request.query.length = p + request.query.length := by
    have hbound := Buffer.add_length_le_of_mem_occurrences hquery hoccurs
    rw [String.length_toList] at hbound
    rw [Buffer.forward, Buffer.size]
    omega
  rw [findNext, if_neg (by simpa using hquery), hlocate]
  simp only [hforward, Buffer.showing]

theorem findNext_of_missing (hquery : request.query.toList ≠ [])
    (hlocate : request.locate buffer desk = (none, later)) :
    request.findNext buffer desk = (buffer, request.reportMissing later) := by
  rw [findNext, if_neg (by simpa using hquery), hlocate]
  rfl

theorem findNext_ahead (hquery : request.query.toList ≠ []) (hline : '\n' ∉ request.query.toList)
    (hcase : request.matchCase = true)
    (hleast : IsLeast {p ∈ buffer.occurrences request.query.toList | buffer.cursor ≤ p} p) :
    request.findNext buffer desk = (buffer.showing p request.query.length, desk) := by
  have hsize := Buffer.lt_size_of_mem_occurrences hquery hleast.1.1
  apply findNext_of_located hquery hleast.1.1
  rw [locate, occurrence?, hcase, Buffer.search?_of_isLeast hline hleast hsize hsize]

section

variable (hline : '\n' ∉ request.query.toList) (hcase : request.matchCase = true)
  (hwrap : request.wrapAround = true) {reply : Value} (hreply : desk.replies.head? = some reply)
  (hyes : reply.isTruthy = true)
include hline hcase hwrap hreply hyes

theorem locate_behind (hnone : ∀ p ∈ buffer.occurrences request.query.toList, p < buffer.cursor) :
    request.locate buffer desk =
      (request.occurrence? buffer 0 buffer.cursor, desk.askedToWrap) := by
  have hahead : request.occurrence? buffer buffer.cursor buffer.size = none := by
    rw [occurrence?, hcase]
    apply Buffer.search?_of_forall_not_mem hline
    intro p hcursor _ hoccurs
    exact absurd (hnone p hoccurs) (Nat.not_lt_of_le hcursor)
  rw [locate, hahead]
  simp [hwrap, Desk.askedToWrap, Desk.askYesNo, Desk.ask, hreply, hyes]

theorem findNext_behind (hquery : request.query.toList ≠ [])
    (hnone : ∀ p ∈ buffer.occurrences request.query.toList, p < buffer.cursor)
    (hleast : IsLeast (buffer.occurrences request.query.toList) p) :
    request.findNext buffer desk =
      (buffer.showing p request.query.length, desk.askedToWrap) := by
  have hfromStart :
      IsLeast {p ∈ buffer.occurrences request.query.toList | 0 ≤ p} p := by
    simpa using hleast
  apply findNext_of_located hquery hleast.1
  rw [locate_behind hline hcase hwrap hreply hyes hnone, occurrence?, hcase,
    Buffer.search?_of_isLeast hline hfromStart (hnone p hleast.1)
      (Buffer.lt_size_of_mem_occurrences hquery hleast.1)]

theorem findNext_nowhere (hquery : request.query.toList ≠ [])
    (hnone : buffer.occurrences request.query.toList = ∅) :
    request.findNext buffer desk = (buffer, request.reportMissing desk.askedToWrap) := by
  have hnever : ∀ p, p ∉ buffer.occurrences request.query.toList := by
    simp [hnone]
  apply findNext_of_missing hquery
  rw [locate_behind hline hcase hwrap hreply hyes fun p hp => absurd hp (hnever p),
    occurrence?, hcase, Buffer.search?_of_forall_not_mem hline fun p _ _ => hnever p]

end

/-- With regard to case, and with the user's consent to go on from the beginning, finding shows the
first occurrence from the cursor on, else the first one of all, also if the cursor stands inside it.
The query is reported as not found exactly if it does not occur. -/
theorem findNext_wrapped (request : FindRequest) (buffer : Buffer) (desk : Desk)
    (hquery : request.query ≠ "") (hline : '\n' ∉ request.query.toList)
    (hcase : request.matchCase = true) (hwrap : request.wrapAround = true) {reply : Value}
    (hreply : desk.replies.head? = some reply) (hyes : reply.isTruthy = true) :
    ((∃ p, IsLeast {p ∈ buffer.occurrences request.query.toList | buffer.cursor ≤ p} p ∧
        request.findNext buffer desk = (buffer.showing p request.query.length, desk)) ∨
      ((∀ p ∈ buffer.occurrences request.query.toList, p < buffer.cursor) ∧
        ∃ p, IsLeast (buffer.occurrences request.query.toList) p ∧
          request.findNext buffer desk =
            (buffer.showing p request.query.length, desk.askedToWrap)) ∨
      (buffer.occurrences request.query.toList = ∅ ∧
        request.findNext buffer desk = (buffer, request.reportMissing desk.askedToWrap))) ∧
    ((request.findNext buffer desk).2 = request.reportMissing desk.askedToWrap ↔
      ¬request.query.toList <:+: buffer.text) := by
  have hchars : request.query.toList ≠ [] := by simpa using hquery
  rw [← Buffer.exists_mem_occurrences_iff]
  by_cases hahead : {p ∈ buffer.occurrences request.query.toList | buffer.cursor ≤ p}.Nonempty
  · have hleast := isLeast_csInf hahead
    have hfound : request.findNext buffer desk = _ := findNext_ahead hchars hline hcase hleast
    refine ⟨.inl ⟨_, hleast, hfound⟩, ?_⟩
    rw [hfound]
    refine iff_of_false (ne_reportMissing ?_) (not_not_intro ⟨_, hleast.1.1⟩)
    exact Nat.le_of_lt (size_shown_askedToWrap desk ▸ Nat.lt_succ_self _)
  · -- what is left begins before the cursor, and the second part asks for no more than that
    have hbefore : ∀ p ∈ buffer.occurrences request.query.toList, p < buffer.cursor :=
      fun p hp => Nat.lt_of_not_le fun hcursor => hahead ⟨p, hp, hcursor⟩
    rcases (buffer.occurrences request.query.toList).eq_empty_or_nonempty with hnone | hsome
    · have hreport := findNext_nowhere hline hcase hwrap hreply hyes hchars hnone
      refine ⟨.inr (.inr ⟨hnone, hreport⟩), iff_of_true (by rw [hreport]) ?_⟩
      simp [hnone]
    · have hleast := isLeast_csInf hsome
      have hfound := findNext_behind hline hcase hwrap hreply hyes hchars hbefore hleast
      refine ⟨.inr (.inl ⟨hbefore, _, hleast, hfound⟩), ?_⟩
      rw [hfound]
      exact iff_of_false (ne_reportMissing le_rfl) (not_not_intro ⟨_, hleast.1⟩)

/-- The cursor stands inside the only occurrence. -/
def insideOccurrence : Buffer := { text := "x\naba".toList, cursor := 3 }

theorem findNext_wrapped_insideOccurrence :
    ("aba" ≠ "" ∧ '\n' ∉ "aba".toList ∧ (Value.bool true).isTruthy = true) ∧
      findNext { query := "aba", matchCase := true } insideOccurrence { replies := [.bool true] } =
        (insideOccurrence.showing 2 3, Desk.askedToWrap { replies := [.bool true] }) := by
  refine ⟨by decide, ?_⟩
  have hoccurs : ∀ p, p ∈ insideOccurrence.occurrences "aba".toList ↔ p = 2 := by
    refine fun p => ⟨fun hp => ?_, fun hp => hp ▸ (by decide : "aba".toList <+: "aba".toList)⟩
    have hbound : p + 3 ≤ 5 := Buffer.add_length_le_of_mem_occurrences (by decide) hp
    have hsmall : p ≤ 2 := by omega
    have hprefix : "aba".toList <+: "x\naba".toList.drop p := hp
    clear hp hbound
    interval_cases p
    · exact absurd hprefix (by decide)
    · exact absurd hprefix (by decide)
    · rfl
  obtain ⟨⟨p, ⟨⟨hp, hcursor⟩, -⟩, -⟩ | ⟨-, p, ⟨hp, -⟩, hfound⟩ | ⟨hnone, -⟩, -⟩ :=
    findNext_wrapped { query := "aba", matchCase := true } insideOccurrence
      { replies := [.bool true] } (by decide) (by decide) rfl rfl rfl rfl
  · rw [(hoccurs p).mp hp] at hcursor
    exact absurd hcursor (by decide)
  · rw [(hoccurs p).mp hp] at hfound
    exact hfound
  · have hempty : 2 ∈ (∅ : Set Nat) := hnone ▸ (hoccurs 2).mpr rfl
    exact absurd hempty (Set.notMem_empty 2)

/-! ## Replacing in turn -/

/-- The selection is an occurrence, so that it is replaced. -/
def replaces (request : FindRequest) (buffer : Buffer) : Bool :=
  buffer.selection.any fun (first, last) => request.isOccurrence (buffer.slice first last)

/-- Replacing again and again until the query is reported as not found, with no box before that, and
how many times the selection was replaced. -/
inductive ReplacesInTurn (request : FindRequest) : Buffer → Desk → Nat → Buffer → Desk → Prop
  | missing {buffer after : Buffer} {desk : Desk}
    (hreplace : request.replace buffer desk = (after, request.reportMissing desk)) :
    ReplacesInTurn request buffer desk (request.replaces buffer).toNat after
      (request.reportMissing desk)
  | again {buffer next after : Buffer} {desk final : Desk} {count : Nat}
    (hreplace : request.replace buffer desk = (next, desk))
    (hrest : ReplacesInTurn request next desk count after final) :
    ReplacesInTurn request buffer desk ((request.replaces buffer).toNat + count) after final

/-- Replacing in turn comes to one end only. -/
theorem ReplacesInTurn.unique {count count' : Nat} {after after' : Buffer} {final final' : Desk}
    (h : ReplacesInTurn request buffer desk count after final)
    (h' : ReplacesInTurn request buffer desk count' after' final') :
    count = count' ∧ after = after' ∧ final = final' := by
  induction h generalizing count' with
  | missing hreplace =>
    cases h' with
    | missing hreplace' =>
      rw [hreplace] at hreplace'
      exact ⟨rfl, congrArg Prod.fst hreplace', rfl⟩
    | again hreplace' _ =>
      rw [hreplace] at hreplace'
      exact absurd (congrArg Prod.snd hreplace').symm (ne_reportMissing le_rfl)
  | again hreplace _ ih =>
    cases h' with
    | missing hreplace' =>
      rw [hreplace] at hreplace'
      exact absurd (congrArg Prod.snd hreplace') (ne_reportMissing le_rfl)
    | again hreplace' hrest' =>
      rw [hreplace] at hreplace'
      obtain rfl := congrArg Prod.fst hreplace'
      obtain ⟨rfl, hends⟩ := ih hrest'
      exact ⟨rfl, hends⟩

end FindRequest

namespace Buffer

variable {buffer : Buffer} {front middle rest : List Char}

/-- The cursor stands between two parts of the text, and nothing is selected. -/
structure Between (buffer : Buffer) (front rest : List Char) : Prop where
  text : buffer.text = front ++ rest
  cursor : buffer.cursor = front.length
  selection : buffer.selection = none

/-- Taking out the selection with the cursor at its end. -/
theorem between_delete (hmiddle : middle ≠ []) (htext : buffer.text = front ++ middle ++ rest) :
    Between ((buffer.showing front.length middle.length).delete front.length
      (front.length + middle.length)) front rest := by
  have hsome : ¬front.length + middle.length ≤ front.length := by
    have hpositive := List.length_pos_iff.mpr hmiddle
    omega
  refine ⟨text_delete htext, cursor_delete htext rfl, ?_⟩
  simp only [delete_stays, cut, showing, select, moveCursor, min_length_text htext, if_neg hsome,
    closeGap_first, closeGap_last (Nat.le_add_right _ _), Option.map_some]
  exact Option.filter_some_neg (by simp)

theorem Between.insert (h : Between buffer front rest) (chars : List Char) :
    Between (buffer.insert front.length chars) (front ++ chars) rest := by
  have hpoint : min front.length buffer.text.length = front.length := by
    rw [h.text, List.length_append]
    omega
  refine ⟨text_insert h.text chars, ?_, ?_⟩
  · simp [Buffer.insert, hpoint, h.cursor]
  · simp [Buffer.insert, h.selection]

end Buffer

namespace FindRequest

variable {request : FindRequest} {buffer : Buffer} {desk : Desk}
  {front before after rest : List Char}

theorem replaceSelection_showing (hquery : request.query.toList ≠ [])
    (hcase : request.matchCase = true)
    (htext : buffer.text = front ++ request.query.toList ++ rest) :
    request.replaces (buffer.showing front.length request.query.toList.length) = true ∧
      (request.replaceSelection (buffer.showing front.length request.query.toList.length)).Between
        (front ++ request.replacement.toList) rest := by
  have hslice : (buffer.showing front.length request.query.toList.length).slice front.length
      (front.length + request.query.toList.length) = request.query.toList :=
    Buffer.slice_of_text htext
  have hoccurs : request.isOccurrence request.query.toList = true := by
    simp [isOccurrence, hcase]
  have hselection : (buffer.showing front.length request.query.toList.length).selection =
      some (front.length, front.length + request.query.toList.length) := rfl
  constructor
  · simp only [replaces, hselection, Option.any_some, hslice, hoccurs]
  · rw [replaceSelection, hselection]
    dsimp only
    rw [hslice, if_pos hoccurs]
    exact (Buffer.between_delete hquery htext).insert _

theorem findNext_of_between (hquery : request.query.toList ≠ [])
    (hline : '\n' ∉ request.query.toList) (hcase : request.matchCase = true)
    (hbetween : buffer.Between front (before ++ request.query.toList ++ after))
    (hfirst : ∀ n < before.length,
      ¬request.query.toList <+: (before ++ request.query.toList ++ after).drop n) :
    request.findNext buffer desk =
      (buffer.showing (front ++ before).length request.query.toList.length, desk) := by
  have hoccurs : (front ++ before).length ∈ buffer.occurrences request.query.toList := by
    rw [List.length_append, Buffer.add_length_mem_occurrences_iff hbetween.text]
    exact Pieces.isPrefix_drop_length before request.query.toList after
  rw [String.length_toList]
  apply findNext_of_located hquery hoccurs
  rw [locate, occurrence?, hcase, hbetween.cursor,
    (Buffer.search?_of_pieces hline hbetween.text).2 before after rfl hfirst, List.length_append]

theorem findNext_of_between_last (hquery : request.query.toList ≠ [])
    (hline : '\n' ∉ request.query.toList) (hcase : request.matchCase = true)
    (hwrap : request.wrapAround = false) (hbetween : buffer.Between front rest)
    (hnone : ¬request.query.toList <:+: rest) :
    request.findNext buffer desk = (buffer, request.reportMissing desk) := by
  apply findNext_of_missing hquery
  rw [locate, occurrence?, hcase, hbetween.cursor,
    (Buffer.search?_of_pieces hline hbetween.text).1 hnone]
  simp [hwrap]

theorem replace_eq (hquery : request.query.toList ≠ []) (buffer : Buffer) (desk : Desk) :
    request.replace buffer desk = request.findNext (request.replaceSelection buffer) desk := by
  rw [replace, if_neg (by simpa using hquery)]

/-- Once the selection is replaced, the pieces of what follows the cursor decide: each gap between
two of them is found, and replaced in the next turn. -/
theorem exists_replacesInTurn (hquery : request.query.toList ≠ [])
    (hline : '\n' ∉ request.query.toList) (hcase : request.matchCase = true)
    (hwrap : request.wrapAround = false) {pieces : List (List Char)}
    (hpieces : Pieces request.query.toList rest pieces)
    (hbetween : (request.replaceSelection buffer).Between front rest) (desk : Desk) :
    ∃ final, ReplacesInTurn request buffer desk
        ((request.replaces buffer).toNat + (pieces.length - 1)) final (request.reportMissing desk) ∧
      final.text = front ++ request.replacement.toList.intercalate pieces := by
  induction hpieces generalizing buffer front with
  | last hnone =>
    refine ⟨request.replaceSelection buffer, .missing ?_, ?_⟩
    · rw [replace_eq hquery, findNext_of_between_last hquery hline hcase hwrap hbetween hnone]
    · rw [hbetween.text, List.intercalate_singleton]
  | @next before after pieces hfirst hafter ih =>
    have htext : (request.replaceSelection buffer).text =
        front ++ before ++ request.query.toList ++ after := by
      simp only [hbetween.text, List.append_assoc]
    -- this turn only shows the occurrence; the next one replaces it and counts
    obtain ⟨hreplaces, hreplaced⟩ := replaceSelection_showing hquery hcase htext
    obtain ⟨final, hturns, hjoined⟩ := ih hreplaced
    refine ⟨final, ?_, ?_⟩
    · have hcount : (before :: pieces).length - 1 = true.toNat + (pieces.length - 1) := by
        have hlength := List.length_pos_iff.mpr hafter.ne_nil
        rw [List.length_cons, Bool.toNat_true]
        omega
      rw [hreplaces] at hturns
      rw [hcount]
      refine .again ?_ hturns
      rw [replace_eq hquery, findNext_of_between hquery hline hcase hbetween hfirst]
    · rw [hjoined, List.intercalate_cons_of_ne_nil hafter.ne_nil]
      simp only [List.append_assoc]

/-- From the beginning of the text with nothing selected, with regard to case and without going on
from the beginning, replacing in turn ends in one way. It leaves the text that replacing all
occurrences leaves, and replaces as many of them. -/
theorem replacesInTurn_replaceAll (request : FindRequest) (buffer : Buffer) (desk : Desk)
    (hquery : request.query ≠ "") (hline : '\n' ∉ request.query.toList)
    (hcase : request.matchCase = true) (hwrap : request.wrapAround = false)
    (hcursor : buffer.cursor = 0) (hselection : buffer.selection = none) :
    ∃ count inTurn atOnce,
      (∀ n after final, ReplacesInTurn request buffer desk n after final ↔
        n = count ∧ after = inTurn ∧ final = request.reportMissing desk) ∧
      request.replaceAll buffer desk =
        .done atOnce (desk.tell .info "Replace All" s!"Replaced {count} occurrences") ∧
      inTurn.text = atOnce.text := by
  have hchars : request.query.toList ≠ [] := by simpa using hquery
  obtain ⟨pieces, hpieces⟩ := Pieces.exists_pieces hchars buffer.text
  have hsame : request.replaceSelection buffer = buffer := by
    rw [replaceSelection, hselection]
  have hbetween : (request.replaceSelection buffer).Between [] buffer.text := by
    rw [hsame]
    exact ⟨rfl, hcursor, hselection⟩
  obtain ⟨inTurn, hturns, hinTurn⟩ :=
    exists_replacesInTurn hchars hline hcase hwrap hpieces hbetween desk
  have hnothing : (request.replaces buffer).toNat = 0 := by
    rw [replaces, hselection]
    rfl
  have hfuel : buffer.text.length < buffer.size + 1 := by
    rw [Buffer.size]
    omega
  obtain ⟨atOnce, hdone, hatOnce⟩ :=
    replaceFrom_of_pieces hchars hline hcase hpieces (List.nil_append _).symm hfuel 0
  rw [hnothing, Nat.zero_add] at hturns
  rw [List.length_nil, Nat.zero_add] at hdone
  refine ⟨pieces.length - 1, inTurn, atOnce, ?_, ?_, ?_⟩
  · intro n after final
    constructor
    · exact fun h => h.unique hturns
    · rintro ⟨rfl, rfl, rfl⟩
      exact hturns
  · rw [replaceAll, if_neg (by simpa using hquery), hdone]
  · rw [hinTurn, hatOnce]

/-- A query that overlaps itself, and a replacement of two lines that begins and ends with it. -/
def doubling : FindRequest :=
  { query := "aa", replacement := "aa\naa", matchCase := true, wrapAround := false }

theorem replacesInTurn_doubling :
    ("aa" ≠ "" ∧ '\n' ∉ "aa".toList) ∧
      ∃ inTurn atOnce, inTurn.text = "aa\naaaxaa\naa".toList ∧ atOnce.text = inTurn.text ∧
        ReplacesInTurn doubling { text := "aaaxaa".toList } {} 2 inTurn
          (doubling.reportMissing {}) ∧
        doubling.replaceAll { text := "aaaxaa".toList } {} =
          .done atOnce (Desk.tell {} .info "Replace All" "Replaced 2 occurrences") := by
  obtain ⟨count, inTurn, atOnce, hturns, hdone, htext⟩ :=
    replacesInTurn_replaceAll doubling { text := "aaaxaa".toList } {} (by decide) (by decide) rfl
      rfl
      rfl rfl
  have hthree : ReplacesInTurn doubling { text := "aaaxaa".toList } {} (0 + (1 + 1))
      { text := "aa\naaaxaa\naa".toList, cursor := 12 } (doubling.reportMissing {}) :=
    .again rfl (.again rfl (.missing rfl))
  obtain ⟨rfl, rfl, -⟩ := (hturns _ _ _).mp hthree
  exact ⟨by decide, _, atOnce, rfl, htext.symm, hthree, hdone⟩

end FindRequest

end ScriptStudio
