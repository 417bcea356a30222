import ScriptStudio.Proofs.GrammarComplete
import ScriptStudio.Proofs.ReservedWords
import ScriptStudio.Proofs.ScanJoined

/-!
# The first word of a text

The grammar is settled by first words: no expression begins like a statement, and no statement like
an expression. Where the first word stands in a text is settled by the scanner: behind the blanks in
front, unless a comment comes before it.

* `Grammar.kind_mem_openers`, `Grammar.kind_mem_leaders`: what was read began with a token that may
  begin it.
* `tokenize_lexeme_blank`: with a lexeme and a blank in front, a text is scanned to the token of the
  lexeme and to tokens that spell the same as before.
* `opening_of_scan`: how a text begins that is scanned to its end.
* `Leads.isPrefix_iff`: a name that a text begins with lies within its first lexeme.
-/

namespace ScriptStudio

/-! ## First tokens -/

namespace Grammar

variable {fuel : Nat} {tokens : List Token}

theorem primary_of_notMem_openers (fuel : Nat) (h : (peek tokens).kind ∉ openers) :
    primary (fuel + 1) tokens = refuse .noExpression tokens := by
  unfold primary
  dsimp only
  revert h
  cases (peek tokens).kind <;> simp [openers, literalKinds, unaryKinds]

/-- Where no expression may begin, none is found at any level. -/
theorem binary_ne_ok (h : (peek tokens).kind ∉ openers) (fuel : Nat) :
    (∀ level found, binary fuel level tokens ≠ .ok found) ∧
      (∀ level found, operand fuel level tokens ≠ .ok found) ∧
      ∀ found, unary fuel tokens ≠ .ok found := by
  induction fuel with
  | zero => refine ⟨?_, ?_, ?_⟩ <;> intros <;> intro hok <;> cases hok
  | succ fuel ih =>
    obtain ⟨hbinary, hoperand, hunary⟩ := ih
    refine ⟨fun level found hok => ?_, fun level found hok => ?_, fun found hok => ?_⟩
    · obtain ⟨left, hleft, -⟩ := bind_eq_ok hok
      exact hoperand _ _ hleft
    · unfold operand at hok
      split at hok
      · exact hbinary _ _ hok
      · exact hunary _ hok
    · have hsubset : unaryKinds ⊆ openers := by decide
      have hnot : ¬isAt unaryKinds tokens = true := fun hat => h (hsubset (kind_of_isAt hat))
      -- so only a primary expression is left, which asks for an opener too
      rw [unary, if_neg hnot] at hok
      cases fuel with
      | zero => cases hok
      | succ fuel =>
        rw [primary_of_notMem_openers fuel h] at hok
        cases hok

theorem kind_mem_openers {found : Expr × List Token} (h : expression fuel tokens = .ok found) :
    (peek tokens).kind ∈ openers := by
  by_contra hnot
  exact (binary_ne_ok hnot fuel).1 _ _ h

theorem kind_mem_leaders {found : Stmt × List Token} (h : statement fuel tokens = .ok found) :
    (peek tokens).kind ∈ leaders := by
  cases fuel with
  | zero => cases h
  | succ fuel =>
    by_contra hnot
    have hrefuse : statement (fuel + 1) tokens = refuse .noStatement tokens := by
      unfold statement
      revert hnot
      cases (peek tokens).kind <;> simp [leaders]
    rw [hrefuse] at h
    cases h

theorem kind_of_programItems {found : List Stmt × List Token}
    (h : programItems fuel tokens = .ok found) :
    (peek tokens).kind ∈ .endOfFile :: .newline :: leaders := by
  cases fuel with
  | zero => cases h
  | succ fuel =>
    unfold programItems at h
    split at h
    · rename_i hend
      exact List.mem_cons.mpr (.inl (List.mem_singleton.mp (kind_of_isAt hend)))
    · split at h
      · rename_i hline
        exact .tail _ (List.mem_cons.mpr (.inl (List.mem_singleton.mp (kind_of_isAt hline))))
      · obtain ⟨first, hfirst, -⟩ := bind_eq_ok h
        exact .tail _ (.tail _ (kind_mem_leaders hfirst))

variable {others : List Token}

/-- The word `say` stands in front of an expression. -/
theorem expression_of_programItems_say {word : Token} {found : List Stmt × List Token}
    (hword : word.kind = .sayKw) (hothers : others ≠ [])
    (h : programItems fuel (word :: others) = .ok found) :
    ∃ fuel found, expression fuel others = .ok found := by
  cases fuel with
  | zero => cases h
  | succ fuel =>
    have hend : ¬isAt [.endOfFile] (word :: others) = true := by simp [hword]
    have hline : ¬isAt [.newline] (word :: others) = true := by simp [hword]
    rw [programItems, if_neg hend, if_neg hline] at h
    obtain ⟨first, hfirst, -⟩ := bind_eq_ok h
    cases fuel with
    | zero => cases hfirst
    | succ fuel =>
      unfold statement at hfirst
      rw [peek_cons, hword] at hfirst
      obtain ⟨taken, htaken, hrest⟩ := bind_eq_ok hfirst
      rw [take, peek_cons, if_pos hword, advance_cons hothers] at htaken
      cases htaken
      obtain ⟨e, he, -⟩ := bind_eq_ok hrest
      exact ⟨fuel, e, he⟩

/-- Behind `say` an expression is to be read, and the statement is then the only one so far. -/
theorem reading_say {word : Token} (hword : word.kind = .sayKw) :
    Reading ([.program], [.stmts []], word :: others)
      ([.expression, .make .say, .make .item, .program], [.stmts []], others) := by
  have hprogram : Goal.program.next word = .turn [.statement, .make .item, .program] := by
    simp [Goal.next, hword]
  have hstatement : Goal.statement.next word = .turn Goal.ofSay := by
    simp [Goal.next, Move.ofStatement, hword]
  have hsay : (Goal.token .sayKw (.otherKind .sayKw)).next word = .take [] := if_pos hword
  exact .turn hprogram (.turn hstatement (.take hsay .refl))

theorem kind_peek_of_spelling (h : others.map spelling = tokens.map spelling) :
    (peek others).kind = (peek tokens).kind := by
  cases tokens with
  | nil =>
    obtain rfl : others = [] := by simpa using h
    rfl
  | cons token tokens =>
    obtain ⟨first, more, rfl, hfirst, -⟩ := List.map_eq_cons_iff.mp h
    exact congrArg Prod.fst hfirst

end Grammar

/-! ## A text behind a lexeme -/

/-- Places play no part in scanning. -/
theorem scan_spelling (place other : Place) (source : List Char) :
    (scan other source).rest = (scan place source).rest ∧
      (scan other source).tokens.map Grammar.spelling =
        (scan place source).tokens.map Grammar.spelling := by
  fun_induction scan place source generalizing other with
  | case1 place => simp [scan]
  | case2 place c rest hgap ih =>
    rw [scan, if_pos hgap]
    exact ih _
  | case3 place rest hgap ih =>
    rw [scan, if_neg hgap, if_pos rfl]
    exact ih _
  | case4 place c rest hgap hcomment hnone =>
    rw [scan, if_neg hgap, if_neg hcomment]
    simp [hnone]
  | case5 place c rest hgap hcomment kind length hsome text later ih =>
    rw [scan, if_neg hgap, if_neg hcomment]
    simp only [hsome, List.map_cons]
    obtain ⟨hrest, htokens⟩ := ih (other.advance text)
    exact ⟨hrest, List.cons_eq_cons.mpr ⟨rfl, htokens⟩⟩

variable {kind : TokenKind} {c : Char} {rest text lexeme : List Char}

/-- With a lexeme and a blank in front, a text is scanned to the token of the lexeme and to tokens
that spell the same as before. -/
theorem tokenize_lexeme_blank {word line : String} {tokens : List Token}
    (hword : Lexeme kind word.toList) (h : tokenize line = .ok tokens) :
    ∃ others, tokenize (word ++ " " ++ line) = .ok (⟨kind, word, .start⟩ :: others) ∧
      others.map Grammar.spelling = tokens.map Grammar.spelling := by
  obtain ⟨hrest, rfl⟩ := Scan.result_eq_ok_iff.mp h
  have htext : (word ++ " " ++ line).toList = word.toList ++ ' ' :: line.toList := by simp
  have hblank : AtBlank (' ' :: line.toList) := by simp [AtBlank]
  have hgap : isGap ' ' = true := rfl
  obtain ⟨hrest', hsame⟩ :=
    scan_spelling .start ((Place.start.advance word.toList).next ' ') line.toList
  have hscan := scan_lexeme hword hblank Place.start
  rw [scan, if_pos hgap, String.ofList_toList, ← htext] at hscan
  generalize (Place.start.advance word.toList).next ' ' = place at hrest' hsame hscan
  refine ⟨(scan place line.toList).tokens ++ [⟨.endOfFile, "", (scan place line.toList).place⟩],
    Scan.result_eq_ok_iff.mpr ?_, ?_⟩
  · rw [hscan]
    exact ⟨hrest'.trans hrest, rfl⟩
  · rw [List.map_append, List.map_append, hsame]
    rfl

/-! ## The beginning of a text -/

/-- Of white space, only line ends are lexemes. -/
theorem isBlank_of_lexeme? {found : TokenKind × Nat} (h : lexeme? c rest = some found)
    (hline : c ≠ '\n') : ¬Text.isBlank c = true := by
  intro hblank
  unfold Text.isBlank at hblank
  split at hblank
  · rename_i hascii
    simp only [Bool.or_eq_true, Bool.and_eq_true, decide_eq_true_eq] at hblank
    have hc : c = Char.ofNat c.toNat := (Char.ofNat_toNat c).symm
    generalize c.toNat = code at hc hblank hascii
    subst hc
    rcases hblank with ⟨hlow, hhigh⟩ | ⟨hlow, hhigh⟩
    · interval_cases code <;> cases h
      exact hline rfl
    · interval_cases code <;> cases h
  · rename_i hforeign
    have hpadding : Text.isNumberPadding c = true := by
      rw [Text.isNumberPadding, if_neg hforeign, hblank]
    have hdigit : ¬Text.isDecimal c = true := by
      intro hdigit
      rw [Text.isNumberPadding_of_isDecimal hdigit] at hpadding
      cases hpadding
    rw [lexeme?_eq_none_of_foreign (by omega) hdigit] at h
    cases h

/-- The scanner spells its tokens as their kinds say. -/
theorem Leads.isSpelled {token : Token} (h : Leads token.kind token.text.toList text) :
    token.IsSpelled := by
  have hunique : ∀ entry ∈ spellings, ∀ other ∈ spellings,
      entry.2 = other.2 → entry.1 = other.1 := by decide
  have hfree : ∀ entry ∈ spellings, entry.2 ∉ [.number, .string, .identifier] := by decide
  obtain ⟨c, rest, length, -, hfound, hlexeme⟩ := h
  obtain ⟨pattern, hpattern, hkind, htail⟩ := exists_pattern_of_lexeme? hfound
  -- a pattern for a fixed spelling takes that spelling
  have hfixed : ∀ other ∈ spellings, other.2 = token.kind →
      c :: rest.take length = other.1.toList → token.IsSpelled := by
    intro other hother hkind hspelled entry hentry hsame
    rw [hspelled] at hlexeme
    rw [String.toList_inj.mp hlexeme, hunique entry hentry other hother (hsame ▸ hkind.symm)]
  -- the kinds of the other patterns have no spelling
  have hopen : token.kind ∈ [TokenKind.number, .string, .identifier] → token.IsSpelled :=
    fun hkind entry hentry hsame => absurd (hsame ▸ hkind) (hfree entry hentry)
  simp only [patterns, List.mem_append, List.mem_map, List.mem_cons, List.not_mem_nil,
    or_false] at hpattern
  rcases hpattern with (⟨entry, hentry, rfl⟩ | rfl | rfl | rfl | rfl) | ⟨entry, hentry, rfl⟩
  · exact hfixed entry (List.mem_append_left _ hentry) hkind
      (Pattern.cons_take_of_reserved htail)
  · exact hopen (hkind ▸ by decide)
  · exact hopen (hkind ▸ by decide)
  · exact hopen (hkind ▸ by decide)
  · exact hopen (hkind ▸ by decide)
  · exact hfixed entry (List.mem_append_right _ hentry) hkind
      (Pattern.cons_take_of_spelled htail)

theorem Leads.eq_newline {word : String} (h : Leads kind word.toList (c :: rest))
    (hkind : kind = .newline) : c = '\n' := by
  have hspelled : Token.IsSpelled ⟨kind, word, .start⟩ := Leads.isSpelled h
  have hword : word = "\n" := hspelled ("\n", .newline) (by decide) hkind
  obtain ⟨first, more, length, htext, -, hlexeme⟩ := h
  obtain ⟨rfl, rfl⟩ := List.cons.inj htext
  rw [hword] at hlexeme
  exact (List.cons.inj hlexeme).1.symm

theorem Leads.not_comment (h : Leads kind lexeme ('#' :: rest)) : False := by
  obtain ⟨first, more, length, htext, hfound, -⟩ := h
  obtain ⟨rfl, rfl⟩ := List.cons.inj htext
  rw [lexeme?_eq_none_of_gap (.inr rfl)] at hfound
  cases hfound

/-- How a text begins, after the blanks in front, that is scanned to tokens: nothing is left, or a
comment stands before the first word, or the first word is a lexeme at the front. -/
inductive Opening (text : List Char) (tokens : List Token) : Prop
  | nothing (htext : text = []) (hwords : Grammar.words tokens = [])
  | comment {rest : List Char} (htext : text = '#' :: rest)
    (hfirst : ∀ token ∈ tokens.head?, token.kind = .newline)
  | word {token : Token} {later : List Token} (hleads : Leads token.kind token.text.toList text)
    (hwords : Grammar.words tokens = token :: later)

theorem scan_newline (place : Place) (rest : List Char) :
    (scan place ('\n' :: rest)).tokens =
        ⟨.newline, "\n", place⟩ :: (scan (place.next '\n') rest).tokens ∧
      (scan place ('\n' :: rest)).rest = (scan (place.next '\n') rest).rest := by
  rw [scan, if_neg (by decide), if_neg (by decide), lexeme?_newline]
  exact ⟨rfl, rfl⟩

theorem kind_head_scan (h : AtLineEnd text) (place : Place) :
    ∀ token ∈ (scan place text).tokens.head?, token.kind = .newline := by
  cases text with
  | nil => simp [scan]
  | cons c rest =>
    obtain rfl := h c rfl
    simp [(scan_newline place rest).1]

/-- A line end in front plays no part in how a text begins. -/
theorem Opening.newline {tokens : List Token} (h : Opening text tokens) {token : Token}
    (htoken : token.kind = .newline) : Opening text (token :: tokens) := by
  have hskip := Grammar.words_cons_newline htoken tokens
  cases h with
  | nothing htext hwords => exact .nothing htext (hskip.trans hwords)
  | comment htext _ =>
    refine .comment htext fun first hfirst => ?_
    obtain rfl : token = first := by simpa using hfirst
    exact htoken
  | word hleads hwords => exact .word hleads (hskip.trans hwords)

/-- The first word of a text that is scanned to its end stands behind the blanks in front, unless a
comment comes before it. -/
theorem opening_of_scan {place : Place} {source : List Char} (h : (scan place source).rest = []) :
    Opening (source.dropWhile Text.isBlank) (scan place source).tokens := by
  induction source generalizing place with
  | nil => exact .nothing rfl (by simp [scan, Grammar.words])
  | cons c rest ih =>
    by_cases hgap : isGap c = true
    · have hblank : Text.isBlank c = true := by
        rcases eq_or_of_isGap hgap with rfl | rfl | rfl <;> rfl
      rw [scan, if_pos hgap] at h ⊢
      rw [List.dropWhile_cons_of_pos hblank]
      exact ih h
    by_cases hline : c = '\n'
    · -- a line end is a token but no word
      subst hline
      obtain ⟨htokens, hrest⟩ := scan_newline place rest
      rw [htokens, List.dropWhile_cons_of_pos rfl]
      exact (ih (hrest ▸ h)).newline rfl
    by_cases hsign : c = '#'
    · -- what stands behind a comment is on another line
      subst hsign
      rw [scan, if_neg hgap, if_pos rfl, List.dropWhile_cons_of_neg (by decide)]
      exact .comment rfl (kind_head_scan (atLineEnd_dropWhile rest) _)
    rw [scan, if_neg hgap, if_neg hsign] at h ⊢
    cases hfound : lexeme? c rest with
    | none => simp [hfound] at h
    | some found =>
      obtain ⟨kind, length⟩ := found
      have hleads : Leads kind (String.ofList (c :: rest.take length)).toList (c :: rest) :=
        ⟨c, rest, length, rfl, hfound, String.toList_ofList⟩
      have hkind : kind ≠ .newline := fun hkind =>
        hline (hleads.eq_newline hkind)
      rw [List.dropWhile_cons_of_neg (isBlank_of_lexeme? hfound hline)]
      exact .word hleads (Grammar.words_cons_of_ne hkind _)

/-! ## Names at the front of a text -/

theorem Leads.name_or_reserved (h : Leads kind lexeme (c :: rest))
    (hc : Text.startsName c = true) :
    (kind = .identifier ∧ lexeme = c :: rest.takeWhile Text.continuesName) ∨
      ((String.ofList lexeme, kind) ∈ reservedWords ∧
        lexeme = c :: rest.takeWhile Text.isWord) := by
  obtain ⟨first, more, length, htext, hfound, rfl⟩ := h
  obtain ⟨rfl, rfl⟩ := List.cons.inj htext
  have htake : ∀ test : Char → Bool,
      rest.take (rest.takeWhile test).length = rest.takeWhile test := fun test =>
    (List.prefix_iff_eq_take.mp (List.takeWhile_prefix test)).symm
  rw [lexeme?_of_startsName hc] at hfound
  cases hlookup : reservedWords.lookup (String.ofList (c :: rest.takeWhile Text.isWord)) with
  | none =>
    rw [hlookup] at hfound
    obtain ⟨rfl, rfl⟩ : .identifier = kind ∧ _ = length := by simpa using hfound
    exact .inl ⟨rfl, by rw [htake]⟩
  | some other =>
    rw [hlookup] at hfound
    obtain ⟨rfl, rfl⟩ : other = kind ∧ _ = length := by simpa using hfound
    rw [htake]
    obtain ⟨before, behind, hwords, -⟩ := List.lookup_eq_some_iff.mp hlookup
    refine .inr ⟨?_, rfl⟩
    rw [hwords]
    exact List.mem_append_right _ (.head _)

/-- A name that a text begins with lies within its first lexeme. -/
theorem Leads.isPrefix_iff {word : List Char} (h : Leads kind lexeme text)
    (hword : Pattern.IsName word) : word <+: text ↔ word <+: lexeme := by
  constructor
  · obtain ⟨first, more, rfl, hfirst, hmore⟩ := hword
    intro hprefix
    obtain ⟨c, rest, length, rfl, -, -⟩ := id h
    obtain ⟨rfl, hmorePrefix⟩ := List.cons_prefix_cons.mp hprefix
    have hrun : ∀ test : Char → Bool, (∀ c ∈ more, test c = true) →
        more <+: rest.takeWhile test := by
      intro test htest
      obtain ⟨later, rfl⟩ := hmorePrefix
      rw [List.takeWhile_append_of_pos htest]
      exact List.prefix_append _ _
    rcases h.name_or_reserved hfirst with ⟨-, rfl⟩ | ⟨-, rfl⟩
    · exact List.cons_prefix_cons.mpr ⟨rfl, hrun _ hmore⟩
    · refine List.cons_prefix_cons.mpr ⟨rfl, hrun _ fun c hc => ?_⟩
      exact Pattern.isWord_of_continuesName (hmore c hc)
  · intro hprefix
    obtain ⟨c, rest, length, rfl, -, rfl⟩ := h
    exact hprefix.trans (List.cons_prefix_cons.mpr ⟨rfl, List.take_prefix _ _⟩)

end ScriptStudio
