import ScriptStudio.Proofs.MistakePlaces

/-!
# The longest match

The patterns are tried in order, and the first that matches decides. This finds the longest lexeme
all the same: a pattern that comes later never matches more than one that comes before it. Reserved
words end where a word ends, so a name at the same point ends there too; symbols of two characters
come before those of one; and all other patterns begin with different characters.

* `LexicalRule`, `lexicalRules`: which texts the patterns match, said without the scanner.
* `Pattern.Finds`: a pattern finds the longest text of a rule at the front of what remains.
* `Pattern.pairwise_outmatches`: of two patterns, the one that comes first matches at least as much.
* `LongestMatch`: a lexeme is the longest prefix that any of the rules matches, and of the kind of
  the first rule that does.
* `longestMatch_of_scan`: all lexemes of a scan are such.
-/

namespace ScriptStudio

/-! ## Patterns as rules -/

/-- A text between two quotes. -/
def Quotation (quote : Char) (text : List Char) : Prop :=
  ∃ inner, Enclosed quote inner ∧ text = quote :: (inner ++ [quote])

/-- A kind of token, and which texts are of this kind in front of what follows them. -/
structure LexicalRule where
  kind : TokenKind
  Matches : (text later : List Char) → Prop

/-- All rules in the order in which they are tried. -/
def lexicalRules : List LexicalRule :=
  (reservedWords.map fun (word, kind) =>
    ⟨kind, fun text later => text = word.toList ∧ Pattern.atBoundary later = true⟩) ++
  [⟨.number, fun text _ => Reading.IsNumeral Text.isDecimal text⟩,
    ⟨.string, fun text _ => Quotation '"' text⟩, ⟨.string, fun text _ => Quotation '\'' text⟩,
    ⟨.identifier, fun text _ => Pattern.IsName text⟩] ++
  symbols.map fun (word, kind) => ⟨kind, fun text _ => text = word.toList⟩

/-- A pattern finds the longest text of a rule at the front of what remains, if there is one. -/
structure Pattern.Finds (pattern : Pattern) (rule : LexicalRule) : Prop where
  kind_eq : pattern.kind = rule.kind
  matches_of_tail? : ∀ {c : Char} {rest : List Char} {length : Nat},
    pattern.tail? c rest = some length → rule.Matches (c :: rest.take length) (rest.drop length)
  exists_tail? : ∀ {text later : List Char}, rule.Matches text later →
    ∃ c word length, text = c :: word ∧ pattern.tail? c (word ++ later) = some length ∧
      word.length ≤ length

namespace Pattern

theorem spelled_self (c : Char) (more later : List Char) :
    spelled (c :: more) c (more ++ later) = some more.length := by
  simp [spelled]

variable {kind other : TokenKind} {word : List Char} {quote c : Char}

theorem finds_spelled (hword : word ≠ []) :
    Finds ⟨kind, spelled word⟩ ⟨kind, fun text _ => text = word⟩ where
  kind_eq := rfl
  matches_of_tail? h := cons_take_of_spelled h
  exists_tail? := by
    rintro _ later rfl
    obtain ⟨c, more, rfl⟩ := List.exists_cons_of_ne_nil hword
    exact ⟨c, more, _, rfl, spelled_self c more later, le_rfl⟩

theorem finds_reserved (hword : word ≠ []) :
    Finds ⟨kind, reserved word⟩
      ⟨kind, fun text later => text = word ∧ atBoundary later = true⟩ where
  kind_eq := rfl
  matches_of_tail? := by
    intro c rest length (h : reserved word c rest = some length)
    refine ⟨cons_take_of_reserved h, ?_⟩
    unfold reserved at h
    split at h
    · split at h
      · next hboundary =>
        cases h
        exact hboundary
      · cases h
    · cases h
  exists_tail? := by
    rintro _ later ⟨rfl, hboundary⟩
    obtain ⟨c, more, rfl⟩ := List.exists_cons_of_ne_nil hword
    refine ⟨c, more, _, rfl, ?_, le_rfl⟩
    simp only [reserved, spelled_self, List.drop_left, hboundary, if_true]

theorem finds_numeral :
    Finds ⟨.number, numeral⟩ ⟨.number, fun text _ => Reading.IsNumeral Text.isDecimal text⟩ where
  kind_eq := rfl
  matches_of_tail? h := isNumeral_of_numeral h
  exists_tail? := by
    rintro _ later ⟨first, whole, point, rfl, hdigits, hpoint⟩
    obtain ⟨hfirst, hwhole⟩ := List.forall_mem_cons.mp hdigits
    have hle : ∀ digits : List Char, (∀ c ∈ digits, Text.isDecimal c = true) →
        digits.length ≤ ((digits ++ later).takeWhile Text.isDecimal).length := by
      intro digits hdigits
      rw [List.takeWhile_append_of_pos hdigits, List.length_append]
      exact Nat.le_add_right _ _
    refine ⟨first, whole ++ point, ?_⟩
    rcases hpoint with rfl | ⟨fraction, rfl, hfraction⟩
    · have hlength := hle whole hwhole
      simp only [numeral, hfirst, if_true, List.append_nil]
      split
      · exact ⟨_, trivial, rfl, by omega⟩
      · exact ⟨_, trivial, rfl, hlength⟩
    · have hlength := hle fraction hfraction
      have hstop : Text.isDecimal '.' = false := by decide
      refine ⟨whole.length + 1 + ((fraction ++ later).takeWhile Text.isDecimal).length, rfl, ?_, ?_⟩
      · simp [numeral, hfirst, List.takeWhile_append_of_pos hwhole,
          List.dropWhile_append_of_pos hwhole, hstop]
      · simp only [List.length_append, List.length_cons]
        omega

theorem enclosed_of_closing? {rest : List Char} {length : Nat}
    (h : closing? quote rest = some length) :
    ∃ inner, Enclosed quote inner ∧ rest.take length = inner ++ [quote] := by
  fun_induction closing? quote rest generalizing length with
  | case1 => cases h
  | case2 rest => cases h
  | case3 escaped rest hescaped ih =>
    obtain ⟨found, hfound, rfl⟩ := Option.map_eq_some_iff.mp h
    obtain ⟨inner, hinner, htake⟩ := ih hfound
    exact ⟨'\\' :: escaped :: inner, .escape hescaped hinner, by simp [htake]⟩
  | case4 rest _ =>
    obtain rfl : 1 = length := by simpa using h
    exact ⟨[], .nil, rfl⟩
  | case5 rest _ _ => cases h
  | case6 c rest _ hquote hslash ih =>
    obtain ⟨found, hfound, rfl⟩ := Option.map_eq_some_iff.mp h
    obtain ⟨inner, hinner, htake⟩ := ih hfound
    exact ⟨c :: inner, .plain hquote hslash hinner, by simp [htake]⟩

theorem finds_quotation (hquote : quote ≠ '\\') :
    Finds ⟨.string, quotation quote⟩ ⟨.string, fun text _ => Quotation quote text⟩ where
  kind_eq := rfl
  matches_of_tail? := by
    intro c rest length h
    simp only [quotation, Option.ite_none_right_eq_some] at h
    obtain ⟨rfl, hclosing⟩ := h
    obtain ⟨inner, hinner, htake⟩ := enclosed_of_closing? hclosing
    exact ⟨inner, hinner, by rw [htake]⟩
  exists_tail? := by
    rintro _ later ⟨inner, hinner, rfl⟩
    have hclosing := (closing?_append hquote (closing?_of_enclosed hquote hinner) later).1
    exact ⟨quote, _, _, rfl, (if_pos rfl).trans hclosing, by simp⟩

theorem finds_name :
    Finds ⟨.identifier, name⟩ ⟨.identifier, fun text _ => IsName text⟩ where
  kind_eq := rfl
  matches_of_tail? := by
    intro c rest length h
    simp only [name, Option.ite_none_right_eq_some, Option.some.injEq] at h
    obtain ⟨hc, rfl⟩ := h
    rw [← List.prefix_iff_eq_take.mp (List.takeWhile_prefix _)]
    exact isName_cons_iff.mpr ⟨hc, fun _ => List.mem_takeWhile_imp⟩
  exists_tail? := by
    rintro _ later ⟨first, more, rfl, hfirst, hmore⟩
    refine ⟨first, more, _, rfl, if_pos hfirst, ?_⟩
    rw [List.takeWhile_append_of_pos hmore, List.length_append]
    exact Nat.le_add_right _ _

theorem finds_lexicalRules : List.Forall₂ Finds patterns lexicalRules := by
  have hwords : ∀ entry ∈ reservedWords, entry.1.toList ≠ [] := by decide
  have hsymbols : ∀ entry ∈ symbols, entry.1.toList ≠ [] := by decide
  refine List.rel_append (List.rel_append ?_ ?_) ?_
  · rw [List.forall₂_map_left_iff, List.forall₂_map_right_iff, List.forall₂_same]
    exact fun entry hentry => finds_reserved (hwords entry hentry)
  · exact .cons finds_numeral (.cons (finds_quotation (by decide))
      (.cons (finds_quotation (by decide)) (.cons finds_name .nil)))
  · rw [List.forall₂_map_left_iff, List.forall₂_map_right_iff, List.forall₂_same]
    exact fun entry hentry => finds_spelled (hsymbols entry hentry)

/-! ## Patterns that come first match more -/

/-- Where both patterns match, the first matches at least as much as the second. -/
def Outmatches (first second : Pattern) : Prop :=
  ∀ ⦃c rest length other⦄, first.tail? c rest = some length → second.tail? c rest = some other →
    other ≤ length

/-- The lexemes of the pattern begin with characters that pass a test. -/
def BeginsWith (pattern : Pattern) (test : Char → Prop) : Prop :=
  ∀ ⦃c rest length⦄, pattern.tail? c rest = some length → test c

/-- Patterns that begin with different characters do not meet. -/
theorem BeginsWith.outmatches {first second : Pattern} {test other : Char → Prop}
    (hfirst : first.BeginsWith test) (hsecond : second.BeginsWith other)
    (hapart : ∀ c, test c → ¬other c) : Outmatches first second :=
  fun c _ _ _ h h' => absurd (hsecond h') (hapart c (hfirst h))

/-- A character that begins a symbol. -/
def startsSymbol (c : Char) : Prop := c ∈ symbols.filterMap (·.1.toList.head?)

section

variable {kind : TokenKind} {word : List Char}

theorem beginsWith_spelled {test : Char → Prop} (h : ∀ c ∈ word.head?, test c) :
    BeginsWith ⟨kind, spelled word⟩ test := by
  intro c rest length htail
  refine h c ?_
  rw [← cons_take_of_spelled htail]
  rfl

theorem beginsWith_reserved (hword : IsName word) :
    BeginsWith ⟨kind, reserved word⟩ (Text.startsName · = true) := by
  intro c rest length htail
  rw [← cons_take_of_reserved htail] at hword
  exact (isName_cons_iff.mp hword).1

theorem beginsWith_numeral : BeginsWith ⟨kind, numeral⟩ (Text.isDecimal · = true) := by
  intro c rest length htail
  by_contra hc
  simp [numeral, hc] at htail

theorem beginsWith_quotation : BeginsWith ⟨kind, quotation quote⟩ (· = quote) := by
  intro c rest length htail
  by_contra hc
  simp [quotation, hc] at htail

theorem beginsWith_name : BeginsWith ⟨kind, name⟩ (Text.startsName · = true) := by
  intro c rest length htail
  by_contra hc
  simp [name, hc] at htail

end

theorem length_takeWhile_le {test weaker : Char → Bool}
    (h : ∀ c, test c = true → weaker c = true) (text : List Char) :
    (text.takeWhile test).length ≤ (text.takeWhile weaker).length := by
  induction text with
  | nil => exact le_rfl
  | cons c text ih =>
    by_cases hc : test c = true
    · rw [List.takeWhile_cons_of_pos hc, List.takeWhile_cons_of_pos (h c hc)]
      exact Nat.succ_le_succ ih
    · rw [List.takeWhile_cons_of_neg hc]
      exact Nat.zero_le _

theorem length_of_reserved {rest : List Char} {length : Nat} (hword : IsName word)
    (h : reserved word c rest = some length) : length = (rest.takeWhile Text.isWord).length := by
  rw [reserved_eq hword.isWord] at h
  split at h
  · cases h
    rfl
  · cases h

theorem outmatches_reserved {first second : List Char} (hfirst : IsName first)
    (hsecond : IsName second) : Outmatches ⟨kind, reserved first⟩ ⟨other, reserved second⟩ := by
  intro c rest length length' h h'
  rw [length_of_reserved hfirst h, length_of_reserved hsecond h']

theorem outmatches_name (hword : IsName word) : Outmatches ⟨kind, reserved word⟩ ⟨other, name⟩ := by
  intro c rest length length' h h'
  simp only [name, Option.ite_none_right_eq_some, Option.some.injEq] at h'
  rw [length_of_reserved hword h, ← h'.2]
  exact length_takeWhile_le (fun _ => isWord_of_continuesName) rest

theorem outmatches_spelled {first second : List Char}
    (h : first <+: second → second.length ≤ first.length) :
    Outmatches ⟨kind, spelled first⟩ ⟨other, spelled second⟩ := by
  intro c rest length length' hfirst hsecond
  have hle := length_le_of_spelled hfirst
  have hle' := length_le_of_spelled hsecond
  have hlength := congrArg List.length (cons_take_of_spelled hfirst)
  have hlength' := congrArg List.length (cons_take_of_spelled hsecond)
  rw [List.length_cons, List.length_take_of_le hle] at hlength
  rw [List.length_cons, List.length_take_of_le hle'] at hlength'
  by_contra hlonger
  have hprefix : first <+: second := by
    rw [← cons_take_of_spelled hfirst, ← cons_take_of_spelled hsecond, List.cons_prefix_cons]
    exact ⟨rfl, (List.take_prefix_take_left (by omega))⟩
  have := h hprefix
  omega

theorem pairwise_symbols : symbols.Pairwise fun first second =>
    first.1.toList <+: second.1.toList → second.1.toList.length ≤ first.1.toList.length := by
  decide

theorem not_of_startsSymbol (h : startsSymbol c) :
    ¬Text.startsName c = true ∧ ¬Text.isDecimal c = true ∧ c ≠ '"' ∧ c ≠ '\'' := by
  have hall : ((symbols.filterMap (·.1.toList.head?)).all fun c =>
      !Text.startsName c && !Text.isDecimal c && c != '"' && c != '\'') = true := by decide +kernel
  simpa [and_assoc] using List.all_eq_true.mp hall c h

theorem not_isDecimal_of_startsName (h : Text.startsName c = true) : ¬Text.isDecimal c = true := by
  rw [isDecimal_of_startsName h]
  exact Bool.false_ne_true

theorem outmatches_quotation (hquote : Text.isDecimal quote = false) :
    Outmatches ⟨kind, numeral⟩ ⟨other, quotation quote⟩ := by
  refine beginsWith_numeral.outmatches beginsWith_quotation ?_
  rintro _ hdigit rfl
  rw [hquote] at hdigit
  cases hdigit

theorem quotation_outmatches (hquote : Text.startsName quote = false) :
    Outmatches ⟨kind, quotation quote⟩ ⟨other, name⟩ := by
  refine beginsWith_quotation.outmatches beginsWith_name ?_
  rintro _ rfl hstart
  rw [hquote] at hstart
  cases hstart

theorem pairwise_outmatches_literals :
    ([⟨.number, numeral⟩, ⟨.string, quotation '"'⟩, ⟨.string, quotation '\''⟩,
      ⟨.identifier, name⟩] : List Pattern).Pairwise Outmatches := by
  have hnumeral : Outmatches ⟨.number, numeral⟩ ⟨.identifier, name⟩ :=
    beginsWith_numeral.outmatches beginsWith_name fun c hdigit hstart =>
      not_isDecimal_of_startsName hstart hdigit
  have hquotes : Outmatches ⟨.string, quotation '"'⟩ ⟨.string, quotation '\''⟩ := by
    refine beginsWith_quotation.outmatches beginsWith_quotation ?_
    rintro _ rfl
    decide
  simp only [List.pairwise_cons, List.mem_cons, List.not_mem_nil, or_false, forall_eq_or_imp,
    forall_eq, false_imp_iff, implies_true, List.Pairwise.nil, and_true]
  exact ⟨⟨outmatches_quotation (by decide), outmatches_quotation (by decide), hnumeral⟩,
    ⟨hquotes, quotation_outmatches (by decide)⟩, quotation_outmatches (by decide)⟩

/-- Of two patterns, the one that is tried first matches at least as much. -/
theorem pairwise_outmatches : patterns.Pairwise Outmatches := by
  have hword : ∀ entry ∈ reservedWords, IsName entry.1.toList :=
    fun _ => isName_of_mem_reservedWords
  have hsymbol : ∀ entry ∈ symbols,
      BeginsWith ⟨entry.2, spelled entry.1.toList⟩ startsSymbol := by
    intro entry hentry
    exact beginsWith_spelled fun c hc => List.mem_filterMap.mpr ⟨entry, hentry, hc⟩
  rw [patterns, List.pairwise_append, List.pairwise_append, List.pairwise_map, List.pairwise_map]
  refine ⟨⟨?_, pairwise_outmatches_literals, ?_⟩,
    pairwise_symbols.imp fun h => outmatches_spelled h, ?_⟩
  · exact List.pairwise_of_forall_mem_list fun first hfirst second hsecond =>
      outmatches_reserved (hword first hfirst) (hword second hsecond)
  · simp only [List.forall_mem_map, List.forall_mem_cons, List.not_mem_nil, false_imp_iff,
      implies_true, and_true]
    intro entry hentry
    have hbegins : BeginsWith ⟨entry.2, reserved entry.1.toList⟩ (Text.startsName · = true) :=
      beginsWith_reserved (hword entry hentry)
    refine ⟨hbegins.outmatches beginsWith_numeral fun _ => not_isDecimal_of_startsName,
      hbegins.outmatches beginsWith_quotation ?_, hbegins.outmatches beginsWith_quotation ?_,
      outmatches_name (hword entry hentry)⟩
    · rintro _ hstart rfl
      exact absurd hstart (by decide)
    · rintro _ hstart rfl
      exact absurd hstart (by decide)
  · simp only [List.forall_mem_append, List.forall_mem_map, List.forall_mem_cons, List.not_mem_nil,
      false_imp_iff, implies_true, and_true]
    refine ⟨fun entry hentry other hother => ?_, fun other hother => ?_, fun other hother => ?_,
      fun other hother => ?_, fun other hother => ?_⟩
    · exact (beginsWith_reserved (hword entry hentry)).outmatches (hsymbol other hother)
        fun c hstart hc => (not_of_startsSymbol hc).1 hstart
    · exact beginsWith_numeral.outmatches (hsymbol other hother)
        fun c hdigit hc => (not_of_startsSymbol hc).2.1 hdigit
    · exact beginsWith_quotation.outmatches (hsymbol other hother)
        fun c hquote hc => (not_of_startsSymbol hc).2.2.1 hquote
    · exact beginsWith_quotation.outmatches (hsymbol other hother)
        fun c hquote hc => (not_of_startsSymbol hc).2.2.2 hquote
    · exact beginsWith_name.outmatches (hsymbol other hother)
        fun c hstart hc => (not_of_startsSymbol hc).1 hstart

end Pattern

/-! ## Lexemes are longest matches -/

/-- The lexeme is the longest prefix of what remains that a rule matches, and its kind is that of
the first rule that matches it. -/
structure LongestMatch (kind : TokenKind) (lexeme later : List Char) : Prop where
  longest : ∀ rule ∈ lexicalRules, ∀ text rest, text ++ rest = lexeme ++ later →
    rule.Matches text rest → text.length ≤ lexeme.length
  first : ∃ earlier rule others, lexicalRules = earlier ++ rule :: others ∧ rule.kind = kind ∧
    rule.Matches lexeme later ∧ ∀ other ∈ earlier, ¬other.Matches lexeme later

theorem LexicalRule.Matches.reserved {rule : LexicalRule} {text later : List Char}
    (h : rule.Matches text later) (hrule : rule ∈ lexicalRules)
    (hkind : rule.kind ∈ reservedWords.map Prod.snd) :
    (String.ofList text, rule.kind) ∈ reservedWords ∧ Pattern.atBoundary later = true := by
  have hliterals : ∀ kind ∈ [TokenKind.number, .string, .identifier],
      kind ∉ reservedWords.map Prod.snd := by decide
  have hsymbols : ∀ entry ∈ symbols, entry.2 ∉ reservedWords.map Prod.snd := by decide
  simp only [lexicalRules, List.mem_append, List.mem_map, List.mem_cons, List.not_mem_nil,
    or_false] at hrule
  rcases hrule with (⟨entry, hentry, rfl⟩ | rfl | rfl | rfl | rfl) | ⟨entry, hentry, rfl⟩
  · obtain ⟨rfl, hboundary⟩ := h
    rw [String.ofList_toList]
    exact ⟨hentry, hboundary⟩
  · exact absurd hkind (hliterals _ (by decide))
  · exact absurd hkind (hliterals _ (by decide))
  · exact absurd hkind (hliterals _ (by decide))
  · exact absurd hkind (hliterals _ (by decide))
  · exact absurd hkind (hsymbols entry hentry)

variable {kind : TokenKind}

theorem exists_split_of_lexeme? {c : Char} {rest : List Char} {length : Nat}
    (h : lexeme? c rest = some (kind, length)) :
    ∃ earlier pattern others, patterns = earlier ++ pattern :: others ∧ pattern.kind = kind ∧
      pattern.tail? c rest = some length ∧ ∀ other ∈ earlier, other.tail? c rest = none := by
  obtain ⟨earlier, pattern, others, hpatterns, hfound, hmissed⟩ :=
    List.findSome?_eq_some_iff.mp h
  obtain ⟨found, htail, hpair⟩ := Option.map_eq_some_iff.mp hfound
  obtain ⟨rfl, rfl⟩ := Prod.mk.inj hpair
  exact ⟨earlier, pattern, others, hpatterns, rfl, htail,
    fun other hother => Option.map_eq_none_iff.mp (hmissed other hother)⟩

/-- No pattern that matches takes more than the first that does. -/
theorem le_of_lexeme? {c : Char} {rest : List Char} {length other : Nat}
    (h : lexeme? c rest = some (kind, length)) {pattern : Pattern} (hpattern : pattern ∈ patterns)
    (htail : pattern.tail? c rest = some other) : other ≤ length := by
  obtain ⟨earlier, found, others, hpatterns, -, hfound, hmissed⟩ := exists_split_of_lexeme? h
  have hpairs := Pattern.pairwise_outmatches
  rw [hpatterns] at hpattern hpairs
  rcases List.mem_append.mp hpattern with hbefore | hafter
  · rw [hmissed pattern hbefore] at htail
    cases htail
  · rcases List.mem_cons.mp hafter with rfl | hbehind
    · rw [hfound] at htail
      exact (Option.some.inj htail).ge
    · have hlater := (List.pairwise_cons.mp (List.pairwise_append.mp hpairs).2.1).1
      exact hlater pattern hbehind hfound htail

theorem exists_finds {earlier : List Pattern} {rules : List LexicalRule}
    (h : List.Forall₂ Pattern.Finds earlier rules) {rule : LexicalRule} (hrule : rule ∈ rules) :
    ∃ pattern ∈ earlier, pattern.Finds rule := by
  induction h with
  | nil => cases hrule
  | cons hfirst _ ih =>
    rcases List.mem_cons.mp hrule with rfl | hrule
    · exact ⟨_, List.mem_cons_self, hfirst⟩
    · obtain ⟨pattern, hpattern, hfinds⟩ := ih hrule
      exact ⟨pattern, List.mem_cons_of_mem _ hpattern, hfinds⟩

/-- The rules, cut at the same place as the patterns. -/
theorem exists_rules_of_split {earlier others : List Pattern} {pattern : Pattern}
    (h : patterns = earlier ++ pattern :: others) :
    ∃ before rule behind, lexicalRules = before ++ rule :: behind ∧ pattern.Finds rule ∧
      List.Forall₂ Pattern.Finds earlier before := by
  have hfinds := Pattern.finds_lexicalRules.flip
  rw [h] at hfinds
  have hbefore := List.forall₂_take_append _ _ _ hfinds
  obtain ⟨rule, behind, hrule, -, hdrop⟩ :=
    List.forall₂_cons_right_iff.mp (List.forall₂_drop_append _ _ _ hfinds)
  refine ⟨lexicalRules.take earlier.length, rule, behind, ?_, hrule, hbefore.flip⟩
  rw [← hdrop, List.take_append_drop]

theorem longestMatch_of_leads {lexeme later : List Char} (h : Leads kind lexeme (lexeme ++ later)) :
    LongestMatch kind lexeme later := by
  obtain ⟨c, word, rfl, hfound⟩ := h.exists_lexeme?
  -- a text of a rule is at most what the rule's pattern takes
  have hfinds : ∀ {pattern : Pattern} {rule : LexicalRule}, pattern.Finds rule →
      ∀ text rest, text ++ rest = c :: word ++ later → rule.Matches text rest →
      ∃ length, pattern.tail? c (word ++ later) = some length ∧ text.length ≤ length + 1 := by
    intro pattern rule hfinds text rest htext hmatches
    obtain ⟨first, more, length, rfl, htail, hle⟩ := hfinds.exists_tail? hmatches
    obtain rfl : first = c := (List.cons.inj htext).1
    have hrest : more ++ rest = word ++ later := (List.cons.inj htext).2
    rw [hrest] at htail
    exact ⟨length, htail, Nat.succ_le_succ hle⟩
  constructor
  · intro rule hrule text rest htext hmatches
    obtain ⟨pattern, hpattern, hrule⟩ := exists_finds Pattern.finds_lexicalRules hrule
    obtain ⟨length, htail, hle⟩ := hfinds hrule text rest htext hmatches
    exact hle.trans (Nat.succ_le_succ (le_of_lexeme? hfound hpattern htail))
  · obtain ⟨earlier, pattern, others, hpatterns, rfl, htail, hmissed⟩ :=
      exists_split_of_lexeme? hfound
    obtain ⟨before, rule, behind, hrules, hrule, hbefore⟩ := exists_rules_of_split hpatterns
    refine ⟨before, rule, behind, hrules, hrule.kind_eq.symm, ?_, fun other hother hmatches => ?_⟩
    · simpa using hrule.matches_of_tail? htail
    · obtain ⟨missed, hmem, hother⟩ := exists_finds hbefore hother
      obtain ⟨length, hlength, -⟩ := hfinds hother _ _ rfl hmatches
      rw [hmissed missed hmem] at hlength
      cases hlength

/-- Trying the patterns in order finds longest matches. Every token of a scan, also of one that does
not reach the end of the source, begins where the tokens before it and a gap end. Of all prefixes of
what remains there, its text is the longest that any rule matches, and its kind is that of the first
rule that matches this text. So it is a reserved word only if the word ends there. -/
theorem longestMatch_of_scan {source : String} {earlier others : List Token} {token : Token}
    (h : (scan Place.start source.toList).tokens = earlier ++ token :: others) :
    ∃ front behind, source.toList = front ++ (token.text.toList ++ behind) ∧
      token.place = Place.endOf front ∧ Laid [] earlier front (token.text.toList ++ behind) ∧
      LongestMatch token.kind token.text.toList behind ∧
      (token.kind ∈ reservedWords.map Prod.snd →
        (token.text, token.kind) ∈ reservedWords ∧ Pattern.atBoundary behind = true) := by
  obtain ⟨text, hsource, hlaid, -, -⟩ := scan_laid [] source.toList
  rw [Place.endOf_nil] at hsource hlaid
  rw [h] at hlaid
  obtain ⟨front, behind, rfl, hplace, hfront, hleads⟩ := hlaid.cut
  have hlongest := longestMatch_of_leads hleads
  refine ⟨front, _, by simpa using hsource, hplace, hfront, hlongest, fun hkind => ?_⟩
  obtain ⟨before, rule, later, hrules, hrule, hmatches, -⟩ := hlongest.first
  have hmem : rule ∈ lexicalRules := hrules ▸ List.mem_append_right _ List.mem_cons_self
  rw [← hrule] at hkind ⊢
  simpa using hmatches.reserved hmem hkind

/-- A name that begins with a reserved word, a symbol of two characters, a reserved word in front of
a digit that is not of ASCII, and a character with which no lexeme begins. -/
def touchingLexemes : String := "iffy<=say٣;"

theorem scan_touchingLexemes :
    (scan Place.start touchingLexemes.toList).tokens =
      [⟨.identifier, "iffy", ⟨1, 1⟩⟩] ++ ⟨.lessEqual, "<=", ⟨1, 5⟩⟩ ::
        [⟨.identifier, "say", ⟨1, 7⟩⟩, ⟨.number, "٣", ⟨1, 10⟩⟩] := by
  decide +kernel

/-- The symbol is longer than the two symbols in it. -/
theorem longestMatch_of_scan_touching :
    ∃ front behind, touchingLexemes.toList = front ++ ("<=".toList ++ behind) ∧
      ⟨1, 5⟩ = Place.endOf front ∧ LongestMatch .lessEqual "<=".toList behind := by
  obtain ⟨front, behind, hsource, hplace, -, hlongest, -⟩ :=
    longestMatch_of_scan scan_touchingLexemes
  exact ⟨front, behind, hsource, hplace, hlongest⟩

end ScriptStudio
