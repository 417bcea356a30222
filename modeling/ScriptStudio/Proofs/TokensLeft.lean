import Mathlib.Data.List.Basic
import ScriptStudio.Program.Grammar

/-!
# The tokens that are left

A rule of the grammar looks at the first token that is left and takes tokens off the front.

* `Closed`, `Ended`: the last token is an end, or one of the tokens is. No rule takes an end off, so
  that on such tokens a rule that takes a token off has another one to look at.
* `Left`: what a rule can leave of any tokens.
* `Level.depth`: how many levels of operators lie below a level, which is how many calls lead down
  to the next token.
-/

namespace ScriptStudio.Grammar

variable {token : Token} {tokens rest : List Token}

/-! ## The first token -/

@[simp]
theorem peek_cons (token : Token) (rest : List Token) : peek (token :: rest) = token := rfl

@[simp]
theorem isAt_cons (kinds : List TokenKind) (token : Token) (rest : List Token) :
    isAt kinds (token :: rest) = kinds.contains token.kind := rfl

theorem kind_of_isAt {kinds : List TokenKind} (h : isAt kinds tokens = true) :
    (peek tokens).kind ∈ kinds := by
  simpa [isAt] using h

/-- A token of the given kinds does not close the list. -/
theorem kind_ne_of_isAt {kinds : List TokenKind} (h : isAt kinds tokens = true)
    (hkinds : .endOfFile ∉ kinds) : (peek tokens).kind ≠ .endOfFile := by
  intro hkind
  exact hkinds (hkind ▸ kind_of_isAt h)

theorem advance_cons (hrest : rest ≠ []) (token : Token) : advance (token :: rest) = rest := by
  cases rest with
  | nil => exact absurd rfl hrest
  | cons _ _ => rfl

theorem bind_eq_ok {α β : Type} {outcome : Except ParseStop α} {next : α → Except ParseStop β}
    {result : β} (h : (outcome >>= next) = .ok result) :
    ∃ found, outcome = .ok found ∧ next found = .ok result := by
  cases outcome with
  | error stop => cases h
  | ok found => exact ⟨found, rfl, h⟩

/-! ## The end -/

/-- The tokens end with an end-of-file token. -/
def Closed (tokens : List Token) : Prop := tokens.getLast?.map (·.kind) = some .endOfFile

/-- There is an end-of-file token among the tokens. -/
def Ended (tokens : List Token) : Prop := ∃ token ∈ tokens, token.kind = .endOfFile

theorem Closed.ne_nil (h : Closed tokens) : tokens ≠ [] := by
  rintro rfl
  cases h

theorem Closed.of_suffix (h : Closed tokens) (hsuffix : rest <:+ tokens) (hrest : rest ≠ []) :
    Closed rest := by
  obtain ⟨taken, rfl⟩ := hsuffix
  rwa [Closed, List.getLast?_append_of_ne_nil taken hrest] at h

theorem closed_append_singleton (body : List Token) {last : Token}
    (hlast : last.kind = .endOfFile) : Closed (body ++ [last]) := by
  simp [Closed, hlast]

theorem Closed.ended (h : Closed tokens) : Ended tokens := by
  obtain ⟨last, hlast, hkind⟩ := Option.map_eq_some_iff.mp h
  exact ⟨last, List.mem_of_getLast? hlast, hkind⟩

theorem Ended.ne_nil (h : Ended tokens) : tokens ≠ [] := by
  obtain ⟨token, htoken, -⟩ := h
  exact List.ne_nil_of_mem htoken

theorem Ended.of_suffix (h : Ended rest) (hsuffix : rest <:+ tokens) : Ended tokens := by
  obtain ⟨token, htoken, hkind⟩ := h
  exact ⟨token, hsuffix.subset htoken, hkind⟩

/-- A token that is no end can be taken off. -/
theorem Ended.advance_eq (h : Ended tokens) (hkind : (peek tokens).kind ≠ .endOfFile) :
    tokens = peek tokens :: advance tokens ∧ Ended (advance tokens) := by
  cases tokens with
  | nil => exact absurd rfl h.ne_nil
  | cons token rest =>
    obtain ⟨last, hlast, hend⟩ := h
    have hrest : last ∈ rest := by
      rcases List.mem_cons.mp hlast with rfl | hrest
      · exact absurd hend hkind
      · exact hrest
    rw [advance_cons (List.ne_nil_of_mem hrest)]
    exact ⟨rfl, last, hrest, hend⟩

/-! ## What is left -/

/-- What can be left of tokens: some of them from the back, and not nothing if there were any. -/
structure Left (tokens rest : List Token) : Prop where
  suffix : rest <:+ tokens
  ne_nil : tokens ≠ [] → rest ≠ []

theorem Left.refl (tokens : List Token) : Left tokens tokens := ⟨List.suffix_refl _, id⟩

theorem Left.trans {middle : List Token} (h : Left tokens middle) (h' : Left middle rest) :
    Left tokens rest :=
  ⟨h'.suffix.trans h.suffix, fun hne => h'.ne_nil (h.ne_nil hne)⟩

theorem Left.advance (tokens : List Token) : Left tokens (advance tokens) := by
  match tokens with
  | [] => exact .refl _
  | [token] => exact .refl _
  | _ :: token :: rest => exact ⟨List.suffix_cons _ _, fun _ => List.cons_ne_nil _ _⟩

/-! ## Levels of operators -/

/-- How many levels are tighter. -/
def Level.depth : Level → Nat
  | .disjunction => 5
  | .conjunction => 4
  | .equality => 3
  | .comparison => 2
  | .addition => 1
  | .multiplication => 0

theorem Level.depth_tighter {level tighter : Level} (h : level.tighter? = some tighter) :
    tighter.depth + 1 = level.depth := by
  cases level <;> cases h <;> rfl

theorem Level.depth_le (level : Level) : level.depth ≤ 5 := by
  cases level <;> decide

end ScriptStudio.Grammar
