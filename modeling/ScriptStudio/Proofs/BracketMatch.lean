import Mathlib.Order.Bounds.Basic
import Mathlib.Order.Nat
import ScriptStudio.Buffer.Index
import ScriptStudio.Editor.Brackets
import ScriptStudio.Proofs.LinePositions

/-!
# The match of a bracket

A bracket and its partner meet where as many of the one as of the other have been passed. From an
opening bracket the search finds the first such position after it, or finds out that there is none,
and the search back from there returns. From a closing bracket the search finds the last such
position before it; but where there is none it goes on at the first character, which it counts again
and again, and so it answers wrongly or never.

* `Level`, `levelAfter`, `levelBefore`: where brackets meet, by counting.
* `Settles`, `distance?_eq_some_iff`: the balance of the search in terms of counts.
* `walk`, `Ends`, `ends_iff`: the search turn by turn. It ends exactly with the answers that are
  given, and `BracketSearch.endless` is the walk that never ends.
* `search_of_opens`, `search_of_closes`: both directions.
-/

namespace ScriptStudio

namespace Buffer

/-! ## Positions -/

variable {buffer : Buffer} {p : Nat} {c : Char}

theorem lt_size_of_charAt? (hat : buffer.charAt? p = some c) : p < buffer.size := by
  rw [← length_content]
  exact (List.getElem?_eq_some_iff.mp hat).1

theorem drop_content (hat : buffer.charAt? p = some c) :
    buffer.content.drop p = c :: buffer.content.drop (p + 1) := by
  obtain ⟨hp, hc⟩ := List.getElem?_eq_some_iff.mp hat
  rw [List.drop_eq_getElem_cons hp, hc]

theorem take_content (hat : buffer.charAt? p = some c) :
    buffer.content.take (p + 1) = buffer.content.take p ++ [c] := by
  obtain ⟨hp, hc⟩ := List.getElem?_eq_some_iff.mp hat
  rw [List.take_succ_eq_append_getElem hp, hc]

theorem exists_charAt? (hp : p < buffer.size) :
    ∃ c, buffer.charAt? p = some c := by
  rw [← length_content] at hp
  exact ⟨_, List.getElem?_eq_getElem hp⟩

theorem reverse_take_content (hat : buffer.charAt? p = some c) :
    (buffer.content.take (p + 1)).reverse = c :: (buffer.content.take p).reverse := by
  rw [take_content hat, List.reverse_append]
  rfl

theorem slice_append (buffer : Buffer) {first middle last : Nat} (hfirst : first ≤ middle)
    (hlast : middle ≤ last) (hmiddle : middle ≤ buffer.size) :
    buffer.slice first last = buffer.slice first middle ++ buffer.slice middle last := by
  have hcut : (buffer.content.take last).take middle = buffer.content.take middle := by
    rw [List.take_take, Nat.min_eq_left hlast]
  have hlength : first ≤ ((buffer.content.take last).take middle).length := by
    rw [hcut, List.length_take, length_content]
    omega
  rw [slice, slice, slice, ← hcut, ← List.drop_append_of_le_length hlength,
    List.take_append_drop]

end Buffer

namespace Brackets

open Buffer

/-! ## Pairs -/

/-- The brackets with their partners. -/
def pairs : List (Char × Char) :=
  [('(', ')'), ('[', ']'), ('\x7b', '\x7d'), (')', '('), (']', '['), ('\x7d', '\x7b')]

section

variable {bracket partner : Char}

theorem mem_pairs (hpair : partner? bracket = some partner) : (bracket, partner) ∈ pairs := by
  unfold partner? at hpair
  split at hpair <;> cases hpair <;> decide

theorem ne_of_pair (hpair : partner? bracket = some partner) : bracket ≠ partner := by
  have hall : ∀ pair ∈ pairs, pair.1 ≠ pair.2 := by decide
  exact hall _ (mem_pairs hpair)

theorem pair_of_opens (hpair : partner? bracket = some partner) (hopens : opens bracket = true) :
    opens partner = false ∧ closes partner = true ∧ partner? partner = some bracket := by
  have hall : ∀ pair ∈ pairs, opens pair.1 = true →
      opens pair.2 = false ∧ closes pair.2 = true ∧ partner? pair.2 = some pair.1 := by decide
  exact hall _ (mem_pairs hpair) hopens

theorem opens_or_closes (hpair : partner? bracket = some partner) :
    opens bracket = true ∨ closes bracket = true := by
  have hall : ∀ pair ∈ pairs, opens pair.1 = true ∨ closes pair.1 = true := by decide
  exact hall _ (mem_pairs hpair)

theorem opens_of_closes (hpair : partner? bracket = some partner)
    (hcloses : closes bracket = true) : opens bracket = false := by
  have hall : ∀ pair ∈ pairs, closes pair.1 = true → opens pair.1 = false := by decide
  exact hall _ (mem_pairs hpair) hcloses

end

/-! ## The balance -/

/-- After so many further characters the balance has come down to zero. -/
def Settles (bracket partner : Char) (balance : Nat) (chars : List Char) (n : Nat) : Prop :=
  n < chars.length ∧
    balance + (chars.take (n + 1)).count bracket = (chars.take (n + 1)).count partner

instance (bracket partner : Char) (balance : Nat) (chars : List Char) :
    DecidablePred (Settles bracket partner balance chars) :=
  fun _ => inferInstanceAs (Decidable (_ ∧ _))

section

variable {bracket partner c : Char} {balance n : Nat} {chars rest : List Char}

theorem settles_zero_iff (hne : bracket ≠ partner) (hbalance : 0 < balance) :
    Settles bracket partner balance (c :: rest) 0 ↔ weigh bracket partner balance c = 0 := by
  by_cases hbracket : c = bracket
  · subst hbracket
    simp [Settles, weigh, hne]
  · by_cases hpartner : c = partner
    · subst hpartner
      simp [Settles, weigh, hbracket]
      omega
    · simp [Settles, weigh, hbracket, hpartner]

theorem settles_succ_iff (hne : bracket ≠ partner) (hbalance : 0 < balance) :
    Settles bracket partner balance (c :: rest) (n + 1) ↔
      Settles bracket partner (weigh bracket partner balance c) rest n := by
  by_cases hbracket : c = bracket
  · subst hbracket
    simp [Settles, weigh, hne]
    omega
  · by_cases hpartner : c = partner
    · subst hpartner
      simp [Settles, weigh, hbracket]
      omega
    · simp [Settles, weigh, hbracket, hpartner]

theorem distance?_eq_some_iff (hne : bracket ≠ partner) (hbalance : 0 < balance) :
    distance? bracket partner balance chars = some n ↔
      IsLeast {n | Settles bracket partner balance chars n} n := by
  induction chars generalizing balance n with
  | nil => simp [distance?, IsLeast, Settles]
  | cons c rest ih =>
    have hzero : Settles bracket partner balance (c :: rest) 0 ↔
        weigh bracket partner balance c = 0 := settles_zero_iff hne hbalance
    have hsucc : ∀ m, Settles bracket partner balance (c :: rest) (m + 1) ↔
        Settles bracket partner (weigh bracket partner balance c) rest m :=
      fun _ => settles_succ_iff hne hbalance
    rw [distance?]
    by_cases hweigh : weigh bracket partner balance c = 0
    · have hleast : IsLeast {n | Settles bracket partner balance (c :: rest) n} 0 :=
        ⟨hzero.mpr hweigh, fun m _ => Nat.zero_le m⟩
      rw [if_pos hweigh, Option.some.injEq]
      exact ⟨fun h => h ▸ hleast, hleast.unique⟩
    · simp only [if_neg hweigh, Option.map_eq_some_iff, ih (Nat.pos_of_ne_zero hweigh)]
      constructor
      · rintro ⟨m, ⟨hm, hleast⟩, rfl⟩
        refine ⟨(hsucc m).mpr hm, fun k hk => ?_⟩
        cases k with
        | zero => exact absurd (hzero.mp hk) hweigh
        | succ k => exact Nat.succ_le_succ (hleast ((hsucc k).mp hk))
      · rintro ⟨hn, hleast⟩
        cases n with
        | zero => exact absurd (hzero.mp hn) hweigh
        | succ m =>
          refine ⟨m, ⟨(hsucc m).mp hn, fun k hk => ?_⟩, rfl⟩
          exact Nat.le_of_succ_le_succ (hleast ((hsucc k).mpr hk))

theorem distance?_eq_none_iff (hne : bracket ≠ partner) (hbalance : 0 < balance) :
    distance? bracket partner balance chars = none ↔
      ∀ n, ¬Settles bracket partner balance chars n := by
  constructor
  · intro hnone n hn
    have hleast := Nat.isLeast_find (⟨n, hn⟩ : ∃ n, Settles bracket partner balance chars n)
    rw [← distance?_eq_some_iff hne hbalance, hnone] at hleast
    cases hleast
  · intro hnever
    rw [Option.eq_none_iff_forall_ne_some]
    intro n hn
    exact hnever n ((distance?_eq_some_iff hne hbalance).mp hn).1

/-- The balance comes down to zero at a partner. -/
theorem getElem?_of_distance? (hbalance : 0 < balance)
    (h : distance? bracket partner balance chars = some n) : chars[n]? = some partner := by
  induction chars generalizing balance n with
  | nil => cases h
  | cons c rest ih =>
    rw [distance?] at h
    by_cases hweigh : weigh bracket partner balance c = 0
    · rw [if_pos hweigh, Option.some.injEq] at h
      subst h
      unfold weigh at hweigh
      split at hweigh
      · omega
      · split at hweigh
        · rename_i hpartner
          simpa using hpartner
        · omega
    · simp only [if_neg hweigh, Option.map_eq_some_iff] at h
      obtain ⟨m, hm, rfl⟩ := h
      simpa using ih (Nat.pos_of_ne_zero hweigh) hm

end

/-! ## Where brackets meet -/

/-- There are as many of the bracket as of its partner. -/
def Level (bracket partner : Char) (chars : List Char) : Prop :=
  chars.count bracket = chars.count partner

instance (bracket partner : Char) (chars : List Char) : Decidable (Level bracket partner chars) :=
  inferInstanceAs (Decidable (_ = _))

/-- The positions after a bracket up to which it is level with its partner. -/
def levelAfter (buffer : Buffer) (start : Nat) (bracket partner : Char) : Set Nat :=
  {p | start < p ∧ p < buffer.size ∧ Level bracket partner (buffer.slice start (p + 1))}

/-- The positions before a bracket from which on it is level with its partner. -/
def levelBefore (buffer : Buffer) (start : Nat) (bracket partner : Char) : Set Nat :=
  {p | p < start ∧ Level bracket partner (buffer.slice p (start + 1))}

/-- The result names the last of the positions before a bracket, or says that there is none. -/
def AnswersBefore (buffer : Buffer) (start : Nat) (bracket partner : Char)
    (result : BracketSearch) : Prop :=
  (∃ p, IsGreatest (levelBefore buffer start bracket partner) p ∧ result = .found p) ∨
    levelBefore buffer start bracket partner = ∅ ∧ result = .missing

section

variable {buffer : Buffer} {start p : Nat} {bracket partner c : Char}

theorem mem_levelAfter_iff (hat : buffer.charAt? start = some bracket) (hne : bracket ≠ partner)
    (n : Nat) : start + 1 + n ∈ levelAfter buffer start bracket partner ↔
      Settles bracket partner 1 (buffer.content.drop (start + 1)) n := by
  have hslice : buffer.slice start (start + 1 + n + 1) =
      bracket :: (buffer.content.drop (start + 1)).take (n + 1) := by
    rw [Buffer.slice, List.drop_take, drop_content hat,
      show start + 1 + n + 1 - start = n + 1 + 1 by omega, List.take_succ_cons]
  have hlength : start + 1 + n < buffer.size ↔ n < (buffer.content.drop (start + 1)).length := by
    rw [List.length_drop, length_content]
    omega
  simp only [levelAfter, Set.mem_ofPred_eq, hslice, hlength, Settles, Level, List.count_cons_self,
    List.count_cons_of_ne hne]
  omega

theorem mem_levelBefore_iff (hat : buffer.charAt? start = some bracket) (hne : bracket ≠ partner)
    {n : Nat} (hn : n < start) : start - 1 - n ∈ levelBefore buffer start bracket partner ↔
      Settles bracket partner 1 (buffer.content.take start).reverse n := by
  have hsize := lt_size_of_charAt? hat
  have hlength : (buffer.content.take start).length = start := by
    rw [List.length_take, length_content]
    omega
  have hslice : buffer.slice (start - 1 - n) (start + 1) =
      (buffer.content.take start).drop (start - 1 - n) ++ [bracket] := by
    rw [Buffer.slice, take_content hat, List.drop_append_of_le_length (by omega)]
  have htake : (buffer.content.take start).reverse.take (n + 1) =
      ((buffer.content.take start).drop (start - 1 - n)).reverse := by
    rw [List.take_reverse, hlength, show start - (n + 1) = start - 1 - n by omega]
  simp only [levelBefore, Set.mem_ofPred_eq, hslice, Settles, Level, htake, List.count_reverse,
    List.count_append, List.length_reverse, hlength, List.count_singleton_self,
    List.count_singleton, beq_iff_eq, hne, if_false]
  omega

/-- The bracket alone is not level with its partner. -/
theorem not_level_bracket (hat : buffer.charAt? start = some bracket) (hne : bracket ≠ partner) :
    ¬Level bracket partner (buffer.slice start (start + 1)) := by
  have hslice : buffer.slice start (start + 1) = [bracket] := by
    rw [Buffer.slice, List.drop_take, drop_content hat, Nat.add_sub_cancel_left]
    rfl
  simp [hslice, Level, hne]

theorem searchForward_eq (buffer : Buffer) (start : Nat) (bracket partner : Char) :
    searchForward buffer start bracket partner =
      (distance? bracket partner 1 (buffer.content.drop (start + 1))).elim .missing
        fun distance => .found (start + 1 + distance) := by
  unfold searchForward
  cases distance? bracket partner 1 (buffer.content.drop (start + 1)) <;> rfl

theorem searchForward_cases (hat : buffer.charAt? start = some bracket) (hne : bracket ≠ partner) :
    (∃ p, IsLeast (levelAfter buffer start bracket partner) p ∧
        searchForward buffer start bracket partner = .found p) ∨
      levelAfter buffer start bracket partner = ∅ ∧
        searchForward buffer start bracket partner = .missing := by
  have hafter : ∀ p ∈ levelAfter buffer start bracket partner, ∃ n, p = start + 1 + n ∧
      Settles bracket partner 1 (buffer.content.drop (start + 1)) n := by
    intro p hp
    obtain ⟨n, rfl⟩ := Nat.exists_eq_add_of_lt hp.1
    rw [Nat.add_right_comm] at hp ⊢
    exact ⟨n, rfl, (mem_levelAfter_iff hat hne n).mp hp⟩
  rw [searchForward_eq]
  cases hdistance : distance? bracket partner 1 (buffer.content.drop (start + 1)) with
  | none =>
    have hnever := (distance?_eq_none_iff hne Nat.one_pos).mp hdistance
    refine .inr ⟨Set.eq_empty_iff_forall_notMem.mpr fun p hp => ?_, rfl⟩
    obtain ⟨n, -, hn⟩ := hafter p hp
    exact hnever n hn
  | some distance =>
    obtain ⟨hsettles, hleast⟩ := (distance?_eq_some_iff hne Nat.one_pos).mp hdistance
    refine .inl ⟨_, ⟨(mem_levelAfter_iff hat hne distance).mpr hsettles, fun p hp => ?_⟩, rfl⟩
    obtain ⟨n, rfl, hn⟩ := hafter p hp
    exact Nat.add_le_add_left (hleast hn) _

theorem searchBack_eq_found (buffer : Buffer) {distance : Nat}
    (h : distance? bracket partner 1 (buffer.content.take start).reverse = some distance) :
    searchBack buffer start bracket partner = .found (start - 1 - distance) := by
  rw [searchBack, h]

theorem searchBack_of_none (buffer : Buffer) (hne : bracket ≠ partner)
    (h : distance? bracket partner 1 (buffer.content.take start).reverse = none) :
    searchBack buffer start bracket partner =
      if buffer.charAt? 0 = some partner then .found 0 else .endless := by
  rw [searchBack, h]
  simp [hne.symm]

theorem searchBack_cases (hat : buffer.charAt? start = some bracket) (hne : bracket ≠ partner) :
    (∃ p, IsGreatest (levelBefore buffer start bracket partner) p ∧
        searchBack buffer start bracket partner = .found p) ∨
      levelBefore buffer start bracket partner = ∅ ∧
        searchBack buffer start bracket partner =
          if buffer.charAt? 0 = some partner then .found 0 else .endless := by
  have hbefore : ∀ p ∈ levelBefore buffer start bracket partner, ∃ n, p = start - 1 - n ∧
      Settles bracket partner 1 (buffer.content.take start).reverse n := by
    intro p hp
    have hlt : p < start := hp.1
    have heq : p = start - 1 - (start - 1 - p) := by omega
    rw [heq] at hp
    exact ⟨start - 1 - p, heq, (mem_levelBefore_iff hat hne (by omega)).mp hp⟩
  cases hdistance : distance? bracket partner 1 (buffer.content.take start).reverse with
  | none =>
    have hnever := (distance?_eq_none_iff hne Nat.one_pos).mp hdistance
    refine .inr ⟨Set.eq_empty_iff_forall_notMem.mpr fun p hp => ?_,
      searchBack_of_none buffer hne hdistance⟩
    obtain ⟨n, -, hn⟩ := hbefore p hp
    exact hnever n hn
  | some distance =>
    obtain ⟨hsettles, hleast⟩ := (distance?_eq_some_iff hne Nat.one_pos).mp hdistance
    have hlt : distance < start := by
      have hlength := hsettles.1
      simp only [List.length_reverse, List.length_take] at hlength
      omega
    refine .inl ⟨_, ⟨(mem_levelBefore_iff hat hne hlt).mpr hsettles, fun p hp => ?_⟩,
      searchBack_eq_found buffer hdistance⟩
    obtain ⟨n, rfl, hn⟩ := hbefore p hp
    exact Nat.sub_le_sub_left (hleast hn) _

/-- The match of an opening bracket is a partner. -/
theorem charAt?_of_searchForward (h : searchForward buffer start bracket partner = .found p) :
    buffer.charAt? p = some partner := by
  rw [searchForward_eq] at h
  cases hdistance : distance? bracket partner 1 (buffer.content.drop (start + 1)) with
  | none =>
    rw [hdistance] at h
    cases h
  | some distance =>
    rw [hdistance] at h
    cases h
    have hpartner := getElem?_of_distance? Nat.one_pos hdistance
    rwa [List.getElem?_drop] at hpartner

theorem isGreatest_levelBefore (hat : buffer.charAt? start = some bracket)
    (hne : bracket ≠ partner) (hp : IsLeast (levelAfter buffer start bracket partner) p) :
    IsGreatest (levelBefore buffer p partner bracket) start := by
  obtain ⟨⟨hstart, hsize, hlevel⟩, hleast⟩ := hp
  refine ⟨⟨hstart, hlevel.symm⟩, fun q hq => ?_⟩
  obtain ⟨hqp, hback⟩ := hq
  by_contra hbetween
  have hlt : start < q := Nat.lt_of_not_le hbetween
  have hfront : Level bracket partner (buffer.slice start q) := by
    have happend := slice_append buffer hlt.le (by omega : q ≤ p + 1) (by omega)
    simp only [Level, happend, List.count_append] at hlevel hback ⊢
    omega
  obtain ⟨q, rfl⟩ := Nat.exists_eq_succ_of_ne_zero (Nat.ne_of_gt (Nat.zero_lt_of_lt hlt))
  rcases Nat.lt_succ_iff_lt_or_eq.mp hlt with hlt | rfl
  · have hmem : q ∈ levelAfter buffer start bracket partner := ⟨hlt, by omega, hfront⟩
    have := hleast hmem
    omega
  · exact not_level_bracket hat hne hfront

end

/-! ## Turn by turn -/

/-- The position one character further on or back. -/
def beside (buffer : Buffer) (ahead : Bool) (position : Nat) : Nat :=
  buffer.step position (if ahead then .forward 1 else .back 1)

/-- How the search ends within so many turns from a position, if it does. Each turn weighs one
character. -/
def walk (buffer : Buffer) (ahead : Bool) (bracket partner : Char) :
    (turns position balance : Nat) → Option BracketSearch
  | 0, _, _ => none
  | turns + 1, position, balance =>
    match buffer.charAt? position with
    | none => some .missing
    | some c =>
      let balance := weigh bracket partner balance c
      if balance = 0 then some (.found position)
      else walk buffer ahead bracket partner turns (beside buffer ahead position) balance

/-- The search from a bracket comes to an end with a result. -/
def Ends (buffer : Buffer) (start : Nat) (bracket partner : Char) (result : BracketSearch) : Prop :=
  ∃ turns,
    walk buffer (opens bracket) bracket partner turns (beside buffer (opens bracket) start) 1 =
      some result

section

variable {buffer : Buffer} {ahead : Bool} {start turns position balance : Nat}
  {bracket partner c : Char} {result : BracketSearch}

theorem walk_succ (hat : buffer.charAt? position = some c) :
    walk buffer ahead bracket partner (turns + 1) position balance =
      if weigh bracket partner balance c = 0 then some (.found position)
      else walk buffer ahead bracket partner turns (beside buffer ahead position)
        (weigh bracket partner balance c) := by
  rw [walk, hat]

theorem walk_of_le {more : Nat} (hturns : turns ≤ more)
    (h : walk buffer ahead bracket partner turns position balance = some result) :
    walk buffer ahead bracket partner more position balance = some result := by
  induction turns generalizing more position balance with
  | zero => cases h
  | succ turns ih =>
    obtain ⟨more, rfl⟩ := Nat.exists_eq_succ_of_ne_zero (Nat.ne_of_gt (Nat.zero_lt_of_lt hturns))
    cases hat : buffer.charAt? position with
    | none =>
      rw [walk, hat] at h ⊢
      exact h
    | some c =>
      rw [walk_succ hat] at h ⊢
      split at h
      · rename_i hweigh
        rw [if_pos hweigh]
        exact h
      · rename_i hweigh
        rw [if_neg hweigh]
        exact ih (Nat.le_of_succ_le_succ hturns) h

/-- A walk has one result. -/
theorem walk_unique {more : Nat} {other : BracketSearch}
    (h : walk buffer ahead bracket partner turns position balance = some result)
    (hother : walk buffer ahead bracket partner more position balance = some other) :
    result = other := by
  have hleft := walk_of_le (Nat.le_max_left turns more) h
  have hright := walk_of_le (Nat.le_max_right turns more) hother
  rw [hleft] at hright
  exact Option.some.inj hright

theorem exists_walk_ahead (buffer : Buffer) (bracket partner : Char) (position balance : Nat) :
    ∃ turns, walk buffer true bracket partner turns position balance =
      some ((distance? bracket partner balance (buffer.content.drop position)).elim .missing
        fun distance => .found (position + distance)) := by
  induction hrest : buffer.content.drop position generalizing position balance with
  | nil =>
    have hnone : buffer.charAt? position = none := by
      rw [Buffer.charAt?, List.getElem?_eq_none_iff]
      exact List.drop_eq_nil_iff.mp hrest
    exact ⟨1, by rw [walk, hnone]; rfl⟩
  | cons c rest ih =>
    have hat : buffer.charAt? position = some c := by
      rw [Buffer.charAt?, ← List.head?_drop, hrest]
      rfl
    have hlt := lt_size_of_charAt? hat
    have hbeside : beside buffer true position = position + 1 := Nat.min_eq_left hlt
    have htail : buffer.content.drop (position + 1) = rest := by
      rw [drop_content hat] at hrest
      exact (List.cons.inj hrest).2
    rw [distance?]
    by_cases hweigh : weigh bracket partner balance c = 0
    · exact ⟨1, by rw [walk_succ hat, if_pos hweigh, if_pos hweigh]; rfl⟩
    · obtain ⟨turns, hturns⟩ := ih _ (weigh bracket partner balance c) htail
      refine ⟨turns + 1, ?_⟩
      rw [walk_succ hat, if_neg hweigh, hbeside, hturns]
      simp only [if_neg hweigh]
      cases distance? bracket partner (weigh bracket partner balance c) rest with
      | none => rfl
      | some distance => simp [Nat.add_assoc, Nat.add_comm 1]

theorem weigh_pos_of_ne (hbalance : 0 < balance) (hc : c ≠ partner) :
    0 < weigh bracket partner balance c := by
  unfold weigh
  split
  · omega
  · simpa [hc] using hbalance

/-- A walk back ends at a match. -/
theorem exists_walk_back {distance : Nat} (hposition : position < buffer.size)
    (h : distance? bracket partner balance (buffer.content.take (position + 1)).reverse =
      some distance) :
    ∃ turns, walk buffer false bracket partner turns position balance =
      some (.found (position - distance)) := by
  induction position generalizing balance distance with
  | zero =>
    obtain ⟨c, hat⟩ := exists_charAt? hposition
    rw [reverse_take_content hat, distance?] at h
    by_cases hweigh : weigh bracket partner balance c = 0
    · exact ⟨1, by rw [walk_succ hat, if_pos hweigh, Nat.zero_sub]⟩
    · simp [hweigh, distance?] at h
  | succ position ih =>
    obtain ⟨c, hat⟩ := exists_charAt? hposition
    rw [reverse_take_content hat, distance?] at h
    by_cases hweigh : weigh bracket partner balance c = 0
    · rw [if_pos hweigh] at h
      cases h
      exact ⟨1, by rw [walk_succ hat, if_pos hweigh, Nat.sub_zero]⟩
    · simp only [if_neg hweigh, Option.map_eq_some_iff] at h
      obtain ⟨distance, hdistance, rfl⟩ := h
      obtain ⟨turns, hturns⟩ := ih (Nat.lt_of_succ_lt hposition) hdistance
      refine ⟨turns + 1, ?_⟩
      rw [walk_succ hat, if_neg hweigh, Nat.succ_sub_succ]
      exact hturns

theorem walk_back_to_start (hposition : position < buffer.size)
    (h : distance? bracket partner balance (buffer.content.take (position + 1)).reverse = none) :
    ∃ left, 0 < left ∧ ∀ turns,
      walk buffer false bracket partner (turns + (position + 1)) position balance =
        walk buffer false bracket partner turns 0 left := by
  induction position generalizing balance with
  | zero =>
    obtain ⟨c, hat⟩ := exists_charAt? hposition
    rw [reverse_take_content hat, distance?] at h
    by_cases hweigh : weigh bracket partner balance c = 0
    · simp [hweigh] at h
    · refine ⟨_, Nat.pos_of_ne_zero hweigh, fun turns => ?_⟩
      rw [walk_succ hat, if_neg hweigh]
      rfl
  | succ position ih =>
    obtain ⟨c, hat⟩ := exists_charAt? hposition
    rw [reverse_take_content hat, distance?] at h
    by_cases hweigh : weigh bracket partner balance c = 0
    · simp [hweigh] at h
    · simp only [if_neg hweigh, Option.map_eq_none_iff] at h
      obtain ⟨left, hleft, hwalk⟩ := ih (Nat.lt_of_succ_lt hposition) h
      refine ⟨left, hleft, fun turns => ?_⟩
      rw [← hwalk turns, ← Nat.add_assoc, walk_succ hat, if_neg hweigh]
      rfl

theorem walk_start_partner (hat : buffer.charAt? 0 = some partner) (hne : bracket ≠ partner) :
    walk buffer false bracket partner (balance + 1) 0 (balance + 1) = some (.found 0) := by
  have hweigh : ∀ balance, weigh bracket partner (balance + 1) partner = balance := by
    simp [weigh, hne.symm]
  induction balance with
  | zero => rw [walk_succ hat, hweigh, if_pos rfl]
  | succ balance ih =>
    rw [walk_succ hat, hweigh, if_neg (Nat.succ_ne_zero balance)]
    exact ih

/-- At any other first character a walk back never ends. -/
theorem walk_start_other (hat : buffer.charAt? 0 = some c) (hc : c ≠ partner) (turns : Nat)
    (hbalance : 0 < balance) : walk buffer false bracket partner turns 0 balance = none := by
  induction turns generalizing balance with
  | zero => rfl
  | succ turns ih =>
    have hweigh : 0 < weigh bracket partner balance c := weigh_pos_of_ne hbalance hc
    rw [walk_succ hat, if_neg hweigh.ne']
    exact ih hweigh

theorem walk_at_start (hsize : 0 < buffer.size) (hne : bracket ≠ partner) (hbalance : 0 < balance) :
    (buffer.charAt? 0 = some partner ∧
        ∃ turns, walk buffer false bracket partner turns 0 balance = some (.found 0)) ∨
      buffer.charAt? 0 ≠ some partner ∧
        ∀ turns, walk buffer false bracket partner turns 0 balance = none := by
  obtain ⟨c, hat⟩ := exists_charAt? hsize
  by_cases hc : c = partner
  · subst hc
    obtain ⟨less, rfl⟩ := Nat.exists_eq_succ_of_ne_zero hbalance.ne'
    exact .inl ⟨hat, less + 1, walk_start_partner hat hne⟩
  · refine .inr ⟨?_, fun turns => walk_start_other hat hc turns hbalance⟩
    rw [hat]
    exact fun heq => hc (Option.some.inj heq)

/-- The search back from a bracket is the walk back. -/
theorem searchBack_walk (hat : buffer.charAt? start = some bracket) (hne : bracket ≠ partner) :
    (searchBack buffer start bracket partner ≠ .endless ∧
        ∃ turns, walk buffer false bracket partner turns (start - 1) 1 =
          some (searchBack buffer start bracket partner)) ∨
      searchBack buffer start bracket partner = .endless ∧
        ∀ turns, walk buffer false bracket partner turns (start - 1) 1 = none := by
  have hsize := lt_size_of_charAt? hat
  cases hdistance : distance? bracket partner 1 (buffer.content.take start).reverse with
  | some distance =>
    rw [searchBack_eq_found buffer hdistance]
    refine .inl ⟨by simp, ?_⟩
    cases start with
    | zero => cases hdistance
    | succ position => exact exists_walk_back (Nat.lt_of_succ_lt hsize) hdistance
  | none =>
    -- the walk is at the first character, at the latest when it has passed all before the bracket
    have hstart : ∃ left skipped, 0 < left ∧ ∀ turns,
        walk buffer false bracket partner (turns + skipped) (start - 1) 1 =
          walk buffer false bracket partner turns 0 left := by
      cases start with
      | zero => exact ⟨1, 0, Nat.one_pos, fun _ => rfl⟩
      | succ position =>
        obtain ⟨left, hleft, hwalk⟩ := walk_back_to_start (Nat.lt_of_succ_lt hsize) hdistance
        exact ⟨left, _, hleft, hwalk⟩
    obtain ⟨left, skipped, hleft, hwalk⟩ := hstart
    rw [searchBack_of_none buffer hne hdistance]
    rcases walk_at_start (Nat.zero_lt_of_lt hsize) hne hleft with
      ⟨hfirst, turns, hturns⟩ | ⟨hfirst, hnever⟩
    · rw [if_pos hfirst]
      exact .inl ⟨by simp, turns + skipped, by rw [hwalk, hturns]⟩
    · rw [if_neg hfirst]
      refine .inr ⟨rfl, fun turns => ?_⟩
      cases hwalked : walk buffer false bracket partner turns (start - 1) 1 with
      | none => rfl
      | some result =>
        have hlate := walk_of_le (Nat.le_add_right turns skipped) hwalked
        rw [hwalk, hnever] at hlate
        cases hlate

theorem search_opening (hat : buffer.charAt? start = some bracket) (hopens : opens bracket = true) :
    search buffer start partner = searchForward buffer start bracket partner := by
  rw [search, hat]
  simp only [hopens, if_true]

theorem search_closing (hat : buffer.charAt? start = some bracket)
    (hcloses : closes bracket = true) (hopens : opens bracket = false) :
    search buffer start partner = searchBack buffer start bracket partner := by
  rw [search, hat]
  simp [hopens, hcloses]

/-- The search ahead from a bracket is the walk ahead. -/
theorem searchForward_walk (hat : buffer.charAt? start = some bracket) :
    searchForward buffer start bracket partner ≠ .endless ∧
      ∃ turns, walk buffer true bracket partner turns (beside buffer true start) 1 =
        some (searchForward buffer start bracket partner) := by
  have hbeside : beside buffer true start = start + 1 := Nat.min_eq_left (lt_size_of_charAt? hat)
  rw [hbeside, searchForward_eq]
  refine ⟨?_, exists_walk_ahead buffer bracket partner (start + 1) 1⟩
  cases distance? bracket partner 1 (buffer.content.drop (start + 1)) <;> simp

/-- The search from a bracket answers what its walk ends with, and is endless if that never ends. -/
theorem ends_iff (hat : buffer.charAt? start = some bracket)
    (hpair : partner? bracket = some partner) (result : BracketSearch) :
    Ends buffer start bracket partner result ↔
      search buffer start partner = result ∧ result ≠ .endless := by
  have hsearch : (search buffer start partner ≠ .endless ∧
      Ends buffer start bracket partner (search buffer start partner)) ∨
      search buffer start partner = .endless ∧
        ∀ result, ¬Ends buffer start bracket partner result := by
    unfold Ends
    rcases opens_or_closes hpair with hopens | hcloses
    · rw [search_opening hat hopens, hopens]
      exact .inl (searchForward_walk hat)
    · have hopens := opens_of_closes hpair hcloses
      rw [search_closing hat hcloses hopens, hopens]
      refine (searchBack_walk hat (ne_of_pair hpair)).imp id fun ⟨hendless, hnever⟩ => ?_
      refine ⟨hendless, fun result ⟨turns, hturns⟩ => ?_⟩
      have hnone := hnever turns
      rw [show beside buffer false start = start - 1 from rfl, hnone] at hturns
      cases hturns
  rcases hsearch with ⟨hends, turns, hturns⟩ | ⟨hendless, hnever⟩
  · constructor
    · rintro ⟨more, hmore⟩
      have heq := walk_unique hturns hmore
      exact ⟨heq, heq ▸ hends⟩
    · rintro ⟨rfl, -⟩
      exact ⟨turns, hturns⟩
  · refine iff_of_false (hnever result) ?_
    rintro ⟨rfl, hends⟩
    exact hends hendless

/-! ## Both directions -/

/-- The search from an opening bracket ends. It finds the first position up to which the bracket is
level with its partner, from where the search back returns, or it finds out that there is none. -/
theorem search_of_opens (hat : buffer.charAt? start = some bracket) (hopens : opens bracket = true)
    (hpair : partner? bracket = some partner) :
    Ends buffer start bracket partner (search buffer start partner) ∧
    ((∃ p, IsLeast (levelAfter buffer start bracket partner) p ∧
        search buffer start partner = .found p ∧ search buffer p bracket = .found start) ∨
      levelAfter buffer start bracket partner = ∅ ∧ search buffer start partner = .missing) := by
  have hne := ne_of_pair hpair
  have hsearch : search buffer start partner = searchForward buffer start bracket partner :=
    search_opening hat hopens
  refine ⟨(ends_iff hat hpair _).mpr ⟨rfl, hsearch ▸ (searchForward_walk hat).1⟩, ?_⟩
  rw [hsearch]
  refine (searchForward_cases hat hne).imp_left fun ⟨p, hleast, hfound⟩ => ⟨p, hleast, hfound, ?_⟩
  obtain ⟨hopens', hcloses, -⟩ := pair_of_opens hpair hopens
  have hpartner := charAt?_of_searchForward hfound
  have hgreatest := isGreatest_levelBefore hat hne hleast
  rw [search_closing hpartner hcloses hopens']
  rcases searchBack_cases hpartner hne.symm with ⟨q, hq, hback⟩ | ⟨hempty, -⟩
  · rw [hback, hq.unique hgreatest]
  · have hmem := hgreatest.1
    rw [hempty] at hmem
    exact absurd hmem (Set.notMem_empty start)

/-- Brackets of two kinds that cross. -/
def crossed : Buffer := { text := "(a[(b])c)".toList }

theorem search_of_opens_crossed :
    crossed.charAt? 0 = some '(' ∧ opens '(' = true ∧ partner? '(' = some ')' ∧
      IsLeast (levelAfter crossed 0 '(' ')') 8 ∧ search crossed 8 '(' = .found 0 := by
  have hat : crossed.charAt? 0 = some '(' := by decide
  have hpair : partner? '(' = some ')' := by decide
  have hfound : search crossed 0 ')' = .found 8 := by decide
  refine ⟨hat, by decide, hpair, ?_⟩
  obtain ⟨-, ⟨p, hleast, hp, hback⟩ | ⟨-, hmissing⟩⟩ := search_of_opens hat (by decide) hpair
  · rw [hfound] at hp
    cases hp
    exact ⟨hleast, hback⟩
  · rw [hfound] at hmissing
    cases hmissing

/-- The search from a closing bracket gives the right answer exactly if there is a position from
which on the bracket is level with its partner. If there is none, it never says so: it ends at the
first character if that is the partner, and otherwise it goes on for ever. -/
theorem search_of_closes (hat : buffer.charAt? start = some bracket)
    (hcloses : closes bracket = true) (hpair : partner? bracket = some partner) :
    (AnswersBefore buffer start bracket partner (search buffer start partner) ↔
      (levelBefore buffer start bracket partner).Nonempty) ∧
    (levelBefore buffer start bracket partner = ∅ → search buffer start partner =
      if buffer.charAt? 0 = some partner then .found 0 else .endless) ∧
    ∀ result, Ends buffer start bracket partner result ↔
      search buffer start partner = result ∧ result ≠ .endless := by
  have hne := ne_of_pair hpair
  have hsearch : search buffer start partner = searchBack buffer start bracket partner :=
    search_closing hat hcloses (opens_of_closes hpair hcloses)
  refine ⟨?_, ?_, ends_iff hat hpair⟩
  · rw [hsearch]
    rcases searchBack_cases hat hne with ⟨p, hgreatest, hfound⟩ | ⟨hempty, hstart⟩
    · exact iff_of_true (.inl ⟨p, hgreatest, hfound⟩) ⟨p, hgreatest.1⟩
    · refine iff_of_false ?_ (Set.not_nonempty_iff_eq_empty.mpr hempty)
      rintro (⟨p, hgreatest, -⟩ | ⟨-, hmissing⟩)
      · exact (Set.nonempty_iff_ne_empty.mp ⟨p, hgreatest.1⟩) hempty
      · rw [hstart] at hmissing
        split at hmissing <;> cases hmissing
  · intro hempty
    rw [hsearch]
    rcases searchBack_cases hat hne with ⟨p, hgreatest, -⟩ | ⟨-, hstart⟩
    · exact absurd hempty (Set.nonempty_iff_ne_empty.mp ⟨p, hgreatest.1⟩)
    · exact hstart

theorem search_of_closes_crossed :
    crossed.charAt? 6 = some ')' ∧ closes ')' = true ∧ partner? ')' = some '(' ∧
      AnswersBefore crossed 6 ')' '(' (search crossed 6 '(') := by
  have hnonempty : (levelBefore crossed 6 ')' '(').Nonempty := ⟨3, by decide, by decide⟩
  have hat : crossed.charAt? 6 = some ')' := by decide
  exact ⟨hat, by decide, by decide,
    (search_of_closes hat (by decide) (by decide)).1.mpr hnonempty⟩

/-- A closing bracket too many after a pair. -/
def unopened : Buffer := { text := "())".toList }

/-- The bracket that is matched already is given as the match. -/
theorem search_unopened : levelBefore unopened 2 ')' '(' = ∅ ∧
    search unopened 2 '(' = .found 0 ∧
    ¬AnswersBefore unopened 2 ')' '(' (search unopened 2 '(') := by
  have hempty : levelBefore unopened 2 ')' '(' = ∅ := by
    have hnone : ∀ p < 2, ¬Level ')' '(' (unopened.slice p 3) := by decide
    exact Set.eq_empty_iff_forall_notMem.mpr fun p hp => hnone p hp.1 hp.2
  have hfound : search unopened 2 '(' = .found 0 := by decide
  refine ⟨hempty, hfound, ?_⟩
  rintro (⟨p, hgreatest, -⟩ | ⟨-, hmissing⟩)
  · exact (Set.nonempty_iff_ne_empty.mp ⟨p, hgreatest.1⟩) hempty
  · rw [hfound] at hmissing
    cases hmissing

example : search { text := ")".toList } 0 '(' = .endless := by decide

end

end Brackets

end ScriptStudio
