import ScriptStudio.Proofs.NumberOrder
import ScriptStudio.Proofs.NumeralReading

/-!
# Comparing values

A value that counts as a number has its place among the numbers, every other text has its place
among the texts, and `Value.nothing` has none. The two orders stand side by side: a number and a
text are neither equal nor one less than the other. All operators of comparison are read off from
this one partial order, and so they agree with one another.

* `Value.Place`, `Value.place?`, `Value.order?`: the partial order.
* `Value.comparison_of_order`, `Value.comparison_of_unordered`: the operators in terms of it.
* `Value.Coherent`: the laws of the operators.
* `Value.comparison_of_one_numeral`: texts without an order.
-/

namespace ScriptStudio

namespace Value

/-! ## Places -/

/-- The places of numbers, and those of texts beside them. -/
abbrev Place := (Int ×ₗ Int) ⊕ String

/-- How two places lie to each other, if they are of one kind. -/
def Place.order? : Place → Place → Option Ordering
  | .inl p, .inl q => some (compare p q)
  | .inr s, .inr t => some (compare s t)
  | _, _ => none

theorem Place.order?_eq_lt_iff {p q : Place} : p.order? q = some .lt ↔ p < q := by
  rcases p with p | p <;> rcases q with q | q <;> simp [order?, compare_lt_iff_lt]

theorem Place.order?_eq_eq_iff {p q : Place} : p.order? q = some .eq ↔ p = q := by
  rcases p with p | p <;> rcases q with q | q <;> simp [order?, compare_eq_iff_eq]

/-- The place of a value. -/
def place? (v : Value) : Option Place :=
  match v.toNumeric with
  | .text s => some (.inr s)
  | other => (other.number?.bind Number.point?).map .inl

/-- How two values lie to each other, if both have a place and the places are of one kind. -/
def order? (l r : Value) : Option Ordering :=
  l.place?.bind fun p => r.place?.bind fun q => p.order? q

variable {l r v : Value} {o : Ordering}

theorem order?_eq_some_iff : l.order? r = some o ↔
    ∃ p q, l.place? = some p ∧ r.place? = some q ∧ p.order? q = some o := by
  simp [order?, Option.bind_eq_some_iff]

variable {s : String}

theorem place?_of_text (h : v.toNumeric = .text s) : v.place? = some (.inr s) := by
  rw [place?, h]

/-- A number that is not not-a-number has a place. -/
theorem exists_place_of_number {x : Number} (h : v.toNumeric.number? = some x)
    (hv : v.toNumeric ≠ .float .nan) : ∃ p, v.place? = some (.inl p) := by
  have hx : x ≠ .float .nan := by
    rintro rfl
    cases hnumeric : v.toNumeric <;> simp_all [number?]
  obtain ⟨p, hp⟩ := Option.ne_none_iff_exists'.mp (mt (Number.point?_eq_none_iff x).mp hx)
  refine ⟨p, ?_⟩
  unfold place?
  split
  case h_1 s htext =>
    rw [htext] at h
    cases h
  case h_2 => rw [h, Option.bind_some, hp, Option.map_some]

/-- Only a number has a place among the numbers. -/
theorem number_of_place {p : Int ×ₗ Int} (h : v.place? = some (.inl p)) :
    ∃ x, v.toNumeric.number? = some x ∧ x.point? = some p := by
  unfold place? at h
  split at h
  · simp at h
  · simpa [Option.bind_eq_some_iff] using h

/-- Only a text has a place among the texts. -/
theorem text_of_place (h : v.place? = some (.inr s)) : v.toNumeric = .text s := by
  unfold place? at h
  split at h
  case h_1 s' htext =>
    rw [htext]
    simpa using h
  case h_2 =>
    obtain ⟨_, -, hplace⟩ := Option.map_eq_some_iff.mp h
    cases hplace

/-! ## The operators -/

/-- What an operator gives of values without an order: they are not equal, and asking for their
order is a fault. -/
def apart (op : BinaryOp) (l r : Value) : Except Stop Value :=
  match op with
  | .equal => .ok (.bool false)
  | .notEqual => .ok (.bool true)
  | _ => .error (.fault (.notComparable l.typeName r.typeName op.symbol))

theorem comparison_of_numbers (op : BinaryOp) {x y : Number} (hx : l.toNumeric.number? = some x)
    (hy : r.toNumeric.number? = some y) :
    comparison op l r = .ok (.bool (holds op (x.compare? y))) := by
  simp only [comparison, hx, hy]

theorem comparison_of_texts (op : BinaryOp) {s' : String} (hl : l.toNumeric = .text s)
    (hr : r.toNumeric = .text s') :
    comparison op l r = .ok (.bool (holds op (some (compare s s')))) := by
  simp only [comparison, hl, hr, number?]

theorem comparison_of_mixed (op : BinaryOp)
    (hnumbers : ∀ x y, l.toNumeric.number? = some x → r.toNumeric.number? ≠ some y)
    (htexts : ∀ s s', l.toNumeric = .text s → r.toNumeric ≠ .text s') :
    comparison op l r = apart op l r := by
  unfold comparison
  split
  case h_1 x y hx hy => exact absurd hy (hnumbers x y hx)
  case h_2 =>
    split
    case h_1 s s' hs hs' => exact absurd hs' (htexts s s' hs)
    case h_2 => rfl
    case h_3 => rfl
    case h_4 hequal hnotEqual _ =>
      unfold apart
      split
      · exact absurd rfl hequal
      · exact absurd rfl hnotEqual
      · rfl

/-- Values with an order compare by it. -/
theorem comparison_of_order (op : BinaryOp) (h : l.order? r = some o) :
    comparison op l r = .ok (.bool (holds op (some o))) := by
  obtain ⟨p, q, hp, hq, horder⟩ := order?_eq_some_iff.mp h
  rcases p with p | s <;> rcases q with q | s'
  · obtain ⟨x, hx, hxp⟩ := number_of_place hp
    obtain ⟨y, hy, hyq⟩ := number_of_place hq
    have hcompare : compare p q = o := Option.some.inj horder
    rw [comparison_of_numbers op hx hy, Number.compare?_of_point hxp hyq, hcompare]
  -- a number and a text have no order
  · cases horder
  · cases horder
  · have hcompare : compare s s' = o := Option.some.inj horder
    rw [comparison_of_texts op (text_of_place hp) (text_of_place hq), hcompare]

/-- Values without an order are apart. -/
theorem comparison_of_unordered (op : BinaryOp) (hl : l.toNumeric ≠ .float .nan)
    (hr : r.toNumeric ≠ .float .nan) (h : l.order? r = none) :
    comparison op l r = apart op l r := by
  refine comparison_of_mixed op (fun x y hx hy => ?_) (fun s s' hs hs' => ?_)
  · obtain ⟨p, hp⟩ := exists_place_of_number hx hl
    obtain ⟨q, hq⟩ := exists_place_of_number hy hr
    simp [order?, hp, hq, Place.order?] at h
  · simp [order?, place?_of_text hs, place?_of_text hs', Place.order?] at h

/-! ## Coherence -/

/-- The operators that ask for the order. -/
def orderings : List BinaryOp := [.less, .greater, .lessEqual, .greaterEqual]

theorem binary_of_mem_orderings {op : BinaryOp} (h : op ∈ orderings) (l r : Value) :
    binary op l r = comparison op l r := by
  simp only [orderings, List.mem_cons, List.not_mem_nil, or_false] at h
  rcases h with rfl | rfl | rfl | rfl <;> rfl

theorem apart_of_mem_orderings {op : BinaryOp} (h : op ∈ orderings) (l r : Value) :
    apart op l r = .error (.fault (.notComparable l.typeName r.typeName op.symbol)) := by
  simp only [orderings, List.mem_cons, List.not_mem_nil, or_false] at h
  rcases h with rfl | rfl | rfl | rfl <;> rfl

/-- Every ordering of the values is a fault, and they are not equal. -/
def Apart (l r : Value) : Prop :=
  (∀ op ∈ orderings,
    binary op l r = .error (.fault (.notComparable l.typeName r.typeName op.symbol))) ∧
  binary .equal l r = .ok (.bool false)

/-- Every ordering of the values has an answer: exactly one of less, equal and greater holds, and
the other two orderings follow from these. -/
def Ordered (l r : Value) : Prop :=
  ∃ less equal greater : Bool,
    binary .less l r = .ok (.bool less) ∧
    binary .equal l r = .ok (.bool equal) ∧
    binary .greater l r = .ok (.bool greater) ∧
    [less, equal, greater].count true = 1 ∧
    binary .lessEqual l r = .ok (.bool (less || equal)) ∧
    binary .greaterEqual l r = .ok (.bool (greater || equal))

/-- The laws of the comparison operators. -/
structure Coherent (l r t : Value) : Prop where
  notEqual_eq_not_equal : ∃ equal : Bool,
    binary .equal l r = .ok (.bool equal) ∧ binary .notEqual l r = .ok (.bool !equal)
  equal_symm : binary .equal l r = binary .equal r l
  equal_trans : binary .equal l r = .ok (.bool true) → binary .equal r t = .ok (.bool true) →
    binary .equal l t = .ok (.bool true)
  apart_or_ordered : Apart l r ∨ Ordered l r
  less_trans : binary .less l r = .ok (.bool true) → binary .less r t = .ok (.bool true) →
    binary .less l t = .ok (.bool true)

section Laws

variable (hl : l.toNumeric ≠ .float .nan) (hr : r.toNumeric ≠ .float .nan)
include hl hr

theorem apart_or_ordered : Apart l r ∨ Ordered l r := by
  cases horder : l.order? r with
  | none =>
    left
    refine ⟨fun op hop => ?_, comparison_of_unordered .equal hl hr horder⟩
    rw [binary_of_mem_orderings hop, comparison_of_unordered op hl hr horder,
      apart_of_mem_orderings hop]
  | some o =>
    have hanswer : ∀ op, comparison op l r = .ok (.bool (holds op (some o))) :=
      fun op => comparison_of_order op horder
    right
    refine ⟨_, _, _, hanswer .less, hanswer .equal, hanswer .greater, ?_,
      hanswer .lessEqual, hanswer .greaterEqual⟩
    cases o <;> decide

theorem binary_equality {op : BinaryOp} (hop : op = .equal ∨ op = .notEqual) :
    binary op l r = .ok (.bool (holds op (l.order? r))) := by
  cases horder : l.order? r with
  | none =>
    rcases hop with rfl | rfl
    · exact comparison_of_unordered .equal hl hr horder
    · exact comparison_of_unordered .notEqual hl hr horder
  | some o =>
    rcases hop with rfl | rfl
    · exact comparison_of_order .equal horder
    · exact comparison_of_order .notEqual horder

/-- Equal values have one place. -/
theorem binary_equal_iff : binary .equal l r = .ok (.bool true) ↔
    ∃ p, l.place? = some p ∧ r.place? = some p := by
  rw [binary_equality hl hr (.inl rfl)]
  simp [holds, order?_eq_some_iff, Place.order?_eq_eq_iff]

/-- A lesser value has a lesser place. -/
theorem binary_less_iff : binary .less l r = .ok (.bool true) ↔
    ∃ p q, l.place? = some p ∧ r.place? = some q ∧ p < q := by
  simp only [← Place.order?_eq_lt_iff, ← order?_eq_some_iff]
  cases horder : l.order? r with
  | none =>
    rw [show binary .less l r = apart .less l r from comparison_of_unordered .less hl hr horder]
    simp [apart]
  | some o =>
    rw [show binary .less l r = _ from comparison_of_order .less horder]
    simp [holds]

end Laws

/-- Values other than not-a-number compare coherently, be they numbers, truth values, texts or
nothing. -/
theorem coherent_of_ne_nan (l r t : Value) (hl : l.toNumeric ≠ .float .nan)
    (hr : r.toNumeric ≠ .float .nan) (ht : t.toNumeric ≠ .float .nan) : Coherent l r t where
  notEqual_eq_not_equal :=
    ⟨_, binary_equality hl hr (.inl rfl), binary_equality hl hr (.inr rfl)⟩
  equal_symm := by
    have hsymm : l.order? r = some .eq ↔ r.order? l = some .eq := by
      simp only [order?_eq_some_iff, Place.order?_eq_eq_iff]
      grind
    have hholds : holds .equal (l.order? r) = holds .equal (r.order? l) := by
      rw [Bool.eq_iff_iff]
      simpa [holds] using hsymm
    rw [binary_equality hl hr (.inl rfl), binary_equality hr hl (.inl rfl), hholds]
  equal_trans hlr hrt := by
    obtain ⟨p, hlp, hrp⟩ := (binary_equal_iff hl hr).mp hlr
    obtain ⟨q, hrq, htq⟩ := (binary_equal_iff hr ht).mp hrt
    obtain rfl : p = q := Option.some.inj (hrp.symm.trans hrq)
    exact (binary_equal_iff hl ht).mpr ⟨p, hlp, htq⟩
  apart_or_ordered := apart_or_ordered hl hr
  less_trans hlr hrt := by
    obtain ⟨p, q, hlp, hrq, hpq⟩ := (binary_less_iff hl hr).mp hlr
    obtain ⟨q', s, hrq', hts, hqs⟩ := (binary_less_iff hr ht).mp hrt
    obtain rfl : q = q' := Option.some.inj (hrq.symm.trans hrq')
    exact (binary_less_iff hl ht).mpr ⟨p, s, hlp, hts, hpq.trans hqs⟩

/-- A truth value and two texts, which read as numbers with an Arabic digit and with an
underscore. -/
theorem coherent_true_three_ten :
    (bool true).toNumeric ≠ .float .nan ∧ (text "٣").toNumeric ≠ .float .nan ∧
      (text "1_0").toNumeric ≠ .float .nan ∧
      Coherent (bool true) (text "٣") (text "1_0") ∧
      binary .less (bool true) (text "٣") = .ok (.bool true) ∧
      binary .less (text "٣") (text "1_0") = .ok (.bool true) :=
  ⟨by decide, by decide, by decide,
    coherent_of_ne_nan (bool true) (text "٣") (text "1_0") (by decide) (by decide) (by decide),
    by decide, by decide⟩

/-! ## Texts -/

open Numeral

theorem exists_number_of_numeral (h : s.toList ∈ numeral) :
    ∃ x, (text s).toNumeric.number? = some x :=
  Option.isSome_iff_exists.mp ((number?_toNumeric_isSome_iff s).mpr h)

theorem toNumeric_of_not_numeral (h : s.toList ∉ numeral) : (text s).toNumeric = .text s := by
  have hnumber : (text s).toNumeric.number? = none := by
    rw [← number?_toNumeric_isSome_iff] at h
    exact Option.not_isSome_iff_eq_none.mp h
  rw [toNumeric] at hnumber ⊢
  split at hnumber
  -- a text that is read would count as a number
  · cases hread : Binary64.ofText? s <;> simp_all [number?]
  · cases hread : integerOfText? s <;> simp_all [number?]

/-- A numeral and another text are apart, on whichever side the numeral stands. -/
theorem comparison_of_one_numeral (op : BinaryOp) {s' : String}
    (h : ¬(s.toList ∈ numeral ↔ s'.toList ∈ numeral)) :
    comparison op (text s) (text s') = apart op (text s) (text s') := by
  have hnumber : ∀ s x, (text s).toNumeric.number? = some x → s.toList ∈ numeral :=
    fun s x hx => (number?_toNumeric_isSome_iff s).mp (Option.isSome_of_eq_some hx)
  have htext : ∀ s s', (text s).toNumeric = .text s' → s.toList ∉ numeral := by
    intro s s' hs hmem
    obtain ⟨x, hx⟩ := exists_number_of_numeral hmem
    rw [hs] at hx
    cases hx
  refine comparison_of_mixed op (fun x y hx hy => h ?_) (fun u u' hu hu' => h ?_)
  · exact iff_of_true (hnumber s x hx) (hnumber s' y hy)
  · exact iff_of_false (htext s u hu) (htext s' u' hu')

/-- The order of two texts has an answer exactly if both are numerals or neither is. A numeral and
another text are as little comparable as a number and a text. -/
theorem binary_texts_iff (l r : String) (op : BinaryOp) (hop : op ∈ orderings) :
    ((∃ answer : Bool, binary op (text l) (text r) = .ok (.bool answer)) ↔
      (l.toList ∈ numeral ↔ r.toList ∈ numeral)) ∧
    (¬(l.toList ∈ numeral ↔ r.toList ∈ numeral) →
      binary op (text l) (text r) = .error (.fault (.notComparable "str" "str" op.symbol))) := by
  have hfault : ¬(l.toList ∈ numeral ↔ r.toList ∈ numeral) →
      binary op (text l) (text r) = .error (.fault (.notComparable "str" "str" op.symbol)) := by
    intro hone
    rw [binary_of_mem_orderings hop, comparison_of_one_numeral op hone, apart_of_mem_orderings hop]
    rfl
  refine ⟨⟨fun hanswer => ?_, fun hsame => ?_⟩, hfault⟩
  · by_contra hone
    obtain ⟨answer, hanswer⟩ := hanswer
    rw [hfault hone] at hanswer
    cases hanswer
  · rw [binary_of_mem_orderings hop]
    by_cases hl : l.toList ∈ numeral
    · obtain ⟨x, hx⟩ := exists_number_of_numeral hl
      obtain ⟨y, hy⟩ := exists_number_of_numeral (hsame.mp hl)
      exact ⟨_, comparison_of_numbers op hx hy⟩
    · exact ⟨_, comparison_of_texts op (toNumeric_of_not_numeral hl)
        (toNumeric_of_not_numeral (mt hsame.mpr hl))⟩

/-- An integer with an underscore and a decimal number within blanks have an order. -/
theorem binary_texts_underscore_blanks : .lessEqual ∈ orderings ∧
    ∃ answer : Bool, binary .lessEqual (text "1_0") (text " 9.5e1 ") = .ok (.bool answer) := by
  have hl : "1_0".toList ∈ numeral := (number?_toNumeric_isSome_iff _).mp (by decide +kernel)
  have hr : " 9.5e1 ".toList ∈ numeral := (number?_toNumeric_isSome_iff _).mp (by decide +kernel)
  exact ⟨by decide,
    (binary_texts_iff "1_0" " 9.5e1 " .lessEqual (by decide)).1.mpr (iff_of_true hl hr)⟩

/-- Two texts that have no order. -/
theorem binary_less_ten_abc :
    binary .less (text "10") (text "abc") = .error (.fault (.notComparable "str" "str" "<")) := by
  decide +kernel

end Value

end ScriptStudio
