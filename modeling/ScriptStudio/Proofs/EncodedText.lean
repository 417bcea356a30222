import Mathlib.Data.List.TakeWhile
import ScriptStudio.Buffer.Basic
import ScriptStudio.Proofs.TextFiles

/-!
# Octets and the text they encode

Octets that decode are the encoding of the text they decode to, so no text has two encodings. A
carriage return or a null character is among the octets exactly if it is in the text, since all
octets of the longer characters are 0x80 or more.

* `lead?_eq_some`: the four kinds of first octets, with the bounds that they set.
* `encodeUtf8_of_decodeUtf8`: encoding takes back what decoding made of octets.
* `encodeUtf8_taken_iff`: reading and writing keep the octets without carriage returns and nulls.
-/

namespace ScriptStudio.Text

variable {octet : Octet} {octets : List Octet} {text : List Char}

/-! ## Decoding and encoding -/

/-- A first octet announces up to three others. Its bounds for the next one keep out the codes that
fewer octets could spell, the surrogates, and the codes that are too large. -/
theorem lead?_eq_some {lead : Lead} (h : lead? octet = some lead) :
    octet.toNat < 0x80 ∧ lead = ⟨0, 0, 0, octet.toNat⟩ ∨
    (0xc2 ≤ octet.toNat ∧ octet.toNat ≤ 0xdf) ∧ lead = ⟨1, 0x80, 0xbf, octet.toNat - 0xc0⟩ ∨
    (∃ low high, lead = ⟨2, low, high, octet.toNat - 0xe0⟩ ∧ 0xe0 ≤ octet.toNat ∧
      octet.toNat ≤ 0xef ∧ 0x80 ≤ low ∧ high ≤ 0xbf ∧ (octet.toNat = 0xe0 → 0xa0 ≤ low) ∧
      (octet.toNat = 0xed → high ≤ 0x9f)) ∨
    ∃ low high, lead = ⟨3, low, high, octet.toNat - 0xf0⟩ ∧ 0xf0 ≤ octet.toNat ∧
      octet.toNat ≤ 0xf4 ∧ 0x80 ≤ low ∧ high ≤ 0xbf ∧ (octet.toNat = 0xf0 → 0x90 ≤ low) ∧
      (octet.toNat = 0xf4 → high ≤ 0x8f) := by
  unfold lead? at h
  simp only [beq_iff_eq, Bool.and_eq_true, decide_eq_true_eq] at h
  split_ifs at h with hone htwo he0 hed hthree hf0 hfour hf4
  · cases h
    exact .inl ⟨hone, rfl⟩
  · cases h
    exact .inr (.inl ⟨htwo, rfl⟩)
  · cases h
    exact .inr (.inr (.inl ⟨_, _, by rw [he0], by omega⟩))
  · cases h
    exact .inr (.inr (.inl ⟨_, _, by rw [hed], by omega⟩))
  · cases h
    exact .inr (.inr (.inl ⟨_, _, rfl, by omega⟩))
  · cases h
    exact .inr (.inr (.inr ⟨_, _, by rw [hf0], by omega⟩))
  · cases h
    exact .inr (.inr (.inr ⟨_, _, rfl, by omega⟩))
  · cases h
    exact .inr (.inr (.inr ⟨_, _, by rw [hf4], by omega⟩))

theorem exists_cons_of_continuing {count low high : Nat}
    (h : ¬ (continuing (count + 1) low high octets).length < count + 1) :
    ∃ next rest, octets = next :: rest ∧ low ≤ next.toNat ∧ next.toNat ≤ high ∧
      ¬ (continuing count 0x80 0xbf rest).length < count := by
  cases octets with
  | nil => exact absurd (Nat.succ_pos count) h
  | cons next rest =>
    rw [continuing] at h
    split at h
    · rename_i hbounds
      simp only [Bool.and_eq_true, decide_eq_true_eq] at hbounds
      rw [List.length_cons, Nat.add_lt_add_iff_right] at h
      exact ⟨next, rest, rfl, hbounds.1, hbounds.2, h⟩
    · exact absurd (Nat.succ_pos count) h

theorem toUInt8_eq (octet : Octet) {n : Nat} (h : n = octet.toNat) : n.toUInt8 = octet := by
  rw [h]
  exact UInt8.ofNat_toNat

theorem toNat_ofNat_of_valid {code : Nat} (h : code < 0xd800 ∨ 0xdfff < code ∧ code < 0x110000) :
    (Char.ofNat code).toNat = code := by
  rw [Char.ofNat, dif_pos h]
  rfl

theorem encodeChar_of_lead {lead : Lead} (hlead : lead? octet = some lead)
    (hmore : ¬ (continuing lead.count lead.low lead.high octets).length < lead.count) :
    encodeChar (Char.ofNat
        (codeFrom lead.bits (continuing lead.count lead.low lead.high octets))) ++
      octets.drop lead.count = octet :: octets := by
  rcases lead?_eq_some hlead with ⟨hone, rfl⟩ | ⟨htwo, rfl⟩ |
    ⟨low, high, rfl, hfirst, hlast, hlow, hhigh, hleast, hsurrogate⟩ |
    ⟨low, high, rfl, hfirst, hlast, hlow, hhigh, hleast, hgreatest⟩
  · dsimp only [continuing, codeFrom, List.foldl, List.drop]
    unfold encodeChar
    rw [toNat_ofNat_of_valid (by omega), if_pos hone, toUInt8_eq octet rfl]
    rfl
  · dsimp only at hmore ⊢
    obtain ⟨a, rest, rfl, hlowA, hhighA, -⟩ := exists_cons_of_continuing hmore
    rw [continuing_cons hlowA hhighA]
    dsimp only [continuing, codeFrom, List.foldl, List.drop]
    unfold encodeChar
    rw [toNat_ofNat_of_valid (by omega), if_neg (by omega), if_pos (by omega),
      toUInt8_eq octet (by omega), toUInt8_eq a (by omega)]
    rfl
  · dsimp only at hmore ⊢
    obtain ⟨a, restA, rfl, hlowA, hhighA, hmoreA⟩ := exists_cons_of_continuing hmore
    obtain ⟨b, rest, rfl, hlowB, hhighB, -⟩ := exists_cons_of_continuing hmoreA
    rw [continuing_cons hlowA hhighA, continuing_cons hlowB hhighB]
    dsimp only [continuing, codeFrom, List.foldl, List.drop]
    unfold encodeChar
    rw [toNat_ofNat_of_valid (by omega), if_neg (by omega), if_neg (by omega), if_pos (by omega),
      toUInt8_eq octet (by omega), toUInt8_eq a (by omega),
      toUInt8_eq b (by omega)]
    rfl
  · dsimp only at hmore ⊢
    obtain ⟨a, restA, rfl, hlowA, hhighA, hmoreA⟩ := exists_cons_of_continuing hmore
    obtain ⟨b, restB, rfl, hlowB, hhighB, hmoreB⟩ := exists_cons_of_continuing hmoreA
    obtain ⟨c, rest, rfl, hlowC, hhighC, -⟩ := exists_cons_of_continuing hmoreB
    rw [continuing_cons hlowA hhighA, continuing_cons hlowB hhighB, continuing_cons hlowC hhighC]
    dsimp only [continuing, codeFrom, List.foldl, List.drop]
    unfold encodeChar
    rw [toNat_ofNat_of_valid (by omega), if_neg (by omega), if_neg (by omega), if_neg (by omega),
      toUInt8_eq octet (by omega), toUInt8_eq a (by omega),
      toUInt8_eq b (by omega), toUInt8_eq c (by omega)]
    rfl

theorem encodeUtf8_of_decodeFrom {position : Nat} (h : decodeFrom position octets = .ok text) :
    encodeUtf8 text = octets := by
  fun_induction decodeFrom position octets generalizing text with
  | case1 =>
    cases h
    rfl
  | case2 | case3 | case4 => cases h
  | case5 position octet rest lead hlead more hmore code =>
    rename_i ih
    cases hlater : decodeFrom (position + 1 + lead.count) (rest.drop lead.count) with
    | error error =>
      rw [hlater] at h
      cases h
    | ok later =>
      rw [hlater] at h
      cases h
      rw [encodeUtf8, List.flatMap_cons, ← encodeUtf8, ih hlater]
      exact encodeChar_of_lead hlead hmore

/-- Octets that decode are the encoding of what they decode to. -/
theorem encodeUtf8_of_decodeUtf8 (h : decodeUtf8 octets = .ok text) : encodeUtf8 text = octets :=
  encodeUtf8_of_decodeFrom h

/-! ## Characters of one octet -/

theorem mem_encodeChar_iff (hone : octet.toNat < 0x80) {c : Char} :
    octet ∈ encodeChar c ↔ c.toNat = octet.toNat := by
  -- all octets of longer characters are above 0x7f
  have hhigh : ∀ n, 0x80 ≤ n → n < 0x100 → octet ≠ n.toUInt8 := by
    rintro n hlow hlarge rfl
    rw [toNat_toUInt8 hlarge] at hone
    omega
  have hvalid : c.toNat < 0xd800 ∨ 0xdfff < c.toNat ∧ c.toNat < 0x110000 := c.valid
  constructor
  · intro h
    unfold encodeChar at h
    dsimp only at h
    split_ifs at h with hsingle htwo hthree
    · have hnat := congrArg UInt8.toNat (List.mem_singleton.mp h)
      rw [toNat_toUInt8 (by omega)] at hnat
      exact hnat.symm
    · simp only [List.mem_cons, List.not_mem_nil, or_false] at h
      rcases h with h | h <;> exact absurd h (hhigh _ (by omega) (by omega))
    · simp only [List.mem_cons, List.not_mem_nil, or_false] at h
      rcases h with h | h | h <;> exact absurd h (hhigh _ (by omega) (by omega))
    · simp only [List.mem_cons, List.not_mem_nil, or_false] at h
      rcases h with h | h | h | h <;> exact absurd h (hhigh _ (by omega) (by omega))
  · intro hcode
    unfold encodeChar
    dsimp only
    rw [if_pos (by omega), hcode, List.mem_singleton, ← UInt8.toNat_inj, toNat_toUInt8 (by omega)]

theorem mem_encodeUtf8_iff (hone : octet.toNat < 0x80) {c : Char} (hc : c.toNat = octet.toNat) :
    octet ∈ encodeUtf8 text ↔ c ∈ text := by
  rw [encodeUtf8, List.mem_flatMap]
  constructor
  · rintro ⟨other, hother, hoctet⟩
    rw [mem_encodeChar_iff hone, ← hc, Char.toNat_inj] at hoctet
    rwa [← hoctet]
  · exact fun h => ⟨c, h, (mem_encodeChar_iff hone).mpr hc⟩

theorem encodeUtf8_inj {other : List Char} : encodeUtf8 text = encodeUtf8 other ↔ text = other := by
  refine ⟨fun hsame => ?_, congrArg encodeUtf8⟩
  have hdecoded := congrArg decodeUtf8 hsame
  rw [decodeUtf8_encodeUtf8, decodeUtf8_encodeUtf8] at hdecoded
  exact Except.ok.inj hdecoded

/-! ## What is kept -/

theorem return_notMem_unifyNewlines (text : List Char) : '\r' ∉ unifyNewlines text := by
  fun_induction unifyNewlines text with
  | case1 => exact List.not_mem_nil
  | case2 rest ih =>
    rw [List.mem_cons, not_or]
    exact ⟨by decide, ih⟩
  | case3 c rest _ ih =>
    rw [List.mem_cons, not_or]
    refine ⟨?_, ih⟩
    split
    · decide
    · rename_i hne
      exact Ne.symm hne

theorem taken_eq_self_iff (intake : Intake) :
    intake.taken text = text ↔ (intake = .upToNull → '\x00' ∉ text) := by
  cases intake with
  | whole => simp [Intake.taken]
  | upToNull =>
    rw [Intake.taken, List.takeWhile_eq_self_iff]
    constructor
    · intro hall _ hmem
      exact absurd (hall _ hmem) (by decide)
    · intro hnone c hc
      rw [bne_iff_ne]
      rintro rfl
      exact hnone rfl hc

theorem taken_unifyNewlines_iff (intake : Intake) :
    intake.taken (unifyNewlines text) = text ↔
      '\r' ∉ text ∧ (intake = .upToNull → '\x00' ∉ text) := by
  constructor
  · intro hsame
    have hreturn : '\r' ∉ text := by
      rw [← hsame]
      refine fun hmem => return_notMem_unifyNewlines text ?_
      cases intake with
      | whole => exact hmem
      | upToNull => exact (List.takeWhile_sublist _).subset hmem
    rw [unifyNewlines_eq_self hreturn] at hsame
    exact ⟨hreturn, (taken_eq_self_iff intake).mp hsame⟩
  · rintro ⟨hreturn, hnull⟩
    rw [unifyNewlines_eq_self hreturn, (taken_eq_self_iff intake).mpr hnull]

/-- The octets of a text, written with its line ends unified and as much as is taken in, are the
same exactly if there is no carriage return among them, and no null where that makes a
difference. -/
theorem encodeUtf8_taken_iff (intake : Intake) (h : decodeUtf8 octets = .ok text) :
    encodeUtf8 (intake.taken (unifyNewlines text)) = octets ↔
      (0x0d : Octet) ∉ octets ∧ (intake = .upToNull → (0 : Octet) ∉ octets) := by
  have hreturn : (0x0d : Octet) ∈ encodeUtf8 text ↔ '\r' ∈ text :=
    mem_encodeUtf8_iff (by decide) rfl
  have hnull : (0 : Octet) ∈ encodeUtf8 text ↔ '\x00' ∈ text := mem_encodeUtf8_iff (by decide) rfl
  rw [← encodeUtf8_of_decodeUtf8 h, encodeUtf8_inj, taken_unifyNewlines_iff, hreturn, hnull]

end ScriptStudio.Text
