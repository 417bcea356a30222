import Mathlib.Data.List.Basic
import ScriptStudio.Disk.Basic

/-!
# Text files

A text that is written to a file is read back, if it has no carriage returns.

* `decodeUtf8_encodeUtf8`: decoding takes back what encoding made of a text. There is one lemma for
  each number of octets that a character can take.
* `unifyNewlines_eq_self`: a text without carriage returns has nothing to unify.
* `Disk.readText_writeText`: the two together, for a disk on which the text was written.
-/

namespace ScriptStudio.Text

theorem toNat_toUInt8 {n : Nat} (h : n < 256) : n.toUInt8.toNat = n :=
  UInt8.toNat_ofNat_of_lt' h

/-- The code that octets spell after the leading bits. -/
def codeFrom (bits : Nat) (octets : List Octet) : Nat :=
  octets.foldl (fun code next => code * 64 + (next.toNat - 0x80)) bits

theorem decodeFrom_cons {octet : Octet} {lead : Lead} (hlead : lead? octet = some lead)
    (more : List Octet) (hlength : more.length = lead.count) {tail : List Octet}
    (hmore : continuing lead.count lead.low lead.high (more ++ tail) = more) {c : Char}
    (hcode : codeFrom lead.bits more = c.toNat) (position : Nat) :
    ∃ position', decodeFrom position (octet :: (more ++ tail)) =
      (decodeFrom position' tail).map (c :: ·) := by
  refine ⟨position + 1 + lead.count, ?_⟩
  rw [codeFrom] at hcode
  rw [decodeFrom, hlead]
  dsimp only
  rw [hmore, if_neg (by omega), hcode, Char.ofNat_toNat, ← hlength, List.drop_left]
  cases decodeFrom (position + 1 + more.length) tail with
  | ok later => rfl
  | error error => rfl

theorem continuing_cons {count low high : Nat} {octet : Octet} (hlow : low ≤ octet.toNat)
    (hhigh : octet.toNat ≤ high) (rest : List Octet) :
    continuing (count + 1) low high (octet :: rest) =
      octet :: continuing count 0x80 0xbf rest := by
  rw [continuing, if_pos (by simp [hlow, hhigh])]

variable {code : Nat}

theorem lead?_two (hlow : 0x80 ≤ code) (hhigh : code < 0x800) :
    lead? (0xc0 + code / 64).toUInt8 = some ⟨1, 0x80, 0xbf, code / 64⟩ := by
  have hoctet : (0xc0 + code / 64).toUInt8.toNat = 0xc0 + code / 64 := toNat_toUInt8 (by omega)
  simp only [lead?, hoctet]
  rw [if_neg (by omega), if_pos (by simp; omega), Nat.add_sub_cancel_left]

theorem lead?_three (hlow : 0x800 ≤ code) (hhigh : code < 0x10000)
    (hvalid : code < 0xd800 ∨ 0xdfff < code) :
    ∃ low high, lead? (0xe0 + code / 4096).toUInt8 = some ⟨2, low, high, code / 4096⟩ ∧
      low ≤ 0x80 + code / 64 % 64 ∧ 0x80 + code / 64 % 64 ≤ high := by
  have hoctet : (0xe0 + code / 4096).toUInt8.toNat = 0xe0 + code / 4096 :=
    toNat_toUInt8 (by omega)
  simp only [lead?, hoctet, beq_iff_eq]
  rw [if_neg (by omega), if_neg (by simp; omega)]
  by_cases hfirst : code / 4096 = 0
  · rw [hfirst, if_pos rfl]
    exact ⟨_, _, rfl, by omega, by omega⟩
  rw [if_neg (by omega)]
  by_cases hlast : code / 4096 = 13
  · rw [hlast, if_pos rfl]
    exact ⟨_, _, rfl, by omega, by omega⟩
  rw [if_neg (by omega), if_pos (by simp; omega), Nat.add_sub_cancel_left]
  exact ⟨_, _, rfl, by omega, by omega⟩

theorem lead?_four (hlow : 0x10000 ≤ code) (hhigh : code < 0x110000) :
    ∃ low high, lead? (0xf0 + code / 262144).toUInt8 = some ⟨3, low, high, code / 262144⟩ ∧
      low ≤ 0x80 + code / 4096 % 64 ∧ 0x80 + code / 4096 % 64 ≤ high := by
  have hoctet : (0xf0 + code / 262144).toUInt8.toNat = 0xf0 + code / 262144 :=
    toNat_toUInt8 (by omega)
  simp only [lead?, hoctet, beq_iff_eq]
  rw [if_neg (by omega), if_neg (by simp; omega), if_neg (by omega), if_neg (by omega),
    if_neg (by simp; omega)]
  by_cases hfirst : code / 262144 = 0
  · rw [hfirst, if_pos rfl]
    exact ⟨_, _, rfl, by omega, by omega⟩
  rw [if_neg (by omega)]
  by_cases hlast : code / 262144 = 4
  · rw [hlast, if_neg (by simp), if_pos rfl]
    exact ⟨_, _, rfl, by omega, by omega⟩
  rw [if_pos (by simp; omega), Nat.add_sub_cancel_left]
  exact ⟨_, _, rfl, by omega, by omega⟩

theorem toNat_continuation (n : Nat) : (0x80 + n % 64).toUInt8.toNat = 0x80 + n % 64 :=
  toNat_toUInt8 (by omega)

theorem decodeFrom_encodeChar (c : Char) (tail : List Octet) (position : Nat) :
    ∃ position', decodeFrom position (encodeChar c ++ tail) =
      (decodeFrom position' tail).map (c :: ·) := by
  have hvalid : c.toNat < 0xd800 ∨ 0xdfff < c.toNat ∧ c.toNat < 0x110000 := c.valid
  have hgoes : ∀ count n rest, continuing (count + 1) 0x80 0xbf ((0x80 + n % 64).toUInt8 :: rest) =
      (0x80 + n % 64).toUInt8 :: continuing count 0x80 0xbf rest := by
    intro count n rest
    apply continuing_cons <;> rw [toNat_continuation] <;> omega
  unfold encodeChar
  dsimp only
  split_ifs with hone htwo hthree
  · have hlead : lead? c.toNat.toUInt8 = some ⟨0, 0, 0, c.toNat⟩ := by
      simp only [lead?, toNat_toUInt8 (show c.toNat < 256 by omega), if_pos hone]
    exact decodeFrom_cons hlead [] rfl rfl rfl position
  · refine decodeFrom_cons (lead?_two (by omega) htwo) _ rfl (hgoes 0 _ _) ?_ position
    simp only [codeFrom, List.foldl_cons, List.foldl_nil, toNat_continuation]
    omega
  · obtain ⟨low, high, hlead, hlow, hhigh⟩ := lead?_three (Nat.le_of_not_lt htwo) hthree (by omega)
    refine decodeFrom_cons hlead [(0x80 + c.toNat / 64 % 64).toUInt8, _] rfl ?_ ?_ position
    · rw [List.cons_append, continuing_cons (by rwa [toNat_continuation])
        (by rwa [toNat_continuation])]
      exact congrArg _ (hgoes 0 _ _)
    · simp only [codeFrom, List.foldl_cons, List.foldl_nil, toNat_continuation]
      omega
  · obtain ⟨low, high, hlead, hlow, hhigh⟩ := lead?_four (Nat.le_of_not_lt hthree) (by omega)
    refine decodeFrom_cons hlead [(0x80 + c.toNat / 4096 % 64).toUInt8, _, _] rfl ?_ ?_ position
    · rw [List.cons_append, continuing_cons (by rwa [toNat_continuation])
        (by rwa [toNat_continuation])]
      exact congrArg _ ((hgoes 1 _ _).trans (congrArg _ (hgoes 0 _ _)))
    · simp only [codeFrom, List.foldl_cons, List.foldl_nil, toNat_continuation]
      omega

theorem decodeFrom_encodeUtf8 (text : List Char) (position : Nat) :
    decodeFrom position (encodeUtf8 text) = .ok text := by
  induction text generalizing position with
  | nil =>
    rw [encodeUtf8, List.flatMap_nil, decodeFrom]
  | cons c rest ih =>
    rw [encodeUtf8, List.flatMap_cons]
    obtain ⟨position', hchar⟩ := decodeFrom_encodeChar c (encodeUtf8 rest) position
    rw [encodeUtf8] at hchar ih
    rw [hchar, ih]
    rfl

theorem decodeUtf8_encodeUtf8 (text : List Char) : decodeUtf8 (encodeUtf8 text) = .ok text :=
  decodeFrom_encodeUtf8 text 0

theorem unifyNewlines_eq_self {text : List Char} (h : '\r' ∉ text) : unifyNewlines text = text := by
  induction text with
  | nil => rfl
  | cons c rest ih =>
    rw [List.mem_cons, not_or] at h
    have hne : c ≠ '\r' := fun heq => h.1 heq.symm
    rw [unifyNewlines, if_neg hne, ih h.2]
    rintro rest' rfl
    exact absurd rfl hne

end ScriptStudio.Text

namespace ScriptStudio.Disk

open Text

theorem lookup_cons_ite (other location : List String) (entry : DiskEntry)
    (rest : List (List String × DiskEntry)) :
    ((location, entry) :: rest).lookup other =
      if other = location then some entry else rest.lookup other := by
  by_cases h : other = location
  · simp [h]
  · rw [if_neg h, List.lookup_cons, beq_eq_false_iff_ne.mpr h]

theorem lookup_putEntry (location other : List String) (entry : DiskEntry)
    (entries : List (List String × DiskEntry)) :
    (putEntry location entry entries).lookup other =
      if other = location then some entry else entries.lookup other := by
  induction entries with
  | nil => exact lookup_cons_ite other location entry []
  | cons first rest ih =>
    obtain ⟨place, old⟩ := first
    rw [putEntry, lookup_cons_ite other place]
    by_cases hplace : place = location
    · subst hplace
      rw [if_pos rfl, lookup_cons_ite]
      split_ifs <;> rfl
    · rw [if_neg hplace, lookup_cons_ite, ih]
      split_ifs with hother hlocation
      · exact absurd (hother.symm.trans hlocation) hplace
      · rfl
      · rfl
      · rfl

variable {location : List String} {disk after : Disk} {path text : String}

/-- A text can be written at the location: nothing lies there, or a file that is not closed. -/
def takes (disk : Disk) (location : List String) : Bool :=
  match disk.entryAt location with
  | none | some (.file _) => true
  | some .directory | some (.closed _) => false

theorem entryAt_ne_of_takes (h : disk.takes location = true) :
    disk.entryAt location ≠ some .directory := by
  intro hentry
  rw [takes, hentry] at h
  cases h

theorem entryAt_put (disk : Disk) (entry : DiskEntry)
    (hlocation : disk.takes location = true) (other : List String) :
    (disk.put location entry).entryAt other =
      if other = location then some entry else disk.entryAt other := by
  unfold entryAt
  split
  · rename_i hfixed
    rw [if_neg]
    rintro rfl
    exact entryAt_ne_of_takes hlocation (by rw [entryAt, if_pos hfixed])
  · exact lookup_putEntry location other entry disk.entries

/-- The place that a path leads to, wherever it leads at all. -/
def placeOf (path : String) : List String := (Path.steps path).foldl step (startOf path)

theorem enter_eq_ok_iff :
    disk.enter location = .ok () ↔ disk.entryAt location = some .directory := by
  unfold enter
  split <;> simp [*]

theorem walk_eq {start : List String} {steps : List String}
    (h : disk.walk start steps = .ok location) : location = steps.foldl step start := by
  induction steps generalizing start with
  | nil =>
    cases h
    rfl
  | cons name rest ih =>
    rw [walk] at h
    split at h
    · cases h
    · split at h
      · cases h
      · exact ih h

/-- A path without a slash at its end leads where its steps do. -/
theorem locate_eq_ok_iff (hslash : Path.endsWithSlash path = false) :
    disk.locate path = .ok location ↔
      checkLength path = .ok () ∧ disk.walk (startOf path) (Path.steps path) = .ok location := by
  unfold locate
  rw [hslash]
  cases checkLength path with
  | error fault =>
    constructor
    · intro h
      cases h
    · rintro ⟨h, _⟩
      cases h
  | ok _ =>
    cases disk.walk (startOf path) (Path.steps path) with
    | error fault =>
      constructor
      · intro h
        cases h
      · rintro ⟨_, h⟩
        cases h
    | ok found =>
      exact ⟨fun h => ⟨rfl, h⟩, fun h => h.2⟩

theorem locateForWriting_eq_ok (h : disk.locateForWriting path = .ok location) :
    Path.endsWithSlash path = false ∧ disk.locate path = .ok location ∧
      location = placeOf path := by
  unfold locateForWriting at h
  split at h
  · cases hlength : checkLength path with
    | error fault =>
      rw [hlength] at h
      cases h
    | ok _ =>
      rw [hlength] at h
      dsimp only [bind, Except.bind] at h
      split at h <;> cases h
  · rename_i hslash
    rw [Bool.not_eq_true] at hslash
    exact ⟨hslash, h, walk_eq ((locate_eq_ok_iff hslash).mp h).2⟩

theorem orFail_eq_ok_iff {found : Except DiskFault (List String)} :
    orFail path found = .ok location ↔
      path.toList.contains '\x00' = false ∧ found = .ok location := by
  unfold orFail
  cases path.toList.contains '\x00' with
  | true => simp
  | false => cases found <;> simp [Except.mapError]

theorem writeText_eq (h : disk.writeText path text = .ok after) :
    Path.endsWithSlash path = false ∧ disk.locateOrFail path = .ok (placeOf path) ∧
      disk.takes (placeOf path) = true ∧
      after = disk.put (placeOf path) (.file (encodeUtf8 text.toList)) := by
  unfold writeText writeOctets at h
  cases hlocation : orFail path (disk.locateForWriting path) with
  | error error =>
    rw [hlocation] at h
    cases h
  | ok location =>
    rw [hlocation] at h
    obtain ⟨hnul, hfound⟩ := orFail_eq_ok_iff.mp hlocation
    obtain ⟨hslash, hlocate, rfl⟩ := locateForWriting_eq_ok hfound
    refine ⟨hslash, orFail_eq_ok_iff.mpr ⟨hnul, hlocate⟩, ?_⟩
    dsimp only [bind, Except.bind] at h
    unfold takes
    cases hentry : disk.entryAt (placeOf path) with
    | none =>
      rw [hentry] at h
      cases h
      exact ⟨rfl, rfl⟩
    | some entry =>
      rw [hentry] at h
      cases entry with
      | file octets =>
        cases h
        exact ⟨rfl, rfl⟩
      | directory => cases h
      | closed isFolder => cases isFolder <;> cases h

theorem entryAt_writeText (h : disk.writeText path text = .ok after) (place : List String) :
    after.entryAt place =
      if place = placeOf path then some (.file (encodeUtf8 text.toList))
      else disk.entryAt place := by
  obtain ⟨_, _, hplace, rfl⟩ := writeText_eq h
  exact entryAt_put disk _ hplace place

theorem walk_put {start target : List String} {steps : List String} {entry : DiskEntry}
    (htarget : disk.takes target = true) (h : disk.walk start steps = .ok location) :
    (disk.put target entry).walk start steps = .ok location := by
  induction steps generalizing start with
  | nil => exact h
  | cons name rest ih =>
    rw [walk] at h ⊢
    cases hstart : disk.enter start with
    | error fault =>
      rw [hstart] at h
      cases h
    | ok _ =>
      have hne : start ≠ target := by
        rintro rfl
        exact entryAt_ne_of_takes htarget (enter_eq_ok_iff.mp hstart)
      have hentered : (disk.put target entry).enter start = .ok () := by
        rw [enter_eq_ok_iff, entryAt_put disk entry htarget, if_neg hne]
        exact enter_eq_ok_iff.mp hstart
      rw [hstart] at h
      rw [hentered]
      dsimp only at h ⊢
      split at h
      · cases h
      · rename_i hname
        rw [if_neg hname]
        exact ih h

theorem locateOrFail_put {target : List String} {entry : DiskEntry}
    (htarget : disk.takes target = true) (hslash : Path.endsWithSlash path = false)
    (h : disk.locateOrFail path = .ok location) :
    (disk.put target entry).locateOrFail path = .ok location := by
  obtain ⟨hnul, hlocate⟩ := orFail_eq_ok_iff.mp h
  obtain ⟨hlength, hwalk⟩ := (locate_eq_ok_iff hslash).mp hlocate
  exact orFail_eq_ok_iff.mpr ⟨hnul, (locate_eq_ok_iff hslash).mpr ⟨hlength, walk_put htarget hwalk⟩⟩

/-- What is read from where a text was written is its encoding. -/
theorem readOctets_writeText (h : disk.writeText path text = .ok after) :
    after.readOctets path = .ok (encodeUtf8 text.toList) := by
  have hentry := entryAt_writeText h (placeOf path)
  obtain ⟨hslash, hlocated, hplace, rfl⟩ := writeText_eq h
  rw [if_pos rfl] at hentry
  rw [readOctets, locateOrFail_put hplace hslash hlocated]
  dsimp only [bind, Except.bind]
  rw [hentry]
  rfl

/-- A text without carriage returns is read back from where it was written. -/
theorem readText_writeText (h : disk.writeText path text = .ok after)
    (hreturn : '\r' ∉ text.toList) : after.readText path = .ok text := by
  rw [readText, readOctets_writeText h]
  dsimp only [bind, Except.bind, pure, Except.pure]
  rw [decodeUtf8_encodeUtf8]
  dsimp only [Except.mapError]
  rw [unifyNewlines_eq_self hreturn, String.ofList_toList]

end ScriptStudio.Disk
