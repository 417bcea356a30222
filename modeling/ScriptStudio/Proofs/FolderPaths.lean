import Mathlib.Data.String.Basic
import ScriptStudio.Proofs.TextFiles

/-!
# The paths of what lies below a folder

What lies below a folder is said about locations: `Disk.Holds` follows names from directory to
directory. A tree shows paths. This module goes from the one to the other.

* `Path.steps_ofNames`, `Path.names_ofNames`: a path that is made of names has these names.
* `Path.shownAt`: the path of names below a folder. Different names have different paths
  (`Path.shownAt_inj`), and in one folder the paths come in the order of the names
  (`Path.shownAt_lt`).
* `Disk.Readable`: a folder that can be gone through.
* `Disk.Readable.locateOrFail_under`: the path of what lies below such a folder leads to it.
-/

namespace ScriptStudio

namespace Path

/-! ## Paths made of names -/

/-- A text that is one step of a path and not a single dot. -/
structure IsStep (name : String) : Prop where
  ne_empty : name ≠ ""
  ne_dot : name ≠ "."
  no_slash : '/' ∉ name.toList

theorem no_slash_of_mem_pieces {path piece : String} (h : piece ∈ pieces path) :
    '/' ∉ piece.toList := by
  have hsplit (chars : List Char) :
      ∀ part ∈ chars.splitOnP (· == '/'), '/' ∉ part := by
    induction chars with
    | nil => simp
    | cons c rest ih =>
      rw [List.splitOnP_cons_eq_if_modifyHead]
      split
      · simpa using ih
      · next hc =>
        cases hrest : rest.splitOnP (· == '/') with
        | nil => simp
        | cons first more =>
          rw [hrest] at ih
          simp only [List.modifyHead_cons, List.forall_mem_cons] at ih ⊢
          refine ⟨fun hmem => ?_, ih.2⟩
          rcases List.mem_cons.mp hmem with rfl | hmem
          · exact hc rfl
          · exact ih.1 hmem
  obtain ⟨part, hpart, rfl⟩ := List.mem_map.mp h
  rw [String.toList_ofList]
  exact hsplit _ part hpart

theorem isStep_of_mem_names {path name : String} (h : name ∈ names path) : IsStep name := by
  rw [names, List.mem_filter, steps, List.mem_filter] at h
  exact ⟨by simpa using h.1.2, by simpa using h.2, no_slash_of_mem_pieces h.1.1⟩

section

variable {lead : Nat} {ns : List String} {name : String}

theorem steps_intercalate (h : ∀ name ∈ ns, IsStep name) : steps ("/".intercalate ns) = ns := by
  have hsteps : ns.filter (· != "") = ns := by
    simpa [List.filter_eq_self] using fun name hname => (h name hname).ne_empty
  by_cases hne : ns = []
  · subst hne
    rfl
  · have hslash : ∀ part ∈ ns.map String.toList, '/' ∉ part := by
      simpa using fun name hname => (h name hname).no_slash
    have hparts : ns.map String.toList ≠ [] := by simpa using hne
    have hsplit := List.splitOn_intercalate '/' hslash hparts
    rw [steps, pieces, String.toList_intercalate]
    rw [List.splitOn_eq_splitOnP] at hsplit
    simpa [hsplit, Function.comp_def] using hsteps

theorem steps_slash (path : String) : steps ("/" ++ path) = steps path := by
  have hsplit : ('/' :: path.toList).splitOnP (· == '/') =
      [] :: path.toList.splitOnP (· == '/') := by
    rw [List.splitOnP_cons_eq_if_modifyHead]
    rfl
  simp [steps, pieces, hsplit]

theorem steps_replicate (count : Nat) (path : String) :
    steps (String.ofList (List.replicate count '/') ++ path) = steps path := by
  induction count with
  | zero => simp
  | succ count ih =>
    have hslash : String.ofList (List.replicate (count + 1) '/') =
        "/" ++ String.ofList (List.replicate count '/') := by
      rw [List.replicate_succ, String.ofList_cons]
      rfl
    rw [hslash, String.append_assoc, steps_slash, ih]

theorem ofNames_of_ne (h : ¬(lead = 0 ∧ ns = [])) :
    ofNames lead ns = String.ofList (List.replicate lead '/') ++ "/".intercalate ns := by
  rw [ofNames, if_neg (by simpa using h)]

/-- The steps of a text of names are the names. No names are the working directory. -/
theorem steps_ofNames (h : ∀ name ∈ ns, IsStep name) :
    steps (ofNames lead ns) = if lead = 0 ∧ ns = [] then ["."] else ns := by
  split
  · next hempty =>
    obtain ⟨rfl, rfl⟩ := hempty
    decide
  · next hne => rw [ofNames_of_ne hne, steps_replicate, steps_intercalate h]

theorem names_ofNames (h : ∀ name ∈ ns, IsStep name) : names (ofNames lead ns) = ns := by
  rw [names, steps_ofNames h]
  split
  · next hempty => simp [hempty.2]
  · simpa [List.filter_eq_self] using fun name hname => (h name hname).ne_dot

theorem IsStep.head_ne (h : IsStep name) : name.toList.head? ≠ some '/' :=
  fun hhead => h.no_slash (List.mem_of_mem_head? hhead)

theorem IsStep.isAbsolute (h : IsStep name) : isAbsolute name = false := by
  simpa [Path.isAbsolute] using h.head_ne

theorem IsStep.names_eq (h : IsStep name) : names name = [name] := by
  have hsteps : steps name = [name] := by
    have hone : ∀ other ∈ [name], IsStep other := by simpa using h
    simpa using steps_intercalate hone
  simp [names, hsteps, h.ne_dot]

theorem exists_ofNames_concat (lead : Nat) (ns : List String) :
    ∃ front, ∀ name, ofNames lead (ns ++ [name]) = front ++ name := by
  obtain ⟨front, hfront⟩ : ∃ front, ∀ name, "/".intercalate (ns ++ [name]) = front ++ name := by
    by_cases hne : ns = []
    · exact ⟨"", fun name => by simp [hne]⟩
    · refine ⟨"/".intercalate ns ++ "/", fun name => ?_⟩
      rw [String.intercalate_append_of_ne_nil hne (by simp), String.intercalate_singleton]
  refine ⟨String.ofList (List.replicate lead '/') ++ front, fun name => ?_⟩
  rw [ofNames_of_ne (by simp), hfront, String.append_assoc]

theorem head?_intercalate_ne (h : ∀ name ∈ ns, IsStep name) :
    ("/".intercalate ns).toList.head? ≠ some '/' := by
  cases ns with
  | nil => simp
  | cons first rest =>
    have hfirst := h first (by simp)
    obtain ⟨c, cs, hc⟩ : ∃ c cs, first.toList = c :: cs :=
      List.exists_cons_of_ne_nil (by simpa using hfirst.ne_empty)
    have hhead : c ≠ '/' := by simpa [hc] using hfirst.head_ne
    cases rest <;> simp [hc, hhead, String.intercalate_cons_cons]

theorem takeWhile_ofNames (h : ∀ name ∈ ns, IsStep name) :
    (ofNames lead ns).toList.takeWhile (· == '/') = List.replicate lead '/' := by
  by_cases hempty : lead = 0 ∧ ns = []
  · obtain ⟨rfl, rfl⟩ := hempty
    decide
  · have hjoined : ("/".intercalate ns).toList.takeWhile (· == '/') = [] := by
      have hhead := head?_intercalate_ne h
      cases hchars : ("/".intercalate ns).toList with
      | nil => rfl
      | cons c cs =>
        rw [hchars] at hhead
        exact List.takeWhile_cons_of_neg (by simpa using hhead)
    rw [ofNames_of_ne hempty, String.toList_append, String.toList_ofList,
      List.takeWhile_append_of_pos (by simp), hjoined, List.append_nil]

theorem slashes_ofNames (h : ∀ name ∈ ns, IsStep name) (hlead : lead ≤ 2) :
    slashes (ofNames lead ns) = lead := by
  rw [slashes, takeWhile_ofNames h, List.length_replicate, if_pos hlead]

theorem isAbsolute_ofNames (h : ∀ name ∈ ns, IsStep name) :
    isAbsolute (ofNames lead ns) = (lead != 0) := by
  have htake : (ofNames lead ns).toList.takeWhile (· == '/') = List.replicate lead '/' :=
    takeWhile_ofNames h
  rw [isAbsolute]
  cases hchars : (ofNames lead ns).toList with
  | nil =>
    rw [hchars] at htake
    cases lead with
    | zero => rfl
    | succ lead => cases htake
  | cons c cs =>
    rw [hchars, List.takeWhile_cons] at htake
    cases lead with
    | zero =>
      split at htake
      · cases htake
      · next hc => simpa using hc
    | succ lead =>
      split at htake
      · next hc => simpa using hc
      · cases htake

theorem ofNames_ne_empty (lead : Nat) (h : ∀ name ∈ ns, IsStep name) : ofNames lead ns ≠ "" := by
  intro hempty
  have hsteps : steps (ofNames lead ns) = if lead = 0 ∧ ns = [] then ["."] else ns :=
    steps_ofNames h
  have hhead : isAbsolute (ofNames lead ns) = (lead != 0) := isAbsolute_ofNames h
  rw [hempty, show steps "" = [] by decide] at hsteps
  rw [hempty, show isAbsolute "" = false by decide] at hhead
  split at hsteps
  · cases hsteps
  · next hne => exact hne ⟨by simpa using hhead.symm, hsteps.symm⟩

theorem endsWithSlash_ofNames_concat (h : IsStep name) :
    endsWithSlash (ofNames lead (ns ++ [name])) = false := by
  obtain ⟨front, hfront⟩ := exists_ofNames_concat lead ns
  have hlast : name.toList.getLast? ≠ some '/' :=
    fun hlast => h.no_slash (List.mem_of_getLast? hlast)
  have hne : name.toList ≠ [] := by simpa using h.ne_empty
  rw [endsWithSlash, hfront, String.toList_append, List.getLast?_append_of_ne_nil _ hne]
  simpa using hlast

end

/-- The tidy path of names below a folder. -/
def under (folder : String) (suffix : List String) : String :=
  ofNames (slashes folder) (names folder ++ suffix)

/-- The path of names below a folder as the tree shows it. The folder itself is shown as it was
given. -/
def shownAt (folder : String) (suffix : List String) : String :=
  if suffix = [] then folder else under folder suffix

section

variable {folder name : String} {suffix : List String}

theorem isStep_of_mem_append (h : ∀ name ∈ suffix, IsStep name) :
    ∀ name ∈ names folder ++ suffix, IsStep name := by
  intro name hname
  rcases List.mem_append.mp hname with hname | hname
  · exact isStep_of_mem_names hname
  · exact h name hname

theorem names_shownAt (h : ∀ name ∈ suffix, IsStep name) :
    names (shownAt folder suffix) = names folder ++ suffix := by
  rw [shownAt]
  split
  · next hempty => simp [hempty]
  · exact names_ofNames (isStep_of_mem_append h)

theorem slashes_shownAt (h : ∀ name ∈ suffix, IsStep name) :
    slashes (shownAt folder suffix) = slashes folder := by
  rw [shownAt]
  split
  · rfl
  · refine slashes_ofNames (isStep_of_mem_append h) ?_
    dsimp only [slashes]
    split <;> omega

theorem tidy_shownAt (h : ∀ name ∈ suffix, IsStep name) :
    tidy (shownAt folder suffix) = under folder suffix := by
  rw [tidy, names_shownAt h, slashes_shownAt h, under]

theorem join_shownAt (h : ∀ name ∈ suffix, IsStep name) (hname : IsStep name) :
    join (shownAt folder suffix) name = under folder (suffix ++ [name]) := by
  simp [join, hname.isAbsolute, hname.names_eq, names_shownAt h, slashes_shownAt h, under]

theorem shownAt_concat : shownAt folder (suffix ++ [name]) = under folder (suffix ++ [name]) := by
  simp [shownAt]

/-- What lies below a folder has paths of its own. -/
theorem shownAt_inj {other : List String} (h : ∀ name ∈ suffix, IsStep name)
    (hother : ∀ name ∈ other, IsStep name) (heq : shownAt folder suffix = shownAt folder other) :
    suffix = other := by
  have hnames := congrArg names heq
  rw [names_shownAt h, names_shownAt hother] at hnames
  exact List.append_cancel_left hnames

/-- In one folder the paths come in the order of the names. -/
theorem shownAt_lt {later : String} (h : name < later) :
    shownAt folder (suffix ++ [name]) < shownAt folder (suffix ++ [later]) := by
  obtain ⟨front, hfront⟩ := exists_ofNames_concat (slashes folder) (names folder ++ suffix)
  simp only [shownAt_concat, under, ← List.append_assoc, hfront]
  rw [String.lt_iff_toList_lt] at h ⊢
  simpa using List.append_left_lt h

end

end Path

namespace Disk

/-! ## What lies below a folder -/

/-- From a location, names lead from directory to directory to something that lies there. -/
def Holds (disk : Disk) (location : List String) : List String → Prop
  | [] => True
  | name :: rest =>
    disk.entryAt location = some .directory ∧ name ∈ disk.namesIn location ∧
      disk.Holds (location ++ [name]) rest

/-- The names in a directory in their order. In a file there are none. -/
def inside (disk : Disk) (location : List String) : List String :=
  if disk.entryAt location = some .directory then
    (disk.namesIn location).mergeSort fun a b => !(b < a)
  else []

/-- A name that the system gives to an entry. -/
structure IsName (name : String) : Prop extends Path.IsStep name where
  ne_dots : name ≠ ".."
  short : name.utf8ByteSize ≤ 255

/-- A folder can be gone through: its path leads to a directory, no directory below it is closed or
has two entries of one name, and the system takes the paths of all that lies below it. -/
structure Readable (disk : Disk) (root : String) (base : List String) : Prop where
  located : disk.locateOrFail (Path.tidy root) = .ok base
  folder : disk.entryAt base = some .directory
  opened : ∀ suffix, disk.Holds base suffix → disk.entryAt (base ++ suffix) ≠ some (.closed true)
  isName : ∀ suffix, disk.Holds base suffix → ∀ name ∈ suffix, IsName name
  distinct : ∀ suffix, disk.Holds base suffix → (disk.namesIn (base ++ suffix)).Nodup
  taken : ∀ suffix, disk.Holds base suffix →
    '\x00' ∉ (Path.under root suffix).toList ∧ (Path.under root suffix).utf8ByteSize < 4096

section

variable {disk : Disk} {location : List String} {name : String}

theorem mem_inside :
    name ∈ disk.inside location ↔
      disk.entryAt location = some .directory ∧ name ∈ disk.namesIn location := by
  by_cases h : disk.entryAt location = some .directory <;> simp [inside, h]

variable {suffix : List String}

theorem holds_append {rest : List String} :
    disk.Holds location (suffix ++ rest) ↔
      disk.Holds location suffix ∧ disk.Holds (location ++ suffix) rest := by
  induction suffix generalizing location with
  | nil => simp [Holds]
  | cons name more ih => simp [Holds, ih, and_assoc]

theorem holds_concat :
    disk.Holds location (suffix ++ [name]) ↔
      disk.Holds location suffix ∧ name ∈ disk.inside (location ++ suffix) := by
  simp [holds_append, Holds, mem_inside]

theorem pairwise_inside (h : (disk.namesIn location).Nodup) :
    (disk.inside location).Pairwise (· < ·) := by
  rw [inside]
  split
  · have hsorted : ((disk.namesIn location).mergeSort fun a b => !(b < a)).Pairwise
        fun a b => (!decide (b < a)) = true := by
      apply List.pairwise_mergeSort
      · simp only [Bool.not_eq_true', decide_eq_false_iff_not, not_lt]
        exact fun a b c => le_trans
      · simp only [Bool.or_eq_true, Bool.not_eq_true', decide_eq_false_iff_not, not_lt]
        exact le_total
    have hnodup := (List.mergeSort_perm (disk.namesIn location) fun a b => !(b < a)).nodup_iff.mpr h
    refine (hsorted.and hnodup).imp fun {a b} hab => ?_
    simp only [Bool.not_eq_true', decide_eq_false_iff_not, not_lt] at hab
    exact lt_of_le_of_ne hab.1 hab.2
  · exact List.Pairwise.nil

theorem inside_eq_nil (h : disk.depth < location.length) : disk.inside location = [] := by
  have hlength : ∀ entry ∈ disk.entries, entry.1.length ≤ disk.depth := by
    rw [depth]
    generalize disk.entries = entries
    induction entries with
    | nil => simp
    | cons first rest ih => grind
  refine List.eq_nil_iff_forall_not_mem.mpr fun name hname => ?_
  obtain ⟨entry, hentry, hname⟩ := List.mem_filterMap.mp (mem_inside.mp hname).2
  have := hlength entry hentry
  split at hname
  · next hplace =>
    simp only [Bool.and_eq_true, decide_eq_true_eq] at hplace
    omega
  · cases hname

/-! ## Following the paths -/

theorem walk_append (start front back : List String) :
    disk.walk start (front ++ back) =
      (disk.walk start front).bind fun found => disk.walk found back := by
  induction front generalizing start with
  | nil => rfl
  | cons name rest ih =>
    simp only [List.cons_append, walk]
    split
    · rfl
    · split
      · rfl
      · exact ih _

theorem walk_of_holds (h : disk.Holds location suffix) (hnames : ∀ name ∈ suffix, IsName name) :
    disk.walk location suffix = .ok (location ++ suffix) := by
  induction suffix generalizing location with
  | nil => simp [walk]
  | cons name rest ih =>
    have hname := hnames name (by simp)
    have hstep : step location name = location ++ [name] := by
      simp [step, hname.ne_dot, hname.ne_dots]
    have hrest := ih h.2.2 fun other hother => hnames other (List.mem_cons_of_mem name hother)
    simpa [walk, enter_eq_ok_iff.mpr h.1, hname.short.not_gt, hstep] using hrest

/-- A text of names is followed along the names. -/
theorem walk_ofNames {lead : Nat} {ns : List String} (h : ∀ name ∈ ns, Path.IsStep name) :
    disk.walk (startOf (Path.ofNames lead ns)) (Path.steps (Path.ofNames lead ns)) =
      disk.walk (if lead != 0 then root else []) ns := by
  rw [startOf, Path.isAbsolute_ofNames h, Path.steps_ofNames h]
  by_cases hempty : lead = 0 ∧ ns = []
  · have hdot : ¬255 < ".".utf8ByteSize := by decide
    simp [hempty, walk, enter, entryAt, isAbove, step, hdot]
  · rw [if_neg hempty]

theorem walk_of_locate {path : String} (h : disk.locate path = .ok location) :
    disk.walk (startOf path) (Path.steps path) = .ok location := by
  unfold locate at h
  cases hlength : checkLength path with
  | error fault =>
    rw [hlength] at h
    cases h
  | ok _ =>
    rw [hlength] at h
    cases hwalk : disk.walk (startOf path) (Path.steps path) with
    | error fault =>
      rw [hwalk] at h
      cases h
    | ok found =>
      rw [hwalk] at h
      simp only [bind, Except.bind] at h
      split at h
      · cases h
      · exact h

theorem locate_of_walk {path : String} (hlength : checkLength path = .ok ())
    (hwalk : disk.walk (startOf path) (Path.steps path) = .ok location)
    (hslash : Path.endsWithSlash path = false ∨ disk.entryAt location = some .directory) :
    disk.locate path = .ok location := by
  rcases hslash with hslash | hfolder
  · exact (locate_eq_ok_iff hslash).mpr ⟨hlength, hwalk⟩
  · unfold locate
    simp only [hlength, hwalk, bind, Except.bind, hfolder]
    cases Path.endsWithSlash path <;> rfl

namespace Readable

variable {root icon : String} {base suffix : List String}

theorem isStep (h : disk.Readable root base) (hsuffix : disk.Holds base suffix) :
    ∀ name ∈ suffix, Path.IsStep name :=
  fun name hname => (h.isName suffix hsuffix name hname).toIsStep

/-- The path of what lies below a folder leads to it. -/
theorem locateOrFail_under (h : disk.Readable root base) (hsuffix : disk.Holds base suffix) :
    disk.locateOrFail (Path.under root suffix) = .ok (base ++ suffix) := by
  obtain ⟨hnul, hsize⟩ := h.taken suffix hsuffix
  have hsteps := h.isStep hsuffix
  have hbase : disk.walk (if Path.slashes root != 0 then Disk.root else []) (Path.names root) =
      .ok base := by
    have hlocated := h.located
    rw [locateOrFail, orFail] at hlocated
    split at hlocated
    · cases hlocated
    · cases hfound : disk.locate (Path.tidy root) with
      | error fault =>
        rw [hfound] at hlocated
        cases hlocated
      | ok found =>
        rw [hfound] at hlocated
        cases hlocated
        rw [← walk_ofNames fun name => Path.isStep_of_mem_names]
        exact walk_of_locate hfound
  have hwalk : disk.walk (startOf (Path.under root suffix)) (Path.steps (Path.under root suffix)) =
      .ok (base ++ suffix) := by
    rw [Path.under, walk_ofNames (Path.isStep_of_mem_append hsteps), walk_append, hbase]
    exact walk_of_holds hsuffix (h.isName suffix hsuffix)
  have hlength : checkLength (Path.under root suffix) = .ok () := by
    have hempty : Path.under root suffix ≠ "" :=
      Path.ofNames_ne_empty _ (Path.isStep_of_mem_append hsteps)
    simp [checkLength, hempty, hsize.not_ge]
  have hslash : Path.endsWithSlash (Path.under root suffix) = false ∨
      disk.entryAt (base ++ suffix) = some .directory := by
    rcases List.eq_nil_or_concat suffix with rfl | ⟨front, name, rfl⟩
    · exact .inr (by simpa using h.folder)
    · left
      rw [List.concat_eq_append] at hsteps ⊢
      rw [Path.under, ← List.append_assoc]
      exact Path.endsWithSlash_ofNames_concat (hsteps name (by simp))
  simp [locateOrFail, orFail, hnul, locate_of_walk hlength hwalk hslash, Except.mapError]

theorem lookUp_under (h : disk.Readable root base) (hsuffix : disk.Holds base suffix) :
    disk.lookUp (Path.under root suffix) = .ok (disk.entryAt (base ++ suffix)) := by
  rw [lookUp, h.locateOrFail_under hsuffix]

theorem any_isFolder (h : disk.Readable root base) (hsuffix : disk.Holds base suffix) :
    (disk.entryAt (base ++ suffix)).any DiskEntry.isFolder =
      (disk.entryAt (base ++ suffix) == some .directory) := by
  have hopened := h.opened suffix hsuffix
  cases hentry : disk.entryAt (base ++ suffix) with
  | none => rfl
  | some entry =>
    rw [hentry] at hopened
    cases entry with
    | file octets => rfl
    | directory => rfl
    | closed isFolder =>
      cases isFolder with
      | false => rfl
      | true => exact absurd rfl hopened

theorem list_under (h : disk.Readable root base) (hsuffix : disk.Holds base suffix)
    (hfolder : disk.entryAt (base ++ suffix) = some .directory) :
    disk.list (Path.under root suffix) = .ok (disk.inside (base ++ suffix)) := by
  simp only [list, h.locateOrFail_under hsuffix, bind, Except.bind, enter_eq_ok_iff.mpr hfolder,
    Except.mapError, inside, hfolder, if_true]
  rfl

end Readable

end

end Disk

end ScriptStudio
