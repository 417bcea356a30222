import Mathlib.Data.List.Nodup
import Mathlib.Data.Set.Function
import ScriptStudio.Proofs.FolderPaths
import ScriptStudio.Studio.Explorer

/-!
# The explorer mirrors the directory

After the tree is filled with a folder it has one row for the folder and one for everything below
it, each row stands under the row of the folder around it, and the rows of a folder come in the
order of their paths. What was shown before plays no part.

The rows lie in their list as they are made (`Explorer.Laid`): each row is followed by the rows
below it, with numbers that go on by one. So the rows with a given parent can be read off
(`Explorer.Laid.children`).

* `Disk.Readable.exists_laid_rowsBelow`: the rows that are made are laid so.
* `Explorer.Spans`: rows with their locations that make up the tree of a folder.
* `Explorer.Mirrors`, `Explorer.Spans.mirrors`: such rows show the folder.
-/

namespace ScriptStudio

namespace Explorer

/-! ## How the rows lie -/

/-- Rows with their locations for names in a directory: each name has a row, followed by the rows
for what lies in its location, and numbers go on by one from `next`. -/
inductive Laid (disk : Disk) (pathOf : List String → String) :
    (location names : List String) → (parent next : Nat) → List (List String × Row) → Prop
  | nil {location : List String} {parent next : Nat} : Laid disk pathOf location [] parent next []
  | entry {location names : List String} {name : String} {parent next : Nat} {row : Row}
      {inner later : List (List String × Row)} (hid : row.id = next)
      (hparent : row.parent = some parent) (hpath : row.path = pathOf (location ++ [name]))
      (hinner : Laid disk pathOf (location ++ [name]) (disk.inside (location ++ [name])) next
        (next + 1) inner)
      (hlater : Laid disk pathOf location names parent (next + 1 + inner.length) later) :
      Laid disk pathOf location (name :: names) parent next
        ((location ++ [name], row) :: (inner ++ later))

/-- The locations of the rows with a parent. -/
def childrenOf (id : Nat) (rows : List (List String × Row)) : List (List String) :=
  (rows.filter (·.2.parent == some id)).map Prod.fst

namespace Laid

variable {disk : Disk} {pathOf : List String → String} {location names : List String}
  {parent next : Nat} {rows : List (List String × Row)}

theorem ids (h : Laid disk pathOf location names parent next rows) :
    rows.map (·.2.id) = List.range' next rows.length := by
  induction h with
  | nil => rfl
  | @entry location names name parent next row inner later hid _ _ _ _ hinner hlater =>
    have hlength : (inner ++ later).length = inner.length + later.length := List.length_append
    rw [List.map_cons, List.map_append, hinner, hlater, List.length_cons, hlength,
      List.range'_succ, hid, List.range'_append_1]

theorem path_eq (h : Laid disk pathOf location names parent next rows) :
    ∀ place ∈ rows, place.2.path = pathOf place.1 := by
  induction h with
  | nil => simp
  | entry _ _ hpath _ _ hinner hlater =>
    simp only [List.forall_mem_cons, List.forall_mem_append]
    exact ⟨hpath, hinner, hlater⟩

/-- The rows are those of what lies in the names. -/
theorem mem_iff (h : Laid disk pathOf location names parent next rows) (place : List String) :
    place ∈ rows.map Prod.fst ↔
      ∃ name ∈ names, ∃ rest, place = location ++ name :: rest ∧
        disk.Holds (location ++ [name]) rest := by
  induction h with
  | nil => simp
  | @entry location names name parent next row inner later _ _ _ _ _ hinner hlater =>
    rw [List.map_cons, List.map_append, List.mem_cons, List.mem_append, hinner, hlater]
    constructor
    · rintro (rfl | ⟨below, hbelow, rest, rfl, hrest⟩ | ⟨other, hother, rest, rfl, hrest⟩)
      · exact ⟨name, by simp, [], by simp, trivial⟩
      · obtain ⟨hfolder, hbelow⟩ := Disk.mem_inside.mp hbelow
        exact ⟨name, by simp, below :: rest, by simp, hfolder, hbelow, hrest⟩
      · exact ⟨other, List.mem_cons_of_mem _ hother, rest, rfl, hrest⟩
    · rintro ⟨other, hother, rest, rfl, hrest⟩
      rcases List.mem_cons.mp hother with rfl | hother
      · cases rest with
        | nil => exact .inl rfl
        | cons below rest =>
          have hbelow := Disk.mem_inside.mpr ⟨hrest.1, hrest.2.1⟩
          exact .inr (.inl ⟨below, hbelow, rest, by simp, hrest.2.2⟩)
      · exact .inr (.inr ⟨other, hother, rest, rfl, hrest⟩)

/-- No location has two rows. -/
theorem nodup (h : Laid disk pathOf location names parent next rows) (hnames : names.Nodup)
    (hinside : ∀ name ∈ names, ∀ rest, disk.Holds (location ++ [name]) rest →
      (disk.inside (location ++ name :: rest)).Nodup) :
    (rows.map Prod.fst).Nodup := by
  induction h with
  | nil => exact List.nodup_nil
  | @entry location names name parent next row inner later _ _ _ hrows hmore hinner hlater =>
    rw [List.nodup_cons] at hnames
    have hfirst : (inner.map Prod.fst).Nodup := by
      have hnodup : (disk.inside (location ++ [name])).Nodup := hinside name (by simp) [] trivial
      refine hinner hnodup fun below hbelow rest hrest => ?_
      obtain ⟨hfolder, hbelow⟩ := Disk.mem_inside.mp hbelow
      simpa using hinside name (by simp) (below :: rest) ⟨hfolder, hbelow, hrest⟩
    have hsecond := hlater hnames.2 fun other hother =>
      hinside other (List.mem_cons_of_mem name hother)
    rw [List.map_cons, List.map_append, List.nodup_cons, List.nodup_append]
    refine ⟨fun hmem => ?_, hfirst, hsecond, ?_⟩
    · rcases List.mem_append.mp hmem with hmem | hmem
      · obtain ⟨below, _, rest, heq, _⟩ := (hrows.mem_iff _).mp hmem
        simp at heq
      · obtain ⟨other, hother, rest, heq, _⟩ := (hmore.mem_iff _).mp hmem
        simp only [List.append_cancel_left_eq, List.cons.injEq] at heq
        exact hnames.1 (heq.1 ▸ hother)
    · rintro place hplace _ hother rfl
      obtain ⟨below, _, rest, rfl, _⟩ := (hrows.mem_iff _).mp hplace
      obtain ⟨other, hother, rest', heq, _⟩ := (hmore.mem_iff _).mp hother
      simp only [List.append_assoc, List.append_cancel_left_eq, List.cons_append,
        List.cons.injEq] at heq
      exact hnames.1 (heq.1 ▸ hother)

theorem parent_eq (h : Laid disk pathOf location names parent next rows) :
    ∀ place ∈ rows, place.2.parent = some parent ∨
      ∃ id, place.2.parent = some id ∧ next ≤ id ∧ id < next + rows.length := by
  induction h with
  | nil => simp
  | @entry location names name parent next row inner later hid hparent _ _ _ hinner hlater =>
    simp only [List.forall_mem_cons, List.forall_mem_append, List.length_cons, List.length_append]
    refine ⟨.inl hparent, fun place hplace => ?_, fun place hplace => ?_⟩
    · rcases hinner place hplace with hnext | ⟨id, heq, hle, hlt⟩
      · exact .inr ⟨next, hnext, by omega, by omega⟩
      · exact .inr ⟨id, heq, by omega, by omega⟩
    · rcases hlater place hplace with heq | ⟨id, heq, hle, hlt⟩
      · exact .inl heq
      · exact .inr ⟨id, heq, by omega, by omega⟩

theorem childrenOf_eq_nil (h : Laid disk pathOf location names parent next rows) {id : Nat}
    (hne : id ≠ parent) (hout : id < next ∨ next + rows.length ≤ id) : childrenOf id rows = [] := by
  rw [childrenOf, List.map_eq_nil_iff, List.filter_eq_nil_iff]
  intro place hplace hparent
  have hparent : place.2.parent = some id := by simpa using hparent
  rcases h.parent_eq place hplace with heq | ⟨other, heq, hle, hlt⟩
  · exact hne (Option.some.inj (hparent.symm.trans heq))
  · have := Option.some.inj (hparent.symm.trans heq)
    omega

theorem id_bounds (h : Laid disk pathOf location names parent next rows)
    {place : List String × Row} (hplace : place ∈ rows) :
    next ≤ place.2.id ∧ place.2.id < next + rows.length := by
  have hid : place.2.id ∈ rows.map (·.2.id) := List.mem_map.mpr ⟨place, hplace, rfl⟩
  rw [h.ids, List.mem_range'_1] at hid
  exact hid

/-- The rows under the given parent are those of the names, and the rows under a row are those of
the names in its location. -/
theorem children (h : Laid disk pathOf location names parent next rows) (hlt : parent < next) :
    childrenOf parent rows = names.map (fun name => location ++ [name]) ∧
      ∀ place ∈ rows, childrenOf place.2.id rows =
        (disk.inside place.1).map fun name => place.1 ++ [name] := by
  induction h with
  | nil => simp [childrenOf]
  | @entry location names name parent next row inner later hid hparent _ hrows hmore ih ih' =>
    obtain ⟨hinner, hinners⟩ := ih (by omega)
    obtain ⟨hlater, hlaters⟩ := ih' (by omega)
    have hsplit (id : Nat) : childrenOf id ((location ++ [name], row) :: (inner ++ later)) =
        (if parent = id then [location ++ [name]] else []) ++
          (childrenOf id inner ++ childrenOf id later) := by
      by_cases heq : parent = id <;> simp [childrenOf, hparent, heq]
    refine ⟨?_, ?_⟩
    · rw [hsplit, if_pos rfl, hrows.childrenOf_eq_nil (by omega) (by omega), hlater]
      rfl
    · simp only [List.forall_mem_cons, List.forall_mem_append]
      refine ⟨?_, fun place hplace => ?_, fun place hplace => ?_⟩
      · rw [hsplit, if_neg (by omega), hid, hinner, hmore.childrenOf_eq_nil (by omega) (by omega)]
        simp
      · have hbounds := hrows.id_bounds hplace
        rw [hsplit, if_neg (by omega), hinners place hplace,
          hmore.childrenOf_eq_nil (by omega) (by omega)]
        simp
      · have hbounds := hmore.id_bounds hplace
        rw [hsplit, if_neg (by omega), hrows.childrenOf_eq_nil (by omega) (by omega),
          hlaters place hplace]
        simp

end Laid

end Explorer

/-- The path of a location below a folder at another location. -/
def Disk.pathFrom (root : String) (base location : List String) : String :=
  Path.shownAt root (location.drop base.length)

namespace Disk.Readable

variable {disk : Disk} {root : String} {base suffix : List String}

theorem exists_laid_rowsAmong (h : disk.Readable root base) (icon : String)
    {below : String → Nat → List Row × List String}
    (hbelow : ∀ name, disk.Holds base (suffix ++ [name]) →
      disk.entryAt (base ++ (suffix ++ [name])) = some .directory → ∀ id, ∃ laid,
        Explorer.Laid disk (pathFrom root base) (base ++ (suffix ++ [name]))
          (disk.inside (base ++ (suffix ++ [name]))) id (id + 1) laid ∧
        below (Path.shownAt root (suffix ++ [name])) id = (laid.map Prod.snd, []))
    {names : List String} (hnames : ∀ name ∈ names, disk.Holds base (suffix ++ [name]))
    (hsuffix : disk.Holds base suffix) (parent next : Nat) :
    ∃ laid, Explorer.Laid disk (pathFrom root base) (base ++ suffix) names parent next laid ∧
      Explorer.rowsAmong disk icon below parent (Path.shownAt root suffix) names next =
        (laid.map Prod.snd, []) := by
  induction names generalizing next with
  | nil => exact ⟨[], .nil, rfl⟩
  | cons name rest ih =>
    have hname := hnames name (by simp)
    have hjoin : Path.join (Path.shownAt root suffix) name =
        Path.shownAt root (suffix ++ [name]) := by
      rw [Path.join_shownAt (h.isStep hsuffix) (h.isStep hname name (by simp)),
        Path.shownAt_concat]
    have hlookUp : disk.lookUp (Path.shownAt root (suffix ++ [name])) =
        .ok (disk.entryAt (base ++ (suffix ++ [name]))) := by
      rw [Path.shownAt_concat, h.lookUp_under hname]
    -- what is made for the entry itself, be it a folder or not
    obtain ⟨inner, hinner, hmade⟩ : ∃ inner,
        Explorer.Laid disk (pathFrom root base) (base ++ (suffix ++ [name]))
          (disk.inside (base ++ (suffix ++ [name]))) next (next + 1) inner ∧
        (if disk.entryAt (base ++ (suffix ++ [name])) == some .directory then
          below (Path.shownAt root (suffix ++ [name])) next else ([], [])) =
          (inner.map Prod.snd, []) := by
      by_cases hfolder : disk.entryAt (base ++ (suffix ++ [name])) = some .directory
      · obtain ⟨inner, hinner, hmade⟩ := hbelow name hname hfolder next
        exact ⟨inner, hinner, by simp [hfolder, hmade]⟩
      · refine ⟨[], ?_, by simp [hfolder]⟩
        rw [inside, if_neg hfolder]
        exact .nil
    obtain ⟨later, hlater, hrest⟩ := ih (fun other hother => hnames other (by simp [hother]))
      (next + 1 + inner.length)
    rcases hlabel : Explorer.label icon (Path.shownAt root (suffix ++ [name]))
      (disk.entryAt (base ++ (suffix ++ [name])) == some .directory) with ⟨text, image⟩
    have hpath : Path.shownAt root (suffix ++ [name]) =
        pathFrom root base (base ++ suffix ++ [name]) := by
      simp [pathFrom]
    refine ⟨(base ++ suffix ++ [name],
      ⟨next, some parent, text, image, false, Path.shownAt root (suffix ++ [name])⟩) ::
        (inner ++ later), .entry rfl rfl hpath (by simpa using hinner) hlater, ?_⟩
    rw [Explorer.rowsAmong.eq_def]
    simp only [hjoin, hlookUp, h.any_isFolder hname, hlabel, hmade, List.length_map, hrest,
      List.map_cons, List.map_append, List.append_nil]

theorem exists_laid_rowsBelow (h : disk.Readable root base) (icon : String) {depth : Nat}
    (hsuffix : disk.Holds base suffix)
    (hfolder : disk.entryAt (base ++ suffix) = some .directory)
    (hdepth : disk.depth < (base ++ suffix).length + depth) (id : Nat) :
    ∃ laid, Explorer.Laid disk (pathFrom root base) (base ++ suffix)
        (disk.inside (base ++ suffix)) id (id + 1) laid ∧
      Explorer.rowsBelow disk icon depth (Path.shownAt root suffix) id =
        (laid.map Prod.snd, []) := by
  induction depth generalizing suffix id with
  | zero =>
    rw [inside_eq_nil (by simpa using hdepth)]
    exact ⟨[], .nil, rfl⟩
  | succ depth ih =>
    rw [Explorer.rowsBelow.eq_def]
    simp only [Path.tidy_shownAt (h.isStep hsuffix), h.list_under hsuffix hfolder]
    refine h.exists_laid_rowsAmong icon (fun name hname hbelow => ih hname hbelow ?_)
      (fun name hname => holds_concat.mpr ⟨hsuffix, hname⟩) hsuffix id (id + 1)
    simp only [List.length_append, List.length_singleton] at hdepth ⊢
    omega

end Disk.Readable

/-- The tree shows a folder at a location and all that lies below it: rows and paths belong together
one to one, each row stands under that of the directory around it, and under the row of a directory
stand its entries in the order of their paths. -/
structure Explorer.Mirrors (explorer : Explorer) (disk : Disk) (root : String)
    (base : List String) : Prop where
  ids : (explorer.rows.map Row.id).Nodup
  paths : Set.BijOn Row.path {row | row ∈ explorer.rows}
    {path | ∃ suffix, disk.Holds base suffix ∧ path = Path.shownAt root suffix}
  top : ∀ row ∈ explorer.rows, row.path = root → row.parent = none
  parent : ∀ row ∈ explorer.rows, ∀ suffix name, disk.Holds base (suffix ++ [name]) →
    row.path = Path.shownAt root (suffix ++ [name]) →
    ∃ above ∈ explorer.rows, above.path = Path.shownAt root suffix ∧ row.parent = some above.id
  children : ∀ row ∈ explorer.rows, ∀ suffix, disk.Holds base suffix →
    row.path = Path.shownAt root suffix → disk.entryAt (base ++ suffix) = some .directory →
    ((explorer.rows.filter (·.parent == some row.id)).map Row.path).Perm
        ((disk.namesIn (base ++ suffix)).map fun name => Path.shownAt root (suffix ++ [name])) ∧
      ((explorer.rows.filter (·.parent == some row.id)).map Row.path).Pairwise (· < ·)

/-- Rows with their locations make up the tree of a folder at a location. -/
structure Explorer.Spans (disk : Disk) (root : String) (base : List String)
    (tree : List (List String × Row)) : Prop where
  ids : (tree.map (·.2.id)).Nodup
  nodup : (tree.map Prod.fst).Nodup
  mem_iff : ∀ place, place ∈ tree.map Prod.fst ↔
    ∃ suffix, place = base ++ suffix ∧ disk.Holds base suffix
  path_eq : ∀ place ∈ tree, place.2.path = Disk.pathFrom root base place.1
  top : ∀ row, (base, row) ∈ tree → row.parent = none
  children : ∀ place ∈ tree, childrenOf place.2.id tree =
    (disk.inside place.1).map fun name => place.1 ++ [name]

namespace Disk.Readable

variable {disk : Disk} {root : String} {base : List String}

theorem nodup_inside (h : disk.Readable root base) {suffix : List String}
    (hsuffix : disk.Holds base suffix) : (disk.inside (base ++ suffix)).Nodup :=
  (pairwise_inside (h.distinct suffix hsuffix)).imp ne_of_lt

theorem spans_of_laid (h : disk.Readable root base) {top : Row} {laid : List (List String × Row)}
    (hparent : top.parent = none) (hpath : top.path = root)
    (hlaid : Explorer.Laid disk (pathFrom root base) base (disk.inside base) top.id (top.id + 1)
      laid) :
    Explorer.Spans disk root base ((base, top) :: laid) := by
  have hbase : base ∉ laid.map Prod.fst := by
    intro hmem
    obtain ⟨name, _, rest, heq, _⟩ := (hlaid.mem_iff base).mp hmem
    simp at heq
  obtain ⟨hfirst, hrest⟩ := hlaid.children (by omega)
  have hskip (id : Nat) : Explorer.childrenOf id ((base, top) :: laid) =
      Explorer.childrenOf id laid := by
    simp [Explorer.childrenOf, hparent]
  refine ⟨?_, List.nodup_cons.mpr ⟨hbase, ?_⟩, fun place => ?_, ?_, fun row hrow => ?_, ?_⟩
  · rw [List.map_cons, hlaid.ids, ← List.range'_succ]
    exact List.nodup_range'
  · have hempty : disk.Holds base [] := trivial
    refine hlaid.nodup (by simpa using h.nodup_inside hempty) fun name hname rest hrest => ?_
    obtain ⟨hfolder, hname⟩ := mem_inside.mp hname
    have hholds : disk.Holds base (name :: rest) := ⟨hfolder, hname, hrest⟩
    exact h.nodup_inside hholds
  · rw [List.map_cons, List.mem_cons, hlaid.mem_iff]
    constructor
    · rintro (rfl | ⟨name, hname, rest, rfl, hrest⟩)
      · exact ⟨[], by simp, trivial⟩
      · obtain ⟨hfolder, hname⟩ := mem_inside.mp hname
        exact ⟨name :: rest, rfl, hfolder, hname, hrest⟩
    · rintro ⟨suffix, rfl, hsuffix⟩
      cases suffix with
      | nil => exact .inl (by simp)
      | cons name rest =>
        exact .inr ⟨name, mem_inside.mpr ⟨hsuffix.1, hsuffix.2.1⟩, rest, rfl, hsuffix.2.2⟩
  · rw [List.forall_mem_cons]
    exact ⟨by simp [hpath, pathFrom, Path.shownAt], hlaid.path_eq⟩
  · rcases List.mem_cons.mp hrow with heq | hmem
    · cases heq
      exact hparent
    · exact absurd (List.mem_map.mpr ⟨_, hmem, rfl⟩) hbase
  · rw [List.forall_mem_cons]
    exact ⟨by rw [hskip, hfirst], fun place hplace => by rw [hskip, hrest place hplace]⟩

end Disk.Readable

namespace Explorer.Spans

variable {disk : Disk} {root : String} {base : List String} {tree : List (List String × Row)}

variable {row : Row} {suffix : List String}

theorem row_eq (h : Spans disk root base tree) {place : List String} {other : Row}
    (hrow : (place, row) ∈ tree) (hother : (place, other) ∈ tree) : row = other :=
  congrArg Prod.snd (List.inj_on_of_nodup_map h.nodup hrow hother rfl)

theorem exists_row (h : Spans disk root base tree) (hsuffix : disk.Holds base suffix) :
    ∃ row, (base ++ suffix, row) ∈ tree := by
  obtain ⟨⟨place, row⟩, hrow, rfl⟩ := List.mem_map.mp ((h.mem_iff _).mpr ⟨suffix, rfl, hsuffix⟩)
  exact ⟨row, hrow⟩

theorem path_of_mem (h : Spans disk root base tree) (hrow : (base ++ suffix, row) ∈ tree) :
    row.path = Path.shownAt root suffix := by
  simpa [Disk.pathFrom] using h.path_eq _ hrow

theorem exists_suffix (h : Spans disk root base tree) (hrow : row ∈ tree.map Prod.snd) :
    ∃ suffix, disk.Holds base suffix ∧ (base ++ suffix, row) ∈ tree := by
  obtain ⟨⟨place, row⟩, hmem, rfl⟩ := List.mem_map.mp hrow
  obtain ⟨suffix, rfl, hsuffix⟩ := (h.mem_iff place).mp (List.mem_map.mpr ⟨_, hmem, rfl⟩)
  exact ⟨suffix, hsuffix, hmem⟩

theorem mem_of_path (h : Spans disk root base tree) (hreadable : disk.Readable root base)
    (hsuffix : disk.Holds base suffix) (hrow : row ∈ tree.map Prod.snd)
    (hpath : row.path = Path.shownAt root suffix) : (base ++ suffix, row) ∈ tree := by
  obtain ⟨other, hother, hrow⟩ := h.exists_suffix hrow
  have heq : other = suffix := Path.shownAt_inj (hreadable.isStep hother) (hreadable.isStep hsuffix)
    ((h.path_of_mem hrow).symm.trans hpath)
  exact heq ▸ hrow

theorem bijOn (h : Spans disk root base tree) (hreadable : disk.Readable root base) :
    Set.BijOn Row.path {row | row ∈ tree.map Prod.snd}
      {path | ∃ suffix, disk.Holds base suffix ∧ path = Path.shownAt root suffix} := by
  refine ⟨fun row hrow => ?_, fun row hrow other hother heq => ?_, ?_⟩
  · obtain ⟨suffix, hsuffix, hmem⟩ := h.exists_suffix hrow
    exact ⟨suffix, hsuffix, h.path_of_mem hmem⟩
  · obtain ⟨suffix, hsuffix, hmem⟩ := h.exists_suffix hrow
    have hpath : other.path = Path.shownAt root suffix := heq.symm.trans (h.path_of_mem hmem)
    exact h.row_eq hmem (h.mem_of_path hreadable hsuffix hother hpath)
  · rintro path ⟨suffix, hsuffix, rfl⟩
    obtain ⟨row, hrow⟩ := h.exists_row hsuffix
    exact ⟨row, List.mem_map.mpr ⟨_, hrow, rfl⟩, h.path_of_mem hrow⟩

theorem parent_of_concat (h : Spans disk root base tree) {name : String}
    (hsuffix : disk.Holds base (suffix ++ [name]))
    (hrow : (base ++ (suffix ++ [name]), row) ∈ tree) :
    ∃ above, (base ++ suffix, above) ∈ tree ∧ row.parent = some above.id := by
  obtain ⟨hsuffix, hname⟩ := Disk.holds_concat.mp hsuffix
  obtain ⟨above, habove⟩ := h.exists_row hsuffix
  have hchild : base ++ suffix ++ [name] ∈ childrenOf above.id tree := by
    rw [h.children _ habove]
    exact List.mem_map.mpr ⟨name, hname, rfl⟩
  obtain ⟨⟨place, child⟩, hchild, rfl⟩ := List.mem_map.mp hchild
  obtain ⟨hmem, hparent⟩ := List.mem_filter.mp hchild
  rw [← List.append_assoc] at hrow
  exact ⟨above, habove, h.row_eq hmem hrow ▸ by simpa using hparent⟩

theorem paths_of_parent (h : Spans disk root base tree) (hrow : (base ++ suffix, row) ∈ tree) :
    (((tree.map Prod.snd).filter (·.parent == some row.id)).map Row.path) =
      (disk.inside (base ++ suffix)).map fun name => Path.shownAt root (suffix ++ [name]) := by
  have hpaths : ((tree.map Prod.snd).filter (·.parent == some row.id)).map Row.path =
      (childrenOf row.id tree).map (Disk.pathFrom root base) := by
    rw [childrenOf, List.filter_map, List.map_map, List.map_map]
    exact List.map_congr_left fun place hplace => h.path_eq place (List.mem_of_mem_filter hplace)
  rw [hpaths, h.children _ hrow, List.map_map]
  simp [Function.comp_def, Disk.pathFrom]

/-- A tree that a folder's rows make up mirrors the folder. -/
theorem mirrors (h : Spans disk root base tree) (hreadable : disk.Readable root base)
    {explorer : Explorer} (hrows : explorer.rows = tree.map Prod.snd) :
    explorer.Mirrors disk root base := by
  constructor <;> rw [hrows]
  · rw [List.map_map]
    exact h.ids
  · exact h.bijOn hreadable
  · intro row hrow hpath
    have hempty : disk.Holds base [] := trivial
    have hmem := h.mem_of_path hreadable hempty hrow (by simpa [Path.shownAt] using hpath)
    exact h.top row (by simpa using hmem)
  · intro row hrow suffix name hsuffix hpath
    have hmem := h.mem_of_path hreadable hsuffix hrow hpath
    obtain ⟨above, habove, hparent⟩ := h.parent_of_concat hsuffix hmem
    exact ⟨above, List.mem_map.mpr ⟨_, habove, rfl⟩, h.path_of_mem habove, hparent⟩
  · intro row hrow suffix hsuffix hpath hfolder
    rw [h.paths_of_parent (h.mem_of_path hreadable hsuffix hrow hpath)]
    constructor
    · rw [Disk.inside, if_pos hfolder]
      exact (List.mergeSort_perm _ _).map _
    · rw [List.pairwise_map]
      exact (Disk.pairwise_inside (hreadable.distinct suffix hsuffix)).imp Path.shownAt_lt

end Explorer.Spans

/-- Filling the tree with a folder that can be gone through makes it mirror the folder, whatever it
showed before, with rows of new numbers only, and nothing is printed about folders. -/
theorem Site.populate_mirrors (site : Site) {root : String} {base : List String}
    (h : site.disk.Readable root base) :
    ∃ after, Site.populate root site = .ok () after ∧ after.disk = site.disk ∧
      after.screen = site.screen ∧ after.explorer.root = some root ∧
      after.explorer.Mirrors site.disk root base ∧
      ∀ row ∈ after.explorer.rows, site.explorer.nextId ≤ row.id := by
  have hempty : site.disk.Holds base [] := trivial
  have hdepth : site.disk.depth < (base ++ []).length + (site.disk.depth + 1) := by omega
  obtain ⟨laid, hlaid, hbelow⟩ := h.exists_laid_rowsBelow site.explorer.icon hempty
    (by simpa using h.folder) hdepth site.explorer.nextId
  rw [List.append_nil] at hlaid
  let top : Row := ⟨site.explorer.nextId, none, "🗂️ " ++ Path.baseName root, "", true, root⟩
  have hrows : Explorer.rowsOf site.disk site.explorer.icon root site.explorer.nextId =
      (((base, top) :: laid).map Prod.snd, []) := by
    rw [Path.shownAt, if_pos rfl] at hbelow
    simp only [Explorer.rowsOf, hbelow]
    rfl
  have hspans : Explorer.Spans site.disk root base ((base, top) :: laid) :=
    h.spans_of_laid rfl rfl hlaid
  refine ⟨_, rfl, rfl, ?_, rfl, hspans.mirrors h ?_, ?_⟩
  · simp [Explorer.complaints, hrows]
  · simp only [Explorer.filled, hrows]
  · simp only [Explorer.filled, hrows]
    intro row hrow
    obtain ⟨place, hplace, rfl⟩ := List.mem_map.mp hrow
    rcases List.mem_cons.mp hplace with rfl | hplace
    · exact le_rfl
    · have := hlaid.id_bounds hplace
      omega

/-- A folder with a file and a folder of its own, beside a file, where the tree shows that file. -/
def Site.shelf : Site where
  disk := ⟨[(["old.doro"], .file []), (["shelf"], .directory), (["shelf", "b"], .directory),
    (["shelf", "a.doro"], .file []), (["shelf", "b", "a.doro"], .file [])]⟩
  explorer := { rows := [⟨7, none, "📄 old.doro", "", false, "old.doro"⟩], nextId := 8 }

theorem Site.readable_shelf : Site.shelf.disk.Readable "./shelf/" ["shelf"] := by
  have hholds : ∀ suffix, Site.shelf.disk.Holds ["shelf"] suffix →
      suffix ∈ [[], ["b"], ["a.doro"], ["b", "a.doro"]] := by
    have hshelf : Site.shelf.disk.namesIn ["shelf"] = ["b", "a.doro"] := by decide +kernel
    have hb : Site.shelf.disk.namesIn (["shelf"] ++ ["b"]) = ["a.doro"] := by decide +kernel
    have hfile : ∀ location ∈ [["shelf", "a.doro"], ["shelf", "b", "a.doro"]],
        Site.shelf.disk.entryAt location ≠ some .directory := by decide +kernel
    rintro (_ | ⟨first, rest⟩) h
    · decide
    obtain ⟨-, hfirst, h⟩ := h
    rw [hshelf] at hfirst
    rcases List.mem_pair.mp hfirst with rfl | rfl
    · rcases rest with _ | ⟨second, rest⟩
      · decide
      obtain ⟨-, hsecond, h⟩ := h
      rw [hb] at hsecond
      obtain rfl := List.mem_singleton.mp hsecond
      rcases rest with _ | ⟨third, rest⟩
      · decide
      · exact absurd h.1 (hfile _ (by decide))
    · rcases rest with _ | ⟨second, rest⟩
      · decide
      · exact absurd h.1 (hfile _ (by decide))
  have hname : ∀ name ∈ ["b", "a.doro"], Disk.IsName name := by
    rw [List.forall_mem_cons, List.forall_mem_singleton]
    exact ⟨⟨⟨by decide, by decide, by decide⟩, by decide, by decide⟩,
      ⟨⟨by decide, by decide, by decide⟩, by decide, by decide⟩⟩
  have hall : ∀ suffix ∈ [[], ["b"], ["a.doro"], ["b", "a.doro"]],
      Site.shelf.disk.entryAt (["shelf"] ++ suffix) ≠ some (.closed true) ∧
        (∀ name ∈ suffix, name ∈ ["b", "a.doro"]) ∧
        (Site.shelf.disk.namesIn (["shelf"] ++ suffix)).Nodup ∧
        '\x00' ∉ (Path.under "./shelf/" suffix).toList ∧
        (Path.under "./shelf/" suffix).utf8ByteSize < 4096 := by decide +kernel
  exact ⟨rfl, by decide +kernel, fun suffix h => (hall suffix (hholds suffix h)).1,
    fun suffix h name hmem => hname name ((hall suffix (hholds suffix h)).2.1 name hmem),
    fun suffix h => (hall suffix (hholds suffix h)).2.2.1,
    fun suffix h => (hall suffix (hholds suffix h)).2.2.2⟩

/-- The file inside has a row, and the row that was shown before is gone. -/
theorem Site.populate_mirrors_shelf :
    Site.shelf.disk.Readable "./shelf/" ["shelf"] ∧
      ∃ after, Site.populate "./shelf/" Site.shelf = .ok () after ∧
        after.explorer.Mirrors Site.shelf.disk "./shelf/" ["shelf"] ∧
        (∃ row ∈ after.explorer.rows, row.path = "shelf/b/a.doro") ∧
        ∀ row ∈ after.explorer.rows, 8 ≤ row.id := by
  obtain ⟨after, hpopulate, -, -, -, hmirrors, hnew⟩ :=
    Site.populate_mirrors Site.shelf Site.readable_shelf
  have hholds : Site.shelf.disk.Holds ["shelf"] ["b", "a.doro"] :=
    ⟨by decide +kernel, by decide +kernel, by decide +kernel, by decide +kernel, trivial⟩
  obtain ⟨row, hrow, hpath⟩ := hmirrors.paths.surjOn ⟨["b", "a.doro"], hholds, rfl⟩
  exact ⟨Site.readable_shelf, after, hpopulate, hmirrors, ⟨row, hrow, hpath⟩, hnew⟩

end ScriptStudio
