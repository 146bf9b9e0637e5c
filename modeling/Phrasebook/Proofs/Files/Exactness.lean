import Phrasebook.Proofs.Files.Discovery
import Phrasebook.Proofs.Files.Steps

/-!
# Which files are found

In a tree without links the files that are found are the discoverable ones: those that names of which none is hidden lead to
from a source directory, and that the filter keeps (`mem_found_iff`). Their paths ascend strictly. A file is found once if
the source directories are spelled alike, since then its place determines the steps of every path to it
(`same_iff_of_discoverable`); a source directory with a point in front beside one without is enough for a file to be found twice.
-/

namespace Phrasebook

open FileSystem Entry Phrasebook.Path

variable {fs : FileSystem} {tree : Entry} {root p p' r : Path} {dir : String} {dirs dirs' names pieces : List String}
  {q q' d place : Place} {filter : FileFilter} {follow : Bool} {links : Nat}

/-! ## Trees without links -/

/-- No entry of the tree is a link. -/
def HasNoLinks (tree : Entry) : Prop := ∀ place target, tree.at? place ≠ some (.link target)

mutual

/-- Are there no links in the entry? -/
def Entry.isLinkless : Entry → Bool
  | .file _ => true
  | .link _ => false
  | .directory entries => areLinkless entries

/-- Are there no links in the entries? -/
def Entry.areLinkless : List (String × Entry) → Bool
  | [] => true
  | (_, e) :: entries => e.isLinkless && areLinkless entries

end

theorem Entry.isLinkless_of_mem {entries : List (String × Entry)} {pair : String × Entry}
    (h : areLinkless entries = true) (hpair : pair ∈ entries) : pair.2.isLinkless = true := by
  induction entries with
  | nil => cases hpair
  | cons first entries ih =>
    obtain ⟨hfirst, hentries⟩ := Bool.and_eq_true_iff.mp h
    rcases List.mem_cons.mp hpair with rfl | hpair
    · exact hfirst
    · exact ih hentries hpair

theorem hasNoLinks_of_isLinkless (h : tree.isLinkless = true) : HasNoLinks tree := by
  intro place target hplace
  induction place generalizing tree with
  | nil =>
    obtain rfl := Option.some.inj hplace
    cases h
  | cons name place ih =>
    obtain ⟨child, hchild, hrest⟩ := Option.bind_eq_some_iff.mp hplace
    obtain ⟨entries, rfl⟩ := eq_directory_of_child? hchild
    exact ih (isLinkless_of_mem h (OrderedMap.mem_of_find hchild)) hrest

/-- Without links, pieces without a step up lead down by those of them that count. -/
theorem FileSystem.Leads.eq_of_hasNoLinks (h : Leads tree follow links place pieces q) (hlinks : HasNoLinks tree)
    (hup : ".." ∉ pieces) : q = place ++ pieces.filter counts := by
  induction h with
  | done => rw [List.filter_nil, List.append_nil]
  | stay hdir hpiece _ ih =>
    rw [List.filter_cons_of_neg (by rcases hpiece with rfl | rfl <;> decide)]
    exact ih fun h => hup (List.mem_cons_of_mem _ h)
  | up => exact absurd List.mem_cons_self hup
  | down hdir hpiece _ _ _ ih =>
    rw [List.filter_cons_of_pos (by simpa [counts] using hpiece.1), ih fun h => hup (List.mem_cons_of_mem _ h),
      List.append_assoc]
    rfl
  | new hdir hpiece => rw [List.filter_cons_of_pos (by simpa [counts] using hpiece.1), List.filter_nil]
  | stop _ _ _ hlink => exact absurd hlink (hlinks _ _)
  | link _ _ hlink => exact absurd hlink (hlinks _ _)

/-! ## Leaving out what is repeated -/

namespace Discover

variable {p : Path} {paths : List Path}

/-- Without repetitions ascending paths ascend strictly. -/
theorem pairwise_dropRepeated (h : paths.Pairwise fun p q => p.le q = true) : (dropRepeated paths).Pairwise Before := by
  fun_induction dropRepeated paths with
  | case1 => exact .nil
  | case2 => exact List.pairwise_singleton ..
  | case3 p q paths hsame ih =>
    obtain ⟨hp, hrest⟩ := List.pairwise_cons.mp h
    obtain ⟨-, hpaths⟩ := List.pairwise_cons.mp hrest
    exact ih (List.pairwise_cons.mpr ⟨fun r hr => hp r (List.mem_cons_of_mem _ hr), hpaths⟩)
  | case4 p q paths hne ih =>
    obtain ⟨hp, hrest⟩ := List.pairwise_cons.mp h
    obtain ⟨hq, -⟩ := List.pairwise_cons.mp hrest
    have hpq : p.Before q := ⟨hp q List.mem_cons_self, by simpa using hne⟩
    refine List.pairwise_cons.mpr ⟨fun r hr => ?_, ih hrest⟩
    rcases List.mem_cons.mp (mem_of_mem_dropRepeated hr) with rfl | hr
    · exact hpq
    · exact before_of_before_of_le hpq (hq r hr)

/-- Of every path that is left out one is kept that is the same. -/
theorem exists_same_of_mem (h : p ∈ paths) : ∃ q ∈ dropRepeated paths, q.components = p.components := by
  fun_induction dropRepeated paths generalizing p with
  | case1 => cases h
  | case2 q => exact ⟨q, List.mem_singleton_self q, by rw [List.mem_singleton.mp h]⟩
  | case3 q r paths hsame ih =>
    rcases List.mem_cons.mp h with rfl | h
    · exact ih List.mem_cons_self
    · rcases List.mem_cons.mp h with rfl | h
      · obtain ⟨kept, hkept, heq⟩ := ih List.mem_cons_self
        exact ⟨kept, hkept, heq.trans (same_iff.mp hsame)⟩
      · exact ih (List.mem_cons_of_mem _ h)
  | case4 q r paths hne ih =>
    rcases List.mem_cons.mp h with rfl | h
    · exact ⟨p, List.mem_cons_self, rfl⟩
    · obtain ⟨kept, hkept, heq⟩ := ih h
      exact ⟨kept, List.mem_cons_of_mem _ hkept, heq⟩

/-! ## Discoverable files -/

/-- The source directory is a plain path, without wildcards and without a step up. -/
def IsLiteral (dir : String) : Prop := Glob.hasWildcard dir = false ∧ ".." ∉ piecesOf dir

/-- The paths of the source directories; the root where none are configured. -/
def rootsOf (root : Path) (dirs : List String) : List Path := if dirs = [] then [root] else dirs.map root.join

theorem mem_rootsOf_iff : r ∈ rootsOf root dirs ↔ dirs = [] ∧ r = root ∨ ∃ dir ∈ dirs, r = root.join dir := by
  unfold rootsOf
  split
  · next hnil => simp [hnil]
  · next hne => simp [hne, eq_comm]

/-- The path leads on from a source directory, by names of which none begins with a point, to the file at the place. -/
def ReachedFrom (fs : FileSystem) (r p : Path) (q : Place) : Prop :=
  ∃ d names content, fs.placeOf? r = some d ∧ (∀ name ∈ names, name.toList.head? ≠ some '.') ∧
    p = names.foldl Path.join r ∧ q = d ++ names ∧ fs.tree.at? q = some (.file content)

/-- The path leads from a source directory to the file at the place, and the filter keeps it. -/
structure Discoverable (fs : FileSystem) (root : Path) (filter : FileFilter) (p : Path) (q : Place) : Prop where
  reached : ∃ r ∈ rootsOf root filter.sourceDirs, ReachedFrom fs r p q
  notIgnored : ∀ text ∈ filter.ignores, ∀ glob, Glob.read? text = some glob →
    Glob.matchesText glob (p.relativeTo root) = false ∧ Glob.matchesText glob p.text = false
  wanted : filter.extensions = [] ∨ "*" ∈ filter.extensions ∨
    ∃ e ∈ filter.extensions, p.extension? = some (plainExtension e)

/-- The files below a source directory are those that are reached from it. -/
theorem mem_filesBelow?_iff (hproper : fs.tree.isProper = true) (hlinks : HasNoLinks fs.tree) :
    p ∈ (filesBelow? fs r).getD [] ↔ ∃ q, ReachedFrom fs r p q := by
  have hhidden : ∀ names : List String, (∀ name ∈ names, isHidden name = false) ↔
      ∀ name ∈ names, name.toList.head? ≠ some '.' := fun _ => by simp [isHidden]
  constructor
  · intro h
    cases hfiles : filesBelow? fs r with
    | none => rw [hfiles] at h; cases h
    | some files =>
      rw [hfiles] at h
      obtain ⟨d, e, hd, he, hmem, -⟩ := exists_of_filesBelow? hfiles h
      obtain ⟨names, content, hnames, rfl, hfile⟩ := (mem_filesIn_iff e r (isProper_at? hproper he)).mp hmem
      refine ⟨d ++ names, d, names, content, placeOf?_eq_some_iff.mpr hd, (hhidden names).mp hnames, rfl, rfl, ?_⟩
      rw [at?_append, he]
      exact hfile
  · rintro ⟨q, d, names, content, hd, hnames, rfl, rfl, hfile⟩
    rw [at?_append] at hfile
    obtain ⟨e, he, hbelowFile⟩ := Option.bind_eq_some_iff.mp hfile
    obtain ⟨hfollowable, hleads⟩ := placeOf?_eq_some_iff.mp hd
    -- the directory is reached without following a last link, since there is none
    obtain ⟨d', hd', hsome⟩ := hleads.unfollowed (Option.isSome_of_eq_some he)
    obtain rfl : d' = d := (leads_followed hd' fun t => hlinks d' t).unique hleads
    have hentry := entryItself?_eq_some_iff.mpr ⟨d', ⟨hfollowable, hd'⟩, he⟩
    have hbelow : filesBelow? fs r = some (filesIn r e) := by
      unfold filesBelow?
      rw [hentry]
      cases e with
      | link t => exact absurd he (hlinks d' t)
      | file | directory => rfl
    rw [hbelow]
    exact (mem_filesIn_iff e r (isProper_at? hproper he)).mpr ⟨names, content, (hhidden names).mpr hnames, rfl, hbelowFile⟩

/-- Where the path to a file that is reached can be followed, it leads there. -/
theorem ReachedFrom.placeOf?_eq (hproper : fs.tree.isProper = true) (h : ReachedFrom fs r p q)
    (hp : fs.placeOf? p = some q') : q' = q := by
  obtain ⟨d, names, content, hd, -, rfl, rfl, hfile⟩ := h
  exact eq_of_leadsTo_foldl_join (fun name hname => isEntryName_of_mem hproper hfile (List.mem_append_right _ hname))
    (placeOf?_eq_some_iff.mp hd).2 hfile nofun (placeOf?_eq_some_iff.mp hp).2

theorem mem_ignoreGlobs_iff {glob : List Glob.Token} {texts : List String} :
    glob ∈ (ignoreGlobs texts).value ↔ ∃ text ∈ texts, Glob.read? text = some glob := by
  induction texts with
  | nil => simp [ignoreGlobs]
  | cons text texts ih =>
    rw [ignoreGlobs]
    cases h : Glob.read? text with
    | none => simp [ih, h]
    | some first => simp [ih, h, eq_comm]

theorem isIgnored_eq_false_iff {texts : List String} : isIgnored root (ignoreGlobs texts).value p = false ↔
    ∀ text ∈ texts, ∀ glob, Glob.read? text = some glob →
      Glob.matchesText glob (p.relativeTo root) = false ∧ Glob.matchesText glob p.text = false := by
  simp only [isIgnored, List.any_eq_false, Bool.or_eq_true, not_or, Bool.not_eq_true, mem_ignoreGlobs_iff]
  exact ⟨fun h text htext glob hglob => h glob ⟨text, htext, hglob⟩,
    fun h glob ⟨text, htext, hglob⟩ => h text htext glob hglob⟩

theorem hasExtension_iff {extensions : List String} : hasExtension extensions p = true ↔
    extensions = [] ∨ "*" ∈ extensions ∨ ∃ e ∈ extensions, p.extension? = some (plainExtension e) := by
  simp only [hasExtension, Bool.or_eq_true, List.isEmpty_iff, List.contains_iff_mem, or_assoc]
  cases p.extension? with
  | none => simp
  | some extension =>
    simp only [Option.any_some, List.any_eq_true, beq_iff_eq, Option.some_inj]
    simp only [eq_comm]

/-- Literal source directories stand for themselves, as far as they are there. -/
theorem value_allSourceRoots (hdirs : ∀ dir ∈ dirs, IsLiteral dir) : (allSourceRoots fs root dirs).value =
    if dirs = [] then [root] else (rootsOf root dirs).filter fs.exists? := by
  unfold allSourceRoots rootsOf
  by_cases hnil : dirs = []
  · simp [hnil]
  · simp only [List.isEmpty_iff, hnil, if_false, Logged.value_bind, Logged.value_pure, Logged.value_mapM]
    clear hnil
    induction dirs with
    | nil => rfl
    | cons dir dirs ih =>
      rw [List.map_cons, List.flatten_cons, List.map_cons, ih fun x hx => hdirs x (List.mem_cons_of_mem _ hx),
        value_sourceRoots, (hdirs dir List.mem_cons_self).1, List.filter_cons]
      cases fs.exists? (root.join dir) <;> rfl

/-- The files that are kept of all source directories. -/
def found (fs : FileSystem) (root : Path) (filter : FileFilter) : List Path :=
  (allSourceRoots fs root filter.sourceDirs).value.flatMap (keptFiles fs root filter)

/-- The files that are kept of all source directories are the discoverable ones. -/
theorem mem_found_iff (hproper : fs.tree.isProper = true) (hlinks : HasNoLinks fs.tree)
    (hdirs : ∀ dir ∈ filter.sourceDirs, IsLiteral dir) :
    p ∈ found fs root filter ↔ ∃ q, Discoverable fs root filter p q := by
  have hroots : found fs root filter = (rootsOf root filter.sourceDirs).flatMap (keptFiles fs root filter) := by
    rw [found, value_allSourceRoots hdirs]
    split
    · next hnil => rw [rootsOf, if_pos hnil]
    · exact flatMap_filter_eq fun r _ => files_keptBelow_of_missing root _ _
  have hkept : ∀ r, p ∈ keptFiles fs root filter r ↔ (∃ q, ReachedFrom fs r p q) ∧
      hasExtension filter.extensions p = true ∧ isIgnored root (ignoreGlobs filter.ignores).value p = false := by
    intro r
    have hfilter : p ∈ ((filesBelow? fs r).map (·.filter (hasExtension filter.extensions))).getD [] ↔
        p ∈ (filesBelow? fs r).getD [] ∧ hasExtension filter.extensions p = true := by
      cases filesBelow? fs r <;> simp
    rw [keptFiles, files_keptBelow, List.mem_filter, hfilter, mem_filesBelow?_iff hproper hlinks, Bool.not_eq_true',
      and_assoc]
  rw [hroots, List.mem_flatMap]
  simp only [hkept, hasExtension_iff, isIgnored_eq_false_iff]
  constructor
  · rintro ⟨r, hr, ⟨q, hreached⟩, hwanted, hignored⟩
    exact ⟨q, ⟨r, hr, hreached⟩, hignored, hwanted⟩
  · rintro ⟨q, ⟨r, hr, hreached⟩, hignored, hwanted⟩
    exact ⟨r, hr, ⟨q, hreached⟩, hwanted, hignored⟩

theorem files_discover_eq_found (fs : FileSystem) (root : Path) (filter : FileFilter) :
    (discover fs root filter).value.files = dropRepeated ((found fs root filter).mergeSort Path.le) :=
  files_discover_eq fs root filter

theorem mem_found_of_mem_discover (h : p ∈ (discover fs root filter).value.files) : p ∈ found fs root filter := by
  rw [files_discover_eq_found] at h
  exact List.mem_mergeSort.mp (mem_of_mem_dropRepeated h)

theorem exists_mem_discover (h : p ∈ found fs root filter) :
    ∃ kept ∈ (discover fs root filter).value.files, kept.components = p.components := by
  rw [files_discover_eq_found]
  exact exists_same_of_mem (List.mem_mergeSort.mpr h)

/-- The paths that are found ascend strictly. -/
theorem pairwise_discover (fs : FileSystem) (root : Path) (filter : FileFilter) :
    (discover fs root filter).value.files.Pairwise Before := by
  rw [files_discover_eq_found]
  have htrans : ∀ p q r : Path, p.le q = true → q.le r = true → p.le r = true := fun _ _ _ => Path.le_trans
  exact pairwise_dropRepeated (List.pairwise_mergeSort htrans Path.le_total _)

/-- If the same paths are kept up to their spelling, the same are found. -/
theorem map_components_discover_eq {filter' : FileFilter}
    (h : ∀ p ∈ found fs root filter, ∃ p' ∈ found fs root filter', p'.components = p.components)
    (h' : ∀ p' ∈ found fs root filter', ∃ p ∈ found fs root filter, p.components = p'.components) :
    (discover fs root filter).value.files.map components = (discover fs root filter').value.files.map components := by
  have hmem : ∀ filter steps, steps ∈ (discover fs root filter).value.files.map components ↔
      ∃ p ∈ found fs root filter, p.components = steps := by
    intro filter steps
    rw [List.mem_map]
    constructor
    · rintro ⟨p, hp, rfl⟩
      exact ⟨p, mem_found_of_mem_discover hp, rfl⟩
    · rintro ⟨p, hp, rfl⟩
      exact exists_mem_discover hp
  refine map_components_eq (pairwise_discover ..) (pairwise_discover ..) fun steps => ?_
  rw [hmem, hmem]
  constructor
  · rintro ⟨p, hp, rfl⟩
    exact h p hp
  · rintro ⟨p, hp, rfl⟩
    exact h' p hp

/-! ## Spelling and places -/

/-- The source directories are spelled alike: all below a root that is not empty, or all absolute and without steps up, or
all of them without a point in front below an empty root. -/
inductive SpelledAlike (root : Path) (dirs : List String) : Prop where
  | below (hroot : root.text ≠ "") (hdirs : ∀ dir ∈ dirs, dir.toList.head? ≠ some '/')
  | absolute (hroot : root.text.toList.head? = some '/') (hup : ".." ∉ piecesOf root.text)
  | plain (hroot : root.text = "") (hne : dirs ≠ [])
      (hdirs : ∀ dir ∈ dirs, dir.toList.head? ≠ some '/' ∧ (piecesOf dir).head? ≠ some ".")

/-- Wherever the path leads, the same names come behind the base of steps and behind the base of places. -/
def FromBase (fs : FileSystem) (steps : List Component) (base : Place) (r : Path) : Prop :=
  ∀ d, fs.LeadsTo true r d → ∃ names, r.components = steps ++ names.map Component.name ∧ d = base ++ names

/-- An absolute path without steps up goes by names from the top of the tree. -/
theorem fromBase_of_absolute (hlinks : HasNoLinks fs.tree) (hr : r.text.toList.head? = some '/') (hup : ".." ∉ piecesOf r.text) :
    FromBase fs [.root] [] r := by
  intro d hd
  refine ⟨(piecesOf r.text).filter counts, ?_, ?_⟩
  · rw [components_eq_pieces, lead_spelling, if_pos hr, filterMap_stepOf? hup]
    rfl
  · have h := Leads.eq_of_hasNoLinks hd hlinks hup
    rwa [startOf, if_pos hr] at h

/-- A relative path without a point in front and without steps up goes by names from the current directory. -/
theorem fromBase_of_plain (hlinks : HasNoLinks fs.tree) (hr : r.text.toList.head? ≠ some '/')
    (hpoint : (piecesOf r.text).head? ≠ some ".") (hup : ".." ∉ piecesOf r.text) : FromBase fs [] fs.current r := by
  intro d hd
  refine ⟨(piecesOf r.text).filter counts, ?_, ?_⟩
  · rw [components_eq_pieces, lead_spelling, if_neg hr, if_neg hpoint, filterMap_stepOf? hup]
    rfl
  · have h := Leads.eq_of_hasNoLinks hd hlinks hup
    rwa [startOf, if_neg hr] at h

/-- Below a root that is not empty, relative paths without steps up go by names from the root. -/
theorem exists_fromBase_join (hlinks : HasNoLinks fs.tree) (hroot : root.text ≠ "") :
    ∃ base, FromBase fs root.components base root ∧
      ∀ dir : String, dir.toList.head? ≠ some '/' → ".." ∉ piecesOf dir → FromBase fs root.components base (root.join dir) := by
  obtain ⟨base, hbase⟩ : ∃ base, ∀ d, fs.LeadsTo true root d → d = base := by
    by_cases h : ∃ d, fs.LeadsTo true root d
    · obtain ⟨base, hbase⟩ := h
      exact ⟨base, fun d hd => hd.unique hbase⟩
    · exact ⟨[], fun d hd => absurd ⟨d, hd⟩ h⟩
  refine ⟨base, fun d hd => ⟨[], by simp, by rw [List.append_nil, hbase d hd]⟩, fun dir hdir hup d hd => ?_⟩
  obtain ⟨left, d', hd', -, hrest⟩ := LeadsTo.of_join hdir hd
  refine ⟨(piecesOf dir).filter counts, ?_, ?_⟩
  · rw [components_join hroot hdir, filterMap_stepOf? hup]
  · rw [hrest.eq_of_hasNoLinks hlinks hup, hbase d' hd']

/-- What is joined to an absolute path without steps up is one too, if it has no step up. -/
theorem absolute_join (hroot : root.text.toList.head? = some '/') (hup : ".." ∉ piecesOf root.text)
    (hdir : ".." ∉ piecesOf dir) :
    (root.join dir).text.toList.head? = some '/' ∧ ".." ∉ piecesOf (root.join dir).text := by
  by_cases habsolute : dir.toList.head? = some '/'
  · rw [Path.join, if_pos habsolute]
    exact ⟨habsolute, hdir⟩
  · obtain ⟨a, hjoin, hpieces, -⟩ := piecesOf_join root habsolute
    refine ⟨(head?_join root habsolute).mpr hroot, ?_⟩
    rw [hjoin, List.mem_append, not_or]
    refine ⟨fun ha => hup ?_, hdir⟩
    rcases hpieces with h | h
    · exact h ▸ ha
    · exact h ▸ List.mem_append_left _ ha

/-- Where source directories are spelled alike, all of them go by names from one base. -/
theorem exists_base (hlinks : HasNoLinks fs.tree) (root : Path) : ∃ (steps : List Component) (base : Place),
    ∀ dirs, SpelledAlike root dirs → (∀ dir ∈ dirs, ".." ∉ piecesOf dir) → ∀ r ∈ rootsOf root dirs,
      FromBase fs steps base r := by
  by_cases hempty : root.text = ""
  · refine ⟨[], fs.current, fun dirs halike hups r hr => ?_⟩
    cases halike with
    | below hroot => exact absurd hempty hroot
    | absolute hroot => rw [hempty] at hroot; cases hroot
    | plain _ hne hdirs =>
      obtain ⟨dir, hdir, rfl⟩ := (mem_rootsOf_iff.mp hr).resolve_left fun h => hne h.1
      obtain ⟨hrelative, hpoint⟩ := hdirs dir hdir
      have hjoin : root.join dir = ⟨dir⟩ := by
        rw [Path.join, if_neg hrelative, if_pos (.inl hempty), hempty, String.empty_append]
      exact hjoin ▸ fromBase_of_plain hlinks hrelative hpoint (hups dir hdir)
  by_cases habsolute : root.text.toList.head? = some '/' ∧ ".." ∉ piecesOf root.text
  · refine ⟨[.root], [], fun dirs _ hups r hr => ?_⟩
    obtain ⟨-, rfl⟩ | ⟨dir, hdir, rfl⟩ := mem_rootsOf_iff.mp hr
    · exact fromBase_of_absolute hlinks habsolute.1 habsolute.2
    · obtain ⟨hjoined, hup⟩ := absolute_join habsolute.1 habsolute.2 (hups dir hdir)
      exact fromBase_of_absolute hlinks hjoined hup
  · obtain ⟨base, hbase, hjoin⟩ := exists_fromBase_join hlinks hempty
    refine ⟨root.components, base, fun dirs halike hups r hr => ?_⟩
    cases halike with
    | absolute hroot hup => exact absurd ⟨hroot, hup⟩ habsolute
    | plain hroot => exact absurd hroot hempty
    | below _ hdirs =>
      obtain ⟨-, rfl⟩ | ⟨dir, hdir, rfl⟩ := mem_rootsOf_iff.mp hr
      · exact hbase
      · exact hjoin dir (hdirs dir hdir) (hups dir hdir)

/-- If the source directories are spelled alike, the place of a discoverable file determines its steps. -/
theorem exists_base_discoverable (hproper : fs.tree.isProper = true) (hlinks : HasNoLinks fs.tree) (root : Path) :
    ∃ (steps : List Component) (base : Place), ∀ filter : FileFilter, SpelledAlike root filter.sourceDirs →
      (∀ dir ∈ filter.sourceDirs, IsLiteral dir) → ∀ p q, Discoverable fs root filter p q →
        ∃ names, p.components = steps ++ names.map Component.name ∧ q = base ++ names := by
  obtain ⟨steps, base, hbase⟩ := exists_base hlinks root
  refine ⟨steps, base, fun filter halike hdirs p q h => ?_⟩
  obtain ⟨r, hr, d, names, content, hplace, -, rfl, rfl, hfile⟩ := h.reached
  obtain ⟨hfollowable, hd⟩ := placeOf?_eq_some_iff.mp hplace
  obtain ⟨front, hsteps, rfl⟩ := hbase _ halike (fun dir hdir => (hdirs dir hdir).2) r hr d hd
  have hnames : ∀ name ∈ names, isEntryName name = true := fun name hname =>
    isEntryName_of_mem hproper hfile (List.mem_append_right _ hname)
  exact ⟨front ++ names, by rw [components_foldl_join hfollowable.1 hnames, hsteps, List.map_append, List.append_assoc],
    List.append_assoc ..⟩

/-- Paths to discoverable files are the same up to their spelling exactly if they lead to the same place. -/
theorem same_iff_of_discoverable {filter' : FileFilter} (hproper : fs.tree.isProper = true) (hlinks : HasNoLinks fs.tree)
    (halike : SpelledAlike root filter.sourceDirs) (hdirs : ∀ dir ∈ filter.sourceDirs, IsLiteral dir)
    (halike' : SpelledAlike root filter'.sourceDirs) (hdirs' : ∀ dir ∈ filter'.sourceDirs, IsLiteral dir)
    (h : Discoverable fs root filter p q) (h' : Discoverable fs root filter' p' q') :
    p.components = p'.components ↔ q = q' := by
  obtain ⟨steps, base, hbase⟩ := exists_base_discoverable hproper hlinks root
  obtain ⟨names, hsteps, rfl⟩ := hbase filter halike hdirs p q h
  obtain ⟨names', hsteps', rfl⟩ := hbase filter' halike' hdirs' p' q' h'
  rw [hsteps, hsteps', List.append_cancel_left_eq, List.append_cancel_left_eq]
  exact (List.map_injective_iff.mpr fun _ _ => Component.name.inj).eq_iff

/-- Every path that is found leads to a place of its own, and every discoverable file is at one of these. -/
theorem exists_places (hproper : fs.tree.isProper = true) (hlinks : HasNoLinks fs.tree)
    (hdirs : ∀ dir ∈ filter.sourceDirs, IsLiteral dir) (halike : SpelledAlike root filter.sourceDirs) :
    ∃ place : Path → Place, (∀ p ∈ (discover fs root filter).value.files, Discoverable fs root filter p (place p)) ∧
      ((discover fs root filter).value.files.map place).Nodup ∧
      ∀ q, q ∈ (discover fs root filter).value.files.map place ↔ ∃ p, Discoverable fs root filter p q := by
  have hleads : ∀ p ∈ (discover fs root filter).value.files, ∃ q, Discoverable fs root filter p q := fun p hp =>
    (mem_found_iff hproper hlinks hdirs).mp (mem_found_of_mem_discover hp)
  choose! place hplace using hleads
  have hsame : ∀ {p p' q q'}, Discoverable fs root filter p q → Discoverable fs root filter p' q' →
      (p.components = p'.components ↔ q = q') := same_iff_of_discoverable hproper hlinks halike hdirs halike hdirs
  refine ⟨place, hplace, ?_, fun q => ⟨fun hq => ?_, fun ⟨p, hp⟩ => ?_⟩⟩
  · refine List.pairwise_map.mpr ((pairwise_discover fs root filter).imp_of_mem fun {p p'} hp hp' hbefore heq => ?_)
    exact Bool.eq_false_iff.mp hbefore.2 (same_iff.mpr ((hsame (hplace p hp) (hplace p' hp')).mpr heq))
  · obtain ⟨p, hp, rfl⟩ := List.mem_map.mp hq
    exact ⟨p, hplace p hp⟩
  · obtain ⟨kept, hkept, hsteps⟩ := exists_mem_discover ((mem_found_iff hproper hlinks hdirs).mpr ⟨q, hp⟩)
    exact List.mem_map.mpr ⟨kept, hkept, (hsame (hplace kept hkept) hp).mp hsteps⟩

/-- Source directories that make the same files discoverable find the same paths, up to their spelling. -/
theorem map_components_discover_eq_of_discoverable {filter' : FileFilter} (hproper : fs.tree.isProper = true)
    (hlinks : HasNoLinks fs.tree) (hdirs : ∀ dir ∈ filter.sourceDirs, IsLiteral dir)
    (halike : SpelledAlike root filter.sourceDirs) (hdirs' : ∀ dir ∈ filter'.sourceDirs, IsLiteral dir)
    (halike' : SpelledAlike root filter'.sourceDirs)
    (hsame : ∀ q, (∃ p, Discoverable fs root filter p q) ↔ ∃ p, Discoverable fs root filter' p q) :
    (discover fs root filter).value.files.map components = (discover fs root filter').value.files.map components := by
  refine map_components_discover_eq (fun p hp => ?_) fun p hp => ?_
  · obtain ⟨q, hq⟩ := (mem_found_iff hproper hlinks hdirs).mp hp
    obtain ⟨p', hp'⟩ := (hsame q).mp ⟨p, hq⟩
    exact ⟨p', (mem_found_iff hproper hlinks hdirs').mpr ⟨q, hp'⟩,
      (same_iff_of_discoverable hproper hlinks halike' hdirs' halike hdirs hp' hq).mpr rfl⟩
  · obtain ⟨q, hq⟩ := (mem_found_iff hproper hlinks hdirs').mp hp
    obtain ⟨p', hp'⟩ := (hsame q).mpr ⟨p, hq⟩
    exact ⟨p', (mem_found_iff hproper hlinks hdirs).mpr ⟨q, hp'⟩,
      (same_iff_of_discoverable hproper hlinks halike hdirs halike' hdirs' hp' hq).mpr rfl⟩

/-- The order of the source directories and their repetitions do not matter for what is discoverable. -/
theorem discoverable_congr (hmem : ∀ dir, dir ∈ dirs' ↔ dir ∈ filter.sourceDirs) :
    Discoverable fs root { filter with sourceDirs := dirs' } p q ↔ Discoverable fs root filter p q := by
  have hroots : ∀ r, r ∈ rootsOf root dirs' ↔ r ∈ rootsOf root filter.sourceDirs := by
    simp only [mem_rootsOf_iff, List.eq_nil_iff_forall_not_mem, hmem, implies_true]
  exact ⟨fun ⟨⟨r, hr, hreached⟩, hignored, hwanted⟩ => ⟨⟨r, (hroots r).mp hr, hreached⟩, hignored, hwanted⟩,
    fun ⟨⟨r, hr, hreached⟩, hignored, hwanted⟩ => ⟨⟨r, (hroots r).mpr hr, hreached⟩, hignored, hwanted⟩⟩

/-- The files that are found are exactly the discoverable ones, each once and in strictly ascending order, whatever the order
of the source directories, their repetitions and what they have in common. -/
theorem discover_exact (hproper : fs.tree.isProper = true) (hlinks : HasNoLinks fs.tree)
    (hdirs : ∀ dir ∈ filter.sourceDirs, IsLiteral dir) (halike : SpelledAlike root filter.sourceDirs) :
    (discover fs root filter).value.files.Pairwise Before ∧
      (∃ place : Path → Place, (∀ p ∈ (discover fs root filter).value.files, Discoverable fs root filter p (place p)) ∧
        ((discover fs root filter).value.files.map place).Nodup ∧
        ∀ q, q ∈ (discover fs root filter).value.files.map place ↔ ∃ p, Discoverable fs root filter p q) ∧
      (∀ dirs', (∀ dir, dir ∈ dirs' ↔ dir ∈ filter.sourceDirs) →
        (discover fs root { filter with sourceDirs := dirs' }).value.files.map components =
          (discover fs root filter).value.files.map components) ∧
      ∀ dirs', (∀ dir ∈ dirs', IsLiteral dir) → SpelledAlike root dirs' →
        (∀ q, (∃ p, Discoverable fs root { filter with sourceDirs := dirs' } p q) ↔
          ∃ p, Discoverable fs root filter p q) →
        (discover fs root { filter with sourceDirs := dirs' }).value.files.map components =
          (discover fs root filter).value.files.map components := by
  refine ⟨pairwise_discover fs root filter, exists_places hproper hlinks hdirs halike, fun dirs' hmem => ?_,
    fun dirs' hdirs' halike' hsame =>
      map_components_discover_eq_of_discoverable hproper hlinks hdirs' halike' hdirs halike hsame⟩
  have hfound : ∀ p, p ∈ found fs root { filter with sourceDirs := dirs' } ↔ p ∈ found fs root filter := fun p => by
    rw [mem_found_iff hproper hlinks fun dir hdir => hdirs dir ((hmem dir).mp hdir), mem_found_iff hproper hlinks hdirs]
    simp only [discoverable_congr hmem]
  exact map_components_discover_eq (fun p hp => ⟨p, (hfound p).mp hp, rfl⟩) fun p hp => ⟨p, (hfound p).mpr hp, rfl⟩

namespace ExactnessWitness

/-- Source files, one of them generated and one of them hidden. -/
def shop : FileSystem :=
  ⟨.directory [("shop", .directory [
    ("lib", .directory [("cart.ts", .file (Text.toBytes "")), ("notes.md", .file (Text.toBytes ""))]),
    ("src", .directory [("app.js", .file (Text.toBytes "")), (".cache", .directory [("old.js", .file (Text.toBytes ""))]),
      ("made", .directory [("texts.js", .file (Text.toBytes ""))])])])], ["shop"]⟩

def shopFilter : FileFilter := ⟨["src", "lib"], ["src/made/*"], ["js", ".ts"]⟩

/-- A source file below the current directory. -/
def desk : FileSystem := ⟨.directory [("src", .directory [("app.js", .file (Text.toBytes ""))])], []⟩

/-- A directory under two spellings. -/
def deskFilter : FileFilter := ⟨["./src", "src"], [], []⟩

end ExactnessWitness

open ExactnessWitness in
/-- A list of source directories with one of them twice, in a different order, finds the same files, and a script is among
them. -/
theorem discover_exact_shop :
    (shop.tree.isProper = true ∧ HasNoLinks shop.tree ∧ (∀ dir ∈ shopFilter.sourceDirs, IsLiteral dir) ∧
      SpelledAlike ⟨"/shop"⟩ shopFilter.sourceDirs) ∧
    (∃ p ∈ (discover shop ⟨"/shop"⟩ shopFilter).value.files,
      Discoverable shop ⟨"/shop"⟩ shopFilter p ["shop", "src", "app.js"]) ∧
    (discover shop ⟨"/shop"⟩ { shopFilter with sourceDirs := ["lib", "src", "lib"] }).value.files.map components =
      (discover shop ⟨"/shop"⟩ shopFilter).value.files.map components := by
  have hproper : shop.tree.isProper = true := by decide +kernel
  have hlinks : HasNoLinks shop.tree := hasNoLinks_of_isLinkless (by decide +kernel)
  have hdirs : ∀ dir ∈ shopFilter.sourceDirs, IsLiteral dir := by unfold IsLiteral; decide +kernel
  have halike : SpelledAlike ⟨"/shop"⟩ shopFilter.sourceDirs := .below (by decide) (by decide)
  obtain ⟨-, ⟨place, hplace, -, hall⟩, hagain, -⟩ := discover_exact hproper hlinks hdirs halike
  refine ⟨⟨hproper, hlinks, hdirs, halike⟩, ?_, hagain ["lib", "src", "lib"] (by simp [shopFilter, or_comm])⟩
  have hreached : ReachedFrom shop ⟨"/shop/src"⟩ ⟨"/shop/src/app.js"⟩ ["shop", "src", "app.js"] :=
    ⟨["shop", "src"], ["app.js"], Text.toBytes "", by decide +kernel, by decide, by decide +kernel, rfl, rfl⟩
  have hdiscoverable : Discoverable shop ⟨"/shop"⟩ shopFilter ⟨"/shop/src/app.js"⟩ ["shop", "src", "app.js"] :=
    ⟨⟨_, by decide +kernel, hreached⟩, by decide +kernel, by decide +kernel⟩
  obtain ⟨p, hp, heq⟩ := List.mem_map.mp ((hall _).mpr ⟨_, hdiscoverable⟩)
  exact ⟨p, hp, heq ▸ hplace p hp⟩

open ExactnessWitness in
/-- A source directory that is given with a point in front and without one, below an empty root, has its files found twice. -/
theorem discover_once_false :
    ¬∀ (fs : FileSystem) (root : Path) (filter : FileFilter), fs.tree.isProper = true → HasNoLinks fs.tree →
      (∀ dir ∈ filter.sourceDirs, IsLiteral dir) →
      ∃ place : Path → Place, (∀ p ∈ (discover fs root filter).value.files, Discoverable fs root filter p (place p)) ∧
        ((discover fs root filter).value.files.map place).Nodup := by
  intro h
  have hproper : desk.tree.isProper = true := by decide +kernel
  obtain ⟨place, hplace, hnodup⟩ := h desk ⟨""⟩ deskFilter hproper (hasNoLinks_of_isLinkless (by decide +kernel))
    (by unfold IsLiteral; decide +kernel)
  have hfiles : (discover desk ⟨""⟩ deskFilter).value.files = [⟨"./src/app.js"⟩, ⟨"src/app.js"⟩] := by
    have hfound : found desk ⟨""⟩ deskFilter = [⟨"./src/app.js"⟩, ⟨"src/app.js"⟩] := by decide +kernel
    rw [files_discover_eq_found, hfound, List.mergeSort_of_pairwise (by decide +kernel), dropRepeated,
      if_neg (by decide +kernel), dropRepeated]
  rw [hfiles] at hplace hnodup
  have hsame : ∀ p ∈ [(⟨"./src/app.js"⟩ : Path), ⟨"src/app.js"⟩], place p = ["src", "app.js"] := by
    intro p hp
    have hplaceOf : desk.placeOf? p = some ["src", "app.js"] := by
      revert p
      decide +kernel
    obtain ⟨r, -, hreached⟩ := (hplace p hp).reached
    exact (hreached.placeOf?_eq hproper hplaceOf).symm
  simp [hsame] at hnodup

end Discover

end Phrasebook
