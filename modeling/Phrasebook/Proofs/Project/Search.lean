import Phrasebook.Project.Load
import Phrasebook.Proofs.Files.Climbing

/-!
# Where the configuration is found

The search for a configuration looks into the directory of its path and into those around it, as far as the spelling of the
path goes: up to the root for an absolute path, and up to the current directory for a relative one. There it finds the file in
the nearest directory (`IsNearest`). So a relative path stands for the absolute one exactly if no directory around the current
one is the nearest (`find?_relative_iff`).
-/

namespace Phrasebook.LoadedConfig

open FileSystem Entry Phrasebook.Path

variable {fs : FileSystem} {p r : Path} {tree : Entry} {start dir : Place} {m n : Nat}

/-! ## The search -/

/-- The search ends at a path without a parent. -/
theorem findFrom?_of_parent?_eq_none (h : p.parent? = none) : findFrom? fs n p =
    if fs.exists? (p.join fileName) then some (p.join fileName) else none := by
  rw [findFrom?.eq_def]
  simp only [h, ite_self]

/-- The file is looked for first; the mark of a repository ends the search, and else it goes on in the parent. -/
theorem findFrom?_succ (h : p.parent? = some r) : findFrom? fs (n + 1) p =
    if fs.exists? (p.join fileName) then some (p.join fileName)
    else if fs.exists? (p.join repositoryMark) then none
    else findFrom? fs n r := by
  rw [findFrom?.eq_def]
  simp only [h]

/-- The number of steps does not matter once there are enough of them. -/
theorem findFrom?_eq (hm : p.text.length ≤ m) (hn : p.text.length ≤ n) : findFrom? fs m p = findFrom? fs n p := by
  induction m generalizing p n with
  | zero =>
    have hnone : p.parent? = none := by
      cases h : p.parent? with
      | none => rfl
      | some r => exact absurd (length_parent?_lt h) (by omega)
    rw [findFrom?_of_parent?_eq_none hnone, findFrom?_of_parent?_eq_none hnone]
  | succ m ih =>
    cases h : p.parent? with
    | none => rw [findFrom?_of_parent?_eq_none h, findFrom?_of_parent?_eq_none h]
    | some r =>
      have hlength := length_parent?_lt h
      obtain ⟨n, rfl⟩ := Nat.exists_eq_succ_of_ne_zero (by omega : n ≠ 0)
      have hrest : findFrom? fs m r = findFrom? fs n r := ih (by omega) (by omega)
      rw [findFrom?_succ h, findFrom?_succ h, hrest]

/-- The search looks into the directory, and goes on from its parent if that neither has the file nor marks a repository. -/
theorem find?_eq (fs : FileSystem) (p : Path) : find? fs p =
    if fs.exists? (p.join fileName) then some (p.join fileName)
    else if fs.exists? (p.join repositoryMark) then none
    else p.parent?.bind (find? fs) := by
  cases h : p.parent? with
  | none =>
    rw [find?, findFrom?_of_parent?_eq_none h, Option.bind_none, ite_self]
  | some r =>
    have hlength := length_parent?_lt h
    have hrest : findFrom? fs p.text.length r = find? fs r := findFrom?_eq (Nat.le_of_lt hlength) (Nat.le_refl _)
    rw [Option.bind_some, ← hrest, ← findFrom?_succ h, find?]
    exact findFrom?_eq (Nat.le_refl _) (Nat.le_succ _)

/-! ## The nearest directory -/

/-- Is there something of that name in the directory? -/
def Holds (tree : Entry) (dir : Place) (name : String) : Prop := (tree.at? (dir ++ [name])).isSome = true

/-- Among the directory where the search starts and those around it, this one has the file, and none that is nearer has the
file or marks a repository. -/
structure IsNearest (tree : Entry) (start dir : Place) : Prop where
  around : dir <+: start
  holds : Holds tree dir fileName
  nearer : ∀ d, d <+: start → dir <+: d → d ≠ dir → ¬Holds tree d fileName ∧ ¬Holds tree d repositoryMark

/-- A directory with the file is the nearest to itself. -/
theorem isNearest_iff_of_holds (h : Holds tree start fileName) : IsNearest tree start dir ↔ dir = start := by
  constructor
  · intro hnearest
    by_contra hne
    exact (hnearest.nearer start List.prefix_rfl hnearest.around (Ne.symm hne)).1 h
  · rintro rfl
    exact ⟨List.prefix_rfl, h, fun d hd hdir hne => absurd (hd.eq_of_length_le hdir.length_le) hne⟩

/-- Behind the mark of a repository no directory is looked at. -/
theorem not_isNearest_of_holds (hfile : ¬Holds tree start fileName) (hmark : Holds tree start repositoryMark) :
    ¬IsNearest tree start dir := by
  intro h
  by_cases hdir : dir = start
  · exact hfile (hdir ▸ h.holds)
  · exact (h.nearer start List.prefix_rfl h.around (Ne.symm hdir)).2 hmark

/-- A directory around a place is the place or one around its parent. -/
theorem eq_or_prefix_dropLast (h : dir <+: start) : dir = start ∨ dir <+: start.dropLast := by
  rcases List.eq_nil_or_concat' start with rfl | ⟨front, last, rfl⟩
  · exact .inl (List.prefix_nil.mp h)
  · rw [List.dropLast_concat]
    exact List.prefix_concat_iff.mp h

/-- Without the file and without a repository in it, the start does not matter but for the directories around it. -/
theorem isNearest_dropLast_iff (hfile : ¬Holds tree start fileName) (hmark : ¬Holds tree start repositoryMark) :
    IsNearest tree start.dropLast dir ↔ IsNearest tree start dir := by
  constructor
  · intro h
    refine ⟨h.around.trans (List.dropLast_prefix _), h.holds, fun d hd hdir hne => ?_⟩
    rcases eq_or_prefix_dropLast hd with rfl | hd
    · exact ⟨hfile, hmark⟩
    · exact h.nearer d hd hdir hne
  · intro h
    refine ⟨(eq_or_prefix_dropLast h.around).resolve_left fun hdir => hfile (hdir ▸ h.holds), h.holds, ?_⟩
    exact fun d hd => h.nearer d (hd.trans (List.dropLast_prefix _))

/-! ## What is found -/

/-- Is there room for the names that are looked for behind the path? -/
def HasRoom (p : Path) : Prop := isPath (p.join fileName).text = true

/-- The name of the file is one that an entry can have. -/
theorem isEntryName_fileName : isEntryName fileName = true := by decide

/-- So is the mark of a repository. -/
theorem isEntryName_repositoryMark : isEntryName repositoryMark = true := by decide

/-- A parent has room for names if the path has. -/
theorem HasRoom.parent (h : HasRoom p) (hr : p.parent? = some r) : HasRoom r :=
  isPath_join_parent hr (head?_of_isEntryName isEntryName_fileName) h

/-- In a tree without links, to follow the path of the file is to look into the named directory. -/
theorem exists?_fileName_iff (htree : IsPlainTree fs.tree) (hup : ".." ∉ piecesOf p.text) (hroom : HasRoom p) :
    fs.exists? (p.join fileName) = true ↔ Holds fs.tree (fs.namedPlace p) fileName :=
  exists?_join_iff htree hup isEntryName_fileName hroom

/-- The same for the mark of a repository. -/
theorem exists?_repositoryMark_iff (htree : IsPlainTree fs.tree) (hup : ".." ∉ piecesOf p.text) (hroom : HasRoom p) :
    fs.exists? (p.join repositoryMark) = true ↔ Holds fs.tree (fs.namedPlace p) repositoryMark :=
  exists?_join_iff htree hup isEntryName_repositoryMark
    (isPath_join_of_le (head?_of_isEntryName isEntryName_fileName) (head?_of_isEntryName isEntryName_repositoryMark) hroom
      (by decide) (by decide))

/-- The place of the parent lacks the last name of the path, or is the same if the path has no name but a point in front. -/
theorem namedPlace_parent? (fs : FileSystem) (h : p.parent? = some r) :
    fs.namedPlace r = fs.namedPlace p ∨ fs.namedPlace r = (fs.namedPlace p).dropLast := by
  unfold namedPlace
  rw [startOf_parent? h, namesOf_parent? h]
  by_cases hnil : namesOf p.text = []
  · exact .inl (by rw [hnil]; rfl)
  · exact .inr (List.dropLast_append_of_ne_nil hnil).symm

/-- A parent has no steps up if the path has none. -/
theorem not_mem_piecesOf_parent? (h : p.parent? = some r) (hup : ".." ∉ piecesOf p.text) : ".." ∉ piecesOf r.text := by
  rw [← up_mem_namesOf_iff] at hup ⊢
  rw [namesOf_parent? h]
  exact fun hmem => hup (List.dropLast_subset _ hmem)

/-- The search finds the file in the nearest directory, if that is not around the one where the path starts. The induction is
on the length of the path, which its parent shortens. -/
theorem placeOf?_find?_iff {found : Option Place} (htree : IsPlainTree fs.tree) (hup : ".." ∉ piecesOf p.text)
    (hroom : HasRoom p) : (find? fs p).map fs.placeOf? = some found ↔ ∃ dir, found = some (dir ++ [fileName]) ∧
      startOf p.text fs.current <+: dir ∧ IsNearest fs.tree (fs.namedPlace p) dir := by
  induction hlength : p.text.length using Nat.strong_induction_on generalizing p with
  | _ n ih =>
    have hstart : startOf p.text fs.current <+: fs.namedPlace p := List.prefix_append _ _
    -- the three ways a step goes: the file is there, a repository ends the search, or it goes on to the parent
    rw [find?_eq]
    by_cases hfile : Holds fs.tree (fs.namedPlace p) fileName
    · rw [if_pos ((exists?_fileName_iff htree hup hroom).mpr hfile), Option.map_some,
        placeOf?_join htree hup isEntryName_fileName hroom hfile]
      simp only [isNearest_iff_of_holds hfile, Option.some_inj]
      constructor
      · rintro rfl
        exact ⟨_, rfl, hstart, rfl⟩
      · rintro ⟨dir, rfl, -, rfl⟩
        rfl
    rw [if_neg fun h => hfile ((exists?_fileName_iff htree hup hroom).mp h)]
    by_cases hmark : Holds fs.tree (fs.namedPlace p) repositoryMark
    · rw [if_pos ((exists?_repositoryMark_iff htree hup hroom).mpr hmark)]
      refine iff_of_false (fun h => nomatch h) ?_
      rintro ⟨dir, -, -, hnearest⟩
      exact not_isNearest_of_holds hfile hmark hnearest
    rw [if_neg fun h => hmark ((exists?_repositoryMark_iff htree hup hroom).mp h)]
    cases hr : p.parent? with
    | none =>
      refine iff_of_false (fun h => nomatch h) ?_
      rintro ⟨dir, -, hdir, hnearest⟩
      have hplace : fs.namedPlace p = startOf p.text fs.current := by
        rw [namedPlace, namesOf_of_parent?_eq_none hr, List.append_nil]
      have heq : dir = fs.namedPlace p :=
        hnearest.around.eq_of_length_le (hplace ▸ hdir.length_le)
      exact hfile (heq ▸ hnearest.holds)
    | some r =>
      have hshort := length_parent?_lt hr
      have hrest := ih r.text.length (hlength ▸ hshort) (not_mem_piecesOf_parent? hr hup) (hroom.parent hr) rfl
      rw [Option.bind_some, hrest, startOf_parent? hr]
      rcases namedPlace_parent? fs hr with hplace | hplace
      · rw [hplace]
      · simp only [hplace, isNearest_dropLast_iff hfile hmark]

/-! ## Relative paths -/

/-- The path as seen from the current directory starts at the root, and has the names of both. -/
theorem namedPlace_join_currentPath (hproper : fs.tree.isProper = true) (hcurrent : fs.tree.HasDirectory fs.current)
    (hrelative : p.text.toList.head? ≠ some '/') :
    (∀ current, startOf (fs.currentPath.join p.text).text current = []) ∧
      fs.namedPlace (fs.currentPath.join p.text) = fs.current ++ namesOf p.text ∧
      (".." ∉ piecesOf p.text → ".." ∉ piecesOf (fs.currentPath.join p.text).text) := by
  obtain ⟨entries, hentries⟩ := hcurrent
  have hnames : ∀ name ∈ fs.current, isEntryName name = true := fun name => isEntryName_of_mem hproper hentries
  have hstart : ∀ current, startOf (fs.currentPath.join p.text).text current = [] := by
    intro current
    rw [startOf, if_pos ((head?_join _ hrelative).mpr _)]
    rw [currentPath, String.toList_append]
    rfl
  have hjoin : namesOf (fs.currentPath.join p.text).text = fs.current ++ namesOf p.text := by
    rw [namesOf_join _ hrelative, namesOf_currentPath hnames]
  refine ⟨hstart, by rw [namedPlace, hstart, hjoin, List.nil_append], fun hup => ?_⟩
  rw [← up_mem_namesOf_iff] at hup ⊢
  rw [hjoin, List.mem_append, not_or]
  exact ⟨fun hmem => (isStep_of_isEntryName (hnames _ hmem)).2 rfl, hup⟩

/-- From a path as seen from the current directory the search finds the file in the nearest directory. From the relative path
itself it finds that file if the directory is the current one or below it, and nothing else; so the two searches agree exactly
if no directory around the current one is the nearest. -/
theorem find?_relative_iff (htree : IsPlainTree fs.tree) (hcurrent : fs.tree.HasDirectory fs.current)
    (hrelative : p.isAbsolute = false) (hup : ".." ∉ piecesOf p.text) (hroom : HasRoom (fs.currentPath.join p.text)) :
    (∀ found, (find? fs (fs.currentPath.join p.text)).map fs.placeOf? = some found ↔
      ∃ dir, found = some (dir ++ [fileName]) ∧ IsNearest fs.tree (fs.current ++ namesOf p.text) dir) ∧
    (∀ found, (find? fs p).map fs.placeOf? = some found ↔
      ∃ dir, found = some (dir ++ [fileName]) ∧ fs.current <+: dir ∧
        IsNearest fs.tree (fs.current ++ namesOf p.text) dir) ∧
    ((find? fs p).map fs.placeOf? = (find? fs (fs.currentPath.join p.text)).map fs.placeOf? ↔
      ∀ dir, IsNearest fs.tree (fs.current ++ namesOf p.text) dir → fs.current <+: dir) := by
  have hfirst : p.text.toList.head? ≠ some '/' := of_decide_eq_false hrelative
  obtain ⟨hstart, hplace, hupJoin⟩ := namedPlace_join_currentPath htree.proper hcurrent hfirst
  have habsolute : ∀ found, (find? fs (fs.currentPath.join p.text)).map fs.placeOf? = some found ↔
      ∃ dir, found = some (dir ++ [fileName]) ∧ IsNearest fs.tree (fs.current ++ namesOf p.text) dir := by
    intro found
    rw [placeOf?_find?_iff htree (hupJoin hup) hroom, hstart, hplace]
    simp only [List.nil_prefix, true_and]
  have hroomSelf : HasRoom p := isPath_join_second hfirst (head?_of_isEntryName isEntryName_fileName) hroom
  have hself : ∀ found, (find? fs p).map fs.placeOf? = some found ↔
      ∃ dir, found = some (dir ++ [fileName]) ∧ fs.current <+: dir ∧
        IsNearest fs.tree (fs.current ++ namesOf p.text) dir := by
    intro found
    rw [placeOf?_find?_iff htree hup hroomSelf, namedPlace, startOf, if_neg hfirst]
  refine ⟨habsolute, hself, fun hsame dir hnearest => ?_, fun hbelow => Option.ext fun found => ?_⟩
  · have hfound := (habsolute _).mpr ⟨dir, rfl, hnearest⟩
    obtain ⟨dir', hdir, hprefix, -⟩ := (hself _).mp (hsame.trans hfound)
    exact List.append_cancel_right (Option.some.inj hdir) ▸ hprefix
  · rw [hself, habsolute]
    constructor
    · rintro ⟨dir, hfound, -, hnearest⟩
      exact ⟨dir, hfound, hnearest⟩
    · rintro ⟨dir, hfound, hnearest⟩
      exact ⟨dir, hfound, hbelow dir hnearest, hnearest⟩

namespace SearchWitness

/-- A repository with a configuration, and a directory in it. -/
def entries : Entry :=
  .directory [("work", .directory [(".git", .directory []), (".intlrc.json", .file (Text.toBytes "\x7b\x7d")),
    ("app", .directory [("src", .directory [])])])]

/-- The tree has no links and short names. -/
theorem isPlainTree_entries : IsPlainTree entries :=
  isPlainTree_of_checks (by decide +kernel) (by decide +kernel) (by decide +kernel)

end SearchWitness

open SearchWitness in
/-- In the directory of the configuration, a path below it. -/
theorem find?_relative_iff_work :
    (IsPlainTree entries ∧ entries.HasDirectory ["work"] ∧ (⟨"app/./src"⟩ : Path).isAbsolute = false ∧
      ".." ∉ piecesOf "app/./src" ∧ HasRoom ((⟨entries, ["work"]⟩ : FileSystem).currentPath.join "app/./src")) ∧
    IsNearest entries ["work", "app", "src"] ["work"] ∧
    (find? ⟨entries, ["work"]⟩ ⟨"app/./src"⟩).map (⟨entries, ["work"]⟩ : FileSystem).placeOf? =
      some (some ["work", ".intlrc.json"]) := by
  have hcurrent : entries.HasDirectory ["work"] := ⟨_, rfl⟩
  have hroom : HasRoom ((⟨entries, ["work"]⟩ : FileSystem).currentPath.join "app/./src") := by
    unfold HasRoom
    decide +kernel
  obtain ⟨habsolute, -, hsame⟩ :=
    @find?_relative_iff ⟨entries, ["work"]⟩ ⟨"app/./src"⟩ isPlainTree_entries hcurrent (by decide) (by decide) hroom
  have hfound : (find? ⟨entries, ["work"]⟩ ((⟨entries, ["work"]⟩ : FileSystem).currentPath.join "app/./src")).map
      (⟨entries, ["work"]⟩ : FileSystem).placeOf? = some (some (["work"] ++ [fileName])) := by decide +kernel
  have hdir : ∀ dir, IsNearest entries ["work", "app", "src"] dir → dir = ["work"] := by
    intro dir hnearest
    have hother := (habsolute _).mpr ⟨dir, rfl, hnearest⟩
    exact List.append_cancel_right (Option.some.inj (Option.some.inj (hother.symm.trans hfound)))
  obtain ⟨dir, -, hnearest⟩ := (habsolute _).mp hfound
  exact ⟨⟨isPlainTree_entries, hcurrent, by decide, by decide, hroom⟩, hdir dir hnearest ▸ hnearest,
    (hsame.mpr fun dir hnearest => hdir dir hnearest ▸ List.prefix_rfl).trans hfound⟩

open SearchWitness in
/-- In the directory below it, the configuration is found from the current directory and missed from a point. -/
theorem find?_relative_false :
    ¬∀ (fs : FileSystem) (p : Path), IsPlainTree fs.tree → fs.tree.HasDirectory fs.current → p.isAbsolute = false →
      ".." ∉ piecesOf p.text → HasRoom (fs.currentPath.join p.text) →
      ((find? fs p).isSome = true ↔ (find? fs (fs.currentPath.join p.text)).isSome = true) := by
  intro h
  have hcurrent : entries.HasDirectory ["work", "app"] := ⟨_, rfl⟩
  have hsame := h ⟨entries, ["work", "app"]⟩ ⟨"."⟩ isPlainTree_entries hcurrent (by decide) (by decide)
    (by unfold HasRoom; decide +kernel)
  revert hsame
  decide +kernel

end Phrasebook.LoadedConfig
