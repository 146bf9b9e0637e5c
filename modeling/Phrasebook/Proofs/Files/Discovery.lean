import Mathlib.Data.List.Induction
import Phrasebook.Proofs.Files.Expansion

/-!
# Source files in a tree that grows

Written files whose names have no extension of a source file are never found. So the source files below a directory are the
same once a tree has grown by such files (`filter_filesIn`), and the paths that are found are those that were found before
(`files_discover`), unless a source directory is new.
-/

namespace Phrasebook.Discover

open FileSystem Entry

variable {fs old new : FileSystem} {p r : Path} {name : String} {q d : Place} {e : Entry} {files : List Path}
  {extensions : List String} {written : Place → Prop} {content : ByteArray}

/-! ## Files in an entry -/

/-- The files in a directory, told by its names. -/
theorem filesInAll_eq (p : Path) {entries : List (String × Entry)} (hnodup : (entries.map Prod.fst).Nodup) :
    filesInAll p entries = (entries.map Prod.fst).flatMap fun name =>
      if isHidden name then [] else (((directory entries).child? name).map (filesIn (p.join name))).getD [] := by
  have hpairs : ∀ pairs : List (String × Entry), (∀ pair ∈ pairs, pair ∈ entries) →
      filesInAll p pairs = (pairs.map Prod.fst).flatMap fun name =>
        if isHidden name then [] else (((directory entries).child? name).map (filesIn (p.join name))).getD [] := by
    intro pairs hpairs
    induction pairs with
    | nil => rfl
    | cons pair pairs ih =>
      obtain ⟨name, e⟩ := pair
      have hchild : (directory entries).child? name = some e :=
        (OrderedMap.find_eq_some_iff hnodup).mpr (hpairs _ List.mem_cons_self)
      rw [filesInAll, List.map_cons, List.flatMap_cons, hchild, ih fun x hx => hpairs x (List.mem_cons_of_mem _ hx)]
      rfl
  exact hpairs entries fun _ h => h

/-- The files that written files may not be among: no written place ends with the name of one. -/
def Unseen (extensions : List String) (written : Place → Prop) : Prop :=
  ∀ q, written q → ∀ d name, q = d ++ [name] → ∀ p : Path, p.fileName? = some name → hasExtension extensions p = false

/-- The wanted files in a grown directory are those in the directory, if this is so of its entries. -/
theorem filter_filesInAll (hgrows : Grows written old.tree new.tree) (hproper : new.tree.isProper = true)
    {entries' : List (String × Entry)} (hplace : new.tree.at? d = some (.directory entries'))
    (hentries : ∀ pair ∈ entries', ∀ p : Path, p.fileName? = some pair.1 →
      (filesIn p pair.2).filter (hasExtension extensions) =
        (((old.tree.at? (d ++ [pair.1])).map (filesIn p)).getD []).filter (hasExtension extensions))
    (p : Path) :
    (filesInAll p entries').filter (hasExtension extensions) =
      (((old.tree.at? d).map (filesIn p)).getD []).filter (hasExtension extensions) := by
  obtain ⟨hnodup, hall⟩ := isProper_directory.mp (isProper_at? hproper hplace)
  -- below a name, what is found is found in the entry that was there before
  have hnames : (filesInAll p entries').filter (hasExtension extensions) =
      (entries'.map Prod.fst).flatMap fun name =>
        (if isHidden name then [] else ((old.tree.at? (d ++ [name])).map (filesIn (p.join name))).getD []).filter
          (hasExtension extensions) := by
    rw [filesInAll_eq p hnodup, List.filter_flatMap]
    refine List.flatMap_congr fun name hname => ?_
    obtain ⟨pair, hpair, rfl⟩ := List.mem_map.mp hname
    have hchild : (directory entries').child? pair.1 = some pair.2 := (OrderedMap.find_eq_some_iff hnodup).mpr hpair
    split
    · rfl
    · rw [hchild]
      exact hentries pair hpair _ (fileName?_join p (hall pair hpair).1)
  have hkeeps := hgrows d
  rw [hplace] at hkeeps
  rw [hnames]
  generalize hold : old.tree.at? d = before at hkeeps
  cases hkeeps with
  | directory hgrown hadded =>
    rename_i entries added
    have hnodup' : (entries.map Prod.fst).Nodup := by
      rw [hgrown] at hnodup
      exact (List.nodup_append.mp hnodup).1
    have hnone : ∀ name ∈ added, (if isHidden name then [] else ((old.tree.at? (d ++ [name])).map (filesIn
        (p.join name))).getD []).filter (hasExtension extensions) = [] := by
      intro name hname
      have hchild : (directory entries).child? name = none := by
        by_contra hsome
        obtain ⟨e, he⟩ := Option.ne_none_iff_exists'.mp hsome
        exact hadded name hname (OrderedMap.mem_keys_of_find he)
      rw [at?_concat, hold, Option.bind_some, hchild]
      split <;> rfl
    rw [hgrown, List.flatMap_append, List.flatMap_eq_nil_iff.mpr hnone, List.append_nil]
    rw [Option.map_some, Option.getD_some, filesIn, filesInAll_eq p hnodup', List.filter_flatMap]
    refine List.flatMap_congr fun name _ => ?_
    rw [at?_concat, hold, Option.bind_some]
  | newDirectory =>
    refine List.flatMap_eq_nil_iff.mpr fun name _ => ?_
    rw [at?_concat, hold]
    split <;> rfl

mutual

/-- The wanted files in an entry of a grown tree are those in the entry that was there before, if there was one. -/
theorem filter_filesIn (hunseen : Unseen extensions written) (hgrows : Grows written old.tree new.tree)
    (hproper : new.tree.isProper = true) (e : Entry) (d : Place) (hplace : new.tree.at? d = some e) (p : Path)
    (hname : old.tree.at? d = none → ∃ parent name, d = parent ++ [name] ∧ p.fileName? = some name) :
    (filesIn p e).filter (hasExtension extensions) =
      (((old.tree.at? d).map (filesIn p)).getD []).filter (hasExtension extensions) := by
  have hkeeps := hgrows d
  rw [hplace] at hkeeps
  cases e with
  | file content =>
    generalize old.tree.at? d = before at hkeeps hname
    cases hkeeps with
    | file | rewritten => rfl
    | newFile hwritten =>
      obtain ⟨parent, name, hd, hp⟩ := hname rfl
      rw [filesIn, List.filter_cons_of_neg (by simp [hunseen d hwritten parent name hd p hp])]
      rfl
  | link target =>
    generalize old.tree.at? d = before at hkeeps
    cases hkeeps with
    | link => rfl
  | directory entries' =>
    refine filter_filesInAll hgrows hproper hplace (filter_filesIn_entries hunseen hgrows hproper entries' d fun pair hpair => ?_) p
    rw [at?_concat, hplace]
    exact (OrderedMap.find_eq_some_iff (isProper_directory.mp (isProper_at? hproper hplace)).1).mpr hpair

theorem filter_filesIn_entries (hunseen : Unseen extensions written) (hgrows : Grows written old.tree new.tree)
    (hproper : new.tree.isProper = true) (entries' : List (String × Entry)) (d : Place)
    (hplaces : ∀ pair ∈ entries', new.tree.at? (d ++ [pair.1]) = some pair.2) :
    ∀ pair ∈ entries', ∀ p : Path, p.fileName? = some pair.1 →
      (filesIn p pair.2).filter (hasExtension extensions) =
        (((old.tree.at? (d ++ [pair.1])).map (filesIn p)).getD []).filter (hasExtension extensions) := by
  match entries' with
  | [] => exact nofun
  | (name, e) :: entries' =>
    rintro pair hpair p hp
    rcases List.mem_cons.mp hpair with rfl | hpair
    · exact filter_filesIn hunseen hgrows hproper e _ (hplaces _ List.mem_cons_self) p fun _ => ⟨d, name, rfl, hp⟩
    · exact filter_filesIn_entries hunseen hgrows hproper entries' d
        (fun x hx => hplaces x (List.mem_cons_of_mem _ hx)) pair hpair p hp

end

/-! ## Files below a source directory -/

/-- The wanted files below a directory that was there are the same once the tree has grown. -/
theorem filter_filesBelow? (hunseen : Unseen extensions written) (hevolves : Evolves written old new)
    (hproper : new.tree.isProper = true) (hp : old.exists? p = true) :
    (filesBelow? new p).map (·.filter (hasExtension extensions)) =
      (filesBelow? old p).map (·.filter (hasExtension extensions)) := by
  obtain ⟨q, ⟨hfollow, hq⟩, hsome⟩ := exists?_iff.mp hp
  obtain ⟨q', hq', hsome'⟩ := hq.unfollowed hsome
  obtain ⟨e, he⟩ := Option.isSome_iff_exists.mp hsome'
  obtain ⟨e', he'⟩ := Option.isSome_iff_exists.mp (hevolves.grows.isSome hsome')
  have hsame : ∀ {q : Place} {e e' : Entry}, old.tree.at? q = some e → new.tree.at? q = some e' →
      (filesIn p e').filter (hasExtension extensions) = (filesIn p e).filter (hasExtension extensions) := by
    intro q e e' he he'
    rw [filter_filesIn hunseen hevolves.grows hproper e' q he' p (by simp [he]), he]
    rfl
  unfold filesBelow?
  rw [entryItself?_eq_some_iff.mpr ⟨q', ⟨hfollow, hq'⟩, he⟩,
    entryItself?_eq_some_iff.mpr ⟨q', ⟨hfollow, hevolves.leadsTo hq'⟩, he'⟩]
  cases e with
  | link target =>
    obtain rfl := Option.some.inj (he'.symm.trans (hevolves.grows.at?_link he))
    obtain ⟨f, hf⟩ := Option.isSome_iff_exists.mp hsome
    obtain ⟨f', hf'⟩ := Option.isSome_iff_exists.mp (hevolves.grows.isSome hsome)
    rw [entry?_eq_some_iff.mpr ⟨q, ⟨hfollow, hq⟩, hf⟩, entry?_eq_some_iff.mpr ⟨q, ⟨hfollow, hevolves.leadsTo hq⟩, hf'⟩]
    have hkeeps := hevolves.grows q
    rw [hf, hf'] at hkeeps
    cases hkeeps with
    | directory => exact congrArg some (hsame hf hf')
    | _ => rfl
  | file content =>
    obtain ⟨content', hcontent, -⟩ := hevolves.grows.at?_file he
    obtain rfl := Option.some.inj (he'.symm.trans hcontent)
    exact congrArg some (hsame he he')
  | directory entries =>
    obtain ⟨entries', hentries⟩ := hevolves.grows.hasDirectory ⟨entries, he⟩
    obtain rfl := Option.some.inj (he'.symm.trans hentries)
    exact congrArg some (hsame he he')

/-! ## Places of source files -/

/-- A path to a file ends with the name of its place, unless a link is in the last place. -/
theorem last_of_file {tree : Entry} {links : Nat} {place : Place} {pieces : List String}
    (h : Leads tree false links place pieces q) (hne : pieces ≠ []) (hfile : tree.at? q = some (.file content)) :
    ∃ a d name, pieces = a ++ [name] ∧ q = d ++ [name] := by
  have hnot : ¬tree.HasDirectory q := by
    rintro ⟨entries, hentries⟩
    exact absurd (hfile.symm.trans hentries) (by simp)
  induction h with
  | done => exact absurd rfl hne
  | @stay links place q piece rest hdir hpiece h ih =>
    by_cases hrest : rest = []
    · subst hrest
      cases h with
      | done => exact absurd hdir hnot
    · obtain ⟨a, d, name, rfl, rfl⟩ := ih hrest hfile hnot
      exact ⟨piece :: a, d, name, rfl, rfl⟩
  | @up links place q rest hdir h ih =>
    by_cases hrest : rest = []
    · subst hrest
      cases h with
      | done =>
        refine absurd ?_ hnot
        rcases List.eq_nil_or_concat place with rfl | ⟨parent, name, rfl⟩
        · exact hdir
        · rw [List.concat_eq_append] at hdir ⊢
          obtain ⟨entries, hentries⟩ := hdir
          rw [at?_concat] at hentries
          obtain ⟨e, he, hchild⟩ := Option.bind_eq_some_iff.mp hentries
          obtain ⟨siblings, rfl⟩ := eq_directory_of_child? hchild
          rw [List.dropLast_concat]
          exact ⟨siblings, he⟩
    · obtain ⟨a, d, name, rfl, rfl⟩ := ih hrest hfile hnot
      exact ⟨".." :: a, d, name, rfl, rfl⟩
  | @down links place q piece rest e hdir hpiece hentry hlink h ih =>
    by_cases hrest : rest = []
    · subst hrest
      cases h with
      | done => exact ⟨[], place, piece, rfl, rfl⟩
    · obtain ⟨a, d, name, rfl, rfl⟩ := ih hrest hfile hnot
      exact ⟨piece :: a, d, name, rfl, rfl⟩
  | @new links place piece hdir hpiece hnone => exact ⟨[], place, piece, rfl, rfl⟩
  | @stop links place piece t hfollow hdir hpiece hlink => exact ⟨[], place, piece, rfl, rfl⟩
  | @link links place q piece t rest hdir hpiece hlink hon ht h ih =>
    have hrest : rest ≠ [] := hon.resolve_right Bool.false_ne_true
    obtain ⟨a, d, name, hpieces, rfl⟩ := ih (by simp [hrest]) hfile hnot
    obtain ⟨front, last, rfl⟩ := List.eq_nil_or_concat rest |>.resolve_left hrest
    rw [List.concat_eq_append, ← List.append_assoc] at hpieces
    obtain ⟨-, hlast⟩ := List.append_inj' hpieces rfl
    obtain rfl := List.singleton_inj.mp hlast
    exact ⟨piece :: front, d, last, by rw [List.concat_eq_append]; rfl, rfl⟩

/-- A path that leads to no link leads there as well when its last link is followed. -/
theorem leads_followed {tree : Entry} {links : Nat} {place : Place} {pieces : List String}
    (h : Leads tree false links place pieces q) (hlink : ∀ t, tree.at? q ≠ some (.link t)) :
    Leads tree true links place pieces q := by
  induction h with
  | done hentry => exact .done hentry
  | stay hdir hpiece _ ih => exact .stay hdir hpiece (ih hlink)
  | up hdir _ ih => exact .up hdir (ih hlink)
  | down hdir hpiece hentry hnolink _ ih => exact .down hdir hpiece hentry hnolink (ih hlink)
  | new hdir hpiece hnone => exact .new hdir hpiece hnone
  | stop _ _ _ ht => exact absurd ht (hlink _)
  | link hdir hpiece hstep _ ht _ ih => exact .link hdir hpiece hstep (.inr rfl) ht (ih hlink)

/-- Names joined to a path lead straight down to an entry that is no link. -/
theorem eq_of_leadsTo_foldl_join {names : List String} (hnames : ∀ name ∈ names, isEntryName name = true)
    (hp : fs.LeadsTo true p d) (hentry : fs.tree.at? (d ++ names) = some e) (hlink : ∀ t, e ≠ .link t)
    (h : fs.LeadsTo true (names.foldl Path.join p) q) : q = d ++ names := by
  induction names using List.reverseRecOn generalizing q e with
  | nil =>
    rw [List.append_nil]
    exact h.unique hp
  | append_singleton front name ih =>
    have hname := hnames name (by simp)
    rw [List.foldl_append, List.foldl_cons, List.foldl_nil] at h
    obtain ⟨left, d', hd', -, hstep⟩ := h.of_join (head?_of_isEntryName hname)
    rw [piecesOf_of_isEntryName hname] at hstep
    rw [← List.append_assoc] at hentry ⊢
    have hentry' := hentry
    rw [at?_concat] at hentry'
    obtain ⟨around, haround, hchild⟩ := Option.bind_eq_some_iff.mp hentry'
    obtain ⟨entries, rfl⟩ := eq_directory_of_child? hchild
    obtain rfl := ih (fun k hk => hnames k (by simp [hk])) haround nofun hd'
    exact hstep.straight (by simpa using hname) hentry hlink

mutual

/-- The files in an entry are those that are reached from it by names of which none is hidden. -/
theorem mem_filesIn_iff (e : Entry) (p : Path) (hproper : e.isProper = true) : r ∈ filesIn p e ↔
    ∃ names content, (∀ name ∈ names, isHidden name = false) ∧ r = names.foldl Path.join p ∧
      e.at? names = some (.file content) := by
  match e with
  | .file content =>
    rw [filesIn, List.mem_singleton]
    constructor
    · rintro rfl
      exact ⟨[], content, nofun, rfl, rfl⟩
    · rintro ⟨names, content, -, rfl, hfile⟩
      cases names with
      | nil => rfl
      | cons => cases hfile
  | .link target =>
    constructor
    · exact nofun
    · rintro ⟨names, content, -, -, hfile⟩
      cases names <;> cases hfile
  | .directory entries =>
    obtain ⟨hnodup, hall⟩ := isProper_directory.mp hproper
    rw [filesIn, mem_filesInAll_iff entries p fun pair hpair => (hall pair hpair).2]
    constructor
    · rintro ⟨name, e, names, content, hmem, hhidden, rfl, hfile⟩
      refine ⟨name :: names, content, hhidden, rfl, ?_⟩
      rw [at?, show (directory entries).child? name = some e from (OrderedMap.find_eq_some_iff hnodup).mpr hmem]
      exact hfile
    · rintro ⟨names, content, hhidden, rfl, hfile⟩
      cases names with
      | nil => cases hfile
      | cons name names =>
        obtain ⟨e, hchild, hfile⟩ := Option.bind_eq_some_iff.mp hfile
        exact ⟨name, e, names, content, (OrderedMap.find_eq_some_iff hnodup).mp hchild, hhidden, rfl, hfile⟩

theorem mem_filesInAll_iff (entries : List (String × Entry)) (p : Path)
    (hall : ∀ pair ∈ entries, pair.2.isProper = true) : r ∈ filesInAll p entries ↔
    ∃ name e names content, (name, e) ∈ entries ∧ (∀ k ∈ name :: names, isHidden k = false) ∧
      r = names.foldl Path.join (p.join name) ∧ e.at? names = some (.file content) := by
  match entries with
  | [] => exact iff_of_false nofun nofun
  | (name, e) :: entries =>
    rw [filesInAll, List.mem_append, mem_filesInAll_iff entries p fun x hx => hall x (List.mem_cons_of_mem _ hx)]
    have hhead : r ∈ (if isHidden name then [] else filesIn (p.join name) e) ↔
        ∃ names content, (∀ k ∈ name :: names, isHidden k = false) ∧ r = names.foldl Path.join (p.join name) ∧
          e.at? names = some (.file content) := by
      split
      · next h => exact iff_of_false nofun fun ⟨_, _, hhidden, _⟩ => by simp [hhidden name] at h
      · next h =>
        rw [mem_filesIn_iff e (p.join name) (hall _ List.mem_cons_self)]
        simp [h]
    rw [hhead]
    constructor
    · rintro (⟨names, content, hrest⟩ | ⟨name', e', names, content, hmem, hrest⟩)
      · exact ⟨name, e, names, content, List.mem_cons_self, hrest⟩
      · exact ⟨name', e', names, content, List.mem_cons_of_mem _ hmem, hrest⟩
    · rintro ⟨name', e', names, content, hmem, hrest⟩
      rcases List.mem_cons.mp hmem with heq | hmem
      · obtain ⟨rfl, rfl⟩ := Prod.mk.inj heq
        exact .inl ⟨names, content, hrest⟩
      · exact .inr ⟨name', e', names, content, hmem, hrest⟩

end

/-- The entry below which files are found, and its place. -/
theorem exists_of_filesBelow? (h : filesBelow? fs p = some files) (hr : r ∈ files) :
    ∃ d e, (IsFollowable p ∧ fs.LeadsTo true p d) ∧ fs.tree.at? d = some e ∧ r ∈ filesIn p e ∧
      ∀ content, e = .file content → fs.LeadsTo false p d := by
  unfold filesBelow? at h
  split at h
  · split at h
    · next hentry =>
      obtain rfl := Option.some.inj h
      obtain ⟨d, hd, he⟩ := entry?_eq_some_iff.mp hentry
      exact ⟨d, _, hd, he, hr, nofun⟩
    · obtain rfl := Option.some.inj h
      cases hr
    · cases h
  · next e hlink hentry =>
    obtain rfl := Option.some.inj h
    obtain ⟨d, ⟨hp, hd⟩, he⟩ := entryItself?_eq_some_iff.mp hentry
    refine ⟨d, e, ⟨hp, leads_followed hd fun t ht => ?_⟩, he, hr, fun _ _ => hd⟩
    obtain rfl := Option.some.inj (he.symm.trans ht)
    exact hlink t rfl
  · cases h

/-- A file that is found below a directory has the name of its place. -/
theorem place_of_mem_filesBelow? (hproper : fs.tree.isProper = true) (h : filesBelow? fs p = some files)
    (hr : r ∈ files) (hq : fs.LeadsTo true r q) : ∃ d name, q = d ++ [name] ∧ r.fileName? = some name := by
  obtain ⟨d, e, ⟨-, hd⟩, he, hmem, hitself⟩ := exists_of_filesBelow? h hr
  obtain ⟨names, content, -, rfl, hfile⟩ := (mem_filesIn_iff e p (isProper_at? hproper he)).mp hmem
  have hnames : ∀ name ∈ names, isEntryName name = true := fun _ =>
    isEntryName_of_mem (isProper_at? hproper he) hfile
  have hplace : fs.tree.at? (d ++ names) = some (.file content) := by rw [at?_append, he, Option.bind_some, hfile]
  obtain rfl := eq_of_leadsTo_foldl_join hnames hd hplace nofun hq
  rcases List.eq_nil_or_concat names with rfl | ⟨front, name, rfl⟩
  · rw [List.append_nil] at hplace ⊢
    obtain ⟨a, d', name, hpieces, rfl⟩ := last_of_file (hitself content (Option.some.inj hfile)) (piecesOf_ne_nil _) hplace
    exact ⟨d', name, rfl, fileName?_of_piecesOf (isEntryName_of_at? hproper hplace) hpieces⟩
  · rw [List.concat_eq_append] at hnames ⊢
    refine ⟨d ++ front, name, (List.append_assoc ..).symm, ?_⟩
    rw [List.foldl_append, List.foldl_cons, List.foldl_nil]
    exact fileName?_join _ (hnames name (by simp))

/-- A wanted file that is found below a directory reads as before once the tree has grown. -/
theorem readBytes?_of_mem_filesBelow? (hunseen : Unseen extensions written) (hevolves : Evolves written old new)
    (hproper : old.tree.isProper = true) (h : filesBelow? old p = some files) (hr : r ∈ files)
    (hwanted : hasExtension extensions r = true) (hread : old.readBytes? r = some content) :
    new.readBytes? r = some content := by
  refine hevolves.readBytes? hread fun q hq hwritten => ?_
  obtain ⟨d, name, hplace, hname⟩ := place_of_mem_filesBelow? hproper h hr hq
  rw [hunseen q hwritten d name hplace r hname] at hwanted
  cases hwanted

/-! ## Source directories -/

/-- The files of a source directory that are kept. -/
theorem files_keptBelow (fs : FileSystem) (root : Path) (globs : List (List Glob.Token)) (extensions : List String)
    (dir : Path) : (keptBelow fs root globs extensions dir).value.files =
      (((filesBelow? fs dir).map (·.filter (hasExtension extensions))).getD []).filter (!isIgnored root globs ·) := by
  unfold keptBelow
  cases filesBelow? fs dir with
  | none => rfl
  | some files => exact (List.filter_filter ..).symm

/-- Of a directory that is not there no files are kept. -/
theorem files_keptBelow_of_missing (root : Path) (globs : List (List Glob.Token)) (extensions : List String)
    (hp : fs.exists? p = false) : (keptBelow fs root globs extensions p).value.files = [] := by
  rw [files_keptBelow]
  cases hfiles : filesBelow? fs p with
  | none => rfl
  | some files =>
    have hnone : files = [] := List.eq_nil_iff_forall_not_mem.mpr fun r hr => by
      obtain ⟨d, e, hd, he, -⟩ := exists_of_filesBelow? hfiles hr
      rw [exists?_iff.mpr ⟨d, hd, Option.isSome_of_eq_some he⟩] at hp
      cases hp
    rw [hnone]
    rfl

/-- A directory is one that was there if something was there. -/
theorem isDirectory_and_exists? (hevolves : Evolves written old new) (p : Path) :
    (old.exists? p && new.isDirectory p) = old.isDirectory p := by
  rw [Bool.eq_iff_iff, Bool.and_eq_true]
  constructor
  · rintro ⟨hthere, hdir⟩
    obtain ⟨q, ⟨hp, hq⟩, hsome⟩ := exists?_iff.mp hthere
    obtain ⟨q', ⟨-, hq'⟩, entries, hentries⟩ := isDirectory_iff.mp hdir
    obtain rfl := (hevolves.leadsTo hq).unique hq'
    have hkeeps := hevolves.grows q
    rw [hentries] at hkeeps
    generalize hbefore : old.tree.at? q = before at hkeeps hsome
    cases hkeeps with
    | directory => exact isDirectory_iff.mpr ⟨q, ⟨hp, hq⟩, _, hbefore⟩
    | newDirectory => cases hsome
  · intro hdir
    obtain ⟨q, hq, entries, hentries⟩ := isDirectory_iff.mp hdir
    exact ⟨exists?_iff.mpr ⟨q, hq, Option.isSome_of_eq_some hentries⟩, hevolves.isDirectory hdir⟩

theorem value_sourceRoots (fs : FileSystem) (root : Path) (dir : String) : (sourceRoots fs root dir).value =
    if Glob.hasWildcard dir then ((Glob.expand? fs (root.join dir).text).map (·.filter fs.isDirectory)).getD []
    else if fs.exists? (root.join dir) then [root.join dir] else [] := by
  simp only [sourceRoots]
  split
  · cases Glob.expand? fs (root.join dir).text <;> rfl
  · split <;> rfl

/-- A configured source directory stands for the same ones of those that were there before. -/
theorem filter_sourceRoots (hevolves : Evolves written old new) (hproper : new.tree.isProper = true) (root : Path)
    (dir : String) : (sourceRoots new root dir).value.filter old.exists? =
      (sourceRoots old root dir).value.filter old.exists? := by
  rw [value_sourceRoots, value_sourceRoots]
  split
  · have hfilter : ∀ (fs : FileSystem) (found : Option (List Path)),
        ((found.map (·.filter fs.isDirectory)).getD []).filter old.exists? =
          (found.map (·.filter fun p => old.exists? p && fs.isDirectory p)).getD [] := by
      intro fs found
      cases found with
      | none => rfl
      | some found => exact List.filter_filter ..
    simp only [hfilter, isDirectory_and_exists? hevolves, isDirectory_and_exists? (.refl written old)]
    rw [Glob.filter_expand? hevolves hproper]
  · by_cases hp : old.exists? (root.join dir)
    · rw [if_pos hp, if_pos (hevolves.exists? hp)]
    · rw [if_neg hp]
      split <;> simp [hp]

theorem filter_allSourceRoots (hevolves : Evolves written old new) (hproper : new.tree.isProper = true) (root : Path)
    (dirs : List String) : (allSourceRoots new root dirs).value.filter old.exists? =
      (allSourceRoots old root dirs).value.filter old.exists? := by
  unfold allSourceRoots
  split
  · rfl
  · simp only [Logged.value_bind, Logged.value_pure, Logged.value_mapM, List.filter_flatten, List.map_map]
    exact congrArg _ (List.map_congr_left fun dir _ => filter_sourceRoots hevolves hproper root dir)

/-! ## Discovery -/

theorem mem_of_mem_dropRepeated {paths : List Path} (h : p ∈ dropRepeated paths) : p ∈ paths := by
  fun_induction dropRepeated paths with
  | case1 => exact h
  | case2 => exact h
  | case3 first second rest _ ih =>
    rcases List.mem_cons.mp (ih h) with rfl | h
    · exact List.mem_cons_self
    · exact List.mem_cons_of_mem _ (List.mem_cons_of_mem _ h)
  | case4 first second rest _ ih =>
    rcases List.mem_cons.mp h with rfl | h
    · exact List.mem_cons_self
    · exact List.mem_cons_of_mem _ (ih h)

/-- The files that a filter keeps of a directory. -/
def keptFiles (fs : FileSystem) (root : Path) (filter : FileFilter) (dir : Path) : List Path :=
  (keptBelow fs root (ignoreGlobs filter.ignores).value filter.extensions dir).value.files

theorem files_discover_eq (fs : FileSystem) (root : Path) (filter : FileFilter) :
    (discover fs root filter).value.files =
      dropRepeated (((allSourceRoots fs root filter.sourceDirs).value.flatMap (keptFiles fs root filter)).mergeSort
        Path.le) := by
  simp only [discover, Logged.value_bind, Logged.value_pure, Logged.value_mapM, List.flatMap_map]
  rfl

/-- Directories of which no files are kept do not matter. -/
theorem flatMap_filter_eq {keep : Path → Bool} {f : Path → List Path} {dirs : List Path}
    (h : ∀ dir ∈ dirs, keep dir = false → f dir = []) : (dirs.filter keep).flatMap f = dirs.flatMap f := by
  induction dirs with
  | nil => rfl
  | cons dir dirs ih =>
    have hrest := ih fun x hx => h x (List.mem_cons_of_mem _ hx)
    by_cases hkeep : keep dir
    · rw [List.filter_cons_of_pos hkeep, List.flatMap_cons, List.flatMap_cons, hrest]
    · rw [List.filter_cons_of_neg hkeep, List.flatMap_cons, h dir List.mem_cons_self (by simpa using hkeep),
        List.nil_append, hrest]

/-- The source files of a project are the same once the tree has grown by files that cannot be among them, unless files are
kept of a source directory that was not there before. -/
theorem files_discover {root : Path} {filter : FileFilter} (hunseen : Unseen filter.extensions written)
    (hevolves : Evolves written old new) (hproper : new.tree.isProper = true)
    (hnew : ∀ dir ∈ (allSourceRoots new root filter.sourceDirs).value, old.exists? dir = false →
      keptFiles new root filter dir = []) :
    (discover new root filter).value.files = (discover old root filter).value.files := by
  have hold : ∀ dir, old.exists? dir = false → keptFiles old root filter dir = [] := fun dir =>
    files_keptBelow_of_missing root _ filter.extensions
  rw [files_discover_eq, files_discover_eq, ← flatMap_filter_eq hnew, ← flatMap_filter_eq fun dir _ => hold dir,
    filter_allSourceRoots hevolves hproper]
  refine congrArg (fun files => dropRepeated (List.mergeSort files Path.le)) (List.flatMap_congr fun dir hdir => ?_)
  rw [keptFiles, keptFiles, files_keptBelow, files_keptBelow,
    filter_filesBelow? hunseen hevolves hproper (List.mem_filter.mp hdir).2]

/-- A source file reads as before once the tree has grown by files that cannot be among them. -/
theorem readBytes?_of_mem_discover {root : Path} {filter : FileFilter} (hunseen : Unseen filter.extensions written)
    (hevolves : Evolves written old new) (hproper : old.tree.isProper = true)
    (hr : r ∈ (discover old root filter).value.files) (hread : old.readBytes? r = some content) :
    new.readBytes? r = some content := by
  rw [files_discover_eq] at hr
  obtain ⟨dir, -, hkept⟩ := List.mem_flatMap.mp (List.mem_mergeSort.mp (mem_of_mem_dropRepeated hr))
  unfold keptFiles keptBelow at hkept
  split at hkept
  · next files hfiles =>
    obtain ⟨hmem, hwanted⟩ := List.mem_filter.mp hkept
    exact readBytes?_of_mem_filesBelow? hunseen hevolves hproper hfiles hmem (by simp at hwanted; exact hwanted.2) hread
  · cases hkept

end Phrasebook.Discover
