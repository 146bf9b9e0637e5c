import Phrasebook.Proofs.Files.Paths

/-!
# What writing does

Making directories and writing files changes a file system only by growth (`Evolves`): a path that leads to a place goes on
to do so, and a file that was written reads back until its place is written again. What is there already can be made and
written again without any change.
-/

namespace Phrasebook.FileSystem

open Entry

variable {fs fs' fs'' : FileSystem} {p : Path} {q : Place} {follow : Bool} {content : ByteArray}
  {written written' : Place → Prop}

/-! ## Development -/

/-- The second file system comes from the first by changes that write files at some places. -/
structure Evolves (written : Place → Prop) (fs fs' : FileSystem) : Prop where
  current : fs'.current = fs.current
  changes : Changes written fs.tree fs'.tree

/-- A file system that stays as it is has evolved. -/
theorem Evolves.refl (written : Place → Prop) (fs : FileSystem) : Evolves written fs fs := ⟨rfl, .refl⟩

/-- One development may follow another. -/
theorem Evolves.trans (h : Evolves written fs fs') (h' : Evolves written fs' fs'') : Evolves written fs fs'' :=
  ⟨h'.current.trans h.current, h.changes.trans h'.changes⟩

/-- More may be allowed to be written. -/
theorem Evolves.mono (h : Evolves written fs fs') (himp : ∀ place, written place → written' place) :
    Evolves written' fs fs' :=
  ⟨h.current, changes_mono himp h.changes⟩

/-- The tree has grown. -/
theorem Evolves.grows (h : Evolves written fs fs') : Grows written fs.tree fs'.tree := grows_of_changes h.changes

/-- A well-formed tree stays well formed. -/
theorem Evolves.isProper (h : Evolves written fs fs') (hproper : fs.tree.isProper = true) : fs'.tree.isProper = true :=
  isProper_of_changes h.changes hproper

/-- A path goes on to lead to the same place. -/
theorem Evolves.leadsTo (h : Evolves written fs fs') (hq : fs.LeadsTo follow p q) : fs'.LeadsTo follow p q := by
  rw [LeadsTo, h.current]
  exact hq.grow h.grows

/-- Directories stay directories. -/
theorem Evolves.isDirectory (h : Evolves written fs fs') (hp : fs.isDirectory p = true) : fs'.isDirectory p = true := by
  obtain ⟨q, ⟨hp, hq⟩, hdir⟩ := isDirectory_iff.mp hp
  exact isDirectory_iff.mpr ⟨q, ⟨hp, h.leadsTo hq⟩, h.grows.hasDirectory hdir⟩

/-- What is there stays there. -/
theorem Evolves.exists? (h : Evolves written fs fs') (hp : fs.exists? p = true) : fs'.exists? p = true := by
  obtain ⟨q, ⟨hp, hq⟩, hsome⟩ := exists?_iff.mp hp
  exact exists?_iff.mpr ⟨q, ⟨hp, h.leadsTo hq⟩, h.grows.isSome hsome⟩

/-- A file reads as before, unless its place is one of those that may be written. -/
theorem Evolves.readBytes? (h : Evolves written fs fs') (hread : fs.readBytes? p = some content)
    (hnot : ∀ q, fs.LeadsTo true p q → ¬written q) : fs'.readBytes? p = some content := by
  obtain ⟨q, ⟨hp, hq⟩, hfile⟩ := readBytes?_eq_some_iff.mp hread
  obtain ⟨content', hfile', hwritten | rfl⟩ := h.grows.at?_file hfile
  · exact absurd hwritten (hnot q hq)
  · exact readBytes?_eq_some_iff.mpr ⟨q, ⟨hp, h.leadsTo hq⟩, hfile'⟩

/-! ## Names of new entries -/

/-- Where pieces without slashes lead to nothing, the last of them is the name that is missing. -/
theorem Leads.name_of_none {tree : Entry} {links : Nat} {place : Place} {pieces : List String}
    (h : Leads tree follow links place pieces q) (hpieces : ∀ piece ∈ pieces, '/' ∉ piece.toList)
    (hnone : tree.at? q = none) :
    ∃ parent name, q = parent ++ [name] ∧ tree.HasDirectory parent ∧ isEntryName name = true := by
  induction h with
  | done hsome =>
    rw [hnone] at hsome
    cases hsome
  | stay _ _ _ ih => exact ih (fun x hx => hpieces x (List.mem_cons_of_mem _ hx)) hnone
  | up _ _ ih => exact ih (fun x hx => hpieces x (List.mem_cons_of_mem _ hx)) hnone
  | down _ _ _ _ _ ih => exact ih (fun x hx => hpieces x (List.mem_cons_of_mem _ hx)) hnone
  | @new links place piece hdir hpiece _ =>
    refine ⟨place, piece, rfl, hdir, ?_⟩
    have hslash := hpieces piece List.mem_cons_self
    simp only [isEntryName, Bool.and_eq_true, bne_iff_ne, ne_eq, Bool.not_eq_true', List.contains_eq_mem,
      decide_eq_false_iff_not]
    exact ⟨⟨⟨fun h => hpiece.1 (.inl h), fun h => hpiece.1 (.inr h)⟩, hpiece.2.1⟩, hslash⟩
  | stop _ _ _ hlink =>
    rw [hnone] at hlink
    cases hlink
  | @link links place q piece t rest _ _ _ _ _ _ ih =>
    refine ih (fun x hx => ?_) hnone
    rcases List.mem_append.mp hx with hx | hx
    · exact not_mem_of_mem_piecesOf hx
    · exact hpieces x (List.mem_cons_of_mem _ hx)

/-- A file stands in a directory, where a path leads to it. -/
theorem Leads.parent_of_file {tree : Entry} {links : Nat} {place : Place} {pieces : List String}
    (h : Leads tree follow links place pieces q) (hpieces : pieces ≠ []) (hproper : tree.isProper = true)
    (hfile : tree.at? q = some (.file content)) :
    ∃ parent name, q = parent ++ [name] ∧ tree.HasDirectory parent ∧ isEntryName name = true := by
  rcases List.eq_nil_or_concat q with rfl | ⟨parent, name, rfl⟩
  · obtain rfl := Option.some.inj hfile
    obtain ⟨piece, rest, rfl⟩ := List.exists_cons_of_ne_nil hpieces
    obtain ⟨entries, hentries⟩ := h.hasDirectory
    cases place <;> cases hentries
  · rw [List.concat_eq_append] at hfile ⊢
    have hname := isEntryName_of_at? hproper hfile
    rw [at?_concat] at hfile
    obtain ⟨d, hd, hchild⟩ := Option.bind_eq_some_iff.mp hfile
    obtain ⟨entries, rfl⟩ := eq_directory_of_child? hchild
    exact ⟨parent, name, rfl, ⟨entries, hd⟩, hname⟩

/-! ## Files -/

/-- Writing a file puts it into a directory where its path leads, in place of a file or of nothing. -/
theorem put_of_write? (hproper : fs.tree.isProper = true) (h : fs.write? p content = some fs') :
    ∃ parent name, (IsFollowable p ∧ fs.LeadsTo true p (parent ++ [name])) ∧
      fs' = fs.put (parent ++ [name]) (.file content) ∧ fs.tree.HasDirectory parent ∧ isEntryName name = true ∧
      ∀ e, fs.tree.at? (parent ++ [name]) = some e → ∃ c, e = .file c := by
  unfold write? at h
  split at h
  · next q c htarget =>
    obtain ⟨⟨hp, hq⟩, hfile⟩ := target_eq_found_iff.mp htarget
    obtain ⟨parent, name, rfl, hparent, hname⟩ := hq.parent_of_file (piecesOf_ne_nil _) hproper hfile
    refine ⟨parent, name, ⟨hp, hq⟩, (Option.some.inj h).symm, hparent, hname, fun e he => ?_⟩
    exact ⟨c, Option.some.inj (he.symm.trans hfile)⟩
  · next parent name htarget =>
    obtain ⟨⟨hp, hq⟩, hnone⟩ := target_eq_absent_iff.mp htarget
    obtain ⟨parent', name', hplace, hparent, hname⟩ := hq.name_of_none (fun _ => not_mem_of_mem_piecesOf) hnone
    rw [hplace] at hq hnone h
    refine ⟨parent', name', ⟨hp, hq⟩, (Option.some.inj h).symm, hparent, hname, fun e he => ?_⟩
    rw [hnone] at he
    cases he
  · cases h

/-- A file that is written is found where its path leads, and no other file changes. -/
theorem write?_effect (hproper : fs.tree.isProper = true) (h : fs.write? p content = some fs') :
    ∃ q, IsFollowable p ∧ fs'.LeadsTo true p q ∧ Evolves (· = q) fs fs' ∧ fs'.tree.at? q = some (.file content) := by
  obtain ⟨parent, name, ⟨hp, hq⟩, rfl, hparent, hname, hfree⟩ := put_of_write? hproper h
  have hevolves : Evolves (· = parent ++ [name]) fs (fs.put (parent ++ [name]) (.file content)) :=
    ⟨rfl, .single (.file hparent hfree hname rfl)⟩
  exact ⟨_, hp, hevolves.leadsTo hq, hevolves, at?_putAt_self _ _ _⟩

/-- A file can be written again as it is. -/
theorem write?_of_readBytes? (h : fs.readBytes? p = some content) : fs.write? p content = some fs := by
  obtain ⟨q, hq, hfile⟩ := readBytes?_eq_some_iff.mp h
  rw [write?, target_eq_found_iff.mpr ⟨hq, hfile⟩]
  have hput : fs.put q (.file content) = fs := by rw [put, putAt_of_at? hfile]
  exact congrArg some hput

/-! ## Directories -/

/-- Making a directory writes no file. -/
theorem evolves_makeDirectory (h : fs.makeDirectory p = .ok fs') : Evolves (fun _ => False) fs fs' := by
  unfold makeDirectory at h
  split at h
  · next parent name htarget =>
    obtain ⟨⟨-, hq⟩, hnone⟩ := target_eq_absent_iff.mp htarget
    obtain ⟨parent', name', hplace, hparent, hname⟩ := hq.name_of_none (fun _ => not_mem_of_mem_piecesOf) hnone
    obtain ⟨rfl, hnames⟩ := List.append_inj' hplace rfl
    obtain rfl := List.singleton_inj.mp hnames
    obtain rfl := Except.ok.inj h
    exact ⟨rfl, .single (.directory hparent hnone hname)⟩
  all_goals cases h

/-- Making directories writes no file. -/
theorem evolves_makeDirectories (steps : Nat) (fs : FileSystem) (p : Path) :
    Evolves (fun _ => False) fs (makeDirectories steps fs p).1 := by
  fun_induction makeDirectories steps fs p with
  | case2 _ _ _ _ h => exact evolves_makeDirectory h
  | case4 p hempty hno steps parent hparent around isThere haround hthere ih =>
    rw [haround] at ih
    exact ih
  | case5 p hempty hno steps parent hparent around isThere haround hthere made hmade ih =>
    rw [haround] at ih
    exact ih.trans (evolves_makeDirectory hmade)
  | case6 p hempty hno steps parent hparent around isThere haround hthere _ _ ih =>
    rw [haround] at ih
    exact ih
  | _ => exact .refl _ _

/-- A directory that is there need not be made. -/
theorem makeDirectories_of_isDirectory (steps : Nat) (h : p.text = "" ∨ fs.isDirectory p = true) :
    makeDirectories steps fs p = (fs, true) := by
  unfold makeDirectories
  split
  · rfl
  · next hne =>
    have hdir := h.resolve_left hne
    obtain ⟨q, e, htarget⟩ := found_of_isDirectory (isDirectory_withoutEndSlashes hdir)
    have hmake : fs.makeDirectory p = .error .other := by rw [makeDirectory, htarget]
    rw [hmake, hdir]

end Phrasebook.FileSystem
