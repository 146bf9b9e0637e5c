import Phrasebook.Proofs.Files.Writing

/-!
# Files beside one another

Writing a file makes no directory (`noNewDirectory_write?`). Where no directory is new, a path leads nowhere that it did not
lead before, but to new files (`LeadsTo.before`). And where a path leads somewhere, the directories around the paths that
differ from it in their last name only are there (`IsBeside.isDirectory_parent`).
-/

namespace Phrasebook

namespace Entry

variable {tree : Entry} {content : ByteArray} {parent d : Place} {name : String}

/-- A file that is put into a directory is no directory. -/
theorem hasDirectory_of_putAt (hparent : tree.HasDirectory parent)
    (h : (tree.putAt (.file content) (parent ++ [name])).HasDirectory d) : tree.HasDirectory d := by
  induction parent generalizing tree d with
  | nil =>
    obtain ⟨entries, hentries⟩ := hparent
    obtain rfl := Option.some.inj hentries
    cases d with
    | nil => exact ⟨entries, rfl⟩
    | cons k d =>
      obtain ⟨inside, hinside⟩ := h
      rw [List.nil_append, at?, child?_putAt] at hinside
      split at hinside
      · cases d <;> cases hinside
      · exact ⟨inside, hinside⟩
  | cons k' parent ih =>
    obtain ⟨entries, hentries⟩ := hparent
    obtain ⟨child, hchild, hplace⟩ := Option.bind_eq_some_iff.mp hentries
    obtain ⟨siblings, rfl⟩ := eq_directory_of_child? hchild
    cases d with
    | nil => exact ⟨siblings, rfl⟩
    | cons k d =>
      obtain ⟨inside, hinside⟩ := h
      rw [List.cons_append, at?, child?_putAt] at hinside
      split at hinside
      · next hk =>
        rw [hchild] at hinside
        obtain ⟨before, hbefore⟩ := ih ⟨entries, hplace⟩ ⟨inside, hinside⟩
        refine ⟨before, ?_⟩
        rw [hk, at?, hchild]
        exact hbefore
      · exact ⟨inside, hinside⟩

end Entry

namespace FileSystem

open Entry

variable {fs fs' fs'' : FileSystem} {p p' parent : Path} {q : Place} {follow : Bool} {content : ByteArray}
  {written : Place → Prop} {name name' : String}

/-! ## No new directories -/

/-- Every directory of the second file system is one of the first. -/
def NoNewDirectory (fs fs' : FileSystem) : Prop := ∀ d, fs'.tree.HasDirectory d → fs.tree.HasDirectory d

/-- What does not change makes no directory. -/
theorem NoNewDirectory.refl (fs : FileSystem) : NoNewDirectory fs fs := fun _ h => h

/-- Two steps that make no directory make none together. -/
theorem NoNewDirectory.trans (h : NoNewDirectory fs fs') (h' : NoNewDirectory fs' fs'') : NoNewDirectory fs fs'' :=
  fun d hd => h d (h' d hd)

/-- Writing a file makes no directory. -/
theorem noNewDirectory_write? (hproper : fs.tree.isProper = true) (h : fs.write? p content = some fs') :
    NoNewDirectory fs fs' := by
  obtain ⟨parent, name, -, rfl, hparent, -⟩ := put_of_write? hproper h
  exact fun d hd => hasDirectory_of_putAt hparent hd

/-- What leads somewhere starts at an entry of the tree. -/
theorem Leads.isSome_start {tree : Entry} {links : Nat} {place : Place} {pieces : List String}
    (h : Leads tree follow links place pieces q) : (tree.at? place).isSome := by
  cases pieces with
  | nil =>
    cases h with
    | done hentry => exact hentry
  | cons piece rest =>
    obtain ⟨entries, hentries⟩ := h.hasDirectory
    exact Option.isSome_of_eq_some hentries

/-- Without new directories, pieces lead to what was there before as they did before. -/
theorem Leads.before {tree tree' : Entry} {links : Nat} {place : Place} {pieces : List String}
    (h : Leads tree' follow links place pieces q) (hgrows : Grows written tree tree')
    (hdirs : ∀ d, tree'.HasDirectory d → tree.HasDirectory d) (hq : (tree.at? q).isSome) :
    Leads tree follow links place pieces q := by
  induction h with
  | done => exact .done hq
  | stay hdir hpiece _ ih => exact .stay (hdirs _ hdir) hpiece (ih hq)
  | up hdir _ ih => exact .up (hdirs _ hdir) (ih hq)
  | down hdir hpiece hentry hlink _ ih =>
    obtain ⟨e, he⟩ := Option.isSome_iff_exists.mp (ih hq).isSome_start
    refine .down (hdirs _ hdir) hpiece he (fun t ht => ?_) (ih hq)
    subst ht
    exact hlink t (Option.some.inj (hentry.symm.trans (hgrows.at?_link he)))
  | new _ _ hnone =>
    have hsome := hgrows.isSome hq
    rw [hnone] at hsome
    cases hsome
  | stop hfollow hdir hpiece hlink => exact .stop hfollow (hdirs _ hdir) hpiece (hgrows.eq_link hlink)
  | link hdir hpiece hlink hon ht _ ih => exact .link (hdirs _ hdir) hpiece (hgrows.eq_link hlink) hon ht (ih hq)

/-- Without new directories, a path leads to what was there before as it did before. -/
theorem LeadsTo.before (h : fs'.LeadsTo follow p q) (hevolves : Evolves written fs fs') (hdirs : NoNewDirectory fs fs')
    (hq : (fs.tree.at? q).isSome) : fs.LeadsTo follow p q := by
  rw [LeadsTo, hevolves.current] at h
  exact Leads.before h hevolves.grows hdirs hq

/-! ## Paths that differ in their last name -/

/-- The two paths are the same up to a last name. -/
def IsBeside (p p' : Path) : Prop := ∃ front name name' : List Char, ('/' ∉ name ∧ '/' ∉ name') ∧
  p.text.toList = front ++ name ∧ p'.text.toList = front ++ name'

/-- Two names without slashes differ in their last name only. -/
theorem isBeside_of_names (hname : '/' ∉ name.toList) (hname' : '/' ∉ name'.toList) : IsBeside ⟨name⟩ ⟨name'⟩ :=
  ⟨[], name.toList, name'.toList, ⟨hname, hname'⟩, rfl, rfl⟩

/-- A text without slashes does not begin with one. -/
theorem head?_ne_of_not_mem {s : List Char} (h : '/' ∉ s) : s.head? ≠ some '/' :=
  fun heq => h (List.mem_of_mem_head? heq)

/-- Paths that differ in their last name do so as seen from elsewhere. -/
theorem IsBeside.join (h : IsBeside p p') (root : Path) : IsBeside (root.join p.text) (root.join p'.text) := by
  obtain ⟨front, name, name', ⟨hname, hname'⟩, hp, hp'⟩ := h
  have hhead : p'.text.toList.head? = some '/' ↔ p.text.toList.head? = some '/' := by
    cases front with
    | nil =>
      rw [hp, hp', List.nil_append, List.nil_append]
      exact iff_of_false (head?_ne_of_not_mem hname') (head?_ne_of_not_mem hname)
    | cons c front => rw [hp, hp', List.cons_append, List.cons_append, List.head?_cons, List.head?_cons]
  unfold Path.join
  simp only [hhead]
  split
  · exact ⟨front, name, name', ⟨hname, hname'⟩, hp, hp'⟩
  · split
    · refine ⟨root.text.toList ++ front, name, name', ⟨hname, hname'⟩, ?_, ?_⟩
      · rw [String.toList_append, hp, List.append_assoc]
      · rw [String.toList_append, hp', List.append_assoc]
    · refine ⟨(root.text ++ "/").toList ++ front, name, name', ⟨hname, hname'⟩, ?_, ?_⟩
      · rw [String.toList_append, hp, List.append_assoc]
      · rw [String.toList_append, hp', List.append_assoc]

/-- A path goes on from what another one goes on from that differs in its last name only. -/
theorem IsBeside.goesOn (h : IsBeside p p') (hp' : GoesOn p' parent) : GoesOn p parent := by
  obtain ⟨front, name, name', ⟨-, hname'⟩, hp, hp''⟩ := h
  rcases hp' with hempty | ⟨s, hs⟩ | ⟨hroot, s, hs⟩
  · exact .inl hempty
  · rw [hp''] at hs
    -- the slash is none of the name
    rcases List.append_eq_append_iff.mp hs with ⟨t, -, rfl⟩ | ⟨t, ht, hrest⟩
    · exact absurd (List.mem_append_right t List.mem_cons_self) hname'
    · cases t with
      | nil =>
        obtain rfl : '/' :: s = name' := hrest
        exact absurd List.mem_cons_self hname'
      | cons c t =>
        obtain ⟨rfl, -⟩ := List.cons.inj hrest
        exact .inr (.inl ⟨t ++ name, by rw [hp, ht, List.append_assoc, List.cons_append]⟩)
  · rw [hp''] at hs
    cases front with
    | nil =>
      obtain rfl : name' = '/' :: s := hs
      exact absurd List.mem_cons_self hname'
    | cons c front =>
      obtain ⟨rfl, -⟩ := List.cons.inj hs
      exact .inr (.inr ⟨hroot, front ++ name, hp⟩)

/-- Where a path leads somewhere, the parent of a path beside it is there. -/
theorem IsBeside.isDirectory_parent (h : IsBeside p p') (hparent : p'.parent? = some parent) (hp : IsFollowable p)
    (hq : fs.LeadsTo true p q) (hne : parent.text ≠ "") : fs.isDirectory parent = true :=
  isDirectory_of_goesOn (h.goesOn (goesOn_parent? hparent)) hp hq hne

end FileSystem

end Phrasebook
