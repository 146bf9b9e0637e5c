import Mathlib.Logic.Relation
import Phrasebook.Files.Tree
import Phrasebook.Proofs.Dictionary.Maps

/-!
# Trees that grow

A tree changes when a file is written in a directory that is there, or an empty directory is made in one (`Change`). Then
every directory keeps its names in their order, with new ones behind them, every link stays as it is, every file stays a
file, and no link is new (`Grows`). This is so after any number of changes (`grows_of_changes`).
-/

namespace Phrasebook

/-- Can the text be the name of an entry in a directory? -/
def isEntryName (name : String) : Bool := name != "" && name != "." && name != ".." && !name.toList.contains '/'

namespace Entry

open OrderedMap

variable {tree tree' e new : Entry} {entries : List (String × Entry)} {place parent : Place} {name k : String}
  {written : Place → Prop}

/-! ## Entries at places -/

theorem at?_append (e : Entry) (p q : Place) : e.at? (p ++ q) = (e.at? p).bind (·.at? q) := by
  induction p generalizing e with
  | nil => rfl
  | cons name p ih =>
    rw [List.cons_append, at?, at?]
    cases e.child? name with
    | none => rfl
    | some child => exact ih child

theorem at?_concat (e : Entry) (p : Place) (name : String) : e.at? (p ++ [name]) = (e.at? p).bind (·.child? name) := by
  rw [at?_append]
  cases e.at? p with
  | none => rfl
  | some d =>
    show (d.child? name).bind some = d.child? name
    cases d.child? name <;> rfl

/-- Only a directory has entries. -/
theorem eq_directory_of_child? (h : e.child? name = some new) : ∃ entries, e = .directory entries := by
  cases e with
  | directory entries => exact ⟨entries, rfl⟩
  | file | link => cases h

theorem child?_putAt (e new : Entry) (name k : String) (place : Place) :
    (e.putAt new (name :: place)).child? k =
      if k = name then some (((e.child? name).getD (.directory [])).putAt new place) else e.child? k :=
  find_put

/-- What is put at a place is found there. -/
theorem at?_putAt_self (e new : Entry) (place : Place) : (e.putAt new place).at? place = some new := by
  induction place generalizing e with
  | nil => rfl
  | cons name place ih =>
    rw [at?, child?_putAt, if_pos rfl, Option.bind_some]
    exact ih _

/-- What stands at a place already can be put there again. -/
theorem putAt_of_at? (h : e.at? place = some new) : e.putAt new place = e := by
  induction place generalizing e with
  | nil => exact (Option.some.inj h).symm
  | cons name place ih =>
    obtain ⟨child, hchild, hplace⟩ := Option.bind_eq_some_iff.mp h
    obtain ⟨entries, rfl⟩ := eq_directory_of_child? hchild
    rw [putAt, hchild, Option.getD_some, ih hplace]
    exact congrArg directory (put_of_find hchild)

/-! ## Growth -/

/-- A directory stands at the place. -/
def HasDirectory (tree : Entry) (place : Place) : Prop := ∃ entries, tree.at? place = some (.directory entries)

/-- What may become of what stands at a place, where files may be written if `written` holds. -/
inductive Keeps (written : Prop) : Option Entry → Option Entry → Prop where
  | nothing : Keeps written none none
  | directory {entries entries' : List (String × Entry)} {added : List String}
      (hnames : entries'.map Prod.fst = entries.map Prod.fst ++ added)
      (hadded : ∀ name ∈ added, name ∉ entries.map Prod.fst) :
      Keeps written (some (.directory entries)) (some (.directory entries'))
  | link {target : String} : Keeps written (some (.link target)) (some (.link target))
  | file {content : ByteArray} : Keeps written (some (.file content)) (some (.file content))
  | rewritten {content content' : ByteArray} (h : written) :
      Keeps written (some (.file content)) (some (.file content'))
  | newFile {content : ByteArray} (h : written) : Keeps written none (some (.file content))
  | newDirectory {entries : List (String × Entry)} : Keeps written none (some (.directory entries))

theorem Keeps.refl (written : Prop) (x : Option Entry) : Keeps written x x := by
  match x with
  | none => exact .nothing
  | some (.directory _) => exact .directory (List.append_nil _).symm fun _ h => absurd h List.not_mem_nil
  | some (.link _) => exact .link
  | some (.file _) => exact .file

theorem Keeps.trans {written : Prop} {x y z : Option Entry} (h : Keeps written x y) (h' : Keeps written y z) :
    Keeps written x z := by
  cases h with
  | nothing => exact h'
  | directory hnames hadded =>
    cases h' with
    | directory hnames' hadded' =>
      refine .directory (by rw [hnames', hnames, List.append_assoc]) fun name hname => ?_
      rcases List.mem_append.mp hname with hname | hname
      · exact hadded name hname
      · exact fun hmem => hadded' name hname (by rw [hnames]; exact List.mem_append_left _ hmem)
  | link => exact h'
  | file => exact h'
  | rewritten hwritten =>
    cases h' with
    | file => exact .rewritten hwritten
    | rewritten => exact .rewritten hwritten
  | newFile hwritten =>
    cases h' with
    | file => exact .newFile hwritten
    | rewritten => exact .newFile hwritten
  | newDirectory =>
    cases h' with
    | directory => exact .newDirectory

/-- The second tree is the first one with more in it; files may be written at some places. -/
def Grows (written : Place → Prop) (tree tree' : Entry) : Prop :=
  ∀ place, Keeps (written place) (tree.at? place) (tree'.at? place)

theorem Grows.refl (written : Place → Prop) (tree : Entry) : Grows written tree tree := fun _ => .refl _ _

theorem Grows.trans {tree'' : Entry} (h : Grows written tree tree') (h' : Grows written tree' tree'') :
    Grows written tree tree'' := fun place => (h place).trans (h' place)

/-- One change of a tree: a file is written or an empty directory is made, in a directory that is there. -/
inductive Change (written : Place → Prop) (tree : Entry) : Entry → Prop where
  | file {parent : Place} {name : String} {content : ByteArray} (hparent : tree.HasDirectory parent)
      (hfree : ∀ e, tree.at? (parent ++ [name]) = some e → ∃ c, e = .file c) (hname : isEntryName name = true)
      (hwritten : written (parent ++ [name])) : Change written tree (tree.putAt (.file content) (parent ++ [name]))
  | directory {parent : Place} {name : String} (hparent : tree.HasDirectory parent)
      (hnew : tree.at? (parent ++ [name]) = none) (hname : isEntryName name = true) :
      Change written tree (tree.putAt (.directory []) (parent ++ [name]))

/-- Changes one after the other. -/
abbrev Changes (written : Place → Prop) : Entry → Entry → Prop := Relation.ReflTransGen (Change written)

/-- A directory keeps its names when an entry is put in it. -/
theorem keeps_put (written : Prop) (entries : List (String × Entry)) (name : String) (new : Entry) :
    Keeps written (some (.directory entries)) (some (.directory (put name new entries))) := by
  have hkeys := keys_put name new entries
  by_cases hname : name ∈ entries.map Prod.fst
  · rw [if_pos hname] at hkeys
    exact .directory (hkeys.trans (List.append_nil _).symm) fun _ h => absurd h List.not_mem_nil
  · rw [if_neg hname] at hkeys
    refine .directory hkeys fun k hk => ?_
    rwa [List.mem_singleton.mp hk]

/-- A directory grows if one of its entries does. -/
theorem grows_putAt_cons {child : Option Entry} (hchild : (directory entries).child? name = child)
    (h : ∀ q, Keeps (written (name :: q)) (child.bind (·.at? q)) (((child.getD (.directory [])).putAt new place).at? q)) :
    Grows written (.directory entries) ((directory entries).putAt new (name :: place)) := by
  intro q
  cases q with
  | nil => exact keeps_put _ entries name _
  | cons k q =>
    rw [at?, at?, child?_putAt]
    by_cases hk : k = name
    · subst hk
      rw [if_pos rfl, hchild]
      exact h q
    · rw [if_neg hk]
      exact .refl _ _

/-- A tree grows where an entry is put in a directory of it, if it does at that place and below. -/
theorem grows_putAt (hparent : tree.HasDirectory parent)
    (h : ∀ q, Keeps (written (parent ++ name :: q)) (tree.at? (parent ++ name :: q)) (new.at? q)) :
    Grows written tree (tree.putAt new (parent ++ [name])) := by
  induction parent generalizing tree written with
  | nil =>
    obtain ⟨entries, hentries⟩ := hparent
    obtain rfl := Option.some.inj hentries
    exact grows_putAt_cons rfl h
  | cons k parent ih =>
    obtain ⟨entries, hentries⟩ := hparent
    obtain ⟨child, hchild, hplace⟩ := Option.bind_eq_some_iff.mp hentries
    obtain ⟨siblings, rfl⟩ := eq_directory_of_child? hchild
    have hbelow : Grows (fun q => written (k :: q)) child (child.putAt new (parent ++ [name])) := by
      refine ih ⟨entries, hplace⟩ fun q => ?_
      have hq := h q
      rwa [List.cons_append, at?, hchild] at hq
    exact grows_putAt_cons hchild hbelow

/-- A change makes a tree grow. -/
theorem grows_of_change (h : Change written tree tree') : Grows written tree tree' := by
  cases h with
  | file hparent hfree hname hwritten =>
    rename_i parent name content
    refine grows_putAt hparent fun q => ?_
    rw [List.append_cons, at?_append]
    cases hold : tree.at? (parent ++ [name]) with
    | none =>
      cases q with
      | nil => rw [List.append_nil]; exact .newFile hwritten
      | cons => exact .nothing
    | some e =>
      obtain ⟨c, rfl⟩ := hfree e hold
      cases q with
      | nil => rw [List.append_nil]; exact .rewritten hwritten
      | cons => exact .nothing
  | directory hparent hnew hname =>
    rename_i parent name
    refine grows_putAt hparent fun q => ?_
    rw [List.append_cons, at?_append, hnew]
    cases q with
    | nil => exact .newDirectory
    | cons => exact .nothing

/-- Any number of changes makes a tree grow. -/
theorem grows_of_changes (h : Changes written tree tree') : Grows written tree tree' := by
  induction h with
  | refl => exact .refl _ _
  | tail _ hchange ih => exact ih.trans (grows_of_change hchange)

/-- Where more places may be written, what was allowed is allowed. -/
theorem changes_mono {written' : Place → Prop} (himp : ∀ place, written place → written' place)
    (h : Changes written tree tree') : Changes written' tree tree' := by
  have hstep : ∀ tree tree', Change written tree tree' → Change written' tree tree' := by
    intro tree tree' hchange
    cases hchange with
    | file hparent hfree hname hwritten => exact .file hparent hfree hname (himp _ hwritten)
    | directory hparent hnew hname => exact .directory hparent hnew hname
  exact Relation.ReflTransGen.mono hstep _ _ h

/-! ### What growth keeps -/

theorem Grows.hasDirectory (h : Grows written tree tree') (hold : tree.HasDirectory place) :
    tree'.HasDirectory place := by
  obtain ⟨entries, hentries⟩ := hold
  have hplace := h place
  rw [hentries] at hplace
  generalize hnew : tree'.at? place = new at hplace
  cases hplace with
  | directory => exact ⟨_, hnew⟩

theorem Grows.at?_link {target : String} (h : Grows written tree tree') (hold : tree.at? place = some (.link target)) :
    tree'.at? place = some (.link target) := by
  have hplace := h place
  rw [hold] at hplace
  generalize hnew : tree'.at? place = new at hplace
  cases hplace with
  | link => rfl

theorem Grows.at?_file {content : ByteArray} (h : Grows written tree tree')
    (hold : tree.at? place = some (.file content)) :
    ∃ content', tree'.at? place = some (.file content') ∧ (written place ∨ content' = content) := by
  have hplace := h place
  rw [hold] at hplace
  generalize hnew : tree'.at? place = new at hplace
  cases hplace with
  | file => exact ⟨_, rfl, .inr rfl⟩
  | rewritten hwritten => exact ⟨_, rfl, .inl hwritten⟩

/-- No link is new. -/
theorem Grows.eq_link {target : String} (h : Grows written tree tree')
    (hnew : tree'.at? place = some (.link target)) : tree.at? place = some (.link target) := by
  have hplace := h place
  rw [hnew] at hplace
  generalize hold : tree.at? place = old at hplace
  cases hplace with
  | link => rfl

/-- What stands at a place goes on to do so. -/
theorem Grows.isSome (h : Grows written tree tree') (hold : (tree.at? place).isSome) : (tree'.at? place).isSome := by
  have hplace := h place
  generalize tree.at? place = old at hold hplace
  generalize tree'.at? place = new at hplace
  cases hplace with
  | nothing => cases hold
  | _ => rfl

/-! ## Proper trees -/

mutual

/-- Are the names in each directory names of entries, and different from one another? -/
def isProper : Entry → Bool
  | .directory entries => decide (entries.map Prod.fst).Nodup && areProper entries
  | _ => true

/-- Are the names names of entries, and the entries proper? -/
def areProper : List (String × Entry) → Bool
  | [] => true
  | (name, e) :: entries => isEntryName name && e.isProper && areProper entries

end

theorem areProper_iff : areProper entries = true ↔
    ∀ pair ∈ entries, isEntryName pair.1 = true ∧ pair.2.isProper = true := by
  induction entries with
  | nil => simp [areProper]
  | cons pair entries ih => simp [areProper, ih, and_assoc]

theorem isProper_directory : (directory entries).isProper = true ↔
    (entries.map Prod.fst).Nodup ∧ ∀ pair ∈ entries, isEntryName pair.1 = true ∧ pair.2.isProper = true := by
  rw [isProper, Bool.and_eq_true, decide_eq_true_iff, areProper_iff]

/-- The entries of a proper tree are proper. -/
theorem isProper_at? (h : tree.isProper = true) (hplace : tree.at? place = some e) : e.isProper = true := by
  induction place generalizing tree with
  | nil => exact Option.some.inj hplace ▸ h
  | cons name place ih =>
    obtain ⟨child, hchild, hrest⟩ := Option.bind_eq_some_iff.mp hplace
    obtain ⟨entries, rfl⟩ := eq_directory_of_child? hchild
    obtain ⟨hnodup, hall⟩ := isProper_directory.mp h
    exact ih (hall _ ((find_eq_some_iff hnodup).mp hchild)).2 hrest

/-- A name that leads somewhere in a proper tree is the name of an entry. -/
theorem isEntryName_of_at? (h : tree.isProper = true) (hplace : tree.at? (parent ++ [name]) = some e) :
    isEntryName name = true := by
  rw [at?_concat] at hplace
  obtain ⟨d, hd, hchild⟩ := Option.bind_eq_some_iff.mp hplace
  obtain ⟨entries, rfl⟩ := eq_directory_of_child? hchild
  obtain ⟨hnodup, hall⟩ := isProper_directory.mp (isProper_at? h hd)
  exact (hall _ ((find_eq_some_iff hnodup).mp hchild)).1

/-- The names of a place where something is in a proper tree are names of entries. -/
theorem isEntryName_of_mem (h : tree.isProper = true) (hplace : tree.at? place = some e) (hname : name ∈ place) :
    isEntryName name = true := by
  obtain ⟨front, behind, rfl⟩ := List.append_of_mem hname
  rw [List.append_cons, at?_append] at hplace
  obtain ⟨d, hd, -⟩ := Option.bind_eq_some_iff.mp hplace
  exact isEntryName_of_at? h hd

theorem mem_put {pair : String × Entry} (h : pair ∈ put name new entries) : pair = (name, new) ∨ pair ∈ entries := by
  induction entries with
  | nil => exact .inl (List.mem_singleton.mp h)
  | cons head entries ih =>
    obtain ⟨k, v⟩ := head
    by_cases hk : k = name
    · rw [put, if_pos hk] at h
      exact (List.mem_cons.mp h).imp_right (List.mem_cons_of_mem _)
    · rw [put, if_neg hk] at h
      rcases List.mem_cons.mp h with rfl | h
      · exact .inr List.mem_cons_self
      · exact (ih h).imp_right (List.mem_cons_of_mem _)

/-- A proper tree stays proper when a proper entry is put in it under the name of an entry. -/
theorem isProper_putAt (h : tree.isProper = true) (hparent : tree.HasDirectory parent) (hname : isEntryName name = true)
    (hnew : new.isProper = true) : (tree.putAt new (parent ++ [name])).isProper = true := by
  induction parent generalizing tree with
  | nil =>
    obtain ⟨entries, hentries⟩ := hparent
    obtain rfl := Option.some.inj hentries
    obtain ⟨hnodup, hall⟩ := isProper_directory.mp h
    refine isProper_directory.mpr ⟨nodup_put hnodup, fun pair hpair => ?_⟩
    rcases mem_put hpair with rfl | hpair
    · exact ⟨hname, hnew⟩
    · exact hall pair hpair
  | cons k parent ih =>
    obtain ⟨entries, hentries⟩ := hparent
    obtain ⟨child, hchild, hplace⟩ := Option.bind_eq_some_iff.mp hentries
    obtain ⟨siblings, rfl⟩ := eq_directory_of_child? hchild
    obtain ⟨hnodup, hall⟩ := isProper_directory.mp h
    obtain ⟨hk, hproper⟩ := hall _ ((find_eq_some_iff hnodup).mp hchild)
    refine isProper_directory.mpr ⟨nodup_put hnodup, fun pair hpair => ?_⟩
    rcases mem_put hpair with rfl | hpair
    · refine ⟨hk, ?_⟩
      rw [hchild, Option.getD_some]
      exact ih hproper ⟨entries, hplace⟩
    · exact hall pair hpair

/-- Changes leave a proper tree proper. -/
theorem isProper_of_changes (h : Changes written tree tree') (hproper : tree.isProper = true) :
    tree'.isProper = true := by
  induction h with
  | refl => exact hproper
  | tail _ hchange ih =>
    cases hchange with
    | file hparent _ hname _ => exact isProper_putAt ih hparent hname rfl
    | directory hparent _ hname => exact isProper_putAt ih hparent hname rfl

end Entry

end Phrasebook
