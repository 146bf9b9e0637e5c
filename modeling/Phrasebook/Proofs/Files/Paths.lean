import Phrasebook.Files.Discover
import Phrasebook.Proofs.Files.Following
import Phrasebook.Proofs.Text.Splitting

/-!
# Paths and their pieces

A path is followed by the pieces between its slashes (`piecesOf`) and compared by its components. What joining, taking the
parent and leaving slashes out do to the pieces, and so to where a path leads.
-/

namespace Phrasebook

open FileSystem Phrasebook.Path Text

variable {p parent : Path} {name : String} {fs : FileSystem} {q : Place} {follow : Bool}

/-- A text that is cut at a slash has the pieces of both parts. -/
theorem piecesOf_of_toList {text : String} {s t : List Char} (h : text.toList = s ++ '/' :: t) :
    piecesOf text = piecesOf (String.ofList s) ++ piecesOf (String.ofList t) := by
  simp [piecesOf, h, splitAt_append]

/-- The empty text too has a piece, the empty one. -/
theorem piecesOf_ne_nil (text : String) : piecesOf text ≠ [] := by
  simp [piecesOf, splitAt_ne_nil]

/-- No piece of a path holds a slash. -/
theorem not_mem_of_mem_piecesOf {text piece : String} (h : piece ∈ piecesOf text) : '/' ∉ piece.toList := by
  obtain ⟨chars, hchars, rfl⟩ := List.mem_map.mp h
  rw [String.toList_ofList]
  exact not_mem_of_mem_splitAt hchars

/-- The name of an entry has no slash in it. -/
theorem not_mem_of_isEntryName (h : isEntryName name = true) : '/' ∉ name.toList := by
  simp only [isEntryName, Bool.and_eq_true, Bool.not_eq_true', List.contains_eq_mem, decide_eq_false_iff_not] at h
  exact h.2

/-- The name of an entry is one piece. -/
theorem piecesOf_of_isEntryName (h : isEntryName name = true) : piecesOf name = [name] := by
  rw [piecesOf, splitAt_of_not_mem (not_mem_of_isEntryName h), List.map_singleton, String.ofList_toList]

/-- The name of an entry is no absolute path. -/
theorem head?_of_isEntryName (h : isEntryName name = true) : name.toList.head? ≠ some '/' :=
  fun hhead => not_mem_of_isEntryName h (List.mem_of_mem_head? hhead)

/-! ## Joining -/

/-- Joining a relative path puts its pieces behind those of the first one, whose last slash counts for nothing. -/
theorem piecesOf_join (p : Path) {t : String} (ht : t.toList.head? ≠ some '/') :
    ∃ a, piecesOf (p.join t).text = a ++ piecesOf t ∧ (piecesOf p.text = a ∨ piecesOf p.text = a ++ [""]) ∧
      ∀ current, startOf (p.join t).text current = startOf p.text current := by
  rw [Path.join, if_neg ht]
  by_cases hempty : p.text = ""
  · rw [if_pos (.inl hempty), hempty, String.empty_append]
    exact ⟨[], rfl, .inr rfl, fun current => by rw [startOf, if_neg ht]; rfl⟩
  · have hne : p.text.toList ≠ [] := by simpa using hempty
    have hstart : ∀ s : List Char, ∀ current, startOf (String.ofList (p.text.toList ++ s)) current = startOf p.text current := by
      intro s current
      rw [startOf, startOf, String.toList_ofList, List.head?_append_of_ne_nil _ hne]
    by_cases hlast : p.text.toList.getLast? = some '/'
    · rw [if_pos (.inr hlast)]
      obtain ⟨front, hfront⟩ := List.getLast?_eq_some_iff.mp hlast
      refine ⟨piecesOf (String.ofList front), ?_, .inr ?_, fun current => ?_⟩
      · have htext : (p.text ++ t).toList = front ++ '/' :: t.toList := by simp [hfront]
        rw [piecesOf_of_toList htext, String.ofList_toList]
      · rw [piecesOf_of_toList hfront]
        rfl
      · have htext : p.text ++ t = String.ofList (p.text.toList ++ t.toList) := by simp
        rw [htext, hstart]
    · rw [if_neg (by simp [hempty, hlast])]
      refine ⟨piecesOf p.text, ?_, .inl rfl, fun current => ?_⟩
      · have htext : (p.text ++ "/" ++ t).toList = p.text.toList ++ '/' :: t.toList := by simp
        rw [piecesOf_of_toList htext, String.ofList_toList, String.ofList_toList]
      · have htext : p.text ++ "/" ++ t = String.ofList (p.text.toList ++ '/' :: t.toList) := by
          simp [String.append_assoc]
        rw [htext, hstart]

/-- A joined path ends with the last piece of what is joined. -/
theorem exists_piecesOf_join (p : Path) {t : String} {a : List String} (ht : piecesOf t = a ++ [name]) :
    ∃ b, piecesOf (p.join t).text = b ++ [name] := by
  by_cases habsolute : t.toList.head? = some '/'
  · rw [Path.join, if_pos habsolute]
    exact ⟨a, ht⟩
  · obtain ⟨b, hjoin, -⟩ := piecesOf_join p habsolute
    exact ⟨b ++ a, by rw [hjoin, ht, List.append_assoc]⟩

/-! ## Where paths lead -/

namespace FileSystem

/-- The path leads to the place, as far as its pieces go. -/
def LeadsTo (fs : FileSystem) (follow : Bool) (p : Path) (q : Place) : Prop :=
  Leads fs.tree follow maxLinks (startOf p.text fs.current) (piecesOf p.text) q

/-- Where the path leads, through links. -/
def placeOf? (fs : FileSystem) (p : Path) : Option Place := (fs.target true p).place?

/-- Does the path name a link? -/
def isLink (fs : FileSystem) (p : Path) : Bool :=
  match fs.entryItself? p with
  | some (.link _) => true
  | _ => false

/-- Can the path be followed? -/
def IsFollowable (p : Path) : Prop := p.text ≠ "" ∧ isPath p.text = true

/-- A path that can be followed leads along its pieces from where it starts. -/
theorem target_eq (hp : IsFollowable p) :
    fs.target follow p = walk fs.tree follow maxLinks (startOf p.text fs.current) (piecesOf p.text) := by
  rw [target, if_neg hp.1, hp.2]
  rfl

/-- The target of a path has the places that the path leads to. -/
theorem place?_target_iff : (fs.target follow p).place? = some q ↔ IsFollowable p ∧ fs.LeadsTo follow p q := by
  constructor
  · intro h
    have hp : IsFollowable p := by
      unfold target at h
      split at h
      · cases h
      · next hempty =>
        split at h
        · cases h
        · next hpath => exact ⟨hempty, by simpa using hpath⟩
    rw [target_eq hp] at h
    exact ⟨hp, place?_walk_iff.mp h⟩
  · rintro ⟨hp, h⟩
    rw [target_eq hp]
    exact place?_walk_iff.mpr h

/-- The place of a path is where it leads when links at its end are followed. -/
theorem placeOf?_eq_some_iff : fs.placeOf? p = some q ↔ IsFollowable p ∧ fs.LeadsTo true p q := place?_target_iff

/-- What a path is found to lead to agrees with the tree. -/
theorem fits_target (fs : FileSystem) (follow : Bool) (p : Path) : (fs.target follow p).Fits fs.tree := by
  unfold target
  split
  · trivial
  · split
    · trivial
    · exact fits_walk

/-- An entry is found where the path leads and the tree has that entry. -/
theorem target_eq_found_iff {e : Entry} : fs.target follow p = .found q e ↔
    (IsFollowable p ∧ fs.LeadsTo follow p q) ∧ fs.tree.at? q = some e := by
  rw [← place?_target_iff]
  have hfits := fits_target fs follow p
  constructor
  · intro h
    rw [h] at hfits ⊢
    exact ⟨rfl, hfits⟩
  · rintro ⟨hplace, he⟩
    generalize fs.target follow p = target at hplace hfits
    cases target with
    | found q' e' =>
      obtain rfl := Option.some.inj hplace
      rw [Option.some.inj (hfits.symm.trans he)]
    | absent parent name =>
      obtain rfl := Option.some.inj hplace
      exact absurd (hfits.2.symm.trans he) (by simp)
    | nowhere | blocked => cases hplace

/-- A name is absent where the path leads to it in a directory that has no such entry. -/
theorem target_eq_absent_iff {parent : Place} : fs.target follow p = .absent parent name ↔
    (IsFollowable p ∧ fs.LeadsTo follow p (parent ++ [name])) ∧ fs.tree.at? (parent ++ [name]) = none := by
  rw [← place?_target_iff]
  have hfits := fits_target fs follow p
  constructor
  · intro h
    rw [h] at hfits ⊢
    exact ⟨rfl, hfits.2⟩
  · rintro ⟨hplace, he⟩
    generalize fs.target follow p = target at hplace hfits
    cases target with
    | found q' e' =>
      obtain rfl := Option.some.inj hplace
      exact absurd (he.symm.trans hfits) (by simp)
    | absent parent' name' =>
      obtain ⟨rfl, hname⟩ := List.append_inj' (Option.some.inj hplace) rfl
      obtain rfl := List.singleton_inj.mp hname
      rfl
    | nowhere | blocked => cases hplace

/-- The entry of a path stands where the path leads. -/
theorem entry?_eq_some_iff {e : Entry} : fs.entry? p = some e ↔
    ∃ q, (IsFollowable p ∧ fs.LeadsTo true p q) ∧ fs.tree.at? q = some e := by
  simp only [← target_eq_found_iff, entry?]
  cases fs.target true p <;> simp

/-- The entry itself stands where the path leads with a link at its end left alone. -/
theorem entryItself?_eq_some_iff {e : Entry} : fs.entryItself? p = some e ↔
    ∃ q, (IsFollowable p ∧ fs.LeadsTo false p q) ∧ fs.tree.at? q = some e := by
  simp only [← target_eq_found_iff, entryItself?]
  cases fs.target false p <;> simp

/-- A path exists if it leads to an entry. -/
theorem exists?_iff : fs.exists? p = true ↔
    ∃ q, (IsFollowable p ∧ fs.LeadsTo true p q) ∧ (fs.tree.at? q).isSome := by
  simp only [exists?, Option.isSome_iff_exists, entry?_eq_some_iff]
  tauto

/-- A path is a directory if it leads to one. -/
theorem isDirectory_iff : fs.isDirectory p = true ↔
    ∃ q, (IsFollowable p ∧ fs.LeadsTo true p q) ∧ fs.tree.HasDirectory q := by
  constructor
  · intro h
    rw [isDirectory] at h
    cases he : fs.entry? p with
    | none => rw [he] at h; cases h
    | some e =>
      rw [he] at h
      obtain ⟨q, hq, hentry⟩ := entry?_eq_some_iff.mp he
      exact ⟨q, hq, hasDirectory_of_isDirectory hentry h⟩
  · rintro ⟨q, hq, entries, hentries⟩
    rw [isDirectory, entry?_eq_some_iff.mpr ⟨q, hq, hentries⟩]
    rfl

/-- The content that is read through a path is that of the file it leads to. -/
theorem readBytes?_eq_some_iff {content : ByteArray} : fs.readBytes? p = some content ↔
    ∃ q, (IsFollowable p ∧ fs.LeadsTo true p q) ∧ fs.tree.at? q = some (.file content) := by
  rw [← entry?_eq_some_iff, readBytes?]
  split <;> simp_all

/-! ### Joined paths -/

/-- A slash behind a path to a directory does not matter. -/
theorem Leads.append_slash {tree : Entry} {links : Nat} {place d : Place} {a : List String}
    (h : Leads tree true links place a d) (hd : tree.HasDirectory d) : Leads tree true links place (a ++ [""]) d := by
  induction h with
  | done hentry => exact .stay hd (.inl rfl) (.done hentry)
  | stay hdir hpiece _ ih => exact .stay hdir hpiece (ih hd)
  | up hdir _ ih => exact .up hdir (ih hd)
  | down hdir hpiece hentry hlink _ ih => exact .down hdir hpiece hentry hlink (ih hd)
  | new _ _ hnone =>
    obtain ⟨entries, hentries⟩ := hd
    exact absurd (hnone.symm.trans hentries) (by simp)
  | stop hfollow => cases hfollow
  | link hdir hpiece hlink _ ht _ ih =>
    have hrest := ih hd
    rw [List.append_assoc] at hrest
    exact .link hdir hpiece hlink (.inr rfl) ht hrest

/-- A path joined to another one leads on from the place of that one. -/
theorem LeadsTo.of_join {t : String} (ht : t.toList.head? ≠ some '/') (h : fs.LeadsTo follow (p.join t) q) :
    ∃ left d, fs.LeadsTo true p d ∧ fs.tree.HasDirectory d ∧ Leads fs.tree follow left d (piecesOf t) q := by
  obtain ⟨a, hjoin, hp, hstart⟩ := piecesOf_join p ht
  rw [LeadsTo, hjoin, hstart] at h
  obtain ⟨left, d, hd, hdir, hrest⟩ := h.split (piecesOf_ne_nil t)
  refine ⟨left, d, ?_, hdir, hrest⟩
  rcases hp with hp | hp
  · rwa [LeadsTo, hp]
  · rw [LeadsTo, hp]
    exact hd.append_slash hdir

end FileSystem

/-! ## Parents -/

/-- Cutting a text at its slashes and joining the pieces gives the text again. -/
theorem joinPieces_splitAt (s : List Char) : joinPieces (splitAt '/' s) = s := intercalate_splitAt '/' s

/-- One slash stands between a piece and those behind it. -/
theorem joinPieces_cons (piece : List Char) {u : List (List Char)} (hu : u ≠ []) :
    joinPieces (piece :: u) = piece ++ '/' :: joinPieces u := by
  obtain ⟨first, others, rfl⟩ := List.exists_cons_of_ne_nil hu
  simp [joinPieces]

/-- One slash stands between two runs of pieces. -/
theorem joinPieces_append {t u : List (List Char)} (ht : t ≠ []) (hu : u ≠ []) :
    joinPieces (t ++ u) = joinPieces t ++ '/' :: joinPieces u := by
  induction t with
  | nil => exact absurd rfl ht
  | cons piece t ih =>
    by_cases h : t = []
    · subst h
      rw [List.singleton_append, joinPieces_cons piece hu]
      simp [joinPieces]
    · rw [List.cons_append, joinPieces_cons piece (by simp [h]), ih h, joinPieces_cons piece h, List.append_assoc]
      rfl

/-- The text of a path is what comes before its pieces and the pieces with slashes between them. -/
theorem text_spelling (p : Path) : p.text.toList = p.spelling.lead ++ joinPieces p.spelling.pieces := by
  unfold spelling
  split
  · next rest h => rw [h, joinPieces_splitAt]; rfl
  · next h => rw [h]; rfl
  · next rest h => rw [h, joinPieces_cons [] (splitAt_ne_nil _ _), joinPieces_splitAt]; rfl
  · rw [joinPieces_splitAt]; rfl

/-- What comes before the pieces of a path. -/
theorem spelling_cases (p : Path) :
    (p.spelling.lead = ['/'] ∧ ∃ rest, p.text.toList = '/' :: rest) ∨
      (p.spelling.lead = ['.'] ∧ (p.spelling.pieces = [] ∨ ∃ rest, p.text.toList = '.' :: '/' :: rest)) ∨
      p.spelling.lead = [] := by
  unfold spelling
  split
  · next rest h => exact .inl ⟨rfl, rest, h⟩
  · exact .inr (.inl ⟨rfl, .inl rfl⟩)
  · next rest h => exact .inr (.inl ⟨rfl, .inr ⟨rest, h⟩⟩)
  · exact .inr (.inr rfl)

/-- Trimming leaves a front of the pieces, and those behind it do not count. -/
theorem trimPieces_append (pieces : List (List Char)) :
    ∃ idle, pieces = trimPieces pieces ++ idle ∧ ∀ piece ∈ idle, isIdle piece = true := by
  refine ⟨(pieces.reverse.takeWhile isIdle).reverse, ?_, fun piece hpiece => ?_⟩
  · rw [trimPieces, ← List.reverse_append, List.takeWhile_append_dropWhile, List.reverse_reverse]
  · exact List.all_eq_true.mp List.all_takeWhile piece (List.mem_reverse.mp hpiece)

/-- A path with a parent is only a point in front, and the parent is empty; or the parent is the path up to its last piece that
counts. -/
theorem cases_of_parent? (h : p.parent? = some parent) :
    p.spelling.lead = ['.'] ∧ trimPieces p.spelling.pieces = [] ∧ parent.text = "" ∨
    ∃ front last behind, trimPieces p.spelling.pieces = front ++ [last] ∧
      p.spelling.pieces = trimPieces front ++ behind ∧ behind ≠ [] ∧
      parent = ofSpelling ⟨p.spelling.lead, trimPieces front⟩ := by
  simp only [parent?] at h
  split at h
  · next hempty =>
    split at h
    · next hlead =>
      obtain rfl := Option.some.inj h
      exact .inl ⟨hlead, List.isEmpty_iff.mp hempty, rfl⟩
    · cases h
  · next hne =>
    obtain rfl := Option.some.inj h
    obtain ⟨front, last, hlast⟩ := (List.eq_nil_or_concat' _).resolve_left (mt List.isEmpty_iff.mpr hne)
    obtain ⟨idle, hidle, -⟩ := trimPieces_append p.spelling.pieces
    obtain ⟨idle', hidle', -⟩ := trimPieces_append front
    refine .inr ⟨front, last, idle' ++ ([last] ++ idle), hlast, ?_, by simp, by rw [hlast, List.dropLast_concat]⟩
    rw [← List.append_assoc, ← List.append_assoc, ← hidle', ← hlast, ← hidle]

/-- The path goes on from the other one with a slash, unless that is empty or the root. -/
def GoesOn (p parent : Path) : Prop := parent.text = "" ∨
  (∃ s, p.text.toList = parent.text.toList ++ '/' :: s) ∨ parent.text = "/" ∧ ∃ s, p.text.toList = '/' :: s

/-- A path goes on from its parent. -/
theorem goesOn_parent? (h : p.parent? = some parent) : GoesOn p parent := by
  obtain ⟨-, -, hempty⟩ | ⟨front, last, u, -, hpieces, hu, rfl⟩ := cases_of_parent? h
  · exact .inl hempty
  · generalize trimPieces front = t at hpieces
    have htext := text_spelling p
    rw [hpieces] at htext
    have hparent : (ofSpelling ⟨p.spelling.lead, t⟩).text.toList = p.spelling.lead ++ joinPieces t :=
      String.toList_ofList
    by_cases ht : t = []
    · subst ht
      rw [show joinPieces [] = [] from rfl, List.append_nil] at hparent
      rcases spelling_cases p with ⟨hlead, rest, hrest⟩ | ⟨hlead, hnil | ⟨rest, hrest⟩⟩ | hlead
      · exact .inr (.inr ⟨by rw [← String.toList_inj, hparent, hlead]; rfl, rest, hrest⟩)
      · exact absurd (hpieces.symm.trans hnil) hu
      · exact .inr (.inl ⟨rest, by rw [hparent, hlead, hrest]; rfl⟩)
      · exact .inl (by rw [← String.toList_inj, hparent, hlead]; rfl)
    · refine .inr (.inl ⟨joinPieces u, ?_⟩)
      rw [htext, joinPieces_append ht hu, hparent, List.append_assoc]

namespace FileSystem

/-- A front of a path can be a path. -/
theorem isPath_of_append {text : String} {s : List Char} (h : isPath p.text = true)
    (htext : p.text.toList = text.toList ++ s) : isPath text = true := by
  have heq : p.text = text ++ String.ofList s := by simp [← String.toList_inj, htext]
  simp only [isPath, Bool.and_eq_true, decide_eq_true_eq, Bool.not_eq_true', List.contains_eq_mem,
    decide_eq_false_iff_not] at h ⊢
  rw [htext, List.mem_append, not_or, heq, String.utf8ByteSize_append] at h
  exact ⟨Nat.le_trans (Nat.le_add_right ..) h.1, h.2.1⟩

/-- A path that goes on with a slash goes on from a directory. -/
theorem isDirectory_front {r : Path} {s : List Char} (hp : IsFollowable p) (hq : fs.LeadsTo true p q) (hne : r.text ≠ "")
    (hs : p.text.toList = r.text.toList ++ '/' :: s) : fs.isDirectory r = true := by
  have hstart : startOf p.text fs.current = startOf r.text fs.current := by
    rw [startOf, startOf, hs, List.head?_append_of_ne_nil _ (by simpa using hne)]
  rw [LeadsTo, hstart, piecesOf_of_toList hs, String.ofList_toList] at hq
  obtain ⟨left, d, hd, hdir, -⟩ := hq.split (piecesOf_ne_nil _)
  exact isDirectory_iff.mpr ⟨d, ⟨⟨hne, isPath_of_append hp.2 hs⟩, hd⟩, hdir⟩

/-- A path that leads somewhere goes on from directories. -/
theorem isDirectory_of_goesOn (h : GoesOn p parent) (hp : IsFollowable p) (hq : fs.LeadsTo true p q)
    (hne : parent.text ≠ "") : fs.isDirectory parent = true := by
  rcases h with hempty | ⟨s, hs⟩ | ⟨hroot, s, hs⟩
  · exact absurd hempty hne
  · exact isDirectory_front hp hq hne hs
  · have hstart : startOf p.text fs.current = [] := by simp [startOf, hs]
    have hpieces : piecesOf p.text = [""] ++ piecesOf (String.ofList s) := piecesOf_of_toList (s := []) hs
    rw [LeadsTo, hstart, hpieces] at hq
    have hdir : fs.tree.HasDirectory [] := hq.hasDirectory
    have hsome : (fs.tree.at? []).isSome := rfl
    have hleads : fs.LeadsTo true parent [] := by
      rw [LeadsTo, hroot]
      exact .stay hdir (.inl rfl) (.stay hdir (.inl rfl) (.done hsome))
    exact isDirectory_iff.mpr ⟨[], ⟨⟨hne, by rw [hroot]; decide⟩, hleads⟩, hdir⟩

/-- The parent of a path that leads somewhere is empty or leads to a directory. -/
theorem isDirectory_parent (h : p.parent? = some parent) (hp : IsFollowable p) (hq : fs.LeadsTo true p q)
    (hne : parent.text ≠ "") : fs.isDirectory parent = true := isDirectory_of_goesOn (goesOn_parent? h) hp hq hne

/-- The path to a directory ends in an entry, a link perhaps. -/
theorem found_of_isDirectory (h : fs.isDirectory p = true) : ∃ q e, fs.target false p = .found q e := by
  obtain ⟨q, ⟨hp, hq⟩, entries, hentries⟩ := isDirectory_iff.mp h
  obtain ⟨q', hq', hsome⟩ := hq.unfollowed (by rw [hentries]; rfl)
  obtain ⟨e, he⟩ := Option.isSome_iff_exists.mp hsome
  exact ⟨q', e, target_eq_found_iff.mpr ⟨⟨hp, hq'⟩, he⟩⟩

/-- Slashes at the end of a path to a directory can be left out. -/
theorem isDirectory_withoutEndSlashes (h : fs.isDirectory p = true) : fs.isDirectory (withoutEndSlashes p) = true := by
  have hsplit : p.text.toList = dropEndWhile (· == '/') p.text.toList ++
      (p.text.toList.reverse.takeWhile (· == '/')).reverse := by
    rw [dropEndWhile, ← List.reverse_append, List.takeWhile_append_dropWhile, List.reverse_reverse]
  unfold withoutEndSlashes
  cases hfront : dropEndWhile (· == '/') p.text.toList with
  | nil => exact h
  | cons c front =>
    rw [hfront] at hsplit
    cases hslashes : (p.text.toList.reverse.takeWhile (· == '/')).reverse with
    | nil =>
      rw [hslashes, List.append_nil] at hsplit
      have hp : (⟨String.ofList (c :: front)⟩ : Path) = p := by
        rw [← hsplit, String.ofList_toList]
      exact hp ▸ h
    | cons slash more =>
      obtain ⟨q, ⟨hp, hq⟩, -⟩ := isDirectory_iff.mp h
      have hslash : slash = '/' := by
        have hmem : slash ∈ p.text.toList.reverse.takeWhile (· == '/') := by
          rw [← List.mem_reverse, hslashes]
          exact List.mem_cons_self
        simpa using List.all_eq_true.mp List.all_takeWhile slash hmem
      rw [hslashes, hslash] at hsplit
      exact isDirectory_front hp hq (by simp [← String.toList_inj]) (by rw [String.toList_ofList]; exact hsplit)

end FileSystem

/-! ## Names of files -/

/-- The steps of a path are those of its pieces between slashes that count. -/
theorem components_eq (p : Path) :
    p.components = leadComponents p.spelling.lead ++ (splitAt '/' p.text.toList).filterMap pieceComponent? := by
  unfold components spelling
  split
  · next rest h => rw [h]; rfl
  · next h => rw [h]; rfl
  · next rest h => rw [h]; rfl
  · rfl

/-- The name of an entry is a component by itself. -/
theorem pieceComponent?_of_isEntryName (h : isEntryName name = true) :
    pieceComponent? name.toList = some (.name name) := by
  simp only [isEntryName, Bool.and_eq_true, bne_iff_ne, ne_eq] at h
  obtain ⟨⟨⟨hempty, hpoint⟩, hparent⟩, -⟩ := h
  have hidle : isIdle name.toList = false := by
    simp only [isIdle, Bool.or_eq_false_iff, beq_eq_false_iff_ne, ne_eq]
    refine ⟨by simpa using hempty, fun hp => hpoint ?_⟩
    rw [← String.toList_inj, hp]
    rfl
  have hup : name.toList ≠ ['.', '.'] := fun hp => hparent (by rw [← String.toList_inj, hp]; rfl)
  rw [pieceComponent?, hidle, if_neg (by decide), if_neg hup, String.ofList_toList]

/-- A path whose last piece is a name has this file name. -/
theorem fileName?_of_piecesOf {a : List String} (hname : isEntryName name = true) (hp : piecesOf p.text = a ++ [name]) :
    p.fileName? = some name := by
  obtain ⟨front, last, hsplit, -, hlast⟩ := List.map_eq_append_iff.mp hp
  have hlast : last = [name.toList] := by
    obtain ⟨piece, rfl, hpiece⟩ := List.map_eq_singleton_iff.mp hlast
    rw [← hpiece, String.toList_ofList]
  rw [fileName?, components_eq, hsplit, hlast, List.filterMap_append,
    List.filterMap_cons_some (pieceComponent?_of_isEntryName hname), List.filterMap_nil, ← List.append_assoc,
    List.getLast?_concat]

/-- A path with a name joined to it has that file name. -/
theorem fileName?_join (p : Path) (hname : isEntryName name = true) : (p.join name).fileName? = some name := by
  obtain ⟨a, ha⟩ := exists_piecesOf_join p (a := []) (piecesOf_of_isEntryName hname)
  exact fileName?_of_piecesOf hname ha

/-- Whether a file has one of some extensions depends on its name only. -/
theorem hasExtension_eq {extensions : List String} {r : Path} (h : p.fileName? = r.fileName?) :
    Discover.hasExtension extensions p = Discover.hasExtension extensions r := by
  unfold Discover.hasExtension extension?
  rw [h]

/-! ## The current directory -/

/-- A path that is the same as the current directory has no pieces that count. -/
theorem idle_of_same (h : p.same ⟨"."⟩ = true) :
    (∀ piece ∈ piecesOf p.text, piece = "" ∨ piece = ".") ∧ ∀ current, startOf p.text current = current := by
  have hcurrent : leadComponents p.spelling.lead ++ (splitAt '/' p.text.toList).filterMap pieceComponent? = [.current] := by
    rw [← components_eq, beq_iff_eq.mp h]
    rfl
  have hnone : Component.current ∉ (splitAt '/' p.text.toList).filterMap pieceComponent? := by
    intro hmem
    obtain ⟨piece, -, hpiece⟩ := List.mem_filterMap.mp hmem
    unfold pieceComponent? at hpiece
    split at hpiece
    · cases hpiece
    · split at hpiece <;> cases hpiece
  have htext := text_spelling p
  rcases spelling_cases p with ⟨hlead, -⟩ | ⟨hlead, -⟩ | hlead
  · rw [hlead] at hcurrent
    cases hcurrent
  · rw [hlead] at hcurrent htext
    have hempty : (splitAt '/' p.text.toList).filterMap pieceComponent? = [] := (List.cons.inj hcurrent).2
    refine ⟨fun piece hpiece => ?_, fun current => ?_⟩
    · obtain ⟨chars, hchars, rfl⟩ := List.mem_map.mp hpiece
      have hcounts := List.filterMap_eq_nil_iff.mp hempty chars hchars
      unfold pieceComponent? at hcounts
      split at hcounts
      · next hidle =>
        simp only [isIdle, Bool.or_eq_true, List.isEmpty_iff, beq_iff_eq] at hidle
        rcases hidle with rfl | rfl
        · exact .inl rfl
        · exact .inr rfl
      · split at hcounts <;> cases hcounts
    · rw [startOf, htext]
      rfl
  · rw [hlead] at hcurrent
    exact absurd (by rw [show (splitAt '/' p.text.toList).filterMap pieceComponent? = [.current] from hcurrent]
                     exact List.mem_singleton_self _) hnone

end Phrasebook
