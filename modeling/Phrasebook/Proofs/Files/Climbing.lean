import Phrasebook.Proofs.Files.Exactness
import Phrasebook.Proofs.Text.Unread

/-!
# Parents and names

Without steps up, a path leads by its names from where it starts (`namedPlace`). The parent of a path is a shorter path that
starts at the same place and has the same names but for the last one, if there is one. In a plain tree, what is joined to such
a path exists exactly if the tree has an entry at that place (`exists?_join_iff`).
-/

namespace Phrasebook

open FileSystem Entry Phrasebook.Path Text

variable {p parent : Path} {name t : String} {pieces u v : List (List Char)} {steps : List String} {tree : Entry}
  {place q : Place} {fs : FileSystem} {links : Nat}

/-! ## Names -/

/-- The names in a path. -/
def namesOf (path : String) : List String := (piecesOf path).filter counts

/-- The place that the names of a path lead to from where it starts. -/
def FileSystem.namedPlace (fs : FileSystem) (p : Path) : Place := startOf p.text fs.current ++ namesOf p.text

/-- The names among pieces. -/
def namesAmong (pieces : List (List Char)) : List String := (pieces.filter fun piece => !isIdle piece).map String.ofList

/-- The names of a path are those among the pieces between its slashes. -/
theorem namesOf_eq (path : String) : namesOf path = namesAmong (splitAt '/' path.toList) := by
  have hcounts : counts ∘ String.ofList = fun piece => !isIdle piece := by
    funext piece
    rw [Function.comp_apply, ← Bool.not_not (counts _), ← isIdle_toList, String.toList_ofList]
  rw [namesOf, namesAmong, piecesOf, List.filter_map, hcounts]

/-- Each piece is a name or not by itself. -/
theorem namesAmong_append (u v : List (List Char)) : namesAmong (u ++ v) = namesAmong u ++ namesAmong v := by
  rw [namesAmong, List.filter_append, List.map_append]
  rfl

/-- What trimming leaves out is no name. -/
theorem namesAmong_trimPieces (pieces : List (List Char)) : namesAmong (trimPieces pieces) = namesAmong pieces := by
  obtain ⟨idle, hsplit, hidle⟩ := trimPieces_append pieces
  have hnone : namesAmong idle = [] := by
    rw [namesAmong, List.map_eq_nil_iff, List.filter_eq_nil_iff]
    intro piece hpiece
    simp [hidle piece hpiece]
  conv_rhs => rw [hsplit, namesAmong_append, hnone, List.append_nil]

/-- The last piece after trimming counts. -/
theorem isIdle_of_trimPieces {last : List Char} (h : trimPieces pieces = u ++ [last]) : isIdle last = false := by
  have hhead : (pieces.reverse.dropWhile isIdle).head? = some last := by
    have hreverse := congrArg List.reverse h
    rw [trimPieces, List.reverse_reverse, List.reverse_append] at hreverse
    rw [hreverse]
    rfl
  have hnot := List.head?_dropWhile_not isIdle pieces.reverse
  rw [hhead] at hnot
  simpa using hnot

/-- A step up counts as a name. -/
theorem up_mem_namesOf_iff (path : String) : ".." ∈ namesOf path ↔ ".." ∈ piecesOf path := by
  rw [namesOf, List.mem_filter, and_iff_left (by decide)]

/-- Joining puts the names of a relative path behind those of the first one. -/
theorem namesOf_join (p : Path) (ht : t.toList.head? ≠ some '/') : namesOf (p.join t).text = namesOf p.text ++ namesOf t := by
  obtain ⟨front, hjoin, hpieces, -⟩ := piecesOf_join p ht
  rw [namesOf, namesOf, hjoin, List.filter_append]
  rcases hpieces with h | h
  · rw [h, namesOf]
  · rw [h, List.filter_append, show [""].filter counts = [] from rfl, List.append_nil, namesOf]

/-! ## Spelled pieces -/

/-- The pieces are ones that a path is made of behind what comes before them: none holds a slash, and behind a point at the
start comes a slash. -/
structure Path.Spelling.IsSpelled (s : Spelling) : Prop where
  lead : s.lead = ['/'] ∨ s.lead = [] ∨ s.lead = ['.'] ∧ (s.pieces = [] ∨ ∃ others, s.pieces = [] :: others)
  slash : ∀ piece ∈ s.pieces, '/' ∉ piece

/-- The pieces that a path is taken apart into were cut at its slashes. -/
theorem isSpelled_spelling (p : Path) : p.spelling.IsSpelled := by
  unfold spelling
  split
  · exact ⟨.inl rfl, fun piece hpiece => not_mem_of_mem_splitAt hpiece⟩
  · exact ⟨.inr (.inr ⟨rfl, .inl rfl⟩), fun _ h => nomatch h⟩
  · refine ⟨.inr (.inr ⟨rfl, .inr ⟨_, rfl⟩⟩), fun piece hpiece => ?_⟩
    rcases List.mem_cons.mp hpiece with rfl | hpiece
    · exact List.not_mem_nil
    · exact not_mem_of_mem_splitAt hpiece
  · exact ⟨.inr (.inl rfl), fun piece hpiece => not_mem_of_mem_splitAt hpiece⟩

/-- A spelling may end after any of its pieces. -/
theorem Path.Spelling.IsSpelled.front {lead : List Char} (h : Spelling.IsSpelled ⟨lead, u ++ v⟩) :
    Spelling.IsSpelled ⟨lead, u⟩ := by
  refine ⟨h.lead.imp_right (Or.imp_right fun ⟨hlead, hfirst⟩ => ⟨hlead, ?_⟩), fun piece hpiece =>
    h.slash piece (List.mem_append_left _ hpiece)⟩
  cases u with
  | nil => exact .inl rfl
  | cons first others =>
    obtain hnil | ⟨rest, hrest⟩ := hfirst
    · cases hnil
    · obtain ⟨rfl, -⟩ := List.cons.inj hrest
      exact .inr ⟨others, rfl⟩

/-- Pieces joined with slashes have the names that they had before. -/
theorem namesAmong_splitAt_joinPieces (h : ∀ piece ∈ pieces, '/' ∉ piece) :
    namesAmong (splitAt '/' (joinPieces pieces)) = namesAmong pieces := by
  induction pieces with
  | nil => rfl
  | cons piece others ih =>
    obtain ⟨hpiece, hothers⟩ := List.forall_mem_cons.mp h
    by_cases hnil : others = []
    · subst hnil
      rw [show joinPieces [piece] = piece from List.append_nil piece, splitAt_of_not_mem hpiece]
    · rw [joinPieces_cons piece hnil, splitAt_append, splitAt_of_not_mem hpiece, namesAmong_append, ih hothers,
        ← namesAmong_append]
      rfl

/-- The names of a path that is put together from its parts. -/
theorem Path.Spelling.IsSpelled.namesOf_eq {s : Spelling} (h : s.IsSpelled) :
    namesOf (ofSpelling s).text = namesAmong s.pieces := by
  obtain ⟨lead, pieces⟩ := s
  have hslash : ∀ front others : List (List Char), (∀ piece ∈ others, '/' ∉ piece) → namesAmong front = [] →
      namesAmong (front ++ splitAt '/' (joinPieces others)) = namesAmong others := fun front others hothers hfront => by
    rw [namesAmong_append, hfront, namesAmong_splitAt_joinPieces hothers, List.nil_append]
  rw [Phrasebook.namesOf_eq, ofSpelling, String.toList_ofList]
  rcases h.lead with hlead | hlead | ⟨hlead, hnil | ⟨others, hothers⟩⟩
  all_goals obtain rfl : lead = _ := hlead
  · rw [List.singleton_append, ← List.nil_append ('/' :: _), splitAt_append]
    exact hslash [[]] pieces h.slash rfl
  · rw [List.nil_append]
    exact hslash [] pieces h.slash rfl
  · obtain rfl : pieces = [] := hnil
    rfl
  · obtain rfl : pieces = [] :: others := hothers
    by_cases hothers : others = []
    · subst hothers
      rfl
    · rw [joinPieces_cons [] hothers, List.nil_append, splitAt_append]
      exact hslash [['.']] others (List.forall_mem_cons.mp h.slash).2 rfl

theorem namesAmong_map_toList (names : List String) : namesAmong (names.map String.toList) = names.filter counts := by
  have hidle : (fun piece => !isIdle piece) ∘ String.toList = counts := by
    funext piece
    rw [Function.comp_apply, isIdle_toList, Bool.not_not]
  rw [namesAmong, List.filter_map, hidle, List.map_map]
  exact (List.map_congr_left fun name _ => String.ofList_toList).trans (List.map_id _)

/-- The current directory as a path has the names of its place. -/
theorem namesOf_currentPath (hnames : ∀ name ∈ fs.current, isEntryName name = true) :
    namesOf fs.currentPath.text = fs.current := by
  have htext : fs.currentPath.text.toList = (ofSpelling ⟨['/'], fs.current.map String.toList⟩).text.toList := by
    rw [currentPath, String.toList_append, String.toList_intercalate]
    exact String.toList_ofList.symm
  have hspelled : Spelling.IsSpelled ⟨['/'], fs.current.map String.toList⟩ := by
    refine ⟨.inl rfl, fun piece hpiece => ?_⟩
    obtain ⟨name, hname, rfl⟩ := List.mem_map.mp hpiece
    exact not_mem_of_isEntryName (hnames name hname)
  rw [String.toList_inj.mp htext, hspelled.namesOf_eq, namesAmong_map_toList, List.filter_eq_self]
  intro name hname
  simpa [counts] using (isStep_of_isEntryName (hnames name hname)).1

/-! ## Parents -/

/-- A path taken apart and put together again is the same path. -/
theorem ofSpelling_spelling (p : Path) : ofSpelling p.spelling = p := by
  rw [ofSpelling, ← text_spelling, String.ofList_toList]

/-- Slashes and points at the end of a path name nothing, so the trimmed pieces have all its names. -/
theorem namesOf_text (p : Path) : namesOf p.text = namesAmong (trimPieces p.spelling.pieces) := by
  have h := (isSpelled_spelling p).namesOf_eq
  rwa [ofSpelling_spelling, ← namesAmong_trimPieces] at h

/-- Only a path without names has no parent. -/
theorem namesOf_of_parent?_eq_none (h : p.parent? = none) : namesOf p.text = [] := by
  simp only [parent?] at h
  split at h
  · next hempty => rw [namesOf_text, List.isEmpty_iff.mp hempty]; rfl
  · cases h

/-- The parent has the names of the path without the last one. -/
theorem namesOf_parent? (h : p.parent? = some parent) : namesOf parent.text = (namesOf p.text).dropLast := by
  rw [namesOf_text p]
  obtain ⟨-, hnil, hempty⟩ | ⟨front, last, behind, hlast, hpieces, -, rfl⟩ := cases_of_parent? h
  · rw [hnil, hempty]
    rfl
  · have hspelled : Spelling.IsSpelled ⟨p.spelling.lead, trimPieces front ++ behind⟩ := by
      rw [← hpieces]
      exact isSpelled_spelling p
    have hname : namesAmong [last] = [String.ofList last] := by
      rw [namesAmong, List.filter_cons_of_pos (by rw [isIdle_of_trimPieces hlast]; rfl)]
      rfl
    rw [hspelled.front.namesOf_eq, namesAmong_trimPieces, hlast, namesAmong_append, hname, List.dropLast_concat]

/-- A path and its parent start at the same place. -/
theorem head?_parent? (h : p.parent? = some parent) :
    parent.text.toList.head? = some '/' ↔ p.text.toList.head? = some '/' := by
  by_cases hempty : parent.text = ""
  · refine iff_of_false (by rw [hempty]; decide) fun hhead => ?_
    have hlead := lead_spelling p
    rw [if_pos hhead] at hlead
    obtain ⟨hpoint, -⟩ | ⟨front, last, behind, -, -, -, rfl⟩ := cases_of_parent? h
    · cases hlead.symm.trans hpoint
    · have htext := congrArg String.toList hempty
      rw [ofSpelling, String.toList_ofList, hlead] at htext
      cases htext
  · have hne : parent.text.toList ≠ [] := fun hnil => hempty (String.toList_inj.mp hnil)
    obtain hnil | ⟨s, hs⟩ | ⟨hroot, s, hs⟩ := goesOn_parent? h
    · exact absurd hnil hempty
    · rw [hs, List.head?_append_of_ne_nil _ hne]
    · exact iff_of_true (by rw [hroot]; decide) (by rw [hs]; rfl)

/-- A parent starts at the root exactly if the path does. -/
theorem startOf_parent? (h : p.parent? = some parent) (current : Place) :
    startOf parent.text current = startOf p.text current := by
  simp only [startOf, head?_parent? h]

/-- The parent of a path is shorter. -/
theorem length_parent?_lt (h : p.parent? = some parent) : parent.text.length < p.text.length := by
  rw [← String.length_toList, ← String.length_toList]
  obtain hempty | ⟨s, hs⟩ | ⟨hroot, s, hs⟩ := goesOn_parent? h
  · rw [hempty]
    refine List.length_pos_of_ne_nil fun hnil => ?_
    have hp : p = ⟨""⟩ := congrArg Path.mk (String.toList_inj.mp hnil)
    have hnone : (⟨""⟩ : Path).parent? = none := by decide
    rw [hp, hnone] at h
    cases h
  · rw [hs, List.length_append, List.length_cons]
    omega
  · rw [hroot, hs]
    cases s with
    | nil =>
      have hp : p = ⟨"/"⟩ := congrArg Path.mk (String.toList_inj.mp hs)
      have hnone : (⟨"/"⟩ : Path).parent? = none := by decide
      rw [hp, hnone] at h
      cases h
    | cons c s => exact Nat.succ_lt_succ (Nat.succ_pos _)

/-! ## Room for a name -/

/-- What is put behind a path before something is joined to it. -/
def Path.separator (p : Path) : List Char := if p.text = "" ∨ p.text.toList.getLast? = some '/' then [] else ['/']

/-- A name is written behind the path, with a slash between the two where one is needed. -/
theorem toList_join (p : Path) (ht : t.toList.head? ≠ some '/') :
    (p.join t).text.toList = p.text.toList ++ p.separator ++ t.toList := by
  rw [Path.join, if_neg ht, separator]
  split
  · rw [String.toList_append, List.append_nil]
  · rw [String.toList_append, String.toList_append]
    rfl

/-- What has no more bytes than a path and no character zero that the path has not can be a path. -/
theorem isPath_of_le {a b : String} (hb : isPath b = true) (hbytes : byteLength a.toList ≤ byteLength b.toList)
    (hzero : Char.ofNat 0 ∈ a.toList → Char.ofNat 0 ∈ b.toList) : isPath a = true := by
  rw [byteLength_eq_utf8ByteSize, byteLength_eq_utf8ByteSize, String.ofList_toList, String.ofList_toList] at hbytes
  simp only [isPath, Bool.and_eq_true, decide_eq_true_eq, Bool.not_eq_true', List.contains_eq_mem,
    decide_eq_false_iff_not] at hb ⊢
  exact ⟨Nat.le_trans hbytes hb.1, fun hmem => hb.2 (hzero hmem)⟩

/-- Leaving characters out makes no path too long. -/
theorem isPath_of_sublist {a b : String} (hb : isPath b = true) (h : a.toList.Sublist b.toList) : isPath a = true :=
  isPath_of_le hb (byteLength_le_of_sublist h) fun hmem => h.mem hmem

/-- Where there is room for a name in a directory, there is in the one around it. -/
theorem isPath_join_parent (h : p.parent? = some parent) (ht : t.toList.head? ≠ some '/')
    (hp : isPath (p.join t).text = true) : isPath (parent.join t).text = true := by
  refine isPath_of_sublist hp ?_
  rw [toList_join p ht, toList_join parent ht]
  refine List.Sublist.append_right ?_ _
  obtain hempty | ⟨s, hs⟩ | ⟨hroot, s, hs⟩ := goesOn_parent? h
  · rw [hempty, separator, if_pos (.inl hempty)]
    exact List.nil_sublist _
  · have hseparator : parent.separator.Sublist ('/' :: s) := by
      unfold separator
      split
      · exact List.nil_sublist _
      · exact (List.nil_sublist s).cons_cons '/'
    rw [hs]
    exact ((hseparator.append_left _).trans (List.sublist_append_left _ _))
  · rw [hroot, separator, if_pos (.inr (by rw [hroot]; decide)), hs]
    exact ((List.nil_sublist s).cons_cons '/').trans (List.sublist_append_left _ _)

/-- Where there is room for a name behind two paths that are joined, there is behind the second one. -/
theorem isPath_join_second {u : String} (hu : u.toList.head? ≠ some '/') (ht : t.toList.head? ≠ some '/')
    (hp : isPath ((p.join u).join t).text = true) : isPath ((⟨u⟩ : Path).join t).text = true := by
  refine isPath_of_sublist hp ?_
  rw [toList_join _ ht, toList_join (p.join u) ht]
  refine List.Sublist.append_right ?_ _
  have hjoin := toList_join p hu
  by_cases hempty : u = ""
  · rw [separator, if_pos (.inl hempty), hempty]
    exact List.nil_sublist _
  · have hne : u.toList ≠ [] := fun hnil => hempty (String.toList_inj.mp hnil)
    have hseparator : (p.join u).separator = (⟨u⟩ : Path).separator := by
      have hlast : (p.join u).text.toList.getLast? = u.toList.getLast? := by
        rw [hjoin, List.getLast?_append_of_ne_nil _ hne]
      have hjoined : (p.join u).text ≠ "" := fun h => hne (by
        rw [h] at hjoin
        exact (List.append_eq_nil_iff.mp hjoin.symm).2)
      simp only [separator, hlast, hjoined, hempty]
    rw [hseparator, hjoin]
    exact (List.sublist_append_right _ _).append_right _

/-- Where there is room for a name in a directory, there is for one that is not longer. -/
theorem isPath_join_of_le (ht : t.toList.head? ≠ some '/') (hname : name.toList.head? ≠ some '/')
    (hp : isPath (p.join t).text = true) (hbytes : byteLength name.toList ≤ byteLength t.toList)
    (hzero : Char.ofNat 0 ∉ name.toList) : isPath (p.join name).text = true := by
  have htext := toList_join p ht
  have hjoin := toList_join p hname
  refine isPath_of_le hp ?_ fun hmem => ?_
  · rw [htext, hjoin, byteLength_append, byteLength_append _ t.toList]
    exact Nat.add_le_add_left hbytes _
  · rw [hjoin, List.mem_append] at hmem
    rw [htext]
    exact List.mem_append_left _ (hmem.resolve_right hzero)

/-! ## What exists -/

/-- A tree as it can be on a disk, without links. -/
structure IsPlainTree (tree : Entry) : Prop where
  proper : tree.isProper = true
  noLinks : HasNoLinks tree
  shortNames : ∀ place name, (tree.at? (place ++ [name])).isSome → name.utf8ByteSize ≤ maxNameLength

mutual

/-- Are the names in each directory short enough? -/
def Entry.hasShortNames : Entry → Bool
  | .directory entries => haveShortNames entries
  | _ => true

/-- Are the names of the entries short enough, and those in them? -/
def Entry.haveShortNames : List (String × Entry) → Bool
  | [] => true
  | (name, e) :: entries => decide (name.utf8ByteSize ≤ maxNameLength) && e.hasShortNames && haveShortNames entries

end

/-- In a directory whose names are short, each entry has a short name and short names below it. -/
theorem Entry.shortName_of_mem {entries : List (String × Entry)} {pair : String × Entry} (h : haveShortNames entries = true)
    (hpair : pair ∈ entries) : pair.1.utf8ByteSize ≤ maxNameLength ∧ pair.2.hasShortNames = true := by
  induction entries with
  | nil => cases hpair
  | cons first entries ih =>
    obtain ⟨hfirst, hentries⟩ := Bool.and_eq_true_iff.mp h
    rcases List.mem_cons.mp hpair with rfl | hpair
    · exact (Bool.and_eq_true_iff.mp hfirst).imp_left of_decide_eq_true
    · exact ih hentries hpair

/-- The three checks on an entry together make it a plain tree. -/
theorem isPlainTree_of_checks (hproper : tree.isProper = true) (hlinks : tree.isLinkless = true)
    (hnames : tree.hasShortNames = true) : IsPlainTree tree := by
  refine ⟨hproper, hasNoLinks_of_isLinkless hlinks, fun place name hsome => ?_⟩
  clear hproper hlinks
  induction place generalizing tree with
  | nil =>
    obtain ⟨e, he⟩ := Option.isSome_iff_exists.mp hsome
    obtain ⟨child, hchild, -⟩ := Option.bind_eq_some_iff.mp he
    obtain ⟨entries, rfl⟩ := eq_directory_of_child? hchild
    exact (shortName_of_mem hnames (OrderedMap.mem_of_find hchild)).1
  | cons first place ih =>
    obtain ⟨e, he⟩ := Option.isSome_iff_exists.mp hsome
    obtain ⟨child, hchild, hrest⟩ := Option.bind_eq_some_iff.mp he
    obtain ⟨entries, rfl⟩ := eq_directory_of_child? hchild
    exact ih (shortName_of_mem hnames (OrderedMap.mem_of_find hchild)).2 (Option.isSome_of_eq_some hrest)

/-- What has an entry in it is a directory. -/
theorem hasDirectory_of_isSome (h : (tree.at? (place ++ name :: q)).isSome) : tree.HasDirectory place := by
  rw [at?_append] at h
  obtain ⟨below, hbelow⟩ := Option.isSome_iff_exists.mp h
  obtain ⟨e, he, hrest⟩ := Option.bind_eq_some_iff.mp hbelow
  obtain ⟨child, hchild, -⟩ := Option.bind_eq_some_iff.mp hrest
  obtain ⟨entries, rfl⟩ := eq_directory_of_child? hchild
  exact ⟨entries, he⟩

/-- In a plain tree, pieces that end with a name and have no step up lead to the entry that their names lead to. -/
theorem leads_of_at? (htree : IsPlainTree tree) (hname : isEntryName name = true) (hup : ".." ∉ steps)
    (h : (tree.at? (place ++ (steps.filter counts ++ [name]))).isSome) :
    Leads tree true links place (steps ++ [name]) (place ++ (steps.filter counts ++ [name])) := by
  induction steps generalizing place with
  | nil =>
    obtain ⟨hstay, hup⟩ := isStep_of_isEntryName hname
    obtain ⟨e, he⟩ := Option.isSome_iff_exists.mp h
    exact .down (hasDirectory_of_isSome h) ⟨hstay, hup, htree.shortNames _ _ h⟩ he
      (fun target hlink => htree.noLinks _ target (hlink ▸ he)) (.done h)
  | cons piece steps ih =>
    rw [List.mem_cons, not_or] at hup
    by_cases hidle : piece = "" ∨ piece = "."
    · have hcounts : ¬counts piece = true := by rcases hidle with rfl | rfl <;> decide
      rw [List.filter_cons_of_neg hcounts] at h ⊢
      have hdir : tree.HasDirectory place := by
        obtain ⟨first, others, hnames⟩ := List.exists_cons_of_ne_nil (List.append_ne_nil_of_right_ne_nil
          (steps.filter counts) (List.cons_ne_nil name []))
        rw [hnames] at h
        exact hasDirectory_of_isSome h
      exact .stay hdir hidle (ih hup.2 h)
    · have hcounts : counts piece = true := by simpa [counts] using hidle
      rw [List.filter_cons_of_pos hcounts] at h ⊢
      have hdir := hasDirectory_of_isSome h
      have hplace : place ++ (piece :: steps.filter counts ++ [name]) =
          place ++ [piece] ++ (steps.filter counts ++ [name]) := List.append_cons ..
      rw [hplace] at h ⊢
      have hentry : (tree.at? (place ++ [piece])).isSome := by
        rw [at?_append] at h
        obtain ⟨below, hbelow⟩ := Option.isSome_iff_exists.mp h
        obtain ⟨e, he, -⟩ := Option.bind_eq_some_iff.mp hbelow
        rw [he]
        rfl
      obtain ⟨e, he⟩ := Option.isSome_iff_exists.mp hentry
      exact .down hdir ⟨hidle, Ne.symm hup.1, htree.shortNames _ _ hentry⟩ he
        (fun target hlink => htree.noLinks _ target (hlink ▸ he)) (ih hup.2 h)

/-- Where a name that is joined to a path without steps up leads, if there is something. -/
theorem leadsTo_join_iff (htree : IsPlainTree fs.tree) (hup : ".." ∉ piecesOf p.text) (hname : isEntryName name = true)
    (hq : (fs.tree.at? q).isSome) : fs.LeadsTo true (p.join name) q ↔ q = fs.namedPlace p ++ [name] := by
  obtain ⟨front, hjoin, hpieces, hstart⟩ := piecesOf_join p (head?_of_isEntryName hname)
  have hnames : namesOf p.text = front.filter counts := by
    rcases hpieces with h | h
    · rw [namesOf, h]
    · rw [namesOf, h, List.filter_append, show [""].filter counts = [] from rfl, List.append_nil]
  have hfront : ".." ∉ front := fun hmem => hup (by
    rcases hpieces with h | h
    · exact h ▸ hmem
    · exact h ▸ List.mem_append_left _ hmem)
  obtain ⟨hstay, hstep⟩ := isStep_of_isEntryName hname
  have hcounts : [name].filter counts = [name] := List.filter_cons_of_pos (by simpa [counts] using hstay)
  have hplace : fs.namedPlace p ++ [name] = startOf p.text fs.current ++ (front.filter counts ++ [name]) := by
    rw [namedPlace, hnames, List.append_assoc]
  rw [LeadsTo, hjoin, hstart, piecesOf_of_isEntryName hname, hplace]
  constructor
  · intro h
    have hend := h.eq_of_hasNoLinks htree.noLinks fun hmem => by
      rcases List.mem_append.mp hmem with hmem | hmem
      · exact hfront hmem
      · exact hstep (List.mem_singleton.mp hmem).symm
    rwa [List.filter_append, hcounts] at hend
  · rintro rfl
    exact leads_of_at? htree hname hfront hq

/-- A path that ends in the name of an entry can be followed unless it is too long. -/
theorem isFollowable_join (hname : isEntryName name = true) (hpath : isPath (p.join name).text = true) :
    IsFollowable (p.join name) := by
  refine ⟨fun hempty => ?_, hpath⟩
  have htext := toList_join p (head?_of_isEntryName hname)
  rw [hempty] at htext
  have hnil : name.toList = "".toList := (List.append_eq_nil_iff.mp htext.symm).2
  rw [String.toList_inj.mp hnil] at hname
  cases hname

/-- A name in the directory of a path exists exactly if the tree has an entry there. -/
theorem exists?_join_iff (htree : IsPlainTree fs.tree) (hup : ".." ∉ piecesOf p.text) (hname : isEntryName name = true)
    (hpath : isPath (p.join name).text = true) :
    fs.exists? (p.join name) = true ↔ (fs.tree.at? (fs.namedPlace p ++ [name])).isSome := by
  rw [exists?_iff]
  constructor
  · rintro ⟨q, ⟨-, hleads⟩, hq⟩
    exact (leadsTo_join_iff htree hup hname hq).mp hleads ▸ hq
  · intro h
    exact ⟨_, ⟨isFollowable_join hname hpath, (leadsTo_join_iff htree hup hname h).mpr rfl⟩, h⟩

/-- A path without steps up leads by its names to the entry at its end. -/
theorem placeOf?_join (htree : IsPlainTree fs.tree) (hup : ".." ∉ piecesOf p.text) (hname : isEntryName name = true)
    (hpath : isPath (p.join name).text = true) (h : (fs.tree.at? (fs.namedPlace p ++ [name])).isSome) :
    fs.placeOf? (p.join name) = some (fs.namedPlace p ++ [name]) :=
  placeOf?_eq_some_iff.mpr ⟨isFollowable_join hname hpath, (leadsTo_join_iff htree hup hname h).mpr rfl⟩

end Phrasebook
