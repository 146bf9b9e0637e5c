import Mathlib.Data.List.Sort
import Phrasebook.Files.Expand
import Phrasebook.Proofs.Files.Writing

/-!
# Globs in a tree that grows

What a glob describes lies below the path where its expansion begins (`allBelow`). So once a tree has grown, a glob
describes the same directories of those that were there before, in the same order (`filter_expand?`): whatever else it
describes goes through a name that is new.
-/

namespace Phrasebook

open FileSystem Entry

variable {fs old new : FileSystem} {p r : Path} {name : String} {names : List String} {q : Place} {written : Place → Prop}

namespace FileSystem

/-! ## Directories that paths reach -/

/-- The path leads to a directory, whatever its length. -/
def Reaches (fs : FileSystem) (p : Path) : Prop := ∃ q, fs.LeadsTo true p q ∧ fs.tree.HasDirectory q

/-- A path is one of a directory if it can be followed and leads to one. -/
theorem isDirectory_iff_reaches : fs.isDirectory p = true ↔ IsFollowable p ∧ fs.Reaches p := by
  rw [isDirectory_iff]
  constructor
  · rintro ⟨q, ⟨hp, hq⟩, hdir⟩
    exact ⟨hp, q, hq, hdir⟩
  · rintro ⟨hp, q, hq, hdir⟩
    exact ⟨q, ⟨hp, hq⟩, hdir⟩

/-- What is joined to a path is reached through it. -/
theorem Reaches.of_join {t : String} (ht : t.toList.head? ≠ some '/') (h : fs.Reaches (p.join t)) : fs.Reaches p := by
  obtain ⟨q, hq, -⟩ := h
  obtain ⟨-, d, hd, hdir, -⟩ := hq.of_join ht
  exact ⟨d, hd, hdir⟩

/-- Pieces that do not count lead nowhere else. -/
theorem Leads.idle {tree : Entry} {links : Nat} {place : Place} {pieces : List String}
    (hidle : ∀ piece ∈ pieces, piece = "" ∨ piece = ".") (hdir : tree.HasDirectory place) :
    Leads tree true links place pieces place := by
  induction pieces with
  | nil =>
    obtain ⟨entries, hentries⟩ := hdir
    exact .done (by rw [hentries]; rfl)
  | cons piece rest ih =>
    exact .stay hdir (hidle _ List.mem_cons_self) (ih fun x hx => hidle x (List.mem_cons_of_mem _ hx))

/-- A name below a path leads on from the place of that path. -/
theorem LeadsTo.of_below (hname : name.toList.head? ≠ some '/') (h : fs.LeadsTo true (Glob.below p name) q) :
    ∃ left d, fs.LeadsTo true p d ∧ fs.tree.HasDirectory d ∧ Leads fs.tree true left d (piecesOf name) q := by
  unfold Glob.below at h
  split at h
  · next hsame =>
    obtain ⟨hidle, hstart⟩ := idle_of_same hsame
    have hcurrent : startOf name fs.current = fs.current := if_neg hname
    rw [LeadsTo, hcurrent] at h
    obtain ⟨piece, rest, hpieces⟩ := List.exists_cons_of_ne_nil (piecesOf_ne_nil name)
    have hdir : fs.tree.HasDirectory fs.current := (hpieces ▸ h).hasDirectory
    refine ⟨_, fs.current, ?_, hdir, h⟩
    rw [LeadsTo, hstart]
    exact .idle hidle hdir
  · exact h.of_join hname

/-- So is a name below it, also below the current directory, where the name stands by itself. -/
theorem Reaches.of_below (hname : name.toList.head? ≠ some '/') (h : fs.Reaches (Glob.below p name)) : fs.Reaches p := by
  obtain ⟨q, hq, -⟩ := h
  obtain ⟨-, d, hd, hdir, -⟩ := hq.of_below hname
  exact ⟨d, hd, hdir⟩

/-- The names in a directory are those of its entries, in their order. -/
theorem list?_eq_some_iff : fs.list? p = some names ↔
    ∃ q entries, (IsFollowable p ∧ fs.LeadsTo true p q) ∧ fs.tree.at? q = some (.directory entries) ∧
      names = entries.map Prod.fst := by
  have hentry : ∀ entries, fs.entry? p = some (.directory entries) ↔
      ∃ q, (IsFollowable p ∧ fs.LeadsTo true p q) ∧ fs.tree.at? q = some (.directory entries) :=
    fun _ => entry?_eq_some_iff
  unfold list?
  constructor
  · intro h
    split at h
    · next entries he =>
      obtain ⟨q, hq, hdir⟩ := (hentry entries).mp he
      exact ⟨q, entries, hq, hdir, (Option.some.inj h).symm⟩
    · cases h
  · rintro ⟨q, entries, hq, hdir, rfl⟩
    rw [(hentry entries).mpr ⟨q, hq, hdir⟩]

/-- A directory in a directory is among the names in it. -/
theorem mem_list?_of_reaches (hname : isEntryName name = true) (hlist : fs.list? p = some names)
    (h : fs.Reaches (Glob.below p name)) : name ∈ names := by
  obtain ⟨d, entries, ⟨-, hd⟩, hentries, rfl⟩ := list?_eq_some_iff.mp hlist
  obtain ⟨q, hq, hdir⟩ := h
  obtain ⟨left, d', hd', -, hstep⟩ := hq.of_below (head?_of_isEntryName hname)
  obtain rfl := hd.unique hd'
  rw [piecesOf_of_isEntryName hname] at hstep
  obtain ⟨hstay, hup⟩ := isStep_of_isEntryName hname
  have hthere : (fs.tree.at? (d ++ [name])).isSome := by
    cases hstep with
    | stay _ hpiece => exact absurd hpiece hstay
    | up => exact absurd rfl hup
    | down _ _ hentry => exact Option.isSome_of_eq_some hentry
    | new _ _ hnone =>
      obtain ⟨below, hbelow⟩ := hdir
      exact Option.isSome_of_eq_some hbelow
    | stop hfollow => cases hfollow
    | link _ _ hlink => exact Option.isSome_of_eq_some hlink
  obtain ⟨e, he⟩ := Option.isSome_iff_exists.mp hthere
  rw [at?_concat, hentries] at he
  exact OrderedMap.mem_keys_of_find he

end FileSystem

namespace Glob

/-! ## Steps of globs -/

/-- No character of the step is a slash. -/
def Step.IsWithoutSlash (s : Step) : Prop := .char '/' ∉ s.tokens

/-- What stands behind a mark is left of the text. -/
theorem mem_of_mem_rest_readThrough? {closing c : Char} {s : List Char} {inside : Read (List Char) s.length}
    (h : Text.readThrough? closing s = some inside) (hc : c ∈ inside.rest) : c ∈ s := by
  induction s with
  | nil => cases h
  | cons d rest ih =>
    unfold Text.readThrough? at h
    split at h
    · obtain rfl := Option.some.inj h
      exact List.mem_cons_of_mem _ hc
    · obtain ⟨before, hbefore, rfl⟩ := Option.map_eq_some_iff.mp h
      exact List.mem_cons_of_mem _ (ih hbefore hc)

/-- A set stands for no single character by itself, and what follows it is the end of the text. -/
theorem readBracket?_parts {s : List Char} {set : Read Token s.length} (h : readBracket? s = some set) :
    (∀ c, set.value ≠ .char c) ∧ ∀ c ∈ set.rest, c ∈ s := by
  have hset : ∀ {t : List Char} {inside : Read (List Char) t.length}, readSet? t = some inside →
      ∀ c ∈ inside.rest, c ∈ t := by
    intro t inside hinside c hc
    unfold readSet? at hinside
    split at hinside
    · cases hinside
    · obtain ⟨before, hbefore, rfl⟩ := Option.map_eq_some_iff.mp hinside
      exact List.mem_cons_of_mem _ (mem_of_mem_rest_readThrough? hbefore hc)
  unfold readBracket? at h
  split at h
  · obtain ⟨inside, hinside, rfl⟩ := Option.map_eq_some_iff.mp h
    exact ⟨fun _ => Token.noConfusion, fun c hc => List.mem_cons_of_mem _ (hset hinside c hc)⟩
  · obtain ⟨inside, hinside, rfl⟩ := Option.map_eq_some_iff.mp h
    exact ⟨fun _ => Token.noConfusion, hset hinside⟩

/-- Stars stand for no single character by themselves either, and what follows them is the end of the text. -/
theorem readStars?_parts {previous : Option Char} {s : List Char} {stars : Read Token (s.length + 1)}
    (h : readStars? previous s = some stars) : (∀ c, stars.value ≠ .char c) ∧ ∀ c ∈ stars.rest, c ∈ s := by
  unfold readStars? at h
  split at h
  · cases h
  · split at h
    · split at h
      · obtain rfl := Option.some.inj h
        exact ⟨nofun, nofun⟩
      · obtain rfl := Option.some.inj h
        exact ⟨nofun, fun c hc => List.mem_cons_of_mem _ (List.mem_cons_of_mem _ hc)⟩
      · cases h
    · cases h
  · obtain rfl := Option.some.inj h
    exact ⟨nofun, fun c hc => hc⟩

/-- A glob without slashes has no token for one. -/
theorem not_mem_readTokens? {previous : Option Char} {s : List Char} {tokens : List Token}
    (h : readTokens? previous s = some tokens) (hs : '/' ∉ s) : .char '/' ∉ tokens := by
  fun_induction readTokens? previous s generalizing tokens with
  | case1 =>
    obtain rfl := Option.some.inj h
    exact List.not_mem_nil
  | case2 previous rest ih =>
    obtain ⟨later, hlater, rfl⟩ := Option.map_eq_some_iff.mp h
    rw [List.mem_cons, not_or] at hs ⊢
    exact ⟨nofun, ih hlater hs.2⟩
  | case3 previous rest _ ih =>
    obtain ⟨stars, hstars, hrest⟩ := Option.bind_eq_some_iff.mp h
    obtain ⟨later, hlater, htokens⟩ := Option.bind_eq_some_iff.mp hrest
    obtain rfl := Option.some.inj htokens
    obtain ⟨hvalue, hsub⟩ := readStars?_parts hstars
    rw [List.mem_cons, not_or] at hs ⊢
    exact ⟨(hvalue _).symm, ih stars hlater fun hmem => hs.2 (hsub _ hmem)⟩
  | case4 previous rest _ _ ih =>
    obtain ⟨set, hset, hrest⟩ := Option.bind_eq_some_iff.mp h
    obtain ⟨later, hlater, htokens⟩ := Option.bind_eq_some_iff.mp hrest
    obtain rfl := Option.some.inj htokens
    obtain ⟨hvalue, hsub⟩ := readBracket?_parts hset
    rw [List.mem_cons, not_or] at hs ⊢
    exact ⟨(hvalue _).symm, ih set hlater fun hmem => hs.2 (hsub _ hmem)⟩
  | case5 previous c rest _ _ _ ih =>
    obtain ⟨later, hlater, rfl⟩ := Option.map_eq_some_iff.mp h
    rw [List.mem_cons, not_or] at hs ⊢
    exact ⟨fun heq => hs.1 (Token.char.inj heq), ih hlater hs.2⟩

/-- A step that is looked up is no absolute path. -/
theorem head?_of_literalText? {step : Step} {text : List Char} (hstep : step.IsWithoutSlash)
    (h : literalText? step.tokens = some text) : (String.ofList text).toList.head? ≠ some '/' := by
  rw [String.toList_ofList]
  unfold Step.IsWithoutSlash at hstep
  generalize step.tokens = tokens at hstep h
  cases tokens with
  | nil =>
    obtain rfl := Option.some.inj h
    simp
  | cons token tokens =>
    cases token with
    | char c =>
      obtain ⟨rest, -, rfl⟩ := Option.map_eq_some_iff.mp h
      rintro hhead
      obtain rfl := Option.some.inj hhead
      exact hstep List.mem_cons_self
    | _ => cases h

/-- What is made of a list comes from one of its elements. -/
theorem exists_of_mem_mapM {α β : Type} {f : α → Option β} {l : List α} {made : List β} {b : β}
    (h : l.mapM f = some made) (hb : b ∈ made) : ∃ a ∈ l, f a = some b := by
  induction l generalizing made with
  | nil =>
    obtain rfl := Option.some.inj h
    cases hb
  | cons a l ih =>
    rw [List.mapM_cons] at h
    obtain ⟨first, hfirst, hrest⟩ := Option.bind_eq_some_iff.mp h
    obtain ⟨others, hothers, hmade⟩ := Option.bind_eq_some_iff.mp hrest
    obtain rfl := Option.some.inj hmade
    rcases List.mem_cons.mp hb with rfl | hb
    · exact ⟨a, List.mem_cons_self, hfirst⟩
    · obtain ⟨a', ha', hmem⟩ := ih hothers hb
      exact ⟨a', List.mem_cons_of_mem _ ha', hmem⟩

/-- A glob is cut at its slashes, so that its steps have none. -/
theorem isWithoutSlash_of_stepsOf? {s : List Char} {absolute : Bool} {steps : List Step}
    (h : stepsOf? s absolute = some steps) : ∀ step ∈ steps, step.IsWithoutSlash := by
  obtain ⟨read, hread, hsteps⟩ := Option.bind_eq_some_iff.mp h
  obtain rfl := Option.some.inj hsteps
  intro step hstep
  split at hstep
  · obtain rfl := List.mem_singleton.mp hstep
    exact List.not_mem_nil
  · obtain ⟨piece, hpiece, hpieceRead⟩ := exists_of_mem_mapM hread hstep
    obtain ⟨tokens, htokens, rfl⟩ := Option.map_eq_some_iff.mp hpieceRead
    refine not_mem_readTokens? htokens (Text.not_mem_of_mem_splitAt (s := s) ?_)
    rw [stepTexts] at hpiece
    split at hpiece
    · exact List.dropLast_subset _ hpiece
    · exact hpiece

/-- Dropping leaves some of the steps. -/
theorem mem_dropRecursive {step s : Step} {later : List Step} (h : s ∈ dropRecursive step later) :
    s = step ∨ s ∈ later := by
  induction later generalizing step with
  | nil => exact .inl (List.mem_singleton.mp h)
  | cons next later ih =>
    unfold dropRecursive at h
    split at h
    · exact .inr (List.mem_cons.mpr (ih h))
    · exact List.mem_cons.mp h

/-- The special names are those of the directory itself and of the one around it. -/
theorem mem_specialNames {step : Step} (h : name ∈ specialNames step) : name = ".." ∨ name = "." := by
  unfold specialNames at h
  split at h
  · simpa using (List.mem_filter.mp h).1
  · cases h

/-! ## What lies below -/

/-- In a tree that is well formed what is listed are names of entries. -/
theorem isEntryName_of_mem_namesIn {x : Expansion} (hproper : x.fs.tree.isProper = true) (h : name ∈ x.namesIn p) :
    isEntryName name = true := by
  rw [Expansion.namesIn, List.mem_mergeSort] at h
  cases hlist : x.fs.list? p with
  | none =>
    rw [hlist] at h
    cases h
  | some names =>
    rw [hlist] at h
    obtain ⟨q, entries, -, hentries, rfl⟩ := list?_eq_some_iff.mp hlist
    obtain ⟨⟨_, e⟩, hmem, rfl⟩ := List.mem_map.mp h
    exact ((isProper_directory.mp (isProper_at? hproper hentries)).2 _ hmem).1

/-- Of the steps that are left after recursive ones, none has a slash if none of them had. -/
theorem isWithoutSlash_of_mem_dropRecursive {step : Step} {later : List Step}
    (hsteps : ∀ s ∈ step :: later, s.IsWithoutSlash) : ∀ s ∈ dropRecursive step later, s.IsWithoutSlash :=
  fun s hs => hsteps s (List.mem_cons.mpr (mem_dropRecursive hs))

/-- A path that an expansion describes is reached through the path where it goes on, whichever of its functions goes on. -/
structure AllBelow (fs : FileSystem) (r : Path) (x : Expansion) (fuel : Nat) : Prop where
  enter : ∀ p steps, (∀ step ∈ steps, step.IsWithoutSlash) → r ∈ x.enter fuel p steps → fs.Reaches p
  proceed : ∀ p steps, (∀ step ∈ steps, step.IsWithoutSlash) → r ∈ x.proceed fuel p steps → fs.Reaches p
  visit : ∀ p name step later, (∀ s ∈ step :: later, s.IsWithoutSlash) → r ∈ x.visit fuel p name step later →
    fs.Reaches p

section Below

variable {x : Expansion} {fuel : Nat} {step : Step} {steps later : List Step} (ih : AllBelow fs r x fuel)
include ih

/-- A step describes names below the path, literally or by comparison. -/
theorem reaches_enter_succ (hproper : x.fs.tree.isProper = true) (hsteps : ∀ step ∈ steps, step.IsWithoutSlash)
    (hmem : r ∈ x.enter (fuel + 1) p steps) : fs.Reaches p := by
  cases steps with
  | nil => cases hmem
  | cons step later =>
    obtain ⟨hstep, hlater⟩ := List.forall_mem_cons.mp hsteps
    rw [Expansion.enter] at hmem
    split at hmem
    · next text htext =>
      dsimp only at hmem
      split at hmem
      · exact (ih.proceed _ _ hlater hmem).of_below (head?_of_literalText? hstep htext)
      · cases hmem
    · split at hmem
      · rcases List.mem_append.mp hmem with hmem | hmem
        · obtain ⟨name, hname, hmem⟩ := List.mem_flatMap.mp hmem
          have hhead : name.toList.head? ≠ some '/' := by
            rcases mem_specialNames hname with rfl | rfl <;> decide
          exact (ih.proceed _ _ hlater hmem).of_join hhead
        · obtain ⟨name, hname, hmem⟩ := List.mem_flatMap.mp hmem
          have hentry := isEntryName_of_mem_namesIn hproper hname
          exact (ih.visit _ _ _ _ hsteps hmem).of_below (head?_of_isEntryName hentry)
      · cases hmem

/-- With no steps left the path itself is described, if it is of the right kind. -/
theorem reaches_proceed_succ (hr : fs.Reaches r) (hsteps : ∀ step ∈ steps, step.IsWithoutSlash)
    (hmem : r ∈ x.proceed (fuel + 1) p steps) : fs.Reaches p := by
  rw [Expansion.proceed] at hmem
  split at hmem
  · unfold Expansion.accept at hmem
    split at hmem
    · cases hmem
    · exact List.mem_singleton.mp hmem ▸ hr
  · exact ih.enter _ _ hsteps hmem

/-- A recursive step describes the directory itself, or goes on in it; any other goes on from the name it matches. -/
theorem reaches_visit_succ (hr : fs.Reaches r) (hsteps : ∀ s ∈ step :: later, s.IsWithoutSlash)
    (hmem : r ∈ x.visit (fuel + 1) p name step later) : fs.Reaches p := by
  have hdrop := isWithoutSlash_of_mem_dropRecursive hsteps
  rw [Expansion.visit] at hmem
  split at hmem
  · split at hmem
    · cases hmem
    · next last hlast =>
      rw [hlast] at hdrop
      split at hmem
      · rcases List.mem_cons.mp hmem with rfl | hmem
        · exact hr
        · exact ih.enter _ _ hdrop hmem
      · cases hmem
    · next last next others hlast =>
      rw [hlast] at hdrop
      rcases List.mem_append.mp hmem with hmem | hmem
      · split at hmem
        · exact ih.proceed _ _ (fun s hs => hdrop s (by simp [hs])) hmem
        · cases hmem
      · split at hmem
        · exact ih.enter _ _ hdrop hmem
        · cases hmem
  · split at hmem
    · exact ih.proceed _ _ (List.forall_mem_cons.mp hsteps).2 hmem
    · cases hmem

end Below

/-- What an expansion describes lies below the path where it begins, by induction on the fuel that its functions share. -/
theorem allBelow {x : Expansion} (hproper : x.fs.tree.isProper = true) (hr : fs.Reaches r) (fuel : Nat) :
    AllBelow fs r x fuel := by
  induction fuel with
  | zero => exact ⟨nofun, nofun, nofun⟩
  | succ fuel ih =>
    exact ⟨fun _ _ => reaches_enter_succ ih hproper, fun _ _ => reaches_proceed_succ ih hr,
      fun _ _ _ _ => reaches_visit_succ ih hr⟩

/-! ## Growth -/

/-- Two conditional lists agree on what is kept if the stricter condition follows from anything that is kept. -/
theorem filter_ite {keep : Path → Bool} {c c' : Prop} [Decidable c] [Decidable c'] {found found' : List Path}
    (himp : c' → c) (heq : c' → found.filter keep = found'.filter keep)
    (hback : c → ∀ r ∈ found, keep r = true → c') :
    (if c then found else []).filter keep = (if c' then found' else []).filter keep := by
  by_cases h' : c'
  · rw [if_pos h', if_pos (himp h'), heq h']
  · rw [if_neg h', List.filter_nil, List.filter_eq_nil_iff]
    intro r hr hkeep
    by_cases h : c
    · rw [if_pos h] at hr
      exact h' (hback h r hr hkeep)
    · rw [if_neg h] at hr
      cases hr

/-- Names that lead to nothing do not matter where names are gone through in order. -/
theorem flatMap_mergeSort_append {names added : List String} {f : String → List Path}
    (hadded : ∀ name ∈ added, name ∉ names) (hnothing : ∀ name ∈ added, f name = []) :
    ((names ++ added).mergeSort fun a b => decide (a ≤ b)).flatMap f =
      (names.mergeSort fun a b => decide (a ≤ b)).flatMap f := by
  have hsorted : ∀ l : List String, (l.mergeSort fun a b => decide (a ≤ b)).Pairwise (· ≤ ·) := fun l =>
    List.pairwise_mergeSort' (· ≤ ·) l
  have hnames : names.filter (· ∈ names) = names := List.filter_eq_self.mpr (by simp)
  have hnone : added.filter (· ∈ names) = [] := List.filter_eq_nil_iff.mpr (by simpa using hadded)
  have hfilter : ((names ++ added).mergeSort fun a b => decide (a ≤ b)).filter (· ∈ names) =
      names.mergeSort fun a b => decide (a ≤ b) := by
    refine List.Perm.eq_of_pairwise' ((hsorted _).filter _) (hsorted _) ?_
    refine ((List.mergeSort_perm _ _).filter _).trans ?_
    rw [List.filter_append, hnames, hnone, List.append_nil]
    exact (List.mergeSort_perm _ _).symm
  have hdrop : ∀ l : List String, (∀ name ∈ l, name ∈ names ++ added) →
      l.flatMap f = (l.filter (· ∈ names)).flatMap f := by
    intro l hl
    induction l with
    | nil => rfl
    | cons name l ih =>
      have hrest := ih fun k hk => hl k (List.mem_cons_of_mem _ hk)
      by_cases hname : name ∈ names
      · rw [List.filter_cons_of_pos (by simpa using hname), List.flatMap_cons, List.flatMap_cons, hrest]
      · have hmem := (List.mem_append.mp (hl name List.mem_cons_self)).resolve_left hname
        rw [List.filter_cons_of_neg (by simpa using hname), List.flatMap_cons, hnothing name hmem, List.nil_append, hrest]
  rw [hdrop _ fun name hname => (List.mergeSort_perm _ _).mem_iff.mp hname, hfilter]

/-- The names in a directory that has grown. -/
theorem list?_grow (h : Evolves written old new) (hlist : old.list? p = some names) :
    ∃ added, new.list? p = some (names ++ added) ∧ ∀ name ∈ added, name ∉ names := by
  obtain ⟨q, entries, ⟨hp, hq⟩, hentries, rfl⟩ := list?_eq_some_iff.mp hlist
  have hplace := h.grows q
  rw [hentries] at hplace
  generalize hnew : new.tree.at? q = grown at hplace
  cases hplace with
  | directory hnames hadded =>
    exact ⟨_, list?_eq_some_iff.mpr ⟨q, _, ⟨hp, h.leadsTo hq⟩, hnew, hnames.symm⟩, hadded⟩

/-- What a path names is there also after the tree has grown. -/
theorem isSome_entryItself?_grow (h : Evolves written old new) (hp : (old.entryItself? p).isSome) :
    (new.entryItself? p).isSome := by
  obtain ⟨e, he⟩ := Option.isSome_iff_exists.mp hp
  obtain ⟨q, ⟨hp, hq⟩, hentry⟩ := entryItself?_eq_some_iff.mp he
  obtain ⟨e', he'⟩ := Option.isSome_iff_exists.mp (h.grows.isSome (Option.isSome_of_eq_some hentry))
  exact Option.isSome_of_eq_some (entryItself?_eq_some_iff.mpr ⟨q, ⟨hp, h.leadsTo hq⟩, he'⟩)

/-- A path to a directory that is there, if it can be followed in a later state. -/
theorem isDirectory_of_reaches (hp : old.Reaches p) (hnew : new.isDirectory p = true) : old.isDirectory p = true :=
  isDirectory_iff_reaches.mpr ⟨(isDirectory_iff_reaches.mp hnew).1, hp⟩

/-- Of the directories that were there before, an expansion describes the same once the tree has grown, whichever of its
functions goes on. -/
structure AllSame (old new : FileSystem) (onlyDirectories : Bool) (fuel : Nat) : Prop where
  enter : ∀ p steps, (∀ step ∈ steps, step.IsWithoutSlash) →
    ((Expansion.mk new onlyDirectories).enter fuel p steps).filter old.isDirectory =
      ((Expansion.mk old onlyDirectories).enter fuel p steps).filter old.isDirectory
  proceed : ∀ p steps, (∀ step ∈ steps, step.IsWithoutSlash) →
    ((Expansion.mk new onlyDirectories).proceed fuel p steps).filter old.isDirectory =
      ((Expansion.mk old onlyDirectories).proceed fuel p steps).filter old.isDirectory
  visit : ∀ p name step later, (∀ s ∈ step :: later, s.IsWithoutSlash) →
    ((Expansion.mk new onlyDirectories).visit fuel p name step later).filter old.isDirectory =
      ((Expansion.mk old onlyDirectories).visit fuel p name step later).filter old.isDirectory

section Same

variable {onlyDirectories : Bool} {fuel : Nat} {step : Step} {steps later : List Step} {text : List Char}
  (hproper : new.tree.isProper = true)
include hproper

/-- What is described from a path in the tree that has grown, and was a directory, makes the path one that was a directory. -/
theorem isDirectory_of_mem_enter (hsteps : ∀ step ∈ steps, step.IsWithoutSlash) (hnew : new.isDirectory p = true)
    (hr : r ∈ (Expansion.mk new onlyDirectories).enter fuel p steps) (hkeep : old.isDirectory r = true) :
    old.isDirectory p = true :=
  isDirectory_of_reaches ((allBelow hproper (isDirectory_iff_reaches.mp hkeep).2 fuel).enter _ _ hsteps hr) hnew

/-- A name that is new in a directory describes nothing that was there before. -/
theorem filter_visit_new (hlist : old.list? p = some names) (hsteps : ∀ s ∈ step :: later, s.IsWithoutSlash)
    (hname : name ∈ (Expansion.mk new onlyDirectories).namesIn p) (hnew : name ∉ names) :
    ((Expansion.mk new onlyDirectories).visit fuel (below p name) name step later).filter old.isDirectory = [] := by
  refine List.filter_eq_nil_iff.mpr fun r hr hkeep => hnew ?_
  have hentry : isEntryName name = true := isEntryName_of_mem_namesIn (x := ⟨new, onlyDirectories⟩) hproper hname
  have hbelow := allBelow (x := ⟨new, onlyDirectories⟩) hproper (isDirectory_iff_reaches.mp hkeep).2 fuel
  exact mem_list?_of_reaches hentry hlist (hbelow.visit _ _ _ _ hsteps hr)

variable (h : Evolves written old new) (ih : AllSame old new onlyDirectories fuel)
include h ih

/-- A step without wildcards is looked up, and in the tree before it is looked up with the same result. -/
theorem filter_enter_literal_succ (htext : literalText? step.tokens = some text)
    (hsteps : ∀ s ∈ step :: later, s.IsWithoutSlash) :
    ((Expansion.mk new onlyDirectories).enter (fuel + 1) p (step :: later)).filter old.isDirectory =
      ((Expansion.mk old onlyDirectories).enter (fuel + 1) p (step :: later)).filter old.isDirectory := by
  obtain ⟨hstep, hlater⟩ := List.forall_mem_cons.mp hsteps
  have hhead := head?_of_literalText? hstep htext
  rw [Expansion.enter, Expansion.enter, htext]
  refine filter_ite (fun hold => ?_) (fun _ => ih.proceed _ _ hlater) fun hnew r hr hkeep => ?_
  · exact hold.imp (And.imp_right h.isDirectory) (And.imp_right (isSome_entryItself?_grow h))
  · have hnext := (allBelow hproper (isDirectory_iff_reaches.mp hkeep).2 fuel).proceed _ _ hlater hr
    refine hnew.imp (fun hspecial => ?_) fun hthere => ?_
    · exact ⟨hspecial.1, isDirectory_of_reaches (hnext.of_below hhead) hspecial.2⟩
    · obtain ⟨e, he⟩ := Option.isSome_iff_exists.mp hthere.2
      obtain ⟨-, ⟨hfollowable, -⟩, -⟩ := entryItself?_eq_some_iff.mp he
      obtain ⟨q, e', hfound⟩ := found_of_isDirectory (isDirectory_iff_reaches.mpr ⟨hfollowable, hnext⟩)
      exact ⟨hthere.1, by rw [entryItself?, hfound]; rfl⟩

/-- A step with wildcards is compared with names, and those that are new lead to nothing that was there before. -/
theorem filter_enter_names_succ (htext : literalText? step.tokens = none)
    (hsteps : ∀ s ∈ step :: later, s.IsWithoutSlash) :
    ((Expansion.mk new onlyDirectories).enter (fuel + 1) p (step :: later)).filter old.isDirectory =
      ((Expansion.mk old onlyDirectories).enter (fuel + 1) p (step :: later)).filter old.isDirectory := by
  have hlater := (List.forall_mem_cons.mp hsteps).2
  rw [Expansion.enter, Expansion.enter, htext]
  refine filter_ite h.isDirectory (fun hold => ?_) fun hnew r hr hkeep => ?_
  · have hspecial := fun name => ih.proceed (p.join name) _ hlater
    obtain ⟨q, hq, entries, hentries⟩ := isDirectory_iff.mp hold
    have hlist := list?_eq_some_iff.mpr ⟨q, entries, hq, hentries, rfl⟩
    obtain ⟨added, hgrown, hadded⟩ := list?_grow h hlist
    have hnothing : ∀ name ∈ added, ((Expansion.mk new onlyDirectories).visit fuel (below p name) name step
        later).filter old.isDirectory = [] := fun name hname =>
      filter_visit_new hproper hlist hsteps (by simp [Expansion.namesIn, hgrown, hname]) (hadded name hname)
    simp only [List.filter_append, List.filter_flatMap, hspecial, Expansion.namesIn, hgrown, hlist, Option.getD_some,
      flatMap_mergeSort_append hadded hnothing]
    exact congrArg _ (List.flatMap_congr fun name _ => ih.visit _ _ _ _ hsteps)
  · have hmem : r ∈ (Expansion.mk new onlyDirectories).enter (fuel + 1) p (step :: later) := by
      rw [Expansion.enter, htext]
      exact (if_pos hnew).symm ▸ hr
    exact isDirectory_of_mem_enter hproper hsteps hnew hmem hkeep

/-- For both kinds of steps. -/
theorem filter_enter_succ (hsteps : ∀ step ∈ steps, step.IsWithoutSlash) :
    ((Expansion.mk new onlyDirectories).enter (fuel + 1) p steps).filter old.isDirectory =
      ((Expansion.mk old onlyDirectories).enter (fuel + 1) p steps).filter old.isDirectory := by
  cases steps with
  | nil => rfl
  | cons step later =>
    cases htext : literalText? step.tokens with
    | some text => exact filter_enter_literal_succ hproper h ih htext hsteps
    | none => exact filter_enter_names_succ hproper h ih htext hsteps

omit hproper in
/-- With no steps left both describe the path, where it was a directory. -/
theorem filter_proceed_succ (hsteps : ∀ step ∈ steps, step.IsWithoutSlash) :
    ((Expansion.mk new onlyDirectories).proceed (fuel + 1) p steps).filter old.isDirectory =
      ((Expansion.mk old onlyDirectories).proceed (fuel + 1) p steps).filter old.isDirectory := by
  rw [Expansion.proceed, Expansion.proceed]
  split
  · unfold Expansion.accept
    cases onlyDirectories with
    | false => rfl
    | true =>
      by_cases hp : old.isDirectory p
      · simp [hp, h.isDirectory hp]
      · by_cases hp' : new.isDirectory p <;> simp [hp, hp']
  · exact ih.enter _ _ hsteps

/-- A name that was there is matched as before, and the directories below it are compared by what they describe. -/
theorem filter_visit_succ (hsteps : ∀ s ∈ step :: later, s.IsWithoutSlash) :
    ((Expansion.mk new onlyDirectories).visit (fuel + 1) p name step later).filter old.isDirectory =
      ((Expansion.mk old onlyDirectories).visit (fuel + 1) p name step later).filter old.isDirectory := by
  have hdrop := isWithoutSlash_of_mem_dropRecursive hsteps
  rw [Expansion.visit, Expansion.visit]
  split
  · split
    · rfl
    · next last hlast =>
      rw [hlast] at hdrop
      refine filter_ite h.isDirectory (fun hold => ?_) fun hnew r hr hkeep => ?_
      · rw [List.filter_cons_of_pos hold, List.filter_cons_of_pos hold, ih.enter _ _ hdrop]
      · rcases List.mem_cons.mp hr with rfl | hr
        · exact hkeep
        · exact isDirectory_of_mem_enter hproper hdrop hnew hr hkeep
    · next last next others hlast =>
      rw [hlast] at hdrop
      have hothers := ih.proceed p others fun s hs => hdrop s (by simp [hs])
      rw [List.filter_append, List.filter_append]
      congr 1
      · split
        · exact hothers
        · rfl
      · exact filter_ite h.isDirectory (fun _ => ih.enter _ _ hdrop) fun hnew r hr hkeep =>
          isDirectory_of_mem_enter hproper hdrop hnew hr hkeep
  · split
    · exact ih.proceed _ _ (List.forall_mem_cons.mp hsteps).2
    · rfl

end Same

/-- By induction on the fuel that the functions of an expansion share. -/
theorem allSame (h : Evolves written old new) (hproper : new.tree.isProper = true) (onlyDirectories : Bool) (fuel : Nat) :
    AllSame old new onlyDirectories fuel := by
  induction fuel with
  | zero => exact ⟨fun _ _ _ => rfl, fun _ _ _ => rfl, fun _ _ _ _ _ => rfl⟩
  | succ fuel ih =>
    exact ⟨fun _ _ => filter_enter_succ hproper h ih, fun _ _ => filter_proceed_succ h ih,
      fun _ _ _ _ => filter_visit_succ hproper h ih⟩

/-- Of the directories that were there before, a glob describes the same once the tree has grown. -/
theorem filter_expand? (h : Evolves written old new) (hproper : new.tree.isProper = true) (glob : String) :
    (expand? new glob).map (·.filter old.isDirectory) = (expand? old glob).map (·.filter old.isDirectory) := by
  unfold expand?
  split
  · rfl
  · simp only [Option.map_map]
    cases hsteps : stepsOf? (if glob.toList.head? = some '/' then glob.toList.drop 1 else glob.toList)
        (decide (glob.toList.head? = some '/')) with
    | none => rfl
    | some steps => exact congrArg some ((allSame h hproper _ _).enter _ _ (isWithoutSlash_of_stepsOf? hsteps))

end Glob

end Phrasebook
