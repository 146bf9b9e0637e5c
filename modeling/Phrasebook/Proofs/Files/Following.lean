import Phrasebook.Proofs.Files.Growth

/-!
# Where paths lead

`Leads` says to which place pieces of a path lead: to an entry, or to where one would be in a directory that is there. It is
the relation that `walk` computes (`place?_walk_iff`). Where a path leads once, it leads as well after the tree has grown
(`Leads.grow`), and a path that goes on from another one leads through the place of the first (`Leads.split`).
-/

namespace Phrasebook

open Entry

/-- The place that a path has led to, whether or not an entry is there. -/
def Target.place? : Target → Option Place
  | .found place _ => some place
  | .absent parent name => some (parent ++ [name])
  | _ => none

/-- What a path has told about the place where it ends is so. -/
def Target.Fits (tree : Entry) : Target → Prop
  | .found place e => tree.at? place = some e
  | .absent parent name => tree.HasDirectory parent ∧ tree.at? (parent ++ [name]) = none
  | _ => True

namespace FileSystem

variable {tree tree' e : Entry} {follow : Bool} {links : Nat} {place q : Place} {piece name : String}
  {pieces rest a b : List String} {written : Place → Prop}

/-- Does the piece lead from a directory to one of its entries? -/
def IsStep (piece : String) : Prop :=
  ¬(piece = "" ∨ piece = ".") ∧ piece ≠ ".." ∧ piece.utf8ByteSize ≤ maxNameLength

/-- The pieces lead from one place to another; `links` is the number of links that may be followed, and a link in the last
place is followed if `follow` holds. -/
inductive Leads (tree : Entry) (follow : Bool) : Nat → Place → List String → Place → Prop where
  | done {links : Nat} {place : Place} (hentry : (tree.at? place).isSome) : Leads tree follow links place [] place
  | stay {links : Nat} {place q : Place} {piece : String} {rest : List String} (hdir : tree.HasDirectory place)
      (hpiece : piece = "" ∨ piece = ".") (h : Leads tree follow links place rest q) :
      Leads tree follow links place (piece :: rest) q
  | up {links : Nat} {place q : Place} {rest : List String} (hdir : tree.HasDirectory place)
      (h : Leads tree follow links place.dropLast rest q) : Leads tree follow links place (".." :: rest) q
  | down {links : Nat} {place q : Place} {piece : String} {rest : List String} {e : Entry}
      (hdir : tree.HasDirectory place) (hpiece : IsStep piece) (hentry : tree.at? (place ++ [piece]) = some e)
      (hlink : ∀ t, e ≠ .link t) (h : Leads tree follow links (place ++ [piece]) rest q) :
      Leads tree follow links place (piece :: rest) q
  | new {links : Nat} {place : Place} {piece : String} (hdir : tree.HasDirectory place) (hpiece : IsStep piece)
      (hnone : tree.at? (place ++ [piece]) = none) : Leads tree follow links place [piece] (place ++ [piece])
  | stop {links : Nat} {place : Place} {piece t : String} (hfollow : follow = false) (hdir : tree.HasDirectory place)
      (hpiece : IsStep piece) (hlink : tree.at? (place ++ [piece]) = some (.link t)) :
      Leads tree follow links place [piece] (place ++ [piece])
  | link {links : Nat} {place q : Place} {piece t : String} {rest : List String} (hdir : tree.HasDirectory place)
      (hpiece : IsStep piece) (hlink : tree.at? (place ++ [piece]) = some (.link t)) (hon : rest ≠ [] ∨ follow = true)
      (ht : t ≠ "") (h : Leads tree follow links (startOf t place) (piecesOf t ++ rest) q) :
      Leads tree follow (links + 1) place (piece :: rest) q

/-! ## Following computes where paths lead -/

theorem walk_nil : walk tree follow links place [] =
    match tree.at? place with
    | some entry => .found place entry
    | none => .nowhere := by
  cases links <;> rfl

theorem walk_cons : walk tree follow links place (piece :: rest) =
    match tree.at? place with
    | none => .nowhere
    | some entry =>
      if !entry.isDirectory then .blocked
      else if piece = "" ∨ piece = "." then walk tree follow links place rest
      else if piece = ".." then walk tree follow links place.dropLast rest
      else if maxNameLength < piece.utf8ByteSize then .blocked
      else match entry.child? piece with
        | none => if rest.isEmpty then .absent place piece else .nowhere
        | some (.link target) =>
          if rest.isEmpty && !follow then .found (place ++ [piece]) (.link target)
          else match links with
            | 0 => .blocked
            | links + 1 =>
              if target = "" then .nowhere
              else walk tree follow links (startOf target place) (piecesOf target ++ rest)
        | some _ => walk tree follow links (place ++ [piece]) rest := by
  cases links <;> rfl

theorem hasDirectory_of_isDirectory (hentry : tree.at? place = some e) (h : e.isDirectory = true) :
    tree.HasDirectory place := by
  cases e with
  | directory entries => exact ⟨entries, hentry⟩
  | file | link => cases h

/-- Where a step of a walk leads, given where the links lead that it comes to. -/
theorem leads_of_walkWith {onLink : Place → String → List String → Target}
    (honLink : ∀ place t rest q, (onLink place t rest).place? = some q →
      ∃ left, links = left + 1 ∧ t ≠ "" ∧ Leads tree follow left (startOf t place) (piecesOf t ++ rest) q)
    (h : (walkWith tree follow onLink place pieces).place? = some q) : Leads tree follow links place pieces q := by
  fun_induction walkWith tree follow onLink place pieces with
  | case1 place entry hentry =>
    obtain rfl := Option.some.inj h
    exact .done (by rw [hentry]; rfl)
  | case5 place piece rest entry hentry hdir hpiece ih =>
    exact .stay (hasDirectory_of_isDirectory hentry (by simpa using hdir)) hpiece (ih h)
  | case6 place rest entry hentry hdir _ ih =>
    exact .up (hasDirectory_of_isDirectory hentry (by simpa using hdir)) (ih h)
  | case8 place piece rest entry hentry hdir hname hup hlength hchild hrest =>
    obtain rfl := Option.some.inj h
    obtain rfl := List.isEmpty_iff.mp hrest
    exact .new (hasDirectory_of_isDirectory hentry (by simpa using hdir)) ⟨hname, hup, Nat.le_of_not_lt hlength⟩
      (by rw [at?_concat, hentry]; exact hchild)
  | case10 place piece rest entry hentry hdir hname hup hlength t hchild hstop =>
    obtain rfl := Option.some.inj h
    obtain ⟨hrest, hfollow⟩ := Bool.and_eq_true_iff.mp hstop
    obtain rfl := List.isEmpty_iff.mp hrest
    exact .stop (by simpa using hfollow) (hasDirectory_of_isDirectory hentry (by simpa using hdir))
      ⟨hname, hup, Nat.le_of_not_lt hlength⟩ (by rw [at?_concat, hentry]; exact hchild)
  | case11 place piece rest entry hentry hdir hname hup hlength t hchild hgo =>
    obtain ⟨left, rfl, ht, hleads⟩ := honLink _ _ _ _ h
    have hon : rest ≠ [] ∨ follow = true := by
      cases rest <;> cases follow <;> simp_all
    exact .link (hasDirectory_of_isDirectory hentry (by simpa using hdir)) ⟨hname, hup, Nat.le_of_not_lt hlength⟩
      (by rw [at?_concat, hentry]; exact hchild) hon ht hleads
  | case12 place piece rest entry hentry hdir hname hup hlength e hlink hchild ih =>
    exact .down (hasDirectory_of_isDirectory hentry (by simpa using hdir)) ⟨hname, hup, Nat.le_of_not_lt hlength⟩
      (by rw [at?_concat, hentry]; exact hchild) hlink (ih h)
  | _ => cases h

/-- A walk ends where its pieces lead. -/
theorem leads_of_walk (h : (walk tree follow links place pieces).place? = some q) :
    Leads tree follow links place pieces q := by
  induction links generalizing place pieces q with
  | zero => exact leads_of_walkWith (fun _ _ _ _ h => by cases h) h
  | succ links ih =>
    refine leads_of_walkWith (fun place t rest q h => ?_) h
    by_cases ht : t = ""
    · rw [if_pos ht] at h
      cases h
    · rw [if_neg ht] at h
      exact ⟨links, rfl, ht, ih h⟩

/-- A step from a directory to one of its entries. -/
theorem walk_step (hdir : tree.HasDirectory place) (hpiece : IsStep piece) :
    walk tree follow links place (piece :: rest) =
      match tree.at? (place ++ [piece]) with
      | none => if rest.isEmpty then .absent place piece else .nowhere
      | some (.link target) =>
        if rest.isEmpty && !follow then .found (place ++ [piece]) (.link target)
        else match links with
          | 0 => .blocked
          | links + 1 =>
            if target = "" then .nowhere
            else walk tree follow links (startOf target place) (piecesOf target ++ rest)
      | some _ => walk tree follow links (place ++ [piece]) rest := by
  obtain ⟨entries, hentries⟩ := hdir
  obtain ⟨hname, hup, hlength⟩ := hpiece
  rw [walk_cons, at?_concat, hentries, Option.bind_some]
  simp only [Entry.isDirectory, Bool.not_true, Bool.false_eq_true, if_false, hname, hup, Nat.not_lt.mpr hlength]

/-- Where pieces lead, a walk along them ends. -/
theorem Leads.walk (h : Leads tree follow links place pieces q) :
    (walk tree follow links place pieces).place? = some q := by
  induction h with
  | done hentry =>
    obtain ⟨e, he⟩ := Option.isSome_iff_exists.mp hentry
    rw [walk_nil, he]
    rfl
  | stay hdir hpiece _ ih =>
    obtain ⟨entries, hentries⟩ := hdir
    rw [walk_cons, hentries]
    simpa [Entry.isDirectory, hpiece] using ih
  | up hdir _ ih =>
    obtain ⟨entries, hentries⟩ := hdir
    rw [walk_cons, hentries]
    simpa [Entry.isDirectory] using ih
  | @down links place q piece rest e hdir hpiece hentry hlink _ ih =>
    rw [walk_step hdir hpiece, hentry]
    cases e with
    | link t => exact absurd rfl (hlink t)
    | file | directory => exact ih
  | new hdir hpiece hnone =>
    rw [walk_step hdir hpiece, hnone]
    rfl
  | stop hfollow hdir hpiece hlink =>
    rw [walk_step hdir hpiece, hlink, hfollow]
    rfl
  | @link links place q piece t rest hdir hpiece hlink hon ht _ ih =>
    have hgo : (rest.isEmpty && !follow) = false := by
      rcases hon with hrest | hfollow
      · cases rest with
        | nil => exact absurd rfl hrest
        | cons => rfl
      · rw [hfollow]
        simp
    rw [walk_step hdir hpiece, hlink]
    simp only [hgo, Bool.false_eq_true, if_false, ht]
    exact ih

/-- Following computes where pieces lead. -/
theorem place?_walk_iff : (walk tree follow links place pieces).place? = some q ↔
    Leads tree follow links place pieces q :=
  ⟨leads_of_walk, Leads.walk⟩

/-- Pieces lead to one place. -/
theorem Leads.unique {q' : Place} (h : Leads tree follow links place pieces q)
    (h' : Leads tree follow links place pieces q') : q = q' :=
  Option.some.inj ((place?_walk_iff.mpr h).symm.trans (place?_walk_iff.mpr h'))

theorem fits_walkWith {onLink : Place → String → List String → Target}
    (honLink : ∀ place t rest, (onLink place t rest).Fits tree) : (walkWith tree follow onLink place pieces).Fits tree := by
  fun_induction walkWith tree follow onLink place pieces with
  | case1 place entry hentry => exact hentry
  | case5 _ _ _ _ _ _ _ ih => exact ih
  | case6 _ _ _ _ _ _ ih => exact ih
  | case8 place piece rest entry hentry hdir hname hup hlength hchild hrest =>
    exact ⟨hasDirectory_of_isDirectory hentry (by simpa using hdir), by rw [at?_concat, hentry]; exact hchild⟩
  | case10 place piece rest entry hentry hdir hname hup hlength t hchild hstop =>
    show tree.at? (place ++ [piece]) = some (.link t)
    rw [at?_concat, hentry]
    exact hchild
  | case11 => exact honLink _ _ _
  | case12 _ _ _ _ _ _ _ _ _ _ _ _ ih => exact ih
  | _ => trivial

/-- An entry that a walk finds is there, and one that it finds missing is not. -/
theorem fits_walk : (walk tree follow links place pieces).Fits tree := by
  induction links generalizing place pieces with
  | zero => exact fits_walkWith fun _ _ _ => trivial
  | succ links ih =>
    refine fits_walkWith fun place t rest => ?_
    split
    · trivial
    · exact ih

/-! ## Growth -/

/-- Where pieces lead, they lead as well in a tree that has grown. -/
theorem Leads.grow (h : Leads tree follow links place pieces q) (hgrows : Grows written tree tree') :
    Leads tree' follow links place pieces q := by
  induction h with
  | done hentry => exact .done (hgrows.isSome hentry)
  | stay hdir hpiece _ ih => exact .stay (hgrows.hasDirectory hdir) hpiece ih
  | up hdir _ ih => exact .up (hgrows.hasDirectory hdir) ih
  | down hdir hpiece hentry hlink _ ih =>
    obtain ⟨e', he'⟩ := Option.isSome_iff_exists.mp (hgrows.isSome (by rw [hentry]; rfl))
    refine .down (hgrows.hasDirectory hdir) hpiece he' (fun t ht => ?_) ih
    rw [ht] at he'
    exact hlink t (Option.some.inj (hentry.symm.trans (hgrows.eq_link he')))
  | @new links place piece hdir hpiece hnone =>
    cases hnew : tree'.at? (place ++ [piece]) with
    | none => exact .new (hgrows.hasDirectory hdir) hpiece hnew
    | some e' =>
      refine .down (hgrows.hasDirectory hdir) hpiece hnew (fun t ht => ?_) (.done (by rw [hnew]; rfl))
      rw [ht] at hnew
      exact absurd (hnone.symm.trans (hgrows.eq_link hnew)) (by simp)
  | stop hfollow hdir hpiece hlink => exact .stop hfollow (hgrows.hasDirectory hdir) hpiece (hgrows.at?_link hlink)
  | link hdir hpiece hlink hon ht _ ih =>
    exact .link (hgrows.hasDirectory hdir) hpiece (hgrows.at?_link hlink) hon ht ih

/-! ## Paths that go on -/

theorem Leads.hasDirectory (h : Leads tree follow links place (piece :: rest) q) : tree.HasDirectory place := by
  cases h with
  | stay hdir | up hdir | down hdir | new hdir | stop _ hdir | link hdir => exact hdir

/-- Pieces that go on lead through the place of the first of them, which is a directory. -/
theorem Leads.split (h : Leads tree follow links place (a ++ b) q) (hb : b ≠ []) :
    ∃ left d, Leads tree true links place a d ∧ tree.HasDirectory d ∧ Leads tree follow left d b q := by
  have hstart : ∀ {links place q pieces}, [] ++ b = pieces → Leads tree follow links place pieces q →
      ∃ left d, Leads tree true links place [] d ∧ tree.HasDirectory d ∧ Leads tree follow left d b q := by
    rintro links place q _ rfl h
    obtain ⟨piece, rest, rfl⟩ := List.exists_cons_of_ne_nil hb
    obtain ⟨entries, hentries⟩ := h.hasDirectory
    exact ⟨links, place, .done (by rw [hentries]; rfl), ⟨entries, hentries⟩, h⟩
  generalize hpieces : a ++ b = pieces at h
  induction h generalizing a with
  | done => exact absurd (List.append_eq_nil_iff.mp hpieces).2 hb
  | stay hdir hpiece h ih =>
    cases a with
    | nil => exact hstart hpieces (.stay hdir hpiece h)
    | cons x a =>
      obtain ⟨rfl, rfl⟩ := List.cons.inj hpieces
      obtain ⟨left, d, hd, hrest⟩ := ih rfl
      exact ⟨left, d, .stay hdir hpiece hd, hrest⟩
  | up hdir h ih =>
    cases a with
    | nil => exact hstart hpieces (.up hdir h)
    | cons x a =>
      obtain ⟨rfl, rfl⟩ := List.cons.inj hpieces
      obtain ⟨left, d, hd, hrest⟩ := ih rfl
      exact ⟨left, d, .up hdir hd, hrest⟩
  | down hdir hpiece hentry hlink h ih =>
    cases a with
    | nil => exact hstart hpieces (.down hdir hpiece hentry hlink h)
    | cons x a =>
      obtain ⟨rfl, rfl⟩ := List.cons.inj hpieces
      obtain ⟨left, d, hd, hrest⟩ := ih rfl
      exact ⟨left, d, .down hdir hpiece hentry hlink hd, hrest⟩
  | new hdir hpiece hnone =>
    cases a with
    | nil => exact hstart hpieces (.new hdir hpiece hnone)
    | cons x a => exact absurd (List.append_eq_nil_iff.mp (List.cons.inj hpieces).2).2 hb
  | stop hfollow hdir hpiece hlink =>
    cases a with
    | nil => exact hstart hpieces (.stop hfollow hdir hpiece hlink)
    | cons x a => exact absurd (List.append_eq_nil_iff.mp (List.cons.inj hpieces).2).2 hb
  | link hdir hpiece hlink hon ht h ih =>
    cases a with
    | nil => exact hstart hpieces (.link hdir hpiece hlink hon ht h)
    | cons x a =>
      obtain ⟨rfl, rfl⟩ := List.cons.inj hpieces
      obtain ⟨left, d, hd, hrest⟩ := ih (List.append_assoc ..)
      exact ⟨left, d, .link hdir hpiece hlink (.inr rfl) ht hd, hrest⟩

theorem isStep_of_isEntryName (h : isEntryName name = true) : ¬(name = "" ∨ name = ".") ∧ name ≠ ".." := by
  simp only [isEntryName, Bool.and_eq_true, bne_iff_ne, ne_eq] at h
  exact ⟨fun hor => hor.elim h.1.1.1 h.1.1.2, h.1.2⟩

/-- Names of entries that are no links lead straight down. -/
theorem Leads.straight (hnames : ∀ name ∈ pieces, isEntryName name = true) (h : Leads tree follow links place pieces q)
    (hentry : tree.at? (place ++ pieces) = some e) (hlink : ∀ t, e ≠ .link t) : q = place ++ pieces := by
  induction pieces generalizing links place with
  | nil =>
    cases h with
    | done => rw [List.append_nil]
  | cons name rest ih =>
    obtain ⟨hstay, hup⟩ := isStep_of_isEntryName (hnames name List.mem_cons_self)
    have hnolink : ∀ t, tree.at? (place ++ [name]) ≠ some (.link t) := by
      intro t ht
      rw [List.append_cons, at?_append, ht] at hentry
      cases rest with
      | nil => exact hlink t (Option.some.inj hentry).symm
      | cons => cases hentry
    have hthere : tree.at? (place ++ [name]) ≠ none := by
      intro hnone
      rw [List.append_cons, at?_append, hnone] at hentry
      cases hentry
    cases h with
    | stay _ hpiece => exact absurd hpiece hstay
    | up => exact absurd rfl hup
    | down _ _ _ _ h =>
      rw [List.append_cons]
      exact ih (fun k hk => hnames k (List.mem_cons_of_mem _ hk)) h (by rwa [← List.append_cons])
    | new _ _ hnone => exact absurd hnone hthere
    | stop _ _ _ ht => exact absurd ht (hnolink _)
    | link _ _ ht => exact absurd ht (hnolink _)

/-- Where a path leads with its last link followed, it leads somewhere as well without. -/
theorem Leads.unfollowed (h : Leads tree true links place pieces q) (hentry : (tree.at? q).isSome) :
    ∃ q', Leads tree false links place pieces q' ∧ (tree.at? q').isSome := by
  induction h with
  | done => exact ⟨_, .done hentry, hentry⟩
  | stay hdir hpiece _ ih =>
    obtain ⟨q', hq', hsome⟩ := ih hentry
    exact ⟨q', .stay hdir hpiece hq', hsome⟩
  | up hdir _ ih =>
    obtain ⟨q', hq', hsome⟩ := ih hentry
    exact ⟨q', .up hdir hq', hsome⟩
  | down hdir hpiece hstep hlink _ ih =>
    obtain ⟨q', hq', hsome⟩ := ih hentry
    exact ⟨q', .down hdir hpiece hstep hlink hq', hsome⟩
  | new hdir hpiece hnone =>
    rw [hnone] at hentry
    cases hentry
  | stop hfollow => cases hfollow
  | @link links place q piece t rest hdir hpiece hlink hon ht _ ih =>
    obtain ⟨q', hq', hsome⟩ := ih hentry
    cases rest with
    | nil => exact ⟨_, .stop rfl hdir hpiece hlink, by rw [hlink]; rfl⟩
    | cons => exact ⟨q', .link hdir hpiece hlink (.inl (by simp)) ht hq', hsome⟩

/-- A path whose last piece is a name leads to an entry of this name, unless that is a link. -/
theorem Leads.last (hname : isEntryName name = true) (h : Leads tree true links place (a ++ [name]) q) :
    (∃ d, q = d ++ [name]) ∨
      ∃ q' t, Leads tree false links place (a ++ [name]) q' ∧ tree.at? q' = some (.link t) := by
  obtain ⟨hstay, hup⟩ := isStep_of_isEntryName hname
  generalize hpieces : a ++ [name] = pieces at h
  induction h generalizing a with
  | done => cases a <;> cases hpieces
  | stay hdir hpiece h ih =>
    cases a with
    | nil =>
      obtain ⟨rfl, -⟩ := List.cons.inj hpieces
      exact absurd hpiece hstay
    | cons x a =>
      obtain ⟨rfl, rfl⟩ := List.cons.inj hpieces
      exact (ih rfl).imp_right fun ⟨q', t, hq', ht⟩ => ⟨q', t, .stay hdir hpiece hq', ht⟩
  | up hdir h ih =>
    cases a with
    | nil => exact absurd (List.cons.inj hpieces).1 hup
    | cons x a =>
      obtain ⟨rfl, rfl⟩ := List.cons.inj hpieces
      exact (ih rfl).imp_right fun ⟨q', t, hq', ht⟩ => ⟨q', t, .up hdir hq', ht⟩
  | down hdir hpiece hentry hlink h ih =>
    cases a with
    | nil =>
      obtain ⟨rfl, rfl⟩ := List.cons.inj hpieces
      cases h with
      | done => exact .inl ⟨_, rfl⟩
    | cons x a =>
      obtain ⟨rfl, rfl⟩ := List.cons.inj hpieces
      exact (ih rfl).imp_right fun ⟨q', t, hq', ht⟩ => ⟨q', t, .down hdir hpiece hentry hlink hq', ht⟩
  | new hdir hpiece hnone =>
    cases a with
    | nil =>
      obtain ⟨rfl, -⟩ := List.cons.inj hpieces
      exact .inl ⟨_, rfl⟩
    | cons x a => exact absurd (List.append_eq_nil_iff.mp (List.cons.inj hpieces).2).2 (by simp)
  | stop hfollow => cases hfollow
  | @link links place q piece t rest hdir hpiece hlink hon ht h ih =>
    cases a with
    | nil =>
      obtain ⟨rfl, rfl⟩ := List.cons.inj hpieces
      exact .inr ⟨_, t, .stop rfl hdir hpiece hlink, hlink⟩
    | cons x a =>
      obtain ⟨rfl, rfl⟩ := List.cons.inj hpieces
      exact (ih (List.append_assoc ..)).imp_right fun ⟨q', t', hq', ht'⟩ =>
        ⟨q', t', .link hdir hpiece hlink (.inl (by simp)) ht hq', ht'⟩

end FileSystem

end Phrasebook
