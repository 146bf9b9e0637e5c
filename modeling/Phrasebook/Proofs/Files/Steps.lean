import Mathlib.Data.List.Sort
import Phrasebook.Proofs.Files.Paths

/-!
# The steps of paths

What is joined to a path puts its steps behind those of the path, unless that is empty (`components_join`). Paths are ordered
by their steps, and paths that ascend strictly are known up to their spelling by which paths are among them
(`map_components_eq`).
-/

namespace Phrasebook

open FileSystem Phrasebook.Path

variable {p : Path} {t name : String} {names pieces : List String} {a b c : Component} {as bs cs : List Component}

/-! ## Steps of joined paths -/

/-- Does the piece count as a step? -/
def counts (piece : String) : Bool := piece != "" && piece != "."

/-- The step that a piece of a path stands for, if it counts. -/
def stepOf? (piece : String) : Option Component := pieceComponent? piece.toList

/-- The two ways to say that a piece does not count agree. -/
theorem isIdle_toList (piece : String) : isIdle piece.toList = !counts piece := by
  have hpoint : (piece.toList == ['.']) = (piece == ".") := by
    rw [Bool.eq_iff_iff, beq_iff_eq, beq_iff_eq, ← String.toList_inj]
    rfl
  have hempty : piece.toList.isEmpty = (piece == "") := by
    rw [Bool.eq_iff_iff, List.isEmpty_iff, beq_iff_eq, ← String.toList_inj]
    rfl
  rw [isIdle, hpoint, hempty, counts, bne, bne, ← Bool.not_or, Bool.not_not]

/-- What comes before the pieces is known by the first of them, unless the path is absolute. -/
theorem lead_spelling (p : Path) : p.spelling.lead =
    if p.text.toList.head? = some '/' then ['/'] else if (piecesOf p.text).head? = some "." then ['.'] else [] := by
  unfold spelling
  split
  · next rest h => rw [h]; rfl
  · next h => rw [piecesOf, h]; rfl
  · next rest h => rw [piecesOf, h]; rfl
  · next hslash hpoint hpointSlash =>
    have hrelative : p.text.toList.head? ≠ some '/' := by
      intro h
      obtain ⟨rest, hrest⟩ := List.head?_eq_some_iff.mp h
      exact hslash rest hrest
    have hfirst : (piecesOf p.text).head? ≠ some "." := by
      intro h
      rw [piecesOf, List.head?_map] at h
      obtain ⟨first, hhead, hfirst⟩ := Option.map_eq_some_iff.mp h
      obtain rfl : first = ['.'] := by rw [← String.toList_inj, String.toList_ofList] at hfirst; exact hfirst
      obtain ⟨others, hsplit⟩ := List.head?_eq_some_iff.mp hhead
      have htext := joinPieces_splitAt p.text.toList
      rw [hsplit] at htext
      by_cases hothers : others = []
      · exact hpoint (by rw [← htext, hothers]; rfl)
      · exact hpointSlash (joinPieces others) (by rw [← htext, joinPieces_cons _ hothers]; rfl)
    rw [if_neg hrelative, if_neg hfirst]

/-- The steps of a path are those of its pieces that count. -/
theorem components_eq_pieces (p : Path) :
    p.components = leadComponents p.spelling.lead ++ (piecesOf p.text).filterMap stepOf? := by
  have hstep : (stepOf? ∘ String.ofList) = pieceComponent? := by
    funext piece
    rw [Function.comp_apply, stepOf?, String.toList_ofList]
  rw [components_eq, piecesOf, List.filterMap_map, hstep]

/-- What is joined to a path makes it neither absolute nor relative. -/
theorem head?_join (p : Path) (ht : t.toList.head? ≠ some '/') :
    (p.join t).text.toList.head? = some '/' ↔ p.text.toList.head? = some '/' := by
  obtain ⟨-, -, -, hstart⟩ := piecesOf_join p ht
  have h := hstart [""]
  simp only [startOf] at h
  by_cases hjoined : (p.join t).text.toList.head? = some '/' <;> by_cases hfirst : p.text.toList.head? = some '/'
  · exact iff_of_true hjoined hfirst
  · rw [if_pos hjoined, if_neg hfirst] at h
    cases h
  · rw [if_neg hjoined, if_pos hfirst] at h
    cases h
  · exact iff_of_false hjoined hfirst

/-- What is joined to a path that is not empty puts its steps behind those of the path. -/
theorem components_join (hp : p.text ≠ "") (ht : t.toList.head? ≠ some '/') :
    (p.join t).components = p.components ++ (piecesOf t).filterMap stepOf? := by
  obtain ⟨a, hjoin, hpieces, -⟩ := piecesOf_join p ht
  have ha : a ≠ [] := by
    rintro rfl
    rcases hpieces with h | h
    · exact piecesOf_ne_nil _ h
    · refine hp ?_
      rw [← String.toList_inj, ← joinPieces_splitAt p.text.toList]
      obtain ⟨piece, hsplit, hpiece⟩ := List.map_eq_singleton_iff.mp h
      rw [← String.toList_inj, String.toList_ofList] at hpiece
      rw [hsplit, hpiece]
      rfl
  have hhead : (piecesOf (p.join t).text).head? = (piecesOf p.text).head? := by
    rw [hjoin, List.head?_append_of_ne_nil _ ha]
    rcases hpieces with h | h
    · rw [h]
    · rw [h, List.head?_append_of_ne_nil _ ha]
  have hsteps : (piecesOf p.text).filterMap stepOf? = a.filterMap stepOf? := by
    rcases hpieces with h | h
    · rw [h]
    · rw [h, List.filterMap_append, show [""].filterMap stepOf? = [] from rfl, List.append_nil]
  rw [components_eq_pieces, components_eq_pieces p, lead_spelling, lead_spelling p, hhead, hjoin,
    List.filterMap_append, hsteps, List.append_assoc]
  simp only [head?_join p ht]

/-- Pieces without a step up stand for names. -/
theorem filterMap_stepOf? (hup : ".." ∉ pieces) :
    pieces.filterMap stepOf? = (pieces.filter counts).map Component.name := by
  induction pieces with
  | nil => rfl
  | cons piece pieces ih =>
    rw [List.mem_cons, not_or] at hup
    have hpiece : stepOf? piece = if counts piece then some (.name piece) else none := by
      have hstep : piece.toList ≠ ['.', '.'] := fun h => hup.1 (by rw [← String.toList_inj, h]; rfl)
      rw [stepOf?, pieceComponent?, isIdle_toList, if_neg hstep, String.ofList_toList]
      cases counts piece <;> rfl
    rw [List.filterMap_cons, List.filter_cons, hpiece, ih hup.2]
    split <;> simp_all

/-- Names joined to a path that is not empty are its last steps. -/
theorem components_foldl_join (hp : p.text ≠ "") (hnames : ∀ name ∈ names, isEntryName name = true) :
    (names.foldl Path.join p).components = p.components ++ names.map Component.name := by
  induction names generalizing p with
  | nil => rw [List.map_nil, List.append_nil]; rfl
  | cons name names ih =>
    have hname := hnames name List.mem_cons_self
    have hne : (p.join name).text ≠ "" := by
      intro h
      obtain ⟨a, ha, -⟩ := piecesOf_join p (head?_of_isEntryName hname)
      rw [h, piecesOf_of_isEntryName hname] at ha
      have hlast := congrArg List.getLast? ha
      rw [List.getLast?_concat] at hlast
      have hempty : name = "" := (Option.some.inj hlast).symm
      rw [hempty] at hname
      cases hname
    have hstep : stepOf? name = some (.name name) := pieceComponent?_of_isEntryName hname
    rw [List.foldl_cons, ih hne fun k hk => hnames k (List.mem_cons_of_mem _ hk),
      components_join hp (head?_of_isEntryName hname), piecesOf_of_isEntryName hname, List.filterMap_cons_some hstep,
      List.append_assoc]
    rfl

/-! ## The order of steps -/

namespace Component

/-- Two steps can always be compared: by their kind, and names by their characters. -/
theorem le_total (a b : Component) : (a.le b || b.le a) = true := by
  cases a <;> cases b <;> simp [le, rank, String.le_total]

/-- The order of steps is transitive, also across kinds. -/
theorem le_trans (hab : a.le b = true) (hbc : b.le c = true) : a.le c = true := by
  cases a <;> cases b <;> cases c <;> simp_all [le, rank]
  exact String.le_trans hab hbc

/-- Steps that come before each other are the same. -/
theorem le_antisymm (hab : a.le b = true) (hba : b.le a = true) : a = b := by
  cases a <;> cases b <;> simp_all [le, rank]
  exact String.le_antisymm hab hba

end Component

/-! ## The order of paths -/

namespace Path

variable {p q r : Path} {paths paths' : List Path}

/-- Lists of steps are compared at the first place where they differ, or by their lengths. -/
theorem leComponents_total (as bs : List Component) : (leComponents as bs || leComponents bs as) = true := by
  fun_induction leComponents as bs with
  | case1 => rfl
  | case2 => rfl
  | case3 a as bs ih => rwa [leComponents, if_pos rfl]
  | case4 a as b bs hne =>
    rw [leComponents, if_neg (Ne.symm hne)]
    exact a.le_total b

/-- This order is transitive. -/
theorem leComponents_trans (hab : leComponents as bs = true) (hbc : leComponents bs cs = true) :
    leComponents as cs = true := by
  fun_induction leComponents as bs generalizing cs with
  | case1 => rfl
  | case2 => cases hab
  | case3 a as bs ih =>
    cases cs with
    | nil => cases hbc
    | cons c cs =>
      rw [leComponents] at hbc ⊢
      split
      · next heq => exact ih hab (by rwa [if_pos heq] at hbc)
      · next hne => rwa [if_neg hne] at hbc
  | case4 a as b bs hne =>
    cases cs with
    | nil => cases hbc
    | cons c cs =>
      rw [leComponents] at hbc ⊢
      by_cases hbc' : b = c
      · rw [← hbc', if_neg hne]
        exact hab
      · rw [if_neg hbc'] at hbc
        have hac : a ≠ c := by
          rintro rfl
          exact hne (Component.le_antisymm hab hbc)
        rw [if_neg hac]
        exact Component.le_trans hab hbc

/-- Lists of steps that come before each other are the same. -/
theorem leComponents_antisymm (hab : leComponents as bs = true) (hba : leComponents bs as = true) : as = bs := by
  fun_induction leComponents as bs with
  | case1 bs =>
    cases bs with
    | nil => rfl
    | cons => cases hba
  | case2 => cases hab
  | case3 a as bs ih =>
    rw [leComponents, if_pos rfl] at hba
    rw [ih hab hba]
  | case4 a as b bs hne =>
    rw [leComponents, if_neg (Ne.symm hne)] at hba
    exact absurd (Component.le_antisymm hab hba) hne

/-- Any two paths can be compared. -/
theorem le_total (p q : Path) : (p.le q || q.le p) = true := leComponents_total p.components q.components

/-- The order of paths is transitive. -/
theorem le_trans (hpq : p.le q = true) (hqr : q.le r = true) : p.le r = true := leComponents_trans hpq hqr

/-- Does the first path come before the second, by their steps? -/
def Before (p q : Path) : Prop := p.le q = true ∧ p.same q = false

/-- Paths are the same if their steps are, however they are spelled. -/
theorem same_iff : p.same q = true ↔ p.components = q.components := beq_iff_eq

/-- What comes strictly before a path comes strictly before all later ones. -/
theorem before_of_before_of_le (hpq : p.Before q) (hqr : q.le r = true) : p.Before r := by
  refine ⟨le_trans hpq.1 hqr, Bool.eq_false_iff.mpr fun hsame => Bool.eq_false_iff.mp hpq.2 ?_⟩
  rw [same_iff] at hsame ⊢
  exact leComponents_antisymm hpq.1 (by rw [hsame]; exact hqr)

/-- Strictly ascending paths are known up to their spelling by the paths among them. -/
theorem map_components_eq (h : paths.Pairwise Before) (h' : paths'.Pairwise Before)
    (hsame : ∀ steps, steps ∈ paths.map components ↔ steps ∈ paths'.map components) :
    paths.map components = paths'.map components := by
  let before (as bs : List Component) : Prop := leComponents as bs = true ∧ as ≠ bs
  have : Std.Irrefl before := ⟨fun _ h => h.2 rfl⟩
  have : Std.Antisymm before := ⟨fun _ _ hab hba => leComponents_antisymm hab.1 hba.1⟩
  have hmap : ∀ {paths : List Path}, paths.Pairwise Before → (paths.map components).Pairwise before := fun h =>
    List.pairwise_map.mpr (h.imp fun hpq => ⟨hpq.1, fun heq => Bool.eq_false_iff.mp hpq.2 (same_iff.mpr heq)⟩)
  exact (hmap h).eq_of_mem_iff (hmap h') hsame

end Path

end Phrasebook
