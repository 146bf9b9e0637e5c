import Phrasebook.Proofs.Context.Resolution
import Phrasebook.Proofs.Template.Splitting

/-!
# Messages that need no guard

Without its guard the resolving of references is plain expansion: each reference stands for the message it names, formatted
without values in the same locale. Where this expansion comes to an end, and on the way to none of its messages an id occurs
twice or more than `maxDepth` messages stand inside one another, the guard changes nothing (`formatMessage_of_unguarded`).
-/

namespace Phrasebook.Context

open Template

variable {c : Context} {locale : Option String}

/-! ## Runs under another guard -/

mutual

/-- A run in which every reference is followed is a run under each guard that lets all its messages pass. -/
theorem Formats.guarded {guard : Guard} {chain chain' : List String} {visits : List Visit} {descriptor : Descriptor}
    {values : Option Variables} {fallback : Option String} {result : Logged String} :
    Formats c locale noGuard chain descriptor values fallback result chain' visits →
      (∀ v ∈ visits, guard v.chain v.id = none) →
      Formats c locale guard chain descriptor values fallback result chain' visits
  | .instead htemplate, _ => .instead htemplate
  | .template htemplate hfills, hpass => .template htemplate (Fills.guarded hfills hpass)
  | .itsId htemplate hfills, hpass => .itsId htemplate (Fills.guarded hfills hpass)

/-- A template is filled in the same way by a guard that lets every visit pass. -/
theorem Fills.guarded {guard : Guard} {chain chain' : List String} {visits : List Visit} {template : String}
    {values : Option Variables} {fallback : Option String} {result : Logged String} :
    Fills c locale noGuard chain template values fallback result chain' visits →
      (∀ v ∈ visits, guard v.chain v.id = none) →
      Fills c locale guard chain template values fallback result chain' visits
  | .plain hplain, _ => .plain hplain
  | .instead hplaceholder, _ => .instead hplaceholder
  | .given hplaceholder hparts, hpass => .given hplaceholder (FillsParts.guarded hparts hpass)
  | .notGiven hplaceholder hparts, hpass => .notGiven hplaceholder (FillsParts.guarded hparts hpass)

/-- The same for the parts of a template, one after the other. -/
theorem FillsParts.guarded {guard : Guard} {chain chain' : List String} {visits : List Visit} {values : Variables}
    {parts : List Piece} {result : Logged Filled} :
    FillsParts c locale noGuard chain values parts result chain' visits →
      (∀ v ∈ visits, guard v.chain v.id = none) →
      FillsParts c locale guard chain values parts result chain' visits
  | .nil, _ => .nil
  | .text hparts, hpass => .text (FillsParts.guarded hparts hpass)
  | .name hparts, hpass => .name (FillsParts.guarded hparts hpass)
  | .reference hresolves hparts, hpass =>
    .reference (Resolves.guarded hresolves fun v hv => hpass v (List.mem_append_left _ hv))
      (FillsParts.guarded hparts fun v hv => hpass v (List.mem_append_right _ hv))

/-- The same for a reference: the guard is asked at its visit, and lets it pass. -/
theorem Resolves.guarded {guard : Guard} {chain chain' : List String} {visits : List Visit} {values : Variables}
    {reference : List Fragment} {result : Logged (Option String)} :
    Resolves c locale noGuard chain values reference result chain' visits →
      (∀ v ∈ visits, guard v.chain v.id = none) →
      Resolves c locale guard chain values reference result chain' visits
  | .followed _ hformats, hpass =>
    .followed (hpass _ List.mem_cons_self)
      (Formats.guarded hformats fun v hv => hpass v (List.mem_cons_of_mem _ hv))

end

/-- A message passes the guard if the way to it repeats no id and is not too long. -/
theorem chainGuard_eq_none_of_path {v : Visit} (hnodup : v.path.Nodup) (hlength : v.path.length ≤ maxDepth) :
    chainGuard v.chain v.id = none := by
  rw [Visit.path, List.length_append, List.length_singleton] at hlength
  rw [Visit.path, List.nodup_append] at hnodup
  exact chainGuard_eq_none_iff.mpr ⟨fun hmem => hnodup.2.2 _ hmem _ List.mem_cons_self rfl, hlength⟩

/-- A message whose expansion comes to an end is this expansion, unless on the way to one of its messages an id occurs twice or
more than `maxDepth` messages stand inside one another, the first included. -/
theorem formatMessage_of_unguarded {descriptor : Descriptor} {values : Option Variables} {fallback : Option String}
    {result : Logged String} {chain : List String} {visits : List Visit}
    (h : Formats c locale noGuard [] descriptor values fallback result chain visits)
    (hpaths : ∀ v ∈ visits, v.path.Nodup ∧ v.path.length ≤ maxDepth) :
    c.formatMessage descriptor values locale fallback = result := by
  have hguarded : Formats c locale chainGuard [] descriptor values fallback result chain visits :=
    h.guarded fun v hv => chainGuard_eq_none_of_path (hpaths v hv).1 (hpaths v hv).2
  obtain ⟨hresult, -⟩ : result = c.formatMessage descriptor values locale fallback ∧ chain = [] ∧
      ∀ v ∈ visits, v.IsGuarded := hguarded.sound (List.nodup_singleton descriptor.id) rfl
  exact hresult.symm

namespace UnguardedWitness

/-- A letter that refers twice to one message, once by an id which a value completes; that message refers to a third. -/
def letter : String := "\x7b@'end.{kind}'\x7d, \x7b@'end.short'\x7d!"

/-- The message that the letter refers to by two different references. -/
def ending : String := "by \x7b@'name'\x7d"

/-- A catalogue in which references stand two deep. -/
def office : Context :=
  .ofCatalogue ⟨.ofList [("en", .ofList [("letter", letter), ("end.short", ending), ("name", "Ann")])]⟩ "en"

/-- The value that completes an id in the letter. -/
def kind : Variables := .ofList [("kind", .text "short")]

/-- The messages that the letter leads to: twice the ending and, inside it, the name. -/
def visits : List Visit :=
  [⟨"end.short", ["letter"], ["letter"]⟩, ⟨"name", ["letter", "end.short"], ["letter", "end.short"]⟩,
    ⟨"end.short", ["letter"], ["letter"]⟩, ⟨"name", ["letter", "end.short"], ["letter", "end.short"]⟩]

/-- How the three messages are cut into parts. -/
theorem pieces_messages : pieces "Ann".toList = [.text "Ann".toList] ∧
    pieces ending.toList = [.text "by ".toList, .reference [.text "name".toList]] ∧
    pieces letter.toList = [.reference [.text "end.".toList, .name "kind"], .text ", ".toList,
      .reference [.text "end.short".toList], .text "!".toList] := by
  have hname : IsSplit "Ann".toList [.text "Ann".toList] := isSplit_of_standApart (by decide) ⟨by decide, rfl, trivial⟩
  have hnameId : IsId [.text "name".toList] := ⟨by decide, List.all_eq_true.mp rfl, nofun, trivial⟩
  have hending : IsSplit ending.toList [.text "by ".toList, .reference [.text "name".toList]] :=
    isSplit_of_standApart (by decide) ⟨by decide, rfl, ⟨nofun, hnameId⟩, trivial⟩
  have hfirstId : IsId [.text "end.".toList, .name "kind"] :=
    ⟨by decide, List.all_eq_true.mp rfl, nofun, by decide, trivial⟩
  have hsecondId : IsId [.text "end.short".toList] := ⟨by decide, List.all_eq_true.mp rfl, nofun, trivial⟩
  have hletter : IsSplit letter.toList [.reference [.text "end.".toList, .name "kind"], .text ", ".toList,
      .reference [.text "end.short".toList], .text "!".toList] :=
    isSplit_of_standApart (by decide)
      ⟨⟨nofun, hfirstId⟩, by decide, rfl, ⟨nofun, hsecondId⟩, by decide, rfl, trivial⟩
  exact ⟨(isSplit_iff.mp hname).symm, (isSplit_iff.mp hending).symm, (isSplit_iff.mp hletter).symm⟩

/-- The name is formatted without any visit, in whatever chain. -/
theorem exists_formats_name (chain : List String) :
    ∃ text, Formats office none noGuard chain ⟨"name", none⟩ (some .empty) none text chain [] := by
  have htemplate : office.templateOf none ⟨"name", none⟩ = some "Ann" := by rfl
  have hplain : (pieces "Ann".toList).any Piece.isPlaceholder = false := by
    rw [pieces_messages.1]
    rfl
  exact ⟨_, .template_balanced htemplate (.plain hplain)⟩

/-- The ending visits the name, behind the letter and itself. -/
theorem exists_formats_ending : ∃ text, Formats office none noGuard ["letter"] ⟨"end.short", none⟩ (some .empty) none text
    ["letter"] [⟨"name", ["letter", "end.short"], ["letter", "end.short"]⟩] := by
  have htemplate : office.templateOf none ⟨"end.short", none⟩ = some ending := by rfl
  have hplaceholder : (pieces ending.toList).any Piece.isPlaceholder = true := by
    rw [pieces_messages.2.1]
    rfl
  have hid : (referencedId .empty [.text "name".toList]).value = "name" := by rfl
  obtain ⟨text, hname⟩ := exists_formats_name ["letter", "end.short"]
  rw [← hid] at hname
  have hparts : ∃ filled, FillsParts office none noGuard ["letter", "end.short"] .empty (pieces ending.toList) filled
      ["letter", "end.short"] [⟨"name", ["letter", "end.short"], ["letter", "end.short"]⟩] := by
    rw [pieces_messages.2.1]
    have hvisit := FillsParts.text (s := "by ".toList) (.reference (.followed rfl hname) .nil)
    rw [hid] at hvisit
    exact ⟨_, hvisit⟩
  obtain ⟨filled, hparts⟩ := hparts
  exact ⟨_, .template_balanced htemplate (.given hplaceholder hparts)⟩

/-- The letter visits the ending and the name, and both of them once more. -/
theorem exists_formats_letter :
    ∃ text, Formats office none noGuard [] ⟨"letter", none⟩ (some kind) none text [] visits := by
  have htemplate : office.templateOf none ⟨"letter", none⟩ = some letter := by rfl
  have hplaceholder : (pieces letter.toList).any Piece.isPlaceholder = true := by
    rw [pieces_messages.2.2]
    rfl
  have hfirst : (referencedId kind [.text "end.".toList, .name "kind"]).value = "end.short" := by rfl
  have hsecond : (referencedId kind [.text "end.short".toList]).value = "end.short" := by rfl
  obtain ⟨text, hending⟩ := exists_formats_ending
  have hparts : ∃ filled, FillsParts office none noGuard ["letter"] kind (pieces letter.toList) filled ["letter"] visits := by
    rw [pieces_messages.2.2]
    have hvisit := hending
    rw [← hfirst] at hvisit
    have hagain := hending
    rw [← hsecond] at hagain
    have hrun := FillsParts.reference (.followed rfl hvisit)
      (.text (s := ", ".toList) (.reference (.followed rfl hagain) (.text (s := "!".toList) .nil)))
    rw [hfirst, hsecond] at hrun
    exact ⟨_, hrun⟩
  obtain ⟨filled, hparts⟩ := hparts
  exact ⟨_, .template_balanced htemplate (.given hplaceholder hparts)⟩

end UnguardedWitness

open UnguardedWitness in
theorem formatMessage_of_unguarded_letter :
    ∃ text, Formats office none noGuard [] ⟨"letter", none⟩ (some kind) none text [] visits ∧
      (∀ v ∈ visits, v.path.Nodup ∧ v.path.length ≤ maxDepth) ∧
      office.formatMessage ⟨"letter", none⟩ (some kind) none none = text := by
  obtain ⟨text, hrun⟩ := exists_formats_letter
  have hpaths : ∀ v ∈ visits, v.path.Nodup ∧ v.path.length ≤ maxDepth := by decide
  exact ⟨text, hrun, hpaths, formatMessage_of_unguarded hrun hpaths⟩

end Phrasebook.Context
