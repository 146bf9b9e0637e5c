import Phrasebook.Files.Changes
import Phrasebook.Proofs.Project.Products

/-!
# What an extraction preserves

An extraction changes no file but those of its products, and the file of a locale reads as a dictionary that holds every value
that said something before, and every id that was found if empty ones are wanted (`extractMessages_preserves`). Locales may
share a file through links: they have read the same dictionary (`existingIn_eq_of_shared`), so it does not matter which of them
is written last. But an artifact that is written to the file of a locale replaces its dictionary, and a number may be read as
another when it has been written (`extractMessages_preserves_false`).
-/

namespace Phrasebook

namespace FileSystem

variable {fs fs' : FileSystem} {written : Place → Prop} {q : Place}

/-- A file that was not written is as before, and no file is new where none was written. -/
theorem Evolves.fileAt? (h : Evolves written fs fs') (hq : ¬written q) : fs'.fileAt? q = fs.fileAt? q := by
  have hplace := h.grows q
  unfold FileSystem.fileAt?
  generalize fs.tree.at? q = old at hplace
  generalize fs'.tree.at? q = new at hplace
  cases hplace with
  | nothing | directory | link | file | newDirectory => rfl
  | rewritten hwritten | newFile hwritten => exact absurd hwritten hq

end FileSystem

namespace Extract

open FileSystem Work Locales

variable {root p p' : Path} {c : Config} {fs fs' : FileSystem} {scan : ScanResult} {fallback : Option Dictionary}
  {order : KeyOrder} {lang lang' id : String} {outcome : String → MergeOutcome} {q : Place} {e : Entry} {value : Json}

/-! ## Locales that share a file -/

theorem existingIn_congr (h : fs.entry? p = fs.entry? p') : existingIn fs p = existingIn fs p' := by
  have htext : fs.readText? p = fs.readText? p' := by rw [readText?, readBytes?, h, ← readBytes?, ← readText?]
  have hthere : fs.exists? p = fs.exists? p' := by rw [FileSystem.exists?, h, ← FileSystem.exists?]
  simp only [existingIn, readDictionary, hthere, htext]
  cases fs.exists? p' with
  | false => rfl
  | true =>
    cases fs.readText? p' with
    | none => rfl
    | some text =>
      cases hread : Json.read? text with
      | none => simp [hread]
      | some value => cases value <;> simp [hread]

/-- The files of locales stand beside one another. -/
theorem isBeside_path (hvalid : c.validate = .ok ()) (hlang : lang ∈ c.locales) (hlang' : lang' ∈ c.locales) :
    IsBeside ((Product.locale lang).path root c) ((Product.locale lang').path root c) := by
  have hslash : ∀ lang ∈ c.locales, '/' ∉ (Locales.fileName lang).toList := by
    intro lang hlang
    have hname := (of_checkLocale (checkLocale_of_validate hvalid lang hlang)).2
    simpa [Locales.fileName] using hname
  exact ((isBeside_of_names (hslash lang hlang) (hslash lang' hlang')).join ⟨c.localesDir⟩).join root

/-- What the file of a locale held before is what the file of another one held if both go to one place. -/
theorem entry?_of_shared (hvalid : c.validate = .ok ()) (hproper : fs.tree.isProper = true)
    (hwritten : (writeAll c.jsonIndent (contents root c outcome scan (products c))).Yields fs () fs')
    (hlang : lang ∈ c.locales) (hlang' : lang' ∈ c.locales)
    (hq : fs'.placeOf? ((Product.locale lang).path root c) = some q)
    (hq' : fs'.placeOf? ((Product.locale lang').path root c) = some q)
    (he : fs.entry? ((Product.locale lang).path root c) = some e) :
    fs.entry? ((Product.locale lang').path root c) = some e := by
  rw [products, contents, List.map_append, writeAll_append] at hwritten
  obtain ⟨_, mid, hlocales, hartifacts⟩ := yields_bind_iff.mp hwritten
  obtain ⟨hbefore, hplaces⟩ := writeAll_effect_places hproper hlocales
  obtain ⟨hafter, -⟩ := writeAll_effect_places (hbefore.isProper hproper) hartifacts
  -- where the paths lead that are there already
  obtain ⟨q₀, ⟨hp, hq₀⟩, hentry⟩ := entry?_eq_some_iff.mp he
  obtain rfl : q₀ = q := Option.some.inj
    ((placeOf?_eq_some_iff.mpr ⟨hp, hafter.leadsTo (hbefore.leadsTo hq₀)⟩).symm.trans hq)
  obtain ⟨r, hr, -⟩ := hplaces _ (List.mem_map_of_mem (List.mem_map_of_mem hlang'))
  obtain ⟨hp', hr⟩ := placeOf?_eq_some_iff.mp hr
  obtain rfl : r = q₀ := Option.some.inj ((placeOf?_eq_some_iff.mpr ⟨hp', hafter.leadsTo hr⟩).symm.trans hq')
  -- the first locale has a file, so no directory was made for the second
  have hdirs : NoNewDirectory fs mid := by
    refine noNewDirectory_writeAll (fun product hproduct => ?_) hp hq₀ hproper hlocales
    obtain ⟨_, hmem, rfl⟩ := List.mem_map.mp hproduct
    obtain ⟨other, hother, rfl⟩ := List.mem_map.mp hmem
    exact isBeside_path hvalid hlang hother
  exact entry?_eq_some_iff.mpr ⟨r, ⟨hp', hr.before hbefore hdirs (Option.isSome_of_eq_some hentry)⟩, hentry⟩

/-- Locales whose files go to one place have read the same dictionary. -/
theorem existingIn_eq_of_shared (hvalid : c.validate = .ok ()) (hproper : fs.tree.isProper = true)
    (hwritten : (writeAll c.jsonIndent (contents root c outcome scan (products c))).Yields fs () fs')
    (hlang : lang ∈ c.locales) (hlang' : lang' ∈ c.locales)
    (hq : fs'.placeOf? ((Product.locale lang).path root c) = some q)
    (hq' : fs'.placeOf? ((Product.locale lang').path root c) = some q) :
    existingIn fs ((Product.locale lang).path root c) = existingIn fs ((Product.locale lang').path root c) := by
  refine existingIn_congr (Option.ext fun e => ⟨fun he => ?_, fun he => ?_⟩)
  · exact entry?_of_shared hvalid hproper hwritten hlang hlang' hq hq' he
  · exact entry?_of_shared hvalid hproper hwritten hlang' hlang hq' hq he

/-! ## Merged dictionaries -/

/-- A value that says something stays in the dictionary of a locale, if ids are reserved. -/
theorem get?_outcomeOf_of_hasText (hreserve : c.reserveKeys = true) (htext : value.hasText = true)
    (h : (existingIn fs ((Product.locale lang).path root c)).get? id = some value) :
    (outcomeOf root c order scan fallback fs lang).dictionary.get? id = some value := by
  have hsettled : ∀ candidate, Dictionary.settled candidate (some value) = some value := fun _ => if_pos htext
  rw [outcomeOf, Dictionary.get?_merge, h]
  simp only [hsettled, hreserve, if_true, ite_self]

/-- Every id that was found is in the dictionary of a locale, if empty ones are wanted. -/
theorem mem_keys_outcomeOf (hempty : c.emptyTags = true) (hid : id ∈ scan.messages.keys) :
    id ∈ (outcomeOf root c order scan fallback fs lang).dictionary.keys := by
  by_contra hnot
  have hnone := OrderedMap.get?_eq_none_iff.mpr hnot
  rw [outcomeOf, Dictionary.get?_merge, if_pos hid, Dictionary.settled] at hnone
  split at hnone
  · next hheld =>
    rw [hnone] at hheld
    cases hheld
  · obtain ⟨hcandidate, -⟩ := Option.or_eq_none_iff.mp hnone
    rw [Option.map_eq_none_iff, Dictionary.candidate?, hempty] at hcandidate
    simp at hcandidate

/-! ## Preservation -/

/-- The products that are no locales. -/
def artifacts : List Product := [.template, .messageMap, .fileMap]

/-- No artifact goes to the file of a locale. -/
def ArtifactsApart (root : Path) (c : Config) (fs : FileSystem) : Prop :=
  ∀ lang ∈ c.locales, ∀ artifact ∈ artifacts,
    fs.placeOf? (artifact.path root c) ≠ fs.placeOf? ((Product.locale lang).path root c)

instance (root : Path) (c : Config) (fs : FileSystem) : Decidable (ArtifactsApart root c fs) :=
  inferInstanceAs (Decidable (∀ lang ∈ c.locales, ∀ artifact ∈ artifacts, _ ≠ _))

/-- The real numbers in the dictionary of a locale read back when they have been written. -/
def NumbersReadBack (root : Path) (c : Config) (fs : FileSystem) (lang : String) : Prop :=
  ∀ pair ∈ (existingIn fs ((Product.locale lang).path root c)).entries, ∀ x ∈ pair.2.reals, Json.ReadsBack x

instance (root : Path) (c : Config) (fs : FileSystem) (lang : String) : Decidable (NumbersReadBack root c fs lang) :=
  inferInstanceAs (Decidable (∀ pair ∈ (existingIn fs ((Product.locale lang).path root c)).entries, _))

/-- The file of a locale reads as a dictionary that holds every value that said something before, as it is seen after, and every
id that was found if empty ones are wanted. -/
def Holds (root : Path) (c : Config) (before after : FileSystem) (seen : Json → Json) (lang : String) : Prop :=
  ∃ d, readDictionary after ((Product.locale lang).path root c) = .ok (some d) ∧
    (∀ id value, (existingIn before ((Product.locale lang).path root c)).get? id = some value → value.hasText = true →
      d.get? id = some (seen value)) ∧
    (c.emptyTags = true → ∀ id ∈ (foundIn root c before).messages.keys, id ∈ d.keys)

/-- A locale holds what it said before where the file of a locale that said the same is written last. -/
theorem holds_of_readBytes? (hreserve : c.reserveKeys = true) (hfound : foundIn root c fs = scan)
    (hsame : existingIn fs ((Product.locale lang).path root c) = existingIn fs ((Product.locale lang').path root c))
    (hread : fs'.readBytes? ((Product.locale lang).path root c) =
      some (fileBytes c.jsonIndent (.object (outcomeOf root c order scan fallback fs lang').dictionary.entries))) :
    Holds root c fs fs' Json.reread lang := by
  refine ⟨_, readDictionary_reread hread, fun id value hvalue htext => ?_, fun hempty id hid => ?_⟩
  · rw [hsame] at hvalue
    rw [rereadDictionary, OrderedMap.get?_mapValues, get?_outcomeOf_of_hasText hreserve htext hvalue, Option.map_some]
  · rw [hfound] at hid
    rw [rereadDictionary, OrderedMap.keys_mapValues]
    exact mem_keys_outcomeOf hempty hid

theorem Holds.of_numbersReadBack (h : Holds root c fs fs' Json.reread lang) (hnumbers : NumbersReadBack root c fs lang) :
    Holds root c fs fs' (fun value => value) lang := by
  obtain ⟨d, hd, hkept, hfound⟩ := h
  refine ⟨d, hd, fun id value hvalue htext => ?_, hfound⟩
  rw [hkept id value hvalue htext, Json.reread_eq value (hnumbers (id, value) (OrderedMap.get?_eq_some_iff.mp hvalue))]

/-- An extraction that keeps ids loses nothing that a locale says if no artifact goes to the file of a locale, and changes
nothing of it if its real numbers read back; and no file changes or is made but those of the products. -/
theorem extractMessages_preserves {report : Report} (hproper : fs.tree.isProper = true) (hreserve : c.reserveKeys = true)
    (hrun : (extractMessages root c).Yields fs report fs') :
    (ArtifactsApart root c fs' → ∀ lang ∈ c.locales, Holds root c fs fs' Json.reread lang ∧
      (NumbersReadBack root c fs lang → Holds root c fs fs' (fun value => value) lang)) ∧
    ∀ q, (∀ product ∈ products c, fs'.placeOf? (product.path root c) ≠ some q) → fs'.fileAt? q = fs.fileAt? q := by
  obtain ⟨order, scan, fallback, hplan, hwritten, -⟩ := yields_extractMessages_iff.mp ⟨report, hrun, rfl⟩
  obtain ⟨hevolves, hplaces⟩ := writeAll_effect_places hproper hwritten
  constructor
  · intro hapart lang hlang
    obtain ⟨q, hq, _, hlast, hplace, hfile⟩ :=
      hplaces _ (List.mem_map_of_mem (List.mem_append_left _ (List.mem_map_of_mem hlang)))
    obtain ⟨product, hproduct, rfl⟩ := List.mem_map.mp hlast
    -- the last product that was written to the file is a locale
    have hlocale : ∃ lang' ∈ c.locales, product = .locale lang' := by
      rcases List.mem_append.mp hproduct with hmem | hmem
      · obtain ⟨lang', hlang', rfl⟩ := List.mem_map.mp hmem
        exact ⟨lang', hlang', rfl⟩
      · exact absurd (hplace.trans hq.symm) (hapart lang hlang product hmem)
    obtain ⟨lang', hlang', rfl⟩ := hlocale
    have hexisting := existingIn_eq_of_shared hplan.valid hproper hwritten hlang hlang' hq hplace
    have hread := readBytes?_eq_some_iff.mpr ⟨q, placeOf?_eq_some_iff.mp hq, hfile⟩
    have hholds := holds_of_readBytes? hreserve (foundIn_eq hplan.scanned) hexisting hread
    exact ⟨hholds, hholds.of_numbersReadBack⟩
  · intro q hq
    refine hevolves.fileAt? ?_
    rintro ⟨_, hmem, hplace⟩
    obtain ⟨product, hproduct, rfl⟩ := List.mem_map.mp hmem
    exact hq product hproduct hplace

namespace PreservationWitness

/-- A source file with two ids, and a dictionary that two locales share through a link. -/
def till : FileSystem :=
  ⟨.directory [("app.js", .file (Text.toBytes "'cash''card'")),
    ("locales", .directory [("en.json", .file (Text.toBytes "\x7b\"cash\": \"Cash\", \"rate\": [0.5]\x7d")),
      ("en-us.json", .link "en.json")])], []⟩

def tillConfig : Config :=
  { Config.standard with extensions := ["js"], locales := ["en", "en-us"], patterns := [⟨"'([a-z]+)'", .id⟩] }

/-- What an extraction leaves of the till. -/
def tillAfter : FileSystem := ((extractMessages ⟨"/"⟩ tillConfig).run till).fs

/-- A dictionary that has the name of an artifact. -/
def clash : FileSystem :=
  ⟨.directory [("locales", .directory [("template.json", .file (Text.toBytes "\x7b\"a\": \"A\"\x7d"))])], []⟩

def clashConfig : Config := { tillConfig with locales := ["template"], outputDir := "locales", patterns := [] }

/-- A dictionary with a number that is read as another when it has been written. -/
def drift : FileSystem :=
  ⟨.directory [("locales", .directory [("en.json", .file (Text.toBytes "\x7b\"n\": 1.1140348999999999e+112\x7d"))])], []⟩

def driftConfig : Config := { tillConfig with locales := ["en"], patterns := [] }

end PreservationWitness

open PreservationWitness in
/-- Both locales hold what their dictionary said, and the source file is as before. -/
theorem extractMessages_preserves_till :
    ∃ report, (extractMessages ⟨"/"⟩ tillConfig).Yields till report tillAfter ∧
      (∀ lang ∈ ["en", "en-us"], Holds ⟨"/"⟩ tillConfig till tillAfter (fun value => value) lang) ∧
      tillAfter.fileAt? ["app.js"] = till.fileAt? ["app.js"] := by
  obtain ⟨hok, hapart, hplaces⟩ : ((extractMessages ⟨"/"⟩ tillConfig).run till).result.isOk = true ∧
      ArtifactsApart ⟨"/"⟩ tillConfig tillAfter ∧
      ∀ product ∈ products tillConfig, tillAfter.placeOf? (product.path ⟨"/"⟩ tillConfig) ≠ some ["app.js"] := by
    decide +kernel
  have hnumbers : ∀ lang ∈ ["en", "en-us"], NumbersReadBack ⟨"/"⟩ tillConfig till lang := by decide +kernel
  obtain ⟨report, hrun⟩ := exists_yields hok
  obtain ⟨hlocales, hframe⟩ := extractMessages_preserves (by decide) (by decide) hrun
  exact ⟨report, hrun, fun lang hlang => (hlocales hapart lang hlang).2 (hnumbers lang hlang), hframe ["app.js"] hplaces⟩

/-- The file of a locale shows another value for an id that said something before. -/
def Loses (root : Path) (c : Config) (before after : FileSystem) (lang id : String) : Prop :=
  ((existingIn before ((Product.locale lang).path root c)).get? id).any Json.hasText = true ∧
    ((existingIn after ((Product.locale lang).path root c)).get? id).map Json.compact ≠
      ((existingIn before ((Product.locale lang).path root c)).get? id).map Json.compact

instance (root : Path) (c : Config) (before after : FileSystem) (lang id : String) :
    Decidable (Loses root c before after lang id) :=
  inferInstanceAs (Decidable (_ ∧ _ ≠ _))

theorem not_holds_of_loses (h : Loses root c fs fs' lang id) : ¬Holds root c fs fs' (fun value => value) lang := by
  obtain ⟨hsaid, hshown⟩ := h
  rintro ⟨d, hd, hkept, -⟩
  cases hvalue : (existingIn fs ((Product.locale lang).path root c)).get? id with
  | none =>
    rw [hvalue] at hsaid
    cases hsaid
  | some value =>
    rw [hvalue] at hsaid hshown
    refine hshown (congrArg (Option.map Json.compact) ?_)
    rw [existingIn_eq hd]
    exact hkept id value hvalue hsaid

open PreservationWitness in
/-- An artifact may replace what a locale says, and a number may be read as another. -/
theorem extractMessages_preserves_false :
    (¬∀ (root : Path) (c : Config) (fs fs' : FileSystem) (report : Report), fs.tree.isProper = true → c.reserveKeys = true →
      (extractMessages root c).Yields fs report fs' → (∀ lang ∈ c.locales, NumbersReadBack root c fs lang) →
        ∀ lang ∈ c.locales, Holds root c fs fs' (fun value => value) lang) ∧
    ¬∀ (root : Path) (c : Config) (fs fs' : FileSystem) (report : Report), fs.tree.isProper = true → c.reserveKeys = true →
      (extractMessages root c).Yields fs report fs' → ArtifactsApart root c fs' →
        ∀ lang ∈ c.locales, Holds root c fs fs' (fun value => value) lang := by
  constructor
  · intro hclaim
    obtain ⟨hok, hloses⟩ : ((extractMessages ⟨"/"⟩ clashConfig).run clash).result.isOk = true ∧
        Loses ⟨"/"⟩ clashConfig clash ((extractMessages ⟨"/"⟩ clashConfig).run clash).fs "template" "a" := by decide +kernel
    have hnumbers : ∀ lang ∈ clashConfig.locales, NumbersReadBack ⟨"/"⟩ clashConfig clash lang := by decide +kernel
    obtain ⟨report, hrun⟩ := exists_yields hok
    exact not_holds_of_loses hloses (hclaim _ _ _ _ report (by decide) (by decide) hrun hnumbers "template" (by decide))
  · intro hclaim
    obtain ⟨hok, hapart, hloses⟩ : ((extractMessages ⟨"/"⟩ driftConfig).run drift).result.isOk = true ∧
        ArtifactsApart ⟨"/"⟩ driftConfig ((extractMessages ⟨"/"⟩ driftConfig).run drift).fs ∧
        Loses ⟨"/"⟩ driftConfig drift ((extractMessages ⟨"/"⟩ driftConfig).run drift).fs "en" "n" := by decide +kernel
    obtain ⟨report, hrun⟩ := exists_yields hok
    exact not_holds_of_loses hloses (hclaim _ _ _ _ report (by decide) (by decide) hrun hapart "en" (by decide))

end Extract

end Phrasebook
