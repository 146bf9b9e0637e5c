import Phrasebook.Proofs.Dictionary.Repetition
import Phrasebook.Proofs.Files.Discovery
import Phrasebook.Proofs.Project.Products

/-!
# Extracting again

An extraction that is done again on what it has left finds the same sources, reads the dictionaries that it wrote, merges them
into themselves and writes every file as it is (`extractMessages_again`). This needs a few things of the first run, which are
named in `Steady`.
-/

namespace Phrasebook.Extract

open FileSystem Work Locales Discover

variable {root p : Path} {c : Config} {fs fs' : FileSystem} {scan : ScanResult} {fallback : Option Dictionary}
  {order : KeyOrder} {extensions : List String} {outcome : String → MergeOutcome}

/-! ## Extensions of products -/

/-- A file named with `.json` behind a name of its own has the extension `json`. -/
theorem extension?_of_fileName? {base : String} (hbase : base ≠ "") (h : p.fileName? = some (base ++ ".json")) :
    p.extension? = some "json" := by
  have hne : base.toList.reverse ≠ [] := by simpa using hbase
  simp [Path.extension?, h, hne]

/-- The extensions leave out JSON files. -/
structure LeaveOutJson (extensions : List String) : Prop where
  ne_nil : extensions ≠ []
  star_not_mem : "*" ∉ extensions
  plain_ne : ∀ e ∈ extensions, plainExtension e ≠ "json"

instance (extensions : List String) : Decidable (LeaveOutJson extensions) :=
  decidable_of_iff (_ ∧ _ ∧ _) ⟨fun ⟨h, h', h''⟩ => ⟨h, h', h''⟩, fun ⟨h, h', h''⟩ => ⟨h, h', h''⟩⟩

/-- Then a file with that extension is no source. -/
theorem LeaveOutJson.hasExtension (h : LeaveOutJson extensions) (hp : p.extension? = some "json") :
    hasExtension extensions p = false := by
  simpa [Discover.hasExtension, hp, h.ne_nil, h.star_not_mem] using h.plain_ne

/-! ## Places of products -/

/-- No file that was written has one of the extensions, if this is so of the files that links lead to. -/
theorem unseen_written (hjson : LeaveOutJson c.extensions) (hvalid : c.validate = .ok ())
    (hproper : fs.tree.isProper = true) (hthere : ∀ product ∈ products c, fs.exists? (product.path root c) = true)
    (hlinks : ∀ product ∈ products c, fs.isLink (product.path root c) = true →
      ∀ name ∈ (fs.placeOf? (product.path root c)).bind List.getLast?, hasExtension c.extensions ⟨name⟩ = false) :
    Unseen c.extensions (WrittenBy fs (contents root c outcome scan (products c))) := by
  rintro q ⟨_, hmem, hq⟩ d name rfl p hp
  obtain ⟨product, hproduct, rfl⟩ := List.mem_map.mp hmem
  obtain ⟨base, hbase, hne, hslash⟩ := exists_base hvalid hproduct
  have hname : isEntryName product.fileName = true := hbase ▸ isEntryName_of_base hslash
  obtain ⟨a, ha⟩ := exists_piecesOf_path root c hname
  obtain ⟨hfollow, hleads⟩ := placeOf?_eq_some_iff.mp hq
  rw [LeadsTo, ha] at hleads
  rcases Leads.last hname hleads with ⟨d', hplace⟩ | ⟨q', target, hitself, hlink⟩
  · obtain ⟨-, hlast⟩ := List.append_inj' hplace rfl
    obtain rfl := List.singleton_inj.mp hlast
    exact hjson.hasExtension (extension?_of_fileName? hne (hbase ▸ hp))
  · rw [← ha] at hitself
    have hentry := entryItself?_eq_some_iff.mpr ⟨q', ⟨hfollow, hitself⟩, hlink⟩
    obtain ⟨q'', hq'', hsome⟩ := exists?_iff.mp (hthere product hproduct)
    obtain rfl := Option.some.inj (hq.symm.trans (placeOf?_eq_some_iff.mpr hq''))
    obtain ⟨e, he⟩ := Option.isSome_iff_exists.mp hsome
    have hname := Entry.isEntryName_of_at? hproper he
    have hfile : (Path.mk name).fileName? = some name :=
      fileName?_of_piecesOf (a := []) hname (piecesOf_of_isEntryName hname)
    rw [hasExtension_eq (hp.trans hfile.symm)]
    exact hlinks product hproduct (by rw [isLink, hentry]) name (by rw [hq]; exact List.getLast?_concat)

/-! ## Extracting again -/

/-- What an extraction has to find and leave so that there is nothing to do for a second one. -/
structure Steady (root : Path) (c : Config) (before after : FileSystem) : Prop where
  /-- Different products are written to different places. -/
  apart : ∀ a ∈ products c, ∀ b ∈ products c, after.placeOf? (a.path root c) = after.placeOf? (b.path root c) → a = b
  /-- A product that is written through a link goes to a file that has none of the extensions. -/
  links : ∀ product ∈ products c, after.isLink (product.path root c) = true →
    ∀ name ∈ (after.placeOf? (product.path root c)).bind List.getLast?, hasExtension c.extensions ⟨name⟩ = false
  /-- No files are kept of a source directory that was not there before. -/
  sources : ∀ dir ∈ (allSourceRoots after root c.sourceDirs).value, before.exists? dir = false →
    keptFiles after root (fileFilter c) dir = []
  /-- The fallback can be read afterwards. -/
  fallback : ∀ locale ∈ c.fallback, HasReadable after ((Product.locale locale).path root c)
  /-- The fallback has no text for an id that was found, is without one in a locale and takes no default message there. -/
  gaps : ∀ lang ∈ c.locales, ∀ id ∈ (foundIn root c before).messages.keys,
    ¬((lang == c.defaultLanguage) = true ∧ id ∈ (foundIn root c before).defaultMessages.keys) →
      (Dictionary.fallbackText? (fallbackIn root c after) id).isSome →
        ((existingIn after ((Product.locale lang).path root c)).get? id).any Json.hasText = true
  /-- The numbers that stay in a locale are read as they are written. -/
  numbers : ∀ lang ∈ c.locales, ∀ pair ∈ (existingIn before ((Product.locale lang).path root c)).entries,
    pair.1 ∈ (foundIn root c before).messages.keys ∨ c.reserveKeys = true → ∀ x ∈ pair.2.reals, Json.ReadsBack x
  /-- Where ids are put in the order of the sources, no id that was not found changes its place. -/
  order : c.keyOrder = .ok .source → ∀ lang ∈ c.locales,
    (existingIn after ((Product.locale lang).path root c)).StaysInPlace (foundIn root c before).messages.keys

instance (root : Path) (c : Config) (before after : FileSystem) : Decidable (Steady root c before after) :=
  decidable_of_iff (_ ∧ _ ∧ _ ∧ _ ∧ _ ∧ _ ∧ _)
    ⟨fun ⟨apart, links, sources, fallback, gaps, numbers, order⟩ => ⟨apart, links, sources, fallback, gaps, numbers, order⟩,
      fun ⟨apart, links, sources, fallback, gaps, numbers, order⟩ => ⟨apart, links, sources, fallback, gaps, numbers, order⟩⟩

/-- Products that go to one place have one value. -/
theorem Steady.same (h : Steady root c fs fs') : ∀ a ∈ contents root c outcome scan (products c),
    ∀ b ∈ contents root c outcome scan (products c), ∀ q, fs'.placeOf? a.1 = some q → fs'.placeOf? b.1 = some q →
      a.2 = b.2 := by
  intro a ha b hb q hqa hqb
  obtain ⟨product, hproduct, rfl⟩ := List.mem_map.mp ha
  obtain ⟨product', hproduct', rfl⟩ := List.mem_map.mp hb
  rw [h.apart product hproduct product' hproduct' (hqa.trans hqb.symm)]

/-- The values of products that agree on the dictionaries are the same. -/
theorem contents_congr {outcome' : String → MergeOutcome}
    (h : ∀ lang ∈ c.locales, (outcome lang).dictionary = (outcome' lang).dictionary) :
    contents root c outcome scan (products c) = contents root c outcome' scan (products c) := by
  refine List.map_congr_left fun product hproduct => ?_
  cases product with
  | locale lang =>
    have hlang : lang ∈ c.locales := by simpa [products] using hproduct
    simp only [Product.value, h lang hlang]
  | _ => rfl

/-- After an extraction that leaves a steady state, another one succeeds, leaves every file as it is, and finds nothing to add,
to fill or to remove in any locale. -/
theorem extractMessages_again {report : Report} (hproper : fs.tree.isProper = true) (hjson : LeaveOutJson c.extensions)
    (hrun : (extractMessages root c).Yields fs report fs') (hsteady : Steady root c fs fs') :
    ∃ again, (extractMessages root c).Yields fs' again fs' ∧ again.locales.map LocaleReport.lang = c.locales ∧
      ∀ locale ∈ again.locales, locale.added = 0 ∧ locale.filled = 0 ∧ locale.removed = 0 := by
  obtain ⟨order, scan, fallback, hplan, hwritten, -⟩ := yields_extractMessages_iff.mp ⟨report, hrun, rfl⟩
  have hfound := foundIn_eq hplan.scanned
  -- what the first run leaves
  obtain ⟨hevolves, hread⟩ := writeAll_effect hproper hwritten hsteady.same
  have hproper' := hevolves.isProper hproper
  have hcontent : ∀ product ∈ products c, fs'.readBytes? (product.path root c) =
      some (fileBytes c.jsonIndent (product.value (outcomeOf root c order scan fallback fs) scan)) := fun product hproduct =>
    hread _ (List.mem_map_of_mem hproduct)
  have hthere : ∀ product ∈ products c, fs'.exists? (product.path root c) = true := fun product hproduct => by
    obtain ⟨q, hq, hfile⟩ := readBytes?_eq_some_iff.mp (hcontent product hproduct)
    exact exists?_iff.mpr ⟨q, hq, Option.isSome_of_eq_some hfile⟩
  have hlocale : ∀ lang ∈ c.locales, readDictionary fs' ((Product.locale lang).path root c) =
      .ok (some (outcomeOf root c order scan fallback fs lang).dictionary) := fun lang hlang =>
    readDictionary_written (hfound ▸ hsteady.numbers lang hlang)
      (hcontent (.locale lang) (List.mem_append_left _ (List.mem_map_of_mem hlang)))
  have hexisting : ∀ lang ∈ c.locales, existingIn fs' ((Product.locale lang).path root c) =
      (outcomeOf root c order scan fallback fs lang).dictionary := fun lang hlang => existingIn_eq (hlocale lang hlang)
  -- what the second run reads
  have hunseen : Unseen (fileFilter c).extensions
      (WrittenBy fs' (contents root c (outcomeOf root c order scan fallback fs) scan (products c))) :=
    unseen_written hjson hplan.valid hproper' hthere hsteady.links
  have hfiles := files_discover hunseen hevolves hproper' hsteady.sources
  have hscanned := (yields_scanProject hfiles (fun p hp content =>
    readBytes?_of_mem_discover hunseen hevolves hproper hp) hplan.scanned).2
  have hagain : IsPlan root c fs' order scan (fallbackIn root c fs') :=
    ⟨hplan.valid, hplan.keyOrder, hscanned, isFallback_fallbackIn hsteady.fallback,
      fun lang hlang => ⟨_, hlocale lang hlang⟩⟩
  -- what it makes of the locales
  have houtcome : ∀ lang ∈ c.locales, outcomeOf root c order scan (fallbackIn root c fs') fs' lang =
      ⟨(outcomeOf root c order scan fallback fs lang).dictionary, 0, 0, 0⟩ := by
    intro lang hlang
    rw [outcomeOf, hexisting lang hlang]
    refine Dictionary.merge_merge (OrderedMap.nodup_keys _) (fun id hid hdefault hsome => ?_) fun hsource => ?_
    · have hgap := hsteady.gaps lang hlang id (hfound ▸ hid) (hfound ▸ hdefault) hsome
      rwa [hexisting lang hlang] at hgap
    · have hplace := hsteady.order (hsource ▸ hplan.keyOrder) lang hlang
      rwa [hexisting lang hlang, hfound] at hplace
  have hsame : contents root c (outcomeOf root c order scan (fallbackIn root c fs') fs') scan (products c) =
      contents root c (outcomeOf root c order scan fallback fs) scan (products c) :=
    contents_congr fun lang hlang => by rw [houtcome lang hlang]
  rw [← hsame] at hread
  obtain ⟨again, hyields, hlocales⟩ := yields_extractMessages_iff.mpr
    ⟨order, scan, fallbackIn root c fs', hagain, yields_writeAll hread, rfl⟩
  refine ⟨again, hyields, ?_, ?_⟩
  · rw [hlocales, List.map_map]
    exact List.map_id _
  · rw [hlocales]
    rintro _ hmem
    obtain ⟨lang, hlang, rfl⟩ := List.mem_map.mp hmem
    simp only [reportOf, houtcome lang hlang, and_self]

namespace RepetitionWitness

/-- A source file with two ids, and a French dictionary that is the fallback. -/
def shop : FileSystem :=
  ⟨.directory [("src", .directory [("app.js", .file (Text.toBytes "__('cart'); __('pay')"))]),
    ("locales", .directory [("fr.json", .file (Text.toBytes "\x7b\"old\": [1], \"pay\": \"Payer\"\x7d"))])], []⟩

/-- An extraction of the shop for two locales. -/
def shopConfig : Config :=
  { Config.standard with
    sourceDirs := ["src"], extensions := ["js"], locales := ["en", "fr"], fallback := some "fr",
    sortBy := some "source", patterns := [⟨"__\\('([a-z]+)'\\)", .id⟩] }

/-- What an extraction leaves of the shop. -/
def shopAfter : FileSystem := ((extractMessages ⟨"/"⟩ shopConfig).run shop).fs

/-- A source file with a default message, in a project whose fallback is the default language. -/
def desk : FileSystem :=
  ⟨.directory [("src", .directory [("app.js", .file (Text.toBytes "\x7bid:'a',defaultMessage:'b'\x7d"))])], []⟩

/-- An extraction of the desk for one locale, sorted by the source. -/
def deskConfig : Config :=
  { Config.standard with
    sourceDirs := ["src"], extensions := ["js"], locales := ["en", "fr"], fallback := some "en",
    sortBy := some "source", patterns := [⟨"(\\\x7bid:'a',defaultMessage:'b'\\\x7d)", .descriptor⟩] }

end RepetitionWitness

open RepetitionWitness in
/-- In the shop the second extraction leaves all files as they are and reports no change. -/
theorem extractMessages_again_shop :
    ∃ report again, (extractMessages ⟨"/"⟩ shopConfig).Yields shop report shopAfter ∧
      (extractMessages ⟨"/"⟩ shopConfig).Yields shopAfter again shopAfter ∧
      again.locales.map LocaleReport.lang = ["en", "fr"] ∧
      ∀ locale ∈ again.locales, locale.added = 0 ∧ locale.filled = 0 ∧ locale.removed = 0 := by
  obtain ⟨hok, hsteady⟩ : ((extractMessages ⟨"/"⟩ shopConfig).run shop).result.isOk = true ∧
      Steady ⟨"/"⟩ shopConfig shop shopAfter := by decide +kernel
  obtain ⟨report, hrun⟩ := exists_yields hok
  obtain ⟨again, hagain⟩ := extractMessages_again (by decide) (by decide) hrun hsteady
  exact ⟨report, again, hrun, hagain⟩

open RepetitionWitness in
/-- The fallback is read before its default messages are written to it, so a second extraction gives them to other locales. -/
theorem extractMessages_again_false :
    ¬∀ (root : Path) (c : Config) (fs fs' : FileSystem) (report : Report), fs.tree.isProper = true →
      LeaveOutJson c.extensions → (extractMessages root c).Yields fs report fs' →
        ∃ again, (extractMessages root c).Yields fs' again fs' ∧
          ∀ locale ∈ again.locales, locale.added = 0 ∧ locale.filled = 0 ∧ locale.removed = 0 := by
  intro hclaim
  obtain ⟨hok, hcounts⟩ : ((extractMessages ⟨"/"⟩ deskConfig).run desk).result.isOk = true ∧
      ((extractMessages ⟨"/"⟩ deskConfig).run ((extractMessages ⟨"/"⟩ deskConfig).run desk).fs).result.toOption.map
        (fun report => report.locales.map LocaleReport.filled) = some [0, 1] := by decide +kernel
  obtain ⟨report, hrun⟩ := exists_yields hok
  obtain ⟨again, hagain, hzero⟩ := hclaim _ _ _ _ _ (by decide) (by decide) hrun
  rw [hagain.1] at hcounts
  have hone : 1 ∈ again.locales.map LocaleReport.filled := by
    rw [show again.locales.map LocaleReport.filled = [0, 1] from Option.some.inj hcounts]
    exact List.mem_cons_of_mem _ List.mem_cons_self
  obtain ⟨locale, hlocale, hfilled⟩ := List.mem_map.mp hone
  exact absurd ((hzero locale hlocale).2.1.symm.trans hfilled) (by decide)

end Phrasebook.Extract
