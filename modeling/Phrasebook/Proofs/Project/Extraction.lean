import Phrasebook.Project.Extract
import Phrasebook.Proofs.Project.WriteAll

/-!
# What an extraction reads and writes

An extraction succeeds if its options are valid, the sources, the fallback and every locale can be read (`IsPlan`), and its
products can be written (`yields_extractMessages_iff`).
-/

namespace Phrasebook.Extract

open FileSystem Work Locales

variable {root : Path} {c : Config} {fs fs' old new : FileSystem} {scan : ScanResult} {fallback : Option Dictionary}
  {order : KeyOrder} {lang : String} {files : List Path} {rules : List Rule}

/-! ## Products -/

/-- What an extraction writes. -/
inductive Product where
  | locale (lang : String)
  | template
  | messageMap
  | fileMap
  deriving DecidableEq

/-- The name of the file of a product. -/
def Product.fileName : Product → String
  | .locale lang => Locales.fileName lang
  | .template => Artifacts.templateName
  | .messageMap => Artifacts.messageMapName
  | .fileMap => Artifacts.fileMapName

/-- The file of a product, as seen from the root of the project. -/
def Product.pathIn (c : Config) (product : Product) : Path :=
  match product with
  | .locale _ => (Path.mk c.localesDir).join product.fileName
  | _ => (Path.mk c.outputDir).join product.fileName

/-- The file of a product. -/
def Product.path (root : Path) (c : Config) (product : Product) : Path := root.join (product.pathIn c).text

/-- The value that is written for a product. -/
def Product.value (outcome : String → MergeOutcome) (scan : ScanResult) : Product → Json
  | .locale lang => .object (outcome lang).dictionary.entries
  | .template => Artifacts.template scan.messages.keys
  | .messageMap => Artifacts.messageMap scan.messages
  | .fileMap => Artifacts.fileMap scan.files

/-- The products of an extraction, in the order in which they are written. -/
def products (c : Config) : List Product := c.locales.map .locale ++ [.template, .messageMap, .fileMap]

/-- The files of products and their values. -/
def contents (root : Path) (c : Config) (outcome : String → MergeOutcome) (scan : ScanResult) (products : List Product) :
    List (Path × Json) := products.map fun product => (product.path root c, product.value outcome scan)

/-! ## Scanning -/

/-- Which source files the options ask for. -/
def fileFilter (c : Config) : FileFilter := ⟨c.sourceDirs, c.ignores, c.extensions⟩

/-- Finds and scans the source files of a project. -/
def scanProject (root : Path) (c : Config) : Work ScanResult := do
  let rules ← Work.ofExcept (Pattern.compileAll c.patterns)
  let found ← Work.ofLogged (discover (← Work.files) root (fileFilter c))
  scanFiles root found.files rules

theorem yields_scanFile_iff {p : Path} {before after : ScanResult} :
    (scanFile fs root rules before p).Yields new after fs' ↔
      (∃ bytes, fs.readBytes? p = some bytes ∧
        (Scan.scanText rules before (p.relativeTo root) (Text.ofBytes bytes)).value = after) ∧ new = fs' := by
  simp only [scanFile, yields_bind_iff, yields_ofExcept_iff, readSource]
  cases fs.readBytes? p with
  | none => simp
  | some bytes => simp

/-- Scanning files leaves the file system as it is, and comes to the same where they read the same. -/
theorem yields_foldlM_scanFile {before : ScanResult}
    (hread : ∀ p ∈ files, ∀ content, old.readBytes? p = some content → new.readBytes? p = some content)
    (h : (files.foldlM (scanFile old root rules) before).Yields fs scan fs') :
    fs = fs' ∧ ∀ fs, (files.foldlM (scanFile new root rules) before).Yields fs scan fs := by
  induction files generalizing before fs with
  | nil =>
    obtain ⟨rfl, rfl⟩ := yields_pure_iff.mp h
    exact ⟨rfl, fun _ => yields_pure_iff.mpr ⟨rfl, rfl⟩⟩
  | cons p files ih =>
    rw [List.foldlM_cons] at h
    obtain ⟨result, _, hfirst, hrest⟩ := yields_bind_iff.mp h
    obtain ⟨⟨bytes, hbytes, hresult⟩, rfl⟩ := yields_scanFile_iff.mp hfirst
    obtain ⟨rfl, hagain⟩ := ih (fun q hq => hread q (List.mem_cons_of_mem _ hq)) hrest
    refine ⟨rfl, fun fs => ?_⟩
    rw [List.foldlM_cons]
    have hbytes' := hread p List.mem_cons_self bytes hbytes
    exact yields_bind_iff.mpr ⟨result, fs, yields_scanFile_iff.mpr ⟨⟨bytes, hbytes', hresult⟩, rfl⟩, hagain fs⟩

theorem yields_scanFiles_iff : (scanFiles root files rules).Yields fs scan fs' ↔
    (files.foldlM (scanFile fs root rules) Scan.empty).Yields fs scan fs' := by
  simp [scanFiles]

theorem yields_scanProject_iff : (scanProject root c).Yields fs scan fs' ↔
    ∃ rules, Pattern.compileAll c.patterns = .ok rules ∧
      (scanFiles root (discover fs root (fileFilter c)).value.files rules).Yields fs scan fs' := by
  simp only [scanProject, yields_bind_iff, yields_ofExcept_iff, yields_files_iff, yields_ofLogged_iff]
  constructor
  · rintro ⟨rules, _, ⟨hrules, rfl⟩, _, _, ⟨rfl, rfl⟩, found, _, ⟨rfl, rfl⟩, hscan⟩
    exact ⟨rules, hrules, hscan⟩
  · rintro ⟨rules, hrules, hscan⟩
    exact ⟨rules, fs, ⟨hrules, rfl⟩, fs, fs, ⟨rfl, rfl⟩, _, fs, ⟨rfl, rfl⟩, hscan⟩

/-- Scanning a project leaves the file system as it is, and comes to the same in another state with the same source files, if
these read the same. -/
theorem yields_scanProject (hfiles : (discover new root (fileFilter c)).value.files =
      (discover old root (fileFilter c)).value.files)
    (hread : ∀ p ∈ (discover old root (fileFilter c)).value.files, ∀ content,
      old.readBytes? p = some content → new.readBytes? p = some content)
    (h : (scanProject root c).Yields old scan fs') : old = fs' ∧ (scanProject root c).Yields new scan new := by
  obtain ⟨rules, hrules, hscan⟩ := yields_scanProject_iff.mp h
  obtain ⟨rfl, hagain⟩ := yields_foldlM_scanFile hread (yields_scanFiles_iff.mp hscan)
  exact ⟨rfl, yields_scanProject_iff.mpr ⟨rules, hrules, hfiles ▸ yields_scanFiles_iff.mpr (hagain new)⟩⟩

/-! ## Reading and merging -/

/-- The dictionary in a file, which is empty if there is none. -/
def existingIn (fs : FileSystem) (p : Path) : Dictionary :=
  match readDictionary fs p with
  | .ok (some d) => d
  | _ => .empty

theorem existingIn_eq {p : Path} {existing : Option Dictionary} (h : readDictionary fs p = .ok existing) :
    existingIn fs p = existing.getD .empty := by
  rw [existingIn, h]
  cases existing <;> rfl

/-- What merging what was found makes of a locale. -/
def outcomeOf (root : Path) (c : Config) (order : KeyOrder) (scan : ScanResult) (fallback : Option Dictionary)
    (fs : FileSystem) (lang : String) : MergeOutcome :=
  (existingIn fs ((Product.locale lang).path root c)).merge scan.messages.keys scan.defaultMessages fallback
    ⟨lang == c.defaultLanguage, c.emptyTags, c.reserveKeys, order⟩

/-- Is there no file, or one with a dictionary? -/
def HasReadable (fs : FileSystem) (p : Path) : Prop := ∃ existing, readDictionary fs p = .ok existing

instance (fs : FileSystem) (p : Path) : Decidable (HasReadable fs p) :=
  match h : readDictionary fs p with
  | .ok existing => isTrue ⟨existing, h⟩
  | .error _ => isFalse fun ⟨_, hread⟩ => nomatch h.symm.trans hread

/-- Which dictionary is the fallback? -/
def IsFallback (root : Path) (c : Config) (fs : FileSystem) (fallback : Option Dictionary) : Prop :=
  match c.fallback with
  | none => fallback = none
  | some locale => readDictionary fs ((Product.locale locale).path root c) = .ok fallback

/-- The dictionary of the fallback locale, if there is one and it has a file. -/
def fallbackIn (root : Path) (c : Config) (fs : FileSystem) : Option Dictionary :=
  c.fallback.bind fun locale =>
    match readDictionary fs ((Product.locale locale).path root c) with
    | .ok dictionary => dictionary
    | .error _ => none

theorem isFallback_fallbackIn (h : ∀ locale ∈ c.fallback, HasReadable fs ((Product.locale locale).path root c)) :
    IsFallback root c fs (fallbackIn root c fs) := by
  unfold IsFallback fallbackIn
  cases hfallback : c.fallback with
  | none => rfl
  | some locale =>
    obtain ⟨dictionary, hread⟩ := h locale hfallback
    simp only [Option.bind_some, hread]

theorem yields_readFallback_iff :
    (readFallback root c).Yields fs fallback fs' ↔ IsFallback root c fs fallback ∧ fs = fs' := by
  unfold readFallback IsFallback
  cases c.fallback with
  | none =>
    rw [yields_pure_iff]
    exact and_congr_left fun _ => eq_comm
  | some locale =>
    simp only [yields_bind_iff, yields_files_iff, yields_ofExcept_iff, yields_ite_warn_iff, yields_pure_iff]
    constructor
    · rintro ⟨_, _, ⟨rfl, rfl⟩, dictionary, _, ⟨hread, rfl⟩, rfl, rfl⟩
      exact ⟨hread, rfl⟩
    · rintro ⟨hread, rfl⟩
      exact ⟨fs, fs, ⟨rfl, rfl⟩, fallback, fs, ⟨hread, rfl⟩, rfl, rfl⟩

/-- A merged locale with its file. -/
def mergedOf (root : Path) (c : Config) (order : KeyOrder) (scan : ScanResult) (fallback : Option Dictionary)
    (fs : FileSystem) (lang : String) : Merged :=
  ⟨lang, (Path.mk c.localesDir).join (fileName lang), outcomeOf root c order scan fallback fs lang⟩

theorem yields_mergeLocale_iff {m : Merged} : (mergeLocale root c order scan fallback lang).Yields fs m fs' ↔
    (HasReadable fs ((Product.locale lang).path root c) ∧ m = mergedOf root c order scan fallback fs lang) ∧ fs = fs' := by
  simp only [mergeLocale, yields_bind_iff, yields_files_iff, yields_ofExcept_iff, yields_pure_iff]
  constructor
  · rintro ⟨_, _, ⟨rfl, rfl⟩, existing, _, ⟨hread, rfl⟩, rfl, rfl⟩
    have hexisting := existingIn_eq (p := (Product.locale lang).path root c) hread
    exact ⟨⟨⟨existing, hread⟩, by rw [mergedOf, outcomeOf, hexisting]⟩, rfl⟩
  · rintro ⟨⟨⟨existing, hread⟩, rfl⟩, rfl⟩
    exact ⟨fs, fs, ⟨rfl, rfl⟩, existing, fs, ⟨hread, rfl⟩, by rw [mergedOf, outcomeOf, existingIn_eq hread], rfl⟩

/-- Merging the locales succeeds if each of them can be read. -/
theorem yields_mergeLocales_iff {locales : List String} {merged : List Merged} :
    (locales.mapM (mergeLocale root c order scan fallback)).Yields fs merged fs' ↔
      ((∀ lang ∈ locales, HasReadable fs ((Product.locale lang).path root c)) ∧
        merged = locales.map (mergedOf root c order scan fallback fs)) ∧ fs = fs' := by
  rw [yields_mapM_iff fun _ _ _ h => (yields_mergeLocale_iff.mp h).2]
  refine and_congr_left fun _ => ?_
  simp only [yields_mergeLocale_iff, and_true]
  induction locales generalizing merged with
  | nil => simp
  | cons lang locales ih =>
    simp only [List.forall₂_cons_left_iff, ih, List.forall_mem_cons, List.map_cons]
    constructor
    · rintro ⟨m, others, ⟨hread, rfl⟩, ⟨hreads, rfl⟩, rfl⟩
      exact ⟨⟨hread, hreads⟩, rfl⟩
    · rintro ⟨⟨hread, hreads⟩, rfl⟩
      exact ⟨_, _, ⟨hread, rfl⟩, ⟨hreads, rfl⟩, rfl⟩

/-! ## Writing -/

/-- The report on a locale. -/
def reportOf (c : Config) (outcome : String → MergeOutcome) (lang : String) : LocaleReport :=
  ⟨lang, (Product.locale lang).pathIn c, (outcome lang).dictionary.size, (outcome lang).added, (outcome lang).filled,
    (outcome lang).removed⟩

/-- Writing the locales is writing their products. -/
theorem yields_writeLocales_iff {locales : List String} {reports : List LocaleReport} :
    ((locales.map (mergedOf root c order scan fallback old)).mapM (writeLocale root c)).Yields fs reports fs' ↔
      (writeAll c.jsonIndent (contents root c (outcomeOf root c order scan fallback old) scan
          (locales.map .locale))).Yields fs () fs' ∧
        reports = locales.map (reportOf c (outcomeOf root c order scan fallback old)) := by
  induction locales generalizing fs reports with
  | nil =>
    simp only [List.map_nil, List.mapM_nil, contents, writeAll, yields_pure_iff, true_and]
    rw [and_comm, eq_comm (a := reports)]
  | cons lang locales ih =>
    simp only [List.map_cons, List.mapM_cons, writeLocale, contents, writeAll, yields_bind_iff, yields_pure_iff]
    constructor
    · rintro ⟨_, mid, ⟨_, _, hfirst, rfl, rfl⟩, reports, _, hrest, rfl, rfl⟩
      obtain ⟨hwritten, rfl⟩ := ih.mp hrest
      exact ⟨⟨(), _, hfirst, hwritten⟩, rfl⟩
    · rintro ⟨⟨_, mid, hfirst, hwritten⟩, rfl⟩
      exact ⟨_, mid, ⟨(), mid, hfirst, rfl, rfl⟩, _, fs', ih.mpr ⟨hwritten, rfl⟩, rfl, rfl⟩

theorem yields_writeArtifact_iff {name : String} {value : Json} {p : Path} :
    (writeArtifact root c name value).Yields fs p fs' ↔
      (writeJson (root.join ((Path.mk c.outputDir).join name).text) value c.jsonIndent).Yields fs () fs' ∧
        p = (Path.mk c.outputDir).join name := by
  simp only [writeArtifact, yields_bind_iff, yields_pure_iff]
  constructor
  · rintro ⟨_, _, hwritten, rfl, rfl⟩
    exact ⟨hwritten, rfl⟩
  · rintro ⟨hwritten, rfl⟩
    exact ⟨(), fs', hwritten, rfl, rfl⟩

/-- The artifacts are written after the locales. -/
theorem yields_writeProducts_iff {outcome : String → MergeOutcome} :
    (writeAll c.jsonIndent (contents root c outcome scan (products c))).Yields fs () fs' ↔
      ∃ localesWritten, (writeAll c.jsonIndent (contents root c outcome scan (c.locales.map .locale))).Yields fs ()
          localesWritten ∧
        ∃ templateWritten, (writeJson (Product.template.path root c) (Artifacts.template scan.messages.keys)
            c.jsonIndent).Yields localesWritten () templateWritten ∧
          ∃ messagesWritten, (writeJson (Product.messageMap.path root c) (Artifacts.messageMap scan.messages)
              c.jsonIndent).Yields templateWritten () messagesWritten ∧
            (writeJson (Product.fileMap.path root c) (Artifacts.fileMap scan.files) c.jsonIndent).Yields messagesWritten
              () fs' := by
  rw [products, contents, List.map_append, writeAll_append, yields_bind_iff]
  simp only [List.map_cons, List.map_nil, writeAll, Product.value, yields_bind_iff, yields_pure_iff]
  constructor
  · rintro ⟨_, _, hlocales, _, _, htemplate, _, _, hmessages, _, _, hfiles, -, rfl⟩
    exact ⟨_, hlocales, _, htemplate, _, hmessages, hfiles⟩
  · rintro ⟨_, hlocales, _, htemplate, _, hmessages, hfiles⟩
    exact ⟨_, _, hlocales, _, _, htemplate, _, _, hmessages, _, _, hfiles, trivial, rfl⟩

/-! ## Extraction -/

/-- The options are valid, and what an extraction reads before it writes can be read. -/
structure IsPlan (root : Path) (c : Config) (fs : FileSystem) (order : KeyOrder) (scan : ScanResult)
    (fallback : Option Dictionary) : Prop where
  valid : c.validate = .ok ()
  keyOrder : c.keyOrder = .ok order
  scanned : (scanProject root c).Yields fs scan fs
  isFallback : IsFallback root c fs fallback
  readable : ∀ lang ∈ c.locales, HasReadable fs ((Product.locale lang).path root c)

/-- An extraction succeeds if it has a plan and its products can be written. -/
theorem yields_extractMessages_iff {locales : List LocaleReport} :
    (∃ report, (extractMessages root c).Yields fs report fs' ∧ report.locales = locales) ↔
      ∃ order scan fallback, IsPlan root c fs order scan fallback ∧
        (writeAll c.jsonIndent (contents root c (outcomeOf root c order scan fallback fs) scan (products c))).Yields
          fs () fs' ∧
        locales = c.locales.map (reportOf c (outcomeOf root c order scan fallback fs)) := by
  simp only [extractMessages, yields_ite_warn_iff, yields_bind_iff, yields_ofExcept_iff, yields_files_iff,
    yields_ofLogged_iff, yields_readFallback_iff, yields_mergeLocales_iff, yields_writeArtifact_iff, yields_pure_iff,
    yields_writeProducts_iff]
  constructor
  · rintro ⟨report, ⟨_, _, ⟨hvalid, rfl⟩, order, _, ⟨horder, rfl⟩, rules, _, ⟨hrules, rfl⟩, _, _, ⟨rfl, rfl⟩, found, _,
      ⟨hfound, rfl⟩, scan, _, hscan, fallback, _, ⟨hfallback, rfl⟩, merged, _, ⟨⟨hreadable, rfl⟩, rfl⟩, reports, _, hlocales,
      _, _, ⟨htemplate, rfl⟩, _, _, ⟨hmessages, rfl⟩, _, _, ⟨hfiles, rfl⟩, rfl, rfl⟩, rfl⟩
    have hscanned := yields_scanProject_iff.mpr ⟨rules, hrules, hfound ▸ hscan⟩
    obtain ⟨rfl, -⟩ := yields_scanProject rfl (fun _ _ _ h => h) hscanned
    obtain ⟨hwritten, rfl⟩ := yields_writeLocales_iff.mp hlocales
    exact ⟨order, scan, fallback, ⟨hvalid, horder, hscanned, hfallback, hreadable⟩,
      ⟨_, hwritten, _, htemplate, _, hmessages, hfiles⟩, rfl⟩
  · rintro ⟨order, scan, fallback, ⟨hvalid, horder, hscanned, hfallback, hreadable⟩,
      ⟨_, hwritten, _, htemplate, _, hmessages, hfiles⟩, rfl⟩
    obtain ⟨rules, hrules, hscan⟩ := yields_scanProject_iff.mp hscanned
    exact ⟨_, ⟨(), fs, ⟨hvalid, rfl⟩, order, fs, ⟨horder, rfl⟩, rules, fs, ⟨hrules, rfl⟩, fs, fs, ⟨rfl, rfl⟩, _, fs,
      ⟨rfl, rfl⟩, scan, fs, hscan, fallback, fs, ⟨hfallback, rfl⟩, _, fs, ⟨⟨hreadable, rfl⟩, rfl⟩, _, _,
      yields_writeLocales_iff.mpr ⟨hwritten, rfl⟩, _, _, ⟨htemplate, rfl⟩, _, _, ⟨hmessages, rfl⟩, _, _, ⟨hfiles, rfl⟩,
      rfl, rfl⟩, rfl⟩

end Phrasebook.Extract
