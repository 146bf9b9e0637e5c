import Mathlib.Algebra.GroupWithZero.Nat
import Phrasebook.Proofs.Files.Discovery
import Phrasebook.Proofs.Project.Extraction

/-!
# Refused extractions

An extraction first reads and merges (`prepare`) and then writes (`finish`). Reading leaves the file system as it is
(`reads_prepare`), and it succeeds only if everything that is read can be (`exists_isPlan`). So an extraction with invalid
options, or one that meets a source or a dictionary that cannot be read, fails and leaves all files and directories as they
are (`extractMessages_of_refused`), wherever among the others the bad one stands. A file that is found may lie too deep to be
read (`exists_unreadable`).
-/

namespace Phrasebook

namespace Work

variable {α β : Type} {w : Work α} {f : α → Work β}

/-! ## Work that only reads -/

/-- The work leaves every file system as it is, whether it succeeds or not. -/
def Reads (w : Work α) : Prop := ∀ fs, (w.run fs).fs = fs

theorem reads_pure (a : α) : Reads (pure a) := fun _ => rfl

/-- To ask for the file system is to read. -/
theorem reads_files : Reads files := fun _ => rfl

/-- A warning is no file. -/
theorem reads_warn (warning : Warning) : Reads (warn warning) := fun _ => rfl

/-- Pure work touches no files. -/
theorem reads_ofExcept (x : Except Failure α) : Reads (ofExcept x) := fun _ => rfl

/-- Nor does pure work that warns. -/
theorem reads_ofLogged (x : Logged α) : Reads (ofLogged x) := fun _ => rfl

/-- Work reads if its parts do, the second one for every result of the first. -/
theorem Reads.bind (hw : Reads w) (hf : ∀ a, Reads (f a)) : Reads (w >>= f) := by
  intro fs
  rw [run_bind]
  cases (w.run fs).result with
  | error e => exact hw fs
  | ok a => exact (hf a _).trans (hw fs)

/-- Whichever of the two is done, it reads. -/
theorem Reads.ite {p : Prop} [Decidable p] {other : Work α} (hw : Reads w) (hother : Reads other) :
    Reads (if p then w else other) := by
  split
  · exact hw
  · exact hother

/-- Work that reads may be done for each of several things. -/
theorem reads_mapM (hf : ∀ a, Reads (f a)) (l : List α) : Reads (l.mapM f) := by
  induction l with
  | nil => exact reads_pure []
  | cons a l ih =>
    rw [List.mapM_cons]
    exact (hf a).bind fun b => ih.bind fun bs => reads_pure _

/-- It may also be done on from one result to the next. -/
theorem reads_foldlM {step : β → α → Work β} (hstep : ∀ b a, Reads (step b a)) (l : List α) (b : β) :
    Reads (l.foldlM step b) := by
  induction l generalizing b with
  | nil => exact reads_pure b
  | cons a l ih =>
    rw [List.foldlM_cons]
    exact (hstep b a).bind ih

/-- Work that begins with reading fails there and leaves the file system as it is, or what is read can be. -/
theorem Reads.bind_cases (hw : Reads w) (f : α → Work β) (fs : FileSystem) :
    ((∃ failure, ((w >>= f).run fs).result = .error failure) ∧ ((w >>= f).run fs).fs = fs) ∨ ∃ a, w.Yields fs a fs := by
  rw [run_bind]
  cases hresult : (w.run fs).result with
  | error e => exact .inl ⟨⟨e, rfl⟩, hw fs⟩
  | ok a => exact .inr ⟨a, hresult, hw fs⟩

end Work

namespace Extract

open FileSystem Work Locales

variable {root : Path} {c : Config} {fs fs' old : FileSystem} {scan : ScanResult} {rules : List Rule} {files : List Path}

/-! ## Reading before writing -/

/-- What is known when everything has been read and merged: what was found, how many paths were skipped, and the locales. -/
structure Prepared where
  scan : ScanResult
  skipped : Nat
  merged : List Merged

/-- Reads everything and merges the locales. -/
def prepare (root : Path) (c : Config) : Work Prepared := do
  Work.ofExcept c.validate
  let order ← Work.ofExcept c.keyOrder
  let rules ← Work.ofExcept (Pattern.compileAll c.patterns)
  let found ← Work.ofLogged (discover (← Work.files) root (fileFilter c))
  let scan ← scanFiles root found.files rules
  let fallback ← readFallback root c
  if !c.locales.contains c.defaultLanguage then Work.warn (.defaultLanguageNotConfigured c.defaultLanguage)
  let merged ← c.locales.mapM (mergeLocale root c order scan fallback)
  return ⟨scan, found.skipped, merged⟩

/-- Writes the locales and the artifacts. -/
def finish (root : Path) (c : Config) (p : Prepared) : Work Report := do
  let locales ← p.merged.mapM (writeLocale root c)
  let templatePath ← writeArtifact root c Artifacts.templateName (Artifacts.template p.scan.messages.keys)
  let messageMapPath ← writeArtifact root c Artifacts.messageMapName (Artifacts.messageMap p.scan.messages)
  let fileMapPath ← writeArtifact root c Artifacts.fileMapName (Artifacts.fileMap p.scan.files)
  return {
    filesProcessed := p.scan.filesScanned
    messagesExtracted := p.scan.messages.size
    filesWithMessages := p.scan.files.size
    parseFailures := p.scan.parseFailures
    skippedPaths := p.skipped
    templatePath, messageMapPath, fileMapPath, locales }

/-- Everything is read before anything is written. -/
theorem extractMessages_eq (root : Path) (c : Config) : extractMessages root c = prepare root c >>= finish root c := by
  unfold extractMessages prepare finish
  by_cases h : (!c.locales.contains c.defaultLanguage) = true
  · simp only [if_pos h, bind_assoc, pure_bind, fileFilter]
  · simp only [if_neg h, bind_assoc, pure_bind, fileFilter]

theorem reads_scanFiles (root : Path) (files : List Path) (rules : List Rule) : Reads (scanFiles root files rules) :=
  reads_files.bind fun _ => reads_foldlM (fun _ _ => (reads_ofExcept _).bind fun _ => reads_ofLogged _) files Scan.empty

theorem reads_readFallback (root : Path) (c : Config) : Reads (readFallback root c) := by
  unfold readFallback
  cases c.fallback with
  | none => exact reads_pure none
  | some locale =>
    refine reads_files.bind fun fs => (reads_ofExcept _).bind fun dictionary => ?_
    exact .ite ((reads_warn _).bind fun _ => reads_pure _) (reads_pure _)

theorem reads_mergeLocale (root : Path) (c : Config) (order : KeyOrder) (scan : ScanResult) (fallback : Option Dictionary)
    (lang : String) : Reads (mergeLocale root c order scan fallback lang) :=
  reads_files.bind fun _ => (reads_ofExcept _).bind fun _ => reads_pure _

/-- Nothing is written before everything has been read. -/
theorem reads_prepare (root : Path) (c : Config) : Reads (prepare root c) := by
  unfold prepare
  refine (reads_ofExcept _).bind fun _ => (reads_ofExcept _).bind fun order => (reads_ofExcept _).bind fun rules =>
    reads_files.bind fun fs => (reads_ofLogged _).bind fun found => (reads_scanFiles root found.files rules).bind fun scan =>
    (reads_readFallback root c).bind fun fallback => ?_
  have hmerge : Reads (c.locales.mapM (mergeLocale root c order scan fallback) >>= fun merged =>
      pure (Prepared.mk scan found.skipped merged)) :=
    (reads_mapM (reads_mergeLocale root c order scan fallback) c.locales).bind fun _ => reads_pure _
  exact .ite ((reads_warn _).bind fun _ => hmerge) hmerge

/-- Reading succeeds only if the options are valid and everything can be read. -/
theorem exists_isPlan {prepared : Prepared} (h : (prepare root c).Yields fs prepared fs') :
    ∃ order scan fallback, IsPlan root c fs order scan fallback := by
  simp only [prepare, yields_ite_warn_iff, yields_bind_iff, yields_ofExcept_iff, yields_files_iff, yields_ofLogged_iff,
    yields_readFallback_iff, yields_mergeLocales_iff, yields_pure_iff] at h
  obtain ⟨_, _, ⟨hvalid, rfl⟩, order, _, ⟨horder, rfl⟩, rules, _, ⟨hrules, rfl⟩, _, _, ⟨rfl, rfl⟩, found, _, ⟨hfound, rfl⟩,
    scan, _, hscan, fallback, _, ⟨hfallback, rfl⟩, merged, _, ⟨⟨hreadable, rfl⟩, rfl⟩, -, -⟩ := h
  have hscanned := yields_scanProject_iff.mpr ⟨rules, hrules, hfound ▸ hscan⟩
  obtain ⟨rfl, -⟩ := yields_scanProject rfl (fun _ _ _ h => h) hscanned
  exact ⟨order, scan, fallback, hvalid, horder, hscanned, hfallback, hreadable⟩

/-- An extraction fails and leaves the file system as it is, or everything that it reads can be read. -/
theorem extractMessages_cases (root : Path) (c : Config) (fs : FileSystem) :
    ((∃ failure, ((extractMessages root c).run fs).result = .error failure) ∧ ((extractMessages root c).run fs).fs = fs) ∨
      ∃ order scan fallback, IsPlan root c fs order scan fallback := by
  rw [extractMessages_eq]
  exact ((reads_prepare root c).bind_cases (finish root c) fs).imp_right fun ⟨_, h⟩ => exists_isPlan h

/-! ## What is refused -/

/-- Is there a file that does not hold the text of a JSON object? -/
def IsBroken (fs : FileSystem) (p : Path) : Prop :=
  fs.exists? p = true ∧ ∀ text members, fs.readText? p = some text → Json.read? text ≠ some (.object members)

/-- Why an extraction is refused: the options are invalid, or a source file that was found or the file of a configured locale
or of the fallback cannot be read. -/
inductive Refused (root : Path) (c : Config) (fs : FileSystem) : Prop
  | options (h : c.validate ≠ .ok ())
  | source (p : Path) (hfound : p ∈ (discover fs root (fileFilter c)).value.files) (h : fs.readBytes? p = none)
  | fallback (locale : String) (hfallback : c.fallback = some locale)
    (h : IsBroken fs ((Product.locale locale).path root c))
  | locale (lang : String) (hlang : lang ∈ c.locales) (h : IsBroken fs ((Product.locale lang).path root c))

/-- A broken file is not taken for a dictionary. -/
theorem IsBroken.not_hasReadable {p : Path} (h : IsBroken fs p) : ¬HasReadable fs p := by
  rintro ⟨existing, hread⟩
  rw [readDictionary, h.1] at hread
  simp only [Bool.not_true, Bool.false_eq_true, if_false] at hread
  split at hread
  · cases hread
  · next text htext =>
    split at hread
    · cases hread
    · next members hmembers => exact h.2 text members htext hmembers
    · cases hread

/-- Scanning succeeds only if every file can be read. -/
theorem readBytes?_of_yields_foldlM {before : ScanResult}
    (h : (files.foldlM (scanFile old root rules) before).Yields fs scan fs') {p : Path} (hp : p ∈ files) :
    old.readBytes? p ≠ none := by
  induction files generalizing before fs with
  | nil => cases hp
  | cons q files ih =>
    rw [List.foldlM_cons] at h
    obtain ⟨_, _, hfirst, hrest⟩ := yields_bind_iff.mp h
    obtain ⟨⟨bytes, hbytes, -⟩, -⟩ := yields_scanFile_iff.mp hfirst
    rcases List.mem_cons.mp hp with rfl | hp
    · rw [hbytes]
      exact Option.some_ne_none bytes
    · exact ih hrest hp

/-! ## Files that lie too deep -/

/-- A directory in a directory, and so on down to an entry. -/
def nested (names : List String) (e : Entry) : Entry := names.foldr (fun name below => .directory [(name, below)]) e

/-- The file at the bottom is found, under a path of all names. -/
theorem filesIn_nested {names : List String} (hhidden : ∀ name ∈ names, Discover.isHidden name = false)
    (content : ByteArray) (p : Path) :
    Discover.filesIn p (nested names (.file content)) = [names.foldl Path.join p] := by
  induction names generalizing p with
  | nil => rfl
  | cons name names ih =>
    obtain ⟨hname, hnames⟩ := List.forall_mem_cons.mp hhidden
    simp only [nested, List.foldr_cons, Discover.filesIn, Discover.filesInAll, hname, Bool.false_eq_true, if_false,
      List.append_nil, List.foldl_cons]
    exact ih hnames (p.join name)

/-- A path grows by each name that is joined to it. -/
theorem utf8ByteSize_foldl_join {names : List String} (hnames : ∀ name ∈ names, isEntryName name = true) (p : Path) :
    p.text.utf8ByteSize + (names.map String.utf8ByteSize).sum ≤ (names.foldl Path.join p).text.utf8ByteSize := by
  induction names generalizing p with
  | nil => exact Nat.le_refl _
  | cons name names ih =>
    obtain ⟨hname, hnames⟩ := List.forall_mem_cons.mp hnames
    have hjoin : p.text.utf8ByteSize + name.utf8ByteSize ≤ (p.join name).text.utf8ByteSize := by
      rw [Path.join, if_neg (head?_of_isEntryName hname)]
      split
      · exact Nat.le_of_eq (String.utf8ByteSize_append ..).symm
      · rw [String.utf8ByteSize_append, String.utf8ByteSize_append]
        omega
    have hrest := ih hnames (p.join name)
    rw [List.map_cons, List.sum_cons, List.foldl_cons]
    omega

/-- A path that is too long cannot be followed, also if it is spelled out of the names of directories that are there. -/
theorem readBytes?_of_long {p : Path} (h : maxPathLength < p.text.utf8ByteSize) : fs.readBytes? p = none := by
  cases hread : fs.readBytes? p with
  | none => rfl
  | some content =>
    obtain ⟨-, ⟨⟨-, hpath⟩, -⟩, -⟩ := readBytes?_eq_some_iff.mp hread
    simp only [isPath, Bool.and_eq_true, decide_eq_true_eq] at hpath
    exact absurd h (Nat.not_lt.mpr hpath.1)

/-- A file in directories whose names are too long together is found from the root, and cannot be read. -/
theorem exists_unreadable {names : List String} (hnames : ∀ name ∈ names, isEntryName name = true)
    (hhidden : ∀ name ∈ names, Discover.isHidden name = false)
    (hdeep : maxPathLength < (names.map String.utf8ByteSize).sum) (content : ByteArray) :
    ∃ p ∈ (discover ⟨nested names (.file content), []⟩ ⟨"/"⟩ ⟨[], [], []⟩).value.files,
      (FileSystem.mk (nested names (.file content)) []).readBytes? p = none := by
  have hdir : (nested names (.file content)).HasDirectory [] := by
    cases names with
    | nil => cases hdeep
    | cons name names => exact ⟨_, rfl⟩
  -- The root is written as one slash, so a path stays at it for two empty pieces.
  have hroot : (FileSystem.mk (nested names (.file content)) []).entryItself? ⟨"/"⟩ = some (nested names (.file content)) :=
    entryItself?_eq_some_iff.mpr ⟨[], ⟨⟨by decide, by decide⟩, .stay hdir (.inl rfl) (.stay hdir (.inl rfl) (.done rfl))⟩, rfl⟩
  have hbelow : Discover.filesBelow? ⟨nested names (.file content), []⟩ ⟨"/"⟩ = some [names.foldl Path.join ⟨"/"⟩] := by
    obtain ⟨entries, hentries⟩ := hdir
    rw [Discover.filesBelow?, hroot, ← filesIn_nested hhidden content]
    rw [Option.some.inj hentries]
  have hkept : Discover.keptFiles ⟨nested names (.file content), []⟩ ⟨"/"⟩ ⟨[], [], []⟩ ⟨"/"⟩ =
      [names.foldl Path.join ⟨"/"⟩] := by
    rw [Discover.keptFiles, Discover.files_keptBelow, hbelow]
    rfl
  refine ⟨names.foldl Path.join ⟨"/"⟩, ?_, readBytes?_of_long ?_⟩
  · rw [Discover.files_discover_eq, show (Discover.allSourceRoots _ ⟨"/"⟩ []).value = [⟨"/"⟩] from rfl, List.flatMap_singleton,
      hkept, List.mergeSort_singleton, Discover.dropRepeated]
    exact List.mem_cons_self
  · exact Nat.lt_of_lt_of_le hdeep (Nat.le_trans (Nat.le_add_left ..) (utf8ByteSize_foldl_join hnames _))

/-! ## Refused for any reason -/

/-- What a plan needs is what a refused extraction lacks. -/
theorem Refused.not_isPlan {order : KeyOrder} {fallback : Option Dictionary} (h : Refused root c fs) :
    ¬IsPlan root c fs order scan fallback := by
  intro hplan
  cases h with
  | options h => exact h hplan.valid
  | source p hfound h =>
    obtain ⟨rules, -, hscan⟩ := yields_scanProject_iff.mp hplan.scanned
    exact readBytes?_of_yields_foldlM (yields_scanFiles_iff.mp hscan) hfound h
  | fallback locale hfallback h =>
    have hread := hplan.isFallback
    rw [IsFallback, hfallback] at hread
    exact h.not_hasReadable ⟨fallback, hread⟩
  | locale lang hlang h => exact h.not_hasReadable (hplan.readable lang hlang)

/-- A refused extraction fails, and all files and directories are as before. -/
theorem extractMessages_of_refused (h : Refused root c fs) :
    (∃ failure, ((extractMessages root c).run fs).result = .error failure) ∧
      ((extractMessages root c).run fs).fs = fs := by
  rcases extractMessages_cases root c fs with hrefused | ⟨order, scan, fallback, hplan⟩
  · exact hrefused
  · exact absurd hplan h.not_isPlan

namespace RefusalWitness

/-- A source file, and two dictionaries of which the second breaks off. -/
def library : FileSystem :=
  ⟨.directory [("app.js", .file (Text.toBytes "__('loan')")),
    ("locales", .directory [("en.json", .file (Text.toBytes "\x7b\"loan\": \"Loan\"\x7d")),
      ("fr.json", .file (Text.toBytes "\x7b\"loan\": "))])], []⟩

def libraryConfig : Config :=
  { Config.standard with extensions := ["js"], locales := ["en", "fr", "de"], patterns := [⟨"__\\('([a-z]+)'\\)", .id⟩] }

theorem isBroken_french : IsBroken library ((Product.locale "fr").path ⟨"/"⟩ libraryConfig) := by
  refine ⟨by decide +kernel, fun text members htext => ?_⟩
  have hfile : library.readText? ((Product.locale "fr").path ⟨"/"⟩ libraryConfig) = some "\x7b\"loan\": " := by decide +kernel
  obtain rfl := Option.some.inj (hfile.symm.trans htext)
  have hread : Json.read? "\x7b\"loan\": " = none := by decide +kernel
  rw [hread]
  exact nofun

/-- A file below directories whose names are 4096 characters long together. -/
def archive : FileSystem := ⟨nested (List.replicate 4096 "d") (.file (Text.toBytes "__('loan')")), []⟩

/-- Of every directory all files are wanted. -/
def archiveConfig : Config := { libraryConfig with extensions := [], ignores := [] }

theorem configs_valid : libraryConfig.validate = .ok () ∧ archiveConfig.validate = .ok () := by decide +kernel

end RefusalWitness

open RefusalWitness in
/-- The English dictionary is fine and the German one could be made, but nothing is written. -/
theorem extractMessages_of_refused_library : libraryConfig.validate = .ok () ∧
    (∃ failure, ((extractMessages ⟨"/"⟩ libraryConfig).run library).result = .error failure) ∧
      ((extractMessages ⟨"/"⟩ libraryConfig).run library).fs = library :=
  ⟨configs_valid.1, extractMessages_of_refused (.locale "fr" (by decide) isBroken_french)⟩

open RefusalWitness in
/-- The options are valid and there are no dictionaries, but the one source file cannot be read. -/
theorem refused_archive : archiveConfig.validate = .ok () ∧ Refused ⟨"/"⟩ archiveConfig archive := by
  have hnames : ∀ name ∈ List.replicate 4096 "d", name = "d" := fun name => List.eq_of_mem_replicate
  have hdeep : maxPathLength < ((List.replicate 4096 "d").map String.utf8ByteSize).sum := by
    rw [List.map_replicate, List.sum_replicate_nat]
    decide
  obtain ⟨p, hfound, hread⟩ := exists_unreadable (fun name hname => hnames name hname ▸ by decide)
    (fun name hname => hnames name hname ▸ by decide) hdeep (Text.toBytes "__('loan')")
  exact ⟨configs_valid.2, .source p hfound hread⟩

end Extract

end Phrasebook
