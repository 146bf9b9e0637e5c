import Phrasebook.Proofs.Dictionary.Merge
import Phrasebook.Proofs.Json.RoundTrip
import Phrasebook.Proofs.Project.Extraction

/-!
# Products of extractions

The file of a product is named by a text without slashes (`exists_base`), since locales are checked. What an extraction writes
to the file of a locale is read as the merged dictionary but for its real numbers (`readDictionary_reread`), and as this
dictionary if those that it takes from the old one read back (`readDictionary_written`).
-/

namespace Phrasebook.Extract

open FileSystem Work Locales

variable {root p : Path} {c : Config} {fs fs' : FileSystem} {scan : ScanResult} {fallback : Option Dictionary}
  {order : KeyOrder} {lang : String} {product : Product} {d existing : Dictionary} {indent : Nat}

/-! ## Names of products -/

/-- Composed checks that succeed have a first part that does. -/
theorem exists_of_bind_eq_ok {α β : Type} {x : Except Failure α} {f : α → Except Failure β} {b : β}
    (h : (x >>= f) = .ok b) : ∃ a, x = .ok a ∧ f a = .ok b := by
  cases x with
  | error e => cases h
  | ok a => exact ⟨a, rfl, h⟩

/-- If all are checked in turn without an error, each of them passes. -/
theorem eq_ok_of_forM {f : String → Except Failure Unit} {l : List String} (h : l.forM f = .ok ()) :
    ∀ a ∈ l, f a = .ok () := by
  induction l with
  | nil => exact nofun
  | cons a l ih =>
    obtain ⟨_, hfirst, hrest⟩ := exists_of_bind_eq_ok h
    intro x hx
    rcases List.mem_cons.mp hx with rfl | hx
    · exact hfirst
    · exact ih hrest x hx

/-- Valid options have passed the check of every locale. -/
theorem checkLocale_of_validate (h : c.validate = .ok ()) :
    ∀ lang ∈ c.locales, Config.checkLocale "locales" lang = .ok () := by
  obtain ⟨_, -, h⟩ := exists_of_bind_eq_ok h
  obtain ⟨_, -, h⟩ := exists_of_bind_eq_ok h
  obtain ⟨_, -, h⟩ := exists_of_bind_eq_ok h
  obtain ⟨_, -, h⟩ := exists_of_bind_eq_ok h
  dsimp only at h
  split at h
  · cases h
  · split at h
    · cases h
    · obtain ⟨_, -, h⟩ := exists_of_bind_eq_ok h
      obtain ⟨_, -, h⟩ := exists_of_bind_eq_ok h
      exact eq_ok_of_forM h

/-- A locale that passes is not empty and leads into no other directory. -/
theorem of_checkLocale {option : String} (h : Config.checkLocale option lang = .ok ()) :
    lang ≠ "" ∧ '/' ∉ lang.toList := by
  unfold Config.checkLocale at h
  split at h
  · cases h
  · next hnot =>
    simp only [not_or, List.any_eq_true, Bool.or_eq_true, beq_iff_eq, not_exists, not_and] at hnot
    exact ⟨hnot.1, fun hslash => (hnot.2.2.2 '/' hslash).1 rfl⟩

/-- The name of a product is a text without slashes with the extension of JSON files. -/
theorem exists_base (hvalid : c.validate = .ok ()) (h : product ∈ products c) :
    ∃ base, product.fileName = base ++ ".json" ∧ base ≠ "" ∧ '/' ∉ base.toList := by
  cases product with
  | locale lang =>
    have hlang : lang ∈ c.locales := by simpa [products] using h
    exact ⟨lang, rfl, of_checkLocale (checkLocale_of_validate hvalid lang hlang)⟩
  | template => exact ⟨"template", by decide, by decide, by decide⟩
  | messageMap => exact ⟨"message-map", by decide, by decide, by decide⟩
  | fileMap => exact ⟨"file-map", by decide, by decide, by decide⟩

/-- With its extension such a name is neither of the special ones. -/
theorem isEntryName_of_base {base : String} (hslash : '/' ∉ base.toList) : isEntryName (base ++ ".json") = true := by
  have hne : ∀ s : String, s.toList.length ≤ 2 → base ++ ".json" ≠ s := by
    rintro _ hs rfl
    simp at hs
  simp only [isEntryName, Bool.and_eq_true, bne_iff_ne, ne_eq, Bool.not_eq_true', List.contains_eq_mem,
    decide_eq_false_iff_not]
  refine ⟨⟨⟨hne _ (by decide), hne _ (by decide)⟩, hne _ (by decide)⟩, ?_⟩
  simpa using hslash

/-- The path of a product ends with its name. -/
theorem exists_piecesOf_path (root : Path) (c : Config) (hname : isEntryName product.fileName = true) :
    ∃ a, FileSystem.piecesOf (product.path root c).text = a ++ [product.fileName] := by
  have hpath : ∃ a, FileSystem.piecesOf (product.pathIn c).text = a ++ [product.fileName] := by
    unfold Product.pathIn
    split <;> exact exists_piecesOf_join _ (a := []) (piecesOf_of_isEntryName hname)
  obtain ⟨a, ha⟩ := hpath
  exact exists_piecesOf_join root ha

/-! ## Dictionaries that are read back -/

/-- What is written as bytes is read as the text that it was. -/
theorem ofBytes?_toBytes (s : String) : Text.ofBytes? (Text.toBytes s) = some s := dif_pos s.isValidUTF8

/-- What a dictionary is read as when it has been written: its real numbers may be others. -/
def rereadDictionary (d : Dictionary) : Dictionary := d.mapValues fun _ value => value.reread

/-- Only real numbers may read as others. -/
theorem rereadDictionary_eq (h : ∀ pair ∈ d.entries, ∀ x ∈ pair.2.reals, Json.ReadsBack x) : rereadDictionary d = d := by
  refine OrderedMap.ext_entries ?_
  have hsame : d.entries.map (fun pair => (pair.1, pair.2.reread)) = d.entries.map id :=
    List.map_congr_left fun pair hpair => Prod.ext rfl (Json.reread_eq pair.2 (h pair hpair))
  exact hsame.trans (List.map_id d.entries)

/-- A dictionary that was written is read. -/
theorem readDictionary_of_readBytes? (h : fs.readBytes? p = some (fileBytes indent (.object d.entries)))
    (hreadable : ∀ pair ∈ d.entries, pair.2.IsReadable) (hdepth : ∀ pair ∈ d.entries, pair.2.depth ≤ Json.maxDepth - 1) :
    readDictionary fs p = .ok (some (rereadDictionary d)) := by
  obtain ⟨q, hq, hfile⟩ := readBytes?_eq_some_iff.mp h
  have hthere : fs.exists? p = true := exists?_iff.mpr ⟨q, hq, Option.isSome_of_eq_some hfile⟩
  have htext : fs.readText? p = some ((Json.object d.entries).render indent) := by
    rw [readText?, h]
    exact ofBytes?_toBytes _
  have hobject : (Json.object d.entries).IsReadable := ⟨d.nodup_keys, Json.haveReadable_iff.mpr hreadable⟩
  have hread := Json.read?_render indent hobject (Nat.succ_le_succ (Json.depthOfMembers_le_iff.mpr hdepth))
  have hreread : OrderedMap.ofList (Json.rereadMembers d.entries) = rereadDictionary d := by
    rw [Json.rereadMembers_eq_map]
    exact OrderedMap.ofList_entries (rereadDictionary d)
  rw [readDictionary, hthere, htext]
  simp only [Bool.not_true, Bool.false_eq_true, if_false, hread, Json.reread, hreread]

/-- What a file holds for an id can be read when it has been written. -/
theorem comesBack_of_mem_existingIn {pair : String × Json} (h : pair ∈ (existingIn fs p).entries) :
    Json.ComesBack (Json.maxDepth - 1) pair.2 := by
  unfold existingIn at h
  split at h
  · next d hread =>
    unfold readDictionary at hread
    split at hread
    · cases hread
    · split at hread
      · cases hread
      · split at hread
        · cases hread
        · next members hmembers =>
          obtain rfl := Option.some.inj (Except.ok.inj hread)
          exact Json.comesBack_of_read? hmembers pair (OrderedMap.mem_of_mem_ofList h)
        · cases hread
  · cases h

/-- A merged dictionary holds what was there of the ids that stay, and texts. -/
theorem mem_merge {ids : List String} {defaultMessages : OrderedMap String} {options : MergeOptions} {pair : String × Json}
    (h : pair ∈ (existing.merge ids defaultMessages fallback options).dictionary.entries) :
    (pair ∈ existing.entries ∧ (pair.1 ∈ ids ∨ options.reserveKeys = true)) ∨ ∃ s, pair.2 = .string s := by
  have hheld := OrderedMap.get?_eq_some_iff.mpr h
  rw [Dictionary.get?_merge] at hheld
  split at hheld
  · next hid =>
    unfold Dictionary.settled at hheld
    split at hheld
    · exact .inl ⟨OrderedMap.get?_eq_some_iff.mp hheld, .inl hid⟩
    · rcases Option.or_eq_some_iff.mp hheld with htext | ⟨-, hold⟩
      · obtain ⟨s, -, hs⟩ := Option.map_eq_some_iff.mp htext
        exact .inr ⟨s, hs.symm⟩
      · exact .inl ⟨OrderedMap.get?_eq_some_iff.mp hold, .inl hid⟩
  · split at hheld
    · next hreserve => exact .inl ⟨OrderedMap.get?_eq_some_iff.mp hheld, .inr hreserve⟩
    · cases hheld

/-- The dictionary of a locale that was written is read. -/
theorem readDictionary_reread
    (h : fs'.readBytes? p = some (fileBytes indent (.object (outcomeOf root c order scan fallback fs lang).dictionary.entries))) :
    readDictionary fs' p = .ok (some (rereadDictionary (outcomeOf root c order scan fallback fs lang).dictionary)) := by
  have hcomes : ∀ pair ∈ (outcomeOf root c order scan fallback fs lang).dictionary.entries,
      Json.ComesBack (Json.maxDepth - 1) pair.2 := by
    intro pair hpair
    rcases mem_merge hpair with ⟨hold, -⟩ | ⟨s, hs⟩
    · exact comesBack_of_mem_existingIn hold
    · rw [hs]
      exact ⟨Nat.zero_le _, trivial⟩
  exact readDictionary_of_readBytes? h (fun pair hpair => (hcomes pair hpair).2) fun pair hpair => (hcomes pair hpair).1

/-- It is read as it is, if the numbers in it are. -/
theorem readDictionary_written
    (hnumbers : ∀ pair ∈ (existingIn fs ((Product.locale lang).path root c)).entries,
      pair.1 ∈ scan.messages.keys ∨ c.reserveKeys = true → ∀ x ∈ pair.2.reals, Json.ReadsBack x)
    (h : fs'.readBytes? p = some (fileBytes indent (.object (outcomeOf root c order scan fallback fs lang).dictionary.entries))) :
    readDictionary fs' p = .ok (some (outcomeOf root c order scan fallback fs lang).dictionary) := by
  have hsame : rereadDictionary (outcomeOf root c order scan fallback fs lang).dictionary =
      (outcomeOf root c order scan fallback fs lang).dictionary := by
    refine rereadDictionary_eq fun pair hpair => ?_
    rcases mem_merge hpair with ⟨hold, hstays⟩ | ⟨s, hs⟩
    · exact hnumbers pair hold hstays
    · rw [hs]
      exact fun x hx => absurd hx List.not_mem_nil
  rw [readDictionary_reread h, hsame]

/-! ## What was found -/

/-- What is found in the sources of a project. -/
def foundIn (root : Path) (c : Config) (fs : FileSystem) : ScanResult :=
  match ((scanProject root c).run fs).result with
  | .ok scan => scan
  | .error _ => Scan.empty

/-- What was found is the result of the scan, when that succeeds. -/
theorem foundIn_eq (h : (scanProject root c).Yields fs scan fs') : foundIn root c fs = scan := by
  rw [foundIn, h.1]

end Phrasebook.Extract
