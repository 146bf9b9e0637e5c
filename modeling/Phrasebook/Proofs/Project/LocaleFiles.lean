import Phrasebook.Proofs.Project.Products

/-!
# Locale files that are read back

A dictionary that is written to a file is read from it as it is, every key and every value in its place, however the file is
indented; so it is rendered as the same bytes again (`readDictionary_writeJson`). Numbers that are not whole are left out here:
what is read for them is told by `Json.reread`.
-/

namespace Phrasebook.Locales

open FileSystem Work Extract

variable {fs fs' : FileSystem} {p : Path} {d : Dictionary} {value : Json} {indent : Nat} {u : Unit}

/-- A file that a value was written to holds the rendered value. -/
theorem readBytes?_of_writeJson (hproper : fs.tree.isProper = true) (h : (writeJson p value indent).Yields fs u fs') :
    fs'.readBytes? p = some (fileBytes indent value) := by
  obtain ⟨q, hplace, -, hfile⟩ := writeJson_effect hproper h
  exact readBytes?_eq_some_iff.mpr ⟨q, placeOf?_eq_some_iff.mp hplace, hfile⟩

/-- A dictionary whose numbers are whole and that can be read is read from the file it was written to, and what is read is
rendered as the bytes of the file. -/
theorem readDictionary_writeJson (hproper : fs.tree.isProper = true)
    (hreadable : ∀ pair ∈ d.entries, pair.2.IsReadable) (hwhole : ∀ pair ∈ d.entries, pair.2.reals = [])
    (hdepth : ∀ pair ∈ d.entries, pair.2.depth ≤ 126)
    (hwritten : (writeJson p (.object d.entries) indent).Yields fs () fs') :
    ∃ back, readDictionary fs' p = .ok (some back) ∧ back = d ∧
      fs'.readBytes? p = some (Text.toBytes ((Json.object back.entries).render indent)) := by
  have hbytes := readBytes?_of_writeJson hproper hwritten
  have hsame : rereadDictionary d = d := by
    refine rereadDictionary_eq fun pair hpair x hx => ?_
    rw [hwhole pair hpair] at hx
    exact absurd hx List.not_mem_nil
  have hread := readDictionary_of_readBytes? hbytes hreadable hdepth
  rw [hsame] at hread
  exact ⟨d, hread, rfl, hbytes⟩

namespace LocaleFilesWitness

def desk : FileSystem := ⟨.directory [("locales", .directory [("en.json", .file (Text.toBytes "old"))])], []⟩

/-- Keys and texts with characters that are escaped, whole numbers at both ends of their range, and values without parts. -/
def words : Dictionary :=
  .ofList [("say \"hi\"", .string "tab\t, line\n, \\ and é"), ("", .null),
    ("b", .array [.integer (-0x8000000000000000), .integer 0xffffffffffffffff, .bool true, .array [], .object []]),
    ("a", .object [("z", .string ""), ("y", .object [("x", .bool false)])])]

/-- What writing the dictionary to the file of a new locale leaves. -/
def deskAfter : FileSystem := ((writeJson ⟨"/locales/more/fr.json"⟩ (.object words.entries) 2).run desk).fs

end LocaleFilesWitness

open LocaleFilesWitness in
theorem readDictionary_writeJson_words :
    (writeJson ⟨"/locales/more/fr.json"⟩ (.object words.entries) 2).Yields desk () deskAfter ∧
      ∃ back, readDictionary deskAfter ⟨"/locales/more/fr.json"⟩ = .ok (some back) ∧ back = words ∧
        deskAfter.readBytes? ⟨"/locales/more/fr.json"⟩ =
          some (Text.toBytes ((Json.object back.entries).render 2)) := by
  have hok : ((writeJson ⟨"/locales/more/fr.json"⟩ (.object words.entries) 2).run desk).result.isOk = true := by
    decide +kernel
  obtain ⟨_, hwritten⟩ := exists_yields hok
  have hreadable : ∀ pair ∈ words.entries, pair.2.IsReadable := by
    rw [show words.entries = _ by cbv]
    simp [Json.IsReadable, Json.AreReadable, Json.HaveReadable, Json.FitsInteger]
  exact ⟨hwritten, readDictionary_writeJson (by decide) hreadable (by decide) (by decide) hwritten⟩

end Phrasebook.Locales
