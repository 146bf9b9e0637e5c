import Phrasebook.Project.Locales
import Phrasebook.Proofs.Files.Siblings
import Phrasebook.Proofs.Project.Work

/-!
# Values written to files

Values are written one after the other (`writeAll`). In the end each place holds the last value that was written to it
(`writeAll_effect_places`), so each file holds its value if those that are written to one place are the same
(`writeAll_effect`); files beside one another can be written without making a directory, if one of their paths leads somewhere
(`noNewDirectory_writeAll`); and files that hold their values can be written again without any change (`yields_writeAll`).
-/

namespace Phrasebook

open FileSystem Work Locales

variable {fs fs' : FileSystem} {p : Path} {value : Json} {indent : Nat} {products : List (Path × Json)} {u : Unit}
  {content : String}

/-! ## One file -/

namespace Work

theorem evolves_of_makeDirectory (h : (makeDirectory p).Yields fs u fs') : Evolves (fun _ => False) fs fs' :=
  h.2 ▸ evolves_makeDirectories p.text.length fs p

theorem yields_writeText_iff : (writeText p content).Yields fs u fs' ↔ fs.write? p (Text.toBytes content) = some fs' := by
  unfold Yields run writeText
  cases fs.write? p (Text.toBytes content) <;> simp

theorem yields_makeDirectory (h : p.text = "" ∨ fs.isDirectory p = true) : (makeDirectory p).Yields fs u fs := by
  have hthere : fs.withDirectory p = (fs, true) := makeDirectories_of_isDirectory _ h
  unfold Yields run makeDirectory
  rw [hthere]
  exact ⟨rfl, rfl⟩

end Work

/-- The bytes of a file with a value. -/
def fileBytes (indent : Nat) (value : Json) : ByteArray := Text.toBytes (value.render indent)

/-- The directory of a file is made first. -/
theorem writeJson_eq (p : Path) (value : Json) (indent : Nat) : writeJson p value indent =
    ((p.parent?.elim (pure ()) makeDirectory) >>= fun _ => writeText p (value.render indent)) := by
  unfold writeJson
  cases p.parent? <;> rfl

/-- A value that is written is found where its path leads, and no other file changes. -/
theorem writeJson_effect (hproper : fs.tree.isProper = true) (h : (writeJson p value indent).Yields fs u fs') :
    ∃ q, fs'.placeOf? p = some q ∧ Evolves (· = q) fs fs' ∧ fs'.tree.at? q = some (.file (fileBytes indent value)) := by
  rw [writeJson_eq] at h
  obtain ⟨_, made, hmade, hwrite⟩ := yields_bind_iff.mp h
  have haround : Evolves (fun _ => False) fs made := by
    cases hparent : p.parent? with
    | none =>
      rw [hparent] at hmade
      obtain ⟨-, rfl⟩ := yields_pure_iff.mp hmade
      exact .refl _ _
    | some parent =>
      rw [hparent] at hmade
      exact evolves_of_makeDirectory hmade
  obtain ⟨q, hp, hq, hevolves, hfile⟩ := write?_effect (haround.isProper hproper) (yields_writeText_iff.mp hwrite)
  exact ⟨q, placeOf?_eq_some_iff.mpr ⟨hp, hq⟩, (haround.mono fun _ => False.elim).trans hevolves, hfile⟩

/-- A file is written without making a directory, if the one that it goes to is there. -/
theorem noNewDirectory_writeJson (hproper : fs.tree.isProper = true) (h : (writeJson p value indent).Yields fs u fs')
    (hparent : ∀ parent, p.parent? = some parent → parent.text = "" ∨ fs.isDirectory parent = true) :
    NoNewDirectory fs fs' := by
  rw [writeJson_eq] at h
  obtain ⟨_, made, hmade, hwrite⟩ := yields_bind_iff.mp h
  have hsame : made = fs := by
    cases hcase : p.parent? with
    | none =>
      rw [hcase] at hmade
      exact (yields_pure_iff.mp hmade).2.symm
    | some parent =>
      rw [hcase] at hmade
      have hthere : (makeDirectory parent).Yields fs () fs := yields_makeDirectory (hparent parent hcase)
      exact hmade.2.symm.trans hthere.2
  subst hsame
  exact noNewDirectory_write? hproper (yields_writeText_iff.mp hwrite)

/-- A file that holds a value can be written again. -/
theorem yields_writeJson (h : fs.readBytes? p = some (fileBytes indent value)) :
    (writeJson p value indent).Yields fs u fs := by
  rw [writeJson_eq]
  refine yields_bind_iff.mpr ⟨(), fs, ?_, yields_writeText_iff.mpr (write?_of_readBytes? h)⟩
  cases hparent : p.parent? with
  | none => exact yields_pure_iff.mpr ⟨rfl, rfl⟩
  | some parent =>
    obtain ⟨q, ⟨hp, hq⟩, -⟩ := readBytes?_eq_some_iff.mp h
    exact yields_makeDirectory (or_iff_not_imp_left.mpr (isDirectory_parent hparent hp hq))

/-! ## Several files -/

/-- Writes values to files, one after the other. -/
def writeAll (indent : Nat) : List (Path × Json) → Work Unit
  | [] => pure ()
  | (p, value) :: products => do
    writeJson p value indent
    writeAll indent products

theorem writeAll_append (indent : Nat) (products products' : List (Path × Json)) :
    writeAll indent (products ++ products') = (writeAll indent products >>= fun _ => writeAll indent products') := by
  induction products with
  | nil => rfl
  | cons product products ih =>
    obtain ⟨p, value⟩ := product
    rw [List.cons_append, writeAll, writeAll, ih, bind_assoc]

/-- The path of a product leads to the place. -/
def WrittenBy (fs : FileSystem) (products : List (Path × Json)) (q : Place) : Prop :=
  ∃ product ∈ products, fs.placeOf? product.1 = some q

/-- After values have been written, only files at their places have changed, and each place holds a value that was written
there: the last one. -/
theorem writeAll_effect_places (hproper : fs.tree.isProper = true) (h : (writeAll indent products).Yields fs u fs') :
    Evolves (WrittenBy fs' products) fs fs' ∧ ∀ product ∈ products, ∃ q, fs'.placeOf? product.1 = some q ∧
      ∃ last ∈ products, fs'.placeOf? last.1 = some q ∧ fs'.tree.at? q = some (.file (fileBytes indent last.2)) := by
  induction products generalizing fs with
  | nil =>
    obtain ⟨-, rfl⟩ := yields_pure_iff.mp h
    exact ⟨.refl _ _, nofun⟩
  | cons product products ih =>
    obtain ⟨p, value⟩ := product
    obtain ⟨_, mid, hfirst, hrest⟩ := yields_bind_iff.mp h
    obtain ⟨q, hplace, hmid, hfile⟩ := writeJson_effect hproper hfirst
    obtain ⟨hevolves, hplaces⟩ := ih (hmid.isProper hproper) hrest
    have hplace' : fs'.placeOf? p = some q :=
      placeOf?_eq_some_iff.mpr ((placeOf?_eq_some_iff.mp hplace).imp_right hevolves.leadsTo)
    constructor
    · refine (hmid.mono ?_).trans (hevolves.mono ?_)
      · rintro _ rfl
        exact ⟨_, List.mem_cons_self, hplace'⟩
      · rintro place ⟨b, hb, hplace⟩
        exact ⟨b, List.mem_cons_of_mem _ hb, hplace⟩
    · rintro product hproduct
      rcases List.mem_cons.mp hproduct with rfl | hproduct
      · refine ⟨q, hplace', ?_⟩
        obtain ⟨content, hcontent, ⟨b, hb, hplaceb⟩ | rfl⟩ := hevolves.grows.at?_file hfile
        · -- a later value was written to the same place
          obtain ⟨q', hq', last, hlast, hplaceLast, hfile'⟩ := hplaces b hb
          obtain rfl := Option.some.inj (hplaceb.symm.trans hq')
          exact ⟨last, List.mem_cons_of_mem _ hlast, hplaceLast, hfile'⟩
        · exact ⟨_, List.mem_cons_self, hplace', hcontent⟩
      · obtain ⟨q', hq', last, hlast, hplaceLast, hfile'⟩ := hplaces product hproduct
        exact ⟨q', hq', last, List.mem_cons_of_mem _ hlast, hplaceLast, hfile'⟩

/-- After values have been written, only files at their places have changed, and each file reads as its value; values that are
written to one place have to be the same. -/
theorem writeAll_effect (hproper : fs.tree.isProper = true) (h : (writeAll indent products).Yields fs u fs')
    (hsame : ∀ a ∈ products, ∀ b ∈ products, ∀ q, fs'.placeOf? a.1 = some q → fs'.placeOf? b.1 = some q → a.2 = b.2) :
    Evolves (WrittenBy fs' products) fs fs' ∧
      ∀ product ∈ products, fs'.readBytes? product.1 = some (fileBytes indent product.2) := by
  obtain ⟨hevolves, hplaces⟩ := writeAll_effect_places hproper h
  refine ⟨hevolves, fun product hproduct => ?_⟩
  obtain ⟨q, hplace, last, hlast, hplaceLast, hfile⟩ := hplaces product hproduct
  rw [hsame product hproduct last hlast q hplace hplaceLast]
  exact readBytes?_eq_some_iff.mpr ⟨q, placeOf?_eq_some_iff.mp hplace, hfile⟩

/-- No directory is made for files beside a path that leads somewhere. -/
theorem noNewDirectory_writeAll {beside : Path} {q : Place} (hbeside : ∀ product ∈ products, IsBeside beside product.1)
    (hp : IsFollowable beside) (hq : fs.LeadsTo true beside q) (hproper : fs.tree.isProper = true)
    (h : (writeAll indent products).Yields fs u fs') : NoNewDirectory fs fs' := by
  induction products generalizing fs with
  | nil =>
    obtain ⟨-, rfl⟩ := yields_pure_iff.mp h
    exact .refl _
  | cons product products ih =>
    obtain ⟨p, value⟩ := product
    obtain ⟨_, mid, hfirst, hrest⟩ := yields_bind_iff.mp h
    obtain ⟨_, -, hmid, -⟩ := writeJson_effect hproper hfirst
    have hdirs := noNewDirectory_writeJson hproper hfirst fun parent hparent => or_iff_not_imp_left.mpr
      ((hbeside _ List.mem_cons_self).isDirectory_parent hparent hp hq)
    exact hdirs.trans (ih (fun b hb => hbeside b (List.mem_cons_of_mem _ hb)) (hmid.leadsTo hq) (hmid.isProper hproper) hrest)

/-- Files that hold their values can be written again without any change. -/
theorem yields_writeAll (h : ∀ product ∈ products, fs.readBytes? product.1 = some (fileBytes indent product.2)) :
    (writeAll indent products).Yields fs u fs := by
  induction products with
  | nil => exact yields_pure_iff.mpr ⟨rfl, rfl⟩
  | cons product products ih =>
    obtain ⟨p, value⟩ := product
    exact yields_bind_iff.mpr ⟨(), fs, yields_writeJson (h _ List.mem_cons_self),
      ih fun b hb => h b (List.mem_cons_of_mem _ hb)⟩

end Phrasebook
