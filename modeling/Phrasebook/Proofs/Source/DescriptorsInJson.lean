import Phrasebook.Message.DescriptorJson
import Phrasebook.Proofs.Json.Strings
import Phrasebook.Proofs.Message.Writing
import Phrasebook.Proofs.Source.Descriptors
import Phrasebook.Proofs.Template.Letters

/-!
# Descriptors written as JSON

An object whose values are strings is an object literal however it is indented (`objectText_write`), but two escapes of JSON
are not those of literals: a backspace and a form feed come back as letters (`relettered`). All other characters come back as they
are, so a descriptor is read back with its default message in its normal form exactly if that holds neither of the two
(`read_text_toJson_iff`).
-/

namespace Phrasebook

namespace Literal

open Json (writeString escapeChar controlEscape lineBreak colon writeMembers)
open Message (Blanks blanks_nil)
open Text Unicode

variable {s behind : List Char} {c : Char} {indent depth : Nat}

/-! ## Strings -/

/-- The character as it is read back from JSON: the letters of `\b` and `\f` stand for themselves. -/
def relettered (c : Char) : Char := if c.toNat = 8 then 'b' else if c.toNat = 12 then 'f' else c

/-- The text as it is read back from JSON. -/
def reread (s : String) : String := String.ofList (s.toList.map relettered)

/-- All characters but two are read as they were. -/
theorem relettered_of_ne (h8 : c.toNat ≠ 8) (h12 : c.toNat ≠ 12) : relettered c = c := by
  rw [relettered, if_neg h8, if_neg h12]

/-- The text has a letter for each character that does not come back. -/
theorem tally_map_relettered (s : List Char) :
    tally (s.map relettered) = tally s + s.countP fun c => c.toNat = 8 ∨ c.toNat = 12 := by
  induction s with
  | nil => rfl
  | cons c s ih =>
    rw [List.map_cons, tally_cons, ih, tally_cons, List.countP_cons]
    by_cases h8 : c.toNat = 8
    · have hkept : codeTally (relettered c).toNat = 1 := by
        rw [relettered, if_pos h8]
        rfl
      have hnone : codeTally c.toNat = 0 := by
        rw [h8]
        rfl
      rw [if_pos (by simp [h8]), hkept, hnone]
      omega
    · by_cases h12 : c.toNat = 12
      · have hkept : codeTally (relettered c).toNat = 1 := by
          rw [relettered, if_neg h8, if_pos h12]
          rfl
        have hnone : codeTally c.toNat = 0 := by
          rw [h12]
          rfl
        rw [if_pos (by simp [h12]), hkept, hnone]
        omega
      · rw [relettered_of_ne h8 h12, if_neg (by simp [h8, h12])]
        omega

/-- A text without the two is read as it was. -/
theorem map_relettered_of_ne (h : ∀ c ∈ s, c.toNat ≠ 8 ∧ c.toNat ≠ 12) : s.map relettered = s := by
  rw [List.map_congr_left fun c hc => relettered_of_ne (h c hc).1 (h c hc).2, List.map_id']

/-- A message that does not come back has another normal form: its letters are counted. -/
theorem normalize_reread_iff (message : String) :
    Template.normalize (reread message) = Template.normalize message ↔
      ∀ c ∈ message.toList, c.toNat ≠ 8 ∧ c.toNat ≠ 12 := by
  rw [Template.normalize, Template.normalize, String.ofList_inj, reread, String.toList_ofList]
  constructor
  · intro heq
    have htally := congrArg tally heq
    rw [Template.tally_normalizeChars, Template.tally_normalizeChars, tally_map_relettered] at htally
    have hnone : message.toList.countP (fun c => c.toNat = 8 ∨ c.toNat = 12) = 0 := by omega
    intro c hc
    simpa using List.countP_eq_zero.mp hnone c hc
  · intro hnone
    rw [map_relettered_of_ne hnone]

/-- An escape with a letter is one unit of a string. -/
theorem unitText_letter {letter : Char} (hletter : letter ≠ 'u') (hc : escaped letter = c) :
    UnitText '"' behind ['\\', letter] [c] := by
  subst hc
  exact .escape fun h => absurd h hletter

/-- So is the escape of a control character by its code point. -/
theorem unitText_control (h : c.toNat < 0x20) : UnitText '"' behind (controlEscape c) [c] := by
  obtain ⟨digits, heq, hlength, hvalue⟩ := Json.controlEscape_eq h
  rw [heq]
  match digits, hlength with
  | [a, b, d, e], _ =>
    have hsign : escapedNumber? [a, b, d, e] = hexNumber? [a, b, d, e] := by
      refine escapedNumber?.eq_2 _ fun digits hplus => ?_
      obtain ⟨rfl, -⟩ := List.cons.inj hplus
      exact absurd (isSome_of_hexNumber? hvalue '+' List.mem_cons_self) (by decide)
    refine .codePoint (.four ?_)
    rw [hsign, hvalue, Option.bind_some, Json.charOf?_toNat]

/-- Every character is written as one unit of a string. -/
theorem unitText_escapeChar (c : Char) : UnitText '"' behind (escapeChar c) [relettered c] := by
  have hkept : c.toNat ≠ 8 → c.toNat ≠ 12 → [relettered c] = [c] := fun h8 h12 => by rw [relettered_of_ne h8 h12]
  fun_cases escapeChar c with
  | case1 h => exact unitText_letter (by decide) (by rw [h]; rfl)
  | case2 _ h => exact unitText_letter (by decide) (by rw [h]; rfl)
  | case3 _ _ h8 => exact unitText_letter (by decide) (by rw [relettered, if_pos h8]; rfl)
  | case4 _ _ h8 h12 => exact unitText_letter (by decide) (by rw [relettered, if_neg h8, if_pos h12]; rfl)
  | case5 _ _ _ _ h => exact unitText_letter (by decide) (by rw [h]; rfl)
  | case6 _ _ _ _ _ h => exact unitText_letter (by decide) (by rw [h]; rfl)
  | case7 _ _ _ _ _ _ h => exact unitText_letter (by decide) (by rw [h]; rfl)
  | case8 _ _ h8 h12 _ _ _ hcontrol =>
    rw [hkept h8 h12]
    exact unitText_control hcontrol
  | case9 hquote hslash h8 h12 =>
    rw [hkept h8 h12]
    exact .plain hquote hslash fun h => absurd h.2.1 (by decide)

/-- An escaped text is the inside of a string, with its two letters read for the two escapes. -/
theorem stringText_escapeChar (s : List Char) : StringText '"' (s.flatMap escapeChar) (s.map relettered) := by
  induction s with
  | nil => exact .nil
  | cons c s ih => exact .cons (unitText_escapeChar c) ih

/-! ## Objects -/

/-- Line breaks and indentation are white space. -/
theorem blanks_lineBreak (indent depth : Nat) : Blanks (lineBreak indent depth) := by
  intro c hc
  rw [lineBreak] at hc
  split at hc
  · cases hc
  · rcases List.mem_cons.mp hc with rfl | hc
    · decide
    · rw [List.eq_of_mem_replicate hc]
      decide

/-- White space may follow the colon. -/
theorem colon_eq (indent : Nat) : ∃ b, Blanks b ∧ colon indent = ':' :: b := by
  rw [colon]
  split
  · exact ⟨[], blanks_nil, rfl⟩
  · exact ⟨[' '], by decide, rfl⟩

/-- A member whose value is a string is an entry. -/
theorem entryText_member (indent : Nat) (name value : String) :
    EntryText (reread name, .string (value.toList.map relettered)) (writeString name ++ (colon indent ++ writeString value)) := by
  obtain ⟨b, hb, hcolon⟩ := colon_eq indent
  rw [hcolon]
  exact .mk (b := []) (.string (.inr rfl) (stringText_escapeChar _)) blanks_nil hb
    (.string (by decide) (stringText_escapeChar _))

/-- The entries that an object of strings has for a reader of literals. -/
def entriesOfMembers (members : List (String × String)) : List (String × Literal) :=
  members.map fun (name, value) => (reread name, .string (value.toList.map relettered))

/-- The members behind the first, and the brace. -/
theorem entriesText_writeMembers (indent depth : Nat) (name value : String) (members : List (String × String)) :
    ∃ w, EntriesText (entriesOfMembers ((name, value) :: members)) w ∧
      lineBreak indent (depth + 1) ++ (writeString name ++ (colon indent ++ (writeString value ++
        writeMembers indent depth (members.map fun (name, value) => (name, .string value))))) = w ++ ['}'] := by
  induction members generalizing name value with
  | nil =>
    have hbreak := blanks_lineBreak indent
    refine ⟨_, .last (hbreak (depth + 1)) (entryText_member indent name value) (hbreak depth), ?_⟩
    simp [writeMembers]
  | cons member members ih =>
    obtain ⟨w, hw, heq⟩ := ih member.1 member.2
    refine ⟨_, .more (blanks_lineBreak indent (depth + 1)) (entryText_member indent name value) blanks_nil hw, ?_⟩
    simp [writeMembers, Json.write, ← heq]

/-- An object of strings is an object literal however it is indented. -/
theorem objectText_write (indent : Nat) (name value : String) (members : List (String × String)) :
    ObjectText (entriesOfMembers ((name, value) :: members))
      (Json.write indent 0 (.object (((name, value) :: members).map fun (name, value) => (name, .string value)))) := by
  obtain ⟨w, hw, heq⟩ := entriesText_writeMembers indent 0 name value members
  have hwrite : Json.write indent 0 (.object (((name, value) :: members).map fun (name, value) => (name, .string value))) =
      '{' :: (w ++ ['}']) := by
    rw [← heq]
    simp [Json.write]
  rw [hwrite]
  exact .mk blanks_nil hw blanks_nil

end Literal

/-! ## Descriptors -/

namespace Descriptor

open Literal

variable {d : Descriptor}

/-- The descriptor may be read from a text: its id is not empty and made of these characters, and its default message is not
empty. -/
structure IsReadable (d : Descriptor) : Prop where
  idNotEmpty : d.id ≠ ""
  idChars : ∀ c ∈ d.id.toList, c.isAlpha ∨ c = '_' ∨ c = '.' ∨ c = '-'
  messageNotEmpty : d.defaultMessage ≠ some ""

/-- No character of an id has an escape. -/
theorem IsReadable.map_relettered_id (h : d.IsReadable) : d.id.toList.map relettered = d.id.toList := by
  have hno : ∀ k ∈ [8, 12], ∀ c ∈ d.id.toList, c.toNat ≠ k := by
    intro k hk c hc hcode
    have hchars := h.idChars c hc
    rw [← Char.ofNat_toNat c, hcode] at hchars
    revert hchars
    clear hcode
    revert k
    decide
  exact map_relettered_of_ne fun c hc => ⟨hno 8 (by decide) c hc, hno 12 (by decide) c hc⟩

/-- The entries that a descriptor has for a reader of literals. -/
theorem IsReadable.entriesOfMembers_eq (h : d.IsReadable) : entriesOfMembers d.members = ("id", .string d.id.toList) ::
    (d.defaultMessage.map fun message => ("defaultMessage", .string (message.toList.map relettered))).toList := by
  have hid : reread "id" = "id" := by decide
  have hmessage : reread "defaultMessage" = "defaultMessage" := by decide
  simp only [entriesOfMembers, members, List.map_cons, h.map_relettered_id, hid]
  cases d.defaultMessage with
  | none => rfl
  | some message => simp [hmessage]

/-- However a descriptor is indented as JSON, it is read back, with its default message in its normal form once it is reread. -/
theorem read_text_toJson (h : d.IsReadable) (indent : Nat) :
    read (d.toJson.text indent) = .ok ⟨d.id, d.defaultMessage.map fun message => Template.normalize (reread message)⟩ := by
  have hobject : ObjectText (entriesOfMembers d.members) (d.toJson.text indent).toList := by
    rw [Json.text, String.toList_ofList]
    exact objectText_write indent "id" d.id _
  rw [h.entriesOfMembers_eq] at hobject
  refine read_eq_ok_iff.mpr ⟨_, hobject, .some (List.nil_append _).symm ?_, h.idNotEmpty, h.idChars, ?_⟩
  · intro entry hentry
    cases hmessage : d.defaultMessage with
    | none => simp [hmessage] at hentry
    | some message =>
      obtain rfl : entry = ("defaultMessage", .string (message.toList.map relettered)) := by simpa [hmessage] using hentry
      exact show "defaultMessage" ≠ "id" by decide
  · cases hmessage : d.defaultMessage with
    | none => exact ⟨none, .none (by simp), .absent⟩
    | some message =>
      have hne : message.toList.map relettered ≠ [] := by
        simpa using fun hempty : message = "" => h.messageNotEmpty (hempty ▸ hmessage)
      have hlast : IsLast "defaultMessage" ([("id", Literal.string d.id.toList)] ++
          [("defaultMessage", .string (message.toList.map relettered))]) _ := .some rfl nofun
      exact ⟨_, hlast, .text hne⟩

/-- A descriptor is read back from JSON exactly if its default message holds neither a backspace nor a form feed. -/
theorem read_text_toJson_iff (h : d.IsReadable) (indent : Nat) :
    read (d.toJson.text indent) = .ok ⟨d.id, d.defaultMessage.map Template.normalize⟩ ↔
      ∀ message ∈ d.defaultMessage, ∀ c ∈ message.toList, c.toNat ≠ 8 ∧ c.toNat ≠ 12 := by
  rw [read_text_toJson h]
  cases hmessage : d.defaultMessage with
  | none => simp
  | some message => simpa using normalize_reread_iff message

namespace DescriptorsInJsonWitness

/-- A quoted text, a line break and a placeholder. -/
def title : Descriptor := ⟨"home.title", some "\"Hi\"\n\x7buser_name\x7d"⟩

/-- The title can be read. -/
theorem isReadable_title : title.IsReadable := ⟨by decide, by simp [title], by decide⟩

/-- A backspace. -/
def backspace : Descriptor := ⟨"back.space", some "x\x08y"⟩

/-- The descriptor with a backspace may be read. -/
theorem isReadable_backspace : backspace.IsReadable := ⟨by decide, by simp [backspace], by decide⟩

end DescriptorsInJsonWitness

open DescriptorsInJsonWitness in
/-- The title is read back with its placeholder in normal form. -/
theorem read_text_toJson_iff_title : title.IsReadable ∧
    title.toJson.text 0 = "\x7b\"id\":\"home.title\",\"defaultMessage\":\"\\\"Hi\\\"\\n\x7buser_name\x7d\"\x7d" ∧
    read (title.toJson.text 0) = .ok ⟨"home.title", some "\"Hi\"\n\x7buserName\x7d"⟩ := by
  have hnormal : Template.normalize "\"Hi\"\n\x7buser_name\x7d" = "\"Hi\"\n\x7buserName\x7d" := by decide +kernel
  have hread := (read_text_toJson_iff isReadable_title 0).mpr (by simp [title])
  refine ⟨isReadable_title, by decide +kernel, ?_⟩
  rw [hread, title, Option.map_some, hnormal]

open DescriptorsInJsonWitness in
/-- A backspace comes back as a letter. -/
theorem read_text_toJson_false : backspace.IsReadable ∧
    backspace.toJson.text 0 = "\x7b\"id\":\"back.space\",\"defaultMessage\":\"x\\by\"\x7d" ∧
    read (backspace.toJson.text 0) = .ok ⟨"back.space", some "xby"⟩ ∧
    backspace.defaultMessage.map Template.normalize = some "x\x08y" := by
  have hnormal : Template.normalize "xby" = "xby" ∧ Template.normalize "x\x08y" = "x\x08y" := by decide +kernel
  have hreread : reread "x\x08y" = "xby" := by decide
  refine ⟨isReadable_backspace, by decide +kernel, ?_, ?_⟩
  · rw [read_text_toJson isReadable_backspace, backspace, Option.map_some, hreread, hnormal.1]
  · rw [backspace, Option.map_some, hnormal.2]

end Descriptor

end Phrasebook
