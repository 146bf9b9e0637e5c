import Phrasebook.Number.Grouped

/-!
# Plural categories

Which plural form a language uses for a number. Only whole numbers have a category of their own; every fraction, and
what is not finite, is `other`.
-/

namespace Phrasebook

/-- The plural forms that languages tell apart. -/
inductive PluralCategory where
  | zero
  | one
  | two
  | few
  | many
  | other
  deriving DecidableEq, Repr

namespace PluralCategory

/-- The category that a keyword names. -/
def ofKeyword? : String → Option PluralCategory
  | "zero" => some .zero
  | "one" => some .one
  | "two" => some .two
  | "few" => some .few
  | "many" => some .many
  | "other" => some .other
  | _ => none

/-- The keyword of a category. -/
def keyword : PluralCategory → String
  | .zero => "zero"
  | .one => "one"
  | .two => "two"
  | .few => "few"
  | .many => "many"
  | .other => "other"

/-- Two to four, but not twelve to fourteen, in the last digits. -/
def endsInFew (count : Nat) : Bool :=
  2 ≤ count % 10 && count % 10 ≤ 4 && !(12 ≤ count % 100 && count % 100 ≤ 14)

/-- The category of a whole number in a language. -/
def ofCount (language : String) (count : Nat) : PluralCategory :=
  match language with
  | "ja" | "ko" | "zh" | "th" | "vi" | "id" | "ms" => .other
  | "fr" => if count ≤ 1 then .one else .other
  | "ru" | "uk" | "be" =>
    if count % 10 = 1 ∧ count % 100 ≠ 11 then .one else if endsInFew count then .few else .many
  | "pl" => if count = 1 then .one else if endsInFew count then .few else .many
  | "ar" =>
    if count = 0 then .zero
    else if count = 1 then .one
    else if count = 2 then .two
    else if 3 ≤ count % 100 ∧ count % 100 ≤ 10 then .few
    else if 11 ≤ count % 100 ∧ count % 100 ≤ 99 then .many
    else .other
  | _ => if count = 1 then .one else .other

/-- Whole numbers are counted in 64 bits; larger ones count as the largest. -/
def largestCount : Nat := 0xffffffffffffffff

/-- The category of a number in a locale. -/
def ofNumber (locale : String) (x : Number) : PluralCategory :=
  match x.whole? with
  | none => .other
  | some count => ofCount (languageOf locale) (min count largestCount)

end PluralCategory

end Phrasebook
