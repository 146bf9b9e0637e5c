import Phrasebook.Number.Plain
import Phrasebook.Text.Basic

/-!
# Numbers for a reader of a language

A number is rounded to thousandths, its integer part is grouped by threes, and the group separator and the decimal mark
are those of the language. The language of a locale is its name up to the first hyphen or underscore, in lower case.
-/

namespace Phrasebook

/-- The language of a locale. -/
def languageOf (locale : String) : String :=
  String.ofList ((locale.toList.takeWhile fun c => c != '-' && c != '_').map Char.toLower)

namespace Number

/-- The marks inside a number. -/
structure Marks where
  group : Char
  decimal : Char
  deriving DecidableEq, Repr

/-- The marks of a language. -/
def Marks.ofLanguage (language : String) : Marks :=
  if language ∈ ["de", "es", "it", "pt", "ru", "nl", "tr"] then ⟨'.', ','⟩
  else if language = "fr" then ⟨Char.ofNat 0x202f, ','⟩
  else ⟨',', '.'⟩

/-- The magnitude rounded to thousandths, a half away from zero; every step rounds to a binary64 value. -/
def roundThousandths (x : Number) : Number := (x.abs.mul (ofNat 1000)).roundMagnitude.div (ofNat 1000)

/-- The separator stands before a digit when the number of digits from there on is a multiple of three. -/
def groupDigits (separator : Char) : List Char → List Char
  | [] => []
  | [d] => [d]
  | d :: e :: rest =>
    if (rest.length + 1) % 3 = 0 then d :: separator :: groupDigits separator (e :: rest)
    else d :: groupDigits separator (e :: rest)

/-- Three digits of a fraction in thousandths. -/
def threeDigits (n : Nat) : List Char :=
  let digits := digitsOf n
  zeros (3 - digits.length) ++ digits

/-- A magnitude with at most three decimals and no zero at the end of them. -/
def groupedMagnitude (marks : Marks) : Number → List Char
  | .nan => ['N', 'a', 'N']
  | .infinite _ => ['i', 'n', 'f']
  | .finite _ mantissa exponent =>
    let thousandths := roundToEven (mantissa * pow2 exponent * 1000) (pow2 (-exponent))
    let fraction := Text.dropEndWhile (· == '0') (threeDigits (thousandths % 1000))
    let integer := groupDigits marks.group (digitsOf (thousandths / 1000))
    if fraction.isEmpty then integer else integer ++ marks.decimal :: fraction

/-- The text of a number in a locale. The sign is dropped where the number rounds to zero. -/
def grouped (x : Number) (locale : String) : String :=
  match x with
  | .finite negative .. =>
    let rounded := x.roundThousandths
    let signed := negative && !rounded.eq (zero false)
    String.ofList (signText signed ++ groupedMagnitude (Marks.ofLanguage (languageOf locale)) rounded)
  | x => x.plain

end Number

end Phrasebook
