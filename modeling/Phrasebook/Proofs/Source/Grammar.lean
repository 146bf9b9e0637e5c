import Phrasebook.Proofs.Message.Tokens
import Phrasebook.Source.Descriptor

/-!
# The language of descriptors

A descriptor is written as an object literal: entries in braces, with commas between them and perhaps one behind the last,
and white space between all tokens. `ObjectText` says which texts are object literals and what their entries are, without
places of errors and without an order of attempts; `Describes` says which descriptor entries give.
-/

namespace Phrasebook

namespace Literal

open Message (Blanks)
open Text

/-! ## Strings -/

/-- One of the three characters that enclose strings. -/
def IsQuote (q : Char) : Prop := q = '\'' ∨ q = '"' ∨ q.toNat = 0x60

instance (q : Char) : Decidable (IsQuote q) := inferInstanceAs (Decidable (_ ∨ _))

/-- The text names a code point, after the letter of the escape: four digits, or any number of them in braces. -/
inductive CodePointText (c : Char) : List Char → Prop where
  | four {a b d e : Char} (hc : (escapedNumber? [a, b, d, e]).bind charOf? = some c) : CodePointText c [a, b, d, e]
  | braced {digits : List Char} (hc : (escapedNumber? digits).bind charOf? = some c) :
      CodePointText c ('{' :: (digits ++ ['}']))

/-- The text of a part of a string that is read at once, and what it adds to the string; `behind` is what follows it. -/
inductive UnitText (quote : Char) (behind : List Char) : List Char → List Char → Prop where
  | plain {c : Char} (hquote : c ≠ quote) (hslash : c ≠ '\\')
      (hdollar : ¬(c = '$' ∧ quote.toNat = 0x60 ∧ behind.head? = some '{')) : UnitText quote behind [c] [c]
  /-- The dollar sign of an interpolation between backquotes. -/
  | dollar (hquote : quote.toNat = 0x60) (hbrace : behind.head? = some '{') : UnitText quote behind ['$'] []
  /-- The letter of a code point stands for itself if no code point follows. -/
  | escape {c : Char} (hpoint : c = 'u' → ∀ d u, CodePointText d u → ¬u <+: behind) :
      UnitText quote behind ['\\', c] [escaped c]
  | codePoint {c : Char} {u : List Char} (hpoint : CodePointText c u) : UnitText quote behind ('\\' :: 'u' :: u) [c]

/-- The text between two quotes, and the string that it stands for. -/
inductive StringText (quote : Char) : List Char → List Char → Prop where
  | nil : StringText quote [] []
  | cons {u w v s : List Char} (hunit : UnitText quote w u v) (h : StringText quote w s) :
      StringText quote (u ++ w) (v ++ s)

/-- The text of a string between quotes in which a backslash stands before every backslash and every quote, and between
backquotes before every dollar sign. -/
def escapeIn (quote : Char) (s : List Char) : List Char :=
  s.flatMap fun c => if c = '\\' ∨ c = quote ∨ quote.toNat = 0x60 ∧ c = '$' then ['\\', c] else [c]

/-! ## Keys and values -/

/-- The text of a key: a name, or a string in single or double quotes. -/
inductive KeyText : List Char → List Char → Prop where
  | name {c : Char} {s : List Char} (hc : startsName c = true) (hs : ∀ d ∈ s, isNameChar d = true) :
      KeyText (c :: s) (c :: s)
  | string {quote : Char} {w key : List Char} (hquote : quote = '\'' ∨ quote = '"') (h : StringText quote w key) :
      KeyText key (quote :: (w ++ [quote]))

/-- The words that are literals. -/
inductive WordText : Literal → List Char → Prop where
  | trueWord : WordText (.bool true) ['t', 'r', 'u', 'e']
  | falseWord : WordText (.bool false) ['f', 'a', 'l', 's', 'e']
  | nullWord : WordText .null ['n', 'u', 'l', 'l']
  | undefinedWord : WordText .null ['u', 'n', 'd', 'e', 'f', 'i', 'n', 'e', 'd']

/-- The text of a literal. -/
inductive LiteralText : Literal → List Char → Prop where
  | string {quote : Char} {w s : List Char} (hquote : IsQuote quote) (h : StringText quote w s) :
      LiteralText (.string s) (quote :: (w ++ [quote]))
  | number {c : Char} {s : List Char} (hc : startsNumber c = true) (hs : (Number.ofText? (c :: s)).isSome) :
      LiteralText .number (c :: s)
  | word {literal : Literal} {w : List Char} (h : WordText literal w) : LiteralText literal w

/-! ## Objects -/

/-- The text of an entry. -/
inductive EntryText : String × Literal → List Char → Prop where
  | mk {key w v b b' : List Char} {value : Literal} (hkey : KeyText key w) (hb : Blanks b) (hb' : Blanks b')
      (hvalue : LiteralText value v) : EntryText (String.ofList key, value) (w ++ (b ++ ':' :: (b' ++ v)))

/-- The text between the braces of an object. -/
inductive EntriesText : List (String × Literal) → List Char → Prop where
  | none {b : List Char} (hb : Blanks b) : EntriesText [] b
  | last {b w b' : List Char} {entry : String × Literal} (hb : Blanks b) (hentry : EntryText entry w) (hb' : Blanks b') :
      EntriesText [entry] (b ++ (w ++ b'))
  | more {b w b' rest : List Char} {entry : String × Literal} {entries : List (String × Literal)} (hb : Blanks b)
      (hentry : EntryText entry w) (hb' : Blanks b') (h : EntriesText entries rest) :
      EntriesText (entry :: entries) (b ++ (w ++ (b' ++ ',' :: rest)))

/-- The text of an object literal. -/
inductive ObjectText (entries : List (String × Literal)) : List Char → Prop where
  | mk {b w b' : List Char} (hb : Blanks b) (hentries : EntriesText entries w) (hb' : Blanks b') :
      ObjectText entries (b ++ '{' :: (w ++ '}' :: b'))

end Literal

/-! ## Descriptors -/

namespace Descriptor

/-- The last value of a key in the entries, if there is one. -/
inductive IsLast (key : String) (entries : List (String × Literal)) : Option Literal → Prop where
  | none (h : ∀ entry ∈ entries, entry.1 ≠ key) : IsLast key entries none
  | some {front behind : List (String × Literal)} {value : Literal} (hentries : entries = front ++ (key, value) :: behind)
      (h : ∀ entry ∈ behind, entry.1 ≠ key) : IsLast key entries (some value)

/-- What a value says about the default message: a text that is not empty, in its normal form, or nothing. -/
inductive MessageOf : Option Literal → Option String → Prop where
  | absent : MessageOf none none
  | null : MessageOf (some .null) none
  | empty : MessageOf (some (.string [])) none
  | text {s : List Char} (hs : s ≠ []) :
      MessageOf (some (.string s)) (some (Template.normalize (String.ofList s)))

/-- The entries give the descriptor. -/
structure Describes (entries : List (String × Literal)) (d : Descriptor) : Prop where
  lastId : IsLast "id" entries (some (.string d.id.toList))
  idNotEmpty : d.id ≠ ""
  idChars : ∀ c ∈ d.id.toList, c.isAlpha ∨ c = '_' ∨ c = '.' ∨ c = '-'
  message : ∃ value, IsLast "defaultMessage" entries value ∧ MessageOf value d.defaultMessage

end Descriptor

end Phrasebook
