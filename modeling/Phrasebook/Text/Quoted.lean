import Phrasebook.Unicode.Printable

/-!
# Quoted texts

A text between double quotes in which no character can be mistaken: quotes and backslashes are escaped, and so is what
has no shape of its own on a screen.
-/

namespace Phrasebook.Text

open Unicode

/-- Hexadecimal digits in lower case. -/
def hexDigits (n : Nat) : List Char := Nat.toDigits 16 n

/-- A code point as an escape. -/
def codePointEscape (c : Char) : List Char := ['\\', 'u', '{'] ++ hexDigits c.toNat ++ ['}']

/-- The written form of a character inside quotes. -/
def quoteChar (c : Char) : List Char :=
  if c = '\x00' then ['\\', '0']
  else if c = '\t' then ['\\', 't']
  else if c = '\r' then ['\\', 'r']
  else if c = '\n' then ['\\', 'n']
  else if c = '\\' then ['\\', '\\']
  else if c = '"' then ['\\', '"']
  else if isGraphemeExtend c || !isPrintable c then codePointEscape c
  else [c]

/-- The text in quotes. -/
def quoted (s : String) : String := String.ofList ('"' :: (s.toList.flatMap quoteChar ++ ['"']))

end Phrasebook.Text
