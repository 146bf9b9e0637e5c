import Phrasebook.Text.CamelCase

/-!
# Placeholder names in one form

Authors write `{User Name}`, `{user_name}` or `{userName}`; a template holds the last. A brace is taken together with
the one that closes it. What stands between them is turned into camel case if it is a plain name: not empty, without
braces, commas, apostrophes, `@` and `#`, and with at least one letter or number. Anything else is left as it is.
-/

namespace Phrasebook.Template

open Text

/-- A character in front of what stands before a brace. -/
def consInside (c : Char) (found : List Char × List Char) : List Char × List Char := (c :: found.1, found.2)

/-- What stands before the brace that closes the outermost of `depth + 1` open ones, and what follows that brace. -/
def closeBrace? (depth : Nat) : List Char → Option (List Char × List Char)
  | [] => none
  | c :: rest =>
    if c = '{' then (closeBrace? (depth + 1) rest).map (consInside c)
    else if c = '}' then
      match depth with
      | 0 => some ([], rest)
      | depth + 1 => (closeBrace? depth rest).map (consInside c)
    else (closeBrace? depth rest).map (consInside c)

theorem length_closeBrace_lt {depth : Nat} {s : List Char} {found : List Char × List Char}
    (h : closeBrace? depth s = some found) : found.2.length < s.length := by
  fun_induction closeBrace? depth s generalizing found <;> grind [consInside, Option.map_eq_some_iff]

/-- Is the text between braces a plain name? -/
def isPlainName (inside : List Char) : Bool :=
  !inside.isEmpty && !inside.any (· ∈ ['{', '}', ',', '\'', '@', '#']) && !(camelCase inside).isEmpty

/-- A plain name in camel case; anything else as it is. -/
def normalName (inside : List Char) : List Char := if isPlainName inside then camelCase inside else inside

/-- The template with its plain names in camel case. -/
def normalizeChars (s : List Char) : List Char :=
  match s with
  | [] => []
  | c :: rest =>
    if c = '{' then
      match h : closeBrace? 0 rest with
      | none => c :: rest
      | some (inside, after) =>
        have : after.length < rest.length := length_closeBrace_lt h
        '{' :: (normalName inside ++ '}' :: normalizeChars after)
    else c :: normalizeChars rest
  termination_by s.length

/-- The template with its plain names in camel case. -/
def normalize (template : String) : String := String.ofList (normalizeChars template.toList)

end Phrasebook.Template
