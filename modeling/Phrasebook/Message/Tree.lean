import Phrasebook.Message.Plural

/-!
# Messages as trees

A message is a list of nodes: text, arguments to be filled in, and choices between branches, which are messages
themselves.
-/

namespace Phrasebook

/-- When a plural branch is taken: for one exact number, or for a category of numbers. -/
inductive PluralKey where
  | exact (x : Number)
  | category (c : PluralCategory)
  deriving DecidableEq, Repr

/-- A part of a message. -/
inductive Node where
  | text (s : String)
  /-- A value as it is. -/
  | argument (name : String)
  /-- A value as a number of the locale. -/
  | number (name : String)
  /-- A choice by the plural form of a value less `offset`. -/
  | plural (name : String) (offset : Number) (branches : List (PluralKey × List Node))
  /-- A choice by the text of a value. -/
  | select (name : String) (branches : List (String × List Node))
  /-- The number that decided the nearest plural around. -/
  | pound
  deriving Repr

/-- Does one of the branches have the key? -/
def hasBranch {κ : Type} [BEq κ] (key : κ) (branches : List (κ × List Node)) : Bool :=
  branches.any fun (k, _) => k == key

end Phrasebook
