import Phrasebook.Text.Read

/-!
# White space in regular expressions

White space stands for itself, or it is passed over together with comments, each of which goes from a number sign to the
end of the line.
-/

namespace Phrasebook.Regex

open Text Unicode

/-- Does white space stand for itself? -/
inductive Spacing where
  | significant
  | free
  deriving DecidableEq, Repr

/-- The text after white space and comments. -/
def skipComments (s : List Char) : List Char :=
  match readMark? '#' s with
  | some sign =>
    let comment := Read.ofRun (· != '\n') sign.rest
    skipComments comment.rest
  | none => skipBlank s
  termination_by s.length
  decreasing_by exact (sign.andThen comment).below

theorem length_skipComments_le (s : List Char) : (skipComments s).length ≤ s.length := by
  fun_induction skipComments s with
  | case1 s sign _ comment ih => exact Nat.le_trans ih (Nat.le_of_lt (sign.andThen comment).below)
  | case2 s => exact length_skipBlank_le s

namespace Spacing

/-- The text after what is passed over. -/
def skip : Spacing → List Char → List Char
  | .significant, s => s
  | .free, s => skipComments s

theorem length_skip_le (sp : Spacing) (s : List Char) : (sp.skip s).length ≤ s.length := by
  cases sp
  · exact Nat.le_refl _
  · exact length_skipComments_le s

/-- A value for which only what is passed over is taken. -/
def skipped {α : Type} (sp : Spacing) (value : α) (s : List Char) : Read α (s.length + 1) :=
  ⟨value, sp.skip s, Nat.lt_succ_of_le (sp.length_skip_le s)⟩

/-- Reads a character and what is passed over before it. -/
def next? (sp : Spacing) (s : List Char) : Option (Read Char s.length) :=
  (readAny? (sp.skip s)).map (·.widen (sp.length_skip_le s))

/-- Reads one given character and what is passed over before it. -/
def readMark? (sp : Spacing) (mark : Char) (s : List Char) : Option (Read Unit s.length) :=
  (readChar? mark (sp.skip s)).map (·.widen (sp.length_skip_le s))

/-- The character seen after white space. Of a comment only the number sign is passed over, and the white space after
it. -/
def peek? (sp : Spacing) (s : List Char) : Option Char :=
  match sp with
  | .significant => s.head?
  | .free => match readChar? '#' (skipBlank s) with
    | some sign => (skipBlank sign.rest).head?
    | none => (skipBlank s).head?

end Spacing

end Phrasebook.Regex
