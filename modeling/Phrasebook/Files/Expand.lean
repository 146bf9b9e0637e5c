import Phrasebook.Files.Glob
import Phrasebook.Files.Tree

/-!
# Expanding globs

The paths in a file system that a glob describes, one step of the glob at a time. A step without wildcards is looked up;
any other is compared with the names in the directory, in ascending order. A step `**` leads to every directory below,
also through links.
-/

namespace Phrasebook

namespace Glob

/-- A step of a glob. -/
structure Step where
  tokens : List Token
  deriving DecidableEq, Repr

/-- Does the step stand for any number of steps? -/
def Step.isRecursive (s : Step) : Bool := s.tokens.contains .anySteps

/-- The text of tokens that are all characters. -/
def literalText? : List Token → Option (List Char)
  | [] => some []
  | .char c :: tokens => (literalText? tokens).map (c :: ·)
  | _ :: _ => none

/-- Does the step match a name? -/
def Step.matchesName (s : Step) (name : String) : Bool := matchesText s.tokens name

/-- The pieces of a glob between slashes; a slash at the end ends the last piece. -/
def stepTexts (s : List Char) : List (List Char) :=
  let pieces := Text.splitAt '/' s
  if pieces.getLast? = some [] then pieces.dropLast else pieces

/-- The steps of a glob, unless one is malformed; a glob that is only the root has one empty step. -/
def stepsOf? (s : List Char) (absolute : Bool) : Option (List Step) := do
  let steps ← (stepTexts s).mapM fun piece => (readTokens? none piece).map Step.mk
  return if absolute && s.isEmpty then [⟨[]⟩] else steps

/-- Recursive steps that follow one another, of which only the last counts. -/
def dropRecursive : Step → List Step → List Step
  | step, [] => [step]
  | step, next :: steps => if next.isRecursive then dropRecursive next steps else step :: next :: steps

/-- What every expansion needs to know. -/
structure Expansion where
  fs : FileSystem
  /-- Are only directories wanted? -/
  onlyDirectories : Bool

/-- A name below a path; names below the current directory stand by themselves. -/
def below (p : Path) (name : String) : Path := if p.same ⟨"."⟩ then ⟨name⟩ else p.join name

/-- A path that all steps match, unless it is not of the kind that is wanted. -/
def Expansion.accept (x : Expansion) (p : Path) : List Path :=
  if x.onlyDirectories && !x.fs.isDirectory p then [] else [p]

/-- The names in a directory, ascending. -/
def Expansion.namesIn (x : Expansion) (p : Path) : List String :=
  ((x.fs.list? p).getD []).mergeSort fun a b => decide (a ≤ b)

/-- The special names that a step matches; it does only if it begins with a point. -/
def specialNames (step : Step) : List String :=
  if step.tokens.head? = some (.char '.') then ["..", "."].filter step.matchesName else []

mutual

/-- The paths below a directory that steps describe. `fuel` bounds the depth of directories. -/
def Expansion.enter (x : Expansion) (fuel : Nat) (p : Path) (steps : List Step) : List Path :=
  match fuel, steps with
  | 0, _ => []
  | _, [] => []
  | fuel + 1, step :: later =>
    match literalText? step.tokens with
    | some text =>
      let name := String.ofList text
      let next := below p name
      let isSpecial := name = "." ∨ name = ".."
      if (isSpecial ∧ x.fs.isDirectory p) ∨ (¬isSpecial ∧ (x.fs.entryItself? next).isSome) then
        x.proceed fuel next later
      else []
    | none =>
      if x.fs.isDirectory p then
        (specialNames step).flatMap (fun name => x.proceed fuel (p.join name) later) ++
          (x.namesIn p).flatMap fun name => x.visit fuel (below p name) name step later
      else []

/-- The paths that the remaining steps describe from a path that the steps so far describe. -/
def Expansion.proceed (x : Expansion) (fuel : Nat) (p : Path) (steps : List Step) : List Path :=
  match fuel with
  | 0 => []
  | fuel + 1 => if steps.isEmpty then x.accept p else x.enter fuel p steps

/-- The paths that begin with a name in a directory. -/
def Expansion.visit (x : Expansion) (fuel : Nat) (p : Path) (name : String) (step : Step) (later : List Step) :
    List Path :=
  match fuel with
  | 0 => []
  | fuel + 1 =>
    if step.isRecursive then
      match dropRecursive step later with
      | [] => []
      | last :: [] => if x.fs.isDirectory p then p :: x.enter fuel p [last] else []
      | last :: next :: others =>
        (if next.matchesName name then x.proceed fuel p others else []) ++
          (if x.fs.isDirectory p then x.enter fuel p (last :: next :: others) else [])
    else if step.matchesName name then x.proceed fuel p later
    else []

end

/-- Paths lead down at most as far as a path is long, and every directory on the way takes a few steps. -/
def expansionFuel (steps : List Step) : Nat := 3 * (FileSystem.maxPathLength + steps.length + 2)

/-- The paths in a file system that a glob describes, unless the glob is malformed. -/
def expand? (fs : FileSystem) (glob : String) : Option (List Path) :=
  if !isValid glob then none
  else
    let s := glob.toList
    let absolute := s.head? = some '/'
    let x : Expansion := ⟨fs, s.getLast? = some '/'⟩
    (stepsOf? (if absolute then s.drop 1 else s) absolute).map fun steps =>
      x.enter (expansionFuel steps) (if absolute then ⟨"/"⟩ else ⟨"."⟩) steps

end Glob

end Phrasebook
