import Phrasebook.Regex.PropertyName
import Phrasebook.Regex.Simplify
import Phrasebook.Unicode.Folding

/-!
# What a written expression means

Flags say from some place on whether case counts, what a dot and the line assertions mean, whether repetitions are lazy,
and whether characters are those of Unicode. Without Unicode a set stands for bytes, of which only those of ASCII
characters are allowed, so that every match is a text.
-/

namespace Phrasebook.Regex

open Unicode

/-- How an expression is understood from some place on. -/
structure Flags where
  ignoreCase : Bool
  multiLine : Bool
  dotAll : Bool
  swapGreed : Bool
  unicode : Bool
  crlf : Bool
  deriving DecidableEq, Repr

/-- The flags at the start of an expression. -/
def Flags.initial : Flags := ⟨false, false, false, false, true, false⟩

/-- The flags with one of them set or cleared. -/
def Flags.with (f : Flags) (change : Flag × Bool) : Flags :=
  match change.1 with
  | .ignoreCase => { f with ignoreCase := change.2 }
  | .multiLine => { f with multiLine := change.2 }
  | .dotAll => { f with dotAll := change.2 }
  | .swapGreed => { f with swapGreed := change.2 }
  | .unicode => { f with unicode := change.2 }
  | .crlf => { f with crlf := change.2 }
  | .extended => f

/-- The flags after changes. -/
def Flags.withAll (f : Flags) (changes : FlagChanges) : Flags := changes.foldl Flags.with f

/-! ## Sets -/

/-- The set of one character. -/
def single (c : Char) : CharSet := [(c.toNat, c.toNat)]

/-- A set closed under case if case is ignored. -/
def Flags.fold (f : Flags) (set : CharSet) : CharSet :=
  if f.ignoreCase then (if f.unicode then foldCase set else foldAsciiCase set) else set

/-- A set or its complement; without Unicode a complement would hold bytes that are no characters. -/
def Flags.negate? (f : Flags) (negated : Bool) (set : CharSet) : Option CharSet :=
  if negated then (if f.unicode then some set.compl else none) else some set

/-- The characters of a class named by a letter. -/
def LetterClass.set : LetterClass → CharSet
  | .digit => Category.decimalNumber
  | .blank => Property.whiteSpace
  | .word => wordRanges

/-- The set of a class named by a letter. -/
def Flags.letterClass? (f : Flags) (kind : LetterClass) (negated : Bool) : Option CharSet :=
  f.negate? negated (if f.unicode then kind.set else kind.set.ascii)

/-- The set of a property. -/
def Flags.property? (f : Flags) (name : PropertyName) (negated : Bool) : Option CharSet := do
  if f.unicode then
    let set ← name.set?
    f.negate? (negated != name.differs) (f.fold set)
  else none

/-- The set that an operator makes of two. -/
def SetOperator.apply (op : SetOperator) (left right : CharSet) : CharSet :=
  match op with
  | .intersection => left.inter right
  | .difference => left.diff right
  | .symmetricDifference => left.symmDiff right

mutual

/-- The set that is written in brackets. -/
def WrittenSet.set? (f : Flags) : WrittenSet → Option CharSet
  | .nothing => some []
  | .char c => if f.unicode || c.toNat < 0x80 then some (single c) else none
  | .range first last => if f.unicode || last.toNat < 0x80 then some [(first.toNat, last.toNat)] else none
  | .ascii set negated => f.negate? negated (f.fold set)
  | .letterClass kind negated => f.letterClass? kind negated
  | .property name negated => f.property? name negated
  | .bracket negated inside => do f.negate? negated (f.fold (← inside.set? f))
  | .union items => WrittenSet.union? f items
  | .operation op left right => do return op.apply (f.fold (← left.set? f)) (f.fold (← right.set? f))

/-- The union of several sets. -/
def WrittenSet.union? (f : Flags) : List WrittenSet → Option CharSet
  | [] => some []
  | item :: rest => do return Ranges.union (← item.set? f) (← WrittenSet.union? f rest)

end

/-! ## Expressions -/

/-- One given character. Without Unicode only the case of ASCII letters can be ignored, and a byte must be ASCII. -/
def Flags.char? (f : Flags) (c : Char) (isByte : Bool) : Option Regex :=
  if f.unicode then some (ofSet (f.fold (single c)))
  else if isByte && 0x80 ≤ c.toNat then none
  else some (ofSet (f.fold (single c)))

/-- Any character, or any but the ends of lines. -/
def Flags.dot? (f : Flags) : Option Regex :=
  if !f.unicode then none
  else if f.dotAll then some (.oneOf [(0, lastCodePoint)])
  else if f.crlf then some (.oneOf [(0, 9), (11, 12), (14, lastCodePoint)])
  else some (.oneOf [(0, 9), (11, lastCodePoint)])

mutual

/-- The expression that is meant, and the flags for what follows. -/
def Written.meaning? (f : Flags) : Written → Option (Regex × Flags)
  | .nothing => some (.empty, f)
  | .char c isByte => do return (← f.char? c isByte, f)
  | .dot => do return (← f.dot?, f)
  | .textStart => some (.assertion .textStart, f)
  | .textEnd => some (.assertion .textEnd, f)
  | .lineStart => some (.assertion (if f.multiLine then .lineStart f.crlf else .textStart), f)
  | .lineEnd => some (.assertion (if f.multiLine then .lineEnd f.crlf else .textEnd), f)
  | .word kind => some (.assertion (.word kind f.unicode), f)
  | .letterClass kind negated => do return (ofSet (← f.letterClass? kind negated), f)
  | .property name negated => do return (ofSet (← f.property? name negated), f)
  | .bracket negated inside => do return (ofSet (← f.negate? negated (f.fold (← inside.set? f))), f)
  | .flags changes => some (.empty, f.withAll changes)
  | .group index inside => do
    let (r, _) ← inside.meaning? f
    return (.group index r, f)
  | .scope changes inside => do
    let (r, _) ← inside.meaning? (f.withAll changes)
    return (r, f)
  | .repetition least most lazily inside => do
    let (r, _) ← inside.meaning? f
    return (repeated least most (lazily != f.swapGreed) r, f)
  | .sequence items => do
    let (rs, g) ← Written.meanings? f items
    return (concat rs, g)
  | .alternatives branches => do
    let (rs, g) ← Written.meanings? f branches
    return (alternation rs, g)

/-- The expressions that are meant one after another. -/
def Written.meanings? (f : Flags) : List Written → Option (List Regex × Flags)
  | [] => some ([], f)
  | item :: rest => do
    let (r, g) ← item.meaning? f
    let (rs, g) ← Written.meanings? g rest
    return (r :: rs, g)

end

end Phrasebook.Regex
