import Phrasebook.Proofs.Regex.FirstMatch
import Phrasebook.Proofs.Regex.Footprint
import Phrasebook.Source.Scan

/-!
# The rules used where none are configured

What the standard patterns mean as expressions, part by part. They are read as written, they fit, and each has a group; so they
compile to these rules (`compileAll_standard`). Whatever they repeat consumes characters, so their searches find the preferred
matches (`sound_matcher`).
-/

namespace Phrasebook.Standard

open Regex Unicode

/-! ## Parts -/

/-- Any white space, or none. -/
def blanks : Regex := .repetition 0 none false (.oneOf Property.whiteSpace)

/-- What a dot stands for. -/
def notLineFeed : CharSet := [(0, 9), (11, lastCodePoint)]

/-- All characters but one that is not the first and not next to the surrogates. -/
def allBut (c : Char) : CharSet := [(0, c.toNat - 1), (c.toNat + 1, lastCodePoint)]

/-- The characters between apostrophes that stand for themselves. -/
def notQuoted : CharSet := [(0, 38), (40, 91), (93, lastCodePoint)]

/-- Word characters and the dot. -/
def wordOrDot : CharSet := Ranges.union wordRanges [(46, 46)]

/-- An object as a value of a tag, with its inside as the second group. -/
def values : Regex := sequenceOf [
  blanks, .text "values=\x7b".toList, blanks, .text ['{'], blanks, .group 2 (.repetition 1 none true (.oneOf (allBut '{'))), blanks,
  .text ['}'], blanks, .text ['}']]

/-! ## Expressions -/

/-- A call with a descriptor. -/
def descriptorCall (name : String) : Regex := sequenceOf [
  .assertion (.word .boundary true), .text (name ++ "(").toList, blanks,
  .group 1 (sequenceOf [.text ['{'], .repetition 1 none true (.oneOf notLineFeed), .text ['}']]), blanks,
  .oneOf [(41, 41), (44, 44)]]

/-- A short call with an id. -/
def idCall : Regex := sequenceOf [
  .assertion (.word .boundary true), .text "__(".toList, blanks, .text ['\''],
  .group 1 (.repetition 0 none false (.alternatives (.oneOf notQuoted) (sequenceOf [.text ['\\'], .oneOf notLineFeed]))),
  .text ['\''], blanks, .text [')']]

/-- A tag with an id and perhaps values. -/
def tag : Regex := sequenceOf [
  .text "<FormattedMessage".toList, .repetition 1 none false (.oneOf Property.whiteSpace), .text "id=\"".toList,
  .group 1 (.repetition 1 none false (.oneOf (allBut '"'))), .text ['"'], .repetition 0 (some 1) false values, blanks,
  .text "/>".toList]

/-- An error with a code and an id, up to the last closing parenthesis of the line. -/
def error : Regex := sequenceOf [
  .text "Meteor.Error(".toList, .repetition 1 none false (.oneOf Category.decimalNumber), .text [','],
  .repetition 0 (some 1) false (.oneOf Property.whiteSpace), .text ['\''],
  .group 1 (.repetition 1 none false (.oneOf wordOrDot)), .text ['\''], .repetition 0 none false (.oneOf notLineFeed),
  .text [')']]

/-- The expressions of the standard patterns. -/
def regexes : List Regex := [descriptorCall "formatMessage", descriptorCall "__", idCall, tag, error]

/-- The standard rules. -/
def rules : List Rule := [
  ⟨(descriptorCall "formatMessage").matcher, .descriptor⟩, ⟨(descriptorCall "__").matcher, .descriptor⟩, ⟨idCall.matcher, .id⟩,
  ⟨tag.matcher, .id⟩, ⟨error.matcher, .id⟩]

/-! ## Compilation -/

theorem read?_of_meaning {text : String} {r : Regex}
    (h : ((readWritten? text).bind (·.meaning? .initial)).map Prod.fst = some r) (hfits : r.fits = true) :
    read? text = some r := by
  obtain ⟨⟨r', flags⟩, hmeaning, rfl⟩ := Option.map_eq_some_iff.mp h
  obtain ⟨w, hw, hmeaning⟩ := Option.bind_eq_some_iff.mp hmeaning
  rw [read?, hw]
  simp only [Option.bind_eq_bind, Option.bind_some, hmeaning]
  exact if_pos hfits

/-- What is checked of the standard expressions: the patterns mean them, their footprints are within the limit, and the set of word
characters and the dot is known for ASCII characters. The three share the set. -/
theorem standard_checked :
    Pattern.standard.map (fun p => ((readWritten? p.regex).bind (·.meaning? .initial)).map Prod.fst) = regexes.map some ∧
    regexes.all (fun r => r.isMixed && decide (r.footprint + 208 ≤ Size.limit)) = true ∧
    ∀ n < 128, wordOrDot.has n = ((Char.ofNat n).isAlphanum || n == 95 || n == 46) := by
  decide +kernel

theorem fits_regexes : ∀ r ∈ regexes, r.fits = true := by
  intro r hr
  obtain ⟨hmixed, hle⟩ := Bool.and_eq_true_iff.mp (List.all_eq_true.mp standard_checked.2.1 r hr)
  exact fits_of_footprint_le hmixed (of_decide_eq_true hle)

theorem compile_of_read {p : Pattern} {r : Regex} (h : read? p.regex = some r) (hgroup : r.groupCount ≠ 0) :
    p.compile = .ok ⟨r.matcher, p.kind⟩ := by
  rw [Pattern.compile, h]
  exact if_neg hgroup

/-- The standard patterns compile to the standard rules. -/
theorem compileAll_standard : Pattern.compileAll Pattern.standard = .ok rules := by
  have hmeanings := standard_checked.1
  obtain ⟨hfits₁, hfits₂, hfits₃, hfits₄, hfits₅, -⟩ := by simpa only [regexes, List.forall_mem_cons] using fits_regexes
  simp only [Pattern.standard, regexes, List.map_cons, List.map_nil, List.cons.injEq, and_true] at hmeanings
  obtain ⟨h₁, h₂, h₃, h₄, h₅⟩ := hmeanings
  have hcompile : ∀ {text : String} {kind : CaptureKind} {r : Regex},
      ((readWritten? text).bind (·.meaning? .initial)).map Prod.fst = some r → r.fits = true → r.groupCount ≠ 0 →
      Pattern.compile ⟨text, kind⟩ = .ok ⟨r.matcher, kind⟩ := fun h hfits hgroup => compile_of_read (read?_of_meaning h hfits) hgroup
  rw [Pattern.compileAll, Pattern.standard]
  simp only [List.mapM_cons, List.mapM_nil, hcompile h₁ hfits₁ (by decide), hcompile h₂ hfits₂ (by decide),
    hcompile h₃ hfits₃ (by decide), hcompile h₄ hfits₄ (by decide), hcompile h₅ hfits₅ (by decide)]
  rfl

/-- The searches of the standard rules find the preferred matches. -/
theorem sound_rules : ∀ r ∈ regexes, r.matcher.Sound :=
  have hprogresses : regexes.all (·.matcher.plan.progresses) = true := by decide
  fun r hr => sound_matcher r (List.all_eq_true.mp hprogresses r hr)

/-- No standard rule has an empty match. -/
theorem consumes_rules : ∀ r ∈ regexes, r.matcher.plan.consumes = true := by
  have hconsumes : regexes.all (·.matcher.plan.consumes) = true := by decide
  exact List.all_eq_true.mp hconsumes

/-- Which of the ASCII characters are word characters or the dot. -/
theorem has_wordOrDot : ∀ n < 128, wordOrDot.has n = ((Char.ofNat n).isAlphanum || n == 95 || n == 46) := standard_checked.2.2

end Phrasebook.Standard
