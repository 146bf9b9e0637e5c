import Mathlib.Data.List.Infix
import Phrasebook.Message.Format
import Phrasebook.Proofs.Message.Reading

/-!
# Messages without braces

A message without braces is text all through, and of the marks of the message language only the apostrophe is left: two in
a row are one (`undouble`). So it is formatted whatever the locale and the values are (`format_of_noBrace`), and it comes out
as it is exactly if no two apostrophes are adjacent (`undouble_eq_self_iff`).
-/

namespace Phrasebook.Message

variable {s : List Char}

/-- The text has no braces. -/
def NoBrace (s : List Char) : Prop := '{' ∉ s ∧ '}' ∉ s

/-- The text has neither braces nor apostrophes, so it stands for itself wherever text may stand in a message. -/
def IsPlain (s : List Char) : Prop := ∀ c ∈ s, c ≠ '{' ∧ c ≠ '}' ∧ c ≠ '\''

instance (s : List Char) : Decidable (NoBrace s) := inferInstanceAs (Decidable (_ ∧ _))

instance (s : List Char) : Decidable (IsPlain s) := List.decidableBAll _ s

/-- Plain text has no braces. -/
theorem IsPlain.noBrace (h : IsPlain s) : NoBrace s :=
  ⟨fun hc => (h _ hc).1 rfl, fun hc => (h _ hc).2.1 rfl⟩

/-- Two plain texts side by side are plain. -/
theorem IsPlain.append {t : List Char} (hs : IsPlain s) (ht : IsPlain t) : IsPlain (s ++ t) := by
  intro c hc
  rcases List.mem_append.mp hc with hc | hc
  · exact hs c hc
  · exact ht c hc

/-- What follows the first character of a text without braces has none either. -/
theorem NoBrace.of_cons {c : Char} (h : NoBrace (c :: s)) : NoBrace s :=
  ⟨fun hc => h.1 (List.mem_cons_of_mem c hc), fun hc => h.2 (List.mem_cons_of_mem c hc)⟩

/-- Outside plurals only braces are marks. -/
theorem NoBrace.isMark {c : Char} (h : NoBrace (c :: s)) : isMark false c = false := by
  have hopen : c ≠ '{' := fun hc => h.1 (by simp [hc])
  have hclose : c ≠ '}' := fun hc => h.2 (by simp [hc])
  simp [Message.isMark, hopen, hclose]

/-! ## Apostrophes -/

/-- The text with every two adjacent apostrophes made one, from the left. -/
def undouble : List Char → List Char
  | '\'' :: '\'' :: rest => '\'' :: undouble rest
  | c :: rest => c :: undouble rest
  | [] => []

/-- Reading pairs of apostrophes as one makes no text longer. -/
theorem length_undouble_le (s : List Char) : (undouble s).length ≤ s.length := by
  fun_induction undouble s with
  | case1 rest ih => simp only [List.length_cons]; omega
  | case2 c rest _ ih => simp only [List.length_cons]; omega
  | case3 => exact Nat.le_refl _

/-- A text stays as it is exactly if no two of its apostrophes are adjacent. -/
theorem undouble_eq_self_iff : undouble s = s ↔ ¬['\'', '\''] <:+: s := by
  fun_induction undouble s with
  | case1 rest ih =>
    constructor
    · intro h
      have hlength := congrArg List.length h
      have hle := length_undouble_le rest
      simp only [List.length_cons] at hlength
      omega
    · intro h
      exact absurd (List.prefix_append _ rest).isInfix h
  | case2 c rest hne ih =>
    rw [List.cons_inj_right, ih, List.infix_cons_iff, not_or]
    constructor
    · intro h
      refine ⟨?_, h⟩
      rintro ⟨t, ht⟩
      obtain ⟨rfl, rfl⟩ := List.cons.inj ht
      exact hne t rfl rfl
    · exact And.right
  | case3 =>
    constructor
    · intro _ h
      cases List.infix_nil.mp h
    · intro _
      rfl

/-- Plain text has no apostrophes to make one. -/
theorem undouble_of_isPlain (h : IsPlain s) : undouble s = s := by
  rw [undouble_eq_self_iff]
  intro htwo
  exact (h '\'' (htwo.subset List.mem_cons_self)).2.2 rfl

/-! ## Reading and formatting -/

/-- A message is formatted exactly if it is read and its tree is rendered. -/
theorem format_eq_ok_iff {message locale result : String} {values : Variables} :
    Formatter.standard.format message locale values = .ok result ↔
      ∃ nodes, read message = .ok nodes ∧ renderNodes locale values none nodes = .ok result := by
  simp only [Formatter.standard]
  cases read message with
  | error e =>
    constructor
    · intro h
      cases h
    · rintro ⟨_, h, -⟩
      cases h
  | ok nodes =>
    constructor
    · intro h
      exact ⟨nodes, rfl, h⟩
    · rintro ⟨nodes', hread, hrender⟩
      rwa [← Except.ok.inj hread] at hrender

/-- Without braces, all of a message is read as text. -/
theorem readText_of_noBrace (h : NoBrace s) : readText false .off s = (undouble s, []) := by
  fun_induction undouble s with
  | case1 rest ih => simp [readText, h.isMark, consRead, ih h.of_cons.of_cons]
  | case2 c rest hne ih =>
    have hrest := ih h.of_cons
    by_cases hc : c = '\''
    · subst hc
      cases rest with
      | nil => simp [readText, h.isMark, undouble]
      | cons d rest =>
        -- after a single apostrophe the next character is read as any other
        have hd : d ≠ '\'' := fun hd => hne rest rfl (by rw [hd])
        have hmark := h.of_cons.isMark
        have hoff : readText false .off (d :: rest) = consRead d (readText false .off rest) := by
          simp [readText, hd, hmark]
        have hmaybe : readText false .off ('\'' :: d :: rest) = consRead '\'' (consRead d (readText false .off rest)) := by
          simp [readText, hd, hmark, h.isMark]
        rw [hmaybe, ← hoff, hrest, consRead]
    · have hoff : readText false .off (c :: rest) = consRead c (readText false .off rest) := by
        simp [readText, hc, h.isMark]
      rw [hoff, hrest, consRead]
  | case3 => rfl

/-- Without braces, all of a message is one text, if it is not empty. -/
theorem read_of_noBrace (h : NoBrace s) : read (String.ofList s) = .ok (consText (undouble s) []) := by
  rw [read_eq_ok_iff, String.toList_ofList]
  have htext := readText_of_noBrace h
  have hend : Reads (.nodes .off false false []) (readText false .off s).2 [] [] := by
    rw [htext]
    exact .done
  obtain ⟨places, hreads⟩ := reads_of_readText .off s (show NotText [] from trivial) hend
  rw [htext] at hreads
  exact ⟨places, hreads⟩

/-- Without braces, a message is formatted in every locale and with all values, and only doubled apostrophes change. -/
theorem format_of_noBrace (h : NoBrace s) (locale : String) (values : Variables) :
    Formatter.standard.format (String.ofList s) locale values = .ok (String.ofList (undouble s)) := by
  simp only [Formatter.standard, read_of_noBrace h]
  cases undouble s with
  | nil => rfl
  | cons c t =>
    rw [show String.ofList (c :: t) = String.ofList (c :: t) ++ "" from String.append_empty.symm]
    rfl

end Phrasebook.Message
