import Mathlib.Data.List.Infix
import Phrasebook.Proofs.Regex.FirstMatch

/-!
# Ends in a text

Where the parts of an expression end that begins at a place of a text, said by the characters that stand there. Every end is a place
of the same text (`exists_placeAt_of_mem_ends`), and a text that a plan writes stands in what it passes (`infix_of_mem_ends`).
-/

namespace Phrasebook.Regex

variable {s chars t : List Char} {i j k n : Nat} {groups : List (Nat × Nat × Nat)} {plan first second : Plan} {p q : Place}
  {set : CharSet} {lazily : Bool} {c : Char}

/-! ## What stands at a place -/

/-- Where a text stands, its characters stand one after the other. -/
theorem getElem?_of_drop (h : t <+: s.drop k) (hn : n < t.length) : s[k + n]? = t[n]? := by
  rw [← List.getElem?_drop]
  exact (List.prefix_iff_getElem?.mp h n hn).trans (List.getElem?_eq_getElem hn).symm

/-- Each place in it has one of its characters. -/
theorem mem_of_drop (h : t <+: s.drop k) (hkj : k ≤ j) (hj : j < k + t.length) (hc : s[j]? = some c) : c ∈ t := by
  obtain ⟨n, rfl⟩ := Nat.exists_eq_add_of_le hkj
  exact List.mem_of_getElem? ((getElem?_of_drop h (by omega)).symm.trans hc)

/-- One text and then another stand at a place if the second stands where the first ends. -/
theorem append_drop_iff {u : List Char} : t ++ u <+: s.drop k ↔ t <+: s.drop k ∧ u <+: s.drop (k + t.length) := by
  rw [← List.drop_drop]
  constructor
  · rintro ⟨v, hv⟩
    rw [← hv, List.append_assoc, List.drop_left]
    exact ⟨List.prefix_append .., List.prefix_append ..⟩
  · rintro ⟨⟨v, hv⟩, hu⟩
    rw [← hv, List.drop_left] at hu
    rw [← hv]
    exact List.prefix_append_right_inj _ |>.mpr hu

/-- Of three texts in a row each stands behind the ones before. -/
theorem parts_of_drop {u v : List Char} (h : t ++ u ++ v <+: s.drop k) :
    t <+: s.drop k ∧ u <+: s.drop (k + t.length) ∧ v <+: s.drop (k + t.length + u.length) := by
  rwa [List.append_assoc, append_drop_iff, append_drop_iff] at h

/-- A text that is not empty stands inside of what it stands in. -/
theorem le_length_of_drop (h : t <+: s.drop k) (ht : t ≠ []) : k ≤ s.length := by
  have hle := h.length_le
  have hpos := List.length_pos_iff.mpr ht
  rw [List.length_drop] at hle
  omega

/-- What stands behind a text. -/
theorem drop_of_drop {u : List Char} (h : s.drop k = t ++ u) : s.drop (k + t.length) = u := by
  rw [← List.drop_drop, h, List.drop_left]

/-- What is cut out where a text stands is the text. -/
theorem slice_of_drop (h : t <+: s.drop k) : slice s k (k + t.length) = t := by
  rw [slice, Nat.add_sub_cancel_left]
  exact (List.prefix_iff_eq_take.mp h).symm

/-! ## Parts -/

/-- A text ends behind itself, where it stands. -/
theorem mem_ends_text_iff : q ∈ (Plan.text chars).ends (placeAt s i groups) ↔
    chars <+: s.drop i ∧ q = placeAt s (i + chars.length) groups := by
  rw [Plan.ends, Option.mem_toList, passText?_placeAt_eq_some_iff]

/-- A single character ends one place further on. -/
theorem mem_ends_char_iff : q ∈ (Plan.text [c]).ends (placeAt s i groups) ↔ s[i]? = some c ∧ q = placeAt s (i + 1) groups := by
  have hsingle : [c] <+: s.drop i ↔ s[i]? = some c := by
    rw [← List.head?_drop]
    cases s.drop i <;> simp [List.cons_prefix_cons, eq_comm]
  rw [mem_ends_text_iff, hsingle]
  rfl

/-- So does any character of a set. -/
theorem mem_ends_oneOf_iff : q ∈ (Plan.oneOf set).ends (placeAt s i groups) ↔
    ∃ c, s[i]? = some c ∧ set.has c.toNat = true ∧ q = placeAt s (i + 1) groups := by
  rw [Plan.ends, Option.mem_toList, passOneOf?_placeAt_eq_some_iff]

/-- An assertion looks at the characters on both sides and passes none. -/
theorem mem_ends_assertion_iff {a : Assertion} : q ∈ (Plan.assertion a).ends (placeAt s i groups) ↔
    a.holds (s.take i).getLast? s[i]? = true ∧ q = placeAt s i groups := by
  rw [Plan.ends, Option.mem_toList, passAssertion?_placeAt_eq_some_iff]

/-- A sequence ends where its second part does, begun at an end of the first. -/
theorem mem_ends_sequence_iff : q ∈ (Plan.sequence first second).ends p ↔ ∃ r ∈ first.ends p, q ∈ second.ends r :=
  List.mem_flatMap

/-- A choice has the ends of both alternatives; which come first is another matter. -/
theorem mem_ends_choice_iff : q ∈ (Plan.choice n first second).ends p ↔ q ∈ first.ends p ∨ q ∈ second.ends p :=
  List.mem_append

/-- A group ends where its inside does, and notes where it began. -/
theorem mem_ends_group_iff {index : Nat} : q ∈ (Plan.group index plan).ends (placeAt s i groups) ↔
    ∃ r ∈ plan.ends (placeAt s i groups), q = r.close index i := by
  rw [Plan.ends, List.mem_map]
  simp only [eq_comm]
  rfl

/-! ## Runs -/

/-- The characters from one place to another are all of a set. -/
def Run (s : List Char) (set : CharSet) (i j : Nat) : Prop :=
  i ≤ j ∧ ∀ k, i ≤ k → k < j → ∃ c, s[k]? = some c ∧ set.has c.toNat = true

/-- Nothing is a run of any set. -/
theorem Run.refl (s : List Char) (set : CharSet) (i : Nat) : Run s set i i :=
  ⟨Nat.le_refl i, fun _ hi hj => absurd hj (Nat.not_lt.mpr hi)⟩

/-- A text of characters of the set is a run. -/
theorem run_of_drop (h : t <+: s.drop k) (hset : ∀ c ∈ t, set.has c.toNat = true) : Run s set k (k + t.length) := by
  refine ⟨Nat.le_add_right _ _, fun j hkj hj => ?_⟩
  obtain ⟨n, rfl⟩ := Nat.exists_eq_add_of_le hkj
  have hn : n < t.length := by omega
  exact ⟨t[n], (getElem?_of_drop h hn).trans (List.getElem?_eq_getElem hn), hset _ (List.getElem_mem hn)⟩

/-- A run is a character of the set and a run behind it. -/
theorem run_cons_iff (hij : i < j) : Run s set i j ↔ (∃ c, s[i]? = some c ∧ set.has c.toNat = true) ∧ Run s set (i + 1) j := by
  constructor
  · rintro ⟨-, h⟩
    exact ⟨h i (Nat.le_refl i) hij, hij, fun k hk => h k (Nat.le_of_succ_le hk)⟩
  · rintro ⟨hc, -, h⟩
    refine ⟨Nat.le_of_lt hij, fun k hk hkj => ?_⟩
    rcases hk.eq_or_lt with rfl | hk
    · exact hc
    · exact h k hk hkj

/-- A run does not pass a character outside of its set. -/
theorem Run.le_of_not_has (h : Run s set i j) (hc : s[k]? = some c) (hset : set.has c.toNat = false) (hik : i ≤ k) : j ≤ k := by
  by_contra hlt
  obtain ⟨d, hd, hhas⟩ := h.2 k hik (Nat.lt_of_not_le hlt)
  obtain rfl := Option.some.inj (hc.symm.trans hd)
  rw [hset] at hhas
  cases hhas

/-- A run that ends before a character outside of its set ends where such a character follows on characters of the set. -/
theorem Run.eq_of_text (h : Run s set i j) (ht : t <+: s.drop i) (hset : ∀ c ∈ t, set.has c.toNat = true)
    (hc : s[i + t.length]? = some c) (hout : set.has c.toNat = false) (hj : s[j]? = some c) : j = i + t.length := by
  refine Nat.le_antisymm (h.le_of_not_has hc hout (Nat.le_add_right ..)) ?_
  by_contra hlt
  have hin := hset c (mem_of_drop ht h.1 (Nat.lt_of_not_le hlt) hj)
  rw [hout] at hin
  cases hin

/-- Where a plan ends whatever the groups, a loop of it ends after any number of such steps. -/
theorem mem_ends_loop_placeAt_iff {R : Nat → Nat → Prop} (hconsumes : plan.consumes = true)
    (h : ∀ i q, q ∈ plan.ends (placeAt s i groups) ↔ ∃ j, R i j ∧ q = placeAt s j groups) :
    q ∈ (Plan.loop n lazily plan).ends (placeAt s i groups) ↔ ∃ j, Relation.ReflTransGen R i j ∧ q = placeAt s j groups := by
  rw [mem_ends_loop_iff hconsumes]
  constructor
  · intro hsteps
    induction hsteps with
    | refl => exact ⟨i, .refl, rfl⟩
    | tail _ hlast ih =>
      obtain ⟨j, hij, rfl⟩ := ih
      obtain ⟨k, hjk, rfl⟩ := (h j _).mp hlast
      exact ⟨k, hij.tail hjk, rfl⟩
  · rintro ⟨j, hsteps, rfl⟩
    induction hsteps with
    | refl => exact .refl
    | @tail j k _ hlast ih => exact ih.tail ((h j _).mpr ⟨k, hlast, rfl⟩)

/-- So runs are made of steps of one character. -/
theorem run_iff_steps : Run s set i j ↔
    Relation.ReflTransGen (fun i j => (∃ c, s[i]? = some c ∧ set.has c.toNat = true) ∧ j = i + 1) i j := by
  constructor
  · rintro ⟨hij, hrun⟩
    induction hij with
    | refl => exact .refl
    | @step j hij ih =>
      exact (ih fun k hk hkj => hrun k hk (Nat.lt_succ_of_lt hkj)).tail ⟨hrun j hij (Nat.lt_succ_self j), rfl⟩
  · intro hsteps
    induction hsteps using Relation.ReflTransGen.head_induction_on with
    | refl => exact .refl s set j
    | head hfirst _ ih =>
      obtain ⟨hc, rfl⟩ := hfirst
      exact (run_cons_iff ih.1).mpr ⟨hc, ih⟩

/-- A loop of a set ends behind any run. -/
theorem mem_ends_loop_oneOf_iff : q ∈ (Plan.loop n lazily (.oneOf set)).ends (placeAt s i groups) ↔
    ∃ j, Run s set i j ∧ q = placeAt s j groups := by
  simp only [run_iff_steps]
  refine mem_ends_loop_placeAt_iff rfl fun i q => mem_ends_oneOf_iff.trans ⟨?_, ?_⟩
  · rintro ⟨c, hc, hset, rfl⟩
    exact ⟨i + 1, ⟨⟨c, hc, hset⟩, rfl⟩, rfl⟩
  · rintro ⟨j, ⟨⟨c, hc, hset⟩, rfl⟩, rfl⟩
    exact ⟨c, hc, hset, rfl⟩

/-- A part of a set and any repetitions end behind any run that is not empty. -/
theorem mem_ends_repeated_oneOf_iff : q ∈ (Plan.repeated n lazily (.oneOf set)).ends (placeAt s i groups) ↔
    ∃ j, (i < j ∧ Run s set i j) ∧ q = placeAt s j groups := by
  rw [Plan.repeated, mem_ends_sequence_iff]
  constructor
  · rintro ⟨r, hr, hq⟩
    obtain ⟨c, hc, hset, rfl⟩ := mem_ends_oneOf_iff.mp hr
    obtain ⟨j, hrun, rfl⟩ := mem_ends_loop_oneOf_iff.mp hq
    exact ⟨j, ⟨hrun.1, (run_cons_iff hrun.1).mpr ⟨⟨c, hc, hset⟩, hrun⟩⟩, rfl⟩
  · rintro ⟨j, ⟨hij, hrun⟩, rfl⟩
    obtain ⟨⟨c, hc, hset⟩, hrun⟩ := (run_cons_iff hij).mp hrun
    exact ⟨_, mem_ends_oneOf_iff.mpr ⟨c, hc, hset, rfl⟩, mem_ends_loop_oneOf_iff.mpr ⟨j, hrun, rfl⟩⟩

/-! ## Sequences

Each part of a sequence tells where the next one begins. -/

section Sequences

variable {rest : Plan}

/-- What comes behind a text is tried where the text ends. -/
theorem mem_ends_text_then_iff : q ∈ (Plan.sequence (.text chars) rest).ends (placeAt s i groups) ↔
    chars <+: s.drop i ∧ q ∈ rest.ends (placeAt s (i + chars.length) groups) := by
  simp only [mem_ends_sequence_iff, mem_ends_text_iff, and_assoc, exists_and_left, exists_eq_left]

/-- The same for a single character. -/
theorem mem_ends_char_then_iff : q ∈ (Plan.sequence (.text [c]) rest).ends (placeAt s i groups) ↔
    s[i]? = some c ∧ q ∈ rest.ends (placeAt s (i + 1) groups) := by
  simp only [mem_ends_sequence_iff, mem_ends_char_iff, and_assoc, exists_and_left, exists_eq_left]

/-- What comes behind an assertion is tried at the same place. -/
theorem mem_ends_assertion_then_iff {a : Assertion} : q ∈ (Plan.sequence (.assertion a) rest).ends (placeAt s i groups) ↔
    a.holds (s.take i).getLast? s[i]? = true ∧ q ∈ rest.ends (placeAt s i groups) := by
  simp only [mem_ends_sequence_iff, mem_ends_assertion_iff, and_assoc, exists_and_left, exists_eq_left]

/-- Where a part ends behind all that `R` relates to its beginning, the next part begins there. -/
theorem mem_ends_then_iff {R : Nat → Prop}
    (h : ∀ q, q ∈ plan.ends (placeAt s i groups) ↔ ∃ j, R j ∧ q = placeAt s j groups) :
    q ∈ (Plan.sequence plan rest).ends (placeAt s i groups) ↔ ∃ j, R j ∧ q ∈ rest.ends (placeAt s j groups) := by
  simp only [mem_ends_sequence_iff, h]
  constructor
  · rintro ⟨_, ⟨j, hj, rfl⟩, hq⟩
    exact ⟨j, hj, hq⟩
  · rintro ⟨j, hj, hq⟩
    exact ⟨_, ⟨j, hj, rfl⟩, hq⟩

/-- What comes behind a loop may be tried behind every run, also an empty one. -/
theorem mem_ends_loop_then_iff : q ∈ (Plan.sequence (.loop n lazily (.oneOf set)) rest).ends (placeAt s i groups) ↔
    ∃ j, Run s set i j ∧ q ∈ rest.ends (placeAt s j groups) :=
  mem_ends_then_iff fun _ => mem_ends_loop_oneOf_iff

/-- Behind a repetition with at least one turn the run is not empty. -/
theorem mem_ends_repeated_then_iff : q ∈ (Plan.sequence (.repeated n lazily (.oneOf set)) rest).ends (placeAt s i groups) ↔
    ∃ j, (i < j ∧ Run s set i j) ∧ q ∈ rest.ends (placeAt s j groups) :=
  mem_ends_then_iff fun _ => mem_ends_repeated_oneOf_iff

/-- Where the inside of a group ends behind all that `R` relates to its beginning, the next part begins there with the group. -/
theorem mem_ends_group_then_iff {index : Nat} {R : Nat → Prop}
    (h : ∀ q, q ∈ plan.ends (placeAt s i groups) ↔ ∃ j, R j ∧ q = placeAt s j groups) :
    q ∈ (Plan.sequence (.group index plan) rest).ends (placeAt s i groups) ↔
      ∃ j, R j ∧ q ∈ rest.ends (placeAt s j ((index, i, j) :: groups)) := by
  simp only [mem_ends_sequence_iff, mem_ends_group_iff, h]
  constructor
  · rintro ⟨_, ⟨_, ⟨j, hj, rfl⟩, rfl⟩, hq⟩
    exact ⟨j, hj, hq⟩
  · rintro ⟨j, hj, hq⟩
    exact ⟨_, ⟨_, ⟨j, hj, rfl⟩, rfl⟩, hq⟩

/-- An optional part is either there or not. -/
theorem mem_ends_optional_then_iff {inside : Plan} : q ∈ (Plan.sequence (.choice n inside .done) rest).ends (placeAt s i groups) ↔
    q ∈ (Plan.sequence inside rest).ends (placeAt s i groups) ∨ q ∈ rest.ends (placeAt s i groups) := by
  simp only [mem_ends_sequence_iff, mem_ends_choice_iff, or_and_right, exists_or]
  refine or_congr_right ⟨?_, fun hq => ⟨_, List.mem_singleton_self _, hq⟩⟩
  rintro ⟨r, hr, hq⟩
  rwa [← List.mem_singleton.mp hr]

end Sequences

/-! ## Preferred ends -/

/-- Where only one end of the first part goes on, the sequence prefers what the second part prefers from there. -/
theorem head?_ends_sequence (hp : p ∈ first.ends q) (honly : ∀ r ∈ first.ends q, second.ends r ≠ [] → r = p) :
    ((Plan.sequence first second).ends q).head? = (second.ends p).head? := by
  rw [Plan.ends]
  generalize first.ends q = starts at hp honly
  induction starts with
  | nil => cases hp
  | cons r starts ih =>
    obtain ⟨hr, hstarts⟩ := List.forall_mem_cons.mp honly
    rw [List.flatMap_cons]
    by_cases hnone : second.ends r = []
    · rw [hnone, List.nil_append]
      rcases List.mem_cons.mp hp with rfl | hp
      · -- nothing goes on at all
        have hnil : starts.flatMap second.ends = [] := List.flatMap_eq_nil_iff.mpr fun r' hr' => by
          by_contra hne
          exact hne (hstarts r' hr' hne ▸ hnone)
        rw [hnil, hnone]
      · exact ih hp hstarts
    · obtain rfl := hr hnone
      rw [List.head?_append]
      obtain ⟨e, he⟩ := Option.isSome_iff_exists.mp (List.isSome_head?.mpr hnone)
      rw [he, Option.some_or]

/-- Where only one end of the first part lets the second go on, the preferred end is from there. -/
theorem head?_ends_then {rest : Plan} {R : Nat → Prop}
    (h : ∀ q, q ∈ plan.ends (placeAt s i groups) ↔ ∃ j, R j ∧ q = placeAt s j groups) (hk : R k)
    (honly : ∀ j, R j → rest.ends (placeAt s j groups) ≠ [] → j = k) :
    ((Plan.sequence plan rest).ends (placeAt s i groups)).head? = (rest.ends (placeAt s k groups)).head? := by
  refine head?_ends_sequence ((h _).mpr ⟨k, hk, rfl⟩) fun r hr hne => ?_
  obtain ⟨j, hj, rfl⟩ := (h r).mp hr
  rw [honly j hj hne]

/-- A text leaves no choice. -/
theorem head?_ends_text_then {rest : Plan} (h : chars <+: s.drop i) :
    ((Plan.sequence (.text chars) rest).ends (placeAt s i groups)).head? =
      (rest.ends (placeAt s (i + chars.length) groups)).head? :=
  head?_ends_sequence (mem_ends_text_iff.mpr ⟨h, rfl⟩) fun _ hr _ => (mem_ends_text_iff.mp hr).2

/-- A single character leaves none. -/
theorem head?_ends_char_then {rest : Plan} (h : s[i]? = some c) :
    ((Plan.sequence (.text [c]) rest).ends (placeAt s i groups)).head? = (rest.ends (placeAt s (i + 1) groups)).head? :=
  head?_ends_sequence (mem_ends_char_iff.mpr ⟨h, rfl⟩) fun _ hr _ => (mem_ends_char_iff.mp hr).2

/-- A group leaves no more than its inside does. -/
theorem head?_ends_group_then {rest : Plan} {index : Nat} {R : Nat → Prop}
    (h : ∀ q, q ∈ plan.ends (placeAt s i groups) ↔ ∃ j, R j ∧ q = placeAt s j groups) (hk : R k)
    (honly : ∀ j, R j → rest.ends (placeAt s j ((index, i, j) :: groups)) ≠ [] → j = k) :
    ((Plan.sequence (.group index plan) rest).ends (placeAt s i groups)).head? =
      (rest.ends (placeAt s k ((index, i, k) :: groups))).head? := by
  refine head?_ends_sequence (mem_ends_group_iff.mpr ⟨_, (h _).mpr ⟨k, hk, rfl⟩, rfl⟩) fun r hr hne => ?_
  obtain ⟨r', hr', rfl⟩ := mem_ends_group_iff.mp hr
  obtain ⟨j, hj, rfl⟩ := (h r').mp hr'
  rw [honly j hj hne]
  rfl

/-- What begins with a character has an end only where the character stands. -/
theorem getElem?_of_ends_ne_nil {rest : Plan} (h : (Plan.sequence (.text [c]) rest).ends (placeAt s i groups) ≠ []) :
    s[i]? = some c := by
  obtain ⟨q, hq⟩ := List.exists_mem_of_ne_nil _ h
  exact (mem_ends_char_then_iff.mp hq).1

/-- Characters of a set up to a character outside of it are passed in one way. -/
theorem head?_ends_repeated_char_then {rest : Plan} (ht : t <+: s.drop i) (hne : t ≠ [])
    (hset : ∀ c ∈ t, set.has c.toNat = true) (hc : s[i + t.length]? = some c) (hout : set.has c.toNat = false) :
    ((Plan.sequence (.repeated n lazily (.oneOf set)) (.sequence (.text [c]) rest)).ends (placeAt s i groups)).head? =
      (rest.ends (placeAt s (i + t.length + 1) groups)).head? := by
  have hpos := List.length_pos_iff.mpr hne
  rw [head?_ends_then (fun _ => mem_ends_repeated_oneOf_iff) ⟨by omega, run_of_drop ht hset⟩ fun j hj hends =>
    hj.2.eq_of_text ht hset hc hout (getElem?_of_ends_ne_nil hends), head?_ends_char_then hc]

/-- The same with the characters as a group. -/
theorem head?_ends_group_repeated_char_then {rest : Plan} {index : Nat} (ht : t <+: s.drop i) (hne : t ≠ [])
    (hset : ∀ c ∈ t, set.has c.toNat = true) (hc : s[i + t.length]? = some c) (hout : set.has c.toNat = false) :
    ((Plan.sequence (.group index (.repeated n lazily (.oneOf set))) (.sequence (.text [c]) rest)).ends
      (placeAt s i groups)).head? =
        (rest.ends (placeAt s (i + t.length + 1) ((index, i, i + t.length) :: groups))).head? := by
  have hpos := List.length_pos_iff.mpr hne
  rw [head?_ends_group_then (fun _ => mem_ends_repeated_oneOf_iff) ⟨by omega, run_of_drop ht hset⟩ fun j hj hends =>
    hj.2.eq_of_text ht hset hc hout (getElem?_of_ends_ne_nil hends), head?_ends_char_then hc]

/-- A character that may stand before another is passed where it does. -/
theorem head?_ends_optional_char_then {rest : Plan} {d : Char} (hd : s[i]? = some d) (hset : set.has d.toNat = true) (hne : d ≠ c) :
    ((Plan.sequence (.choice n (.sequence (.oneOf set) .done) .done) (.sequence (.text [c]) rest)).ends
      (placeAt s i groups)).head? = ((Plan.sequence (.text [c]) rest).ends (placeAt s (i + 1) groups)).head? := by
  refine head?_ends_sequence (mem_ends_choice_iff.mpr (.inl ?_)) fun r hr hends => ?_
  · exact mem_ends_sequence_iff.mpr ⟨_, mem_ends_oneOf_iff.mpr ⟨d, hd, hset, rfl⟩, List.mem_singleton_self _⟩
  · rcases mem_ends_choice_iff.mp hr with hr | hr
    · obtain ⟨r', hr', hdone⟩ := mem_ends_sequence_iff.mp hr
      obtain ⟨_, -, -, rfl⟩ := mem_ends_oneOf_iff.mp hr'
      exact List.mem_singleton.mp hdone
    · obtain rfl := List.mem_singleton.mp hr
      exact absurd (Option.some.inj (hd.symm.trans (getElem?_of_ends_ne_nil hends))) hne

/-- A loop of a set goes on before it stops. -/
theorem ends_loop_then {rest : Plan} (hc : s[i]? = some c) (hset : set.has c.toNat = true) :
    (Plan.sequence (.loop n false (.oneOf set)) rest).ends (placeAt s i groups) =
      (Plan.sequence (.loop n false (.oneOf set)) rest).ends (placeAt s (i + 1) groups) ++ rest.ends (placeAt s i groups) := by
  have hsequence : ∀ p, (Plan.sequence (.loop n false (.oneOf set)) rest).ends p =
      ((Plan.loop n false (.oneOf set)).ends p).flatMap rest.ends := fun _ => rfl
  have hstep : (Plan.oneOf set).ends (placeAt s i groups) = [placeAt s (i + 1) groups] := by
    rw [Plan.ends, passOneOf?_placeAt_eq_some_iff.mpr ⟨c, hc, hset, rfl⟩, Option.toList_some]
  rw [hsequence, ends_loop rfl, if_neg Bool.false_ne_true, hstep, List.flatMap_singleton, List.flatMap_append,
    List.flatMap_singleton, hsequence]

/-- At the end of the text a loop of a set stops. -/
theorem ends_loop_then_length {rest : Plan} : (Plan.sequence (.loop n false (.oneOf set)) rest).ends (placeAt s s.length groups) =
    rest.ends (placeAt s s.length groups) := by
  have hsequence : (Plan.sequence (.loop n false (.oneOf set)) rest).ends (placeAt s s.length groups) =
      ((Plan.loop n false (.oneOf set)).ends (placeAt s s.length groups)).flatMap rest.ends := rfl
  have hstep : (Plan.oneOf set).ends (placeAt s s.length groups) = [] := by
    refine List.eq_nil_iff_forall_not_mem.mpr fun q hq => ?_
    obtain ⟨c, hc, -⟩ := mem_ends_oneOf_iff.mp hq
    rw [List.getElem?_eq_none (Nat.le_refl _)] at hc
    cases hc
  rw [hsequence, ends_loop rfl, if_neg Bool.false_ne_true, hstep, List.flatMap_nil, List.nil_append, List.flatMap_singleton]

/-- A loop that can go on up to the end of the text goes back to the last place where the next part has an end. -/
theorem head?_ends_loop_then {rest : Plan} (hset : ∀ c ∈ s, set.has c.toNat = true) (hij : i ≤ j) (hj : j ≤ s.length)
    (hlast : ∀ k, j < k → k ≤ s.length → rest.ends (placeAt s k groups) = [])
    (hends : (rest.ends (placeAt s j groups)).head? = some q) :
    ((Plan.sequence (.loop n false (.oneOf set)) rest).ends (placeAt s i groups)).head? = some q := by
  have hgo : ∀ k < s.length, (Plan.sequence (.loop n false (.oneOf set)) rest).ends (placeAt s k groups) = _ := fun k hk =>
    ends_loop_then (List.getElem?_eq_getElem hk) (hset _ (List.getElem_mem hk))
  have hbehind : ∀ k, j < k → k ≤ s.length →
      (Plan.sequence (.loop n false (.oneOf set)) rest).ends (placeAt s k groups) = [] := by
    intro k hjk hk
    induction hk using Nat.decreasingInduction with
    | self => rw [ends_loop_then_length, hlast _ hjk (Nat.le_refl _)]
    | of_succ k hk ih => rw [hgo k hk, ih (Nat.lt_succ_of_lt hjk), hlast k hjk hk.le, List.append_nil]
  induction hij using Nat.decreasingInduction with
  | self =>
    rcases hj.eq_or_lt with rfl | hj
    · rw [ends_loop_then_length, hends]
    · rw [hgo j hj, hbehind (j + 1) (Nat.lt_succ_self j) hj, List.nil_append, hends]
  | of_succ k hk ih => rw [hgo k (hk.trans_le hj), List.head?_append, ih, Option.some_or]

/-- Where the last character of the text follows on the loop, the match goes on to the end of the text. -/
theorem head?_ends_loop_then_last (hset : ∀ c ∈ s, set.has c.toNat = true) (hlast : s.getLast? = some c) (hi : i < s.length) :
    ((Plan.sequence (.loop n false (.oneOf set)) (.text [c])).ends (placeAt s i groups)).head? =
      some (placeAt s s.length groups) := by
  have hc : s[s.length - 1]? = some c := List.getLast?_eq_getElem? ▸ hlast
  refine head?_ends_loop_then hset (Nat.le_sub_one_of_lt hi) (Nat.sub_le ..) (fun k hk _ => ?_) ?_
  · refine List.eq_nil_iff_forall_not_mem.mpr fun r hr => ?_
    obtain ⟨hlt, -⟩ := List.getElem?_eq_some_iff.mp (mem_ends_char_iff.mp hr).1
    omega
  · have hlength : s.length = s.length - 1 + 1 := by omega
    refine head?_eq_of_forall_mem (fun r hr => ?_) (mem_ends_char_iff.mpr ⟨hc, hlength ▸ rfl⟩)
    rw [(mem_ends_char_iff.mp hr).2, ← hlength]

/-! ## All ends -/

/-- An end of a plan that begins at a place of a text is a place of the text, no earlier. -/
theorem exists_placeAt_of_mem_ends (h : q ∈ plan.ends (placeAt s i groups)) : ∃ j groups', i ≤ j ∧ q = placeAt s j groups' := by
  induction plan generalizing i groups q with
  | done => exact ⟨i, groups, Nat.le_refl i, List.mem_singleton.mp h⟩
  | text chars =>
    obtain ⟨-, rfl⟩ := mem_ends_text_iff.mp h
    exact ⟨_, groups, Nat.le_add_right _ _, rfl⟩
  | oneOf set =>
    obtain ⟨c, -, -, rfl⟩ := mem_ends_oneOf_iff.mp h
    exact ⟨_, groups, Nat.le_succ i, rfl⟩
  | assertion a => exact ⟨i, groups, Nat.le_refl i, (mem_ends_assertion_iff.mp h).2⟩
  | sequence first second ihFirst ihSecond =>
    obtain ⟨r, hr, hq⟩ := mem_ends_sequence_iff.mp h
    obtain ⟨j, groups', hij, rfl⟩ := ihFirst hr
    obtain ⟨k, groups', hjk, rfl⟩ := ihSecond hq
    exact ⟨k, groups', hij.trans hjk, rfl⟩
  | choice n first second ihFirst ihSecond => exact (mem_ends_choice_iff.mp h).elim ihFirst ihSecond
  | group index inside ih =>
    obtain ⟨r, hr, rfl⟩ := mem_ends_group_iff.mp h
    obtain ⟨j, groups', hij, rfl⟩ := ih hr
    exact ⟨j, _, hij, rfl⟩
  | loop n lazily inside ih =>
    rw [Plan.ends] at h
    generalize (placeAt s i groups).rest.length = count at h
    induction count generalizing i groups with
    | zero => exact ⟨i, groups, Nat.le_refl i, List.mem_singleton.mp h⟩
    | succ count ihCount =>
      rcases mem_loopEnds_succ.mp h with rfl | h
      · exact ⟨i, groups, Nat.le_refl i, rfl⟩
      · obtain ⟨r, hr, hq⟩ := List.mem_flatMap.mp h
        obtain ⟨j, groups', hij, rfl⟩ := ih hr
        obtain ⟨k, groups', hjk, rfl⟩ := ihCount hq
        exact ⟨k, groups', hij.trans hjk, rfl⟩

/-- Does every match of the plan hold the text, as far as is seen from the texts that it writes? -/
def Plan.writes (t : List Char) : Plan → Bool
  | .text chars => t <:+: chars
  | .sequence first second => first.writes t || second.writes t
  | .choice _ first second => first.writes t && second.writes t
  | .group _ inside => inside.writes t
  | .done | .oneOf _ | .assertion _ | .loop .. => false

/-- A plan that writes a text has an end only where the text follows. -/
theorem infix_of_mem_ends (hwrites : plan.writes t = true) (h : q ∈ plan.ends (placeAt s i groups)) : t <:+: s.drop i := by
  induction plan generalizing i groups q with
  | done | oneOf | assertion | loop => cases hwrites
  | text chars => exact (of_decide_eq_true hwrites).trans (mem_ends_text_iff.mp h).1.isInfix
  | sequence first second ihFirst ihSecond =>
    obtain ⟨r, hr, hq⟩ := mem_ends_sequence_iff.mp h
    obtain ⟨j, groups', hij, rfl⟩ := exists_placeAt_of_mem_ends hr
    rcases Bool.or_eq_true_iff.mp hwrites with hfirst | hsecond
    · exact ihFirst hfirst hr
    · exact (ihSecond hsecond hq).trans (List.drop_suffix_drop_left s hij).isInfix
  | choice n first second ihFirst ihSecond =>
    obtain ⟨hfirst, hsecond⟩ := Bool.and_eq_true_iff.mp hwrites
    exact (mem_ends_choice_iff.mp h).elim (ihFirst hfirst) (ihSecond hsecond)
  | group index inside ih =>
    obtain ⟨r, hr, -⟩ := mem_ends_group_iff.mp h
    exact ih hwrites hr

/-- In a text without what the plan writes there is no match. -/
theorem matchesIn_eq_nil {m : Matcher} (hm : m.Sound) (hconsumes : m.plan.consumes = true) (hwrites : m.plan.writes t = true)
    (h : ¬ t <:+: s) : m.matchesIn s = [] := by
  refine matchesIn_eq_of_follow hm hconsumes (.none fun j _ _ => ?_)
  refine List.eq_nil_iff_forall_not_mem.mpr fun q hq => h ?_
  exact (infix_of_mem_ends hwrites hq).trans (List.drop_suffix j s).isInfix

end Phrasebook.Regex
