import Phrasebook.Proofs.Regex.Choices
import Phrasebook.Proofs.Regex.Numbering

/-!
# The first match

A search finds the preferred end of a plan (`search_thread`), although it makes each choice only once at a place. A choice that has
been made there without success has failed for every thread that comes to it, since the number of a choice says what remains to be
done (`Numbered`), and whether that has an end does not depend on the groups (`endsOf_eq_nil_congr`). A choice whose first way is
still being tried is not met again at the same place: what has no place to go leaves less effort with every step (`effort`). So the
first match is the preferred one at the first place that has any (`first?_eq_some_iff`). All this requires that whatever the
plan repeats consumes characters.
-/

namespace Phrasebook.Regex

variable {s : List Char} {i j n start left choices : Nat} {groups : List (Nat × Nat × Nat)}
  {tasks others first second : List Task} {threads : List Thread} {p q : Place} {plan : Plan} {seen : Seen}
  {table : Nat → List Task}

/-! ## Groups do not matter -/

/-- The place without its groups. -/
def Place.bare (p : Place) : Place := { p with groups := [] }

/-- Places that differ in groups alone lead to places that do. -/
theorem map_bare_flatMap {f g : Place → List Place} {l l' : List Place} (hl : l.map Place.bare = l'.map Place.bare)
    (hfg : ∀ p q, p.bare = q.bare → (f p).map Place.bare = (g q).map Place.bare) :
    (l.flatMap f).map Place.bare = (l'.flatMap g).map Place.bare := by
  induction l generalizing l' with
  | nil =>
    obtain rfl := List.map_eq_nil_iff.mp hl.symm
    rfl
  | cons p l ih =>
    cases l' with
    | nil => cases hl
    | cons q l' =>
      obtain ⟨hp, hl⟩ := List.cons.inj hl
      rw [List.flatMap_cons, List.flatMap_cons, List.map_append, List.map_append, hfg p q hp, ih hl]

/-- What comes next is the same character with groups or without. -/
theorem next?_bare (p : Place) : p.bare.next? = p.next?.map fun (c, q) => (c, q.bare) := by
  obtain ⟨before, rest, index, groups⟩ := p
  cases rest <;> rfl

/-- A text is passed without a look at the groups. -/
theorem passText?_bare (chars : List Char) (p : Place) : p.bare.passText? chars = (p.passText? chars).map Place.bare := by
  induction chars generalizing p with
  | nil => rfl
  | cons c chars ih =>
    rw [Place.passText?, Place.passText?, next?_bare]
    cases p.next? with
    | none => rfl
    | some cq =>
      simp only [Option.map_some]
      split
      · exact ih cq.2
      · rfl

/-- So is a character of a set. -/
theorem passOneOf?_bare (set : CharSet) (p : Place) : p.bare.passOneOf? set = (p.passOneOf? set).map Place.bare := by
  rw [Place.passOneOf?, Place.passOneOf?, next?_bare]
  cases p.next? with
  | none => rfl
  | some cq =>
    simp only [Option.map_some]
    split <;> rfl

/-- An assertion asks for the characters around it, not for groups. -/
theorem passAssertion?_bare (a : Assertion) (p : Place) :
    p.bare.passAssertion? a = (p.passAssertion? a).map Place.bare := by
  have hholds : a.holds p.bare.before p.bare.rest.head? = a.holds p.before p.rest.head? := rfl
  rw [Place.passAssertion?, Place.passAssertion?, hholds]
  split <;> rfl

/-- A pass that does not look at groups ends at one place, or at none, for both places. -/
theorem map_bare_toList {pass : Place → Option Place} (hpass : ∀ p, pass p.bare = (pass p).map Place.bare)
    (h : p.bare = q.bare) : (pass p).toList.map Place.bare = (pass q).toList.map Place.bare := by
  rw [← Option.toList_map, ← Option.toList_map, ← hpass, ← hpass, h]

/-- A loop looks at groups no more than its inside does. -/
theorem map_bare_loopEnds {lazily : Bool} {inside : Place → List Place} {count : Nat}
    (hinside : ∀ p q, p.bare = q.bare → (inside p).map Place.bare = (inside q).map Place.bare) (h : p.bare = q.bare) :
    (loopEnds lazily inside count p).map Place.bare = (loopEnds lazily inside count q).map Place.bare := by
  induction count generalizing p q with
  | zero => exact congrArg ([·]) h
  | succ count ih =>
    have hagain := map_bare_flatMap (hinside p q h) fun p q => ih (p := p) (q := q)
    rw [loopEnds, loopEnds]
    cases lazily
    · simp only [Bool.false_eq_true, if_false, List.map_append, hagain, List.map_singleton, h]
    · exact congrArg₂ List.cons h hagain

/-- The ends of a plan are the same, up to groups, from places that are the same up to groups. -/
theorem map_bare_ends (plan : Plan) (h : p.bare = q.bare) : (plan.ends p).map Place.bare = (plan.ends q).map Place.bare := by
  induction plan generalizing p q with
  | done => exact congrArg ([·]) h
  | text chars => exact map_bare_toList (passText?_bare chars) h
  | oneOf set => exact map_bare_toList (passOneOf?_bare set) h
  | assertion a => exact map_bare_toList (passAssertion?_bare a) h
  | sequence first second ihFirst ihSecond => exact map_bare_flatMap (ihFirst h) fun _ _ => ihSecond
  | choice n first second ihFirst ihSecond =>
    rw [Plan.ends, Plan.ends, List.map_append, List.map_append, ihFirst h, ihSecond h]
  | group index inside ih =>
    rw [Plan.ends, Plan.ends, List.map_map, List.map_map]
    exact ih h
  | loop n lazily inside ih =>
    have hrest : p.rest.length = q.rest.length := congrArg (·.rest.length) h
    rw [Plan.ends, Plan.ends, hrest]
    exact map_bare_loopEnds (fun _ _ => ih) h

/-- Tasks may also forget at which place a loop began, as far as that is a place in the text. -/
theorem map_bare_endsOf (tasks : List Task) (h : p.bare = q.bare) :
    (endsOf tasks p).map Place.bare = (endsOf (tasks.map Task.bare) q).map Place.bare := by
  induction tasks generalizing p q with
  | nil => exact congrArg ([·]) h
  | cons task tasks ih =>
    cases task with
    | run plan => exact map_bare_flatMap (map_bare_ends plan h) fun _ _ => ih
    | close index begun => exact ih h

/-- Whether tasks have an end does not depend on groups. -/
theorem endsOf_eq_nil_congr (htasks : tasks.map Task.bare = others.map Task.bare) (h : p.bare = q.bare) :
    endsOf tasks p = [] ↔ endsOf others q = [] := by
  rw [← List.map_eq_nil_iff (f := Place.bare), ← List.map_eq_nil_iff (f := Place.bare) (l := endsOf others q),
    map_bare_endsOf tasks h, htasks, ← map_bare_endsOf others rfl]

/-! ## Effort -/

/-- How many steps a thread can at most take with the plan, as long as it stays where it is. -/
def Plan.effort : Plan → Nat
  | .sequence first second => first.effort + (bif first.consumes then 0 else second.effort) + 1
  | .choice _ first second => first.effort + second.effort + 1
  | .group _ inside => inside.effort + 2
  | .loop _ _ inside => inside.effort + 1
  | .done | .text _ | .oneOf _ | .assertion _ => 1

/-- How many steps a thread can at most take with tasks, as long as it stays where it is. -/
def effort : List Task → Nat
  | [] => 0
  | .run plan :: tasks => plan.effort + bif plan.consumes then 0 else effort tasks
  | .close .. :: tasks => effort tasks + 1

/-- The effort that is left does not depend on groups. -/
theorem effort_map_bare (tasks : List Task) : effort (tasks.map Task.bare) = effort tasks := by
  induction tasks with
  | nil => rfl
  | cons task tasks ih =>
    cases task with
    | run plan => simp only [List.map_cons, Task.bare, effort, ih]
    | close index begun => simp only [List.map_cons, Task.bare, effort, ih]

/-- A thread that goes on has consumed a character, or has less effort before it. -/
theorem advances_of_goesOn (h : GoesOn tasks p others q) :
    q.rest.length < p.rest.length ∨ q.rest = p.rest ∧ effort others < effort tasks := by
  cases h with
  | close => exact .inr ⟨rfl, Nat.lt_succ_self _⟩
  | done => exact .inr ⟨rfl, Nat.lt_add_of_pos_left Nat.one_pos⟩
  | @text chars tasks _ _ hpass =>
    cases chars with
    | nil =>
      obtain rfl := Option.some.inj hpass
      exact .inr ⟨rfl, Nat.lt_add_of_pos_left Nat.one_pos⟩
    | cons c chars =>
      have hlength := length_rest_passText? hpass
      rw [List.length_cons] at hlength
      exact .inl (by omega)
  | oneOf hpass =>
    have hlength := length_rest_passOneOf? hpass
    exact .inl (by omega)
  | assertion hpass =>
    obtain rfl := eq_of_passAssertion? hpass
    exact .inr ⟨rfl, Nat.lt_add_of_pos_left Nat.one_pos⟩
  | sequence first second =>
    refine .inr ⟨rfl, ?_⟩
    simp only [effort, Plan.effort, Plan.consumes]
    cases first.consumes <;> cases second.consumes <;>
      simp only [cond_true, cond_false, Bool.or_true, Bool.or_false] <;> omega
  | group index inside =>
    refine .inr ⟨rfl, ?_⟩
    simp only [effort, Plan.effort, Plan.consumes]
    cases inside.consumes <;> simp only [cond_true, cond_false] <;> omega

/-- Both ways of a choice have less effort before them. -/
theorem effort_lt_of_divides (h : Divides tasks n first second) (hprogress : Progress tasks) :
    effort first < effort tasks ∧ effort second < effort tasks := by
  cases h with
  | choice n first second =>
    simp only [effort, Plan.effort, Plan.consumes]
    cases first.consumes <;> cases second.consumes <;>
      simp only [cond_true, cond_false, Bool.and_true, Bool.and_false] <;> omega
  | lazily n inside | eagerly n inside =>
    have hinside := (Bool.and_eq_true_iff.mp (hprogress _ List.mem_cons_self)).1
    simp only [effort, Plan.effort, Plan.consumes, hinside]
    simp
    omega

/-! ## The search -/

/-- The first thread is gone on with until it fails, is found, or comes to a choice. -/
theorem advance_cons (seen : Seen) (tasks : List Task) (p : Place) (threads : List Thread) :
    advance seen ((tasks, p) :: threads) = match step tasks p with
      | .found => .found p
      | .fail => advance seen threads
      | .goOn others q => advance seen ((others, q) :: threads)
      | .choose n first second =>
        if seen.contains n p.index then advance seen threads else .choice n p first second threads := by
  rw [advance]
  split <;> simp only [*]

/-- Threads that come to the same are searched alike. -/
theorem search_of_advance {threads' : List Thread} (h : advance seen threads = advance seen threads') :
    search left seen threads = search left seen threads' := by
  unfold search
  rw [h]

/-- A step without a choice changes nothing in the search. -/
theorem search_of_goOn (h : step tasks p = .goOn others q) :
    search left seen ((tasks, p) :: threads) = search left seen ((others, q) :: threads) :=
  search_of_advance (by rw [advance_cons, h])

/-- A thread that fails is dropped. -/
theorem search_of_fail (h : step tasks p = .fail) : search left seen ((tasks, p) :: threads) = search left seen threads :=
  search_of_advance (by rw [advance_cons, h])

/-- A thread at its end is found. -/
theorem search_of_found (h : step tasks p = .found) : search left seen ((tasks, p) :: threads) = .found p := by
  rw [search, advance_cons, h]

/-- A thread that comes to a choice which was made there is dropped. -/
theorem search_of_contains (h : step tasks p = .choose n first second) (hseen : seen.contains n p.index = true) :
    search left seen ((tasks, p) :: threads) = search left seen threads :=
  search_of_advance (by rw [advance_cons, h]; exact if_pos hseen)

/-- Otherwise the choice is made: its first way is tried before the second. -/
theorem search_of_choose (h : step tasks p = .choose n first second) (hseen : seen.contains n p.index = false) :
    search (left + 1) seen ((tasks, p) :: threads) =
      search left (seen.insert n p.index) ((first, p) :: (second, p) :: threads) := by
  rw [search, advance_cons, h]
  simp only [hseen, Bool.false_eq_true, if_false]

/-- Without threads the search is exhausted. -/
theorem search_nil : search left seen [] = .exhausted left seen := by
  rw [search, advance]

/-- What a thread of a search has: it is in the text, its plans are numbered, and what they repeat consumes characters. -/
structure Sound (s : List Char) (start choices : Nat) (table : Nat → List Task) (tasks : List Task) (p : Place) : Prop where
  liesIn : LiesIn s start tasks p
  numbered : Numbered choices table tasks
  progress : Progress tasks

/-- A step of a sound thread leaves a sound thread. -/
theorem Sound.of_goesOn (h : GoesOn tasks p others q) (sound : Sound s start choices table tasks p) :
    Sound s start choices table others q where
  liesIn := (kept_liesIn s start).goOn h sound.liesIn
  numbered := (kept_numbered choices table).goOn h sound.numbered
  progress := kept_progress.goOn h sound.progress

/-- Both ways of a choice are sound. -/
theorem Sound.of_divides (h : Divides tasks n first second) (sound : Sound s start choices table tasks p) :
    Sound s start choices table first p ∧ Sound s start choices table second p :=
  have hlies := (kept_liesIn s start).choose h sound.liesIn
  have hnumbered := (kept_numbered choices table).choose (p := p) h sound.numbered
  have hprogress := kept_progress.choose (p := p) h sound.progress
  ⟨⟨hlies.1, hnumbered.1, hprogress.1⟩, hlies.2, hnumbered.2, hprogress.2⟩

/-- The place of a thread is one in the text. -/
theorem Sound.length_rest (sound : Sound s start choices table tasks p) : p.rest.length + p.index = s.length := by
  have hlength : p.rest.length = s.length - p.index := by
    rw [sound.liesIn.place]
    exact List.length_drop
  have hindex := sound.liesIn.index_le
  omega

/-- Nothing comes of what remains to be done at the choice, if it is made at the place. -/
def Fails (s : List Char) (table : Nat → List Task) (n i : Nat) : Prop := endsOf (table n) (placeAt s i []) = []

/-- Of the choices that have been made, a thread only meets such as fail: the others were made at places that it has left, or from
them it came here without consuming a character. -/
def Clear (s : List Char) (table : Nat → List Task) (seen : Seen) (tasks : List Task) (p : Place) : Prop :=
  ∀ n i, seen.Made n i → Fails s table n i ∨ i < p.index ∨ i = p.index ∧ effort tasks < effort (table n)

/-- A thread that has met no choice still being tried meets none by going on. -/
theorem Clear.of_goesOn (h : GoesOn tasks p others q) (sound : Sound s start choices table tasks p)
    (clear : Clear s table seen tasks p) : Clear s table seen others q := by
  have hp := sound.length_rest
  have hq := (sound.of_goesOn h).length_rest
  intro n i hmade
  refine (clear n i hmade).imp_right ?_
  rcases advances_of_goesOn h with hrest | ⟨hrest, heffort⟩
  · rintro (hi | ⟨rfl, -⟩) <;> exact .inl (by omega)
  · rw [hrest] at hq
    rintro (hi | ⟨rfl, hlt⟩)
    · exact .inl (by omega)
    · exact .inr ⟨by omega, heffort.trans hlt⟩

/-- A choice that is made is behind both of its ways. -/
theorem Clear.of_divides (h : Divides tasks n first second) (sound : Sound s start choices table tasks p)
    (clear : Clear s table seen tasks p) (hless : effort others < effort tasks) :
    ∀ m i, (m = n ∧ i = p.index) ∨ seen.Made m i →
      Fails s table m i ∨ i < p.index ∨ i = p.index ∧ effort others < effort (table m) := by
  rintro m i (⟨rfl, rfl⟩ | hmade)
  · rw [(sound.numbered.of_divides h).2, effort_map_bare]
    exact .inr (.inr ⟨rfl, hless⟩)
  · exact (clear m i hmade).imp_right (Or.imp_right (And.imp_right hless.trans))

/-- A choice fails at a place if the tasks of a thread that comes to it there have no end. -/
theorem fails_iff (h : Divides tasks n first second) (sound : Sound s start choices table tasks p) :
    Fails s table n p.index ↔ endsOf tasks p = [] := by
  have hbare : p.bare = (placeAt s p.index []).bare := by rw [sound.liesIn.place]; rfl
  refine (endsOf_eq_nil_congr ?_ hbare).symm
  have hidem : Task.bare ∘ Task.bare = Task.bare := funext fun task => by cases task <;> rfl
  rw [(sound.numbered.of_divides h).2, List.map_map, hidem]

/-- What a search remembers that may still make all choices that have not been made from `low` on. -/
structure Remembers (s : List Char) (low choices left : Nat) (seen : Seen) : Prop where
  choices : seen.choices = choices
  first : seen.first = low
  unmade : (seen.unmade s.length).card ≤ left

/-- What comes of a thread in a search: its preferred end, or else the other threads, and then whatever choice has been made in
between fails. -/
def Comes (s : List Char) (low choices : Nat) (table : Nat → List Task) (left : Nat) (seen : Seen) (tasks : List Task) (p : Place)
    (threads : List Thread) : Prop :=
  (∃ q, (endsOf tasks p).head? = some q ∧ search left seen ((tasks, p) :: threads) = .found q) ∨
  endsOf tasks p = [] ∧ ∃ left' seen', search left seen ((tasks, p) :: threads) = search left' seen' threads ∧
    Remembers s low choices left' seen' ∧ ∀ n i, seen'.Made n i → seen.Made n i ∨ Fails s table n i

/-- What comes of a choice that is made, given what comes of its first way and then of its second. -/
theorem Comes.of_divides {low left₁ : Nat} {seen₁ : Seen} (h : Divides tasks n first second)
    (sound : Sound s start choices table tasks p)
    (hsearch : search left seen ((tasks, p) :: threads) = search left₁ seen₁ ((first, p) :: (second, p) :: threads))
    (hmade : ∀ m i, seen₁.Made m i ↔ (m = n ∧ i = p.index) ∨ seen.Made m i)
    (hfirst : Comes s low choices table left₁ seen₁ first p ((second, p) :: threads))
    (hsecond : ∀ left₂ seen₂, Remembers s low choices left₂ seen₂ →
      (∀ m i, seen₂.Made m i → seen₁.Made m i ∨ Fails s table m i) → Comes s low choices table left₂ seen₂ second p threads) :
    Comes s low choices table left seen tasks p threads := by
  have hends := endsOf_of_divides (p := p) h sound.progress
  rw [Comes, hends, hsearch]
  rcases hfirst with ⟨q, hq, hfound⟩ | ⟨hnilFirst, left₂, seen₂, hsearch₂, hremembers₂, hmade₂⟩
  · exact .inl ⟨q, by rw [List.head?_append, hq, Option.some_or], hfound⟩
  · rw [hnilFirst, List.nil_append, hsearch₂]
    refine (hsecond left₂ seen₂ hremembers₂ hmade₂).imp_right ?_
    rintro ⟨hnilSecond, left₃, seen₃, hsearch₃, hremembers₃, hmade₃⟩
    refine ⟨hnilSecond, left₃, seen₃, hsearch₃, hremembers₃, fun m i hmi => ?_⟩
    rcases hmade₃ m i hmi with hmi | hfails
    · rcases hmade₂ m i hmi with hmi | hfails
      · rcases (hmade m i).mp hmi with ⟨rfl, rfl⟩ | hmi
        · exact .inr ((fails_iff h sound).mpr (by rw [hends, hnilFirst, hnilSecond]; rfl))
        · exact .inl hmi
      · exact .inr hfails
    · exact .inr hfails

/-- A choice that has been made before is one that fails. -/
theorem endsOf_eq_nil_of_made (h : Divides tasks n first second) (sound : Sound s start choices table tasks p)
    (clear : Clear s table seen tasks p) (hmade : seen.Made n p.index) : endsOf tasks p = [] := by
  rcases clear n p.index hmade with hfails | hlt | ⟨-, hlt⟩
  · exact (fails_iff h sound).mp hfails
  · exact absurd hlt (Nat.lt_irrefl _)
  · rw [(sound.numbered.of_divides h).2, effort_map_bare] at hlt
    exact absurd hlt (Nat.lt_irrefl _)

/-- A search finds the preferred end of its first thread. -/
theorem comes_of_clear {low : Nat} {tasks : List Task} {p : Place} {left : Nat} {seen : Seen} (threads : List Thread)
    (hlow : low ≤ start) (sound : Sound s start choices table tasks p) (remembers : Remembers s low choices left seen)
    (clear : Clear s table seen tasks p) : Comes s low choices table left seen tasks p threads := by
  match h : step tasks p with
  | .found =>
    obtain rfl := eq_nil_of_step_found h
    exact .inl ⟨p, rfl, search_of_found h⟩
  | .fail => exact .inr ⟨endsOf_of_fail h, left, seen, search_of_fail h, remembers, fun n i => .inl⟩
  | .goOn others q =>
    have hgoes := goesOn_of_step h
    have hadvances := advances_of_goesOn hgoes
    have hcomes := comes_of_clear threads hlow (sound.of_goesOn hgoes) remembers (clear.of_goesOn hgoes sound)
    rwa [Comes, ← search_of_goOn h, ← endsOf_of_goesOn hgoes] at hcomes
  | .choose n first second =>
    have hdivides := divides_of_step h
    obtain ⟨hfirst, hsecond⟩ := sound.of_divides hdivides
    obtain ⟨hlessFirst, hlessSecond⟩ := effort_lt_of_divides hdivides sound.progress
    have hn : n < seen.choices := by rw [remembers.choices]; exact (sound.numbered.of_divides hdivides).1
    have hi : seen.first ≤ p.index := by rw [remembers.first]; exact hlow.trans sound.liesIn.start_le
    cases hseen : seen.contains n p.index with
    | true =>
      have hnil := endsOf_eq_nil_of_made hdivides sound clear ⟨⟨hn, hi⟩, hseen⟩
      exact .inr ⟨hnil, left, seen, search_of_contains h hseen, remembers, fun n i => .inl⟩
    | false =>
      have hmade : ∀ m i, (seen.insert n p.index).Made m i ↔ _ := fun m i => Seen.made_insert_iff hn hi
      have hunmade : (n, p.index) ∈ seen.unmade s.length := Seen.mem_unmade.mpr ⟨⟨hn, hi, sound.liesIn.index_le⟩, hseen⟩
      have hcard := Seen.card_unmade_insert_lt hunmade
      have hleft := remembers.unmade
      obtain ⟨left, rfl⟩ : ∃ k, left = k + 1 := ⟨left - 1, by omega⟩
      refine .of_divides hdivides sound (search_of_choose h hseen) hmade ?_ fun left₂ seen₂ hremembers hmade₂ => ?_
      · exact comes_of_clear _ hlow hfirst ⟨remembers.choices, remembers.first, by omega⟩ fun m i hmi =>
          clear.of_divides hdivides sound hlessFirst m i ((hmade m i).mp hmi)
      · exact comes_of_clear _ hlow hsecond hremembers fun m i hmi => (hmade₂ m i hmi).elim
          (fun hmi => clear.of_divides hdivides sound hlessSecond m i ((hmade m i).mp hmi)) .inl
  termination_by (p.rest.length, effort tasks)
  decreasing_by
    · rcases hadvances with hrest | ⟨hrest, heffort⟩
      · exact Prod.Lex.left _ _ hrest
      · exact Prod.Lex.right' _ (by rw [hrest]) heffort
    · exact Prod.Lex.right _ hlessFirst
    · exact Prod.Lex.right _ hlessSecond

/-! ## Matches -/

/-- The choices of the matcher are numbered, and whatever it repeats consumes characters. -/
structure Matcher.Sound (m : Matcher) : Prop where
  numbered : ∃ table, Numbered m.choices table [.run m.plan]
  progresses : m.plan.progresses = true

/-- A matcher for an expression is sound, if whatever its plan repeats consumes characters. -/
theorem sound_matcher (r : Regex) (h : r.matcher.plan.progresses = true) : r.matcher.Sound :=
  ⟨exists_numbered_matcher r, h⟩

/-- The first place from `i` on where a plan has an end is `k`, and `q` is the end that it prefers. -/
structure FirstEnd (plan : Plan) (s : List Char) (i k : Nat) (q : Place) : Prop where
  le : i ≤ k
  le_length : k ≤ s.length
  none_before : ∀ j, i ≤ j → j < k → plan.ends (placeAt s j []) = []
  preferred : (plan.ends (placeAt s k [])).head? = some q

variable {k low : Nat} {m : Matcher}

/-- If the plan has an end at the place itself, the first end is the preferred one there. -/
theorem FirstEnd.eq_of_ends (hq : (plan.ends (placeAt s i [])).head? = some q) {r : Place} (h : FirstEnd plan s i k r) :
    k = i ∧ r = q := by
  have hk : k = i := by
    by_contra hne
    have hnone := h.none_before i (Nat.le_refl i) (lt_of_le_of_ne h.le (Ne.symm hne))
    rw [hnone] at hq
    cases hq
  subst hk
  exact ⟨rfl, Option.some.inj (h.preferred.symm.trans hq)⟩

/-- If it has none, the first end is that from the next place on. -/
theorem FirstEnd.succ_iff (hnone : plan.ends (placeAt s i []) = []) : FirstEnd plan s i k q ↔ FirstEnd plan s (i + 1) k q := by
  constructor
  · intro h
    have hne : k ≠ i := by
      rintro rfl
      have hpreferred := h.preferred
      rw [hnone] at hpreferred
      cases hpreferred
    exact ⟨lt_of_le_of_ne h.le (Ne.symm hne), h.le_length, fun j hj => h.none_before j (Nat.le_of_succ_le hj), h.preferred⟩
  · intro h
    refine ⟨Nat.le_of_succ_le h.le, h.le_length, fun j hj hjk => ?_, h.preferred⟩
    rcases hj.eq_or_lt with rfl | hj
    · exact hnone
    · exact h.none_before j hj hjk

/-- A search begins with the plan as its only task. -/
theorem endsOf_run (plan : Plan) (p : Place) : endsOf [.run plan] p = plan.ends p := by
  have hnil : endsOf [] = fun q => [q] := funext fun _ => rfl
  rw [endsOf, hnil, List.flatMap_singleton']

/-- A search that finds an end stops there. -/
theorem firstFrom?_of_found {before : Option Char} {rest : List Char}
    (h : search left seen [([.run m.plan], ⟨before, rest, i, []⟩)] = .found q) :
    m.firstFrom? left seen before i rest = some (i, q) := by
  rw [Matcher.firstFrom?.eq_def, h]

/-- At the end of the text an exhausted search has found nothing. -/
theorem firstFrom?_of_exhausted_nil {left' : Nat} {seen' : Seen} {before : Option Char} {rest : List Char}
    (h : search left seen [([.run m.plan], ⟨before, rest, i, []⟩)] = .exhausted left' seen') (hrest : rest = []) :
    m.firstFrom? left seen before i rest = none := by
  subst hrest
  rw [Matcher.firstFrom?, h]

/-- Elsewhere it goes on at the next place, and remembers the choices that were made. -/
theorem firstFrom?_of_exhausted_cons {left' : Nat} {seen' : Seen} {before : Option Char} {c : Char} {rest rest' : List Char}
    (h : search left seen [([.run m.plan], ⟨before, rest, i, []⟩)] = .exhausted left' seen') (hrest : rest = c :: rest') :
    m.firstFrom? left seen before i rest = m.firstFrom? left' seen' (some c) (i + 1) rest' := by
  subst hrest
  rw [Matcher.firstFrom?, h]

/-- From a place on, what the search has remembered has failed, so it finds the first end there is. -/
theorem firstFrom?_eq_some_iff {i left : Nat} {seen : Seen} (hnumbered : Numbered m.choices table [.run m.plan])
    (hprogress : m.plan.progresses = true) (hlow : low ≤ i) (hi : i ≤ s.length) (remembers : Remembers s low m.choices left seen)
    (hfails : ∀ n j, seen.Made n j → Fails s table n j) :
    m.firstFrom? left seen (s.take i).getLast? i (s.drop i) = some (k, q) ↔ FirstEnd m.plan s i k q := by
  have hsound : Sound s i m.choices table [.run m.plan] (placeAt s i []) :=
    ⟨⟨rfl, Nat.le_refl i, hi, nofun, fun _ _ h => by simp at h⟩, hnumbered, fun _ h => List.mem_singleton.mp h ▸ hprogress⟩
  have hcomes := comes_of_clear [] hlow hsound remembers fun n j h => .inl (hfails n j h)
  rw [Comes, endsOf_run] at hcomes
  rcases hcomes with ⟨r, hr, hfound⟩ | ⟨hnone, left', seen', hsearch, hremembers, hmade⟩
  · rw [firstFrom?_of_found hfound]
    constructor
    · rintro ⟨⟩
      exact ⟨Nat.le_refl _, hi, fun _ hj hjk => absurd hjk (Nat.not_lt.mpr hj), hr⟩
    · intro h
      obtain ⟨rfl, rfl⟩ := h.eq_of_ends hr
      rfl
  · rw [FirstEnd.succ_iff hnone]
    have hexhausted := hsearch.trans search_nil
    rcases hi.eq_or_lt with heq | hlt
    · rw [firstFrom?_of_exhausted_nil hexhausted (List.drop_eq_nil_of_le heq.ge)]
      exact ⟨nofun, fun h => absurd (h.le.trans h.le_length) (Nat.not_le.mpr (heq ▸ Nat.lt_succ_self i))⟩
    · have hc := List.getElem?_eq_getElem hlt
      rw [firstFrom?_of_exhausted_cons hexhausted (drop_of_getElem? hc), ← getLast?_take_succ hc]
      exact firstFrom?_eq_some_iff hnumbered hprogress (Nat.le_succ_of_le hlow) hlt hremembers fun n j h =>
        (hmade n j h).elim (hfails n j) id
  termination_by s.length - i

/-- The first match from a place on begins at the first place where the plan has an end, and ends at the one that is preferred. -/
theorem first?_eq_some_iff (hm : m.Sound) (hi : i ≤ s.length) :
    m.first? (placeAt s i groups) = some (k, q) ↔ FirstEnd m.plan s i k q := by
  obtain ⟨table, hnumbered⟩ := hm.numbered
  refine firstFrom?_eq_some_iff hnumbered hm.progresses (Nat.le_refl i) hi ⟨rfl, rfl, ?_⟩ fun n j h =>
    absurd h (Seen.not_made_empty _ _ _ _)
  have hrest : (placeAt s i groups).rest.length = s.length - i := List.length_drop
  refine Nat.le_trans (Seen.card_unmade_empty_le _ _ _) (Nat.mul_le_mul_left _ ?_)
  have hindex : (placeAt s i groups).index = i := rfl
  omega

/-- An end is a place of the text. -/
theorem FirstEnd.liesIn (hm : m.Sound) (h : FirstEnd m.plan s i k q) : LiesIn s k [] q :=
  have hfirst : m.first? (placeAt s k []) = some (k, q) := (first?_eq_some_iff hm h.le_length).mpr
    ⟨Nat.le_refl k, h.le_length, fun _ hj hjk => absurd hjk (Nat.not_lt.mpr hj), h.preferred⟩
  (liesIn_of_first? h.le_length hfirst).2

/-- A match of what consumes is not empty. -/
theorem FirstEnd.lt_index (hm : m.Sound) (hconsumes : m.plan.consumes = true) (h : FirstEnd m.plan s i k q) : k < q.index := by
  have hlies := h.liesIn hm
  have hrest := length_rest_lt_of_consumes hconsumes (List.mem_of_head? h.preferred)
  rw [hlies.place] at hrest
  simp only [placeAt, List.length_drop] at hrest
  omega

/-- A plan that consumes characters has no empty match to pass over. -/
theorem next?_eq_some_iff (hm : m.Sound) (hconsumes : m.plan.consumes = true) (hi : i ≤ s.length) {afterMatch : Bool} :
    m.next? afterMatch (placeAt s i groups) = some (k, q) ↔ FirstEnd m.plan s i k q := by
  have hiff : m.first? (placeAt s i groups) = some (k, q) ↔ FirstEnd m.plan s i k q := first?_eq_some_iff hm hi
  rw [← hiff, Matcher.next?]
  cases hfirst : m.first? (placeAt s i groups) with
  | none => rfl
  | some kq =>
    obtain ⟨k', q'⟩ := kq
    have hend := (first?_eq_some_iff hm hi).mp hfirst
    have hindex : (q'.index == (placeAt s i groups).index) = false :=
      beq_false_of_ne (Nat.ne_of_gt (Nat.lt_of_le_of_lt hend.le (hend.lt_index hm hconsumes)))
    rw [Option.bind_some]
    dsimp only
    rw [hindex, Bool.and_false, if_neg Bool.false_ne_true]

/-- The matches from a place on, one after another. -/
inductive Follow (plan : Plan) (s : List Char) : Nat → List Match → Prop
  | none {i : Nat} (h : ∀ j, i ≤ j → j ≤ s.length → plan.ends (placeAt s j []) = []) : Follow plan s i []
  | next {i k : Nat} {q : Place} {found : List Match} (h : FirstEnd plan s i k q) (rest : Follow plan s q.index found) :
    Follow plan s i (⟨k, q.index, q.groups⟩ :: found)

/-- Where the plan has no end, the matches are those from a later place on. -/
theorem Follow.of_le {j : Nat} {found : List Match} (hij : i ≤ j)
    (hnone : ∀ n, i ≤ n → n < j → plan.ends (placeAt s n []) = []) (h : Follow plan s j found) : Follow plan s i found := by
  cases h with
  | none h => exact .none fun n hn hlength => (Nat.lt_or_ge n j).elim (hnone n hn) fun hjn => h n hjn hlength
  | next h rest =>
    refine .next ⟨hij.trans h.le, h.le_length, fun n hn hnk => ?_, h.preferred⟩ rest
    exact (Nat.lt_or_ge n j).elim (hnone n hn) fun hjn => h.none_before n hjn hnk

/-- Where the plan has an end, the next match begins. -/
theorem Follow.here {j : Nat} {found : List Match} (hi : i ≤ s.length)
    (hq : (plan.ends (placeAt s i [])).head? = some (placeAt s j groups)) (rest : Follow plan s j found) :
    Follow plan s i (⟨i, j, groups⟩ :: found) :=
  .next ⟨Nat.le_refl i, hi, fun _ hj hji => absurd hji (Nat.not_lt.mpr hj), hq⟩ rest

/-- A plan that consumes characters has no match at the end of the text. -/
theorem Follow.end (hconsumes : plan.consumes = true) : Follow plan s s.length [] := by
  refine .none fun j hj hlength => List.eq_nil_iff_forall_not_mem.mpr fun q hq => ?_
  have hrest := length_rest_lt_of_consumes hconsumes hq
  simp only [placeAt, List.length_drop] at hrest
  omega

/-- Given enough steps, matches that follow each other are found one by one. -/
theorem matchesFrom_eq_of_follow (hm : m.Sound) (hconsumes : m.plan.consumes = true) {found : List Match} {count : Nat}
    {afterMatch : Bool} (hi : i ≤ s.length) (h : Follow m.plan s i found) (hcount : s.length + 1 ≤ i + count) :
    m.matchesFrom count afterMatch (placeAt s i groups) = found := by
  induction h generalizing count afterMatch groups with
  | @none i hnone =>
    cases count with
    | zero => rfl
    | succ count =>
      have hnext : m.next? afterMatch (placeAt s i groups) = none := by
        refine Option.eq_none_iff_forall_ne_some.mpr fun ⟨k, q⟩ hsome => ?_
        have hend := (next?_eq_some_iff hm hconsumes hi).mp hsome
        have hpreferred := hend.preferred
        rw [hnone k hend.le hend.le_length] at hpreferred
        cases hpreferred
      rw [Matcher.matchesFrom, hnext]
  | @next i k q found hend _ ih =>
    obtain ⟨count, rfl⟩ : ∃ n, count = n + 1 := ⟨count - 1, by omega⟩
    have hlies := hend.liesIn hm
    have hle := hend.le
    have hlt := hend.lt_index hm hconsumes
    rw [Matcher.matchesFrom, (next?_eq_some_iff hm hconsumes hi).mpr hend]
    dsimp only
    rw [hlies.place]
    exact congrArg _ (ih hlies.index_le (by omega))

/-- The matches in a text are those that follow one another from its start. -/
theorem matchesIn_eq_of_follow (hm : m.Sound) (hconsumes : m.plan.consumes = true) {found : List Match}
    (h : Follow m.plan s 0 found) : m.matchesIn s = found :=
  matchesFrom_eq_of_follow hm hconsumes (Nat.zero_le _) h (Nat.zero_add _ ▸ Nat.le_refl _)

/-- A place that is the only end is the preferred one. -/
theorem head?_eq_of_forall_mem {l : List Place} (h : ∀ r ∈ l, r = q) (hq : q ∈ l) : l.head? = some q := by
  cases l with
  | nil => cases hq
  | cons r l => exact congrArg some (h r List.mem_cons_self)

/-- Where the plan has an end, there is a first place from any place before. -/
theorem exists_firstEnd (hik : i ≤ k) (hk : k ≤ s.length) (h : plan.ends (placeAt s k []) ≠ []) :
    ∃ j q, j ≤ k ∧ FirstEnd plan s i j q := by
  induction hdistance : k - i generalizing i with
  | zero =>
    obtain rfl : i = k := by omega
    obtain ⟨q, hq⟩ := Option.isSome_iff_exists.mp (List.isSome_head?.mpr h)
    exact ⟨i, q, hik, Nat.le_refl i, hk, fun j hj hji => absurd hji (Nat.not_lt.mpr hj), hq⟩
  | succ distance ih =>
    by_cases hnone : plan.ends (placeAt s i []) = []
    · obtain ⟨j, q, hjk, hend⟩ := @ih (i + 1) (by omega) (by omega)
      exact ⟨j, q, hjk, (FirstEnd.succ_iff hnone).mpr hend⟩
    · obtain ⟨q, hq⟩ := Option.isSome_iff_exists.mp (List.isSome_head?.mpr hnone)
      exact ⟨i, q, hik, Nat.le_refl i, hik.trans hk, fun j hj hji => absurd hji (Nat.not_lt.mpr hj), hq⟩

/-- A match is found if none before it reaches over its beginning. -/
theorem mem_matchesFrom (hm : m.Sound) (hconsumes : m.plan.consumes = true) (hk : k ≤ s.length)
    (hq : (m.plan.ends (placeAt s k [])).head? = some q)
    (hbefore : ∀ j < k, ∀ r ∈ m.plan.ends (placeAt s j []), r.index ≤ k) {count : Nat} {afterMatch : Bool} (hik : i ≤ k)
    (hcount : k < i + count) : Match.mk k q.index q.groups ∈ m.matchesFrom count afterMatch (placeAt s i groups) := by
  induction count generalizing i afterMatch groups with
  | zero => omega
  | succ count ih =>
    have hne : m.plan.ends (placeAt s k []) ≠ [] := fun hnil => by rw [hnil] at hq; cases hq
    obtain ⟨j, r, hjk, hend⟩ := exists_firstEnd hik hk hne
    have hlt := hend.lt_index hm hconsumes
    have hij := hend.le
    rw [Matcher.matchesFrom, (next?_eq_some_iff hm hconsumes (hik.trans hk)).mpr hend]
    rcases hjk.eq_or_lt with rfl | hjk
    · obtain rfl := Option.some.inj (hend.preferred.symm.trans hq)
      exact List.mem_cons_self
    · have hle := hbefore j hjk r (List.mem_of_head? hend.preferred)
      refine List.mem_cons_of_mem _ ?_
      rw [(hend.liesIn hm).place]
      exact ih hle (by omega)

/-- A match is found if no match that begins before it reaches into it. -/
theorem mem_matchesIn (hm : m.Sound) (hconsumes : m.plan.consumes = true) (hk : k ≤ s.length)
    (hq : (m.plan.ends (placeAt s k [])).head? = some q)
    (hbefore : ∀ j < k, ∀ r ∈ m.plan.ends (placeAt s j []), r.index ≤ k) : ⟨k, q.index, q.groups⟩ ∈ m.matchesIn s :=
  mem_matchesFrom hm hconsumes hk hq hbefore (Nat.zero_le k) (by omega)

end Phrasebook.Regex
