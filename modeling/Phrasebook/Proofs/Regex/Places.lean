import Mathlib.Data.List.Basic
import Phrasebook.Regex.Match

/-!
# Where matches lie

A search goes from place to place in one text. A place is known by the number of characters before it and the groups so far
(`placeAt`). What every step of a thread keeps holds where a search ends (`Kept.of_search`); so a match lies in the text and its
groups lie in the match (`liesIn_of_mem_matchesIn`). This holds of every plan, whatever its choices are numbered.
-/

namespace Phrasebook.Regex

variable {s chars : List Char} {i n start : Nat} {groups : List (Nat × Nat × Nat)}
  {tasks others first second : List Task} {p q : Place}

/-! ## Places in a text -/

/-- The place after the first `i` characters of a text. -/
def placeAt (s : List Char) (i : Nat) (groups : List (Nat × Nat × Nat)) : Place :=
  ⟨(s.take i).getLast?, s.drop i, i, groups⟩

/-- The character before the next place is the one at this place. -/
theorem getLast?_take_succ {c : Char} (h : s[i]? = some c) : (s.take (i + 1)).getLast? = some c := by
  rw [List.take_add_one, h, Option.toList_some, List.getLast?_append, List.getLast?_singleton, Option.some_or]

/-- Where there is a character, it stands in front of what remains. -/
theorem drop_of_getElem? {c : Char} (h : s[i]? = some c) : s.drop i = c :: s.drop (i + 1) := by
  obtain ⟨hi, rfl⟩ := List.getElem?_eq_some_iff.mp h
  exact List.drop_eq_getElem_cons hi

/-- Behind the text nothing remains. -/
theorem drop_of_getElem?_eq_none (h : s[i]? = none) : s.drop i = [] :=
  List.drop_eq_nil_of_le (List.getElem?_eq_none_iff.mp h)

/-- The next place is one character further. -/
theorem next?_placeAt : (placeAt s i groups).next? = s[i]?.map fun c => (c, placeAt s (i + 1) groups) := by
  cases h : s[i]? with
  | none => simp only [Place.next?, placeAt, drop_of_getElem?_eq_none h, Option.map_none]
  | some c => simp only [Place.next?, placeAt, drop_of_getElem? h, Option.map_some, getLast?_take_succ h]

/-- A place is passed by a character of a set. -/
theorem passOneOf?_placeAt_eq_some_iff {set : CharSet} : (placeAt s i groups).passOneOf? set = some q ↔
    ∃ c, s[i]? = some c ∧ set.has c.toNat = true ∧ q = placeAt s (i + 1) groups := by
  rw [Place.passOneOf?, next?_placeAt]
  cases h : s[i]? with
  | none => simp
  | some c => by_cases hset : set.has c.toNat = true <;> simp [hset, @eq_comm _ q]

/-- A place is passed by a text that stands there. -/
theorem passText?_placeAt_eq_some_iff : (placeAt s i groups).passText? chars = some q ↔
    chars <+: s.drop i ∧ q = placeAt s (i + chars.length) groups := by
  induction chars generalizing i with
  | nil => simp [Place.passText?, @eq_comm _ q]
  | cons c chars ih =>
    rw [Place.passText?, next?_placeAt]
    cases h : s[i]? with
    | none => simp [drop_of_getElem?_eq_none h]
    | some d =>
      have hlength : i + (c :: chars).length = i + 1 + chars.length := by rw [List.length_cons]; omega
      rw [drop_of_getElem? h, List.cons_prefix_cons, hlength]
      by_cases hd : c = d
      · subst hd
        simp only [Option.map_some, if_true, ih, true_and]
      · simp only [Option.map_some, if_neg (Ne.symm hd), hd, false_and, reduceCtorEq]

/-- A place is passed by an assertion that holds there. -/
theorem passAssertion?_placeAt_eq_some_iff {a : Assertion} : (placeAt s i groups).passAssertion? a = some q ↔
    a.holds (s.take i).getLast? s[i]? = true ∧ q = placeAt s i groups := by
  have hbefore : (placeAt s i groups).before = (s.take i).getLast? := rfl
  have hafter : (placeAt s i groups).rest.head? = s[i]? := List.head?_drop
  rw [Place.passAssertion?, hbefore, hafter]
  by_cases h : a.holds (s.take i).getLast? s[i]? = true <;> simp [h, @eq_comm _ q]

/-! ## What steps do -/

/-- How a thread goes on. -/
inductive GoesOn : List Task → Place → List Task → Place → Prop
  | close (index begun : Nat) (tasks : List Task) (p : Place) : GoesOn (.close index begun :: tasks) p tasks (p.close index begun)
  | done (tasks : List Task) (p : Place) : GoesOn (.run .done :: tasks) p tasks p
  | text {chars : List Char} {tasks : List Task} {p q : Place} (h : p.passText? chars = some q) :
    GoesOn (.run (.text chars) :: tasks) p tasks q
  | oneOf {set : CharSet} {tasks : List Task} {p q : Place} (h : p.passOneOf? set = some q) :
    GoesOn (.run (.oneOf set) :: tasks) p tasks q
  | assertion {a : Assertion} {tasks : List Task} {p q : Place} (h : p.passAssertion? a = some q) :
    GoesOn (.run (.assertion a) :: tasks) p tasks q
  | sequence (first second : Plan) (tasks : List Task) (p : Place) :
    GoesOn (.run (.sequence first second) :: tasks) p (.run first :: .run second :: tasks) p
  | group (index : Nat) (inside : Plan) (tasks : List Task) (p : Place) :
    GoesOn (.run (.group index inside) :: tasks) p (.run inside :: .close index p.index :: tasks) p

/-- How the tasks of a thread divide at a choice. -/
inductive Divides : List Task → Nat → List Task → List Task → Prop
  | choice (n : Nat) (first second : Plan) (tasks : List Task) :
    Divides (.run (.choice n first second) :: tasks) n (.run first :: tasks) (.run second :: tasks)
  | lazily (n : Nat) (inside : Plan) (tasks : List Task) :
    Divides (.run (.loop n true inside) :: tasks) n tasks (.run inside :: .run (.loop n true inside) :: tasks)
  | eagerly (n : Nat) (inside : Plan) (tasks : List Task) :
    Divides (.run (.loop n false inside) :: tasks) n (.run inside :: .run (.loop n false inside) :: tasks) tasks

/-- A move that goes on has come to its place, with the tasks that remain. -/
theorem eq_some_of_goOnFrom {place : Option Place} (h : Move.goOnFrom tasks place = .goOn others q) :
    place = some q ∧ others = tasks := by
  cases place with
  | none => cases h
  | some place =>
    obtain ⟨rfl, rfl⟩ := Move.goOn.inj h
    exact ⟨rfl, rfl⟩

/-- What a step goes on with is one of the ways in `GoesOn`. -/
theorem goesOn_of_step (h : step tasks p = .goOn others q) : GoesOn tasks p others q := by
  fun_cases step tasks p with
  | case1 | case8 => cases h
  | case2 => obtain ⟨rfl, rfl⟩ := Move.goOn.inj h; exact .close ..
  | case3 => obtain ⟨rfl, rfl⟩ := Move.goOn.inj h; exact .done ..
  | case4 => obtain ⟨hpass, rfl⟩ := eq_some_of_goOnFrom h; exact .text hpass
  | case5 => obtain ⟨hpass, rfl⟩ := eq_some_of_goOnFrom h; exact .oneOf hpass
  | case6 => obtain ⟨hpass, rfl⟩ := eq_some_of_goOnFrom h; exact .assertion hpass
  | case7 => obtain ⟨rfl, rfl⟩ := Move.goOn.inj h; exact .sequence ..
  | case9 => obtain ⟨rfl, rfl⟩ := Move.goOn.inj h; exact .group ..
  | case10 | case11 => simp only [step] at h; split at h <;> cases h

/-- What a step divides into is one of the ways in `Divides`. -/
theorem divides_of_step (h : step tasks p = .choose n first second) : Divides tasks n first second := by
  fun_cases step tasks p with
  | case1 | case2 | case3 | case7 | case9 => cases h
  | case4 | case5 | case6 => simp only [step, Move.goOnFrom] at h; split at h <;> cases h
  | case8 => obtain ⟨rfl, rfl, rfl⟩ := Move.choose.inj h; exact .choice ..
  | case10 =>
    simp only [step, if_true] at h
    obtain ⟨rfl, rfl, rfl⟩ := Move.choose.inj h
    exact .lazily ..
  | case11 _ _ _ _ _ _ hlazy =>
    obtain rfl := Bool.not_eq_true _ ▸ hlazy
    simp only [step, if_neg hlazy] at h
    obtain ⟨rfl, rfl, rfl⟩ := Move.choose.inj h
    exact .eagerly ..

/-- An end is found where no task is left. -/
theorem eq_nil_of_step_found (h : step tasks p = .found) : tasks = [] := by
  fun_cases step tasks p with
  | case1 => rfl
  | case2 | case3 | case7 | case8 | case9 => simp [step] at h
  | case4 | case5 | case6 =>
    simp only [step, Move.goOnFrom] at h
    split at h <;> cases h
  | case10 | case11 =>
    simp only [step] at h
    split at h <;> cases h

/-! ## What steps keep -/

/-- What a thread keeps when it goes on and when it comes to a choice. -/
structure Kept (Good : List Task → Place → Prop) : Prop where
  goOn : ∀ {tasks others : List Task} {p q : Place}, GoesOn tasks p others q → Good tasks p → Good others q
  choose : ∀ {tasks first second : List Task} {p : Place} {n : Nat}, Divides tasks n first second → Good tasks p →
    Good first p ∧ Good second p

/-- What threads come to keeps what the threads have. -/
def Advance.Has (Good : List Task → Place → Prop) : Advance → Prop
  | .found q => Good [] q
  | .failed => True
  | .choice _ p first second others => Good first p ∧ Good second p ∧ ∀ thread ∈ others, Good thread.1 thread.2

/-- What steps keep is kept up to the next choice. -/
theorem Kept.advance {Good : List Task → Place → Prop} (kept : Kept Good) (seen : Seen) (threads : List Thread)
    (h : ∀ thread ∈ threads, Good thread.1 thread.2) : (advance seen threads).Has Good := by
  fun_induction Regex.advance seen threads with
  | case1 => trivial
  | case2 tasks place others hstep =>
    have hgood := h _ List.mem_cons_self
    rw [eq_nil_of_step_found hstep] at hgood
    exact hgood
  | case3 tasks place others hstep ih => exact ih fun thread hthread => h thread (List.mem_cons_of_mem _ hthread)
  | case4 tasks place others remaining next hstep ih =>
    refine ih fun thread hthread => ?_
    rcases List.mem_cons.mp hthread with rfl | hthread
    · exact kept.goOn (goesOn_of_step hstep) (h _ List.mem_cons_self)
    · exact h thread (List.mem_cons_of_mem _ hthread)
  | case5 tasks place others number first second hstep hseen ih =>
    exact ih fun thread hthread => h thread (List.mem_cons_of_mem _ hthread)
  | case6 tasks place others number first second hstep hseen =>
    obtain ⟨hfirst, hsecond⟩ := kept.choose (divides_of_step hstep) (h _ List.mem_cons_self)
    exact ⟨hfirst, hsecond, fun thread hthread => h thread (List.mem_cons_of_mem _ hthread)⟩

/-- What steps keep, and all threads have, is had where the search ends. -/
theorem Kept.of_search {Good : List Task → Place → Prop} (kept : Kept Good) {left : Nat} {seen : Seen}
    {threads : List Thread} (h : ∀ thread ∈ threads, Good thread.1 thread.2) (hfound : search left seen threads = .found q) :
    Good [] q := by
  induction left generalizing seen threads with
  | zero =>
    have hadvance := kept.advance seen threads h
    rw [search] at hfound
    split at hfound
    · next place hplace =>
      rw [hplace] at hadvance
      cases hfound
      exact hadvance
    · cases hfound
    · cases hfound
  | succ left ih =>
    have hadvance := kept.advance seen threads h
    rw [search] at hfound
    split at hfound
    · next place hplace =>
      rw [hplace] at hadvance
      cases hfound
      exact hadvance
    · cases hfound
    · next number place first second others hchoice =>
      rw [hchoice] at hadvance
      obtain ⟨hfirst, hsecond, hothers⟩ := hadvance
      refine ih (fun thread hthread => ?_) hfound
      rcases List.mem_cons.mp hthread with rfl | hthread
      · exact hfirst
      · rcases List.mem_cons.mp hthread with rfl | hthread
        · exact hsecond
        · exact hothers thread hthread

/-! ## Threads in a text -/

/-- A thread of a search that began after `start` characters: it is at a place of the text, and the groups that have ended and
those that have begun lie between the two. -/
structure LiesIn (s : List Char) (start : Nat) (tasks : List Task) (p : Place) : Prop where
  place : p = placeAt s p.index p.groups
  start_le : start ≤ p.index
  index_le : p.index ≤ s.length
  ended : ∀ number a b, (number, a, b) ∈ p.groups → start ≤ a ∧ a ≤ b ∧ b ≤ p.index
  begun : ∀ number a, Task.close number a ∈ tasks → start ≤ a ∧ a ≤ p.index

/-- Going on in the text keeps a thread in it, if no group begins. -/
theorem LiesIn.move {j : Nat} (h : LiesIn s start tasks p) (hle : p.index ≤ j) (hj : j ≤ s.length)
    (hothers : ∀ number a, Task.close number a ∈ others → Task.close number a ∈ tasks) :
    LiesIn s start others (placeAt s j p.groups) where
  place := rfl
  start_le := Nat.le_trans h.start_le hle
  index_le := hj
  ended number a b hmem :=
    let ⟨ha, hab, hb⟩ := h.ended number a b hmem
    ⟨ha, hab, Nat.le_trans hb hle⟩
  begun number a hmem :=
    let ⟨ha, hb⟩ := h.begun number a (hothers number a hmem)
    ⟨ha, Nat.le_trans hb hle⟩

/-- Tasks other than the end of a group end the same groups, with one of them put in front or taken away. -/
theorem mem_close_cons {plan : Plan} {number a : Nat} :
    Task.close number a ∈ Task.run plan :: tasks ↔ Task.close number a ∈ tasks := by simp

/-- A step stays in the text, and the groups that it closes lie behind the start. -/
theorem LiesIn.of_goesOn (hstep : GoesOn tasks p others q) (h : LiesIn s start tasks p) : LiesIn s start others q := by
  have hplace := h.place
  cases hstep with
  | close number a =>
    obtain ⟨ha, hb⟩ := h.begun number a List.mem_cons_self
    refine ⟨by rw [hplace]; rfl, h.start_le, h.index_le, fun number' a' b' hmem => ?_, fun number' a' hmem =>
      h.begun number' a' (List.mem_cons_of_mem _ hmem)⟩
    rcases List.mem_cons.mp hmem with heq | hmem
    · obtain ⟨rfl, rfl, rfl⟩ := by simpa using heq
      exact ⟨ha, hb, Nat.le_refl _⟩
    · exact h.ended number' a' b' hmem
  | done =>
    rw [hplace]
    exact h.move (Nat.le_refl _) h.index_le fun _ _ => mem_close_cons.mpr
  | text hpass =>
    rw [hplace, passText?_placeAt_eq_some_iff] at hpass
    obtain ⟨hstands, rfl⟩ := hpass
    have hlength := hstands.length_le
    rw [List.length_drop] at hlength
    have hindex := h.index_le
    exact h.move (Nat.le_add_right _ _) (by omega) fun _ _ => mem_close_cons.mpr
  | oneOf hpass =>
    rw [hplace, passOneOf?_placeAt_eq_some_iff] at hpass
    obtain ⟨c, hc, -, rfl⟩ := hpass
    obtain ⟨hi, -⟩ := List.getElem?_eq_some_iff.mp hc
    exact h.move (Nat.le_succ _) hi fun _ _ => mem_close_cons.mpr
  | assertion hpass =>
    rw [hplace, passAssertion?_placeAt_eq_some_iff] at hpass
    obtain ⟨-, rfl⟩ := hpass
    exact h.move (Nat.le_refl _) h.index_le fun _ _ => mem_close_cons.mpr
  | sequence =>
    rw [hplace]
    exact h.move (Nat.le_refl _) h.index_le fun _ _ => by simp
  | group =>
    refine ⟨hplace, h.start_le, h.index_le, h.ended, fun number a hmem => ?_⟩
    rw [mem_close_cons, List.mem_cons] at hmem
    rcases hmem with heq | hmem
    · obtain ⟨rfl, rfl⟩ := Task.close.inj heq
      exact ⟨h.start_le, Nat.le_refl _⟩
    · exact h.begun number a (mem_close_cons.mpr hmem)

/-- A choice stays where it is. -/
theorem LiesIn.of_divides (hstep : Divides tasks n first second) (h : LiesIn s start tasks p) :
    LiesIn s start first p ∧ LiesIn s start second p := by
  have hkeep : ∀ {others : List Task}, (∀ n a, Task.close n a ∈ others → Task.close n a ∈ tasks) → LiesIn s start others p :=
    fun hothers => h.place ▸ h.move (Nat.le_refl _) h.index_le hothers
  cases hstep <;> exact ⟨hkeep fun _ _ => by simp, hkeep fun _ _ => by simp⟩

/-- So lying in the text is kept by all steps. -/
theorem kept_liesIn (s : List Char) (start : Nat) : Kept (LiesIn s start) where
  goOn := LiesIn.of_goesOn
  choose := LiesIn.of_divides

/-! ## Matches -/

/-- The first match from a place on is what a search from a later place finds. -/
theorem search_of_firstFrom? {m : Matcher} {left : Nat} {seen : Seen} {before : Option Char} {rest : List Char}
    (h : m.firstFrom? left seen before i rest = some (start, q)) (hbefore : before = (s.take i).getLast?)
    (hrest : rest = s.drop i) (hi : i ≤ s.length) : i ≤ start ∧ start ≤ s.length ∧
      ∃ left seen, search left seen [([.run m.plan], placeAt s start [])] = .found q := by
  fun_induction m.firstFrom? left seen before i rest with
  | case1 left seen before i rest place hfound =>
    cases h
    subst hbefore hrest
    exact ⟨Nat.le_refl _, hi, _, _, hfound⟩
  | case2 => cases h
  | case3 left seen before i left' seen' c rest _ ih =>
    have hc : s[i]? = some c := by rw [← List.head?_drop, ← hrest]; rfl
    obtain ⟨hlt, -⟩ := List.getElem?_eq_some_iff.mp hc
    rw [drop_of_getElem? hc, List.cons.injEq] at hrest
    obtain ⟨hle, hstart⟩ := ih h (getLast?_take_succ hc).symm hrest.2 hlt
    exact ⟨Nat.le_of_succ_le hle, hstart⟩

/-- The first match from a place in a text on lies in the text. -/
theorem liesIn_of_first? {m : Matcher} (hi : i ≤ s.length) (h : m.first? (placeAt s i groups) = some (start, q)) :
    i ≤ start ∧ LiesIn s start [] q := by
  obtain ⟨hle, hstart, left, seen, hsearch⟩ := search_of_firstFrom? h rfl rfl hi
  refine ⟨hle, (kept_liesIn s start).of_search (fun thread hthread => ?_) hsearch⟩
  rw [List.mem_singleton.mp hthread]
  exact ⟨rfl, Nat.le_refl _, hstart, nofun, fun _ _ hmem => by simp at hmem⟩

/-- The next match lies in the text as well, also if an empty one was passed over. -/
theorem liesIn_of_next? {m : Matcher} {afterMatch : Bool} (hi : i ≤ s.length)
    (h : m.next? afterMatch (placeAt s i groups) = some (start, q)) : LiesIn s start [] q := by
  obtain ⟨⟨start', stop⟩, hfirst, h⟩ := Option.bind_eq_some_iff.mp h
  have hlies := liesIn_of_first? hi hfirst
  dsimp only at h
  split at h
  · rw [next?_placeAt] at h
    obtain ⟨⟨c, p⟩, hnext, h⟩ := Option.bind_eq_some_iff.mp h
    obtain ⟨c, hc, hp⟩ := Option.map_eq_some_iff.mp hnext
    obtain ⟨rfl, rfl⟩ := Prod.mk.inj hp
    obtain ⟨hlt, -⟩ := List.getElem?_eq_some_iff.mp hc
    exact (liesIn_of_first? hlt h).2
  · cases h
    exact hlies.2

/-- A match lies in the text, and its groups lie in the match. -/
structure Match.LiesIn (m : Match) (s : List Char) : Prop where
  start_le : m.start ≤ m.stop
  stop_le : m.stop ≤ s.length
  span : ∀ number a b, m.span? number = some (a, b) → m.start ≤ a ∧ a ≤ b ∧ b ≤ m.stop

/-- A thread at its end makes a match that lies in the text, with its groups. -/
theorem LiesIn.toMatch (h : LiesIn s start [] q) : (Match.mk start q.index q.groups).LiesIn s where
  start_le := h.start_le
  stop_le := h.index_le
  span number a b hspan := by
    obtain ⟨⟨number', a', b'⟩, hfind, hspan⟩ := Option.map_eq_some_iff.mp hspan
    obtain ⟨rfl, rfl⟩ := Prod.mk.inj hspan
    exact h.ended number' a' b' (List.mem_of_find?_eq_some hfind)

/-- All matches from a place on do. -/
theorem liesIn_of_mem_matchesFrom {m : Matcher} {found : Match} {count : Nat} {afterMatch : Bool} (hi : i ≤ s.length)
    (h : found ∈ m.matchesFrom count afterMatch (placeAt s i groups)) : found.LiesIn s := by
  induction count generalizing i groups afterMatch with
  | zero => cases h
  | succ count ih =>
    rw [Matcher.matchesFrom] at h
    split at h
    · cases h
    · next start stop hnext =>
      have hlies := liesIn_of_next? hi hnext
      rcases List.mem_cons.mp h with rfl | h
      · exact hlies.toMatch
      · rw [hlies.place] at h
        exact ih hlies.index_le h

/-- All matches in a text do. -/
theorem liesIn_of_mem_matchesIn {m : Matcher} {found : Match} (h : found ∈ m.matchesIn s) : found.LiesIn s :=
  liesIn_of_mem_matchesFrom (Nat.zero_le _) h

end Phrasebook.Regex
