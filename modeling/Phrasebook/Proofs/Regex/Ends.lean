import Mathlib.Logic.Relation
import Phrasebook.Proofs.Regex.Places

/-!
# The ends of a plan

Where a plan can end from a place, the preferred end first (`Plan.ends`): a choice has the ends of its first way before those of
its second, and a loop goes on before or after it stops. This is the meaning that a search has to keep, said without tasks and
without what a search remembers. A step of a thread keeps the ends (`endsOf_of_goesOn`), or divides them between the two ways of
a choice (`endsOf_of_divides`), provided that whatever is repeated consumes characters.
-/

namespace Phrasebook.Regex

variable {s chars : List Char} {i n : Nat} {groups : List (Nat × Nat × Nat)} {tasks others first second : List Task}
  {p q : Place} {plan : Plan} {lazily : Bool}

/-! ## Ends -/

/-- The ends of a loop that may be repeated `count` times. -/
def loopEnds (lazily : Bool) (inside : Place → List Place) : (count : Nat) → Place → List Place
  | 0, p => [p]
  | count + 1, p =>
    let again := (inside p).flatMap (loopEnds lazily inside count)
    if lazily then p :: again else again ++ [p]

/-- The places where a plan can end that begins at a place, the preferred one first. -/
def Plan.ends : Plan → Place → List Place
  | .done, p => [p]
  | .text chars, p => (p.passText? chars).toList
  | .oneOf set, p => (p.passOneOf? set).toList
  | .assertion a, p => (p.passAssertion? a).toList
  | .sequence first second, p => (first.ends p).flatMap second.ends
  | .choice _ first second, p => first.ends p ++ second.ends p
  | .group index inside, p => (inside.ends p).map (·.close index p.index)
  | .loop _ lazily inside, p => loopEnds lazily inside.ends p.rest.length p

/-- The places where tasks can end, the preferred one first. -/
def endsOf : List Task → Place → List Place
  | [], p => [p]
  | .run plan :: tasks, p => (plan.ends p).flatMap (endsOf tasks)
  | .close index begun :: tasks, p => endsOf tasks (p.close index begun)

/-! ## Progress -/

/-- Does the plan consume a character whenever it ends? -/
def Plan.consumes : Plan → Bool
  | .text chars => !chars.isEmpty
  | .oneOf _ => true
  | .sequence first second => first.consumes || second.consumes
  | .choice _ first second => first.consumes && second.consumes
  | .group _ inside => inside.consumes
  | .done | .assertion _ | .loop .. => false

/-- Does all that the plan repeats consume characters? -/
def Plan.progresses : Plan → Bool
  | .sequence first second => first.progresses && second.progresses
  | .choice _ first second => first.progresses && second.progresses
  | .group _ inside => inside.progresses
  | .loop _ _ inside => inside.consumes && inside.progresses
  | .done | .text _ | .oneOf _ | .assertion _ => true

theorem length_rest_next? {c : Char} (h : p.next? = some (c, q)) : q.rest.length + 1 = p.rest.length := by
  obtain ⟨before, rest, index, groups⟩ := p
  cases rest with
  | nil => cases h
  | cons d rest =>
    obtain ⟨-, rfl⟩ := Prod.mk.inj (Option.some.inj h)
    rfl

theorem length_rest_passText? (h : p.passText? chars = some q) : q.rest.length + chars.length = p.rest.length := by
  induction chars generalizing p with
  | nil =>
    obtain rfl := Option.some.inj h
    rfl
  | cons c chars ih =>
    rw [Place.passText?] at h
    split at h
    · cases h
    · next d r hnext =>
      split at h
      · have hr := length_rest_next? hnext
        have hq := ih h
        rw [List.length_cons]
        omega
      · cases h

theorem length_rest_passOneOf? {set : CharSet} (h : p.passOneOf? set = some q) : q.rest.length + 1 = p.rest.length := by
  rw [Place.passOneOf?] at h
  split at h
  · cases h
  · next c r hnext =>
    split at h
    · obtain rfl := Option.some.inj h
      exact length_rest_next? hnext
    · cases h

theorem eq_of_passAssertion? {a : Assertion} (h : p.passAssertion? a = some q) : q = p := by
  rw [Place.passAssertion?] at h
  split at h
  · exact (Option.some.inj h).symm
  · cases h

theorem mem_loopEnds_succ {inside : Place → List Place} {count : Nat} :
    q ∈ loopEnds lazily inside (count + 1) p ↔ q = p ∨ q ∈ (inside p).flatMap (loopEnds lazily inside count) := by
  rw [loopEnds]
  cases lazily
  · rw [if_neg Bool.false_ne_true, List.mem_append, List.mem_singleton, or_comm]
  · rw [if_pos rfl, List.mem_cons]

theorem length_rest_loopEnds {inside : Place → List Place} {count : Nat}
    (hinside : ∀ p, ∀ q ∈ inside p, q.rest.length ≤ p.rest.length) (h : q ∈ loopEnds lazily inside count p) :
    q.rest.length ≤ p.rest.length := by
  induction count generalizing p with
  | zero =>
    obtain rfl := List.mem_singleton.mp h
    exact Nat.le_refl _
  | succ count ih =>
    rcases mem_loopEnds_succ.mp h with rfl | h
    · exact Nat.le_refl _
    · obtain ⟨r, hr, hq⟩ := List.mem_flatMap.mp h
      exact Nat.le_trans (ih hq) (hinside p r hr)

/-- An end is a character further where the plan consumes one, and never behind. -/
theorem length_rest_ends (h : q ∈ plan.ends p) : q.rest.length + plan.consumes.toNat ≤ p.rest.length := by
  induction plan generalizing p q with
  | done =>
    obtain rfl := List.mem_singleton.mp h
    exact Nat.le_refl _
  | text chars =>
    have hlength := length_rest_passText? (Option.mem_toList.mp h)
    cases chars with
    | nil => exact Nat.le_of_eq hlength
    | cons c chars =>
      rw [List.length_cons] at hlength
      simp only [Plan.consumes, List.isEmpty_cons, Bool.not_false, Bool.toNat_true]
      omega
  | oneOf set => exact Nat.le_of_eq (length_rest_passOneOf? (Option.mem_toList.mp h))
  | assertion a =>
    rw [eq_of_passAssertion? (Option.mem_toList.mp h)]
    exact Nat.le_refl _
  | sequence first second ihFirst ihSecond =>
    obtain ⟨r, hr, hq⟩ := List.mem_flatMap.mp h
    have hfirst := ihFirst hr
    have hsecond := ihSecond hq
    have hconsumes : (first.consumes || second.consumes).toNat ≤ first.consumes.toNat + second.consumes.toNat := by
      cases first.consumes <;> cases second.consumes <;> decide
    rw [Plan.consumes]
    omega
  | choice n first second ihFirst ihSecond =>
    have hboth : (first.consumes && second.consumes).toNat ≤ first.consumes.toNat ∧
        (first.consumes && second.consumes).toNat ≤ second.consumes.toNat := by
      cases first.consumes <;> cases second.consumes <;> decide
    rw [Plan.consumes]
    rcases List.mem_append.mp h with hq | hq
    · have hfirst := ihFirst hq
      omega
    · have hsecond := ihSecond hq
      omega
  | group index inside ih =>
    obtain ⟨r, hr, rfl⟩ := List.mem_map.mp h
    have hlength := ih hr
    exact hlength
  | loop n lazily inside ih =>
    exact length_rest_loopEnds (fun p q hq => Nat.le_of_add_right_le (ih hq)) h

theorem length_rest_lt_of_consumes (hconsumes : plan.consumes = true) (h : q ∈ plan.ends p) : q.rest.length < p.rest.length := by
  have hlength := length_rest_ends h
  rwa [hconsumes] at hlength

/-! ## Loops -/

/-- If each repetition consumes, then no more repetitions are needed than there are characters. -/
theorem loopEnds_eq_of_le {inside : Place → List Place} {count count' : Nat}
    (hinside : ∀ p, ∀ q ∈ inside p, q.rest.length < p.rest.length) (h : p.rest.length ≤ count) (h' : p.rest.length ≤ count') :
    loopEnds lazily inside count p = loopEnds lazily inside count' p := by
  have hstops : ∀ {p : Place} (count : Nat), p.rest.length ≤ 0 → loopEnds lazily inside count p = [p] := by
    intro p count hp
    have hnone : inside p = [] := List.eq_nil_iff_forall_not_mem.mpr fun q hq => by
      have hlt := hinside p q hq
      omega
    cases count with
    | zero => rfl
    | succ count => rw [loopEnds, hnone]; cases lazily <;> rfl
  induction count generalizing count' p with
  | zero => rw [hstops 0 h, hstops count' h]
  | succ count ih =>
    cases count' with
    | zero => rw [hstops 0 h', hstops (count + 1) h']
    | succ count' =>
      have hagain : (inside p).flatMap (loopEnds lazily inside count) = (inside p).flatMap (loopEnds lazily inside count') :=
        List.flatMap_congr fun q hq => by
          have hlt := hinside p q hq
          exact ih (by omega) (by omega)
      rw [loopEnds, loopEnds, hagain]

/-- A loop stops, or its inside is passed once and the loop begins again. -/
theorem ends_loop {inside : Plan} (hinside : inside.consumes = true) :
    (Plan.loop n lazily inside).ends p =
      if lazily then p :: (inside.ends p).flatMap (Plan.loop n lazily inside).ends
      else (inside.ends p).flatMap (Plan.loop n lazily inside).ends ++ [p] := by
  have hlt : ∀ p, ∀ q ∈ inside.ends p, q.rest.length < p.rest.length := fun _ _ => length_rest_lt_of_consumes hinside
  have hagain : (inside.ends p).flatMap (loopEnds lazily inside.ends p.rest.length) =
      (inside.ends p).flatMap (Plan.loop n lazily inside).ends :=
    List.flatMap_congr fun q hq => loopEnds_eq_of_le hlt (Nat.le_of_lt (hlt p q hq)) (Nat.le_refl _)
  rw [← hagain]
  exact loopEnds_eq_of_le hlt (Nat.le_refl _) (Nat.le_succ _)

/-- A loop ends where its inside leads, passed any number of times. -/
theorem mem_ends_loop_iff {inside : Plan} (hinside : inside.consumes = true) :
    q ∈ (Plan.loop n lazily inside).ends p ↔ Relation.ReflTransGen (fun p q => q ∈ inside.ends p) p q := by
  have hunroll : ∀ p, q ∈ (Plan.loop n lazily inside).ends p ↔
      q = p ∨ ∃ r ∈ inside.ends p, q ∈ (Plan.loop n lazily inside).ends r := by
    intro p
    rw [ends_loop hinside]
    cases lazily
    · rw [if_neg Bool.false_ne_true, List.mem_append, List.mem_singleton, List.mem_flatMap, or_comm]
    · rw [if_pos rfl, List.mem_cons, List.mem_flatMap]
  constructor
  · intro h
    -- by the number of characters that remain
    induction hlength : p.rest.length using Nat.strongRecOn generalizing p with
    | _ length ih =>
      rcases (hunroll p).mp h with rfl | ⟨r, hr, hq⟩
      · exact .refl
      · exact .head hr (ih _ (hlength ▸ length_rest_lt_of_consumes hinside hr) hq rfl)
  · intro h
    induction h using Relation.ReflTransGen.head_induction_on with
    | refl => exact (hunroll q).mpr (.inl rfl)
    | head hr _ ih => exact (hunroll _).mpr (.inr ⟨_, hr, ih⟩)

/-! ## Steps -/

/-- A thread that goes on keeps its ends. -/
theorem endsOf_of_goesOn (h : GoesOn tasks p others q) : endsOf tasks p = endsOf others q := by
  cases h with
  | close => rfl
  | done => simp only [endsOf, Plan.ends, List.flatMap_singleton]
  | text hpass | oneOf hpass | assertion hpass => simp [endsOf, Plan.ends, hpass]
  | sequence => simp only [endsOf, Plan.ends, List.flatMap_assoc]
  | group => simp only [endsOf, Plan.ends, List.flatMap_map]

/-- A thread that fails has no end. -/
theorem endsOf_of_fail (h : step tasks p = .fail) : endsOf tasks p = [] := by
  fun_cases step tasks p with
  | case1 | case2 | case3 | case7 | case8 | case9 => cases h
  | case4 | case5 | case6 =>
    simp only [step, Move.goOnFrom] at h
    split at h
    · cases h
    · next hpass => simp [endsOf, Plan.ends, hpass]
  | case10 | case11 => simp only [step] at h; split at h <;> cases h

/-- Does all that is repeated by the plan of a task consume characters? -/
def Task.progresses : Task → Bool
  | .run plan => plan.progresses
  | .close .. => true

/-- Does all that is repeated by the plans of tasks consume characters? -/
def Progress (tasks : List Task) : Prop := ∀ task ∈ tasks, task.progresses = true

/-- A thread that comes to a choice has the ends of the first way, and then those of the second. -/
theorem endsOf_of_divides (h : Divides tasks n first second) (hprogress : Progress tasks) :
    endsOf tasks p = endsOf first p ++ endsOf second p := by
  have hinside : ∀ {n lazily inside rest}, tasks = .run (.loop n lazily inside) :: rest → inside.consumes = true := by
    rintro n lazily inside rest rfl
    exact (Bool.and_eq_true_iff.mp (hprogress _ List.mem_cons_self)).1
  cases h with
  | choice => simp only [endsOf, Plan.ends, List.flatMap_append]
  | lazily =>
    rw [endsOf, ends_loop (hinside rfl), if_pos rfl]
    simp only [List.flatMap_cons, List.flatMap_assoc, endsOf]
  | eagerly =>
    rw [endsOf, ends_loop (hinside rfl), if_neg Bool.false_ne_true]
    simp only [List.flatMap_append, List.flatMap_cons, List.flatMap_nil, List.append_nil, List.flatMap_assoc, endsOf]

theorem kept_progress : Kept fun tasks _ => Progress tasks where
  goOn h hprogress := by
    cases h with
    | close | done | text | oneOf | assertion => exact (List.forall_mem_cons.mp hprogress).2
    | sequence | group => simpa [Progress, Task.progresses, Plan.progresses, and_assoc] using hprogress
  choose h hprogress := by cases h <;> simp_all [Progress, Task.progresses, Plan.progresses]

end Phrasebook.Regex
