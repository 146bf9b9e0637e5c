import Mathlib.Logic.Function.Basic
import Mathlib.Order.Nat
import Phrasebook.Proofs.Regex.Ends

/-!
# The numbers of choices

The number of a choice stands for what remains to be done there, up to the places where groups began: wherever a search comes to a
choice of that number, its tasks are the same (`Numbered.of_divides`). So what is remembered of a choice at a place holds of every
later thread that comes there. Every plan that is made for an expression is numbered in this way (`exists_numbered_matcher`); the
two copies of a repetition's first part have the same numbers, but also the same tasks after them.
-/

namespace Phrasebook.Regex

variable {a b c n low high : Nat} {table other : Nat → List Task} {tasks others first second : List Task} {p q : Place}
  {plan plan' : Plan} {lazily : Bool}

/-- The task, whatever the place where its group began. -/
def Task.bare : Task → Task
  | .run plan => .run plan
  | .close index _ => .close index 0

/-- Each choice of the plan has a number from `low` on and below `high`, and by its number the table tells what remains to be done
there, given the tasks after the plan. -/
def Plan.Numbered (low high : Nat) (table : Nat → List Task) : Plan → List Task → Prop
  | .sequence first second, tasks =>
    first.Numbered low high table (.run second :: tasks) ∧ second.Numbered low high table tasks
  | .choice n first second, tasks =>
    (low ≤ n ∧ n < high) ∧ table n = .run (.choice n first second) :: tasks ∧
      first.Numbered low high table tasks ∧ second.Numbered low high table tasks
  | .group index inside, tasks => inside.Numbered low high table (.close index 0 :: tasks)
  | .loop n lazily inside, tasks =>
    (low ≤ n ∧ n < high) ∧ table n = .run (.loop n lazily inside) :: tasks ∧
      inside.Numbered low high table (.run (.loop n lazily inside) :: tasks)
  | .done, _ | .text _, _ | .oneOf _, _ | .assertion _, _ => True

/-! ## Threads -/

/-- All plans of tasks are numbered, each with the tasks after it. -/
def Numbered (high : Nat) (table : Nat → List Task) : List Task → Prop
  | [] => True
  | .run plan :: tasks => plan.Numbered 0 high table (tasks.map Task.bare) ∧ Numbered high table tasks
  | .close .. :: tasks => Numbered high table tasks

/-- Every step of a search leaves tasks that are numbered by the same table. -/
theorem kept_numbered (high : Nat) (table : Nat → List Task) : Kept fun tasks _ => Numbered high table tasks where
  goOn h hnumbered := by
    cases h with
    | close => exact hnumbered
    | done | text | oneOf | assertion => exact hnumbered.2
    | sequence => exact ⟨hnumbered.1.1, hnumbered.1.2, hnumbered.2⟩
    | group => exact hnumbered
  choose h hnumbered := by
    cases h with
    | choice =>
      obtain ⟨⟨-, -, hfirst, hsecond⟩, htasks⟩ := hnumbered
      exact ⟨⟨hfirst, htasks⟩, hsecond, htasks⟩
    | lazily => exact ⟨hnumbered.2, hnumbered.1.2.2, hnumbered⟩
    | eagerly => exact ⟨⟨hnumbered.1.2.2, hnumbered⟩, hnumbered.2⟩

/-- What remains to be done at a choice is what the table tells. -/
theorem Numbered.of_divides (h : Divides tasks n first second) (hnumbered : Numbered high table tasks) :
    n < high ∧ table n = tasks.map Task.bare := by
  cases h <;> exact ⟨hnumbered.1.1.2, hnumbered.1.2.1⟩

/-! ## Plans -/

/-- A plan stays numbered by another table that tells the same, in a wider range. -/
theorem Plan.Numbered.widen (h : plan.Numbered a b table tasks) (htable : ∀ n, a ≤ n → n < b → other n = table n)
    (hlow : low ≤ a) (hhigh : b ≤ high) : plan.Numbered low high other tasks := by
  induction plan generalizing tasks with
  | done | text | oneOf | assertion => trivial
  | sequence first second ihFirst ihSecond => exact ⟨ihFirst h.1, ihSecond h.2⟩
  | choice n first second ihFirst ihSecond =>
    obtain ⟨hn, htasks, hfirst, hsecond⟩ := h
    exact ⟨⟨hlow.trans hn.1, hn.2.trans_le hhigh⟩, (htable n hn.1 hn.2).trans htasks, ihFirst hfirst, ihSecond hsecond⟩
  | group index inside ih =>
    have hinside : inside.Numbered a b table (.close index 0 :: tasks) := h
    exact ih hinside
  | loop n lazily inside ih =>
    obtain ⟨hn, htasks, hinside⟩ := h
    exact ⟨⟨hlow.trans hn.1, hn.2.trans_le hhigh⟩, (htable n hn.1 hn.2).trans htasks, ih hinside⟩

/-- Whatever comes after the plan, its choices can be numbered from `low` on and below `high`. -/
def Plan.Numbers (low high : Nat) (plan : Plan) : Prop :=
  low ≤ high ∧ ∀ tasks, ∃ table, plan.Numbered low high table tasks

namespace Plan.Numbers

/-- A plan in which nothing is to be chosen uses no number. -/
theorem of_noChoice (plan : Plan) (n : Nat) (h : ∀ low high table tasks, plan.Numbered low high table tasks) :
    plan.Numbers n n :=
  ⟨Nat.le_refl n, fun tasks => ⟨fun _ => [], h n n _ tasks⟩⟩

/-- Plans with numbers in ranges apart from each other are numbered by one table. -/
theorem both (hp : plan.Numbers a b) (hq : plan'.Numbers b c) (tasks others : List Task) :
    ∃ table, plan.Numbered a c table tasks ∧ plan'.Numbered a c table others := by
  obtain ⟨tp, htp⟩ := hp.2 tasks
  obtain ⟨tq, htq⟩ := hq.2 others
  refine ⟨fun n => if n < b then tp n else tq n, htp.widen (fun n _ hn => if_pos hn) (Nat.le_refl a) hq.1,
    htq.widen (fun n hn _ => if_neg (Nat.not_lt.mpr hn)) hp.1 (Nat.le_refl c)⟩

/-- The parts of a sequence are numbered one after the other. -/
theorem sequence (hp : plan.Numbers a b) (hq : plan'.Numbers b c) : (Plan.sequence plan plan').Numbers a c :=
  ⟨hp.1.trans hq.1, fun tasks => both hp hq (.run plan' :: tasks) tasks⟩

/-- Or in the other order, as where the second part is made first. -/
theorem sequence' (hp : plan.Numbers b c) (hq : plan'.Numbers a b) : (Plan.sequence plan plan').Numbers a c :=
  ⟨hq.1.trans hp.1, fun tasks =>
    let ⟨table, hq, hp⟩ := both hq hp tasks (.run plan' :: tasks)
    ⟨table, hp, hq⟩⟩

/-- A group is numbered as its inside is. -/
theorem group (hp : plan.Numbers a b) (index : Nat) : (Plan.group index plan).Numbers a b :=
  ⟨hp.1, fun tasks => hp.2 (.close index 0 :: tasks)⟩

/-- One more number is that of a choice with given tasks. -/
theorem update_widen (hp : plan.Numbered a b table others) (tasks : List Task) :
    plan.Numbered a (b + 1) (Function.update table b tasks) others :=
  hp.widen (fun _ _ hn => Function.update_of_ne hn.ne _ _) (Nat.le_refl a) (Nat.le_succ b)

/-- A choice takes the next number after those of its alternatives. -/
theorem choice (hp : plan.Numbers a b) (hq : plan'.Numbers b c) : (Plan.choice c plan plan').Numbers a (c + 1) := by
  have hle := hp.1.trans hq.1
  refine ⟨hle.trans (Nat.le_succ c), fun tasks => ?_⟩
  obtain ⟨table, hp, hq⟩ := both hp hq tasks tasks
  exact ⟨_, ⟨hle, Nat.lt_succ_self c⟩, Function.update_self .., update_widen hp _, update_widen hq _⟩

/-- So does an optional part. -/
theorem optional (hp : plan.Numbers a b) (lazily : Bool) : (Plan.optional b lazily plan).Numbers a (b + 1) := by
  have hdone : ∀ n, Plan.done.Numbers n n := fun n => of_noChoice .done n fun _ _ _ _ => trivial
  cases lazily
  · exact choice hp (hdone b)
  · exact choice (hdone a) hp

/-- A loop takes the next number after its inside, and comes back to itself. -/
theorem loop (hp : plan.Numbers a b) (lazily : Bool) : (Plan.loop b lazily plan).Numbers a (b + 1) := by
  refine ⟨hp.1.trans (Nat.le_succ b), fun tasks => ?_⟩
  obtain ⟨table, hp'⟩ := hp.2 (.run (.loop b lazily plan) :: tasks)
  exact ⟨_, ⟨hp.1, Nat.lt_succ_self b⟩, Function.update_self .., update_widen hp' _⟩

/-- The part before a loop is followed by the loop, as it is inside. -/
theorem repeated (hp : plan.Numbers a b) (lazily : Bool) : (Plan.repeated b lazily plan).Numbers a (b + 1) := by
  obtain ⟨hle, hloop⟩ := loop hp lazily
  refine ⟨hle, fun tasks => ?_⟩
  obtain ⟨table, hinside⟩ := hloop tasks
  exact ⟨table, hinside.2.2, hinside⟩

end Plan.Numbers

/-! ## Planners -/

/-- Does the planner number the choices of its plans from the given number on, below the one that it tells? -/
def Planner.Numbers (make : Planner) : Prop := ∀ n, (make n).1.Numbers n (make n).2

variable {make : Planner} {rest : Plan}

/-- Copies that are made one after the other are numbered so. -/
theorem numbers_copies (hmake : make.Numbers) (hrest : rest.Numbers low n) (count : Nat) :
    (copies make rest count n).1.Numbers low (copies make rest count n).2 := by
  induction count generalizing rest n with
  | zero => exact hrest
  | succ count ih => exact ih ((hmake n).sequence' hrest)

/-- Optional copies stand inside one another and are numbered from the innermost on. -/
theorem numbers_optionalCopies (hmake : make.Numbers) (hrest : rest.Numbers low n) (lazily : Bool) (count : Nat) :
    (optionalCopies make lazily rest count n).1.Numbers low (optionalCopies make lazily rest count n).2 := by
  induction count generalizing rest n with
  | zero => exact hrest
  | succ count ih => exact ih (((hmake n).sequence' hrest).optional lazily)

/-- A repetition numbers its copies and its loop, whichever of them it is made of. -/
theorem numbers_planRepetition (hmake : make.Numbers) (least : Nat) (most : Option Nat) (lazily consumes : Bool) :
    Planner.Numbers (planRepetition make least most lazily consumes) := by
  intro n
  match most, least with
  | some most, least =>
    have hdone : Plan.done.Numbers n n := .of_noChoice .done n fun _ _ _ _ => trivial
    exact numbers_copies hmake (numbers_optionalCopies hmake hdone lazily _) least
  | none, 0 =>
    rw [planRepetition, planAny]
    cases consumes
    · exact ((hmake n).repeated lazily).optional lazily
    · exact (hmake n).loop lazily
  | none, least + 1 => exact numbers_copies hmake ((hmake n).repeated lazily) least

/-- By induction over the expression: each plan takes numbers that no other one has. -/
theorem numbers_planFrom (r : Regex) : Planner.Numbers r.planFrom := by
  induction r with
  | empty => exact fun n => .of_noChoice .done n fun _ _ _ _ => trivial
  | text chars => exact fun n => .of_noChoice (.text chars) n fun _ _ _ _ => trivial
  | oneOf set => exact fun n => .of_noChoice (.oneOf set) n fun _ _ _ _ => trivial
  | assertion a => exact fun n => .of_noChoice (.assertion a) n fun _ _ _ _ => trivial
  | sequence first second ihFirst ihSecond => exact fun n => (ihFirst n).sequence (ihSecond _)
  | alternatives first second ihFirst ihSecond => exact fun n => (ihFirst n).choice (ihSecond _)
  | group index inside ih => exact fun n => (ih n).group index
  | repetition least most lazily inside ih => exact numbers_planRepetition ih least most lazily _

/-- The choices of a matcher for an expression are numbered by some table. -/
theorem exists_numbered_matcher (r : Regex) : ∃ table, Numbered r.matcher.choices table [.run r.matcher.plan] :=
  let ⟨table, h⟩ := (numbers_planFrom r 0).2 []
  ⟨table, h, trivial⟩

end Phrasebook.Regex
