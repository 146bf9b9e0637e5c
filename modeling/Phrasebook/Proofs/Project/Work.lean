import Mathlib.Data.List.Forall2
import Phrasebook.Project.Work

/-!
# What work comes to

Work that succeeds gives a result and leaves a file system (`Yields`). The parts of composed work succeed one after the other,
each on the file system that the one before leaves.
-/

namespace Phrasebook

namespace Work

variable {α β γ : Type} {w : Work α} {f : α → Work β} {fs fs' fs'' : FileSystem} {a : α} {b : β} {l : List α}

/-! ## Work as a monad -/

/-- The second part of composed work starts on the file system that the first one leaves, and is left out if that one
fails. -/
theorem run_bind (w : Work α) (f : α → Work β) (fs : FileSystem) : (w >>= f).run fs =
    match (w.run fs).result with
    | .error e => ⟨.error e, (w.run fs).fs, (w.run fs).warnings⟩
    | .ok a =>
      let second := (f a).run (w.run fs).fs
      ⟨second.result, second.fs, (w.run fs).warnings ++ second.warnings⟩ := rfl

theorem bind_pure_eq (w : Work α) : w >>= pure = w := by
  funext fs
  show (w >>= pure).run fs = w.run fs
  rw [run_bind]
  obtain ⟨result, after, warnings⟩ := w.run fs
  cases result with
  | error e => rfl
  | ok a => exact congrArg (Outcome.mk _ _) (List.append_nil _)

/-- It does not matter how work of three parts is put together; the warnings stand in the order of the parts. -/
theorem bind_bind_eq (w : Work α) (f : α → Work β) (g : β → Work γ) : w >>= f >>= g = w >>= fun a => f a >>= g := by
  funext fs
  show (w >>= f >>= g).run fs = (w >>= fun a => f a >>= g).run fs
  simp only [run_bind]
  obtain ⟨result, after, warnings⟩ := w.run fs
  cases result with
  | error e => rfl
  | ok a =>
    dsimp only
    obtain ⟨result, after, warnings⟩ := (f a).run after
    cases result with
    | error e => rfl
    | ok b => exact congrArg (Outcome.mk _ _) (List.append_assoc ..)

instance : LawfulMonad Work := LawfulMonad.mk' _ bind_pure_eq (fun _ _ => rfl) bind_bind_eq

/-! ## Success -/

/-- The work, done on the first file system, succeeds with the result and leaves the second file system. -/
def Yields (w : Work α) (fs : FileSystem) (a : α) (fs' : FileSystem) : Prop :=
  (w.run fs).result = .ok a ∧ (w.run fs).fs = fs'

/-- Work that does not fail yields what it leaves. Whether a run fails can be computed, the result it yields need not be
named. -/
theorem exists_yields (h : (w.run fs).result.isOk = true) : ∃ a, w.Yields fs a (w.run fs).fs := by
  cases hresult : (w.run fs).result with
  | error e => simp [hresult, Except.isOk, Except.toBool] at h
  | ok a => exact ⟨a, hresult, rfl⟩

@[simp] theorem yields_pure_iff {a' : α} : (pure a : Work α).Yields fs a' fs' ↔ a = a' ∧ fs = fs' :=
  and_congr_left fun _ => ⟨Except.ok.inj, congrArg _⟩

/-- Asking for the file system changes nothing in it. -/
@[simp] theorem yields_files_iff : files.Yields fs fs' fs'' ↔ fs = fs' ∧ fs = fs'' :=
  and_congr_left fun _ => ⟨Except.ok.inj, congrArg _⟩

/-- A computation that may fail reads and writes no files. -/
@[simp] theorem yields_ofExcept_iff {x : Except Failure α} : (ofExcept x).Yields fs a fs' ↔ x = .ok a ∧ fs = fs' := .rfl

/-- Neither does one that only warns, and it never fails. -/
@[simp] theorem yields_ofLogged_iff {x : Logged α} : (ofLogged x).Yields fs a fs' ↔ x.value = a ∧ fs = fs' :=
  and_congr_left fun _ => ⟨Except.ok.inj, congrArg _⟩

/-- A warning leaves everything else as it is. -/
@[simp] theorem yields_warn_iff {warning : Warning} {u : Unit} : (warn warning).Yields fs u fs' ↔ fs = fs' :=
  ⟨And.right, fun h => ⟨rfl, h⟩⟩

/-- Composed work succeeds if its parts do, the second one on what the first one leaves. -/
@[simp] theorem yields_bind_iff :
    (w >>= f).Yields fs b fs'' ↔ ∃ a fs', w.Yields fs a fs' ∧ (f a).Yields fs' b fs'' := by
  unfold Yields
  rw [run_bind]
  cases hresult : (w.run fs).result with
  | error e => simp
  | ok a =>
    simp only [Except.ok.injEq]
    constructor
    · exact fun h => ⟨a, _, ⟨rfl, rfl⟩, h⟩
    · rintro ⟨_, _, ⟨rfl, rfl⟩, h⟩
      exact h

/-- What is made of a result does not touch the files. -/
@[simp] theorem yields_map_iff {g : α → β} : (g <$> w).Yields fs b fs' ↔ ∃ a, w.Yields fs a fs' ∧ g a = b := by
  rw [map_eq_pure_bind, yields_bind_iff]
  simp only [yields_pure_iff]
  constructor
  · rintro ⟨a, _, h, hb, rfl⟩
    exact ⟨a, h, hb⟩
  · rintro ⟨a, h, hb⟩
    exact ⟨a, fs', h, hb, rfl⟩

/-- A warning that may be told before other work does not matter to it. -/
theorem yields_ite_warn_iff {p : Prop} [Decidable p] {warning : Warning} :
    (if p then warn warning >>= fun _ => w else w).Yields fs a fs' ↔ w.Yields fs a fs' := by
  split
  · simp
  · rfl

/-- Work on a list that leaves the file system as it is succeeds if it does on each of its elements. -/
theorem yields_mapM_iff {results : List β} (hkeep : ∀ a b fs', (f a).Yields fs b fs' → fs = fs') :
    (l.mapM f).Yields fs results fs' ↔ List.Forall₂ (fun a b => (f a).Yields fs b fs) l results ∧ fs = fs' := by
  induction l generalizing results fs' with
  | nil =>
    rw [List.mapM_nil, yields_pure_iff, List.forall₂_nil_left_iff, eq_comm]
  | cons a l ih =>
    simp only [List.mapM_cons, yields_bind_iff, yields_pure_iff]
    constructor
    · rintro ⟨b, mid, hfirst, others, fs'', hothers, rfl, rfl⟩
      obtain rfl := hkeep _ _ _ hfirst
      obtain ⟨hall, rfl⟩ := ih.mp hothers
      exact ⟨.cons hfirst hall, rfl⟩
    · rintro ⟨hall, rfl⟩
      cases hall with
      | cons hfirst hall => exact ⟨_, fs, hfirst, _, fs, ih.mpr ⟨hall, rfl⟩, rfl, rfl⟩

end Work

end Phrasebook
