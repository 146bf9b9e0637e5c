import Mathlib.Algebra.BigOperators.Group.List.Lemmas
import Mathlib.Algebra.Ring.Nat
import Mathlib.Data.List.SplitBy
import Phrasebook.Regex.Size

/-!
# How much memory an expression needs at most

What an automaton takes is bounded part by part: a part that takes at most some bytes succeeds where so many are left (`Takes`).
Sharing of states is left out of account, so a set takes a few states for each of its encodings. An expression whose footprint is
within the limit fits (`fits_of_footprint_le`); alternatives that are all texts are not counted.
-/

namespace Phrasebook.Regex

open Unicode

variable {α β γ : Type} {size : α → Nat} {size' : β → Nat} {size'' : γ → Nat} {m n : Nat}

/-! ## What takes at most some bytes -/

/-- Where `n` bytes are left, the step succeeds and takes at most so many. -/
def Takes (size : α → Nat) (size' : β → Nat) (n : Nat) (f : α → Option β) : Prop :=
  ∀ a, size a + n ≤ Size.limit → ∃ b, f a = some b ∧ size' b ≤ size a + n

namespace Takes

variable {f : α → Option β} {g : β → Option γ}

/-- What takes little takes no more than much. -/
theorem mono (h : Takes size size' m f) (hle : m ≤ n) : Takes size size' n f := fun a ha =>
  let ⟨b, hb, hsize⟩ := h a (by omega)
  ⟨b, hb, by omega⟩

/-- One part after the other takes what both of them take. -/
theorem bind (hf : Takes size size' m f) (hg : Takes size' size'' n g) : Takes size size'' (m + n) fun a => (f a).bind g := by
  intro a ha
  obtain ⟨b, hb, hsize⟩ := hf a (by omega)
  obtain ⟨c, hc, hsize'⟩ := hg b (by omega)
  exact ⟨c, (congrArg (Option.bind · g) hb).trans hc, by omega⟩

/-- Steps for the members of a list take together what each of them takes. -/
theorem foldlM {step : α → β → Option α} {cost : β → Nat} {items : List β}
    (h : ∀ b ∈ items, Takes size size (cost b) (step · b)) : Takes size size (items.map cost).sum (items.foldlM step) := by
  induction items with
  | nil => exact fun a _ => ⟨a, rfl, Nat.le_refl _⟩
  | cons b items ih =>
    obtain ⟨hb, hitems⟩ := List.forall_mem_cons.mp h
    rw [List.map_cons, List.sum_cons]
    exact hb.bind (ih hitems)

/-- Where each item takes at most the same, all of them take that as often as there are items. -/
theorem foldlM_length {step : α → β → Option α} {items : List β} (h : ∀ b ∈ items, Takes size size n (step · b)) :
    Takes size size (items.length * n) (items.foldlM step) := by
  have hsum := @foldlM _ _ size step (fun _ => n) items h
  rwa [List.map_const', List.sum_replicate_nat] at hsum

end Takes

/-! ## Growth -/

/-- Does the part take at most `n` bytes? -/
def Growth.Takes (g : Growth) (n : Nat) : Prop := Regex.Takes Size.memory Size.memory n g.apply

namespace Growth.Takes

variable {g h : Growth}

/-- A bound on a growth may be raised. -/
theorem mono (hg : g.Takes m) (hle : m ≤ n) : g.Takes n := Regex.Takes.mono hg hle

/-- Nothing takes no bytes. -/
theorem nothing : Growth.nothing.Takes 0 := fun s _ => ⟨s, rfl, Nat.le_refl _⟩

/-- A state takes 32 bytes, and the lists that belong to states take theirs. -/
theorem add (states lists : Nat) : (Growth.add states lists).Takes (32 * states + lists) := by
  intro s hs
  have hmemory : Size.memory ⟨s.states + states, s.lists + lists⟩ = s.memory + (32 * states + lists) := by
    simp only [Size.memory]
    omega
  exact ⟨_, if_pos (hmemory ▸ hs), hmemory.le⟩

/-- Two growths after one another take the sum. -/
theorem andThen (hg : g.Takes m) (hh : h.Takes n) : (g.andThen h).Takes (m + n) := Regex.Takes.bind hg hh

/-- A growth that is repeated takes its bytes each time. -/
theorem times (hg : g.Takes n) (count : Nat) : (g.times count).Takes (count * n) := by
  induction count with
  | zero => exact fun s _ => ⟨s, rfl, by omega⟩
  | succ count ih =>
    intro s hs
    rw [Nat.succ_mul] at hs ⊢
    obtain ⟨grown, hgrown, hmemory⟩ := hg s (by omega)
    obtain ⟨result, hresult, hmemory'⟩ := ih grown (by omega)
    refine ⟨result, ?_, by omega⟩
    change g.applyTimes (count + 1) s = some result
    rw [Growth.applyTimes, hgrown]
    exact hresult

end Growth.Takes

/-! ## Sets -/

namespace SharedStates

/-- The memory of the automaton that grows. -/
def memory (states : SharedStates) : Nat := states.size.memory

/-- A growth that takes at most some bytes succeeds in a memory where these are left. -/
theorem takes_grow? {g : Growth} (h : g.Takes n) : Takes memory memory n (·.grow? g) := by
  intro states hstates
  obtain ⟨grown, hgrown, hmemory⟩ := h states.size hstates
  exact ⟨{ states with size := grown }, by simp only [SharedStates.grow?, hgrown], hmemory⟩

/-- A state takes 32 bytes and its list, unless there is one that consists of the same. -/
theorem takes_state? (content : List Nat) (lists : Nat) :
    Takes memory (memory ∘ Prod.snd) (32 + lists) (·.state? content lists) := by
  intro states hstates
  have hnew : ∀ slot, ∃ r, states.new? slot content lists = some r ∧ memory r.2 ≤ states.memory + (32 + lists) := by
    intro slot
    obtain ⟨grown, hgrown, hmemory⟩ := Growth.Takes.add 1 lists states.size hstates
    exact ⟨_, by rw [new?, hgrown], by simpa only [memory] using hmemory⟩
  simp only [state?]
  split
  · split
    · exact ⟨_, rfl, Nat.le_add_right _ _⟩
    · exact hnew _
  · exact hnew _

end SharedStates

open SharedStates (memory)

/-- Read backward, an encoding takes a state for each of its bytes. -/
theorem takes_backwardState? (target : Nat) (encoding : ByteRanges) :
    Takes memory (memory ∘ Prod.snd) (encoding.length * 32) (backwardState? target encoding) := by
  have hfold : Takes (memory ∘ Prod.snd) (memory ∘ Prod.snd) (encoding.length * 32)
      (encoding.foldlM fun made range => made.2.state? [made.1, range.1, range.2] 0) :=
    .foldlM_length fun range _ r hr => SharedStates.takes_state? [r.1, range.1, range.2] 0 r.2 hr
  exact fun states hstates => hfold (target, states) hstates

/-- An encoding has four bytes at most, and there is one list for it. -/
theorem takes_backwardStates? (target : Nat) {encodings : List ByteRanges} (h : ∀ e ∈ encodings, e.length ≤ 4) :
    Takes memory memory (encodings.length * 132) (backwardStates? target encodings) := by
  refine .foldlM_length fun encoding hmem => ?_
  have hlength := h encoding hmem
  have hgrow : Takes (memory ∘ Prod.snd) memory 4 fun r : Nat × SharedStates => r.2.grow? (.add 0 4) :=
    fun r hr => SharedStates.takes_grow? (Growth.Takes.add 0 4) r.2 hr
  exact ((takes_backwardState? target encoding).bind hgrow).mono (by omega)

/-- The transitions of a state, the last one first, after one more for encodings that begin with the same range. -/
def forwardStep (target length : Nat) (made : List (List Nat) × SharedStates) (alike : List ByteRanges) :
    Option (List (List Nat) × SharedStates) := do
  let rests := alike.map List.tail
  let (next, states) ← if rests.all List.isEmpty then some (target, made.2) else forwardState? target length rests made.2
  match alike with
  | (range :: _) :: _ => return ([range.1, range.2, next] :: made.1, states)
  | _ => return (made.1, states)

/-- Read forward, encodings that begin alike share a state, whose list names what comes behind each first byte. -/
theorem forwardState?_succ (target length : Nat) (encodings : List ByteRanges) (states : SharedStates) :
    forwardState? target (length + 1) encodings states =
      ((encodings.splitBy sameFirst).foldlM (forwardStep target length) ([], states)).bind fun made =>
        made.2.state? made.1.reverse.flatten (8 * made.1.length) := rfl

/-- The memory of an automaton to which transitions of one more state will be added. -/
def memoryWith (made : List (List Nat) × SharedStates) : Nat := memory made.2 + 8 * made.1.length

/-- One group of encodings that begin alike takes what the bytes behind the first take, and its own entry. -/
theorem takes_forwardStep {target length : Nat} {alike : List ByteRanges}
    (h : Takes memory (memory ∘ Prod.snd) (alike.length * (40 * length) + 32)
      (forwardState? target length (alike.map List.tail))) :
    Takes memoryWith memoryWith (alike.length * (40 * length) + 40) (forwardStep target length · alike) := by
  intro made hmade
  rw [memoryWith] at hmade
  generalize alike.length * (40 * length) = cost at h hmade ⊢
  -- the state reached, and then its transition
  have hmatch : ∀ r : Nat × SharedStates, memory r.2 ≤ memory made.2 + (cost + 32) →
      ∃ b, (match r with
        | (next, states) => match alike with
          | (range :: _) :: _ => some ([range.1, range.2, next] :: made.1, states)
          | _ => some (made.1, states)) = some b ∧ memoryWith b ≤ memoryWith made + (cost + 40) := by
    intro r hr
    dsimp only
    split
    · exact ⟨_, rfl, by simp only [memoryWith, List.length_cons]; omega⟩
    · exact ⟨_, rfl, by simp only [memoryWith]; omega⟩
  simp only [forwardStep]
  split
  · exact hmatch (target, made.2) (Nat.le_add_right _ _)
  · obtain ⟨r, hr, hmemory⟩ := h made.2 (by omega)
    rw [hr]
    exact hmatch r hmemory

/-- The parts into which a list is split have no more members than the list, and there are no more parts than members. -/
theorem sum_splitBy_le {r : β → β → Bool} (items : List β) (m n : Nat) :
    ((items.splitBy r).map fun part => part.length * m + n).sum ≤ items.length * (m + n) := by
  have hsum : ∀ parts : List (List β), [] ∉ parts →
      (parts.map fun part => part.length * m + n).sum ≤ parts.flatten.length * (m + n) := by
    intro parts hparts
    induction parts with
    | nil => exact Nat.zero_le _
    | cons part parts ih =>
      rw [List.mem_cons, not_or] at hparts
      have hpart : 1 * n ≤ part.length * n := Nat.mul_le_mul_right n (List.length_pos_iff.mpr (Ne.symm hparts.1))
      have hrest := ih hparts.2
      rw [List.map_cons, List.sum_cons, List.flatten_cons, List.length_append, Nat.add_mul, Nat.mul_add part.length]
      omega
  have h := hsum (items.splitBy r) (List.nil_notMem_splitBy r items)
  rwa [List.flatten_splitBy] at h

/-- Encodings that begin with the same range go on from one state. -/
theorem takes_forwardState? (target length : Nat) (encodings : List ByteRanges) :
    Takes memory (memory ∘ Prod.snd) (encodings.length * (40 * length) + 32) (forwardState? target length encodings) := by
  induction length generalizing encodings with
  | zero => exact fun states _ => ⟨(target, states), rfl, Nat.le_add_right _ _⟩
  | succ length ih =>
    have hsteps : Takes memoryWith memoryWith _ ((encodings.splitBy sameFirst).foldlM (forwardStep target length)) :=
      .foldlM fun alike _ => takes_forwardStep (by
        have h := ih (alike.map List.tail)
        rwa [List.length_map] at h)
    have hsum := sum_splitBy_le (r := sameFirst) encodings (40 * length) 40
    intro states hstates
    rw [Nat.mul_succ] at hstates ⊢
    obtain ⟨made, hmade, hmemory⟩ := hsteps ([], states) (by
      have hmemory : memoryWith ([], states) = memory states := rfl
      omega)
    have hmemory' : memoryWith ([], states) = memory states := rfl
    have hmadeMemory : memoryWith made = memory made.2 + 8 * made.1.length := rfl
    obtain ⟨r, hr, hlast⟩ := SharedStates.takes_state? made.1.reverse.flatten (8 * made.1.length) made.2 (by omega)
    refine ⟨r, ?_, by omega⟩
    rw [forwardState?_succ]
    exact (congrArg (Option.bind · _) hmade).trans hr

/-! ## Encodings -/

/-- In UTF-8 no character takes more than four bytes. -/
theorem length_le_of_mem_encodings {set : Ranges} {e : ByteRanges} (h : e ∈ set.encodings) : e.length ≤ 4 := by
  have hbytes : ∀ n, (bytesOf n).length ≤ 4 := fun n => by
    rw [bytesOf, List.length_map]
    exact String.length_utf8EncodeChar (Char.ofNat n) ▸ Char.utf8Size_le_four _
  have hbetween : ∀ {first last}, e ∈ encodingsBetween first last → e.length ≤ 4 := by
    intro first last h
    fun_induction encodingsBetween first last with
    | case1 first last =>
      rw [List.mem_singleton.mp h, List.length_zip]
      exact (Nat.min_le_left _ _).trans (hbytes first)
    | case2 first last m _ ih₁ ih₂ => exact (List.mem_append.mp h).elim ih₁ ih₂
  obtain ⟨r, -, he⟩ := List.mem_flatMap.mp h
  rw [encodingsOf] at he
  split at he
  · exact (List.mem_append.mp he).elim hbetween hbetween
  · exact hbetween he

/-- How much memory a set needs at most. -/
def setFootprint (set : Ranges) : Nat := 64 + 8 * set.length + 160 * set.encodings.length

/-- In either direction a set takes no more than its footprint. -/
theorem takes_growSet (backward : Bool) (set : Ranges) : (growSet backward set).Takes (setFootprint set) := by
  rw [growSet, setFootprint]
  split
  · exact (Growth.Takes.add 2 _).mono (by omega)
  · intro s hs
    cases backward with
    | true =>
      obtain ⟨grown, hgrown, hmemory⟩ := Growth.Takes.add 2 0 s (by omega)
      obtain ⟨states, hstates, hmemory'⟩ := takes_backwardStates? (grown.states - 1) (fun _ => length_le_of_mem_encodings)
        (.start grown 1000) (show grown.memory + set.encodings.length * 132 ≤ _ by omega)
      have hstart : memory (.start grown 1000) = grown.memory := rfl
      refine ⟨states.size, ?_, show memory states ≤ _ by omega⟩
      simp only [growEncodings, hgrown, if_true]
      exact (congrArg (Option.bind · _) hstates).trans rfl
    | false =>
      obtain ⟨grown, hgrown, hmemory⟩ := Growth.Takes.add 1 0 s (by omega)
      obtain ⟨r, hr, hmemory'⟩ := takes_forwardState? (grown.states - 1) 4 set.encodings (.start grown 10000)
        (show grown.memory + _ ≤ _ by omega)
      have hstart : memory (.start grown 10000) = grown.memory := rfl
      refine ⟨r.2.size, ?_, show memory r.2 ≤ _ from ?_⟩
      · simp only [growEncodings, hgrown, Bool.false_eq_true, if_false]
        exact (congrArg (Option.bind · _) hr).trans rfl
      · have hlast : memory r.2 ≤ grown.memory + (set.encodings.length * (40 * 4) + 32) := hmemory'
        omega

/-! ## Expressions -/

/-- Are no alternatives of the expression all texts? -/
def isMixed : Regex → Bool
  | .alternatives first second => (texts? (.alternatives first second)).isNone && first.isMixed && second.isMixed
  | .sequence first second => first.isMixed && second.isMixed
  | .group _ inside => inside.isMixed
  | .repetition _ _ _ inside => inside.isMixed
  | .empty | .text _ | .oneOf _ | .assertion _ => true

/-- How much memory an expression needs at most in an automaton. -/
def footprint : Regex → Nat
  | .empty => 104
  | .text chars => 32 * (encodedText chars).length + 72
  | .oneOf set => setFootprint set + 72
  | .assertion _ => 104
  | .sequence first second => first.footprint + second.footprint + 72
  | .alternatives first second => first.footprint + second.footprint + 72
  | .group _ inside => inside.footprint + 136
  | .repetition least most _ inside =>
    least * inside.footprint + (most.getD 1 - least) * (inside.footprint + 40) + inside.footprint + 184

/-- Two states and their lists at most, for the second branch; later ones take less. -/
theorem takes_growJoint (before : Nat) : (growJoint before).Takes 72 := by
  match before with
  | 0 => exact Growth.Takes.nothing.mono (by decide)
  | 1 => exact Growth.Takes.add 2 8
  | n + 2 => exact (Growth.Takes.add 0 4).mono (by decide)

/-- A repetition takes its inside as often as it has to stand, and once more with a way out for each time that it may.
-/
theorem takes_growRepetition {inside : Growth} (h : inside.Takes n) (least : Nat) (most : Option Nat) (consumes : Bool) :
    (growRepetition least most consumes inside).Takes (least * n + (most.getD 1 - least) * (n + 40) + n + 112) := by
  have hadd := @Growth.Takes.add
  match most, least with
  | none, 0 =>
    rw [growRepetition]
    split
    · exact ((hadd 1 8).andThen h).mono (by omega)
    · exact (h.andThen (hadd 3 16)).mono (by omega)
  | none, least + 1 => exact ((h.times (least + 1)).andThen (hadd 1 8)).mono (by omega)
  | some most, least =>
    rw [growRepetition, Option.getD_some]
    have hcopies : (if least = 0 then Growth.add 1 0 else inside.times least).Takes (least * n + 32) := by
      split
      · exact (hadd 1 0).mono (by omega)
      · exact (h.times least).mono (by omega)
    split
    · exact hcopies.mono (by omega)
    · split
      · exact (((hadd 1 8).andThen h).andThen (hadd 1 0)).mono (by omega)
      · have hinside : ((Growth.add 1 8).andThen inside).Takes (n + 40) := ((hadd 1 8).andThen h).mono (by omega)
        have hoptional := hinside.times (most - least)
        exact ((hcopies.andThen (hadd 1 0)).andThen hoptional).mono (by omega)

/-- By induction over the expression, part by part. -/
theorem takes_grow {r : Regex} (h : r.isMixed = true) (backward : Bool) (before : Nat) :
    (r.grow backward before).Takes r.footprint := by
  have hadd := @Growth.Takes.add
  induction r generalizing before with
  | empty => exact ((hadd 1 0).andThen (takes_growJoint before)).mono (by decide)
  | text chars => exact (hadd _ 0).andThen (takes_growJoint before)
  | oneOf set => exact (takes_growSet backward set).andThen (takes_growJoint before)
  | assertion a => exact ((hadd 1 0).andThen (takes_growJoint before)).mono (Nat.le_refl 104)
  | sequence first second ihFirst ihSecond =>
    obtain ⟨hfirst, hsecond⟩ := Bool.and_eq_true_iff.mp h
    refine Growth.Takes.andThen ?_ (takes_growJoint before)
    cases backward
    · exact (ihFirst hfirst 0).andThen (ihSecond hsecond 0)
    · exact ((ihSecond hsecond 0).andThen (ihFirst hfirst 0)).mono (Nat.add_comm _ _).le
  | alternatives first second ihFirst ihSecond =>
    simp only [isMixed, Bool.and_eq_true, Option.isNone_iff_eq_none] at h
    obtain ⟨⟨htexts, hfirst⟩, hsecond⟩ := h
    have hgrow : (Regex.alternatives first second).grow backward before =
        ((first.grow backward 0).andThen (growJoint before)).andThen (second.grow backward (before + 1)) := by
      rw [grow, htexts]
      split <;> simp_all
    rw [hgrow, footprint]
    exact (((ihFirst hfirst 0).andThen (takes_growJoint before)).andThen (ihSecond hsecond _)).mono (by omega)
  | group index inside ih =>
    refine (Growth.Takes.andThen (m := inside.footprint + 64) ?_ (takes_growJoint before)).mono (Nat.le_refl _)
    cases backward
    · exact (((hadd 1 0).andThen (ih h 0)).andThen (hadd 1 0)).mono (by omega)
    · exact (ih h 0).mono (by omega)
  | repetition least most lazily inside ih =>
    exact (takes_growRepetition (ih h 0) least most _).andThen (takes_growJoint before)

/-- Where the footprint is within the limit, there is enough memory for the expression. -/
theorem fits_of_footprint_le {r : Regex} (hmixed : r.isMixed = true) (h : r.footprint + 208 ≤ Size.limit) : r.fits = true := by
  have hadd := @Growth.Takes.add
  have hsearch : ∀ bound, (growSearch bound).Takes 112 := fun bound => by
    cases bound
    · exact hadd 3 16
    · exact (hadd 1 0).mono (by decide)
  have hfits : ∀ {g : Growth} {n : Nat}, g.Takes n → n ≤ Size.limit → g.fits = true := fun hg hn => by
    obtain ⟨grown, hgrown, -⟩ := hg .zero (by simpa [Size.memory, Size.zero] using hn)
    rw [Growth.fits, hgrown, Option.isSome_some]
  have hforward : r.growForward.Takes _ := (hsearch r.beginsAtStart).andThen
    (((hadd 1 0).andThen (takes_grow hmixed false 0)).andThen (hadd 2 0))
  have hbackward : r.growBackward.Takes _ := (hsearch r.endsAtEnd).andThen ((takes_grow hmixed true 0).andThen (hadd 1 0))
  rw [fits, hfits hforward (by omega), hfits hbackward (by omega), Bool.and_self]

end Phrasebook.Regex
