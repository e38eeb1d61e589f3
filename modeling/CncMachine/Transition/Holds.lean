import Mathlib.Logic.Function.Iterate
import CncMachine.Transition.Run

/-!
# Inputs that are held

An input is looked at once in a while. A look that finds it released ends a hold, one that finds it
held may act, and in between there are steps that do not look. An input that counts its looks starts
again with every hold, so all its holds act in one pattern.
-/

namespace Transition

universe u v w

/-- What a step of a run is to an input. -/
inductive Contact where
  | release
  /-- The step does not look at the input, or finds it held and leaves it alone. -/
  | idle
  /-- The input is held and looked at. -/
  | tick (acts : Bool)
deriving DecidableEq, Repr

/-- The holds of a run: for each of their ticks, whether it acted. -/
def holds : List Contact → List (List Bool)
  | [] => [[]]
  | .release :: rest => [] :: holds rest
  | .idle :: rest => holds rest
  | .tick acts :: rest => (holds rest).modifyHead (acts :: ·)

/-- A hold acts on its first tick, and then after `delay` ticks at the earliest. -/
def Spaced (delay : Nat) (hold : List Bool) : Prop :=
  hold.head? ≠ some false ∧
    ∀ i j, i < j → hold[i]? = some true → hold[j]? = some true → i + delay ≤ j

/-- The first ticks of a hold whose count starts at `c`. -/
def pattern {γ : Type u} (next : γ → γ) (fires : γ → Bool) (c : γ) : Nat → List Bool
  | 0 => []
  | n + 1 => fires c :: pattern next fires (next c) n

/-- From the count `c` on, the contacts count and act by the count. -/
def CountsBy {γ : Type u} (next : γ → γ) (fires : γ → Bool) (zero : γ) : γ → List Contact → Prop
  | _, [] => True
  | _, .release :: rest => CountsBy next fires zero zero rest
  | c, .idle :: rest => CountsBy next fires zero c rest
  | c, .tick acts :: rest => acts = fires c ∧ CountsBy next fires zero (next c) rest

section

variable {γ : Type u} {next : γ → γ} {fires : γ → Bool} {zero : γ}

@[simp] theorem length_pattern (c : γ) (n : Nat) : (pattern next fires c n).length = n := by
  induction n generalizing c with
  | zero => rfl
  | succ n ih => rw [pattern, List.length_cons, ih]

theorem getElem?_pattern (c : γ) {n i : Nat} (inside : i < n) :
    (pattern next fires c n)[i]? = some (fires (next^[i] c)) := by
  induction n generalizing c i with
  | zero => exact absurd inside (Nat.not_lt_zero i)
  | succ n ih =>
      cases i with
      | zero => rfl
      | succ i =>
          rw [pattern, List.getElem?_cons_succ, ih (next c) (Nat.lt_of_succ_lt_succ inside),
            Function.iterate_succ_apply]

/-- The first hold goes on from the count, the later ones start again. -/
theorem CountsBy.holds_eq {c : γ} {contacts : List Contact}
    (counts : CountsBy next fires zero c contacts) :
    ∃ n rest, holds contacts = pattern next fires c n :: rest ∧
      ∀ hold ∈ rest, hold = pattern next fires zero hold.length := by
  induction contacts generalizing c with
  | nil => exact ⟨0, [], rfl, fun _ member => nomatch member⟩
  | cons contact contacts ih =>
      cases contact with
      | release =>
          obtain ⟨n, rest, first, later⟩ := ih counts
          refine ⟨0, holds contacts, rfl, fun hold member => ?_⟩
          rw [first] at member
          obtain rfl | member := List.mem_cons.mp member
          · rw [length_pattern]
          · exact later hold member
      | idle => exact ih (c := c) counts
      | tick acts =>
          obtain ⟨n, rest, first, later⟩ := ih counts.2
          refine ⟨n + 1, rest, ?_, later⟩
          rw [holds, first, counts.1]
          rfl

theorem CountsBy.pattern_of_mem {contacts : List Contact}
    (counts : CountsBy next fires zero zero contacts) {hold : List Bool}
    (member : hold ∈ holds contacts) : hold = pattern next fires zero hold.length := by
  obtain ⟨n, rest, first, later⟩ := counts.holds_eq
  rw [first] at member
  obtain rfl | member := List.mem_cons.mp member
  · rw [length_pattern]
  · exact later hold member

/-- A pattern that acts a second time before the delay is over is spaced as long as it has not come
to that tick. -/
theorem spaced_pattern_iff {delay second : Nat} (positive : 0 < second) (early : second < delay)
    (first : fires zero = true) (quiet : ∀ i, 0 < i → i < second → fires (next^[i] zero) = false)
    (again : fires (next^[second] zero) = true) (n : Nat) :
    Spaced delay (pattern next fires zero n) ↔ n ≤ second := by
  constructor
  · rintro ⟨-, apart⟩
    by_contra longer
    have inside : second < n := Nat.lt_of_not_le longer
    have gap := apart 0 second positive
      (by rw [getElem?_pattern zero (Nat.zero_lt_of_lt inside)]; exact congrArg some first)
      (by rw [getElem?_pattern zero inside, again])
    omega
  · intro short
    refine ⟨?_, fun i j before _ acts => ?_⟩
    · cases n with
      | zero => simp [pattern]
      | succ n => simp [pattern, first]
    · obtain inside | outside := Nat.lt_or_ge j n
      · rw [getElem?_pattern zero inside, quiet j (Nat.zero_lt_of_lt before) (by omega)] at acts
        cases acts
      · rw [List.getElem?_eq_none (by rwa [length_pattern])] at acts
        cases acts

/-- All holds are spaced if and only if none lasts until the pattern acts again. -/
theorem CountsBy.spaced_iff {delay second : Nat} (positive : 0 < second) (early : second < delay)
    (first : fires zero = true) (quiet : ∀ i, 0 < i → i < second → fires (next^[i] zero) = false)
    (again : fires (next^[second] zero) = true) {contacts : List Contact}
    (counts : CountsBy next fires zero zero contacts) :
    (∀ hold ∈ holds contacts, Spaced delay hold) ↔
      ∀ hold ∈ holds contacts, hold.length ≤ second := by
  refine forall₂_congr fun hold member => ?_
  rw [counts.pattern_of_mem member, length_pattern]
  exact spaced_pattern_iff positive early first quiet again hold.length

end

variable {σ : Type u} {ε : Type v} {γ : Type w} {step : σ → ε → σ}

/-- The count after a contact. -/
def Contact.count (next : γ → γ) (zero c : γ) : Contact → γ
  | .release => zero
  | .idle => c
  | .tick _ => next c

/-- The contacts of a run, one a step. -/
abbrev contacts (step : σ → ε → σ) (contact : σ → ε → Contact) (s : σ) (es : List ε) :
    List Contact :=
  trace step (fun s e => [contact s e]) s es

/-- A counter that every step moves by its contact, and whose value says whether the step acts,
counts the contacts of every run. -/
theorem countsBy_contacts {next : γ → γ} {fires : γ → Bool} {zero : γ} {I : σ → Prop}
    {counter : σ → γ} {contact : σ → ε → Contact} (kept : ∀ s e, I s → I (step s e))
    (moves : ∀ s e, I s → counter (step s e) = (contact s e).count next zero (counter s))
    (acts : ∀ s e a, I s → contact s e = .tick a → a = fires (counter s))
    {s : σ} (start : I s) (es : List ε) :
    CountsBy next fires zero (counter s) (contacts step contact s es) := by
  induction es generalizing s with
  | nil => trivial
  | cons e es ih =>
      have later := ih (kept s e start)
      rw [moves s e start] at later
      show CountsBy next fires zero (counter s) (contact s e :: contacts step contact (step s e) es)
      cases eq : contact s e with
      | release => rwa [eq] at later
      | idle => rwa [eq] at later
      | tick a =>
          rw [eq] at later
          exact ⟨acts s e a start eq, later⟩

end Transition
