import Mathlib.Logic.Basic

/-!
# Assignments to one variable

A list of assignments, some of which are left out, gives a variable a last value and tells whether
one of them changed it. Doing all of them once more changes nothing and tells nothing that was not
told before (`lastValue_again`, `changes_again`). Where some of the assignments are made by a
mistake, `lastValue_misread_iff` says when the last value is the right one all the same.
-/

namespace Transition

universe u

variable {α : Type u}

/-- What the variable holds after the assignments. -/
def lastValue (v : α) : List (Option α) → α
  | [] => v
  | a :: rest => lastValue (a.getD v) rest

theorem lastValue_eq_or_mem (v : α) (assigned : List (Option α)) :
    lastValue v assigned = v ∨ some (lastValue v assigned) ∈ assigned := by
  induction assigned generalizing v with
  | nil => exact .inl rfl
  | cons a rest ih =>
      obtain same | member := ih (a.getD v)
      · cases a with
        | none => exact .inl same
        | some x =>
            refine .inr ?_
            rw [lastValue, same]
            exact .head rest
      · exact .inr (.tail a member)

/-- Once there is an assignment, the value before does not matter. -/
theorem lastValue_of_mem {x : α} {assigned : List (Option α)} (member : some x ∈ assigned)
    (v w : α) : lastValue v assigned = lastValue w assigned := by
  induction assigned generalizing v w with
  | nil => cases member
  | cons a rest ih =>
      cases a with
      | none => exact ih ((List.mem_cons.mp member).resolve_left nofun) v w
      | some y => rfl

theorem lastValue_again (v : α) (assigned : List (Option α)) :
    lastValue (lastValue v assigned) assigned = lastValue v assigned := by
  obtain same | member := lastValue_eq_or_mem v assigned
  · rw [same, same]
  · exact lastValue_of_mem member _ _

theorem lastValue_append (v : α) (first second : List (Option α)) :
    lastValue v (first ++ second) = lastValue (lastValue v first) second := by
  induction first generalizing v with
  | nil => rfl
  | cons a rest ih => exact ih (a.getD v)

variable {β : Type u}

theorem lastValue_map_of_none {f : β → Option α} {items : List β}
    (left : ∀ item ∈ items, f item = none) (v : α) : lastValue v (items.map f) = v := by
  induction items with
  | nil => rfl
  | cons item rest ih =>
      rw [List.map_cons, lastValue, left item (.head rest)]
      exact ih fun later member => left later (.tail item member)

/-- An item decides if the ones behind it assign nothing. -/
theorem lastValue_map_last {f : β → Option α} {after : List β}
    (left : ∀ later ∈ after, f later = none) (v : α) (before : List β) (item : β) :
    lastValue v ((before ++ item :: after).map f) =
      (f item).getD (lastValue v (before.map f)) := by
  rw [List.map_append, List.map_cons, lastValue_append, lastValue]
  exact lastValue_map_of_none left _

/-- An item that assigns nothing, but is read as if it did, and over which no later one is read,
gives the variable the value that it has anyway. -/
def Harmless (read meant : β → Option α) (v : α) (items : List β) : Prop :=
  ∀ before item after x, items = before ++ item :: after → (∀ later ∈ after, read later = none) →
    read item = some x → meant item = none → x = lastValue v (before.map meant)

variable {read meant : β → Option α}

theorem exists_last_read {items : List β} (some : ∃ item ∈ items, read item ≠ none) :
    ∃ before item after, items = before ++ item :: after ∧
      (∀ later ∈ after, read later = none) ∧ read item ≠ none := by
  induction items with
  | nil => simp at some
  | cons item rest ih =>
      by_cases later : ∃ item ∈ rest, read item ≠ none
      · obtain ⟨before, last, after, rfl, unread, reading⟩ := ih later
        exact ⟨item :: before, last, after, rfl, unread, reading⟩
      · obtain ⟨last, member, reading⟩ := some
        simp only [not_exists, not_and, not_not] at later
        obtain rfl | among := List.mem_cons.mp member
        · exact ⟨[], last, rest, rfl, later, reading⟩
        · exact absurd (later last among) reading

/-- What is meant is read so. The last value is the one that is meant exactly if the last mistake
does no harm. -/
theorem lastValue_misread_iff (reads : ∀ item x, meant item = some x → read item = some x)
    (v : α) (items : List β) :
    lastValue v (items.map read) = lastValue v (items.map meant) ↔
      Harmless read meant v items := by
  have unmeant {item : β} (unread : read item = none) : meant item = none := by
    cases means : meant item with
    | none => rfl
    | some x =>
        rw [reads item x means] at unread
        cases unread
  -- the last item that is read decides, and the ones behind it assign nothing
  have last (before after : List β) (item : β) (unread : ∀ later ∈ after, read later = none) :
      lastValue v ((before ++ item :: after).map meant) =
        (meant item).getD (lastValue v (before.map meant)) := by
    apply lastValue_map_last
    exact fun later among => unmeant (unread later among)
  constructor
  · intro same before item after x split unread reading means
    rw [split, lastValue_map_last unread, reading, last before after item unread, means] at same
    exact same
  · intro harmless
    by_cases some : ∃ item ∈ items, read item ≠ none
    · obtain ⟨before, item, after, split, unread, reading⟩ := exists_last_read some
      obtain ⟨x, reading⟩ := Option.ne_none_iff_exists'.mp reading
      rw [split, lastValue_map_last unread, reading, last before after item unread]
      cases means : meant item with
      | none => exact harmless before item after x split unread reading means
      | some y =>
          rw [reads item y means] at reading
          exact (Option.some.inj reading).symm
    · simp only [not_exists, not_and, not_not] at some
      rw [lastValue_map_of_none some, lastValue_map_of_none]
      exact fun item among => unmeant (some item among)

variable [DecidableEq α]

/-- Whether one of the assignments changes the variable. -/
def changes (v : α) : List (Option α) → Bool
  | [] => false
  | a :: rest => decide (a.getD v ≠ v) || changes (a.getD v) rest

theorem changes_iff {v : α} {assigned : List (Option α)} :
    changes v assigned = true ↔ ∃ x, some x ∈ assigned ∧ x ≠ v := by
  induction assigned generalizing v with
  | nil => simp [changes]
  | cons a rest ih =>
      rw [changes, Bool.or_eq_true, decide_eq_true_iff, ih]
      cases a with
      | none => simp
      | some y =>
          by_cases same : y = v
          · subst same
            simp
          · exact iff_of_true (.inl same) ⟨y, .head rest, same⟩

theorem lastValue_of_not_changes {v : α} {assigned : List (Option α)}
    (same : changes v assigned = false) : lastValue v assigned = v := by
  obtain kept | member := lastValue_eq_or_mem v assigned
  · exact kept
  · by_cases kept : lastValue v assigned = v
    · exact kept
    · rw [changes_iff.mpr ⟨_, member, kept⟩] at same
      cases same

theorem changes_again {v : α} {assigned : List (Option α)}
    (again : changes (lastValue v assigned) assigned = true) : changes v assigned = true := by
  obtain ⟨x, member, differs⟩ := changes_iff.mp again
  obtain same | last := lastValue_eq_or_mem v assigned
  · exact changes_iff.mpr ⟨x, member, same ▸ differs⟩
  · by_cases same : lastValue v assigned = v
    · exact changes_iff.mpr ⟨x, member, same ▸ differs⟩
    · exact changes_iff.mpr ⟨_, last, same⟩

theorem changes_or_again (v : α) (assigned : List (Option α)) :
    (changes v assigned || changes (lastValue v assigned) assigned) = changes v assigned := by
  rw [Bool.or_eq_left_iff_imp]
  exact changes_again

end Transition
