import Mathlib.Data.List.Range
import Mathlib.Logic.Function.Basic

/-!
# Ring buffers with one open slot

The slots of a ring buffer form a circle. The head is the slot that is written next and the tail
the one that is read next. The buffer is empty if they are the same and full if the head is just
behind the tail: one slot stays open, so that the two can be told apart. Only the writer moves the
head and only the reader the tail.

`Buffer.toList` has the elements from the oldest to the newest. Every operation is described by
what it does to this list.

A writer that can be interrupted by another one makes the accesses of `Buffer.enqueue` one by one
(`Access`). As long as the other one does not write meanwhile (`Access.Fits`), the element is
appended by the last access.
-/

namespace Ring

universe u

variable {n : Nat} {α : Type u}

/-- The slot that comes so many slots later. -/
def ahead (i : Fin n) (k : Nat) : Fin n :=
  ⟨(i + k) % n, Nat.mod_lt _ (Nat.zero_lt_of_lt i.isLt)⟩

/-- The slot that comes next. -/
def next (i : Fin n) : Fin n := ahead i 1

theorem val_ahead (i : Fin n) (k : Nat) : (ahead i k : Nat) = (i + k) % n := rfl

@[simp] theorem ahead_zero (i : Fin n) : ahead i 0 = i :=
  Fin.ext (Nat.mod_eq_of_lt i.isLt)

theorem ahead_ahead (i : Fin n) (j k : Nat) : ahead (ahead i j) k = ahead i (j + k) := by
  apply Fin.ext
  simp only [val_ahead, Nat.mod_add_mod, Nat.add_assoc]

theorem next_ahead (i : Fin n) (k : Nat) : next (ahead i k) = ahead i (k + 1) := ahead_ahead i k 1

theorem ahead_next (i : Fin n) (k : Nat) : ahead (next i) k = ahead i (k + 1) := by
  rw [next, ahead_ahead, Nat.add_comm]

/-- Once around the circle. -/
@[simp] theorem ahead_self (i : Fin n) : ahead i n = i := by
  apply Fin.ext
  rw [val_ahead, Nat.add_mod_right, Nat.mod_eq_of_lt i.isLt]

/-- Less than once around the circle, no slot is met twice. -/
theorem ahead_inj {i : Fin n} {j k : Nat} (hj : j < n) (hk : k < n)
    (same : ahead i j = ahead i k) : j = k := by
  have values : (i + j) % n = (i + k) % n := congrArg Fin.val same
  have bound := i.isLt
  obtain wrap | wrap := Nat.lt_or_ge (i + j) n <;> obtain wrap' | wrap' := Nat.lt_or_ge (i + k) n
  · rw [Nat.mod_eq_of_lt wrap, Nat.mod_eq_of_lt wrap'] at values
    omega
  · rw [Nat.mod_eq_of_lt wrap, Nat.mod_eq_sub_mod wrap', Nat.mod_eq_of_lt (by omega)] at values
    omega
  · rw [Nat.mod_eq_sub_mod wrap, Nat.mod_eq_of_lt wrap', Nat.mod_eq_of_lt (by omega)] at values
    omega
  · rw [Nat.mod_eq_sub_mod wrap, Nat.mod_eq_sub_mod wrap', Nat.mod_eq_of_lt (by omega),
      Nat.mod_eq_of_lt (by omega)] at values
    omega

/-- In a circle of two slots or more, the next slot is another one. -/
theorem next_ne {i : Fin n} (several : 2 ≤ n) : next i ≠ i := by
  intro same
  have turn : ahead i 1 = ahead i 0 := by rw [ahead_zero]; exact same
  exact absurd (ahead_inj (by omega) (by omega) turn) (by decide)

/-- Along a list of slots that stays or goes on to the next slot with every element, the last slot is
ahead of every other one by less than the length. -/
theorem exists_ahead_of_chain {l : List (Fin n)} {last : Fin n}
    (chain : l.IsChain fun i j => j = i ∨ j = next i) (ends : last ∈ l.getLast?) {i : Fin n}
    (member : i ∈ l) : ∃ k < l.length, ahead i k = last := by
  induction l generalizing i with
  | nil => simp at member
  | cons first rest ih =>
      cases rest with
      | nil =>
          simp only [List.mem_singleton] at member
          simp only [List.getLast?_singleton, Option.mem_def, Option.some.injEq] at ends
          exact ⟨0, by simp, by rw [member, ends, ahead_zero]⟩
      | cons second rest =>
          rw [List.getLast?_cons_cons] at ends
          obtain ⟨link, others⟩ := List.isChain_cons_cons.mp chain
          obtain rfl | member := List.mem_cons.mp member
          · obtain ⟨k, bound, there⟩ := ih others ends List.mem_cons_self
            obtain same | after := link
            · exact ⟨k, Nat.lt_succ_of_lt bound, by rw [← same]; exact there⟩
            · refine ⟨k + 1, Nat.succ_lt_succ bound, ?_⟩
              rw [← ahead_next, ← after]
              exact there
          · obtain ⟨k, bound, there⟩ := ih others ends member
            exact ⟨k, Nat.lt_succ_of_lt bound, there⟩

/-- As long as such a list is shorter than the circle, the slot after its last one is not on it. -/
theorem next_notMem_of_chain {l : List (Fin n)} {last : Fin n}
    (chain : l.IsChain fun i j => j = i ∨ j = next i) (ends : last ∈ l.getLast?)
    (short : l.length < n) : next last ∉ l := by
  intro member
  obtain ⟨k, bound, there⟩ := exists_ahead_of_chain chain ends member
  have around : ahead last (k + 1) = ahead last 0 := by rw [← ahead_next, there, ahead_zero]
  exact absurd (ahead_inj (by omega) (by omega) around) (by omega)

/-- The slots, the head and the tail. -/
structure Buffer (n : Nat) (α : Type u) where
  slots : Fin n → α
  head : Fin n
  tail : Fin n

/-- The accesses of `Buffer.enqueue`, with what has been read before them. -/
inductive Access (n : Nat) where
  /-- The slot after the head is compared with the tail. -/
  | test
  /-- The head is read again. -/
  | slot (bptr : Fin n)
  | write (bptr i : Fin n)
  | move (bptr : Fin n)
deriving DecidableEq

namespace Buffer

variable (b : Buffer n α)

/-- How many elements there are between tail and head. -/
def count : Nat := (b.head + n - b.tail) % n

/-- The elements, the oldest first. -/
def toList : List α := (List.range b.count).map fun k => b.slots (ahead b.tail k)

/-- Write an element to the head, whether there is room or not, and move the head. -/
def push (x : α) : Buffer n α :=
  { b with slots := Function.update b.slots b.head x, head := next b.head }

/-- Move the tail. -/
def pop : Buffer n α := { b with tail := next b.tail }

/-- Write an element if there is room. -/
def enqueue (x : α) : Buffer n α := if next b.head = b.tail then b else b.push x

/-- One access, and the one after it. -/
def access (x : α) : Access n → Buffer n α × Option (Access n)
  | .test => (b, if next b.head = b.tail then none else some (.slot (next b.head)))
  | .slot bptr => (b, some (.write bptr b.head))
  | .write bptr i => ({ b with slots := Function.update b.slots i x }, some (.move bptr))
  | .move bptr => ({ b with head := bptr }, none)

/-- Drop all elements. -/
def flush : Buffer n α := { b with tail := b.head }

/-- Take the oldest element. -/
def dequeue : Option α × Buffer n α :=
  if b.head = b.tail then (none, b) else (some (b.slots b.tail), b.pop)

theorem count_lt : b.count < n := Nat.mod_lt _ (Nat.zero_lt_of_lt b.head.isLt)

@[simp] theorem length_toList : b.toList.length = b.count := by simp [toList]

theorem ahead_count : ahead b.tail b.count = b.head := by
  have := b.head.isLt
  have := b.tail.isLt
  apply Fin.ext
  rw [val_ahead, count, Nat.add_mod_mod,
    show (b.tail : Nat) + (b.head + n - b.tail) = b.head + n by omega, Nat.add_mod_right,
    Nat.mod_eq_of_lt b.head.isLt]

variable {b}

/-- The head is where the count says. -/
theorem count_eq {k : Nat} (bound : k < n) (there : ahead b.tail k = b.head) : b.count = k :=
  ahead_inj b.count_lt bound (b.ahead_count.trans there.symm)

theorem empty_iff : b.head = b.tail ↔ b.count = 0 := by
  constructor
  · intro same
    exact count_eq (Nat.zero_lt_of_lt b.head.isLt) (by rw [ahead_zero, same])
  · intro none
    rw [← b.ahead_count, none, ahead_zero]

theorem toList_eq_nil_iff : b.toList = [] ↔ b.head = b.tail := by
  rw [empty_iff, ← b.length_toList, List.length_eq_zero_iff]

theorem full_iff : next b.head = b.tail ↔ b.count + 1 = n := by
  have bound := b.count_lt
  rw [← b.ahead_count, next_ahead]
  constructor
  · intro same
    by_contra less
    have := ahead_inj (i := b.tail) (j := b.count + 1) (k := 0) (by omega) (by omega)
      (by rw [same, ahead_zero])
    omega
  · intro full
    rw [full, ahead_self]

theorem count_push (room : next b.head ≠ b.tail) (x : α) : (b.push x).count = b.count + 1 := by
  have bound := b.count_lt
  have less : b.count + 1 ≠ n := mt full_iff.mpr room
  apply count_eq (by omega)
  show ahead b.tail (b.count + 1) = next b.head
  rw [← next_ahead, ahead_count]

theorem count_pop (some : b.head ≠ b.tail) : b.pop.count + 1 = b.count := by
  have bound := b.count_lt
  have positive : b.count ≠ 0 := mt empty_iff.mpr some
  have : b.pop.count = b.count - 1 := by
    apply count_eq (by omega)
    show ahead (next b.tail) (b.count - 1) = b.head
    rw [ahead_next, show b.count - 1 + 1 = b.count by omega, ahead_count]
  omega

/-- What the head is given before it moves is not part of the buffer. -/
theorem toList_write (x : α) :
    ({ b with slots := Function.update b.slots b.head x } : Buffer n α).toList = b.toList := by
  apply List.map_congr_left
  intro k member
  have inside : k < b.count := List.mem_range.mp member
  apply Function.update_of_ne
  intro same
  have bound := b.count_lt
  exact absurd (ahead_inj (by omega) bound (same.trans b.ahead_count.symm)) (by omega)

theorem toList_push (room : next b.head ≠ b.tail) (x : α) :
    (b.push x).toList = b.toList ++ [x] := by
  have kept := b.toList_write x
  have last : ahead b.tail b.count = b.head := b.ahead_count
  rw [toList, count_push room, List.range_succ, List.map_append, ← kept]
  congr 1
  simp [push, last]

theorem toList_pop (some : b.head ≠ b.tail) : b.toList = b.slots b.tail :: b.pop.toList := by
  rw [toList, ← count_pop some, List.range_succ_eq_map, List.map_cons, List.map_map, ahead_zero]
  congr 1
  apply List.map_congr_left
  intro k _
  exact congrArg b.slots (ahead_next b.tail k).symm

end Buffer

namespace Access

variable {b : Buffer n α} {x : α} {a : Access n}

/-- What an interrupted writer has read is still so, and what it has written is still there. -/
def Fits (b : Buffer n α) (x : α) : Access n → Prop
  | .test => True
  | .slot bptr => bptr = next b.head ∧ bptr ≠ b.tail
  | .write bptr i => bptr = next b.head ∧ bptr ≠ b.tail ∧ i = b.head
  | .move bptr => bptr = next b.head ∧ bptr ≠ b.tail ∧ b.slots b.head = x

/-- The last access appends the element. -/
def appends : Access n → Bool
  | .move _ => true
  | _ => false

/-- An access leaves things as the writer expects them. -/
theorem Fits.next {a' : Access n} (fits : a.Fits b x) (after : (b.access x a).2 = some a') :
    a'.Fits (b.access x a).1 x := by
  cases a with
  | test =>
      simp only [Buffer.access] at after ⊢
      split at after
      · cases after
      · next room =>
          cases after
          exact ⟨rfl, room⟩
  | slot bptr =>
      cases after
      exact ⟨fits.1, fits.2, rfl⟩
  | write bptr i =>
      cases after
      refine ⟨fits.1, fits.2.1, ?_⟩
      rw [fits.2.2]
      exact Function.update_self ..
  | move bptr => cases after

/-- Together the accesses do what `Buffer.enqueue` does, all of it in the last one. -/
theorem Fits.toList (fits : a.Fits b x) :
    (b.access x a).1.toList = (if a.appends then b.enqueue x else b).toList := by
  cases a with
  | test => rfl
  | slot bptr => rfl
  | write bptr i =>
      obtain ⟨-, -, rfl⟩ := fits
      exact b.toList_write x
  | move bptr =>
      obtain ⟨rfl, room, rfl⟩ := fits
      simp only [Buffer.access, appends, if_true, Buffer.enqueue, if_neg room, Buffer.push,
        Function.update_eq_self]

end Access

end Ring
