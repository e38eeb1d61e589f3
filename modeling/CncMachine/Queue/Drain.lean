import CncMachine.Queue.Ring

/-!
# Draining a ring buffer into a value

A loop copies a value, takes commands out of a ring buffer one by one, applies each of them to the
copy and stores the copy when the buffer is empty. Meanwhile more commands may come in. What the
value will be once all commands are done (`Drain.settled`) is changed by a command that comes in and
by nothing that the loop does: no command is lost, done twice or done before an earlier one.
-/

namespace Ring

universe u v

/-- The buffer, the command that has been taken out last with the copy, and the stored value. -/
structure Drain (n : Nat) (α : Type u) (β : Type v) where
  buffer : Buffer n α
  taken : Option (α × β)
  value : β

namespace Drain

variable {n : Nat} {α : Type u} {β : Type v} (apply : β → α → β) (d : Drain n α β)

/-- The loop starts, if there is a command. -/
def start : Drain n α β :=
  match d.buffer.dequeue with
  | (none, _) => d
  | (some command, buffer) => { d with buffer := buffer, taken := some (command, d.value) }

/-- The loop applies the command that it has taken out and takes the next one. -/
def next : Drain n α β :=
  match d.taken with
  | none => d
  | some (command, copy) =>
      match d.buffer.dequeue with
      | (none, _) => { d with taken := none, value := apply copy command }
      | (some command', buffer) =>
          { d with buffer := buffer, taken := some (command', apply copy command) }

/-- The value that the commands in the buffer start from. -/
def base : β :=
  match d.taken with
  | none => d.value
  | some (command, copy) => apply copy command

/-- The value when all commands are done. -/
def settled : β := d.buffer.toList.foldl apply (d.base apply)

/-- What the value will be depends on the elements of the buffer only, not on where they are. -/
theorem settled_congr {d d' : Drain n α β} (list : d'.buffer.toList = d.buffer.toList)
    (taken : d'.taken = d.taken) (value : d'.value = d.value) :
    d'.settled apply = d.settled apply := by
  simp only [settled, base, list, taken, value]

theorem dequeue_cases (b : Buffer n α) :
    (b.dequeue = (none, b) ∧ b.toList = []) ∨
      ∃ command rest, b.dequeue = (some command, rest) ∧ b.toList = command :: rest.toList := by
  by_cases empty : b.head = b.tail
  · exact .inl ⟨by rw [Buffer.dequeue, if_pos empty], Buffer.toList_eq_nil_iff.mpr empty⟩
  · exact .inr ⟨_, _, by rw [Buffer.dequeue, if_neg empty], Buffer.toList_pop empty⟩

theorem settled_start (idle : d.taken = none) : d.start.settled apply = d.settled apply := by
  obtain ⟨none, -⟩ | ⟨command, rest, some, list⟩ := dequeue_cases d.buffer
  · rw [start, none]
  · simp only [settled, base, start, some, idle, list, List.foldl_cons]

theorem settled_next : (d.next apply).settled apply = d.settled apply := by
  cases taken : d.taken with
  | none => rw [next, taken]
  | some pair =>
      obtain ⟨command, copy⟩ := pair
      obtain ⟨none, -⟩ | ⟨command', rest, some, list⟩ := dequeue_cases d.buffer
      · simp only [settled, base, next, taken, none]
      · simp only [settled, base, next, taken, some, list, List.foldl_cons]

/-- A step of the loop, or none. -/
def Moves (d d' : Drain n α β) : Prop :=
  d' = d ∨ d.taken = none ∧ d' = d.start ∨ d' = d.next apply

theorem Moves.settled {d d' : Drain n α β} (moves : Moves apply d d') :
    d'.settled apply = d.settled apply := by
  obtain rfl | ⟨idle, rfl⟩ | rfl := moves
  · rfl
  · exact settled_start apply d idle
  · exact settled_next apply d

end Drain

end Ring
