import Mathlib.Algebra.Order.Group.Abs
import Mathlib.Data.List.Induction

/-!
# Saturating counters and grids

A counter goes up with every `true` and down with every `false`, but not below zero. What it shows
is by how much the ups outnumber the downs in a last stretch of what it has counted.

The value of a grid moves up and down by a fixed step and stops at two limits. A move stays between
the limits and never exceeds the step, and a move down undoes a move up that has not been cut short.
-/

namespace Climb

def next (count : Nat) (up : Bool) : Nat := if up then count + 1 else count - 1

def climb (ups : List Bool) : Nat := ups.foldl next 0

theorem climb_concat (ups : List Bool) (up : Bool) : climb (ups ++ [up]) = next (climb ups) up := by
  rw [climb, List.foldl_append]
  rfl

/-- The stretch begins where the counter has last been at zero and was not to go up. -/
theorem exists_window (ups : List Bool) :
    ∃ before window, ups = before ++ window ∧
      window.count true = window.count false + climb ups := by
  induction ups using List.reverseRecOn with
  | nil => exact ⟨[], [], rfl, rfl⟩
  | append_singleton ups up ih =>
      obtain ⟨before, window, rfl, surplus⟩ := ih
      rw [climb_concat]
      cases up with
      | true =>
          refine ⟨before, window ++ [true], List.append_assoc _ _ _, ?_⟩
          simp only [List.count_append, next, if_true]
          simp
          omega
      | false =>
          obtain zero | positive := Nat.eq_zero_or_pos (climb (before ++ window))
          · refine ⟨before ++ window ++ [false], [], (List.append_nil _).symm, ?_⟩
            simp [next, zero]
          · refine ⟨before, window ++ [false], List.append_assoc _ _ _, ?_⟩
            simp [next]
            omega

end Climb

universe u

/-- The numbers of a grid. -/
structure Grid (α : Type u) [AddCommGroup α] [LinearOrder α] where
  step : α
  low : α
  high : α
  forward : 0 ≤ step
  order : low ≤ high

namespace Grid

variable {α : Type u} [AddCommGroup α] [LinearOrder α]

/-- Between the limits. -/
def Mem (g : Grid α) (v : α) : Prop := g.low ≤ v ∧ v ≤ g.high

def raise (g : Grid α) (v : α) : α := min (v + g.step) g.high

def lower (g : Grid α) (v : α) : α := max (v - g.step) g.low

def move (g : Grid α) (up : Bool) (v : α) : α := if up then g.raise v else g.lower v

variable {g : Grid α} {v : α}

/-- A move up that is not cut short is undone by a move down. -/
theorem Mem.lower_raise (mem : g.Mem v) (room : v + g.step ≤ g.high) :
    g.lower (g.raise v) = v := by
  rw [Grid.raise, min_eq_left room, Grid.lower, add_sub_cancel_right]
  exact max_eq_left mem.1

variable [IsOrderedAddMonoid α]

theorem Mem.raise (mem : g.Mem v) : v ≤ g.raise v ∧ g.raise v ≤ v + g.step ∧ g.Mem (g.raise v) := by
  have above : v ≤ g.raise v := le_min (le_add_of_nonneg_right g.forward) mem.2
  exact ⟨above, min_le_left _ _, mem.1.trans above, min_le_right _ _⟩

theorem Mem.lower (mem : g.Mem v) : v - g.step ≤ g.lower v ∧ g.lower v ≤ v ∧ g.Mem (g.lower v) := by
  have below : g.lower v ≤ v := max_le (sub_le_self v g.forward) mem.1
  exact ⟨le_max_left _ _, below, le_max_right _ _, below.trans mem.2⟩

/-- One move changes the value by no more than the step. -/
theorem Mem.abs_move_sub_le (mem : g.Mem v) (up : Bool) : |g.move up v - v| ≤ g.step := by
  cases up with
  | true =>
      obtain ⟨above, most, -⟩ := mem.raise
      rw [Grid.move, if_pos rfl, abs_of_nonneg (sub_nonneg.mpr above)]
      exact sub_le_iff_le_add'.mpr most
  | false =>
      obtain ⟨least, below, -⟩ := mem.lower
      rw [Grid.move, if_neg Bool.false_ne_true, abs_of_nonpos (sub_nonpos.mpr below), neg_sub]
      exact sub_le_comm.mp least

end Grid
