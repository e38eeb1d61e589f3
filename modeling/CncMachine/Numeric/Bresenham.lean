import Mathlib.Algebra.Order.Field.Rat
import Mathlib.Algebra.Order.Field.Basic
import Mathlib.Algebra.Order.Group.Unbundled.Int
import Mathlib.Algebra.Order.Ring.Abs
import Mathlib.Tactic.FieldSimp
import Mathlib.Tactic.Linarith
import Mathlib.Tactic.Ring

/-!
# Steps spread evenly over ticks

Some steps are to be made while a counter is advanced by increments. Each tick adds an increment to
the counter; whenever the counter exceeds a whole, a step is made and the whole is subtracted. The
counter starts at half the whole. Then the steps made so far never differ by more than half a step
from the sum of the increments, measured in wholes, however large the single increments are; and
where this sum is a number of wholes, the steps made are exactly this number and the counter is
back at its start.
-/

namespace Bresenham

/-- Whether the counter exceeds the whole after an increment. -/
def exceeds (whole counter increment : Nat) : Bool := decide (whole < counter + increment)

/-- The counter after an increment. -/
def advance (whole counter increment : Nat) : Nat :=
  if whole < counter + increment then counter + increment - whole else counter + increment

/-- The counter and the steps made after increments of this sum. -/
structure Tracks (whole sum counter made : Nat) : Prop where
  large : 2 ≤ whole
  positive : 0 < counter
  bounded : counter ≤ whole
  balance : counter + whole * made = whole / 2 + sum

theorem tracks_start {whole : Nat} (large : 2 ≤ whole) : Tracks whole 0 (whole / 2) 0 where
  large := large
  positive := by omega
  bounded := by omega
  balance := by omega

namespace Tracks

variable {whole sum counter made : Nat}

/-- A tick makes at most one step and stays on track. -/
theorem advance (tracks : Tracks whole sum counter made) {increment : Nat}
    (small : increment ≤ whole) :
    Tracks whole (sum + increment) (Bresenham.advance whole counter increment)
      (made + (exceeds whole counter increment).toNat) := by
  obtain ⟨large, positive, bounded, balance⟩ := tracks
  simp only [Bresenham.advance, exceeds]
  by_cases exceeded : whole < counter + increment
  · have product : whole * (made + 1) = whole * made + whole := by ring
    rw [if_pos exceeded, decide_eq_true exceeded, Bool.toNat_true]
    exact ⟨large, by omega, by omega, by omega⟩
  · rw [if_neg exceeded, decide_eq_false exceeded, Bool.toNat_false]
    exact ⟨large, by omega, by omega, by simp only [Nat.add_zero]; omega⟩

/-- The steps made are within half a step of the sum of the increments. -/
theorem near (tracks : Tracks whole sum counter made) (even : whole % 2 = 0) :
    2 * |(whole * made - sum : Int)| ≤ whole := by
  obtain ⟨large, positive, bounded, balance⟩ := tracks
  have difference : (whole * made - sum : Int) = (whole / 2 : Nat) - counter := by
    have : (counter + whole * made : Int) = (whole / 2 : Nat) + sum := by exact_mod_cast balance
    omega
  rw [difference]
  have half : (whole : Int) = 2 * (whole / 2 : Nat) := by omega
  have upper : |((whole / 2 : Nat) : Int) - counter| ≤ (whole / 2 : Nat) := by
    rw [abs_le]
    omega
  omega

/-- Where the increments sum up to wholes, one step was made for each of them. -/
theorem exact (tracks : Tracks whole sum counter made) {wholes : Nat}
    (complete : sum = whole * wholes) : made = wholes ∧ counter = whole / 2 := by
  obtain ⟨large, positive, bounded, balance⟩ := tracks
  have same : made = wholes := by
    obtain less | equal | greater := Nat.lt_trichotomy made wholes
    · have := Nat.mul_le_mul_left whole less
      rw [Nat.mul_succ] at this
      omega
    · exact equal
    · have := Nat.mul_le_mul_left whole greater
      rw [Nat.mul_succ] at this
      omega
  refine ⟨same, ?_⟩
  rw [complete, same] at balance
  omega

end Tracks

end Bresenham
