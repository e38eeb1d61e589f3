import Mathlib.Data.List.Basic
import Mathlib.Algebra.Order.Ring.Int

/-!
# Planned moves

The controller's planner turns each move into a block: for every axis the number of steps and
their direction, and the number of step events, which is that of the axis with most steps. The
planner's position is the end of the last block. Speeds are left to the look-ahead; they decide
when a step is made, not which.
-/

namespace Cnc

/-- The axes, `N_AXIS` being 3. -/
inductive Axis where
  | x
  | y
  | z
deriving DecidableEq, Repr

instance Axis.decidableForall (P : Axis → Prop) [DecidablePred P] : Decidable (∀ a, P a) :=
  decidable_of_iff (P .x ∧ P .y ∧ P .z) ⟨fun h a => by cases a <;> simp [h], fun h => ⟨h _, h _, h _⟩⟩

/-- A value of `uint32_t`. -/
def u32 (n : Nat) : Nat := n % 2 ^ 32

theorem u32_of_lt {n : Nat} (small : n < 2 ^ 32) : u32 n = n := Nat.mod_eq_of_lt small

/-- `plan_block_t`, without its speeds, its spindle data and its messages. -/
structure PlanBlock where
  steps : Axis → Nat
  stepEventCount : Nat
  /-- Set for the negative direction. -/
  directionBits : Axis → Bool

/-- The planner's ring buffer, from `block_buffer_tail` on, and `pl.position`. -/
structure Planner where
  blocks : List PlanBlock := []
  position : Axis → Int

namespace PlanBlock

/-- The block of a move between two positions, in steps. -/
def between (position target : Axis → Int) : PlanBlock where
  steps a := (target a - position a).natAbs
  stepEventCount :=
    max (max (target .z - position .z).natAbs (target .y - position .y).natAbs)
      (target .x - position .x).natAbs
  directionBits a := decide (target a - position a < 0)

/-- How far the block moves an axis. -/
def displacement (b : PlanBlock) (a : Axis) : Int :=
  if b.directionBits a then -b.steps a else b.steps a

variable (position target : Axis → Int)

@[simp] theorem displacement_between (a : Axis) :
    (between position target).displacement a = target a - position a := by
  simp only [displacement, between, decide_eq_true_eq]
  split <;> omega

theorem steps_le (a : Axis) :
    (between position target).steps a ≤ (between position target).stepEventCount := by
  cases a <;> simp only [between] <;> omega

end PlanBlock

/-- `plan_buffer_line`, with the target in steps: a move of no length is not planned. -/
def Planner.bufferLine (p : Planner) (target : Axis → Int) : Bool × Planner :=
  let block := PlanBlock.between p.position target
  if block.stepEventCount = 0 then (false, p)
  else (true, { blocks := p.blocks ++ [block], position := target })

/-- `plan_discard_current_block`. -/
def Planner.discardCurrentBlock (p : Planner) : Planner := { p with blocks := p.blocks.tail }

/-- The sum of the blocks' moves. -/
def travel (blocks : List PlanBlock) (a : Axis) : Int :=
  (blocks.map fun b => b.displacement a).sum

@[simp] theorem travel_nil (a : Axis) : travel [] a = 0 := rfl

@[simp] theorem travel_cons (b : PlanBlock) (blocks : List PlanBlock) (a : Axis) :
    travel (b :: blocks) a = b.displacement a + travel blocks a := by
  simp [travel]

@[simp] theorem travel_append (blocks more : List PlanBlock) (a : Axis) :
    travel (blocks ++ more) a = travel blocks a + travel more a := by
  simp [travel]

end Cnc
