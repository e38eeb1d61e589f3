import CncMachine.Controller.Cutting
import CncMachine.Controller.Motors
import CncMachine.Numeric.Bresenham
import Mathlib.Algebra.Order.Field.Rat
import Mathlib.Algebra.Order.Field.Basic
import Mathlib.Algebra.Order.Ring.Abs
import Mathlib.Tactic.FieldSimp
import Mathlib.Tactic.Linarith
import Mathlib.Tactic.LinearCombination
import Mathlib.Tactic.Ring

/-!
# The steps of a block

While a block is executed, each axis stays within half a step of the straight line, at every tick
and at every level of step smoothing, and at the end of the block it has made exactly the steps of
the block. This needs the counters to run through: when the segment buffer is found empty in the
middle of a block, as at the end of a hold, the interrupt forgets its block and sets the counters
anew when it goes on. Then an axis can be off by a step, and the planner is not told. So the
position where all planned moves end differs from the planner's by at most the number of such
interruptions.
-/

namespace Cnc

open Transition

namespace PlanBlock

variable (b : PlanBlock)

/-- The direction of an axis. -/
def direction (a : Axis) : Int := if b.directionBits a then -1 else 1

variable {b}

theorem displacement_eq (a : Axis) : b.displacement a = b.direction a * b.steps a := by
  simp only [displacement, direction]
  split <;> omega

theorem direction_mul_self (a : Axis) : b.direction a * b.direction a = 1 := by
  simp only [direction]
  split <;> rfl

theorem abs_direction_mul (a : Axis) (x : Int) : |b.direction a * x| = |x| := by
  simp only [direction]
  split
  · rw [Int.neg_one_mul, abs_neg]
  · rw [Int.one_mul]

variable (b)

/-- How far an axis is from the line, after so many step events of the block and with so many steps
made since the block's beginning; a step counts eight times the step events of the block. -/
def lag (a : Axis) (moved : Int) (events : Nat) : Int :=
  8 * b.stepEventCount * (b.direction a * moved) - 8 * b.steps a * events

end PlanBlock

namespace Drive

/-- The next tick sets the counters for the segment that it starts. -/
def restarts (s : Drive) : Bool :=
  s.loads && decide (s.st.execBlock ≠ some s.front.1.execBlock)

/-- The interrupt finds no segment in the middle of a block. -/
def interrupts (s : Drive) : Bool :=
  !s.busy && !s.loads && s.st.execBlock.isSome && s.underway &&
    decide (8 * s.stepsRemaining ≠ (s.stBlockBuffer s.stPrepBlock).stepEventCount)

end Drive

/-- The pipeline, and how the block in execution has been executed since the counters were set. -/
structure Course where
  pipe : Pipeline
  /-- The position when the counters were set. -/
  origin : Axis → Int
  /-- The step events that the block had left then. -/
  started : Nat := 0
  /-- The step events executed since, in eighths. -/
  weight : Nat := 0
  /-- How often the buffer was found empty in the middle of a block. -/
  interruptions : Nat := 0

namespace Course

variable (c : Course)

/-- The drive at the course's end. -/
abbrev drive : Drive := c.pipe.drive

def tick : Course :=
  if c.drive.loads || c.drive.busy then
    let weight := 2 ^ (maxAmassLevel - c.drive.tick.st.amassLevel)
    if c.drive.restarts then
      { c with
        pipe := c.pipe.tick
        origin := c.drive.position
        started := (c.pipe.waiting.map (·.before)).headD 0
        weight := weight }
    else { c with pipe := c.pipe.tick, weight := c.weight + weight }
  else
    { c with
      pipe := c.pipe.tick
      interruptions := c.interruptions + c.drive.interrupts.toNat }

def step (c : Course) : DriveEvent → Course
  | .tick => c.tick
  | .prep profile => { c with pipe := c.pipe.step (.prep profile) }
  | .plan target recalculated => { c with pipe := c.pipe.step (.plan target recalculated) }
  | .update => { c with pipe := c.pipe.step .update }
  | .control executeHold endMotion =>
      { c with pipe := c.pipe.step (.control executeHold endMotion) }

def initial (stBlockBuffer : BlockSlot → StBlock) (segmentBuffer : SegmentSlot → Segment)
    (position : Axis → Int) : Course where
  pipe := Pipeline.initial stBlockBuffer segmentBuffer position
  origin := position

end Course

namespace Drive

variable {s : Drive}

/-- The Bresenham step of one axis, as long as the counter does not wrap. -/
theorem bresenham_axis {a : Axis} {whole : Nat} (total : s.st.stepEventCount = whole)
    (small : whole < 2 ^ 31) (counter : s.st.counter a ≤ whole) (steps : s.st.steps a ≤ whole) :
    s.bresenham.st.counter a = Bresenham.advance whole (s.st.counter a) (s.st.steps a) ∧
      s.bresenham.position a = s.position a + (if s.st.dirOutbits a then -1 else 1) *
        (Bresenham.exceeds whole (s.st.counter a) (s.st.steps a)).toNat := by
  have sum : u32 (s.st.counter a + s.st.steps a) = s.st.counter a + s.st.steps a :=
    u32_of_lt (by omega)
  simp only [bresenham, Drive.steps, sum, total, Bresenham.advance, Bresenham.exceeds,
    decide_eq_true_eq]
  refine ⟨trivial, ?_⟩
  by_cases exceeded : whole < s.st.counter a + s.st.steps a
  · rw [if_pos exceeded, decide_eq_true exceeded]
    simp
  · rw [if_neg exceeded, decide_eq_false exceeded]
    simp

/-- The block in execution: its piece, the position and the step events left when its counters were
set, the eighths of step events executed since, and the ticks left of the piece. -/
structure Tracking (s : Drive) (p : Piece) (origin : Axis → Int) (started weight left : Nat) :
    Prop where
  slot : s.st.execBlock = some p.segment.execBlock
  whole : s.st.stepEventCount = 8 * p.plan.stepEventCount
  direction : s.st.dirOutbits = p.plan.directionBits
  level : left ≠ 0 → s.st.amassLevel = p.segment.amassLevel ∧
    ∀ a, s.st.steps a = p.plan.steps a * 2 ^ (maxAmassLevel - p.segment.amassLevel)
  within : started ≤ p.plan.stepEventCount
  balance : weight + left * 2 ^ (maxAmassLevel - p.segment.amassLevel) + 8 * p.after = 8 * started
  tracks : ∀ a, ∃ made, Bresenham.Tracks (8 * p.plan.stepEventCount) (p.plan.steps a * weight)
    (s.st.counter a) made ∧ s.position a = origin a + p.plan.direction a * made

/-- A tick executes its share of a step event. -/
theorem Tracking.advance {p : Piece} {origin : Axis → Int} {started weight left : Nat}
    (tracking : s.Tracking p origin started weight (left + 1)) (cut : p.Cut) :
    s.bresenham.countTick.Tracking p origin started
      (weight + 2 ^ (maxAmassLevel - p.segment.amassLevel)) left where
  slot := tracking.slot
  whole := tracking.whole
  direction := tracking.direction
  level := fun _ => tracking.level (Nat.succ_ne_zero left)
  within := tracking.within
  balance := by
    have balance := tracking.balance
    rw [Nat.add_mul, Nat.one_mul] at balance
    omega
  tracks := by
    intro a
    obtain ⟨_, steps⟩ := tracking.level (Nat.succ_ne_zero left)
    obtain ⟨made, tracks, position⟩ := tracking.tracks a
    have small := cut.valid.small
    have power : 2 ^ (maxAmassLevel - p.segment.amassLevel) ≤ 2 ^ 3 :=
      Nat.pow_le_pow_right (by decide) (Nat.sub_le _ _)
    have increment : s.st.steps a ≤ 8 * p.plan.stepEventCount := by
      rw [steps a, Nat.mul_comm 8]
      exact Nat.mul_le_mul (cut.valid.steps a) power
    obtain ⟨counter, moved⟩ := bresenham_axis tracking.whole (by omega) tracks.bounded increment
    refine ⟨made + (Bresenham.exceeds (8 * p.plan.stepEventCount) (s.st.counter a)
      (s.st.steps a)).toNat, ?_, ?_⟩
    · have next := tracks.advance increment
      have sum : p.plan.steps a * weight + s.st.steps a =
          p.plan.steps a * (weight + 2 ^ (maxAmassLevel - p.segment.amassLevel)) := by
        rw [steps a, Nat.mul_add]
      rw [← counter, sum] at next
      exact next
    · show s.bresenham.position a = _
      rw [moved, position, tracking.direction, PlanBlock.direction]
      push_cast
      ring

theorem Tracking.of_same {p : Piece} {origin : Axis → Int} {started weight left : Nat}
    (tracking : s.Tracking p origin started weight left) {s' : Drive} (st : s'.st = s.st)
    (position : s'.position = s.position) : s'.Tracking p origin started weight left where
  slot := st ▸ tracking.slot
  whole := st ▸ tracking.whole
  direction := st ▸ tracking.direction
  level := st ▸ tracking.level
  within := tracking.within
  balance := tracking.balance
  tracks := by
    rw [st, position]
    exact tracking.tracks

/-- Putting out the steps of the tick before leaves the counters. -/
theorem Tracking.outputSteps {p : Piece} {origin : Axis → Int} {started weight left : Nat}
    (tracking : s.Tracking p origin started weight left) :
    s.outputSteps.Tracking p origin started weight left := by
  simp only [Drive.outputSteps]
  split
  · exact ⟨tracking.slot, tracking.whole, tracking.direction, tracking.level, tracking.within,
      tracking.balance, tracking.tracks⟩
  · exact tracking

/-- Half a step at most is missing or too much since the counters were set. -/
theorem Tracking.near {p : Piece} {origin : Axis → Int} {started weight left : Nat}
    (tracking : s.Tracking p origin started weight left) (a : Axis) :
    2 * |8 * p.plan.stepEventCount * (p.plan.direction a * (s.position a - origin a)) -
      p.plan.steps a * weight| ≤ 8 * p.plan.stepEventCount := by
  obtain ⟨made, tracks, position⟩ := tracking.tracks a
  have moved : p.plan.direction a * (s.position a - origin a) = made := by
    rw [position, Int.add_comm, Int.add_sub_cancel, ← Int.mul_assoc, PlanBlock.direction_mul_self,
      Int.one_mul]
  have near := tracks.near (by omega)
  push_cast at near
  rw [moved]
  exact near

end Drive

namespace PlanBlock

variable {b : PlanBlock}

/-- How many halves of a step an axis may be off the line when the counters are set. -/
def slack (b : PlanBlock) (interruptions started : Nat) : Int :=
  if started = b.stepEventCount then 2 * interruptions else 2 * interruptions - 1

/-- The lag of two stretches one after the other. -/
theorem lag_add (a : Axis) (x y : Int) (m n : Nat) :
    b.lag a (x + y) (m + n) = b.lag a x m + b.lag a y n := by
  simp only [lag]
  push_cast
  ring

/-- At the beginning of the block, the lag is the distance from there. -/
theorem lag_start (a : Axis) (moved : Int) :
    |b.lag a moved 0| = 8 * b.stepEventCount * |moved| := by
  rw [lag, Int.natCast_zero, Int.mul_zero, Int.sub_zero, abs_mul, abs_direction_mul,
    abs_of_nonneg (by positivity)]

/-- At the end of the block, the lag is the distance from the block's end. -/
theorem lag_end (a : Axis) (moved : Int) :
    |b.lag a moved b.stepEventCount| = 8 * b.stepEventCount * |moved - b.displacement a| := by
  have factor : b.lag a moved b.stepEventCount =
      8 * b.stepEventCount * (b.direction a * (moved - b.displacement a)) := by
    rw [lag, displacement_eq, Int.mul_sub, ← Int.mul_assoc (b.direction a) (b.direction a),
      direction_mul_self]
    ring
  rw [factor, abs_mul, abs_direction_mul, abs_of_nonneg (by positivity)]

end PlanBlock

namespace Drive

variable {s : Drive} {p : Piece} {origin : Axis → Int} {started weight : Nat}

/-- Where a piece ends, the axis is at most half a step further off the line than when the counters
were set. -/
theorem Tracking.lag_le (tracking : s.Tracking p origin started weight 0) {planned : Int}
    {a : Axis} {slack : Int}
    (before : 2 * |p.plan.lag a (origin a - planned) (p.plan.stepEventCount - started)| ≤
      8 * p.plan.stepEventCount * slack) :
    2 * |p.plan.lag a (s.position a - planned) (p.plan.stepEventCount - p.after)| ≤
      8 * p.plan.stepEventCount * (slack + 1) := by
  have near := tracking.near a
  have balance := tracking.balance
  have within := tracking.within
  rw [Nat.zero_mul, Nat.add_zero] at balance
  have split : p.plan.lag a (s.position a - planned) (p.plan.stepEventCount - p.after) =
      p.plan.lag a (origin a - planned) (p.plan.stepEventCount - started) +
        p.plan.lag a (s.position a - origin a) (started - p.after) := by
    rw [← PlanBlock.lag_add]
    congr 1 <;> omega
  have since : p.plan.lag a (s.position a - origin a) (started - p.after) =
      8 * p.plan.stepEventCount * (p.plan.direction a * (s.position a - origin a)) -
        p.plan.steps a * weight := by
    have eighths : (weight : Int) = 8 * (started - p.after : Nat) := by omega
    rw [PlanBlock.lag, eighths]
    ring
  rw [split, since]
  have triangle := abs_add_le (p.plan.lag a (origin a - planned) (p.plan.stepEventCount - started))
    (8 * p.plan.stepEventCount * (p.plan.direction a * (s.position a - origin a)) -
      p.plan.steps a * weight)
  rw [Int.mul_add, Int.mul_one]
  omega

/-- A block that has run through has made exactly its steps. -/
theorem Tracking.exact (tracking : s.Tracking p origin started weight 0)
    (whole : started = p.plan.stepEventCount) (complete : p.after = 0) (a : Axis) :
    s.position a = origin a + p.plan.displacement a := by
  obtain ⟨made, tracks, position⟩ := tracking.tracks a
  have balance := tracking.balance
  have all : p.plan.steps a * weight = 8 * p.plan.stepEventCount * p.plan.steps a := by
    rw [show weight = 8 * p.plan.stepEventCount by omega, Nat.mul_comm]
  rw [position, (tracks.exact all).1, PlanBlock.displacement_eq]

/-- At the end of a block, the position is off by no more steps than there were interruptions. -/
theorem Tracking.finish (tracking : s.Tracking p origin started weight 0) (cut : p.Cut)
    (complete : p.after = 0) {planned : Int} {a : Axis} {interruptions : Nat}
    (before : 2 * |p.plan.lag a (origin a - planned) (p.plan.stepEventCount - started)| ≤
      8 * p.plan.stepEventCount * p.plan.slack interruptions started) :
    |s.position a - (planned + p.plan.displacement a)| ≤ interruptions := by
  have positive : (0 : Int) < 8 * p.plan.stepEventCount := by
    have := cut.valid.positive
    omega
  have cancel : ∀ {x : Int}, 2 * (8 * p.plan.stepEventCount * |x|) ≤
      8 * p.plan.stepEventCount * (2 * interruptions) → |x| ≤ interruptions := by
    intro x bound
    have product : 8 * (p.plan.stepEventCount : Int) * (2 * |x|) ≤
        8 * p.plan.stepEventCount * (2 * interruptions) := by
      rw [Int.mul_left_comm]
      exact bound
    have := Int.le_of_mul_le_mul_left product positive
    omega
  simp only [PlanBlock.slack] at before
  by_cases whole : started = p.plan.stepEventCount
  · rw [if_pos whole, whole, Nat.sub_self, PlanBlock.lag_start] at before
    rw [tracking.exact whole complete a, Int.add_sub_add_right]
    exact cancel before
  · rw [if_neg whole] at before
    have after := tracking.lag_le before
    rw [complete, Nat.sub_zero, PlanBlock.lag_end, Int.sub_add_cancel, Int.sub_sub] at after
    exact cancel after

/-- Where a block breaks off, one more interruption accounts for the distance from the line. -/
theorem Tracking.breakOff (tracking : s.Tracking p origin started weight 0)
    (cut : p.Cut) {planned : Int} {a : Axis} {interruptions : Nat}
    (before : 2 * |p.plan.lag a (origin a - planned) (p.plan.stepEventCount - started)| ≤
      8 * p.plan.stepEventCount * p.plan.slack interruptions started) :
    2 * |p.plan.lag a (s.position a - planned) (p.plan.stepEventCount - p.after)| ≤
      8 * p.plan.stepEventCount * p.plan.slack (interruptions + 1) p.after := by
  have less := cut.less
  have within := cut.within
  have nonnegative : (0 : Int) ≤ 8 * p.plan.stepEventCount := by positivity
  have inside : p.after ≠ p.plan.stepEventCount := by omega
  have after := tracking.lag_le before
  have weaker : p.plan.slack interruptions started + 1 ≤
      p.plan.slack (interruptions + 1) p.after := by
    simp only [PlanBlock.slack, if_neg inside]
    split <;> push_cast <;> omega
  exact Int.le_trans after (Int.mul_le_mul_of_nonneg_left weaker nonnegative)

end Drive

namespace Pipeline

variable (t : Pipeline)

/-- The pieces that the interrupt has started. -/
def begun : List Piece := t.published.take (t.done + t.drive.busy.toNat)

/-- Where the blocks end that the interrupt has started. -/
def goal (start : Axis → Int) (a : Axis) : Int := start a + Piece.begun t.begun a

/-- Ticks left of the piece in execution. -/
def left : Nat := if t.drive.busy then t.drive.st.stepCount else 0

variable {t}

theorem Intact.begun_le (intact : t.Intact) :
    t.done + t.drive.busy.toNat ≤ t.published.length := by
  have inside := intact.inside
  cases busy : t.drive.busy with
  | false => exact inside
  | true =>
      have := List.length_pos_of_ne_nil (intact.flying busy)
      rw [waiting, List.length_drop] at this
      rw [Bool.toNat_true]
      omega

/-- A tick starts the next piece or none. -/
theorem Intact.begun_tick (intact : t.Intact) :
    (t.drive.loads = false → t.tick.begun = t.begun) ∧
      (t.drive.loads = true → ∃ p rest, t.waiting = p :: rest ∧
        t.tick.begun = t.begun ++ [p] ∧ t.published = t.begun ++ p :: rest) := by
  have busy := Drive.busy_tick intact.executing
  refine ⟨?_, ?_⟩
  · intro none
    simp only [begun, Pipeline.tick]
    congr 1
    rw [busy, none, Bool.or_false]
    cases flying : t.drive.busy with
    | true => cases t.drive.finishes <;> rfl
    | false =>
        have : t.drive.finishes = false := by
          rw [Drive.finishes, flying, none]
          rfl
        rw [this]
        rfl
  · intro loads
    obtain ⟨p, rest, eq, _⟩ := intact.front_eq loads
    have idle : t.drive.busy = false := by
      simp only [Drive.loads, Bool.and_eq_true, Bool.not_eq_true'] at loads
      exact loads.1
    have sum : t.done + t.drive.finishes.toNat + t.drive.tick.busy.toNat = t.done + 1 := by
      rw [busy, loads, Bool.or_true, Bool.true_and]
      cases t.drive.finishes <;> rfl
    have cut : t.published = t.published.take t.done ++ p :: rest := by
      rw [← eq, waiting, List.take_append_drop]
    have next : t.published[t.done]? = some p := by
      have head : t.waiting.head? = some p := by rw [eq]; rfl
      rwa [waiting, List.head?_drop] at head
    have here : t.begun = t.published.take t.done := by
      rw [begun, idle, Bool.toNat_false, Nat.add_zero]
    refine ⟨p, rest, eq, ?_, ?_⟩
    · rw [here]
      simp only [begun, Pipeline.tick]
      rw [sum, List.take_add_one, next]
      rfl
    · rw [here]
      exact cut

/-- The piece started next goes on with the block or begins another one. -/
theorem Gapless.next {start : Axis → Int} (gapless : t.Gapless start) {p : Piece}
    {rest : List Piece} (cut : t.published = t.begun ++ p :: rest) :
    p.Cut ∧ (t.begun = [] → p.first = true) ∧ ∀ q ∈ t.begun.getLast?, q.Follows p := by
  refine ⟨?_, ?_, ?_⟩
  · apply gapless.pieces
    rw [cut]
    exact List.mem_append_right _ List.mem_cons_self
  · intro none
    apply gapless.begins
    rw [cut, none]
    rfl
  · intro q last
    have chain := gapless.chain
    rw [cut, List.isChain_append] at chain
    exact chain.2.2 q last p rfl

end Pipeline

/-- The axes are on the line of the block in execution but for the slack, or where the last block
has ended or broken off. -/
structure Course.OnCourse (start : Axis → Int) (c : Course) : Prop where
  gapless : c.pipe.Gapless start
  running : c.drive.st.execBlock.isSome → ∃ p ∈ c.pipe.begun.getLast?,
    c.drive.Tracking p c.origin c.started c.weight c.pipe.left ∧
    ∀ a, 2 * |p.plan.lag a (c.origin a - (c.pipe.goal start a - p.plan.displacement a))
        (p.plan.stepEventCount - c.started)| ≤
      8 * p.plan.stepEventCount * p.plan.slack c.interruptions c.started
  broken : c.drive.st.execBlock = none → ∀ p ∈ c.pipe.begun.getLast?, p.after ≠ 0 →
    ∀ a, 2 * |p.plan.lag a (c.drive.position a - (c.pipe.goal start a - p.plan.displacement a))
        (p.plan.stepEventCount - p.after)| ≤
      8 * p.plan.stepEventCount * p.plan.slack c.interruptions p.after
  complete : c.drive.st.execBlock = none → (∀ p ∈ c.pipe.begun.getLast?, p.after = 0) →
    ∀ a, |c.drive.position a - c.pipe.goal start a| ≤ c.interruptions

namespace Pipeline

variable {t : Pipeline}

/-- The main program only adds to what has been published. -/
theorem published_step (t : Pipeline) {e : DriveEvent} (main : e ≠ .tick) :
    (t.step e).done = t.done ∧ ∃ more, (t.step e).published = t.published ++ more := by
  cases e with
  | tick => exact absurd rfl main
  | prep profile =>
      simp only [step, prep]
      split
      · exact ⟨rfl, [], (List.append_nil _).symm⟩
      · exact ⟨rfl, [], (List.append_nil _).symm⟩
      · exact ⟨rfl, [], (List.append_nil _).symm⟩
      · exact ⟨rfl, _, rfl⟩
  | plan target recalculated => exact ⟨rfl, [], (List.append_nil _).symm⟩
  | update => exact ⟨rfl, [], (List.append_nil _).symm⟩
  | control executeHold endMotion => exact ⟨rfl, [], (List.append_nil _).symm⟩

/-- The main program leaves what has been started, and the ticks left of it. -/
theorem Intact.begun_step (intact : t.Intact) {e : DriveEvent} (main : e ≠ .tick) :
    (t.step e).begun = t.begun ∧ (t.step e).left = t.left := by
  obtain ⟨done, more, published⟩ := t.published_step main
  have st := (t.drive.interrupt_step e main).1
  rw [← drive_step] at st
  refine ⟨?_, ?_⟩
  · simp only [begun, done, published, Drive.busy, st]
    exact List.take_append_of_le_length intact.begun_le
  · have busy : (t.step e).drive.busy = t.drive.busy := by simp only [Drive.busy, st]
    rw [left, left, busy, st]

end Pipeline

namespace Course

variable {start : Axis → Int} {c : Course}

theorem pipe_step (c : Course) (e : DriveEvent) : (c.step e).pipe = c.pipe.step e := by
  cases e with
  | tick =>
      simp only [step, tick]
      split
      · split <;> rfl
      · rfl
  | _ => rfl

theorem step_of_main (c : Course) {e : DriveEvent} (main : e ≠ .tick) :
    c.step e = { c with pipe := c.pipe.step e } := by
  cases e with
  | tick => exact absurd rfl main
  | _ => rfl

namespace OnCourse

theorem main (on : c.OnCourse start) {e : DriveEvent} (sound : c.drive.Sound e)
    (main : e ≠ .tick) : (c.step e).OnCourse start := by
  obtain ⟨begun, left⟩ := on.gapless.intact.begun_step main
  obtain ⟨st, _, position, _⟩ := c.drive.interrupt_step e main
  have drive := Pipeline.drive_step c.pipe e
  have goal : (c.pipe.step e).goal start = c.pipe.goal start := by
    funext a
    simp only [Pipeline.goal, begun]
  rw [c.step_of_main main]
  refine ⟨on.gapless.step sound, ?_, ?_, ?_⟩
  · simp only [Course.drive, drive, st, begun, goal, left]
    intro active
    obtain ⟨p, last, tracking, lag⟩ := on.running active
    exact ⟨p, last, tracking.of_same st position, lag⟩
  · simp only [Course.drive, drive, st, begun, goal, position]
    exact on.broken
  · simp only [Course.drive, drive, st, begun, goal, position]
    exact on.complete

/-- A level's share of a step event, so many times as the level says, is a step event. -/
theorem level_share {level : Nat} (bound : level ≤ maxAmassLevel) :
    2 ^ level * 2 ^ (maxAmassLevel - level) = 8 := by
  rw [← Nat.pow_add, Nat.add_sub_cancel' bound]
  rfl

/-- The segment at the tail is loaded and its first tick is due. -/
theorem tracking_loadSegment {s : Drive} {p : Piece} {origin : Axis → Int}
    {started weight : Nat} (cut : p.Cut) (front : s.front = p.contents)
    (before : s.st.execBlock = some p.segment.execBlock →
      s.st.stepEventCount = 8 * p.plan.stepEventCount ∧ s.st.dirOutbits = p.plan.directionBits)
    (within : started ≤ p.plan.stepEventCount) (balance : weight + 8 * p.before = 8 * started)
    (tracks : ∀ a, ∃ made,
      Bresenham.Tracks (8 * p.plan.stepEventCount) (p.plan.steps a * weight)
        (s.loadSegment.st.counter a) made ∧
      s.position a = origin a + p.plan.direction a * made) :
    s.loadSegment.Tracking p origin started weight p.segment.nStep := by
  obtain ⟨segment, block⟩ := Prod.mk.inj front
  rw [segment] at block
  have share := level_share cut.level
  refine ⟨?_, ?_, ?_, ?_, within, ?_, tracks⟩
  · rw [Drive.execBlock_loadSegment, segment]
  · simp only [Drive.loadSegment, Drive.startBlock, segment, block]
    split
    · rename_i same
      exact (before same).1
    · exact cut.valid.stepEventCount_prepared
  · simp only [Drive.loadSegment, Drive.startBlock, segment, block]
    split
    · rename_i same
      exact (before same).2
    · split
      · rfl
      · rename_i unchanged
        simp only [Bool.or_eq_true, decide_eq_true_eq, not_or, Classical.not_not] at unchanged
        exact funext unchanged.2
  · intro _
    simp only [Drive.loadSegment, segment, block]
    refine ⟨trivial, ?_⟩
    intro a
    rw [cut.valid.steps_prepared, Nat.shiftRight_eq_div_pow]
    apply Nat.div_eq_of_eq_mul_left (Nat.pow_pos (by decide))
    rw [Nat.mul_assoc, Nat.mul_comm (2 ^ _) (2 ^ _), share, Nat.mul_comm]
  · have less := cut.less
    rw [cut.ticks, Nat.mul_assoc, share]
    omega

/-- The first tick of a segment. -/
theorem tick_of_loaded {s : Drive} {p : Piece} {origin : Axis → Int} {started weight : Nat}
    (cut : p.Cut) (executing : s.Executing) (loads : s.loads = true)
    (loaded : s.outputSteps.loadSegment.Tracking p origin started weight p.segment.nStep) :
    s.tick.st.amassLevel = p.segment.amassLevel ∧
      s.tick.Tracking p origin started
        (weight + 2 ^ (maxAmassLevel - p.segment.amassLevel)) (p.segment.nStep - 1) := by
  have less := cut.less
  have some : 1 ≤ p.segment.nStep := by
    rw [cut.ticks]
    exact Nat.mul_pos (by omega) (Nat.pow_pos (by decide))
  rw [Drive.tick_of_loads executing loads]
  rw [show p.segment.nStep = p.segment.nStep - 1 + 1 by omega] at loaded
  exact ⟨(loaded.level (Nat.succ_ne_zero _)).1, loaded.advance cut⟩

/-- A counted tick leaves one tick less. -/
theorem left_countTick {s : Drive} (segment : s.st.execSegment.isSome) :
    (if s.countTick.busy then s.countTick.st.stepCount else 0) = s.st.stepCount - 1 := by
  rw [(Drive.countTick_spec segment).1]
  by_cases last : s.st.stepCount - 1 = 0
  · simp [last]
  · simp only [ne_eq, last, not_false_eq_true, decide_true, if_true]
    rfl

/-- A block in execution, after a tick of one of its pieces. -/
theorem of_running {c' : Course} {p : Piece} (gapless : c'.pipe.Gapless start)
    (last : p ∈ c'.pipe.begun.getLast?)
    (tracking : c'.drive.Tracking p c'.origin c'.started c'.weight c'.pipe.left)
    (lag : ∀ a, 2 * |p.plan.lag a (c'.origin a - (c'.pipe.goal start a - p.plan.displacement a))
        (p.plan.stepEventCount - c'.started)| ≤
      8 * p.plan.stepEventCount * p.plan.slack c'.interruptions c'.started) :
    c'.OnCourse start where
  gapless := gapless
  running := fun _ => ⟨p, last, tracking, lag⟩
  broken := by
    intro none
    cases none.symm.trans tracking.slot
  complete := by
    intro none
    cases none.symm.trans tracking.slot

theorem tick_busy (on : c.OnCourse start) (busy : c.drive.busy = true) :
    c.tick.OnCourse start := by
  have executing := on.gapless.intact.executing
  have idle : c.drive.loads = false := by rw [Drive.loads, busy]; rfl
  have active : c.drive.st.execBlock.isSome := by
    apply executing
    rw [Drive.busy, Bool.and_eq_true] at busy
    exact busy.1
  obtain ⟨p, last, tracking, lag⟩ := on.running active
  have cut : p.Cut := on.gapless.pieces p (List.mem_of_mem_take (List.mem_of_getLast? last))
  have some : c.drive.st.stepCount ≠ 0 := by
    rw [Drive.busy, Bool.and_eq_true, decide_eq_true_eq] at busy
    exact busy.2
  have left : c.pipe.left = c.drive.st.stepCount - 1 + 1 := by
    rw [Pipeline.left, if_pos busy]
    exact (Nat.succ_pred_eq_of_ne_zero some).symm
  rw [left] at tracking
  have next := tracking.outputSteps.advance cut
  have eq := Drive.tick_of_busy executing busy
  have level : c.drive.tick.st.amassLevel = p.segment.amassLevel := by
    rw [eq]
    exact (tracking.outputSteps.level (Nat.succ_ne_zero _)).1
  have segment : c.drive.outputSteps.bresenham.st.execSegment.isSome := by
    rw [Drive.execSegment_bresenham, Drive.execSegment_outputSteps executing, busy]
  have begun := on.gapless.intact.begun_tick.1 idle
  have form : c.tick = { c with
      pipe := c.pipe.tick
      weight := c.weight + 2 ^ (maxAmassLevel - p.segment.amassLevel) } := by
    simp only [Course.tick, idle, busy, Bool.false_or, if_true, Drive.restarts, Bool.false_and,
      Bool.false_eq_true, if_false, level]
  rw [form]
  refine of_running on.gapless.tick (by rw [begun]; exact last) ?_ ?_
  · have after : c.pipe.tick.left = c.drive.st.stepCount - 1 := by
      have count := left_countTick segment
      rw [← eq] at count
      rw [Pipeline.left]
      refine count.trans ?_
      show c.drive.outputSteps.st.stepCount - 1 = _
      rw [Drive.stepCount_outputSteps]
    rw [after]
    show c.drive.tick.Tracking _ _ _ _ _
    rw [eq]
    exact next
  · intro a
    have goal : c.pipe.tick.goal start a = c.pipe.goal start a := by
      rw [Pipeline.goal, begun, Pipeline.goal]
    rw [goal]
    exact lag a

/-- When the buffer is empty, everything published has been started. -/
theorem begun_of_empty (on : c.OnCourse start) (busy : c.drive.busy = false)
    (empty : c.drive.loads = false) : c.pipe.begun = c.pipe.published := by
  have ends : c.drive.segmentBufferTail = c.drive.segmentBufferHead := by
    by_contra other
    rw [Drive.loads, busy, decide_eq_true other] at empty
    cases empty
  have none : c.pipe.waiting = [] := by
    rw [← List.map_eq_nil_iff (f := fun p : Piece => p.segment), ← on.gapless.intact.queue,
      Ring.Buffer.toList_eq_nil_iff]
    exact ends.symm
  rw [Pipeline.waiting, List.drop_eq_nil_iff] at none
  rw [Pipeline.begun, busy, Bool.toNat_false, Nat.add_zero, List.take_of_length_le none]

/-- An empty buffer after a piece that does not end its block is an interruption. -/
theorem interrupts_of_broken (on : c.OnCourse start) (busy : c.drive.busy = false)
    (empty : c.drive.loads = false) (active : c.drive.st.execBlock.isSome = true) {p : Piece}
    (last : p ∈ c.pipe.begun.getLast?) (broken : p.after ≠ 0) : c.drive.interrupts = true := by
  rw [on.begun_of_empty busy empty] at last
  have tip := on.gapless.tip
  have underway : c.drive.underway = true := by
    by_contra idle
    exact broken (tip.idle (by simpa using idle) p last).1
  obtain ⟨b, rest, blocks, copy⟩ :=
    on.gapless.intact.prepared.current (Pipeline.Gapless.underway_iff.mp underway)
  have head : c.drive.planner.blocks.head? = some b := by rw [blocks]; rfl
  have used : c.pipe.fresh = false := by
    by_contra fresh
    exact broken ((tip.fresh (by simpa using fresh) b head).2 p last).1
  have remaining := (on.gapless.remaining blocks underway).2.2.2 used
  have valid := (on.gapless.remaining blocks underway).1
  have other : 8 * c.drive.stepsRemaining ≠
      (c.drive.stBlockBuffer c.drive.stPrepBlock).stepEventCount := by
    rw [copy, valid.stepEventCount_prepared]
    exact fun same => Nat.ne_of_lt remaining (Nat.eq_of_mul_eq_mul_left (by decide) same)
  simp only [Drive.interrupts, busy, empty, active, underway, decide_eq_true other, Bool.not_false,
    Bool.and_self]

theorem tick_empty (on : c.OnCourse start) (busy : c.drive.busy = false)
    (empty : c.drive.loads = false) : c.tick.OnCourse start := by
  have executing := on.gapless.intact.executing
  have eq := Drive.tick_of_empty executing busy empty
  have begun := on.gapless.intact.begun_tick.1 empty
  have left : c.pipe.left = 0 := by
    rw [Pipeline.left, busy]
    rfl
  have goal : c.pipe.tick.goal start = c.pipe.goal start := by
    funext a
    rw [Pipeline.goal, begun, Pipeline.goal]
  have position : c.drive.tick.position = c.drive.position := by
    obtain ⟨_, _, _, same⟩ := Drive.outputSteps_eq (s := c.drive)
    rw [eq, same]
  have none : c.drive.tick.st.execBlock = none := by rw [eq]
  have form : c.tick = { c with
      pipe := c.pipe.tick
      interruptions := c.interruptions + c.drive.interrupts.toNat } := by
    simp only [Course.tick, empty, busy, Bool.or_self, Bool.false_eq_true, if_false]
  rw [form]
  refine ⟨on.gapless.tick, ?_, ?_, ?_⟩
  · intro active
    change c.drive.tick.st.execBlock.isSome at active
    rw [none] at active
    cases active
  · intro _ p last broken a
    simp only [Course.drive, goal] at last ⊢
    rw [begun] at last
    change 2 * |p.plan.lag a (c.drive.tick.position a - _) _| ≤ _
    rw [position]
    cases block : c.drive.st.execBlock with
    | none =>
        have quiet : c.drive.interrupts = false := by simp [Drive.interrupts, block]
        rw [quiet]
        exact on.broken block p last broken a
    | some slot =>
        have active : c.drive.st.execBlock.isSome = true := by rw [block]; rfl
        obtain ⟨q, last', tracking, lag⟩ := on.running active
        rw [Option.mem_unique last' last, left] at tracking
        rw [Option.mem_unique last' last] at lag
        have cut : p.Cut := on.gapless.pieces p (List.mem_of_mem_take (List.mem_of_getLast? last))
        rw [on.interrupts_of_broken busy empty active last broken]
        exact tracking.breakOff cut (lag a)
  · intro _ complete a
    simp only [Course.drive, goal] at complete ⊢
    rw [begun] at complete
    change |c.drive.tick.position a - _| ≤ _
    rw [position]
    refine Int.le_trans (b := (c.interruptions : Int)) ?_ (by omega)
    cases block : c.drive.st.execBlock with
    | none => exact on.complete block complete a
    | some slot =>
        have active : c.drive.st.execBlock.isSome = true := by rw [block]; rfl
        obtain ⟨p, last, tracking, lag⟩ := on.running active
        rw [left] at tracking
        have cut : p.Cut := on.gapless.pieces p (List.mem_of_mem_take (List.mem_of_getLast? last))
        have finish := tracking.finish cut (complete p last) (lag a)
        rwa [Int.sub_add_cancel] at finish

/-- A piece that is not the first of its block goes on where the last one has ended. -/
theorem continues_of_follows {p q : Piece} (follows : q.Follows p)
    (later : p.first = false) : q.plan = p.plan ∧ p.segment.execBlock = q.segment.execBlock ∧
      p.before = q.after := by
  obtain ⟨plan, slot, before⟩ | ⟨_, first, _⟩ := follows
  · exact ⟨plan.symm, slot, before⟩
  · cases later.symm.trans first

/-- The first piece of a block comes after the end of a block. -/
theorem ends_of_follows {p q : Piece} (cut : q.Cut) (follows : q.Follows p)
    (first : p.first = true) :
    q.after = 0 ∧ p.segment.execBlock = Ring.next q.segment.execBlock := by
  obtain ⟨plan, _, before⟩ | ⟨complete, _, slot⟩ := follows
  · have less := cut.less
    have within := cut.within
    rw [Piece.first, decide_eq_true_eq, plan] at first
    omega
  · exact ⟨complete, slot⟩

/-- Before the first piece of a block, the axes are where the blocks before have ended. -/
theorem at_goal (on : c.OnCourse start) (busy : c.drive.busy = false)
    (ended : ∀ q ∈ c.pipe.begun.getLast?, q.after = 0) (a : Axis) :
    |c.drive.position a - c.pipe.goal start a| ≤ c.interruptions := by
  cases block : c.drive.st.execBlock with
  | none => exact on.complete block ended a
  | some slot =>
      obtain ⟨q, last, tracking, lag⟩ := on.running (by rw [block]; rfl)
      have left : c.pipe.left = 0 := by
        rw [Pipeline.left, busy]
        rfl
      rw [left] at tracking
      have cut : q.Cut := on.gapless.pieces q (List.mem_of_mem_take (List.mem_of_getLast? last))
      have finish := tracking.finish cut (ended q last) (lag a)
      rwa [Int.sub_add_cancel] at finish

/-- When counters are set, the axis is off by the slack at most. -/
theorem lag_of_restart (on : c.OnCourse start) (busy : c.drive.busy = false) {p : Piece}
    {rest : List Piece} (next : c.pipe.published = c.pipe.begun ++ p :: rest)
    (other : c.drive.st.execBlock ≠ some p.segment.execBlock) (a : Axis) :
    2 * |p.plan.lag a (c.drive.position a -
        (c.pipe.goal start a + (if p.first then p.plan.displacement a else 0) -
          p.plan.displacement a)) (p.plan.stepEventCount - p.before)| ≤
      8 * p.plan.stepEventCount * p.plan.slack c.interruptions p.before := by
  obtain ⟨cut, begins, follows⟩ := on.gapless.next next
  have pieces : ∀ q ∈ c.pipe.begun.getLast?, q.Cut := fun q last =>
    on.gapless.pieces q (List.mem_of_mem_take (List.mem_of_getLast? last))
  cases first : p.first with
  | true =>
      have near := on.at_goal busy
        (fun q last => (ends_of_follows (pieces q last) (follows q last) first).1) a
      rw [Piece.first, decide_eq_true_eq] at first
      have positive : (0 : Int) ≤ 8 * p.plan.stepEventCount := by positivity
      rw [PlanBlock.slack, if_pos first, if_pos rfl, Int.add_sub_cancel, first, Nat.sub_self,
        PlanBlock.lag_start, Int.mul_left_comm]
      exact Int.mul_le_mul_of_nonneg_left (by omega) positive
  | false =>
      have some : c.pipe.begun ≠ [] := by
        intro none
        cases first.symm.trans (begins none)
      obtain ⟨q, last⟩ := Option.isSome_iff_exists.mp (List.getLast?_isSome.mpr some)
      obtain ⟨plan, slot, before⟩ := continues_of_follows (follows q last) first
      have none : c.drive.st.execBlock = none := by
        by_contra active
        obtain ⟨q', last', tracking, _⟩ := on.running (Option.isSome_iff_ne_none.mpr active)
        rw [Option.mem_unique last' last] at tracking
        exact other (by rw [tracking.slot, slot])
      have less := cut.less
      have broken := on.broken none q last (by omega) a
      rw [plan, ← before] at broken
      rw [if_neg (by decide), Int.add_zero]
      exact broken

theorem position_outputSteps (s : Drive) : s.outputSteps.position = s.position := by
  obtain ⟨_, _, _, same⟩ := Drive.outputSteps_eq (s := s)
  rw [same]

/-- For another block the counters are set to half the step events. -/
theorem counter_of_restart {s : Drive} {p : Piece} (cut : p.Cut) (front : s.front = p.contents)
    (other : s.st.execBlock ≠ some p.segment.execBlock) (a : Axis) :
    s.loadSegment.st.counter a = 8 * p.plan.stepEventCount / 2 := by
  obtain ⟨segment, block⟩ := Prod.mk.inj front
  rw [segment] at block
  simp only [Drive.loadSegment, Drive.startBlock, segment, block, if_neg other]
  rw [cut.valid.stepEventCount_prepared, Nat.shiftRight_eq_div_pow]

/-- For the same block the counters go on. -/
theorem counter_of_same {s : Drive} {p : Piece} (front : s.front = p.contents)
    (same : s.st.execBlock = some p.segment.execBlock) :
    s.loadSegment.st.counter = s.st.counter := by
  obtain ⟨segment, _⟩ := Prod.mk.inj front
  simp only [Drive.loadSegment, Drive.startBlock, segment, if_pos same]

/-- The first tick of a piece, with the counters as they were or set anew. -/
theorem of_loaded (on : c.OnCourse start) (loads : c.drive.loads = true) {p : Piece}
    {rest : List Piece} (waiting : c.pipe.waiting = p :: rest) (cut : p.Cut)
    {origin : Axis → Int} {started weight : Nat}
    (loaded : c.drive.outputSteps.loadSegment.Tracking p origin started weight p.segment.nStep)
    (lag : ∀ a, 2 * |p.plan.lag a (origin a -
        (c.pipe.goal start a + (if p.first then p.plan.displacement a else 0) -
          p.plan.displacement a)) (p.plan.stepEventCount - started)| ≤
      8 * p.plan.stepEventCount * p.plan.slack c.interruptions started) :
    ({ c with
        pipe := c.pipe.tick
        origin := origin
        started := started
        weight := weight + 2 ^ (maxAmassLevel - c.drive.tick.st.amassLevel) }
      : Course).OnCourse start := by
  have executing := on.gapless.intact.executing
  obtain ⟨p', rest', waiting', begun, _⟩ := on.gapless.intact.begun_tick.2 loads
  rw [waiting] at waiting'
  rw [← (List.cons.inj waiting').1] at begun
  obtain ⟨_, _, waiting', front⟩ := on.gapless.intact.front_eq loads
  rw [waiting] at waiting'
  rw [← (List.cons.inj waiting').1] at front
  obtain ⟨level, tracking⟩ := tick_of_loaded cut executing loads loaded
  have left : c.pipe.tick.left = p.segment.nStep - 1 := by
    have segment : c.drive.outputSteps.loadSegment.bresenham.st.execSegment.isSome := rfl
    have count := left_countTick segment
    rw [← Drive.tick_of_loads executing loads] at count
    rw [Pipeline.left]
    refine count.trans ?_
    obtain ⟨_, _, _, same⟩ := Drive.outputSteps_eq (s := c.drive)
    rw [same]
    exact congrArg (fun contents : Segment × StBlock => contents.1.nStep - 1) front
  refine of_running on.gapless.tick (p := p) ?_ ?_ ?_
  · show p ∈ c.pipe.tick.begun.getLast?
    rw [begun]
    exact List.getLast?_concat
  · rw [level, left]
    exact tracking
  · intro a
    have goal : c.pipe.tick.goal start a =
        c.pipe.goal start a + (if p.first then p.plan.displacement a else 0) := by
      rw [Pipeline.goal, begun, Piece.begun_append, Piece.begun_singleton, Pipeline.goal,
        Int.add_assoc]
    rw [goal]
    exact lag a

theorem tick_loads (on : c.OnCourse start) (loads : c.drive.loads = true) :
    c.tick.OnCourse start := by
  have busy : c.drive.busy = false := by
    simp only [Drive.loads, Bool.and_eq_true, Bool.not_eq_true'] at loads
    exact loads.1
  obtain ⟨p, rest, waiting, _, next⟩ := on.gapless.intact.begun_tick.2 loads
  obtain ⟨cut, begins, follows⟩ := on.gapless.next next
  have front : c.drive.front = p.contents := by
    obtain ⟨_, _, waiting', front⟩ := on.gapless.intact.front_eq loads
    rw [waiting] at waiting'
    rw [front, (List.cons.inj waiting').1]
  have front' : c.drive.outputSteps.front = p.contents := by
    obtain ⟨_, _, _, same⟩ := Drive.outputSteps_eq (s := c.drive)
    rw [same]
    exact front
  have slot : c.drive.front.1.execBlock = p.segment.execBlock := by rw [front]; rfl
  by_cases same : c.drive.st.execBlock = some p.segment.execBlock
  · obtain ⟨q, last, tracking, lag⟩ := on.running (by rw [same]; rfl)
    have cut' : q.Cut := on.gapless.pieces q (List.mem_of_mem_take (List.mem_of_getLast? last))
    have later : p.first = false := by
      by_contra first
      have slot' := (ends_of_follows cut' (follows q last) (by simpa using first)).2
      have here := tracking.slot.symm.trans same
      rw [Option.some.injEq, slot'] at here
      exact Ring.next_ne (by decide) here.symm
    obtain ⟨plan, _, before⟩ := continues_of_follows (follows q last) later
    have left : c.pipe.left = 0 := by
      rw [Pipeline.left, busy]
      rfl
    rw [left] at tracking
    have going := tracking.outputSteps
    have balance := going.balance
    rw [Nat.zero_mul, Nat.add_zero, ← before] at balance
    have within := going.within
    have tracks := going.tracks
    rw [plan] at within tracks lag
    have form : c.tick = { c with
        pipe := c.pipe.tick
        weight := c.weight + 2 ^ (maxAmassLevel - c.drive.tick.st.amassLevel) } := by
      simp only [Course.tick, loads, Bool.true_or, if_true, Drive.restarts, slot, ne_eq, same,
        not_true_eq_false, decide_false, Bool.and_false, Bool.false_eq_true, if_false]
    rw [form]
    refine of_loaded on loads waiting cut
      (tracking_loadSegment cut front' ?_ within balance ?_) ?_
    · intro _
      rw [← plan]
      exact ⟨going.whole, going.direction⟩
    · rw [counter_of_same front' (by rw [Drive.execBlock_outputSteps]; exact same)]
      exact tracks
    · rw [later]
      simpa using lag
  · have form : c.tick = { c with
        pipe := c.pipe.tick
        origin := c.drive.position
        started := p.before
        weight := 0 + 2 ^ (maxAmassLevel - c.drive.tick.st.amassLevel) } := by
      simp only [Course.tick, loads, Bool.true_or, if_true, Drive.restarts, slot, ne_eq, same,
        not_false_eq_true, decide_true, Bool.and_self, waiting, List.map_cons, List.headD_cons,
        Nat.zero_add]
    rw [form]
    refine of_loaded on loads waiting cut ?_ (on.lag_of_restart busy next same)
    have other : c.drive.outputSteps.st.execBlock ≠ some p.segment.execBlock := by
      rw [Drive.execBlock_outputSteps]
      exact same
    refine tracking_loadSegment cut front' (fun here => absurd here other) cut.within (by omega) ?_
    intro a
    refine ⟨0, ?_, ?_⟩
    · rw [counter_of_restart cut front' other, Nat.mul_zero]
      have positive := cut.valid.positive
      exact Bresenham.tracks_start (by omega)
    · rw [position_outputSteps]
      exact (Int.add_zero _).symm.trans (by rw [Int.natCast_zero, Int.mul_zero])

theorem tick (on : c.OnCourse start) : c.tick.OnCourse start := by
  cases busy : c.drive.busy with
  | true => exact on.tick_busy busy
  | false =>
      cases loads : c.drive.loads with
      | true => exact on.tick_loads loads
      | false => exact on.tick_empty busy loads

theorem step (on : c.OnCourse start) {e : DriveEvent} (sound : c.drive.Sound e) :
    (c.step e).OnCourse start := by
  by_cases interrupt : e = .tick
  · rw [interrupt]
    exact on.tick
  · exact on.main sound interrupt

end OnCourse

theorem onCourse_initial (stBlockBuffer : BlockSlot → StBlock)
    (segmentBuffer : SegmentSlot → Segment) (start : Axis → Int) :
    (initial stBlockBuffer segmentBuffer start).OnCourse start where
  gapless := Pipeline.gapless_initial _ _ _
  running := by
    intro active
    cases active
  broken := by
    intro _ p last
    cases last
  complete := by
    intro _ _ a
    show |start a - (start a + 0)| ≤ 0
    rw [Int.add_zero, Int.sub_self]
    exact Int.le_refl 0

theorem onCourse_run {c : Course} (on : c.OnCourse start) {es : List DriveEvent}
    (sound : Always step (fun c e => c.drive.Sound e) c es) : (run step c es).OnCourse start :=
  Preserves.run (I := OnCourse start) (fun _ _ on sound => on.step sound) on sound

theorem followed_run {c : Course} (followed : c.drive.Followed) (es : List DriveEvent) :
    (run step c es).drive.Followed := by
  refine invariant_run (I := fun c : Course => c.drive.Followed) ?_ followed es
  intro c e followed
  rw [drive, pipe_step, Pipeline.drive_step]
  exact followed.step e

end Course

/-- All planned moves have been executed. -/
structure Drive.Drained (s : Drive) : Prop where
  planned : s.planner.blocks = []
  published : s.segmentBufferTail = s.segmentBufferHead
  executed : s.st.execBlock = none

/-- The goal of the pieces started is the planner's position once all moves have been executed. -/
theorem Course.OnCourse.goal_of_drained {start : Axis → Int} {c : Course} (on : c.OnCourse start)
    (drained : c.drive.Drained) : c.drive.planner.position = c.pipe.goal start ∧
      ∀ p ∈ c.pipe.begun.getLast?, p.after = 0 := by
  have busy : c.drive.busy = false := by
    by_contra busy
    rw [Bool.not_eq_false, Drive.busy, Bool.and_eq_true] at busy
    have active := on.gapless.intact.executing busy.1
    rw [drained.executed] at active
    cases active
  have empty : c.drive.loads = false := by
    simp [Drive.loads, drained.published]
  have begun := on.begun_of_empty busy empty
  have idle : c.drive.underway = false := by
    by_contra underway
    obtain ⟨b, rest, blocks⟩ := on.gapless.exists_current (by simpa using underway)
    cases drained.planned.symm.trans blocks
  refine ⟨?_, ?_⟩
  · funext a
    have account := on.gapless.account a
    have none : c.pipe.unstarted = [] := by
      rw [Pipeline.unstarted, drained.planned]
      exact ite_self _
    rw [none, travel_nil, Int.add_zero] at account
    rw [account, Pipeline.goal, begun]
  · intro p last
    rw [begun] at last
    exact (on.gapless.tip.idle idle p last).1

/-- Once all planned moves have been executed, the motors are where the planner takes them to be, but
for one step at most for each time that the buffer was empty in the middle of a block. -/
theorem arrives (stBlockBuffer : BlockSlot → StBlock) (segmentBuffer : SegmentSlot → Segment)
    (start : Axis → Int) (es : List DriveEvent)
    (sound : Always Course.step (fun c e => c.drive.Sound e)
      (Course.initial stBlockBuffer segmentBuffer start) es) :
    let c := run Course.step (Course.initial stBlockBuffer segmentBuffer start) es
    c.drive.Drained → ∀ a, c.drive.motors a = c.drive.position a ∧
      |c.drive.position a - c.drive.planner.position a| ≤ c.interruptions := by
  intro c drained a
  have on : c.OnCourse start := Course.onCourse_run (Course.onCourse_initial _ _ _) sound
  have followed : c.drive.Followed :=
    Course.followed_run (Drive.followed_initial stBlockBuffer segmentBuffer start) es
  obtain ⟨goal, complete⟩ := on.goal_of_drained drained
  refine ⟨?_, ?_⟩
  · rw [← followed.lag a, Drive.pending, drained.executed]
    exact (Int.add_zero _).symm
  · rw [goal]
    exact on.complete drained.executed complete a

/-- A move of two steps along X and one along Y that is held after half of it and resumed. -/
def Course.heldMove : List DriveEvent :=
  [.plan (fun | .x => 2 | .y => 1 | .z => 0) false,
    .prep ⟨0, .within, 0⟩, .prep ⟨0, .within, 0⟩, .prep ⟨1, .forced, 1⟩, .prep ⟨0, .within, 0⟩,
    .tick, .tick, .tick, .update, .control false false,
    .prep ⟨0, .within, 0⟩, .prep ⟨0, .within, 0⟩, .prep ⟨0, .block, 0⟩, .prep ⟨0, .within, 0⟩,
    .tick, .tick]

/-- Before any move, with both rings cleared. -/
def Course.cleared : Course :=
  initial (fun _ => ⟨fun _ => 0, 0, fun _ => false⟩) (fun _ => ⟨⟨0, blockSlots_pos⟩, 0, 0⟩)
    fun _ => 0

theorem arrives_heldMove :
    let c := run Course.step Course.cleared Course.heldMove
    c.drive.motors .y = c.drive.position .y ∧
      |c.drive.position .y - c.drive.planner.position .y| ≤ c.interruptions :=
  arrives _ _ _ Course.heldMove (by decide +kernel) (by constructor <;> decide +kernel) .y

/-- The step along Y is lost. -/
example : let c := run Course.step Course.cleared Course.heldMove
    c.interruptions = 1 ∧ c.drive.position .y = 0 ∧ c.drive.planner.position .y = 1 := by
  decide +kernel

/-- The distance from the line of a block, from its measure in step events. -/
theorem PlanBlock.distance_le {b : PlanBlock} (positive : 0 < b.stepEventCount) {a : Axis}
    {moved : Int} {events : Nat} {k : Int}
    (bound : 2 * |8 * b.stepEventCount * (b.direction a * moved) - b.steps a * events| ≤
      8 * b.stepEventCount * k) :
    |(moved : ℚ) - b.displacement a * (events / (8 * b.stepEventCount))| ≤ k / 2 := by
  have count : (0 : ℚ) < 8 * b.stepEventCount := by positivity
  have square : (b.direction a : ℚ) * b.direction a = 1 := by
    exact_mod_cast b.direction_mul_self a
  have unit : |(b.direction a : ℚ)| = 1 := by
    simp only [PlanBlock.direction]
    split <;> simp
  have measured : (8 * b.stepEventCount : ℚ) *
      ((moved : ℚ) - b.displacement a * (events / (8 * b.stepEventCount))) =
        b.direction a *
          (8 * b.stepEventCount * (b.direction a * moved) - b.steps a * events) := by
    rw [PlanBlock.displacement_eq, Int.cast_mul, Int.cast_natCast]
    field_simp
    linear_combination (-(8 * (b.stepEventCount : ℚ) * moved)) * square
  have scaled : (8 * b.stepEventCount : ℚ) *
      |(moved : ℚ) - b.displacement a * (events / (8 * b.stepEventCount))| =
        |8 * b.stepEventCount * (b.direction a * moved) - b.steps a * events| := by
    rw [← abs_of_pos count, ← abs_mul, abs_of_pos count, measured, abs_mul, unit, one_mul]
    push_cast
    rfl
  have bound : (2 : ℚ) *
      |8 * b.stepEventCount * (b.direction a * moved) - b.steps a * events| ≤
        8 * b.stepEventCount * k := by
    exact_mod_cast bound
  rw [← scaled] at bound
  have halved : 8 * (b.stepEventCount : ℚ) *
      |(moved : ℚ) - b.displacement a * (events / (8 * b.stepEventCount))| ≤
        8 * b.stepEventCount * (k / 2) := by
    linarith
  exact le_of_mul_le_mul_left halved count

namespace Drive

/-- How far an axis is from the planned line in the middle of a block. -/
theorem Tracking.lag_during {s : Drive} {p : Piece} {origin : Axis → Int}
    {started weight left : Nat} (tracking : s.Tracking p origin started weight left)
    {planned : Int} {a : Axis} {interruptions : Nat}
    (before : 2 * |p.plan.lag a (origin a - planned) (p.plan.stepEventCount - started)| ≤
      8 * p.plan.stepEventCount * p.plan.slack interruptions started) :
    2 * |8 * p.plan.stepEventCount * (p.plan.direction a * (s.position a - planned)) -
        p.plan.steps a * (8 * (p.plan.stepEventCount - started) + weight : Nat)| ≤
      8 * p.plan.stepEventCount * (2 * interruptions + 1) := by
  have near := tracking.near a
  have split : 8 * p.plan.stepEventCount * (p.plan.direction a * (s.position a - planned)) -
      p.plan.steps a * (8 * (p.plan.stepEventCount - started) + weight : Nat) =
        p.plan.lag a (origin a - planned) (p.plan.stepEventCount - started) +
          (8 * p.plan.stepEventCount * (p.plan.direction a * (s.position a - origin a)) -
            p.plan.steps a * weight) := by
    rw [PlanBlock.lag]
    push_cast
    ring
  have triangle := abs_add_le (p.plan.lag a (origin a - planned) (p.plan.stepEventCount - started))
    (8 * p.plan.stepEventCount * (p.plan.direction a * (s.position a - origin a)) -
      p.plan.steps a * weight)
  have slack : 8 * (p.plan.stepEventCount : Int) * p.plan.slack interruptions started ≤
      8 * p.plan.stepEventCount * (2 * interruptions) := by
    apply Int.mul_le_mul_of_nonneg_left _ (by positivity)
    simp only [PlanBlock.slack]
    split <;> omega
  rw [split, Int.mul_add, Int.mul_one]
  omega

end Drive

/-- While a block is executed, every axis is within half a step of the straight line of the block
from where its counters were last set, in every run and at every tick. From the planned line it is
one more step away at most for each time that the buffer was empty in the middle of a block. -/
theorem within_half_step (stBlockBuffer : BlockSlot → StBlock)
    (segmentBuffer : SegmentSlot → Segment) (start : Axis → Int) (es : List DriveEvent)
    (sound : Always Course.step (fun c e => c.drive.Sound e)
      (Course.initial stBlockBuffer segmentBuffer start) es) :
    let c := run Course.step (Course.initial stBlockBuffer segmentBuffer start) es
    c.drive.st.execBlock.isSome → ∃ b, c.pipe.begun.getLast?.map (·.plan) = some b ∧ ∀ a,
      |(c.drive.position a - c.origin a : ℚ) -
        b.displacement a * (c.weight / (8 * b.stepEventCount))| ≤ 1 / 2 ∧
      |(c.drive.position a - (c.pipe.goal start a - b.displacement a) : ℚ) -
        b.displacement a * ((8 * (b.stepEventCount - c.started) + c.weight : Nat) /
          (8 * b.stepEventCount))| ≤ 1 / 2 + c.interruptions := by
  intro c active
  have on : c.OnCourse start := Course.onCourse_run (Course.onCourse_initial _ _ _) sound
  obtain ⟨p, last, tracking, lag⟩ := on.running active
  have cut : p.Cut := on.gapless.pieces p (List.mem_of_mem_take (List.mem_of_getLast? last))
  refine ⟨p.plan, by rw [Option.mem_def.mp last]; rfl, ?_⟩
  intro a
  constructor
  · have near := PlanBlock.distance_le cut.valid.positive
      ((tracking.near a).trans_eq (Int.mul_one _).symm)
    push_cast at near
    exact near
  · have near := PlanBlock.distance_le cut.valid.positive (tracking.lag_during (lag a))
    push_cast at near ⊢
    linarith

/-- The first tick after the buffer was empty: the step along X is made at once. -/
theorem within_half_step_heldMove :
    let c := run Course.step Course.cleared (Course.heldMove.take 15)
    ∃ b, c.pipe.begun.getLast?.map (·.plan) = some b ∧ ∀ a,
      |(c.drive.position a - c.origin a : ℚ) -
        b.displacement a * (c.weight / (8 * b.stepEventCount))| ≤ 1 / 2 ∧
      |(c.drive.position a - (c.pipe.goal (fun _ => 0) a - b.displacement a) : ℚ) -
        b.displacement a * ((8 * (b.stepEventCount - c.started) + c.weight : Nat) /
          (8 * b.stepEventCount))| ≤ 1 / 2 + c.interruptions :=
  within_half_step _ _ _ (Course.heldMove.take 15) (by decide +kernel) (by decide +kernel)

/-- There the forced reload has left Y a whole step behind. -/
example : let c := run Course.step Course.cleared (Course.heldMove.take 15)
    c.interruptions = 1 ∧ c.drive.position .x = 2 ∧ c.drive.position .y = 0 := by
  decide +kernel

end Cnc
