import CncMachine.Controller.Overrides
import CncMachine.Numeric.Profile
import CncMachine.Transition.Run

/-!
# Look-ahead

Each planner block has a greatest entry speed, from the junction with the block before it and from
the nominal speeds of both. Whenever a block is added, `planner_recalculate` looks for entry speeds
with which the machine can accelerate and brake in time, and come to rest at the end of the last
block. It does not begin at the first block but at `block_buffer_planned`, which is moved on over
blocks that no later one can change.

Numbers are exact here. The greatest speed of a junction, which comes from the directions of both
moves, is part of what a new block brings along.
-/

namespace Cnc

open Transition

variable {K : Type} [Field K] [LinearOrder K]

/-- `MINIMUM_FEED_RATE`. -/
def minimumFeedRate : K := 1

/-- `SOME_LARGE_VALUE`. -/
def someLargeValue : K := 10 ^ 38

/-- The part of `plan_block_t` that decides how fast the block is executed. -/
structure SpeedBlock (K : Type) where
  entrySpeedSqr : K
  maxEntrySpeedSqr : K
  maxJunctionSpeedSqr : K
  acceleration : K
  millimeters : K
  programmedRate : K
  rapidRate : K
  rapidMotion : Bool := false
  noFeedOverride : Bool := false

namespace SpeedBlock

variable (b : SpeedBlock K)

/-- What the speed's square changes by along the block. -/
def gain : K := 2 * b.acceleration * b.millimeters

/-- `plan_compute_profile_nominal_speed`. -/
def nominalSpeed (overrides : Overrides) : K :=
  let speed :=
    if b.rapidMotion then b.programmedRate * (1 / 100 * overrides.rapidRate)
    else
      let speed :=
        if b.noFeedOverride then b.programmedRate
        else b.programmedRate * (1 / 100 * overrides.feedRate)
      if b.rapidRate < speed then b.rapidRate else speed
  if minimumFeedRate < speed then speed else minimumFeedRate

/-- `plan_compute_profile_parameters`. -/
def profileParameters (nominal prevNominal : K) : SpeedBlock K :=
  let speedSqr := if prevNominal < nominal then prevNominal * prevNominal else nominal * nominal
  { b with
    maxEntrySpeedSqr :=
      if b.maxJunctionSpeedSqr < speedSqr then b.maxJunctionSpeedSqr else speedSqr }

end SpeedBlock

/-- The planner's ring buffer, from `block_buffer_tail` on. -/
structure Lookahead (K : Type) where
  blocks : List (SpeedBlock K) := []
  /-- `block_buffer_planned`, counted from the tail. -/
  planned : Nat := 0
  /-- `pl.previous_nominal_speed`. -/
  previousNominalSpeed : K
  /-- `sys.override`. -/
  overrides : Overrides := {}

/-- The square of the current speed and what remains of the block that is being cut, if `pl_block`
is not `NULL`. -/
abbrev Underway (K : Type) : Type := Option (K × K)

namespace Lookahead

variable (s : Lookahead K)

/-- `plan_get_exec_block_exit_speed_sqr`. -/
def exitSpeedSqr : K :=
  match s.blocks with
  | _ :: next :: _ => next.entrySpeedSqr
  | _ => 0

/-- `st_update_plan_block_parameters`. The length of a block is stored here, too: until it is
recalculated, nothing reads how the cutting of its segments makes it shorter. -/
def updatePlanBlockParameters (underway : Underway K) : Lookahead K :=
  match underway, s.blocks with
  | some (speedSqr, millimeters), b :: bs =>
      { s with blocks := { b with entrySpeedSqr := speedSqr, millimeters := millimeters } :: bs }
  | _, _ => s

/-- The reverse pass, over the blocks behind `block_buffer_planned`. -/
def reversePass : List (SpeedBlock K) → List (SpeedBlock K)
  | [] => []
  | [last] => [{ last with
      entrySpeedSqr := min last.maxEntrySpeedSqr (2 * last.acceleration * last.millimeters) }]
  | current :: next :: rest =>
      match reversePass (next :: rest) with
      | [] => []
      | next :: rest =>
          if current.entrySpeedSqr ≠ current.maxEntrySpeedSqr then
            let entrySpeedSqr :=
              next.entrySpeedSqr + 2 * current.acceleration * current.millimeters
            { current with
              entrySpeedSqr :=
                if entrySpeedSqr < current.maxEntrySpeedSqr then entrySpeedSqr
                else current.maxEntrySpeedSqr } :: next :: rest
          else current :: next :: rest

/-- The forward pass from a block on, over the blocks behind it, the first of which has this place
in the buffer. -/
def forwardPass (current : SpeedBlock K) (block planned : Nat) :
    List (SpeedBlock K) → List (SpeedBlock K) × Nat
  | [] => ([], planned)
  | next :: rest =>
      let entrySpeedSqr := current.entrySpeedSqr + 2 * current.acceleration * current.millimeters
      let full :=
        current.entrySpeedSqr < next.entrySpeedSqr ∧ entrySpeedSqr < next.entrySpeedSqr
      let next := if full then { next with entrySpeedSqr := entrySpeedSqr } else next
      let planned :=
        if full ∨ next.entrySpeedSqr = next.maxEntrySpeedSqr then block else planned
      let (rest, planned) := forwardPass next (block + 1) planned rest
      (next :: rest, planned)

/-- `planner_recalculate`. -/
def recalculate (underway : Underway K) : Lookahead K :=
  if s.planned + 1 < s.blocks.length then
    let s := if s.planned = 0 then s.updatePlanBlockParameters underway else s
    match s.blocks.drop s.planned with
    | [] => s
    | current :: rest =>
        let (rest, planned) := forwardPass current (s.planned + 1) s.planned (reversePass rest)
        { s with blocks := s.blocks.take s.planned ++ current :: rest, planned := planned }
  else s

/-- The end of `plan_buffer_line`, for a block that is not a system motion. -/
def bufferLine (block : SpeedBlock K) (underway : Underway K) : Lookahead K :=
  let block := { block with
    entrySpeedSqr := 0
    maxJunctionSpeedSqr := if s.blocks.isEmpty then 0 else block.maxJunctionSpeedSqr }
  let nominal := block.nominalSpeed s.overrides
  let block := block.profileParameters nominal s.previousNominalSpeed
  ({ s with
    blocks := s.blocks ++ [block]
    previousNominalSpeed := nominal } : Lookahead K).recalculate underway

/-- `plan_discard_current_block`. -/
def discardCurrentBlock : Lookahead K :=
  { s with blocks := s.blocks.tail, planned := s.planned - 1 }

/-- `plan_cycle_reinitialize`. -/
def cycleReinitialize (underway : Underway K) : Lookahead K :=
  { s.updatePlanBlockParameters underway with planned := 0 }.recalculate none

/-- The loop of `plan_update_velocity_profile_parameters`, with the last nominal speed. -/
def profileAll (overrides : Overrides) (prevNominal : K) :
    List (SpeedBlock K) → List (SpeedBlock K) × K
  | [] => ([], prevNominal)
  | block :: rest =>
      let nominal := block.nominalSpeed overrides
      let (rest, last) := profileAll overrides nominal rest
      (block.profileParameters nominal prevNominal :: rest, last)

/-- `plan_update_velocity_profile_parameters`. -/
def updateVelocityProfileParameters : Lookahead K :=
  if s.blocks.isEmpty then s
  else
    let (blocks, last) := profileAll s.overrides someLargeValue s.blocks
    { s with blocks := blocks, previousNominalSpeed := last }

/-- `plan_feed_override`, where it is not disabled. -/
def feedOverride (feed rapid : Nat) (underway : Underway K) : Lookahead K :=
  let feed := constrain feed minOverride maxOverride
  if feed ≠ s.overrides.feedRate ∨ rapid ≠ s.overrides.rapidRate then
    let s := { s with overrides.feedRate := feed, overrides.rapidRate := rapid }
    let s := s.updateVelocityProfileParameters
    if s.blocks.isEmpty then s else s.cycleReinitialize underway
  else s

/-- After `plan_reset`. -/
def initial : Lookahead K := { previousNominalSpeed := 0 }

end Lookahead

/-- What happens to the planner. -/
inductive LookaheadEvent (K : Type) where
  | bufferLine (block : SpeedBlock K) (underway : Underway K)
  | discard
  /-- The machine has come to rest in a hold. -/
  | restart (underway : Underway K)
  | feedOverride (feed rapid : Nat) (underway : Underway K)

namespace Lookahead

def step (s : Lookahead K) : LookaheadEvent K → Lookahead K
  | .bufferLine block underway => s.bufferLine block underway
  | .discard => s.discardCurrentBlock
  | .restart underway => s.cycleReinitialize underway
  | .feedOverride feed rapid underway => s.feedOverride feed rapid underway

end Lookahead

end Cnc
