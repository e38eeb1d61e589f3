import CncMachine.Controller.Planner
import CncMachine.Queue.Ring

/-!
# The stepper module

The main program cuts the planner's first block into segments, some step events each, and writes
them to a ring buffer (`st_prep_buffer`). The stepper interrupt takes the segments from the buffer
and spreads the steps of every axis over its ticks. A segment points to a record with the numbers of
its block, in a second, shorter ring; a tick reads them when it starts a segment.

The main program can be interrupted between any two of its accesses to what both share, so
`st_prep_buffer` is a machine of several phases. How far a segment goes and how finely its ticks are
divided follows from the speed profile, which is computed in floating point: it enters as the
`Profile` of the event.

The moves are the planned ones. The system's own motions, homing and parking, have a block beside
the planner's; they are left out, and with them the lock that keeps axes from moving while they are
homed.
-/

namespace Cnc

/-- `MAX_AMASS_LEVEL`. -/
abbrev maxAmassLevel : Nat := 3

/-- `SEGMENT_BUFFER_SIZE`. -/
abbrev segmentBufferSize : Nat := 10

/-- A place in `segment_buffer`; `next` is the successor that `st_reset` links it to. -/
abbrev SegmentSlot := Fin segmentBufferSize

/-- A place in `st_block_buffer`. -/
abbrev BlockSlot := Fin (segmentBufferSize - 1)

theorem blockSlots_pos : 0 < segmentBufferSize - 1 := by decide

/-- `st_block_t`. -/
structure StBlock where
  steps : Axis → Nat
  stepEventCount : Nat
  directionBits : Axis → Bool

/-- What a planner block becomes when it is prepared: all numbers are shifted, so that no later
shift back loses a step. -/
def PlanBlock.prepared (b : PlanBlock) : StBlock where
  steps a := u32 (b.steps a <<< maxAmassLevel)
  stepEventCount := u32 (b.stepEventCount <<< maxAmassLevel)
  directionBits := b.directionBits

/-- `segment_t`. -/
structure Segment where
  execBlock : BlockSlot
  nStep : Nat
  amassLevel : Nat
deriving DecidableEq

/-- `stepper_t`. -/
structure Stepper where
  counter : Axis → Nat := fun _ => 0
  newBlock : Bool := false
  dirChange : Bool := false
  stepOutbits : Axis → Bool := fun _ => false
  dirOutbits : Axis → Bool := fun _ => false
  steps : Axis → Nat := fun _ => 0
  amassLevel : Nat := 0
  stepCount : Nat := 0
  stepEventCount : Nat := 0
  execBlock : Option BlockSlot := none
  execSegment : Option SegmentSlot := none

/-- Where a segment ends: within its block, at the end of a hold's deceleration, or at the end of
the block. -/
inductive SegmentEnd where
  | within
  | forced
  | block
deriving DecidableEq

/-- What the speed profile says about the next segment. -/
structure Profile where
  nStepsRemaining : Nat
  segmentEnd : SegmentEnd
  amassLevel : Fin (maxAmassLevel + 1)
deriving DecidableEq

/-- Where the main program is in `st_prep_buffer`. -/
inductive PrepPhase where
  | outside
  /-- At the test of the `while` loop. -/
  | loop
  /-- `pl_block` is set and the next segment is to be computed. -/
  | segment
  /-- The segment has been written, but the head not moved. -/
  | publish (profile : Profile)
deriving DecidableEq

/-- Planner, segment buffer, stepper interrupt and motors. -/
structure Drive where
  planner : Planner
  /-- `pl_block` is not `NULL`; then it points to the planner's first block. -/
  plBlock : Bool := false
  stPrepBlock : BlockSlot := ⟨0, blockSlots_pos⟩
  /-- `prep.recalculate.velocity_profile`. -/
  velocityProfile : Bool := false
  /-- `prep.steps_remaining`. -/
  stepsRemaining : Nat := 0
  /-- `sys.step_control`. -/
  executeHold : Bool := false
  endMotion : Bool := false
  phase : PrepPhase := .outside
  stBlockBuffer : BlockSlot → StBlock
  segmentBuffer : SegmentSlot → Segment
  segmentBufferTail : SegmentSlot := 0
  segmentBufferHead : SegmentSlot := 0
  segmentNextHead : SegmentSlot := 1
  st : Stepper := {}
  /-- `sys.position`. -/
  position : Axis → Int
  /-- The levels of the direction pins. -/
  directionPins : Axis → Bool := fun _ => false
  /-- Where the motors are. -/
  motors : Axis → Int

inductive DriveEvent where
  /-- `plan_buffer_line`; `recalculated` tells whether `planner_recalculate` reaches the block that
  is being executed. -/
  | plan (target : Axis → Int) (recalculated : Bool)
  /-- `st_update_plan_block_parameters`. -/
  | update
  /-- The state machine writes `sys.step_control`. -/
  | control (executeHold endMotion : Bool)
  /-- The main program goes on in `st_prep_buffer`. -/
  | prep (profile : Profile)
  /-- `stepper_driver_interrupt_handler`. -/
  | tick

namespace Drive

variable (s : Drive)

/-- The segment buffer without its spare pointer. -/
def segments : Ring.Buffer segmentBufferSize Segment :=
  ⟨s.segmentBuffer, s.segmentBufferHead, s.segmentBufferTail⟩

/-- `st_update_plan_block_parameters`. -/
def updatePlanBlockParameters : Drive :=
  if s.plBlock then { s with velocityProfile := true, plBlock := false } else s

def plan (target : Axis → Int) (recalculated : Bool) : Drive :=
  let s' := { s with planner := (s.planner.bufferLine target).2 }
  if recalculated && (s.planner.bufferLine target).1 then s'.updatePlanBlockParameters else s'

/-- A new planner block is copied to the next place for blocks. -/
def prepareBlock (b : PlanBlock) : Drive :=
  let slot := Ring.next s.stPrepBlock
  { s with
    stPrepBlock := slot
    stBlockBuffer := Function.update s.stBlockBuffer slot b.prepared
    stepsRemaining := b.stepEventCount }

/-- The test of the loop, and `pl_block` if it is `NULL`. -/
def loadBlock : Drive :=
  if s.segmentBufferTail = s.segmentNextHead then { s with phase := .outside }
  else if s.plBlock then { s with phase := .segment }
  else
    match s.planner.blocks with
    | [] => { s with phase := .outside }
    | b :: _ =>
        if s.velocityProfile then
          { s with plBlock := true, velocityProfile := false, phase := .segment }
        else { s.prepareBlock b with plBlock := true, phase := .segment }

/-- `prep_segment->n_step` before it is shifted. -/
def segmentSteps (profile : Profile) : Nat :=
  u32 (s.stepsRemaining + 2 ^ 32 - profile.nStepsRemaining)

/-- The next segment is written to the head of the buffer. A hold that has no step left is over. -/
def writeSegment (profile : Profile) : Drive :=
  let nStep := s.segmentSteps profile
  let segment := { s.segmentBuffer s.segmentBufferHead with
    execBlock := s.stPrepBlock
    nStep := nStep }
  if nStep = 0 ∧ s.executeHold then
    { s with
      segmentBuffer := Function.update s.segmentBuffer s.segmentBufferHead segment
      endMotion := true
      phase := .outside }
  else
    { s with
      segmentBuffer := Function.update s.segmentBuffer s.segmentBufferHead
        { segment with
          nStep := u32 (nStep <<< (profile.amassLevel : Nat))
          amassLevel := profile.amassLevel }
      phase := .publish profile }

/-- The head moves, and the main program turns to the next segment, to the next block or back. -/
def publishSegment (profile : Profile) : Drive :=
  let s' := { s with
    segmentBufferHead := s.segmentNextHead
    segmentNextHead := Ring.next s.segmentNextHead
    stepsRemaining := profile.nStepsRemaining }
  match profile.segmentEnd with
  | .within => { s' with phase := .loop }
  | .forced => { s' with endMotion := true, phase := .outside }
  | .block =>
      { s' with plBlock := false, planner := s.planner.discardCurrentBlock, phase := .loop }

/-- One phase of `st_prep_buffer`. -/
def prepBuffer (profile : Profile) : Drive :=
  match s.phase with
  | .outside => if s.endMotion then s else { s with phase := .loop }
  | .loop => s.loadBlock
  | .segment => s.writeSegment profile
  | .publish profile => s.publishSegment profile

/-- `hal.stepper.pulse_start`: direction pins first, then one pulse for each axis that steps. -/
def pulseStart : Drive :=
  let pins := if s.st.dirChange then s.st.dirOutbits else s.directionPins
  { s with
    directionPins := pins
    motors := fun a =>
      if s.st.stepOutbits a then s.motors a + (if pins a then -1 else 1) else s.motors a }

/-- Output the steps of the tick before. A segment without ticks left is discarded. -/
def outputSteps : Drive :=
  if s.st.execBlock.isSome then
    { s.pulseStart with
      st := { s.st with
        newBlock := false
        dirChange := false
        execSegment := if s.st.stepCount = 0 then none else s.st.execSegment } }
  else s

/-- Counters and directions of a block other than the one that is executed. -/
def startBlock (slot : BlockSlot) : Stepper :=
  let block := s.stBlockBuffer slot
  if s.st.execBlock = some slot then s.st
  else
    let change := s.st.execBlock.isNone ||
      decide ¬∀ a, s.st.dirOutbits a = block.directionBits a
    { s.st with
      dirChange := change
      dirOutbits := if change then block.directionBits else s.st.dirOutbits
      execBlock := some slot
      stepEventCount := block.stepEventCount
      newBlock := true
      counter := fun _ => block.stepEventCount >>> 1 }

/-- Start the segment at the tail. -/
def loadSegment : Drive :=
  let segment := s.segmentBuffer s.segmentBufferTail
  { s with
    st := { s.startBlock segment.execBlock with
      execSegment := some s.segmentBufferTail
      stepCount := segment.nStep
      amassLevel := segment.amassLevel
      steps := fun a => (s.stBlockBuffer segment.execBlock).steps a >>> segment.amassLevel } }

/-- The counter of an axis exceeds the step event count. -/
def steps (a : Axis) : Bool :=
  decide (s.st.stepEventCount < u32 (s.st.counter a + s.st.steps a))

/-- The Bresenham line algorithm. `homing_axis_lock` masks the pulses in a homing cycle only. -/
def bresenham : Drive :=
  { s with
    st := { s.st with
      counter := fun a =>
        if s.steps a then u32 (s.st.counter a + s.st.steps a) - s.st.stepEventCount
        else u32 (s.st.counter a + s.st.steps a)
      stepOutbits := s.steps }
    position := fun a =>
      if s.steps a then s.position a + (if s.st.dirOutbits a then -1 else 1) else s.position a }

/-- Count the tick; with the last one the tail moves. -/
def countTick : Drive :=
  { s with
    st := { s.st with stepCount := s.st.stepCount - 1 }
    segmentBufferTail :=
      if s.st.stepCount = 0 ∨ s.st.stepCount - 1 = 0 then Ring.next s.segmentBufferTail
      else s.segmentBufferTail }

/-- The part of the interrupt after `hal.stepper.pulse_start`. -/
def proceed : Drive :=
  match s.st.execSegment with
  | some _ => s.bresenham.countTick
  | none =>
      if s.segmentBufferTail = s.segmentBufferHead then
        { s with st := { s.st with execBlock := none } }
      else s.loadSegment.bresenham.countTick

/-- `stepper_driver_interrupt_handler`. -/
def tick : Drive := s.outputSteps.proceed

/-- The main program does nothing else while it is in `st_prep_buffer`. -/
def whenOutside (s' : Drive) : Drive :=
  match s.phase with
  | .outside => s'
  | _ => s

def step (s : Drive) : DriveEvent → Drive
  | .plan target recalculated => s.whenOutside (s.plan target recalculated)
  | .update => s.whenOutside s.updatePlanBlockParameters
  | .control executeHold endMotion =>
      s.whenOutside { s with executeHold := executeHold, endMotion := endMotion }
  | .prep profile => s.prepBuffer profile
  | .tick => s.tick

/-- After `plan_reset`, `st_reset` and `plan_sync_position`, with the machine at some position. -/
def initial (stBlockBuffer : BlockSlot → StBlock) (segmentBuffer : SegmentSlot → Segment)
    (position : Axis → Int) : Drive where
  planner := { position := position }
  stBlockBuffer := stBlockBuffer
  segmentBuffer := segmentBuffer
  position := position
  motors := position

end Drive

end Cnc
