import CncMachine.Controller.Stepper
import CncMachine.Transition.Run

/-!
# From the planner's blocks to the interrupt's segments

What the main program publishes and what the stepper interrupt loads are recorded along a run. The
two rings are sized so that a block's place is not used again while one of its segments is still in
the buffer: the segments in the buffer belong to blocks in successive places, fewer of them than
there are places. So the interrupt loads exactly the segments published, in their order, each with
the numbers of its own block, whenever the two of them run.
-/

namespace Cnc

open Transition

/-- A published segment, the planner block it was cut from, and the step events that remained of the
block before and after it. -/
structure Piece where
  segment : Segment
  plan : PlanBlock
  before : Nat
  after : Nat

/-- What the interrupt needs of a piece. -/
def Piece.contents (p : Piece) : Segment × StBlock := (p.segment, p.plan.prepared)

namespace Drive

variable (s : Drive)

/-- The interrupt is executing the segment at the tail. -/
def busy : Bool := s.st.execSegment.isSome && decide (s.st.stepCount ≠ 0)

/-- The next tick starts a segment. -/
def loads : Bool := !s.busy && decide (s.segmentBufferTail ≠ s.segmentBufferHead)

/-- The next tick is the last one of a segment. -/
def finishes : Bool := (s.busy || s.loads) && !s.tick.busy

/-- The segment at the tail and its block, as the interrupt reads them. -/
def front : Segment × StBlock :=
  (s.segmentBuffer s.segmentBufferTail,
    s.stBlockBuffer (s.segmentBuffer s.segmentBufferTail).execBlock)

/-- The main program is about to copy a new block. -/
def prepares : Bool :=
  decide (s.segmentBufferTail ≠ s.segmentNextHead) && !s.plBlock && !s.velocityProfile &&
    !s.planner.blocks.isEmpty

/-- The segment that has been written but not published. -/
def piece (profile : Profile) : List Piece :=
  match s.planner.blocks with
  | [] => []
  | b :: _ => [⟨s.segmentBuffer s.segmentBufferHead, b, s.stepsRemaining, profile.nStepsRemaining⟩]

end Drive

/-- The drive, with records of what went into the segment buffer and out of it. -/
structure Pipeline where
  drive : Drive
  published : List Piece := []
  loaded : List (Segment × StBlock) := []
  /-- How many segments have been executed to their end. -/
  done : Nat := 0
  /-- No segment of the last block prepared has been published. -/
  fresh : Bool := false

namespace Pipeline

variable (t : Pipeline)

/-- The segments that are in the buffer. -/
def waiting : List Piece := t.published.drop t.done

def prep (profile : Profile) : Pipeline :=
  let t' := { t with drive := t.drive.prepBuffer profile }
  match t.drive.phase with
  | .outside => t'
  | .loop => { t' with fresh := t.fresh || t.drive.prepares }
  | .segment => t'
  | .publish profile =>
      { t' with published := t.published ++ t.drive.piece profile, fresh := false }

def tick : Pipeline :=
  { t with
    drive := t.drive.tick
    loaded := if t.drive.loads then t.loaded ++ [t.drive.front] else t.loaded
    done := t.done + t.drive.finishes.toNat }

def step (t : Pipeline) : DriveEvent → Pipeline
  | .prep profile => t.prep profile
  | .tick => t.tick
  | .plan target recalculated => { t with drive := t.drive.step (.plan target recalculated) }
  | .update => { t with drive := t.drive.step .update }
  | .control executeHold endMotion =>
      { t with drive := t.drive.step (.control executeHold endMotion) }

def initial (stBlockBuffer : BlockSlot → StBlock) (segmentBuffer : SegmentSlot → Segment)
    (position : Axis → Int) : Pipeline where
  drive := Drive.initial stBlockBuffer segmentBuffer position

end Pipeline

namespace Drive

variable {s : Drive}

@[simp] theorem execBlock_outputSteps : s.outputSteps.st.execBlock = s.st.execBlock := by
  simp only [outputSteps]
  split <;> rfl

@[simp] theorem stepCount_outputSteps : s.outputSteps.st.stepCount = s.st.stepCount := by
  simp only [outputSteps]
  split <;> rfl

/-- Only motors, direction pins and the interrupt's own record change. -/
theorem outputSteps_eq : ∃ pins motors st,
    s.outputSteps = { s with directionPins := pins, motors := motors, st := st } := by
  simp only [outputSteps]
  split
  · exact ⟨_, _, _, rfl⟩
  · exact ⟨s.directionPins, s.motors, s.st, rfl⟩

/-- An executing segment belongs to an executing block. -/
def Executing (s : Drive) : Prop := s.st.execSegment.isSome → s.st.execBlock.isSome

theorem execSegment_outputSteps (executing : s.Executing) :
    s.outputSteps.st.execSegment.isSome = s.busy := by
  simp only [outputSteps, busy]
  cases segment : s.st.execSegment with
  | none => split <;> simp [segment]
  | some slot =>
      rw [if_pos (executing (by rw [segment]; rfl))]
      by_cases zero : s.st.stepCount = 0 <;> simp [zero]

/-- A tick within a segment. -/
theorem tick_of_busy (executing : s.Executing) (busy : s.busy = true) :
    s.tick = s.outputSteps.bresenham.countTick := by
  rw [← execSegment_outputSteps executing, Option.isSome_iff_exists] at busy
  obtain ⟨slot, eq⟩ := busy
  simp only [tick, proceed, eq]

theorem execSegment_none (executing : s.Executing) (busy : s.busy = false) :
    s.outputSteps.st.execSegment = none := by
  rw [← execSegment_outputSteps executing] at busy
  exact Option.not_isSome_iff_eq_none.mp (by simp [busy])

/-- A tick that starts a segment. -/
theorem tick_of_loads (executing : s.Executing) (loads : s.loads = true) :
    s.tick = s.outputSteps.loadSegment.bresenham.countTick := by
  simp only [Drive.loads, Bool.and_eq_true, Bool.not_eq_true', decide_eq_true_eq] at loads
  obtain ⟨pins, motors, st, eq⟩ := outputSteps_eq (s := s)
  have ends : s.outputSteps.segmentBufferTail ≠ s.outputSteps.segmentBufferHead := by
    rw [eq]
    exact loads.2
  simp only [tick, proceed, execSegment_none executing loads.1, if_neg ends]

/-- A tick that finds the buffer empty. -/
theorem tick_of_empty (executing : s.Executing) (busy : s.busy = false) (loads : s.loads = false) :
    s.tick = { s.outputSteps with st := { s.outputSteps.st with execBlock := none } } := by
  simp only [Drive.loads, busy, Bool.not_false, Bool.true_and, decide_eq_false_iff_not,
    Classical.not_not] at loads
  obtain ⟨pins, motors, st, eq⟩ := outputSteps_eq (s := s)
  have ends : s.outputSteps.segmentBufferTail = s.outputSteps.segmentBufferHead := by
    rw [eq]
    exact loads
  simp only [tick, proceed, execSegment_none executing busy, if_pos ends]

/-- A tick leaves everything to the main program but the tail. -/
theorem tick_eq : ∃ pins motors st position tail,
    s.tick = { s with
      directionPins := pins
      motors := motors
      st := st
      position := position
      segmentBufferTail := tail } := by
  obtain ⟨pins, motors, st, eq⟩ := outputSteps_eq (s := s)
  simp only [tick, proceed, eq]
  split
  · exact ⟨_, _, _, _, _, rfl⟩
  · split
    · exact ⟨_, _, _, _, _, rfl⟩
    · exact ⟨_, _, _, _, _, rfl⟩

/-- After a counted tick the segment goes on, or the tail has moved. -/
theorem countTick_spec (segment : s.st.execSegment.isSome) :
    s.countTick.busy = decide (s.st.stepCount - 1 ≠ 0) ∧
      s.countTick.segmentBufferTail =
        if s.countTick.busy then s.segmentBufferTail else Ring.next s.segmentBufferTail := by
  have busy : s.countTick.busy = decide (s.st.stepCount - 1 ≠ 0) := by
    simp only [Drive.busy, countTick, segment, Bool.true_and]
    rfl
  refine ⟨busy, ?_⟩
  rw [busy]
  by_cases last : s.st.stepCount - 1 = 0
  · simp [countTick, last]
  · have : ¬s.st.stepCount = 0 := by omega
    simp [countTick, last, this]

theorem executing_countTick (executing : s.Executing) : s.countTick.Executing := executing

theorem execSegment_bresenham : s.bresenham.st.execSegment = s.st.execSegment := rfl

theorem executing_bresenham (executing : s.Executing) : s.bresenham.Executing := executing

theorem executing_outputSteps (executing : s.Executing) : s.outputSteps.Executing := by
  intro some
  rw [execSegment_outputSteps executing] at some
  rw [execBlock_outputSteps]
  exact executing (Bool.and_eq_true _ _ |>.mp some).1

theorem execBlock_startBlock (slot : BlockSlot) : (s.startBlock slot).execBlock = some slot := by
  simp only [startBlock]
  split
  · assumption
  · rfl

@[simp] theorem execBlock_loadSegment :
    s.loadSegment.st.execBlock = some (s.segmentBuffer s.segmentBufferTail).execBlock :=
  execBlock_startBlock _

theorem executing_tick (executing : s.Executing) : s.tick.Executing := by
  cases busy : s.busy with
  | true =>
      rw [tick_of_busy executing busy]
      exact executing_countTick (executing_bresenham (executing_outputSteps executing))
  | false =>
      cases loads : s.loads with
      | true =>
          rw [tick_of_loads executing loads]
          apply executing_countTick
          apply executing_bresenham
          intro _
          rw [execBlock_loadSegment]
          rfl
      | false =>
          rw [tick_of_empty executing busy loads]
          intro some
          simp [execSegment_none executing busy] at some

/-- The tail moves when a segment is finished. -/
theorem tail_tick (executing : s.Executing) : s.tick.segmentBufferTail =
    if s.finishes then Ring.next s.segmentBufferTail else s.segmentBufferTail := by
  obtain ⟨pins, motors, st, eq⟩ := outputSteps_eq (s := s)
  cases busy : s.busy with
  | true =>
      have segment : s.outputSteps.bresenham.st.execSegment.isSome := by
        rw [execSegment_bresenham, execSegment_outputSteps executing, busy]
      have tail := (countTick_spec segment).2
      rw [← tick_of_busy executing busy] at tail
      have same : s.outputSteps.bresenham.segmentBufferTail = s.segmentBufferTail := by rw [eq]; rfl
      rw [same] at tail
      simp only [finishes, busy, Bool.true_or, Bool.true_and]
      rw [tail]
      cases s.tick.busy <;> rfl
  | false =>
      cases loads : s.loads with
      | true =>
          have segment : s.outputSteps.loadSegment.bresenham.st.execSegment.isSome := rfl
          have tail := (countTick_spec segment).2
          rw [← tick_of_loads executing loads] at tail
          have same : s.outputSteps.loadSegment.bresenham.segmentBufferTail =
              s.segmentBufferTail := by rw [eq]; rfl
          rw [same] at tail
          simp only [finishes, busy, loads, Bool.false_or, Bool.true_and]
          rw [tail]
          cases s.tick.busy <;> rfl
      | false =>
          rw [tick_of_empty executing busy loads]
          simp only [finishes, busy, loads, Bool.false_or, Bool.false_and]
          rw [eq]
          rfl

/-- A segment is being executed after the tick if one is started or goes on, and is not finished. -/
theorem busy_tick (executing : s.Executing) :
    s.tick.busy = ((s.busy || s.loads) && !s.finishes) := by
  cases busy : s.busy with
  | true => cases next : s.tick.busy <;> simp [finishes, busy, next]
  | false =>
      cases loads : s.loads with
      | true => cases next : s.tick.busy <;> simp [finishes, loads, next]
      | false =>
          rw [tick_of_empty executing busy loads]
          simp [Drive.busy, execSegment_none executing busy]

/-- What the test of the loop leads to: back, on with the block, on with the same block again, or to
a new one. -/
theorem loadBlock_cases (s : Drive) :
    (s.loadBlock = { s with phase := .outside } ∧ s.prepares = false) ∨
    s.segmentBufferTail ≠ s.segmentNextHead ∧
      (s.plBlock = true ∧ s.loadBlock = { s with phase := .segment } ∧ s.prepares = false ∨
      s.plBlock = false ∧ s.velocityProfile = true ∧ s.prepares = false ∧
        s.loadBlock = { s with plBlock := true, velocityProfile := false, phase := .segment } ∨
      s.plBlock = false ∧ s.velocityProfile = false ∧ s.prepares = true ∧
        ∃ b rest, s.planner.blocks = b :: rest ∧
          s.loadBlock = { s.prepareBlock b with plBlock := true, phase := .segment }) := by
  simp only [loadBlock, prepares]
  by_cases full : s.segmentBufferTail = s.segmentNextHead
  · exact Or.inl ⟨if_pos full, by simp [full]⟩
  rw [if_neg full]
  cases set : s.plBlock with
  | true => exact Or.inr ⟨full, Or.inl ⟨rfl, rfl, by simp⟩⟩
  | false =>
      cases first : s.planner.blocks with
      | nil => exact Or.inl ⟨rfl, by simp⟩
      | cons b rest =>
          cases profile : s.velocityProfile with
          | true => exact Or.inr ⟨full, Or.inr (Or.inl ⟨rfl, rfl, by simp, rfl⟩)⟩
          | false => exact Or.inr ⟨full, Or.inr (Or.inr ⟨rfl, rfl, by simp [full], b, rest, rfl, rfl⟩)⟩

/-- Only the planner and flags of the main program differ. -/
def Alongside (s s' : Drive) : Prop :=
  ∃ planner plBlock velocityProfile executeHold endMotion, s' = { s with
    planner := planner
    plBlock := plBlock
    velocityProfile := velocityProfile
    executeHold := executeHold
    endMotion := endMotion }

theorem frame_update (s : Drive) : s.Alongside s.updatePlanBlockParameters := by
  simp only [updatePlanBlockParameters]
  split
  · exact ⟨_, _, _, _, _, rfl⟩
  · exact ⟨s.planner, _, _, _, _, rfl⟩

theorem idle_update (s : Drive) (_ : s.updatePlanBlockParameters.plBlock = false)
    (profile : s.updatePlanBlockParameters.velocityProfile = false) :
    s.plBlock = false ∧ s.velocityProfile = false := by
  simp only [updatePlanBlockParameters] at profile
  split at profile
  · cases profile
  · rename_i clear
    exact ⟨by simpa using clear, profile⟩

theorem frame_plan (s : Drive) (target : Axis → Int) (recalculated : Bool) :
    s.Alongside (s.plan target recalculated) := by
  simp only [plan]
  split
  · obtain ⟨_, _, _, _, _, eq⟩ :=
      frame_update { s with planner := (s.planner.bufferLine target).2 }
    exact ⟨_, _, _, _, _, eq⟩
  · exact ⟨_, _, _, _, _, rfl⟩

theorem idle_plan (s : Drive) (target : Axis → Int) (recalculated : Bool)
    (block : (s.plan target recalculated).plBlock = false)
    (profile : (s.plan target recalculated).velocityProfile = false) :
    s.plBlock = false ∧ s.velocityProfile = false := by
  simp only [plan] at block profile
  split at profile
  · rename_i reached
    rw [if_pos reached] at block
    exact idle_update { s with planner := (s.planner.bufferLine target).2 } block profile
  · rename_i missed
    rw [if_neg missed] at block
    exact ⟨block, profile⟩

/-- The main program leaves the interrupt's record, the position and the motors alone. -/
theorem interrupt_step (s : Drive) (e : DriveEvent) (main : e ≠ .tick) :
    (s.step e).st = s.st ∧ (s.step e).motors = s.motors ∧ (s.step e).position = s.position ∧
      (s.step e).directionPins = s.directionPins := by
  have outside : ∀ s', s.Alongside s' → (s.whenOutside s').st = s.st ∧
      (s.whenOutside s').motors = s.motors ∧ (s.whenOutside s').position = s.position ∧
      (s.whenOutside s').directionPins = s.directionPins := by
    rintro _ ⟨_, _, _, _, _, rfl⟩
    simp only [whenOutside]
    split <;> exact ⟨rfl, rfl, rfl, rfl⟩
  cases e with
  | tick => exact absurd rfl main
  | plan target recalculated => exact outside _ (frame_plan s target recalculated)
  | update => exact outside _ (frame_update s)
  | control executeHold endMotion => exact outside _ ⟨_, _, _, _, _, rfl⟩
  | prep profile =>
      simp only [Drive.step, prepBuffer]
      split
      · split <;> exact ⟨rfl, rfl, rfl, rfl⟩
      · obtain ⟨eq, _⟩ | ⟨_, ⟨_, eq, _⟩ | ⟨_, _, _, eq⟩ | ⟨_, _, _, _, _, _, eq⟩⟩ :=
          s.loadBlock_cases <;> rw [eq] <;> exact ⟨rfl, rfl, rfl, rfl⟩
      · simp only [writeSegment]
        split <;> exact ⟨rfl, rfl, rfl, rfl⟩
      · simp only [publishSegment]
        split <;> exact ⟨rfl, rfl, rfl, rfl⟩

end Drive

/-- The main program's own part of the invariant. -/
structure Prepared (s : Drive) : Prop where
  spare : s.segmentNextHead = Ring.next s.segmentBufferHead
  exclusive : s.plBlock = true → s.velocityProfile = false
  /-- The block being cut is the planner's first one. -/
  current : s.plBlock = true ∨ s.velocityProfile = true → ∃ b rest, s.planner.blocks = b :: rest ∧
    s.stBlockBuffer s.stPrepBlock = b.prepared
  cutting : ∀ profile, s.phase = .segment ∨ s.phase = .publish profile →
    s.plBlock = true ∧ s.segments.count + 1 < segmentBufferSize
  written : ∀ profile, s.phase = .publish profile →
    (s.segmentBuffer s.segmentBufferHead).execBlock = s.stPrepBlock

/-- The buffer holds the pieces that are waiting, and their blocks are intact. -/
structure Pipeline.Intact (t : Pipeline) : Prop where
  executing : t.drive.Executing
  prepared : Prepared t.drive
  inside : t.done ≤ t.published.length
  queue : t.drive.segments.toList = t.waiting.map (·.segment)
  read : t.loaded = (t.published.take (t.done + t.drive.busy.toNat)).map Piece.contents
  flying : t.drive.busy = true → t.waiting ≠ []
  owned : ∀ p ∈ t.waiting, t.drive.stBlockBuffer p.segment.execBlock = p.plan.prepared
  trail : (t.waiting.map (·.segment.execBlock)).IsChain fun i j => j = i ∨ j = Ring.next i
  last : ∀ slot ∈ (t.waiting.map (·.segment.execBlock)).getLast?,
    t.drive.stPrepBlock = if t.fresh then Ring.next slot else slot
  idle : t.drive.plBlock = false → t.drive.velocityProfile = false → t.fresh = false

namespace Prepared

variable {s : Drive}

/-- A change outside `st_prep_buffer` that keeps the planner's first block. -/
theorem of_outside (prepared : Prepared s) {s' : Drive} (outside : s'.phase = .outside)
    (pointers : s'.segmentNextHead = s.segmentNextHead ∧ s'.segmentBufferHead = s.segmentBufferHead)
    (flags : s'.plBlock = s.plBlock ∧ s'.velocityProfile = s.velocityProfile)
    (planner : ∃ more, s'.planner.blocks = s.planner.blocks ++ more)
    (blocks : s'.stBlockBuffer = s.stBlockBuffer ∧ s'.stPrepBlock = s.stPrepBlock) :
    Prepared s' where
  spare := by
    rw [pointers.1, pointers.2]
    exact prepared.spare
  exclusive := by
    rw [flags.1, flags.2]
    exact prepared.exclusive
  current := by
    rw [flags.1, flags.2, blocks.1, blocks.2]
    intro set
    obtain ⟨b, rest, first, copy⟩ := prepared.current set
    obtain ⟨more, eq⟩ := planner
    exact ⟨b, rest ++ more, by rw [eq, first, List.cons_append], copy⟩
  cutting := by
    rintro profile (phase | phase) <;> rw [outside] at phase <;> cases phase
  written := by
    intro profile phase
    rw [outside] at phase
    cases phase

theorem update (prepared : Prepared s) (outside : s.phase = .outside) :
    Prepared s.updatePlanBlockParameters := by
  simp only [Drive.updatePlanBlockParameters]
  cases set : s.plBlock with
  | false => exact prepared
  | true =>
      exact
        { spare := prepared.spare
          exclusive := by
            intro cleared
            cases cleared
          current := by
            intro _
            exact prepared.current (Or.inl set)
          cutting := by
            rintro profile (phase | phase) <;> cases outside.symm.trans phase
          written := by
            intro profile phase
            cases outside.symm.trans phase }

theorem exists_blocks_bufferLine (p : Planner) (target : Axis → Int) :
    ∃ more, (p.bufferLine target).2.blocks = p.blocks ++ more := by
  simp only [Planner.bufferLine]
  split
  · exact ⟨[], (List.append_nil _).symm⟩
  · exact ⟨_, rfl⟩

theorem plan (prepared : Prepared s) (outside : s.phase = .outside) (target : Axis → Int)
    (recalculated : Bool) : Prepared (s.plan target recalculated) := by
  have planned : Prepared { s with planner := (s.planner.bufferLine target).2 } :=
    prepared.of_outside outside ⟨rfl, rfl⟩ ⟨rfl, rfl⟩ (exists_blocks_bufferLine _ _) ⟨rfl, rfl⟩
  simp only [Drive.plan]
  split
  · exact planned.update outside
  · exact planned

theorem publishSegment (prepared : Prepared s) (profile : Profile) (set : s.plBlock = true) :
    Prepared (s.publishSegment profile) := by
  obtain ⟨spare, exclusive, current, _, _⟩ := prepared
  simp only [Drive.publishSegment]
  cases profile.segmentEnd with
  | within =>
      exact
        { spare := congrArg Ring.next rfl
          exclusive := exclusive
          current := current
          cutting := by rintro _ (there | there) <;> cases there
          written := by
            intro _ there
            cases there }
  | forced =>
      exact
        { spare := congrArg Ring.next rfl
          exclusive := exclusive
          current := current
          cutting := by rintro _ (there | there) <;> cases there
          written := by
            intro _ there
            cases there }
  | block =>
      exact
        { spare := congrArg Ring.next rfl
          exclusive := by
            intro cleared
            cases cleared
          current := by
            rintro (cleared | profile)
            · cases cleared
            · cases (exclusive set).symm.trans profile
          cutting := by rintro _ (there | there) <;> cases there
          written := by
            intro _ there
            cases there }

end Prepared

namespace Pipeline

variable {t : Pipeline}

theorem intact_initial (stBlockBuffer : BlockSlot → StBlock)
    (segmentBuffer : SegmentSlot → Segment) (position : Axis → Int) :
    (initial stBlockBuffer segmentBuffer position).Intact where
  executing := by
    intro some
    exact some
  prepared :=
    { spare := rfl
      exclusive := by
        intro set
        exact rfl
      current := by
        rintro (set | set) <;> cases set
      cutting := by
        rintro profile (phase | phase) <;> cases phase
      written := by
        intro profile phase
        cases phase }
  inside := Nat.zero_le _
  queue := by
    rw [Ring.Buffer.toList_eq_nil_iff.mpr rfl]
    rfl
  read := rfl
  flying := by
    intro busy
    cases busy
  owned := by
    intro p member
    cases member
  trail := List.isChain_nil
  last := by
    intro slot member
    cases member
  idle := by
    intro _ _
    rfl

namespace Intact

theorem length_waiting (intact : t.Intact) : t.waiting.length = t.drive.segments.count := by
  rw [← Ring.Buffer.length_toList, intact.queue, List.length_map]

theorem segments_tick (intact : t.Intact) : t.drive.tick.segments =
    if t.drive.finishes then t.drive.segments.pop else t.drive.segments := by
  have tail := Drive.tail_tick intact.executing
  obtain ⟨pins, motors, st, position, tail', eq⟩ := Drive.tick_eq (s := t.drive)
  rw [eq] at tail ⊢
  change tail' = _ at tail
  rw [tail]
  cases t.drive.finishes <;> rfl

/-- A segment that is executed is in the buffer. -/
theorem nonempty (intact : t.Intact) (active : t.drive.busy || t.drive.loads) :
    t.waiting ≠ [] ∧ t.drive.segments.head ≠ t.drive.segments.tail := by
  have iff : t.waiting = [] ↔ t.drive.segments.head = t.drive.segments.tail := by
    rw [← Ring.Buffer.toList_eq_nil_iff, intact.queue, List.map_eq_nil_iff]
  cases busy : t.drive.busy with
  | true => exact ⟨intact.flying busy, mt iff.mpr (intact.flying busy)⟩
  | false =>
      rw [busy, Bool.false_or] at active
      simp only [Drive.loads, Bool.and_eq_true, decide_eq_true_eq] at active
      have ends : t.drive.segments.head ≠ t.drive.segments.tail := fun same => active.2 same.symm
      exact ⟨mt iff.mp ends, ends⟩

theorem active_of_finishes (finishes : t.drive.finishes = true) :
    (t.drive.busy || t.drive.loads) = true := by
  simp only [Drive.finishes, Bool.and_eq_true] at finishes
  exact finishes.1

theorem count_tick_le (intact : t.Intact) :
    t.drive.tick.segments.count ≤ t.drive.segments.count := by
  rw [intact.segments_tick]
  cases finishes : t.drive.finishes with
  | false => exact Nat.le_refl _
  | true =>
      have := Ring.Buffer.count_pop (intact.nonempty (active_of_finishes finishes)).2
      simp only [if_true]
      omega

/-- Taking segments from the buffer leaves the main program as it is. -/
theorem prepared_tick (intact : t.Intact) : Prepared t.drive.tick := by
  obtain ⟨spare, exclusive, current, cutting, written⟩ := intact.prepared
  have count := intact.count_tick_le
  obtain ⟨pins, motors, st, position, tail, eq⟩ := Drive.tick_eq (s := t.drive)
  rw [eq] at count ⊢
  refine ⟨spare, exclusive, current, ?_, written⟩
  intro profile phase
  obtain ⟨set, room⟩ := cutting profile phase
  exact ⟨set, Nat.lt_of_le_of_lt (Nat.add_le_add_right count 1) room⟩

theorem waiting_tick : t.tick.waiting = if t.drive.finishes then t.waiting.tail else t.waiting := by
  simp only [waiting, tick]
  cases t.drive.finishes with
  | true => simp
  | false => rfl

/-- What the interrupt reads when it starts a segment is the first piece that waits. -/
theorem front_eq (intact : t.Intact) (loads : t.drive.loads = true) :
    ∃ p rest, t.waiting = p :: rest ∧ t.drive.front = p.contents := by
  obtain ⟨some, ends⟩ := intact.nonempty (by rw [loads, Bool.or_true])
  obtain ⟨p, rest, eq⟩ := List.exists_cons_of_ne_nil some
  refine ⟨p, rest, eq, ?_⟩
  have queue := intact.queue
  rw [Ring.Buffer.toList_pop ends, eq, List.map_cons] at queue
  have segment : t.drive.segmentBuffer t.drive.segmentBufferTail = p.segment :=
    (List.cons.inj queue).1
  have block := intact.owned p (by rw [eq]; exact List.mem_cons_self)
  simp only [Drive.front, Piece.contents, segment, block]

theorem read_tick (intact : t.Intact) :
    t.tick.loaded = (t.published.take (t.tick.done + t.drive.tick.busy.toNat)).map
      Piece.contents := by
  have busy := Drive.busy_tick intact.executing
  have active := active_of_finishes (t := t)
  simp only [Pipeline.tick]
  cases loads : t.drive.loads with
  | true =>
      obtain ⟨p, rest, eq, front⟩ := intact.front_eq loads
      have idle : t.drive.busy = false := by
        simp only [Drive.loads, Bool.and_eq_true, Bool.not_eq_true'] at loads
        exact loads.1
      have sum : t.done + t.drive.finishes.toNat + t.drive.tick.busy.toNat = t.done + 1 := by
        rw [busy, loads, Bool.or_true, Bool.true_and]
        cases t.drive.finishes <;> rfl
      have next : t.published[t.done]? = some p := by
        have head : t.waiting.head? = some p := by rw [eq]; rfl
        rwa [waiting, List.head?_drop] at head
      rw [if_pos rfl, sum, List.take_add_one, next, List.map_append, intact.read, idle, front]
      rfl
  | false =>
      rw [if_neg (by simp), intact.read]
      cases flying : t.drive.busy with
      | true =>
          rw [busy, flying]
          cases t.drive.finishes <;> rfl
      | false =>
          have rests : t.drive.finishes = false := by
            by_contra finishes
            have := active (by simpa using finishes)
            simp [flying, loads] at this
          rw [busy, flying, loads, rests]
          rfl

theorem tick (intact : t.Intact) : t.tick.Intact := by
  have finish := waiting_tick (t := t)
  have nonempty : t.drive.finishes = true → t.waiting ≠ [] := fun finishes =>
    (intact.nonempty (active_of_finishes finishes)).1
  have sublist : t.tick.waiting.Sublist t.waiting := by
    rw [finish]
    split
    · exact List.tail_sublist _
    · exact List.Sublist.refl _
  obtain ⟨pins, motors, st, position, tail, eq⟩ := Drive.tick_eq (s := t.drive)
  refine
    { executing := Drive.executing_tick intact.executing
      prepared := intact.prepared_tick
      inside := ?_
      queue := ?_
      read := intact.read_tick
      flying := ?_
      owned := ?_
      trail := ?_
      last := ?_
      idle := ?_ }
  · have inside := intact.inside
    simp only [Pipeline.tick]
    cases finishes : t.drive.finishes with
    | false => exact inside
    | true =>
        have := List.length_pos_of_ne_nil (nonempty finishes)
        rw [waiting, List.length_drop] at this
        rw [Bool.toNat_true]
        omega
  · show t.drive.tick.segments.toList = _
    rw [intact.segments_tick, finish]
    cases finishes : t.drive.finishes with
    | false => exact intact.queue
    | true =>
        have pop := Ring.Buffer.toList_pop (intact.nonempty (active_of_finishes finishes)).2
        rw [intact.queue] at pop
        simp only [if_true, List.map_tail, pop, List.tail_cons]
  · intro busy
    have active : t.drive.tick.busy = true := busy
    rw [Drive.busy_tick intact.executing, Bool.and_eq_true, Bool.not_eq_true'] at active
    rw [finish, active.2]
    exact (intact.nonempty active.1).1
  · intro p member
    have kept : t.tick.drive.stBlockBuffer = t.drive.stBlockBuffer := by
      show t.drive.tick.stBlockBuffer = _
      rw [eq]
    rw [kept]
    exact intact.owned p (sublist.mem member)
  · rw [finish]
    split
    · rw [List.map_tail]
      exact intact.trail.tail
    · exact intact.trail
  · intro slot member
    have kept : t.tick.drive.stPrepBlock = t.drive.stPrepBlock := by
      show t.drive.tick.stPrepBlock = _
      rw [eq]
    rw [kept]
    apply intact.last slot
    rw [finish] at member
    split at member
    · rw [List.map_tail, List.getLast?_tail] at member
      split at member
      · cases member
      · exact member
    · exact member
  · have kept : t.tick.drive.plBlock = t.drive.plBlock ∧
        t.tick.drive.velocityProfile = t.drive.velocityProfile := by
      show t.drive.tick.plBlock = _ ∧ t.drive.tick.velocityProfile = _
      rw [eq]
      exact ⟨rfl, rfl⟩
    rw [kept.1, kept.2]
    exact intact.idle

/-- An event that leaves the interrupt, the buffer and the blocks alone. -/
theorem of_same (intact : t.Intact) {s : Drive} (prepared : Prepared s)
    (st : s.st = t.drive.st) (segments : s.segments = t.drive.segments)
    (blocks : s.stBlockBuffer = t.drive.stBlockBuffer)
    (slot : s.stPrepBlock = t.drive.stPrepBlock)
    (idle : s.plBlock = false → s.velocityProfile = false → t.fresh = false) :
    ({ t with drive := s } : Pipeline).Intact where
  executing := by
    simp only [Drive.Executing, st]
    exact intact.executing
  prepared := prepared
  inside := intact.inside
  queue := segments ▸ intact.queue
  read := by
    simp only [Drive.busy, st]
    exact intact.read
  flying := by
    simp only [Drive.busy, st]
    exact intact.flying
  owned := blocks ▸ intact.owned
  trail := intact.trail
  last := slot ▸ intact.last
  idle := idle

/-- Outside `st_prep_buffer`, flags and planner change, and what has been prepared stays. -/
theorem outside (intact : t.Intact) {s : Drive} (prepared : Prepared s)
    (same : t.drive.Alongside s)
    (idle : s.plBlock = false → s.velocityProfile = false →
      t.drive.plBlock = false ∧ t.drive.velocityProfile = false) :
    ({ t with drive := s } : Pipeline).Intact := by
  obtain ⟨_, _, _, _, _, rfl⟩ := same
  apply intact.of_same prepared rfl rfl rfl rfl
  intro block profile
  obtain ⟨block, profile⟩ := idle block profile
  exact intact.idle block profile

/-- There is room for another segment if the loop goes on. -/
theorem room (intact : t.Intact)
    (test : t.drive.segmentBufferTail ≠ t.drive.segmentNextHead) :
    t.drive.segments.count + 1 < segmentBufferSize := by
  have bound := t.drive.segments.count_lt
  have room : Ring.next t.drive.segments.head ≠ t.drive.segments.tail := by
    rw [intact.prepared.spare] at test
    exact test.symm
  have := mt Ring.Buffer.full_iff.mpr room
  omega

/-- The place for the next block belongs to no segment in the buffer. -/
theorem next_free (intact : t.Intact) (used : t.fresh = false)
    (room : t.drive.segments.count + 1 < segmentBufferSize) :
    ∀ p ∈ t.waiting, p.segment.execBlock ≠ Ring.next t.drive.stPrepBlock := by
  intro p member same
  have last := intact.last
  rw [used] at last
  have mem : Ring.next t.drive.stPrepBlock ∈ t.waiting.map (·.segment.execBlock) :=
    List.mem_map.mpr ⟨p, member, same⟩
  obtain ⟨slot, ends⟩ :=
    Option.isSome_iff_exists.mp (List.getLast?_isSome.mpr (List.ne_nil_of_mem mem))
  rw [last slot ends] at mem
  refine Ring.next_notMem_of_chain intact.trail ends ?_ mem
  rw [List.length_map, intact.length_waiting]
  exact Nat.lt_sub_of_add_lt room

theorem prepareBlock (intact : t.Intact) {b : PlanBlock} {rest : List PlanBlock}
    (first : t.drive.planner.blocks = b :: rest) (idle : t.drive.plBlock = false)
    (new : t.drive.velocityProfile = false)
    (room : t.drive.segments.count + 1 < segmentBufferSize) :
    ({ t with
        drive := { t.drive.prepareBlock b with plBlock := true, phase := .segment }
        fresh := true } : Pipeline).Intact where
  executing := intact.executing
  prepared :=
    { spare := intact.prepared.spare
      exclusive := fun _ => new
      current := fun _ => ⟨b, rest, first, Function.update_self _ _ _⟩
      cutting := fun _ _ => ⟨rfl, room⟩
      written := by
        intro profile phase
        cases phase }
  inside := intact.inside
  queue := intact.queue
  read := intact.read
  flying := intact.flying
  owned := by
    intro p member
    have other := intact.next_free (intact.idle idle new) room p member
    exact (Function.update_of_ne other _ _).trans (intact.owned p member)
  trail := intact.trail
  last := by
    intro slot ends
    have last := intact.last slot ends
    rw [intact.idle idle new] at last
    exact congrArg Ring.next last
  idle := by
    intro cleared
    cases cleared

/-- The main program goes on to another phase. -/
theorem phase (intact : t.Intact) (phase : PrepPhase)
    (cutting : ∀ profile, phase = .segment ∨ phase = .publish profile →
      t.drive.plBlock = true ∧ t.drive.segments.count + 1 < segmentBufferSize)
    (written : ∀ profile, phase ≠ .publish profile) :
    ({ t with drive := { t.drive with phase := phase } } : Pipeline).Intact :=
  intact.of_same
    { spare := intact.prepared.spare
      exclusive := intact.prepared.exclusive
      current := intact.prepared.current
      cutting := cutting
      written := fun profile there => absurd there (written profile) }
    rfl rfl rfl rfl intact.idle

theorem leave (intact : t.Intact) :
    ({ t with drive := { t.drive with phase := .outside } } : Pipeline).Intact :=
  intact.phase .outside (by rintro _ (there | there) <;> cases there)
    (by intro _ there; cases there)

theorem loadBlock (intact : t.Intact) :
    ({ t with
        drive := t.drive.loadBlock
        fresh := t.fresh || t.drive.prepares } : Pipeline).Intact := by
  obtain ⟨eq, old⟩ | ⟨test, ⟨set, eq, old⟩ | ⟨_, profile, old, eq⟩ |
    ⟨set, profile, new, b, rest, first, eq⟩⟩ := t.drive.loadBlock_cases
  · rw [eq, old, Bool.or_false]
    exact intact.leave
  · rw [eq, old, Bool.or_false]
    exact intact.phase .segment (fun _ _ => ⟨set, intact.room test⟩) (by intro _ there; cases there)
  · rw [eq, old, Bool.or_false]
    exact intact.of_same
      { spare := intact.prepared.spare
        exclusive := fun _ => rfl
        current := fun _ => intact.prepared.current (Or.inr profile)
        cutting := fun _ _ => ⟨rfl, intact.room test⟩
        written := by
          intro _ there
          cases there }
      rfl rfl rfl rfl (by intro cleared; cases cleared)
  · rw [eq, new, Bool.or_true]
    exact intact.prepareBlock first set profile (intact.room test)

theorem writeSegment (intact : t.Intact) (there : t.drive.phase = .segment) (profile : Profile) :
    ({ t with drive := t.drive.writeSegment profile } : Pipeline).Intact := by
  have cutting := intact.prepared.cutting profile (Or.inl there)
  simp only [Drive.writeSegment]
  split
  · exact { intact with
      prepared :=
        { spare := intact.prepared.spare
          exclusive := intact.prepared.exclusive
          current := intact.prepared.current
          cutting := by rintro _ (phase | phase) <;> cases phase
          written := by
            intro _ phase
            cases phase }
      queue := (Ring.Buffer.toList_write _).trans intact.queue }
  · exact { intact with
      prepared :=
        { spare := intact.prepared.spare
          exclusive := intact.prepared.exclusive
          current := intact.prepared.current
          cutting := fun _ _ => cutting
          written := by
            intro _ _
            simp only [Function.update_self] }
      queue := (Ring.Buffer.toList_write _).trans intact.queue }

/-- The piece that is about to be published. -/
theorem exists_piece (intact : t.Intact) {profile : Profile}
    (there : t.drive.phase = .publish profile) : ∃ p : Piece,
      t.drive.piece profile = [p] ∧ p.segment = t.drive.segmentBuffer t.drive.segmentBufferHead ∧
      p.segment.execBlock = t.drive.stPrepBlock ∧
      t.drive.stBlockBuffer t.drive.stPrepBlock = p.plan.prepared := by
  obtain ⟨set, _⟩ := intact.prepared.cutting profile (Or.inr there)
  obtain ⟨b, rest, first, copy⟩ := intact.prepared.current (Or.inl set)
  refine ⟨⟨t.drive.segmentBuffer t.drive.segmentBufferHead, b, t.drive.stepsRemaining,
    profile.nStepsRemaining⟩, ?_, rfl, intact.prepared.written profile there, copy⟩
  simp only [Drive.piece, first]

/-- A piece of the block being cut goes to the end of the buffer. -/
theorem push (intact : t.Intact) {s : Drive} {p : Piece} (prepared : Prepared s)
    (room : t.drive.segments.count + 1 < segmentBufferSize) (st : s.st = t.drive.st)
    (segments : s.segments = t.drive.segments.push p.segment)
    (blocks : s.stBlockBuffer = t.drive.stBlockBuffer) (slot : s.stPrepBlock = t.drive.stPrepBlock)
    (own : p.segment.execBlock = t.drive.stPrepBlock)
    (copy : t.drive.stBlockBuffer t.drive.stPrepBlock = p.plan.prepared) :
    ({ t with drive := s, published := t.published ++ [p], fresh := false } : Pipeline).Intact := by
  have waiting : (t.published ++ [p]).drop t.done = t.waiting ++ [p] := by
    rw [List.drop_append_of_le_length intact.inside, Pipeline.waiting]
  have open_ : Ring.next t.drive.segments.head ≠ t.drive.segments.tail := by
    rw [ne_eq, Ring.Buffer.full_iff]
    omega
  refine
    { executing := ?_
      prepared := prepared
      inside := ?_
      queue := ?_
      read := ?_
      flying := ?_
      owned := ?_
      trail := ?_
      last := ?_
      idle := fun _ _ => rfl }
  · simp only [Drive.Executing, st]
    exact intact.executing
  · rw [List.length_append]
    exact Nat.le_add_right_of_le intact.inside
  · show s.segments.toList = ((t.published ++ [p]).drop t.done).map _
    rw [segments, Ring.Buffer.toList_push open_, intact.queue, waiting, List.map_append]
    rfl
  · show t.loaded = ((t.published ++ [p]).take (t.done + s.busy.toNat)).map _
    have flying := intact.flying
    have inside : t.done + t.drive.busy.toNat ≤ t.published.length := by
      cases busy : t.drive.busy with
      | false => exact intact.inside
      | true =>
          have := List.length_pos_of_ne_nil (flying busy)
          rw [Pipeline.waiting, List.length_drop] at this
          rw [Bool.toNat_true]
          omega
    simp only [Drive.busy, st] at inside ⊢
    rw [List.take_append_of_le_length inside]
    exact intact.read
  · intro busy
    show (t.published ++ [p]).drop t.done ≠ []
    rw [waiting]
    exact List.append_ne_nil_of_right_ne_nil _ (List.cons_ne_nil _ _)
  · show ∀ q ∈ (t.published ++ [p]).drop t.done, s.stBlockBuffer _ = _
    rw [waiting, blocks]
    intro q member
    obtain old | new := List.mem_append.mp member
    · exact intact.owned q old
    · rw [List.mem_singleton.mp new, own, copy]
  · show (((t.published ++ [p]).drop t.done).map _).IsChain _
    rw [waiting, List.map_append, List.isChain_append]
    refine ⟨intact.trail, List.isChain_singleton _, ?_⟩
    intro i ends j first
    have := intact.last i ends
    simp only [List.map_cons, List.map_nil, List.head?_cons, Option.mem_def,
      Option.some.injEq] at first
    rw [← first, own, this]
    cases t.fresh with
    | false => exact Or.inl rfl
    | true => exact Or.inr rfl
  · show ∀ i ∈ (((t.published ++ [p]).drop t.done).map _).getLast?, _
    rw [waiting, List.map_append]
    intro i ends
    simp only [List.map_cons, List.map_nil, List.getLast?_append, List.getLast?_singleton,
      Option.some_or, Option.mem_def, Option.some.injEq] at ends
    rw [← ends, own]
    exact slot

theorem publishSegment (intact : t.Intact) {profile : Profile}
    (there : t.drive.phase = .publish profile) :
    ({ t with
        drive := t.drive.publishSegment profile
        published := t.published ++ t.drive.piece profile
        fresh := false } : Pipeline).Intact := by
  obtain ⟨p, piece, segment, own, copy⟩ := intact.exists_piece there
  obtain ⟨set, room⟩ := intact.prepared.cutting profile (Or.inr there)
  have spare := intact.prepared.spare
  have segments : (t.drive.publishSegment profile).segments = t.drive.segments.push p.segment := by
    have same := Function.update_eq_self t.drive.segmentBufferHead t.drive.segmentBuffer
    rw [segment]
    simp only [Ring.Buffer.push, Drive.segments, same, ← spare]
    simp only [Drive.publishSegment]
    split <;> rfl
  rw [piece]
  refine intact.push ?_ room ?_ segments ?_ ?_ own copy
  · exact intact.prepared.publishSegment profile set
  · simp only [Drive.publishSegment]
    split <;> rfl
  · simp only [Drive.publishSegment]
    split <;> rfl
  · simp only [Drive.publishSegment]
    split <;> rfl

theorem prep (intact : t.Intact) (profile : Profile) : (t.prep profile).Intact := by
  simp only [Pipeline.prep, Drive.prepBuffer]
  cases there : t.drive.phase with
  | outside =>
      dsimp only
      split
      · exact intact
      · exact intact.phase .loop (by rintro _ (there | there) <;> cases there)
          (by intro _ there; cases there)
  | loop => exact intact.loadBlock
  | segment => exact intact.writeSegment there profile
  | publish profile => exact intact.publishSegment there

/-- What the main program does elsewhere, it does not do within `st_prep_buffer`. -/
theorem whenOutside (intact : t.Intact) {s : Drive}
    (outside : t.drive.phase = .outside → ({ t with drive := s } : Pipeline).Intact) :
    ({ t with drive := t.drive.whenOutside s } : Pipeline).Intact := by
  simp only [Drive.whenOutside]
  cases there : t.drive.phase with
  | outside => exact outside there
  | loop => exact intact
  | segment => exact intact
  | publish _ => exact intact

theorem plan (intact : t.Intact) (there : t.drive.phase = .outside) (target : Axis → Int)
    (recalculated : Bool) :
    ({ t with drive := t.drive.plan target recalculated } : Pipeline).Intact :=
  intact.outside (intact.prepared.plan there target recalculated) (Drive.frame_plan _ _ _)
    (Drive.idle_plan _ _ _)

theorem update (intact : t.Intact) (there : t.drive.phase = .outside) :
    ({ t with drive := t.drive.updatePlanBlockParameters } : Pipeline).Intact :=
  intact.outside (intact.prepared.update there) (Drive.frame_update _) (Drive.idle_update _)

theorem control (intact : t.Intact) (there : t.drive.phase = .outside)
    (executeHold endMotion : Bool) :
    ({ t with
        drive := { t.drive with
          executeHold := executeHold
          endMotion := endMotion } } : Pipeline).Intact :=
  intact.of_same
    (intact.prepared.of_outside there ⟨rfl, rfl⟩ ⟨rfl, rfl⟩ ⟨[], (List.append_nil _).symm⟩
      ⟨rfl, rfl⟩)
    rfl rfl rfl rfl intact.idle

theorem step (intact : t.Intact) (e : DriveEvent) : (t.step e).Intact := by
  cases e with
  | prep profile => exact intact.prep profile
  | tick => exact intact.tick
  | plan target recalculated =>
      exact intact.whenOutside fun there => intact.plan there target recalculated
  | update => exact intact.whenOutside fun there => intact.update there
  | control executeHold endMotion =>
      exact intact.whenOutside fun there => intact.control there executeHold endMotion

end Intact

theorem intact_run {t : Pipeline} (intact : t.Intact) (es : List DriveEvent) :
    (run step t es).Intact :=
  invariant_run (I := Intact) (fun _ e intact => intact.step e) intact es

theorem drive_step (t : Pipeline) (e : DriveEvent) : (t.step e).drive = t.drive.step e := by
  cases e with
  | prep profile =>
      simp only [step, prep, Drive.step]
      split <;> rfl
  | _ => rfl

end Pipeline

/-- The interrupt loads the published segments one after the other, each with the numbers of the
block it was cut from, and all but the few that fit in the buffer. -/
theorem segments_in_order (stBlockBuffer : BlockSlot → StBlock)
    (segmentBuffer : SegmentSlot → Segment) (position : Axis → Int) (es : List DriveEvent) :
    let t := run Pipeline.step (Pipeline.initial stBlockBuffer segmentBuffer position) es
    t.loaded <+: t.published.map Piece.contents ∧
      t.published.length < t.loaded.length + segmentBufferSize := by
  intro t
  have intact : t.Intact := Pipeline.intact_run (Pipeline.intact_initial _ _ _) es
  refine ⟨?_, ?_⟩
  · rw [intact.read, List.map_take]
    exact List.take_prefix _ _
  · have count := t.drive.segments.count_lt
    rw [← intact.length_waiting, Pipeline.waiting, List.length_drop] at count
    have inside := intact.inside
    rw [intact.read, List.length_map, List.length_take]
    omega

end Cnc
