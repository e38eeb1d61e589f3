import CncMachine.Controller.Pipeline

/-!
# The motors follow the position

The interrupt counts a step in `sys.position` as soon as it has computed it; the pulse goes out at
the beginning of the next tick, and the direction pins change only when a block with other
directions begins. Still no pulse is lost and none has the wrong direction: the motors are where the
position says, but for the step computed last.
-/

namespace Cnc

open Transition

namespace Drive

variable (s : Drive)

/-- The step that has been counted and not been output. -/
def pending (a : Axis) : Int :=
  if s.st.execBlock.isSome && s.st.stepOutbits a then (if s.st.dirOutbits a then -1 else 1) else 0

/-- The next pulse will have the direction in which its step has been counted. -/
def Aligned (s : Drive) : Prop :=
  s.st.execBlock.isSome → s.st.dirChange = true ∨ s.directionPins = s.st.dirOutbits

/-- The motors lag behind the position by the pending steps. -/
structure Followed (s : Drive) : Prop where
  executing : s.Executing
  aligned : s.Aligned
  lag : ∀ a, s.motors a + s.pending a = s.position a

variable {s}

/-- After the pulses the motors are where the position says, and the pins as the last block has
them. -/
theorem Followed.outputSteps (followed : s.Followed) :
    (∀ a, s.outputSteps.motors a = s.outputSteps.position a) ∧
      (s.outputSteps.st.execBlock.isSome →
        s.outputSteps.directionPins = s.outputSteps.st.dirOutbits ∧
        s.outputSteps.st.dirChange = false) := by
  have lag := followed.lag
  simp only [Drive.outputSteps, pending] at lag ⊢
  cases active : s.st.execBlock.isSome with
  | false =>
      simp only [active, Bool.false_and, Bool.false_eq_true, if_false, Int.add_zero] at lag ⊢
      exact ⟨lag, by intro impossible; cases impossible⟩
  | true =>
      have pins : (if s.st.dirChange then s.st.dirOutbits else s.directionPins) =
          s.st.dirOutbits := by
        obtain change | same := followed.aligned active
        · rw [change, if_pos rfl]
        · rw [same, ite_self]
      simp only [active, Bool.true_and, if_true, pulseStart, pins] at lag ⊢
      refine ⟨?_, fun _ => ⟨trivial, trivial⟩⟩
      intro a
      rw [← lag a]
      split
      · rfl
      · rw [Int.add_zero]

/-- Starting a segment keeps motors, position and pins, and announces a change of direction. -/
theorem aligned_loadSegment
    (settled : s.st.execBlock.isSome → s.directionPins = s.st.dirOutbits) :
    s.loadSegment.Aligned := by
  intro _
  simp only [loadSegment, startBlock]
  split
  · rename_i same
    right
    exact settled (by rw [same]; rfl)
  · cases none : s.st.execBlock with
    | none => exact Or.inl rfl
    | some slot =>
        by_cases same : ∀ a, s.st.dirOutbits a =
            (s.stBlockBuffer (s.segmentBuffer s.segmentBufferTail).execBlock).directionBits a
        · right
          simp only [Option.isNone_some, Bool.false_or, decide_not, decide_eq_true same, Bool.not_true,
            Bool.false_eq_true, if_false]
          exact settled (by rw [none]; rfl)
        · left
          simp [same]

/-- The step that is counted is the one that is pending. -/
theorem lag_bresenham (active : s.st.execBlock.isSome) (level : ∀ a, s.motors a = s.position a)
    (a : Axis) :
    s.bresenham.countTick.motors a + s.bresenham.countTick.pending a =
      s.bresenham.countTick.position a := by
  simp only [countTick, bresenham, pending, active, Bool.true_and, level]
  split
  · rfl
  · rw [Int.add_zero]

theorem Followed.tick (followed : s.Followed) : s.tick.Followed := by
  obtain ⟨level, settled⟩ := followed.outputSteps
  have executing := followed.executing
  refine ⟨executing_tick executing, ?_, ?_⟩
  · cases busy : s.busy with
    | true =>
        rw [tick_of_busy executing busy]
        intro active
        exact Or.inr (settled active).1
    | false =>
        cases loads : s.loads with
        | true =>
            rw [tick_of_loads executing loads]
            exact aligned_loadSegment fun active => (settled active).1
        | false =>
            rw [tick_of_empty executing busy loads]
            intro active
            cases active
  · intro a
    cases busy : s.busy with
    | true =>
        have active : s.outputSteps.st.execBlock.isSome := by
          apply executing_outputSteps executing
          rw [execSegment_outputSteps executing, busy]
        rw [tick_of_busy executing busy]
        exact lag_bresenham active level a
    | false =>
        cases loads : s.loads with
        | true =>
            have active : s.outputSteps.loadSegment.st.execBlock.isSome := by
              rw [execBlock_loadSegment]
              rfl
            rw [tick_of_loads executing loads]
            exact lag_bresenham active level a
        | false =>
            rw [tick_of_empty executing busy loads]
            exact (Int.add_zero _).trans (level a)

theorem Followed.step (followed : s.Followed) (e : DriveEvent) : (s.step e).Followed := by
  by_cases interrupt : e = .tick
  · rw [interrupt]
    exact followed.tick
  · obtain ⟨st, motors, position, pins⟩ := s.interrupt_step e interrupt
    have pending : ∀ a, (s.step e).pending a = s.pending a := by
      intro a
      simp only [Drive.pending, st]
    refine ⟨?_, ?_, ?_⟩
    · simp only [Executing, st]
      exact followed.executing
    · simp only [Aligned, st, pins]
      exact followed.aligned
    · intro a
      rw [motors, position, pending]
      exact followed.lag a

theorem followed_initial (stBlockBuffer : BlockSlot → StBlock)
    (segmentBuffer : SegmentSlot → Segment) (position : Axis → Int) :
    (initial stBlockBuffer segmentBuffer position).Followed where
  executing := by
    intro active
    cases active
  aligned := by
    intro active
    cases active
  lag := fun _ => Int.add_zero _

/-- In every run the motors have made the steps that the position counts, all but the last one of
the axes that are about to step, and all of them when no block is executed. -/
theorem motors_follow (stBlockBuffer : BlockSlot → StBlock) (segmentBuffer : SegmentSlot → Segment)
    (position : Axis → Int) (es : List DriveEvent) (a : Axis) :
    let s := run step (initial stBlockBuffer segmentBuffer position) es
    |s.position a - s.motors a| ≤ 1 ∧
      (s.st.execBlock = none ∨ s.st.stepOutbits a = false → s.motors a = s.position a) := by
  intro s
  have followed : s.Followed := invariant_run (I := Followed) (fun _ e h => h.step e)
    (followed_initial stBlockBuffer segmentBuffer position) es
  have lag := followed.lag a
  refine ⟨?_, ?_⟩
  · have small : |s.pending a| ≤ 1 := by
      simp only [pending]
      split
      · split <;> decide
      · decide
    have distance : s.position a - s.motors a = s.pending a := by omega
    rw [distance]
    exact small
  · rintro (none | rests)
    · rw [← lag, pending, none]
      exact (Int.add_zero _).symm
    · rw [← lag, pending, rests, Bool.and_false]
      exact (Int.add_zero _).symm

end Drive

end Cnc
