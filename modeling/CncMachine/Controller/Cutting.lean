import CncMachine.Controller.Pipeline

/-!
# Blocks are cut without a remainder

Every planner block becomes a sequence of segments: each begins where the one before it has ended,
the first one with all step events of the block and the last one with none left. What the speed
profile has to guarantee for this is `Drive.Sound`. With it the planner's position is always the
sum of the moves whose first segment has been published and of those that are still planned.
-/

namespace Cnc

open Transition

/-- A block that `plan_buffer_line` makes of a move that is not too long for the counters. -/
structure PlanBlock.Valid (b : PlanBlock) : Prop where
  positive : 0 < b.stepEventCount
  small : b.stepEventCount < 2 ^ 28
  steps : ∀ a, b.steps a ≤ b.stepEventCount

namespace Drive

/-- Moves are shorter than `2 ^ 28` steps. A segment does not reach beyond its block, it ends the
block when no step event remains, and it has at least one step event unless a hold ends. -/
def Sound (s : Drive) : DriveEvent → Prop
  | .plan target _ => ∀ a, (target a - s.planner.position a).natAbs < 2 ^ 28
  | .prep profile => s.phase = .segment →
      profile.nStepsRemaining ≤ s.stepsRemaining ∧
      (profile.segmentEnd = .block ↔ profile.nStepsRemaining = 0) ∧
      (s.executeHold = false → profile.nStepsRemaining < s.stepsRemaining)
  | _ => True

instance (s : Drive) : (e : DriveEvent) → Decidable (s.Sound e)
  | .plan target _ =>
      inferInstanceAs (Decidable (∀ a, (target a - s.planner.position a).natAbs < 2 ^ 28))
  | .prep _ => inferInstanceAs (Decidable (_ → _ ∧ (_ ↔ _) ∧ (_ → _)))
  | .update | .control _ _ | .tick => inferInstanceAs (Decidable True)

/-- The planner's first block has been prepared and not been discarded yet. -/
def underway (s : Drive) : Bool := s.plBlock || s.velocityProfile

theorem underway_update (s : Drive) :
    s.updatePlanBlockParameters.underway = s.underway := by
  simp only [underway, updatePlanBlockParameters]
  split
  · rename_i set
    simp [set]
  · rfl

/-- What planning a move does, whether the block being cut is recalculated or not. -/
theorem plan_spec (s : Drive) (target : Axis → Int) (recalculated : Bool) :
    (s.plan target recalculated).planner = (s.planner.bufferLine target).2 ∧
      (s.plan target recalculated).underway = s.underway ∧
      (s.plan target recalculated).stepsRemaining = s.stepsRemaining ∧
      (s.plan target recalculated).stPrepBlock = s.stPrepBlock ∧
      (s.plan target recalculated).phase = s.phase := by
  simp only [plan]
  split
  · rw [underway_update]
    refine ⟨?_, rfl, ?_, ?_, ?_⟩ <;> simp only [updatePlanBlockParameters] <;> split <;> rfl
  · exact ⟨rfl, rfl, rfl, rfl, rfl⟩

end Drive

namespace PlanBlock

variable {b : PlanBlock}

theorem Valid.between {position target : Axis → Int}
    (short : ∀ a, (target a - position a).natAbs < 2 ^ 28)
    (some : (between position target).stepEventCount ≠ 0) : (between position target).Valid where
  positive := Nat.pos_of_ne_zero some
  small := by
    have x := short .x
    have y := short .y
    have z := short .z
    simp only [PlanBlock.between]
    omega
  steps := steps_le position target

theorem Valid.stepEventCount_prepared (valid : b.Valid) :
    b.prepared.stepEventCount = 8 * b.stepEventCount := by
  have := valid.small
  show u32 (b.stepEventCount <<< 3) = _
  rw [Nat.shiftLeft_eq, u32_of_lt (by omega)]
  omega

theorem Valid.steps_prepared (valid : b.Valid) (a : Axis) :
    b.prepared.steps a = 8 * b.steps a := by
  have := valid.small
  have := valid.steps a
  show u32 (b.steps a <<< 3) = _
  rw [Nat.shiftLeft_eq, u32_of_lt (by omega)]
  omega

end PlanBlock

namespace Piece

/-- The piece has as many ticks as its step events and its level ask for. -/
structure Cut (p : Piece) : Prop where
  valid : p.plan.Valid
  less : p.after < p.before
  within : p.before ≤ p.plan.stepEventCount
  level : p.segment.amassLevel ≤ maxAmassLevel
  ticks : p.segment.nStep = (p.before - p.after) * 2 ^ p.segment.amassLevel

/-- The first piece of its block. -/
def first (p : Piece) : Bool := decide (p.before = p.plan.stepEventCount)

/-- The next piece goes on with the block, or the block is complete and another one begins. -/
def Follows (p q : Piece) : Prop :=
  (q.plan = p.plan ∧ q.segment.execBlock = p.segment.execBlock ∧ q.before = p.after) ∨
  (p.after = 0 ∧ q.first = true ∧ q.segment.execBlock = Ring.next p.segment.execBlock)

/-- How far the blocks go that begin with these pieces. -/
def begun (pieces : List Piece) (a : Axis) : Int :=
  ((pieces.filter Piece.first).map fun p => p.plan.displacement a).sum

@[simp] theorem begun_append (pieces more : List Piece) (a : Axis) :
    begun (pieces ++ more) a = begun pieces a + begun more a := by
  simp [begun]

theorem begun_singleton (p : Piece) (a : Axis) :
    begun [p] a = if p.first then p.plan.displacement a else 0 := by
  cases first : p.first <;> simp [begun, first]

end Piece

namespace Pipeline

variable (t : Pipeline)

/-- The planner's blocks of which no piece has been published. -/
def unstarted : List PlanBlock :=
  if t.drive.underway && !t.fresh then t.drive.planner.blocks.tail else t.drive.planner.blocks

/-- How the last piece published and the block being cut fit together. -/
structure Tip (t : Pipeline) : Prop where
  idle : t.drive.underway = false → ∀ p ∈ t.published.getLast?,
    p.after = 0 ∧ p.segment.execBlock = t.drive.stPrepBlock
  fresh : t.fresh = true → ∀ b ∈ t.drive.planner.blocks.head?,
    t.drive.stepsRemaining = b.stepEventCount ∧
    ∀ p ∈ t.published.getLast?,
      p.after = 0 ∧ t.drive.stPrepBlock = Ring.next p.segment.execBlock
  used : t.drive.underway = true → t.fresh = false → ∃ p, p ∈ t.published.getLast? ∧
    p.plan ∈ t.drive.planner.blocks.head? ∧ p.after = t.drive.stepsRemaining ∧ 0 < p.after ∧
    p.segment.execBlock = t.drive.stPrepBlock

/-- The pieces published are those of the blocks planned, in order and without a gap. -/
structure Gapless (start : Axis → Int) (t : Pipeline) : Prop where
  intact : t.Intact
  planned : ∀ b ∈ t.drive.planner.blocks, b.Valid
  pieces : ∀ p ∈ t.published, p.Cut
  chain : t.published.IsChain Piece.Follows
  begins : ∀ p ∈ t.published.head?, p.first = true
  tip : t.Tip
  written : ∀ profile, t.drive.phase = .publish profile →
    profile.nStepsRemaining < t.drive.stepsRemaining ∧
    (profile.segmentEnd = .block ↔ profile.nStepsRemaining = 0) ∧
    (t.drive.segmentBuffer t.drive.segmentBufferHead).amassLevel ≤ maxAmassLevel ∧
    (t.drive.segmentBuffer t.drive.segmentBufferHead).nStep =
      (t.drive.stepsRemaining - profile.nStepsRemaining) *
        2 ^ (t.drive.segmentBuffer t.drive.segmentBufferHead).amassLevel
  account : ∀ a, t.drive.planner.position a =
    start a + Piece.begun t.published a + travel t.unstarted a

variable {t : Pipeline} {start : Axis → Int}

theorem gapless_initial (stBlockBuffer : BlockSlot → StBlock)
    (segmentBuffer : SegmentSlot → Segment) (start : Axis → Int) :
    (initial stBlockBuffer segmentBuffer start).Gapless start where
  intact := intact_initial _ _ _
  planned := by
    intro b member
    cases member
  pieces := by
    intro p member
    cases member
  chain := List.isChain_nil
  begins := by
    intro p member
    cases member
  tip :=
    { idle := by
        intro _ p member
        cases member
      fresh := by
        intro fresh
        cases fresh
      used := by
        intro underway
        cases underway }
  written := by
    intro profile there
    cases there
  account := by
    intro a
    show start a = start a + 0 + 0
    omega

namespace Gapless

/-- What the main program has cut does not change while the interrupt runs. -/
theorem tick (gapless : t.Gapless start) : t.tick.Gapless start := by
  obtain ⟨intact, planned, pieces, chain, begins, tip, written, account⟩ := gapless
  have next := intact.tick
  obtain ⟨pins, motors, st, position, tail, eq⟩ := Drive.tick_eq (s := t.drive)
  simp only [Pipeline.tick, eq] at next ⊢
  exact ⟨next, planned, pieces, chain, begins, ⟨tip.idle, tip.fresh, tip.used⟩, written, account⟩

theorem underway_iff : t.drive.underway = true ↔
    t.drive.plBlock = true ∨ t.drive.velocityProfile = true := by
  rw [Drive.underway, Bool.or_eq_true]

theorem exists_current (gapless : t.Gapless start) (underway : t.drive.underway = true) :
    ∃ b rest, t.drive.planner.blocks = b :: rest := by
  obtain ⟨b, rest, eq, _⟩ := gapless.intact.prepared.current (underway_iff.mp underway)
  exact ⟨b, rest, eq⟩

theorem underway_of_fresh (gapless : t.Gapless start) (fresh : t.fresh = true) :
    t.drive.underway = true := by
  by_contra idle
  rw [underway_iff, not_or, Bool.not_eq_true, Bool.not_eq_true] at idle
  have := gapless.intact.idle idle.1 idle.2
  rw [fresh] at this
  cases this

/-- Where no segment is written or published, the main program may add to the planner's blocks. -/
theorem extend (gapless : t.Gapless start) {s : Drive}
    (intact : ({ t with drive := s } : Pipeline).Intact) (there : ∀ profile, s.phase ≠ .publish profile)
    (more : List PlanBlock) (blocks : s.planner.blocks = t.drive.planner.blocks ++ more)
    (valid : ∀ b ∈ more, b.Valid)
    (moved : ∀ a, s.planner.position a = t.drive.planner.position a + travel more a)
    (underway : s.underway = t.drive.underway)
    (remaining : s.stepsRemaining = t.drive.stepsRemaining)
    (slot : s.stPrepBlock = t.drive.stPrepBlock) :
    ({ t with drive := s } : Pipeline).Gapless start where
  intact := intact
  planned := by
    intro b member
    rw [blocks] at member
    obtain old | new := List.mem_append.mp member
    · exact gapless.planned b old
    · exact valid b new
  pieces := gapless.pieces
  chain := gapless.chain
  begins := gapless.begins
  tip :=
    { idle := by
        simp only [underway, slot]
        exact gapless.tip.idle
      fresh := by
        intro fresh
        obtain ⟨b, rest, first⟩ := gapless.exists_current (gapless.underway_of_fresh fresh)
        have tip := gapless.tip.fresh fresh
        simp only [remaining, slot, blocks, first, List.cons_append, List.head?_cons] at tip ⊢
        exact tip
      used := by
        simp only [underway, remaining, slot, blocks]
        intro set used
        obtain ⟨b, rest, first⟩ := gapless.exists_current set
        have tip := gapless.tip.used set used
        simp only [first, List.cons_append, List.head?_cons] at tip ⊢
        exact tip }
  written := by
    intro profile publish
    exact absurd publish (there profile)
  account := by
    intro a
    have unstarted : ({ t with drive := s } : Pipeline).unstarted = t.unstarted ++ more := by
      simp only [Pipeline.unstarted, underway, blocks]
      cases set : t.drive.underway with
      | false => rfl
      | true =>
          obtain ⟨b, rest, first⟩ := gapless.exists_current set
          rw [first]
          cases t.fresh <;> rfl
    rw [unstarted, travel_append, moved, gapless.account a]
    show _ = start a + Piece.begun t.published a + _
    omega

/-- Where the planner is left alone, too. -/
theorem keep (gapless : t.Gapless start) {s : Drive}
    (intact : ({ t with drive := s } : Pipeline).Intact)
    (there : ∀ profile, s.phase ≠ .publish profile) (planner : s.planner = t.drive.planner)
    (underway : s.underway = t.drive.underway)
    (remaining : s.stepsRemaining = t.drive.stepsRemaining)
    (slot : s.stPrepBlock = t.drive.stPrepBlock) :
    ({ t with drive := s } : Pipeline).Gapless start := by
  refine gapless.extend intact there [] ?_ ?_ ?_ underway remaining slot
  · rw [planner, List.append_nil]
  · intro b member
    cases member
  · intro a
    rw [planner]
    exact (Int.add_zero _).symm

theorem plan (gapless : t.Gapless start) (there : t.drive.phase = .outside)
    {target : Axis → Int}
    (short : ∀ a, (target a - t.drive.planner.position a).natAbs < 2 ^ 28) (recalculated : Bool) :
    ({ t with drive := t.drive.plan target recalculated } : Pipeline).Gapless start := by
  have intact := gapless.intact.plan there target recalculated
  obtain ⟨planner, underway, remaining, slot, phase⟩ := t.drive.plan_spec target recalculated
  have outside : ∀ profile, (t.drive.plan target recalculated).phase ≠ .publish profile := by
    intro profile publish
    cases (phase.trans there).symm.trans publish
  by_cases none : (PlanBlock.between t.drive.planner.position target).stepEventCount = 0
  · refine gapless.keep intact outside ?_ underway remaining slot
    simp only [planner, Planner.bufferLine, if_pos none]
  · have added : (t.drive.planner.bufferLine target).2 =
        { blocks := t.drive.planner.blocks ++ [PlanBlock.between t.drive.planner.position target]
          position := target } := by
      simp only [Planner.bufferLine, if_neg none]
    refine gapless.extend intact outside [PlanBlock.between t.drive.planner.position target] ?_ ?_
      ?_ underway remaining slot
    · rw [planner, added]
    · intro b member
      rw [List.mem_singleton.mp member]
      exact PlanBlock.Valid.between short none
    · intro a
      rw [planner, added, travel_cons, travel_nil, PlanBlock.displacement_between]
      show target a = _
      omega

theorem update (gapless : t.Gapless start) (there : t.drive.phase = .outside) :
    ({ t with drive := t.drive.updatePlanBlockParameters } : Pipeline).Gapless start := by
  have same : t.drive.updatePlanBlockParameters.phase = t.drive.phase ∧
      t.drive.updatePlanBlockParameters.planner = t.drive.planner ∧
      t.drive.updatePlanBlockParameters.stepsRemaining = t.drive.stepsRemaining ∧
      t.drive.updatePlanBlockParameters.stPrepBlock = t.drive.stPrepBlock := by
    simp only [Drive.updatePlanBlockParameters]
    split <;> exact ⟨rfl, rfl, rfl, rfl⟩
  obtain ⟨phase, planner, remaining, slot⟩ := same
  refine gapless.keep (gapless.intact.update there) ?_ planner t.drive.underway_update remaining slot
  intro profile publish
  cases (phase.trans there).symm.trans publish

theorem control (gapless : t.Gapless start) (there : t.drive.phase = .outside)
    (executeHold endMotion : Bool) :
    ({ t with
        drive := { t.drive with
          executeHold := executeHold
          endMotion := endMotion } } : Pipeline).Gapless start := by
  refine gapless.keep (gapless.intact.control there executeHold endMotion) ?_ rfl rfl rfl rfl
  intro profile publish
  cases there.symm.trans publish

theorem whenOutside (gapless : t.Gapless start) {s : Drive}
    (outside : t.drive.phase = .outside → ({ t with drive := s } : Pipeline).Gapless start) :
    ({ t with drive := t.drive.whenOutside s } : Pipeline).Gapless start := by
  simp only [Drive.whenOutside]
  cases there : t.drive.phase with
  | outside => exact outside there
  | loop => exact gapless
  | segment => exact gapless
  | publish _ => exact gapless

/-- A new block has all its step events left, and the block before it none. -/
theorem prepareBlock (gapless : t.Gapless start) {b : PlanBlock} {rest : List PlanBlock}
    (first : t.drive.planner.blocks = b :: rest) (idle : t.drive.plBlock = false)
    (new : t.drive.velocityProfile = false)
    (room : t.drive.segments.count + 1 < segmentBufferSize) :
    ({ t with
        drive := { t.drive.prepareBlock b with plBlock := true, phase := .segment }
        fresh := true } : Pipeline).Gapless start where
  intact := gapless.intact.prepareBlock first idle new room
  planned := gapless.planned
  pieces := gapless.pieces
  chain := gapless.chain
  begins := gapless.begins
  tip :=
    { idle := by
        intro cleared
        cases cleared
      fresh := by
        intro _ c head
        change c ∈ t.drive.planner.blocks.head? at head
        rw [first, List.head?_cons, Option.mem_some_iff] at head
        refine ⟨congrArg PlanBlock.stepEventCount head, ?_⟩
        intro p last
        have underway : t.drive.underway = false := by rw [Drive.underway, idle, new]; rfl
        obtain ⟨complete, slot⟩ := gapless.tip.idle underway p last
        exact ⟨complete, congrArg Ring.next slot.symm⟩
      used := by
        intro _ used
        cases used }
  written := by
    intro profile there
    cases there
  account := by
    intro a
    have unstarted : t.unstarted = t.drive.planner.blocks := by
      simp only [Pipeline.unstarted, Drive.underway, idle, new, Bool.or_false, Bool.false_and,
        Bool.false_eq_true, if_false]
    have account := gapless.account a
    rw [unstarted] at account
    exact account

theorem loadBlock (gapless : t.Gapless start) :
    ({ t with
        drive := t.drive.loadBlock
        fresh := t.fresh || t.drive.prepares } : Pipeline).Gapless start := by
  have intact := gapless.intact.loadBlock
  obtain ⟨eq, old⟩ | ⟨test, ⟨set, eq, old⟩ | ⟨idle, profile, old, eq⟩ |
    ⟨idle, profile, new, b, rest, first, eq⟩⟩ := t.drive.loadBlock_cases
  · rw [eq, old, Bool.or_false] at intact ⊢
    exact gapless.keep intact (by intro _ there; cases there) rfl rfl rfl rfl
  · rw [eq, old, Bool.or_false] at intact ⊢
    exact gapless.keep intact (by intro _ there; cases there) rfl rfl rfl rfl
  · rw [eq, old, Bool.or_false] at intact ⊢
    refine gapless.keep intact (by intro _ there; cases there) rfl ?_ rfl rfl
    simp only [Drive.underway, profile, Bool.or_true, Bool.true_or]
  · rw [eq, new, Bool.or_true]
    exact gapless.prepareBlock first idle profile (gapless.intact.room test)

/-- The block that is being cut has step events left, but no more than the block has. -/
theorem remaining (gapless : t.Gapless start) {b : PlanBlock} {rest : List PlanBlock}
    (first : t.drive.planner.blocks = b :: rest) (underway : t.drive.underway = true) :
    b.Valid ∧ 0 < t.drive.stepsRemaining ∧ t.drive.stepsRemaining ≤ b.stepEventCount ∧
      (t.fresh = false → t.drive.stepsRemaining < b.stepEventCount) := by
  have valid := gapless.planned b (by rw [first]; exact List.mem_cons_self)
  have head : t.drive.planner.blocks.head? = some b := by rw [first]; rfl
  cases fresh : t.fresh with
  | true =>
      obtain ⟨all, _⟩ := gapless.tip.fresh fresh b head
      rw [all]
      refine ⟨valid, valid.positive, Nat.le_refl _, ?_⟩
      intro used
      cases used
  | false =>
      obtain ⟨p, last, plan, after, positive, _⟩ := gapless.tip.used underway fresh
      have cut := gapless.pieces p (List.mem_of_getLast? last)
      rw [head, Option.mem_some_iff] at plan
      have less := cut.less
      have within := cut.within
      rw [← plan] at within
      exact ⟨valid, by omega, by omega, fun _ => by omega⟩

theorem writeSegment (gapless : t.Gapless start) (there : t.drive.phase = .segment)
    {profile : Profile} (sound : t.drive.Sound (.prep profile)) :
    ({ t with drive := t.drive.writeSegment profile } : Pipeline).Gapless start := by
  have intact := gapless.intact.writeSegment there profile
  obtain ⟨set, _⟩ := gapless.intact.prepared.cutting profile (Or.inl there)
  have underway : t.drive.underway = true := by rw [Drive.underway, set, Bool.true_or]
  obtain ⟨b, rest, first⟩ := gapless.exists_current underway
  obtain ⟨valid, _, within, _⟩ := gapless.remaining first underway
  obtain ⟨fits, ends, goes⟩ := sound there
  have small := valid.small
  have steps : t.drive.segmentSteps profile = t.drive.stepsRemaining - profile.nStepsRemaining := by
    rw [Drive.segmentSteps, u32]
    omega
  simp only [Drive.writeSegment] at intact ⊢
  by_cases bail : t.drive.segmentSteps profile = 0 ∧ t.drive.executeHold = true
  · rw [if_pos bail] at intact ⊢
    exact gapless.keep intact (by intro _ there; cases there) rfl rfl rfl rfl
  · rw [if_neg bail] at intact ⊢
    have less : profile.nStepsRemaining < t.drive.stepsRemaining := by
      cases hold : t.drive.executeHold with
      | false => exact goes hold
      | true =>
          have := mt (fun none => And.intro none hold) bail
          omega
    refine ⟨intact, gapless.planned, gapless.pieces, gapless.chain, gapless.begins,
      ⟨gapless.tip.idle, gapless.tip.fresh, gapless.tip.used⟩, ?_, gapless.account⟩
    intro profile' there'
    cases there'
    simp only [Function.update_self]
    have level : (profile.amassLevel : Nat) ≤ 3 := Nat.le_of_lt_succ profile.amassLevel.isLt
    have power : 2 ^ (profile.amassLevel : Nat) ≤ 2 ^ 3 := Nat.pow_le_pow_right (by decide) level
    refine ⟨less, ends, level, ?_⟩
    rw [steps, Nat.shiftLeft_eq, u32_of_lt]
    calc (t.drive.stepsRemaining - profile.nStepsRemaining) * 2 ^ (profile.amassLevel : Nat)
        ≤ (t.drive.stepsRemaining - profile.nStepsRemaining) * 2 ^ 3 :=
          Nat.mul_le_mul_left _ power
      _ < 2 ^ 32 := by omega

/-- What is published: a piece of the planner's first block that follows the last piece. -/
theorem exists_piece (gapless : t.Gapless start) {profile : Profile}
    (there : t.drive.phase = .publish profile) : ∃ p b rest,
      t.drive.piece profile = [p] ∧ t.drive.planner.blocks = b :: rest ∧ p.plan = b ∧
      p.after = profile.nStepsRemaining ∧
      p.segment.execBlock = t.drive.stPrepBlock ∧ p.Cut ∧ p.first = t.fresh ∧
      ∀ q ∈ t.published.getLast?, q.Follows p := by
  obtain ⟨set, _⟩ := gapless.intact.prepared.cutting profile (Or.inr there)
  have underway : t.drive.underway = true := by rw [Drive.underway, set, Bool.true_or]
  obtain ⟨b, rest, blocks⟩ := gapless.exists_current underway
  obtain ⟨valid, _, within, used⟩ := gapless.remaining blocks underway
  obtain ⟨less, _, level, ticks⟩ := gapless.written profile there
  have own := gapless.intact.prepared.written profile there
  have head : t.drive.planner.blocks.head? = some b := by rw [blocks]; rfl
  refine ⟨⟨t.drive.segmentBuffer t.drive.segmentBufferHead, b, t.drive.stepsRemaining,
    profile.nStepsRemaining⟩, b, rest, ?_, blocks, rfl, rfl, own,
    ⟨valid, less, within, level, ticks⟩, ?_, ?_⟩
  · simp only [Drive.piece, blocks]
  · simp only [Piece.first]
    cases fresh : t.fresh with
    | true => exact decide_eq_true (gapless.tip.fresh fresh b head).1
    | false => exact decide_eq_false (Nat.ne_of_lt (used fresh))
  · intro q last
    cases fresh : t.fresh with
    | true =>
        obtain ⟨all, previous⟩ := gapless.tip.fresh fresh b head
        obtain ⟨complete, slot⟩ := previous q last
        exact Or.inr ⟨complete, decide_eq_true all, own.trans slot⟩
    | false =>
        obtain ⟨q', last', plan, after, _, slot⟩ := gapless.tip.used underway fresh
        rw [Option.mem_unique last' last] at plan after slot
        rw [head, Option.mem_some_iff] at plan
        exact Or.inl ⟨plan, own.trans slot.symm, after.symm⟩

/-- After a piece of the first block, the block goes on or is complete. -/
theorem append (gapless : t.Gapless start) {s : Drive} {p : Piece} {rest : List PlanBlock}
    (intact : ({ t with drive := s, published := t.published ++ [p], fresh := false }
      : Pipeline).Intact)
    (blocks : t.drive.planner.blocks = p.plan :: rest) (underway : t.drive.underway = true)
    (cut : p.Cut) (first : p.first = t.fresh)
    (follows : ∀ q ∈ t.published.getLast?, q.Follows p)
    (there : ∀ profile, s.phase ≠ .publish profile)
    (position : s.planner.position = t.drive.planner.position)
    (remaining : s.stepsRemaining = p.after) (own : p.segment.execBlock = s.stPrepBlock)
    (on : s.underway = true → s.planner.blocks = p.plan :: rest ∧ 0 < p.after)
    (finished : s.underway = false → s.planner.blocks = rest ∧ p.after = 0) :
    ({ t with drive := s, published := t.published ++ [p], fresh := false }
      : Pipeline).Gapless start := by
  have last : (t.published ++ [p]).getLast? = some p := List.getLast?_concat
  have unstarted : ({ t with drive := s, published := t.published ++ [p], fresh := false }
      : Pipeline).unstarted = rest := by
    simp only [Pipeline.unstarted, Bool.not_false, Bool.and_true]
    cases set : s.underway with
    | true => simp [(on set).1]
    | false => simp [(finished set).1]
  refine
    { intact := intact
      planned := ?_
      pieces := ?_
      chain := ?_
      begins := ?_
      tip := ⟨?_, ?_, ?_⟩
      written := fun profile publish => absurd publish (there profile)
      account := ?_ }
  · intro c member
    apply gapless.planned c
    rw [blocks]
    cases set : s.underway with
    | true => rwa [(on set).1] at member
    | false =>
        rw [(finished set).1] at member
        exact List.mem_cons_of_mem _ member
  · intro q member
    obtain old | new := List.mem_append.mp member
    · exact gapless.pieces q old
    · rw [List.mem_singleton.mp new]
      exact cut
  · rw [List.isChain_append]
    refine ⟨gapless.chain, List.isChain_singleton _, ?_⟩
    intro q there q' head
    rw [List.head?_cons, Option.mem_some_iff] at head
    rw [← head]
    exact follows q there
  · intro q head
    cases none : t.published with
    | nil =>
        rw [none, List.nil_append, List.head?_cons, Option.mem_some_iff] at head
        rw [← head, first]
        cases fresh : t.fresh with
        | true => rfl
        | false =>
            obtain ⟨_, there, _⟩ := gapless.tip.used underway fresh
            rw [none] at there
            cases there
    | cons q' more =>
        apply gapless.begins
        rw [none] at head ⊢
        exact head
  · intro set q there
    rw [last, Option.mem_some_iff] at there
    rw [← there]
    exact ⟨(finished set).2, own⟩
  · intro fresh
    cases fresh
  · intro set _
    obtain ⟨same, positive⟩ := on set
    refine ⟨p, last, ?_, remaining.symm, positive, own⟩
    rw [same]
    exact rfl
  · intro a
    rw [unstarted]
    show s.planner.position a = start a + Piece.begun (t.published ++ [p]) a + _
    rw [position, gapless.account a, Piece.begun_append, Piece.begun_singleton, first]
    simp only [Pipeline.unstarted, underway, Bool.true_and, blocks, List.tail_cons]
    cases t.fresh with
    | true =>
        simp only [Bool.not_true, Bool.false_eq_true, if_false, if_true, travel_cons]
        omega
    | false =>
        simp only [Bool.not_false, Bool.false_eq_true, if_false, if_true]
        omega

theorem publishSegment (gapless : t.Gapless start) {profile : Profile}
    (there : t.drive.phase = .publish profile) :
    ({ t with
        drive := t.drive.publishSegment profile
        published := t.published ++ t.drive.piece profile
        fresh := false } : Pipeline).Gapless start := by
  have intact := gapless.intact.publishSegment there
  obtain ⟨set, _⟩ := gapless.intact.prepared.cutting profile (Or.inr there)
  have new := gapless.intact.prepared.exclusive set
  have underway : t.drive.underway = true := by rw [Drive.underway, set, Bool.true_or]
  obtain ⟨p, b, rest, piece, blocks, rfl, after, own, cut, first, follows⟩ :=
    gapless.exists_piece there
  obtain ⟨_, ends, _⟩ := gapless.written profile there
  have goes : profile.segmentEnd ≠ .block → 0 < p.after := by
    intro other
    rw [after]
    exact Nat.pos_of_ne_zero (mt ends.mpr other)
  rw [piece] at intact ⊢
  simp only [Drive.publishSegment] at intact ⊢
  cases kind : profile.segmentEnd with
  | within =>
      simp only [kind] at intact ⊢
      refine gapless.append intact blocks underway cut first follows ?_ rfl after.symm own ?_ ?_
      · intro _ publish
        cases publish
      · exact fun _ => ⟨blocks, goes (by rw [kind]; decide)⟩
      · intro idle
        cases underway.symm.trans idle
  | forced =>
      simp only [kind] at intact ⊢
      refine gapless.append intact blocks underway cut first follows ?_ rfl after.symm own ?_ ?_
      · intro _ publish
        cases publish
      · exact fun _ => ⟨blocks, goes (by rw [kind]; decide)⟩
      · intro idle
        cases underway.symm.trans idle
  | block =>
      simp only [kind] at intact ⊢
      refine gapless.append intact blocks underway cut first follows ?_ rfl after.symm own ?_ ?_
      · intro _ publish
        cases publish
      · intro on
        cases new.symm.trans on
      · intro _
        refine ⟨?_, after.trans (ends.mp kind)⟩
        simp only [Planner.discardCurrentBlock, blocks, List.tail_cons]

theorem prep (gapless : t.Gapless start) {profile : Profile}
    (sound : t.drive.Sound (.prep profile)) : (t.prep profile).Gapless start := by
  simp only [Pipeline.prep, Drive.prepBuffer]
  cases there : t.drive.phase with
  | outside =>
      dsimp only
      split
      · exact gapless
      · exact gapless.keep (gapless.intact.phase .loop (by rintro _ (there | there) <;> cases there)
          (by intro _ there; cases there)) (by intro _ there; cases there) rfl rfl rfl rfl
  | loop => exact gapless.loadBlock
  | segment => exact gapless.writeSegment there sound
  | publish profile => exact gapless.publishSegment there

theorem step (gapless : t.Gapless start) {e : DriveEvent} (sound : t.drive.Sound e) :
    (t.step e).Gapless start := by
  cases e with
  | tick => exact gapless.tick
  | prep profile => exact gapless.prep sound
  | plan target recalculated =>
      exact gapless.whenOutside fun there => gapless.plan there sound recalculated
  | update => exact gapless.whenOutside fun there => gapless.update there
  | control executeHold endMotion =>
      exact gapless.whenOutside fun there => gapless.control there executeHold endMotion

end Gapless

end Pipeline

end Cnc
