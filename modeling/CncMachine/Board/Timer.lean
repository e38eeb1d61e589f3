import Mathlib.Logic.Function.Basic
import CncMachine.Numeric.Wrap
import CncMachine.Transition.Run

/-!
# The software timer of the control panel

`wait_ms_ch` compares the tick counter with the end of a period, and takes a branch of its own for
an end that has wrapped. This branch is late by a millisecond, and the other one takes a counter
that has wrapped itself for one that has not reached the end.
-/

namespace Cnc

open Transition

/-- `msResetFlag_ch` and `msWaitTime_ch`. -/
structure SystickTimer where
  msResetFlag : Fin 16 → Bool := fun _ => false
  msWaitTime : Fin 16 → BitVec 32 := fun _ => 0

/-- Calls of the timer, with the value of `uwTick` where they read it. -/
inductive TimerEvent where
  | wait (channel : Fin 16) (time now : BitVec 32)
  | reset (channel : Fin 16) (now : BitVec 32)
  | clear (channel : Fin 16)
  | set (channel : Fin 16) (time : BitVec 32)

namespace SystickTimer

variable (s : SystickTimer)

/-- `set_wait_ms_ch`. -/
def setWaitMs (channel : Fin 16) (time : BitVec 32) : SystickTimer :=
  { s with msWaitTime := Function.update s.msWaitTime channel time }

/-- `reset_wait_ms_ch`. -/
def resetWaitMs (channel : Fin 16) (now : BitVec 32) : SystickTimer :=
  { s with msWaitTime := Function.update s.msWaitTime channel now }

/-- `clear_wait_ms_ch`. -/
def clearWaitMs (channel : Fin 16) : SystickTimer :=
  { s with msResetFlag := Function.update s.msResetFlag channel true }

/-- The first statement of `wait_ms_ch`. -/
def beginWait (channel : Fin 16) (now : BitVec 32) : SystickTimer :=
  if s.msResetFlag channel then
    { s with msResetFlag := Function.update s.msResetFlag channel false }.resetWaitMs channel now
  else s

/-- `wait_ms_ch`, with its result. -/
def waitMs (channel : Fin 16) (time now : BitVec 32) : SystickTimer × Bool :=
  let s := s.beginWait channel now
  let start := s.msWaitTime channel
  let stop := start + time
  if start < stop then
    if now ≥ stop then (s.resetWaitMs channel now, true) else (s, false)
  else if now < start ∧ now > stop then (s.resetWaitMs channel now, true)
  else (s, false)

def step (s : SystickTimer) : TimerEvent → SystickTimer
  | .wait channel time now => (s.waitMs channel time now).1
  | .reset channel now => s.resetWaitMs channel now
  | .clear channel => s.clearWaitMs channel
  | .set channel time => s.setWaitMs channel time

/-- The time at which the period was last restarted, if it is polled now. -/
def restarted (channel : Fin 16) (now : BitVec 32) : BitVec 32 :=
  (s.beginWait channel now).msWaitTime channel

/-- The comparisons come out as if the period had passed. -/
def Fires (start time now : BitVec 32) : Prop :=
  (Clock.EndsInRange start time ∧ start + time ≤ now) ∨
    (¬ Clock.EndsInRange start time ∧ now < start ∧ start + time < now)

theorem waitMs_eq (channel : Fin 16) {time : BitVec 32} (now : BitVec 32) (positive : 0 < time) :
    (Fires (s.restarted channel now) time now ∧
      s.waitMs channel time now = ((s.beginWait channel now).resetWaitMs channel now, true)) ∨
    (¬ Fires (s.restarted channel now) time now ∧
      s.waitMs channel time now = (s.beginWait channel now, false)) := by
  have range : s.restarted channel now < s.restarted channel now + time ↔
      Clock.EndsInRange (s.restarted channel now) time := Clock.lt_end_iff positive
  simp only [waitMs]
  split
  next inRange =>
    have inRange := range.mp inRange
    split
    next due => exact .inl ⟨.inl ⟨inRange, due⟩, rfl⟩
    next early =>
      refine .inr ⟨?_, rfl⟩
      rintro (⟨-, due⟩ | ⟨beyond, -⟩)
      · exact early due
      · exact beyond inRange
  next beyond =>
    have beyond : ¬ Clock.EndsInRange (s.restarted channel now) time := beyond ∘ range.mpr
    split
    next due => exact .inl ⟨.inr ⟨beyond, due⟩, rfl⟩
    next early =>
      refine .inr ⟨?_, rfl⟩
      rintro (⟨inRange, -⟩ | ⟨-, due⟩)
      · exact beyond inRange
      · exact early due

/-- A poll returns 1 exactly if the period has passed, and then restarts it. -/
structure PollCorrect (channel : Fin 16) (time now : BitVec 32) : Prop where
  fires : (s.waitMs channel time now).2 = true ↔
    time ≤ Clock.elapsed (s.restarted channel now) now
  restarts : (s.waitMs channel time now).1.msWaitTime channel =
    if (s.waitMs channel time now).2 then now else s.restarted channel now
  others : ∀ other ≠ channel,
    (s.waitMs channel time now).1.msWaitTime other = s.msWaitTime other

/-- Every poll with a period of a millisecond or more. -/
def EventCorrect : TimerEvent → Prop
  | .wait channel time now => 0 < time → s.PollCorrect channel time now
  | _ => True

/-- The counter has wrapped before the end of the period did, or a wrapped end is just reached. -/
def Misses (channel : Fin 16) (time now : BitVec 32) : Prop :=
  (Clock.EndsInRange (s.restarted channel now) time ∧ now < s.restarted channel now) ∨
    (¬ Clock.EndsInRange (s.restarted channel now) time ∧ now = s.restarted channel now + time)

/-- No poll misses the end of its period. -/
def EventInTime : TimerEvent → Prop
  | .wait channel time now => 0 < time → ¬ s.Misses channel time now
  | _ => True

variable {s} {channel : Fin 16} {time now : BitVec 32}

/-- The comparisons are right except in these two cases. -/
theorem fires_iff (start : BitVec 32) (positive : 0 < time) :
    (Fires start time now ↔ time ≤ Clock.elapsed start now) ↔
      ¬ ((Clock.EndsInRange start time ∧ now < start) ∨
        (¬ Clock.EndsInRange start time ∧ now = start + time)) := by
  have last := time.isLt
  have positive : 0 < time.toNat := positive
  rw [Clock.le_elapsed_iff, Fires]
  by_cases inRange : Clock.EndsInRange start time
  · have stop := Clock.toNat_end_of_inRange inRange
    by_cases wrapped : now < start
    · have early : ¬ start + time ≤ now := by
        have wrapped : now.toNat < start.toNat := wrapped
        rw [BitVec.le_def, stop]
        omega
      simp [inRange, wrapped, early]
    · simp [inRange, wrapped]
  · have stop := Clock.toNat_end_of_not inRange
    by_cases reached : now = start + time
    · have wrapped : now < start := by
        rw [BitVec.lt_def, reached]
        omega
      subst reached
      simp [inRange, wrapped]
    · have strict : start + time < now ↔ start + time ≤ now := by
        rw [BitVec.lt_def, BitVec.le_def]
        have apart : (start + time).toNat ≠ now.toNat := fun same =>
          reached (BitVec.eq_of_toNat_eq same.symm)
        omega
      simp [inRange, reached, strict, and_comm]

theorem beginWait_of_ne {other : Fin 16} (differs : other ≠ channel) :
    (s.beginWait channel now).msWaitTime other = s.msWaitTime other := by
  rw [beginWait]
  split
  · exact Function.update_of_ne differs _ _
  · rfl

theorem pollCorrect_iff (positive : 0 < time) :
    s.PollCorrect channel time now ↔ ¬ s.Misses channel time now := by
  rw [Misses, ← fires_iff _ positive]
  obtain ⟨fires, eq⟩ | ⟨quiet, eq⟩ := s.waitMs_eq channel now positive
  · constructor
    · intro correct
      have passed := correct.fires.mp (by rw [eq])
      exact iff_of_true fires passed
    · intro same
      refine ⟨?_, ?_, ?_⟩
      · rw [eq]
        exact iff_of_true rfl (same.mp fires)
      · rw [eq]
        exact Function.update_self _ _ _
      · intro other differs
        rw [eq]
        exact (Function.update_of_ne differs _ _).trans (beginWait_of_ne differs)
  · constructor
    · intro correct
      refine iff_of_false quiet fun passed => ?_
      have fired := correct.fires.mpr passed
      rw [eq] at fired
      exact Bool.false_ne_true fired
    · intro same
      refine ⟨?_, ?_, ?_⟩
      · rw [eq]
        exact iff_of_false Bool.false_ne_true fun passed => quiet (same.mpr passed)
      · rw [eq]
        rfl
      · intro other differs
        rw [eq]
        exact beginWait_of_ne differs

/-- In every run every poll is correct exactly if none misses the end of its period. -/
theorem polls_correct_iff (es : List TimerEvent) :
    Always step EventCorrect {} es ↔ Always step EventInTime {} es := by
  have same (s : SystickTimer) (e : TimerEvent) : s.EventCorrect e ↔ s.EventInTime e := by
    cases e with
    | wait channel time now => exact forall_congr' fun positive => pollCorrect_iff positive
    | _ => exact Iff.rfl
  exact always_iff (I := fun _ => True) (fun _ _ _ _ => trivial) (fun s e _ => same s e) trivial es

/-- A period of 32 ms that begins 16 ms before the wrap is not over when it should be, and one of
8 ms is not over even after the wrap. -/
theorem polls_miss_end :
    let s := run step {} [.reset 1 0xFFFFFFF0]
    ((s.waitMs 1 32 0x10).2 = false ∧ Clock.elapsed (s.restarted 1 0x10) 0x10 = 32) ∧
    ((s.waitMs 1 8 0x05).2 = false ∧ Clock.elapsed (s.restarted 1 0x05) 0x05 = 21) ∧
    ¬ Always step EventCorrect {} [.reset 1 0xFFFFFFF0, .wait 1 32 0x10] ∧
    ¬ Always step EventCorrect {} [.reset 1 0xFFFFFFF0, .wait 1 8 0x05] := by
  refine ⟨by decide, by decide, ?_, ?_⟩
  · rintro ⟨-, correct, -⟩
    exact absurd ((correct (by decide)).fires.mpr (by decide)) (by decide)
  · rintro ⟨-, correct, -⟩
    exact absurd ((correct (by decide)).fires.mpr (by decide)) (by decide)

end SystickTimer

end Cnc
