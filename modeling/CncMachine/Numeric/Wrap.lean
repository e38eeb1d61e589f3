import Mathlib.Algebra.Group.Nat.Defs
import Mathlib.Data.Int.Notation

/-!
# Counters and clocks that wrap

A counter modulo `2 * half` is read twice. Its displacement is the representative of the
difference that lies in `[-half, half)`: the signed distance travelled, if that is short enough
to be unambiguous.

A clock of `w` bits is compared with the end of a period. The end is a number of the clock, too, and
may lie behind a wrap: `Clock.le_elapsed_iff` says what a comparison has to look like in both cases
to decide whether the period has passed.
-/

namespace Wrap

/-- The signed distance from reading `prev` to reading `cur`, modulo `2 * half`. -/
def displacement (half prev cur : Int) : Int :=
  (cur - prev + half) % (2 * half) - half

variable {half prev cur : Int}

/-- Readings less than half a range apart, as plain numbers, were not separated by a wrap. -/
theorem displacement_of_near (low : -half ≤ cur - prev) (high : cur - prev < half) :
    displacement half prev cur = cur - prev := by
  simp only [displacement]
  rw [Int.emod_eq_of_lt (by omega) (by omega)]
  omega

/-- The displacements along a list of readings, from a first reading on. -/
def displacements (half : Int) : Int → List Int → List Int
  | _, [] => []
  | prev, cur :: rest => displacement half prev cur :: displacements half cur rest

end Wrap

namespace Clock

variable {w : Nat} {start period now : BitVec w}

/-- The time since `start`. -/
def elapsed (start now : BitVec w) : BitVec w := now - start

/-- The period ends before the clock wraps. -/
def EndsInRange (start period : BitVec w) : Prop := start.toNat + period.toNat < 2 ^ w

theorem toNat_end_of_inRange (inRange : EndsInRange start period) :
    (start + period).toNat = start.toNat + period.toNat := by
  rw [BitVec.toNat_add, Nat.mod_eq_of_lt inRange]

theorem toNat_end_of_not (beyond : ¬ EndsInRange start period) :
    (start + period).toNat + 2 ^ w = start.toNat + period.toNat := by
  have first := start.isLt
  have second := period.isLt
  simp only [EndsInRange] at beyond
  rw [BitVec.toNat_add, Nat.mod_eq_sub_mod (by omega), Nat.mod_eq_of_lt (by omega)]
  omega

/-- The end is behind the start exactly if it is in range. -/
theorem lt_end_iff (positive : 0 < period) : start < start + period ↔ EndsInRange start period := by
  have positive : 0 < period.toNat := positive
  have last := period.isLt
  rw [BitVec.lt_def]
  by_cases inRange : EndsInRange start period
  · rw [toNat_end_of_inRange inRange]
    exact iff_of_true (by omega) inRange
  · have wraps := toNat_end_of_not inRange
    exact iff_of_false (by omega) inRange

theorem toNat_elapsed_of_le (notWrapped : start ≤ now) :
    (elapsed start now).toNat = now.toNat - start.toNat :=
  BitVec.toNat_sub_of_le notWrapped

theorem toNat_elapsed_of_lt (wrapped : now < start) :
    (elapsed start now).toNat = 2 ^ w - start.toNat + now.toNat := by
  have first := start.isLt
  have wrapped : now.toNat < start.toNat := wrapped
  rw [elapsed, BitVec.toNat_sub, Nat.mod_eq_of_lt (by omega)]

theorem le_elapsed_iff :
    period ≤ elapsed start now ↔
      (EndsInRange start period ∧ (start + period ≤ now ∨ now < start)) ∨
      (¬ EndsInRange start period ∧ start + period ≤ now ∧ now < start) := by
  have first := start.isLt
  have last := now.isLt
  rw [BitVec.le_def, BitVec.le_def, BitVec.lt_def]
  by_cases wrapped : now < start
  · have wrapped' : now.toNat < start.toNat := wrapped
    rw [toNat_elapsed_of_lt wrapped]
    by_cases inRange : EndsInRange start period
    · have room : start.toNat + period.toNat < 2 ^ w := inRange
      exact iff_of_true (by omega) (.inl ⟨inRange, .inr wrapped'⟩)
    · have wraps := toNat_end_of_not inRange
      constructor
      · exact fun passed => .inr ⟨inRange, by omega, wrapped'⟩
      · rintro (⟨inRange', -⟩ | ⟨-, passed, -⟩)
        · exact absurd inRange' inRange
        · omega
  · have notWrapped : ¬ now.toNat < start.toNat := wrapped
    rw [toNat_elapsed_of_le (BitVec.not_lt.mp wrapped)]
    by_cases inRange : EndsInRange start period
    · rw [toNat_end_of_inRange inRange]
      constructor
      · exact fun passed => .inl ⟨inRange, .inl (by omega)⟩
      · rintro (⟨-, passed⟩ | ⟨beyond, -⟩)
        · omega
        · exact absurd inRange beyond
    · have wraps := toNat_end_of_not inRange
      have beyond : ¬ start.toNat + period.toNat < 2 ^ w := inRange
      refine iff_of_false (by omega) ?_
      rintro (⟨inRange', -⟩ | ⟨-, -, wrapped'⟩)
      · exact inRange inRange'
      · exact notWrapped wrapped'

end Clock
