import Mathlib.Data.List.Range
import Mathlib.Algebra.Order.Field.Rat
import Mathlib.Algebra.Order.Field.Basic
import Mathlib.Algebra.Order.Ring.Abs
import Mathlib.Tactic.FieldSimp
import Mathlib.Tactic.Linarith
import Mathlib.Tactic.Ring

/-!
# Lines of a grid

A line between two points of a grid is drawn along its longer side, one point for each step, each
as near to the ideal line as the grid allows. A staircase goes forward in every step and sideways
in some. It draws the line when it has gone sideways often enough in the end and neither leads nor
lags by more than half a step before.
-/

namespace GridLine

/-- A column and a row. -/
abbrev Point := ℤ × ℤ

/-- Columns for rows and rows for columns. -/
def turn (steep : Bool) (p : Point) : Point := if steep then p.swap else p

section

variable (a b : Point)

def steep : Bool := (b.1 - a.1).natAbs < (b.2 - a.2).natAbs

/-- The coordinate along the longer side. -/
def major (p : Point) : ℤ := (turn (steep a b) p).1

def minor (p : Point) : ℤ := (turn (steep a b) p).2

def steps : ℕ := max (b.1 - a.1).natAbs (b.2 - a.2).natAbs

def rise : ℕ := min (b.1 - a.1).natAbs (b.2 - a.2).natAbs

/-- Where the line through both points is, in every column or row of the longer side. -/
def ideal (t : ℤ) : ℚ :=
  minor a b a +
    (t - major a b a) * (minor a b b - minor a b a) / (major a b b - major a b a)

/-- The points of a line from one of two points to the other. -/
structure Traces (points : List Point) : Prop where
  count : points.length = steps a b + 1
  ends : (points.head? = some a ∧ points.getLast? = some b) ∨
    (points.head? = some b ∧ points.getLast? = some a)
  columns : points.IsChain fun p q => |major a b q - major a b p| = 1
  smooth : points.IsChain fun p q => |minor a b q - minor a b p| ≤ 1
  near : ∀ p ∈ points, |(minor a b p : ℚ) - ideal a b (major a b p)| ≤ 1 / 2

/-- To the side of the second point. -/
def side : ℤ := if minor a b a < minor a b b then 1 else -1

/-- So many steps forward from the first point and some of them sideways. -/
def stair (sideways : ℕ → ℕ) (k : ℕ) : Point :=
  turn (steep a b) (major a b a + k, minor a b a + side a b * sideways k)

end

/-- The steps sideways, out of so many, in the end and before. -/
structure Follows (steps rise : ℕ) (sideways : ℕ → ℕ) : Prop where
  arrives : sideways steps = rise
  near : ∀ k ≤ steps, |(2 * steps * sideways k - 2 * rise * k : ℤ)| ≤ steps

theorem distance_comm (x y : ℤ) : (x - y).natAbs = (y - x).natAbs := by
  rw [← Int.natAbs_neg, Int.neg_sub]

theorem turn_turn (steep : Bool) (p : Point) : turn steep (turn steep p) = p := by
  cases steep with
  | false => rfl
  | true => rfl

variable {a b : Point} {sideways : ℕ → ℕ}

theorem steep_comm (a b : Point) : steep b a = steep a b := by
  rw [steep, steep, distance_comm a.1, distance_comm a.2]

theorem major_comm (a b : Point) : major b a = major a b := by
  funext p
  rw [major, major, steep_comm]

theorem minor_comm (a b : Point) : minor b a = minor a b := by
  funext p
  rw [minor, minor, steep_comm]

theorem steps_comm (a b : Point) : steps b a = steps a b := by
  rw [steps, steps, distance_comm a.1, distance_comm a.2]

theorem rise_comm (a b : Point) : rise b a = rise a b := by
  rw [rise, rise, distance_comm a.1, distance_comm a.2]

theorem natAbs_major (a b : Point) : (major a b b - major a b a).natAbs = steps a b := by
  rw [major, major, steps, steep, turn, turn]
  split
  · rename_i steep
    exact (max_eq_right (Nat.le_of_lt (of_decide_eq_true steep))).symm
  · rename_i flat
    exact (max_eq_left (Nat.le_of_not_lt (mt decide_eq_true flat))).symm

theorem natAbs_minor (a b : Point) : (minor a b b - minor a b a).natAbs = rise a b := by
  rw [minor, minor, rise, steep, turn, turn]
  split
  · rename_i steep
    exact (min_eq_left (Nat.le_of_lt (of_decide_eq_true steep))).symm
  · rename_i flat
    exact (min_eq_right (Nat.le_of_not_lt (mt decide_eq_true flat))).symm

theorem rise_le_steps (a b : Point) : rise a b ≤ steps a b := min_le_max

/-- The point with these coordinates. -/
theorem turn_major_minor (a b p : Point) : turn (steep a b) (major a b p, minor a b p) = p :=
  turn_turn (steep a b) p

theorem eq_of_steps_eq_zero (none : steps a b = 0) : a = b := by
  have apart := natAbs_major a b
  have beside := natAbs_minor a b
  have less := rise_le_steps a b
  have major : major a b a = major a b b := by omega
  have minor : minor a b a = minor a b b := by omega
  rw [← turn_major_minor a b a, major, minor, turn_major_minor]

theorem ideal_comm (a b : Point) : ideal b a = ideal a b := by
  funext t
  rw [ideal, ideal, major_comm, minor_comm]
  obtain same | apart := eq_or_ne (major a b a : ℚ) (major a b b)
  · have same' : major a b a = major a b b := Int.cast_injective same
    have none : steps a b = 0 := by
      rw [← natAbs_major, same', sub_self]
      rfl
    rw [eq_of_steps_eq_zero none]
  · have one := sub_ne_zero.mpr apart
    have other := sub_ne_zero.mpr apart.symm
    field_simp
    ring

theorem Traces.comm {points : List Point} (traces : Traces a b points) : Traces b a points where
  count := by
    rw [steps_comm]
    exact traces.count
  ends := traces.ends.symm
  columns := by
    rw [major_comm]
    exact traces.columns
  smooth := by
    rw [minor_comm]
    exact traces.smooth
  near := by
    rw [major_comm, minor_comm, ideal_comm]
    exact traces.near

theorem traces_comm {points : List Point} : Traces b a points ↔ Traces a b points :=
  ⟨Traces.comm, Traces.comm⟩

theorem major_stair (a b : Point) (sideways : ℕ → ℕ) (k : ℕ) :
    major a b (stair a b sideways k) = major a b a + k := by
  rw [major, stair, turn_turn]

theorem minor_stair (a b : Point) (sideways : ℕ → ℕ) (k : ℕ) :
    minor a b (stair a b sideways k) = minor a b a + side a b * sideways k := by
  rw [minor, stair, turn_turn]

theorem abs_side (a b : Point) : |side a b| = 1 := by
  rw [side]
  split
  · exact abs_one
  · rw [abs_neg, abs_one]

/-- The second point, by its distance from the first one. -/
theorem minor_eq (a b : Point) : minor a b b = minor a b a + side a b * rise a b := by
  have beside := natAbs_minor a b
  rw [side]
  split
  · omega
  · omega

theorem major_eq (forward : major a b a ≤ major a b b) :
    major a b b = major a b a + steps a b := by
  have apart := natAbs_major a b
  omega

theorem minor_stair_between {k : ℕ} (few : sideways k ≤ rise a b) :
    min (minor a b a) (minor a b b) ≤ minor a b (stair a b sideways k) ∧
      minor a b (stair a b sideways k) ≤ max (minor a b a) (minor a b b) := by
  rw [minor_stair, minor_eq, side]
  split
  · omega
  · omega

/-- A staircase that has not gone too far stays between its ends. -/
theorem stair_between (forward : major a b a ≤ major a b b) {k : ℕ} (inside : k ≤ steps a b)
    (few : sideways k ≤ rise a b) :
    (min a.1 b.1 ≤ (stair a b sideways k).1 ∧ (stair a b sideways k).1 ≤ max a.1 b.1) ∧
      min a.2 b.2 ≤ (stair a b sideways k).2 ∧ (stair a b sideways k).2 ≤ max a.2 b.2 := by
  have column : major a b a ≤ major a b (stair a b sideways k) ∧
      major a b (stair a b sideways k) ≤ major a b b := by
    rw [major_stair, major_eq forward]
    omega
  have row := minor_stair_between few
  simp only [major, minor, turn] at column row
  split at column
  · rename_i steep
    rw [if_pos steep, if_pos steep, if_pos steep] at row
    exact ⟨row, min_le_of_left_le column.1, le_max_of_le_right column.2⟩
  · rename_i flat
    rw [if_neg flat, if_neg flat, if_neg flat] at row
    exact ⟨⟨min_le_of_left_le column.1, le_max_of_le_right column.2⟩, row⟩

theorem stair_zero (start : sideways 0 = 0) : stair a b sideways 0 = a := by
  rw [stair, start, Int.natCast_zero, mul_zero, add_zero, add_zero, turn_major_minor]

theorem stair_steps_eq_iff (forward : major a b a ≤ major a b b) :
    stair a b sideways (steps a b) = b ↔ sideways (steps a b) = rise a b := by
  have nonzero : side a b ≠ 0 := by
    rw [← abs_pos, abs_side]
    exact one_pos
  constructor
  · intro arrives
    have beside := minor_stair a b sideways (steps a b)
    rw [arrives, minor_eq] at beside
    exact (Int.natCast_inj.mp (mul_left_cancel₀ nonzero (add_left_cancel beside))).symm
  · intro arrives
    rw [stair, arrives, ← minor_eq, ← major_eq forward, turn_major_minor]

/-- Within half a step, in integers. -/
theorem abs_sub_div_le_half_iff {steps : ℕ} (positive : 0 < steps) (rise s k : ℕ) :
    |(s : ℚ) - k * rise / steps| ≤ 1 / 2 ↔
      |(2 * steps * s - 2 * rise * k : ℤ)| ≤ steps := by
  have double : (0 : ℚ) < 2 * steps := mul_pos two_pos (Nat.cast_pos.mpr positive)
  have common : (s : ℚ) - k * rise / steps =
      ((2 * steps * s - 2 * rise * k : ℤ) : ℚ) / (2 * steps) := by
    push_cast
    field_simp
  have half : 1 / 2 * (2 * (steps : ℚ)) = steps := by ring
  rw [common, abs_div, abs_of_pos double, div_le_iff₀ double, half]
  exact_mod_cast Iff.rfl

theorem near_stair_iff (start : sideways 0 = 0) (forward : major a b a ≤ major a b b) {k : ℕ}
    (inside : k ≤ steps a b) :
    |(minor a b (stair a b sideways k) : ℚ) -
        ideal a b (major a b (stair a b sideways k))| ≤ 1 / 2 ↔
      |(2 * steps a b * sideways k - 2 * rise a b * k : ℤ)| ≤ steps a b := by
  obtain none | positive := Nat.eq_zero_or_pos (steps a b)
  · obtain rfl : k = 0 := by omega
    rw [stair_zero start, start, none, ideal]
    simp
  · have factor : |(side a b : ℚ)| = 1 := by exact_mod_cast abs_side a b
    have difference : (minor a b (stair a b sideways k) : ℚ) -
        ideal a b (major a b (stair a b sideways k)) =
          side a b * (sideways k - k * rise a b / steps a b) := by
      rw [ideal, major_stair, minor_stair, minor_eq, major_eq forward]
      push_cast
      ring
    rw [difference, abs_mul, factor, one_mul]
    exact abs_sub_div_le_half_iff positive (rise a b) (sideways k) k

theorem columns_stair (n : ℕ) :
    ((List.range (n + 1)).map (stair a b sideways)).IsChain
      fun p q => |major a b q - major a b p| = 1 := by
  rw [List.isChain_map, List.isChain_range_succ]
  intro k _
  rw [major_stair, major_stair]
  simp

theorem smooth_stair (gentle : ∀ k, sideways (k + 1) = sideways k ∨
    sideways (k + 1) = sideways k + 1) (n : ℕ) :
    ((List.range (n + 1)).map (stair a b sideways)).IsChain
      fun p q => |minor a b q - minor a b p| ≤ 1 := by
  rw [List.isChain_map, List.isChain_range_succ]
  intro k _
  rw [minor_stair, minor_stair, add_sub_add_left_eq_sub, ← mul_sub, abs_mul, abs_side, one_mul]
  obtain same | more := gentle k
  · simp [same]
  · simp [more]

/-- A staircase draws a line exactly if it follows it, as the rest of a line it always has. -/
theorem traces_stair_iff (forward : major a b a ≤ major a b b) (start : sideways 0 = 0)
    (gentle : ∀ k, sideways (k + 1) = sideways k ∨ sideways (k + 1) = sideways k + 1) :
    Traces a b ((List.range (steps a b + 1)).map (stair a b sideways)) ↔
      Follows (steps a b) (rise a b) sideways := by
  have first : ((List.range (steps a b + 1)).map (stair a b sideways)).head? = some a := by
    rw [List.range_succ_eq_map, List.map_cons, List.head?_cons, stair_zero start]
  have last : ((List.range (steps a b + 1)).map (stair a b sideways)).getLast? =
      some (stair a b sideways (steps a b)) := by
    rw [List.range_succ, List.map_append, List.map_singleton, List.getLast?_concat]
  constructor
  · intro traces
    constructor
    · rw [← stair_steps_eq_iff forward]
      obtain ⟨-, arrives⟩ | ⟨returns, arrives⟩ := traces.ends
      · exact Option.some.inj (last.symm.trans arrives)
      · have same : a = b := Option.some.inj (first.symm.trans returns)
        exact (Option.some.inj (last.symm.trans arrives)).trans same
    · intro k inside
      rw [← near_stair_iff start forward inside]
      exact traces.near _ (List.mem_map_of_mem (List.mem_range.mpr (Nat.lt_succ_of_le inside)))
  · intro follows
    constructor
    · rw [List.length_map, List.length_range]
    · rw [last, (stair_steps_eq_iff forward).mpr follows.arrives]
      exact .inl ⟨first, rfl⟩
    · exact columns_stair _
    · exact smooth_stair gentle _
    · intro p mem
      obtain ⟨k, inside, rfl⟩ := List.mem_map.mp mem
      have inside : k ≤ steps a b := Nat.le_of_lt_succ (List.mem_range.mp inside)
      exact (near_stair_iff start forward inside).mpr (follows.near k inside)

end GridLine
