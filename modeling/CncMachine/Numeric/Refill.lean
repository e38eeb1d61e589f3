import Mathlib.Data.Nat.Basic

/-!
# Refilled budgets

Every step costs the same. A budget pays for the steps, and the step that it does not suffice for
fills it up again, whatever was left. A full budget pays for `full / cost` steps, so that every
refill after the first is `full / cost + 1` steps after the last one.
-/

namespace Refill

/-- The refills in so many steps, with so much left. -/
def refills (cost full : ℕ) : ℕ → ℕ → ℕ
  | _, 0 => 0
  | left, k + 1 =>
      if left < cost then refills cost full full k + 1 else refills cost full (left - cost) k

variable {cost full left : ℕ}

/-- The steps that the budget still pays for, and those that it has paid for and been refilled
in. -/
theorem exists_rest (positive : 0 < cost) (filled : left ≤ full) (k : ℕ) :
    ∃ rest ≤ full / cost,
      rest + k = left / cost + refills cost full left k * (full / cost + 1) := by
  induction k generalizing left with
  | zero =>
      refine ⟨left / cost, Nat.div_le_div_right filled, ?_⟩
      rw [refills, Nat.zero_mul]
  | succ k ih =>
      rw [refills]
      split
      · rename_i short
        obtain ⟨rest, most, eq⟩ := ih (Nat.le_refl full)
        refine ⟨rest, most, ?_⟩
        rw [Nat.div_eq_of_lt short, Nat.add_mul, Nat.one_mul]
        omega
      · rename_i enough
        obtain ⟨rest, most, eq⟩ := ih (Nat.le_trans (Nat.sub_le left cost) filled)
        refine ⟨rest, most, ?_⟩
        have paid : left / cost = (left - cost) / cost + 1 :=
          Nat.div_eq_sub_div positive (Nat.le_of_not_lt enough)
        omega

/-- What costs nothing is paid for without a refill. -/
theorem refills_free (full left k : ℕ) : refills 0 full left k = 0 := by
  induction k generalizing left with
  | zero => rfl
  | succ k ih =>
      rw [refills, if_neg (Nat.not_lt_zero left)]
      exact ih _

theorem refills_succ (cost full left k : ℕ) :
    refills cost full left (k + 1) =
      if left < cost then refills cost full full k + 1 else refills cost full (left - cost) k := rfl

theorem refills_step (cost full left k : ℕ) :
    refills cost full left (k + 1) = refills cost full left k ∨
      refills cost full left (k + 1) = refills cost full left k + 1 := by
  induction k generalizing left with
  | zero =>
      rw [refills_succ]
      split
      · exact .inr rfl
      · exact .inl rfl
  | succ k ih =>
      rw [refills_succ cost full left (k + 1), refills_succ cost full left k]
      split
      · obtain same | more := ih full
        · exact .inl (congrArg (· + 1) same)
        · exact .inr (congrArg (· + 1) more)
      · exact ih (left - cost)

/-- In as many steps as a budget is large there are at most as many refills as a step costs. -/
theorem refills_le {k : ℕ} (filled : left ≤ full) (early : k ≤ full) :
    refills cost full left k ≤ cost := by
  obtain rfl | positive := Nat.eq_zero_or_pos cost
  · rw [refills_free]
  · obtain ⟨rest, most, eq⟩ := exists_rest positive filled k
    have large : full < cost * (full / cost + 1) := Nat.lt_mul_div_succ full positive
    refine Nat.le_of_not_lt fun more => ?_
    have beyond : (cost + 1) * (full / cost + 1) ≤ refills cost full left k * (full / cost + 1) :=
      Nat.mul_le_mul_right _ more
    rw [Nat.add_mul, Nat.one_mul] at beyond
    have paid : refills cost full left k * (full / cost + 1) ≤ rest + k := by
      rw [eq]
      exact Nat.le_add_left _ _
    omega

end Refill
