import Mathlib.Tactic.FieldSimp
import Mathlib.Tactic.Linarith
import Mathlib.Tactic.Ring
import CncMachine.Numeric.Double

/-!
# The length of a printed number

A width such as the 4 of `"%4.3f"` is a minimum. The digits before the point take what they need, so
the length of the text is bounded only by the size of the number (`length_printed_lt_iff`).
-/

namespace Double

/-- Rounded to thousandths, the number has at most so many digits before the point; a sign takes
the place of one. -/
def Within (digits : Nat) : Double → Prop
  | value q =>
      if q < 0 then roundHalfEven (-q * 1000) < 1000 * 10 ^ (digits - 1)
      else roundHalfEven (q * 1000) < 1000 * 10 ^ digits
  | _ => True

variable {digits : Nat}

theorem length_sprintf (width d : Nat) (a : Double) :
    (a.sprintf width d).length = max width (a.text d).length := by
  rw [sprintf, List.length_leftpad]

theorem length_fixed (d : Nat) (q : ℚ) : (fixed d q).length =
    (Nat.toDigits 10 ((roundHalfEven (q * 10 ^ d)).toNat / 10 ^ d)).length + (d + 1) := by
  simp only [fixed, List.length_append, List.length_cons, List.length_map, List.length_reverse,
    List.length_range]

theorem length_fixed_le_iff (d : Nat) (q : ℚ) (some : 0 < digits) :
    (fixed d q).length ≤ digits + (d + 1) ↔
      roundHalfEven (q * 10 ^ d) < 10 ^ d * 10 ^ digits := by
  have whole : (roundHalfEven (q * 10 ^ d)).toNat / 10 ^ d < 10 ^ digits ↔
      (roundHalfEven (q * 10 ^ d)).toNat < 10 ^ d * 10 ^ digits := by
    rw [Nat.div_lt_iff_lt_mul (by positivity), Nat.mul_comm]
  have positive : 0 < 10 ^ d * 10 ^ digits := by positivity
  rw [length_fixed, Nat.add_le_add_iff_right, Nat.length_toDigits_le_iff (by decide) some, whole,
    Int.toNat_lt_of_ne_zero positive.ne']
  push_cast
  rfl

/-- The text and its terminator have room exactly if the number is small enough. -/
theorem length_printed_lt_iff (a : Double) (two : 2 ≤ digits) :
    a.printed.length < digits + 5 ↔ a.Within digits := by
  have width : a.printed.length < digits + 5 ↔ (a.text 3).length < digits + 5 := by
    rw [printed, length_sprintf]
    omega
  have thousandths (q : ℚ) : q * 1000 = q * 10 ^ 3 := by norm_num
  rw [width]
  cases a with
  | value q =>
      simp only [Double.text, Within, thousandths]
      split
      · have fits := length_fixed_le_iff 3 (-q) (show 0 < digits - 1 by omega)
        rw [List.length_cons]
        norm_num at fits ⊢
        omega
      · have fits := length_fixed_le_iff 3 q (show 0 < digits by omega)
        norm_num at fits ⊢
        omega
  | negZero =>
      have length : (Double.text 3 negZero).length = 6 := by decide +kernel
      rw [length]
      exact iff_of_true (by omega) trivial
  | infinite negative => cases negative <;> simp [Double.text, Within]
  | nan negative => cases negative <;> simp [Double.text, Within]

theorem roundHalfEven_intCast (n : Int) : roundHalfEven n = n := by
  simp [roundHalfEven]

/-- A few millimetres in hundredths take four characters. -/
theorem length_printed2_hundredths {n : Int} (low : 0 ≤ n) (high : n < 1000) :
    (value (n / 100)).printed2.length = 4 := by
  have positive : ¬ (n / 100 : ℚ) < 0 := by
    rw [not_lt]
    exact div_nonneg (Int.cast_nonneg low) (by norm_num)
  have hundredths : (n / 100 : ℚ) * 10 ^ 2 = n := by
    field_simp
    norm_num
  have one : (Nat.toDigits 10 (n.toNat / 10 ^ 2)).length = 1 := by
    rw [Nat.toDigits_of_lt_base (by omega)]
    rfl
  rw [printed2, length_sprintf, Double.text, if_neg positive, length_fixed, hundredths,
    roundHalfEven_intCast, one]
  rfl

/-- A number of hundredths has as many digits before the point as its whole part. -/
theorem length_fixed_hundredths {n : Int} (low : 0 ≤ n) (some : 0 < digits)
    (high : n < 100 * 10 ^ digits) (more : Nat) :
    (fixed (more + 2) (n / 100)).length ≤ digits + more + 3 := by
  have scaled : (n / 100 : ℚ) * 10 ^ (more + 2) = ((n * 10 ^ more : Int) : ℚ) := by
    push_cast
    rw [pow_add]
    ring
  have whole : (n * 10 ^ more).toNat / 10 ^ (more + 2) < 10 ^ digits := by
    obtain ⟨n, rfl⟩ := Int.eq_ofNat_of_zero_le low
    have cast : ((n : Int) * 10 ^ more).toNat = n * 10 ^ more := by
      rw [← Int.toNat_natCast (n * 10 ^ more)]
      push_cast
      rfl
    have high : n < 100 * 10 ^ digits := by exact_mod_cast high
    rw [cast, Nat.div_lt_iff_lt_mul (by positivity), pow_add]
    calc n * 10 ^ more < 100 * 10 ^ digits * 10 ^ more :=
          Nat.mul_lt_mul_of_pos_right high (by positivity)
      _ = 10 ^ digits * (10 ^ more * 10 ^ 2) := by ring
  have count := (Nat.length_toDigits_le_iff (by decide) some).mpr whole
  rw [length_fixed, scaled, roundHalfEven_intCast]
  omega

/-- With a sign, a number of hundredths takes its digits, the point and six more. -/
theorem length_printed6_hundredths {n : Int} (some : 0 < digits) (small : |n| < 100 * 10 ^ digits) :
    (value (n / 100)).printed6.length ≤ digits + 8 := by
  obtain ⟨low, high⟩ := abs_lt.mp small
  rw [printed6, length_sprintf, Nat.zero_max, Double.text]
  split
  next negative =>
    have opposite : -(n / 100 : ℚ) = ((-n : Int) : ℚ) / 100 := by
      push_cast
      ring
    have positive : 0 ≤ -n := by
      have : (n : ℚ) < 0 := by linarith
      have : n < 0 := by exact_mod_cast this
      omega
    rw [opposite, List.length_cons]
    have length : (fixed 6 ((-n : Int) / 100 : ℚ)).length ≤ digits + 4 + 3 :=
      length_fixed_hundredths positive some (by omega) 4
    omega
  next positive =>
    have positive : 0 ≤ n := by
      have : (0 : ℚ) ≤ n := by linarith
      exact_mod_cast this
    have length : (fixed 6 (n / 100 : ℚ)).length ≤ digits + 4 + 3 :=
      length_fixed_hundredths positive some high 4
    omega

/-- A sign printed before a positive number. -/
theorem printed6_neg {q : ℚ} (positive : 0 < q) :
    (value (-q)).printed6 = '-' :: (value q).printed6 := by
  have printed (a : Double) : a.printed6 = a.text 6 := by
    simp only [printed6, sprintf, List.leftpad, Nat.zero_sub, List.replicate_zero, List.nil_append]
  rw [printed, printed, Double.text, Double.text, if_pos (by linarith), if_neg (by linarith),
    neg_neg]

end Double
