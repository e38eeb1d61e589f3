import Mathlib.Algebra.Group.Nat.Defs
import Mathlib.Data.Rat.Defs
import Mathlib.Algebra.Order.Ring.Unbundled.Rat

/-!
# Floating-point values, compared and printed

A floating-point number is an exact rational, a negative zero, an infinity or not a number; which
rationals a format can hold does not matter here. `eq` is the comparison `==` of C, under which
the two zeros are equal and a NaN differs from everything. `sprintf` prints with a width and a number
of digits after the point. Equal numbers print alike, except that the sign of a zero shows.
-/

inductive Double where
  | value (q : ℚ)
  | negZero
  | infinite (negative : Bool)
  | nan (negative : Bool)
deriving DecidableEq, Repr

namespace Double

/-- `a == b`. -/
def eq : Double → Double → Bool
  | value p, value q => decide (p = q)
  | value p, negZero => decide (p = 0)
  | negZero, value q => decide (q = 0)
  | negZero, negZero => true
  | infinite a, infinite b => a == b
  | _, _ => false

/-- The nearest integer, the even one if two are equally near. -/
def roundHalfEven (q : ℚ) : Int :=
  let rest := q - q.floor
  if rest < 1 / 2 then q.floor
  else if 1 / 2 < rest then q.floor + 1
  else if q.floor % 2 = 0 then q.floor
  else q.floor + 1

/-- `d` digits after the point, of a number that is not negative. -/
def fixed (d : Nat) (q : ℚ) : List Char :=
  let n := (roundHalfEven (q * 10 ^ d)).toNat
  Nat.toDigits 10 (n / 10 ^ d) ++
    '.' :: ((List.range d).reverse.map fun place => Nat.digitChar (n / 10 ^ place % 10))

/-- What `sprintf` fills up to the width. -/
def text (d : Nat) : Double → List Char
  | value q => if q < 0 then '-' :: fixed d (-q) else fixed d q
  | negZero => '-' :: fixed d 0
  | infinite negative => if negative then "-inf".toList else "inf".toList
  | nan negative => if negative then "-nan".toList else "nan".toList

/-- `sprintf` of one number, with a width and with `d` digits after the point. -/
def sprintf (width d : Nat) (a : Double) : List Char := (a.text d).leftpad width ' '

/-- `sprintf(text, "%4.3f", a)`. -/
def printed : Double → List Char := sprintf 4 3

/-- `sprintf(text, "%3.2f", a)`. -/
def printed2 : Double → List Char := sprintf 3 2

/-- `sprintf(text, "%f", a)`, with its six digits. -/
def printed6 : Double → List Char := sprintf 0 6

variable {a b : Double}

/-- Equal numbers are one number, or the two zeros. -/
theorem eq_cases (same : a.eq b = true) :
    a = b ∨ a = negZero ∧ b = value 0 ∨ a = value 0 ∧ b = negZero := by
  cases a <;> cases b <;> simp_all [eq]

/-- Equal numbers compare alike with every other one. -/
theorem eq_congr (same : a.eq b = true) (c : Double) : a.eq c = b.eq c := by
  obtain rfl | ⟨rfl, rfl⟩ | ⟨rfl, rfl⟩ := eq_cases same
  · rfl
  all_goals cases c <;> simp [eq, eq_comm]

theorem printed_negZero : printed negZero = "-0.000".toList := by decide +kernel

theorem printed_zero : printed (value 0) = "0.000".toList := by decide +kernel

/-- Of equal numbers, only the two zeros are printed differently. -/
theorem printed_eq_iff (same : a.eq b = true) : a.printed = b.printed ↔ a = b := by
  constructor
  · intro alike
    obtain rfl | ⟨rfl, rfl⟩ | ⟨rfl, rfl⟩ := eq_cases same
    · rfl
    · simp [printed_negZero, printed_zero] at alike
    · simp [printed_negZero, printed_zero] at alike
  · rintro rfl
    rfl

/-- Equal numbers need the same room, up to the sign of a zero. -/
theorem printed_fits_congr (same : a.eq b = true) {n : Nat} (room : 6 < n) :
    a.printed.length < n ↔ b.printed.length < n := by
  obtain rfl | ⟨rfl, rfl⟩ | ⟨rfl, rfl⟩ := eq_cases same
  · rfl
  all_goals simp [printed_negZero, printed_zero]; omega

end Double
