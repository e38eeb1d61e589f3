import CncMachine.Display.Lcd
import CncMachine.Numeric.Line
import CncMachine.Numeric.Refill
import Mathlib.Algebra.Ring.Parity
import Mathlib.Tactic.LinearCombination
import Mathlib.Tactic.Zify

/-!
# Lines on the screen

`R61529_DrawLine` goes along the longer side and takes the shorter side from its error in every
step. When the error is used up it goes sideways, and the error is set to the longer side instead
of being raised by it, so that what was missing is lost. All steps sideways but the first are then
equally far apart, which is right for a few lines only.
-/

namespace Cnc

open GridLine Refill

namespace Lcd

section

variable {steps rise : ℕ}

/-- A line that goes sideways once at most does so in the middle. -/
theorem follows_refills_of_le_one (less : rise ≤ steps) (once : rise ≤ 1) :
    Follows steps rise (refills rise steps (steps / 2)) := by
  obtain rfl | rfl : rise = 0 ∨ rise = 1 := by omega
  · constructor
    · exact refills_free _ _ _
    · intro k _
      rw [refills_free]
      simp
  · have half : steps / 2 ≤ steps := Nat.div_le_self steps 2
    have count (k : ℕ) (inside : k ≤ steps) :
        (refills 1 steps (steps / 2) k = 0 ∧ k ≤ steps / 2) ∨
          (refills 1 steps (steps / 2) k = 1 ∧ steps / 2 < k) := by
      obtain ⟨rest, most, eq⟩ := exists_rest Nat.one_pos half k
      rw [Nat.div_one] at most
      rw [Nat.div_one, Nat.div_one] at eq
      have few : refills 1 steps (steps / 2) k ≤ 1 := refills_le half inside
      obtain none | one : refills 1 steps (steps / 2) k = 0 ∨
          refills 1 steps (steps / 2) k = 1 := by omega
      · rw [none] at eq
        exact .inl ⟨none, by omega⟩
      · rw [one] at eq
        exact .inr ⟨one, by omega⟩
    constructor
    · obtain ⟨-, before⟩ | ⟨one, -⟩ := count steps (Nat.le_refl steps)
      · omega
      · exact one
    · intro k inside
      rw [abs_le]
      obtain ⟨none, before⟩ | ⟨one, after⟩ := count k inside
      · rw [none]
        push_cast
        omega
      · rw [one]
        push_cast
        omega

/-- If `2 * rise` divides the number of columns, `c + 1` times, then the first step sideways is
after `c + 1` columns and every other one `2 * (c + 1)` columns after the last. -/
theorem exists_phase {c : ℕ} (positive : 0 < rise) (whole : 2 * (c + 1) * rise = steps + 1)
    (k : ℕ) :
    ∃ t < 2 * (c + 1), k + (c + 1) = 2 * (c + 1) * refills rise steps (steps / 2) k + t := by
  have whole : 2 * (c * rise + rise) = steps + 1 := by
    rw [← whole, Nat.mul_assoc, Nat.add_mul, Nat.one_mul]
  have first : steps / 2 / rise = c := by
    apply Nat.div_eq_of_lt_le
    · omega
    · rw [Nat.add_mul, Nat.one_mul]
      omega
  have period : steps / rise = 2 * c + 1 := by
    apply Nat.div_eq_of_lt_le
    · rw [Nat.add_mul, Nat.one_mul, Nat.mul_assoc]
      omega
    · rw [Nat.add_mul, Nat.add_mul, Nat.one_mul, Nat.mul_assoc]
      omega
  have twice : 2 * c + 1 + 1 = 2 * (c + 1) := rfl
  obtain ⟨rest, most, eq⟩ := exists_rest positive (Nat.div_le_self steps 2) k
  rw [period] at most
  rw [first, period, twice, Nat.mul_comm _ (2 * (c + 1))] at eq
  exact ⟨2 * c + 1 - rest, by omega, by omega⟩

/-- By how much a staircase leads in a phase. -/
theorem lead_eq {c k s t : ℕ} (whole : 2 * (c + 1) * rise = steps + 1)
    (phase : k + (c + 1) = 2 * (c + 1) * s + t) :
    (2 * steps * s - 2 * rise * k : ℤ) = steps + 1 - 2 * (s + rise * t : ℕ) := by
  have whole : (2 * (c + 1) * rise : ℤ) = steps + 1 := by exact_mod_cast whole
  have phase : (k + (c + 1) : ℤ) = 2 * (c + 1) * s + t := by exact_mod_cast phase
  push_cast
  linear_combination (1 - 2 * s : ℤ) * whole - 2 * (rise : ℤ) * phase

theorem lead_bounds {c k s t : ℕ} (positive : 0 < rise) (whole : 2 * (c + 1) * rise = steps + 1)
    (phase : k + (c + 1) = 2 * (c + 1) * s + t) (short : t < 2 * (c + 1)) (inside : k ≤ steps)
    (few : s ≤ rise) : 1 ≤ s + rise * t ∧ s + rise * t ≤ steps := by
  constructor
  · obtain rfl | some := Nat.eq_zero_or_pos s
    · have late : 0 < rise * t := Nat.mul_pos positive (by omega)
      omega
    · omega
  · have half : rise * c + rise = rise * (c + 1) := rfl
    have even : 2 * (rise * (c + 1)) = steps + 1 := by
      rw [← whole, Nat.mul_assoc, Nat.mul_comm rise]
    obtain before | after := Nat.lt_or_ge t (c + 1)
    · have early : rise * t ≤ rise * c := Nat.mul_le_mul_left rise (Nat.le_of_lt_succ before)
      omega
    · have less : s < rise := by
        refine Nat.lt_of_le_of_ne few fun all => ?_
        rw [all, whole] at phase
        omega
      have short : rise * t + rise ≤ rise * (2 * (c + 1)) := Nat.mul_le_mul_left rise short
      rw [Nat.mul_comm rise (2 * (c + 1)), whole] at short
      omega

theorem follows_refills_of_dvd (positive : 0 < rise) (even : 2 * rise ∣ steps + 1) :
    Follows steps rise (refills rise steps (steps / 2)) := by
  obtain ⟨c, whole⟩ : ∃ c, 2 * (c + 1) * rise = steps + 1 := by
    obtain ⟨c, even⟩ := even
    cases c with
    | zero => exact absurd even (Nat.succ_ne_zero steps)
    | succ c => exact ⟨c, by rw [even, Nat.mul_right_comm]⟩
  have few (k : ℕ) (inside : k ≤ steps) : refills rise steps (steps / 2) k ≤ rise :=
    refills_le (Nat.div_le_self steps 2) inside
  constructor
  · obtain ⟨t, short, phase⟩ := exists_phase positive whole steps
    obtain all | less := Nat.eq_or_lt_of_le (few steps (Nat.le_refl steps))
    · exact all
    · have before : 2 * (c + 1) * refills rise steps (steps / 2) steps + 2 * (c + 1) ≤
          2 * (c + 1) * rise := Nat.mul_le_mul_left _ less
      omega
  · intro k inside
    obtain ⟨t, short, phase⟩ := exists_phase positive whole k
    have bounds := lead_bounds positive whole phase short inside (few k inside)
    rw [lead_eq whole phase, abs_le]
    omega

/-- The column before the last step sideways. -/
theorem refills_last {n : ℕ}
    (arrives : refills (n + 1) steps (steps / 2) steps = n + 1) :
    steps / 2 / (n + 1) + n * (steps / (n + 1) + 1) ≤ steps ∧
      refills (n + 1) steps (steps / 2)
        (steps / 2 / (n + 1) + n * (steps / (n + 1) + 1)) = n := by
  have half : steps / 2 ≤ steps := Nat.div_le_self steps 2
  have positive : 0 < n + 1 := Nat.succ_pos n
  constructor
  · obtain ⟨rest, most, eq⟩ := exists_rest positive half steps
    rw [arrives, Nat.add_mul, Nat.one_mul] at eq
    omega
  · obtain ⟨rest, most, eq⟩ := exists_rest positive half
      (steps / 2 / (n + 1) + n * (steps / (n + 1) + 1))
    generalize refills (n + 1) steps (steps / 2) _ = s at eq ⊢
    have eq : rest + n * (steps / (n + 1) + 1) = s * (steps / (n + 1) + 1) := by omega
    apply Nat.le_antisymm
    · refine Nat.le_of_not_lt fun more => ?_
      have beyond : (n + 1) * (steps / (n + 1) + 1) ≤ s * (steps / (n + 1) + 1) :=
        Nat.mul_le_mul_right _ more
      rw [Nat.add_mul, Nat.one_mul] at beyond
      omega
    · refine Nat.le_of_mul_le_mul_right ?_ (Nat.succ_pos (steps / (n + 1)))
      rw [Nat.succ_eq_add_one, ← eq]
      exact Nat.le_add_left _ _

/-- A period of `q + 1` columns for each step sideways is too long by less than a step, so that it
is even and nothing is missing but one column at the end. -/
theorem dvd_of_lag {n q missing : ℕ} (round : (n + 2) * (q + 1) = steps + missing + 1)
    (lag : 2 * ((n + 2) * (q / 2)) + 2 * ((n + 1) * (missing + 1)) ≤ steps) :
    2 * (n + 2) ∣ steps + 1 := by
  have product : (n + 1) * (missing + 1) = n * missing + n + (missing + 1) := by ring
  rw [product] at lag
  obtain ⟨h, rfl | rfl⟩ := Nat.even_or_odd' q
  · have same : 2 * h / 2 = h := Nat.mul_div_cancel_left h Nat.two_pos
    have round : 2 * ((n + 2) * h) + (n + 2) = steps + missing + 1 := by
      rw [← round]
      ring
    rw [same] at lag
    omega
  · have same : (2 * h + 1) / 2 = h := by omega
    have round : 2 * ((n + 2) * h) + 2 * (n + 2) = steps + missing + 1 := by
      rw [← round]
      ring
    rw [same] at lag
    have none : missing = 0 := by omega
    refine ⟨h + 1, ?_⟩
    rw [Nat.mul_assoc, Nat.mul_succ]
    omega

/-- Before the last step sideways the line lags the most. -/
theorem le_one_or_dvd_of_follows (follows : Follows steps rise (refills rise steps (steps / 2))) :
    rise ≤ 1 ∨ 2 * rise ∣ steps + 1 := by
  obtain _ | _ | n := rise
  · exact .inl (Nat.zero_le 1)
  · exact .inl (Nat.le_refl 1)
  · right
    obtain ⟨inside, last⟩ := refills_last follows.arrives
    have lag := (abs_le.mp (follows.near _ inside)).1
    have first : steps / 2 / (n + 2) = steps / (n + 2) / 2 := by
      rw [Nat.div_div_eq_div_mul, Nat.div_div_eq_div_mul, Nat.mul_comm]
    rw [last, first] at lag
    obtain ⟨missing, round⟩ := Nat.exists_eq_add_of_lt
      (Nat.lt_mul_div_succ steps (Nat.succ_pos (n + 1)))
    refine dvd_of_lag round ?_
    generalize steps / (n + 1 + 1) = q at lag round ⊢
    have round : ((n + 2) * (q + 1) : ℤ) = steps + missing + 1 := by exact_mod_cast round
    push_cast at lag
    zify
    linear_combination lag - 2 * (n + 1 : ℤ) * round

theorem follows_refills_iff (less : rise ≤ steps) :
    Follows steps rise (refills rise steps (steps / 2)) ↔ rise ≤ 1 ∨ 2 * rise ∣ steps + 1 := by
  constructor
  · exact le_one_or_dvd_of_follows
  · rintro (once | even)
    · exact follows_refills_of_le_one less once
    · obtain rfl | positive := Nat.eq_zero_or_pos rise
      · exact follows_refills_of_le_one less (Nat.zero_le 1)
      · exact follows_refills_of_dvd positive even

end

/-- Two coordinates of 16 bits. -/
def point (x y : BitVec 16) : Point := (x.toNat, y.toNat)

/-- A pixel of the screen, as it is written to the controller. -/
def pixel (color : BitVec 16) (p : Point) : List LcdWrite :=
  setAddrWindow (.ofInt 16 p.1) (.ofInt 16 p.2) (.ofInt 16 p.1) (.ofInt 16 p.2) ++
    [.reg 0x2C, .data color]

def OnScreen (lcd : Lcd) (p : Point) : Prop :=
  (0 ≤ p.1 ∧ p.1 < lcd.xSize.toNat) ∧ 0 ≤ p.2 ∧ p.2 < lcd.ySize.toNat

instance (lcd : Lcd) (p : Point) : Decidable (lcd.OnScreen p) :=
  inferInstanceAs (Decidable ((_ ∧ _) ∧ _ ∧ _))

/-- Exactly these pixels are drawn, one after the other. -/
structure Draws (lcd : Lcd) (color : BitVec 16) (pixels : List Point)
    (writes : Option (List LcdWrite)) : Prop where
  inside : ∀ p ∈ pixels, lcd.OnScreen p
  writes : writes = some (pixels.flatMap (pixel color))

section

variable {lcd : Lcd} {color : BitVec 16} {p q : Point}

theorem drawPixel_eq (inside : lcd.OnScreen p) : lcd.drawPixel p.1 p.2 color = pixel color p := by
  obtain ⟨⟨left, right⟩, top, bottom⟩ := inside
  rw [drawPixel, if_neg]
  · rfl
  · omega

/-- The two bytes of a coordinate. -/
theorem eq_of_bytes {a b : BitVec 16} (high : a >>> 8 = b >>> 8)
    (low : a &&& 0xFF = b &&& 0xFF) : a = b := by
  have high : a.toNat >>> 8 = b.toNat >>> 8 := congrArg BitVec.toNat high
  have low : a.toNat &&& 2 ^ 8 - 1 = b.toNat &&& 2 ^ 8 - 1 := congrArg BitVec.toNat low
  rw [Nat.shiftRight_eq_div_pow, Nat.shiftRight_eq_div_pow] at high
  rw [Nat.and_two_pow_sub_one_eq_mod, Nat.and_two_pow_sub_one_eq_mod] at low
  apply BitVec.eq_of_toNat_eq
  rw [← Nat.div_add_mod a.toNat (2 ^ 8), high, low, Nat.div_add_mod]

theorem toNat_ofInt {x : ℤ} (least : 0 ≤ x) (most : x < 65536) :
    ((BitVec.ofInt 16 x).toNat : ℤ) = x := by
  rw [BitVec.toNat_ofInt]
  omega

theorem ofInt_injective {a b : ℤ} (least : 0 ≤ a) (most : a < 65536) (least' : 0 ≤ b)
    (most' : b < 65536) (same : BitVec.ofInt 16 a = .ofInt 16 b) : a = b := by
  rw [← toNat_ofInt least most, same, toNat_ofInt least' most']

theorem pixel_injective (inside : lcd.OnScreen p) (inside' : lcd.OnScreen q)
    (same : pixel color p = pixel color q) : p = q := by
  obtain ⟨⟨left, right⟩, top, bottom⟩ := inside
  obtain ⟨⟨left', right'⟩, top', bottom'⟩ := inside'
  have width := lcd.xSize.isLt
  have height := lcd.ySize.isLt
  simp only [pixel, setAddrWindow, List.cons_append, List.nil_append, List.cons.injEq,
    LcdWrite.data.injEq, true_and] at same
  have column : p.1 = q.1 :=
    ofInt_injective left (by omega) left' (by omega) (eq_of_bytes same.1 same.2.1)
  have row : p.2 = q.2 :=
    ofInt_injective top (by omega) top' (by omega) (eq_of_bytes same.2.2.2.2.1 same.2.2.2.2.2.1)
  exact Prod.ext column row

/-- The writes tell the pixels. -/
theorem eq_of_flatMap_pixel {pixels pixels' : List Point}
    (inside : ∀ p ∈ pixels, lcd.OnScreen p) (inside' : ∀ p ∈ pixels', lcd.OnScreen p)
    (same : pixels.flatMap (pixel color) = pixels'.flatMap (pixel color)) : pixels = pixels' := by
  induction pixels generalizing pixels' with
  | nil =>
      cases pixels' with
      | nil => rfl
      | cons q pixels' => cases same
  | cons p pixels ih =>
      cases pixels' with
      | nil => cases same
      | cons q pixels' =>
          rw [List.flatMap_cons, List.flatMap_cons] at same
          obtain ⟨first, rest⟩ := List.append_inj same rfl
          obtain ⟨here, inside⟩ := List.forall_mem_cons.mp inside
          obtain ⟨here', inside'⟩ := List.forall_mem_cons.mp inside'
          rw [pixel_injective here here' first, ih inside inside' rest]

theorem Draws.unique {pixels pixels' : List Point} {writes : Option (List LcdWrite)}
    (draws : Draws lcd color pixels writes) (draws' : Draws lcd color pixels' writes) :
    pixels = pixels' :=
  eq_of_flatMap_pixel draws.inside draws'.inside
    (Option.some.inj (draws.writes.symm.trans draws'.writes))

end

section

variable {lcd : Lcd}

/-- The loop draws a staircase, which goes sideways when the error has to be refilled. -/
theorem linePixels_eq (lcd : Lcd) (steep : Bool) (color : BitVec 16) (cost full : ℕ) (ystep : ℤ)
    {n left : ℕ} {x y : ℤ} (columns : 0 ≤ x ∧ x + n ≤ 65536)
    (rows : ∀ k < n, 0 ≤ y + ystep * refills cost full left k ∧
      y + ystep * refills cost full left k < 65536) :
    lcd.linePixels steep color full cost ystep n (.ofInt 16 x) (.ofInt 16 y) left =
      (List.range n).flatMap fun k : ℕ =>
        lcd.drawPixel (turn steep (x + k, y + ystep * refills cost full left k)).1
          (turn steep (x + k, y + ystep * refills cost full left k)).2 color := by
  induction n generalizing left x y with
  | zero => rfl
  | succ n ih =>
      obtain ⟨least, most⟩ := columns
      have row := rows 0 (Nat.succ_pos n)
      rw [refills, Int.natCast_zero, mul_zero, add_zero] at row
      rw [linePixels, toNat_ofInt least (by omega), toNat_ofInt row.1 row.2,
        List.range_succ_eq_map, List.flatMap_cons, List.flatMap_map, refills, Int.natCast_zero,
        mul_zero, add_zero, add_zero]
      have next : BitVec.ofInt 16 x + 1 = .ofInt 16 (x + 1) := (BitVec.ofInt_add x 1).symm
      congr 1
      · cases steep with
        | false => rfl
        | true => rfl
      · -- the other columns, with what is left of the error and the row that the first one leaves
        have others {left' : ℕ} {y' : ℤ}
            (row : ∀ k, y + ystep * refills cost full left (k + 1) =
              y' + ystep * refills cost full left' k) :=
          @ih left' (x + 1) y' (by omega) fun k inside => by
            rw [← row]
            exact rows (k + 1) (Nat.succ_lt_succ inside)
        have column (k : ℕ) : x + (k + 1 : ℕ) = x + 1 + k := by omega
        rw [next]
        split
        · rename_i short
          have row (k : ℕ) : y + ystep * refills cost full left (k + 1) =
              y + ystep + ystep * refills cost full full k := by
            rw [refills_succ, if_pos (by omega)]
            push_cast
            ring
          rw [← BitVec.ofInt_add, others row]
          simp only [column, row]
        · rename_i enough
          have enough : ¬ left < cost := by omega
          have row (k : ℕ) : y + ystep * refills cost full left (k + 1) =
              y + ystep * refills cost full (left - cost) k := by
            rw [refills_succ, if_neg enough]
          rw [← Int.natCast_sub (Nat.le_of_not_lt enough), others row]
          simp only [column, row]

/-- The pixels of a line that goes forward. -/
def stairs (a b : Point) : List Point :=
  (List.range (steps a b + 1)).map
    (stair a b (refills (rise a b) (steps a b) (steps a b / 2)))

theorem stairs_onScreen {a b : Point} (forward : major a b a ≤ major a b b)
    (inside : lcd.OnScreen a) (inside' : lcd.OnScreen b) : ∀ p ∈ stairs a b, lcd.OnScreen p := by
  intro p mem
  obtain ⟨k, range, rfl⟩ := List.mem_map.mp mem
  have before : k ≤ steps a b := Nat.le_of_lt_succ (List.mem_range.mp range)
  have few : refills (rise a b) (steps a b) (steps a b / 2) k ≤ rise a b :=
    refills_le (Nat.div_le_self _ 2) before
  obtain ⟨column, row⟩ := stair_between forward before few
  simp only [OnScreen] at inside inside' ⊢
  omega

/-- The pixels of a line whose ends have been put in order. -/
theorem linePixels_draws {steep : Bool} {x1 y1 x2 y2 : BitVec 16} {a b : Point}
    (turned : GridLine.steep a b = steep) (first : a = turn steep (point x1 y1))
    (second : b = turn steep (point x2 y2)) (order : x1.toNat ≤ x2.toNat)
    (inside : lcd.OnScreen a) (inside' : lcd.OnScreen b) (color : BitVec 16) :
    major a b a ≤ major a b b ∧
      Draws lcd color (stairs a b)
        (some (lcd.linePixels steep color (x2.toNat - x1.toNat : ℕ)
          ((y2.toNat : ℤ) - y1.toNat).natAbs (if y1 < y2 then 1 else -1) (x2.toNat - x1.toNat + 1)
          x1 y1 ((x2.toNat - x1.toNat : ℕ) / 2))) := by
  have column : major a b a = x1.toNat := by rw [major, turned, first, turn_turn]; rfl
  have row : minor a b a = y1.toNat := by rw [minor, turned, first, turn_turn]; rfl
  have column' : major a b b = x2.toNat := by rw [major, turned, second, turn_turn]; rfl
  have row' : minor a b b = y2.toNat := by rw [minor, turned, second, turn_turn]; rfl
  have forward : major a b a ≤ major a b b := by omega
  have apart : x2.toNat - x1.toNat = steps a b := by
    rw [← natAbs_major, column, column']
    omega
  have beside : ((y2.toNat : ℤ) - y1.toNat).natAbs = rise a b := by
    rw [← natAbs_minor, row, row']
  have upward : (if y1 < y2 then (1 : ℤ) else -1) = side a b := by
    rw [side]
    apply if_congr _ rfl rfl
    rw [row, row', Int.ofNat_lt]
    rfl
  have start : x1 = .ofInt 16 (major a b a) := by
    rw [column, BitVec.ofInt_natCast, BitVec.ofNat_toNat, BitVec.setWidth_eq]
  have start' : y1 = .ofInt 16 (minor a b a) := by
    rw [row, BitVec.ofInt_natCast, BitVec.ofNat_toNat, BitVec.setWidth_eq]
  have half : ((steps a b : ℕ) : ℤ) / 2 = (steps a b / 2 : ℕ) := rfl
  have onScreen := stairs_onScreen forward inside inside'
  refine ⟨forward, onScreen, ?_⟩
  rw [apart, beside, upward, half, start, start', linePixels_eq]
  · rw [stairs, List.flatMap_map, ← turned]
    refine congrArg some (List.flatMap_congr fun k mem => drawPixel_eq ?_)
    exact onScreen _ (List.mem_map_of_mem mem)
  · have range := x2.isLt
    omega
  · intro k before
    have few : refills (rise a b) (steps a b) (steps a b / 2) k ≤ rise a b :=
      refills_le (Nat.div_le_self _ 2) (Nat.le_of_lt_succ before)
    have between := minor_stair_between few
    have range := y1.isLt
    have range' := y2.isLt
    rw [minor_stair] at between
    omega

theorem ne_last {x size : BitVec 16} (inside : (x.toNat : ℤ) < size.toNat) : x ≠ 0xFFFF := by
  rintro rfl
  have range := size.isLt
  have last : (0xFFFF : BitVec 16).toNat = 65535 := rfl
  rw [last] at inside
  omega

/-- Every line ends and is a staircase, drawn from the end that the code begins with. -/
theorem exists_stairs {x1 y1 x2 y2 : BitVec 16} (inside : lcd.OnScreen (point x1 y1))
    (inside' : lcd.OnScreen (point x2 y2)) (color : BitVec 16) :
    ∃ a b, ((a = point x1 y1 ∧ b = point x2 y2) ∨ (a = point x2 y2 ∧ b = point x1 y1)) ∧
      major a b a ≤ major a b b ∧
        Draws lcd color (stairs a b) (lcd.drawLine color x1 y1 x2 y2) := by
  have right := ne_last inside.1.2
  have bottom := ne_last inside.2.2
  have right' := ne_last inside'.1.2
  have bottom' := ne_last inside'.2.2
  have slope : GridLine.steep (point x1 y1) (point x2 y2) =
      decide (((y2.toNat : ℤ) - y1.toNat).natAbs > ((x2.toNat : ℤ) - x1.toNat).natAbs) := rfl
  have slope' := (steep_comm (point x1 y1) (point x2 y2)).trans slope
  simp only [drawLine]
  by_cases steep : ((y2.toNat : ℤ) - y1.toNat).natAbs > ((x2.toNat : ℤ) - x1.toNat).natAbs
  · rw [decide_eq_true steep] at slope slope' ⊢
    simp only [if_pos steep]
    by_cases back : y1 > y2
    · simp only [if_pos back, if_neg bottom]
      have drawn := linePixels_draws slope' rfl rfl (Nat.le_of_lt back) inside' inside color
      exact ⟨point x2 y2, point x1 y1, .inr ⟨rfl, rfl⟩, drawn⟩
    · simp only [if_neg back, if_neg bottom']
      have drawn := linePixels_draws slope rfl rfl (Nat.le_of_not_lt back) inside inside' color
      exact ⟨point x1 y1, point x2 y2, .inl ⟨rfl, rfl⟩, drawn⟩
  · rw [decide_eq_false steep] at slope slope' ⊢
    simp only [if_neg steep]
    by_cases back : x1 > x2
    · simp only [if_pos back, if_neg right]
      have drawn := linePixels_draws slope' rfl rfl (Nat.le_of_lt back) inside' inside color
      exact ⟨point x2 y2, point x1 y1, .inr ⟨rfl, rfl⟩, drawn⟩
    · simp only [if_neg back, if_neg right']
      have drawn := linePixels_draws slope rfl rfl (Nat.le_of_not_lt back) inside inside' color
      exact ⟨point x1 y1, point x2 y2, .inl ⟨rfl, rfl⟩, drawn⟩

end

/-- The staircase is the only thing drawn, so that it has to follow the line. -/
theorem Draws.traces_iff {lcd : Lcd} {color : BitVec 16} {a b : Point}
    {writes : Option (List LcdWrite)} (draws : Draws lcd color (stairs a b) writes)
    (forward : major a b a ≤ major a b b) :
    (∃ pixels, Draws lcd color pixels writes ∧ Traces a b pixels) ↔
      rise a b ≤ 1 ∨ 2 * rise a b ∣ steps a b + 1 := by
  have start : refills (rise a b) (steps a b) (steps a b / 2) 0 = 0 := rfl
  rw [← follows_refills_iff (rise_le_steps a b),
    ← traces_stair_iff forward start (refills_step _ _ _)]
  constructor
  · rintro ⟨pixels, draws', traces⟩
    rw [draws'.unique draws] at traces
    exact traces
  · exact fun traces => ⟨stairs a b, draws, traces⟩

/-- A line between two pixels of the screen is drawn as it should be exactly if its shorter side is
at most one step or twice the shorter side divides the number of its pixels. -/
theorem drawLine_traces_iff (lcd : Lcd) (color : BitVec 16) {x1 y1 x2 y2 : BitVec 16}
    (inside : lcd.OnScreen (point x1 y1)) (inside' : lcd.OnScreen (point x2 y2)) :
    (∃ pixels, Draws lcd color pixels (lcd.drawLine color x1 y1 x2 y2) ∧
      Traces (point x1 y1) (point x2 y2) pixels) ↔
    rise (point x1 y1) (point x2 y2) ≤ 1 ∨
      2 * rise (point x1 y1) (point x2 y2) ∣ steps (point x1 y1) (point x2 y2) + 1 := by
  obtain ⟨a, b, ⟨rfl, rfl⟩ | ⟨rfl, rfl⟩, forward, draws⟩ := exists_stairs inside inside' color
  · exact draws.traces_iff forward
  · rw [← rise_comm, ← steps_comm, ← draws.traces_iff forward]
    simp only [traces_comm]

/-- A long line with four equal parts. -/
theorem drawLine_eleven_three :
    ∃ pixels, Draws {} 0xF800 pixels (drawLine {} 0xF800 0 0 11 3) ∧
      Traces (point 0 0) (point 11 3) pixels :=
  (drawLine_traces_iff {} 0xF800 (by decide) (by decide)).mpr (.inr (by decide))

/-- A diagonal of three pixels ends below its end. -/
theorem drawLine_diagonal :
    ¬ ∃ pixels, Draws {} 0xF800 pixels (drawLine {} 0xF800 0 0 2 2) ∧
      Traces (point 0 0) (point 2 2) pixels := by
  rintro ⟨pixels, draws, traces⟩
  have drawn : Draws {} 0xF800 [(0, 0), (1, 1), (2, 1)] (drawLine {} 0xF800 0 0 2 2) :=
    ⟨by decide, by decide⟩
  obtain rfl := draws.unique drawn
  exact absurd traces.ends (by decide)

end Lcd

end Cnc
