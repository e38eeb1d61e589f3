import CncMachine.Panel.State

/-!
# Adjustable settings

The menus on the third level change one entry of `mpg_settings` by one step per accepted press
and cut it at the ends of its range. All entries are changed alike, with their own numbers; the
slow jogging speed alone is cut to a value beyond the limit it is compared with.
-/

namespace Cnc

/-- The numbers of one setting: `if((v += step) > limit) v = cap` and `if((v -= step) < floor)
v = floor`. -/
structure Adjustment where
  step : Int
  limit : Int
  cap : Int
  floor : Int

namespace Adjustment

def raise (a : Adjustment) (v : Int) : Int :=
  if v + a.step > a.limit then a.cap else v + a.step

def lower (a : Adjustment) (v : Int) : Int :=
  if v - a.step < a.floor then a.floor else v - a.step

def apply (a : Adjustment) (up : Bool) (v : Int) : Int :=
  if up then a.raise v else a.lower v

/-- The numbers of an adjustment lie in a range. -/
structure Inside (a : Adjustment) (low high : Int) : Prop where
  step : 0 ≤ a.step
  limit : a.limit ≤ high
  cap : low ≤ a.cap ∧ a.cap ≤ high
  floor : low ≤ a.floor ∧ a.floor ≤ high

/-- A press leaves a value in the range of its adjustment. -/
theorem Inside.apply {a : Adjustment} {low high : Int} (inside : a.Inside low high) (up : Bool)
    {v : Int} (range : low ≤ v ∧ v ≤ high) : low ≤ a.apply up v ∧ a.apply up v ≤ high := by
  obtain ⟨step, limit, cap, floor⟩ := inside
  cases up with
  | true =>
      simp only [Adjustment.apply, raise, if_true]
      split
      · exact cap
      · omega
  | false =>
      simp only [Adjustment.apply, lower, Bool.false_eq_true, if_false]
      split
      · exact floor
      · omega

end Adjustment

/-- `x_axis_multiplicity` and `yz_axis_multiplicity`, in hundredths of a millimetre. -/
def multiplicityAdjustment : Nat → Option Adjustment
  | 0 => some { step := 1, limit := 1 + 1 * 9, cap := 1 + 1 * 9, floor := 1 }
  | 1 => some { step := 10, limit := 10 + 10 * 9, cap := 10 + 10 * 9, floor := 10 }
  | 2 => some { step := 10, limit := 100 + 10 * 5, cap := 100 + 10 * 5, floor := 100 }
  | _ => none

/-- `jog_speeds`. -/
def jogSpeedAdjustment : Nat → Option Adjustment
  | 0 => some { step := 10, limit := 500 + 10 * 9, cap := 500 + 10 * 25, floor := 500 }
  | 1 => some { step := 50, limit := 750 + 50 * 5, cap := 750 + 50 * 5, floor := 750 }
  | 2 => some { step := 100, limit := 1000 + 100 * 5, cap := 1000 + 100 * 5, floor := 1000 }
  | _ => none

/-- `spindle_speed`. -/
def spindleSpeedAdjustment : Adjustment :=
  { step := 100, limit := 5000, cap := 5000, floor := 800 }

/-- One entry of a table changed by its adjustment, if it has one. -/
def adjustEntry (adjustment : Nat → Option Adjustment) (up : Bool) (entry : Nat)
    (table : Fin 3 → Int) : Fin 3 → Int :=
  match adjustment entry with
  | some a => fun i => if i = entry then a.apply up (table i) else table i
  | none => table

namespace MpgSettings

/-- The switch over the entries of the menus "X axis jogging distances", "Y/Z axes jogging
distances" and "Jogging feed rates", in this order. -/
def adjustAxes (up : Bool) (menu entry : Nat) (m : MpgSettings) : MpgSettings :=
  match menu with
  | 0 =>
      { m with xAxisEntries := adjustEntry multiplicityAdjustment up entry m.xAxisEntries }
  | 1 =>
      { m with yzAxisEntries := adjustEntry multiplicityAdjustment up entry m.yzAxisEntries }
  | 2 => { m with jogSpeedEntries := adjustEntry jogSpeedAdjustment up entry m.jogSpeedEntries }
  | _ => m

/-- The menu "Jogging spindle speed". -/
def adjustSpindle (up : Bool) (m : MpgSettings) : MpgSettings :=
  { m with spindleSpeed := spindleSpeedAdjustment.apply up m.spindleSpeed }

end MpgSettings

end Cnc
