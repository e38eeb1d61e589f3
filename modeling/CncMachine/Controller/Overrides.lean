import CncMachine.Controller.Planner
import CncMachine.Controller.Status

/-!
# Override commands

Feed rate, rapid rate, spindle speed and coolant can be changed while a program runs. Each command
is one byte, read from either stream or from a key of the pendant. The percentages are unsigned
32-bit numbers and `constrain` keeps them between their limits.
-/

namespace Cnc

/-- The commands for `sys.override.feed_rate` and `sys.override.rapid_rate`. -/
inductive FeedCommand where
  | feedReset
  | feedCoarsePlus
  | feedCoarseMinus
  | feedFinePlus
  | feedFineMinus
  | rapidReset
  | rapidMedium
  | rapidLow
deriving DecidableEq, Repr

inductive SpindleCommand where
  | reset
  | coarsePlus
  | coarseMinus
  | finePlus
  | fineMinus
  | stop
deriving DecidableEq, Repr

inductive CoolantCommand where
  | floodToggle
  | mistToggle
  | fan0Toggle
deriving DecidableEq, Repr

/-- `constrain`. -/
def constrain (value low high : Nat) : Nat :=
  if value < low then low else if high < value then high else value

/-- `MIN_FEED_RATE_OVERRIDE` and `MIN_SPINDLE_RPM_OVERRIDE`. -/
abbrev minOverride : Nat := 10

/-- `MAX_FEED_RATE_OVERRIDE` and `MAX_SPINDLE_RPM_OVERRIDE`. -/
abbrev maxOverride : Nat := 200

/-- A percentage that `constrain` leaves alone. -/
def WithinLimits (percent : Nat) : Prop := minOverride ≤ percent ∧ percent ≤ maxOverride

instance (percent : Nat) : Decidable (WithinLimits percent) := inferInstanceAs (Decidable (_ ∧ _))

theorem withinLimits_constrain (value : Nat) :
    WithinLimits (constrain value minOverride maxOverride) := by
  simp only [constrain]
  split
  · exact ⟨le_rfl, by decide⟩
  · split
    · exact ⟨by decide, le_rfl⟩
    · next low high => exact ⟨Nat.not_lt.mp low, Nat.not_lt.mp high⟩

theorem WithinLimits.constrain_eq {percent : Nat} (within : WithinLimits percent) :
    constrain percent minOverride maxOverride = percent := by
  rw [constrain, if_neg (Nat.not_lt.mpr within.1), if_neg (Nat.not_lt.mpr within.2)]

/-- The `switch` over the feed commands, on `new_f_override` and `new_r_override`. -/
def FeedCommand.next (feed rapid : Nat) : FeedCommand → Nat × Nat
  | .feedReset => (100, rapid)
  | .feedCoarsePlus => (u32 (feed + 10), rapid)
  | .feedCoarseMinus => (u32 (feed + (2 ^ 32 - 10)), rapid)
  | .feedFinePlus => (u32 (feed + 1), rapid)
  | .feedFineMinus => (u32 (feed + (2 ^ 32 - 1)), rapid)
  | .rapidReset => (feed, 100)
  | .rapidMedium => (feed, 50)
  | .rapidLow => (feed, 25)

/-- The body of the loop over the feed commands. -/
def FeedCommand.apply (feed rapid : Nat) (command : FeedCommand) : Nat × Nat :=
  (constrain (command.next feed rapid).1 minOverride maxOverride, (command.next feed rapid).2)

/-- The `switch` over the spindle commands, on `last_s_override`. -/
def SpindleCommand.next (percent : Nat) : SpindleCommand → Nat
  | .reset => 100
  | .coarsePlus => u32 (percent + 10)
  | .coarseMinus => u32 (percent + (2 ^ 32 - 10))
  | .finePlus => u32 (percent + 1)
  | .fineMinus => u32 (percent + (2 ^ 32 - 1))
  | .stop => percent

/-- The body of the loop over the spindle commands. -/
def SpindleCommand.apply (percent : Nat) (command : SpindleCommand) : Nat :=
  constrain (command.next percent) minOverride maxOverride

/-- The body of the loop over the coolant commands, on `coolant_state`. -/
def CoolantCommand.apply (state : SysState) (mistControl : Bool) (a : Accessories) :
    CoolantCommand → Accessories
  | .mistToggle => if mistControl && state.takesCoolant then { a with mist := !a.mist } else a
  | .floodToggle => if state.takesCoolant then { a with flood := !a.flood } else a
  | .fan0Toggle => a

/-- Bytes with a function, as far as it concerns this model. `other` is everything else. -/
inductive RealtimeCommand where
  | statusReportAll
  | statusReport
  | statusReportLegacy
  | mpgModeToggle
  | autoReportingToggle
  | feed (command : FeedCommand)
  | spindle (command : SpindleCommand)
  | coolant (command : CoolantCommand)
  | other
deriving DecidableEq, Repr

/-- The cases of `protocol_enqueue_realtime_command`. -/
def RealtimeCommand.ofChar (c : Char) : RealtimeCommand :=
  match c with
  | '\x87' => .statusReportAll
  | '\x80' | '\x05' => .statusReport
  | '?' => .statusReportLegacy
  | '\x8b' => .mpgModeToggle
  | '\x8c' => .autoReportingToggle
  | '\x90' => .feed .feedReset
  | '\x91' => .feed .feedCoarsePlus
  | '\x92' => .feed .feedCoarseMinus
  | '\x93' => .feed .feedFinePlus
  | '\x94' => .feed .feedFineMinus
  | '\x95' => .feed .rapidReset
  | '\x96' => .feed .rapidMedium
  | '\x97' => .feed .rapidLow
  | '\x99' => .spindle .reset
  | '\x9a' => .spindle .coarsePlus
  | '\x9b' => .spindle .coarseMinus
  | '\x9c' => .spindle .finePlus
  | '\x9d' => .spindle .fineMinus
  | '\x9e' => .spindle .stop
  | '\xa0' => .coolant .floodToggle
  | '\xa1' => .coolant .mistToggle
  | '\x8a' => .coolant .fan0Toggle
  | _ => .other

/-- What a keycode of the pendant asks for, as far as it concerns this model. -/
inductive Keycode where
  | mpgModeToggle
  | feed (command : FeedCommand)
  | spindle (command : SpindleCommand)
  | coolant (command : CoolantCommand)
  | other
deriving DecidableEq, Repr

/-- The cases of `keypad_process_keypress`. -/
def Keycode.ofChar (c : Char) : Keycode :=
  match c with
  | '\x8b' => .mpgModeToggle
  | 'M' => .coolant .mistToggle
  | 'C' => .coolant .floodToggle
  | 'I' => .feed .feedReset
  | 'i' => .feed .feedCoarsePlus
  | 'j' => .feed .feedCoarseMinus
  | 'K' => .spindle .reset
  | 'k' => .spindle .coarsePlus
  | 'z' => .spindle .coarseMinus
  | '\x90' => .feed .feedReset
  | '\x91' => .feed .feedCoarsePlus
  | '\x92' => .feed .feedCoarseMinus
  | '\x93' => .feed .feedFinePlus
  | '\x94' => .feed .feedFineMinus
  | '\x95' => .feed .rapidReset
  | '\x96' => .feed .rapidMedium
  | '\x97' => .feed .rapidLow
  | '\x99' => .spindle .reset
  | '\x9a' => .spindle .coarsePlus
  | '\x9b' => .spindle .coarseMinus
  | '\x9c' => .spindle .finePlus
  | '\x9d' => .spindle .fineMinus
  | '\x9e' => .spindle .stop
  | '\xa0' => .coolant .floodToggle
  | '\xa1' => .coolant .mistToggle
  | '\x8a' => .coolant .fan0Toggle
  | _ => .other

theorem FeedCommand.withinLimits_apply (feed rapid : Nat) (command : FeedCommand) :
    WithinLimits (command.apply feed rapid).1 := withinLimits_constrain _

theorem SpindleCommand.withinLimits_apply (percent : Nat) (command : SpindleCommand) :
    WithinLimits (command.apply percent) := withinLimits_constrain _

end Cnc
