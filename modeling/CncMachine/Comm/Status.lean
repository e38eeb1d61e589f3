import CncMachine.Comm.Core

/-!
# Reports as fields

A status report is a state, a position and fields separated by bars. The fields are of the kinds
the parser tells apart, each at most once, and of other kinds. `Report.text` is the report as the
controller sends it, `Report.Decoded` says that `grbl_data` holds what it reports.
-/

namespace Cnc.Comm

open Text

/-- Three numbers separated by commas. -/
structure Triple where
  x : Decimal
  y : Decimal
  z : Decimal

namespace Triple

variable (t : Triple)

def text : List Char := t.x.text ++ ',' :: (t.y.text ++ ',' :: t.z.text)

def coords : Coords := ⟨t.x.value, t.y.value, t.z.value⟩

end Triple

/-- A field of a report behind the position. -/
inductive ReportField where
  /-- Feed rate, programmed speed and, if there is a sensor, actual speed of the spindle. -/
  | fs (feed rpm : Decimal) (actual : Option Decimal)
  | pn (letters : List Char)
  | wco (offset : Triple)
  | ov (feed rapid rpm : Nat)
  | a (letters : List Char)
  | mpg (on : Bool)
  | d (on : Bool)
  | tlr (on : Bool)
  | other (text : List Char)

namespace ReportField

/-- `'1'` or `'0'`. -/
def flag (on : Bool) : List Char := [if on then '1' else '0']

def kind : ReportField → Option FieldKind
  | fs _ _ _ => some .fs
  | pn _ => some .pn
  | wco _ => some .wco
  | ov _ _ _ => some .ov
  | a _ => some .a
  | mpg _ => some .mpg
  | d _ => some .d
  | tlr _ => some .tlr
  | other _ => none

/-- The letters of a `Pn:` field. -/
def pinLetters : ReportField → Option (List Char)
  | pn letters => some letters
  | _ => none

/-- What stands behind the label. -/
def data : ReportField → List Char
  | fs feed rpm actual =>
      feed.text ++ ',' :: (rpm.text ++ (match actual with
        | some actual => ',' :: actual.text
        | none => []))
  | pn letters => letters
  | wco offset => offset.text
  | ov feed rapid rpm =>
      Nat.toDigits 10 feed ++ ',' :: (Nat.toDigits 10 rapid ++ ',' :: Nat.toDigits 10 rpm)
  | a letters => letters
  | mpg on => flag on
  | d on => flag on
  | tlr on => flag on
  | other text => text

def text (field : ReportField) : List Char :=
  match field.kind with
  | some kind => kind.label ++ field.data
  | none => field.data

/-- Pins and accessories are letters, the latter with one direction at most; overrides are
integers of the parser; another field is not taken for one of the above or for a position. -/
def Ok : ReportField → Prop
  | pn letters => (∀ c ∈ letters, c.isAlpha = true) ∧ letters.length ≤ 9
  | ov feed rapid rpm => feed < 2 ^ 31 ∧ rapid < 2 ^ 31 ∧ rpm < 2 ^ 31
  | a letters => (∀ c ∈ letters, c.isAlpha = true) ∧ ¬ ('S' ∈ letters ∧ 'C' ∈ letters)
  | other text => IsField '|' text ∧ '\x00' ∉ text ∧
      ∀ kind data, fieldKind text = some (kind, data) → kind = .sd
  | _ => True

/-- `grbl_data` holds what the field reports. An offset is taken over with machine positions
only. -/
def Held (working : Bool) (g : Data) : ReportField → Prop
  | fs feed rpm _ => g.feedRate = feed.value ∧ g.rpmProgrammed = rpm.value
  | pn letters => g.pins = letters
  | wco offset => working = false → g.offset = offset.coords
  | ov feed rapid rpm => g.feedOverride.toNat = feed ∧ g.rapidOverride.toNat = rapid ∧
      g.rpmOverride.toNat = rpm
  | a letters => (g.spindleOn = true ↔ 'S' ∈ letters ∨ 'C' ∈ letters) ∧
      (g.spindleCcw = true ↔ 'C' ∈ letters) ∧ (g.flood = true ↔ 'F' ∈ letters) ∧
      (g.mist = true ↔ 'M' ∈ letters)
  | mpg on => g.mpgMode = on
  | _ => True

end ReportField

/-- The name of a state, as `grblState` has it. -/
def stateName : GrblState → List Char
  | .unknown => "Unknown".toList
  | .idle => "Idle".toList
  | .run => "Run".toList
  | .jog => "Jog".toList
  | .hold => "Hold".toList
  | .alarm => "Alarm".toList
  | .check => "Check".toList
  | .door => "Door".toList
  | .tool => "Tool".toList
  | .home => "Home".toList
  | .sleep => "Sleep".toList

/-- A well-formed status report that fits the receive buffer with its terminator. -/
structure Report where
  state : GrblState
  substate : Option (BitVec 8) := none
  /-- `WPos:` instead of `MPos:`. -/
  working : Bool := false
  position : Triple
  fields : List ReportField := []
  ok : ∀ field ∈ fields, field.Ok
  once : (fields.filterMap ReportField.kind).Nodup

namespace Report

variable (r : Report)

def stateToken : List Char :=
  stateName r.state ++ match r.substate with
    | some n => ':' :: Nat.toDigits 10 n.toNat
    | none => []

def positionKind : FieldKind := if r.working then .wpos else .mpos

/-- What follows the state. -/
def tokens : List (List Char) :=
  (r.positionKind.label ++ r.position.text) :: r.fields.map ReportField.text

def body : List Char := joined '|' (r.stateToken :: r.tokens)

/-- The report as it is sent. -/
def text : List Char := '<' :: (r.body ++ ">\r\n".toList)

/-- The letters of the `Pn:` field, none without one. -/
def pins : List Char := (r.fields.filterMap ReportField.pinLetters).headD []

/-- `grbl_data` holds what is reported. -/
structure Decoded (g : Data) : Prop where
  state : g.state = r.state
  substate : g.substate = r.substate.getD 0
  position : g.position = r.position.coords
  pins : g.pins = r.pins
  fields : ∀ field ∈ r.fields, field.Held r.working g

end Report

end Cnc.Comm
