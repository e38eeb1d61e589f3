import CncMachine.Comm.Untold
import CncMachine.Controller.Status

/-!
# What the panel reads in the controller's reports

The controller writes a status report, the panel's parser takes it apart. `asReport` lists the
fields that the controller writes in the parser's terms, and `text_asReport` says that both mean the
same text. Whatever the report has, the panel holds afterwards with the values that the controller
wrote, and what the report has not, the panel keeps (`callback_statusText`).
-/

namespace Cnc

open Text
open Comm (Triple ReportField FieldKind IsSeparator)

/-- A natural number as a decimal. -/
def decimalOfNat (n : Nat) : Decimal where
  whole := Nat.toDigits 10 n
  isDigit := by simpa using all_isDigit_toDigits n
  nonempty := Nat.toDigits_ne_nil

@[simp] theorem text_decimalOfNat (n : Nat) : (decimalOfNat n).text = uitoa n := by
  simp [decimalOfNat, Decimal.text, Decimal.unsigned, uitoa]

@[simp] theorem value_decimalOfNat (n : Nat) : (decimalOfNat n).value = n := by
  simp [decimalOfNat, Decimal.value, digitsVal, Nat.ofDigitChars_ten_toDigits]

def tripleOf (v : Axis → Decimal) : Triple := ⟨v .x, v .y, v .z⟩

/-- A spindle that is off has no direction. -/
def Accessories.withDirection (a : Accessories) : Accessories :=
  { a with spindleCcw := a.spindleOn && a.spindleCcw }

variable (settings : ReportSettings) (m : Machine) (report : ReportFlags) (probing : Bool)
  (accessories : Accessories) (overrides : Overrides) (mpgMode autoReporting cycleStart : Bool)

/-- The state and the substate, as the panel has them. -/
def shownState : GrblState × Option (BitVec 8) :=
  match m.state with
  | .idle => (.idle, none)
  | .cycle =>
      if m.toolChange then (.tool, none)
      else (.run, if m.feedHoldPending then some 1 else if probing then some 2 else none)
  | .hold => (.hold, some (if m.holdingState = .complete then 0 else 1))
  | .jog => (.jog, none)
  | .homing => (.home, none)
  | .estop | .alarm =>
      (.alarm,
        if (report.all || settings.alarmSubstate) && m.alarm != 0 then some m.alarm else none)
  | .checkMode => (.check, none)
  | .safetyDoor => (.door, some (BitVec.ofNat 8 m.parkingState.code))
  | .sleep => (.sleep, none)
  | .toolChange => (.tool, none)

def shownPosition : Axis → Decimal := if settings.machinePosition then m.mpos else m.wpos

def hasPins : Bool :=
  settings.pinState &&
    (m.limits .x || m.limits .y || m.limits .z ||
      decide (controlPins settings m cycleStart ≠ {}))

def hasAccessories : Bool := report.spindle || report.coolant || report.tool || m.toolChange

/-- The letters of the `A:` field. -/
def accessoryLetters : List Char :=
  (if accessories.spindleOn then [if accessories.spindleCcw then 'C' else 'S'] else []) ++
    (if m.encoderError && settings.spindleSync then ['E'] else []) ++
    (if accessories.flood then ['F'] else []) ++ (if accessories.mist then ['M'] else []) ++
    (if m.toolChange && !report.tool then ['T'] else [])

/-- A field that is there under a condition. -/
def optional (there : Bool) (field : ReportField) : List ReportField :=
  if there then [field] else []

/-- The fields as the parser tells them apart. -/
def writtenFields : List ReportField :=
  (bufferField settings m).map .other ++ (lineNumberField settings m).map .other ++
    optional (settings.feedSpeed && settings.variableSpindle)
      (.fs (decimalOfNat m.realtimeRate)
        (decimalOfNat (if accessories.spindleOn then m.rpmOverridden else 0))
        (m.rpmActual.map decimalOfNat)) ++
    optional (settings.feedSpeed && !settings.variableSpindle)
      (.other ("F:".toList ++ uitoa m.realtimeRate)) ++
    optional (hasPins settings m cycleStart) (.pn (pinLetters settings m cycleStart)) ++
    optional report.wco (.wco (tripleOf m.wco)) ++
    optional report.gwco (.other ("WCS:G".toList ++ mapCoordSystem m.coordSystem)) ++
    optional report.overrides
      (.ov overrides.feedRate overrides.rapidRate overrides.spindle) ++
    optional (hasAccessories m report)
      (.a (accessoryLetters settings m report accessories)) ++
    optional report.scaling (.other ("Sc:".toList ++ axisSignalsToString m.g51)) ++
    (autoReportField settings report autoReporting).map .other ++
    optional report.mpgMode (.mpg mpgMode) ++ (homedField settings m report).map .other ++
    optional (report.xmode && settings.lathe) (.d m.diameterMode) ++
    optional report.tool (.other ("T:".toList ++ uitoa m.toolId)) ++
    optional report.tloReference (.tlr m.tloReferenceSet) ++
    (inputField m report).map .other ++ m.plugins.map .other ++
    optional report.all (.other "FW:grblHAL".toList) ++
    optional (report.all && m.blockingEvent) (.other "$C:1".toList)

theorem map_text_optional (there : Bool) (field : ReportField) :
    (optional there field).map ReportField.text = flagged there field.text := by
  cases there <;> rfl

theorem map_text_other (texts : List (List Char)) :
    (texts.map ReportField.other).map ReportField.text = texts := by
  rw [List.map_map]
  exact List.map_id texts

theorem feedSpeedField_eq : feedSpeedField settings m accessories =
    (optional (settings.feedSpeed && settings.variableSpindle)
        (.fs (decimalOfNat m.realtimeRate)
          (decimalOfNat (if accessories.spindleOn then m.rpmOverridden else 0))
          (m.rpmActual.map decimalOfNat)) ++
      optional (settings.feedSpeed && !settings.variableSpindle)
        (.other ("F:".toList ++ uitoa m.realtimeRate))).map ReportField.text := by
  have fs (actual : Option Nat) : (ReportField.fs (decimalOfNat m.realtimeRate)
      (decimalOfNat (if accessories.spindleOn then m.rpmOverridden else 0))
      (actual.map decimalOfNat)).text = "FS:".toList ++ uitoa m.realtimeRate ++
        ',' :: (uitoa (if accessories.spindleOn then m.rpmOverridden else 0) ++
          actual.elim [] fun rpm => ',' :: uitoa rpm) := by
    rw [← text_decimalOfNat, ← text_decimalOfNat]
    cases actual with
    | none => rfl
    | some rpm =>
        rw [Option.elim_some, ← text_decimalOfNat rpm]
        rfl
  rw [List.map_append, map_text_optional, map_text_optional, fs]
  unfold feedSpeedField
  cases settings.feedSpeed <;> cases settings.variableSpindle <;> cases m.rpmActual <;> rfl

theorem pinField_eq : pinField settings m cycleStart =
    flagged (hasPins settings m cycleStart) ("Pn:".toList ++ pinLetters settings m cycleStart) := by
  unfold pinField hasPins flagged
  simp [or_assoc]

theorem accessoriesField_eq : accessoriesField settings m report accessories =
    flagged (hasAccessories m report)
      ("A:".toList ++ accessoryLetters settings m report accessories) := rfl

theorem text_mpg (on : Bool) :
    (ReportField.mpg on).text = if on then "MPG:1".toList else "MPG:0".toList := by
  cases on <;> rfl

theorem text_d (on : Bool) :
    (ReportField.d on).text = if on then "D:1".toList else "D:0".toList := by
  cases on <;> rfl

theorem text_tlr (on : Bool) :
    (ReportField.tlr on).text = "TLR:".toList ++ if on then "1".toList else "0".toList := by
  cases on <;> rfl

theorem map_text_writtenFields :
    (writtenFields settings m report accessories overrides mpgMode autoReporting cycleStart).map
        ReportField.text =
      statusFields settings m report accessories overrides mpgMode autoReporting cycleStart := by
  unfold writtenFields statusFields
  rw [feedSpeedField_eq, pinField_eq, accessoriesField_eq]
  simp only [List.map_append, map_text_optional, map_text_other, text_mpg, text_d, text_tlr,
    List.append_assoc]
  rfl

theorem stateText_eq : stateText settings m report probing =
    Comm.stateName (shownState settings m report probing).1 ++
      match (shownState settings m report probing).2 with
      | some n => ':' :: Nat.toDigits 10 n.toNat
      | none => [] := by
  have holding := m.holding
  unfold stateText shownState
  cases state : m.state with
  | cycle =>
      simp only
      cases m.toolChange <;> cases m.feedHoldPending <;> cases probing <;> rfl
  | hold =>
      simp only
      cases hold : m.holdingState with
      | notHolding => exact absurd hold (holding state)
      | _ => rfl
  | safetyDoor => cases parking : m.parkingState <;> rfl
  | estop | alarm =>
      simp only
      split <;> rfl
  | _ => rfl

/-- Text without bar and NUL. -/
def Clean (text : List Char) : Prop := ∀ c ∈ text, ¬ IsSeparator c

theorem clean_append {a b : List Char} : Clean (a ++ b) ↔ Clean a ∧ Clean b := by
  simp only [Clean, List.mem_append, or_imp, forall_and]

theorem clean_cons {c : Char} {text : List Char} :
    Clean (c :: text) ↔ ¬ IsSeparator c ∧ Clean text := by
  simp [Clean]

theorem clean_of_alpha {text : List Char} (alpha : ∀ c ∈ text, c.isAlpha = true) : Clean text :=
  fun _ member separates => separates.not_mem_letters alpha member

theorem clean_uitoa (n : Nat) : Clean (uitoa n) :=
  fun _ member separates => not_mem_toDigits n separates.apart.1 member

/-- Text that consists of the letters of a label. -/
theorem clean_label {text : List Char}
    (clean : (text.all fun c => c != '|' && c != '\x00') = true) : Clean text := by
  intro c member
  have apart := List.all_eq_true.mp clean c member
  rintro (rfl | rfl) <;> cases apart

theorem alpha_axisSignalsToString (on : Axis → Bool) :
    ∀ c ∈ axisSignalsToString on, c.isAlpha = true := by
  simp only [axisSignalsToString, List.forall_mem_append]
  refine ⟨⟨?_, ?_⟩, ?_⟩ <;> split <;> simp

theorem alpha_controlSignalsToString (safetyDoorCap : Bool) (signals : ControlSignals) :
    ∀ c ∈ controlSignalsToString safetyDoorCap signals, c.isAlpha = true := by
  simp only [controlSignalsToString]
  split
  · nofun
  · intro c member
    obtain ⟨⟨on, letter⟩, among, rfl⟩ := List.mem_map.mp member
    have letters := List.mem_map_of_mem (f := Prod.snd) (List.mem_of_mem_filter among)
    simp only [List.map_cons, List.map_nil] at letters
    exact List.all_eq_true.mp (by decide : ['R', 'H', 'S', 'D', 'L', 'T', 'E', 'O', 'F', 'M', 'Q',
      'P'].all Char.isAlpha = true) _ letters

theorem clean_mapCoordSystem (id : Nat) : Clean (mapCoordSystem id) := by
  simp only [mapCoordSystem]
  split
  · exact clean_append.mpr ⟨clean_label (by decide), clean_uitoa _⟩
  · exact clean_uitoa _

theorem ok_other {text : List Char} (nonempty : text ≠ []) (clean : Clean text)
    (unknown : Comm.fieldKind text = none) : (ReportField.other text).Ok := by
  refine ⟨⟨nonempty, fun member => clean _ member (.inl rfl)⟩,
    fun member => clean _ member (.inr rfl), ?_⟩
  intro kind data found
  rw [unknown] at found
  cases found

/-- A label that the parser does not know. -/
theorem ok_label {label text : List Char} (nonempty : label ≠ [])
    (letters : (label.all fun c => c != '|' && c != '\x00') = true) (clean : Clean text)
    (unknown : Comm.fieldKind (label ++ text) = none) : (ReportField.other (label ++ text)).Ok :=
  ok_other (List.append_ne_nil_of_left_ne_nil nonempty _)
    (clean_append.mpr ⟨clean_label letters, clean⟩) unknown

theorem forall_optional {P : ReportField → Prop} {there : Bool} {field : ReportField}
    (ok : there = true → P field) : ∀ f ∈ optional there field, P f := by
  cases there with
  | true => simpa [optional] using ok rfl
  | false => simp [optional]

/-- Overrides that the parser's integers can take. -/
def Overrides.Small (o : Overrides) : Prop :=
  o.feedRate < 2 ^ 31 ∧ o.rapidRate < 2 ^ 31 ∧ o.spindle < 2 ^ 31

/-- What the panel can read: the letters of the pins have room there, and the plugins write
fields. -/
structure Readable : Prop where
  pins : (pinLetters settings m cycleStart).length ≤ 9
  plugins : ∀ text ∈ m.plugins, (ReportField.other text).Ok

/-- Numbers separated by a comma. -/
theorem clean_pair (a b : Nat) : Clean (uitoa a ++ ',' :: uitoa b) :=
  clean_append.mpr ⟨clean_uitoa a, clean_cons.mpr ⟨by simp [IsSeparator], clean_uitoa b⟩⟩

theorem ok_bufferField : ∀ text ∈ bufferField settings m, (ReportField.other text).Ok := by
  unfold bufferField
  split
  · rw [List.forall_mem_singleton, List.append_assoc]
    exact ok_label (by decide) (by decide) (clean_pair _ _) rfl
  · nofun

theorem ok_lineNumberField :
    ∀ text ∈ lineNumberField settings m, (ReportField.other text).Ok := by
  unfold lineNumberField
  split
  · split
    · rw [List.forall_mem_singleton]
      exact ok_label (by decide) (by decide) (clean_uitoa _) rfl
    · nofun
  · nofun

theorem ok_autoReportField :
    ∀ text ∈ autoReportField settings report autoReporting, (ReportField.other text).Ok := by
  unfold autoReportField
  split
  · rw [List.forall_mem_singleton]
    split
    · exact ok_label (by decide) (by decide) (clean_uitoa _) rfl
    · exact ok_other (by decide) (clean_label (by decide)) rfl
  · nofun

theorem ok_homedField : ∀ text ∈ homedField settings m report, (ReportField.other text).Ok := by
  have digit (b : Bool) : Clean (if b then "0".toList else "1".toList) := by
    cases b <;> exact clean_label (by decide)
  unfold homedField
  dsimp only
  split
  · rw [List.forall_mem_singleton, List.append_assoc]
    refine ok_label (by decide) (by decide) (clean_append.mpr ⟨digit _, ?_⟩) rfl
    split
    · exact clean_cons.mpr ⟨by simp [IsSeparator], clean_uitoa _⟩
    · nofun
  · nofun

theorem ok_inputField : ∀ text ∈ inputField m report, (ReportField.other text).Ok := by
  unfold inputField
  split
  · rw [List.forall_mem_singleton]
    split
    · exact ok_label (by decide) (by decide) (clean_uitoa _) rfl
    · exact ok_other (by decide) (clean_label (by decide)) rfl
  · nofun

theorem ok_pinLetters (room : (pinLetters settings m cycleStart).length ≤ 9) :
    (ReportField.pn (pinLetters settings m cycleStart)).Ok := by
  refine ⟨?_, room⟩
  unfold pinLetters
  simp only [List.forall_mem_append]
  refine ⟨?_, alpha_controlSignalsToString _ _⟩
  split
  · nofun
  · exact alpha_axisSignalsToString _

theorem mem_accessoryLetters :
    ('S' ∈ accessoryLetters settings m report accessories ↔
        accessories.spindleOn = true ∧ accessories.spindleCcw = false) ∧
      ('C' ∈ accessoryLetters settings m report accessories ↔
        accessories.spindleOn = true ∧ accessories.spindleCcw = true) ∧
      ('F' ∈ accessoryLetters settings m report accessories ↔ accessories.flood = true) ∧
      ('M' ∈ accessoryLetters settings m report accessories ↔ accessories.mist = true) := by
  have one {c d : Char} {there : Bool} :
      c ∈ (if there then [d] else []) ↔ there = true ∧ c = d := by
    cases there <;> simp
  unfold accessoryLetters
  simp only [List.mem_append, one]
  cases accessories.spindleOn <;> cases accessories.spindleCcw <;> simp

theorem alpha_accessoryLetters :
    ∀ c ∈ accessoryLetters settings m report accessories, c.isAlpha = true := by
  have one {there : Bool} {c : Char} (alpha : c.isAlpha = true) :
      ∀ d ∈ (if there then [c] else []), d.isAlpha = true := by
    cases there
    · nofun
    · simpa using alpha
  unfold accessoryLetters
  simp only [List.forall_mem_append]
  refine ⟨⟨⟨⟨one ?_, one rfl⟩, one rfl⟩, one rfl⟩, one rfl⟩
  cases accessories.spindleCcw <;> rfl

theorem ok_accessoryLetters :
    (ReportField.a (accessoryLetters settings m report accessories)).Ok := by
  obtain ⟨clockwise, counter, -, -⟩ := mem_accessoryLetters settings m report accessories
  refine ⟨alpha_accessoryLetters settings m report accessories, ?_⟩
  rw [clockwise, counter]
  rintro ⟨⟨-, cw⟩, -, ccw⟩
  rw [cw] at ccw
  cases ccw

variable {settings m report overrides cycleStart}

theorem ok_writtenFields (readable : Readable settings m cycleStart)
    (small : overrides.Small) :
    ∀ field ∈ writtenFields settings m report accessories overrides mpgMode autoReporting
      cycleStart, field.Ok := by
  unfold writtenFields
  simp only [List.forall_mem_append, List.forall_mem_map]
  simp only [and_assoc]
  refine ⟨ok_bufferField settings m, ok_lineNumberField settings m, ?_, ?_, ?_, ?_, ?_, ?_, ?_,
    ?_, ok_autoReportField settings report autoReporting, ?_, ok_homedField settings m report, ?_,
    ?_, ?_, ok_inputField m report, readable.plugins, ?_, ?_⟩ <;>
      refine forall_optional fun there => ?_
  · trivial
  · exact ok_label (by decide) (by decide) (clean_uitoa _) rfl
  · exact ok_pinLetters settings m cycleStart readable.pins
  · trivial
  · exact ok_label (by decide) (by decide) (clean_mapCoordSystem _) rfl
  · exact small
  · exact ok_accessoryLetters settings m report accessories
  · exact ok_label (by decide) (by decide) (clean_of_alpha (alpha_axisSignalsToString _)) rfl
  · trivial
  · trivial
  · exact ok_label (by decide) (by decide) (clean_uitoa _) rfl
  · trivial
  · exact ok_other (by decide) (clean_label (by decide)) rfl
  · exact ok_other (by decide) (clean_label (by decide)) rfl

theorem kind_optional (there : Bool) (field : ReportField) {kind : FieldKind}
    (is : field.kind = some kind) :
    ((optional there field).filterMap ReportField.kind).Sublist [kind] := by
  cases there
  · exact List.nil_sublist _
  · simp [optional, is]

theorem kind_others (there : Bool) (text : List Char) :
    (optional there (.other text)).filterMap ReportField.kind = [] := by
  cases there <;> rfl

theorem kind_map_other (texts : List (List Char)) :
    (texts.map ReportField.other).filterMap ReportField.kind = [] := by
  simp [List.filterMap_eq_nil_iff, ReportField.kind]

theorem once_writtenFields :
    ((writtenFields settings m report accessories overrides mpgMode autoReporting
      cycleStart).filterMap ReportField.kind).Nodup := by
  have one {there : Bool} {field : ReportField} {kind : FieldKind}
      (is : field.kind = some kind) := kind_optional there field is
  have sublist : ((writtenFields settings m report accessories overrides mpgMode autoReporting
      cycleStart).filterMap ReportField.kind).Sublist
        [.fs, .pn, .wco, .ov, .a, .mpg, .d, .tlr] := by
    unfold writtenFields
    simp only [List.filterMap_append, kind_map_other, kind_others, List.nil_append,
      List.append_nil]
    exact (((((((one rfl).append (one rfl)).append (one rfl)).append (one rfl)).append
      (one rfl)).append (one rfl)).append (one rfl)).append (one rfl)
  exact sublist.nodup (by decide)

variable (report) (readable : Readable settings m cycleStart)
  (small : overrides.Small)

/-- The report as the parser has it. -/
def asReport : Comm.Report where
  state := (shownState settings m report probing).1
  substate := (shownState settings m report probing).2
  working := !settings.machinePosition
  position := tripleOf (shownPosition settings m)
  fields := writtenFields settings m report accessories overrides mpgMode autoReporting cycleStart
  ok := ok_writtenFields accessories mpgMode autoReporting readable small
  once := once_writtenFields accessories mpgMode autoReporting

theorem text_asReport :
    (asReport report probing accessories mpgMode autoReporting readable small).text =
      statusText settings m report probing accessories overrides mpgMode autoReporting
        cycleStart := by
  have position : (asReport report probing accessories mpgMode autoReporting readable
      small).positionKind.label ++ (tripleOf (shownPosition settings m)).text =
        positionField settings m := by
    unfold positionField shownPosition Comm.Report.positionKind asReport
    cases settings.machinePosition <;> rfl
  unfold statusText
  rw [stateText_eq, ← position, ← map_text_writtenFields]
  rfl

variable (settings m overrides cycleStart) in
/-- What the panel holds after the report: what was written, and what was not written as before.
Without a `Pn:` field there are no pins. With working positions an offset is not taken over. -/
structure Shown (old g : Comm.Data) : Prop where
  state : g.state = (shownState settings m report probing).1
  substate : g.substate = (shownState settings m report probing).2.getD 0
  position : g.position = (tripleOf (shownPosition settings m)).coords
  pins : g.pins = if hasPins settings m cycleStart then pinLetters settings m cycleStart else []
  feedRate : g.feedRate =
    if settings.feedSpeed && settings.variableSpindle then (m.realtimeRate : ℚ) else old.feedRate
  rpmProgrammed : g.rpmProgrammed =
    if settings.feedSpeed && settings.variableSpindle then
      ((if accessories.spindleOn then m.rpmOverridden else 0 : Nat) : ℚ)
    else old.rpmProgrammed
  offset : settings.machinePosition = true →
    g.offset = if report.wco then (tripleOf m.wco).coords else old.offset
  offsetKept : report.wco = false → g.offset = old.offset
  overrides : (g.feedOverride.toNat, g.rapidOverride.toNat, g.rpmOverride.toNat) =
    if report.overrides then (overrides.feedRate, overrides.rapidRate, overrides.spindle)
    else (old.feedOverride.toNat, old.rapidOverride.toNat, old.rpmOverride.toNat)
  accessories : g.accessories =
    if hasAccessories m report then accessories.withDirection else old.accessories
  mode : g.mpgMode = if report.mpgMode then mpgMode else old.mpgMode

variable (settings m overrides cycleStart) in
/-- Which fields there are. -/
theorem mem_writtenFields (field : ReportField) (known : field.kind ≠ none) :
    field ∈
        writtenFields settings m report accessories overrides mpgMode autoReporting cycleStart ↔
      (settings.feedSpeed && settings.variableSpindle) = true ∧
          field = .fs (decimalOfNat m.realtimeRate)
            (decimalOfNat (if accessories.spindleOn then m.rpmOverridden else 0))
            (m.rpmActual.map decimalOfNat) ∨
        hasPins settings m cycleStart = true ∧ field = .pn (pinLetters settings m cycleStart) ∨
        report.wco = true ∧ field = .wco (tripleOf m.wco) ∨
        report.overrides = true ∧
          field = .ov overrides.feedRate overrides.rapidRate overrides.spindle ∨
        hasAccessories m report = true ∧
          field = .a (accessoryLetters settings m report accessories) ∨
        report.mpgMode = true ∧ field = .mpg mpgMode ∨
        (report.xmode && settings.lathe) = true ∧ field = .d m.diameterMode ∨
        report.tloReference = true ∧ field = .tlr m.tloReferenceSet := by
  have one {there : Bool} {f : ReportField} :
      field ∈ optional there f ↔ there = true ∧ field = f := by
    cases there <;> simp [optional]
  have other {text : List Char} : field ≠ .other text := by
    rintro rfl
    exact known rfl
  have others {texts : List (List Char)} : field ∉ texts.map .other := by
    simp only [List.mem_map, not_exists, not_and]
    exact fun text _ same => other same.symm
  unfold writtenFields
  simp only [List.mem_append, one, other, others, and_false, or_false, false_or, or_assoc]

section

variable {report accessories mpgMode autoReporting}

/-- The letters of the accessories are read as they are written. -/
theorem accessories_of_held {working : Bool} {g : Comm.Data}
    (held : (ReportField.a (accessoryLetters settings m report accessories)).Held working g) :
    g.accessories = accessories.withDirection := by
  obtain ⟨on, ccw, flood, mist⟩ := held
  obtain ⟨clockwise, counter, floodLetter, mistLetter⟩ :=
    mem_accessoryLetters settings m report accessories
  rw [clockwise, counter, ← and_or_left] at on
  rw [counter] at ccw
  rw [floodLetter] at flood
  rw [mistLetter] at mist
  have on : g.spindleOn = accessories.spindleOn := by
    rw [Bool.eq_iff_iff, on, and_iff_left]
    cases accessories.spindleCcw <;> simp
  have ccw : g.spindleCcw = (accessories.spindleOn && accessories.spindleCcw) := by
    rw [Bool.eq_iff_iff, ccw, Bool.and_eq_true]
  rw [Comm.Data.accessories, Accessories.withDirection, on, ccw, Bool.eq_iff_iff.mpr flood,
    Bool.eq_iff_iff.mpr mist]

theorem pins_of_held {r : Comm.Report} {g : Comm.Data} (pins : g.pins = r.pins)
    (fields : r.fields =
      writtenFields settings m report accessories overrides mpgMode autoReporting cycleStart)
    (held : ∀ field ∈ r.fields, field.Held r.working g) :
    g.pins = if hasPins settings m cycleStart then pinLetters settings m cycleStart else [] := by
  rw [fields] at held
  have written (letters : List Char) := mem_writtenFields settings m report accessories overrides
    mpgMode autoReporting cycleStart (.pn letters) nofun
  cases has : hasPins settings m cycleStart with
  | true => exact held _ ((written _).mpr (.inr (.inl ⟨has, rfl⟩)))
  | false =>
      obtain ⟨-, empty⟩ | ⟨-, member⟩ := Comm.pins_cases r
      · exact pins.trans empty
      · rw [fields, written] at member
        simp [has] at member

/-- What the report does not have. -/
theorem absent_of_not {kind : FieldKind}
    (known : kind = .a ∧ hasAccessories m report = false ∨
      kind = .mpg ∧ report.mpgMode = false ∨
      kind = .fs ∧ (settings.feedSpeed && settings.variableSpindle) = false ∨
      kind = .wco ∧ report.wco = false ∨ kind = .ov ∧ report.overrides = false) :
    ∀ field ∈ writtenFields settings m report accessories overrides mpgMode autoReporting
      cycleStart, field.kind ≠ some kind := by
  intro field member is
  rw [mem_writtenFields settings m report accessories overrides mpgMode autoReporting cycleStart
    field (by simp [is])] at member
  obtain ⟨rfl, none⟩ | ⟨rfl, none⟩ | ⟨rfl, none⟩ | ⟨rfl, none⟩ | ⟨rfl, none⟩ := known <;>
    cases field <;> first | (cases is; done) | simp [none] at member

end

/-- What is decoded and what is left alone is all that the panel shows. -/
theorem shown_of_decoded {r : Comm.Report} {old g : Comm.Data} (decoded : r.Decoded g)
    (eq : asReport report probing accessories mpgMode autoReporting readable small = r)
    (untold : ∀ kind, (∀ field ∈ r.fields, field.kind ≠ some kind) →
      kind ≠ .wpos ∧ kind ≠ .mpos → kind ≠ .sd → Comm.Untold kind old g) :
    Shown settings m report probing accessories overrides mpgMode cycleStart old g := by
  have fields : r.fields = writtenFields settings m report accessories overrides mpgMode
      autoReporting cycleStart := by rw [← eq]; rfl
  have held (field : ReportField) {kind : FieldKind} (known : field.kind = some kind) := by
    have written := mem_writtenFields settings m report accessories overrides mpgMode
      autoReporting cycleStart field (known ▸ Option.some_ne_none kind)
    rw [← fields] at written
    exact fun there => decoded.fields field (written.mpr there)
  have kept {kind : FieldKind} (known : _) := untold kind (by
    rw [fields]
    exact absent_of_not known)
  have speed : g.feedRate = (if settings.feedSpeed && settings.variableSpindle then
        (m.realtimeRate : ℚ) else old.feedRate) ∧
      g.rpmProgrammed = if settings.feedSpeed && settings.variableSpindle then
        ((if accessories.spindleOn then m.rpmOverridden else 0 : Nat) : ℚ)
        else old.rpmProgrammed := by
    cases has : settings.feedSpeed && settings.variableSpindle with
    | true =>
        have shown := held (.fs _ _ _) rfl (.inl ⟨has, rfl⟩)
        simpa only [ReportField.Held, value_decimalOfNat, if_true] using shown
    | false =>
        exact (kept (.inr (.inr (.inl ⟨rfl, has⟩))) (by decide) (by decide)).speed rfl
  have offset (none : report.wco = false) : g.offset = old.offset :=
    (kept (.inr (.inr (.inr (.inl ⟨rfl, none⟩)))) (by decide) (by decide)).offset rfl
  constructor
  · rw [decoded.state, ← eq]
    rfl
  · rw [decoded.substate, ← eq]
    rfl
  · rw [decoded.position, ← eq]
    rfl
  · exact pins_of_held decoded.pins fields decoded.fields
  · exact speed.1
  · exact speed.2
  · intro machine
    cases has : report.wco with
    | true =>
        have working : r.working = false := by
          rw [← eq, asReport, machine]
          rfl
        exact held (.wco _) rfl (.inr (.inr (.inl ⟨has, rfl⟩))) working
    | false => exact offset has
  · exact offset
  · cases has : report.overrides with
    | true =>
        obtain ⟨feed, rapid, rpm⟩ :=
          held (.ov _ _ _) rfl (.inr (.inr (.inr (.inl ⟨has, rfl⟩))))
        rw [feed, rapid, rpm]
        rfl
    | false =>
        obtain ⟨feed, rapid, rpm⟩ :=
          (kept (.inr (.inr (.inr (.inr ⟨rfl, has⟩)))) (by decide) (by decide)).overrides rfl
        rw [feed, rapid, rpm]
        rfl
  · cases has : hasAccessories m report with
    | true =>
        exact accessories_of_held
          (held (.a _) rfl (.inr (.inr (.inr (.inr (.inl ⟨has, rfl⟩))))))
    | false => exact (kept (.inl ⟨rfl, has⟩) (by decide) (by decide)).accessories rfl
  · cases has : report.mpgMode with
    | true =>
        exact held (.mpg _) rfl
          (.inr (.inr (.inr (.inr (.inr (.inl ⟨has, rfl⟩))))))
    | false => exact (kept (.inr (.inl ⟨rfl, has⟩)) (by decide) (by decide)).mode rfl

/-- A report that fits the receive buffer is read back. -/
theorem callback_statusText (readable : Readable settings m cycleStart)
    (small : overrides.Small)
    (fits : (statusText settings m report probing accessories overrides mpgMode autoReporting
      cycleStart).length < maxBlockLength) {s : Comm.State}
    (named : Comm.Named s.data.toGrblData) :
    ∃ s', Comm.callback (statusText settings m report probing accessories overrides mpgMode
        autoReporting cycleStart) s = some s' ∧ Comm.Named s'.data.toGrblData ∧
      Shown settings m report probing accessories overrides mpgMode cycleStart s.data s'.data := by
  have text := text_asReport report probing accessories mpgMode autoReporting readable small
  generalize eq : asReport report probing accessories mpgMode autoReporting readable small = r
    at text
  rw [← text] at fits ⊢
  obtain ⟨g₁, g₂, g₃, first, second, third, parsed⟩ := Comm.report_scans r fits s
  have named₂ := Comm.named_parseStatus second (Comm.named_parseStatus first named)
  obtain ⟨g, decoding, decoded⟩ := Comm.parseStatus_report r named₂
  rw [third, Option.some.injEq] at decoding
  subst decoding
  refine ⟨_, parsed, Comm.named_parseStatus third named₂,
    shown_of_decoded report probing accessories mpgMode autoReporting readable small decoded eq
      ?_⟩
  intro kind absent position message
  have start : Comm.Untold kind s.data s.data.started :=
    ⟨fun _ => rfl, fun _ => rfl, fun _ => ⟨rfl, rfl⟩, fun _ => rfl, fun _ => ⟨rfl, rfl, rfl⟩⟩
  rw [← List.append_nil r.body] at third
  exact ((start.trans (Comm.report_untold absent position message (.inr (.inr rfl)) first)).trans
    (Comm.report_untold absent position message (.inr (.inl rfl)) second)).trans
      (Comm.report_untold absent position message (.inl rfl) third)

end Cnc
