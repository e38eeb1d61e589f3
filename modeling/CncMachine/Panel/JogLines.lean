import Mathlib.Algebra.Order.Ring.Abs
import CncMachine.Numeric.Printed
import CncMachine.Panel.Adjusting
import CncMachine.Panel.Jogging
import CncMachine.Panel.Tables

/-!
# Jogs of the handwheels and of the buttons

Both kinds of jog are printed to small arrays, with distances and feeds from the tables of
`mpg_settings`. The ranges of these leave every line room (`jog_lines_fit`). The tables and indexes
that the two kinds and the screen use are not the same ones: `jogs_agree_iff` says when that does
not show.
-/

namespace Cnc

open Transition

/-- `"%d"`. -/
def decimal (n : Int) : List Char :=
  if n < 0 then '-' :: Nat.toDigits 10 (-n).toNat else Nat.toDigits 10 n.toNat

/-- Hundredths of a millimetre, by `"%f"`. -/
def millimetres (n : Int) : List Char := (Double.value (n / 100)).printed6

/-- `"$J=G91G21X%f%c%fF%d\n"`. -/
def jogText (x : Int) (yOrZ : Char) (yz feed : Int) : List Char :=
  "$J=G91G21X".toList ++ millimetres x ++ yOrZ :: millimetres yz ++ 'F' :: decimal feed ++ ['\n']

/-- `"$J=G91G21X%fF%d\n"` and its siblings. Their minus sign is part of the format. -/
def buttonJogText (axis : Char) (distance feed : Int) : List Char :=
  "$J=G91G21".toList ++ axis :: millimetres distance ++ 'F' :: decimal feed ++ ['\n']

/-- The line of a jog. -/
def Packet.jogLine : Packet → List Char
  | .jog x yOrZ yz feed => jogText x yOrZ yz feed
  | .buttonJog axis distance feed => buttonJogText axis distance feed
  | _ => []

/-- `"-%f"` of a distance is `"%f"` of the opposite one. -/
theorem millimetres_neg {n : Int} (positive : 0 < n) : millimetres (-n) = '-' :: millimetres n := by
  have opposite : (((-n : Int) : ℚ) / 100) = -(n / 100) := by
    push_cast
    ring
  rw [millimetres, millimetres, opposite]
  apply Double.printed6_neg
  have : (0 : ℚ) < n := by exact_mod_cast positive
  linarith

theorem length_decimal_le {n : Int} {digits : Nat} (some : 0 < digits) (low : 0 ≤ n)
    (high : n < 10 ^ digits) : (decimal n).length ≤ digits := by
  rw [decimal, if_neg (not_lt.mpr low), Nat.length_toDigits_le_iff (by decide) some]
  exact (Int.toNat_lt low).mpr (by exact_mod_cast high)

theorem length_millimetres_le {n : Int} {digits : Nat} (some : 0 < digits)
    (small : |n| < 100 * 10 ^ digits) : (millimetres n).length ≤ digits + 8 :=
  Double.length_printed6_hundredths some small

/-- Ten characters for the start, thirteen for each distance, four for the feed. -/
theorem length_jogText {x yz feed : Int} (yOrZ : Char) (first : |x| < 100 * 10 ^ 5)
    (second : |yz| < 100 * 10 ^ 5) (low : 0 ≤ feed) (high : feed < 10 ^ 4) :
    (jogText x yOrZ yz feed).length < 50 := by
  have x : (millimetres x).length ≤ 5 + 8 := length_millimetres_le (by decide) first
  have yz : (millimetres yz).length ≤ 5 + 8 := length_millimetres_le (by decide) second
  have digits : (decimal feed).length ≤ 4 := length_decimal_le (by decide) low high
  have start : "$J=G91G21X".toList.length = 10 := rfl
  unfold jogText
  simp only [List.length_append, List.length_cons, List.length_nil, start]
  omega

theorem length_buttonJogText {distance feed : Int} (axis : Char)
    (short : |distance| < 100 * 10 ^ 1) (low : 0 ≤ feed) (high : feed < 10 ^ 4) :
    (buttonJogText axis distance feed).length < 30 := by
  have distance : (millimetres distance).length ≤ 1 + 8 := length_millimetres_le (by decide) short
  have digits : (decimal feed).length ≤ 4 := length_decimal_le (by decide) low high
  have start : "$J=G91G21".toList.length = 9 := rfl
  unfold buttonJogText
  simp only [List.length_append, List.length_cons, List.length_nil, start]
  omega

namespace MpgSettings

/-- Three values in ranges that follow one another. -/
structure Rising (table : Nat → Int) (a b c d : Int) : Prop where
  first : a ≤ table 0 ∧ table 0 ≤ b
  second : b ≤ table 1 ∧ table 1 ≤ c
  third : c ≤ table 2 ∧ table 2 ≤ d
  ordered : table 0 ≤ table 1 ∧ table 1 ≤ table 2

theorem Rising.of_ranges {table : Nat → Int} {a b c d : Int} (first : a ≤ table 0 ∧ table 0 ≤ b)
    (second : b ≤ table 1 ∧ table 1 ≤ c) (third : c ≤ table 2 ∧ table 2 ≤ d) :
    Rising table a b c d :=
  ⟨first, second, third, first.2.trans second.1, second.2.trans third.1⟩

/-- All three values lie between the outer limits. -/
theorem Rising.bounds {table : Nat → Int} {a b c d : Int} (rising : Rising table a b c d)
    {entry : Nat} (inside : entry < 3) : a ≤ table entry ∧ table entry ≤ d := by
  obtain ⟨first, second, third, -⟩ := rising
  obtain rfl | rfl | rfl : entry = 0 ∨ entry = 1 ∨ entry = 2 := by omega
  all_goals omega

variable {m : MpgSettings}

theorem InRange.xAxisMultiplicity (inRange : m.InRange) :
    Rising m.xAxisMultiplicity 1 10 100 150 :=
  .of_ranges (inRange (.xAxisMultiplicity 0)) (inRange (.xAxisMultiplicity 1))
    (inRange (.xAxisMultiplicity 2))

theorem InRange.yzAxisMultiplicity (inRange : m.InRange) :
    Rising m.yzAxisMultiplicity 1 10 100 150 :=
  .of_ranges (inRange (.yzAxisMultiplicity 0)) (inRange (.yzAxisMultiplicity 1))
    (inRange (.yzAxisMultiplicity 2))

theorem InRange.jogSpeeds (inRange : m.InRange) : Rising m.jogSpeeds 500 750 1000 1500 :=
  .of_ranges (inRange (.jogSpeed 0)) (inRange (.jogSpeed 1)) (inRange (.jogSpeed 2))

end MpgSettings

/-- The name of a wheel's axis, with Y selected on the pendant. -/
def Wheel.axisName : Wheel → Char
  | .x => 'X'
  | .yz => 'Y'

/-- The axis and the direction in which a button jogs, if it does. -/
def Button.jogs : Button → Option (Wheel × Int)
  | .right => some (.x, 1)
  | .left => some (.x, -1)
  | .up => some (.yz, 1)
  | .down => some (.yz, -1)
  | _ => none

theorem Button.jogs_direction {button : Button} {axis : Wheel} {sign : Int}
    (jogs : button.jogs = some (axis, sign)) : sign = 1 ∨ sign = -1 := by
  cases button <;> simp_all [Button.jogs]

namespace Panel

variable (s : Panel)

/-- The packet of a jog by a button. -/
def buttonJog (axis : Wheel) (sign : Int) : Packet :=
  .buttonJog axis.axisName
    (sign * s.mpgSettings.xAxisMultiplicity s.pendantData.xAxisMultiplicity.toNat)
    (s.mpgSettings.jogSpeeds s.pendantData.jogMode.toNat)

/-- `jogByButtons` sends jogs of this kind only. -/
def SendsButtonJogs (input : MenuInput) : Prop :=
  ∃ menu packets, s.jogByButtons input =
      { s with menu := menu, controllerLine := s.controllerLine ++ packets } ∧
    ∀ packet ∈ packets, ∃ (button : Button) (axis : Wheel) (sign : Int),
      button.jogs = some (axis, sign) ∧ input.pressed button = true ∧
        packet = s.buttonJog axis sign

theorem jogByButton_sends {button : Button} {axis : Wheel} {sign : Int} {input : MenuInput}
    (jogs : button.jogs = some (axis, sign)) (pressed : input.pressed button = true) :
    ∃ menu packets, s.jogByButton button axis.axisName sign input =
        { s with menu := menu, controllerLine := s.controllerLine ++ packets } ∧
      ∀ packet ∈ packets, ∃ (button : Button) (axis : Wheel) (sign : Int),
        button.jogs = some (axis, sign) ∧ input.pressed button = true ∧
          packet = s.buttonJog axis sign := by
  simp only [jogByButton]
  split
  · rw [transmit_eq]
    refine ⟨_, _, rfl, ?_⟩
    intro packet member
    have packet := List.mem_singleton.mp (List.mem_filter.mp member).1
    exact ⟨button, axis, sign, jogs, pressed, packet⟩
  · exact ⟨_, [], by rw [List.append_nil], fun _ member => absurd member List.not_mem_nil⟩

theorem jogByButtons_sends (input : MenuInput) : s.SendsButtonJogs input := by
  simp only [SendsButtonJogs, jogByButtons]
  split
  next right => exact s.jogByButton_sends rfl right
  next =>
    split
    next left => exact s.jogByButton_sends rfl left
    next =>
      split
      next up => exact s.jogByButton_sends rfl up
      next =>
        split
        next down => exact s.jogByButton_sends rfl down
        next =>
          exact ⟨s.menu, [], by rw [List.append_nil], fun _ member => absurd member List.not_mem_nil⟩

section

variable {s}

theorem length_jogLine_movement {data : PendantAction} (inRange : s.mpgSettings.InRange)
    (x : data.xAxisMultiplicity.toNat < 3) (yz : data.yzAxisMultiplicity.toNat < 3)
    (mode : data.jogMode.toNat < 3) {packet : Packet} (member : packet ∈ s.movementPackets data) :
    packet.jogLine.length < 50 := by
  have distance (diff : BitVec 16) {multiplicity : Int}
      (range : 1 ≤ multiplicity ∧ multiplicity ≤ 150) :
      |diff.toInt * multiplicity| < 100 * 10 ^ 5 := by
    have low := diff.le_toInt
    have high := diff.toInt_lt
    rw [abs_mul]
    calc |diff.toInt| * |multiplicity| ≤ 32768 * 150 := by
          apply mul_le_mul
          · exact abs_le.mpr ⟨by omega, by omega⟩
          · exact abs_le.mpr ⟨by omega, by omega⟩
          · exact abs_nonneg _
          · decide
      _ < 100 * 10 ^ 5 := by decide
  have first := distance data.encoder1ValDiff (inRange.xAxisMultiplicity.bounds x)
  have second := distance data.encoder2ValDiff (inRange.yzAxisMultiplicity.bounds yz)
  have feed := inRange.jogSpeeds.bounds mode
  simp only [movementPackets] at member
  split at member
  · obtain rfl := List.mem_singleton.mp member
    exact length_jogText _ first second (by omega) (by omega)
  · cases member

theorem length_jogLine_button (axis : Wheel) {sign : Int} (inRange : s.mpgSettings.InRange)
    (fit : s.pendantData.IndexesFit) (direction : sign = 1 ∨ sign = -1) :
    (s.buttonJog axis sign).jogLine.length < 30 := by
  have range := inRange.xAxisMultiplicity.bounds fit.xAxisMultiplicity
  have feed := inRange.jogSpeeds.bounds fit.jogMode
  refine length_buttonJogText _ ?_ (by omega) (by omega)
  obtain rfl | rfl := direction
  · exact abs_lt.mpr ⟨by omega, by omega⟩
  · exact abs_lt.mpr ⟨by omega, by omega⟩

/-- The minus sign of a jog backwards is part of its format. -/
theorem jogLine_backwards (axis : Wheel) (inRange : s.mpgSettings.InRange)
    (fit : s.pendantData.IndexesFit) :
    (s.buttonJog axis (-1)).jogLine = "$J=G91G21".toList ++
      axis.axisName :: '-' :: millimetres (s.mpgSettings.axisStep s.pendantData .x) ++
      'F' :: decimal (s.mpgSettings.jogSpeeds s.pendantData.jogMode.toNat) ++ ['\n'] := by
  have range := inRange.xAxisMultiplicity.bounds fit.xAxisMultiplicity
  have positive : 0 < s.mpgSettings.axisStep s.pendantData .x := by
    rw [MpgSettings.axisStep]
    omega
  have backwards : s.buttonJog axis (-1) = .buttonJog axis.axisName
      (-s.mpgSettings.axisStep s.pendantData .x)
      (s.mpgSettings.jogSpeeds s.pendantData.jogMode.toNat) := by
    rw [buttonJog, neg_one_mul, MpgSettings.axisStep]
  rw [backwards]
  exact congrArg (fun distance => "$J=G91G21".toList ++ axis.axisName :: distance ++
    'F' :: decimal (s.mpgSettings.jogSpeeds s.pendantData.jogMode.toNat) ++ ['\n'])
    (millimetres_neg positive)

/-- A step is shown as four characters. -/
theorem length_shownStep (inRange : s.mpgSettings.InRange) (fit : s.pendantData.IndexesFit)
    {shown : Int} (member : shown ∈ s.axisSteps) :
    (Double.value (shown / 100)).printed2.length < 5 := by
  have x := inRange.xAxisMultiplicity.bounds fit.xAxisMultiplicity
  have yz := inRange.yzAxisMultiplicity.bounds fit.yzAxisMultiplicity
  have range : 0 ≤ shown ∧ shown < 1000 := by
    simp only [axisSteps, MpgSettings.axisStep, List.map_cons, List.map_nil, List.mem_cons,
      List.not_mem_nil, or_false] at member
    omega
  rw [Double.length_printed2_hundredths range.1 range.2]
  decide

end

/-- After any run the settings are in their ranges, and with indexes below three every jog and every
step has room in its array. The buttons send these jogs and no others. -/
theorem jog_lines_fit (startup : Startup) (es : List PanelEvent) :
    let s := run step (initial startup) es
    MpgSettings.Rising s.mpgSettings.xAxisMultiplicity 1 10 100 150 ∧
    MpgSettings.Rising s.mpgSettings.yzAxisMultiplicity 1 10 100 150 ∧
    MpgSettings.Rising s.mpgSettings.jogSpeeds 500 750 1000 1500 ∧
    (∀ data : PendantAction, data.xAxisMultiplicity.toNat < 3 →
      data.yzAxisMultiplicity.toNat < 3 → data.jogMode.toNat < 3 →
        ∀ packet ∈ s.movementPackets data, packet.jogLine.length < 50) ∧
    ∀ data : PendantData, data.IndexesFit →
      (∀ (button : Button) (axis : Wheel) (sign : Int), button.jogs = some (axis, sign) →
        ({ s with pendantData := data }.buttonJog axis sign).jogLine.length < 30) ∧
      (∀ shown : Int, shown ∈ { s with pendantData := data }.axisSteps →
        (Double.value (shown / 100)).printed2.length < 5) ∧
      (∀ axis : Wheel, ({ s with pendantData := data }.buttonJog axis (-1)).jogLine =
        "$J=G91G21".toList ++ axis.axisName :: '-' :: millimetres (s.mpgSettings.axisStep data .x) ++
          'F' :: decimal (s.mpgSettings.jogSpeeds data.jogMode.toNat) ++ ['\n']) ∧
      ∀ input : MenuInput, { s with pendantData := data }.SendsButtonJogs input := by
  intro s
  have inRange : s.mpgSettings.InRange := inRange_run startup es
  clear_value s
  refine ⟨inRange.xAxisMultiplicity, inRange.yzAxisMultiplicity, inRange.jogSpeeds, ?_, ?_⟩
  · intro data x yz mode packet member
    exact length_jogLine_movement inRange x yz mode member
  · intro data fit
    refine ⟨?_, ?_, ?_, fun input => jogByButtons_sends _ input⟩
    · intro button axis sign jogs
      exact length_jogLine_button (s := { s with pendantData := data }) axis inRange fit
        (Button.jogs_direction jogs)
    · intro shown member
      exact length_shownStep (s := { s with pendantData := data }) inRange fit member
    · intro axis
      exact jogLine_backwards (s := { s with pendantData := data }) axis inRange fit

/-- The action for one count of an axis' wheel, with Y selected. -/
def oneCount (axis : Wheel) : PendantAction :=
  { s.frameAction with
    encoder1ValDiff := if axis = .x then 1 else 0
    encoder2ValDiff := if axis = .yz then 1 else 0
    yOrZ := yzMovementY }

/-- The step that the screen shows for an axis. -/
def shownStep (axis : Wheel) : Option Int :=
  match axis with
  | .x => s.axisSteps[0]?
  | .yz => s.axisSteps[1]?

/-- `pendant_jog_mode`, the mode whose name is on the screen. -/
def shownJogMode : BitVec 8 := s.pendantData.jogMode

/-- The packet of a jog along one axis by its wheel. -/
def wheelJog (axis : Wheel) (distance feed : Int) : Packet :=
  match axis with
  | .x => .jog distance 'Y' 0 feed
  | .yz => .jog 0 'Y' distance feed

/-- A jog by a button goes as far and as fast as one by a count of the wheel, and the screen shows
its step and its mode. -/
structure JogAgrees (axis : Wheel) (sign : Int) (distance feed : Int) : Prop where
  button : s.buttonJog axis sign = .buttonJog axis.axisName (sign * distance) feed
  count : s.movementPackets (s.oneCount axis) = [wheelJog axis distance feed]
  step : s.shownStep axis = some distance
  mode : feed = s.mpgSettings.jogSpeeds s.shownJogMode.toNat

/-- All four buttons agree with the wheels and the screen. -/
def JogsAgree : Prop :=
  ∀ (button : Button) (axis : Wheel) (sign : Int), button.jogs = some (axis, sign) →
    ∃ distance feed, s.JogAgrees axis sign distance feed

variable {s}

theorem movementPackets_oneCount (axis : Wheel) (moves : s.mpgSettings.axisStep s.pendantData axis ≠ 0) :
    s.movementPackets (s.oneCount axis) =
      [wheelJog axis (s.mpgSettings.axisStep s.pendantData axis)
        (s.mpgSettings.jogSpeeds s.pendantControl.jogMode.toNat)] := by
  cases axis with
  | x =>
      rw [MpgSettings.axisStep] at moves
      simp [movementPackets, oneCount, frameAction, wheelJog, MpgSettings.axisStep, moves]
  | yz =>
      rw [MpgSettings.axisStep] at moves
      simp [movementPackets, oneCount, frameAction, wheelJog, MpgSettings.axisStep, moves]

/-- One axis agrees if the distance of the X axis is its own and the two modes have one feed. -/
theorem jogAgrees_iff {axis : Wheel} {sign : Int} (direction : sign = 1 ∨ sign = -1)
    (moves : s.mpgSettings.axisStep s.pendantData axis ≠ 0) :
    (∃ distance feed, s.JogAgrees axis sign distance feed) ↔
      s.mpgSettings.axisStep s.pendantData .x = s.mpgSettings.axisStep s.pendantData axis ∧
        s.mpgSettings.jogSpeeds s.pendantData.jogMode.toNat =
          s.mpgSettings.jogSpeeds s.pendantControl.jogMode.toNat := by
  have packet := movementPackets_oneCount axis moves
  constructor
  · rintro ⟨distance, feed, agrees⟩
    obtain ⟨-, far, fast⟩ := Packet.buttonJog.inj agrees.button
    have own : distance = s.mpgSettings.axisStep s.pendantData axis ∧
        feed = s.mpgSettings.jogSpeeds s.pendantControl.jogMode.toNat := by
      have same := agrees.count.symm.trans packet
      cases axis <;> simp_all [wheelJog]
    refine ⟨?_, fast.trans own.2⟩
    have far : sign * s.mpgSettings.axisStep s.pendantData .x = sign * distance := far
    obtain rfl | rfl := direction <;> omega
  · rintro ⟨far, fast⟩
    refine ⟨s.mpgSettings.axisStep s.pendantData axis, _, ?_, packet, ?_, fast.symm⟩
    · rw [← far, ← fast]
      rfl
    · cases axis <;> rfl

/-- After any run the buttons, the wheels and the screen agree on every jog exactly if the entries
selected in the two tables of distances are equal, and so are the feeds of the mode received and of
the normal mode. The jogs compared are those the buttons send. -/
theorem jogs_agree_iff (startup : Startup) (es : List PanelEvent) (data : PendantData)
    (fit : data.IndexesFit) :
    ({ run step (initial startup) es with pendantData := data }.JogsAgree ↔
      (run step (initial startup) es).mpgSettings.xAxisMultiplicity
          data.xAxisMultiplicity.toNat =
        (run step (initial startup) es).mpgSettings.yzAxisMultiplicity
          data.yzAxisMultiplicity.toNat ∧
      (run step (initial startup) es).mpgSettings.jogSpeeds data.jogMode.toNat =
        (run step (initial startup) es).mpgSettings.jogSpeeds 1) ∧
    ∀ input : MenuInput,
      { run step (initial startup) es with pendantData := data }.SendsButtonJogs input := by
  refine ⟨?_, fun input => jogByButtons_sends _ input⟩
  have inRange := inRange_run startup es
  have mode := (indexes_run startup es).2
  generalize run step (initial startup) es = s at inRange mode ⊢
  have moves (axis : Wheel) : s.mpgSettings.axisStep data axis ≠ 0 := by
    have x := inRange.xAxisMultiplicity.bounds fit.xAxisMultiplicity
    have yz := inRange.yzAxisMultiplicity.bounds fit.yzAxisMultiplicity
    cases axis <;> simp only [MpgSettings.axisStep] <;> omega
  have feed : s.mpgSettings.jogSpeeds s.pendantControl.jogMode.toNat =
      s.mpgSettings.jogSpeeds 1 := by
    rw [mode]
    rfl
  constructor
  · intro agree
    have up := (jogAgrees_iff (.inl rfl) (moves .yz)).mp (agree .up .yz 1 rfl)
    exact ⟨up.1, up.2.trans feed⟩
  · rintro ⟨far, fast⟩ button axis sign jogs
    refine (jogAgrees_iff (Button.jogs_direction jogs) (moves axis)).mpr ⟨?_, fast.trans feed.symm⟩
    cases axis with
    | x => rfl
    | yz => exact far

/-- The switches at their finest step, with the mode "Normal". -/
theorem jogs_agree_normal :
    { run step (initial {}) [] with pendantData := { jogMode := 1 } }.JogsAgree :=
  (jogs_agree_iff {} [] { jogMode := 1 } (by decide)).1.mpr (by decide)

/-- With the Y axis at its second step a button jogs it by a hundredth of a millimetre, a count of
the wheel by a tenth, as the screen shows. -/
theorem jogs_disagree :
    let data : PendantData := { yzAxisMultiplicity := 1, jogMode := 1 }
    let s : Panel := { run step (initial {}) [] with pendantData := data }
    data.IndexesFit ∧ s.buttonJog .yz 1 = .buttonJog 'Y' 1 750 ∧
      s.movementPackets (s.oneCount .yz) = [.jog 0 'Y' 10 750] ∧ s.shownStep .yz = some 10 ∧
      ¬ s.JogsAgree := by
  refine ⟨by decide, rfl, by decide, rfl, ?_⟩
  intro agree
  obtain ⟨distance, feed, agrees⟩ := agree .up .yz 1 rfl
  have shown : 10 = distance := Option.some.inj agrees.step
  obtain ⟨-, far, -⟩ := Packet.buttonJog.inj agrees.button
  have jogged : 1 * 1 = 1 * distance := far
  omega

end Panel

end Cnc
