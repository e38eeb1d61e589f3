import CncMachine.Comm.Decoding
import CncMachine.Plant.Report

/-!
# What a report does not tell

A status report without an `A:` field leaves spindle and coolant as the panel has them, one without
an `MPG:` field leaves the mode, and so on for speeds, work offset and overrides. This holds for each
of the three scans of a callback.
-/

namespace Cnc.Comm

open Text

/-- Spindle and coolant, as the panel knows them. -/
def Data.accessories (g : Data) : Accessories := ⟨g.spindleOn, g.spindleCcw, g.flood, g.mist⟩

/-- What a field of this kind tells of is left alone. -/
structure Untold (kind : FieldKind) (g g' : Data) : Prop where
  accessories : kind = .a → g'.accessories = g.accessories
  mode : kind = .mpg → g'.mpgMode = g.mpgMode
  speed : kind = .fs → g'.feedRate = g.feedRate ∧ g'.rpmProgrammed = g.rpmProgrammed
  offset : kind = .wco → g'.offset = g.offset
  overrides : kind = .ov → g'.feedOverride = g.feedOverride ∧ g'.rapidOverride = g.rapidOverride ∧
    g'.rpmOverride = g.rpmOverride

variable {kind : FieldKind} {g g' : Data}

theorem Untold.refl (kind : FieldKind) (g : Data) : Untold kind g g where
  accessories _ := rfl
  mode _ := rfl
  speed _ := ⟨rfl, rfl⟩
  offset _ := rfl
  overrides _ := ⟨rfl, rfl, rfl⟩

theorem Untold.trans {g'' : Data} (first : Untold kind g g') (second : Untold kind g' g'') :
    Untold kind g g'' where
  accessories is := (second.accessories is).trans (first.accessories is)
  mode is := (second.mode is).trans (first.mode is)
  speed is := ⟨(second.speed is).1.trans (first.speed is).1,
    (second.speed is).2.trans (first.speed is).2⟩
  offset is := (second.offset is).trans (first.offset is)
  overrides is := by
    obtain ⟨feed, rapid, rpm⟩ := first.overrides is
    obtain ⟨feed', rapid', rpm'⟩ := second.overrides is
    exact ⟨feed'.trans feed, rapid'.trans rapid, rpm'.trans rpm⟩

theorem parseField_untold {field : List Char} (other : (fieldKind field).map (·.1) ≠ some kind)
    (eq : parseField g field = some g') : Untold kind g g' := by
  have keeps := parseField_keeps g eq
  constructor <;> rintro rfl
  · obtain ⟨on, ccw, flood, mist⟩ := keeps.a other
    simp only [Data.accessories, on, ccw, flood, mist]
  · exact keeps.mpg other
  · exact keeps.fs other
  · exact keeps.wco other
  · exact keeps.ov other

theorem parseState_untold (g : Data) (token : List Char) : Untold kind g (parseState g token) := by
  have core := parseState_core g token
  obtain ⟨state, substate, text, frame⟩ := grblParseState_frame token g.toGrblData
  have rest : (parseState g token).feedRate = g.feedRate ∧
      (parseState g token).rpmProgrammed = g.rpmProgrammed ∧
      (parseState g token).offset = g.offset ∧
      (parseState g token).feedOverride = g.feedOverride ∧
      (parseState g token).rapidOverride = g.rapidOverride ∧
      (parseState g token).rpmOverride = g.rpmOverride := by
    simp only [parseState, setLeds, grblClearMessage, grblClearAlarm]
    repeat' split
    all_goals exact ⟨rfl, rfl, rfl, rfl, rfl, rfl⟩
  obtain ⟨feed, rpm, offset, overrides⟩ := rest
  constructor <;> rintro rfl
  · simp only [Data.accessories, core, frame]
  · simp only [core, frame]
  · exact ⟨feed, rpm⟩
  · exact offset
  · exact overrides

theorem clearPins_untold (g : Data) : Untold kind g (clearPins g) where
  accessories _ := rfl
  mode _ := rfl
  speed _ := ⟨rfl, rfl⟩
  offset _ := rfl
  overrides _ := ⟨rfl, rfl, rfl⟩

theorem parseFields_untold {fields : List (List Char)}
    (other : ∀ field ∈ fields, (fieldKind field).map (·.1) ≠ some kind)
    (eq : fields.foldlM parseField g = some g') : Untold kind g g' := by
  induction fields generalizing g with
  | nil =>
      rw [← Option.some.inj eq]
      exact .refl kind g
  | cons field fields ih =>
      rw [List.foldlM_cons, Option.bind_eq_bind, Option.bind_eq_some_iff] at eq
      obtain ⟨next, first, rest⟩ := eq
      exact (parseField_untold (other field (.head _)) first).trans
        (ih (fun f member => other f (.tail _ member)) rest)

theorem parseStatus_untold {text : List Char}
    (other : ∀ field ∈ (strtok '|' text).tail, (fieldKind field).map (·.1) ≠ some kind)
    (eq : parseStatus g text = some g') : Untold kind g g' := by
  cases tokens : strtok '|' text with
  | nil =>
      simp only [parseStatus, tokens, Option.some.injEq] at eq
      subst eq
      exact clearPins_untold g
  | cons state fields =>
      rw [tokens] at other
      rw [parseStatus_of_tokens tokens, Option.map_eq_some_iff] at eq
      obtain ⟨scanned, fold, rfl⟩ := eq
      refine ((parseState_untold g state).trans (parseFields_untold other fold)).trans ?_
      split
      · exact .refl kind scanned
      · exact clearPins_untold scanned

/-- The end of the report does not make a field of one kind one of another. -/
theorem fieldKind_tail {text tail : List Char} (ending : IsTail tail) :
    (fieldKind (text ++ tail)).map (·.1) = (fieldKind text).map (·.1) := by
  simp only [fieldKind, label_tail ending, Option.map_map]
  rfl

/-- A report without a field of this kind. -/
theorem report_untold {r : Report} (absent : ∀ field ∈ r.fields, field.kind ≠ some kind)
    (position : kind ≠ .wpos ∧ kind ≠ .mpos) (message : kind ≠ .sd) {tail : List Char}
    (ending : IsTail tail) (eq : parseStatus g (r.body ++ tail) = some g') :
    Untold kind g g' := by
  obtain ⟨init, last, tokens, split⟩ := strtok_body r ending
  have each : ∀ token ∈ r.tokens, (fieldKind token).map (·.1) ≠ some kind := by
    intro token member
    obtain rfl | member := List.mem_cons.mp member
    · rw [fieldKind_label, Option.map_some, Report.positionKind]
      split
      · exact fun same => position.1 (Option.some.inj same).symm
      · exact fun same => position.2 (Option.some.inj same).symm
    · obtain ⟨field, among, rfl⟩ := List.mem_map.mp member
      obtain same | ⟨-, sd⟩ := fieldKind_text (r.ok field among)
      · rw [same]
        exact absent field among
      · rw [sd]
        exact fun same => message (Option.some.inj same).symm
  apply parseStatus_untold _ eq
  rw [split]
  intro field member
  obtain among | final := List.mem_append.mp member
  · exact each field (by rw [tokens]; exact List.mem_append_left _ among)
  · rw [List.mem_singleton.mp final, fieldKind_tail ending]
    exact each last (by simp [tokens])

end Cnc.Comm
