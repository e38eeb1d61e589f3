import CncMachine.Comm.Scans
import CncMachine.Comm.Status

/-!
# Decoding a status report

The parser reads every field of a report alike with and without the characters that the first two
scans still have behind the last one (`parseField_text`), and a field leaves alone what fields of
other kinds have set (`Keeps`). After the third scan, which sees the clean text, `grbl_data` holds
the report (`callback_report`).
-/

namespace Cnc.Comm

open Text

/-- What the scans of a report find behind its last field. -/
def IsTail (tail : List Char) : Prop := tail = [] ∨ tail = ['>'] ∨ tail = ['>', '\r']

theorem IsTail.breaks {tail : List Char} (ending : IsTail tail) : Breaks tail := by
  obtain rfl | rfl | rfl := ending
  · exact breaks_nil
  all_goals exact breaks_cons.mpr (by decide)

@[simp] theorem parseDecimal_fst (value : ℚ) (data : List Char) :
    (parseDecimal value data).1 = atof data := by
  simp only [parseDecimal]
  split
  · rfl
  · next same => exact (not_not.mp same).symm

@[simp] theorem parseUint_fst (value : BitVec 32) (data : List Char) :
    (parseUint value data).1 = BitVec.ofInt 32 (atoi data) := by
  simp only [parseUint]
  split
  · rfl
  · next same => exact (not_not.mp same).symm

section

variable (g : Data) {tail : List Char}

theorem comma_not_mem (d : Decimal) : ',' ∉ d.text :=
  d.not_mem_text (by decide) (by decide) (by decide)

theorem Triple.text_append (t : Triple) (tail : List Char) :
    t.text ++ tail = t.x.text ++ ',' :: (t.y.text ++ ',' :: (t.z.text ++ tail)) := by
  simp [Triple.text]

theorem parsePositions_text (t : Triple) (breaks : Breaks tail) :
    ∃ changed, parsePositions g (t.text ++ tail) =
      some { g with position := t.coords, changed := changed } := by
  simp only [parsePositions, t.text_append, cutAt_append (comma_not_mem _), Option.bind_eq_bind,
    Option.bind_some, Option.pure_def, parseDecimal_fst, Decimal.atof_text,
    Decimal.atof_text_append _ breaks]
  exact ⟨_, rfl⟩

theorem parseOffsets_text (machine : g.useWPos = false) (t : Triple) (breaks : Breaks tail) :
    ∃ changed, parseOffsets g (t.text ++ tail) =
      some { g with offset := t.coords, changed := changed } := by
  simp only [parseOffsets, machine, t.text_append, cutAt_append (comma_not_mem _),
    Option.bind_eq_bind, Option.bind_some, Option.pure_def, parseDecimal_fst, Decimal.atof_text,
    Decimal.atof_text_append _ breaks]
  exact ⟨_, rfl⟩

theorem parseOffsets_working (working : g.useWPos = true) (data : List Char) :
    ∃ changed, parseOffsets g data = some { g with offset := {}, changed := changed } := by
  simp only [parseOffsets, working]
  exact ⟨_, rfl⟩

theorem parseOverrides_text (feed rapid rpm : Nat) (breaks : Breaks tail) :
    ∃ changed, parseOverrides g ((ReportField.ov feed rapid rpm).data ++ tail) =
      some { g with
        feedOverride := BitVec.ofInt 32 (atoi (Nat.toDigits 10 feed))
        rapidOverride := BitVec.ofInt 32 (atoi (Nat.toDigits 10 rapid))
        rpmOverride := BitVec.ofInt 32 (atoi (Nat.toDigits 10 rpm))
        changed := changed } := by
  have comma (n : Nat) : ',' ∉ Nat.toDigits 10 n := not_mem_toDigits n (by decide)
  simp only [parseOverrides, ReportField.data, List.append_assoc, List.cons_append,
    cutAt_append (comma _), Option.bind_eq_bind, Option.bind_some, Option.pure_def, parseUint_fst,
    atoi_toDigits_append _ breaks]
  exact ⟨_, rfl⟩

theorem parseFeedSpeed_text (feed rpm : Decimal) (actual : Option Decimal)
    (ending : IsTail tail) :
    ∃ rpmActual changed, parseFeedSpeed g ((ReportField.fs feed rpm actual).data ++ tail) =
      some { g with
        feedRate := feed.value
        rpmProgrammed := rpm.value
        rpmActual := rpmActual
        changed := changed } := by
  have breaks := ending.breaks
  cases actual with
  | none =>
      have apart : ',' ∉ rpm.text ++ tail := by
        rw [List.mem_append, not_or]
        refine ⟨comma_not_mem rpm, ?_⟩
        obtain rfl | rfl | rfl := ending <;> decide
      simp only [parseFeedSpeed, ReportField.data, List.append_assoc, List.cons_append,
        List.nil_append, cutAt_append (comma_not_mem _), cutAt_of_not_mem apart,
        Option.bind_eq_bind, Option.bind_some, Option.pure_def, parseDecimal_fst,
        Decimal.atof_text, Decimal.atof_text_append _ breaks]
      exact ⟨_, _, rfl⟩
  | some actual =>
      simp only [parseFeedSpeed, ReportField.data, List.append_assoc, List.cons_append,
        cutAt_append (comma_not_mem _), Option.bind_eq_bind, Option.bind_some, Option.pure_def,
        parseDecimal_fst, Decimal.atof_text]
      exact ⟨_, _, rfl⟩

end

theorem parseAccessory_mist (letters : List Char) (g : GrblData) :
    ((letters.foldl parseAccessory g).mist = true ↔ g.mist = true ∨ 'M' ∈ letters) ∧
      ((letters.foldl parseAccessory g).flood = true ↔ g.flood = true ∨ 'F' ∈ letters) := by
  induction letters generalizing g with
  | nil => simp
  | cons c letters ih =>
      obtain ⟨mist, flood⟩ := ih (parseAccessory g c)
      rw [List.foldl_cons, mist, flood, List.mem_cons, List.mem_cons]
      simp only [parseAccessory]
      split <;> grind

theorem parseAccessory_spindle (letters : List Char) (g : GrblData)
    (one : ¬ ('S' ∈ letters ∧ 'C' ∈ letters))
    (off : g.spindleCcw = true → 'S' ∉ letters) :
    ((letters.foldl parseAccessory g).spindleOn = true ↔
        g.spindleOn = true ∨ 'S' ∈ letters ∨ 'C' ∈ letters) ∧
      ((letters.foldl parseAccessory g).spindleCcw = true ↔
        g.spindleCcw = true ∨ 'C' ∈ letters) := by
  induction letters generalizing g with
  | nil => simp
  | cons c letters ih =>
      simp only [List.mem_cons] at one off
      have next := ih (parseAccessory g c) (fun both => one ⟨.inr both.1, .inr both.2⟩) (by
        simp only [parseAccessory]
        split <;> simp_all)
      rw [List.foldl_cons, next.1, next.2]
      simp only [parseAccessory, List.mem_cons]
      split <;> grind

theorem parseAccessories_held (letters : List Char) (g : GrblData)
    (one : ¬ ('S' ∈ letters ∧ 'C' ∈ letters)) :
    ((parseAccessories g letters).spindleOn = true ↔ 'S' ∈ letters ∨ 'C' ∈ letters) ∧
      ((parseAccessories g letters).spindleCcw = true ↔ 'C' ∈ letters) ∧
      ((parseAccessories g letters).flood = true ↔ 'F' ∈ letters) ∧
      ((parseAccessories g letters).mist = true ↔ 'M' ∈ letters) := by
  have coolant := parseAccessory_mist letters
    { g with spindleOn := false, spindleCcw := false, flood := false, mist := false }
  have spindle := parseAccessory_spindle letters
    { g with spindleOn := false, spindleCcw := false, flood := false, mist := false } one nofun
  simp only [Bool.false_eq_true, false_or] at coolant spindle
  exact ⟨spindle.1, spindle.2, coolant.2, coolant.1⟩

variable {field : ReportField} {tail : List Char}

theorem fieldKind_append (kind : FieldKind) (data tail : List Char) :
    fieldKind (kind.label ++ data ++ tail) = some (kind, data ++ tail) := by
  rw [List.append_assoc, fieldKind_label]

/-- The closing bracket belongs to no label. -/
theorem startsWith_gt (text rest : List Char) (kind : FieldKind) :
    startsWith (text ++ '>' :: rest) kind.label = startsWith text kind.label := by
  apply startsWith_append_head
  intro c head
  rw [← Option.some.inj head]
  cases kind <;> decide

theorem label_tail {text : List Char} (ending : IsTail tail) (kind : FieldKind) :
    startsWith (text ++ tail) kind.label = startsWith text kind.label := by
  obtain rfl | rfl | rfl := ending
  · rw [List.append_nil]
  · exact startsWith_gt text [] kind
  · exact startsWith_gt text ['\r'] kind

theorem fieldKind_other {text : List Char} (ending : IsTail tail)
    (other : ∀ kind data, fieldKind text = some (kind, data) → kind = .sd) (g : Data) :
    ∃ g', parseField g (text ++ tail) = some g' := by
  cases kind : fieldKind (text ++ tail) with
  | none => exact ⟨g, by simp only [parseField, kind]⟩
  | some found =>
      obtain ⟨k, data⟩ := found
      have starts := startsWith_of_fieldKind kind
      rw [label_tail ending] at starts
      obtain ⟨rest, rfl⟩ := startsWith_iff.mp starts
      have sd := other k rest (fieldKind_label k rest)
      subst sd
      exact ⟨parseMessage g data, by simp only [parseField, kind]⟩

/-- The mode is read behind the label. -/
theorem parseMpg_flag (g : Data) (on : Bool) (tail : List Char) :
    (parseMpg g (FieldKind.mpg.label ++ ReportField.flag on ++ tail)).mpgMode = on := by
  have read : (FieldKind.mpg.label ++ ReportField.flag on ++ tail)[4]? =
      some (if on then '1' else '0') := rfl
  simp only [parseMpg, Cnc.parseMpg, read]
  cases on <;> cases mode : g.mpgMode <;> simp [mode]

/-- A field is read without fault, and its numbers and letters without what stands behind it. -/
theorem parseField_text (ok : field.Ok) (ending : IsTail tail) (g : Data) :
    ∃ g', parseField g (field.text ++ tail) = some g' ∧
      (tail = [] → field.Held g.useWPos g') := by
  have breaks := ending.breaks
  cases field with
  | fs feed rpm actual =>
      have read : parseField g ((ReportField.fs feed rpm actual).text ++ tail) =
          parseFeedSpeed g ((ReportField.fs feed rpm actual).data ++ tail) := by
        simp only [parseField, ReportField.text, ReportField.kind, fieldKind_append]
      obtain ⟨_, _, eq⟩ := parseFeedSpeed_text g feed rpm actual ending
      exact ⟨_, read.trans eq, fun _ => ⟨rfl, rfl⟩⟩
  | pn letters =>
      refine ⟨parsePins g (letters ++ tail), ?_, ?_⟩
      · simp only [parseField, ReportField.text, ReportField.kind, fieldKind_append,
          ReportField.data]
      · rintro rfl
        simp only [ReportField.Held, parsePins, List.append_nil]
        split
        · rfl
        · next same => simpa using same
  | wco offset =>
      have read : parseField g ((ReportField.wco offset).text ++ tail) =
          parseOffsets g (offset.text ++ tail) := by
        simp only [parseField, ReportField.text, ReportField.kind, fieldKind_append,
          ReportField.data]
      cases working : g.useWPos with
      | true =>
          obtain ⟨_, eq⟩ := parseOffsets_working g working (offset.text ++ tail)
          exact ⟨_, read.trans eq, fun _ off => absurd off (by simp)⟩
      | false =>
          obtain ⟨_, eq⟩ := parseOffsets_text g working offset breaks
          exact ⟨_, read.trans eq, fun _ _ => rfl⟩
  | ov feed rapid rpm =>
      have read : parseField g ((ReportField.ov feed rapid rpm).text ++ tail) =
          parseOverrides g ((ReportField.ov feed rapid rpm).data ++ tail) := by
        simp only [parseField, ReportField.text, ReportField.kind, fieldKind_append]
      obtain ⟨_, eq⟩ := parseOverrides_text g feed rapid rpm breaks
      refine ⟨_, read.trans eq, fun _ => ?_⟩
      obtain ⟨feedFits, rapidFits, rpmFits⟩ := ok
      simp only [ReportField.Held, BitVec.toNat_ofInt, atoi_toDigits feedFits,
        atoi_toDigits rapidFits, atoi_toDigits rpmFits]
      omega
  | a letters =>
      have read : parseField g ((ReportField.a letters).text ++ tail) =
          some { g with
            toGrblData := parseAccessories g.toGrblData (letters ++ tail)
            changed := { g.changed with leds := true } } := by
        simp only [parseField, ReportField.text, ReportField.kind, fieldKind_append,
          ReportField.data]
      refine ⟨_, read, ?_⟩
      rintro rfl
      rw [List.append_nil]
      exact parseAccessories_held letters g.toGrblData ok.2
  | mpg on =>
      refine ⟨parseMpg g (FieldKind.mpg.label ++ ReportField.flag on ++ tail), ?_, ?_⟩
      · simp only [parseField, ReportField.text, ReportField.kind, fieldKind_append,
          ReportField.data]
      · rintro -
        exact parseMpg_flag g on tail
  | d on =>
      have read : parseField g ((ReportField.d on).text ++ tail) =
          some { g with
            xModeDiameter := (ReportField.flag on ++ tail).head? = some '1'
            changed := { g.changed with xmode := true } } := by
        simp only [parseField, ReportField.text, ReportField.kind, fieldKind_append,
          ReportField.data]
      exact ⟨_, read, fun _ => trivial⟩
  | tlr on =>
      refine ⟨parseToolReference g (ReportField.flag on ++ tail), ?_, fun _ => trivial⟩
      simp only [parseField, ReportField.text, ReportField.kind, fieldKind_append,
        ReportField.data]
  | other text =>
      obtain ⟨g', eq⟩ := fieldKind_other ending ok.2.2 g
      exact ⟨g', eq, fun _ => trivial⟩

theorem foldlM_isSome {σ α : Type} {f : σ → α → Option σ} {xs : List α}
    (each : ∀ x ∈ xs, ∀ s, ∃ s', f s x = some s') (s : σ) : ∃ s', xs.foldlM f s = some s' := by
  induction xs generalizing s with
  | nil => exact ⟨s, rfl⟩
  | cons x xs ih =>
      obtain ⟨next, first⟩ := each x (.head xs) s
      obtain ⟨s', rest⟩ := ih (fun y member => each y (.tail x member)) next
      exact ⟨s', by rw [List.foldlM_cons, first]; exact rest⟩

theorem Keeps.of_other {kind : Option FieldKind} {g g' : Data} (keeps : Keeps kind g g')
    (other : kind = none ∨ kind = some .sd) : Keeps none g g' := by
  obtain rfl | rfl := other
  · exact keeps
  · exact {
      state := keeps.state
      core := fun _ _ => keeps.core nofun nofun
      position := fun _ _ => keeps.position nofun nofun
      wpos := nofun
      mpos := nofun
      fs := fun _ => keeps.fs nofun
      wco := fun _ => keeps.wco nofun
      ov := fun _ => keeps.ov nofun
      pn := fun _ => keeps.pn nofun
      a := fun _ => keeps.a nofun
      mpg := fun _ => keeps.mpg nofun }

theorem fieldKind_text {field : ReportField} (ok : field.Ok) :
    (fieldKind field.text).map (·.1) = field.kind ∨
      field.kind = none ∧ (fieldKind field.text).map (·.1) = some .sd := by
  cases field with
  | other text =>
      cases kind : fieldKind text with
      | none =>
          left
          simp only [ReportField.text, ReportField.kind, ReportField.data, kind]
          rfl
      | some found =>
          have sd := ok.2.2 found.1 found.2 kind
          refine .inr ⟨rfl, ?_⟩
          simp only [ReportField.text, ReportField.kind, ReportField.data, kind, Option.map_some,
            sd]
  | _ => exact .inl (by simp only [ReportField.text, ReportField.kind, fieldKind_label]; rfl)

theorem parseField_text_keeps {field : ReportField} {g g' : Data} (ok : field.Ok)
    (eq : parseField g field.text = some g') : Keeps field.kind g g' := by
  have keeps := parseField_keeps g eq
  obtain same | ⟨none, sd⟩ := fieldKind_text ok
  · rwa [same] at keeps
  · rw [none]
    exact keeps.of_other (.inr sd)

theorem Keeps.held {kind : Option FieldKind} {g g' : Data} {working : Bool} {field : ReportField}
    (keeps : Keeps kind g g') (other : field.kind = none ∨ field.kind ≠ kind)
    (held : field.Held working g) : field.Held working g' := by
  have apart (known : field.kind ≠ none) : kind ≠ field.kind := (other.resolve_left known).symm
  cases field with
  | fs =>
      obtain ⟨feed, rpm⟩ := keeps.fs (apart nofun)
      exact ⟨feed.trans held.1, rpm.trans held.2⟩
  | pn => exact (keeps.pn (apart nofun)).1.trans held
  | wco => exact fun machine => (keeps.wco (apart nofun)).trans (held machine)
  | ov =>
      obtain ⟨feed, rapid, rpm⟩ := keeps.ov (apart nofun)
      simpa only [ReportField.Held, feed, rapid, rpm] using held
  | a =>
      obtain ⟨on, ccw, flood, mist⟩ := keeps.a (apart nofun)
      simpa only [ReportField.Held, on, ccw, flood, mist] using held
  | mpg => exact (keeps.mpg (apart nofun)).trans held
  | _ => trivial

theorem ReportField.kind_ne_position (field : ReportField) :
    field.kind ≠ some .wpos ∧ field.kind ≠ some .mpos := by
  cases field <;> exact ⟨nofun, nofun⟩

/-- What all fields of a report leave alone, and what they bring about. -/
theorem parseFields_text {fields : List ReportField} (ok : ∀ field ∈ fields, field.Ok)
    (once : (fields.filterMap ReportField.kind).Nodup) {working : Bool} {g : Data}
    (mode : g.useWPos = working) :
    ∃ g', (fields.map ReportField.text).foldlM parseField g = some g' ∧
      (g'.state = g.state ∧ g'.substate = g.substate ∧ g'.position = g.position) ∧
      (∀ field ∈ fields, field.Held working g') ∧
      ∀ other : ReportField, (∀ field ∈ fields, other.kind = none ∨ other.kind ≠ field.kind) →
        other.Held working g → other.Held working g' := by
  induction fields generalizing g with
  | nil => exact ⟨g, rfl, ⟨rfl, rfl, rfl⟩, nofun, fun _ _ held => held⟩
  | cons field fields ih =>
      have first := ok field (.head fields)
      have clean : IsTail [] := .inl rfl
      obtain ⟨next, eq, held⟩ := parseField_text first clean g
      rw [List.append_nil] at eq
      have keeps := parseField_text_keeps first eq
      obtain ⟨position, useWPos⟩ :=
        keeps.position field.kind_ne_position.1 field.kind_ne_position.2
      have apart : ∀ field' ∈ fields, field.kind = none ∨ field.kind ≠ field'.kind := by
        intro field' member
        cases kind : field.kind with
        | none => exact .inl rfl
        | some k =>
            rw [List.filterMap_cons_some kind, List.nodup_cons] at once
            refine .inr fun same => once.1 ?_
            exact List.mem_filterMap.mpr ⟨field', member, same.symm⟩
      have once' : (fields.filterMap ReportField.kind).Nodup := by
        cases kind : field.kind with
        | none => rwa [List.filterMap_cons_none kind] at once
        | some k =>
            rw [List.filterMap_cons_some kind, List.nodup_cons] at once
            exact once.2
      obtain ⟨g', rest, ⟨state, substate, position'⟩, all, others⟩ :=
        ih (fun f member => ok f (.tail field member)) once' (useWPos.trans mode)
      refine ⟨g', ?_, ⟨state.trans keeps.state.1, substate.trans keeps.state.2,
        position'.trans position⟩, ?_, ?_⟩
      · rw [List.map_cons, List.foldlM_cons, eq]
        exact rest
      · intro f member
        obtain rfl | among := List.mem_cons.mp member
        · exact others f apart (mode ▸ held rfl)
        · exact all f among
      · intro other different held
        refine others other (fun f member => different f (.tail field member)) ?_
        exact keeps.held (different field (.head fields)) held

/-- `state_text` is the name of the state, or still empty. -/
def Named (g : GrblData) : Prop :=
  g.stateText = stateName g.state ∨ g.stateText = [] ∧ g.state = .unknown

theorem stateName_ne_nil (state : GrblState) : stateName state ≠ [] := by
  cases state <;> decide

/-- No name starts another one. -/
theorem eq_of_stateName_starts {a b : GrblState} (starts : stateName a <+: stateName b) :
    a = b := by
  cases a <;> cases b <;> first | rfl | exact absurd starts (by decide)

theorem find_stateName (state : GrblState) :
    grblStateNames.find? (·.2 == stateName state) = some (state, stateName state) := by
  cases state <;> rfl

theorem mem_grblStateNames {state : GrblState} {text : List Char}
    (member : (state, text) ∈ grblStateNames) : text = stateName state := by
  have named : grblStateNames.all (fun (state, text) => text == stateName state) = true := by
    decide
  exact eq_of_beq (List.all_eq_true.mp named _ member)

theorem colon_not_mem_stateName (state : GrblState) : ':' ∉ stateName state := by
  cases state <;> decide

theorem length_stateName (state : GrblState) : (stateName state).length < 8 := by
  cases state <;> decide

/-- What stands before the colon and what number behind it. -/
theorem stateToken_parts (r : Report) :
    r.stateToken.takeWhile (· ≠ ':') = stateName r.state ∧
      BitVec.ofInt 8 (if ':' ∈ r.stateToken then
        atoi ((r.stateToken.dropWhile (· ≠ ':')).drop 1) else 0) = r.substate.getD 0 := by
  have keep : ∀ c ∈ stateName r.state, decide (c ≠ ':') = true := by
    intro c member
    exact decide_eq_true (ne_of_mem_of_not_mem member (colon_not_mem_stateName r.state))
  cases substate : r.substate with
  | none =>
      simp only [Report.stateToken, substate, List.append_nil]
      rw [List.takeWhile_eq_self_iff.mpr keep, if_neg (colon_not_mem_stateName r.state)]
      exact ⟨rfl, rfl⟩
  | some n =>
      simp only [Report.stateToken, substate]
      rw [List.takeWhile_append_of_pos keep, List.dropWhile_append_of_pos keep, if_pos (by simp),
        List.takeWhile_cons, List.dropWhile_cons]
      simp only [ne_eq, not_true_eq_false, decide_false, Bool.false_eq_true, if_false,
        List.append_nil, List.drop_one, List.tail_cons, Option.getD_some]
      refine ⟨trivial, ?_⟩
      have byte := n.isLt
      rw [atoi_toDigits (by omega)]
      apply BitVec.eq_of_toNat_eq
      rw [BitVec.toNat_ofInt]
      omega

theorem grblParseState_report (r : Report) {g : GrblData} (named : Named g) :
    (Cnc.grblParseState r.stateToken g).state = r.state ∧
      (Cnc.grblParseState r.stateToken g).substate = r.substate.getD 0 := by
  obtain ⟨name, substate⟩ := stateToken_parts r
  simp only [Cnc.grblParseState, name, substate, find_stateName]
  split
  · exact ⟨rfl, rfl⟩
  · next same =>
      refine ⟨?_, rfl⟩
      rw [not_and_not_right] at same
      have starts := startsWith_iff.mp (same (length_stateName r.state))
      obtain text | ⟨text, unknown⟩ := named
      · rw [text] at starts
        exact (eq_of_stateName_starts starts).symm
      · rw [text, List.prefix_nil] at starts
        exact absurd starts (stateName_ne_nil r.state)

/-- Every token keeps the name beside the state. -/
theorem keptByTokens_named : KeptByTokens Named where
  state data g named := by
    simp only [Cnc.grblParseState]
    split
    · split
      · next state text found =>
          exact .inl (mem_grblStateNames (List.mem_of_find?_eq_some found))
      · exact named
    · exact named
  field field g named := by
    simp only [Cnc.parseField]
    split
    · obtain ⟨_, _, _, _, same⟩ := parseAccessories_frame (field.drop 2) g
      rw [same]
      exact named
    · split
      · simp only [Cnc.parseMpg]
        repeat' split
        all_goals exact named
      · exact named
  word word g named := by
    simp only [Cnc.parseModalWord]
    repeat' split
    all_goals exact named

theorem named_parseStatus {text : List Char} {g g' : Data} (eq : parseStatus g text = some g')
    (named : Named g.toGrblData) : Named g'.toGrblData := by
  rw [parseStatus_core g eq]
  exact keptByTokens_named.parseLine _ named

/-- A bar or a NUL, which stand in no token. -/
def IsSeparator (c : Char) : Prop := c = '|' ∨ c = '\x00'

variable {c : Char}

theorem IsSeparator.apart (separates : IsSeparator c) :
    c.isDigit = false ∧ c.isAlpha = false ∧ c ∉ ['.', '-', ',', ':', '0', '1'] := by
  obtain rfl | rfl := separates <;> decide

theorem IsSeparator.not_mem_decimal (separates : IsSeparator c) (d : Decimal) : c ∉ d.text := by
  obtain ⟨digit, -, rest⟩ := separates.apart
  simp only [List.mem_cons, not_or] at rest
  exact d.not_mem_text digit rest.1 rest.2.1

theorem IsSeparator.not_mem_triple (separates : IsSeparator c) (t : Triple) : c ∉ t.text := by
  have comma : c ≠ ',' := by obtain rfl | rfl := separates <;> decide
  simp [Triple.text, separates.not_mem_decimal, comma]

theorem IsSeparator.not_mem_label (separates : IsSeparator c) (kind : FieldKind) :
    c ∉ kind.label := by
  obtain rfl | rfl := separates <;> cases kind <;> decide

theorem IsSeparator.not_mem_letters (separates : IsSeparator c) {letters : List Char}
    (alpha : ∀ c ∈ letters, c.isAlpha = true) : c ∉ letters := by
  intro member
  have letter := alpha c member
  rw [separates.apart.2.1] at letter
  cases letter

theorem IsSeparator.not_mem_data (separates : IsSeparator c) {field : ReportField}
    (ok : field.Ok) : c ∉ field.data := by
  have comma : c ≠ ',' := by obtain rfl | rfl := separates <;> decide
  have flag (on : Bool) : c ∉ ReportField.flag on := by
    obtain rfl | rfl := separates <;> cases on <;> decide
  have digits (n : Nat) : c ∉ Nat.toDigits 10 n := not_mem_toDigits n separates.apart.1
  cases field with
  | fs feed rpm actual =>
      cases actual <;> simp [ReportField.data, separates.not_mem_decimal, comma]
  | pn letters => exact separates.not_mem_letters ok.1
  | wco offset => exact separates.not_mem_triple offset
  | ov feed rapid rpm => simp [ReportField.data, digits, comma]
  | a letters => exact separates.not_mem_letters ok.1
  | mpg on => exact flag on
  | d on => exact flag on
  | tlr on => exact flag on
  | other text =>
      obtain rfl | rfl := separates
      · exact ok.1.2
      · exact ok.2.1

theorem IsSeparator.not_mem_text (separates : IsSeparator c) {field : ReportField}
    (ok : field.Ok) : c ∉ field.text := by
  have data := separates.not_mem_data ok
  cases kind : field.kind with
  | none => simpa only [ReportField.text, kind] using data
  | some k =>
      simp only [ReportField.text, kind, List.mem_append, not_or]
      exact ⟨separates.not_mem_label k, data⟩

theorem text_ne_nil {field : ReportField} (ok : field.Ok) : field.text ≠ [] := by
  cases field with
  | other text => exact ok.1.1
  | _ =>
      refine List.append_ne_nil_of_left_ne_nil ?_ _
      decide

theorem IsSeparator.not_mem_stateToken (separates : IsSeparator c) (r : Report) :
    c ∉ r.stateToken := by
  have name : c ∉ stateName r.state := by
    obtain rfl | rfl := separates <;> cases r.state <;> decide
  have colon : c ≠ ':' := by obtain rfl | rfl := separates <;> decide
  have digits (n : Nat) : c ∉ Nat.toDigits 10 n := not_mem_toDigits n separates.apart.1
  cases substate : r.substate <;> simp [Report.stateToken, substate, name, colon, digits]

/-- Every token is one for `strtok` and has no NUL. -/
theorem tokens_clean (r : Report) : ∀ token ∈ r.stateToken :: r.tokens,
    IsField '|' token ∧ '\x00' ∉ token := by
  intro token member
  have clean (apart : ∀ c, IsSeparator c → c ∉ token) (nonempty : token ≠ []) :
      IsField '|' token ∧ '\x00' ∉ token :=
    ⟨⟨nonempty, apart _ (.inl rfl)⟩, apart _ (.inr rfl)⟩
  obtain rfl | member := List.mem_cons.mp member
  · refine clean (fun c separates => separates.not_mem_stateToken r) ?_
    simp [Report.stateToken, stateName_ne_nil]
  · obtain rfl | member := List.mem_cons.mp member
    · refine clean (fun c separates => ?_) ?_
      · rw [List.mem_append, not_or]
        exact ⟨separates.not_mem_label _, separates.not_mem_triple _⟩
      · simp [Triple.text]
    · obtain ⟨field, among, rfl⟩ := List.mem_map.mp member
      exact clean (fun c separates => separates.not_mem_text (r.ok field among))
        (text_ne_nil (r.ok field among))

theorem nul_not_mem_body (r : Report) : '\x00' ∉ r.body := by
  intro member
  obtain bar | ⟨token, among, inside⟩ := mem_joined member
  · exact absurd bar (by decide)
  · exact (tokens_clean r token among).2 inside

/-- The tokens of a report with a tail: the tail is behind the last one. -/
theorem strtok_body (r : Report) {tail : List Char} (ending : IsTail tail) :
    ∃ init last, r.tokens = init ++ [last] ∧
      strtok '|' (r.body ++ tail) = r.stateToken :: (init ++ [last ++ tail]) := by
  obtain ⟨init, last, eq⟩ : ∃ init last, r.tokens = init ++ [last] :=
    ⟨_, _, (List.dropLast_append_getLast (by simp [Report.tokens])).symm⟩
  refine ⟨init, last, eq, ?_⟩
  have apart : '|' ∉ tail := by obtain rfl | rfl | rfl := ending <;> decide
  have ok : ∀ field ∈ (r.stateToken :: init) ++ [last], IsField '|' field := by
    intro field member
    rw [List.cons_append, ← eq] at member
    exact (tokens_clean r field member).1
  rw [Report.body, eq, ← List.cons_append, strtok_joined_append ok apart, List.cons_append]

variable (r : Report)

/-- The position is read without fault and decides which position is meant. -/
theorem parseField_position (g : Data) {tail : List Char} (breaks : Breaks tail) :
    ∃ g', parseField g (r.positionKind.label ++ r.position.text ++ tail) = some g' ∧
      g'.state = g.state ∧ g'.substate = g.substate ∧ g'.position = r.position.coords ∧
      g'.useWPos = r.working := by
  obtain ⟨_, eq⟩ := parsePositions_text (setWPos g r.working) r.position breaks
  obtain ⟨_, same⟩ := setWPos_frame g r.working
  refine ⟨_, Eq.trans ?_ eq, ?_⟩
  · cases working : r.working <;>
      simp only [parseField, Report.positionKind, working, Bool.false_eq_true, if_true, if_false,
        fieldKind_append]
  · rw [same]
    exact ⟨rfl, rfl, rfl, rfl⟩

theorem parseField_token {token tail : List Char} (member : token ∈ r.tokens)
    (ending : IsTail tail) (g : Data) : ∃ g', parseField g (token ++ tail) = some g' := by
  obtain rfl | member := List.mem_cons.mp member
  · obtain ⟨g', eq, -⟩ := parseField_position r g ending.breaks
    exact ⟨g', eq⟩
  · obtain ⟨field, among, rfl⟩ := List.mem_map.mp member
    obtain ⟨g', eq, -⟩ := parseField_text (r.ok field among) ending g
    exact ⟨g', eq⟩

/-- No scan of a report leaves its bounds. -/
theorem parseStatus_tail {tail : List Char} (ending : IsTail tail) (g : Data) :
    ∃ g', parseStatus g (r.body ++ tail) = some g' := by
  obtain ⟨init, last, tokens, eq⟩ := strtok_body r ending
  have each : ∀ field ∈ init ++ [last ++ tail], ∀ g, ∃ g', parseField g field = some g' := by
    intro field member g
    obtain among | final := List.mem_append.mp member
    · rw [← List.append_nil field]
      exact parseField_token r (by rw [tokens]; exact List.mem_append_left _ among) (.inl rfl) g
    · rw [List.mem_singleton.mp final]
      exact parseField_token r (by simp [tokens]) ending g
  obtain ⟨g', scanned⟩ := foldlM_isSome each (parseState g r.stateToken)
  refine ⟨if (init ++ [last ++ tail]).any isPins then g' else clearPins g', ?_⟩
  rw [parseStatus_of_tokens eq, scanned, Option.map_some]

theorem isPins_text {field : ReportField} (ok : field.Ok) :
    isPins field.text = true ↔ field.kind = some .pn := by
  rw [isPins, decide_eq_true_iff]
  obtain same | ⟨none, sd⟩ := fieldKind_text ok
  · rw [same]
  · rw [sd, none]
    simp

/-- Whether a report has pins, and which. -/
theorem pins_cases :
    (r.tokens.any isPins = false ∧ r.pins = []) ∨
      (r.tokens.any isPins = true ∧ ReportField.pn r.pins ∈ r.fields) := by
  have position : isPins (r.positionKind.label ++ r.position.text) = false := by
    rw [isPins, fieldKind_label, Report.positionKind]
    cases r.working <;> rfl
  have among : r.tokens.any isPins = true ↔
      ∃ field ∈ r.fields, field.kind = some .pn := by
    simp only [Report.tokens, List.any_cons, position, Bool.false_or, List.any_map,
      List.any_eq_true]
    exact exists_congr fun field => and_congr_right fun member => isPins_text (r.ok field member)
  cases letters : r.fields.filterMap ReportField.pinLetters with
  | nil =>
      refine .inl ⟨?_, by rw [Report.pins, letters]; rfl⟩
      rw [← Bool.not_eq_true, among]
      rintro ⟨field, member, kind⟩
      rw [List.filterMap_eq_nil_iff] at letters
      cases field with
      | pn text => exact absurd (letters _ member) nofun
      | _ => cases kind
  | cons first rest =>
      have head : r.pins = first := by rw [Report.pins, letters]; rfl
      have among' : first ∈ r.fields.filterMap ReportField.pinLetters := by
        rw [letters]
        exact List.mem_cons_self
      obtain ⟨field, member, eq⟩ := List.mem_filterMap.mp among'
      cases field with
      | pn text =>
          cases eq
          rw [head]
          exact .inr ⟨among.mpr ⟨_, member, rfl⟩, member⟩
      | _ => cases eq

/-- The scan of the clean text decodes the report. -/
theorem parseStatus_report {g : Data} (named : Named g.toGrblData) :
    ∃ g', parseStatus g r.body = some g' ∧ r.Decoded g' := by
  have tokens : strtok '|' r.body = r.stateToken :: r.tokens :=
    strtok_joined (by simp) fun field member => (tokens_clean r field member).1
  obtain ⟨state, substate⟩ := grblParseState_report r named
  rw [← parseState_core] at state substate
  obtain ⟨g₁, first, state₁, substate₁, position₁, mode₁⟩ :=
    parseField_position r (parseState g r.stateToken) breaks_nil
  obtain ⟨g₂, rest, ⟨state₂, substate₂, position₂⟩, held, -⟩ :=
    parseFields_text r.ok r.once mode₁
  have scanned : r.tokens.foldlM parseField (parseState g r.stateToken) = some g₂ := by
    rw [List.append_nil] at first
    rw [Report.tokens, List.foldlM_cons, first]
    exact rest
  have state' := state₂.trans (state₁.trans state)
  have substate' := substate₂.trans (substate₁.trans substate)
  have position' := position₂.trans position₁
  obtain ⟨absent, none⟩ | ⟨present, member⟩ := pins_cases r
  · refine ⟨clearPins g₂, ?_, state', substate', position', none.symm, ?_⟩
    · rw [parseStatus_of_tokens tokens, scanned, Option.map_some, absent]
      rfl
    · intro field among
      have other := held field among
      cases field with
      | pn letters =>
          have pins : r.tokens.any isPins = true := by
            rw [Report.tokens, List.any_cons, Bool.or_eq_true]
            refine .inr (List.any_eq_true.mpr ⟨_, List.mem_map_of_mem among, ?_⟩)
            exact (isPins_text (r.ok _ among)).mpr rfl
          rw [absent] at pins
          cases pins
      | _ => exact other
  · refine ⟨g₂, ?_, state', substate', position', held _ member, held⟩
    rw [parseStatus_of_tokens tokens, scanned, Option.map_some, present]
    rfl

/-- What the panel's state can be. Everything else on the panel may change anything but the machine
state, whose empty text the screen replaces by its name. -/
inductive Reachable : State → Prop
  | initial : Reachable {}
  | received {s s' : State} {chunk : List Char} (before : Reachable s)
      (parsed : callback chunk s = some s') : Reachable s'
  | changed {s : State} (before : Reachable s) (s' : State)
      (state : s'.data.state = s.data.state)
      (text : s'.data.stateText = s.data.stateText ∨
        s.data.stateText = [] ∧ s'.data.stateText = "Unknown".toList) : Reachable s'

theorem Reachable.named {s : State} (reachable : Reachable s) : Named s.data.toGrblData := by
  induction reachable with
  | initial => exact .inr ⟨rfl, rfl⟩
  | received _ parsed named =>
      rw [callback_core parsed]
      exact keptByTokens_named.grblCallback _ named
  | changed _ s' state text named =>
      rw [Named, state]
      obtain same | ⟨empty, name⟩ := text
      · rw [same]
        exact named
      · obtain full | ⟨-, unknown⟩ := named
        · rw [empty] at full
          exact absurd full.symm (stateName_ne_nil _)
        · rw [name, unknown]
          exact .inl rfl

/-- The three scans of a report: the text behind it gets shorter from scan to scan. -/
theorem report_scans (r : Report) (fits : r.text.length < maxBlockLength) (s : State) :
    ∃ g₁ g₂ g₃, parseStatus s.data.started (r.body ++ ['>', '\r']) = some g₁ ∧
      parseStatus g₁ (r.body ++ ['>']) = some g₂ ∧ parseStatus g₂ r.body = some g₃ ∧
      callback r.text s = some { s with data := g₃ } := by
  simp only [Report.text, List.length_cons, List.length_append] at fits
  have clean : '\x00' ∉ r.body ++ ['>', '\r', '\n'] := by
    rw [List.mem_append, not_or]
    exact ⟨nul_not_mem_body r, by decide⟩
  have scans := callback_long s (.inl rfl) (by simp) (by simp) clean
    (by have : ">\r\n".toList.length = 3 := rfl; omega)
  obtain ⟨g₁, first⟩ := parseStatus_tail r (.inr (.inr rfl)) s.data.started
  obtain ⟨g₂, second⟩ := parseStatus_tail r (.inr (.inl rfl)) g₁
  obtain ⟨g₃, third⟩ := parseStatus_tail r (.inl rfl) g₂
  rw [List.append_nil] at third
  refine ⟨g₁, g₂, g₃, first, second, third, ?_⟩
  rw [Report.text]
  refine scans.trans ?_
  simp only [parseLong, if_true, first, second, third, Option.bind_some, Option.map_some]

/-- A status report delivered in one callback leaves `grbl_data` with exactly what it reports. -/
theorem callback_report (r : Report) (fits : r.text.length < maxBlockLength) {s : State}
    (reachable : Reachable s) :
    ∃ s', callback r.text s = some s' ∧ r.Decoded s'.data := by
  obtain ⟨g₁, g₂, g₃, first, second, third, parsed⟩ := report_scans r fits s
  have named : Named s.data.started.toGrblData := reachable.named
  -- only the last scan counts, but it needs the name the scans before it leave
  obtain ⟨g, decoding, decoded⟩ := parseStatus_report r
    (named_parseStatus second (named_parseStatus first named))
  rw [third, Option.some.injEq] at decoding
  subst decoding
  exact ⟨_, parsed, decoded⟩

theorem callback_report_run : ∃ s',
    callback "<Run|MPos:1.5,0,-2|Pn:PX|A:SF>\r\n".toList {} = some s' ∧
      s'.data.state = .run ∧ s'.data.position = ⟨3 / 2, 0, -2⟩ ∧ s'.data.pins = "PX".toList ∧
      s'.data.spindleOn = true ∧ s'.data.flood = true := by
  let r : Report := {
    state := .run
    position := {
      x := {
        whole := ['1']
        decimals := ['5']
        isDigit := List.all_eq_true.mp rfl
        nonempty := by decide }
      y := { whole := ['0'], isDigit := List.all_eq_true.mp rfl, nonempty := by decide }
      z := {
        negative := true
        whole := ['2']
        isDigit := List.all_eq_true.mp rfl
        nonempty := by decide } }
    fields := [.pn "PX".toList, .a "SF".toList]
    ok := by
      intro field member
      obtain rfl | member := List.mem_cons.mp member
      · exact ⟨List.all_eq_true.mp rfl, by decide⟩
      · obtain rfl := List.mem_singleton.mp member
        exact ⟨List.all_eq_true.mp rfl, by decide⟩
    once := by decide }
  obtain ⟨s', eq, decoded⟩ := callback_report r (by decide) .initial
  obtain ⟨on, -, flood, -⟩ := decoded.fields (.a "SF".toList) (by simp [r])
  refine ⟨s', eq, decoded.state, ?_, decoded.pins, on.mpr (by decide), flood.mpr (by decide)⟩
  have digits : digitsVal ['1', '5'] = 15 ∧ digitsVal ['0'] = 0 ∧ digitsVal ['2'] = 2 := by
    decide
  rw [decoded.position]
  norm_num [r, Triple.coords, Decimal.value, digits]

end Cnc.Comm
