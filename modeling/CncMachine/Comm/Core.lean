import CncMachine.Comm.Parser

/-!
# The parsers and the part of `grbl_data` the panel acts on

A callback that stays inside its bounds does to the machine state, the spindle, the coolant and the
MPG flags what `grblCallback` does, which keeps nothing else.
-/

namespace Cnc.Comm

open Text

theorem cutAt_append {c : Char} {before behind : List Char} (apart : c ∉ before) :
    cutAt c (before ++ c :: behind) = some (before, behind) := by
  have keep : ∀ d ∈ before, decide (d ≠ c) = true := by
    intro d member
    exact decide_eq_true (ne_of_mem_of_not_mem member apart)
  rw [cutAt, if_pos (by simp), List.takeWhile_append_of_pos keep,
    List.dropWhile_append_of_pos keep]
  simp

theorem cutAt_of_not_mem {c : Char} {data : List Char} (apart : c ∉ data) :
    cutAt c data = none := if_neg apart

/-- No label starts another one. -/
theorem FieldKind.eq_of_label_prefix {k l : FieldKind} (starts : k.label <+: l.label) : k = l := by
  cases k <;> cases l <;> first | rfl | exact absurd starts (by decide)

theorem FieldKind.mem_chain (kind : FieldKind) : kind ∈ FieldKind.chain := by
  cases kind <;> decide

/-- The chain of comparisons finds the label a field has. -/
theorem fieldKind_label (kind : FieldKind) (data : List Char) :
    fieldKind (kind.label ++ data) = some (kind, data) := by
  have here : startsWith (kind.label ++ data) kind.label = true :=
    startsWith_iff.mpr (List.prefix_append _ _)
  let p (k : FieldKind) : Bool := startsWith (kind.label ++ data) k.label
  obtain ⟨found, eq⟩ := Option.isSome_iff_exists.mp
    (List.find?_isSome (p := p) |>.mpr ⟨kind, kind.mem_chain, here⟩)
  have starts : found.label <+: kind.label ++ data :=
    startsWith_iff.mp (List.find?_some (p := p) eq)
  have same : found = kind := by
    obtain h | h := List.prefix_or_prefix_of_prefix starts (List.prefix_append kind.label data)
    · exact FieldKind.eq_of_label_prefix h
    · exact (FieldKind.eq_of_label_prefix h).symm
  rw [fieldKind, eq, same, Option.map_some, List.drop_left]

theorem label_of_fieldKind {field data : List Char} {kind : FieldKind}
    (eq : fieldKind field = some (kind, data)) : field = kind.label ++ data := by
  simp only [fieldKind, Option.map_eq_some_iff, Prod.mk.injEq] at eq
  obtain ⟨found, eq, rfl, rfl⟩ := eq
  have starts : found.label <+: field :=
    startsWith_iff.mp (List.find?_some (p := fun k : FieldKind => startsWith field k.label) eq)
  exact (List.prefix_iff_eq_append.mp starts).symm

theorem startsWith_of_fieldKind {field data : List Char} {kind : FieldKind}
    (eq : fieldKind field = some (kind, data)) : startsWith field kind.label = true := by
  rw [label_of_fieldKind eq, startsWith_iff]
  exact List.prefix_append _ _

theorem fieldKind_eq_none_iff {field : List Char} :
    fieldKind field = none ↔ ∀ kind : FieldKind, startsWith field kind.label = false := by
  simp only [fieldKind, Option.map_eq_none_iff, List.find?_eq_none, Bool.not_eq_true]
  exact ⟨fun other kind => other kind kind.mem_chain, fun other kind _ => other kind⟩

theorem not_startsWith_of_ne {field data : List Char} {kind kind' : FieldKind}
    (eq : fieldKind field = some (kind, data)) (other : kind' ≠ kind) :
    startsWith field kind'.label = false := by
  rw [← Bool.not_eq_true]
  intro starts
  obtain ⟨rest, rfl⟩ := startsWith_iff.mp starts
  rw [fieldKind_label] at eq
  exact other (by simpa using congrArg (fun p => p.map Prod.fst) eq)

variable (g : Data)

theorem setWidth_ofInt (n : Int) : (BitVec.ofInt 32 n).setWidth 8 = BitVec.ofInt 8 n := by
  apply BitVec.eq_of_toNat_eq
  simp only [BitVec.toNat_setWidth, BitVec.toNat_ofInt]
  omega

theorem grblParseState_core (data : List Char) (g : GrblData) :
    (grblParseState data g).1 = Cnc.grblParseState data g := by
  have byte : (if ':' ∈ data then
        BitVec.ofInt 32 (atoi ((data.dropWhile (· ≠ ':')).drop 1)) else 0).setWidth 8 =
      BitVec.ofInt 8 (if ':' ∈ data then atoi ((data.dropWhile (· ≠ ':')).drop 1) else 0) := by
    split
    · exact setWidth_ofInt _
    · rfl
  simp only [grblParseState, Cnc.grblParseState, ← byte]
  generalize (if ':' ∈ data then _ else (0 : BitVec 32)) = substate
  have same (unchanged : ¬ BitVec.setWidth 32 g.substate ≠ substate) :
      substate.setWidth 8 = g.substate := by
    rw [← not_not.mp unchanged]
    apply BitVec.eq_of_toNat_eq
    simp only [BitVec.toNat_setWidth]
    omega
  by_cases fresh : (data.takeWhile (· ≠ ':')).length < 8 ∧
      ¬ startsWith g.stateText (data.takeWhile (· ≠ ':')) = true
  · simp only [if_pos fresh]
    cases grblStateNames.find? (·.2 == data.takeWhile (· ≠ ':')) with
    | some entry => rfl
    | none =>
        dsimp only
        split
        · rfl
        · next unchanged => rw [same unchanged]
  · simp only [if_neg fresh]
    split
    · rfl
    · next unchanged => rw [same unchanged]

@[simp] theorem setLeds_core : (setLeds g).toGrblData = g.toGrblData := by
  simp only [setLeds]
  split <;> rfl

theorem parseState_core (token : List Char) :
    (parseState g token).toGrblData = Cnc.grblParseState token g.toGrblData := by
  rw [← grblParseState_core]
  simp only [parseState]
  repeat' split
  all_goals first | rfl | simp [grblClearAlarm, grblClearMessage]

theorem parsePositions_frame {data : List Char} {g' : Data}
    (eq : parsePositions g data = some g') :
    ∃ position changed, g' = { g with position := position, changed := changed } := by
  simp only [parsePositions, Option.bind_eq_bind, Option.bind_eq_some_iff, Option.pure_def,
    Option.some.injEq] at eq
  obtain ⟨-, -, -, -, rfl⟩ := eq
  exact ⟨_, _, rfl⟩

theorem parseOverrides_frame {data : List Char} {g' : Data}
    (eq : parseOverrides g data = some g') :
    ∃ feed rapid rpm changed, g' =
      { g with
        feedOverride := feed, rapidOverride := rapid, rpmOverride := rpm, changed := changed } := by
  simp only [parseOverrides, Option.bind_eq_bind, Option.bind_eq_some_iff, Option.pure_def,
    Option.some.injEq] at eq
  obtain ⟨-, -, -, -, rfl⟩ := eq
  exact ⟨_, _, _, _, rfl⟩

theorem parseFeedSpeed_frame {data : List Char} {g' : Data}
    (eq : parseFeedSpeed g data = some g') :
    ∃ feed programmed actual changed, g' =
      { g with
        feedRate := feed, rpmProgrammed := programmed, rpmActual := actual,
        changed := changed } := by
  simp only [parseFeedSpeed, Option.bind_eq_bind, Option.bind_eq_some_iff, Option.pure_def,
    Option.some.injEq] at eq
  obtain ⟨-, -, rfl⟩ := eq
  exact ⟨_, _, _, _, rfl⟩

theorem parseOffsets_frame {data : List Char} {g' : Data} (eq : parseOffsets g data = some g') :
    ∃ offset changed, g' = { g with offset := offset, changed := changed } := by
  simp only [parseOffsets, Option.bind_eq_bind, Option.pure_def] at eq
  split at eq
  · rw [← Option.some.inj eq]
    exact ⟨_, _, rfl⟩
  · simp only [Option.bind_eq_some_iff, Option.some.injEq] at eq
    obtain ⟨-, -, -, -, rfl⟩ := eq
    exact ⟨_, _, rfl⟩

theorem setWPos_frame (useWPos : Bool) :
    ∃ changed, setWPos g useWPos = { g with useWPos := useWPos, changed := changed } := by
  simp only [setWPos]
  split
  · next same => exact ⟨g.changed, by rw [← same]⟩
  · exact ⟨_, rfl⟩

theorem parsePins_frame (text : List Char) : ∃ pins changed overrun, parsePins g text =
    { g with pins := pins, changed := changed, overrun := overrun } := by
  simp only [parsePins]
  split <;> exact ⟨_, _, _, rfl⟩

theorem parseMessage_frame (text : List Char) :
    ∃ message changed, parseMessage g text = { g with message := message, changed := changed } := by
  simp only [parseMessage]
  split <;> exact ⟨_, _, rfl⟩

theorem parseToolReference_frame (text : List Char) :
    ∃ tloReferenced leds changed, parseToolReference g text =
      { g with tloReferenced := tloReferenced, leds := leds, changed := changed } := by
  simp only [parseToolReference]
  split <;> exact ⟨_, _, _, rfl⟩

theorem parseMpg_frame (field : List Char) :
    ∃ mode enabling disabling changed, parseMpg g field =
      { g with
        mpgMode := mode, mpgEnableOngoing := enabling, mpgDisableOngoing := disabling,
        changed := changed } := by
  simp only [parseMpg, Cnc.parseMpg]
  repeat' split
  all_goals exact ⟨_, _, _, _, rfl⟩

/-- What a field of some kind leaves alone, which is everything that other kinds report, and the
position it puts in force. -/
structure Keeps (kind : Option FieldKind) (g g' : Data) : Prop where
  state : g'.state = g.state ∧ g'.substate = g.substate
  core : kind ≠ some .a → kind ≠ some .mpg → g'.toGrblData = g.toGrblData
  position : kind ≠ some .wpos → kind ≠ some .mpos →
    g'.position = g.position ∧ g'.useWPos = g.useWPos
  wpos : kind = some .wpos → g'.useWPos = true
  mpos : kind = some .mpos → g'.useWPos = false
  fs : kind ≠ some .fs → g'.feedRate = g.feedRate ∧ g'.rpmProgrammed = g.rpmProgrammed
  wco : kind ≠ some .wco → g'.offset = g.offset
  ov : kind ≠ some .ov → g'.feedOverride = g.feedOverride ∧
    g'.rapidOverride = g.rapidOverride ∧ g'.rpmOverride = g.rpmOverride
  pn : kind ≠ some .pn → g'.pins = g.pins ∧ g'.overrun = g.overrun
  a : kind ≠ some .a → g'.spindleOn = g.spindleOn ∧ g'.spindleCcw = g.spindleCcw ∧
    g'.flood = g.flood ∧ g'.mist = g.mist
  mpg : kind ≠ some .mpg → g'.mpgMode = g.mpgMode

theorem parseField_keeps {g' : Data} {field : List Char} (eq : parseField g field = some g') :
    Keeps ((fieldKind field).map (·.1)) g g' := by
  cases kind : fieldKind field with
  | none =>
      simp only [parseField, kind, Option.some.injEq] at eq
      subst eq
      constructor <;> simp
  | some found =>
      obtain ⟨k, data⟩ := found
      simp only [parseField, kind] at eq
      cases k with
      | wpos =>
          obtain ⟨_, _, rfl⟩ := parsePositions_frame _ eq
          obtain ⟨_, same⟩ := setWPos_frame g true
          rw [same]
          constructor <;> simp
      | mpos =>
          obtain ⟨_, _, rfl⟩ := parsePositions_frame _ eq
          obtain ⟨_, same⟩ := setWPos_frame g false
          rw [same]
          constructor <;> simp
      | fs =>
          obtain ⟨_, _, _, _, rfl⟩ := parseFeedSpeed_frame _ eq
          constructor <;> simp
      | wco =>
          obtain ⟨_, _, rfl⟩ := parseOffsets_frame _ eq
          constructor <;> simp
      | ov =>
          obtain ⟨_, _, _, _, rfl⟩ := parseOverrides_frame _ eq
          constructor <;> simp
      | pn =>
          obtain ⟨_, _, _, same⟩ := parsePins_frame g data
          rw [← Option.some.inj eq, same]
          constructor <;> simp
      | d =>
          rw [← Option.some.inj eq]
          constructor <;> simp
      | a =>
          obtain ⟨_, _, _, _, same⟩ := parseAccessories_frame data g.toGrblData
          rw [← Option.some.inj eq, same]
          constructor <;> simp
      | mpg =>
          obtain ⟨_, _, _, _, same⟩ := parseMpg_frame g field
          rw [← Option.some.inj eq, same]
          constructor <;> simp
      | sd =>
          obtain ⟨_, _, same⟩ := parseMessage_frame g data
          rw [← Option.some.inj eq, same]
          constructor <;> simp
      | tlr =>
          obtain ⟨_, _, _, same⟩ := parseToolReference_frame g data
          rw [← Option.some.inj eq, same]
          constructor <;> simp

/-- The reduced parser knows two kinds of fields only. -/
theorem core_parseField_other {field : List Char} (core : GrblData)
    (accessories : startsWith field FieldKind.a.label = false)
    (mpg : startsWith field FieldKind.mpg.label = false) : Cnc.parseField core field = core := by
  have noAccessories : startsWith field "A:".toList = false := accessories
  have noMpg : startsWith field "MPG:".toList = false := mpg
  simp only [Cnc.parseField, noAccessories, noMpg]
  rfl

theorem parseField_core {field : List Char} {g' : Data} (eq : parseField g field = some g') :
    g'.toGrblData = Cnc.parseField g.toGrblData field := by
  have keeps := parseField_keeps g eq
  cases kind : fieldKind field with
  | none =>
      rw [kind] at keeps
      rw [keeps.core nofun nofun, core_parseField_other _ (fieldKind_eq_none_iff.mp kind .a)
        (fieldKind_eq_none_iff.mp kind .mpg)]
  | some found =>
      obtain ⟨k, data⟩ := found
      rw [kind] at keeps
      simp only [parseField, kind] at eq
      by_cases a : k = .a
      · subst a
        rw [label_of_fieldKind kind, ← Option.some.inj eq]
        rfl
      by_cases mpg : k = .mpg
      · subst mpg
        rw [label_of_fieldKind kind] at eq ⊢
        rw [← Option.some.inj eq]
        rfl
      rw [core_parseField_other _ (not_startsWith_of_ne kind (Ne.symm a))
        (not_startsWith_of_ne kind (Ne.symm mpg))]
      exact keeps.core (by simpa using a) (by simpa using mpg)

theorem parseFields_core {fields : List (List Char)} {g g' : Data}
    (eq : fields.foldlM parseField g = some g') :
    g'.toGrblData = fields.foldl Cnc.parseField g.toGrblData := by
  induction fields generalizing g with
  | nil => rw [← Option.some.inj eq]; rfl
  | cons field fields ih =>
      rw [List.foldlM_cons, Option.bind_eq_bind, Option.bind_eq_some_iff] at eq
      obtain ⟨next, first, rest⟩ := eq
      rw [ih rest, parseField_core g first, List.foldl_cons]

theorem parseStatus_of_tokens {text state : List Char} {fields : List (List Char)}
    (tokens : strtok '|' text = state :: fields) (g : Data) :
    parseStatus g text = (fields.foldlM parseField (parseState g state)).map fun g =>
      if fields.any isPins then g else clearPins g := by
  simp only [parseStatus, tokens]
  cases fields.foldlM parseField (parseState g state) <;> rfl

@[simp] theorem clearPins_core : (clearPins g).toGrblData = g.toGrblData := rfl

theorem parseStatus_core {text : List Char} {g' : Data} (eq : parseStatus g text = some g') :
    g'.toGrblData = Cnc.parseLine ('<' :: text) g.toGrblData := by
  cases tokens : strtok '|' text with
  | nil =>
      simp only [parseStatus, tokens] at eq
      simp only [Cnc.parseLine, tokens]
      rw [← Option.some.inj eq, clearPins_core]
  | cons state fields =>
      rw [parseStatus_of_tokens tokens, Option.map_eq_some_iff] at eq
      obtain ⟨next, scanned, rfl⟩ := eq
      have core := parseFields_core scanned
      rw [parseState_core] at core
      rw [parseLine_status tokens, ← core]
      split <;> rfl

theorem wordSpindle_core (word : List Char) : (wordSpindle g word).toGrblData =
    if startsWith word "M5".toList then { g.toGrblData with spindleOn := false }
    else if startsWith word "M3".toList then
      { g.toGrblData with spindleOn := true, spindleCcw := false }
    else if startsWith word "M4".toList then
      { g.toGrblData with spindleOn := true, spindleCcw := true }
    else g.toGrblData := by
  simp only [wordSpindle]
  split
  · rfl
  · split
    · rfl
    · split <;> rfl

theorem wordCoolant_core (word : List Char) : (wordCoolant g word).toGrblData =
    if startsWith word "M9".toList then { g.toGrblData with mist := false, flood := false }
    else
      let core :=
        if startsWith word "M7".toList then { g.toGrblData with mist := true } else g.toGrblData
      if startsWith word "M8".toList then { core with flood := true } else core := by
  simp only [wordCoolant]
  split
  · rfl
  · split <;> split <;> rfl

theorem parseModalWord_core (word : List Char) :
    (parseModalWord g word).toGrblData = Cnc.parseModalWord g.toGrblData word := by
  have feed : (wordFeed g word).toGrblData = g.toGrblData := by
    simp only [wordFeed]
    split <;> rfl
  have speed (g : Data) : (wordSpeed g word).toGrblData = g.toGrblData := by
    simp only [wordSpeed]
    split <;> rfl
  have diameter (g : Data) : (wordDiameter g word).toGrblData = g.toGrblData := by
    simp only [wordDiameter]
    split <;> split <;> rfl
  have distance (g : Data) : (wordDistance g word).toGrblData = g.toGrblData := by
    simp only [wordDistance]
    split <;> split <;> rfl
  simp only [parseModalWord, wordCoolant_core, wordSpindle_core, distance, diameter, speed, feed,
    Cnc.parseModalWord]

theorem parseModalWords_core (words : List (List Char)) (g : Data) :
    (words.foldl parseModalWord g).toGrblData =
      words.foldl Cnc.parseModalWord g.toGrblData := by
  induction words generalizing g with
  | nil => rfl
  | cons word words ih => rw [List.foldl_cons, ih, parseModalWord_core, List.foldl_cons]

theorem parseBracket_core (text : List Char) :
    (parseBracket g text).toGrblData = Cnc.parseLine ('[' :: text) g.toGrblData := by
  simp only [parseBracket, Cnc.parseLine]
  split
  · exact parseModalWords_core _ g
  · split <;> rfl

theorem parseResponse_core (line : List Char) :
    (parseResponse g line).toGrblData = g.toGrblData := by
  simp only [parseResponse]
  repeat' split
  all_goals rfl

theorem parseLine_core {line : List Char} {g' : Data} (eq : parseLine g line = some g') :
    g'.toGrblData = Cnc.parseLine line g.toGrblData := by
  simp only [parseLine] at eq
  split at eq
  · exact parseStatus_core g eq
  · rw [← Option.some.inj eq, parseBracket_core]
  · next status bracket =>
      rw [← Option.some.inj eq, parseResponse_core, Cnc.parseLine]
      · exact fun rest eq => status rest eq
      · exact fun rest eq => bracket rest eq

@[simp] theorem acknowledge_core : (acknowledge g).toGrblData = g.toGrblData := by
  simp only [acknowledge]
  split <;> rfl

theorem parseData_core {block block' : List Char} {g' : Data}
    (eq : parseData block g = some (block', g')) :
    Cnc.parseData block g.toGrblData = (block', g'.toGrblData) := by
  simp only [parseData, Option.bind_eq_bind, Option.pure_def] at eq
  simp only [Cnc.parseData]
  split at eq
  · next ok =>
      obtain ⟨rfl, rfl⟩ := Prod.mk.inj (Option.some.inj eq)
      rw [if_pos ok, acknowledge_core]
  · next other =>
      split at eq
      · cases eq
      · obtain ⟨next, scanned, pair⟩ := Option.bind_eq_some_iff.mp eq
        obtain ⟨rfl, rfl⟩ := Prod.mk.inj (Option.some.inj pair)
        rw [if_neg other, parseLine_core g scanned]

theorem storeSetting_data (setting : BitVec 32) (value : ℚ) (s : State) :
    (storeSetting setting value s).data = s.data := by
  simp only [storeSetting]
  split <;> rfl

theorem State.parseData_eq_some {s s' : State} {block block' : List Char}
    (eq : s.parseData block = some (block', s')) :
    ∃ g, Comm.parseData block s.data = some (block', g) ∧ s' = { s with data := g } := by
  simp only [State.parseData, Option.bind_eq_bind, Option.bind_eq_some_iff] at eq
  obtain ⟨⟨_, g⟩, parsed, pair⟩ := eq
  obtain ⟨rfl, rfl⟩ := Prod.mk.inj (Option.some.inj pair)
  exact ⟨g, parsed, rfl⟩

theorem parseSettings_core {block block' : List Char} {s s' : State}
    (eq : parseSettings block s = some (block', s')) :
    Cnc.parseSettings block s.data.toGrblData = (block', s'.data.toGrblData) := by
  simp only [parseSettings] at eq
  split at eq
  · next ok =>
      obtain ⟨rfl, rfl⟩ := Prod.mk.inj (Option.some.inj eq)
      rw [Cnc.parseSettings, if_pos ok]
  · next other =>
      rw [Cnc.parseSettings, if_neg other]
      split at eq
      · next setting =>
          simp only [Option.bind_eq_bind, Option.bind_eq_some_iff] at eq
          obtain ⟨_, tokens, pair⟩ := eq
          obtain ⟨rfl, rfl⟩ := Prod.mk.inj (Option.some.inj pair)
          rw [if_pos setting, storeSetting_data, cutSetting]
      · next plain =>
          split at eq
          · cases eq
          · obtain ⟨g, parsed, rfl⟩ := State.parseData_eq_some eq
            rw [if_neg plain, parseData_core _ parsed]

theorem parseInfo_core {block : List Char} {s s' : State} (eq : parseInfo block s = some s') :
    Cnc.parseInfo block s.data.toGrblData = s'.data.toGrblData := by
  simp only [parseInfo] at eq
  rw [Cnc.parseInfo]
  split at eq
  · next ok => rw [if_pos (.inl ok), ← Option.some.inj eq]
  · next other =>
      split at eq
      · next version => rw [if_pos (.inr (.inl version)), ← Option.some.inj eq]
      · next version =>
          split at eq
          · next options => rw [if_pos (.inr (.inr options)), ← Option.some.inj eq]
          · next options =>
              have rest : ¬ (block = "ok".toList ∨ startsWith block "[VER:".toList = true ∨
                  startsWith block "[NEWOPT:".toList = true) := by
                rintro (h | h | h)
                · exact other h
                · exact version h
                · exact options h
              rw [if_neg rest]
              obtain ⟨⟨block', next⟩, parsed, rfl⟩ := Option.map_eq_some_iff.mp eq
              obtain ⟨g, scanned, rfl⟩ := State.parseData_eq_some parsed
              rw [parseData_core _ scanned]

/-- The callback refines the reduced one wherever it stays inside its bounds. -/
theorem callback_core {chunk : List Char} {s s' : State} (eq : callback chunk s = some s') :
    s'.data.toGrblData = grblCallback chunk s.data.toGrblData := by
  simp only [callback, Option.bind_eq_bind, Option.bind_eq_some_iff, Prod.exists] at eq
  obtain ⟨block₁, s₁, first, block₂, s₂, second, third⟩ := eq
  obtain ⟨g, scanned, rfl⟩ := State.parseData_eq_some first
  have first := parseData_core _ scanned
  have second := parseSettings_core second
  simp only [grblCallback] at first second ⊢
  rw [first]
  simp only [second, parseInfo_core third]

end Cnc.Comm
