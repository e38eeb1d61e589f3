import CncMachine.Comm.Modal
import CncMachine.Comm.Scans

/-!
# Chunks that keep the parser within its bounds

Which texts the parser can read without following a null result or leaving a buffer: the commas a
field needs, the letters `pins` has room for, the tokens of a setting and the terminator
(`Within`). A callback stays within its bounds exactly on these (`within_iff`).
-/

namespace Cnc.Comm

open Text Transition

/-- What decides whether a field can be read: the position in force and the text in `pins`, which is
not copied again. -/
structure Context where
  useWPos : Bool
  pins : List Char

def Data.context (g : Data) : Context := ⟨g.useWPos, g.pins⟩

/-- The parser reads the field within its bounds. -/
def FieldWithin (x : Context) (field : List Char) : Prop :=
  match fieldKind field with
  | some (.wpos, data) => 2 ≤ data.count ','
  | some (.mpos, data) => 2 ≤ data.count ','
  | some (.fs, data) => 1 ≤ data.count ','
  | some (.wco, data) => x.useWPos = true ∨ 2 ≤ data.count ','
  | some (.pn, data) => data.length ≤ 9 ∨ data = x.pins
  | some (.ov, data) => 2 ≤ data.count ','
  | _ => True

namespace Context

/-- What a field leaves for the fields behind it. -/
def afterField (x : Context) (field : List Char) : Context :=
  match fieldKind field with
  | some (.wpos, _) => { x with useWPos := true }
  | some (.mpos, _) => { x with useWPos := false }
  | some (.pn, data) => { x with pins := data }
  | _ => x

/-- What a report leaves for the next scan. -/
def afterStatus (x : Context) (text : List Char) : Context :=
  let fields := (strtok '|' text).tail
  let y := fields.foldl afterField x
  if fields.any isPins then y else { y with pins := [] }

end Context

def FieldsWithin : Context → List (List Char) → Prop
  | _, [] => True
  | x, field :: fields => FieldWithin x field ∧ FieldsWithin (x.afterField field) fields

def StatusWithin (x : Context) (text : List Char) : Prop :=
  FieldsWithin x (strtok '|' text).tail

/-- The first `n` scans of a report, each without one more character. -/
def ScansWithin : Nat → Context → List Char → Prop
  | 0, _, _ => True
  | n + 1, x, body => body = [] ∨
      StatusWithin x body.dropLast ∧ ScansWithin n (x.afterStatus body.dropLast) body.dropLast

/-- The chunk can be parsed within bounds: a report or a line in brackets has its terminator and a
report fields that can be read, a setting has its two tokens, the last one in the buffer. -/
def Within (x : Context) (chunk : List Char) : Prop :=
  match cString chunk with
  | '<' :: body => body.length + 1 < maxBlockLength ∧ ScansWithin 3 x body
  | '[' :: body => body.length + 1 < maxBlockLength
  | '$' :: body =>
      if '=' ∈ body then (settingTokens ('$' :: body)).isSome = true
      else body.length + 1 < maxBlockLength
  | _ => True

/-- A parser's result without fault and without a text that is too long. -/
def Safe (result : Option Data) : Prop := ∃ g, result = some g ∧ g.overrun = false

theorem not_safe_none : ¬ Safe none := by
  rintro ⟨g, eq, -⟩
  cases eq

@[simp] theorem safe_some {g : Data} : Safe (some g) ↔ g.overrun = false := by
  simp [Safe]

section

theorem cutAt_cases (c : Char) (data : List Char) :
    data.count c = 0 ∧ cutAt c data = none ∨
      ∃ before behind, cutAt c data = some (before, behind) ∧
        data.count c = behind.count c + 1 := by
  by_cases member : c ∈ data
  · obtain ⟨before, behind, rfl, apart⟩ := List.eq_append_cons_of_mem member
    refine .inr ⟨before, behind, cutAt_append apart, ?_⟩
    rw [List.count_append, List.count_cons_self, List.count_eq_zero.mpr apart, Nat.zero_add]
  · exact .inl ⟨List.count_eq_zero.mpr member, if_neg member⟩

variable (g : Data) (data : List Char)

theorem parsePositions_isSome : (parsePositions g data).isSome ↔ 2 ≤ data.count ',' := by
  obtain ⟨none, cut⟩ | ⟨_, behind, cut, first⟩ := cutAt_cases ',' data
  · simp [parsePositions, cut, none]
  · obtain ⟨none, cut'⟩ | ⟨_, _, cut', second⟩ := cutAt_cases ',' behind
    · simp [parsePositions, cut, cut', first, none]
    · simp [parsePositions, cut, cut', first, second]

theorem parseOverrides_isSome : (parseOverrides g data).isSome ↔ 2 ≤ data.count ',' := by
  obtain ⟨none, cut⟩ | ⟨_, behind, cut, first⟩ := cutAt_cases ',' data
  · simp [parseOverrides, cut, none]
  · obtain ⟨none, cut'⟩ | ⟨_, _, cut', second⟩ := cutAt_cases ',' behind
    · simp [parseOverrides, cut, cut', first, none]
    · simp [parseOverrides, cut, cut', first, second]

theorem parseOffsets_isSome :
    (parseOffsets g data).isSome ↔ g.useWPos = true ∨ 2 ≤ data.count ',' := by
  cases working : g.useWPos with
  | true => simp [parseOffsets, working]
  | false =>
      obtain ⟨none, cut⟩ | ⟨_, behind, cut, first⟩ := cutAt_cases ',' data
      · simp [parseOffsets, working, cut, none]
      · obtain ⟨none, cut'⟩ | ⟨_, _, cut', second⟩ := cutAt_cases ',' behind
        · simp [parseOffsets, working, cut, cut', first, none]
        · simp [parseOffsets, working, cut, cut', first, second]

theorem parseFeedSpeed_isSome : (parseFeedSpeed g data).isSome ↔ 1 ≤ data.count ',' := by
  obtain ⟨none, cut⟩ | ⟨_, behind, cut, first⟩ := cutAt_cases ',' data
  · simp [parseFeedSpeed, cut, none]
  · simp [parseFeedSpeed, cut, first]

end

variable {g g' : Data} {field : List Char}

/-- What a field other than the pins leaves alone. -/
theorem parseField_frame (eq : parseField g field = some g')
    (other : ∀ data, fieldKind field ≠ some (.pn, data)) :
    g'.overrun = g.overrun ∧ g'.context = g.context.afterField field := by
  have keeps := parseField_keeps g eq
  have pins : (fieldKind field).map (·.1) ≠ some .pn := by
    intro pn
    obtain ⟨⟨_, data⟩, kind, rfl⟩ := Option.map_eq_some_iff.mp pn
    exact other data kind
  obtain ⟨letters, overrun⟩ := keeps.pn pins
  refine ⟨overrun, ?_⟩
  simp only [Context.afterField, Data.context, letters]
  cases kind : fieldKind field with
  | none =>
      rw [kind] at keeps
      rw [(keeps.position nofun nofun).2]
  | some found =>
      obtain ⟨k, data⟩ := found
      rw [kind] at keeps
      cases k with
      | wpos => rw [keeps.wpos rfl]
      | mpos => rw [keeps.mpos rfl]
      | pn => exact absurd kind (other data)
      | _ => rw [(keeps.position (by simp) (by simp)).2]

/-- The letters of the pins are copied unless they are there already. -/
theorem parsePins_spec (g : Data) (text : List Char) :
    (parsePins g text).context = { g.context with pins := text } ∧
      ((parsePins g text).overrun = false ↔
        g.overrun = false ∧ (text.length ≤ 9 ∨ text = g.pins)) := by
  by_cases same : g.pins = text
  · simp [parsePins, Data.context, same]
  · have other : ¬ text = g.pins := Ne.symm same
    simp [parsePins, Data.context, same, other, Nat.lt_succ_iff]

theorem parseField_isSome (other : ∀ data, fieldKind field ≠ some (.pn, data)) :
    (parseField g field).isSome ↔ FieldWithin g.context field := by
  cases kind : fieldKind field with
  | none => simp [parseField, FieldWithin, kind]
  | some found =>
      obtain ⟨k, data⟩ := found
      simp only [parseField, FieldWithin, kind]
      cases k with
      | wpos => exact parsePositions_isSome _ data
      | mpos => exact parsePositions_isSome _ data
      | fs => exact parseFeedSpeed_isSome _ data
      | wco => exact parseOffsets_isSome _ data
      | ov => exact parseOverrides_isSome _ data
      | pn => exact absurd kind (other data)
      | _ => exact iff_of_true rfl trivial

/-- One field: whether it is read within bounds, and what it leaves for the next one. -/
theorem safe_parseField (g : Data) (field : List Char) :
    (Safe (parseField g field) ↔ g.overrun = false ∧ FieldWithin g.context field) ∧
      ∀ g', parseField g field = some g' → g'.context = g.context.afterField field := by
  by_cases pins : ∃ data, fieldKind field = some (.pn, data)
  · obtain ⟨data, kind⟩ := pins
    have eq : parseField g field = some (parsePins g data) := by
      simp only [parseField, kind]
    obtain ⟨context, overrun⟩ := parsePins_spec g data
    refine ⟨?_, ?_⟩
    · simp only [eq, safe_some, overrun, FieldWithin, kind, Data.context]
    · intro g' parsed
      rw [eq] at parsed
      rw [← Option.some.inj parsed, context]
      simp only [Context.afterField, kind]
  · rw [not_exists] at pins
    refine ⟨?_, fun g' parsed => (parseField_frame parsed pins).2⟩
    rw [← parseField_isSome pins]
    constructor
    · rintro ⟨g', parsed, kept⟩
      rw [(parseField_frame parsed pins).1] at kept
      exact ⟨kept, by rw [parsed]; rfl⟩
    · rintro ⟨kept, some⟩
      obtain ⟨g', parsed⟩ := Option.isSome_iff_exists.mp some
      exact ⟨g', parsed, (parseField_frame parsed pins).1.trans kept⟩

theorem safe_parseFields (fields : List (List Char)) (g : Data) :
    (Safe (fields.foldlM parseField g) ↔ g.overrun = false ∧ FieldsWithin g.context fields) ∧
      ∀ g', fields.foldlM parseField g = some g' →
        g'.context = fields.foldl Context.afterField g.context := by
  induction fields generalizing g with
  | nil => simp [FieldsWithin]
  | cons field fields ih =>
      obtain ⟨step, left⟩ := safe_parseField g field
      rw [List.foldlM_cons, FieldsWithin, List.foldl_cons]
      cases parsed : parseField g field with
      | none =>
          rw [parsed] at step
          rw [Option.bind_eq_bind, Option.bind_none]
          refine ⟨iff_of_false not_safe_none ?_, ?_⟩
          · rintro ⟨kept, within, -⟩
            exact not_safe_none (step.mpr ⟨kept, within⟩)
          · intro g' eq
            cases eq
      | some next =>
          obtain ⟨rest, last⟩ := ih next
          rw [left next parsed, ← safe_some, ← parsed, step, and_assoc] at rest
          rw [left next parsed] at last
          rw [Option.bind_eq_bind, Option.bind_some]
          exact ⟨rest, last⟩

theorem parseState_context (g : Data) (token : List Char) :
    (parseState g token).overrun = g.overrun ∧ (parseState g token).context = g.context := by
  have leds (g : Data) : (setLeds g).overrun = g.overrun ∧ (setLeds g).context = g.context := by
    simp only [setLeds]
    split <;> exact ⟨rfl, rfl⟩
  simp only [parseState]
  generalize grblParseState token g.toGrblData = result
  repeat' split
  all_goals first | exact ⟨rfl, rfl⟩ | exact leds _

theorem safe_parseStatus (text : List Char) (g : Data) :
    (Safe (parseStatus g text) ↔ g.overrun = false ∧ StatusWithin g.context text) ∧
      ∀ g', parseStatus g text = some g' → g'.context = g.context.afterStatus text := by
  cases tokens : strtok '|' text with
  | nil =>
      have scan : parseStatus g text = some (clearPins g) := by
        simp only [parseStatus, tokens]
      have left : g.context.afterStatus text = { g.context with pins := [] } := by
        simp only [Context.afterStatus, tokens]
        rfl
      rw [scan, StatusWithin, tokens, left]
      refine ⟨by simp [clearPins, FieldsWithin], ?_⟩
      intro g' eq
      rw [← Option.some.inj eq]
      rfl
  | cons state fields =>
      have after : g.context.afterStatus text =
          if fields.any isPins then fields.foldl Context.afterField g.context
          else { fields.foldl Context.afterField g.context with pins := [] } := by
        rw [Context.afterStatus, tokens]
        rfl
      obtain ⟨kept, context⟩ := parseState_context g state
      obtain ⟨read, left⟩ := safe_parseFields fields (parseState g state)
      rw [kept, context] at read
      rw [context] at left
      rw [parseStatus_of_tokens tokens, StatusWithin, tokens, List.tail_cons, ← read, after]
      cases scanned : fields.foldlM parseField (parseState g state) with
      | none =>
          refine ⟨iff_of_false not_safe_none not_safe_none, ?_⟩
          intro g' eq
          cases eq
      | some next =>
          rw [← left next scanned]
          simp only [Option.map_some, safe_some, Option.some.injEq, forall_eq']
          by_cases pins : fields.any isPins = true
          · rw [if_pos pins, if_pos pins]
            exact ⟨Iff.rfl, rfl⟩
          · rw [if_neg pins, if_neg pins]
            exact ⟨Iff.rfl, rfl⟩

/-- Successive scans of a block that no scan takes for a setting. -/
def scans : Nat → List Char → Data → Option Data
  | 0, _, g => some g
  | n + 1, block, g => (parseData block g).bind fun (block, g) => scans n block g

theorem scans_nil (n : Nat) (g : Data) : scans n [] g = some g := by
  induction n with
  | zero => rfl
  | succ n ih =>
      have parsed : parseData [] g = some ([], g) := by
        simp [parseData, stripLast, parseLine, parseResponse, startsWith]
      rw [scans, parsed]
      exact ih

theorem safe_scans (n : Nat) {body : List Char} (fits : body.length + 1 < maxBlockLength)
    (g : Data) :
    Safe (scans n ('<' :: body) g) ↔ g.overrun = false ∧ ScansWithin n g.context body := by
  induction n generalizing body g with
  | zero => simp [scans, ScansWithin]
  | succ n ih =>
      obtain rfl | ⟨init, last, rfl⟩ := List.eq_nil_or_concat' body
      · have parsed : parseData ['<'] g = some ([], g) := by
          simp [parseData, stripLast, parseLine, parseResponse, startsWith, maxBlockLength]
        simp [scans, parsed, scans_nil, ScansWithin]
      · obtain ⟨read, left⟩ := safe_parseStatus init g
        rw [List.length_append, List.length_singleton] at fits
        rw [scans, parseData_long last g (.inl rfl) (by omega), ScansWithin, List.dropLast_concat,
          or_iff_right (by simp), ← and_assoc, ← read]
        simp only [parseLong, if_true]
        cases parsed : parseStatus g init with
        | none => exact iff_of_false not_safe_none fun h => not_safe_none h.1
        | some next =>
            simp only [Option.map_some, Option.bind_some, safe_some]
            rw [ih (by omega) next, left next parsed]

section

variable {c : Char} {block block' : List Char}

/-- A callback with a report is three scans. -/
theorem callback_status (s : State) {body : List Char} (clean : '\x00' ∉ '<' :: body) :
    callback ('<' :: body) s =
      (scans 3 ('<' :: body) s.data.started).map fun g => { s with data := g } := by
  have begins : Begins '<' ('<' :: body) := .inr rfl
  simp only [callback_of_clean clean, scans]
  cases first : parseData ('<' :: body) s.data.started with
  | none => rfl
  | some result₁ =>
      have begins₁ := begins.after_scan first
      simp only [Option.bind_some, begins₁.settings_scan (.inl rfl), State.parseData_eq]
      cases second : parseData result₁.1 result₁.2 with
      | none => rfl
      | some result₂ =>
          have begins₂ := begins₁.after_scan second
          simp only [Option.map_some, Option.bind_some, begins₂.info_scan, State.parseData_eq]
          cases parseData result₂.1 result₂.2 <;> rfl

theorem parseResponse_overrun (g : Data) (line : List Char) :
    (parseResponse g line).overrun = g.overrun := by
  simp only [parseResponse]
  repeat' split
  all_goals rfl

theorem parseBracket_overrun (g : Data) (text : List Char) :
    (parseBracket g text).overrun = g.overrun := by
  simp only [parseBracket, parseModalWords_eq]
  split
  · rfl
  · split <;> rfl

/-- Only a report can be read out of bounds. -/
theorem parseLine_other {line : List Char} (other : line.head? ≠ some '<') (g : Data) :
    ∃ g', parseLine g line = some g' ∧ g'.overrun = g.overrun := by
  simp only [parseLine]
  split
  · exact absurd rfl other
  · exact ⟨_, rfl, parseBracket_overrun _ _⟩
  · exact ⟨_, rfl, parseResponse_overrun _ _⟩

theorem Begins.scanned (begins : Begins '[' block) (fits : block.length < maxBlockLength)
    (g : Data) : ∃ block' g', parseData block g = some (block', g') ∧
      block'.length < maxBlockLength ∧ g'.overrun = g.overrun := by
  have after : Begins '[' (stripLast block) := by
    rw [stripLast]
    split
    · exact begins.dropLast
    · exact begins
  have shorter : (stripLast block).length < maxBlockLength := by
    rw [stripLast]
    split
    · rw [List.length_dropLast]
      omega
    · exact fits
  have other : ((stripLast block).take (maxBlockLength - 1)).head? ≠ some '<' := by
    rw [List.take_of_length_le (by omega)]
    obtain empty | head := after
    · rw [empty]
      simp
    · rw [head]
      decide
  obtain ⟨g', scanned, kept⟩ := parseLine_other other g
  refine ⟨stripLast block, g', ?_, shorter, kept⟩
  rw [parseData, if_neg (begins.not_ok (.inr rfl)), if_neg fun full => by omega, scanned]
  rfl

theorem callback_bracket (s : State) {body : List Char} (clean : '\x00' ∉ '[' :: body)
    (fits : body.length + 1 < maxBlockLength) :
    ∃ s', callback ('[' :: body) s = some s' ∧ s'.data.overrun = false := by
  have begins : Begins '[' ('[' :: body) := .inr rfl
  obtain ⟨block₁, g₁, first, fits₁, kept₁⟩ := begins.scanned fits s.data.started
  have begins₁ := begins.after_scan first
  obtain ⟨block₂, g₂, second, fits₂, kept₂⟩ := begins₁.scanned fits₁ g₁
  have begins₂ := begins₁.after_scan second
  obtain ⟨block₃, g₃, third, -, kept₃⟩ := begins₂.scanned fits₂ g₂
  have kept : g₂.overrun = false := kept₂.trans kept₁
  simp only [callback_of_clean clean, State.parseData_eq, first, Option.map_some,
    Option.bind_some, begins₁.settings_scan (.inr rfl), second, parseInfo,
    if_neg (begins₂.not_ok (.inr rfl))]
  split
  · exact ⟨_, rfl, kept⟩
  · split
    · exact ⟨_, rfl, kept⟩
    · rw [third]
      exact ⟨_, rfl, kept₃.trans kept⟩

end

variable {block : List Char}

theorem nul_not_mem_cString (chunk : List Char) : '\x00' ∉ cString chunk := by
  intro member
  simpa [cString] using List.mem_takeWhile_imp member

theorem callback_cString (chunk : List Char) (s : State) :
    callback (cString chunk) s = callback chunk s := by
  simp only [callback, cString_of_clean (nul_not_mem_cString chunk)]

/-- A settings line without an equals sign is searched up to the terminator. -/
theorem callback_noSetting (s : State) {body : List Char} (clean : '\x00' ∉ '$' :: body)
    (noSetting : '=' ∉ body) :
    (∃ s', callback ('$' :: body) s = some s' ∧ s'.data.overrun = false) ↔
      body.length + 1 < maxBlockLength := by
  have plain := plain_setting body
  have noSetting' : '=' ∉ '$' :: body := by
    rw [List.mem_cons, not_or]
    exact ⟨by decide, noSetting⟩
  have scan (g : Data) : parseResponse g (('$' :: body).take (maxBlockLength - 1)) = g := by
    rw [maxBlockLength, List.take_succ_cons, parseResponse_setting]
  constructor
  · rintro ⟨s', parsed, -⟩
    by_contra full
    have settings (s : State) : parseSettings ('$' :: body) s = none := by
      rw [parseSettings, if_neg plain.2.2, if_neg fun h => noSetting' h.2,
        if_pos ⟨rfl, Nat.le_of_not_lt full⟩]
    simp only [callback_of_clean clean, parseData_plain plain, settings, Option.bind_some,
      Option.bind_none] at parsed
    cases parsed
  · intro room
    rw [callback_plain plain clean fun _ => ⟨noSetting', room⟩]
    simp only [scan]
    exact ⟨_, rfl, rfl⟩

/-- Any other chunk is read within bounds. -/
theorem callback_other (s : State) (clean : '\x00' ∉ block) (status : block.head? ≠ some '<')
    (bracket : block.head? ≠ some '[') (setting : block.head? ≠ some '$') :
    ∃ s', callback block s = some s' ∧ s'.data.overrun = false := by
  by_cases ok : block = "ok".toList
  · subst ok
    refine ⟨_, rfl, ?_⟩
    simp only [acknowledge]
    split <;> rfl
  · have plain : Plain block := ⟨status, bracket, ok⟩
    rw [callback_plain plain clean fun head => absurd head setting]
    refine ⟨_, rfl, ?_⟩
    simp only [Function.iterate_succ, Function.iterate_zero, Function.comp_apply, id_eq,
      parseResponse_overrun]
    rfl

/-- A chunk keeps the parser within its bounds exactly if its fields, tokens and terminator are
there. -/
theorem within_iff (chunk : List Char) (s : State) :
    (∃ s', callback chunk s = some s' ∧ s'.data.overrun = false) ↔
      Within s.data.context chunk := by
  have clean := nul_not_mem_cString chunk
  rw [← callback_cString]
  simp only [Within]
  split
  · next body eq =>
      rw [eq] at clean ⊢
      constructor
      · rintro ⟨s', parsed, kept⟩
        have room : body.length + 1 < maxBlockLength := by
          by_contra full
          rw [callback_full s (.inl rfl) clean (Nat.le_of_not_lt full)] at parsed
          cases parsed
        rw [callback_status s clean, Option.map_eq_some_iff] at parsed
        obtain ⟨g, scanned, rfl⟩ := parsed
        exact ⟨room, ((safe_scans 3 room s.data.started).mp ⟨g, scanned, kept⟩).2⟩
      · rintro ⟨room, within⟩
        obtain ⟨g, scanned, kept⟩ := (safe_scans 3 room s.data.started).mpr ⟨rfl, within⟩
        exact ⟨{ s with data := g }, by rw [callback_status s clean, scanned]; rfl, kept⟩
  · next body eq =>
      rw [eq] at clean ⊢
      constructor
      · rintro ⟨s', parsed, -⟩
        by_contra full
        rw [callback_full s (.inr rfl) clean (Nat.le_of_not_lt full)] at parsed
        cases parsed
      · exact callback_bracket s clean
  · next body eq =>
      rw [eq] at clean ⊢
      split
      · next equals =>
          rw [callback_setting s clean equals]
          cases settingTokens ('$' :: body) with
          | none => simp
          | some tokens => simp [storeSetting_data]; rfl
      · next noSetting => exact callback_noSetting s clean noSetting
  · next status bracket setting =>
      have head {c : Char} (other : ∀ body, cString chunk = c :: body → False) :
          (cString chunk).head? ≠ some c := by
        intro eq
        obtain ⟨body, eq⟩ := List.head?_eq_some_iff.mp eq
        exact other body eq
      exact iff_of_true (callback_other s clean (head status) (head bracket) (head setting))
        trivial

/-- A report with a position that has been cut makes the parser follow a null result. -/
theorem not_within_cut_position : ¬ ∀ (chunk : List Char) (s : State),
    chunk.length ≤ maxBlockLength →
      ∃ s', callback chunk s = some s' ∧ s'.data.overrun = false := by
  intro holds
  obtain ⟨s', parsed, -⟩ := holds "<Idle|MPos:1>\r\n".toList {} (by decide)
  have fault : callback "<Idle|MPos:1>\r\n".toList {} = none := by decide
  rw [fault] at parsed
  cases parsed

end Cnc.Comm
