import CncMachine.Panel.State
import CncMachine.Text.Number

/-!
# Parsing the controller's lines

`parseData` scans one block of text and updates `grbl_data`. The USART2 callback hands every
received chunk to `parseData`, `parseSettings` and `parseInfo` in turn, on the same buffer: each
of the three strips the last character of a long message in place, and the last two pass whatever
they do not recognise on to `parseData`, so a status report is parsed three times.

Only the effects on `GrblData` are kept; the branches for positions, offsets, overrides, pins,
messages, settings and alarms set data that is not part of it.
-/

namespace Cnc

open Text

def maxBlockLength : Nat := 256

/-- The array `grblState` of state names. -/
def grblStateNames : List (GrblState × List Char) :=
  [(.unknown, "Unknown".toList), (.idle, "Idle".toList), (.run, "Run".toList),
    (.jog, "Jog".toList), (.hold, "Hold".toList), (.alarm, "Alarm".toList),
    (.check, "Check".toList), (.door, "Door".toList), (.tool, "Tool".toList),
    (.home, "Home".toList), (.sleep, "Sleep".toList)]

/-- `grblParseState`. The name is looked up only when it fits `state_text` and is not a prefix of
what is stored there; the substate is stored, as a byte, in any case. -/
def grblParseState (data : List Char) (g : GrblData) : GrblData :=
  let name := data.takeWhile (· ≠ ':')
  let substate := if ':' ∈ data then atoi ((data.dropWhile (· ≠ ':')).drop 1) else 0
  let g := { g with substate := BitVec.ofInt 8 substate }
  if name.length < 8 ∧ ¬ startsWith g.stateText name then
    match grblStateNames.find? (·.2 == name) with
    | some (state, text) => { g with state := state, stateText := text }
    | none => g
  else g

/-- One letter of the `A:` field. -/
def parseAccessory (g : GrblData) : Char → GrblData
  | 'M' => { g with mist := true }
  | 'F' => { g with flood := true }
  | 'S' => { g with spindleCcw := false, spindleOn := true }
  | 'C' => { g with spindleCcw := true, spindleOn := true }
  | _ => g

/-- The `A:` field: letters for what is on, everything else is off. -/
def parseAccessories (g : GrblData) (letters : List Char) : GrblData :=
  letters.foldl parseAccessory
    { g with spindleOn := false, spindleCcw := false, flood := false, mist := false }

/-- The `MPG:` field. A report of the mode already known clears the marks only when that mode is
off. -/
def parseMpg (g : GrblData) (field : List Char) : GrblData :=
  if field[4]? = some '1' ∧ g.mpgMode = false then
    { g with mpgMode := true, mpgEnableOngoing := false }
  else if field[4]? = some '0' ∧ g.mpgMode = true then
    { g with mpgMode := false, mpgDisableOngoing := false }
  else if field[4]? = some '0' ∧ g.mpgMode = false then
    { g with mpgEnableOngoing := false, mpgDisableOngoing := false }
  else g

/-- One field of a status report after the state. -/
def parseField (g : GrblData) (field : List Char) : GrblData :=
  if startsWith field "A:".toList then parseAccessories g (field.drop 2)
  else if startsWith field "MPG:".toList then parseMpg g field
  else g

/-- One word of a `[GC:` line. -/
def parseModalWord (g : GrblData) (word : List Char) : GrblData :=
  let g :=
    if startsWith word "M5".toList then { g with spindleOn := false }
    else if startsWith word "M3".toList then { g with spindleOn := true, spindleCcw := false }
    else if startsWith word "M4".toList then { g with spindleOn := true, spindleCcw := true }
    else g
  if startsWith word "M9".toList then { g with mist := false, flood := false }
  else
    let g := if startsWith word "M7".toList then { g with mist := true } else g
    if startsWith word "M8".toList then { g with flood := true } else g

/-- The scan of `line` in `parseData`. -/
def parseLine (line : List Char) (g : GrblData) : GrblData :=
  match line with
  | '<' :: rest =>
      match strtok '|' rest with
      | [] => g
      | state :: fields => fields.foldl parseField (grblParseState state g)
  | '[' :: rest =>
      if startsWith rest "GC:".toList then (strtok ' ' (rest.drop 3)).foldl parseModalWord g else g
  | _ => g

theorem parseLine_status {rest state : List Char} {fields : List (List Char)}
    (tokens : strtok '|' rest = state :: fields) (g : GrblData) :
    parseLine ('<' :: rest) g = fields.foldl parseField (grblParseState state g) := by
  simp only [parseLine, tokens]

/-- "Strip last character from long messages". -/
def stripLast (block : List Char) : List Char :=
  if block.head? = some '<' ∨ block.head? = some '[' then block.dropLast else block

/-- `parseData`, with the block as it leaves it. -/
def parseData (block : List Char) (g : GrblData) : List Char × GrblData :=
  if block = "ok".toList then (block, g)
  else (stripLast block, parseLine ((stripLast block).take (maxBlockLength - 1)) g)

/-- `parseSettings`: `strtok` cuts a settings line behind its number. -/
def parseSettings (block : List Char) (g : GrblData) : List Char × GrblData :=
  if block = "ok".toList then (block, g)
  else if block.head? = some '$' ∧ '=' ∈ block then
    let number := block.tail.dropWhile (· = '=')
    ('$' :: block.tail.takeWhile (· = '=') ++ number.takeWhile (· ≠ '='), g)
  else parseData block g

/-- `parseInfo`; the block is not used any more. -/
def parseInfo (block : List Char) (g : GrblData) : GrblData :=
  if block = "ok".toList ∨ startsWith block "[VER:".toList ∨
      startsWith block "[NEWOPT:".toList then g
  else (parseData block g).2

/-- The USART2 part of the panel's `HAL_UARTEx_RxEventCallback`, on the received bytes. -/
def grblCallback (chunk : List Char) (g : GrblData) : GrblData :=
  let (block, g) := parseData (cString chunk) g
  let (block, g) := parseSettings block g
  parseInfo block g

variable {body : List Char} (last : Char) (g : GrblData)

theorem parseData_status (fits : body.length < maxBlockLength - 1) :
    parseData ('<' :: (body ++ [last])) g = ('<' :: body, parseLine ('<' :: body) g) := by
  have strip : stripLast ('<' :: (body ++ [last])) = '<' :: body := by
    rw [stripLast, if_pos (.inl rfl), ← List.cons_append, List.dropLast_concat]
  rw [parseData, if_neg (by simp), strip, List.take_of_length_le]
  rw [List.length_cons]
  exact fits

theorem parseSettings_status (fits : body.length < maxBlockLength - 1) :
    parseSettings ('<' :: (body ++ [last])) g = ('<' :: body, parseLine ('<' :: body) g) := by
  rw [parseSettings, if_neg (by simp), if_neg (by simp), parseData_status last g fits]

theorem parseInfo_status (fits : body.length < maxBlockLength - 1) :
    parseInfo ('<' :: (body ++ [last])) g = parseLine ('<' :: body) g := by
  have other : ¬ ('<' :: (body ++ [last]) = "ok".toList ∨
      startsWith ('<' :: (body ++ [last])) "[VER:".toList ∨
      startsWith ('<' :: (body ++ [last])) "[NEWOPT:".toList) := by
    simp [startsWith]
  rw [parseInfo, if_neg other, parseData_status last g fits]

/-- A report is scanned without its last, its last two and its last three characters. -/
theorem grblCallback_status {last₁ last₂ last₃ : Char}
    (clean : ∀ c ∈ body ++ [last₁, last₂, last₃], c ≠ '\x00')
    (fits : body.length + 2 < maxBlockLength - 1) :
    grblCallback ('<' :: (body ++ [last₁, last₂, last₃])) g =
      parseLine ('<' :: body) (parseLine ('<' :: (body ++ [last₁]))
        (parseLine ('<' :: (body ++ [last₁, last₂])) g)) := by
  have whole : cString ('<' :: (body ++ [last₁, last₂, last₃])) =
      '<' :: (body ++ [last₁, last₂] ++ [last₃]) := by
    rw [cString, List.takeWhile_eq_self_iff.mpr]
    · simp
    · intro c member
      obtain rfl | member := List.mem_cons.mp member
      · decide
      · simpa using clean c member
  have second (g : GrblData) :
      parseSettings ('<' :: (body ++ [last₁, last₂])) g =
        ('<' :: (body ++ [last₁]), parseLine ('<' :: (body ++ [last₁])) g) := by
    rw [← parseSettings_status last₂ g (by rw [List.length_append, List.length_singleton]; omega),
      List.append_assoc, List.singleton_append]
  simp only [grblCallback]
  rw [whole, parseData_status last₃ g (by simpa using fits)]
  dsimp only
  rw [second]
  exact parseInfo_status last₁ _ (by omega)

theorem prefix_of_stripLast (block : List Char) : stripLast block <+: block := by
  simp only [stripLast]
  split
  · exact List.dropLast_prefix block
  · exact List.prefix_rfl

/-- The scans of `lines`, one after the other. -/
def parseLines (lines : List (List Char)) (g : GrblData) : GrblData :=
  lines.foldl (fun g line => parseLine line g) g

/-- Whatever `parseData` scans is a prefix of the block. -/
theorem parseData_lines (block : List Char) (g : GrblData) :
    (parseData block g).1 <+: block ∧
      ∃ lines, (∀ line ∈ lines, line <+: block) ∧ (parseData block g).2 = parseLines lines g := by
  simp only [parseData]
  split
  · exact ⟨List.prefix_rfl, [], by simp, rfl⟩
  · refine ⟨prefix_of_stripLast block, [(stripLast block).take (maxBlockLength - 1)], ?_, rfl⟩
    intro line member
    rw [List.mem_singleton.mp member]
    exact (List.take_prefix _ _).trans (prefix_of_stripLast block)

theorem parseSettings_lines (block : List Char) (g : GrblData) :
    (parseSettings block g).1 <+: block ∧
      ∃ lines, (∀ line ∈ lines, line <+: block) ∧
        (parseSettings block g).2 = parseLines lines g := by
  simp only [parseSettings]
  split
  · exact ⟨List.prefix_rfl, [], by simp, rfl⟩
  · split
    · next setting =>
        refine ⟨?_, [], by simp, rfl⟩
        obtain ⟨text, rfl⟩ := List.head?_eq_some_iff.mp setting.1
        dsimp only [List.tail_cons]
        rw [List.cons_append, List.prefix_cons_inj]
        conv_rhs => rw [← List.takeWhile_append_dropWhile (p := (· = '=')) (l := text)]
        exact (List.prefix_append_right_inj _).mpr (List.takeWhile_prefix _)
    · exact parseData_lines block g

theorem parseInfo_lines (block : List Char) (g : GrblData) :
    ∃ lines, (∀ line ∈ lines, line <+: block) ∧ parseInfo block g = parseLines lines g := by
  simp only [parseInfo]
  split
  · exact ⟨[], by simp, rfl⟩
  · exact (parseData_lines block g).2

/-- The callback scans prefixes of the chunk and does nothing else to `grbl_data`. -/
theorem grblCallback_lines (chunk : List Char) (g : GrblData) :
    ∃ lines, (∀ line ∈ lines, line <+: chunk) ∧ grblCallback chunk g = parseLines lines g := by
  have whole : cString chunk <+: chunk := List.takeWhile_prefix _
  obtain ⟨kept₁, lines₁, scanned₁, eq₁⟩ := parseData_lines (cString chunk) g
  obtain ⟨kept₂, lines₂, scanned₂, eq₂⟩ := parseSettings_lines (parseData (cString chunk) g).1
    (parseData (cString chunk) g).2
  obtain ⟨lines₃, scanned₃, eq₃⟩ := parseInfo_lines
    (parseSettings (parseData (cString chunk) g).1 (parseData (cString chunk) g).2).1
    (parseSettings (parseData (cString chunk) g).1 (parseData (cString chunk) g).2).2
  refine ⟨lines₁ ++ lines₂ ++ lines₃, ?_, ?_⟩
  · intro line member
    rw [List.mem_append, List.mem_append] at member
    obtain (member | member) | member := member
    · exact (scanned₁ line member).trans whole
    · exact (scanned₂ line member).trans (kept₁.trans whole)
    · exact (scanned₃ line member).trans (kept₂.trans (kept₁.trans whole))
  · simp only [grblCallback]
    rw [eq₃, eq₂, eq₁]
    simp only [parseLines, List.foldl_append]

theorem foldl_keeps {α β : Type} {P : α → Prop} {f : α → β → α} (xs : List β)
    (step : ∀ x ∈ xs, ∀ a, P a → P (f a x)) {a : α} (start : P a) : P (xs.foldl f a) := by
  induction xs generalizing a with
  | nil => exact start
  | cons x xs ih =>
      exact ih (fun y member => step y (.tail x member)) (step x (.head xs) a start)

theorem grblCallback_keeps {P : GrblData → Prop} {chunk : List Char}
    (scan : ∀ line, line <+: chunk → ∀ g, P g → P (parseLine line g)) {g : GrblData}
    (start : P g) : P (grblCallback chunk g) := by
  obtain ⟨lines, scanned, eq⟩ := grblCallback_lines chunk g
  rw [eq]
  exact foldl_keeps lines (fun line member => scan line (scanned line member)) start

/-- Every token of every kind of line keeps `P`. -/
structure KeptByTokens (P : GrblData → Prop) : Prop where
  state : ∀ data g, P g → P (grblParseState data g)
  field : ∀ field g, P g → P (parseField g field)
  word : ∀ word g, P g → P (parseModalWord g word)

theorem KeptByTokens.parseFields {P : GrblData → Prop} (kept : KeptByTokens P)
    (fields : List (List Char)) {g : GrblData} (start : P g) : P (fields.foldl parseField g) :=
  foldl_keeps fields (fun field _ => kept.field field) start

theorem KeptByTokens.parseLine {P : GrblData → Prop} (kept : KeptByTokens P)
    (line : List Char) {g : GrblData} (start : P g) : P (parseLine line g) := by
  simp only [Cnc.parseLine]
  split
  · split
    · exact start
    · exact kept.parseFields _ (kept.state _ g start)
  · split
    · exact foldl_keeps _ (fun word _ => kept.word word) start
    · exact start
  · exact start

theorem KeptByTokens.parseLines {P : GrblData → Prop} (kept : KeptByTokens P)
    (lines : List (List Char)) {g : GrblData} (start : P g) : P (parseLines lines g) :=
  foldl_keeps lines (fun line _ _ => kept.parseLine line) start

theorem KeptByTokens.parseData {P : GrblData → Prop} (kept : KeptByTokens P)
    (block : List Char) {g : GrblData} (start : P g) : P (parseData block g).2 := by
  obtain ⟨-, lines, -, eq⟩ := parseData_lines block g
  rw [eq]
  exact kept.parseLines lines start

theorem KeptByTokens.grblCallback {P : GrblData → Prop} (kept : KeptByTokens P)
    (chunk : List Char) {g : GrblData} (start : P g) : P (grblCallback chunk g) :=
  grblCallback_keeps (fun line _ _ start => kept.parseLine line start) start

/-- The state token sets the machine state and its text, nothing else. -/
theorem grblParseState_frame (data : List Char) (g : GrblData) :
    ∃ state substate text, grblParseState data g =
      { g with state := state, substate := substate, stateText := text } := by
  simp only [grblParseState]
  split
  · split <;> exact ⟨_, _, _, rfl⟩
  · exact ⟨_, _, _, rfl⟩

@[simp] theorem grblParseState_mpgFlags (data : List Char) (g : GrblData) :
    (grblParseState data g).mpgFlags = g.mpgFlags := by
  obtain ⟨_, _, _, eq⟩ := grblParseState_frame data g
  rw [eq]

@[simp] theorem parseModalWord_mpgFlags (g : GrblData) (word : List Char) :
    (parseModalWord g word).mpgFlags = g.mpgFlags := by
  simp only [parseModalWord]
  repeat' split
  all_goals rfl

theorem parseAccessories_frame (letters : List Char) (g : GrblData) :
    ∃ on ccw flood mist, parseAccessories g letters =
      { g with spindleOn := on, spindleCcw := ccw, flood := flood, mist := mist } := by
  refine foldl_keeps (P := fun g' => ∃ on ccw flood mist, g' =
    { g with spindleOn := on, spindleCcw := ccw, flood := flood, mist := mist }) letters ?_
    ⟨false, false, false, false, rfl⟩
  rintro letter - _ ⟨on, ccw, flood, mist, rfl⟩
  simp only [parseAccessory]
  split <;> exact ⟨_, _, _, _, rfl⟩

@[simp] theorem parseAccessories_mpgFlags (g : GrblData) (letters : List Char) :
    (parseAccessories g letters).mpgFlags = g.mpgFlags := by
  obtain ⟨_, _, _, _, eq⟩ := parseAccessories_frame letters g
  rw [eq]

/-- Only status reports carry the MPG mode. -/
theorem grblCallback_mpgFlags {chunk : List Char} (other : chunk.head? ≠ some '<')
    (g : GrblData) : (grblCallback chunk g).mpgFlags = g.mpgFlags := by
  refine grblCallback_keeps (P := fun g' => g'.mpgFlags = g.mpgFlags) ?_ rfl
  intro line scanned g' same
  simp only [parseLine]
  split
  · obtain ⟨rest, rfl⟩ := scanned
    simp at other
  · split
    · refine foldl_keeps (P := fun g' : GrblData => g'.mpgFlags = g.mpgFlags) _ ?_ same
      rintro word - g'' same
      rw [parseModalWord_mpgFlags, same]
    · exact same
  · exact same

/-- A line that is neither a status report nor a modal line changes nothing. -/
theorem grblCallback_other {chunk : List Char} (status : chunk.head? ≠ some '<')
    (modal : ¬ "[GC:".toList <+: chunk) (g : GrblData) : grblCallback chunk g = g := by
  refine grblCallback_keeps (P := fun g' => g' = g) ?_ rfl
  rintro line scanned _ rfl
  simp only [parseLine]
  split
  · obtain ⟨rest, rfl⟩ := scanned
    simp at status
  · next rest =>
      split
      · next word =>
          refine absurd (List.IsPrefix.trans ?_ scanned) modal
          exact (List.prefix_cons_inj '[').mpr (startsWith_iff.mp word)
      · rfl
  · rfl

end Cnc
