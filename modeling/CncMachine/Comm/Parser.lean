import CncMachine.Comm.Data
import CncMachine.Panel.Parser

/-!
# The parsers with their bounds

`parseData`, `parseSettings` and `parseInfo` with everything they set. A result `none` is the error
branch: the null result of `strchr` or `strtok` was followed, or a buffer of `maxBlockLength`
characters was left. The block is the text in `grbl_buffer` before its first NUL; a block that fills
the buffer has no terminator. The callbacks in `grbl_event`, none of which is set during reception,
and `ack_received` are left out.
-/

namespace Cnc.Comm

open Text

/-- `strchr(data, ',')` and the write of a terminator there: the text before and behind it. -/
def cutAt (c : Char) (data : List Char) : Option (List Char × List Char) :=
  if c ∈ data then some (data.takeWhile (· ≠ c), (data.dropWhile (· ≠ c)).tail) else none

/-- `parseDecimal`: the number that is stored and whether it is another one. -/
def parseDecimal (value : ℚ) (data : List Char) : ℚ × Bool :=
  let val := atof data
  if val ≠ value then (val, true) else (value, false)

/-- `parseUint`. -/
def parseUint (value : BitVec 32) (data : List Char) : BitVec 32 × Bool :=
  let val := BitVec.ofInt 32 (atoi data)
  if val ≠ value then (val, true) else (value, false)

variable (g : Data)

def grblClearAlarm : Data :=
  { g with
    alarm := 0
    changed := { g.changed with alarm := g.alarm != 0 } }

def grblClearError : Data :=
  { g with
    error := 0
    changed := { g.changed with error := g.error != 0 } }

def grblClearMessage : Data :=
  { g with
    message := []
    changed := { g.changed with message := g.message != [] } }

def parsePositions (data : List Char) : Option Data := do
  let (x, data) ← cutAt ',' data
  let (y, z) ← cutAt ',' data
  let (x, xpos) := parseDecimal g.position.x x
  let (y, ypos) := parseDecimal g.position.y y
  let (z, zpos) := parseDecimal g.position.z z
  return { g with
    position := ⟨x, y, z⟩
    changed := { g.changed with
      xpos := g.changed.xpos || xpos
      ypos := g.changed.ypos || ypos
      zpos := g.changed.zpos || zpos } }

def parseOffsets (data : List Char) : Option Data :=
  if g.useWPos then
    some { g with
      offset := {}
      changed := { g.changed with
        offset := g.offset != {}
        awaitWcoOk := g.awaitWCO } }
  else do
    let (x, data) ← cutAt ',' data
    let (y, z) ← cutAt ',' data
    let (x, xoff) := parseDecimal g.offset.x x
    let (y, yoff) := parseDecimal g.offset.y y
    let (z, zoff) := parseDecimal g.offset.z z
    return { g with
      offset := ⟨x, y, z⟩
      changed := { g.changed with
        offset := g.changed.offset || xoff || yoff || zoff
        awaitWcoOk := g.awaitWCO } }

def parseOverrides (data : List Char) : Option Data := do
  let (feed, data) ← cutAt ',' data
  let (rapid, rpm) ← cutAt ',' data
  let (feed, feedChanged) := parseUint g.feedOverride feed
  let (rapid, rapidChanged) := parseUint g.rapidOverride rapid
  let (rpm, rpmChanged) := parseUint g.rpmOverride rpm
  return { g with
    feedOverride := feed
    rapidOverride := rapid
    rpmOverride := rpm
    changed := { g.changed with
      feedOverride := g.changed.feedOverride || feedChanged
      rapidOverride := g.changed.rapidOverride || rapidChanged
      rpmOverride := g.changed.rpmOverride || rpmChanged } }

/-- The actual speed may be missing. -/
def parseFeedSpeed (data : List Char) : Option Data := do
  let (feed, data) ← cutAt ',' data
  let (feed, feedChanged) := parseDecimal g.feedRate feed
  let (programmed, actual) :=
    match cutAt ',' data with
    | some (programmed, actual) => (programmed, some actual)
    | none => (data, none)
  let (programmed, rpmChanged) := parseDecimal g.rpmProgrammed programmed
  let (actual, actualChanged) :=
    match actual with
    | some actual => parseDecimal g.rpmActual actual
    | none => (g.rpmActual, false)
  return { g with
    feedRate := feed
    rpmProgrammed := programmed
    rpmActual := actual
    changed := { g.changed with
      feed := g.changed.feed || feedChanged
      rpm := g.changed.rpm || rpmChanged || actualChanged } }

/-- `grblParseState`, with its result. The substate is compared before it is cut to a byte. -/
def grblParseState (data : List Char) (g : GrblData) : GrblData × Bool :=
  let name := data.takeWhile (· ≠ ':')
  let substate : BitVec 32 :=
    if ':' ∈ data then BitVec.ofInt 32 (atoi ((data.dropWhile (· ≠ ':')).drop 1)) else 0
  let known :=
    if name.length < 8 ∧ ¬ startsWith g.stateText name then grblStateNames.find? (·.2 == name)
    else none
  match known with
  | some (state, text) =>
      ({ g with state := state, substate := substate.setWidth 8, stateText := text }, true)
  | none =>
      if g.substate.setWidth 32 ≠ substate then
        ({ g with substate := substate.setWidth 8 }, true)
      else (g, false)

def setLeds : Data :=
  let leds := { g.leds with
    run := g.state = .run ∨ g.state = .jog
    hold := g.state = .hold }
  if leds ≠ g.leds then { g with leds := leds, changed := { g.changed with leds := true } } else g

/-- The first token of a status report. -/
def parseState (token : List Char) : Data :=
  let (state, changed) := grblParseState token g.toGrblData
  let g := { g with toGrblData := state }
  let g :=
    if changed then
      let g := setLeds { g with changed := { g.changed with state := true } }
      if ¬ (g.state = .alarm ∨ g.state = .tool) ∧ g.message ≠ [] then grblClearMessage g else g
    else g
  if g.alarm ≠ 0 ∧ g.state ≠ .alarm then grblClearAlarm g else g

/-- The fields of a status report that are told apart by what they start with. -/
inductive FieldKind where
  | wpos
  | mpos
  | fs
  | wco
  | pn
  | d
  | a
  | ov
  | mpg
  | sd
  | tlr
deriving DecidableEq, Repr

/-- What the field starts with. -/
def FieldKind.label : FieldKind → List Char
  | wpos => "WPos:".toList
  | mpos => "MPos:".toList
  | fs => "FS:".toList
  | wco => "WCO:".toList
  | pn => "Pn:".toList
  | d => "D:".toList
  | a => "A:".toList
  | ov => "Ov:".toList
  | mpg => "MPG:".toList
  | sd => "SD:".toList
  | tlr => "TLR:".toList

/-- The chain of comparisons, in its order. -/
def FieldKind.chain : List FieldKind :=
  [.wpos, .mpos, .fs, .wco, .pn, .d, .a, .ov, .mpg, .sd, .tlr]

/-- The kind of a field and what follows its label. -/
def fieldKind (field : List Char) : Option (FieldKind × List Char) :=
  (FieldKind.chain.find? fun kind => startsWith field kind.label).map fun kind =>
    (kind, field.drop kind.label.length)

/-- `WPos:` and `MPos:` choose between working and machine position. -/
def setWPos (useWPos : Bool) : Data :=
  if g.useWPos = useWPos then g
  else { g with useWPos := useWPos, changed := { g.changed with offset := true } }

def parsePins (text : List Char) : Data :=
  let g := { g with changed := { g.changed with pins := g.pins != text } }
  if g.changed.pins then { g with pins := text, overrun := g.overrun || decide (10 ≤ text.length) }
  else g

/-- A report without a `Pn:` field. -/
def clearPins : Data :=
  { g with
    pins := []
    changed := { g.changed with pins := g.pins != [] } }

def parseMessage (text : List Char) : Data :=
  let g := { g with changed := { g.changed with message := g.message != text } }
  if g.changed.message then { g with message := text.take (maxBlockLength - 1) } else g

def parseToolReference (text : List Char) : Data :=
  let differs := g.tloReferenced != (text.head? == some '1')
  let g := { g with changed := { g.changed with tloReference := differs } }
  if differs then
    { g with
      tloReferenced := !g.tloReferenced
      leds := { g.leds with tloRefd := true }
      changed := { g.changed with leds := true } }
  else g

/-- `MPG:`. The flag is set where the mode changes. -/
def parseMpg (field : List Char) : Data :=
  let core := Cnc.parseMpg g.toGrblData field
  { g with
    toGrblData := core
    changed := { g.changed with mpg := g.changed.mpg || core.mpgMode != g.mpgMode } }

/-- One field of a status report after the state. -/
def parseField (field : List Char) : Option Data :=
  match fieldKind field with
  | some (.wpos, data) => parsePositions (setWPos g true) data
  | some (.mpos, data) => parsePositions (setWPos g false) data
  | some (.fs, data) => parseFeedSpeed g data
  | some (.wco, data) => parseOffsets g data
  | some (.pn, data) => some (parsePins g data)
  | some (.d, data) =>
      some { g with
        xModeDiameter := data.head? = some '1'
        changed := { g.changed with xmode := true } }
  | some (.a, data) =>
      some { g with
        toGrblData := parseAccessories g.toGrblData data
        changed := { g.changed with leds := true } }
  | some (.ov, data) => parseOverrides g data
  | some (.mpg, _) => some (parseMpg g field)
  | some (.sd, data) => some (parseMessage g data)
  | some (.tlr, data) => some (parseToolReference g data)
  | none => some g

def isPins (field : List Char) : Bool := (fieldKind field).map (·.1) = some .pn

/-- The scan of a status report behind the `<`. -/
def parseStatus (text : List Char) : Option Data :=
  match strtok '|' text with
  | [] => some (clearPins g)
  | state :: fields => do
      let g ← fields.foldlM parseField (parseState g state)
      return if fields.any isPins then g else clearPins g

variable (word : List Char)

def wordFeed : Data :=
  if startsWith word "F".toList then
    let (feed, changed) := parseDecimal g.feedRate (word.drop 1)
    { g with feedRate := feed, changed := { g.changed with feed := g.changed.feed || changed } }
  else g

def wordSpeed : Data :=
  if startsWith word "S".toList then
    let (rpm, changed) := parseDecimal g.rpmProgrammed (word.drop 1)
    { g with rpmProgrammed := rpm, changed := { g.changed with rpm := g.changed.rpm || changed } }
  else g

def wordDiameter : Data :=
  let g :=
    if startsWith word "G7".toList then
      { g with xModeDiameter := true, changed := { g.changed with xmode := true } }
    else g
  if startsWith word "G8".toList then
    { g with xModeDiameter := false, changed := { g.changed with xmode := true } }
  else g

def wordDistance : Data :=
  let g :=
    if startsWith word "G90".toList ∧ g.absDistance = false then
      { g with absDistance := true, changed := { g.changed with dist := true } }
    else g
  if startsWith word "G91".toList ∧ g.absDistance = true then
    { g with absDistance := false, changed := { g.changed with dist := true } }
  else g

def wordSpindle : Data :=
  if startsWith word "M5".toList then
    { g with
      spindleOn := false
      leds := { g.leds with spindle := false }
      changed := { g.changed with leds := g.changed.leds || g.spindleOn } }
  else if startsWith word "M3".toList then
    { g with
      spindleOn := true
      spindleCcw := false
      leds := { g.leds with spindle := true }
      changed := { g.changed with leds := g.changed.leds || (!g.spindleOn || g.spindleCcw) } }
  else if startsWith word "M4".toList then
    { g with
      spindleOn := true
      spindleCcw := true
      leds := { g.leds with spindle := true }
      changed := { g.changed with leds := g.changed.leds || (!g.spindleOn || !g.spindleCcw) } }
  else g

def wordCoolant : Data :=
  if startsWith word "M9".toList then
    { g with
      mist := false
      flood := false
      leds := { g.leds with mist := false, flood := false }
      changed := { g.changed with leds := g.changed.leds || (g.mist || g.flood) } }
  else
    let g :=
      if startsWith word "M7".toList then
        { g with
          mist := true
          leds := { g.leds with mist := true }
          changed := { g.changed with leds := g.changed.leds || !g.mist } }
      else g
    if startsWith word "M8".toList then
      { g with
        flood := true
        leds := { g.leds with flood := true }
        changed := { g.changed with leds := g.changed.leds || !g.flood } }
    else g

def parseModalWord : Data :=
  let g := wordFeed g word
  let g := wordSpeed g word
  let g := wordDiameter g word
  let g := wordDistance g word
  let g := wordSpindle g word
  wordCoolant g word

/-- The scan of a line in brackets behind the `[`. -/
def parseBracket (text : List Char) : Data :=
  if startsWith text "GC:".toList then (strtok ' ' (text.drop 3)).foldl parseModalWord g
  else if startsWith text "MSG:".toList then
    { g with message := (text.drop 4).take 250, changed := { g.changed with message := true } }
  else g

/-- `(uint8_t)atoi(text)`. -/
def byteOf (text : List Char) : BitVec 8 := BitVec.ofInt 8 (atoi text)

/-- The scan of any other line. -/
def parseResponse (line : List Char) : Data :=
  if startsWith line "error:".toList then
    { g with error := byteOf (line.drop 6), changed := { g.changed with error := true } }
  else if startsWith line "ALARM:".toList then
    { g with alarm := byteOf (line.drop 6), changed := { g.changed with alarm := true } }
  else if startsWith line "Grbl".toList then
    grblClearMessage (grblClearAlarm (grblClearError
      { g with changed := { g.changed with reset := true } }))
  else g

/-- The scan of `line` in `parseData`. -/
def parseLine (line : List Char) : Option Data :=
  match line with
  | '<' :: text => parseStatus g text
  | '[' :: text => some (parseBracket g text)
  | _ => some (parseResponse g line)

/-- `"ok"`: the acknowledgement clears an error and an alarm. -/
def acknowledge : Data :=
  let g := grblClearError { g with changed := { g.changed with awaitAck := false } }
  if g.alarm ≠ 0 then grblClearAlarm g else g

/-- `parseData`, with the block as it leaves it. The length of a long message is taken with
`strlen`, which needs the terminator. -/
def parseData (block : List Char) (g : Data) : Option (List Char × Data) :=
  if block = "ok".toList then some (block, acknowledge g)
  else if (block.head? = some '<' ∨ block.head? = some '[') ∧ maxBlockLength ≤ block.length then
    none
  else do
    let g ← parseLine g ((stripLast block).take (maxBlockLength - 1))
    return (stripLast block, g)

/-- `(uint32_t)value`, which saturates. -/
def truncated (value : ℚ) : BitVec 32 := BitVec.ofNat 32 (min value.floor.toNat (2 ^ 32 - 1))

/-- The switch over the number of a setting, which an enumeration holds in one byte. -/
def storeSetting (setting : BitVec 32) (value : ℚ) (s : State) : State :=
  let c := s.settings
  match (setting.setWidth 8).toNat with
  | 50 => { s with settings := { c with stepSpeed := value } }
  | 51 => { s with settings := { c with slowSpeed := value } }
  | 52 => { s with settings := { c with fastSpeed := value } }
  | 53 => { s with settings := { c with stepDistance := value } }
  | 54 => { s with settings := { c with slowDistance := value } }
  | 55 => { s with settings := { c with fastDistance := value } }
  | 31 => { s with settings := { c with rpmMin := value } }
  | 30 => { s with settings := { c with rpmMax := value } }
  | 39 => { s with legacyRtCommands := truncated value ≠ 0 }
  | 22 => { s with settings := { c with homingEnabled := truncated value &&& 1 ≠ 0 } }
  | 32 => { s with settings := { c with mode := (truncated value).setWidth 8 } }
  | _ => s

/-- The two tokens of a settings line behind the `$`. The second one must end in the buffer. -/
def settingTokens (block : List Char) : Option (List Char × List Char) :=
  let first := block.tail.dropWhile (· = '=')
  let second := (first.dropWhile (· ≠ '=')).dropWhile (· = '=')
  if second ≠ [] ∧ ('=' ∈ second ∨ block.length < maxBlockLength) then
    some (first.takeWhile (· ≠ '='), second.takeWhile (· ≠ '='))
  else none

/-- The block up to the end of the first token, where `strtok` writes a terminator. -/
def cutSetting (block : List Char) : List Char :=
  '$' :: block.tail.takeWhile (· = '=') ++
    (block.tail.dropWhile (· = '=')).takeWhile (· ≠ '=')

/-- A parser that hands a block on to `parseData`. -/
def State.parseData (s : State) (block : List Char) : Option (List Char × State) := do
  let (block, g) ← Comm.parseData block s.data
  return (block, { s with data := g })

/-- `parseSettings`. In a line that starts with `$` an `=` is searched up to the terminator. -/
def parseSettings (block : List Char) (s : State) : Option (List Char × State) :=
  if block = "ok".toList then
    some (block, { s with settings := { s.settings with isLoaded := s.setting ≠ 0 } })
  else if block.head? = some '$' ∧ '=' ∈ block then do
    let (number, value) ← settingTokens block
    let setting := BitVec.ofInt 32 (atoi number)
    return (cutSetting block, storeSetting setting (atof value) { s with setting := setting })
  else if block.head? = some '$' ∧ maxBlockLength ≤ block.length then none
  else s.parseData block

/-- `[VER:`: the name of the device is the text behind the next colon, without the bracket. -/
def parseVersion (block : List Char) (info : Info) : Info :=
  let info := { info with isLoaded := true }
  let name := ((block.drop 5).dropWhile (· ≠ ':')).tail.dropLast
  if name ≠ [] then { info with device := name.take 79 } else info

/-- `[NEWOPT:`: the options between commas, without the bracket. -/
def parseOptions (block : List Char) (info : Info) : Info :=
  (strtok ',' (block.dropLast.drop 8)).foldl (fun info option =>
    if startsWith option "SD".toList then { info with sdCard := true }
    else if startsWith option "TC".toList then { info with toolChange := true }
    else info) info

/-- `parseInfo`; the block is not used any more. -/
def parseInfo (block : List Char) (s : State) : Option State :=
  if block = "ok".toList then some s
  else if startsWith block "[VER:".toList then some { s with info := parseVersion block s.info }
  else if startsWith block "[NEWOPT:".toList then
    some { s with info := parseOptions block s.info }
  else (s.parseData block).map (·.2)

/-- The USART2 part of `HAL_UARTEx_RxEventCallback`: the chunk is copied to `grbl_buffer`, the rest
of which is cleared, and parsed three times. -/
def callback (chunk : List Char) (s : State) : Option State := do
  let s := { s with data := { s.data with overrun := false } }
  let (block, s) ← s.parseData (cString chunk)
  let (block, s) ← parseSettings block s
  parseInfo block s

end Cnc.Comm
