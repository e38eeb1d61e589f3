import CncMachine.Comm.Modal
import CncMachine.Comm.StateField
import CncMachine.Transition.Run

/-!
# The mirror of the machine in the LED bits

`leds` repeats what `grbl_data` knows of spindle, coolant, tool reference and machine state. A modal
line sets both. The `A:` field of a report sets the spindle and the coolant alone, and `TLR:` turns
its bit on whenever the reference changes. `mirrored_iff` says which lines keep the mirror.
-/

namespace Cnc.Comm

open Text Transition

/-- Spindle and coolant, which the relays switch. -/
structure Outputs where
  spindle : Bool
  flood : Bool
  mist : Bool
deriving DecidableEq

def Data.outputs (g : Data) : Outputs := ⟨g.spindleOn, g.flood, g.mist⟩

def Leds.outputs (leds : Leds) : Outputs := ⟨leds.spindle, leds.flood, leds.mist⟩

/-- The bits repeat the data. -/
structure Data.Mirrored (g : Data) : Prop where
  spindle : g.leds.spindle = g.spindleOn
  flood : g.leds.flood = g.flood
  mist : g.leds.mist = g.mist
  toolReference : g.leds.tloRefd = g.tloReferenced
  run : g.leds.run = decide (g.state = .run ∨ g.state = .jog)
  hold : g.leds.hold = decide (g.state = .hold)

variable (field : List Char)

/-- What an `A:` field says of spindle and coolant. -/
def accessoriesOf : Option Outputs :=
  match fieldKind field with
  | some (.a, letters) =>
      some ⟨decide ('S' ∈ letters ∨ 'C' ∈ letters), decide ('F' ∈ letters), decide ('M' ∈ letters)⟩
  | _ => none

/-- What a `TLR:` field says of the tool reference. -/
def toolReferenceOf : Option Bool :=
  match fieldKind field with
  | some (.tlr, text) => some (text.head? == some '1')
  | _ => none

variable {field}

theorem parseAccessory_on (letters : List Char) (g : GrblData) :
    (letters.foldl parseAccessory g).spindleOn = true ↔
      g.spindleOn = true ∨ 'S' ∈ letters ∨ 'C' ∈ letters := by
  induction letters generalizing g with
  | nil => simp
  | cons c letters ih =>
      rw [List.foldl_cons, ih, List.mem_cons, List.mem_cons]
      simp only [parseAccessory]
      split <;> grind

theorem parseAccessories_outputs (g : GrblData) (letters : List Char) :
    (parseAccessories g letters).spindleOn = decide ('S' ∈ letters ∨ 'C' ∈ letters) ∧
      (parseAccessories g letters).flood = decide ('F' ∈ letters) ∧
      (parseAccessories g letters).mist = decide ('M' ∈ letters) := by
  have spindle := parseAccessory_on letters
    { g with spindleOn := false, spindleCcw := false, flood := false, mist := false }
  obtain ⟨mist, flood⟩ := parseAccessory_mist letters
    { g with spindleOn := false, spindleCcw := false, flood := false, mist := false }
  simp only [Bool.false_eq_true, false_or] at spindle mist flood
  refine ⟨?_, ?_, ?_⟩ <;> rw [Bool.eq_iff_iff, decide_eq_true_iff]
  · exact spindle
  · exact flood
  · exact mist

/-- What a field does to the data that is mirrored and to the mirror. -/
structure Assigned (outputs : List (Option Outputs)) (references : List (Option Bool))
    (g g' : Data) : Prop where
  state : g'.state = g.state
  outputs : g'.outputs = lastValue g.outputs outputs
  reference : g'.tloReferenced = lastValue g.tloReferenced references
  leds : g'.leds =
    { g.leds with tloRefd := g.leds.tloRefd || changes g.tloReferenced references }

theorem Assigned.unchanged {g g' : Data} (state : g'.state = g.state)
    (outputs : g'.outputs = g.outputs) (reference : g'.tloReferenced = g.tloReferenced)
    (leds : g'.leds = g.leds) : Assigned [none] [none] g g' := by
  constructor
  · exact state
  · exact outputs
  · exact reference
  · rw [leds]
    simp [changes]

theorem parseToolReference_assigned (g : Data) (text : List Char) :
    Assigned [none] [some (text.head? == some '1')] g (parseToolReference g text) := by
  simp only [parseToolReference]
  cases text.head? == some '1' <;> cases reference : g.tloReferenced <;> constructor <;>
    simp [reference, lastValue, changes, Data.outputs]

theorem parseField_assigned {g g' : Data} (eq : parseField g field = some g') :
    Assigned [accessoriesOf field] [toolReferenceOf field] g g' := by
  simp only [parseField] at eq
  simp only [accessoriesOf, toolReferenceOf]
  cases kind : fieldKind field with
  | none =>
      simp only [kind] at eq
      rw [← Option.some.inj eq]
      exact .unchanged rfl rfl rfl rfl
  | some found =>
      obtain ⟨k, data⟩ := found
      simp only [kind] at eq
      cases k with
      | wpos =>
          obtain ⟨_, _, rfl⟩ := parsePositions_frame _ eq
          obtain ⟨_, same⟩ := setWPos_frame g true
          rw [same]
          exact .unchanged rfl rfl rfl rfl
      | mpos =>
          obtain ⟨_, _, rfl⟩ := parsePositions_frame _ eq
          obtain ⟨_, same⟩ := setWPos_frame g false
          rw [same]
          exact .unchanged rfl rfl rfl rfl
      | fs =>
          obtain ⟨_, _, _, _, rfl⟩ := parseFeedSpeed_frame _ eq
          exact .unchanged rfl rfl rfl rfl
      | wco =>
          obtain ⟨_, _, rfl⟩ := parseOffsets_frame _ eq
          exact .unchanged rfl rfl rfl rfl
      | ov =>
          obtain ⟨_, _, _, _, rfl⟩ := parseOverrides_frame _ eq
          exact .unchanged rfl rfl rfl rfl
      | pn =>
          obtain ⟨_, _, _, same⟩ := parsePins_frame g data
          rw [← Option.some.inj eq, same]
          exact .unchanged rfl rfl rfl rfl
      | d =>
          rw [← Option.some.inj eq]
          exact .unchanged rfl rfl rfl rfl
      | a =>
          obtain ⟨spindle, flood, mist⟩ := parseAccessories_outputs g.toGrblData data
          obtain ⟨_, _, _, _, same⟩ := parseAccessories_frame data g.toGrblData
          rw [same] at spindle flood mist
          rw [← Option.some.inj eq, same]
          constructor
          · rfl
          · simp only [Data.outputs, lastValue, Option.getD_some, Outputs.mk.injEq]
            exact ⟨spindle, flood, mist⟩
          · rfl
          · simp [changes]
      | mpg =>
          obtain ⟨_, _, _, _, same⟩ := parseMpg_frame g field
          rw [← Option.some.inj eq, same]
          exact .unchanged rfl rfl rfl rfl
      | sd =>
          obtain ⟨_, _, same⟩ := parseMessage_frame g data
          rw [← Option.some.inj eq, same]
          exact .unchanged rfl rfl rfl rfl
      | tlr =>
          rw [← Option.some.inj eq]
          exact parseToolReference_assigned g data

/-- The fields of a report make their assignments one after the other. -/
theorem parseFields_assigned {fields : List (List Char)} {g g' : Data}
    (eq : fields.foldlM parseField g = some g') :
    Assigned (fields.map accessoriesOf) (fields.map toolReferenceOf) g g' := by
  induction fields generalizing g with
  | nil =>
      rw [← Option.some.inj eq]
      constructor <;> simp [lastValue, changes]
  | cons field fields ih =>
      rw [List.foldlM_cons, Option.bind_eq_bind, Option.bind_eq_some_iff] at eq
      obtain ⟨next, first, rest⟩ := eq
      have first := parseField_assigned first
      have rest := ih rest
      constructor
      · rw [rest.state, first.state]
      · rw [rest.outputs, first.outputs]
        rfl
      · rw [rest.reference, first.reference]
        rfl
      · rw [rest.leds, first.leds, first.reference]
        simp [lastValue, changes, Bool.or_assoc]

/-- The fields of a report behind the machine state, as the scan of the block sees them. -/
def reportFields (block : List Char) : List (List Char) :=
  match (stripLast block).take (maxBlockLength - 1) with
  | '<' :: text => (strtok '|' text).tail
  | _ => []

/-- The last `A:` field of a line leaves spindle and coolant as they are, and if a `TLR:` field
changes the tool reference, the last one sets it. -/
structure Data.MirrorKept (g : Data) (block : List Char) : Prop where
  outputs : lastValue g.outputs ((reportFields block).map accessoriesOf) = g.outputs
  reference : changes g.tloReferenced ((reportFields block).map toolReferenceOf) = true →
    lastValue g.tloReferenced ((reportFields block).map toolReferenceOf) = true

variable {g g' : Data}

theorem mirrored_of_same (mirrored : g.Mirrored) (core : g'.toGrblData = g.toGrblData)
    (reference : g'.tloReferenced = g.tloReferenced) (leds : g'.leds = g.leds) : g'.Mirrored := by
  obtain ⟨spindle, flood, mist, tool, run, hold⟩ := mirrored
  constructor <;> rw [leds] <;> simp only [*]

theorem setLeds_leds (g : Data) : (setLeds g).leds =
    { g.leds with
      run := decide (g.state = .run ∨ g.state = .jog)
      hold := decide (g.state = .hold) } := by
  simp only [setLeds]
  split
  · rfl
  · next same => exact (not_not.mp same).symm

@[simp] theorem setLeds_tloReferenced (g : Data) :
    (setLeds g).tloReferenced = g.tloReferenced := by
  simp only [setLeds]
  split <;> rfl

theorem parseState_leds (g : Data) (token : List Char) :
    (parseState g token).tloReferenced = g.tloReferenced ∧
      (parseState g token).leds =
        if (grblParseState token g.toGrblData).2 then
          (setLeds { g with toGrblData := (grblParseState token g.toGrblData).1 }).leds
        else g.leds := by
  simp only [parseState, setLeds_leds]
  cases (grblParseState token g.toGrblData).2
  · simp only [Bool.false_eq_true, if_false]
    split <;> exact ⟨rfl, rfl⟩
  · simp only [if_true]
    constructor <;> repeat' split
    all_goals simp [grblClearMessage, grblClearAlarm, setLeds_leds]

/-- The state token leaves spindle, coolant and tool reference alone, and the state bits follow
the state. -/
theorem parseState_mirrored (mirrored : g.Mirrored) (token : List Char) :
    (parseState g token).Mirrored ∧ (parseState g token).outputs = g.outputs ∧
      (parseState g token).tloReferenced = g.tloReferenced := by
  obtain ⟨spindle, flood, mist, tool, run, hold⟩ := mirrored
  obtain ⟨reference, leds⟩ := parseState_leds g token
  obtain ⟨state, substate, text, frame⟩ := grblParseState_frame token g.toGrblData
  have core := parseState_core g token
  rw [← grblParseState_core] at core frame
  refine ⟨?_, ?_, reference⟩
  · cases changed : (grblParseState token g.toGrblData).2 with
    | true =>
        rw [changed, if_pos rfl, setLeds_leds] at leds
        constructor <;> rw [leds] <;> simp only [*]
    | false =>
        rw [changed] at leds
        rw [grblParseState_unchanged changed] at core
        exact mirrored_of_same ⟨spindle, flood, mist, tool, run, hold⟩ core reference leds
  · simp only [Data.outputs, core, frame]

theorem mirrored_iff_outputs :
    g.Mirrored ↔ g.leds.outputs = g.outputs ∧ g.leds.tloRefd = g.tloReferenced ∧
      g.leds.run = decide (g.state = .run ∨ g.state = .jog) ∧
      g.leds.hold = decide (g.state = .hold) := by
  simp only [Leds.outputs, Data.outputs, Outputs.mk.injEq]
  constructor
  · rintro ⟨spindle, flood, mist, tool, run, hold⟩
    exact ⟨⟨spindle, flood, mist⟩, tool, run, hold⟩
  · rintro ⟨⟨spindle, flood, mist⟩, tool, run, hold⟩
    exact ⟨spindle, flood, mist, tool, run, hold⟩

/-- The bit of the tool reference is set by every change and never cleared. -/
theorem reference_mirrored_iff (v : Bool) (references : List (Option Bool)) :
    (v || changes v references) = lastValue v references ↔
      (changes v references = true → lastValue v references = true) := by
  cases changed : changes v references with
  | true =>
      rw [Bool.or_true, eq_comm, forall_prop_of_true rfl]
  | false =>
      rw [Bool.or_false, lastValue_of_not_changes changed]
      exact iff_of_true rfl fun changed => absurd changed Bool.false_ne_true

theorem Assigned.mirrored_after_iff {outputs : List (Option Outputs)}
    {references : List (Option Bool)}
    (assigned : Assigned outputs references g g') (mirrored : g.Mirrored) :
    g'.Mirrored ↔ lastValue g.outputs outputs = g.outputs ∧
      (changes g.tloReferenced references = true →
        lastValue g.tloReferenced references = true) := by
  obtain ⟨outs, tool, run, hold⟩ := mirrored_iff_outputs.mp mirrored
  have lamps : g'.leds.outputs = g.outputs := by
    rw [assigned.leds, ← outs]
    rfl
  have bit : g'.leds.tloRefd = (g.tloReferenced || changes g.tloReferenced references) := by
    rw [assigned.leds, ← tool]
  rw [mirrored_iff_outputs, lamps, assigned.outputs, bit, assigned.reference, assigned.state,
    assigned.leds, reference_mirrored_iff]
  constructor
  · rintro ⟨outputs, reference, _⟩
    exact ⟨outputs.symm, reference⟩
  · rintro ⟨outputs, reference⟩
    exact ⟨outputs.symm, reference, run, hold⟩

/-- A report keeps the mirror if its fields do. -/
theorem parseStatus_mirrored {text : List Char} (parsed : parseStatus g text = some g')
    (mirrored : g.Mirrored) :
    g'.Mirrored ↔
      lastValue g.outputs ((strtok '|' text).tail.map accessoriesOf) = g.outputs ∧
        (changes g.tloReferenced ((strtok '|' text).tail.map toolReferenceOf) = true →
          lastValue g.tloReferenced ((strtok '|' text).tail.map toolReferenceOf) = true) := by
  cases tokens : strtok '|' text with
  | nil =>
      simp only [parseStatus, tokens, Option.some.injEq] at parsed
      subst parsed
      apply iff_of_true
      · exact mirrored_of_same mirrored rfl rfl rfl
      · exact ⟨rfl, fun changed => absurd changed Bool.false_ne_true⟩
  | cons state fields =>
      rw [parseStatus_of_tokens tokens, Option.map_eq_some_iff] at parsed
      obtain ⟨scanned, fold, rfl⟩ := parsed
      obtain ⟨start, outputs, reference⟩ := parseState_mirrored mirrored state
      have pins : (if fields.any isPins then scanned else clearPins scanned).Mirrored ↔
          scanned.Mirrored := by
        split
        · exact Iff.rfl
        · constructor <;> exact fun mirrored => mirrored_of_same mirrored rfl rfl rfl
      rw [pins, (parseFields_assigned fold).mirrored_after_iff start, outputs, reference]
      exact Iff.rfl

/-- A modal line sets the data and the bits alike. -/
theorem assignWords_mirrored (mirrored : g.Mirrored) (words : List (List Char)) :
    (assignWords g words).Mirrored := by
  obtain ⟨spindle, flood, mist, tool, run, hold⟩ := mirrored
  constructor
  · simp only [assignWords, spindle]
  · simp only [assignWords, flood]
  · simp only [assignWords, mist]
  · exact tool
  · exact run
  · exact hold

theorem parseBracket_mirrored (mirrored : g.Mirrored) (text : List Char) :
    (parseBracket g text).Mirrored := by
  simp only [parseBracket]
  split
  · rw [parseModalWords_eq]
    exact assignWords_mirrored mirrored _
  · split
    · exact mirrored_of_same mirrored rfl rfl rfl
    · exact mirrored

theorem parseResponse_mirrored (mirrored : g.Mirrored) (line : List Char) :
    (parseResponse g line).Mirrored := by
  simp only [parseResponse]
  repeat' split
  all_goals exact mirrored_of_same mirrored rfl rfl rfl

theorem acknowledge_mirrored (mirrored : g.Mirrored) : (acknowledge g).Mirrored := by
  simp only [acknowledge]
  split <;> exact mirrored_of_same mirrored rfl rfl rfl

/-- A line keeps the mirror exactly if its fields do. -/
theorem parseData_mirrored_iff {block block' : List Char}
    (parsed : parseData block g = some (block', g')) (mirrored : g.Mirrored) :
    g'.Mirrored ↔ g.MirrorKept block := by
  have other (fields : reportFields block = []) : g.MirrorKept block := by
    constructor <;> rw [fields]
    · rfl
    · exact fun changed => absurd changed Bool.false_ne_true
  simp only [parseData] at parsed
  split at parsed
  · next ok =>
      rw [Option.some.injEq, Prod.mk.injEq] at parsed
      rw [← parsed.2]
      exact iff_of_true (acknowledge_mirrored mirrored) (other (by rw [ok]; rfl))
  · split at parsed
    · cases parsed
    · simp only [Option.bind_eq_bind, Option.bind_eq_some_iff, Option.pure_def,
        Option.some.injEq, Prod.mk.injEq] at parsed
      obtain ⟨scanned, line, -, rfl⟩ := parsed
      simp only [parseLine] at line
      split at line
      · next text seen =>
          have fields : reportFields block = (strtok '|' text).tail := by
            simp only [reportFields, seen]
          rw [parseStatus_mirrored line mirrored, ← fields]
          constructor
          · rintro ⟨outputs, reference⟩
            exact ⟨outputs, reference⟩
          · intro kept
            exact ⟨kept.outputs, kept.reference⟩
      · next text seen =>
          rw [← Option.some.inj line]
          apply iff_of_true (parseBracket_mirrored mirrored text)
          apply other
          rw [reportFields, seen]
          rfl
      · next status bracket =>
          rw [← Option.some.inj line]
          apply iff_of_true (parseResponse_mirrored mirrored _)
          apply other
          simp only [reportFields]

/-- `parseData` on what the lines before have left. -/
def process (g : Option Data) (block : List Char) : Option Data :=
  g.bind fun g => (parseData block g).map (·.2)

/-- From the start on, the bits repeat the data after every line that is processed exactly if
every line keeps spindle, coolant and tool reference so. -/
theorem mirrored_iff (blocks : List (List Char)) :
    Always process (fun g block => ∀ g' ∈ process g block, g'.Mirrored) (some {}) blocks ↔
      Always process (fun g block => ∀ g₀ ∈ g, (process g block).isSome → g₀.MirrorKept block)
        (some {}) blocks := by
  have same (g : Option Data) (block : List Char) (mirrored : ∀ g₀ ∈ g, g₀.Mirrored) :
      (∀ g' ∈ process g block, g'.Mirrored) ↔
        ∀ g₀ ∈ g, (process g block).isSome → g₀.MirrorKept block := by
    cases g with
    | none => simp [process]
    | some g =>
        have mirrored := mirrored g rfl
        cases parsed : parseData block g with
        | none => simp [process, parsed]
        | some result =>
            obtain ⟨block', g'⟩ := result
            simpa [process, parsed] using parseData_mirrored_iff parsed mirrored
  apply always_iff (I := fun g : Option Data => ∀ g₀ ∈ g, g₀.Mirrored)
  · intro g block mirrored kept
    exact (same g block mirrored).mpr kept
  · exact fun g block mirrored => same g block mirrored
  · intro g₀ start
    rw [← Option.some.inj start]
    constructor <;> rfl

/-- The accessories of a report are not mirrored, and a tool reference that is lost stays on. -/
theorem not_mirrored :
    (¬ Always process (fun g block => ∀ g' ∈ process g block, g'.Mirrored) (some {})
      ["<Idle|A:S>".toList]) ∧
    ¬ Always process (fun g block => ∀ g' ∈ process g block, g'.Mirrored) (some {})
      ["<Idle|TLR:1>".toList, "<Idle|TLR:0>".toList] := by
  constructor
  · intro mirrored
    obtain ⟨g, parsed, on, off⟩ : ∃ g ∈ process (some {}) "<Idle|A:S>".toList,
        g.spindleOn = true ∧ g.leds.spindle = false := ⟨_, rfl, rfl, rfl⟩
    have same := (mirrored.1 g parsed).spindle
    rw [on, off] at same
    cases same
  · intro mirrored
    obtain ⟨g, parsed, off, on⟩ :
        ∃ g ∈ process (process (some {}) "<Idle|TLR:1>".toList) "<Idle|TLR:0>".toList,
          g.tloReferenced = false ∧ g.leds.tloRefd = true := ⟨_, rfl, rfl, rfl⟩
    have same := (mirrored.2.1 g parsed).toolReference
    rw [on, off] at same
    cases same

end Cnc.Comm
