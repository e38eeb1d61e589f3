import CncMachine.Comm.Lines

/-!
# The commands of a modal state line

A word of a `[GC:` line means something for a mode if it is one of the mode's commands. The scan
compares no more than the first characters, so that longer words such as `M30`, `M53` or `G80` set
modes as well. `modes_commanded_iff` says for which lines this does no harm.
-/

namespace Cnc.Comm

open Text Transition

/-- The modes that the words of a line set. -/
structure Modes where
  xModeDiameter : Bool
  absDistance : Bool
  spindleOn : Bool
  spindleCcw : Bool
  mist : Bool
  flood : Bool
deriving DecidableEq

def Data.modes (g : Data) : Modes :=
  ⟨g.xModeDiameter, g.absDistance, g.spindleOn, g.spindleCcw, g.mist, g.flood⟩

def diameterCommands : List (List Char × Bool) := [("G8".toList, false), ("G7".toList, true)]

def distanceCommands : List (List Char × Bool) := [("G91".toList, false), ("G90".toList, true)]

def spindleOnCommands : List (List Char × Bool) :=
  [("M5".toList, false), ("M3".toList, true), ("M4".toList, true)]

def spindleCcwCommands : List (List Char × Bool) := [("M3".toList, false), ("M4".toList, true)]

def mistCommands : List (List Char × Bool) := [("M9".toList, false), ("M7".toList, true)]

def floodCommands : List (List Char × Bool) := [("M9".toList, false), ("M8".toList, true)]

variable (commands : List (List Char × Bool)) (word : List Char)

/-- What a word sets that is one of the commands. -/
def commanded : Option Bool := (commands.find? fun command => word = command.1).map (·.2)

/-- What a word sets that starts with one of the commands. -/
def begun : Option Bool := (commands.find? fun command => startsWith word command.1).map (·.2)

/-- The modes after the words, of which only the commands set any. -/
def Modes.after (m : Modes) (words : List (List Char)) : Modes where
  xModeDiameter := lastValue m.xModeDiameter (words.map (commanded diameterCommands))
  absDistance := lastValue m.absDistance (words.map (commanded distanceCommands))
  spindleOn := lastValue m.spindleOn (words.map (commanded spindleOnCommands))
  spindleCcw := lastValue m.spindleCcw (words.map (commanded spindleCcwCommands))
  mist := lastValue m.mist (words.map (commanded mistCommands))
  flood := lastValue m.flood (words.map (commanded floodCommands))

/-- A word that only starts with a command, and behind which no other one does, sets the mode to
the value that it has anyway. -/
structure Modes.Kept (m : Modes) (words : List (List Char)) : Prop where
  diameter : Harmless (begun diameterCommands) (commanded diameterCommands) m.xModeDiameter words
  distance : Harmless (begun distanceCommands) (commanded distanceCommands) m.absDistance words
  spindleOn : Harmless (begun spindleOnCommands) (commanded spindleOnCommands) m.spindleOn words
  spindleCcw :
    Harmless (begun spindleCcwCommands) (commanded spindleCcwCommands) m.spindleCcw words
  mist : Harmless (begun mistCommands) (commanded mistCommands) m.mist words
  flood : Harmless (begun floodCommands) (commanded floodCommands) m.flood words

theorem diameterOf_eq : diameterOf word = begun diameterCommands word := by
  simp only [diameterOf, begun, diameterCommands, List.find?_cons, List.find?_nil]
  cases startsWith word "G8".toList <;> cases startsWith word "G7".toList <;> rfl

theorem distanceOf_eq : distanceOf word = begun distanceCommands word := by
  simp only [distanceOf, begun, distanceCommands, List.find?_cons, List.find?_nil]
  cases startsWith word "G91".toList <;> cases startsWith word "G90".toList <;> rfl

theorem spindleOnOf_eq : spindleOnOf word = begun spindleOnCommands word := by
  simp only [spindleOnOf, begun, spindleOnCommands, List.find?_cons, List.find?_nil]
  cases startsWith word "M5".toList <;> cases startsWith word "M3".toList <;>
    cases startsWith word "M4".toList <;> rfl

/-- The scan looks for `M5` first, but no word starts with two commands. -/
theorem spindleCcwOf_eq : spindleCcwOf word = begun spindleCcwCommands word := by
  simp only [spindleCcwOf, begun, spindleCcwCommands, List.find?_cons, List.find?_nil]
  cases off : startsWith word "M5".toList with
  | true =>
      rw [startsWith_apart word off (b := "M3".toList) (by simp) (by simp),
        startsWith_apart word off (b := "M4".toList) (by simp) (by simp)]
      rfl
  | false => cases startsWith word "M3".toList <;> cases startsWith word "M4".toList <;> rfl

theorem mistOf_eq : mistOf word = begun mistCommands word := by
  simp only [mistOf, begun, mistCommands, List.find?_cons, List.find?_nil]
  cases startsWith word "M9".toList <;> cases startsWith word "M7".toList <;> rfl

theorem floodOf_eq : floodOf word = begun floodCommands word := by
  simp only [floodOf, begun, floodCommands, List.find?_cons, List.find?_nil]
  cases startsWith word "M9".toList <;> cases startsWith word "M8".toList <;> rfl

variable {commands word}

/-- None of the commands starts with another one. -/
def Apart (commands : List (List Char × Bool)) : Prop :=
  ∀ a ∈ commands, ∀ b ∈ commands, startsWith a.1 b.1 = true → a = b

instance : Decidable (Apart commands) := inferInstanceAs (Decidable (∀ _, _ → _))

/-- A command is read as what it is. -/
theorem begun_of_commanded (apart : Apart commands) {x : Bool}
    (means : commanded commands word = some x) : begun commands word = some x := by
  obtain ⟨command, found, rfl⟩ := Option.map_eq_some_iff.mp means
  have member := List.mem_of_find?_eq_some found
  have same : word = command.1 := by simpa using List.find?_some found
  have starts : startsWith word command.1 = true := by
    rw [startsWith_iff, same]
  cases first : commands.find? fun command => startsWith word command.1 with
  | none =>
      rw [List.find?_eq_none] at first
      exact absurd starts (first command member)
  | some other =>
      have reads : startsWith word other.1 = true := by simpa using List.find?_some first
      rw [same] at reads
      rw [begun, first, apart command member other (List.mem_of_find?_eq_some first) reads]
      rfl

/-- Only words that are longer than the command are misread. -/
theorem lastValue_begun_iff (apart : Apart commands) (v : Bool) (words : List (List Char)) :
    lastValue v (words.map (begun commands)) = lastValue v (words.map (commanded commands)) ↔
      Harmless (begun commands) (commanded commands) v words := by
  apply lastValue_misread_iff
  intro word x means
  exact begun_of_commanded apart means

/-- The scan of a line sets every mode as its commands do exactly if no misread word does harm. -/
theorem modes_assignWords_iff (g : Data) (words : List (List Char)) :
    (assignWords g words).modes = g.modes.after words ↔ g.modes.Kept words := by
  have reads : (assignWords g words).modes =
      { xModeDiameter := lastValue g.xModeDiameter (words.map (begun diameterCommands))
        absDistance := lastValue g.absDistance (words.map (begun distanceCommands))
        spindleOn := lastValue g.spindleOn (words.map (begun spindleOnCommands))
        spindleCcw := lastValue g.spindleCcw (words.map (begun spindleCcwCommands))
        mist := lastValue g.mist (words.map (begun mistCommands))
        flood := lastValue g.flood (words.map (begun floodCommands)) } := by
    simp only [Data.modes, assignWords, funext diameterOf_eq, funext distanceOf_eq,
      funext spindleOnOf_eq, funext spindleCcwOf_eq, funext mistOf_eq, funext floodOf_eq]
  have diameter : Apart diameterCommands := by decide
  have distance : Apart distanceCommands := by decide
  have spindleOn : Apart spindleOnCommands := by decide
  have spindleCcw : Apart spindleCcwCommands := by decide
  have mist : Apart mistCommands := by decide
  have flood : Apart floodCommands := by decide
  rw [reads]
  simp only [Modes.after, Data.modes, Modes.mk.injEq, lastValue_begun_iff, diameter, distance,
    spindleOn, spindleCcw, mist, flood]
  constructor
  · rintro ⟨diameter, distance, spindleOn, spindleCcw, mist, flood⟩
    exact ⟨diameter, distance, spindleOn, spindleCcw, mist, flood⟩
  · intro kept
    exact ⟨kept.diameter, kept.distance, kept.spindleOn, kept.spindleCcw, kept.mist, kept.flood⟩

variable (g : Data) (text : List Char)

theorem parseLong_modes :
    parseLong '[' g ("GC:".toList ++ text) =
      some ((strtok ' ' text).foldl parseModalWord g) := by
  rw [← ResponseLine.parseBracket_modes]
  rfl

/-- A line of modes with its end, as far as it is still there, makes the assignments of its
words. -/
theorem parseData_modes {tail : List Char} (ending : ' ' ∉ tail)
    (fits : ("[GC:".toList ++ (text ++ ']' :: tail)).length < maxBlockLength) :
    ∃ block, parseData ("[GC:".toList ++ (text ++ ']' :: tail)) g =
      some (block, assignWords g (strtok ' ' text)) := by
  obtain ⟨cut, last, split⟩ : ∃ cut last, ']' :: tail = cut ++ [last] :=
    ⟨_, _, (List.dropLast_concat_getLast (List.cons_ne_nil ']' tail)).symm⟩
  have line : "[GC:".toList ++ (text ++ ']' :: tail) =
      '[' :: ("GC:".toList ++ (text ++ cut) ++ [last]) := by
    rw [split]
    simp
  have room : ("GC:".toList ++ (text ++ cut)).length + 2 < maxBlockLength := by
    rw [line, List.length_cons, List.length_append, List.length_singleton] at fits
    exact fits
  have scan : (strtok ' ' (text ++ cut)).foldl parseModalWord g =
      assignWords g (strtok ' ' text) := by
    rw [← parseModalWords_eq]
    cases cut with
    | nil => rw [List.append_nil]
    | cons c cut =>
        obtain ⟨rfl, rfl⟩ := List.cons.inj split
        apply parseModalWords_bracket
        exact fun inside => ending (List.mem_append_left _ inside)
  rw [line, parseData_long _ _ (.inr rfl) room, parseLong_modes, scan]
  exact ⟨_, rfl⟩

theorem parseData_modes_full {tail : List Char}
    (full : maxBlockLength ≤ ("[GC:".toList ++ (text ++ ']' :: tail)).length) :
    parseData ("[GC:".toList ++ (text ++ ']' :: tail)) g = none := by
  rw [parseData, if_neg (by simp), if_pos ⟨.inr rfl, full⟩]

/-- A line of modes, however far its end is still there, leaves the modes that its commands set
exactly if it fits into the buffer and no word that only starts with a command does harm. -/
theorem modes_commanded_iff (g : Data) (text tail : List Char) (ending : ' ' ∉ tail) :
    (∃ block g', parseData ("[GC:".toList ++ (text ++ ']' :: tail)) g = some (block, g') ∧
        g'.modes = g.modes.after (strtok ' ' text)) ↔
      ("[GC:".toList ++ (text ++ ']' :: tail)).length < maxBlockLength ∧
        g.modes.Kept (strtok ' ' text) := by
  constructor
  · rintro ⟨block, g', parsed, commanded⟩
    by_cases fits : ("[GC:".toList ++ (text ++ ']' :: tail)).length < maxBlockLength
    · obtain ⟨_, scan⟩ := parseData_modes g text ending fits
      rw [scan, Option.some.injEq, Prod.mk.injEq] at parsed
      rw [← parsed.2, modes_assignWords_iff] at commanded
      exact ⟨fits, commanded⟩
    · rw [parseData_modes_full g text (not_lt.mp fits)] at parsed
      cases parsed
  · rintro ⟨fits, kept⟩
    obtain ⟨block, scan⟩ := parseData_modes g text ending fits
    exact ⟨block, _, scan, (modes_assignWords_iff g _).mpr kept⟩

theorem modes_commanded_iff_overrides :
    (∃ block g', parseData ("[GC:".toList ++ ("M3 M53".toList ++ ']' :: crlf)) {} =
        some (block, g') ∧ g'.modes = (Data.modes {}).after (strtok ' ' "M3 M53".toList)) ↔
      ("[GC:".toList ++ ("M3 M53".toList ++ ']' :: crlf)).length < maxBlockLength ∧
        (Data.modes {}).Kept (strtok ' ' "M3 M53".toList) :=
  modes_commanded_iff {} "M3 M53".toList crlf (by decide)

/-- A report of a running spindle with feed hold disabled stops the spindle. -/
theorem not_modes_commanded : ¬ ∀ (g : Data) (text tail : List Char), ' ' ∉ tail →
    ("[GC:".toList ++ (text ++ ']' :: tail)).length < maxBlockLength →
    ∃ block g', parseData ("[GC:".toList ++ (text ++ ']' :: tail)) g = some (block, g') ∧
      g'.modes = g.modes.after (strtok ' ' text) := by
  intro holds
  obtain ⟨block, g', parsed, commanded⟩ := holds {}
    "G0 G54 G17 G21 G90 G94 G49 G98 G50 M3 M9 M53 T0 F0 S1000".toList crlf (by decide) (by decide)
  obtain ⟨_, scan⟩ := parseData_modes {}
    "G0 G54 G17 G21 G90 G94 G49 G98 G50 M3 M9 M53 T0 F0 S1000".toList
    (show ' ' ∉ crlf by decide) (by decide)
  rw [scan, Option.some.injEq, Prod.mk.injEq] at parsed
  have spindle := congrArg Modes.spindleOn commanded
  rw [← parsed.2] at spindle
  revert spindle
  decide

end Cnc.Comm
