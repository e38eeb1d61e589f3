import CncMachine.Comm.Core
import CncMachine.Transition.Assign

/-!
# The modal state line

Each word of a `[GC:` line assigns values to some of the modes. The scan of the line makes these
assignments one after the other and marks what they change (`parseModalWords_eq`), so that scanning
the same words once more changes nothing (`parseModalWords_again`).
-/

namespace Cnc.Comm

open Text Transition

section

variable (word : List Char)

def feedOf : Option ℚ := if startsWith word "F".toList then some (atof (word.drop 1)) else none

def speedOf : Option ℚ := if startsWith word "S".toList then some (atof (word.drop 1)) else none

def diameterOf : Option Bool :=
  if startsWith word "G8".toList then some false
  else if startsWith word "G7".toList then some true
  else none

def distanceOf : Option Bool :=
  if startsWith word "G91".toList then some false
  else if startsWith word "G90".toList then some true
  else none

def spindleOnOf : Option Bool :=
  if startsWith word "M5".toList then some false
  else if startsWith word "M3".toList ∨ startsWith word "M4".toList then some true
  else none

def spindleCcwOf : Option Bool :=
  if startsWith word "M5".toList then none
  else if startsWith word "M3".toList then some false
  else if startsWith word "M4".toList then some true
  else none

def mistOf : Option Bool :=
  if startsWith word "M9".toList then some false
  else if startsWith word "M7".toList then some true
  else none

def floodOf : Option Bool :=
  if startsWith word "M9".toList then some false
  else if startsWith word "M8".toList then some true
  else none

end

/-- All assignments of the words, with the marks of what they change. The diameter mode is marked
without a comparison. -/
def assignWords (g : Data) (words : List (List Char)) : Data :=
  { g with
    feedRate := lastValue g.feedRate (words.map feedOf)
    rpmProgrammed := lastValue g.rpmProgrammed (words.map speedOf)
    xModeDiameter := lastValue g.xModeDiameter (words.map diameterOf)
    absDistance := lastValue g.absDistance (words.map distanceOf)
    spindleOn := lastValue g.spindleOn (words.map spindleOnOf)
    spindleCcw := lastValue g.spindleCcw (words.map spindleCcwOf)
    mist := lastValue g.mist (words.map mistOf)
    flood := lastValue g.flood (words.map floodOf)
    leds := { g.leds with
      spindle := lastValue g.leds.spindle (words.map spindleOnOf)
      mist := lastValue g.leds.mist (words.map mistOf)
      flood := lastValue g.leds.flood (words.map floodOf) }
    changed := { g.changed with
      feed := g.changed.feed || changes g.feedRate (words.map feedOf)
      rpm := g.changed.rpm || changes g.rpmProgrammed (words.map speedOf)
      xmode := g.changed.xmode || words.any fun word => (diameterOf word).isSome
      dist := g.changed.dist || changes g.absDistance (words.map distanceOf)
      leds := g.changed.leds || (changes g.spindleOn (words.map spindleOnOf) ||
        changes g.spindleCcw (words.map spindleCcwOf) || changes g.mist (words.map mistOf) ||
        changes g.flood (words.map floodOf)) } }

theorem assignWords_nil (g : Data) : assignWords g [] = g := by
  simp [assignWords, lastValue, changes]

theorem assignWords_cons (g : Data) (word : List Char) (words : List (List Char)) :
    assignWords g (word :: words) = assignWords (assignWords g [word]) words := by
  simp only [assignWords, List.map_cons, List.map_nil, lastValue, changes, List.any_cons,
    List.any_nil, Bool.or_false, Data.mk.injEq, Changes.mk.injEq, Bool.or_assoc, true_and, and_true]
  grind

theorem assignWords_again (g : Data) (words : List (List Char)) :
    assignWords (assignWords g words) words = assignWords g words := by
  simp only [assignWords, lastValue_again, Data.mk.injEq, Changes.mk.injEq, true_and, and_true]
  grind [changes_or_again]

variable (g : Data) (word : List Char)

/-- A word starts with one of two different labels at most. -/
theorem startsWith_apart {a b : List Char} (first : startsWith word a = true)
    (length : a.length = b.length) (other : a ≠ b) : startsWith word b = false := by
  rw [← Bool.not_eq_true]
  intro second
  rw [startsWith_iff] at first second
  have same := List.prefix_of_prefix_length_le first second length.le
  exact other (same.eq_of_length length)

theorem wordFeed_eq : wordFeed g word =
    { g with
      feedRate := (feedOf word).getD g.feedRate
      changed := { g.changed with
        feed := g.changed.feed || decide ((feedOf word).getD g.feedRate ≠ g.feedRate) } } := by
  simp only [wordFeed, feedOf, parseDecimal]
  split
  · split <;> simp_all
  · simp

theorem wordSpeed_eq : wordSpeed g word =
    { g with
      rpmProgrammed := (speedOf word).getD g.rpmProgrammed
      changed := { g.changed with
        rpm := g.changed.rpm ||
          decide ((speedOf word).getD g.rpmProgrammed ≠ g.rpmProgrammed) } } := by
  simp only [wordSpeed, speedOf, parseDecimal]
  split
  · split <;> simp_all
  · simp

theorem wordDiameter_eq : wordDiameter g word =
    { g with
      xModeDiameter := (diameterOf word).getD g.xModeDiameter
      changed := { g.changed with
        xmode := g.changed.xmode || (diameterOf word).isSome } } := by
  simp only [wordDiameter, diameterOf]
  split <;> split <;> simp

theorem wordDistance_eq : wordDistance g word =
    { g with
      absDistance := (distanceOf word).getD g.absDistance
      changed := { g.changed with
        dist := g.changed.dist ||
          decide ((distanceOf word).getD g.absDistance ≠ g.absDistance) } } := by
  obtain ⟨⟩ := g
  cases absolute : startsWith word "G90".toList with
  | true =>
      have relative : startsWith word "G91".toList = false :=
        startsWith_apart word absolute (by simp) (by simp)
      simp only [wordDistance, distanceOf, absolute, relative]
      split <;> simp_all
  | false =>
      simp only [wordDistance, distanceOf, absolute]
      cases relative : startsWith word "G91".toList
      · simp
      · simp only [Bool.false_eq_true, false_and, if_false, true_and]
        split <;> simp_all

theorem wordSpindle_eq : wordSpindle g word =
    { g with
      spindleOn := (spindleOnOf word).getD g.spindleOn
      spindleCcw := (spindleCcwOf word).getD g.spindleCcw
      leds := { g.leds with spindle := (spindleOnOf word).getD g.leds.spindle }
      changed := { g.changed with
        leds := g.changed.leds || (decide ((spindleOnOf word).getD g.spindleOn ≠ g.spindleOn) ||
          decide ((spindleCcwOf word).getD g.spindleCcw ≠ g.spindleCcw)) } } := by
  cases off : startsWith word "M5".toList <;> cases cw : startsWith word "M3".toList <;>
    cases ccw : startsWith word "M4".toList <;>
    simp [wordSpindle, spindleOnOf, spindleCcwOf, off, cw, ccw, -String.reduceToList]

theorem wordCoolant_eq : wordCoolant g word =
    { g with
      mist := (mistOf word).getD g.mist
      flood := (floodOf word).getD g.flood
      leds := { g.leds with
        mist := (mistOf word).getD g.leds.mist
        flood := (floodOf word).getD g.leds.flood }
      changed := { g.changed with
        leds := g.changed.leds || (decide ((mistOf word).getD g.mist ≠ g.mist) ||
          decide ((floodOf word).getD g.flood ≠ g.flood)) } } := by
  cases off : startsWith word "M9".toList <;> cases mist : startsWith word "M7".toList <;>
    cases flood : startsWith word "M8".toList <;>
    simp [wordCoolant, mistOf, floodOf, off, mist, flood, Bool.or_assoc, -String.reduceToList]

theorem parseModalWord_eq : parseModalWord g word = assignWords g [word] := by
  simp only [parseModalWord, wordFeed_eq, wordSpeed_eq, wordDiameter_eq, wordDistance_eq,
    wordSpindle_eq, wordCoolant_eq, assignWords, List.map_cons, List.map_nil, lastValue, changes,
    List.any_cons, List.any_nil, Bool.or_false, Bool.or_assoc]

/-- The scan of a line makes the assignments of its words. -/
theorem parseModalWords_eq (words : List (List Char)) (g : Data) :
    words.foldl parseModalWord g = assignWords g words := by
  induction words generalizing g with
  | nil => exact (assignWords_nil g).symm
  | cons word words ih =>
      rw [List.foldl_cons, ih, parseModalWord_eq]
      exact (assignWords_cons g word words).symm

theorem parseModalWords_again (words : List (List Char)) (g : Data) :
    words.foldl parseModalWord (words.foldl parseModalWord g) = words.foldl parseModalWord g := by
  simp only [parseModalWords_eq, assignWords_again]

variable {tail : List Char}

theorem breaks_bracket (tail : List Char) : Breaks (']' :: tail) := breaks_cons.mpr (by decide)

theorem parseDecimal_bracket (value : ℚ) (text tail : List Char) :
    parseDecimal value (text ++ ']' :: tail) = parseDecimal value text := by
  have number : atof (text ++ ']' :: tail) = atof text := by
    apply atof_append (breaks_bracket tail)
    intro _
    exact breaks_bracket tail
  rw [parseDecimal, parseDecimal, number]

theorem startsWith_bracket (word tail : List Char) {label : List Char} (apart : ']' ∉ label) :
    startsWith (word ++ ']' :: tail) label = startsWith word label := by
  apply startsWith_append_head
  intro c head
  rwa [← Option.some.inj head]

/-- A word is read alike with and without the end of the line. -/
theorem parseModalWord_bracket (g : Data) (word tail : List Char) :
    parseModalWord g (word ++ ']' :: tail) = parseModalWord g word := by
  have feed (g : Data) : wordFeed g (word ++ ']' :: tail) = wordFeed g word := by
    cases word with
    | nil => rfl
    | cons c word =>
        have starts : startsWith (c :: (word ++ ']' :: tail)) "F".toList =
            startsWith (c :: word) "F".toList := startsWith_bracket (c :: word) tail (by decide)
        simp only [wordFeed, List.cons_append, starts, List.drop_one, List.tail_cons,
          parseDecimal_bracket]
  have speed (g : Data) : wordSpeed g (word ++ ']' :: tail) = wordSpeed g word := by
    cases word with
    | nil => rfl
    | cons c word =>
        have starts : startsWith (c :: (word ++ ']' :: tail)) "S".toList =
            startsWith (c :: word) "S".toList := startsWith_bracket (c :: word) tail (by decide)
        simp only [wordSpeed, List.cons_append, starts, List.drop_one, List.tail_cons,
          parseDecimal_bracket]
  have diameter (g : Data) : wordDiameter g (word ++ ']' :: tail) = wordDiameter g word := by
    simp (disch := decide) only [wordDiameter, startsWith_bracket]
  have distance (g : Data) : wordDistance g (word ++ ']' :: tail) = wordDistance g word := by
    simp (disch := decide) only [wordDistance, startsWith_bracket]
  have spindle (g : Data) : wordSpindle g (word ++ ']' :: tail) = wordSpindle g word := by
    simp (disch := decide) only [wordSpindle, startsWith_bracket]
  have coolant (g : Data) : wordCoolant g (word ++ ']' :: tail) = wordCoolant g word := by
    simp (disch := decide) only [wordCoolant, startsWith_bracket]
  simp only [parseModalWord, feed, speed, diameter, distance, spindle, coolant]

theorem parseModalWord_nil (g : Data) : parseModalWord g [] = g := rfl

/-- A line of words is scanned alike with and without its end. -/
theorem parseModalWords_bracket (g : Data) (text : List Char) {tail : List Char}
    (apart : ' ' ∉ tail) :
    (strtok ' ' (text ++ ']' :: tail)).foldl parseModalWord g =
      (strtok ' ' text).foldl parseModalWord g := by
  apply foldl_strtok_append parseModalWord_nil
  · simpa using apart
  · exact fun g word => parseModalWord_bracket g word tail

/-- What the words start with that assign something. -/
def modeLabels : List (List Char) :=
  ["F".toList, "S".toList, "G7".toList, "G8".toList, "G90".toList, "G91".toList, "M5".toList,
    "M3".toList, "M4".toList, "M9".toList, "M7".toList, "M8".toList]

def Modeless (word : List Char) : Prop := ∀ label ∈ modeLabels, startsWith word label = false

theorem Modeless.cut {cut word : List Char} (modeless : Modeless word)
    (inside : cut <+: word) : Modeless cut := by
  intro label member
  exact startsWith_cut inside (modeless label member)

theorem parseModalWord_modeless {word : List Char} (modeless : Modeless word) (g : Data) :
    parseModalWord g word = g := by
  simp only [Modeless, modeLabels, List.forall_mem_cons, List.not_mem_nil, false_imp_iff,
    implies_true, and_true] at modeless
  obtain ⟨f, s, g7, g8, g90, g91, m5, m3, m4, m9, m7, m8⟩ := modeless
  simp only [parseModalWord, wordFeed, wordSpeed, wordDiameter, wordDistance, wordSpindle,
    wordCoolant, f, s, g7, g8, g90, g91, m5, m3, m4, m9, m7, m8, Bool.false_eq_true, if_false,
    false_and]

theorem parseModalWords_modeless {words : List (List Char)}
    (modeless : ∀ word ∈ words, Modeless word) (g : Data) :
    words.foldl parseModalWord g = g := by
  induction words generalizing g with
  | nil => rfl
  | cons word words ih =>
      rw [List.foldl_cons, parseModalWord_modeless (modeless word (.head words))]
      exact ih (fun other member => modeless other (.tail word member)) g

/-- Words without a mode behind the end of the line do not matter. -/
theorem parseModalWords_behind (g : Data) (text : List Char) {tail : List Char}
    (modeless : ∀ word ∈ behind ' ' tail, Modeless word) :
    (strtok ' ' (text ++ ']' :: tail)).foldl parseModalWord g =
      (strtok ' ' text).foldl parseModalWord g := by
  obtain ⟨apart, -, -⟩ | ⟨rest, eq, apart, after⟩ := split_first ' ' tail
  · exact parseModalWords_bracket g text apart
  · rw [after] at modeless
    rw [eq, ← List.cons_append, ← List.append_assoc, strtok_append_sep, List.foldl_append,
      parseModalWords_bracket g text apart, parseModalWords_modeless modeless]

end Cnc.Comm
