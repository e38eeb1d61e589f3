import CncMachine.Panel.Parser

/-!
# Status reports of the controller

The text of a status report is put together as the controller's `report_realtime_status` does:
the state, then fields separated by bars, among them at most one `A:` field with the accessories
and, behind it, at most one `MPG:` field. The main result says what one USART2 callback makes of
such a text, although it parses it three times and each time with another tail.
-/

namespace Cnc

open Text

/-- Spindle and coolant, as the controller drives them. -/
structure Accessories where
  spindleOn : Bool := false
  spindleCcw : Bool := false
  flood : Bool := false
  mist : Bool := false
deriving DecidableEq, Repr

/-- The letters of the `A:` field. -/
def Accessories.letters (a : Accessories) : List Char :=
  (if a.spindleOn then [if a.spindleCcw then 'C' else 'S'] else []) ++
    (if a.flood then ['F'] else []) ++ (if a.mist then ['M'] else [])

/-- Text that can stand between two bars of a report. -/
def IsToken (token : List Char) : Prop := IsField '|' token ∧ '\x00' ∉ token

instance (token : List Char) : Decidable (IsToken token) := inferInstanceAs (Decidable (_ ∧ _))

/-- A field about something else than the accessories and the MPG mode. -/
def IsPlain (field : List Char) : Prop :=
  IsToken field ∧ ¬ "A:".toList <+: field ∧ ¬ "MPG:".toList <+: field

/-- The part of a status report that does not depend on accessories and mode. Together with both
fields it fits the receive buffer. -/
structure StatusReport where
  state : List Char
  before : List (List Char) := []
  accessories : Bool := false
  between : List (List Char) := []
  mpg : Bool := false
  after : List (List Char) := []
  stateToken : IsToken state
  plain : ∀ field ∈ before ++ between ++ after, IsPlain field
  fits : (joined '|' (state :: (before ++ between ++ after))).length < 240

namespace StatusReport

variable (r : StatusReport) (mode : Bool) (a : Accessories)

def mpgField : List Char := "MPG:".toList ++ [if mode then '1' else '0']

def accessoriesField : List Char := "A:".toList ++ a.letters

/-- All fields after the state. -/
def fields : List (List Char) :=
  r.before ++ (if r.accessories then [accessoriesField a] else []) ++ r.between ++
    (if r.mpg then [mpgField mode] else []) ++ r.after

/-- The report of a controller in MPG mode `mode` with accessories `a`, as it is sent. -/
def text : List Char :=
  '<' :: (joined '|' (r.state :: r.fields mode a) ++ ">\r\n".toList)

end StatusReport

/-- `grbl_data` after a report of the accessories. A spindle that is off has no direction. -/
def GrblData.withAccessories (g : GrblData) (a : Accessories) : GrblData :=
  { g with
    spindleOn := a.spindleOn
    spindleCcw := a.spindleOn && a.spindleCcw
    flood := a.flood
    mist := a.mist }

/-- `grbl_data` after a report of the MPG mode: a report of the mode that is already on does not
count as an answer, every other one does. -/
def GrblData.withMpg (g : GrblData) (mode : Bool) : GrblData :=
  match mode with
  | true => if g.mpgMode then g else { g with mpgMode := true, mpgEnableOngoing := false }
  | false =>
      { g with mpgMode := false, mpgEnableOngoing := false, mpgDisableOngoing := false }

/-- `grbl_data` after a whole report, apart from the machine state. -/
def GrblData.reported (g : GrblData) (r : StatusReport) (mode : Bool) (a : Accessories) :
    GrblData :=
  let g := if r.accessories then g.withAccessories a else g
  if r.mpg then g.withMpg mode else g

/-- The characters that a report has behind its last field, as long as they last. -/
def IsTail (tail : List Char) : Prop := ∀ c ∈ tail, c = '>' ∨ c = '\r'

variable {tail : List Char} (g : GrblData)

theorem IsTail.apart (ending : IsTail tail) {needle : List Char}
    (ok : '>' ∉ needle ∧ '\r' ∉ needle) : ∀ c ∈ tail, c ∉ needle := by
  intro c member
  obtain rfl | rfl := ending c member
  · exact ok.1
  · exact ok.2

theorem parseField_plain {field : List Char} (plain : IsPlain field) (ending : IsTail tail) :
    parseField g (field ++ tail) = g := by
  have accessories : startsWith field "A:".toList = false := by
    rw [← Bool.not_eq_true, startsWith_iff]
    exact plain.2.1
  have mpg : startsWith field "MPG:".toList = false := by
    rw [← Bool.not_eq_true, startsWith_iff]
    exact plain.2.2
  simp only [parseField]
  rw [startsWith_append (ending.apart (by decide)), accessories,
    startsWith_append (ending.apart (by decide)), mpg]
  rfl

theorem parseAccessories_append (letters : List Char) (ending : IsTail tail) :
    parseAccessories g (letters ++ tail) = parseAccessories g letters := by
  rw [parseAccessories, List.foldl_append, ← parseAccessories]
  refine foldl_keeps (P := fun g' => g' = parseAccessories g letters) tail ?_ rfl
  rintro c member _ rfl
  obtain rfl | rfl := ending c member <;> rfl

/-- The `A:` field as the parser reads it. -/
theorem parseField_accessories (a : Accessories) (ending : IsTail tail) :
    parseField g (StatusReport.accessoriesField a ++ tail) = g.withAccessories a := by
  have letters : parseAccessories g a.letters = g.withAccessories a := by
    obtain ⟨on, ccw, flood, mist⟩ := a
    cases on <;> cases ccw <;> cases flood <;> cases mist <;> rfl
  rw [← letters, ← parseAccessories_append g a.letters ending]
  rfl

/-- The `MPG:` field as one scan reads it. -/
theorem parseField_mpg (mode : Bool) :
    parseField g (StatusReport.mpgField mode ++ tail) =
      parseMpg g (StatusReport.mpgField mode) := by
  cases mode <;> rfl

namespace StatusReport

variable (r : StatusReport) (mode : Bool) (a : Accessories)

/-- What one scan makes of the fields. -/
def scanned (g : GrblData) : GrblData :=
  let g := if r.accessories then g.withAccessories a else g
  if r.mpg then parseMpg g (mpgField mode) else g

/-- A field of the report is a plain one, the `A:` field or the `MPG:` field. -/
theorem mem_fields {field : List Char} (member : field ∈ r.fields mode a) :
    IsPlain field ∨ field = accessoriesField a ∨ field = mpgField mode := by
  have plain := r.plain field
  simp only [fields] at member
  simp only [List.mem_append] at member plain
  obtain (((before | there) | between) | there) | after := member
  · exact .inl (plain (.inl (.inl before)))
  · exact .inr (.inl (by split at there <;> simp_all))
  · exact .inl (plain (.inl (.inr between)))
  · exact .inr (.inr (by split at there <;> simp_all))
  · exact .inl (plain (.inr after))

theorem mem_fields_token {field : List Char} (member : field ∈ r.fields mode a) :
    IsToken field := by
  obtain plain | rfl | rfl := r.mem_fields mode a member
  · exact plain.1
  · obtain ⟨on, ccw, flood, mist⟩ := a
    cases on <;> cases ccw <;> cases flood <;> cases mist <;> decide
  · cases mode <;> decide

/-- The scan of a field does not depend on what is left of the end of the message. -/
theorem parseField_tail {tail field : List Char} (ending : IsTail tail)
    (member : field ∈ r.fields mode a) (g : GrblData) :
    parseField g (field ++ tail) = parseField g field := by
  have nothing : IsTail [] := by simp [IsTail]
  conv_rhs => rw [← List.append_nil field]
  obtain plain | rfl | rfl := r.mem_fields mode a member
  · rw [parseField_plain g plain ending, parseField_plain g plain nothing]
  · rw [parseField_accessories g a ending, parseField_accessories g a nothing]
  · rw [parseField_mpg, parseField_mpg]

theorem foldl_plain {fields : List (List Char)} (plain : ∀ field ∈ fields, IsPlain field)
    (g : GrblData) : fields.foldl parseField g = g := by
  refine foldl_keeps (P := fun g' => g' = g) fields ?_ rfl
  rintro field member _ rfl
  rw [← List.append_nil field]
  exact parseField_plain _ (plain field member) (by simp [IsTail])

theorem foldl_fields (g : GrblData) :
    (r.fields mode a).foldl parseField g = r.scanned mode a g := by
  have plain := r.plain
  simp only [List.mem_append, or_imp, forall_and] at plain
  have accessories (g : GrblData) : parseField g (accessoriesField a) = g.withAccessories a := by
    rw [← List.append_nil (accessoriesField a)]
    exact parseField_accessories g a (by simp [IsTail])
  have mpg (g : GrblData) : parseField g (mpgField mode) = parseMpg g (mpgField mode) := by
    have whole : parseField g (mpgField mode ++ []) = _ := parseField_mpg g mode
    rwa [List.append_nil] at whole
  simp only [fields, scanned]
  simp only [List.foldl_append, foldl_plain plain.1.1, foldl_plain plain.1.2, foldl_plain plain.2]
  cases r.accessories <;> cases r.mpg <;> simp [accessories, mpg]

/-- What a scan of the report finds, whatever is left of its end. -/
theorem parseLine_text {tail : List Char} (ending : IsTail tail) (g : GrblData) :
    ∃ state substate text,
      parseLine ('<' :: (joined '|' (r.state :: r.fields mode a) ++ tail)) g =
        r.scanned mode a { g with state := state, substate := substate, stateText := text } := by
  have noBar : '|' ∉ tail := by
    intro member
    obtain eq | eq := ending _ member <;> exact absurd eq (by decide)
  have isField {field : List Char} (ok : IsField '|' field) : IsField '|' (field ++ tail) :=
    ⟨by simp [ok.1], by simp [ok.2, noBar]⟩
  obtain none | ⟨init, last, some⟩ := List.eq_nil_or_concat (r.fields mode a)
  · have tokens : strtok '|' (joined '|' [r.state] ++ tail) = [r.state ++ tail] := by
      have := joined_append_last '|' [] r.state tail
      simp only [List.nil_append] at this
      rw [this]
      exact strtok_joined (by simp) (by simpa using isField r.stateToken.1)
    obtain ⟨state, substate, text, eq⟩ := grblParseState_frame (r.state ++ tail) g
    refine ⟨state, substate, text, ?_⟩
    rw [none, parseLine_status tokens, ← r.foldl_fields mode a, none]
    exact eq
  · have tokens : strtok '|' (joined '|' (r.state :: r.fields mode a) ++ tail) =
        r.state :: (init ++ [last ++ tail]) := by
      rw [some, List.concat_eq_append, ← List.cons_append, joined_append_last, List.cons_append]
      refine strtok_joined (by simp) ?_
      intro field member
      have token (field : List Char) (member : field ∈ init ++ [last]) : IsField '|' field :=
        (r.mem_fields_token mode a (by rwa [some, List.concat_eq_append])).1
      simp only [List.mem_cons, List.mem_append, List.not_mem_nil, or_false] at member
      obtain rfl | member | rfl := member
      · exact r.stateToken.1
      · exact token field (by simp [member])
      · exact isField (token last (by simp))
    obtain ⟨state, substate, text, eq⟩ := grblParseState_frame r.state g
    refine ⟨state, substate, text, ?_⟩
    rw [parseLine_status tokens, ← r.foldl_fields mode a, some, List.concat_eq_append,
      List.foldl_append, List.foldl_append, eq]
    exact r.parseField_tail mode a ending (by simp [some]) _

/-- The report without its end fits the line buffer, whichever of the two fields it has. -/
theorem length_joined_fields :
    (joined '|' (r.state :: r.fields mode a)).length ≤ 251 := by
  have letters : (accessoriesField a).length ≤ 5 := by
    obtain ⟨on, ccw, flood, mist⟩ := a
    cases on <;> cases ccw <;> cases flood <;> cases mist <;> decide
  have digit : (mpgField mode).length = 5 := by cases mode <;> rfl
  have cost (present : Bool) (field : List Char) :
      (if present then [field] else []).flatten.length +
        (if present then [field] else []).length ≤ field.length + 1 := by
    cases present <;> simp
  have first := cost r.accessories (accessoriesField a)
  have second := cost r.mpg (mpgField mode)
  have without := length_joined '|' (List.cons_ne_nil r.state (r.before ++ r.between ++ r.after))
  have whole := length_joined '|' (List.cons_ne_nil r.state (r.fields mode a))
  have fits := r.fits
  simp only [fields, List.flatten_cons, List.flatten_append, List.length_append,
    List.length_cons] at without whole first second ⊢
  omega

theorem not_mem_joined_fields : '\x00' ∉ joined '|' (r.state :: r.fields mode a) := by
  intro member
  obtain eq | ⟨field, among, inside⟩ := mem_joined member
  · exact absurd eq (by decide)
  · obtain rfl | among := List.mem_cons.mp among
    · exact r.stateToken.2 inside
    · exact (r.mem_fields_token mode a among).2 inside

/-- Three scans make the report's effect complete: the first of them may only turn the mode off,
and the next ones, which find it off, clear the marks. -/
theorem scanned_thrice (g : GrblData) (state₁ state₂ state₃ : GrblState)
    (substate₁ substate₂ substate₃ : BitVec 8) (text₁ text₂ text₃ : List Char) :
    r.scanned mode a
        { r.scanned mode a
            { r.scanned mode a
                { g with state := state₁, substate := substate₁, stateText := text₁ }
              with state := state₂, substate := substate₂, stateText := text₂ }
          with state := state₃, substate := substate₃, stateText := text₃ } =
      { g.reported r mode a with
        state := state₃, substate := substate₃, stateText := text₃ } := by
  obtain ⟨_, _, _, _, _, _, _, known, _, _⟩ := g
  simp only [scanned, GrblData.reported]
  cases r.accessories <;> cases r.mpg <;> cases mode <;> cases known <;>
    simp [GrblData.withAccessories, GrblData.withMpg, parseMpg, mpgField]

/-- One callback with the report as it arrives. -/
theorem grblCallback_text (g : GrblData) :
    ∃ state substate text, grblCallback (r.text mode a) g =
      { g.reported r mode a with state := state, substate := substate, stateText := text } := by
  have clean : ∀ c ∈ joined '|' (r.state :: r.fields mode a) ++ ['>', '\r', '\n'], c ≠ '\x00' := by
    intro c member
    obtain inside | ending := List.mem_append.mp member
    · exact ne_of_mem_of_not_mem inside (r.not_mem_joined_fields mode a)
    · have apart : '\x00' ∉ ['>', '\r', '\n'] := by decide
      exact ne_of_mem_of_not_mem ending apart
  have fits : (joined '|' (r.state :: r.fields mode a)).length + 2 < maxBlockLength - 1 := by
    have := r.length_joined_fields mode a
    simp only [maxBlockLength]
    omega
  have scan (tail : List Char) (ending : IsTail tail) := r.parseLine_text mode a ending
  obtain ⟨state₁, substate₁, text₁, eq₁⟩ := scan ['>', '\r'] (by simp [IsTail]) g
  obtain ⟨state₂, substate₂, text₂, eq₂⟩ := scan ['>'] (by simp [IsTail]) (r.scanned mode a
    { g with state := state₁, substate := substate₁, stateText := text₁ })
  obtain ⟨state₃, substate₃, text₃, eq₃⟩ := scan [] (by simp [IsTail]) (r.scanned mode a
    { r.scanned mode a { g with state := state₁, substate := substate₁, stateText := text₁ }
      with state := state₂, substate := substate₂, stateText := text₂ })
  refine ⟨state₃, substate₃, text₃, ?_⟩
  rw [List.append_nil] at eq₃
  rw [← r.scanned_thrice mode a g state₁ state₂ state₃ substate₁ substate₂ substate₃
    text₁ text₂ text₃, ← eq₃, ← eq₂, ← eq₁]
  exact grblCallback_status g clean fits

end StatusReport

end Cnc
