import CncMachine.Comm.Core

/-!
# The three scans of a callback

What the callback does to a text that begins like a status report, like a line in brackets, or like
none of them: a report and a line in brackets lose one character in each scan, any other line is
scanned unchanged.
-/

namespace Cnc.Comm

open Text

/-- `grbl_data` at the start of a callback: no copy has gone too far yet. -/
def Data.started (g : Data) : Data := { g with overrun := false }

section

variable {block : List Char}

theorem cString_of_clean (clean : '\x00' ∉ block) : cString block = block := by
  rw [← List.append_nil block, cString_append clean]
  rfl

theorem State.parseData_eq (s : State) (block : List Char) :
    s.parseData block = (Comm.parseData block s.data).map fun (block, g) =>
      (block, { s with data := g }) := by
  rw [State.parseData]
  cases Comm.parseData block s.data <;> rfl

/-- The callback on a text without NUL. -/
theorem callback_of_clean (clean : '\x00' ∉ block) (s : State) :
    callback block s = (parseData block s.data.started).bind fun (block, g) =>
      (parseSettings block { s with data := g }).bind fun (block, s) => parseInfo block s := by
  have start : ({ s with data := { s.data with overrun := false } } : State) =
      { s with data := s.data.started } := rfl
  simp only [callback, cString_of_clean clean, start, State.parseData_eq]
  cases parseData block s.data.started <;> rfl

/-- What `parseInfo` does not know it hands on. -/
theorem parseInfo_other (other : block ≠ "ok".toList) (bracket : block.head? ≠ some '[')
    (s : State) : parseInfo block s = (s.parseData block).map (·.2) := by
  have unlabelled {label : List Char} (head : label.head? = some '[') :
      ¬ startsWith block label = true := by
    intro starts
    obtain ⟨rest, rfl⟩ := startsWith_iff.mp starts
    exact bracket (by simp [List.head?_append, head])
  rw [parseInfo, if_neg other, if_neg (unlabelled rfl), if_neg (unlabelled rfl)]

end

section

/-- A report or a line in brackets, or what is left of one that had no text. -/
def Begins (c : Char) (block : List Char) : Prop := block = [] ∨ block.head? = some c

variable {c : Char} {block block' body : List Char}

theorem Begins.dropLast (begins : Begins c block) : Begins c block.dropLast := by
  match block with
  | [] => exact .inl rfl
  | [_] => exact .inl rfl
  | first :: second :: rest =>
      refine .inr ?_
      rw [List.dropLast_cons_cons, List.head?_cons]
      exact begins.resolve_left nofun

theorem Begins.after_scan (begins : Begins c block) {g g' : Data}
    (eq : parseData block g = some (block', g')) : Begins c block' := by
  simp only [parseData, Option.bind_eq_bind, Option.pure_def] at eq
  split at eq
  · rw [← (Prod.mk.inj (Option.some.inj eq)).1]
    exact begins
  · split at eq
    · cases eq
    · obtain ⟨next, -, pair⟩ := Option.bind_eq_some_iff.mp eq
      rw [← (Prod.mk.inj (Option.some.inj pair)).1, stripLast]
      split
      · exact begins.dropLast
      · exact begins

theorem Begins.not_ok (begins : Begins c block) (long : c = '<' ∨ c = '[') :
    block ≠ "ok".toList := by
  rintro rfl
  obtain rfl | rfl := long <;> simp [Begins] at begins

theorem Begins.settings_scan (begins : Begins c block) (long : c = '<' ∨ c = '[') (s : State) :
    parseSettings block s = s.parseData block := by
  have noSetting : block.head? ≠ some '$' := by
    intro head
    obtain rfl | begins := begins
    · cases head
    · rw [head] at begins
      obtain rfl | rfl := long <;> cases begins
  rw [parseSettings, if_neg (begins.not_ok long), if_neg fun h => noSetting h.1,
    if_neg fun h => noSetting h.1]

theorem Begins.info_scan (begins : Begins '<' block) (s : State) :
    parseInfo block s = (s.parseData block).map (·.2) := by
  apply parseInfo_other (begins.not_ok (.inl rfl))
  intro head
  obtain rfl | begins := begins
  · cases head
  · rw [head] at begins
    cases begins

variable (last : Char) (g : Data)

/-- What `parseData` makes of a report or of a line in brackets. -/
def parseLong (c : Char) (g : Data) (body : List Char) : Option Data :=
  if c = '<' then parseStatus g body else some (parseBracket g body)

theorem parseData_long (long : c = '<' ∨ c = '[') (fits : body.length + 2 < maxBlockLength) :
    parseData (c :: (body ++ [last])) g =
      (parseLong c g body).map fun g => (c :: body, g) := by
  have strip : stripLast (c :: (body ++ [last])) = c :: body := by
    rw [stripLast, if_pos (by simpa using long), ← List.cons_append, List.dropLast_concat]
  have whole : (c :: body).take (maxBlockLength - 1) = c :: body := by
    rw [List.take_of_length_le]
    simp only [List.length_cons]
    omega
  have line : parseLine g (c :: body) = parseLong c g body := by
    obtain rfl | rfl := long <;> rfl
  have begins : Begins c (c :: (body ++ [last])) := .inr rfl
  rw [parseData, if_neg (begins.not_ok long), if_neg (by simp; omega), strip, whole, line]
  cases parseLong c g body <;> rfl

theorem State.parseData_long (s : State) (long : c = '<' ∨ c = '[')
    (fits : body.length + 2 < maxBlockLength) :
    s.parseData (c :: (body ++ [last])) =
      (parseLong c s.data body).map fun g => (c :: body, { s with data := g }) := by
  rw [State.parseData, Comm.parseData_long last s.data long fits]
  cases parseLong c s.data body <;> rfl

theorem parseSettings_long (s : State) (long : c = '<' ∨ c = '[')
    (fits : body.length + 2 < maxBlockLength) :
    parseSettings (c :: (body ++ [last])) s =
      (parseLong c s.data body).map fun g => (c :: body, { s with data := g }) := by
  have begins : Begins c (c :: (body ++ [last])) := .inr rfl
  rw [begins.settings_scan long, State.parseData_long last s long fits]

theorem parseInfo_long (s : State) (long : c = '<' ∨ c = '[')
    (version : ¬ "[VER:".toList <+: c :: (body ++ [last]))
    (options : ¬ "[NEWOPT:".toList <+: c :: (body ++ [last]))
    (fits : body.length + 2 < maxBlockLength) :
    parseInfo (c :: (body ++ [last])) s =
      (parseLong c s.data body).map fun g => { s with data := g } := by
  have begins : Begins c (c :: (body ++ [last])) := .inr rfl
  rw [parseInfo, if_neg (begins.not_ok long), if_neg (by rwa [startsWith_iff]),
    if_neg (by rwa [startsWith_iff]),
    State.parseData_long last s long fits]
  cases parseLong c s.data body <;> rfl

/-- A report or a line in brackets is scanned without its last, its last two and its last three
characters. -/
theorem callback_long {last₁ last₂ last₃ : Char} (s : State) (long : c = '<' ∨ c = '[')
    (version : ¬ "[VER:".toList <+: c :: (body ++ [last₁]))
    (options : ¬ "[NEWOPT:".toList <+: c :: (body ++ [last₁]))
    (clean : '\x00' ∉ body ++ [last₁, last₂, last₃])
    (fits : body.length + 4 < maxBlockLength) :
    callback (c :: (body ++ [last₁, last₂, last₃])) s =
      ((parseLong c s.data.started (body ++ [last₁, last₂])).bind fun g =>
        (parseLong c g (body ++ [last₁])).bind fun g =>
          parseLong c g body).map fun g => { s with data := g } := by
  have clean' : '\x00' ∉ c :: (body ++ [last₁, last₂, last₃]) := by
    rw [List.mem_cons, not_or]
    refine ⟨?_, clean⟩
    obtain rfl | rfl := long <;> decide
  have whole : c :: (body ++ [last₁, last₂, last₃]) = c :: (body ++ [last₁, last₂] ++ [last₃]) := by
    simp
  have two : body ++ [last₁, last₂] = body ++ [last₁] ++ [last₂] := by simp
  rw [callback_of_clean clean', whole, parseData_long last₃ _ long (by simp; omega)]
  cases parseLong c s.data.started (body ++ [last₁, last₂]) with
  | none => rfl
  | some g₁ =>
      simp only [Option.map_some, Option.bind_some]
      rw [two, parseSettings_long last₂ _ long (by simp; omega)]
      cases parseLong c g₁ (body ++ [last₁]) with
      | none => rfl
      | some g₂ => exact parseInfo_long last₁ _ long version options (by omega)

theorem exists_last_three {tail : List Char} (three : 3 ≤ tail.length) :
    ∃ front last₁ last₂ last₃, tail = front ++ [last₁, last₂, last₃] := by
  have length : (tail.drop (tail.length - 3)).length = 3 := by
    rw [List.length_drop]
    omega
  obtain ⟨last₁, last₂, last₃, eq⟩ := List.length_eq_three.mp length
  exact ⟨tail.take (tail.length - 3), last₁, last₂, last₃, by rw [← eq, List.take_append_drop]⟩

/-- When every scan reads the same, however much of the end it still has, the callback reads it
three times. -/
theorem callback_steady {text tail : List Char} (s : State) (long : c = '<' ∨ c = '[')
    (version : ¬ "[VER:".toList <+: c :: (text ++ tail))
    (options : ¬ "[NEWOPT:".toList <+: c :: (text ++ tail))
    (clean : '\x00' ∉ text ++ tail) (fits : text.length + tail.length + 1 < maxBlockLength)
    (three : 3 ≤ tail.length) {read : Data → Option Data}
    (steady : ∀ cut, cut <+: tail → ∀ g, parseLong c g (text ++ cut) = read g) :
    callback (c :: (text ++ tail)) s =
      ((read s.data.started).bind fun g => (read g).bind read).map fun g =>
        { s with data := g } := by
  obtain ⟨front, last₁, last₂, last₃, rfl⟩ := exists_last_three three
  have starts : c :: (text ++ front ++ [last₁]) <+:
      c :: (text ++ (front ++ [last₁, last₂, last₃])) :=
    ⟨[last₂, last₃], by simp⟩
  simp only [List.length_append, List.length_cons, List.length_nil] at fits
  rw [← List.append_assoc] at clean
  have scans := callback_long s long (fun h => version (h.trans starts))
    (fun h => options (h.trans starts)) clean (by rw [List.length_append]; omega)
  rw [← List.append_assoc, scans]
  have first := steady (front ++ [last₁, last₂]) ⟨[last₃], by simp⟩
  have second := steady (front ++ [last₁]) ⟨[last₂, last₃], by simp⟩
  have third := steady front ⟨[last₁, last₂, last₃], rfl⟩
  simp only [List.append_assoc, first, second, third]

end

variable {block : List Char}

/-- A block that fills the buffer has no terminator. -/
theorem callback_full {c : Char} {body : List Char} (s : State) (long : c = '<' ∨ c = '[')
    (clean : '\x00' ∉ c :: body) (full : maxBlockLength ≤ (c :: body).length) :
    callback (c :: body) s = none := by
  have begins : Begins c (c :: body) := .inr rfl
  rw [callback_of_clean clean, parseData, if_neg (begins.not_ok long), if_pos]
  · rfl
  · exact ⟨by simpa using long, full⟩

/-- A block that is neither a report nor a line in brackets. -/
def Plain (block : List Char) : Prop :=
  block.head? ≠ some '<' ∧ block.head? ≠ some '[' ∧ block ≠ "ok".toList

theorem parseData_plain (plain : Plain block) (g : Data) :
    parseData block g = some (block, parseResponse g (block.take (maxBlockLength - 1))) := by
  obtain ⟨status, bracket, other⟩ := plain
  have short : stripLast block = block := by
    rw [stripLast, if_neg]
    rintro (h | h)
    · exact status h
    · exact bracket h
  have line : parseLine g (block.take (maxBlockLength - 1)) =
      some (parseResponse g (block.take (maxBlockLength - 1))) := by
    cases block with
    | nil => rfl
    | cons c body =>
        rw [maxBlockLength, List.take_succ_cons, parseLine]
        · rintro _ ⟨⟩
          exact status rfl
        · rintro _ ⟨⟩
          exact bracket rfl
  rw [parseData, if_neg other, if_neg (fun full => full.1.elim status bracket), short, line]
  rfl

theorem State.parseData_plain (plain : Plain block) (s : State) :
    s.parseData block = some (block,
      { s with data := parseResponse s.data (block.take (maxBlockLength - 1)) }) := by
  rw [State.parseData, Comm.parseData_plain plain]
  rfl

theorem parseInfo_plain (plain : Plain block) (s : State) :
    parseInfo block s =
      some { s with data := parseResponse s.data (block.take (maxBlockLength - 1)) } := by
  rw [parseInfo_other plain.2.2 plain.2.1, State.parseData_plain plain]
  rfl

/-- A line that is no setting either is scanned three times, unchanged. -/
theorem callback_plain (plain : Plain block) (clean : '\x00' ∉ block)
    (noSetting : block.head? = some '$' → '=' ∉ block ∧ block.length < maxBlockLength)
    (s : State) :
    callback block s =
      some { s with
        data := (fun g => parseResponse g (block.take (maxBlockLength - 1)))^[3]
          s.data.started } := by
  have settings (s : State) : parseSettings block s = s.parseData block := by
    rw [parseSettings, if_neg plain.2.2, if_neg fun h => (noSetting h.1).1 h.2, if_neg]
    rintro ⟨head, full⟩
    exact absurd (noSetting head).2 (by omega)
  simp only [callback_of_clean clean, parseData_plain plain, settings,
    State.parseData_plain plain, parseInfo_plain plain, Option.bind_some]
  rfl

variable {body : List Char}

theorem plain_setting (body : List Char) : Plain ('$' :: body) := by
  refine ⟨?_, ?_, ?_⟩ <;> simp

theorem parseResponse_setting (g : Data) (body : List Char) :
    parseResponse g ('$' :: body) = g := rfl

/-- A settings line stores its value once, if its tokens are found. -/
theorem callback_setting (s : State) (clean : '\x00' ∉ '$' :: body) (equals : '=' ∈ body) :
    callback ('$' :: body) s = (settingTokens ('$' :: body)).map fun (number, value) =>
      let setting := BitVec.ofInt 32 (atoi number)
      storeSetting setting (atof value) { s with data := s.data.started, setting := setting } := by
  have plain := plain_setting body
  have equals' : '=' ∈ '$' :: body := List.mem_cons_of_mem _ equals
  have scan (s : State) (body : List Char) : { s with
      data := parseResponse s.data (('$' :: body).take (maxBlockLength - 1)) } = s := by
    rw [maxBlockLength, List.take_succ_cons, parseResponse_setting]
  have first (g : Data) : parseData ('$' :: body) g = some ('$' :: body, g) := by
    rw [parseData_plain plain, maxBlockLength, List.take_succ_cons, parseResponse_setting]
  have info (s : State) : parseInfo (cutSetting ('$' :: body)) s = some s := by
    rw [cutSetting, List.cons_append, parseInfo_plain (plain_setting _), scan]
  simp only [callback_of_clean clean, first, Option.bind_some]
  rw [parseSettings, if_neg plain.2.2, if_pos ⟨rfl, equals'⟩]
  cases settingTokens ('$' :: body) with
  | none => rfl
  | some tokens =>
      simp only [Option.bind_eq_bind, Option.bind_some, Option.map_some, Option.pure_def, info,
        Data.started]

end Cnc.Comm
