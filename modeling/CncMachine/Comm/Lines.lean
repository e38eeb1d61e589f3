import CncMachine.Comm.Modal
import CncMachine.Comm.Scans

/-!
# The controller's answers

A line that is no report comes with its end of line, which the callback leaves in the block. Numbers
end there and messages lose it from scan to scan, but `ok` is not recognised any more, and the
second scan of a welcome line takes back the marks of what the first one cleared. Lines in brackets
and settings need a terminator in the buffer. `readOnce_iff` says when such a line is read as a
single scan of the bare line reads it.
-/

namespace Cnc.Comm

open Text

/-- A line with which the controller answers. -/
inductive ResponseLine where
  | ok
  | error (n : Nat)
  | alarm (n : Nat)
  | welcome (rest : List Char)
  | message (text : List Char)
  | modes (words : List Char)
  | setting (n : Nat) (value : List Char)

/-- The end of a line. -/
def crlf : List Char := "\r\n".toList

namespace ResponseLine

/-- The bare line. -/
def text : ResponseLine → List Char
  | ok => "ok".toList
  | error n => "error:".toList ++ Nat.toDigits 10 n
  | alarm n => "ALARM:".toList ++ Nat.toDigits 10 n
  | welcome rest => "Grbl".toList ++ rest
  | message text => "[MSG:".toList ++ (text ++ [']'])
  | modes words => "[GC:".toList ++ (words ++ [']'])
  | setting n value => '$' :: (Nat.toDigits 10 n ++ '=' :: value)

/-- No line has a NUL, and no value starts with a second equals sign. -/
def Ok : ResponseLine → Prop
  | welcome rest => '\x00' ∉ rest
  | message text => '\x00' ∉ text
  | modes words => '\x00' ∉ words
  | setting _ value => '\x00' ∉ value ∧ value.head? ≠ some '='
  | _ => True

/-- What a line stores beside `grbl_data`. -/
def stored (s : State) : ResponseLine → State
  | setting n value =>
      let setting := BitVec.ofInt 32 (atoi (Nat.toDigits 10 n))
      storeSetting setting (atof value) { s with setting := setting }
  | _ => s

/-- The callback changes `grbl_data` as one scan of the bare line does, and stores a setting
once. -/
def ReadOnce (s : State) (line : ResponseLine) : Prop :=
  ∃ s', callback (line.text ++ crlf) s = some s' ∧
    (parseData line.text s.data.started).map (·.2) = some s'.data ∧
    s' = { line.stored s with data := s'.data }

/-- There is nothing to acknowledge, nothing to clear, or room for the terminator. -/
def Unharmed (s : State) (line : ResponseLine) : Prop :=
  match line with
  | ok => s.data.changed.awaitAck = false ∧ s.data.error = 0 ∧ s.data.changed.error = false ∧
      s.data.alarm = 0
  | welcome _ => s.data.message = [] ∧ s.data.alarm = 0 ∧ s.data.error = 0
  | message _ => line.text.length + 2 < maxBlockLength
  | modes _ => line.text.length + 2 < maxBlockLength
  | setting _ value => '=' ∈ value ∨ line.text.length + 2 < maxBlockLength
  | _ => True

variable {s : State} {line : ResponseLine}

theorem readOnce_iff_of_callback {s' : State}
    (parsed : callback (line.text ++ crlf) s = some s') :
    line.ReadOnce s ↔ (parseData line.text s.data.started).map (·.2) = some s'.data ∧
      s' = { line.stored s with data := s'.data } := by
  constructor
  · rintro ⟨_, eq, rest⟩
    rw [parsed, Option.some.injEq] at eq
    subst eq
    exact rest
  · exact fun rest => ⟨s', parsed, rest⟩

theorem not_readOnce (faults : callback (line.text ++ crlf) s = none) : ¬ line.ReadOnce s := by
  rintro ⟨s', eq, -⟩
  rw [faults] at eq
  cases eq

theorem nul_not_mem_line (ok : line.Ok) : '\x00' ∉ line.text ++ crlf := by
  have digits (n : Nat) : '\x00' ∉ Nat.toDigits 10 n := not_mem_toDigits n (by decide)
  apply List.not_mem_append ?_ (by decide)
  cases line with
  | ok => decide
  | error n => exact List.not_mem_append (by decide) (digits n)
  | alarm n => exact List.not_mem_append (by decide) (digits n)
  | welcome rest => exact List.not_mem_append (by decide) ok
  | message text =>
      exact List.not_mem_append (by decide) (List.not_mem_append ok (by decide))
  | modes words =>
      exact List.not_mem_append (by decide) (List.not_mem_append ok (by decide))
  | setting n value =>
      have behind : '\x00' ∉ '=' :: value := List.not_mem_cons_of_ne_of_not_mem (by decide) ok.1
      exact List.not_mem_cons_of_ne_of_not_mem (by decide) (List.not_mem_append (digits n) behind)

/-- The block may be cut in the end of the line. -/
theorem take_line {text : List Char} (fits : text.length + 2 ≤ maxBlockLength) (tail : List Char) :
    ∃ cut, Breaks cut ∧ (text ++ crlf ++ tail).take (maxBlockLength - 1) = text ++ cut := by
  obtain ⟨n, room⟩ : ∃ n, maxBlockLength - 1 = text.length + (n + 1) :=
    ⟨maxBlockLength - 2 - text.length, by omega⟩
  refine ⟨'\r' :: ('\n' :: tail).take n, breaks_cons.mpr (by decide), ?_⟩
  rw [room, List.append_assoc, List.take_length_add_append]
  rfl

theorem parseResponse_error (g : Data) (rest : List Char) :
    parseResponse g ("error:".toList ++ rest) =
      { g with error := byteOf rest, changed := { g.changed with error := true } } := by
  simp [parseResponse, startsWith]

theorem parseResponse_alarm (g : Data) (rest : List Char) :
    parseResponse g ("ALARM:".toList ++ rest) =
      { g with alarm := byteOf rest, changed := { g.changed with alarm := true } } := by
  simp [parseResponse, startsWith]

theorem parseResponse_welcome (g : Data) (rest : List Char) :
    parseResponse g ("Grbl".toList ++ rest) = grblClearMessage (grblClearAlarm (grblClearError
      { g with changed := { g.changed with reset := true } })) := by
  simp [parseResponse, startsWith]

theorem byteOf_toDigits (n : Nat) {tail : List Char} (breaks : Breaks tail) :
    byteOf (Nat.toDigits 10 n ++ tail) = byteOf (Nat.toDigits 10 n) := by
  rw [byteOf, byteOf, atoi_toDigits_append n breaks]

/-- Every scan of the line does the same, whatever text without a number stands behind it. -/
structure Scanned (line : ResponseLine) (read : Data → Data) : Prop where
  plain : ∀ tail, tail ≠ [] → Plain (line.text ++ tail)
  noSetting : ∀ tail, (line.text ++ tail).head? ≠ some '$'
  scan : ∀ g tail, Breaks tail → parseResponse g (line.text ++ tail) = read g

theorem scanned_ok : ok.Scanned id := by
  have eq : ok.text = "ok".toList := rfl
  refine ⟨?_, by simp [eq], ?_⟩
  · intro tail nonempty
    simp [Plain, eq, nonempty]
  · intro g tail _
    simp [parseResponse, startsWith, eq]

theorem scanned_error (n : Nat) : (error n).Scanned fun g =>
    { g with
      error := byteOf (Nat.toDigits 10 n)
      changed := { g.changed with error := true } } := by
  have eq : (error n).text = "error:".toList ++ Nat.toDigits 10 n := rfl
  refine ⟨by simp [Plain, eq], by simp [eq], ?_⟩
  intro g tail breaks
  rw [eq, List.append_assoc, parseResponse_error, byteOf_toDigits n breaks]

theorem scanned_alarm (n : Nat) : (alarm n).Scanned fun g =>
    { g with
      alarm := byteOf (Nat.toDigits 10 n)
      changed := { g.changed with alarm := true } } := by
  have eq : (alarm n).text = "ALARM:".toList ++ Nat.toDigits 10 n := rfl
  refine ⟨by simp [Plain, eq], by simp [eq], ?_⟩
  intro g tail breaks
  rw [eq, List.append_assoc, parseResponse_alarm, byteOf_toDigits n breaks]

theorem scanned_welcome (rest : List Char) : (welcome rest).Scanned fun g =>
    grblClearMessage (grblClearAlarm (grblClearError
      { g with changed := { g.changed with reset := true } })) := by
  have eq : (welcome rest).text = "Grbl".toList ++ rest := rfl
  refine ⟨by simp [Plain, eq], by simp [eq], ?_⟩
  intro g tail _
  rw [eq, List.append_assoc, parseResponse_welcome]

/-- The callback scans the line three times, whatever lines stand behind it. -/
theorem Scanned.callback {read : Data → Data} (scanned : line.Scanned read) (ok : line.Ok)
    (fits : line.text.length + 2 ≤ maxBlockLength) {tail : List Char} (clean : '\x00' ∉ tail)
    (s : State) : callback (line.text ++ crlf ++ tail) s =
      some { s with data := read (read (read s.data.started)) } := by
  obtain ⟨cut, breaks, eq⟩ := take_line fits tail
  have plain : Plain (line.text ++ crlf ++ tail) := by
    rw [List.append_assoc]
    exact scanned.plain _ (by simp [crlf])
  have noSetting : (line.text ++ crlf ++ tail).head? ≠ some '$' := by
    rw [List.append_assoc]
    exact scanned.noSetting _
  rw [callback_plain plain (List.not_mem_append (nul_not_mem_line ok) clean)
    fun h => absurd h noSetting, eq]
  simp only [scanned.scan _ _ breaks]
  rfl

/-- Such a line is read once if repeating it changes nothing. -/
theorem readOnce_iff_again {read : Data → Data} (scanned : line.Scanned read) (ok : line.Ok)
    (plain : Plain line.text) (fits : line.text.length + 2 ≤ maxBlockLength)
    (stored : line.stored s = s) :
    line.ReadOnce s ↔ read (read (read s.data.started)) = read s.data.started := by
  have bare : line.text.take (maxBlockLength - 1) = line.text ++ [] := by
    rw [List.append_nil, List.take_of_length_le]
    omega
  have parsed := scanned.callback ok fits List.not_mem_nil s
  rw [List.append_nil] at parsed
  rw [readOnce_iff_of_callback parsed, parseData_plain plain, bare,
    scanned.scan _ _ breaks_nil, stored]
  simp only [Option.map_some, Option.some.injEq, and_true]
  exact eq_comm

theorem readOnce_error (n : Nat) (fits : (error n).text.length + 2 ≤ maxBlockLength) :
    (error n).ReadOnce s := by
  have eq : (error n).text = "error:".toList ++ Nat.toDigits 10 n := rfl
  have ok : (error n).Ok := trivial
  rw [readOnce_iff_again (scanned_error n) ok (by simp [Plain, eq]) fits rfl]

theorem readOnce_alarm (n : Nat) (fits : (alarm n).text.length + 2 ≤ maxBlockLength) :
    (alarm n).ReadOnce s := by
  have eq : (alarm n).text = "ALARM:".toList ++ Nat.toDigits 10 n := rfl
  have ok : (alarm n).Ok := trivial
  rw [readOnce_iff_again (scanned_alarm n) ok (by simp [Plain, eq]) fits rfl]

/-- The second scan of a welcome line finds everything cleared. -/
theorem readOnce_welcome {rest : List Char} (ok : (welcome rest).Ok)
    (fits : (welcome rest).text.length + 2 ≤ maxBlockLength) :
    (welcome rest).ReadOnce s ↔ (welcome rest).Unharmed s := by
  have eq : (welcome rest).text = "Grbl".toList ++ rest := rfl
  rw [readOnce_iff_again (scanned_welcome rest) ok (by simp [Plain, eq]) fits rfl]
  simp [Unharmed, grblClearMessage, grblClearAlarm, grblClearError, Data.started]

theorem acknowledge_clears (g : Data) :
    (acknowledge g).error = 0 ∧ (acknowledge g).alarm = 0 ∧
      (acknowledge g).changed.awaitAck = false ∧
      (acknowledge g).changed.error = (g.error != 0) := by
  simp only [acknowledge]
  split
  · exact ⟨rfl, rfl, rfl, rfl⟩
  · next alarm => exact ⟨rfl, not_not.mp alarm, rfl, rfl⟩

theorem acknowledge_eq_self_iff (g : Data) :
    acknowledge g = g ↔
      g.changed.awaitAck = false ∧ g.error = 0 ∧ g.changed.error = false ∧ g.alarm = 0 := by
  constructor
  · intro same
    obtain ⟨error, alarm, awaitAck, changed⟩ := acknowledge_clears g
    rw [same] at error alarm awaitAck changed
    rw [error] at changed
    exact ⟨awaitAck, error, changed, alarm⟩
  · rintro ⟨awaitAck, error, changed, alarm⟩
    have held : acknowledge g =
        { g with
          error := g.error
          changed := { g.changed with
            awaitAck := g.changed.awaitAck
            error := g.changed.error } } := by
      rw [awaitAck, changed, error]
      simp [acknowledge, grblClearError, error, alarm]
    exact held

/-- The end of the line hides the acknowledgement. -/
theorem readOnce_ok : ok.ReadOnce s ↔ ok.Unharmed s := by
  have parsed := scanned_ok.callback trivial (by decide) List.not_mem_nil s
  rw [List.append_nil] at parsed
  have bare : parseData ok.text s.data.started = some (ok.text, acknowledge s.data.started) :=
    if_pos rfl
  rw [readOnce_iff_of_callback parsed, bare]
  simp only [Option.map_some, Option.some.injEq, stored, and_true, id_eq]
  exact acknowledge_eq_self_iff s.data.started

/-- A line in brackets needs room for the terminator. -/
theorem readOnce_bracket (ok : line.Ok) {body : List Char}
    (eq : line.text = '[' :: (body ++ [']']))
    (version : ¬ "[VER:".toList <+: '[' :: (body ++ [']']))
    (options : ¬ "[NEWOPT:".toList <+: '[' :: (body ++ [']']))
    (fits : line.text.length + 2 ≤ maxBlockLength) (stored : line.stored s = s)
    (again : ∀ g, parseBracket (parseBracket (parseBracket g (body ++ [']', '\r']))
      (body ++ [']'])) body = parseBracket g body) :
    line.ReadOnce s ↔ line.text.length + 2 < maxBlockLength := by
  have clean := nul_not_mem_line ok
  have whole : line.text ++ crlf = '[' :: (body ++ [']', '\r', '\n']) := by
    rw [eq, crlf]
    simp
  have length : line.text.length = body.length + 2 := by
    rw [eq, List.length_cons, List.length_append, List.length_singleton]
  rw [whole] at clean
  constructor
  · intro read
    by_contra full
    refine not_readOnce ?_ read
    rw [whole]
    apply callback_full s (.inr rfl) clean
    simp only [List.length_cons, List.length_append, List.length_nil]
    omega
  · intro room
    have scans := callback_long s (.inr rfl) version options
      (List.not_mem_of_not_mem_cons clean) (by omega)
    have parsed : callback (line.text ++ crlf) s =
        some { s with data := parseBracket s.data.started body } := by
      rw [whole, scans, ← again]
      rfl
    rw [readOnce_iff_of_callback parsed, eq, parseData_long ']' _ (.inr rfl) (by omega), stored]
    exact ⟨rfl, rfl⟩

theorem parseBracket_message (g : Data) (text : List Char) :
    parseBracket g ("MSG:".toList ++ text) =
      { g with message := text.take 250, changed := { g.changed with message := true } } := by
  simp [parseBracket, startsWith]

theorem parseBracket_modes (g : Data) (words : List Char) :
    parseBracket g ("GC:".toList ++ words) = (strtok ' ' words).foldl parseModalWord g := by
  simp [parseBracket, startsWith]

theorem readOnce_message {text : List Char} (ok : (message text).Ok)
    (fits : (message text).text.length + 2 ≤ maxBlockLength) :
    (message text).ReadOnce s ↔ (message text).Unharmed s := by
  have eq : (message text).text = '[' :: ("MSG:".toList ++ text ++ [']']) := by
    have eq : (message text).text = "[MSG:".toList ++ (text ++ [']']) := rfl
    simp [eq]
  apply readOnce_bracket ok eq (by simp) (by simp) fits rfl
  intro g
  simp only [List.append_assoc, parseBracket_message]

theorem readOnce_modes {words : List Char} (ok : (modes words).Ok)
    (fits : (modes words).text.length + 2 ≤ maxBlockLength) :
    (modes words).ReadOnce s ↔ (modes words).Unharmed s := by
  have eq : (modes words).text = '[' :: ("GC:".toList ++ words ++ [']']) := by
    have eq : (modes words).text = "[GC:".toList ++ (words ++ [']']) := rfl
    simp [eq]
  apply readOnce_bracket ok eq (by simp) (by simp) fits rfl
  intro g
  have first : ' ' ∉ ['\r'] := by decide
  simp only [List.append_assoc, parseBracket_modes, parseModalWords_bracket _ _ first,
    parseModalWords_bracket _ _ List.not_mem_nil, parseModalWords_again]

/-- A line of modes is scanned as its words, if no mode stands behind it. -/
theorem callback_modes_line {words tail : List Char} (ok : (modes words).Ok)
    (clean : '\x00' ∉ tail)
    (fits : ((modes words).text ++ crlf ++ tail).length < maxBlockLength)
    (modeless : ∀ word ∈ behind ' ' tail, Modeless word) (s : State) :
    callback ((modes words).text ++ crlf ++ tail) s =
      some { s with data := (strtok ' ' words).foldl parseModalWord s.data.started } := by
  have eq : (modes words).text ++ crlf ++ tail =
      '[' :: ("GC:".toList ++ words ++ ']' :: (crlf ++ tail)) := by
    have eq : (modes words).text = "[GC:".toList ++ (words ++ [']']) := rfl
    simp [eq]
  have clean := List.not_mem_append (nul_not_mem_line ok) clean
  rw [eq] at clean fits ⊢
  have room : ("GC:".toList ++ words).length + (']' :: (crlf ++ tail)).length + 1 <
      maxBlockLength := by
    rw [← List.length_append]
    exact fits
  have three : 3 ≤ (']' :: (crlf ++ tail)).length := by simp [crlf]
  have behindLine : behind ' ' (crlf ++ tail) = behind ' ' tail := behind_append (by decide) tail
  have steady (cut : List Char) (inside : cut <+: ']' :: (crlf ++ tail)) (g : Data) :
      parseLong '[' g ("GC:".toList ++ words ++ cut) =
        some ((strtok ' ' words).foldl parseModalWord g) := by
    have long : parseLong '[' g ("GC:".toList ++ words ++ cut) =
        some (parseBracket g ("GC:".toList ++ (words ++ cut))) := by
      rw [List.append_assoc]
      rfl
    rw [long, parseBracket_modes]
    cases cut with
    | nil => rw [List.append_nil]
    | cons c cut =>
        obtain ⟨rfl, shorter⟩ := List.cons_prefix_cons.mp inside
        rw [parseModalWords_behind]
        intro word member
        obtain ⟨whole, among, starts⟩ := exists_behind_of_prefix shorter member
        rw [behindLine] at among
        exact (modeless whole among).cut starts
  rw [callback_steady s (.inr rfl) (by simp) (by simp) (List.not_mem_of_not_mem_cons clean) room
    three steady]
  simp only [Option.bind_some, Option.map_some, parseModalWords_again]

/-- `strtok` ends the value at an equals sign, where `atof` ends it too. -/
theorem atof_token (text : List Char) : atof (text.takeWhile (· ≠ '=')) = atof text := by
  obtain ⟨-, same, -⟩ | ⟨rest, eq, -, -⟩ := split_first '=' text
  · rw [same]
  · have breaks : Breaks ('=' :: rest) := breaks_cons.mpr (by decide)
    generalize text.takeWhile (· ≠ '=') = number at eq
    rw [eq]
    exact (atof_append breaks fun _ => breaks).symm

theorem breaks_crlf (tail : List Char) : Breaks (crlf ++ tail) := breaks_cons.mpr (by decide)

/-- The end of the line ends a value, unless there is none. -/
theorem atof_line {value tail : List Char}
    (number : value.dropWhile isSpace = [] → atof tail = 0) :
    atof (value ++ (crlf ++ tail)) = atof value := by
  by_cases blank : value.dropWhile isSpace = []
  · have skips : (value ++ (crlf ++ tail)).dropWhile isSpace = tail.dropWhile isSpace := by
      rw [List.dropWhile_append, blank]
      rfl
    have zero : atof value = 0 := by
      rw [atof, blank]
      exact atof_nil
    rw [atof, skips, zero]
    exact number blank
  · apply atof_append (breaks_crlf tail)
    intro empty
    exact absurd empty blank

theorem settingTokens_line {n : Nat} {value : List Char} (start : value.head? ≠ some '=')
    (nonempty : value ≠ []) :
    settingTokens ('$' :: (Nat.toDigits 10 n ++ '=' :: value)) =
      if '=' ∈ value ∨ ('$' :: (Nat.toDigits 10 n ++ '=' :: value)).length < maxBlockLength then
        some (Nat.toDigits 10 n, value.takeWhile (· ≠ '='))
      else none := by
  have digits : '=' ∉ Nat.toDigits 10 n := not_mem_toDigits n (by decide)
  have keep : ∀ c ∈ Nat.toDigits 10 n, decide (c ≠ '=') = true := by
    intro c member
    exact decide_eq_true (ne_of_mem_of_not_mem member digits)
  have first : (Nat.toDigits 10 n ++ '=' :: value).dropWhile (· = '=') =
      Nat.toDigits 10 n ++ '=' :: value := by
    apply dropWhile_of_head
    intro c head
    rw [List.head?_append_of_ne_nil _ Nat.toDigits_ne_nil] at head
    exact decide_eq_false (ne_of_mem_of_not_mem (List.mem_of_head? head) digits)
  have second : ('=' :: value).dropWhile (· = '=') = value := by
    rw [List.dropWhile_cons, if_pos (by decide)]
    apply dropWhile_of_head
    intro c head
    refine decide_eq_false fun same => start ?_
    rw [← same]
    exact head
  have third : (Nat.toDigits 10 n ++ '=' :: value).dropWhile (· ≠ '=') = '=' :: value := by
    rw [List.dropWhile_append_of_pos keep]
    rfl
  have number : (Nat.toDigits 10 n ++ '=' :: value).takeWhile (· ≠ '=') =
      Nat.toDigits 10 n := by
    rw [List.takeWhile_append_of_pos keep, List.takeWhile_cons, if_neg (by decide),
      List.append_nil]
  simp only [settingTokens, List.tail_cons, first, third, second, number, nonempty, ne_eq,
    not_false_eq_true, true_and]

/-- A settings line stores its value if the value ends in the buffer. -/
theorem callback_setting_line {n : Nat} {value tail : List Char} (ok : (setting n value).Ok)
    (clean : '\x00' ∉ tail) (number : value.dropWhile isSpace = [] → atof tail = 0) (s : State) :
    callback ((setting n value).text ++ crlf ++ tail) s =
      if '=' ∈ value ++ (crlf ++ tail) ∨
          ((setting n value).text ++ crlf ++ tail).length < maxBlockLength then
        some (storeSetting (BitVec.ofInt 32 (atoi (Nat.toDigits 10 n))) (atof value)
          { s with
            data := s.data.started
            setting := BitVec.ofInt 32 (atoi (Nat.toDigits 10 n)) })
      else none := by
  have eq : (setting n value).text ++ crlf ++ tail =
      '$' :: (Nat.toDigits 10 n ++ '=' :: (value ++ (crlf ++ tail))) := by
    have eq : (setting n value).text = '$' :: (Nat.toDigits 10 n ++ '=' :: value) := rfl
    simp [eq]
  have start : (value ++ (crlf ++ tail)).head? ≠ some '=' := by
    cases value with
    | nil => exact fun head => absurd (Option.some.inj head) (by decide)
    | cons c value => exact ok.2
  have clean := List.not_mem_append (nul_not_mem_line ok) clean
  rw [eq] at clean ⊢
  rw [callback_setting s clean (by simp), settingTokens_line start (by simp [crlf])]
  split
  · simp only [Option.map_some, atof_token, atof_line number]
  · rfl

theorem storeSetting_with_data (number : BitVec 32) (value : ℚ) (s : State) (g : Data) :
    storeSetting number value { s with data := g } =
      { storeSetting number value s with data := g } := by
  simp only [storeSetting]
  split <;> rfl

/-- A setting is stored once if its value ends in the buffer. -/
theorem readOnce_setting {n : Nat} {value : List Char} (ok : (setting n value).Ok) :
    (setting n value).ReadOnce s ↔ (setting n value).Unharmed s := by
  have parsed := callback_setting_line ok List.not_mem_nil (fun _ => atof_nil) s
  have ends : '=' ∉ crlf := by decide
  simp only [List.append_nil, List.mem_append, or_iff_left ends, List.length_append] at parsed
  change _ ↔ '=' ∈ value ∨ (setting n value).text.length + crlf.length < maxBlockLength
  constructor
  · intro read
    by_contra full
    rw [if_neg full] at parsed
    exact not_readOnce parsed read
  · intro room
    rw [if_pos room] at parsed
    rw [readOnce_iff_of_callback parsed]
    have bare : parseData (setting n value).text s.data.started =
        some ((setting n value).text, s.data.started) := parseData_plain (plain_setting _) _
    constructor
    · rw [bare, storeSetting_data]
      rfl
    · rw [storeSetting_data]
      exact storeSetting_with_data (BitVec.ofInt 32 (atoi (Nat.toDigits 10 n))) _
        { s with setting := BitVec.ofInt 32 (atoi (Nat.toDigits 10 n)) } s.data.started

/-- A line is read as one scan of the bare line reads it exactly if it has nothing to acknowledge
or to clear, and leaves room for the terminator where one is needed. -/
theorem readOnce_iff (line : ResponseLine) (ok : line.Ok)
    (fits : line.text.length + 2 ≤ maxBlockLength) (s : State) :
    line.ReadOnce s ↔ line.Unharmed s := by
  cases line with
  | ok => exact readOnce_ok
  | error n => exact iff_of_true (readOnce_error n fits) trivial
  | alarm n => exact iff_of_true (readOnce_alarm n fits) trivial
  | welcome rest => exact readOnce_welcome ok fits
  | message text => exact readOnce_message ok fits
  | modes words => exact readOnce_modes ok fits
  | setting n value => exact readOnce_setting ok

theorem readOnce_iff_error_pending :
    ok.ReadOnce { data := { error := 9 } } ↔ ok.Unharmed { data := { error := 9 } } :=
  readOnce_iff ok trivial (by decide) _

/-- An acknowledgement does not clear the error before it. -/
theorem not_readOnce_ok : ¬ ∀ (line : ResponseLine), line.Ok →
    line.text.length + 2 ≤ maxBlockLength → ∀ s : State, line.ReadOnce s := by
  intro holds
  have read := holds ok trivial (by decide) { data := { error := 9 } }
  rw [readOnce_ok] at read
  exact absurd read.2.1 (by decide)

end ResponseLine

end Cnc.Comm
