import CncMachine.Comm.Bounds
import CncMachine.Comm.Lines
import CncMachine.Comm.Steady

/-!
# Several lines in one chunk

Reception ends at an idle gap, not at a line end. Only the first line of a chunk is looked at, so
delivering lines together is the same as delivering each alone if the lines behind the first one do
nothing, and the first one is read alike with their text behind it (`framed`).
-/

namespace Cnc.Comm

open Text

/-- What the lines that are no reports and no settings start with. -/
def lineLabels : List (List Char) :=
  ["[GC:".toList, "[MSG:".toList, "error:".toList, "ALARM:".toList, "Grbl".toList]

/-- The text begins like no line that changes `grbl_data`. -/
structure Unread (text : List Char) : Prop where
  status : text.head? ≠ some '<'
  labels : ∀ label ∈ lineLabels, startsWith text label = false

variable {block : List Char}

theorem Unread.cut {cut text : List Char} (unread : Unread text) (inside : cut <+: text) :
    Unread cut := by
  constructor
  · intro head
    obtain ⟨rest, rfl⟩ := inside
    refine unread.status ?_
    cases cut with
    | nil => cases head
    | cons c cut => exact head
  · intro label member
    exact startsWith_cut inside (unread.labels label member)

/-- The end of the line begins nothing. -/
theorem Unread.append {text : List Char} (unread : Unread text) (tail : List Char) :
    Unread (text ++ (crlf ++ tail)) := by
  constructor
  · intro head
    cases text with
    | nil => exact absurd (Option.some.inj head) (by decide)
    | cons c text => exact unread.status head
  · intro label member
    rw [← unread.labels label member]
    apply startsWith_append_head
    intro c head
    rw [← Option.some.inj head]
    simp only [lineLabels, List.mem_cons, List.not_mem_nil, or_false] at member
    obtain rfl | rfl | rfl | rfl | rfl := member <;> decide

theorem parseLine_unread (unread : Unread block) (g : Data) : parseLine g block = some g := by
  have labels := unread.labels
  simp only [lineLabels, List.forall_mem_cons, List.not_mem_nil, false_imp_iff, implies_true,
    and_true] at labels
  obtain ⟨modes, message, error, alarm, welcome⟩ := labels
  simp only [parseLine]
  split
  · exact absurd rfl unread.status
  · next text =>
      have modes' : startsWith text "GC:".toList = false := by
        simpa [startsWith] using modes
      have message' : startsWith text "MSG:".toList = false := by
        simpa [startsWith] using message
      simp only [parseBracket, modes', message', Bool.false_eq_true, if_false]
  · simp only [parseResponse, error, alarm, welcome, Bool.false_eq_true, if_false]

theorem parseData_unread (unread : Unread block) (other : block ≠ "ok".toList)
    (fits : block.length < maxBlockLength) (g : Data) :
    parseData block g = some (stripLast block, g) := by
  have inside : stripLast block <+: block := by
    rw [stripLast]
    split
    · exact List.dropLast_prefix block
    · exact List.prefix_refl block
  have whole : (stripLast block).take (maxBlockLength - 1) = stripLast block := by
    have shorter := inside.length_le
    rw [List.take_of_length_le]
    omega
  rw [parseData, if_neg other, if_neg fun full => by omega, whole,
    parseLine_unread (unread.cut inside)]
  rfl

theorem stripLast_spec (unread : Unread block) (other : block ≠ "ok".toList) :
    Unread (stripLast block) ∧ stripLast block ≠ "ok".toList ∧
      (stripLast block).length ≤ block.length ∧
      ((stripLast block).head? = some '$' → stripLast block = block) := by
  rw [stripLast]
  split
  · next long =>
      have head : block.head? = some '[' := long.resolve_left unread.status
      have begins : Begins '[' block.dropLast := Begins.dropLast (.inr head)
      refine ⟨unread.cut (List.dropLast_prefix block), begins.not_ok (.inr rfl),
        (List.dropLast_prefix block).length_le, ?_⟩
      intro setting
      obtain empty | begins := begins
      · rw [empty] at setting
        cases setting
      · rw [setting] at begins
        cases begins
  · exact ⟨unread, other, le_rfl, fun _ => rfl⟩

/-- A chunk that no parser reads leaves `grbl_data` and the settings alone. -/
theorem callback_unread (unread : Unread block) (other : block ≠ "ok".toList)
    (clean : '\x00' ∉ block) (setting : block.head? = some '$' → '=' ∉ block)
    (fits : block.length < maxBlockLength) (s : State) :
    ∃ s', callback block s = some s' ∧ s'.data = s.data.started ∧ s'.settings = s.settings := by
  obtain ⟨unread₁, other₁, length₁, same₁⟩ := stripLast_spec unread other
  obtain ⟨unread₂, other₂, length₂, -⟩ := stripLast_spec unread₁ other₁
  have settings (s : State) :
      parseSettings (stripLast block) s = s.parseData (stripLast block) := by
    have none : (stripLast block).head? = some '$' → '=' ∉ stripLast block := by
      intro head
      rw [same₁ head]
      rw [same₁ head] at head
      exact setting head
    rw [parseSettings, if_neg other₁, if_neg fun h => none h.1 h.2, if_neg fun h => by omega]
  simp only [callback_of_clean clean, State.parseData_eq, parseData_unread unread other fits,
    Option.map_some, Option.bind_some, settings, parseData_unread unread₁ other₁ (by omega),
    parseInfo, if_neg other₂]
  split
  · exact ⟨_, rfl, rfl, rfl⟩
  · split
    · exact ⟨_, rfl, rfl, rfl⟩
    · rw [parseData_unread unread₂ other₂ (by omega)]
      exact ⟨_, rfl, rfl, rfl⟩

/-- A line of the controller. -/
inductive ControllerLine where
  | response (line : ResponseLine)
  | report (r : Report)
  /-- A line of a kind that sets nothing. -/
  | other (text : List Char)

/-- The numbers of the settings that are stored. -/
def storedSettings : List Nat := [22, 30, 31, 32, 39, 50, 51, 52, 53, 54, 55]

namespace ControllerLine

/-- The bare line. -/
def text : ControllerLine → List Char
  | response line => line.text
  | report r => '<' :: (r.body ++ ['>'])
  | other text => text

def Ok : ControllerLine → Prop
  | response line => line.Ok
  | report _ => True
  | other text => '\x00' ∉ text ∧ Unread text ∧ (text.head? = some '$' → '=' ∉ text)

/-- The line does nothing: an acknowledgement with its end of line, words without a mode, a setting
that is not stored, or a line of another kind. -/
def Inert : ControllerLine → Prop
  | response .ok => True
  | response (.modes words) => ∀ word ∈ strtok ' ' words, Modeless word
  | response (.setting n _) => n % 256 ∉ storedSettings
  | other _ => True
  | _ => False

/-- The line is read alike with and without the text of the lines behind it. -/
def ReadsAlone (tail : List Char) : ControllerLine → Prop
  | response (.message _) => False
  | response (.modes _) => ∀ word ∈ behind ' ' tail, Modeless word
  | response (.setting _ value) => value.dropWhile isSpace = [] → atof tail = 0
  | report r => r.Steady (crlf ++ tail)
  | other text => text.head? = some '$' → '=' ∉ tail
  | _ => True

end ControllerLine

/-- The lines as they are received in one chunk. -/
def chunk (lines : List ControllerLine) : List Char := lines.flatMap fun line => line.text ++ crlf

/-- The lines delivered one by one. -/
def separately (lines : List ControllerLine) (s : State) : Option State :=
  lines.foldlM (fun s line => callback (line.text ++ crlf) s) s

/-- Delivering the lines together leaves `grbl_data` and the settings as delivering each alone. -/
def Framed (lines : List ControllerLine) (s : State) : Prop :=
  ∃ s₁ s₂, callback (chunk lines) s = some s₁ ∧ separately lines s = some s₂ ∧
    s₁.data.started = s₂.data.started ∧ s₁.settings = s₂.settings

/-- No line behind the first one does anything, and the first one is read as if it were alone. -/
def Separate : List ControllerLine → Prop
  | first :: second :: rest =>
      (∀ line ∈ second :: rest, line.Inert) ∧ first.ReadsAlone (chunk (second :: rest))
  | _ => True

variable {line : ControllerLine}

theorem nul_not_mem_text (ok : line.Ok) : '\x00' ∉ line.text ++ crlf := by
  have ends : '\x00' ∉ crlf := by decide
  cases line with
  | response line => exact ResponseLine.nul_not_mem_line ok
  | report r =>
      have body : '\x00' ∉ r.body ++ ['>'] :=
        List.not_mem_append (nul_not_mem_body r) (by decide)
      exact List.not_mem_append
        (List.not_mem_cons_of_ne_of_not_mem (by decide) body) ends
  | other text => exact List.not_mem_append ok.1 ends

theorem nul_not_mem_chunk {lines : List ControllerLine} (ok : ∀ line ∈ lines, line.Ok) :
    '\x00' ∉ chunk lines := by
  intro member
  obtain ⟨line, among, inside⟩ := List.mem_flatMap.mp member
  exact nul_not_mem_text (ok line among) inside

/-- A line of another kind does nothing, whatever stands behind it. -/
theorem callback_other_line {text tail : List Char} (ok : (ControllerLine.other text).Ok)
    (clean : '\x00' ∉ tail) (setting : text.head? = some '$' → '=' ∉ tail)
    (fits : (text ++ crlf ++ tail).length < maxBlockLength) (s : State) :
    ∃ s', callback (text ++ crlf ++ tail) s = some s' ∧ s'.data = s.data.started ∧
      s'.settings = s.settings := by
  have unread := ok.2.1.append tail
  rw [← List.append_assoc] at unread
  apply callback_unread unread ?_ ?_ ?_ fits
  · intro eq
    have ends : '\r' ∈ text ++ crlf ++ tail := by simp [crlf]
    rw [eq] at ends
    exact absurd ends (by decide)
  · exact List.not_mem_append (nul_not_mem_text ok) clean
  · intro head
    have start : text.head? = some '$' := by
      cases text with
      | nil => exact absurd (Option.some.inj head) (by decide)
      | cons c text => exact head
    rw [List.mem_append, List.mem_append, not_or, not_or]
    exact ⟨⟨ok.2.2 start, by decide⟩, setting start⟩

theorem storeSetting_not_stored {n : Nat} (unknown : n % 256 ∉ storedSettings) (value : ℚ)
    (s : State) : storeSetting (BitVec.ofInt 32 (atoi (Nat.toDigits 10 n))) value s = s := by
  have number : ((BitVec.ofInt 32 (atoi (Nat.toDigits 10 n))).setWidth 8).toNat =
      min n (2 ^ 31 - 1) % 256 := by
    rw [atoi_toDigits_eq]
    simp only [BitVec.toNat_setWidth, BitVec.toNat_ofInt]
    omega
  simp only [storedSettings, List.mem_cons, List.not_mem_nil, or_false, not_or] at unknown
  simp only [storeSetting, number]
  split <;> first | rfl | omega

/-- A line that does nothing, delivered alone. -/
theorem callback_inert (ok : line.Ok) (inert : line.Inert)
    (fits : (line.text ++ crlf).length < maxBlockLength) (s : State) :
    ∃ s', callback (line.text ++ crlf) s = some s' ∧ s'.data = s.data.started ∧
      s'.settings = s.settings := by
  rw [← List.append_nil (line.text ++ crlf)] at fits ⊢
  cases line with
  | report r => exact inert.elim
  | other text => exact callback_other_line ok List.not_mem_nil (fun _ => List.not_mem_nil) fits s
  | response line =>
      cases line with
      | ok =>
          exact ⟨_, ResponseLine.scanned_ok.callback ok (by decide) List.not_mem_nil s, rfl, rfl⟩
      | modes words =>
          refine ⟨_, ResponseLine.callback_modes_line ok List.not_mem_nil fits nofun s, ?_, rfl⟩
          exact parseModalWords_modeless inert s.data.started
      | setting n value =>
          have stored : (ResponseLine.setting n value).Ok := ok
          have parsed := ResponseLine.callback_setting_line stored List.not_mem_nil
            (fun _ => atof_nil) s
          rw [if_pos (.inr fits), storeSetting_not_stored inert] at parsed
          exact ⟨_, parsed, rfl, rfl⟩
      | _ => exact inert.elim

/-- A report alone and with other lines behind it: three times the same scan. -/
theorem callback_report_line (r : Report) {tail : List Char} (clean : '\x00' ∉ tail)
    (fits : ((ControllerLine.report r).text ++ crlf ++ tail).length < maxBlockLength)
    (steady : r.Steady (crlf ++ tail)) (s : State) :
    callback ((ControllerLine.report r).text ++ crlf ++ tail) s =
      ((parseStatus s.data.started r.body).bind fun g =>
        (parseStatus g r.body).bind fun g => parseStatus g r.body).map fun g =>
          { s with data := g } := by
  have ok : (ControllerLine.report r).Ok := trivial
  have eq : (ControllerLine.report r).text ++ crlf ++ tail =
      '<' :: (r.body ++ '>' :: (crlf ++ tail)) := by
    simp [ControllerLine.text]
  have clean := List.not_mem_append (nul_not_mem_text ok) clean
  rw [eq] at clean fits ⊢
  have room : r.body.length + ('>' :: (crlf ++ tail)).length + 1 < maxBlockLength := by
    rw [← List.length_append]
    exact fits
  have scan (cut : List Char) (inside : cut <+: '>' :: (crlf ++ tail)) (g : Data) :
      parseLong '<' g (r.body ++ cut) = (fun g => parseStatus g r.body) g := by
    change parseStatus g (r.body ++ cut) = parseStatus g r.body
    cases cut with
    | nil => rw [List.append_nil]
    | cons c cut =>
        obtain ⟨rfl, shorter⟩ := List.cons_prefix_cons.mp inside
        exact parseStatus_gt (steady.cut shorter) g
  exact callback_steady s (.inl rfl) (by simp) (by simp) (List.not_mem_of_not_mem_cons clean)
    room (by simp [crlf]) scan

theorem callback_report_alone (r : Report)
    (fits : ((ControllerLine.report r).text ++ crlf).length < maxBlockLength) (s : State) :
    ∃ s', callback ((ControllerLine.report r).text ++ crlf) s = some s' := by
  have eq : (ControllerLine.report r).text ++ crlf = r.text := by
    simp [ControllerLine.text, Report.text, crlf]
  rw [eq] at fits ⊢
  obtain ⟨-, -, g, -, -, -, parsed⟩ := report_scans r fits s
  exact ⟨_, parsed⟩

/-- A message alone; with lines behind it they would become part of it. -/
theorem callback_message_alone {text : List Char} (ok : (ResponseLine.message text).Ok)
    (fits : ((ResponseLine.message text).text ++ crlf).length < maxBlockLength) (s : State) :
    ∃ s', callback ((ResponseLine.message text).text ++ crlf) s = some s' := by
  rw [List.length_append] at fits
  have room : (ResponseLine.message text).text.length + 2 < maxBlockLength := fits
  obtain ⟨s', parsed, -⟩ := (ResponseLine.readOnce_message ok room.le).mpr room
  exact ⟨s', parsed⟩

/-- An answer that is told by what it starts with, alone or with other lines behind it. -/
theorem callback_scanned {line : ResponseLine} {read : Data → Data}
    (scanned : line.Scanned read) (ok : line.Ok) {tail : List Char} (clean : '\x00' ∉ tail)
    (fits : (line.text ++ crlf ++ tail).length < maxBlockLength) (s : State) :
    ∃ s₁, callback (line.text ++ crlf ++ tail) s = some s₁ ∧
      callback (line.text ++ crlf) s = some s₁ := by
  have length : crlf.length = 2 := rfl
  rw [List.length_append, List.length_append] at fits
  have alone := scanned.callback ok (by omega) List.not_mem_nil s
  rw [List.append_nil] at alone
  exact ⟨_, scanned.callback ok (by omega) clean s, alone⟩

/-- What a line does alone does not depend on the lines behind it. -/
theorem callback_first {tail : List Char} (ok : line.Ok) (clean : '\x00' ∉ tail)
    (fits : (line.text ++ crlf ++ tail).length < maxBlockLength) (alone : line.ReadsAlone tail)
    (s : State) : ∃ s₁ s₂, callback (line.text ++ crlf ++ tail) s = some s₁ ∧
      callback (line.text ++ crlf) s = some s₂ ∧ s₁.data = s₂.data ∧
      s₁.settings = s₂.settings := by
  have shorter : (line.text ++ crlf ++ []).length < maxBlockLength := by
    rw [List.append_nil]
    rw [List.length_append] at fits
    omega
  have same (both : ∃ s₁, callback (line.text ++ crlf ++ tail) s = some s₁ ∧
      callback (line.text ++ crlf) s = some s₁) : ∃ s₁ s₂,
      callback (line.text ++ crlf ++ tail) s = some s₁ ∧
        callback (line.text ++ crlf) s = some s₂ ∧ s₁.data = s₂.data ∧
        s₁.settings = s₂.settings := by
    obtain ⟨s₁, together, single⟩ := both
    exact ⟨s₁, s₁, together, single, rfl, rfl⟩
  cases line with
  | report r =>
      have steady : r.Steady (crlf ++ []) := by
        rw [List.append_nil]
        exact alone.cut (List.prefix_append _ _)
      have together := callback_report_line r clean fits alone s
      have single := callback_report_line r List.not_mem_nil shorter steady s
      rw [List.append_nil] at single shorter
      obtain ⟨s₁, parsed⟩ := callback_report_alone r shorter s
      exact same ⟨s₁, together.trans (single.symm.trans parsed), parsed⟩
  | other text =>
      obtain ⟨s₁, together, data, settings⟩ := callback_other_line ok clean alone fits s
      obtain ⟨s₂, single, data', settings'⟩ :=
        callback_other_line ok List.not_mem_nil (fun _ => List.not_mem_nil) shorter s
      rw [List.append_nil] at single
      exact ⟨s₁, s₂, together, single, data.trans data'.symm, settings.trans settings'.symm⟩
  | response line =>
      cases line with
      | ok => exact same (callback_scanned ResponseLine.scanned_ok ok clean fits s)
      | error n => exact same (callback_scanned (ResponseLine.scanned_error n) ok clean fits s)
      | alarm n => exact same (callback_scanned (ResponseLine.scanned_alarm n) ok clean fits s)
      | welcome rest =>
          exact same (callback_scanned (ResponseLine.scanned_welcome rest) ok clean fits s)
      | message text => exact alone.elim
      | modes words =>
          have together := ResponseLine.callback_modes_line ok clean fits alone s
          have single := ResponseLine.callback_modes_line ok List.not_mem_nil shorter nofun s
          rw [List.append_nil] at single
          exact same ⟨_, together, single⟩
      | setting n value =>
          have stored : (ResponseLine.setting n value).Ok := ok
          have together := ResponseLine.callback_setting_line stored clean alone s
          have single := ResponseLine.callback_setting_line stored List.not_mem_nil
            (fun _ => atof_nil) s
          rw [if_pos (.inr fits)] at together
          rw [if_pos (.inr shorter), List.append_nil] at single
          exact same ⟨_, together, single⟩

/-- Every line of the controller can be delivered alone. -/
theorem callback_line (ok : line.Ok) (fits : (line.text ++ crlf).length < maxBlockLength)
    (s : State) : ∃ s', callback (line.text ++ crlf) s = some s' := by
  have first (alone : line.ReadsAlone []) : ∃ s', callback (line.text ++ crlf) s = some s' := by
    rw [← List.append_nil (line.text ++ crlf)] at fits
    obtain ⟨-, s', -, parsed, -⟩ := callback_first ok List.not_mem_nil fits alone s
    exact ⟨s', parsed⟩
  cases line with
  | report r => exact callback_report_alone r fits s
  | other text => exact first fun _ => List.not_mem_nil
  | response line =>
      cases line with
      | message text => exact callback_message_alone ok fits s
      | modes words => exact first nofun
      | setting n value => exact first fun _ => atof_nil
      | _ => exact first trivial

/-- Lines that do nothing, delivered one by one. -/
theorem separately_inert {lines : List ControllerLine} (ok : ∀ line ∈ lines, line.Ok)
    (inert : ∀ line ∈ lines, line.Inert) (fits : (chunk lines).length < maxBlockLength)
    (s : State) : ∃ s', separately lines s = some s' ∧ s'.data.started = s.data.started ∧
      s'.settings = s.settings := by
  induction lines generalizing s with
  | nil => exact ⟨s, rfl, rfl, rfl⟩
  | cons line lines ih =>
      rw [chunk, List.flatMap_cons, List.length_append] at fits
      obtain ⟨next, first, data, settings⟩ := callback_inert (ok line (.head lines))
        (inert line (.head lines)) (by omega) s
      obtain ⟨s', rest, data', settings'⟩ := ih (fun l member => ok l (.tail line member))
        (fun l member => inert l (.tail line member)) (by rw [chunk]; omega) next
      refine ⟨s', ?_, ?_, settings'.trans settings⟩
      · rw [separately, List.foldlM_cons, first]
        exact rest
      · rw [data', data]
        rfl

/-- Lines that share a chunk are delivered as they would be one by one, if no line behind the first
one does anything and the first one is read alone. -/
theorem framed (lines : List ControllerLine) (ok : ∀ line ∈ lines, line.Ok)
    (fits : (chunk lines).length < maxBlockLength) (separate : Separate lines) (s : State) :
    Framed lines s := by
  match lines with
  | [] => exact ⟨_, s, rfl, rfl, rfl, rfl⟩
  | [line] =>
      have alone : chunk [line] = line.text ++ crlf := List.append_nil _
      obtain ⟨s', parsed⟩ := callback_line (ok line (.head _)) (by rwa [alone] at fits) s
      refine ⟨s', s', by rw [alone, parsed], ?_, rfl, rfl⟩
      rw [separately, List.foldlM_cons, parsed]
      rfl
  | first :: second :: rest =>
      obtain ⟨inert, alone⟩ := separate
      have behindOk (line : ControllerLine) (member : line ∈ second :: rest) : line.Ok :=
        ok line (.tail first member)
      have whole : chunk (first :: second :: rest) =
          first.text ++ crlf ++ chunk (second :: rest) := List.flatMap_cons
      rw [whole] at fits
      obtain ⟨s₁, s₂, together, single, data, settings⟩ :=
        callback_first (ok first (.head _)) (nul_not_mem_chunk behindOk) fits alone s
      rw [List.length_append] at fits
      obtain ⟨s', others, data', settings'⟩ := separately_inert behindOk inert (by omega) s₂
      refine ⟨s₁, s', by rw [whole, together], ?_, ?_, settings.trans settings'.symm⟩
      · rw [separately, List.foldlM_cons, single]
        exact others
      · rw [data, data']

/-- `<Idle|MPos:1,0,0>`. -/
def idleReport : Report where
  state := .idle
  position := {
    x := { whole := ['1'], isDigit := List.all_eq_true.mp rfl, nonempty := by decide }
    y := { whole := ['0'], isDigit := List.all_eq_true.mp rfl, nonempty := by decide }
    z := { whole := ['0'], isDigit := List.all_eq_true.mp rfl, nonempty := by decide } }
  ok := by
    intro field member
    cases member
  once := by decide

theorem framed_report_ok : Framed [.report idleReport, .response .ok] {} := by
  apply framed
  · intro line member
    simp only [List.mem_cons, List.not_mem_nil, or_false] at member
    obtain rfl | rfl := member <;> trivial
  · decide
  · refine ⟨?_, ?_, ?_⟩
    · intro line member
      rw [List.mem_singleton.mp member]
      trivial
    · intro field last
      cases last
    · have none : behind '|' (crlf ++ chunk [.response .ok]) = [] := by decide
      rw [none]
      nofun

/-- The acknowledgement before a report hides it. -/
theorem not_framed_ok_report : ¬ ∀ lines : List ControllerLine, (∀ line ∈ lines, line.Ok) →
    (chunk lines).length < maxBlockLength → ∀ s, Framed lines s := by
  intro holds
  have ok : ∀ line ∈ [ControllerLine.response .ok, .report idleReport], line.Ok := by
    intro line member
    simp only [List.mem_cons, List.not_mem_nil, or_false] at member
    obtain rfl | rfl := member <;> trivial
  obtain ⟨s₁, s₂, together, single, data, -⟩ := holds _ ok (by decide) {}
  simp only [separately, List.foldlM_cons, List.foldlM_nil, Option.bind_eq_bind,
    Option.bind_eq_some_iff, Option.pure_def, Option.some.injEq] at single
  obtain ⟨next, first, last, second, rfl⟩ := single
  have state₁ : s₁.data.state = .unknown := by
    rw [callback_core together]
    decide
  have state₂ : last.data.state = .idle := by
    rw [callback_core second, callback_core first]
    decide
  have same : s₁.data.started.state = last.data.started.state := by rw [data]
  simp only [Data.started] at same
  rw [state₁, state₂] at same
  cases same

end Cnc.Comm
