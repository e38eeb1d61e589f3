import CncMachine.Comm.Decoding

/-!
# Reports with other lines behind them

When another line follows a report in the same chunk, the last field goes on with it. Numbers and
flags end at the `>` all the same, letters and messages do not. A report whose last field is one of
the first, and behind which no bar begins a field of a known kind, is read as if it stood alone
(`parseStatus_behind`).
-/

namespace Cnc.Comm

open Text

/-- The field is read alike with and without the text behind it. -/
def ReportField.Steady (rest : List Char) : ReportField → Prop
  | fs _ _ none => ',' ∉ rest
  | pn _ => False
  | a _ => ∀ c ∈ rest, c ∉ ['S', 'C', 'F', 'M']
  | other text => fieldKind text = none
  | _ => True

/-- The report is read alike with and without the text behind its `>`. -/
def Report.Steady (r : Report) (rest : List Char) : Prop :=
  (∀ field, r.fields.getLast? = some field → field.Steady (rest.takeWhile (· ≠ '|'))) ∧
    ∀ field ∈ behind '|' rest, fieldKind field = none

section

variable (g : Data) (rest : List Char)

theorem breaks_gt : Breaks ('>' :: rest) := breaks_cons.mpr (by decide)

theorem parseDecimal_gt (value : ℚ) (d : Decimal) :
    parseDecimal value (d.text ++ '>' :: rest) = parseDecimal value d.text := by
  simp only [parseDecimal, d.atof_text_append (breaks_gt rest), d.atof_text]

theorem parseUint_gt (value : BitVec 32) (n : Nat) :
    parseUint value (Nat.toDigits 10 n ++ '>' :: rest) = parseUint value (Nat.toDigits 10 n) := by
  simp only [parseUint, atoi_toDigits_append n (breaks_gt rest)]

theorem parsePositions_gt (t : Triple) :
    parsePositions g (t.text ++ '>' :: rest) = parsePositions g t.text := by
  rw [t.text_append]
  simp only [parsePositions, Triple.text, cutAt_append (comma_not_mem _),
    Option.bind_eq_bind, Option.bind_some, parseDecimal_gt]

theorem parseOffsets_gt (t : Triple) :
    parseOffsets g (t.text ++ '>' :: rest) = parseOffsets g t.text := by
  rw [t.text_append]
  simp only [parseOffsets, Triple.text, cutAt_append (comma_not_mem _),
    Option.bind_eq_bind, Option.bind_some, parseDecimal_gt]

theorem parseOverrides_gt (feed rapid rpm : Nat) :
    parseOverrides g ((ReportField.ov feed rapid rpm).data ++ '>' :: rest) =
      parseOverrides g (ReportField.ov feed rapid rpm).data := by
  have comma (n : Nat) : ',' ∉ Nat.toDigits 10 n := not_mem_toDigits n (by decide)
  simp only [parseOverrides, ReportField.data, List.append_assoc, List.cons_append,
    cutAt_append (comma _), Option.bind_eq_bind, Option.bind_some, parseUint_gt]

theorem parseFeedSpeed_gt {feed rpm : Decimal} {actual : Option Decimal}
    (steady : (ReportField.fs feed rpm actual).Steady rest) :
    parseFeedSpeed g ((ReportField.fs feed rpm actual).data ++ '>' :: rest) =
      parseFeedSpeed g (ReportField.fs feed rpm actual).data := by
  cases actual with
  | none =>
      have apart : ',' ∉ rpm.text ++ '>' :: rest := by
        rw [List.mem_append, List.mem_cons, not_or, not_or]
        exact ⟨comma_not_mem rpm, by decide, steady⟩
      simp only [parseFeedSpeed, ReportField.data, List.append_assoc, List.cons_append,
        List.append_nil, cutAt_append (comma_not_mem _), cutAt_of_not_mem apart,
        cutAt_of_not_mem (comma_not_mem _), Option.bind_eq_bind, Option.bind_some,
        parseDecimal_gt]
  | some actual =>
      simp only [parseFeedSpeed, ReportField.data, List.append_assoc, List.cons_append,
        cutAt_append (comma_not_mem _), Option.bind_eq_bind, Option.bind_some, parseDecimal_gt]

theorem parseAccessories_gt {letters : List Char} (g : GrblData)
    (other : ∀ c ∈ rest, c ∉ ['S', 'C', 'F', 'M']) :
    parseAccessories g (letters ++ '>' :: rest) = parseAccessories g letters := by
  have skips (g : GrblData) : ('>' :: rest).foldl parseAccessory g = g := by
    rw [List.foldl_cons]
    change rest.foldl parseAccessory g = g
    induction rest with
    | nil => rfl
    | cons c rest ih =>
        have skip : parseAccessory g c = g := by
          have apart := other c (.head rest)
          simp only [List.mem_cons, List.not_mem_nil, or_false, not_or] at apart
          obtain ⟨s, c', f, m⟩ := apart
          rw [parseAccessory] <;> assumption
        rw [List.foldl_cons, skip]
        exact ih fun d member => other d (.tail c member)
  rw [parseAccessories, parseAccessories, List.foldl_append, skips]

theorem fieldKind_gt {text : List Char} (none : fieldKind text = Option.none) :
    fieldKind (text ++ '>' :: rest) = Option.none := by
  rw [fieldKind_eq_none_iff] at none ⊢
  intro kind
  rw [startsWith_gt]
  exact none kind

/-- A steady field: its effect, and whether it has the pins. -/
theorem parseField_gt {field : ReportField} (steady : field.Steady rest) :
    parseField g (field.text ++ '>' :: rest) = parseField g field.text ∧
      isPins (field.text ++ '>' :: rest) = isPins field.text := by
  cases kind : field.kind with
  | none =>
      cases field with
      | other text =>
          have none : fieldKind text = none := steady
          simp only [ReportField.text, kind, ReportField.data, parseField, isPins, none,
            fieldKind_gt rest none, and_self]
      | _ => cases kind
  | some k =>
      have pins : isPins (field.text ++ '>' :: rest) = isPins field.text := by
        simp only [ReportField.text, kind, isPins, fieldKind_append, fieldKind_label]
        rfl
      refine ⟨?_, pins⟩
      simp only [ReportField.text, kind, parseField, fieldKind_append, fieldKind_label]
      cases field with
      | fs feed rpm actual =>
          cases kind
          exact parseFeedSpeed_gt g rest steady
      | pn letters => exact steady.elim
      | wco offset =>
          cases kind
          exact parseOffsets_gt g rest offset
      | ov feed rapid rpm =>
          cases kind
          exact parseOverrides_gt g rest feed rapid rpm
      | a letters =>
          cases kind
          simp only [ReportField.data, parseAccessories_gt rest _ steady]
      | mpg on =>
          cases kind
          rfl
      | d on =>
          cases kind
          rfl
      | tlr on =>
          cases kind
          rfl
      | other text => cases kind

theorem parsePosition_gt (r : Report) :
    parseField g (r.positionKind.label ++ r.position.text ++ '>' :: rest) =
        parseField g (r.positionKind.label ++ r.position.text) ∧
      isPins (r.positionKind.label ++ r.position.text ++ '>' :: rest) =
        isPins (r.positionKind.label ++ r.position.text) := by
  simp only [parseField, isPins, fieldKind_append, fieldKind_label, Report.positionKind]
  cases r.working
  · exact ⟨parsePositions_gt (setWPos g false) rest r.position, rfl⟩
  · exact ⟨parsePositions_gt (setWPos g true) rest r.position, rfl⟩

theorem parseFields_unknown {fields : List (List Char)}
    (unknown : ∀ field ∈ fields, fieldKind field = none) (g : Data) :
    fields.foldlM parseField g = some g ∧ fields.any isPins = false := by
  induction fields generalizing g with
  | nil => exact ⟨rfl, rfl⟩
  | cons field fields ih =>
      have first := unknown field (.head fields)
      have skip : parseField g field = some g := by simp only [parseField, first]
      have noPins : isPins field = false := by simp only [isPins, first]; rfl
      obtain ⟨rest, pins⟩ := ih (fun other member => unknown other (.tail field member)) g
      rw [List.foldlM_cons, skip, List.any_cons, noPins, pins]
      exact ⟨rest, rfl⟩

end

variable {r : Report} {rest : List Char}

theorem Report.Steady.cut {cut : List Char} (steady : r.Steady rest) (inside : cut <+: rest) :
    r.Steady cut := by
  obtain ⟨last, unknown⟩ := steady
  have piece : cut.takeWhile (· ≠ '|') <+: rest.takeWhile (· ≠ '|') := by
    obtain ⟨tail, rfl⟩ := inside
    rw [List.takeWhile_append]
    split
    · next whole =>
        rw [(List.takeWhile_prefix _).eq_of_length whole]
        exact List.prefix_append _ _
    · exact List.prefix_refl _
  constructor
  · intro field final
    have steady := last field final
    cases field with
    | fs feed rpm actual =>
        cases actual with
        | none => exact fun member => steady (piece.subset member)
        | some actual => exact steady
    | a letters => exact fun c member => steady c (piece.subset member)
    | _ => exact steady
  · intro field member
    obtain ⟨whole, among, starts⟩ := exists_behind_of_prefix inside member
    rw [fieldKind_eq_none_iff]
    intro kind
    exact startsWith_cut starts (fieldKind_eq_none_iff.mp (unknown whole among) kind)

/-- The last token of a report, with what stands behind it. -/
theorem parseLast_gt (g : Data) {init : List (List Char)} {last piece : List Char}
    (tokens : r.tokens = init ++ [last])
    (steady : ∀ field, r.fields.getLast? = some field → field.Steady piece) :
    parseField g (last ++ '>' :: piece) = parseField g last ∧
      isPins (last ++ '>' :: piece) = isPins last := by
  obtain none | ⟨before, field, some⟩ := List.eq_nil_or_concat' r.fields
  · rw [Report.tokens, none] at tokens
    have alone : [r.positionKind.label ++ r.position.text] = [last] :=
      (List.append_inj' (show [] ++ [_] = init ++ [last] from tokens) rfl).2
    have same := List.singleton_inj.mp alone
    rw [← same]
    exact parsePosition_gt g piece r
  · have final : r.fields.getLast? = Option.some field := by
      rw [some, List.getLast?_concat]
    rw [Report.tokens, some, List.map_append, List.map_singleton, ← List.cons_append] at tokens
    have same : field.text = last := List.singleton_inj.mp (List.append_inj' tokens rfl).2
    rw [← same]
    exact parseField_gt g piece (steady field final)

/-- The tokens of a report with text behind it: up to the first bar the text belongs to the last
one. -/
theorem strtok_gt (r : Report) (rest : List Char) :
    ∃ init last, r.tokens = init ++ [last] ∧
      strtok '|' r.body = r.stateToken :: (init ++ [last]) ∧
      strtok '|' (r.body ++ '>' :: rest) = r.stateToken ::
        (init ++ [last ++ '>' :: rest.takeWhile (· ≠ '|')] ++ behind '|' rest) := by
  obtain ⟨init, last, tokens, bare⟩ := strtok_body r (.inl rfl)
  rw [List.append_nil, List.append_nil] at bare
  refine ⟨init, last, tokens, bare, ?_⟩
  have ok : ∀ field ∈ (r.stateToken :: init) ++ [last], IsField '|' field := by
    intro field member
    rw [List.cons_append, ← tokens] at member
    exact (tokens_clean r field member).1
  have body : r.body = joined '|' ((r.stateToken :: init) ++ [last]) := by
    rw [Report.body, tokens, List.cons_append]
  have tail {piece : List Char} (clean : '|' ∉ piece) :
      strtok '|' (r.body ++ '>' :: piece) = r.stateToken :: (init ++ [last ++ '>' :: piece]) := by
    have apart : '|' ∉ '>' :: piece := List.not_mem_cons_of_ne_of_not_mem (by decide) clean
    rw [body, strtok_joined_append ok apart, List.cons_append]
  obtain ⟨clean, same, none⟩ | ⟨after, eq, clean, some⟩ := split_first '|' rest
  · rw [same, none, List.append_nil, tail clean]
  · rw [some]
    generalize rest.takeWhile (· ≠ '|') = piece at eq clean
    rw [eq, ← List.cons_append, ← List.append_assoc, strtok_append_sep, tail clean,
      List.cons_append]

/-- Text behind the `>` of a report changes nothing. -/
theorem parseStatus_gt (steady : r.Steady rest) (g : Data) :
    parseStatus g (r.body ++ '>' :: rest) = parseStatus g r.body := by
  obtain ⟨init, last, tokens, bare, scanned⟩ := strtok_gt r rest
  obtain ⟨final, unknown⟩ := steady
  have lastSame (g : Data) := parseLast_gt g tokens final
  have fold (g : Data) : (init ++ [last ++ '>' :: rest.takeWhile (· ≠ '|')] ++
      behind '|' rest).foldlM parseField g = (init ++ [last]).foldlM parseField g := by
    rw [List.foldlM_append]
    simp only [(parseFields_unknown unknown _).1]
    simp only [List.foldlM_append, List.foldlM_cons, List.foldlM_nil, (lastSame _).1]
    exact bind_pure _
  have pins : (init ++ [last ++ '>' :: rest.takeWhile (· ≠ '|')] ++ behind '|' rest).any isPins =
      (init ++ [last]).any isPins := by
    simp only [List.any_append, (parseFields_unknown unknown g).2, Bool.or_false, List.any_cons,
      List.any_nil, (lastSame g).2]
  rw [parseStatus_of_tokens scanned, parseStatus_of_tokens bare, fold, pins]

end Cnc.Comm
