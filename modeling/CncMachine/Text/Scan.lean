import Mathlib.Data.List.Basic
import Mathlib.Data.List.Infix
import Mathlib.Data.List.TakeWhile

/-!
# C string functions on character lists

A C string is the list of its characters up to the terminating NUL. `strtok` returns all tokens
at once: the pieces between separators, without the empty ones. The library's results say what
`strtok` gives on a text that was put together with the same separator.
-/

namespace Text

/-- All tokens that successive calls of `strtok(text, sep)` return. -/
def strtok (sep : Char) (text : List Char) : List (List Char) :=
  (text.splitOn sep).filter (· ≠ [])

/-- `strstr(text, needle) != NULL`. -/
def strstr (text needle : List Char) : Bool :=
  text.tails.any fun suffix => needle.isPrefixOf suffix

/-- `strncmp(text, needle, strlen(needle)) == 0`. -/
def startsWith (text needle : List Char) : Bool := needle.isPrefixOf text

/-- The part of a buffer that string functions see: everything before the first NUL. -/
def cString (buffer : List Char) : List Char :=
  buffer.takeWhile (· ≠ '\x00')

/-- Fields separated by single occurrences of `sep`. -/
def joined (sep : Char) (fields : List (List Char)) : List Char :=
  [sep].intercalate fields

/-- A field that `strtok` returns unchanged. -/
def IsField (sep : Char) (field : List Char) : Prop :=
  field ≠ [] ∧ sep ∉ field

instance (sep : Char) (field : List Char) : Decidable (IsField sep field) :=
  inferInstanceAs (Decidable (_ ∧ _))

theorem startsWith_iff {text needle : List Char} :
    startsWith text needle = true ↔ needle <+: text := List.isPrefixOf_iff_prefix

/-- A word that is not in the text does not start there by what follows the text. -/
theorem startsWith_append_head {text needle tail : List Char}
    (apart : ∀ c, tail.head? = some c → c ∉ needle) :
    startsWith (text ++ tail) needle = startsWith text needle := by
  rw [Bool.eq_iff_iff, startsWith_iff, startsWith_iff]
  refine ⟨?_, fun h => h.trans (List.prefix_append text tail)⟩
  intro h
  obtain inside | longer := List.prefix_or_prefix_of_prefix h (List.prefix_append text tail)
  · exact inside
  · obtain ⟨rest, rfl⟩ := longer
    cases rest with
    | nil => simp
    | cons c rest =>
        obtain ⟨tail, rfl⟩ := (List.prefix_append_right_inj text).mp h
        exact absurd (by simp) (apart c rfl)

theorem startsWith_append {text needle tail : List Char} (apart : ∀ c ∈ tail, c ∉ needle) :
    startsWith (text ++ tail) needle = startsWith text needle :=
  startsWith_append_head fun c head => apart c (List.mem_of_head? head)

theorem startsWith_cut {cut text label : List Char} (inside : cut <+: text)
    (other : startsWith text label = false) : startsWith cut label = false := by
  rw [← Bool.not_eq_true, startsWith_iff] at other ⊢
  exact fun starts => other (starts.trans inside)

theorem strstr_of_prefix {text needle : List Char} (starts : needle <+: text) :
    strstr text needle = true := by
  simp only [strstr, List.any_eq_true]
  exact ⟨text, (List.mem_tails _ _).mpr (List.suffix_refl text),
    List.isPrefixOf_iff_prefix.mpr starts⟩

/-- Text before the terminator is kept. -/
theorem cString_append {text rest : List Char} (clean : '\x00' ∉ text) :
    cString (text ++ rest) = text ++ cString rest := by
  apply List.takeWhile_append_of_pos
  intro c member
  simpa using ne_of_mem_of_not_mem member clean

/-- Tokenising undoes joining. -/
theorem strtok_joined {sep : Char} {fields : List (List Char)}
    (nonempty : fields ≠ []) (ok : ∀ field ∈ fields, IsField sep field) :
    strtok sep (joined sep fields) = fields := by
  have split : (joined sep fields).splitOn sep = fields :=
    List.splitOn_intercalate sep (fun field member => (ok field member).2) nonempty
  rw [strtok, split, List.filter_eq_self]
  intro field member
  simpa using (ok field member).1

@[simp] theorem joined_singleton (sep : Char) (field : List Char) :
    joined sep [field] = field := by
  simp [joined, List.intercalate]

theorem joined_cons_cons (sep : Char) (field next : List Char) (rest : List (List Char)) :
    joined sep (field :: next :: rest) = field ++ sep :: joined sep (next :: rest) := by
  simp [joined, List.intercalate]

theorem mem_joined {sep c : Char} {fields : List (List Char)} (member : c ∈ joined sep fields) :
    c = sep ∨ ∃ field ∈ fields, c ∈ field := by
  induction fields with
  | nil => simp [joined, List.intercalate] at member
  | cons field rest ih =>
      cases rest with
      | nil => exact .inr ⟨field, .head _, by simpa using member⟩
      | cons next rest =>
          rw [joined_cons_cons, List.mem_append, List.mem_cons] at member
          obtain here | eq | later := member
          · exact .inr ⟨field, .head _, here⟩
          · exact .inl eq
          · obtain eq | ⟨field, among, inside⟩ := ih later
            · exact .inl eq
            · exact .inr ⟨field, .tail _ among, inside⟩

/-- Every field takes its own length and one separator, the last one has none. -/
theorem length_joined (sep : Char) {fields : List (List Char)} (nonempty : fields ≠ []) :
    (joined sep fields).length + 1 = fields.flatten.length + fields.length := by
  induction fields with
  | nil => exact absurd rfl nonempty
  | cons field rest ih =>
      cases rest with
      | nil => simp
      | cons next rest =>
          have tail := ih (by simp)
          rw [joined_cons_cons, List.length_append, List.length_cons, List.flatten_cons,
            List.length_append, List.length_cons]
          omega

/-- Characters appended to a joined text belong to its last field. -/
theorem joined_append_last (sep : Char) (init : List (List Char)) (last tail : List Char) :
    joined sep (init ++ [last]) ++ tail = joined sep (init ++ [last ++ tail]) := by
  induction init with
  | nil => simp
  | cons field rest ih =>
      cases rest with
      | nil => simp [joined_cons_cons]
      | cons next rest =>
          simp only [List.cons_append, joined_cons_cons, List.append_assoc] at ih ⊢
          rw [ih]

/-- Text behind a joined text belongs to its last token. -/
theorem strtok_joined_append {sep : Char} {init : List (List Char)} {last tail : List Char}
    (ok : ∀ field ∈ init ++ [last], IsField sep field) (apart : sep ∉ tail) :
    strtok sep (joined sep (init ++ [last]) ++ tail) = init ++ [last ++ tail] := by
  rw [joined_append_last]
  apply strtok_joined (by simp)
  intro field member
  obtain among | last' := List.mem_append.mp member
  · exact ok field (List.mem_append_left _ among)
  · obtain ⟨nonempty, clean⟩ := ok last (by simp)
    rw [List.mem_singleton.mp last']
    refine ⟨by simp [nonempty], ?_⟩
    rw [List.mem_append]
    rintro (inside | inside)
    · exact clean inside
    · exact apart inside

theorem strtok_append_sep (sep : Char) (before behind : List Char) :
    strtok sep (before ++ sep :: behind) = strtok sep before ++ strtok sep behind := by
  rw [strtok, List.splitOn_append_cons_self, List.filter_append, strtok, strtok]

theorem strtok_of_not_mem {sep : Char} {text : List Char} (apart : sep ∉ text) :
    strtok sep text = if text = [] then [] else [text] := by
  rw [strtok, List.splitOn_eq_singleton apart]
  split
  · next empty => simp [empty]
  · next nonempty => simp [nonempty]

/-- What stands behind the last separator. -/
theorem exists_last_piece (sep : Char) (text : List Char) :
    ∃ last, sep ∉ last ∧ (text = last ∨ ∃ before, text = before ++ sep :: last) := by
  induction text with
  | nil => exact ⟨[], List.not_mem_nil, .inl rfl⟩
  | cons c text ih =>
      obtain ⟨last, apart, rfl | ⟨before, rfl⟩⟩ := ih
      · by_cases same : c = sep
        · exact ⟨text, apart, .inr ⟨[], by rw [same, List.nil_append]⟩⟩
        · refine ⟨c :: text, ?_, .inl rfl⟩
          rw [List.mem_cons, not_or]
          exact ⟨Ne.symm same, apart⟩
      · exact ⟨last, apart, .inr ⟨c :: before, rfl⟩⟩

variable {σ : Type} {f : σ → List Char → σ} {sep : Char}

theorem foldl_strtok_of_not_mem (skips : ∀ s, f s [] = s) {text : List Char}
    (apart : sep ∉ text) (s : σ) : (strtok sep text).foldl f s = f s text := by
  rw [strtok_of_not_mem apart]
  split
  · next empty => rw [empty, skips, List.foldl_nil]
  · rfl

/-- A scan that reads every token alike with and without a tail reads so the whole text. -/
theorem foldl_strtok_append (skips : ∀ s, f s [] = s) {tail : List Char} (apart : sep ∉ tail)
    (alike : ∀ s token, f s (token ++ tail) = f s token) (text : List Char) (s : σ) :
    (strtok sep (text ++ tail)).foldl f s = (strtok sep text).foldl f s := by
  have piece {last : List Char} (clean : sep ∉ last) (s : σ) :
      (strtok sep (last ++ tail)).foldl f s = (strtok sep last).foldl f s := by
    have joined : sep ∉ last ++ tail := by
      rw [List.mem_append, not_or]
      exact ⟨clean, apart⟩
    rw [foldl_strtok_of_not_mem skips joined, foldl_strtok_of_not_mem skips clean, alike]
  obtain ⟨last, clean, rfl | ⟨before, rfl⟩⟩ := exists_last_piece sep text
  · exact piece clean s
  · rw [List.append_assoc, List.cons_append, strtok_append_sep, strtok_append_sep,
      List.foldl_append, List.foldl_append, piece clean]

/-- The tokens behind the first separator. -/
def behind (sep : Char) (text : List Char) : List (List Char) :=
  strtok sep (text.dropWhile (· ≠ sep))

/-- A text has no separator, or a first one. -/
theorem split_first (sep : Char) (text : List Char) :
    sep ∉ text ∧ text.takeWhile (· ≠ sep) = text ∧ behind sep text = [] ∨
      ∃ rest, text = text.takeWhile (· ≠ sep) ++ sep :: rest ∧
        sep ∉ text.takeWhile (· ≠ sep) ∧ behind sep text = strtok sep rest := by
  by_cases member : sep ∈ text
  · obtain ⟨piece, rest, rfl, apart⟩ := List.eq_append_cons_of_mem member
    have keep : ∀ c ∈ piece, decide (c ≠ sep) = true := by
      intro c member
      exact decide_eq_true (ne_of_mem_of_not_mem member apart)
    have piece_eq : (piece ++ sep :: rest).takeWhile (· ≠ sep) = piece := by
      rw [List.takeWhile_append_of_pos keep, List.takeWhile_cons, if_neg (by simp),
        List.append_nil]
    refine .inr ⟨rest, by rw [piece_eq], by rwa [piece_eq], ?_⟩
    have rest_eq : (piece ++ sep :: rest).dropWhile (· ≠ sep) = [] ++ sep :: rest := by
      rw [List.dropWhile_append_of_pos keep, List.dropWhile_cons, if_neg (by simp),
        List.nil_append]
    rw [behind, rest_eq, strtok_append_sep]
    rfl
  · have keep : ∀ c ∈ text, decide (c ≠ sep) = true := by
      intro c inside
      exact decide_eq_true (ne_of_mem_of_not_mem inside member)
    refine .inl ⟨member, List.takeWhile_eq_self_iff.mpr keep, ?_⟩
    rw [behind, List.dropWhile_eq_nil_iff.mpr keep]
    rfl

theorem behind_append {sep : Char} {before : List Char} (apart : sep ∉ before) (text : List Char) :
    behind sep (before ++ text) = behind sep text := by
  have keep : ∀ c ∈ before, decide (c ≠ sep) = true := by
    intro c member
    exact decide_eq_true (ne_of_mem_of_not_mem member apart)
  rw [behind, List.dropWhile_append_of_pos keep, behind]

/-- A text that is cut has the same tokens, the last one cut. -/
theorem exists_token_of_prefix {sep : Char} {cut text token : List Char} (inside : cut <+: text)
    (member : token ∈ strtok sep cut) : ∃ whole ∈ strtok sep text, token <+: whole := by
  obtain ⟨tail, rfl⟩ := inside
  have piece {last : List Char} (apart : sep ∉ last) (member : token ∈ strtok sep last) :
      ∃ whole ∈ strtok sep (last ++ tail), token <+: whole := by
    rw [strtok_of_not_mem apart] at member
    split at member
    · cases member
    · next nonempty =>
        rw [List.mem_singleton.mp member]
        obtain ⟨clean, -, -⟩ | ⟨rest, eq, clean, -⟩ := split_first sep tail
        · refine ⟨last ++ tail, ?_, List.prefix_append _ _⟩
          rw [strtok_of_not_mem (by simp [apart, clean]), if_neg (by simp [nonempty])]
          exact .head _
        · generalize tail.takeWhile (· ≠ sep) = first at eq clean
          refine ⟨last ++ first, ?_, List.prefix_append _ _⟩
          rw [eq, ← List.append_assoc, strtok_append_sep,
            strtok_of_not_mem (by simp [apart, clean]), if_neg (by simp [nonempty])]
          exact .head _
  obtain ⟨last, apart, rfl | ⟨before, rfl⟩⟩ := exists_last_piece sep cut
  · exact piece apart member
  · rw [strtok_append_sep, List.mem_append] at member
    rw [List.append_assoc, List.cons_append, strtok_append_sep]
    obtain early | late := member
    · exact ⟨token, List.mem_append_left _ early, List.prefix_refl token⟩
    · obtain ⟨whole, among, starts⟩ := piece apart late
      exact ⟨whole, List.mem_append_right _ among, starts⟩

theorem exists_behind_of_prefix {sep : Char} {cut text token : List Char} (inside : cut <+: text)
    (member : token ∈ behind sep cut) : ∃ whole ∈ behind sep text, token <+: whole := by
  refine exists_token_of_prefix ?_ member
  obtain ⟨tail, rfl⟩ := inside
  rw [List.dropWhile_append]
  split
  · next none =>
      rw [List.isEmpty_iff.mp none]
      exact List.nil_prefix
  · exact List.prefix_append _ _

end Text
