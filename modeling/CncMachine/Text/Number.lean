import Mathlib.Data.Rat.Defs
import Mathlib.Algebra.Order.Ring.Unbundled.Rat
import Mathlib.Tactic.Ring
import CncMachine.Text.Scan

/-!
# Numbers in text

`atof` reads blanks, a sign, digits with a point among them and an exponent, as an exact rational;
the spellings of infinity, of NaN and of hexadecimal numbers are not known here. Both `atof` and
`atoi` stop at the first character that cannot belong to the number, so that text behind a number
does not matter (`atof_append`, `atoi_append`).
-/

namespace Text

/-- `isspace`. -/
def isSpace (c : Char) : Bool :=
  c == ' ' || c == '\t' || c == '\n' || c == '\x0b' || c == '\x0c' || c == '\r'

/-- The value of a string of digits. -/
def digitsVal (digits : List Char) : Nat := Nat.ofDigitChars 10 digits 0

/-- What `read` makes of a text that may start with a sign. -/
def signed {α : Type} [Neg α] (read : List Char → α) : List Char → α
  | '-' :: rest => -read rest
  | '+' :: rest => read rest
  | rest => read rest

/-- The digits a text starts with. -/
def natural (text : List Char) : Int := digitsVal (text.takeWhile (·.isDigit))

/-- `atoi`, that is `strtol` on numbers of 32 bits: a number out of range becomes the nearest one
in range. -/
def atoi (text : List Char) : Int :=
  max (-2 ^ 31) (min (signed natural (text.dropWhile isSpace)) (2 ^ 31 - 1))

/-- The exponent a number may have behind its digits. -/
def exponent : List Char → Int
  | e :: rest => if e = 'e' ∨ e = 'E' then signed natural rest else 0
  | [] => 0

/-- The digits behind the point, if there is a point, and what follows. -/
def fraction : List Char → List Char × List Char
  | '.' :: rest => (rest.takeWhile (·.isDigit), rest.dropWhile (·.isDigit))
  | rest => ([], rest)

/-- A number without its sign. -/
def magnitude (text : List Char) : ℚ :=
  let whole := text.takeWhile (·.isDigit)
  let (decimals, rest) := fraction (text.dropWhile (·.isDigit))
  digitsVal (whole ++ decimals) * (10 : ℚ) ^ (exponent rest - decimals.length)

/-- `atof`. -/
def atof (text : List Char) : ℚ := signed magnitude (text.dropWhile isSpace)

@[simp] theorem atof_nil : atof [] = 0 := by
  simp [atof, signed, magnitude, fraction, digitsVal, Nat.ofDigitChars]

/-- The text does not go on with a character that belongs to numbers. -/
def Breaks (tail : List Char) : Prop :=
  ∀ c, tail.head? = some c → c.isDigit = false ∧ c ∉ ['.', '+', '-', 'e', 'E']

@[simp] theorem breaks_nil : Breaks [] := nofun

theorem breaks_cons {c : Char} {rest : List Char} :
    Breaks (c :: rest) ↔ c.isDigit = false ∧ c ∉ ['.', '+', '-', 'e', 'E'] := by
  simp [Breaks]

section

variable {p : Char → Bool} {text tail : List Char}

theorem takeWhile_append_stop (stop : ∀ c, tail.head? = some c → p c = false) :
    (text ++ tail).takeWhile p = text.takeWhile p := by
  rw [List.takeWhile_append]
  split
  · next whole =>
      rw [List.takeWhile_prefix p |>.eq_of_length whole]
      cases tail with
      | nil => rw [List.takeWhile_nil, List.append_nil]
      | cons c rest => rw [List.takeWhile_cons, stop c rfl]; simp
  · rfl

theorem dropWhile_append_stop (stop : ∀ c, tail.head? = some c → p c = false) :
    (text ++ tail).dropWhile p = text.dropWhile p ++ tail := by
  rw [List.dropWhile_append]
  split
  · next none =>
      rw [List.isEmpty_iff.mp none, List.nil_append]
      cases tail with
      | nil => rfl
      | cons c rest => rw [List.dropWhile_cons, stop c rfl]; simp
  · rfl

theorem dropWhile_of_head (stop : ∀ c, tail.head? = some c → p c = false) :
    tail.dropWhile p = tail := by
  rw [← List.nil_append tail, dropWhile_append_stop stop, List.dropWhile_nil]

theorem Breaks.takeWhile (breaks : Breaks tail) :
    (text ++ tail).takeWhile (·.isDigit) = text.takeWhile (·.isDigit) :=
  takeWhile_append_stop fun c head => (breaks c head).1

theorem Breaks.dropWhile (breaks : Breaks tail) :
    (text ++ tail).dropWhile (·.isDigit) = text.dropWhile (·.isDigit) ++ tail :=
  dropWhile_append_stop fun c head => (breaks c head).1

theorem exponent_of_breaks (breaks : Breaks tail) : exponent tail = 0 := by
  cases tail with
  | nil => rfl
  | cons c rest =>
      have other := (breaks_cons.mp breaks).2
      rw [exponent, if_neg]
      rintro (rfl | rfl) <;> simp at other

theorem signed_append {α : Type} [Neg α] {read : List Char → α} (breaks : Breaks tail)
    (stops : ∀ text, read (text ++ tail) = read text) :
    signed read (text ++ tail) = signed read text := by
  cases text with
  | nil =>
      cases tail with
      | nil => rfl
      | cons c rest =>
          have other := (breaks_cons.mp breaks).2
          have unsigned : signed read (c :: rest) = read (c :: rest) := by
            rw [signed] <;> rintro _ ⟨⟩ <;> simp at other
          rw [List.nil_append, unsigned, ← List.nil_append (c :: rest), stops]
          rfl
  | cons c rest =>
      by_cases minus : c = '-'
      · subst minus
        simp only [List.cons_append, signed, stops]
      · by_cases plus : c = '+'
        · subst plus
          simp only [List.cons_append, signed, stops]
        · have unsigned (rest : List Char) : signed read (c :: rest) = read (c :: rest) := by
            rw [signed] <;> rintro _ ⟨⟩ <;> contradiction
          rw [List.cons_append, unsigned, unsigned, ← List.cons_append, stops]

theorem natural_append (breaks : Breaks tail) (text : List Char) :
    natural (text ++ tail) = natural text := by
  rw [natural, breaks.takeWhile, natural]

theorem exponent_append (breaks : Breaks tail) : exponent (text ++ tail) = exponent text := by
  cases text with
  | nil => rw [List.nil_append, exponent_of_breaks breaks]; rfl
  | cons e rest =>
      simp only [List.cons_append, exponent, signed_append breaks (natural_append breaks)]

theorem fraction_append (breaks : Breaks tail) :
    fraction (text ++ tail) = ((fraction text).1, (fraction text).2 ++ tail) := by
  cases text with
  | nil =>
      cases tail with
      | nil => rfl
      | cons c rest =>
          have other := (breaks_cons.mp breaks).2
          simp only [List.nil_append]
          rw [fraction]
          · rfl
          · rintro _ ⟨⟩
            simp at other
  | cons c rest =>
      by_cases point : c = '.'
      · subst point
        simp only [List.cons_append, fraction, breaks.takeWhile, breaks.dropWhile]
      · simp only [List.cons_append]
        rw [fraction, fraction]
        · rfl
        · rintro _ ⟨⟩
          exact point rfl
        · rintro _ ⟨⟩
          exact point rfl

theorem magnitude_append (breaks : Breaks tail) : magnitude (text ++ tail) = magnitude text := by
  simp only [magnitude, breaks.takeWhile, breaks.dropWhile, fraction_append breaks,
    exponent_append breaks]

/-- Text behind a number does not matter. Behind nothing but blanks it must not be a number
either. -/
theorem atof_append (breaks : Breaks tail)
    (blank : text.dropWhile isSpace = [] → Breaks (tail.dropWhile isSpace)) :
    atof (text ++ tail) = atof text := by
  rw [atof, atof, List.dropWhile_append]
  split
  · next none =>
      rw [List.isEmpty_iff.mp none, ← List.nil_append (tail.dropWhile isSpace)]
      have breaks := blank (List.isEmpty_iff.mp none)
      exact signed_append breaks fun _ => magnitude_append breaks
  · exact signed_append breaks fun _ => magnitude_append breaks

theorem atoi_append (breaks : Breaks tail)
    (blank : text.dropWhile isSpace = [] → Breaks (tail.dropWhile isSpace)) :
    atoi (text ++ tail) = atoi text := by
  have same {text tail : List Char} (breaks : Breaks tail) :
      signed natural (text ++ tail) = signed natural text :=
    signed_append breaks fun _ => by rw [natural, natural, breaks.takeWhile]
  rw [atoi, atoi, List.dropWhile_append]
  split
  · next none =>
      rw [List.isEmpty_iff.mp none, ← List.nil_append (tail.dropWhile isSpace)]
      rw [same (blank (List.isEmpty_iff.mp none))]
  · rw [same breaks]

end

theorem all_isDigit_toDigits (n : Nat) : ∀ c ∈ Nat.toDigits 10 n, c.isDigit = true :=
  fun _ member => Nat.isDigit_of_mem_toDigits (by decide) (by decide) member

theorem not_isSpace_of_isDigit {c : Char} (digit : c.isDigit = true) :
    isSpace c = false ∧ c ≠ '-' ∧ c ≠ '+' := by
  simp only [Char.isDigit, Bool.and_eq_true, decide_eq_true_eq] at digit
  refine ⟨?_, ?_, ?_⟩
  · simp only [isSpace, Bool.or_eq_false_iff, beq_eq_false_iff_ne]
    refine ⟨⟨⟨⟨⟨?_, ?_⟩, ?_⟩, ?_⟩, ?_⟩, ?_⟩ <;> rintro rfl <;> exact absurd digit.1 (by decide)
  · rintro rfl
    exact absurd digit.1 (by decide)
  · rintro rfl
    exact absurd digit.1 (by decide)

/-- A text that starts with a digit has no sign to read. -/
theorem signed_of_isDigit {α : Type} [Neg α] (read : List Char → α) {c : Char} {rest : List Char}
    (digit : c.isDigit = true) : signed read (c :: rest) = read (c :: rest) := by
  obtain ⟨-, minus, plus⟩ := not_isSpace_of_isDigit digit
  rw [signed] <;> rintro _ ⟨⟩ <;> contradiction

theorem atoi_toDigits_eq (n : Nat) : atoi (Nat.toDigits 10 n) = min n (2 ^ 31 - 1) := by
  have all := all_isDigit_toDigits n
  have read : signed natural ((Nat.toDigits 10 n).dropWhile isSpace) = n := by
    cases digits : Nat.toDigits 10 n with
    | nil => exact absurd digits Nat.toDigits_ne_nil
    | cons c rest =>
        rw [digits] at all
        have digit := all c (.head rest)
        rw [List.dropWhile_cons, (not_isSpace_of_isDigit digit).1, if_neg (by decide),
          signed_of_isDigit _ digit, natural, List.takeWhile_eq_self_iff.mpr all, ← digits,
          digitsVal, Nat.ofDigitChars_ten_toDigits]
  rw [atoi, read]
  omega

/-- `atoi` undoes writing a number in range. -/
theorem atoi_toDigits {n : Nat} (range : n < 2 ^ 31) : atoi (Nat.toDigits 10 n) = n := by
  rw [atoi_toDigits_eq]
  omega

/-- A number written with a sign, digits, and digits behind a point if there are any. -/
structure Decimal where
  negative : Bool := false
  whole : List Char
  decimals : List Char := []
  isDigit : ∀ c ∈ whole ++ decimals, c.isDigit = true
  nonempty : whole ≠ []

namespace Decimal

variable (d : Decimal)

/-- The number without its sign. -/
def unsigned : List Char := d.whole ++ if d.decimals = [] then [] else '.' :: d.decimals

def text : List Char := if d.negative then '-' :: d.unsigned else d.unsigned

/-- The exact number that is written. -/
def value : ℚ :=
  let magnitude := digitsVal (d.whole ++ d.decimals) * (10 : ℚ) ^ (-(d.decimals.length : Int))
  if d.negative then -magnitude else magnitude

theorem magnitude_unsigned :
    magnitude d.unsigned = digitsVal (d.whole ++ d.decimals) *
      (10 : ℚ) ^ (-(d.decimals.length : Int)) := by
  have whole : ∀ c ∈ d.whole, c.isDigit = true := fun c member =>
    d.isDigit c (List.mem_append_left _ member)
  have decimals : ∀ c ∈ d.decimals, c.isDigit = true := fun c member =>
    d.isDigit c (List.mem_append_right _ member)
  simp only [unsigned]
  split
  · next absent =>
      simp only [magnitude, absent, List.append_nil, List.takeWhile_eq_self_iff.mpr whole,
        List.dropWhile_eq_nil_iff.mpr whole, fraction, exponent]
      rfl
  · next there =>
      have stop : ∀ c, ('.' :: d.decimals).head? = some c → c.isDigit = false := by
        rintro c ⟨⟩
        rfl
      simp only [magnitude, takeWhile_append_stop stop, dropWhile_append_stop stop,
        List.takeWhile_eq_self_iff.mpr whole, List.dropWhile_eq_nil_iff.mpr whole,
        List.nil_append, fraction, List.takeWhile_eq_self_iff.mpr decimals,
        List.dropWhile_eq_nil_iff.mpr decimals, exponent, zero_sub]

/-- `atof` undoes writing a decimal number. -/
theorem atof_text : atof d.text = d.value := by
  obtain ⟨c, rest, unsigned⟩ : ∃ c rest, d.unsigned = c :: rest := by
    cases whole : d.whole with
    | nil => exact absurd whole d.nonempty
    | cons c rest => exact ⟨c, _, by rw [Decimal.unsigned, whole, List.cons_append]⟩
  have digit : c.isDigit = true := by
    apply d.isDigit c
    cases whole : d.whole with
    | nil => exact absurd whole d.nonempty
    | cons b rest =>
        rw [Decimal.unsigned, whole, List.cons_append] at unsigned
        simp [(List.cons.inj unsigned).1]
  have blank := (not_isSpace_of_isDigit digit).1
  simp only [atof, text, value, ← magnitude_unsigned]
  split
  · rw [List.dropWhile_cons, if_neg (by decide), signed]
  · rw [unsigned, List.dropWhile_cons, blank, if_neg (by decide), signed_of_isDigit _ digit]

theorem mem_text {c : Char} (member : c ∈ d.text) : c.isDigit = true ∨ c = '.' ∨ c = '-' := by
  have unsigned {c : Char} (member : c ∈ d.unsigned) : c.isDigit = true ∨ c = '.' := by
    obtain whole | rest := List.mem_append.mp member
    · exact .inl (d.isDigit c (List.mem_append_left _ whole))
    · split at rest
      · cases rest
      · obtain point | decimals := List.mem_cons.mp rest
        · exact .inr point
        · exact .inl (d.isDigit c (List.mem_append_right _ decimals))
  rw [text] at member
  split at member
  · obtain minus | rest := List.mem_cons.mp member
    · exact .inr (.inr minus)
    · exact (unsigned rest).imp_right .inl
  · exact (unsigned member).imp_right .inl

theorem not_mem_text {c : Char} (other : c.isDigit = false) (point : c ≠ '.') (minus : c ≠ '-') :
    c ∉ d.text := by
  intro member
  obtain digit | eq | eq := d.mem_text member
  · rw [other] at digit
    cases digit
  · exact point eq
  · exact minus eq

theorem text_ne_nil : d.text ≠ [] := by
  have unsigned : d.unsigned ≠ [] := by simp [Decimal.unsigned, d.nonempty]
  rw [text]
  split
  · simp
  · exact unsigned

theorem text_not_blank : d.text.dropWhile isSpace ≠ [] := by
  intro blank
  rw [List.dropWhile_eq_nil_iff] at blank
  obtain ⟨c, rest, eq⟩ := List.exists_cons_of_ne_nil d.text_ne_nil
  have space := blank c (by rw [eq]; exact .head rest)
  obtain digit | rfl | rfl := d.mem_text (c := c) (by rw [eq]; exact .head rest)
  · rw [(not_isSpace_of_isDigit digit).1] at space
    cases space
  · exact absurd space (by decide)
  · exact absurd space (by decide)

theorem atof_text_append {tail : List Char} (breaks : Breaks tail) :
    atof (d.text ++ tail) = d.value := by
  rw [atof_append breaks fun blank => absurd blank d.text_not_blank, atof_text]

end Decimal

theorem atoi_toDigits_append (n : Nat) {tail : List Char} (breaks : Breaks tail) :
    atoi (Nat.toDigits 10 n ++ tail) = atoi (Nat.toDigits 10 n) := by
  apply atoi_append breaks
  intro blank
  rw [List.dropWhile_eq_nil_iff] at blank
  obtain ⟨c, rest, eq⟩ := List.exists_cons_of_ne_nil (Nat.toDigits_ne_nil (n := n) (b := 10))
  have member : c ∈ Nat.toDigits 10 n := by rw [eq]; exact .head rest
  have space := blank c member
  rw [(not_isSpace_of_isDigit (all_isDigit_toDigits n c member)).1] at space
  cases space

theorem not_mem_toDigits (n : Nat) {c : Char} (other : c.isDigit = false) :
    c ∉ Nat.toDigits 10 n := by
  intro member
  have digit := all_isDigit_toDigits n c member
  rw [other] at digit
  cases digit

end Text
