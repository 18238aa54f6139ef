import ContractRollout.Proofs.Json.Legible
import ContractRollout.Proofs.Number.Shortest

/-!
# Written numbers

A numeral is read as it is spelled, up to the first character that cannot go on a number. An integer
is written as a numeral without point and exponent, a finite double as one with a point or an
exponent. So an integer is read back, and a double is too, as the digits that it is written with
are rounded to it.
-/

namespace ContractRollout

open Decimal

theorem naturalOfDigits_append (first second : List Char) :
    naturalOfDigits (first ++ second) =
      10 ^ second.length * naturalOfDigits first + naturalOfDigits second := by
  rw [naturalOfDigits, Nat.ofDigitChars_append, Nat.ofDigitChars_eq_ofDigitChars_zero]
  rfl

theorem naturalOfDigits_zeros (count : Nat) : naturalOfDigits (List.replicate count '0') = 0 := by
  rw [naturalOfDigits, Nat.ofDigitChars_replicate_zero, Nat.mul_zero]

theorem naturalOfDigits_zero : naturalOfDigits ['0'] = 0 := naturalOfDigits_zeros 1

theorem naturalOfDigits_toDigits (number : Nat) :
    naturalOfDigits (Nat.toDigits 10 number) = number :=
  Nat.ofDigitChars_ten_toDigits

namespace Json

/-! ### Digits -/

/-- Nothing at the start of a text goes on the digits before it. -/
def EndsDigits (rest : List Char) : Prop := ∀ next ∈ rest.head?, next.isDigit = false

/-- Nothing at the start of a text goes on a number before it. -/
def EndsNumber (rest : List Char) : Prop :=
  ∀ next ∈ rest.head?, next.isDigit = false ∧ next ≠ '.' ∧ next ≠ 'e' ∧ next ≠ 'E'

theorem EndsNumber.digits {rest : List Char} (ends : EndsNumber rest) : EndsDigits rest :=
  fun next member => (ends next member).1

theorem takeWhile_digits {digits rest : List Char} (decimal : ∀ digit ∈ digits, digit.isDigit)
    (ends : EndsDigits rest) : (digits ++ rest).takeWhile Char.isDigit = digits := by
  rw [List.takeWhile_append_of_pos decimal]
  cases rest with
  | nil => simp
  | cons next rest => simp [ends next (by simp)]

theorem dropWhile_digits {digits rest : List Char} (decimal : ∀ digit ∈ digits, digit.isDigit)
    (ends : EndsDigits rest) : (digits ++ rest).dropWhile Char.isDigit = rest := by
  rw [List.dropWhile_append_of_pos decimal]
  cases rest with
  | nil => simp
  | cons next rest => simp [ends next (by simp)]

theorem isDigit_toDigits (number : Nat) : ∀ digit ∈ Nat.toDigits 10 number, digit.isDigit :=
  fun _ member => Nat.isDigit_of_mem_toDigits (by decide) (by decide) member

theorem isDigit_zeros (count : Nat) : ∀ digit ∈ List.replicate count '0', digit.isDigit := by
  intro digit member
  rw [(List.mem_replicate.mp member).2]
  rfl

theorem isDigit_append {first second : List Char} (firstDecimal : ∀ digit ∈ first, digit.isDigit)
    (secondDecimal : ∀ digit ∈ second, digit.isDigit) :
    ∀ digit ∈ first ++ second, digit.isDigit := by
  intro digit member
  exact (List.mem_append.mp member).elim (firstDecimal digit) (secondDecimal digit)

theorem head?_toDigits {number : Nat} (positive : 0 < number) :
    (Nat.toDigits 10 number).head? ≠ some '0' := by
  induction number using Nat.strongRecOn with
  | ind number ih =>
      by_cases single : number < 10
      · rw [Nat.toDigits_of_lt_base single]
        have digits : ∀ digit < 10, 0 < digit → [Nat.digitChar digit].head? ≠ some '0' := by
          decide
        exact digits number single positive
      · rw [Nat.toDigits_of_base_le (by decide) (by omega)]
        have leading := ih (number / 10) (by omega) (by omega)
        cases digits : Nat.toDigits 10 (number / 10) with
        | nil => exact absurd digits Nat.toDigits_ne_nil
        | cons first others => simpa [digits] using leading

/-- The digits before a point: some, and no zero at their start unless it is alone. -/
structure WholeDigits (digits : List Char) : Prop where
  decimal : ∀ digit ∈ digits, digit.isDigit
  filled : digits ≠ []
  leading : digits = ['0'] ∨ digits.head? ≠ some '0'

theorem wholeDigits_zero : WholeDigits ['0'] := ⟨isDigit_zeros 1, by simp, .inl rfl⟩

theorem wholeDigits_toDigits (number : Nat) : WholeDigits (Nat.toDigits 10 number) := by
  refine ⟨isDigit_toDigits number, Nat.toDigits_ne_nil, ?_⟩
  rcases Nat.eq_zero_or_pos number with rfl | positive
  · exact .inl (Nat.toDigits_zero 10)
  · exact .inr (head?_toDigits positive)

theorem readWhole?_of_whole {digits rest : List Char} (whole : WholeDigits digits)
    (ends : EndsDigits rest) : readWhole? (digits ++ rest) = some (digits, rest) := by
  obtain ⟨decimal, filled, rfl | leading⟩ := whole
  · rfl
  · have taken := takeWhile_digits decimal ends
    have left := dropWhile_digits decimal ends
    cases digits with
    | nil => exact absurd rfl filled
    | cons first others =>
        have nonzero : first ≠ '0' := by simpa using leading
        unfold readWhole?
        split
        · rename_i same
          exact absurd (List.cons.inj same).1 nonzero
        · dsimp only
          rw [taken, left]
          rfl

/-! ### Numerals -/

def fractionText (fraction : List Char) : List Char :=
  if fraction.isEmpty then [] else '.' :: fraction

def exponentText : Option (Bool × List Char) → List Char
  | none => []
  | some (negative, digits) => 'e' :: (if negative then '-' else '+') :: digits

def signText (negative : Bool) : List Char := if negative then ['-'] else []

/-- A numeral in written text. -/
def Numeral.spelling (numeral : Numeral) : List Char :=
  signText numeral.negative ++
    (numeral.whole ++ (fractionText numeral.fraction ++ exponentText numeral.exponent))

/-- Where a numeral has digits they are digits. -/
structure Numeral.WellSpelled (numeral : Numeral) : Prop where
  whole : WholeDigits numeral.whole
  fraction : ∀ digit ∈ numeral.fraction, digit.isDigit
  exponent : ∀ held ∈ numeral.exponent, held.2 ≠ [] ∧ ∀ digit ∈ held.2, digit.isDigit

/-- The spellings of an exponent: a mark, a sign that a plus may go without, and digits. -/
inductive SpelledExponent : Option (Bool × List Char) → List Char → Prop
  | absent : SpelledExponent none []
  | present {mark : Char} {negative : Bool} {sign digits : List Char}
      (marks : mark = 'e' ∨ mark = 'E')
      (signs : (negative, sign) ∈ [(true, ['-']), (false, ['+']), (false, [])])
      (filled : digits ≠ []) (decimal : ∀ digit ∈ digits, digit.isDigit) :
      SpelledExponent (some (negative, digits)) (mark :: (sign ++ digits))

theorem spelledExponent_text {exponent : Option (Bool × List Char)}
    (spelled : ∀ held ∈ exponent, held.2 ≠ [] ∧ ∀ digit ∈ held.2, digit.isDigit) :
    SpelledExponent exponent (exponentText exponent) := by
  cases exponent with
  | none => exact .absent
  | some held =>
      obtain ⟨negative, digits⟩ := held
      obtain ⟨filled, decimal⟩ := spelled (negative, digits) rfl
      have signs : (negative, [if negative then '-' else '+']) ∈
          [(true, ['-']), (false, ['+']), (false, [])] := by
        cases negative <;> simp
      exact .present (.inl rfl) signs filled decimal

/-- Digits after a sign are what is left when the sign is split off. -/
theorem splitSign_spelled {negative : Bool} {sign digits : List Char}
    (signs : (negative, sign) ∈ [(true, ['-']), (false, ['+']), (false, [])])
    (filled : digits ≠ []) (decimal : ∀ digit ∈ digits, digit.isDigit) (rest : List Char) :
    splitSign (sign ++ digits ++ rest) = (negative, digits ++ rest) := by
  simp only [List.mem_cons, Prod.mk.injEq, List.not_mem_nil, or_false] at signs
  rcases signs with ⟨rfl, rfl⟩ | ⟨rfl, rfl⟩ | ⟨rfl, rfl⟩
  · rfl
  · rfl
  · cases digits with
    | nil => exact absurd rfl filled
    | cons first others =>
        have digit := decimal first List.mem_cons_self
        have unsigned : first ≠ '-' ∧ first ≠ '+' := by
          constructor <;> rintro rfl <;> exact absurd digit (by decide)
        simp [splitSign, unsigned]

theorem readExponent_spelled {exponent : Option (Bool × List Char)} {text rest : List Char}
    (spelled : SpelledExponent exponent text) (ends : EndsNumber rest) :
    readExponent (text ++ rest) = (exponent, rest) := by
  cases spelled with
  | absent =>
      cases rest with
      | nil => rfl
      | cons next rest =>
          have apart := ends next (by simp)
          simp [readExponent, apart.2.2.1, apart.2.2.2]
  | present marks signs filled decimal =>
      have taken := takeWhile_digits decimal ends.digits
      have left := dropWhile_digits decimal ends.digits
      have signed := splitSign_spelled signs filled decimal rest
      simp only [readExponent, List.cons_append, signed, taken, left]
      rw [if_pos (by simpa [filled] using marks)]

theorem readFraction_text {fraction : List Char} (decimal : ∀ digit ∈ fraction, digit.isDigit)
    {rest : List Char} (ends : EndsDigits rest) (point : rest.head? ≠ some '.') :
    readFraction (fractionText fraction ++ rest) = (fraction, rest) := by
  cases fraction with
  | nil =>
      show readFraction rest = ([], rest)
      unfold readFraction
      split
      · exact absurd rfl point
      · rfl
  | cons first others =>
      have taken := takeWhile_digits decimal ends
      have left := dropWhile_digits decimal ends
      show readFraction ('.' :: (first :: others ++ rest)) = (first :: others, rest)
      simp only [readFraction, taken, left]
      rfl

theorem endsDigits_exponent {exponent : Option (Bool × List Char)} {text rest : List Char}
    (spelled : SpelledExponent exponent text) (ends : EndsNumber rest) :
    EndsDigits (text ++ rest) ∧ (text ++ rest).head? ≠ some '.' := by
  cases spelled with
  | absent => exact ⟨ends.digits, fun same => (ends '.' same).2.1 rfl⟩
  | present marks => rcases marks with rfl | rfl <;> simp [EndsDigits]

theorem endsDigits_fraction (fraction : List Char) {rest : List Char} (ends : EndsDigits rest) :
    EndsDigits (fractionText fraction ++ rest) := by
  cases fraction with
  | nil => exact ends
  | cons first others => simp [EndsDigits, fractionText]

/-- The spellings of a numeral, which differ only in the exponent. -/
inductive SpelledNumeral : Numeral → List Char → Prop
  | parts {negative : Bool} {whole fraction text : List Char} {exponent : Option (Bool × List Char)}
      (wholeDigits : WholeDigits whole) (decimal : ∀ digit ∈ fraction, digit.isDigit)
      (spelled : SpelledExponent exponent text) :
      SpelledNumeral ⟨negative, whole, fraction, exponent⟩
        (signText negative ++ (whole ++ (fractionText fraction ++ text)))

variable {numeral : Numeral} {text rest : List Char}

theorem Numeral.WellSpelled.spelling (spelled : numeral.WellSpelled) :
    SpelledNumeral numeral numeral.spelling :=
  .parts spelled.whole spelled.fraction (spelledExponent_text spelled.exponent)

/-- A numeral is read as it is spelled. -/
theorem readNumeral?_spelled (spelled : SpelledNumeral numeral text) (ends : EndsNumber rest) :
    readNumeral? (text ++ rest) = some (numeral, rest) := by
  obtain ⟨wholeDigits, decimal, spelledExponent⟩ := spelled
  rename_i negative whole fraction text exponent
  obtain ⟨endsFraction, point⟩ := endsDigits_exponent spelledExponent ends
  have readsWhole := readWhole?_of_whole wholeDigits (endsDigits_fraction fraction endsFraction)
  have readsFraction := readFraction_text decimal endsFraction point
  have readsExponent := readExponent_spelled spelledExponent ends
  cases negative with
  | true => simp [signText, readNumeral?, readsWhole, readsFraction, readsExponent]
  | false =>
      cases whole with
      | nil => exact absurd rfl wholeDigits.filled
      | cons first others =>
          have unsigned : first ≠ '-' := by
            rintro rfl
            exact absurd (wholeDigits.decimal '-' (by simp)) (by decide)
          simp only [List.cons_append] at readsWhole
          simp [signText, readNumeral?, unsigned, readsWhole, readsFraction, readsExponent]

/-- A numeral starts with a digit, after a sign or without one. -/
theorem SpelledNumeral.eq_cons (spelled : SpelledNumeral numeral text) :
    ∃ first others, first.isDigit ∧ (text = first :: others ∨ text = '-' :: first :: others) := by
  obtain ⟨wholeDigits, -, -⟩ := spelled
  rename_i negative whole fraction text exponent
  cases whole with
  | nil => exact absurd rfl wholeDigits.filled
  | cons first others =>
      refine ⟨first, others ++ (fractionText fraction ++ text),
        wholeDigits.decimal first List.mem_cons_self, ?_⟩
      cases negative with
      | true => exact .inr rfl
      | false => exact .inl rfl

/-- No word starts with a digit, and none goes on with a digit after a minus sign. -/
theorem words_apart {first : Char} (digit : first.isDigit) (others : List Char) :
    (words.findSome? fun (word, value) =>
        (dropWord? word (first :: others)).map (value, ·)) = none ∧
      (words.findSome? fun (word, value) =>
        (dropWord? word ('-' :: first :: others)).map (value, ·)) = none := by
  have apart (letter : Char) (plain : letter.isDigit = false) : letter ≠ first := by
    rintro rfl
    simp [plain] at digit
  constructor
  · simp [words, dropWord?, apart 'n' (by decide), apart 't' (by decide), apart 'f' (by decide),
      apart 'N' (by decide), apart 'I' (by decide), apart '-' (by decide)]
  · simp [words, dropWord?, apart 'I' (by decide)]

/-- A numeral is read as the number that it is, unless it is an integer with too many digits. -/
theorem readAtom_spelled (spelled : SpelledNumeral numeral text)
    (short : numeral.isInteger = true → numeral.whole.length ≤ digitLimit)
    (ends : EndsNumber rest) :
    readAtom (text ++ rest) = .ok (.number numeral.value, rest) := by
  have noWord : (words.findSome? fun (word, held) =>
      (dropWord? word (text ++ rest)).map (held, ·)) = none := by
    obtain ⟨first, others, digit, rfl | rfl⟩ := spelled.eq_cons
    · exact (words_apart digit (others ++ rest)).1
    · exact (words_apart digit (others ++ rest)).2
  have allowed : (numeral.isInteger && decide (digitLimit < numeral.whole.length)) = false := by
    cases integral : numeral.isInteger with
    | false => rfl
    | true => simpa using short integral
  simp only [readAtom, noWord, readNumeral?_spelled spelled ends, allowed]
  rfl

theorem isDigit_printable {character : Char} (digit : character.isDigit) :
    ' ' ≤ character ∧ character ≤ '~' := by
  simp only [Char.isDigit, Bool.and_eq_true, decide_eq_true_eq] at digit
  exact ⟨Char.le_trans (by decide) digit.1, Char.le_trans digit.2 (by decide)⟩

theorem printable_spelling {numeral : Numeral} (spelled : numeral.WellSpelled) :
    ∀ character ∈ numeral.spelling, ' ' ≤ character ∧ character ≤ '~' := by
  obtain ⟨negative, whole, fraction, exponent⟩ := numeral
  obtain ⟨wholeDigits, decimal, digits⟩ := spelled
  dsimp only at wholeDigits decimal digits
  intro character member
  simp only [Numeral.spelling, List.mem_append] at member
  rcases member with sign | inWhole | inFraction | inExponent
  · cases negative with
    | true =>
        rw [List.mem_singleton.mp sign]
        decide
    | false => simp [signText] at sign
  · exact isDigit_printable (wholeDigits.decimal character inWhole)
  · cases fraction with
    | nil => simp [fractionText] at inFraction
    | cons first others =>
        rcases List.mem_cons.mp inFraction with rfl | digit
        · decide
        · exact isDigit_printable (decimal character digit)
  · cases exponent with
    | none => simp [exponentText] at inExponent
    | some held =>
        obtain ⟨-, decimalExponent⟩ := digits held rfl
        rcases List.mem_cons.mp inExponent with rfl | later
        · decide
        · rcases List.mem_cons.mp later with rfl | digit
          · cases held.1 <;> decide
          · exact isDigit_printable (decimalExponent character digit)

/-! ### Integers -/

/-- The spelling of an integer in written text. -/
def Numeral.ofInt (value : Int) : Numeral := ⟨value < 0, Nat.toDigits 10 value.natAbs, [], none⟩

theorem value_ofInt (value : Int) : (Numeral.ofInt value).value = .integer value := by
  simp only [Numeral.ofInt, Numeral.value, Numeral.isInteger, naturalOfDigits_toDigits]
  by_cases negative : value < 0
  · have back : -(value.natAbs : Int) = value := by omega
    simp only [negative]
    exact congrArg Number.integer back
  · have back : (value.natAbs : Int) = value := by omega
    simp only [negative]
    exact congrArg Number.integer back

theorem wellSpelled_ofInt (value : Int) : (Numeral.ofInt value).WellSpelled :=
  ⟨wholeDigits_toDigits _, by simp [Numeral.ofInt], by simp [Numeral.ofInt]⟩

theorem spelling_ofInt (value : Int) : (Numeral.ofInt value).spelling = integerText value := by
  simp [Numeral.spelling, Numeral.ofInt, signText, fractionText, exponentText, integerText]

/-! ### Doubles -/

/-- A text without a sign spells a decimal, but no integer. -/
def Spells (text : List Char) (decimal : Decimal) : Prop :=
  ∃ numeral : Numeral, numeral.WellSpelled ∧ numeral.isInteger = false ∧
    numeral.negative = false ∧ numeral.spelling = text ∧ numeral.decimal.toRat = decimal.toRat

variable {decimal : Decimal}

theorem fractionText_of_ne_nil {fraction : List Char} (filled : fraction ≠ []) :
    fractionText fraction = '.' :: fraction := by
  simp [fractionText, filled]

theorem spells_zero : Spells ['0', '.', '0'] ⟨0, 0⟩ := by
  refine ⟨⟨false, ['0'], ['0'], none⟩, ⟨wholeDigits_zero, isDigit_zeros 1, by simp⟩, rfl, rfl, rfl,
    ?_⟩
  simp [Numeral.decimal, toRat, naturalOfDigits, Nat.ofDigitChars]

/-- The digits of a positive decimal. -/
structure DigitsOf (digits : List Char) (decimal : Decimal) : Prop where
  each : ∀ digit ∈ digits, digit.isDigit
  value : naturalOfDigits digits = decimal.digits
  filled : digits ≠ []
  leading : digits.head? ≠ some '0'

theorem digitsOf_toDigits (positive : 0 < decimal.digits) :
    DigitsOf (Nat.toDigits 10 decimal.digits) decimal :=
  ⟨isDigit_toDigits _, naturalOfDigits_toDigits _, Nat.toDigits_ne_nil, head?_toDigits positive⟩

variable {digits others : List Char} {point : Int}

/-- What starts with the same digit can stand before the point. -/
theorem DigitsOf.whole (digitsOf : DigitsOf digits decimal)
    (othersDecimal : ∀ digit ∈ others, digit.isDigit) (same : others.head? = digits.head?) :
    WholeDigits others := by
  refine ⟨othersDecimal, ?_, .inr (same ▸ digitsOf.leading)⟩
  rintro rfl
  exact digitsOf.filled (List.head?_eq_none_iff.mp same.symm)

/-- The first of the digits are digits before a point, and the rest are digits after it. -/
theorem DigitsOf.cut (digitsOf : DigitsOf digits decimal) {count : Nat} (some : 0 < count) :
    WholeDigits (digits.take count) ∧ ∀ digit ∈ digits.drop count, digit.isDigit := by
  constructor
  · apply digitsOf.whole
    · exact fun digit member => digitsOf.each digit (List.mem_of_mem_take member)
    · rw [List.head?_take, if_neg (by omega)]
  · exact fun digit member => digitsOf.each digit (List.mem_of_mem_drop member)

theorem DigitsOf.spells_small (digitsOf : DigitsOf digits decimal)
    (place : (digits.length : Int) + decimal.scale = point) (small : point ≤ 0) :
    Spells ('0' :: '.' :: (List.replicate point.natAbs '0' ++ digits)) decimal := by
  have filled := digitsOf.filled
  have fraction : List.replicate point.natAbs '0' ++ digits ≠ [] := by simp [filled]
  refine ⟨⟨false, ['0'], List.replicate point.natAbs '0' ++ digits, none⟩,
    ⟨wholeDigits_zero, isDigit_append (isDigit_zeros _) digitsOf.each, by simp⟩, ?_, rfl, ?_, ?_⟩
  · simp [Numeral.isInteger, filled]
  · simp [Numeral.spelling, signText, fractionText_of_ne_nil fraction, exponentText]
  · have scale : -((point.natAbs : Int) + digits.length) = decimal.scale := by omega
    have value : naturalOfDigits (['0'] ++ (List.replicate point.natAbs '0' ++ digits)) =
        decimal.digits := by
      rw [naturalOfDigits_append, naturalOfDigits_append, naturalOfDigits_zeros, digitsOf.value,
        naturalOfDigits_zero, Nat.mul_zero, Nat.mul_zero, Nat.zero_add, Nat.zero_add]
    simp only [Numeral.decimal, toRat, value, List.length_append, List.length_replicate, ← scale]
    push_cast
    rw [zero_sub]

theorem DigitsOf.spells_round (digitsOf : DigitsOf digits decimal) {zeros : Nat}
    (scale : decimal.scale = zeros) :
    Spells (digits ++ List.replicate zeros '0' ++ ['.', '0']) decimal := by
  refine ⟨⟨false, digits ++ List.replicate zeros '0', ['0'], none⟩, ⟨?_, isDigit_zeros 1, by simp⟩,
    rfl, rfl, ?_, ?_⟩
  · apply digitsOf.whole (isDigit_append digitsOf.each (isDigit_zeros _))
    exact List.head?_append_of_ne_nil _ digitsOf.filled
  · simp [Numeral.spelling, signText, fractionText, exponentText]
  · simp only [Numeral.decimal, toRat, naturalOfDigits_append, naturalOfDigits_zeros,
      naturalOfDigits_zero, digitsOf.value, scale, List.length_replicate, List.length_singleton]
    push_cast
    rw [zpow_natCast]
    ring

theorem DigitsOf.spells_cut (digitsOf : DigitsOf digits decimal)
    (place : (digits.length : Int) + decimal.scale = point) (large : 0 < point)
    (inside : point.toNat < digits.length) :
    Spells (digits.take point.toNat ++ '.' :: digits.drop point.toNat) decimal := by
  have fraction : digits.drop point.toNat ≠ [] := by
    rw [ne_eq, List.drop_eq_nil_iff]
    omega
  obtain ⟨whole, rest⟩ := digitsOf.cut (show 0 < point.toNat by omega)
  refine ⟨⟨false, digits.take point.toNat, digits.drop point.toNat, none⟩, ⟨whole, rest, by simp⟩,
    ?_, rfl, ?_, ?_⟩
  · simpa [Numeral.isInteger] using fraction
  · simp [Numeral.spelling, signText, fractionText_of_ne_nil fraction, exponentText]
  · have scale : -((digits.length - point.toNat : Nat) : Int) = decimal.scale := by omega
    simp [Numeral.decimal, toRat, List.take_append_drop, digitsOf.value, ← scale]

theorem DigitsOf.spells_positional (digitsOf : DigitsOf digits decimal)
    (place : (digits.length : Int) + decimal.scale = point) :
    Spells (Binary64.positional digits point) decimal := by
  unfold Binary64.positional
  split
  · rename_i small
    exact digitsOf.spells_small place small
  · rename_i large
    split
    · exact digitsOf.spells_round (by omega)
    · rename_i inside
      exact digitsOf.spells_cut place (by omega) (by omega)

theorem DigitsOf.spells_scientific (digitsOf : DigitsOf digits decimal) (layout : Binary64.Layout)
    (place : (digits.length : Int) + decimal.scale = point) :
    Spells (Binary64.scientific layout digits point) decimal := by
  unfold Binary64.scientific
  dsimp only
  generalize layout.exponentDigits - (Nat.toDigits 10 (point - 1).natAbs).length = zeros
  obtain ⟨whole, rest⟩ := digitsOf.cut Nat.one_pos
  refine ⟨⟨false, digits.take 1, digits.drop 1,
      some (decide (point - 1 < 0), List.replicate zeros '0' ++ Nat.toDigits 10 (point - 1).natAbs)⟩,
    ⟨whole, rest, ?_⟩, ?_, rfl, ?_, ?_⟩
  · rintro held ⟨⟩
    exact ⟨by simp [Nat.toDigits_ne_nil], isDigit_append (isDigit_zeros _) (isDigit_toDigits _)⟩
  · simp [Numeral.isInteger]
  · simp [Numeral.spelling, signText, fractionText, exponentText]
  · have exponent : naturalOfDigits
        (List.replicate zeros '0' ++ Nat.toDigits 10 (point - 1).natAbs) = (point - 1).natAbs := by
      simp [naturalOfDigits_append, naturalOfDigits_zeros, naturalOfDigits_toDigits]
    have count : 0 < digits.length := List.length_pos_iff.mpr digitsOf.filled
    have fraction : ((digits.drop 1).length : Int) = digits.length - 1 := by
      rw [List.length_drop]
      omega
    by_cases negative : point - 1 < 0
    · have scale : -((point - 1).natAbs : Int) - ((digits.length : Int) - 1) = decimal.scale := by
        omega
      simp only [Numeral.decimal, negative, decide_true, exponent, fraction, toRat, scale,
        List.take_append_drop, digitsOf.value]
    · have scale : ((point - 1).natAbs : Int) - ((digits.length : Int) - 1) = decimal.scale := by
        omega
      simp only [Numeral.decimal, negative, decide_false, exponent, fraction, toRat, scale,
        List.take_append_drop, digitsOf.value]

theorem spells_layOut (layout : Binary64.Layout) (positive : 0 < decimal.digits) :
    Spells (Binary64.layOut layout decimal) decimal := by
  have digitsOf := digitsOf_toDigits positive
  unfold Binary64.layOut
  dsimp only
  split
  · exact digitsOf.spells_positional rfl
  · exact digitsOf.spells_scientific layout rfl

/-- A finite double is written as a numeral that is read as the double. -/
theorem render_finite {negative : Bool} {mantissa : Nat} {exponent : Int}
    (canonical : (Binary64.finite negative mantissa exponent).Canonical) :
    ∃ numeral : Numeral, numeral.WellSpelled ∧ numeral.isInteger = false ∧
      numeral.spelling = Binary64.render writtenReal (.finite negative mantissa exponent) ∧
      numeral.value = .real (.finite negative mantissa exponent) := by
  obtain ⟨text, decimal, spells, renders, rounds⟩ : ∃ text decimal, Spells text decimal ∧
      Binary64.render writtenReal (.finite negative mantissa exponent) = signText negative ++ text ∧
      decimal.toBinary64 negative = .finite negative mantissa exponent := by
    by_cases zero : mantissa = 0
    · refine ⟨_, _, spells_zero, by simp [Binary64.render, signText, zero], ?_⟩
      obtain ⟨-, -, -, full⟩ := canonical
      have least : exponent = Binary64.leastExponent := full.resolve_left (by omega)
      rw [zero, least]
      rfl
    · have plain : (Binary64.finite false mantissa exponent).Canonical := canonical
      refine ⟨_, _, spells_layOut writtenReal (Binary64.shortest_digits_pos plain zero),
        by simp [Binary64.render, signText, zero], ?_⟩
      rw [toBinary64_eq]
      exact Binary64.ofMagnitude_sign (Binary64.ofMagnitude_shortest plain zero) negative
  obtain ⟨numeral, spelled, real, unsigned, same, value⟩ := spells
  refine ⟨{ numeral with negative := negative }, ⟨spelled.whole, spelled.fraction, spelled.exponent⟩,
    real, ?_, ?_⟩
  · rw [renders, ← same]
    simp [Numeral.spelling, signText, unsigned]
  · have apart : Numeral.isInteger { numeral with negative := negative } = false := real
    rw [toBinary64_eq, ← value, ← toBinary64_eq] at rounds
    rw [Numeral.value, apart]
    exact congrArg Number.real rounds

end Json

end ContractRollout
