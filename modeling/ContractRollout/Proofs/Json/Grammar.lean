import ContractRollout.Proofs.Json.Numerals
import ContractRollout.Proofs.Json.Texts

/-!
# The grammar of values

The texts that can be read are given by a grammar that does not mention reading: words, numerals,
texts in quotes, and arrays and objects with blanks around their parts. A text is read as a value
exactly if it is spelled as that value by the grammar, with blanks around it.
-/

namespace ContractRollout

namespace Json

/-! ### Blanks -/

/-- Every character is one that reading passes over between values. -/
def Blank (text : List Char) : Prop := ∀ character ∈ text, isSpace character = true

theorem blank_nil : Blank [] := by simp [Blank]

theorem skipSpace_blank {blank : List Char} (isBlank : Blank blank) {next : Char}
    (solid : isSpace next = false) (rest : List Char) :
    skipSpace (blank ++ next :: rest) = next :: rest := by
  rw [skipSpace, List.dropWhile_append_of_pos isBlank]
  simp [solid]

theorem skipSpace_of_blank {blank : List Char} (isBlank : Blank blank) : skipSpace blank = [] :=
  List.dropWhile_eq_nil_iff.mpr isBlank

/-- What is passed over is blank. -/
theorem exists_blank (text : List Char) : ∃ blank, Blank blank ∧ text = blank ++ skipSpace text :=
  ⟨text.takeWhile isSpace, fun _ member => List.all_eq_true.mp List.all_takeWhile _ member,
    List.takeWhile_append_dropWhile.symm⟩

theorem endsNumber_blank {blank : List Char} (isBlank : Blank blank) {rest : List Char}
    (ends : EndsNumber rest) : EndsNumber (blank ++ rest) := by
  cases blank with
  | nil => exact ends
  | cons space blank =>
      have blankSpace := isBlank space (by simp)
      simp only [isSpace, Bool.or_eq_true, beq_iff_eq] at blankSpace
      intro following member
      obtain rfl : space = following := by simpa using member
      rcases blankSpace with ((rfl | rfl) | rfl) | rfl <;> decide

/-- Text that starts with a character which is no space and closes nothing. -/
def Solid (written : List Char) : Prop :=
  ∃ first others, written = first :: others ∧ isSpace first = false ∧
    first ≠ ']' ∧ first ≠ '\x7d'

theorem Solid.append {written : List Char} (solid : Solid written) (rest : List Char) :
    Solid (written ++ rest) := by
  obtain ⟨first, others, rfl, dark, shut⟩ := solid
  exact ⟨first, others ++ rest, rfl, dark, shut⟩

theorem Solid.skipSpace {blank written : List Char} (solid : Solid written)
    (isBlank : Blank blank) : skipSpace (blank ++ written) = written := by
  obtain ⟨first, others, rfl, dark, -⟩ := solid
  exact skipSpace_blank isBlank dark others

/-! ### The grammar -/

/-- What a part of a text can stand for. -/
inductive Phrase where
  | value (value : Json)
  /-- The items of an array that has some. -/
  | items (items : List Json)
  /-- The members of an object that has some, as they stand in the text. -/
  | members (members : Members)

/-- The spellings of phrases. The items of an array and the members of an object come with the
blanks after each of them, but without what encloses them. -/
inductive Spelled : Phrase → List Char → Prop
  | word {word : List Char} {value : Json} (known : (word, value) ∈ words) :
      Spelled (.value value) word
  | number {numeral : Numeral} {text : List Char} (spelled : SpelledNumeral numeral text)
      (short : numeral.isInteger = true → numeral.whole.length ≤ digitLimit) :
      Spelled (.value (.number numeral.value)) text
  | string {pieces : List Piece} {text : List Char} (spelled : SpelledPieces pieces text) :
      Spelled (.value (.string (String.ofList (joinPieces pieces)))) ('\x22' :: (text ++ ['\x22']))
  | emptyArray {blank : List Char} (isBlank : Blank blank) :
      Spelled (.value (.array [])) ('[' :: (blank ++ [']']))
  | array {blank text : List Char} {items : List Json} (isBlank : Blank blank)
      (spelled : Spelled (.items items) text) :
      Spelled (.value (.array items)) ('[' :: (blank ++ (text ++ [']'])))
  | emptyObject {blank : List Char} (isBlank : Blank blank) :
      Spelled (.value (.object [])) ('\x7b' :: (blank ++ ['\x7d']))
  | object {blank text : List Char} {members : Members} (isBlank : Blank blank)
      (spelled : Spelled (.members members) text) :
      Spelled (.value (.object members.collect)) ('\x7b' :: (blank ++ (text ++ ['\x7d'])))
  | lastItem {item : Json} {text after : List Char} (spelled : Spelled (.value item) text)
      (isBlank : Blank after) : Spelled (.items [item]) (text ++ after)
  | item {item : Json} {items : List Json} {text after before rest : List Char}
      (spelled : Spelled (.value item) text) (isBlank : Blank after) (isBlankNext : Blank before)
      (others : Spelled (.items items) rest) :
      Spelled (.items (item :: items)) (text ++ (after ++ ',' :: (before ++ rest)))
  | lastMember {pieces : List Piece} {value : Json} {key afterKey beforeValue text after : List Char}
      (spelledKey : SpelledPieces pieces key) (isBlankKey : Blank afterKey)
      (isBlankColon : Blank beforeValue) (spelled : Spelled (.value value) text)
      (isBlank : Blank after) :
      Spelled (.members [(String.ofList (joinPieces pieces), value)])
        ('\x22' :: (key ++ '\x22' :: (afterKey ++ ':' :: (beforeValue ++ (text ++ after)))))
  | member {pieces : List Piece} {value : Json} {members : Members}
      {key afterKey beforeValue text after before rest : List Char}
      (spelledKey : SpelledPieces pieces key) (isBlankKey : Blank afterKey)
      (isBlankColon : Blank beforeValue) (spelled : Spelled (.value value) text)
      (isBlank : Blank after) (isBlankNext : Blank before)
      (others : Spelled (.members members) rest) :
      Spelled (.members ((String.ofList (joinPieces pieces), value) :: members))
        ('\x22' :: (key ++ '\x22' :: (afterKey ++ ':' :: (beforeValue ++
          (text ++ (after ++ ',' :: (before ++ rest)))))))

/-- A value is spelled by a whole text, with blanks around it. -/
def SpelledBy (value : Json) (text : List Char) : Prop :=
  ∃ before written after, Blank before ∧ Blank after ∧ Spelled (.value value) written ∧
    text = before ++ (written ++ after)

/-! ### Values are read as they are spelled -/

/-- A character that may start a value without parts, and that no container ends with. -/
def StartsAtom (character : Char) : Prop :=
  isSpace character = false ∧ character ≠ ']' ∧ character ≠ '\x7d' ∧ character ≠ '\x22' ∧
    character ≠ '[' ∧ character ≠ '\x7b'

instance : DecidablePred StartsAtom := fun _ => inferInstanceAs (Decidable (_ ∧ _))

theorem StartsAtom.solid {first : Char} (starts : StartsAtom first) (others : List Char) :
    Solid (first :: others) := by
  obtain ⟨dark, noBracket, noBrace, -⟩ := starts
  exact ⟨first, others, rfl, dark, noBracket, noBrace⟩

theorem readValue_atom {first : Char} (starts : StartsAtom first) (bound : Nat)
    (others : List Char) : readValue (bound + 1) (first :: others) = readAtom (first :: others) := by
  obtain ⟨-, -, -, unquoted, noArray, noObject⟩ := starts
  unfold readValue
  split <;> simp_all

theorem startsAtom_of_digit {first : Char} (digit : first.isDigit) : StartsAtom first := by
  have apart (other : Char) (plain : other.isDigit = false) : first ≠ other := by
    rintro rfl
    simp [plain] at digit
  refine ⟨?_, apart _ (by decide), apart _ (by decide), apart _ (by decide), apart _ (by decide),
    apart _ (by decide)⟩
  simp [isSpace, apart ' ' (by decide), apart '\t' (by decide), apart '\n' (by decide),
    apart '\r' (by decide)]

theorem SpelledNumeral.starts {numeral : Numeral} {text : List Char}
    (spelled : SpelledNumeral numeral text) :
    ∃ first others, text = first :: others ∧ StartsAtom first := by
  obtain ⟨first, others, digit, rfl | rfl⟩ := spelled.eq_cons
  · exact ⟨first, others, rfl, startsAtom_of_digit digit⟩
  · exact ⟨'-', first :: others, rfl, by decide⟩

theorem readAtom_word {word : List Char} {value : Json} (known : (word, value) ∈ words)
    (rest : List Char) : readAtom (word ++ rest) = .ok (value, rest) ∧
      ∃ first others, word = first :: others ∧ StartsAtom first := by
  simp only [words, List.mem_cons, Prod.mk.injEq, List.not_mem_nil, or_false] at known
  rcases known with ⟨rfl, rfl⟩ | ⟨rfl, rfl⟩ | ⟨rfl, rfl⟩ | ⟨rfl, rfl⟩ | ⟨rfl, rfl⟩ | ⟨rfl, rfl⟩ <;>
    exact ⟨rfl, _, _, rfl, by decide⟩

theorem solid_of_spelled {phrase : Phrase} {text : List Char} (spelled : Spelled phrase text) :
    Solid text := by
  induction spelled with
  | word known =>
      obtain ⟨-, first, others, rfl, starts⟩ := readAtom_word known []
      exact starts.solid others
  | number spelled =>
      obtain ⟨first, others, rfl, starts⟩ := spelled.starts
      exact starts.solid others
  | string | emptyArray | array | emptyObject | object | lastMember | member =>
      exact ⟨_, _, rfl, by decide, by decide, by decide⟩
  | lastItem _ _ ih => exact ih.append _
  | item _ _ _ _ ih => exact ih.append _

/-- A phrase is read from a text, whatever follows. What encloses items or members is read along
with them. -/
def Reads : Phrase → List Char → Prop
  | .value value, text => ∀ (bound : Nat) (rest : List Char), 2 * text.length ≤ bound →
      EndsNumber rest → readValue bound (text ++ rest) = .ok (value, rest)
  | .items items, text => ∀ (bound : Nat) (rest : List Char), 2 * text.length < bound →
      readItems bound (text ++ ']' :: rest) = .ok (items, rest)
  | .members members, text => ∀ (bound : Nat) (rest : List Char), 2 * text.length < bound →
      readMembers bound (text ++ '\x7d' :: rest) = .ok (members, rest)

section Reads

variable {blank text after before rest : List Char} {item value : Json} {items : List Json}
  {members : Members}

theorem readString_spelled {pieces : List Piece} {key : List Char}
    (spelled : SpelledPieces pieces key) (opening rest : List Char) :
    readString opening (key ++ '\x22' :: rest) = .ok (String.ofList (joinPieces pieces), rest) := by
  simp [readString, readPieces_spelled spelled, bind, Except.bind, pure, Except.pure]

theorem reads_array (isBlank : Blank blank) (solid : Solid text) (reads : Reads (.items items) text) :
    Reads (.value (.array items)) ('[' :: (blank ++ (text ++ [']']))) := by
  intro bound rest enough _
  simp only [List.length_cons, List.length_append] at enough
  obtain ⟨bound, rfl⟩ : ∃ smaller, bound = smaller + 1 := ⟨bound - 1, by omega⟩
  have starts := (solid.append (']' :: rest)).skipSpace isBlank
  have readsItems := reads bound rest (by omega)
  obtain ⟨first, others, rfl, -, goesOn, -⟩ := solid
  unfold readValue
  simp only [List.cons_append, List.append_assoc, List.nil_append] at starts readsItems ⊢
  rw [starts]
  split
  · rename_i same
    exact absurd (List.cons.inj same).1 goesOn
  · simp [readsItems, bind, Except.bind, pure, Except.pure]

theorem reads_object (isBlank : Blank blank) (solid : Solid text)
    (reads : Reads (.members members) text) :
    Reads (.value (.object members.collect)) ('\x7b' :: (blank ++ (text ++ ['\x7d']))) := by
  intro bound rest enough _
  simp only [List.length_cons, List.length_append] at enough
  obtain ⟨bound, rfl⟩ : ∃ smaller, bound = smaller + 1 := ⟨bound - 1, by omega⟩
  have starts := (solid.append ('\x7d' :: rest)).skipSpace isBlank
  have readsMembers := reads bound rest (by omega)
  obtain ⟨first, others, rfl, -, -, goesOn⟩ := solid
  unfold readValue
  simp only [List.cons_append, List.append_assoc, List.nil_append] at starts readsMembers ⊢
  rw [starts]
  split
  · rename_i same
    exact absurd (List.cons.inj same).1 goesOn
  · simp [readsMembers, bind, Except.bind, pure, Except.pure]

theorem reads_lastItem (isBlank : Blank after) (reads : Reads (.value item) text) :
    Reads (.items [item]) (text ++ after) := by
  intro bound rest enough
  simp only [List.length_append] at enough
  obtain ⟨bound, rfl⟩ : ∃ smaller, bound = smaller + 1 := ⟨bound - 1, by omega⟩
  have readsItem := reads bound (after ++ ']' :: rest) (by omega)
    (endsNumber_blank isBlank (by simp [EndsNumber]))
  have closes : skipSpace (after ++ ']' :: rest) = ']' :: rest := skipSpace_blank isBlank rfl rest
  rw [List.append_assoc]
  simp [readItems, readsItem, bind, Except.bind, closes, pure, Except.pure]

theorem reads_item (isBlank : Blank after) (isBlankNext : Blank before) (solid : Solid rest)
    (reads : Reads (.value item) text) (readsOthers : Reads (.items items) rest) :
    Reads (.items (item :: items)) (text ++ (after ++ ',' :: (before ++ rest))) := by
  intro bound following enough
  simp only [List.length_append, List.length_cons] at enough
  obtain ⟨bound, rfl⟩ : ∃ smaller, bound = smaller + 1 := ⟨bound - 1, by omega⟩
  have readsItem := reads bound (after ++ ',' :: (before ++ (rest ++ ']' :: following))) (by omega)
    (endsNumber_blank isBlank (by simp [EndsNumber]))
  have separates : skipSpace (after ++ ',' :: (before ++ (rest ++ ']' :: following))) =
      ',' :: (before ++ (rest ++ ']' :: following)) :=
    skipSpace_blank isBlank rfl _
  have starts := (solid.append (']' :: following)).skipSpace isBlankNext
  have readsRest := readsOthers bound following (by omega)
  simp only [List.append_assoc, List.cons_append]
  simp [readItems, readsItem, bind, Except.bind, separates, starts, readsRest, pure, Except.pure]

theorem reads_lastMember {pieces : List Piece} {key afterKey beforeValue : List Char}
    (spelledKey : SpelledPieces pieces key) (isBlankKey : Blank afterKey)
    (isBlankColon : Blank beforeValue) (isBlank : Blank after) (solid : Solid text)
    (reads : Reads (.value value) text) :
    Reads (.members [(String.ofList (joinPieces pieces), value)])
      ('\x22' :: (key ++ '\x22' :: (afterKey ++ ':' :: (beforeValue ++ (text ++ after))))) := by
  intro bound rest enough
  simp only [List.length_append, List.length_cons] at enough
  obtain ⟨bound, rfl⟩ : ∃ smaller, bound = smaller + 1 := ⟨bound - 1, by omega⟩
  have colon : skipSpace (afterKey ++ ':' :: (beforeValue ++ (text ++ (after ++ '\x7d' :: rest)))) =
      ':' :: (beforeValue ++ (text ++ (after ++ '\x7d' :: rest))) :=
    skipSpace_blank isBlankKey rfl _
  have starts := (solid.append (after ++ '\x7d' :: rest)).skipSpace isBlankColon
  have readsValue := reads bound (after ++ '\x7d' :: rest) (by omega)
    (endsNumber_blank isBlank (by simp [EndsNumber]))
  have closes : skipSpace (after ++ '\x7d' :: rest) = '\x7d' :: rest :=
    skipSpace_blank isBlank rfl rest
  simp only [List.append_assoc, List.cons_append]
  simp [readMembers, readString_spelled spelledKey, bind, Except.bind, colon, starts, readsValue,
    closes, pure, Except.pure]

theorem reads_member {pieces : List Piece} {key afterKey beforeValue : List Char}
    (spelledKey : SpelledPieces pieces key) (isBlankKey : Blank afterKey)
    (isBlankColon : Blank beforeValue) (isBlank : Blank after) (isBlankNext : Blank before)
    (solid : Solid text) (solidRest : Solid rest) (reads : Reads (.value value) text)
    (readsOthers : Reads (.members members) rest) :
    Reads (.members ((String.ofList (joinPieces pieces), value) :: members))
      ('\x22' :: (key ++ '\x22' :: (afterKey ++ ':' :: (beforeValue ++
        (text ++ (after ++ ',' :: (before ++ rest))))))) := by
  intro bound following enough
  simp only [List.length_append, List.length_cons] at enough
  obtain ⟨bound, rfl⟩ : ∃ smaller, bound = smaller + 1 := ⟨bound - 1, by omega⟩
  have colon : skipSpace (afterKey ++ ':' :: (beforeValue ++
        (text ++ (after ++ ',' :: (before ++ (rest ++ '\x7d' :: following)))))) =
      ':' :: (beforeValue ++ (text ++ (after ++ ',' :: (before ++ (rest ++ '\x7d' :: following))))) :=
    skipSpace_blank isBlankKey rfl _
  have starts := (solid.append (after ++ ',' :: (before ++ (rest ++ '\x7d' :: following)))).skipSpace
    isBlankColon
  have readsValue := reads bound (after ++ ',' :: (before ++ (rest ++ '\x7d' :: following)))
    (by omega) (endsNumber_blank isBlank (by simp [EndsNumber]))
  have separates : skipSpace (after ++ ',' :: (before ++ (rest ++ '\x7d' :: following))) =
      ',' :: (before ++ (rest ++ '\x7d' :: following)) :=
    skipSpace_blank isBlank rfl _
  have startsNext := (solidRest.append ('\x7d' :: following)).skipSpace isBlankNext
  have readsRest := readsOthers bound following (by omega)
  simp only [List.append_assoc, List.cons_append]
  simp [readMembers, readString_spelled spelledKey, bind, Except.bind, colon, starts, readsValue,
    separates, startsNext, readsRest, pure, Except.pure]

end Reads

/-- Every phrase is read as it is spelled. -/
theorem reads_of_spelled {phrase : Phrase} {text : List Char} (spelled : Spelled phrase text) :
    Reads phrase text := by
  induction spelled with
  | word known =>
      intro bound rest enough _
      obtain ⟨reads, first, others, rfl, starts⟩ := readAtom_word known rest
      obtain ⟨bound, rfl⟩ : ∃ smaller, bound = smaller + 1 :=
        ⟨bound - 1, by simp at enough; omega⟩
      rw [← reads, List.cons_append, readValue_atom starts]
  | number spelled short =>
      intro bound rest enough ends
      have reads := readAtom_spelled spelled short ends
      obtain ⟨first, others, rfl, starts⟩ := spelled.starts
      obtain ⟨bound, rfl⟩ : ∃ smaller, bound = smaller + 1 :=
        ⟨bound - 1, by simp at enough; omega⟩
      rw [← reads, List.cons_append, readValue_atom starts]
  | string spelled =>
      intro bound rest enough _
      obtain ⟨bound, rfl⟩ : ∃ smaller, bound = smaller + 1 :=
        ⟨bound - 1, by simp at enough; omega⟩
      simp [readValue, readString_spelled spelled, bind, Except.bind, pure, Except.pure]
  | emptyArray isBlank =>
      intro bound rest enough _
      obtain ⟨bound, rfl⟩ : ∃ smaller, bound = smaller + 1 :=
        ⟨bound - 1, by simp at enough; omega⟩
      simp [readValue, skipSpace_blank isBlank (show isSpace ']' = false from rfl)]
  | array isBlank spelled ih => exact reads_array isBlank (solid_of_spelled spelled) ih
  | emptyObject isBlank =>
      intro bound rest enough _
      obtain ⟨bound, rfl⟩ : ∃ smaller, bound = smaller + 1 :=
        ⟨bound - 1, by simp at enough; omega⟩
      simp [readValue, skipSpace_blank isBlank (show isSpace '\x7d' = false from rfl)]
  | object isBlank spelled ih => exact reads_object isBlank (solid_of_spelled spelled) ih
  | lastItem _ isBlank ih => exact reads_lastItem isBlank ih
  | item _ isBlank isBlankNext others ih ihOthers =>
      exact reads_item isBlank isBlankNext (solid_of_spelled others) ih ihOthers
  | lastMember spelledKey isBlankKey isBlankColon spelled isBlank ih =>
      exact reads_lastMember spelledKey isBlankKey isBlankColon isBlank (solid_of_spelled spelled) ih
  | member spelledKey isBlankKey isBlankColon spelled isBlank isBlankNext others ih ihOthers =>
      exact reads_member spelledKey isBlankKey isBlankColon isBlank isBlankNext
        (solid_of_spelled spelled) (solid_of_spelled others) ih ihOthers

/-! ### What is read is spelled -/

theorem dropWord?_eq_some {word text rest : List Char} :
    dropWord? word text = some rest ↔ text = word ++ rest := by
  induction word generalizing text with
  | nil => simp [dropWord?]
  | cons letter word ih =>
      cases text with
      | nil => simp [dropWord?]
      | cons character text =>
          rw [dropWord?]
          split
          · rename_i same
            simp [ih, same]
          · rename_i differs
            simp [eq_comm, differs]

theorem wholeDigits_of_read {text digits rest : List Char}
    (reads : readWhole? text = some (digits, rest)) : WholeDigits digits ∧ text = digits ++ rest := by
  have decimal := readWhole?_digits reads
  unfold readWhole? at reads
  split at reads
  · obtain ⟨rfl, rfl⟩ := by simpa using reads
    exact ⟨wholeDigits_zero, rfl⟩
  · rename_i nonzero
    dsimp only at reads
    split at reads
    · simp at reads
    · rename_i filled
      obtain ⟨rfl, rfl⟩ := by simpa using reads
      refine ⟨⟨decimal, by simpa using filled, .inr ?_⟩, List.takeWhile_append_dropWhile.symm⟩
      cases text with
      | nil => simp
      | cons first others =>
          have apart : first ≠ '0' := by
            rintro rfl
            exact nonzero others rfl
          by_cases digit : first.isDigit <;> simp [digit, apart]

theorem fraction_of_read (text : List Char) :
    (∀ digit ∈ (readFraction text).1, digit.isDigit) ∧
      text = fractionText (readFraction text).1 ++ (readFraction text).2 := by
  unfold readFraction
  split
  · rename_i rest
    dsimp only
    split
    · simp [fractionText]
    · rename_i filled
      refine ⟨fun digit member => List.all_eq_true.mp List.all_takeWhile digit member, ?_⟩
      rw [fractionText, if_neg filled, List.cons_append, List.takeWhile_append_dropWhile]
  · simp [fractionText]

theorem sign_of_split (text : List Char) :
    ∃ sign, ((splitSign text).1, sign) ∈ [(true, ['-']), (false, ['+']), (false, [])] ∧
      text = sign ++ (splitSign text).2 := by
  unfold splitSign
  split
  · exact ⟨['-'], by simp, rfl⟩
  · exact ⟨['+'], by simp, rfl⟩
  · exact ⟨[], by simp, rfl⟩

theorem exponent_of_read (text : List Char) :
    ∃ written, SpelledExponent (readExponent text).1 written ∧
      text = written ++ (readExponent text).2 := by
  unfold readExponent
  split
  · exact ⟨[], .absent, rfl⟩
  · rename_i mark rest
    obtain ⟨sign, signs, split⟩ := sign_of_split rest
    dsimp only
    split
    · rename_i goesOn
      obtain ⟨marks, filled⟩ := by simpa using goesOn
      refine ⟨_, .present marks signs (by simpa using filled)
        fun digit member => List.all_eq_true.mp List.all_takeWhile digit member, ?_⟩
      rw [List.cons_append, List.append_assoc, List.takeWhile_append_dropWhile, ← split]
    · exact ⟨[], .absent, rfl⟩

theorem spelledNumeral_of_read {text rest : List Char} {numeral : Numeral}
    (reads : readNumeral? text = some (numeral, rest)) :
    ∃ written, SpelledNumeral numeral written ∧ text = written ++ rest := by
  unfold readNumeral? at reads
  split at reads
  rename_i negative unsigned given
  obtain ⟨⟨whole, later⟩, readsWhole, same⟩ := Option.map_eq_some_iff.mp reads
  obtain ⟨wholeDigits, rfl⟩ := wholeDigits_of_read readsWhole
  obtain ⟨decimal, splitFraction⟩ := fraction_of_read later
  obtain ⟨exponentText, spelled, splitExponent⟩ := exponent_of_read (readFraction later).2
  have parts : ((⟨negative, whole, (readFraction later).1, (readExponent (readFraction later).2).1⟩,
      (readExponent (readFraction later).2).2) : Numeral × List Char) = (numeral, rest) := same
  obtain ⟨rfl, rfl⟩ := Prod.mk.inj parts
  refine ⟨_, .parts wholeDigits decimal spelled, ?_⟩
  have signed : text = signText negative ++ (whole ++ later) := by
    split at given
    · obtain ⟨rfl, rfl⟩ := Prod.mk.inj given
      rfl
    · obtain ⟨rfl, rfl⟩ := Prod.mk.inj given
      rfl
  rw [signed, List.append_assoc, List.append_assoc, List.append_assoc, ← splitExponent,
    ← splitFraction]

theorem spelled_of_readAtom {text rest : List Char} {value : Json}
    (reads : readAtom text = .ok (value, rest)) :
    ∃ written, Spelled (.value value) written ∧ text = written ++ rest := by
  unfold readAtom at reads
  split at reads
  · rename_i reading found
    obtain ⟨⟨word, held⟩, known, given⟩ := List.exists_of_findSome?_eq_some found
    obtain ⟨after, drops, rfl⟩ := Option.map_eq_some_iff.mp given
    obtain ⟨rfl, rfl⟩ := Prod.mk.inj (Except.ok.inj reads)
    exact ⟨word, .word known, dropWord?_eq_some.mp drops⟩
  · split at reads
    · simp at reads
    · rename_i numeral after readsNumeral
      split at reads
      · simp at reads
      · rename_i allowed
        obtain ⟨rfl, rfl⟩ := Prod.mk.inj (Except.ok.inj reads)
        obtain ⟨written, spelled, same⟩ := spelledNumeral_of_read readsNumeral
        refine ⟨written, .number spelled ?_, same⟩
        intro integral
        simpa [integral] using allowed

theorem spelledPieces_of_readString {opening text rest : List Char} {value : String}
    (reads : readString opening text = .ok (value, rest)) :
    ∃ pieces written, SpelledPieces pieces written ∧ value = String.ofList (joinPieces pieces) ∧
      text = written ++ '\x22' :: rest := by
  obtain ⟨⟨pieces, after⟩, readsPieces, same⟩ := bind_eq_ok.mp reads
  obtain ⟨rfl, rfl⟩ := Prod.mk.inj (Except.ok.inj same)
  obtain ⟨written, spelled, split⟩ := spelledPieces_of_read readsPieces
  exact ⟨pieces, written, spelled, rfl, split⟩

/-- What is passed over before a character is blank. -/
theorem blank_before {text rest : List Char} (skips : skipSpace text = rest) :
    ∃ blank, Blank blank ∧ text = blank ++ rest :=
  skips ▸ exists_blank text

section Bounded

variable {bound : Nat}

theorem spelled_of_readValue
    (items : ∀ {text items rest}, readItems bound text = .ok (items, rest) →
      ∃ written, Spelled (.items items) written ∧ text = written ++ ']' :: rest)
    (members : ∀ {text members rest}, readMembers bound text = .ok (members, rest) →
      ∃ written, Spelled (.members members) written ∧ text = written ++ '\x7d' :: rest)
    {text rest : List Char} {value : Json}
    (reads : readValue (bound + 1) text = .ok (value, rest)) :
    ∃ written, Spelled (.value value) written ∧ text = written ++ rest := by
  unfold readValue at reads
  split at reads
  · obtain ⟨⟨given, after⟩, readsString, same⟩ := bind_eq_ok.mp reads
    obtain ⟨rfl, rfl⟩ := Prod.mk.inj (Except.ok.inj same)
    obtain ⟨pieces, written, spelled, rfl, rfl⟩ := spelledPieces_of_readString readsString
    exact ⟨_, .string spelled, by simp⟩
  · rename_i inner
    split at reads
    · rename_i after closes
      obtain ⟨rfl, rfl⟩ := Prod.mk.inj (Except.ok.inj reads)
      obtain ⟨blank, isBlank, rfl⟩ := blank_before closes
      exact ⟨_, .emptyArray isBlank, by simp⟩
    · obtain ⟨⟨found, after⟩, readsItems, same⟩ := bind_eq_ok.mp reads
      obtain ⟨rfl, rfl⟩ := Prod.mk.inj (Except.ok.inj same)
      obtain ⟨written, spelled, split⟩ := items readsItems
      obtain ⟨blank, isBlank, rfl⟩ := blank_before split
      exact ⟨_, .array isBlank spelled, by simp⟩
  · rename_i inner
    split at reads
    · rename_i after closes
      obtain ⟨rfl, rfl⟩ := Prod.mk.inj (Except.ok.inj reads)
      obtain ⟨blank, isBlank, rfl⟩ := blank_before closes
      exact ⟨_, .emptyObject isBlank, by simp⟩
    · obtain ⟨⟨found, after⟩, readsMembers, same⟩ := bind_eq_ok.mp reads
      obtain ⟨rfl, rfl⟩ := Prod.mk.inj (Except.ok.inj same)
      obtain ⟨written, spelled, split⟩ := members readsMembers
      obtain ⟨blank, isBlank, rfl⟩ := blank_before split
      exact ⟨_, .object isBlank spelled, by simp⟩
  · exact spelled_of_readAtom reads

theorem spelled_of_readItems
    (values : ∀ {text value rest}, readValue bound text = .ok (value, rest) →
      ∃ written, Spelled (.value value) written ∧ text = written ++ rest)
    (items : ∀ {text items rest}, readItems bound text = .ok (items, rest) →
      ∃ written, Spelled (.items items) written ∧ text = written ++ ']' :: rest)
    {text rest : List Char} {found : List Json}
    (reads : readItems (bound + 1) text = .ok (found, rest)) :
    ∃ written, Spelled (.items found) written ∧ text = written ++ ']' :: rest := by
  unfold readItems at reads
  obtain ⟨⟨first, after⟩, readsFirst, goesOn⟩ := bind_eq_ok.mp reads
  obtain ⟨written, spelled, rfl⟩ := values readsFirst
  dsimp only at goesOn
  split at goesOn
  · rename_i following closes
    obtain ⟨rfl, rfl⟩ := Prod.mk.inj (Except.ok.inj goesOn)
    obtain ⟨blank, isBlank, rfl⟩ := blank_before closes
    exact ⟨_, .lastItem spelled isBlank, by simp⟩
  · rename_i following separates
    obtain ⟨⟨others, last⟩, readsOthers, same⟩ := bind_eq_ok.mp goesOn
    obtain ⟨rfl, rfl⟩ := Prod.mk.inj (Except.ok.inj same)
    obtain ⟨blank, isBlank, rfl⟩ := blank_before separates
    obtain ⟨rest, spelledOthers, split⟩ := items readsOthers
    obtain ⟨before, isBlankNext, rfl⟩ := blank_before split
    exact ⟨_, .item spelled isBlank isBlankNext spelledOthers, by simp⟩
  · simp at goesOn

theorem spelled_of_readMembers
    (values : ∀ {text value rest}, readValue bound text = .ok (value, rest) →
      ∃ written, Spelled (.value value) written ∧ text = written ++ rest)
    (members : ∀ {text members rest}, readMembers bound text = .ok (members, rest) →
      ∃ written, Spelled (.members members) written ∧ text = written ++ '\x7d' :: rest)
    {text rest : List Char} {found : Members}
    (reads : readMembers (bound + 1) text = .ok (found, rest)) :
    ∃ written, Spelled (.members found) written ∧ text = written ++ '\x7d' :: rest := by
  unfold readMembers at reads
  split at reads
  · obtain ⟨⟨key, afterKey⟩, readsKey, goesOn⟩ := bind_eq_ok.mp reads
    obtain ⟨pieces, keyText, spelledKey, rfl, rfl⟩ := spelledPieces_of_readString readsKey
    dsimp only at goesOn
    split at goesOn
    · rename_i afterColon colon
      obtain ⟨⟨first, after⟩, readsFirst, concludes⟩ := bind_eq_ok.mp goesOn
      obtain ⟨blankKey, isBlankKey, rfl⟩ := blank_before colon
      obtain ⟨written, spelled, split⟩ := values readsFirst
      obtain ⟨blankColon, isBlankColon, rfl⟩ := blank_before split
      dsimp only at concludes
      split at concludes
      · rename_i following closes
        obtain ⟨rfl, rfl⟩ := Prod.mk.inj (Except.ok.inj concludes)
        obtain ⟨blank, isBlank, rfl⟩ := blank_before closes
        exact ⟨_, .lastMember spelledKey isBlankKey isBlankColon spelled isBlank, by simp⟩
      · rename_i following separates
        obtain ⟨⟨others, last⟩, readsOthers, same⟩ := bind_eq_ok.mp concludes
        obtain ⟨rfl, rfl⟩ := Prod.mk.inj (Except.ok.inj same)
        obtain ⟨blank, isBlank, rfl⟩ := blank_before separates
        obtain ⟨rest, spelledOthers, split⟩ := members readsOthers
        obtain ⟨before, isBlankNext, rfl⟩ := blank_before split
        exact ⟨_, .member spelledKey isBlankKey isBlankColon spelled isBlank isBlankNext
          spelledOthers, by simp⟩
      · simp at concludes
    · simp at goesOn
  · simp at reads

/-- What the three readers take is spelled, one statement for each of them. -/
theorem spelled_of_readers (bound : Nat) :
    (∀ {text value rest}, readValue bound text = .ok (value, rest) →
      ∃ written, Spelled (.value value) written ∧ text = written ++ rest) ∧
    (∀ {text items rest}, readItems bound text = .ok (items, rest) →
      ∃ written, Spelled (.items items) written ∧ text = written ++ ']' :: rest) ∧
    (∀ {text members rest}, readMembers bound text = .ok (members, rest) →
      ∃ written, Spelled (.members members) written ∧ text = written ++ '\x7d' :: rest) := by
  induction bound with
  | zero => simp [readValue, readItems, readMembers]
  | succ bound ih =>
      obtain ⟨values, items, members⟩ := ih
      exact ⟨spelled_of_readValue items members, spelled_of_readItems values items,
        spelled_of_readMembers values members⟩

end Bounded

/-! ### Whole texts -/

/-- No value starts with a byte order mark. -/
theorem readValue_mark (bound : Nat) (rest : List Char) :
    readValue bound ('\ufeff' :: rest) = .error ⟨.expectedValue, '\ufeff' :: rest⟩ := by
  cases bound with
  | zero => rfl
  | succ bound =>
      rw [readValue_atom (by decide)]
      rfl

theorem readDocument_iff {text : List Char} {value : Json} :
    readDocument text = .ok value ↔ SpelledBy value text := by
  constructor
  · intro reads
    unfold readDocument at reads
    split at reads
    · simp at reads
    · obtain ⟨⟨given, rest⟩, readsValue, reads⟩ := bind_eq_ok.mp reads
      obtain ⟨written, spelled, split⟩ := (spelled_of_readers _).1 readsValue
      obtain ⟨before, isBlankBefore, same⟩ := blank_before split
      dsimp only at reads
      split at reads
      · rename_i ends
        obtain rfl := Except.ok.inj reads
        obtain ⟨after, isBlankAfter, rfl⟩ := blank_before ends
        exact ⟨before, written, after, isBlankBefore, isBlankAfter, spelled, by simpa using same⟩
      · simp at reads
  · rintro ⟨before, written, after, isBlankBefore, isBlankAfter, spelled, rfl⟩
    have solid := solid_of_spelled spelled
    have starts := (solid.append after).skipSpace isBlankBefore
    have ends : EndsNumber after := by
      simpa using endsNumber_blank isBlankAfter (show EndsNumber [] by simp [EndsNumber])
    have reads := reads_of_spelled spelled
      (2 * (before ++ (written ++ after)).length + 1) after (by simp; omega) ends
    unfold readDocument
    split
    · rename_i others marked
      -- The mark would be the first character of the value.
      cases before with
      | cons space before =>
          have blank := isBlankBefore space List.mem_cons_self
          rw [(List.cons.inj marked).1] at blank
          simp [isSpace] at blank
      | nil =>
          rw [List.nil_append] at marked
          rw [marked, readValue_mark] at reads
          simp at reads
    · rw [starts, reads]
      simp [bind, Except.bind, skipSpace_of_blank isBlankAfter, pure, Except.pure]

/-- A text is read as a value exactly if the value is spelled by it. -/
theorem read_iff {text : List Char} {value : Json} :
    read text = .ok value ↔ SpelledBy value text := by
  rw [← readDocument_iff]
  unfold read
  split <;> simp_all

end Json

end ContractRollout
