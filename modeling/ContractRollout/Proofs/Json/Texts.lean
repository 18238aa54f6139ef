import ContractRollout.Json.Reader
import ContractRollout.Json.Writer
import ContractRollout.Proofs.Outcomes

/-!
# Texts in quotes

Between quotes a text is spelled piece by piece: a piece is a character, or a code unit of one.
Pieces are read exactly as they are spelled, up to the closing quote. Written text spells each
character as one piece, or as a piece for each of its code units, and these are put together as
the character again.
-/

namespace ContractRollout

theorem hexValue?_digitChar :
    ∀ digit < 16, hexValue? (Nat.digitChar digit) = some digit := by
  decide

theorem numberOfHex?_hexDigits {width number : Nat} (bounded : number < 16 ^ width) :
    numberOfHex? (hexDigits width number) = some number := by
  induction width generalizing number with
  | zero =>
      have zero : number = 0 := by simpa using bounded
      simp [hexDigits, numberOfHex?, zero]
  | succ width ih =>
      have higher : number / 16 < 16 ^ width := by
        rw [Nat.pow_succ] at bounded
        omega
      have leading := ih higher
      have last := hexValue?_digitChar (number % 16) (by omega)
      simp only [numberOfHex?] at leading
      simp only [hexDigits, numberOfHex?, List.foldlM_append, leading]
      simp [last, Nat.div_add_mod]

theorem toNat_valid (character : Char) :
    character.toNat < 0xd800 ∨ (0xdfff < character.toNat ∧ character.toNat < 0x110000) :=
  character.valid

theorem codeUnits_lt {character : Char} : ∀ unit ∈ codeUnits character, unit < 16 ^ 4 := by
  have valid := toNat_valid character
  intro unit member
  simp only [codeUnits] at member
  split at member <;> simp at member <;> omega

theorem pairedCharacter?_of_not_surrogate {code : Nat} (apart : code < 0xd800 ∨ 0xdfff < code)
    (next : Nat) : pairedCharacter? code next = none := by
  have single : ¬ (0xd800 ≤ code ∧ code < 0xdc00 ∧ 0xdc00 ≤ next ∧ next < 0xe000) := by omega
  simp [pairedCharacter?, single]

/-- The two code units of a character beyond the first plane pair up. -/
theorem pairedCharacter?_codeUnits {character : Char} (beyond : 0x10000 ≤ character.toNat) :
    pairedCharacter? (0xd800 + (character.toNat - 0x10000) / 0x400)
      (0xdc00 + (character.toNat - 0x10000) % 0x400) = some character := by
  have valid := toNat_valid character
  have surrogates : 0xd800 ≤ 0xd800 + (character.toNat - 0x10000) / 0x400 ∧
      0xd800 + (character.toNat - 0x10000) / 0x400 < 0xdc00 ∧
      0xdc00 ≤ 0xdc00 + (character.toNat - 0x10000) % 0x400 ∧
      0xdc00 + (character.toNat - 0x10000) % 0x400 < 0xe000 := by
    omega
  have code : 0x10000 + (0xd800 + (character.toNat - 0x10000) / 0x400 - 0xd800) * 0x400 +
      (0xdc00 + (character.toNat - 0x10000) % 0x400 - 0xdc00) = character.toNat := by
    omega
  rw [pairedCharacter?, if_pos surrogates, code, Char.ofNat_toNat]

namespace Json

/-- The spellings of pieces between quotes: characters as they are, letters after a backslash, and
code units in hexadecimal. -/
inductive SpelledPieces : List Piece → List Char → Prop
  | nil : SpelledPieces [] []
  | plain {character : Char} {pieces : List Piece} {text : List Char} (shown : ' ' ≤ character)
      (unquoted : character ≠ '\x22') (straight : character ≠ '\x5c')
      (spelled : SpelledPieces pieces text) :
      SpelledPieces (.character character :: pieces) (character :: text)
  | short {letter character : Char} {pieces : List Piece} {text : List Char}
      (escaped : escapedCharacter? letter = some character) (spelled : SpelledPieces pieces text) :
      SpelledPieces (.character character :: pieces) ('\x5c' :: letter :: text)
  | unit {first second third fourth : Char} {code : Nat} {pieces : List Piece} {text : List Char}
      (number : numberOfHex? [first, second, third, fourth] = some code)
      (spelled : SpelledPieces pieces text) :
      SpelledPieces (.unit code :: pieces) ('\x5c' :: 'u' :: first :: second :: third :: fourth :: text)

theorem SpelledPieces.append {first second : List Piece} {firstText secondText : List Char}
    (spelledFirst : SpelledPieces first firstText) (spelledSecond : SpelledPieces second secondText) :
    SpelledPieces (first ++ second) (firstText ++ secondText) := by
  induction spelledFirst with
  | nil => exact spelledSecond
  | plain shown unquoted straight _ ih => exact .plain shown unquoted straight ih
  | short escaped _ ih => exact .short escaped ih
  | unit number _ ih => exact .unit number ih

/-- Pieces are read as they are spelled, up to the closing quote. -/
theorem readPieces_spelled {pieces : List Piece} {text : List Char}
    (spelled : SpelledPieces pieces text) (opening rest : List Char) :
    readPieces opening (text ++ '\x22' :: rest) = .ok (pieces, rest) := by
  induction spelled with
  | nil => simp [readPieces]
  | plain shown unquoted straight _ ih =>
      have visible : ¬ _ < ' ' := Char.not_lt.mpr shown
      simp [readPieces, straight, visible, ih, bind, Except.bind, pure, Except.pure]
  | @short letter character pieces text escaped _ ih =>
      have plain : letter ≠ 'u' := by
        rintro rfl
        simp [escapedCharacter?] at escaped
      simp [readPieces, plain, escaped, ih, bind, Except.bind, pure, Except.pure]
  | @unit first second third fourth code pieces text number _ ih =>
      have more : (text ++ '\x22' :: rest).isEmpty = false := by simp
      simp only [List.cons_append, readPieces, number, more, ih]
      rfl

/-- What is read up to a closing quote is a spelling of the pieces. -/
theorem spelledPieces_of_read {opening text rest : List Char} {pieces : List Piece}
    (reads : readPieces opening text = .ok (pieces, rest)) :
    ∃ written, SpelledPieces pieces written ∧ text = written ++ '\x22' :: rest := by
  fun_induction readPieces opening text generalizing pieces rest with
  | case1 | case3 | case5 | case7 | case8 | case9 | case10 => simp at reads
  | case2 rest' =>
      obtain ⟨rfl, rfl⟩ := by simpa using reads
      exact ⟨[], .nil, rfl⟩
  | case4 first second third fourth after code number _ ih =>
      obtain ⟨⟨others, left⟩, readsOthers, same⟩ := bind_eq_ok.mp reads
      obtain ⟨rfl, rfl⟩ := Prod.mk.inj (Except.ok.inj same)
      obtain ⟨written, spelled, rfl⟩ := ih readsOthers
      exact ⟨_, .unit number spelled, rfl⟩
  | case6 letter after _ character escaped ih =>
      obtain ⟨⟨others, left⟩, readsOthers, same⟩ := bind_eq_ok.mp reads
      obtain ⟨rfl, rfl⟩ := Prod.mk.inj (Except.ok.inj same)
      obtain ⟨written, spelled, rfl⟩ := ih readsOthers
      exact ⟨_, .short escaped spelled, rfl⟩
  | case11 character after unquoted _ escapes alone shown ih =>
      have straight : character ≠ '\x5c' := by
        rintro rfl
        cases after with
        | nil => exact alone rfl rfl
        | cons letter after => exact escapes letter after rfl rfl
      obtain ⟨⟨others, left⟩, readsOthers, same⟩ := bind_eq_ok.mp reads
      obtain ⟨rfl, rfl⟩ := Prod.mk.inj (Except.ok.inj same)
      obtain ⟨written, spelled, rfl⟩ := ih readsOthers
      exact ⟨_, .plain (Char.not_lt.mp shown) unquoted straight spelled, rfl⟩

/-! ### Written texts -/

/-- The pieces that a written character is read as. -/
def piecesOf (character : Char) : List Piece :=
  if (shortEscape? character).isSome ∨ (' ' ≤ character ∧ character ≤ '~') then
    [.character character]
  else (codeUnits character).map .unit

theorem spelledPieces_units {units : List Nat} (small : ∀ unit ∈ units, unit < 16 ^ 4) :
    SpelledPieces (units.map .unit)
      (units.flatMap fun unit => '\x5c' :: 'u' :: hexDigits 4 unit) := by
  induction units with
  | nil => exact .nil
  | cons unit units ih =>
      have later : ∀ other ∈ units, other < 16 ^ 4 := fun other member =>
        small other (List.mem_cons_of_mem _ member)
      exact .unit (numberOfHex?_hexDigits (small unit List.mem_cons_self)) (ih later)

theorem escapedCharacter?_of_shortEscape? {character letter : Char}
    (escape : shortEscape? character = some letter) :
    escapedCharacter? letter = some character := by
  simp only [shortEscape?] at escape
  split at escape
  · rename_i quoting
    have same : character = letter := by simpa using escape
    subst same
    rcases (by simpa using quoting : character = '\x22' ∨ character = '\x5c') with rfl | rfl <;>
      decide
  · repeat' split at escape
    all_goals simp at escape
    all_goals subst_vars
    all_goals decide

/-- A written character is a spelling of its pieces. -/
theorem spelledPieces_writeCharacter (character : Char) :
    SpelledPieces (piecesOf character) (writeCharacter character) := by
  unfold writeCharacter piecesOf
  cases escape : shortEscape? character with
  | some letter =>
      simpa using SpelledPieces.short (escapedCharacter?_of_shortEscape? escape) .nil
  | none =>
      by_cases visible : ' ' ≤ character ∧ character ≤ '~'
      · have unquoted : character ≠ '\x22' := by
          rintro rfl
          simp [shortEscape?] at escape
        have straight : character ≠ '\x5c' := by
          rintro rfl
          simp [shortEscape?] at escape
        simpa [visible] using SpelledPieces.plain visible.1 unquoted straight .nil
      · simpa [visible] using spelledPieces_units codeUnits_lt

theorem spelledPieces_flatMap (text : List Char) :
    SpelledPieces (text.flatMap piecesOf) (text.flatMap writeCharacter) := by
  induction text with
  | nil => exact .nil
  | cons character text ih => exact (spelledPieces_writeCharacter character).append ih

theorem joinPieces_character (character : Char) (pieces : List Piece) :
    joinPieces (.character character :: pieces) = character :: joinPieces pieces := by
  simp [joinPieces, Piece.alone]

theorem joinPieces_lone {code : Nat} (apart : code < 0xd800 ∨ 0xdfff < code)
    (pieces : List Piece) :
    joinPieces (.unit code :: pieces) = Char.ofNat code :: joinPieces pieces := by
  have lone : loneCharacter code = Char.ofNat code := by
    have plain : ¬ (0xd800 ≤ code ∧ code < 0xe000) := by omega
    simp [loneCharacter, plain]
  cases pieces with
  | nil => simp [joinPieces, Piece.alone, lone]
  | cons piece pieces =>
      cases piece with
      | character value => simp [joinPieces, Piece.alone, lone]
      | unit next => simp [joinPieces, pairedCharacter?_of_not_surrogate apart next, lone]

/-- The pieces of a character are put together as that character, whatever follows. -/
theorem joinPieces_piecesOf (character : Char) (pieces : List Piece) :
    joinPieces (piecesOf character ++ pieces) = character :: joinPieces pieces := by
  unfold piecesOf
  split
  · simpa using joinPieces_character character pieces
  · have valid := toNat_valid character
    by_cases first : character.toNat < 0x10000
    · simpa [codeUnits, first] using joinPieces_lone (show character.toNat < 0xd800 ∨ 0xdfff < character.toNat by omega) pieces
    · have paired := pairedCharacter?_codeUnits (show 0x10000 ≤ character.toNat by omega)
      simp [codeUnits, first, joinPieces, paired]

theorem joinPieces_flatMap_piecesOf (text : List Char) :
    joinPieces (text.flatMap piecesOf) = text := by
  induction text with
  | nil => rfl
  | cons character text ih => rw [List.flatMap_cons, joinPieces_piecesOf, ih]

end Json

end ContractRollout
