import ContractRollout.Proofs.Json.Grammar

/-!
# Where reading stops

Reading goes forward through a text. Where it stops for an integer that is too long, the text
goes on with the digits of that integer, so this only happens to texts with very many digits in
a row.
-/

namespace ContractRollout

namespace Json

/-- A text that goes on with an integer of more digits than the limit. -/
def StartsLong (text : List Char) : Prop :=
  ∃ sign digits rest, text = sign ++ digits ++ rest ∧ (sign = [] ∨ sign = ['-']) ∧
    (∀ digit ∈ digits, digit.isDigit) ∧ digitLimit < digits.length

/-- What remains after reading is the end of the text, also where reading stops for a long
integer, and there the integer comes next. -/
def Forward {α : Type} (text : List Char) : Except Stop (α × List Char) → Prop
  | .ok (_, rest) => rest <:+ text
  | .error stop => stop.problem = .longInteger → stop.rest <:+ text ∧ StartsLong stop.rest

section Forward

variable {α β : Type} {text wider : List Char}

theorem Forward.mono {reading : Except Stop (α × List Char)} (forward : Forward text reading)
    (ending : text <:+ wider) : Forward wider reading := by
  cases reading with
  | ok result => exact List.IsSuffix.trans forward ending
  | error stop => exact fun long => (forward long).imp_left (·.trans ending)

theorem Forward.bind {first : Except Stop (α × List Char)}
    {next : α × List Char → Except Stop (β × List Char)} (early : Forward text first)
    (late : ∀ value rest, Forward rest (next (value, rest))) : Forward text (first >>= next) := by
  cases first with
  | ok result => exact (late result.1 result.2).mono early
  | error stop => exact early

theorem forward_error {problem : Problem} {rest : List Char} (other : problem ≠ .longInteger) :
    Forward text (.error ⟨problem, rest⟩ : Except Stop (α × List Char)) :=
  fun long => absurd long other

end Forward

theorem suffix_of_skipSpace {text rest : List Char} (skips : skipSpace text = rest) :
    rest <:+ text :=
  skips ▸ List.dropWhile_suffix _

/-- The end of a text after a character that follows some space. -/
theorem suffix_of_skipSpace_cons {text rest : List Char} {character : Char}
    (skips : skipSpace text = character :: rest) : rest <:+ text :=
  (List.suffix_cons _ _).trans (suffix_of_skipSpace skips)

/-! ### Texts, words and numbers -/

theorem forward_readPieces (opening text : List Char) : Forward text (readPieces opening text) := by
  fun_induction readPieces opening text with
  | case1 | case3 | case5 | case7 | case8 | case9 | case10 => exact forward_error (by decide)
  | case2 rest => exact List.suffix_cons _ _
  | case4 first second third fourth rest code _ _ ih =>
      refine Forward.mono (ih.bind fun _ _ => ?_) ⟨['\x5c', 'u', first, second, third, fourth], rfl⟩
      exact List.suffix_rfl
  | case6 letter rest _ character _ ih =>
      refine Forward.mono (ih.bind fun _ _ => ?_) ⟨['\x5c', letter], rfl⟩
      exact List.suffix_rfl
  | case11 character rest _ _ _ _ _ ih =>
      refine Forward.mono (ih.bind fun _ _ => ?_) (List.suffix_cons _ _)
      exact List.suffix_rfl

theorem forward_readString (opening text : List Char) : Forward text (readString opening text) :=
  (forward_readPieces opening text).bind fun _ _ => List.suffix_rfl

/-- An integer with too many digits is long where its spelling starts. -/
theorem SpelledNumeral.startsLong {numeral : Numeral} {written : List Char}
    (spelled : SpelledNumeral numeral written) (long : digitLimit < numeral.whole.length)
    (rest : List Char) : StartsLong (written ++ rest) := by
  obtain ⟨wholeDigits, -, -⟩ := spelled
  rename_i negative whole fraction text exponent
  refine ⟨signText negative, whole, fractionText fraction ++ text ++ rest, by simp, ?_,
    wholeDigits.decimal, long⟩
  cases negative with
  | false => exact .inl rfl
  | true => exact .inr rfl

theorem forward_readAtom (text : List Char) : Forward text (readAtom text) := by
  cases reads : readAtom text with
  | ok result =>
      obtain ⟨written, -, same⟩ := spelled_of_readAtom reads
      exact ⟨written, same.symm⟩
  | error stop =>
      intro long
      unfold readAtom at reads
      split at reads
      · simp at reads
      · split at reads
        · obtain rfl := Except.error.inj reads
          simp at long
        · rename_i numeral rest readsNumeral
          obtain ⟨written, spelled, rfl⟩ := spelledNumeral_of_read readsNumeral
          split at reads
          · rename_i tooLong
            obtain rfl := Except.error.inj reads
            exact ⟨List.suffix_rfl, spelled.startsLong (by simpa using tooLong : _ ∧ _).2 rest⟩
          · simp at reads

/-! ### Values -/

section Bounded

variable {bound : Nat}

theorem forward_readValue_succ (items : ∀ text, Forward text (readItems bound text))
    (members : ∀ text, Forward text (readMembers bound text)) (text : List Char) :
    Forward text (readValue (bound + 1) text) := by
  unfold readValue
  split
  · refine Forward.mono ((forward_readString _ _).bind fun _ _ => ?_) (List.suffix_cons _ _)
    exact List.suffix_rfl
  · split
    · rename_i after closes
      exact (suffix_of_skipSpace_cons closes).trans (List.suffix_cons _ _)
    · refine Forward.mono ((items _).bind fun _ _ => ?_)
        ((List.dropWhile_suffix _).trans (List.suffix_cons _ _))
      exact List.suffix_rfl
  · split
    · rename_i after closes
      exact (suffix_of_skipSpace_cons closes).trans (List.suffix_cons _ _)
    · refine Forward.mono ((members _).bind fun _ _ => ?_)
        ((List.dropWhile_suffix _).trans (List.suffix_cons _ _))
      exact List.suffix_rfl
  · exact forward_readAtom _

theorem forward_readItems_succ (values : ∀ text, Forward text (readValue bound text))
    (items : ∀ text, Forward text (readItems bound text)) (text : List Char) :
    Forward text (readItems (bound + 1) text) := by
  unfold readItems
  refine (values text).bind fun item rest => ?_
  dsimp only
  split
  · rename_i after closes
    exact suffix_of_skipSpace_cons closes
  · rename_i after separates
    refine Forward.mono ((items _).bind fun _ _ => ?_)
      ((List.dropWhile_suffix _).trans (suffix_of_skipSpace_cons separates))
    exact List.suffix_rfl
  · exact forward_error (by decide)

theorem forward_readMembers_succ (values : ∀ text, Forward text (readValue bound text))
    (members : ∀ text, Forward text (readMembers bound text)) (text : List Char) :
    Forward text (readMembers (bound + 1) text) := by
  unfold readMembers
  split
  · refine Forward.mono ((forward_readString _ _).bind fun key rest => ?_) (List.suffix_cons _ _)
    dsimp only
    split
    · rename_i afterColon colon
      refine Forward.mono ((values _).bind fun value rest => ?_)
        ((List.dropWhile_suffix _).trans (suffix_of_skipSpace_cons colon))
      dsimp only
      split
      · rename_i after closes
        exact suffix_of_skipSpace_cons closes
      · rename_i after separates
        refine Forward.mono ((members _).bind fun _ _ => ?_)
          ((List.dropWhile_suffix _).trans (suffix_of_skipSpace_cons separates))
        exact List.suffix_rfl
      · exact forward_error (by decide)
    · exact forward_error (by decide)
  · exact forward_error (by decide)

theorem forward_readers (bound : Nat) :
    (∀ text, Forward text (readValue bound text)) ∧ (∀ text, Forward text (readItems bound text)) ∧
      ∀ text, Forward text (readMembers bound text) := by
  induction bound with
  | zero =>
      exact ⟨fun _ => forward_error (by decide), fun _ => forward_error (by decide),
        fun _ => forward_error (by decide)⟩
  | succ bound ih =>
      obtain ⟨values, items, members⟩ := ih
      exact ⟨forward_readValue_succ items members, forward_readItems_succ values items,
        forward_readMembers_succ values members⟩

end Bounded

/-- Where reading a text stops for a long integer, the text goes on with very many digits. -/
theorem startsLong_of_read {text : List Char} {error : ReadError} (stops : read text = .error error)
    (long : error.problem = .longInteger) : StartsLong (text.drop error.position) := by
  have forward (stop : Stop) (fails : readDocument text = .error stop)
      (long : stop.problem = .longInteger) : stop.rest <:+ text ∧ StartsLong stop.rest := by
    unfold readDocument at fails
    split at fails
    · obtain rfl := Except.error.inj fails
      simp at long
    · have reading := (forward_readers (2 * text.length + 1)).1 (skipSpace text)
      cases reads : readValue (2 * text.length + 1) (skipSpace text) with
      | error other =>
          rw [reads] at fails reading
          obtain rfl := Except.error.inj fails
          exact (reading long).imp_left (·.trans (List.dropWhile_suffix _))
      | ok result =>
          simp only [reads, bind, Except.bind] at fails
          split at fails
          · simp [pure, Except.pure] at fails
          · obtain rfl := Except.error.inj fails
            simp at long
  unfold read at stops
  split at stops
  · simp at stops
  · rename_i stop fails
    obtain rfl := Except.error.inj stops
    obtain ⟨⟨before, rfl⟩, starts⟩ := forward stop fails long
    simpa using starts

end Json

end ContractRollout
