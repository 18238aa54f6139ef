import ContractRollout.FileTree.Document
import ContractRollout.Proofs.Json.RoundTrip

/-!
# Written documents

Every legible value has a written form in every layout. The text is printable ASCII,
apart from the line feeds of a layout with lines, so its bytes decode to the same
characters and a document with these bytes holds the value again.
-/

namespace ContractRollout

namespace Json

/-! ### Every legible value is written -/

theorem writeItems_ok {layout : Layout} {depth : Nat} {items : List Json}
    (each : ∀ item ∈ items, ∃ text, writeAt layout depth item = .ok text) :
    ∃ texts, writeItems layout depth items = .ok texts := by
  induction items with
  | nil => exact ⟨[], rfl⟩
  | cons first others ih =>
      obtain ⟨text, writesFirst⟩ := each first List.mem_cons_self
      obtain ⟨texts, writesOthers⟩ := ih fun item member => each item (List.mem_cons_of_mem _ member)
      exact ⟨text :: texts, by
        simp [writeItems, writesFirst, writesOthers, bind, Except.bind, pure, Except.pure]⟩

theorem writeMembers_ok {layout : Layout} {depth : Nat} {members : Members}
    (each : ∀ member ∈ members, ∃ text, writeAt layout depth member.2 = .ok text) :
    ∃ texts, writeMembers layout depth members = .ok texts := by
  induction members with
  | nil => exact ⟨[], rfl⟩
  | cons first others ih =>
      obtain ⟨key, value⟩ := first
      obtain ⟨text, writesFirst⟩ := each (key, value) List.mem_cons_self
      obtain ⟨texts, writesOthers⟩ := ih fun member found => each member (List.mem_cons_of_mem _ found)
      exact ⟨(writeString key ++ ':' :: layout.afterColon ++ text) :: texts, by
        simp [writeMembers, writesFirst, writesOthers, bind, Except.bind, pure, Except.pure]⟩

/-- A legible value has a written form in every layout and at every depth. -/
theorem writeAt_of_legible {value : Json} (legible : Legible value) (layout : Layout)
    (depth : Nat) : ∃ text, writeAt layout depth value = .ok text := by
  induction legible generalizing depth with
  | null => exact ⟨_, rfl⟩
  | bool value => exact ⟨_, rfl⟩
  | integer short => exact ⟨_, by simp only [writeAt, writeNumber, short]; rfl⟩
  | real value => exact ⟨_, rfl⟩
  | string text => exact ⟨_, rfl⟩
  | array _ ih =>
      obtain ⟨texts, writes⟩ := writeItems_ok fun item member => ih item member (depth + 1)
      exact ⟨layout.enclose depth '[' ']' texts, by
        simp [writeAt, writes, bind, Except.bind, pure, Except.pure]⟩
  | object _ _ ih =>
      obtain ⟨texts, writes⟩ := writeMembers_ok fun member found => ih member found (depth + 1)
      exact ⟨layout.enclose depth '\x7b' '\x7d' texts, by
        simp [writeAt, writes, bind, Except.bind, pure, Except.pure]⟩

/-! ### The characters of written text -/

/-- A character that written text in a layout may have. -/
def Layout.Emits (layout : Layout) (character : Char) : Prop :=
  (' ' ≤ character ∧ character ≤ '~') ∨ (character = '\n' ∧ layout.indentation ≠ none)

variable {layout : Layout}

theorem not_emits {character : Char} (dark : ¬ (' ' ≤ character ∧ character ≤ '~'))
    (inLine : character ≠ '\n') : ¬ layout.Emits character := by
  rintro (printable | lineFeed)
  · exact dark printable
  · exact inLine lineFeed.1

theorem emits_lineBreak (depth : Nat) : ∀ character ∈ layout.lineBreak depth,
    layout.Emits character := by
  unfold Layout.lineBreak
  split
  · simp
  · rename_i width lines
    intro character member
    rcases List.mem_cons.mp member with rfl | later
    · exact .inr ⟨rfl, by simp [lines]⟩
    · rw [(List.mem_replicate.mp later).2]
      exact .inl (by decide)

theorem emits_of_spaces {text : List Char} (spaces : ∀ character ∈ text, character = ' ') :
    ∀ character ∈ text, layout.Emits character := by
  intro character member
  rw [spaces character member]
  exact .inl (by decide)

theorem printable_digitChar : ∀ digit < 16,
    ' ' ≤ Nat.digitChar digit ∧ Nat.digitChar digit ≤ '~' := by
  decide

theorem printable_hexDigits (width number : Nat) : ∀ digit ∈ hexDigits width number,
    ' ' ≤ digit ∧ digit ≤ '~' := by
  induction width generalizing number with
  | zero => simp [hexDigits]
  | succ width ih =>
      intro digit member
      rcases List.mem_append.mp member with higher | last
      · exact ih (number / 16) digit higher
      · rw [List.mem_singleton.mp last]
        exact printable_digitChar (number % 16) (by omega)

theorem printable_shortEscape? {character letter : Char}
    (escape : shortEscape? character = some letter) : ' ' ≤ letter ∧ letter ≤ '~' := by
  unfold shortEscape? at escape
  split at escape
  · rename_i plain
    obtain rfl := Option.some.inj escape
    rcases (by simpa using plain : character = '\x22' ∨ character = '\x5c') with rfl | rfl <;> decide
  · repeat' split at escape
    all_goals first
      | (obtain rfl := Option.some.inj escape; decide)
      | exact absurd escape (by simp)

theorem printable_writeCharacter (character : Char) : ∀ written ∈ writeCharacter character,
    ' ' ≤ written ∧ written ≤ '~' := by
  intro written member
  unfold writeCharacter at member
  split at member
  · rename_i letter escape
    rcases (by simpa using member : written = '\x5c' ∨ written = letter) with rfl | rfl
    · decide
    · exact printable_shortEscape? escape
  · split at member
    · rename_i printable
      rw [List.mem_singleton.mp member]
      exact printable
    · obtain ⟨unit, -, inUnit⟩ := List.mem_flatMap.mp member
      rcases (by simpa using inUnit : written = '\x5c' ∨ written = 'u' ∨
        written ∈ hexDigits 4 unit) with rfl | rfl | digit
      · decide
      · decide
      · exact printable_hexDigits 4 unit written digit

theorem emits_writeString (text : String) : ∀ character ∈ writeString text,
    layout.Emits character := by
  intro character member
  rcases (by simpa [writeString] using member : character = '\x22' ∨
    (∃ original, original ∈ text.toList ∧ character ∈ writeCharacter original) ∨
      character = '\x22') with rfl | inside | rfl
  · exact .inl (by decide)
  · obtain ⟨original, -, written⟩ := inside
    exact .inl (printable_writeCharacter original character written)
  · exact .inl (by decide)

theorem emits_spelling {numeral : Numeral} (spelled : numeral.WellSpelled) :
    ∀ character ∈ numeral.spelling, layout.Emits character :=
  fun character member => .inl (printable_spelling spelled character member)

theorem emits_intercalate {separator : List Char} {items : List (List Char)}
    (between : ∀ character ∈ separator, layout.Emits character)
    (each : ∀ item ∈ items, ∀ character ∈ item, layout.Emits character) :
    ∀ character ∈ separator.intercalate items, layout.Emits character := by
  intro character member
  obtain ⟨part, inParts, inPart⟩ := List.mem_flatten.mp member
  induction items with
  | nil => simp at inParts
  | cons first others ih =>
      cases others with
      | nil =>
          obtain rfl : part = first := by simpa using inParts
          exact each part (by simp) character inPart
      | cons second others =>
          rcases (by simpa [List.intersperse] using inParts : part = first ∨ part = separator ∨
            part ∈ List.intersperse separator (second :: others)) with rfl | rfl | later
          · exact each part (by simp) character inPart
          · exact between character inPart
          · exact ih (fun item found => each item (List.mem_cons_of_mem _ found))
              (List.mem_flatten.mpr ⟨part, later, inPart⟩) later

theorem emits_enclose (spaced : layout.Spaced) (depth : Nat) {first last : Char}
    (bounds : layout.Emits first ∧ layout.Emits last) {items : List (List Char)}
    (each : ∀ item ∈ items, ∀ character ∈ item, layout.Emits character) :
    ∀ character ∈ layout.enclose depth first last items, layout.Emits character := by
  cases items with
  | nil =>
      intro character member
      rcases (by simpa [Layout.enclose] using member : character = first ∨ character = last) with
        rfl | rfl
      · exact bounds.1
      · exact bounds.2
  | cons item items =>
      have comma : layout.Emits ',' := .inl (by decide)
      have between : ∀ character ∈ ',' :: layout.gap (depth + 1), layout.Emits character := by
        intro character member
        rcases (by simpa [Layout.gap] using member : character = ',' ∨
          character ∈ layout.afterComma ∨ character ∈ layout.lineBreak (depth + 1)) with
          rfl | space | line
        · exact comma
        · exact emits_of_spaces spaced.comma character space
        · exact emits_lineBreak (depth + 1) character line
      intro character member
      rw [enclose_cons] at member
      simp only [List.mem_cons, List.mem_append, List.not_mem_nil, or_false] at member
      rcases member with rfl | line | inside | line | rfl
      · exact bounds.1
      · exact emits_lineBreak (depth + 1) character line
      · exact emits_intercalate between each character inside
      · exact emits_lineBreak depth character line
      · exact bounds.2

theorem mem_writeItems {depth : Nat} {items : List Json} {written : List (List Char)}
    (writes : writeItems layout depth items = .ok written) :
    ∀ text ∈ written, ∃ item ∈ items, writeAt layout depth item = .ok text := by
  induction items generalizing written with
  | nil =>
      obtain rfl : [] = written := Except.ok.inj writes
      simp
  | cons first others ih =>
      obtain ⟨text, texts, writesFirst, writesOthers, rfl⟩ := writeItems_cons writes
      intro member found
      rcases List.mem_cons.mp found with rfl | later
      · exact ⟨first, List.mem_cons_self, writesFirst⟩
      · obtain ⟨item, inOthers, writesItem⟩ := ih writesOthers member later
        exact ⟨item, List.mem_cons_of_mem _ inOthers, writesItem⟩

theorem mem_writeMembers {depth : Nat} {members : Members} {written : List (List Char)}
    (writes : writeMembers layout depth members = .ok written) :
    ∀ text ∈ written, ∃ member ∈ members, ∃ valueText,
      writeAt layout depth member.2 = .ok valueText ∧
        text = writeString member.1 ++ ':' :: layout.afterColon ++ valueText := by
  induction members generalizing written with
  | nil =>
      obtain rfl : [] = written := Except.ok.inj writes
      simp
  | cons first others ih =>
      obtain ⟨key, value⟩ := first
      obtain ⟨text, texts, writesFirst, writesOthers, rfl⟩ := writeMembers_cons writes
      intro member found
      rcases List.mem_cons.mp found with rfl | later
      · exact ⟨(key, value), List.mem_cons_self, text, writesFirst, rfl⟩
      · obtain ⟨item, inOthers, writesItem⟩ := ih writesOthers member later
        exact ⟨item, List.mem_cons_of_mem _ inOthers, writesItem⟩

theorem written_of_mem_items {depth : Nat} {items : List Json} {written : List (List Char)}
    (writes : writeItems layout depth items = .ok written) :
    ∀ item ∈ items, ∃ text, writeAt layout depth item = .ok text := by
  induction items generalizing written with
  | nil => simp
  | cons first others ih =>
      obtain ⟨text, texts, writesFirst, writesOthers, rfl⟩ := writeItems_cons writes
      exact List.forall_mem_cons.mpr ⟨⟨text, writesFirst⟩, ih writesOthers⟩

theorem written_of_mem_members {depth : Nat} {members : Members} {written : List (List Char)}
    (writes : writeMembers layout depth members = .ok written) :
    ∀ member ∈ members, ∃ text, writeAt layout depth member.2 = .ok text := by
  induction members generalizing written with
  | nil => simp
  | cons first others ih =>
      obtain ⟨text, texts, writesFirst, writesOthers, rfl⟩ := writeMembers_cons writes
      exact List.forall_mem_cons.mpr ⟨⟨text, writesFirst⟩, ih writesOthers⟩

/-- A value that has a written form is legible, unless one of its objects has a key twice. -/
theorem Distinct.legible {value : Json} (distinct : Distinct value) {depth : Nat}
    {text : List Char} (writes : writeAt layout depth value = .ok text) : Legible value := by
  induction distinct generalizing depth text with
  | null => exact .null
  | bool value => exact .bool value
  | number value =>
      cases value with
      | real value => exact .real value
      | integer value =>
          by_cases short : exceedsDigitLimit value = false
          · exact .integer short
          · simp [writeAt, writeNumber, short] at writes
  | string => exact .string _
  | array _ ih =>
      obtain ⟨texts, writesItems, -⟩ := bind_eq_ok.mp writes
      apply Legible.array
      intro item member
      obtain ⟨itemText, writesItem⟩ := written_of_mem_items writesItems item member
      exact ih item member writesItem
  | object keys _ ih =>
      obtain ⟨texts, writesMembers, -⟩ := bind_eq_ok.mp writes
      apply Legible.object keys
      intro member found
      obtain ⟨valueText, writesValue⟩ := written_of_mem_members writesMembers member found
      exact ih member found writesValue
  | foreign kind text => simp [writeAt] at writes

theorem printable_words : ∀ word ∈ words, ∀ character ∈ word.1, ' ' ≤ character ∧ character ≤ '~' := by
  have printable : words.all (fun word =>
      word.1.all fun character => ' ' ≤ character && character ≤ '~') = true := by
    decide
  simpa only [List.all_eq_true, Bool.and_eq_true, decide_eq_true_eq] using printable

theorem emits_word {word : List Char × Json} (known : word ∈ words) :
    ∀ character ∈ word.1, layout.Emits character :=
  fun character member => .inl (printable_words word known character member)

theorem emits_writeReal {value : Binary64} (canonical : value.Canonical) :
    ∀ character ∈ value.render writtenReal, layout.Emits character := by
  cases value with
  | nan => exact @emits_word layout ("NaN".toList, .number (.real .nan)) (by simp [words])
  | infinite negative =>
      cases negative with
      | false =>
          exact @emits_word layout ("Infinity".toList, .number (.real (.infinite false)))
            (by simp [words])
      | true =>
          exact @emits_word layout ("-Infinity".toList, .number (.real (.infinite true)))
            (by simp [words])
  | finite negative mantissa exponent =>
      obtain ⟨numeral, spelled, -, text, -⟩ := render_finite canonical
      rw [← text]
      exact emits_spelling spelled

/-- The written form of a faithful value is printable ASCII, line feeds of a layout with lines
apart. -/
theorem emits_writeAt (spaced : layout.Spaced) {value : Json} (faithful : Faithful value)
    {depth : Nat} {written : List Char} (writes : writeAt layout depth value = .ok written) :
    ∀ character ∈ written, layout.Emits character := by
  induction faithful generalizing depth written with
  | null =>
      obtain rfl : "null".toList = written := Except.ok.inj writes
      exact @emits_word layout ("null".toList, .null) (by simp [words])
  | bool value =>
      obtain rfl : (if value then "true".toList else "false".toList) = written :=
        Except.ok.inj writes
      cases value with
      | false => exact @emits_word layout ("false".toList, .bool false) (by simp [words])
      | true => exact @emits_word layout ("true".toList, .bool true) (by simp [words])
  | @integer value short =>
      obtain rfl : integerText value = written := by
        simpa [writeAt, writeNumber, short] using writes
      rw [← spelling_ofInt]
      exact emits_spelling (wellSpelled_ofInt value)
  | @real value canonical =>
      obtain rfl : value.render writtenReal = written := Except.ok.inj writes
      exact emits_writeReal canonical
  | string text =>
      obtain rfl : writeString text = written := Except.ok.inj writes
      exact emits_writeString text
  | array _ ih =>
      obtain ⟨texts, writesItems, same⟩ := bind_eq_ok.mp writes
      obtain rfl : layout.enclose depth '[' ']' texts = written := Except.ok.inj same
      apply emits_enclose spaced depth ⟨.inl (by decide), .inl (by decide)⟩
      intro text member
      obtain ⟨item, inItems, writesItem⟩ := mem_writeItems writesItems text member
      exact ih item inItems writesItem
  | object _ _ ih =>
      obtain ⟨texts, writesMembers, same⟩ := bind_eq_ok.mp writes
      obtain rfl : layout.enclose depth '\x7b' '\x7d' texts = written := Except.ok.inj same
      apply emits_enclose spaced depth ⟨.inl (by decide), .inl (by decide)⟩
      intro text found
      obtain ⟨member, inMembers, valueText, writesValue, rfl⟩ :=
        mem_writeMembers writesMembers text found
      intro character inText
      rcases (by simpa using inText : character ∈ writeString member.1 ∨ character = ':' ∨
        character ∈ layout.afterColon ∨ character ∈ valueText) with key | rfl | space | inValue
      · exact emits_writeString member.1 character key
      · exact .inl (by decide)
      · exact emits_of_spaces spaced.colon character space
      · exact ih member inMembers writesValue character inValue

/-! ### Documents -/

theorem unifyLineEnds_of_not_mem {text : List Char} (single : '\r' ∉ text) :
    unifyLineEnds text = text := by
  induction text with
  | nil => rfl
  | cons character rest ih =>
      have apart : character ≠ '\r' ∧ '\r' ∉ rest := by simpa [eq_comm] using single
      unfold unifyLineEnds
      split <;> simp_all

theorem fileText?_toUTF8 {text : List Char} (single : '\r' ∉ text) :
    fileText? (String.ofList text).toUTF8 = some text := by
  have decodes : String.fromUTF8? (String.ofList text).toUTF8 = some (String.ofList text) := by
    unfold String.fromUTF8?
    rw [String.toUTF8_eq_toByteArray, dif_pos (String.ofList text).isValidUTF8]
    rfl
  rw [fileText?, decodes, Option.map_some, String.toList_ofList, unifyLineEnds_of_not_mem single]

/-- The bytes of a written text hold the value that it was written from. -/
theorem ofBytes_write (spaced : layout.Spaced) {value : Json} (faithful : Faithful value)
    {text : List Char} (writes : write layout value = .ok text) :
    ofBytes (String.ofList text).toUTF8 = .ok value := by
  have single : '\r' ∉ text := by
    intro member
    have emitted := emits_writeAt spaced faithful writes '\r' member
    exact not_emits (by decide) (by decide) emitted
  simp only [ofBytes, fileText?_toUTF8 single, read_write spaced faithful writes]
  rfl

theorem spaced_indented : Layout.indented.Spaced :=
  ⟨by simp [Layout.indented], by simp [Layout.indented]⟩

theorem spaced_compact : Layout.compact.Spaced :=
  ⟨by simp [Layout.compact], by simp [Layout.compact]⟩

end Json

end ContractRollout
