import ContractRollout.Proofs.Json.Grammar

/-!
# Written values

The written form of a faithful value is a spelling of it, so reading gives the value back. The layout
may put any space after commas, after colons and at the start of lines.
-/

namespace ContractRollout

namespace Json

/-! ### Layouts -/

/-- A layout puts nothing but spaces after commas and colons. -/
structure Layout.Spaced (layout : Layout) : Prop where
  comma : ∀ character ∈ layout.afterComma, character = ' '
  colon : ∀ character ∈ layout.afterColon, character = ' '

theorem blank_of_spaces {text : List Char} (spaces : ∀ character ∈ text, character = ' ') :
    Blank text := by
  intro character member
  rw [spaces character member]
  decide

theorem blank_lineBreak (layout : Layout) (depth : Nat) : Blank (layout.lineBreak depth) := by
  unfold Layout.lineBreak
  split
  · simp [Blank]
  · intro character member
    rcases List.mem_cons.mp member with rfl | later
    · decide
    · rw [(List.mem_replicate.mp later).2]
      decide

/-- What follows the comma after an item of a layout. -/
def Layout.gap (layout : Layout) (depth : Nat) : List Char :=
  layout.afterComma ++ layout.lineBreak depth

theorem Layout.Spaced.gap {layout : Layout} (spaced : layout.Spaced) (depth : Nat) :
    Blank (layout.gap depth) := by
  intro character member
  rcases List.mem_append.mp member with comma | line
  · exact blank_of_spaces spaced.comma character comma
  · exact blank_lineBreak layout depth character line

theorem enclose_cons (layout : Layout) (depth : Nat) (first last : Char) (item : List Char)
    (items : List (List Char)) :
    layout.enclose depth first last (item :: items) =
      first :: (layout.lineBreak (depth + 1) ++
        (List.intercalate (',' :: layout.gap (depth + 1)) (item :: items) ++
          (layout.lineBreak depth ++ [last]))) := by
  simp [Layout.enclose, Layout.gap]

/-! ### Written forms are spellings -/

/-- Whatever is written of a value in a layout is a spelling of that value. -/
def WrittenAsSpelled (layout : Layout) (value : Json) : Prop :=
  ∀ {depth : Nat} {written : List Char}, writeAt layout depth value = .ok written →
    Spelled (.value value) written

theorem writeItems_cons {layout : Layout} {depth : Nat} {first : Json} {others : List Json}
    {written : List (List Char)}
    (writes : writeItems layout depth (first :: others) = .ok written) :
    ∃ text texts, writeAt layout depth first = .ok text ∧
      writeItems layout depth others = .ok texts ∧ written = text :: texts := by
  unfold writeItems at writes
  obtain ⟨text, writesFirst, writes⟩ := bind_eq_ok.mp writes
  obtain ⟨texts, writesOthers, same⟩ := bind_eq_ok.mp writes
  exact ⟨text, texts, writesFirst, writesOthers, (Except.ok.inj same).symm⟩

theorem writeMembers_cons {layout : Layout} {depth : Nat} {key : String} {value : Json}
    {others : Members} {written : List (List Char)}
    (writes : writeMembers layout depth ((key, value) :: others) = .ok written) :
    ∃ text texts, writeAt layout depth value = .ok text ∧
      writeMembers layout depth others = .ok texts ∧
      written = (writeString key ++ ':' :: layout.afterColon ++ text) :: texts := by
  unfold writeMembers at writes
  obtain ⟨text, writesFirst, writes⟩ := bind_eq_ok.mp writes
  obtain ⟨texts, writesOthers, same⟩ := bind_eq_ok.mp writes
  exact ⟨text, texts, writesFirst, writesOthers, (Except.ok.inj same).symm⟩

/-- Written items are spelled, with the blank before the closing bracket. -/
theorem spelled_writeItems {layout : Layout} {gap closing : List Char} (gapBlank : Blank gap)
    (closingBlank : Blank closing) {first : Json} {others : List Json}
    (each : ∀ item ∈ first :: others, WrittenAsSpelled layout item) {depth : Nat}
    {written : List (List Char)}
    (writes : writeItems layout depth (first :: others) = .ok written) :
    Spelled (.items (first :: others)) (List.intercalate (',' :: gap) written ++ closing) := by
  induction others generalizing first written with
  | nil =>
      obtain ⟨text, texts, writesFirst, writesNone, rfl⟩ := writeItems_cons writes
      obtain rfl : [] = texts := Except.ok.inj writesNone
      rw [List.intercalate_singleton]
      exact .lastItem (each first List.mem_cons_self writesFirst) closingBlank
  | cons second others ih =>
      obtain ⟨text, texts, writesFirst, writesOthers, rfl⟩ := writeItems_cons writes
      have later := ih (fun item member => each item (List.mem_cons_of_mem _ member)) writesOthers
      obtain ⟨secondText, otherTexts, -, -, rfl⟩ := writeItems_cons writesOthers
      have spelled := Spelled.item (each first List.mem_cons_self writesFirst) blank_nil gapBlank later
      simpa [List.intercalate_cons_cons] using spelled

theorem writeString_eq (text : String) :
    writeString text = '\x22' :: (text.toList.flatMap writeCharacter ++ ['\x22']) :=
  rfl

theorem ofList_joinPieces (text : String) :
    String.ofList (joinPieces (text.toList.flatMap piecesOf)) = text := by
  rw [joinPieces_flatMap_piecesOf, String.ofList_toList]

/-- Written members are spelled, with the blank before the closing brace. -/
theorem spelled_writeMembers {layout : Layout} (spaced : layout.Spaced) {gap closing : List Char}
    (gapBlank : Blank gap) (closingBlank : Blank closing) {first : String × Json}
    {others : Members} (each : ∀ member ∈ first :: others, WrittenAsSpelled layout member.2)
    {depth : Nat} {written : List (List Char)}
    (writes : writeMembers layout depth (first :: others) = .ok written) :
    Spelled (.members (first :: others)) (List.intercalate (',' :: gap) written ++ closing) := by
  have colonBlank := blank_of_spaces spaced.colon
  induction others generalizing first written with
  | nil =>
      obtain ⟨key, value⟩ := first
      obtain ⟨text, texts, writesFirst, writesNone, rfl⟩ := writeMembers_cons writes
      obtain rfl : [] = texts := Except.ok.inj writesNone
      have spelled := Spelled.lastMember (spelledPieces_flatMap key.toList) blank_nil colonBlank
        (each (key, value) List.mem_cons_self writesFirst) closingBlank
      rw [ofList_joinPieces] at spelled
      simpa [writeString_eq] using spelled
  | cons second others ih =>
      obtain ⟨key, value⟩ := first
      obtain ⟨text, texts, writesFirst, writesOthers, rfl⟩ := writeMembers_cons writes
      have later := ih (fun member found => each member (List.mem_cons_of_mem _ found)) writesOthers
      obtain ⟨secondText, otherTexts, rfl⟩ : ∃ head tail, texts = head :: tail := by
        obtain ⟨_, tail, -, -, same⟩ := writeMembers_cons writesOthers
        exact ⟨_, tail, same⟩
      have spelled := Spelled.member (spelledPieces_flatMap key.toList) blank_nil colonBlank
        (each (key, value) List.mem_cons_self writesFirst) blank_nil gapBlank later
      rw [ofList_joinPieces] at spelled
      simpa [writeString_eq, List.intercalate_cons_cons] using spelled

/-- A number that is written as a numeral is spelled by it. -/
theorem spelled_numeral {layout : Layout} {numeral : Numeral} (spelled : numeral.WellSpelled)
    (short : numeral.isInteger = true → numeral.whole.length ≤ digitLimit)
    (writes : writeNumber numeral.value = .ok numeral.spelling) :
    WrittenAsSpelled layout (.number numeral.value) := by
  intro depth written same
  obtain rfl : numeral.spelling = written := Except.ok.inj (writes.symm.trans same)
  exact .number spelled.spelling short

theorem spelled_integer {layout : Layout} {value : Int} (short : exceedsDigitLimit value = false) :
    WrittenAsSpelled layout (.number (.integer value)) := by
  rw [← value_ofInt value]
  apply spelled_numeral (wellSpelled_ofInt value)
  · intro _
    apply (Nat.length_toDigits_le_iff (by decide) (by decide)).mpr
    exact exceedsDigitLimit_eq_false.mp short
  · rw [value_ofInt, spelling_ofInt, writeNumber, short]
    rfl

theorem spelled_real {layout : Layout} {value : Binary64} (canonical : value.Canonical) :
    WrittenAsSpelled layout (.number (.real value)) := by
  intro depth written writes
  cases value with
  | nan =>
      obtain rfl : "NaN".toList = written := Except.ok.inj writes
      exact .word (by simp [words])
  | infinite negative =>
      cases negative with
      | false =>
          obtain rfl : "Infinity".toList = written := Except.ok.inj writes
          exact .word (by simp [words])
      | true =>
          obtain rfl : "-Infinity".toList = written := Except.ok.inj writes
          exact .word (by simp [words])
  | finite negative mantissa exponent =>
      obtain ⟨numeral, spelled, real, text, value⟩ := render_finite canonical
      rw [← value] at writes ⊢
      refine spelled_numeral spelled (by simp [real]) ?_ writes
      rw [value, text]
      rfl

theorem spelled_array {layout : Layout} (spaced : layout.Spaced) {items : List Json}
    (each : ∀ item ∈ items, WrittenAsSpelled layout item) :
    WrittenAsSpelled layout (.array items) := by
  intro depth written writes
  obtain ⟨texts, writesItems, same⟩ := bind_eq_ok.mp writes
  obtain rfl : layout.enclose depth '[' ']' texts = written := Except.ok.inj same
  cases items with
  | nil =>
      obtain rfl : [] = texts := Except.ok.inj writesItems
      exact .emptyArray blank_nil
  | cons first others =>
      have spelled := Spelled.array (blank_lineBreak layout (depth + 1)) (spelled_writeItems
        (spaced.gap (depth + 1)) (blank_lineBreak layout depth) each writesItems)
      obtain ⟨head, tail, -, -, rfl⟩ := writeItems_cons writesItems
      rw [enclose_cons]
      simpa using spelled

theorem spelled_object {layout : Layout} (spaced : layout.Spaced) {members : Members}
    (distinct : members.keys.Nodup) (each : ∀ member ∈ members, WrittenAsSpelled layout member.2) :
    WrittenAsSpelled layout (.object members) := by
  intro depth written writes
  obtain ⟨texts, writesMembers, same⟩ := bind_eq_ok.mp writes
  obtain rfl : layout.enclose depth '\x7b' '\x7d' texts = written := Except.ok.inj same
  cases members with
  | nil =>
      obtain rfl : [] = texts := Except.ok.inj writesMembers
      exact .emptyObject blank_nil
  | cons first others =>
      have spelled := Spelled.object (blank_lineBreak layout (depth + 1)) (spelled_writeMembers spaced
        (spaced.gap (depth + 1)) (blank_lineBreak layout depth) each writesMembers)
      obtain ⟨head, tail, rfl⟩ : ∃ head tail, texts = head :: tail := by
        obtain ⟨_, tail, -, -, same⟩ := writeMembers_cons writesMembers
        exact ⟨_, tail, same⟩
      rw [enclose_cons]
      rw [Members.collect_of_nodup distinct] at spelled
      simpa using spelled

/-- Whatever a spaced layout writes of a faithful value is a spelling of it. -/
theorem spelled_of_write {layout : Layout} (spaced : layout.Spaced) {value : Json}
    (faithful : Faithful value) : WrittenAsSpelled layout value := by
  induction faithful with
  | null =>
      intro depth written writes
      obtain rfl : "null".toList = written := Except.ok.inj writes
      exact .word (by simp [words])
  | bool value =>
      intro depth written writes
      cases value with
      | false =>
          obtain rfl : "false".toList = written := Except.ok.inj writes
          exact .word (by simp [words])
      | true =>
          obtain rfl : "true".toList = written := Except.ok.inj writes
          exact .word (by simp [words])
  | integer short => exact spelled_integer short
  | real canonical => exact spelled_real canonical
  | string text =>
      intro depth written writes
      obtain rfl : writeString text = written := Except.ok.inj writes
      have spelled := Spelled.string (spelledPieces_flatMap text.toList)
      rwa [ofList_joinPieces] at spelled
  | array _ ih => exact spelled_array spaced ih
  | object distinct _ ih => exact spelled_object spaced distinct ih

/-- A written text is read as the value that it was written from. -/
theorem read_write {layout : Layout} (spaced : layout.Spaced) {value : Json}
    (faithful : Faithful value) {text : List Char} (writes : write layout value = .ok text) :
    read text = .ok value :=
  read_iff.mpr ⟨[], text, [], blank_nil, blank_nil, spelled_of_write spaced faithful writes, by simp⟩

end Json

end ContractRollout
