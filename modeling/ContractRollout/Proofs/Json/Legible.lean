import ContractRollout.Json.Reader
import ContractRollout.Json.Writer
import ContractRollout.Proofs.Number.Shortest
import ContractRollout.Proofs.Outcomes

/-!
# Legible values

Reading gives legible values only: their integers have a written form, every object
has a key once, and nothing in them is foreign. Their doubles are in the one form that a
double has, as values without doubles are anyway.
-/

namespace ContractRollout

namespace Members

theorem mem_insert {key : String} {value : Json} {members : Members}
    {member : String × Json} (found : member ∈ members.insert key value) :
    member = (key, value) ∨ member ∈ members := by
  induction members with
  | nil => simpa [insert, Bindings.insert] using found
  | cons first rest ih =>
      simp only [insert, Bindings.insert] at found ih
      split at found
      · rename_i same
        rcases List.mem_cons.mp found with here | later
        · exact Or.inl (by rw [here, same])
        · exact Or.inr (List.mem_cons_of_mem _ later)
      · rcases List.mem_cons.mp found with here | later
        · exact Or.inr (by rw [here]; exact List.mem_cons_self)
        · exact (ih later).imp_right (List.mem_cons_of_mem _)

theorem keys_insert_of_mem {key : String} {members : Members} (value : Json)
    (bound : key ∈ members.keys) : (members.insert key value).keys = members.keys :=
  Bindings.keys_insert_of_mem value bound

theorem keys_insert_of_not_mem {key : String} {members : Members} (value : Json)
    (unbound : key ∉ members.keys) : (members.insert key value).keys = members.keys ++ [key] :=
  Bindings.keys_insert_of_not_mem value unbound

theorem insert_of_not_mem {key : String} {members : Members} (value : Json)
    (unbound : key ∉ members.keys) : members.insert key value = members ++ [(key, value)] := by
  induction members with
  | nil => rfl
  | cons first rest ih =>
      have apart : first.1 ≠ key ∧ key ∉ keys rest := by
        simpa [keys, eq_comm] using unbound
      have later := ih apart.2
      simp only [insert] at later
      simp [insert, Bindings.insert, apart.1, later]

theorem nodup_keys_insert {members : Members} (key : String) (value : Json)
    (distinct : members.keys.Nodup) : (members.insert key value).keys.Nodup := by
  by_cases bound : key ∈ members.keys
  · rwa [keys_insert_of_mem value bound]
  · rw [keys_insert_of_not_mem value bound]
    refine List.nodup_append.mpr ⟨distinct, by simp, ?_⟩
    intro other member last inLast same
    have lastKey : last = key := by simpa using inLast
    exact bound (lastKey ▸ same ▸ member)

/-- Members taken one after the other into those that are there already. -/
def insertAll (collected members : Members) : Members :=
  members.foldl (fun collected member => collected.insert member.1 member.2) collected

@[simp]
theorem insertAll_cons (collected : Members) (member : String × Json) (members : Members) :
    insertAll collected (member :: members) =
      insertAll (collected.insert member.1 member.2) members :=
  rfl

theorem nodup_keys_insertAll {collected : Members} (members : Members)
    (distinct : collected.keys.Nodup) : (insertAll collected members).keys.Nodup := by
  induction members generalizing collected with
  | nil => exact distinct
  | cons member members ih => exact ih (nodup_keys_insert _ _ distinct)

theorem mem_insertAll {collected members : Members} {member : String × Json}
    (found : member ∈ insertAll collected members) : member ∈ collected ∨ member ∈ members := by
  induction members generalizing collected with
  | nil => exact Or.inl found
  | cons first members ih =>
      rcases ih found with earlier | later
      · rcases mem_insert earlier with new | old
        · exact Or.inr (by rw [new]; exact List.mem_cons_self)
        · exact Or.inl old
      · exact Or.inr (List.mem_cons_of_mem _ later)

theorem insertAll_of_nodup {collected members : Members}
    (distinct : (keys (collected ++ members)).Nodup) :
    insertAll collected members = collected ++ members := by
  induction members generalizing collected with
  | nil => simp [insertAll]
  | cons member members ih =>
      have regrouped : collected ++ member :: members = (collected ++ [member]) ++ members := by
        simp
      have unbound : member.1 ∉ keys collected := by
        intro bound
        have apart := (List.nodup_append.mp (by simpa [keys] using distinct)).2.2
        exact apart member.1 (by simpa [keys] using bound) member.1 (by simp) rfl
      rw [insertAll_cons, insert_of_not_mem member.2 unbound, regrouped]
      exact ih (regrouped ▸ distinct)

theorem nodup_keys_collect (members : Members) : (collect members).keys.Nodup :=
  nodup_keys_insertAll members (by simp [keys])

theorem mem_of_mem_collect {members : Members} {member : String × Json}
    (found : member ∈ collect members) : member ∈ members := by
  rcases mem_insertAll found with none | given
  · simp at none
  · exact given

theorem collect_of_nodup {members : Members} (distinct : members.keys.Nodup) :
    collect members = members :=
  @insertAll_of_nodup [] members distinct

end Members

namespace Json

/-- A value as reading gives it: every integer has a written form, every object has a
key once, and nothing is foreign. -/
inductive Legible : Json → Prop
  | null : Legible .null
  | bool (value : Bool) : Legible (.bool value)
  | integer {value : Int} (short : exceedsDigitLimit value = false) :
      Legible (.number (.integer value))
  | real (value : Binary64) : Legible (.number (.real value))
  | string (text : String) : Legible (.string text)
  | array {items : List Json} (each : ∀ item ∈ items, Legible item) : Legible (.array items)
  | object {members : Members} (distinct : members.keys.Nodup)
      (each : ∀ member ∈ members, Legible member.2) : Legible (.object members)

/-- A value without any doubles in it. -/
inductive FloatFree : Json → Prop
  | null : FloatFree .null
  | bool (value : Bool) : FloatFree (.bool value)
  | integer (value : Int) : FloatFree (.number (.integer value))
  | string (text : String) : FloatFree (.string text)
  | array {items : List Json} (each : ∀ item ∈ items, FloatFree item) : FloatFree (.array items)
  | object {members : Members} (each : ∀ member ∈ members, FloatFree member.2) :
      FloatFree (.object members)
  | foreign (kind text : String) : FloatFree (.foreign kind text)

/-- A value whose objects have every key once, whatever else is in them. -/
inductive Distinct : Json → Prop
  | null : Distinct .null
  | bool (value : Bool) : Distinct (.bool value)
  | number (value : Number) : Distinct (.number value)
  | string (text : String) : Distinct (.string text)
  | array {items : List Json} (each : ∀ item ∈ items, Distinct item) : Distinct (.array items)
  | object {members : Members} (distinct : members.keys.Nodup)
      (each : ∀ member ∈ members, Distinct member.2) : Distinct (.object members)
  | foreign (kind text : String) : Distinct (.foreign kind text)

theorem Legible.insert {members : Members} (legible : Legible (.object members)) (key : String)
    {value : Json} (legibleValue : Legible value) :
    Legible (.object (members.insert key value)) := by
  cases legible with
  | object distinct each =>
      refine .object (Members.nodup_keys_insert key value distinct) ?_
      intro member found
      rcases Members.mem_insert found with new | old
      · rw [new]
        exact legibleValue
      · exact each member old

theorem FloatFree.insert {members : Members} (floatFree : FloatFree (.object members))
    (key : String) {value : Json} (floatFreeValue : FloatFree value) :
    FloatFree (.object (members.insert key value)) := by
  cases floatFree with
  | object each =>
      refine .object ?_
      intro member found
      rcases Members.mem_insert found with new | old
      · rw [new]
        exact floatFreeValue
      · exact each member old

/-- A legible value with every double in the one form that it has. Its written form stands for
it. -/
inductive Faithful : Json → Prop
  | null : Faithful .null
  | bool (value : Bool) : Faithful (.bool value)
  | integer {value : Int} (short : exceedsDigitLimit value = false) :
      Faithful (.number (.integer value))
  | real {value : Binary64} (canonical : value.Canonical) : Faithful (.number (.real value))
  | string (text : String) : Faithful (.string text)
  | array {items : List Json} (each : ∀ item ∈ items, Faithful item) : Faithful (.array items)
  | object {members : Members} (distinct : members.keys.Nodup)
      (each : ∀ member ∈ members, Faithful member.2) : Faithful (.object members)

theorem Faithful.legible {value : Json} (faithful : Faithful value) : Legible value := by
  induction faithful with
  | null => exact .null
  | bool value => exact .bool value
  | integer short => exact .integer short
  | real _ => exact .real _
  | string text => exact .string text
  | array _ ih => exact .array ih
  | object distinct _ ih => exact .object distinct ih

theorem Legible.faithful {value : Json} (legible : Legible value) (floatFree : FloatFree value) :
    Faithful value := by
  induction legible with
  | null => exact .null
  | bool value => exact .bool value
  | integer short => exact .integer short
  | real value => cases floatFree
  | string text => exact .string text
  | array _ ih =>
      cases floatFree with
      | array each => exact .array fun item member => ih item member (each item member)
  | object distinct _ ih =>
      cases floatFree with
      | object each => exact .object distinct fun member found => ih member found (each member found)

theorem Faithful.insert {members : Members} (faithful : Faithful (.object members)) (key : String)
    {value : Json} (faithfulValue : Faithful value) :
    Faithful (.object (members.insert key value)) := by
  cases faithful with
  | object distinct each =>
      refine .object (Members.nodup_keys_insert key value distinct) ?_
      intro member found
      rcases Members.mem_insert found with new | old
      · rw [new]
        exact faithfulValue
      · exact each member old

theorem Faithful.value {members : Members} (faithful : Faithful (.object members)) (key : String) :
    Faithful (members.value key) := by
  cases faithful with
  | object distinct each =>
      cases held : members.lookup key with
      | none => simpa [Members.value, held] using Faithful.null
      | some value =>
          obtain ⟨before, after, split, -⟩ := List.lookup_eq_some_iff.mp held
          have member : (key, value) ∈ members := by simp [split]
          simpa [Members.value, held] using each (key, value) member

/-! ### Reading gives faithful values -/

theorem exceedsDigitLimit_eq_false {value : Int} :
    exceedsDigitLimit value = false ↔ value.natAbs < 10 ^ digitLimit := by
  have power (digits : Nat) : Nat.pow 10 digits = 10 ^ digits := rfl
  rw [exceedsDigitLimit, power, decide_eq_false_iff_not, Nat.not_le]

theorem naturalOfDigits_lt {digits : List Char} (decimal : ∀ digit ∈ digits, digit.isDigit) :
    naturalOfDigits digits < 10 ^ digits.length := by
  unfold naturalOfDigits
  induction digits with
  | nil => simp
  | cons digit digits ih =>
      have later := ih fun other member => decimal other (List.mem_cons_of_mem _ member)
      have bounds := Char.isDigit_iff_toNat.mp (decimal digit List.mem_cons_self)
      have value : digit.toNat - '0'.toNat ≤ 9 := by
        simp at bounds ⊢
        omega
      have scaled : 10 ^ digits.length * (digit.toNat - '0'.toNat) ≤ 10 ^ digits.length * 9 :=
        Nat.mul_le_mul_left _ value
      rw [Nat.ofDigitChars_cons, Nat.ofDigitChars_eq_ofDigitChars_zero, List.length_cons,
        Nat.pow_succ]
      simp only [Nat.mul_zero, Nat.zero_add]
      omega

theorem readWhole?_digits {text digits rest : List Char}
    (reads : readWhole? text = some (digits, rest)) : ∀ digit ∈ digits, digit.isDigit := by
  unfold readWhole? at reads
  split at reads
  · obtain ⟨rfl, rfl⟩ := by simpa using reads
    simp
  · dsimp only at reads
    split at reads
    · simp at reads
    · obtain ⟨rfl, rfl⟩ := by simpa using reads
      intro digit member
      exact List.all_eq_true.mp List.all_takeWhile digit member

theorem readNumeral?_digits {text rest : List Char} {numeral : Numeral}
    (reads : readNumeral? text = some (numeral, rest)) :
    ∀ digit ∈ numeral.whole, digit.isDigit := by
  simp only [readNumeral?, Option.map_eq_some_iff] at reads
  obtain ⟨⟨whole, later⟩, readsWhole, same⟩ := reads
  obtain ⟨rfl, -⟩ := by simpa using same
  exact readWhole?_digits readsWhole

/-- An integer that is spelled with few enough digits can be written again, and a double is
rounded. -/
theorem faithful_numeral {numeral : Numeral} (decimal : ∀ digit ∈ numeral.whole, digit.isDigit)
    (short : (numeral.isInteger && digitLimit < numeral.whole.length) = false) :
    Faithful (.number numeral.value) := by
  unfold Numeral.value
  split
  · rename_i integral
    have few : numeral.whole.length ≤ digitLimit := by simpa [integral] using short
    have bound : naturalOfDigits numeral.whole < 10 ^ digitLimit :=
      Nat.lt_of_lt_of_le (naturalOfDigits_lt decimal) (Nat.pow_le_pow_right (by decide) few)
    refine .integer (exceedsDigitLimit_eq_false.mpr ?_)
    split
    · rwa [Int.natAbs_neg, Int.natAbs_natCast]
    · rwa [Int.natAbs_natCast]
  · refine .real ?_
    rw [Decimal.toBinary64_eq]
    exact Binary64.canonical_ofMagnitude _ (Decimal.toRat_nonneg _)

theorem words_faithful : ∀ word ∈ words, Faithful word.2 := by
  intro word member
  simp only [words, List.mem_cons, List.not_mem_nil, or_false] at member
  rcases member with rfl | rfl | rfl | rfl | rfl | rfl <;> constructor <;> trivial

theorem readAtom_faithful {text rest : List Char} {value : Json}
    (reads : readAtom text = .ok (value, rest)) : Faithful value := by
  unfold readAtom at reads
  split at reads
  · rename_i reading found
    obtain ⟨word, member, given⟩ := List.exists_of_findSome?_eq_some found
    obtain ⟨after, -, same⟩ := Option.map_eq_some_iff.mp given
    have sameValue : word.2 = value := by
      have pairs : (word.2, after) = (value, rest) := same.trans (Except.ok.inj reads)
      exact congrArg Prod.fst pairs
    exact sameValue ▸ words_faithful word member
  · split at reads
    · simp at reads
    · rename_i numeral after readsNumeral
      split at reads
      · simp at reads
      · rename_i short
        obtain ⟨rfl, -⟩ := by simpa using reads
        exact faithful_numeral (readNumeral?_digits readsNumeral) (by simpa using short)

section Bounded

variable {bound : Nat}

theorem readValue_succ_faithful
    (items : ∀ {text items rest}, readItems bound text = .ok (items, rest) →
      ∀ item ∈ items, Faithful item)
    (members : ∀ {text members rest}, readMembers bound text = .ok (members, rest) →
      ∀ member ∈ members, Faithful member.2)
    {text rest : List Char} {value : Json}
    (reads : readValue (bound + 1) text = .ok (value, rest)) : Faithful value := by
  unfold readValue at reads
  split at reads
  · obtain ⟨⟨written, after⟩, -, same⟩ := bind_eq_ok.mp reads
    obtain ⟨rfl, -⟩ := by simpa [pure, Except.pure] using same
    exact .string written
  · split at reads
    · obtain ⟨rfl, -⟩ := by simpa using reads
      exact .array (by simp)
    · obtain ⟨⟨found, after⟩, readsItems, same⟩ := bind_eq_ok.mp reads
      obtain ⟨rfl, -⟩ := by simpa [pure, Except.pure] using same
      exact .array (items readsItems)
  · split at reads
    · obtain ⟨rfl, -⟩ := by simpa using reads
      exact .object (by simp [Members.keys]) (by simp)
    · obtain ⟨⟨found, after⟩, readsMembers, same⟩ := bind_eq_ok.mp reads
      obtain ⟨rfl, -⟩ := by simpa [pure, Except.pure] using same
      exact .object (Members.nodup_keys_collect found) fun member collected =>
        members readsMembers member (Members.mem_of_mem_collect collected)
  · exact readAtom_faithful reads

theorem readItems_succ_faithful
    (values : ∀ {text value rest}, readValue bound text = .ok (value, rest) → Faithful value)
    (items : ∀ {text items rest}, readItems bound text = .ok (items, rest) →
      ∀ item ∈ items, Faithful item)
    {text rest : List Char} {found : List Json}
    (reads : readItems (bound + 1) text = .ok (found, rest)) :
    ∀ item ∈ found, Faithful item := by
  unfold readItems at reads
  obtain ⟨⟨first, after⟩, readsFirst, reads⟩ := bind_eq_ok.mp reads
  dsimp only at reads
  split at reads
  · obtain ⟨rfl, -⟩ := by simpa [pure, Except.pure] using reads
    simpa using values readsFirst
  · obtain ⟨⟨others, last⟩, readsOthers, same⟩ := bind_eq_ok.mp reads
    obtain ⟨rfl, -⟩ := by simpa [pure, Except.pure] using same
    exact List.forall_mem_cons.mpr ⟨values readsFirst, items readsOthers⟩
  · simp at reads

theorem readMembers_succ_faithful
    (values : ∀ {text value rest}, readValue bound text = .ok (value, rest) → Faithful value)
    (members : ∀ {text members rest}, readMembers bound text = .ok (members, rest) →
      ∀ member ∈ members, Faithful member.2)
    {text rest : List Char} {found : Members}
    (reads : readMembers (bound + 1) text = .ok (found, rest)) :
    ∀ member ∈ found, Faithful member.2 := by
  unfold readMembers at reads
  split at reads
  · obtain ⟨⟨key, afterKey⟩, -, reads⟩ := bind_eq_ok.mp reads
    dsimp only at reads
    split at reads
    · obtain ⟨⟨first, after⟩, readsFirst, reads⟩ := bind_eq_ok.mp reads
      dsimp only at reads
      split at reads
      · obtain ⟨rfl, -⟩ := by simpa [pure, Except.pure] using reads
        simpa using values readsFirst
      · obtain ⟨⟨others, last⟩, readsOthers, same⟩ := bind_eq_ok.mp reads
        obtain ⟨rfl, -⟩ := by simpa [pure, Except.pure] using same
        exact List.forall_mem_cons.mpr ⟨values readsFirst, members readsOthers⟩
      · simp at reads
    · simp at reads
  · simp at reads

/-- What the three readers give within a bound, one statement for each of them. -/
theorem readers_faithful (bound : Nat) :
    (∀ {text value rest}, readValue bound text = .ok (value, rest) → Faithful value) ∧
    (∀ {text items rest}, readItems bound text = .ok (items, rest) →
      ∀ item ∈ items, Faithful item) ∧
    (∀ {text members rest}, readMembers bound text = .ok (members, rest) →
      ∀ member ∈ members, Faithful member.2) := by
  induction bound with
  | zero => simp [readValue, readItems, readMembers]
  | succ bound ih =>
      obtain ⟨values, items, members⟩ := ih
      exact ⟨readValue_succ_faithful items members, readItems_succ_faithful values items,
        readMembers_succ_faithful values members⟩

end Bounded

theorem read_faithful {text : List Char} {value : Json} (reads : read text = .ok value) :
    Faithful value := by
  unfold read at reads
  split at reads
  · rename_i found document
    obtain rfl := Except.ok.inj reads
    unfold readDocument at document
    split at document
    · simp at document
    · obtain ⟨⟨given, rest⟩, readsValue, after⟩ := bind_eq_ok.mp document
      dsimp only at after
      split at after
      · obtain rfl := Except.ok.inj after
        exact (readers_faithful _).1 readsValue
      · simp at after
  · simp at reads

theorem read_legible {text : List Char} {value : Json} (reads : read text = .ok value) :
    Legible value :=
  (read_faithful reads).legible

end Json

end ContractRollout
