import ContractRollout.Chain.Attribute
import ContractRollout.Proofs.Json.Legible

/-!
# The first attribute

Looking for an attribute goes through the attributes of all events of a type in one row
and takes the first one that has the key and a truthy value.
-/

namespace ContractRollout

namespace Json

/-- The value of a field, null if there is none or no fields at all. -/
def fieldOr (value : Json) (key : String) : Json := (value.field key).toOption.getD .null

/-- What going through a field yields, nothing if one cannot go through it. -/
def fieldItems (value : Json) (key : String) : List Json :=
  (value.fieldElements key).toOption.getD []

/-- All attributes of the events of a type, in order. -/
def attributes (transaction type : Json) : List Json :=
  let all := transaction.fieldItems "events"
    ++ (transaction.fieldItems "logs").flatMap (·.fieldItems "events")
  (all.filter fun event => (event.fieldOr "type").same type).flatMap (·.fieldItems "attributes")

/-- Whether an attribute has a key and a truthy value. -/
def bears (key candidate : Json) : Bool :=
  (candidate.fieldOr "key").same key && (candidate.fieldOr "value").isTruthy

/-- The value of the first attribute of a transaction with a key and a truthy value. -/
def firstAttribute (transaction type key : Json) : Option Json :=
  ((transaction.attributes type).find? (bears key)).map (·.fieldOr "value")

variable {transaction type key : Json}

theorem eq_object_of_asMembers {value : Json} {members : Members}
    (has : value.asMembers = .ok members) : value = .object members := by
  cases value with
  | object held =>
      obtain rfl : held = members := Except.ok.inj has
      rfl
  | _ => simp [asMembers] at has

theorem fieldItems_of_ok {value : Json} {name : String} {items : List Json}
    (goes : value.fieldElements name = .ok items) : value.fieldItems name = items := by
  simp [fieldItems, goes, Except.toOption]

theorem fieldOr_of_ok {value held : Json} {name : String} (has : value.field name = .ok held) :
    value.fieldOr name = held := by
  simp [fieldOr, has, Except.toOption]

theorem flatMap_of_mapM {logs : List Json} {lists : List (List Json)} {name : String}
    (each : logs.mapM (·.fieldElements name) = .ok lists) :
    logs.flatMap (·.fieldItems name) = lists.flatten := by
  induction logs generalizing lists with
  | nil =>
      obtain rfl : [] = lists := Except.ok.inj each
      rfl
  | cons log logs ih =>
      rw [List.mapM_cons] at each
      obtain ⟨items, goes, each⟩ := bind_eq_ok.mp each
      obtain ⟨others, eachOther, same⟩ := bind_eq_ok.mp each
      obtain rfl : items :: others = lists := Except.ok.inj same
      rw [List.flatMap_cons, fieldItems_of_ok goes, ih eachOther, List.flatten_cons]

theorem events_eq {all : List Json} (collects : transaction.events = .ok all) :
    all = transaction.fieldItems "events"
      ++ (transaction.fieldItems "logs").flatMap (·.fieldItems "events") := by
  obtain ⟨own, goesOwn, collects⟩ := bind_eq_ok.mp collects
  obtain ⟨logs, goesLogs, collects⟩ := bind_eq_ok.mp collects
  obtain ⟨logged, each, same⟩ := bind_eq_ok.mp collects
  obtain rfl : own ++ logged.flatten = all := Except.ok.inj same
  rw [fieldItems_of_ok goesOwn, fieldItems_of_ok goesLogs, flatMap_of_mapM each]

theorem findAttribute_eq {candidates : List Json} {found : Option Json}
    (finds : findAttribute key candidates = .ok found) :
    found = (candidates.find? (bears key)).map (·.fieldOr "value") := by
  induction candidates with
  | nil => exact (Except.ok.inj finds).symm
  | cons candidate rest ih =>
      unfold findAttribute at finds
      obtain ⟨name, named, finds⟩ := bind_eq_ok.mp finds
      have nameIs := fieldOr_of_ok named
      by_cases same : name.same key = true
      · rw [if_pos same] at finds
        obtain ⟨value, valued, finds⟩ := bind_eq_ok.mp finds
        have valueIs := fieldOr_of_ok valued
        by_cases truthy : value.isTruthy = true
        · rw [if_pos truthy] at finds
          obtain rfl : some value = found := Except.ok.inj finds
          simp [bears, nameIs, same, valueIs, truthy]
        · rw [if_neg truthy] at finds
          have later := ih finds
          simpa [bears, nameIs, same, valueIs, truthy] using later
      · rw [if_neg same] at finds
        have later := ih finds
        simpa [bears, nameIs, same] using later

theorem findInEvents_eq {all : List Json} {found : Option Json}
    (finds : findInEvents type key all = .ok found) :
    found = (((all.filter fun event => (event.fieldOr "type").same type).flatMap
      (·.fieldItems "attributes")).find? (bears key)).map (·.fieldOr "value") := by
  induction all with
  | nil => exact (Except.ok.inj finds).symm
  | cons event rest ih =>
      unfold findInEvents at finds
      obtain ⟨name, typed, finds⟩ := bind_eq_ok.mp finds
      have typeIs := fieldOr_of_ok typed
      by_cases same : name.same type = true
      · rw [if_pos same] at finds
        obtain ⟨candidates, goes, finds⟩ := bind_eq_ok.mp finds
        obtain ⟨here, findsHere, finds⟩ := bind_eq_ok.mp finds
        have hereIs := findAttribute_eq findsHere
        have kept : (event.fieldOr "type").same type = true := by rw [typeIs, same]
        rw [List.filter_cons, if_pos kept, List.flatMap_cons, fieldItems_of_ok goes,
          List.find?_append, Option.map_or, ← hereIs]
        cases here with
        | some value => exact (Except.ok.inj finds).symm
        | none =>
            rw [Option.none_or]
            exact ih finds
      · rw [if_neg same] at finds
        have dropped : ¬ (event.fieldOr "type").same type = true := by rwa [typeIs]
        rw [List.filter_cons, if_neg dropped]
        exact ih finds

/-- An attribute that is found is the first one. -/
theorem eventAttribute_eq {found : Option Json}
    (finds : transaction.eventAttribute type key = .ok found) :
    found = transaction.firstAttribute type key := by
  obtain ⟨all, collects, finds⟩ := bind_eq_ok.mp finds
  rw [findInEvents_eq finds, events_eq collects]
  rfl

/-! ### Parts of faithful values -/

theorem Faithful.fieldOr {value : Json} (faithful : Faithful value) (name : String) :
    Faithful (value.fieldOr name) := by
  cases value with
  | object members => exact faithful.value name
  | _ => exact .null

theorem Faithful.elements {value : Json} (faithful : Faithful value) {items : List Json}
    (goes : value.elements = .ok items) : ∀ item ∈ items, Faithful item := by
  cases faithful with
  | array each =>
      obtain rfl := Except.ok.inj goes
      exact each
  | object distinct each =>
      obtain rfl := Except.ok.inj goes
      intro item member
      obtain ⟨name, -, rfl⟩ := List.mem_map.mp member
      exact .string name
  | string text =>
      obtain rfl := Except.ok.inj goes
      intro item member
      obtain ⟨character, -, rfl⟩ := List.mem_map.mp member
      exact .string _
  | _ => simp [Json.elements] at goes

theorem Faithful.fieldItems {value : Json} (faithful : Faithful value) (name : String) :
    ∀ item ∈ value.fieldItems name, Faithful item := by
  cases goes : value.fieldElements name with
  | error fault => simp [Json.fieldItems, goes, Except.toOption]
  | ok items =>
      rw [fieldItems_of_ok goes]
      obtain ⟨held, has, chooses⟩ := bind_eq_ok.mp goes
      have faithfulHeld := faithful.fieldOr name
      rw [fieldOr_of_ok has] at faithfulHeld
      split at chooses
      · exact faithfulHeld.elements chooses
      · obtain rfl : [] = items := Except.ok.inj chooses
        simp

theorem Faithful.attributes (faithful : Faithful transaction) (type : Json) :
    ∀ candidate ∈ transaction.attributes type, Faithful candidate := by
  intro candidate member
  obtain ⟨event, inAll, inEvent⟩ := List.mem_flatMap.mp member
  refine Faithful.fieldItems ?_ "attributes" candidate inEvent
  rcases List.mem_append.mp (List.mem_of_mem_filter inAll) with own | logged
  · exact faithful.fieldItems "events" event own
  · obtain ⟨log, inLogs, inLog⟩ := List.mem_flatMap.mp logged
    exact (faithful.fieldItems "logs" log inLogs).fieldItems "events" event inLog

/-- The value of an attribute counts as present, and it is faithful if the transaction is. -/
theorem Faithful.firstAttribute (faithful : Faithful transaction) {value : Json}
    (first : transaction.firstAttribute type key = some value) :
    Faithful value ∧ value.isTruthy = true := by
  obtain ⟨candidate, found, rfl⟩ := Option.map_eq_some_iff.mp first
  have borne : bears key candidate = true := List.find?_some found
  simp only [bears, Bool.and_eq_true] at borne
  have inside := List.mem_of_find?_eq_some found
  exact ⟨(faithful.attributes type candidate inside).fieldOr "value", borne.2⟩

end Json

end ContractRollout
