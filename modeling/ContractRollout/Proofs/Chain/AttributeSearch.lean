import ContractRollout.Chain.Attribute
import ContractRollout.Proofs.Json.Shapes

/-!
# The search for an attribute

The attributes of a transaction's events of a type stand in one row: those of its own events
come first, then those of the events in each log. Looking for an attribute takes the first match
in the row, an attribute with the key and a truthy value. What is put behind a match, be it
attributes, events or logs, makes no difference.
-/

namespace ContractRollout

open Relation

namespace Members

/-! ### The row of attributes -/

/-- A transaction with events and logs that are objects, down to attributes of a shape. -/
def reports (shape : Members → Bool) (response : Members) : Bool :=
  response.lists "events" (·.lists "attributes" shape)
    && response.lists "logs" (·.lists "events" (·.lists "attributes" shape))

/-- The events of a transaction, its own before those of its logs. -/
def reported (response : Members) : List Members :=
  response.listed "events" ++ (response.listed "logs").flatMap (·.listed "events")

/-- The attributes of the events of a type in a row. -/
def row (type : Json) (events : List Members) : List Members :=
  (events.filter fun event => (event.value "type").same type).flatMap (·.listed "attributes")

/-- An attribute matches a key if it has the key and a truthy value. -/
def isMatch (key : Json) (candidate : Members) : Bool :=
  (candidate.value "key").same key && (candidate.value "value").isTruthy

/-- The value of the first match for a key in the row of a transaction. -/
def firstValue (type key : Json) (response : Members) : Option Json :=
  ((row type response.reported).find? (isMatch key)).map (·.value "value")

variable {response : Members} {shape : Members → Bool} {type key : Json}

theorem row_append (type : Json) (first second : List Members) :
    row type (first ++ second) = row type first ++ row type second := by
  rw [row, List.filter_append, List.flatMap_append, row, row]

theorem row_cons (type : Json) (event : Members) (rest : List Members) :
    row type (event :: rest) = row type [event] ++ row type rest :=
  row_append type [event] rest

theorem row_singleton (type : Json) (event : Members) :
    row type [event] =
      if (event.value "type").same type then event.listed "attributes" else [] := by
  by_cases typed : (event.value "type").same type = true <;> simp [row, typed]

theorem shape_of_reported (reports : response.reports shape = true) :
    ∀ event ∈ response.reported, event.lists "attributes" shape = true := by
  obtain ⟨own, logs⟩ := Bool.and_eq_true_iff.mp reports
  intro event member
  rcases List.mem_append.mp member with first | logged
  · exact shape_of_listed own event first
  · obtain ⟨log, inLogs, inLog⟩ := List.mem_flatMap.mp logged
    exact shape_of_listed (shape_of_listed logs log inLogs) event inLog

/-- The attributes in the row of a transaction have the shape that it reports. -/
theorem shape_of_row (reports : response.reports shape = true) :
    ∀ candidate ∈ row type response.reported, shape candidate = true := by
  intro candidate member
  obtain ⟨event, typed, inside⟩ := List.mem_flatMap.mp member
  have lists := shape_of_reported reports event (List.mem_of_mem_filter typed)
  exact shape_of_listed lists candidate inside

end Members

namespace Json

open Members

variable {response : Members} {shape : Members → Bool}

/-! ### The search goes along the row -/

theorem findAttribute_objects (key : Json) (candidates : List Members) :
    findAttribute key (candidates.map .object) =
      .ok ((candidates.find? (isMatch key)).map (·.value "value")) := by
  induction candidates with
  | nil => rfl
  | cons candidate rest ih =>
      simp only [List.map_cons, findAttribute, field_object, ok_bind, ih]
      by_cases named : (candidate.value "key").same key = true
      · by_cases truthy : (candidate.value "value").isTruthy = true
        · simp [isMatch, named, truthy, pure, Except.pure]
        · simp [isMatch, named, truthy]
      · simp [isMatch, named]

theorem findInEvents_objects (type key : Json) {events : List Members}
    (each : ∀ event ∈ events, event.lists "attributes" shape = true) :
    findInEvents type key (events.map .object) =
      .ok (((row type events).find? (isMatch key)).map (·.value "value")) := by
  induction events with
  | nil => rfl
  | cons event rest ih =>
      obtain ⟨lists, eachLater⟩ := List.forall_mem_cons.mp each
      rw [row_cons, row_singleton, List.find?_append, Option.map_or]
      simp only [List.map_cons, findInEvents, field_object, ok_bind, ih eachLater]
      by_cases typed : (event.value "type").same type = true
      · rw [if_pos typed, if_pos typed, fieldElements_of_lists lists, ok_bind,
          findAttribute_objects, ok_bind]
        cases (event.listed "attributes").find? (isMatch key) <;> rfl
      · rw [if_neg typed, if_neg typed]
        rfl

theorem mapM_fieldElements_of_lists {logs : List Members} {name : String}
    (each : ∀ log ∈ logs, log.lists name shape = true) :
    (logs.map Json.object).mapM (·.fieldElements name) =
      .ok (logs.map fun log => (log.listed name).map .object) := by
  induction logs with
  | nil => rfl
  | cons log logs ih =>
      obtain ⟨lists, eachLater⟩ := List.forall_mem_cons.mp each
      rw [List.map_cons, List.mapM_cons, fieldElements_of_lists lists, ok_bind, ih eachLater]
      rfl

theorem events_of_reports (reports : response.reports shape = true) :
    (object response).events = .ok (response.reported.map .object) := by
  obtain ⟨own, logs⟩ := Bool.and_eq_true_iff.mp reports
  rw [events, fieldElements_of_lists own, ok_bind, fieldElements_of_lists logs, ok_bind,
    mapM_fieldElements_of_lists (shape_of_listed logs), ok_bind, reported, List.map_append,
    List.map_flatMap, List.flatMap_def]
  rfl

/-- Looking for an attribute of a transaction whose parts are objects always comes to an end,
with the first in the row. -/
theorem eventAttribute_of_reports (reports : response.reports shape = true) (type key : Json) :
    (object response).eventAttribute type key = .ok (response.firstValue type key) := by
  rw [eventAttribute, events_of_reports reports, ok_bind,
    findInEvents_objects type key (shape_of_reported reports), firstValue]

end Json

namespace Members

variable {response later : Members} {type key : Json}

/-! ### What is put behind a match -/

/-- The row of some events has a match for a key. -/
def HasMatch (type key : Json) (events : List Members) : Prop :=
  ∃ candidate ∈ row type events, isMatch key candidate = true

/-- Events grow behind a match: an event gets more attributes at its end, or more events follow.
The match stands in that event or before it, or among some earlier events. -/
inductive EventsGrow (type key : Json) (earlier : List Members) :
    List Members → List Members → Prop
  | attributes {before : List Members} {event : Members} {after : List Members}
      (hasMatch : HasMatch type key (earlier ++ before ++ [event])) (more : List Members) :
      EventsGrow type key earlier (before ++ event :: after)
        (before ++ event.relist "attributes" (event.listed "attributes" ++ more) :: after)
  | events {events : List Members} (hasMatch : HasMatch type key (earlier ++ events))
      (more : List Members) : EventsGrow type key earlier events (events ++ more)

/-- A transaction grows behind a match: its own events do, or those of a log, or more logs
follow. -/
inductive Grows (type key : Json) : Members → Members → Prop
  | own {response : Members} {events : List Members}
      (grow : EventsGrow type key [] (response.listed "events") events) :
      Grows type key response (response.relist "events" events)
  | logged {response : Members} {before : List Members} {log : Members}
      {after events : List Members} (logs : response.listed "logs" = before ++ log :: after)
      (grow : EventsGrow type key
        (response.listed "events" ++ before.flatMap (·.listed "events"))
        (log.listed "events") events) :
      Grows type key response
        (response.relist "logs" (before ++ log.relist "events" events :: after))
  | logs {response : Members} (hasMatch : HasMatch type key response.reported)
      (more : List Members) :
      Grows type key response (response.relist "logs" (response.listed "logs" ++ more))

/-- Two rows that agree up to a match for a key. -/
def AgreeToMatch (key : Json) (first second : List Members) : Prop :=
  ∃ shared firstRest secondRest, first = shared ++ firstRest ∧ second = shared ++ secondRest ∧
    ∃ candidate ∈ shared, isMatch key candidate = true

theorem AgreeToMatch.append {first second : List Members} (agree : AgreeToMatch key first second)
    (firstMore secondMore : List Members) :
    AgreeToMatch key (first ++ firstMore) (second ++ secondMore) := by
  obtain ⟨shared, firstRest, secondRest, rfl, rfl, matched⟩ := agree
  exact ⟨shared, _, _, List.append_assoc .., List.append_assoc .., matched⟩

theorem AgreeToMatch.find?_eq {first second : List Members}
    (agree : AgreeToMatch key first second) :
    first.find? (isMatch key) = second.find? (isMatch key) := by
  obtain ⟨shared, firstRest, secondRest, rfl, rfl, candidate, member, matched⟩ := agree
  have found : (shared.find? (isMatch key)).isSome = true :=
    List.find?_isSome.mpr ⟨candidate, member, matched⟩
  obtain ⟨first, here⟩ := Option.isSome_iff_exists.mp found
  simp [List.find?_append, here]

theorem EventsGrow.agreeToMatch {earlier events grown : List Members}
    (grow : EventsGrow type key earlier events grown) :
    AgreeToMatch key (row type (earlier ++ events)) (row type (earlier ++ grown)) := by
  cases grow with
  | @attributes before event after hasMatch more =>
      have kept : (event.relist "attributes" (event.listed "attributes" ++ more)).value "type" =
          event.value "type" :=
        value_relist_of_ne (by decide) _
      obtain ⟨added, extended⟩ : ∃ added,
          row type [event.relist "attributes" (event.listed "attributes" ++ more)] =
            row type [event] ++ added := by
        rw [row_singleton, row_singleton, kept, listed_relist_self]
        by_cases typed : (event.value "type").same type = true
        · exact ⟨more, by simp [typed]⟩
        · exact ⟨[], by simp [typed]⟩
      refine ⟨row type (earlier ++ before ++ [event]), row type after, added ++ row type after,
        ?_, ?_, hasMatch⟩
      · simp only [row_append, row_cons type event after, List.append_assoc]
      · simp only [row_append, row_cons type _ after, extended, List.append_assoc]
  | events hasMatch more =>
      refine ⟨row type (earlier ++ events), [], row type more, (List.append_nil _).symm, ?_,
        hasMatch⟩
      rw [← List.append_assoc, row_append type (earlier ++ events)]

theorem Grows.agreeToMatch (grows : Grows type key response later) :
    AgreeToMatch key (row type response.reported) (row type later.reported) := by
  cases grows with
  | own grow =>
      have agree := grow.agreeToMatch
      rw [reported, reported, listed_relist_self, listed_relist_of_ne (by decide), row_append,
        row_append]
      exact agree.append _ _
  | @logged before log after events logs grow =>
      have agree := grow.agreeToMatch
      rw [reported, reported, listed_relist_self, listed_relist_of_ne (by decide), logs]
      simp only [List.flatMap_append, List.flatMap_cons, listed_relist_self]
      simp only [← List.append_assoc]
      rw [row_append, row_append type _ (after.flatMap _)]
      exact agree.append _ _
  | logs hasMatch more =>
      refine ⟨row type response.reported, [], row type (more.flatMap (·.listed "events")),
        (List.append_nil _).symm, ?_, hasMatch⟩
      rw [reported, listed_relist_self, listed_relist_of_ne (by decide), List.flatMap_append,
        ← List.append_assoc, row_append]
      rfl

theorem firstValue_of_grows (grows : Grows type key response later) :
    later.firstValue type key = response.firstValue type key := by
  rw [firstValue, firstValue, grows.agreeToMatch.find?_eq]

theorem firstValue_of_grown (grown : ReflTransGen (Grows type key) response later) :
    later.firstValue type key = response.firstValue type key := by
  induction grown with
  | refl => rfl
  | tail _ grows ih => exact (firstValue_of_grows grows).trans ih

end Members

namespace Json

open Members

/-! ### The first match -/

/-- Looking for an attribute is a search for the first match. A transaction whose events, logs
and attributes are objects, as far as there are any, can always be searched. What is found is the
value of the first attribute in the row with the key and a truthy value, and nothing is found
exactly if the row has none. Attributes, events and logs that are put behind a match, once or
often, leave the result as it is. -/
theorem eventAttribute_first_match {response : Members}
    (objects : response.reports (fun _ => true) = true) (type key : Json) :
    ∃ found, (object response).eventAttribute type key = .ok found ∧
      (∀ value, found = some value ↔
        ∃ before candidate after, row type response.reported = before ++ candidate :: after ∧
          (∀ earlier ∈ before, isMatch key earlier = false) ∧ isMatch key candidate = true ∧
          candidate.value "value" = value) ∧
      (found = none ↔ ∀ candidate ∈ row type response.reported, isMatch key candidate = false) ∧
      ∀ later, ReflTransGen (Grows type key) response later →
        later.reports (fun _ => true) = true →
        (object later).eventAttribute type key = .ok found := by
  refine ⟨_, eventAttribute_of_reports objects type key, ?first, ?none, ?grown⟩
  case first =>
    intro value
    rw [firstValue, Option.map_eq_some_iff]
    constructor
    · rintro ⟨candidate, found, rfl⟩
      obtain ⟨matched, before, after, split, unmatched⟩ := List.find?_eq_some_iff_append.mp found
      exact ⟨before, candidate, after, split, by simpa using unmatched, matched, rfl⟩
    · rintro ⟨before, candidate, after, split, unmatched, matched, rfl⟩
      exact ⟨candidate, List.find?_eq_some_iff_append.mpr
        ⟨matched, before, after, split, by simpa using unmatched⟩, rfl⟩
  case none =>
    rw [firstValue, Option.map_eq_none_iff, List.find?_eq_none]
    simp
  case grown =>
    intro later grown objectsLater
    rw [eventAttribute_of_reports objectsLater, firstValue_of_grown grown]

/-- An attribute with an address. -/
def addressAttribute (address : Json) : Members :=
  [("key", .string "_contract_address"), ("value", address)]

/-- An event that tells of an instantiation. -/
def instantiateEvent (attributes : List Members) : Members :=
  [("type", .string "instantiate"), ("attributes", .array (attributes.map .object))]

/-- A transaction that tells of an instantiation in its second log. Its own events are one with
a blank address, one without attributes and one of another type. -/
def loggedReport (attributes : List Members) : Members :=
  [("events", .array [
      .object (instantiateEvent [addressAttribute (.string "")]),
      .object [("type", .string "instantiate"), ("attributes", .null)],
      .object [("type", .string "transfer"),
        ("attributes", .array [.object (addressAttribute (.string "terra1other"))])]]),
    ("logs", .array [.object [], .object [("events", .array [
      .object (instantiateEvent attributes)])]])]

/-- The address in the log is found, whatever is passed over before it, and an address that is
put behind it makes no difference. -/
theorem eventAttribute_first_match_in_log :
    let type := Json.string "instantiate"
    let key := Json.string "_contract_address"
    let shown := [addressAttribute .null, addressAttribute (.string "terra1bridge")]
    let late := [addressAttribute (.string "terra1late")]
    (loggedReport shown).reports (fun _ => true) = true ∧
    (loggedReport (shown ++ late)).reports (fun _ => true) = true ∧
    Grows type key (loggedReport shown) (loggedReport (shown ++ late)) ∧
    (object (loggedReport shown)).eventAttribute type key = .ok (some (.string "terra1bridge")) ∧
    (object (loggedReport (shown ++ late))).eventAttribute type key =
      .ok (some (.string "terra1bridge")) := by
  intro type key shown late
  have objects : (loggedReport shown).reports (fun _ => true) = true := by decide +kernel
  have objectsLater : (loggedReport (shown ++ late)).reports (fun _ => true) = true := by
    decide +kernel
  have hasMatch : HasMatch type key
      ((loggedReport shown).listed "events" ++ ([[]] : List Members).flatMap (·.listed "events")
        ++ [] ++ [instantiateEvent shown]) :=
    ⟨addressAttribute (.string "terra1bridge"), .tail _ (.tail _ (.head _)), by decide +kernel⟩
  have grows : Grows type key (loggedReport shown) (loggedReport (shown ++ late)) :=
    @Grows.logged type key (loggedReport shown) [[]]
      [("events", .array [.object (instantiateEvent shown)])] []
      [instantiateEvent (shown ++ late)] rfl (.attributes hasMatch late)
  obtain ⟨found, finds, first, -, grown⟩ := eventAttribute_first_match objects type key
  have here : found = some (.string "terra1bridge") :=
    (first _).mpr ⟨[addressAttribute (.string ""), addressAttribute .null],
      addressAttribute (.string "terra1bridge"), [], rfl, by decide +kernel, by decide +kernel, rfl⟩
  rw [here] at finds grown
  exact ⟨objects, objectsLater, grows, finds, grown _ (.single grows) objectsLater⟩

end Json

end ContractRollout
