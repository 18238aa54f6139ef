import ContractRollout.Chain.Confirmation
import ContractRollout.Proofs.Chain.Attribute
import ContractRollout.Proofs.Chain.Sessions

/-!
# Confirmed transactions

Replies tell of a transaction that the chain knows it or not, or they tell nothing at all.
A transaction is confirmed by the first reply that the chain knows it. Waiting for it issues
no command.
-/

namespace ContractRollout

/-- What a reply tells of a transaction: null if it is not known, and nothing if the reply is
an error or cannot be understood. -/
def Reply.transaction? : Reply → Option Json
  | failed _ => none
  | answered status body =>
      if status = 404 then some .null
      else if 400 ≤ status ∧ status < 600 then none
      else
        match Json.read body.toList with
        | .error _ => none
        | .ok value =>
            if value.isTruthy then (value.field "tx_response").toOption else some .null

theorem Reply.transaction?_eq (reply : Reply) :
    reply.transaction? = reply.value?.bind fun value =>
      if value.isTruthy then (value.field "tx_response").toOption else some .null := by
  cases reply with
  | failed reason => rfl
  | answered status body =>
      unfold transaction? value?
      by_cases missing : status = 404
      · simp only [if_pos missing]
        rfl
      by_cases refused : 400 ≤ status ∧ status < 600
      · simp only [if_neg missing, if_pos refused]
        rfl
      simp only [if_neg missing, if_neg refused]
      cases Json.read body.toList <;> rfl

/-- What an event tells of the transaction at a URL. -/
def Event.tells? (url : String) : Event → Option Json
  | .request asked reply => if asked = url then reply.transaction? else none
  | _ => none

def Json.isPresent : Json → Bool
  | .null => false
  | _ => true

/-- The first thing that events tell of a transaction but that it is not known. -/
def firstResponse (url : String) (events : List Event) : Option Json :=
  (events.filterMap (Event.tells? url)).find? Json.isPresent

/-- A transaction or its submission has no code, or its code equals zero. -/
def Accepted (members : Members) : Prop :=
  ∀ code, members.lookup "code" = some code → code.same (.integer 0) = true

theorem isAccepted_iff {members : Members} : Json.isAccepted members = true ↔ Accepted members := by
  unfold Json.isAccepted Accepted Json.isZero
  cases held : members.lookup "code" with
  | none =>
      have zero : (Json.integer 0).same (.integer 0) = true := by decide
      simpa using zero
  | some code => simp

theorem firstResponse_append {url : String} {early late : List Event} {found : Json}
    (first : firstResponse url early = some found) :
    firstResponse url (early ++ late) = some found := by
  unfold firstResponse at first ⊢
  rw [List.filterMap_append, List.find?_append, first, Option.some_or]

theorem firstResponse_cons_of_absent {url : String} {event : Event} {rest : List Event}
    (absent : Event.tells? url event = none ∨ Event.tells? url event = some .null) :
    firstResponse url (event :: rest) = firstResponse url rest := by
  unfold firstResponse
  rcases absent with silent | unknown
  · rw [List.filterMap_cons_none silent]
  · rw [List.filterMap_cons_some unknown, List.find?_cons_of_neg (by simp [Json.isPresent])]

theorem Reply.transaction?_faithful {reply : Reply} {found : Json}
    (tells : reply.transaction? = some found) : Json.Faithful found := by
  unfold transaction? at tells
  split at tells
  · simp at tells
  · split at tells
    · obtain rfl := Option.some.inj tells
      exact .null
    · split at tells
      · simp at tells
      · split at tells
        · simp at tells
        · rename_i value reads
          split at tells
          · have held := (Json.read_faithful reads).fieldOr "tx_response"
            rwa [Json.fieldOr, tells] at held
          · obtain rfl := Option.some.inj tells
            exact .null

/-- A response is read from a reply. -/
theorem firstResponse_faithful {url : String} {events : List Event} {found : Json}
    (first : firstResponse url events = some found) : Json.Faithful found := by
  obtain ⟨event, -, tells⟩ := List.mem_filterMap.mp (List.mem_of_find?_eq_some first)
  unfold Event.tells? at tells
  split at tells
  · split at tells
    · exact Reply.transaction?_faithful tells
    · simp at tells
  · simp at tells

namespace Connection

variable {connection : Connection} {patience : Patience} {hash found : Json}
  {session after : Session}

/-- Where a transaction is looked up. -/
def transactionUrl (connection : Connection) (hash : Json) : String :=
  connection.settings.lcdUrl ++ ("/cosmos/tx/v1beta1/txs/" ++ hash.text)

theorem quiet_transaction (connection : Connection) (hash : Json) :
    Quiet (connection.transaction hash) :=
  connection.quiet_fetchField _ _

theorem quiet_poll (connection : Connection) (patience : Patience) (hash : Json) (limit : Nat)
    (waited : Binary64) : Quiet (connection.poll patience hash limit waited) := by
  induction limit generalizing waited with
  | zero => exact quiet_throw _
  | succ limit ih =>
      unfold poll
      apply (connection.quiet_transaction hash).bind
      intro found
      split
      · by_cases expired : patience.timeout.atMost (.real waited) = true
        · simp only [if_pos expired]
          exact quiet_of_finalState fun _ => rfl
        · simp only [if_neg expired]
          apply (quiet_pause _).bind
          intro _
          split
          · exact quiet_throw _
          · exact ih _
      · exact quiet_pure _

theorem quiet_confirm (connection : Connection) (patience : Patience) (hash : Json) :
    Quiet (connection.confirm patience hash) := by
  unfold confirm
  apply (connection.quiet_poll patience hash _ _).bind
  intro found
  apply (quiet_orFault _).bind
  intro members
  split
  · exact quiet_pure _
  · exact quiet_throw _

/-- A lookup gives what the reply tells. -/
theorem transaction_ok (asks : connection.transaction hash session = .ok found after) :
    ∃ reply, after = session.add (.request (connection.transactionUrl hash) reply) ∧
      reply.transaction? = some found := by
  unfold transaction fetchField at asks
  obtain ⟨value, between, fetches, asks⟩ := bind_ok_iff.mp asks
  obtain ⟨reply, ⟨held, told, works⟩ | ⟨-, cause, -, fails⟩⟩ :=
    connection.fetch_cases ("/cosmos/tx/v1beta1/txs/" ++ hash.text) session
  · obtain ⟨rfl, rfl⟩ := EStateM.Result.ok.inj (works.symm.trans fetches)
    refine ⟨reply, ?_⟩
    rw [Reply.transaction?_eq, told, Option.bind_some]
    by_cases truthy : held.isTruthy = true
    · rw [if_pos truthy] at asks ⊢
      obtain ⟨fields, rfl⟩ := orFault_ok.mp asks
      exact ⟨rfl, by rw [fields]; rfl⟩
    · rw [if_neg truthy] at asks ⊢
      obtain ⟨rfl, rfl⟩ := EStateM.Result.ok.inj asks
      exact ⟨rfl, rfl⟩
  · simp [fails] at fetches

/-- Waiting ends with the first response that the transaction is known. -/
theorem poll_ok {limit : Nat} {waited : Binary64}
    (waits : connection.poll patience hash limit waited session = .ok found after) :
    ∃ happened, after.events = session.events ++ happened ∧
      firstResponse (connection.transactionUrl hash) happened = some found := by
  induction limit generalizing waited session with
  | zero => simp [poll, throw_eq] at waits
  | succ limit ih =>
      unfold poll at waits
      obtain ⟨answer, between, asks, waits⟩ := bind_ok_iff.mp waits
      obtain ⟨reply, rfl, tells⟩ := transaction_ok asks
      have told : Event.tells? (connection.transactionUrl hash)
          (.request (connection.transactionUrl hash) reply) = some answer := by
        rw [Event.tells?, if_pos rfl, tells]
      cases answer with
      | null =>
          dsimp only at waits
          by_cases expired : patience.timeout.atMost (.real waited) = true
          · simp [if_pos expired, bind_of_error throw_eq] at waits
          rw [if_neg expired] at waits
          obtain ⟨⟨⟩, paused, pauses, waits⟩ := bind_ok_iff.mp waits
          obtain ⟨-, rfl⟩ := EStateM.Result.ok.inj pauses
          cases lengthens : patience.interval.toReal? with
          | none => simp [lengthens, throw_eq] at waits
          | some interval =>
              simp only [lengthens] at waits
              obtain ⟨happened, adds, first⟩ := ih waits
              refine ⟨.request (connection.transactionUrl hash) reply ::
                .pause patience.interval :: happened, by rw [adds]; simp [Session.add], ?_⟩
              rw [firstResponse_cons_of_absent (.inr told),
                firstResponse_cons_of_absent (.inl rfl), first]
      | _ =>
          obtain ⟨rfl, rfl⟩ := EStateM.Result.ok.inj waits
          refine ⟨[.request (connection.transactionUrl hash) reply], rfl, ?_⟩
          simp [firstResponse, told, Json.isPresent]

theorem confirm_ok {transaction : Members}
    (confirms : connection.confirm patience hash session = .ok transaction after) :
    ∃ happened response, after.events = session.events ++ happened ∧
      firstResponse (connection.transactionUrl hash) happened = some (.object response) ∧
      Accepted response ∧ transaction = Members.insertNew "txhash" hash response := by
  unfold confirm at confirms
  obtain ⟨found, between, waits, confirms⟩ := bind_ok_iff.mp confirms
  obtain ⟨happened, adds, first⟩ := poll_ok waits
  obtain ⟨response, later, takes, settles⟩ := bind_ok_iff.mp confirms
  obtain ⟨members, rfl⟩ := orFault_ok.mp takes
  obtain rfl := Json.eq_object_of_asMembers members
  by_cases accepted : Json.isAccepted response = true
  · rw [if_pos accepted] at settles
    obtain ⟨rfl, rfl⟩ := EStateM.Result.ok.inj settles
    exact ⟨happened, response, adds, first, isAccepted_iff.mp accepted, rfl⟩
  · simp [accepted, throw_eq] at settles

end Connection

end ContractRollout
