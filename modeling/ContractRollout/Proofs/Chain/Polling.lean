import ContractRollout.Proofs.Chain.Confirmation
import ContractRollout.Proofs.Json.Shapes
import ContractRollout.Proofs.Number.Integers

/-!
# How long a transaction is waited for

Lookups and pauses take turns. No pause starts once the timeout is reached, so their number is
the quotient of the timeout and the interval, rounded up. The time waited so far is a sum of
doubles; for integers of moderate size that sum is exact. The clock is a parameter that always
waits, so only the lengths of the pauses are counted.
-/

namespace ContractRollout

/-! ### The greatest number of pauses -/

/-- The number of pauses after which the timeout is reached. -/
def pauseLimit (timeout interval : Int) : Nat := (max 0 ⌈(timeout / interval : ℚ)⌉).toNat

section Limit

variable {timeout interval : Int}

/-- There is another pause exactly as long as the pauses so far do not reach the timeout. -/
theorem lt_pauseLimit_iff (positive : 0 < interval) {count : Nat} :
    count < pauseLimit timeout interval ↔ count * interval < timeout := by
  have scale : (0 : ℚ) < interval := by exact_mod_cast positive
  have quotient : ((count : Int) : ℚ) < timeout / interval ↔ (count * interval : Int) < timeout := by
    rw [lt_div_iff₀ scale]
    exact_mod_cast Iff.rfl
  rw [← quotient, ← Int.lt_ceil, pauseLimit]
  omega

theorem timeout_le_of_pauseLimit (positive : 0 < interval) :
    timeout ≤ pauseLimit timeout interval * interval :=
  not_lt.mp fun early => absurd ((lt_pauseLimit_iff positive).mpr early) (lt_irrefl _)

/-- The last pause starts before the timeout. -/
theorem pauseLimit_mul_lt (positive : 0 < interval) (bounded : 0 ≤ timeout) :
    pauseLimit timeout interval * interval < timeout + interval := by
  cases limit : pauseLimit timeout interval with
  | zero => simp; omega
  | succ count =>
      have before : count < pauseLimit timeout interval := by omega
      have early := (lt_pauseLimit_iff positive).mp before
      push_cast
      rw [add_mul, one_mul]
      omega

/-- The time waited stays in the range in which integers are doubles. -/
theorem waited_small (positive : 0 < interval) (small : |timeout| + interval < 2 ^ 53) {count : Nat}
    (within : count ≤ pauseLimit timeout interval) : count * interval < 2 ^ 53 := by
  cases count with
  | zero => simp
  | succ count =>
      have early := (lt_pauseLimit_iff positive).mp (Nat.lt_of_succ_le within)
      have bound := le_abs_self timeout
      push_cast
      rw [add_mul, one_mul]
      omega

theorem pauseLimit_lt_lookupLimit (positive : 0 < interval) :
    pauseLimit timeout interval < Patience.lookupLimit ⟨.integer timeout, .integer interval⟩ := by
  have scale : (0 : ℚ) < interval := by exact_mod_cast positive
  have ceiling : (timeout / interval : ℚ).ceil = ⌈(timeout / interval : ℚ)⌉ :=
    (Rat.ceil_eq_neg_floor_neg _).trans rfl
  simp only [Patience.lookupLimit, Number.extended, if_pos scale, ceiling, pauseLimit]
  omega

end Limit

/-! ### Lookups and pauses in turn -/

/-- The pauses of a session, in order. -/
def Session.pauses (session : Session) : List Number := session.events.filterMap Event.pause?

namespace Connection

/-- The reply to each lookup of a transaction from a session on. -/
def lookupReply (connection : Connection) (hash : Json) (session : Session) (count : Nat) : Reply :=
  connection.surroundings.lcd (connection.transactionUrl hash)
    (session.requests.count (connection.transactionUrl hash) + count)

/-- A session after some lookups of a transaction, each with a pause after it. -/
def paused (connection : Connection) (interval : Number) (hash : Json) (session : Session) :
    Nat → Session
  | 0 => session
  | count + 1 =>
      ((connection.paused interval hash session count).add
        (.request (connection.transactionUrl hash) (connection.lookupReply hash session count))).add
        (.pause interval)

/-- A session that ends with a lookup after some lookups with pauses. -/
def polled (connection : Connection) (interval : Number) (hash : Json) (session : Session)
    (pauses : Nat) : Session :=
  (connection.paused interval hash session pauses).add
    (.request (connection.transactionUrl hash) (connection.lookupReply hash session pauses))

variable {connection : Connection} {hash : Json} {session : Session} {reply : Reply}

theorem requests_paused (connection : Connection) (interval : Number) (hash : Json)
    (session : Session) (count : Nat) :
    (connection.paused interval hash session count).requests =
      session.requests ++ List.replicate count (connection.transactionUrl hash) := by
  induction count with
  | zero => simp [paused]
  | succ count ih =>
      have pause (session : Session) : (session.add (.pause interval)).requests = session.requests := by
        simp [Session.requests, Session.add, Event.url?]
      rw [paused, pause, Session.requests_request, ih, List.append_assoc, List.replicate_succ']

theorem requests_polled (connection : Connection) (interval : Number) (hash : Json)
    (session : Session) (pauses : Nat) :
    (connection.polled interval hash session pauses).requests =
      session.requests ++ List.replicate (pauses + 1) (connection.transactionUrl hash) := by
  rw [polled, Session.requests_request, requests_paused, List.append_assoc, List.replicate_succ']

theorem pauses_polled (connection : Connection) (interval : Number) (hash : Json)
    (session : Session) (pauses : Nat) :
    (connection.polled interval hash session pauses).pauses =
      session.pauses ++ List.replicate pauses interval := by
  have request (session : Session) (url : String) (reply : Reply) :
      (session.add (.request url reply)).pauses = session.pauses := by
    simp [Session.pauses, Session.add, Event.pause?]
  have pause (session : Session) :
      (session.add (.pause interval)).pauses = session.pauses ++ [interval] := by
    simp [Session.pauses, Session.add, Event.pause?]
  rw [polled, request]
  induction pauses with
  | zero => simp [paused]
  | succ count ih => rw [paused, pause, request, ih, List.append_assoc, List.replicate_succ']

/-- The next lookup gets the next reply. -/
theorem reply_paused (connection : Connection) (interval : Number) (hash : Json)
    (session : Session) (count : Nat) :
    connection.surroundings.reply (connection.paused interval hash session count)
        (connection.transactionUrl hash) = connection.lookupReply hash session count := by
  rw [Surroundings.reply, requests_paused, List.count_append, List.count_replicate_self, lookupReply]

/-! ### One lookup -/

theorem transaction_of_told {found : Json} (told : reply.transaction? = some found)
    (replied : connection.surroundings.reply session (connection.transactionUrl hash) = reply) :
    connection.transaction hash session =
      .ok found (session.add (.request (connection.transactionUrl hash) reply)) := by
  rw [Reply.transaction?_eq] at told
  unfold transaction fetchField
  rcases connection.fetch_reply _ session replied with ⟨value, held, fetches⟩ | ⟨silent, -⟩
  · rw [held, Option.bind_some] at told
    rw [bind_of_ok fetches]
    by_cases truthy : value.isTruthy = true
    · rw [if_pos truthy] at told ⊢
      rw [toOption_eq_some.mp told]
      rfl
    · rw [if_neg truthy] at told ⊢
      obtain rfl := Option.some.inj told
      rfl
  · simp [silent] at told

theorem transaction_of_unheard (silent : reply.value? = none)
    (replied : connection.surroundings.reply session (connection.transactionUrl hash) = reply) :
    ∃ cause, DeploymentCause.isUnheard cause = true ∧ connection.transaction hash session =
      .error (.deployment cause) (session.add (.request (connection.transactionUrl hash) reply)) := by
  unfold transaction fetchField
  rcases connection.fetch_reply _ session replied with ⟨value, held, -⟩ | ⟨-, cause, unheard, fails⟩
  · simp [silent] at held
  · exact ⟨cause, unheard, bind_of_error fails⟩

/-! ### The loop -/

section Loop

variable {timeout : Int} {pace waited limit count : Nat}

/-- A lookup in vain before the timeout is followed by a pause, and waiting goes on. -/
theorem poll_of_absent (moves : 0 < pace) (early : waited < timeout) (small : waited + pace < 2 ^ 53)
    (absent : reply.transaction? = some .null)
    (replied : connection.surroundings.reply session (connection.transactionUrl hash) = reply) :
    connection.poll ⟨.integer timeout, .integer pace⟩ hash (limit + 1) (.ofInt waited) session =
      connection.poll ⟨.integer timeout, .integer pace⟩ hash limit (.ofInt (waited + pace : Nat))
        ((session.add (.request (connection.transactionUrl hash) reply)).add
          (.pause (.integer pace))) := by
  have unexpired : ¬ (Number.integer timeout).atMost (.real (.ofInt waited)) = true := by
    rw [Number.atMost_ofInt timeout (by omega)]
    simpa using early
  rw [poll, bind_of_ok (transaction_of_told absent replied)]
  dsimp only
  rw [if_neg unexpired, Number.toReal?_natural (by omega)]
  dsimp only
  rw [Binary64.add_ofInt small moves]
  rfl

theorem poll_of_expired (late : timeout ≤ waited) (small : waited < 2 ^ 53)
    (absent : reply.transaction? = some .null)
    (replied : connection.surroundings.reply session (connection.transactionUrl hash) = reply)
    (interval : Number) :
    connection.poll ⟨.integer timeout, interval⟩ hash (limit + 1) (.ofInt waited) session =
      .error (.deployment (.transactionUnconfirmed hash (.integer timeout)))
        (session.add (.request (connection.transactionUrl hash) reply)) := by
  have expired : (Number.integer timeout).atMost (.real (.ofInt waited)) = true := by
    rw [Number.atMost_ofInt timeout small]
    simpa using late
  rw [poll, bind_of_ok (transaction_of_told absent replied)]
  dsimp only
  rw [if_pos expired]
  rfl

/-- Waiting comes to every lookup that has only lookups in vain before it, up to the last one. -/
theorem poll_paused (moves : 0 < pace) (small : |timeout| + pace < 2 ^ 53)
    (within : count ≤ pauseLimit timeout pace)
    (absent : ∀ earlier < count,
      (connection.lookupReply hash session earlier).transaction? = some .null) (limit : Nat) :
    connection.poll ⟨.integer timeout, .integer pace⟩ hash (limit + count) (.zero false) session =
      connection.poll ⟨.integer timeout, .integer pace⟩ hash limit (.ofInt (count * pace : Nat))
        (connection.paused (.integer pace) hash session count) := by
  have positive : (0 : Int) < pace := by exact_mod_cast moves
  induction count generalizing limit with
  | zero => rw [Nat.zero_mul]; rfl
  | succ count ih =>
      have before : count ≤ pauseLimit timeout pace := by omega
      have early := (lt_pauseLimit_iff positive).mp (Nat.lt_of_succ_le within)
      have fits := waited_small positive small within
      have shifted : limit + (count + 1) = limit + 1 + count := by omega
      rw [shifted, ih before (fun earlier less => absent earlier (by omega)), paused,
        poll_of_absent moves (by exact_mod_cast early) (by rw [← Nat.succ_mul]; exact_mod_cast fits)
          (absent count (by omega)) (connection.reply_paused _ hash session count), Nat.succ_mul]

end Loop

section Ends

variable {timeout interval : Int} {count : Nat} {response : Members}

/-- Waiting starts with lookups in vain and has at least one more lookup after them. -/
theorem poll_reaches (positive : 0 < interval) (small : |timeout| + interval < 2 ^ 53)
    (within : count ≤ pauseLimit timeout interval)
    (absent : ∀ earlier < count,
      (connection.lookupReply hash session earlier).transaction? = some .null) :
    ∃ limit waited : Nat, (waited : Int) = count * interval ∧ waited < 2 ^ 53 ∧
      connection.poll ⟨.integer timeout, .integer interval⟩ hash
          (Patience.lookupLimit ⟨.integer timeout, .integer interval⟩) (.zero false) session =
        connection.poll ⟨.integer timeout, .integer interval⟩ hash (limit + 1) (.ofInt waited)
          (connection.paused (.integer interval) hash session count) := by
  obtain ⟨pace, rfl⟩ := Int.eq_ofNat_of_zero_le positive.le
  have fits := waited_small positive small within
  have enough : pauseLimit timeout pace < Patience.lookupLimit ⟨.integer timeout, .integer pace⟩ :=
    pauseLimit_lt_lookupLimit positive
  obtain ⟨limit, split⟩ : ∃ limit,
      Patience.lookupLimit ⟨.integer timeout, .integer pace⟩ = limit + 1 + count :=
    ⟨Patience.lookupLimit ⟨.integer timeout, .integer pace⟩ - (count + 1), by omega⟩
  refine ⟨limit, count * pace, by push_cast; rfl, by exact_mod_cast fits, ?_⟩
  rw [split]
  exact poll_paused (by exact_mod_cast positive) small within absent (limit + 1)

/-- A response that has come is settled by its code. -/
theorem confirm_of_poll {patience : Patience} {later : Session}
    (waits : connection.poll patience hash patience.lookupLimit (.zero false) session =
      .ok (.object response) later) :
    connection.confirm patience hash session =
      if Json.isAccepted response then .ok (response.insertNew "txhash" hash) later
      else .error (.deployment (.transactionFailed hash (response.value "raw_log"))) later := by
  have takes : (orFault (Json.object response).asMembers : ChainAction Members) later =
      .ok response later :=
    rfl
  rw [confirm, bind_of_ok waits, bind_of_ok takes]
  split <;> rfl

theorem confirm_of_known (positive : 0 < interval) (small : |timeout| + interval < 2 ^ 53)
    (within : count ≤ pauseLimit timeout interval)
    (absent : ∀ earlier < count,
      (connection.lookupReply hash session earlier).transaction? = some .null)
    (known : (connection.lookupReply hash session count).transaction? = some (.object response)) :
    connection.confirm ⟨.integer timeout, .integer interval⟩ hash session =
      if Json.isAccepted response then
        .ok (response.insertNew "txhash" hash)
          (connection.polled (.integer interval) hash session count)
      else .error (.deployment (.transactionFailed hash (response.value "raw_log")))
        (connection.polled (.integer interval) hash session count) := by
  obtain ⟨limit, waited, -, -, reaches⟩ := poll_reaches positive small within absent
  apply confirm_of_poll
  rw [reaches, poll,
    bind_of_ok (transaction_of_told known (connection.reply_paused _ hash session count))]
  rfl

theorem confirm_of_unheard (positive : 0 < interval) (small : |timeout| + interval < 2 ^ 53)
    (within : count ≤ pauseLimit timeout interval)
    (absent : ∀ earlier < count,
      (connection.lookupReply hash session earlier).transaction? = some .null)
    (silent : (connection.lookupReply hash session count).value? = none) :
    ∃ cause, DeploymentCause.isUnheard cause = true ∧
      connection.confirm ⟨.integer timeout, .integer interval⟩ hash session =
        .error (.deployment cause) (connection.polled (.integer interval) hash session count) := by
  obtain ⟨limit, waited, -, -, reaches⟩ := poll_reaches positive small within absent
  obtain ⟨cause, unheard, fails⟩ :=
    transaction_of_unheard silent (connection.reply_paused (.integer interval) hash session count)
  refine ⟨cause, unheard, ?_⟩
  rw [confirm, bind_of_error]
  rw [reaches, poll, bind_of_error fails]
  rfl

theorem confirm_of_absent (positive : 0 < interval) (small : |timeout| + interval < 2 ^ 53)
    (absent : ∀ earlier ≤ pauseLimit timeout interval,
      (connection.lookupReply hash session earlier).transaction? = some .null) :
    connection.confirm ⟨.integer timeout, .integer interval⟩ hash session =
      .error (.deployment (.transactionUnconfirmed hash (.integer timeout)))
        (connection.polled (.integer interval) hash session (pauseLimit timeout interval)) := by
  obtain ⟨limit, waited, waits, fits, reaches⟩ :=
    poll_reaches positive small le_rfl fun earlier less => absent earlier less.le
  have late : timeout ≤ waited := waits ▸ timeout_le_of_pauseLimit positive
  rw [confirm, bind_of_error]
  rw [reaches, poll_of_expired late fits (absent _ le_rfl)
    (connection.reply_paused _ hash session _)]
  rfl

end Ends

end Connection

/-! ### Replies of a known shape -/

/-- Whether the value in a reply is of a shape, if there is one. -/
def Reply.carries (shape : Json → Bool) (reply : Reply) : Bool := reply.value?.all shape

/-- What a lookup of a transaction is answered with: nothing, or an object with nothing or with an
object of a shape as the response. -/
def Json.answersTransaction (shape : Members → Bool) : Json → Bool :=
  isOptional (isObjectWith fun answer =>
    (answer.value "tx_response").isOptional (isObjectWith shape))

theorem Reply.transaction?_cases {shape : Members → Bool} {reply : Reply}
    (shaped : reply.carries (Json.answersTransaction shape) = true) :
    reply.transaction? = some .null ∨ reply.value? = none ∨
      ∃ response, reply.transaction? = some (.object response) ∧ shape response = true := by
  rw [carries] at shaped
  rw [transaction?_eq]
  cases held : reply.value? with
  | none => exact .inr (.inl rfl)
  | some value =>
      rw [held, Option.all_some] at shaped
      rw [Option.bind_some]
      by_cases truthy : value.isTruthy = true
      · rw [if_pos truthy]
        rcases Json.isOptional_iff.mp shaped with rfl | answers
        · simp [Json.isTruthy] at truthy
        · obtain ⟨answer, rfl, fits⟩ := Json.isObjectWith_iff.mp answers
          rw [Json.field_object]
          rcases Json.isOptional_iff.mp fits with absent | present
          · exact .inl (by rw [absent]; rfl)
          · obtain ⟨response, is, fits⟩ := Json.isObjectWith_iff.mp present
            exact .inr (.inr ⟨response, by rw [is]; rfl, fits⟩)
      · rw [if_neg truthy]
        exact .inl rfl

namespace Connection

variable {connection : Connection} {hash : Json} {session : Session} {timeout interval : Int}

/-- Waiting always comes to an end: with a response that is accepted, or with a deployment
fault. -/
theorem confirm_ends {shape : Members → Bool} (positive : 0 < interval)
    (small : |timeout| + interval < 2 ^ 53)
    (shaped : ∀ count, (connection.lookupReply hash session count).carries
      (Json.answersTransaction shape) = true) :
    ∃ pauses ≤ pauseLimit timeout interval,
      (∃ response, shape response = true ∧
        connection.confirm ⟨.integer timeout, .integer interval⟩ hash session =
          .ok (response.insertNew "txhash" hash)
            (connection.polled (.integer interval) hash session pauses)) ∨
      ∃ cause, connection.confirm ⟨.integer timeout, .integer interval⟩ hash session =
        .error (.deployment cause) (connection.polled (.integer interval) hash session pauses) := by
  classical
  by_cases heard : ∃ count ≤ pauseLimit timeout interval,
      (connection.lookupReply hash session count).transaction? ≠ some .null
  · -- The first lookup that is not in vain decides.
    obtain ⟨within, told⟩ := Nat.find_spec heard
    have absent : ∀ earlier < Nat.find heard,
        (connection.lookupReply hash session earlier).transaction? = some .null := by
      intro earlier before
      by_contra other
      exact Nat.find_min heard before ⟨by omega, other⟩
    refine ⟨Nat.find heard, within, ?_⟩
    rcases Reply.transaction?_cases (shaped (Nat.find heard)) with
      unknown | silent | ⟨response, known, fits⟩
    · exact absurd unknown told
    · obtain ⟨cause, -, fails⟩ := confirm_of_unheard positive small within absent silent
      exact .inr ⟨cause, fails⟩
    · have settles := confirm_of_known positive small within absent known
      by_cases accepted : Json.isAccepted response = true
      · rw [if_pos accepted] at settles
        exact .inl ⟨response, fits, settles⟩
      · rw [if_neg accepted] at settles
        exact .inr ⟨_, settles⟩
  · push Not at heard
    exact ⟨_, le_rfl, .inr ⟨_, confirm_of_absent positive small heard⟩⟩

/-- A transaction is looked up once more than there are pauses. Lookups in vain are followed by a
pause each, and the first other one decides: a response is given if it is accepted and is a fault
if not, and a request that tells nothing is a fault at once. If no lookup up to the one at the
timeout tells of the transaction, it counts as unconfirmed. The pauses last until the timeout at
least, and for less than one interval more. -/
theorem confirm_polls (connection : Connection) (hash : Json) (session : Session)
    {timeout interval : Int} (positive : 0 < interval) (small : |timeout| + interval < 2 ^ 53)
    (shaped : ∀ count, (connection.lookupReply hash session count).carries
      (Json.answersTransaction fun _ => true) = true) :
    let limit : Nat := (max 0 ⌈(timeout / interval : ℚ)⌉).toNat
    let reply := connection.lookupReply hash session
    let outcome := connection.confirm ⟨.integer timeout, .integer interval⟩ hash session
    let after := connection.polled (.integer interval) hash session
    (∀ count ≤ limit, (∀ earlier < count, (reply earlier).transaction? = some .null) →
      (∀ response : Members, (reply count).transaction? = some (.object response) →
        (Accepted response → outcome = .ok (response.insertNew "txhash" hash) (after count)) ∧
        (¬ Accepted response → outcome =
          .error (.deployment (.transactionFailed hash (response.value "raw_log")))
            (after count))) ∧
      ((reply count).value? = none → ∃ cause, DeploymentCause.isUnheard cause = true ∧
        outcome = .error (.deployment cause) (after count))) ∧
    ((∀ count ≤ limit, (reply count).transaction? = some .null) →
      outcome = .error (.deployment (.transactionUnconfirmed hash (.integer timeout)))
        (after limit)) ∧
    (∀ count, (after count).requests =
        session.requests ++ List.replicate (count + 1) (connection.transactionUrl hash) ∧
      (after count).pauses = session.pauses ++ List.replicate count (.integer interval)) ∧
    timeout ≤ limit * interval ∧ (0 ≤ timeout → limit * interval < timeout + interval) ∧
    ∃ count ≤ limit, (∃ transaction, outcome = .ok transaction (after count)) ∨
      ∃ cause, outcome = .error (.deployment cause) (after count) := by
  dsimp only
  refine ⟨?_, confirm_of_absent positive small, ?_, timeout_le_of_pauseLimit positive,
    pauseLimit_mul_lt positive, ?_⟩
  · intro count within absent
    refine ⟨?_, confirm_of_unheard positive small within absent⟩
    intro response known
    have settles := confirm_of_known positive small within absent known
    constructor
    · intro accepted
      rwa [if_pos (isAccepted_iff.mpr accepted)] at settles
    · intro refused
      rwa [if_neg (mt isAccepted_iff.mp refused)] at settles
  · exact fun count => ⟨requests_polled .., pauses_polled ..⟩
  · obtain ⟨pauses, within, ⟨response, -, works⟩ | ⟨cause, fails⟩⟩ :=
      confirm_ends positive small shaped
    · exact ⟨pauses, within, .inl ⟨_, works⟩⟩
    · exact ⟨pauses, within, .inr ⟨cause, fails⟩⟩

/-- The reply to a lookup of a transaction that is accepted. -/
def acceptedReply : Reply := .answered 200 "\x7b\"tx_response\":\x7b\"code\":0\x7d\x7d"

/-- A chain that knows every transaction from the third lookup on. -/
def slowChain : Surroundings where
  lcd _ count := if count < 2 then .answered 404 "" else acceptedReply
  cli _ := .notFound

/-- With a timeout of five seconds the third lookup comes after two pauses of two seconds. -/
theorem confirm_polls_third_lookup :
    let connection : Connection := ⟨{ lcdUrl := "lcd", walletKey := "deployer" }, slowChain⟩
    (0 : Int) < 2 ∧ |(5 : Int)| + 2 < 2 ^ 53 ∧
    (∀ count, (connection.lookupReply (.string "A") {} count).carries
      (Json.answersTransaction fun _ => true) = true) ∧
    ∃ transaction later,
      connection.confirm ⟨.integer 5, .integer 2⟩ (.string "A") {} = .ok transaction later ∧
      later.requests = List.replicate 3 (connection.transactionUrl (.string "A")) ∧
      later.pauses = [.integer 2, .integer 2] := by
  intro connection
  have replied (count : Nat) : connection.lookupReply (.string "A") {} count =
      if count < 2 then .answered 404 "" else acceptedReply := by
    simp [connection, lookupReply, slowChain, Session.requests]
  have fits : acceptedReply.carries (Json.answersTransaction fun _ => true) = true := by
    decide +kernel
  have shaped (count : Nat) : (connection.lookupReply (.string "A") {} count).carries
      (Json.answersTransaction fun _ => true) = true := by
    rw [replied]
    split
    · rfl
    · exact fits
  have accepted : acceptedReply.transaction?.any (Json.isObjectWith Json.isAccepted) = true := by
    decide +kernel
  obtain ⟨_, known, isObject⟩ := (Option.any_eq_true ..).mp accepted
  obtain ⟨response, rfl, accepted⟩ := Json.isObjectWith_iff.mp isObject
  have ceiling : ⌈((5 : Int) / (2 : Int) : ℚ)⌉ = 3 := by norm_num
  have small : |(5 : Int)| + 2 < 2 ^ 53 := by norm_num
  obtain ⟨decides, -, ends, -⟩ :=
    confirm_polls connection (.string "A") {} (by norm_num) small shaped
  have settles := (decides 2 (by rw [ceiling]; decide) (fun earlier less => by
    rw [replied, if_pos less]; rfl)).1 response (by rw [replied]; exact known)
  exact ⟨by norm_num, small, shaped, _, _, settles.1 (isAccepted_iff.mp accepted), (ends 2).1,
    (ends 2).2⟩

end Connection

end ContractRollout
