import ContractRollout.Chain.Client
import ContractRollout.Proofs.Outcomes

/-!
# What sessions record

A part of a session adds events to those before it and takes none away. Most parts send
requests, pause or print but issue no command of the node.
-/

namespace ContractRollout

variable {α β : Type}

/-- The commands among some events, in order. -/
def commands (events : List Event) : List (List Json) := events.filterMap Event.arguments?

@[simp]
theorem commands_append (early late : List Event) :
    commands (early ++ late) = commands early ++ commands late :=
  List.filterMap_append

theorem mem_commands_iff {events : List Event} {command : List Json} :
    command ∈ commands events ↔ ∃ outcome, .command command outcome ∈ events := by
  unfold commands
  rw [List.mem_filterMap]
  constructor
  · rintro ⟨event, member, found⟩
    cases event with
    | command arguments outcome =>
        obtain rfl : arguments = command := Option.some.inj found
        exact ⟨outcome, member⟩
    | request | pause | line => simp [Event.arguments?] at found
  · rintro ⟨outcome, member⟩
    exact ⟨_, member, rfl⟩

theorem commands_cons (arguments : List Json) (outcome : CommandOutcome) (late : List Event) :
    commands (.command arguments outcome :: late) = arguments :: commands late :=
  rfl

theorem exists_of_commands {happened : List Event} {command : List Json}
    (issued : commands happened = [command]) :
    ∃ early outcome late, happened = early ++ .command command outcome :: late ∧
      commands early = [] ∧ commands late = [] := by
  obtain ⟨early, event, late, rfl, silent, found, rest⟩ := List.filterMap_eq_cons_iff.mp issued
  cases event with
  | command arguments outcome =>
      obtain rfl : arguments = command := Option.some.inj found
      exact ⟨early, outcome, late, rfl, List.filterMap_eq_nil_iff.mpr silent, rest⟩
  | request | pause | line => simp [Event.arguments?] at found

/-- Whatever comes of an action, it only adds events, and the commands among them are as
they may be. -/
def Issues (allowed : List (List Json) → Prop) (action : ChainAction α) : Prop :=
  ∀ session, ∃ happened, (finalState (action session)).events = session.events ++ happened ∧
    allowed (commands happened)

/-- An action that issues no command. -/
def Quiet (action : ChainAction α) : Prop := Issues (· = []) action

variable {allowed wider : List (List Json) → Prop} {first : ChainAction α}
  {next : α → ChainAction β} {session : Session}

theorem Issues.weaken {action : ChainAction α} (issues : Issues allowed action)
    (included : ∀ commands, allowed commands → wider commands) : Issues wider action := by
  intro session
  obtain ⟨happened, adds, fits⟩ := issues session
  exact ⟨happened, adds, included _ fits⟩

theorem Issues.bind (issues : Issues allowed first) (each : ∀ value, Quiet (next value)) :
    Issues allowed (first >>= next) := by
  intro session
  obtain ⟨early, adds, fits⟩ := issues session
  cases result : first session with
  | error fault between =>
      rw [bind_of_error result]
      rw [result] at adds
      exact ⟨early, adds, fits⟩
  | ok value between =>
      rw [bind_of_ok result]
      rw [result, finalState_ok] at adds
      obtain ⟨late, addsMore, silent⟩ := each value between
      refine ⟨early ++ late, by rw [addsMore, adds, List.append_assoc], ?_⟩
      rwa [commands_append, silent, List.append_nil]

theorem Quiet.bind_issues (quiet : Quiet first) (nothing : allowed [])
    (each : ∀ value, Issues allowed (next value)) : Issues allowed (first >>= next) := by
  intro session
  obtain ⟨early, adds, silent⟩ := quiet session
  cases result : first session with
  | error fault between =>
      rw [bind_of_error result]
      rw [result] at adds
      exact ⟨early, adds, by rwa [silent]⟩
  | ok value between =>
      rw [bind_of_ok result]
      rw [result, finalState_ok] at adds
      obtain ⟨late, addsMore, fits⟩ := each value between
      refine ⟨early ++ late, by rw [addsMore, adds, List.append_assoc], ?_⟩
      rwa [commands_append, silent, List.nil_append]

theorem Quiet.bind (quiet : Quiet first) (each : ∀ value, Quiet (next value)) :
    Quiet (first >>= next) :=
  Issues.bind quiet each

theorem Quiet.ok {action : ChainAction α} (quiet : Quiet action) {value : α} {later : Session}
    (result : action session = .ok value later) :
    ∃ happened, later.events = session.events ++ happened ∧ commands happened = [] := by
  obtain ⟨happened, adds, silent⟩ := quiet session
  rw [result, finalState_ok] at adds
  exact ⟨happened, adds, silent⟩

/-- An action that ends in the session that it starts in. -/
theorem quiet_of_finalState {action : ChainAction α}
    (same : ∀ session, (finalState (action session)).events = session.events) : Quiet action :=
  fun session => ⟨[], by rw [same, List.append_nil], rfl⟩

theorem quiet_pure (value : α) : Quiet (pure value : ChainAction α) :=
  quiet_of_finalState fun _ => rfl

theorem quiet_throw (fault : Fault) : Quiet (throw fault : ChainAction α) :=
  quiet_of_finalState fun _ => rfl

theorem quiet_get : Quiet (get : ChainAction Session) := quiet_of_finalState fun _ => rfl

theorem quiet_orFault (outcome : Except Fault α) : Quiet (orFault outcome : ChainAction α) := by
  cases outcome with
  | ok value => exact quiet_pure value
  | error fault => exact quiet_throw fault

theorem orFault_ok {outcome : Except Fault α} {value : α} {later : Session} :
    (orFault outcome : ChainAction α) session = .ok value later ↔
      outcome = .ok value ∧ session = later := by
  cases outcome <;>
    simp [orFault, pure, EStateM.pure, throw, throwThe, MonadExceptOf.throw, EStateM.throw]

theorem orFault_error {outcome : Except Fault α} {fault : Fault} {later : Session} :
    (orFault outcome : ChainAction α) session = .error fault later ↔
      outcome = .error fault ∧ session = later := by
  cases outcome <;>
    simp [orFault, pure, EStateM.pure, throw, throwThe, MonadExceptOf.throw, EStateM.throw]

/-! ### One event -/

theorem issues_modify_add (event : Event) :
    Issues (· = commands [event]) (modify (·.add event) : ChainAction Unit) :=
  fun _ => ⟨[event], rfl, rfl⟩

theorem quiet_pause (length : Number) : Quiet (pause length) := issues_modify_add (.pause length)

theorem quiet_printLine (text : String) : Quiet (printLine text) := issues_modify_add (.line text)

theorem printLine_eq (text : String) (session : Session) :
    printLine text session = .ok () (session.add (.line text)) :=
  rfl

/-- The requests of a session, in order. -/
def Session.requests (session : Session) : List String := session.events.filterMap Event.url?

theorem Session.requests_request (session : Session) (url : String) (reply : Reply) :
    (session.add (.request url reply)).requests = session.requests ++ [url] := by
  simp [requests, add, Event.url?]

@[simp]
theorem Session.requests_line (session : Session) (text : String) :
    (session.add (.line text)).requests = session.requests := by
  simp [requests, add, Event.url?]

theorem countP_isRequestFor (events : List Event) (url : String) :
    events.countP (·.isRequestFor url) = (events.filterMap Event.url?).count url := by
  rw [List.count, List.countP_filterMap]
  apply List.countP_congr
  intro event _
  cases event <;> simp [Event.isRequestFor, Event.url?]

/-- The reply that a request for a URL gets in a session. -/
def Surroundings.reply (surroundings : Surroundings) (session : Session) (url : String) : Reply :=
  surroundings.lcd url (session.requests.count url)

theorem sendRequest_eq (surroundings : Surroundings) (url : String) (session : Session) :
    sendRequest surroundings url session =
      .ok (surroundings.reply session url)
        (session.add (.request url (surroundings.reply session url))) := by
  simp only [sendRequest, bind, EStateM.bind, get, getThe, MonadStateOf.get, EStateM.get,
    countP_isRequestFor, modify, modifyGet, MonadStateOf.modifyGet, EStateM.modifyGet, pure,
    EStateM.pure]
  rfl

theorem quiet_sendRequest (surroundings : Surroundings) (url : String) :
    Quiet (sendRequest surroundings url) :=
  fun _ => ⟨[.request url _], rfl, rfl⟩

theorem runCommand_eq (surroundings : Surroundings) (arguments : List Json) (session : Session) :
    ∃ outcome, runCommand surroundings arguments session =
      .ok outcome (session.add (.command arguments outcome)) :=
  ⟨_, rfl⟩

theorem runCommand_ok {surroundings : Surroundings} {arguments : List Json}
    {outcome : CommandOutcome} {later : Session}
    (runs : runCommand surroundings arguments session = .ok outcome later) :
    later = session.add (.command arguments outcome) := by
  obtain ⟨rfl, rfl⟩ := EStateM.Result.ok.inj runs
  rfl

theorem issues_runCommand (surroundings : Surroundings) (arguments : List Json) :
    Issues (· = [arguments]) (runCommand surroundings arguments) :=
  fun _ => ⟨[.command arguments _], rfl, rfl⟩

/-! ### Requests -/

/-- The value in a reply: null if there is nothing, and none if the reply is an error or cannot
be read. -/
def Reply.value? : Reply → Option Json
  | failed _ => none
  | answered status body =>
      if status = 404 then some .null
      else if 400 ≤ status ∧ status < 600 then none
      else (Json.read body.toList).toOption

/-- A request that gave no value. -/
def DeploymentCause.isUnheard : DeploymentCause → Bool
  | requestFailed .. | requestRefused .. | answerUnreadable .. => true
  | _ => false

namespace Connection

/-- Fetching sends one request and goes by its reply. -/
theorem fetch_reply (connection : Connection) (path : String) (session : Session) {reply : Reply}
    (replied : connection.surroundings.reply session (connection.settings.lcdUrl ++ path) = reply) :
    (∃ value, reply.value? = some value ∧ connection.fetch path session =
      .ok value (session.add (.request (connection.settings.lcdUrl ++ path) reply))) ∨
    (reply.value? = none ∧ ∃ cause, DeploymentCause.isUnheard cause = true ∧
      connection.fetch path session = .error (.deployment cause)
        (session.add (.request (connection.settings.lcdUrl ++ path) reply))) := by
  have sends :=
    sendRequest_eq connection.surroundings (connection.settings.lcdUrl ++ path) session
  rw [replied] at sends
  unfold fetch
  rw [bind_of_ok sends]
  cases reply with
  | failed reason => exact .inr ⟨rfl, _, rfl, rfl⟩
  | answered status body =>
      unfold Reply.value?
      dsimp only
      by_cases missing : status = 404
      · rw [if_pos missing, if_pos missing]
        exact .inl ⟨.null, rfl, rfl⟩
      rw [if_neg missing, if_neg missing]
      by_cases refused : 400 ≤ status ∧ status < 600
      · rw [if_pos refused, if_pos refused]
        exact .inr ⟨rfl, _, rfl, rfl⟩
      rw [if_neg refused, if_neg refused]
      cases Json.read body.toList with
      | error error => exact .inr ⟨rfl, _, rfl, rfl⟩
      | ok value => exact .inl ⟨value, rfl, rfl⟩

theorem fetch_cases (connection : Connection) (path : String) (session : Session) :
    ∃ reply,
      (∃ value, reply.value? = some value ∧ connection.fetch path session =
        .ok value (session.add (.request (connection.settings.lcdUrl ++ path) reply))) ∨
      (reply.value? = none ∧ ∃ cause, DeploymentCause.isUnheard cause = true ∧
        connection.fetch path session = .error (.deployment cause)
          (session.add (.request (connection.settings.lcdUrl ++ path) reply))) :=
  ⟨_, connection.fetch_reply path session rfl⟩

theorem quiet_fetch (connection : Connection) (path : String) :
    Quiet (connection.fetch path) := by
  unfold fetch
  apply (quiet_sendRequest connection.surroundings (connection.settings.lcdUrl ++ path)).bind
  intro reply
  cases reply with
  | failed reason => exact quiet_throw _
  | answered status body =>
      dsimp only
      split
      · exact quiet_pure _
      · split
        · exact quiet_throw _
        · split
          · exact quiet_pure _
          · exact quiet_throw _

theorem quiet_fetchField (connection : Connection) (path key : String) :
    Quiet (connection.fetchField path key) := by
  unfold fetchField
  apply (connection.quiet_fetch path).bind
  intro value
  split
  · exact quiet_orFault _
  · exact quiet_pure _

theorem quiet_chainId (connection : Connection) : Quiet connection.chainId := by
  unfold chainId
  apply quiet_get.bind
  intro session
  split
  · exact quiet_pure _
  · apply (connection.quiet_fetch _).bind
    intro info
    apply (quiet_orFault _).bind
    intro network
    split
    · apply Quiet.bind (quiet_of_finalState fun _ => rfl)
      intro _
      exact quiet_pure _
    · exact quiet_throw _

end Connection

end ContractRollout
