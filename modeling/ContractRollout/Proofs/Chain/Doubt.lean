import ContractRollout.Proofs.Chain.Deployment

/-!
# Instantiations in doubt

A transaction that the command line has accepted can take effect whatever is heard of it later.
A deployment that fails in a reported way after its instantiation was accepted has been told
that the transaction failed, or it leaves open what became of it: a lookup went unheard, the
waiting was given up, or the transaction told no address.
-/

namespace ContractRollout

/-! ### Values of an unexpected shape -/

/-- A computation that does not end in a reported fault. -/
def Unreported {α : Type} (outcome : Except Fault α) : Prop :=
  ∀ fault, outcome = .error fault → fault.isReported = false

section

variable {α β : Type}

theorem unreported_ok (value : α) : Unreported (.ok value) := by
  simp [Unreported]

theorem unreported_error {fault : Fault} (passes : fault.isReported = false) :
    Unreported (.error fault : Except Fault α) := by
  rintro _ ⟨⟩
  exact passes

theorem Unreported.bind {first : Except Fault α} {next : α → Except Fault β}
    (early : Unreported first) (late : ∀ value, Unreported (next value)) :
    Unreported (first >>= next) := by
  cases first with
  | ok value => exact late value
  | error fault => exact unreported_error (early fault rfl)

end

namespace Json

theorem unreported_asMembers (value : Json) : Unreported value.asMembers := by
  cases value with
  | object members => exact unreported_ok members
  | _ => exact unreported_error rfl

theorem unreported_field (value : Json) (key : String) : Unreported (value.field key) := by
  cases value with
  | object members => exact unreported_ok _
  | _ => exact unreported_error rfl

theorem unreported_elements (value : Json) : Unreported value.elements := by
  cases value with
  | array | object | string => exact unreported_ok _
  | null | bool | number | foreign => exact unreported_error rfl

theorem unreported_fieldElements (value : Json) (key : String) :
    Unreported (value.fieldElements key) := by
  unfold fieldElements
  apply (value.unreported_field key).bind
  intro held
  split
  · exact held.unreported_elements
  · exact unreported_ok []

theorem unreported_mapM {α : Type} {action : Json → Except Fault α}
    (each : ∀ value, Unreported (action value)) (values : List Json) :
    Unreported (values.mapM action) := by
  induction values with
  | nil => exact unreported_ok []
  | cons value rest ih =>
      rw [List.mapM_cons]
      apply (each value).bind
      intro first
      apply ih.bind
      intro others
      exact unreported_ok _

theorem unreported_events (transaction : Json) : Unreported transaction.events := by
  unfold events
  apply (transaction.unreported_fieldElements "events").bind
  intro own
  apply (transaction.unreported_fieldElements "logs").bind
  intro logs
  apply (unreported_mapM (fun log => log.unreported_fieldElements "events") logs).bind
  intro logged
  exact unreported_ok _

theorem unreported_findAttribute (key : Json) (candidates : List Json) :
    Unreported (findAttribute key candidates) := by
  induction candidates with
  | nil => exact unreported_ok none
  | cons candidate rest ih =>
      unfold findAttribute
      apply (candidate.unreported_field "key").bind
      intro name
      by_cases same : name.same key = true
      · simp only [if_pos same]
        apply (candidate.unreported_field "value").bind
        intro value
        split
        · exact unreported_ok _
        · exact ih
      · simp only [if_neg same]
        exact ih

theorem unreported_findInEvents (type key : Json) (events : List Json) :
    Unreported (findInEvents type key events) := by
  induction events with
  | nil => exact unreported_ok none
  | cons event rest ih =>
      unfold findInEvents
      apply (event.unreported_field "type").bind
      intro found
      split
      · apply (event.unreported_fieldElements "attributes").bind
        intro attributes
        apply (unreported_findAttribute key attributes).bind
        intro value
        cases value with
        | some value => exact unreported_ok _
        | none => exact ih
      · exact ih

theorem unreported_eventAttribute (transaction type key : Json) :
    Unreported (transaction.eventAttribute type key) := by
  unfold eventAttribute
  apply transaction.unreported_events.bind
  intro events
  exact unreported_findInEvents type key events

end Json

/-! ### What is left open -/

/-- A cause that leaves open what became of a transaction that was accepted. -/
def DeploymentCause.leavesOpen : DeploymentCause → Bool
  | requestFailed .. | requestRefused .. | answerUnreadable .. => true
  | transactionUnconfirmed .. | addressMissing .. => true
  | _ => false

def Fault.leavesOpen : Fault → Bool
  | .deployment cause => cause.leavesOpen
  | _ => false

theorem DeploymentCause.leavesOpen_of_isUnheard {cause : DeploymentCause}
    (unheard : cause.isUnheard = true) : cause.leavesOpen = true := by
  cases cause with
  | requestFailed | requestRefused | answerUnreadable => rfl
  | _ => simp [isUnheard] at unheard

/-- The hash under which the command line accepts a transaction. -/
def CommandOutcome.acceptedHash? : CommandOutcome → Option Json
  | .succeeded output =>
      match Json.read output.toList with
      | .ok (.object submitted) =>
          let hash := Members.value submitted "txhash"
          if Json.isAccepted submitted && hash.isTruthy then some hash else none
      | _ => none
  | _ => none

/-- The first thing that events tell of a transaction is a code other than zero. -/
def toldFailed (url : String) (events : List Event) : Bool :=
  match firstResponse url events with
  | some (.object response) => !Json.isAccepted response
  | _ => false

/-- Whether a command instantiates code. -/
def instantiates : List Json → Bool
  | _ :: .string area :: .string subject :: .string verb :: _ =>
      area = "tx" && subject = "wasm" && verb = "instantiate"
  | _ => false

/-- A command instantiates code in a transaction that is accepted and not told to have failed in
what comes after it. -/
def lands (connection : Connection) (arguments : List Json) (outcome : CommandOutcome)
    (late : List Event) : Bool :=
  match outcome.acceptedHash? with
  | some hash => instantiates arguments && !toldFailed (connection.transactionUrl hash) late
  | none => false

/-- How many instantiations among some events are accepted and not told to have failed. -/
def landed (connection : Connection) : List Event → Nat
  | [] => 0
  | .command arguments outcome :: late =>
      (if lands connection arguments outcome late then 1 else 0) + landed connection late
  | _ :: late => landed connection late

variable {connection : Connection} {early late : List Event}

theorem lands_iff {arguments : List Json} {outcome : CommandOutcome} :
    lands connection arguments outcome late = true ↔
      instantiates arguments = true ∧ ∃ hash, outcome.acceptedHash? = some hash ∧
        toldFailed (connection.transactionUrl hash) late = false := by
  unfold lands
  cases outcome.acceptedHash? <;> simp

/-- Only instantiations land. -/
theorem landed_le (connection : Connection) (events : List Event) :
    landed connection events ≤ (commands events).countP instantiates := by
  induction events with
  | nil => exact Nat.zero_le _
  | cons event late ih =>
      cases event with
      | request | pause | line => exact ih
      | command arguments outcome =>
          rw [commands_cons, List.countP_cons, landed, Nat.add_comm]
          apply Nat.add_le_add ih
          by_cases here : lands connection arguments outcome late = true
          · rw [if_pos here, if_pos (lands_iff.mp here).1]
          · rw [if_neg here]
            exact Nat.zero_le _

theorem landed_of_silent {events : List Event} (silent : commands events = []) :
    landed connection events = 0 := by
  have bound := landed_le connection events
  rwa [silent, List.countP_nil, Nat.le_zero] at bound

/-- Events without instantiations make no difference before others. -/
theorem landed_append (others : (commands early).countP instantiates = 0) (late : List Event) :
    landed connection (early ++ late) = landed connection late := by
  induction early with
  | nil => rfl
  | cons event rest ih =>
      cases event with
      | request | pause | line => exact ih others
      | command arguments outcome =>
          rw [commands_cons, List.countP_cons, Nat.add_eq_zero_iff] at others
          have other : ¬ lands connection arguments outcome (rest ++ late) = true := by
            intro here
            simp [(lands_iff.mp here).1] at others
          rw [List.cons_append, landed, ih others.1, if_neg other, Nat.zero_add]

/-- A command with no other around it has landed only if it was accepted and nothing was told of
a failure. -/
theorem landed_command {arguments : List Json} {outcome : CommandOutcome}
    (silentEarly : commands early = []) (silentLate : commands late = [])
    (present : landed connection (early ++ .command arguments outcome :: late) ≠ 0) :
    ∃ hash, outcome.acceptedHash? = some hash ∧
      toldFailed (connection.transactionUrl hash) late = false := by
  rw [landed_append (by rw [silentEarly, List.countP_nil]), landed,
    landed_of_silent silentLate] at present
  by_cases here : lands connection arguments outcome late = true
  · exact (lands_iff.mp here).2
  · simp [here] at present

/-! ### Waiting for a transaction -/

namespace Connection

variable {patience : Patience} {hash : Json} {session after : Session} {fault : Fault}

theorem transaction_error (fails : connection.transaction hash session = .error fault after)
    (reported : fault.isReported = true) : fault.leavesOpen = true := by
  unfold transaction fetchField at fails
  rcases bind_error_iff.mp fails with unheard | ⟨value, between, -, fails⟩
  · obtain ⟨reply, ⟨value, -, fetches⟩ | ⟨-, cause, unheardCause, fetches⟩⟩ :=
      connection.fetch_cases ("/cosmos/tx/v1beta1/txs/" ++ hash.text) session
    · simp [fetches] at unheard
    · obtain ⟨rfl, -⟩ := EStateM.Result.error.inj (fetches.symm.trans unheard)
      exact cause.leavesOpen_of_isUnheard unheardCause
  · by_cases truthy : value.isTruthy = true
    · rw [if_pos truthy] at fails
      have passes := value.unreported_field _ _ (orFault_error.mp fails).1
      simp [passes] at reported
    · rw [if_neg truthy] at fails
      simp [pure, EStateM.pure] at fails

theorem poll_error {limit : Nat} {waited : Binary64}
    (fails : connection.poll patience hash limit waited session = .error fault after)
    (reported : fault.isReported = true) : fault.leavesOpen = true := by
  induction limit generalizing waited session with
  | zero =>
      obtain ⟨rfl, -⟩ := EStateM.Result.error.inj fails
      simp [Fault.isReported] at reported
  | succ limit ih =>
      unfold poll at fails
      rcases bind_error_iff.mp fails with unheard | ⟨answer, between, -, fails⟩
      · exact transaction_error unheard reported
      · cases answer with
        | null =>
            dsimp only at fails
            by_cases expired : patience.timeout.atMost (.real waited) = true
            · rw [if_pos expired, bind_of_error throw_eq] at fails
              obtain ⟨rfl, -⟩ := EStateM.Result.error.inj fails
              rfl
            · rw [if_neg expired] at fails
              rcases bind_error_iff.mp fails with paused | ⟨_, later, -, fails⟩
              · simp [pause, modify, modifyGet, MonadStateOf.modifyGet, EStateM.modifyGet] at paused
              · cases lengthens : patience.interval.toReal? with
                | none =>
                    simp only [lengthens] at fails
                    obtain ⟨rfl, -⟩ := EStateM.Result.error.inj fails
                    simp [Fault.isReported] at reported
                | some interval =>
                    simp only [lengthens] at fails
                    exact ih fails
        | _ => simp [pure, EStateM.pure] at fails

/-- Waiting fails in a reported way only if the transaction is told to have failed, or with a
fault that leaves it open. -/
theorem confirm_error (fails : connection.confirm patience hash session = .error fault after)
    (reported : fault.isReported = true) :
    fault.leavesOpen = true ∨
      ∃ happened, after.events = session.events ++ happened ∧
        toldFailed (connection.transactionUrl hash) happened = true := by
  unfold confirm at fails
  rcases bind_error_iff.mp fails with gaveUp | ⟨found, between, waits, fails⟩
  · exact .inl (poll_error gaveUp reported)
  · obtain ⟨happened, adds, first⟩ := poll_ok waits
    rcases bind_error_iff.mp fails with odd | ⟨response, later, takes, refuses⟩
    · have passes := found.unreported_asMembers _ (orFault_error.mp odd).1
      simp [passes] at reported
    · obtain ⟨members, rfl⟩ := orFault_ok.mp takes
      obtain rfl := Json.eq_object_of_asMembers members
      by_cases accepted : Json.isAccepted response = true
      · simp [accepted, pure, EStateM.pure] at refuses
      · rw [if_neg accepted] at refuses
        obtain ⟨-, rfl⟩ := EStateM.Result.error.inj refuses
        exact .inr ⟨happened, adds, by simp [toldFailed, first, accepted]⟩

end Connection

/-! ### Deployments -/

namespace ChainDeployer

variable {deployer : ChainDeployer} {session after : Session} {fault : Fault}
  {happened : List Event} {verb : String} {arguments : List Json}

theorem submittedHash_of_accepted {output : String} {hash : Json}
    (accepted : (CommandOutcome.succeeded output).acceptedHash? = some hash) :
    submittedHash output = .ok hash := by
  simp only [CommandOutcome.acceptedHash?] at accepted
  split at accepted
  · rename_i submitted reads
    split at accepted
    · rename_i fits
      obtain rfl := Option.some.inj accepted
      simp only [Bool.and_eq_true] at fits
      simp [submittedHash, reads, Json.asMembers, fits.1, fits.2, bind, Except.bind, pure,
        Except.pure]
    · simp at accepted
  · simp at accepted

/-- A transaction that lands but cannot be confirmed is left open. -/
theorem broadcast_error (fails : deployer.broadcast verb arguments session = .error fault after)
    (reported : fault.isReported = true) (adds : after.events = session.events ++ happened)
    (present : landed deployer.connection happened ≠ 0) : fault.leavesOpen = true := by
  unfold broadcast at fails
  rcases bind_error_iff.mp fails with unknown | ⟨chainId, asked, asks, fails⟩
  · obtain ⟨early, addsEarly, silent⟩ := deployer.connection.quiet_chainId session
    rw [unknown, finalState_error, adds] at addsEarly
    obtain rfl := List.append_cancel_left addsEarly
    exact absurd (landed_of_silent silent) present
  obtain ⟨early, addsEarly, silent⟩ := deployer.connection.quiet_chainId.ok asks
  obtain ⟨outcome, runs⟩ := runCommand_eq deployer.connection.surroundings
    (deployer.command verb arguments chainId) asked
  -- Whatever comes after the command issues no other one, so the hash is that of its outcome.
  have accepts {late : List Event} (silentLate : commands late = [])
      (same : after.events = asked.events ++
        .command (deployer.command verb arguments chainId) outcome :: late) :
      ∃ hash, outcome.acceptedHash? = some hash ∧
        toldFailed (deployer.connection.transactionUrl hash) late = false := by
    rw [adds, addsEarly, List.append_assoc] at same
    obtain rfl := List.append_cancel_left same
    exact landed_command silent silentLate present
  change (runCommand deployer.connection.surroundings
    (deployer.command verb arguments chainId) >>= _) asked = _ at fails
  rw [bind_of_ok runs] at fails
  cases outcome with
  | notFound | denied | exited =>
      obtain ⟨-, rfl⟩ := EStateM.Result.error.inj fails
      obtain ⟨hash, accepted, -⟩ := accepts rfl rfl
      simp [CommandOutcome.acceptedHash?] at accepted
  | succeeded output =>
      rcases bind_error_iff.mp fails with refused | ⟨hash, sent, takes, fails⟩
      · obtain ⟨submits, rfl⟩ := orFault_error.mp refused
        obtain ⟨hash, accepted, -⟩ := accepts rfl rfl
        simp [submittedHash_of_accepted accepted] at submits
      · obtain ⟨submits, rfl⟩ := orFault_ok.mp takes
        obtain ⟨late, addsLate, silentLate⟩ :=
          deployer.connection.quiet_confirm deployer.patience hash
            (asked.add (.command (deployer.command verb arguments chainId) (.succeeded output)))
        rw [fails, finalState_error] at addsLate
        obtain ⟨same, accepted, untold⟩ := accepts silentLate
          (addsLate.trans (List.append_assoc _ _ _))
        obtain rfl := Except.ok.inj ((submittedHash_of_accepted accepted).symm.trans submits)
        rcases Connection.confirm_error fails reported with leaves | ⟨told, addsTold, failed⟩
        · exact leaves
        · obtain rfl := List.append_cancel_left (addsTold.symm.trans addsLate)
          simp [untold] at failed

variable {files : FileTree} {wasmPath : Path} {codeId : Int} {initMessage label admin : Json}

theorem instantiate_error
    (fails : deployer.instantiate codeId initMessage label admin session = .error fault after)
    (reported : fault.isReported = true) (adds : after.events = session.events ++ happened)
    (present : landed deployer.connection happened ≠ 0) : fault.leavesOpen = true := by
  unfold instantiate at fails
  cases written : initMessage.write .compact with
  | error error =>
      simp only [written] at fails
      obtain ⟨-, rfl⟩ := EStateM.Result.error.inj fails
      obtain rfl := List.append_right_eq_self.mp adds.symm
      exact absurd rfl present
  | ok message =>
      simp only [written] at fails
      rcases bind_error_iff.mp fails with untold | ⟨⟨⟩, told, tells, fails⟩
      · simp [printLine, modify, modifyGet, MonadStateOf.modifyGet, EStateM.modifyGet] at untold
      obtain ⟨line, addsLine, silent⟩ := (quiet_printLine _).ok tells
      rcases bind_error_iff.mp fails with unsent | ⟨transaction, sent, sends, fails⟩
      · obtain ⟨rest, addsRest, -⟩ := deployer.issues_broadcast _ _ told
        rw [unsent, finalState_error] at addsRest
        rw [addsRest, addsLine, List.append_assoc] at adds
        obtain rfl := List.append_cancel_left adds
        rw [landed_append (by rw [silent, List.countP_nil])] at present
        exact broadcast_error unsent reported addsRest present
      · rcases bind_error_iff.mp fails with odd | ⟨found, searched, takes, fails⟩
        · have passes := Json.unreported_eventAttribute _ _ _ _ (orFault_error.mp odd).1
          simp [passes] at reported
        · cases found with
          | some address => simp [pure, EStateM.pure] at fails
          | none =>
              obtain ⟨rfl, -⟩ := EStateM.Result.error.inj fails
              rfl

theorem instantiates_storeCommand (deployer : ChainDeployer) (wasmPath : Path) (chainId : Json) :
    instantiates (deployer.storeCommand wasmPath chainId) = false :=
  rfl

/-- A deployment that lands but fails in a reported way is left open. -/
theorem deploy_error
    (fails : deployer.deploy files admin wasmPath initMessage label session = .error fault after)
    (reported : fault.isReported = true) (adds : after.events = session.events ++ happened)
    (present : landed deployer.connection happened ≠ 0) : fault.leavesOpen = true := by
  by_cases labelled : label.isTruthy = true
  · rw [deploy_of_labelled labelled] at fails
    rcases bind_error_iff.mp fails with unstored | ⟨⟨codeId, reportedId⟩, between, stores, fails⟩
    · obtain ⟨early, addsEarly, issued⟩ := deployer.issues_storeCode files wasmPath session
      rw [unstored, finalState_error, adds] at addsEarly
      obtain rfl := List.append_cancel_left addsEarly
      have none : (commands happened).countP instantiates = 0 := by
        rcases issued with silent | ⟨chainId, stored⟩
        · rw [silent, List.countP_nil]
        · simp [stored, instantiates_storeCommand]
      exact absurd (Nat.le_zero.mp (none ▸ landed_le _ happened)) present
    · obtain ⟨early, chainId, hash, response, addsEarly, sent, -, -⟩ := storeCode_ok stores
      rcases bind_error_iff.mp fails with failed | ⟨⟨address, other⟩, later, -, fails⟩
      · obtain ⟨late, addsLate, -⟩ :=
          deployer.issues_instantiate codeId initMessage label admin between
        rw [failed, finalState_error] at addsLate
        rw [addsLate, addsEarly, List.append_assoc] at adds
        obtain rfl := List.append_cancel_left adds
        rw [landed_append (by simp [sent, instantiates_storeCommand])] at present
        exact instantiate_error failed reported addsLate present
      · simp [pure, EStateM.pure] at fails
  · rw [deploy_of_unlabelled labelled] at fails
    obtain ⟨-, rfl⟩ := EStateM.Result.error.inj fails
    obtain rfl := List.append_right_eq_self.mp adds.symm
    exact absurd rfl present

/-- A deployment instantiates code at most once, and if this lands but the deployment fails in a
reported way, then it is left open. -/
theorem deploy_instantiates_once (deployer : ChainDeployer) (files : FileTree) (request : DeployRequest)
    (session : Session) :
    ∃ happened,
      (finalState (deployer.toDeployer.deploy files request session)).events =
        session.events ++ happened ∧
      (commands happened).countP instantiates ≤ 1 ∧
      ∀ fault after, deployer.toDeployer.deploy files request session = .error fault after →
        fault.isReported = true → landed deployer.connection happened ≠ 0 →
        fault.leavesOpen = true := by
  obtain ⟨happened, adds, issued⟩ := deployer.deploy_trace files request.admin request.wasmPath
    (.object request.initMessage) request.label session
  rw [← finalState_toDeployer] at adds
  refine ⟨happened, adds, ?_, ?_⟩
  · rcases issued with silent | ⟨chainId, stored⟩ | ⟨_, _, _, codeId, message, chainId, instantiated⟩
    · simp [silent]
    · simp [stored, instantiates_storeCommand]
    · have others : [deployer.instantiateCommand codeId message request.label request.admin
          chainId].countP instantiates ≤ 1 := List.countP_le_length
      rwa [instantiated.commands_eq, List.countP_cons_of_neg (by simp [instantiates_storeCommand])]
  · intro fault after fails reported present
    rcases bind_error_iff.mp fails with failed | ⟨deployment, between, -, fails⟩
    · rw [fails, finalState_error] at adds
      exact deploy_error failed reported adds present
    · simp [pure, EStateM.pure] at fails

end ChainDeployer

end ContractRollout
