import ContractRollout.Chain.Deployment
import ContractRollout.Proofs.Chain.Attribute
import ContractRollout.Proofs.Chain.Confirmation

/-!
# Two confirmed transactions

A deployment issues no command, one that stores code, or this one and after it one that
instantiates the code. The second command is only issued once the first transaction is
accepted, confirmed and has given a code id, and an address is only given once the second
one is.
-/

namespace ContractRollout

theorem integerText_eq_toString (value : Int) : String.ofList (integerText value) = toString value := by
  cases value with
  | ofNat magnitude => rfl
  | negSucc magnitude =>
      rw [integerText, if_pos (Int.negSucc_lt_zero magnitude), String.ofList_append]
      rfl

theorem Members.value_insertNew_of_ne {key other : String} (different : other ≠ key) (value : Json)
    (members : Members) :
    Members.value (Members.insertNew key value members) other = members.value other := by
  unfold insertNew
  split
  · rfl
  · exact value_insert_of_ne different value members

/-- The hash of a confirmed transaction: its own one, if it has any, and else the one that it
was looked up by. -/
def reportedHash (response : Members) (hash : Json) : Json := (response.lookup "txhash").getD hash

theorem value_txhash (response : Members) (hash : Json) :
    Members.value (Members.insertNew "txhash" hash response) "txhash" = reportedHash response hash := by
  unfold Members.insertNew Members.value reportedHash
  cases held : response.lookup "txhash" with
  | none => simp [Members.insert]
  | some own => simp [held]

theorem firstAttribute_insertNew (response : Members) (hash type key : Json) :
    (Json.object (Members.insertNew "txhash" hash response)).firstAttribute type key =
      (Json.object response).firstAttribute type key := by
  have same (name : String) (different : name ≠ "txhash") :
      (Json.object (Members.insertNew "txhash" hash response)).fieldItems name =
        (Json.object response).fieldItems name := by
    simp only [Json.fieldItems, Json.fieldElements, Json.field, Json.asMembers, Except.map,
      Members.value_insertNew_of_ne different]
  simp only [Json.firstAttribute, Json.attributes, same "events" (by decide),
    same "logs" (by decide)]

theorem codeIdOf_ok {value hash other : Json} {codeId : Int}
    (converts : codeIdOf value hash = .ok codeId) : codeIdOf value other = .ok codeId := by
  unfold codeIdOf at converts ⊢
  split at converts
  · split at converts <;> simp_all
  · exact converts
  · simp at converts
  · split at converts <;> simp_all
  · simp at converts

/-- Among some events a command was sent as a transaction and accepted under a hash, and the
first thing that was told of the transaction then is a response that accepts it too. -/
def Confirmed (connection : Connection) (command : List Json) (hash : Json) (response : Members)
    (happened : List Event) : Prop :=
  ∃ (early : List Event) (output : String) (submitted : Members) (late : List Event),
    happened = early ++ .command command (.succeeded output) :: late ∧
    Json.read output.toList = .ok (.object submitted) ∧ Accepted submitted ∧
    submitted.value "txhash" = hash ∧ hash.isTruthy = true ∧
    firstResponse (connection.transactionUrl hash) late = some (.object response) ∧
    Accepted response

theorem Confirmed.append {connection : Connection} {command : List Json} {hash : Json}
    {response : Members} {happened : List Event}
    (confirmed : Confirmed connection command hash response happened) (before after : List Event) :
    Confirmed connection command hash response (before ++ happened ++ after) := by
  obtain ⟨early, output, submitted, late, rfl, reads, accepted, held, truthy, first, included⟩ :=
    confirmed
  exact ⟨before ++ early, output, submitted, late ++ after, by simp, reads, accepted, held, truthy,
    firstResponse_append first, included⟩

namespace ChainDeployer

variable (deployer : ChainDeployer)

/-- The command that sends a transaction. -/
def command (verb : String) (arguments : List Json) (chainId : Json) : List Json :=
  [deployer.connection.settings.chainBinary, "tx", "wasm", verb].map Json.string
    ++ arguments ++ deployer.flags chainId

def storeCommand (wasmPath : Path) (chainId : Json) : List Json :=
  deployer.command "store" [.string wasmPath.toString] chainId

/-- Who may change a contract later. -/
def authority (admin : Json) : List Json :=
  if admin.isTruthy then [.string "--admin", admin] else [.string "--no-admin"]

def instantiateCommand (codeId : Int) (message : List Char) (label admin chainId : Json) :
    List Json :=
  deployer.command "instantiate"
    ([.string (toString codeId), .string (String.ofList message), .string "--label", label]
      ++ authority admin) chainId

variable {deployer} {verb : String} {arguments : List Json} {session after : Session}

theorem submittedHash_ok {output : String} {hash : Json} (submits : submittedHash output = .ok hash) :
    ∃ submitted : Members, Json.read output.toList = .ok (.object submitted) ∧
      Accepted submitted ∧ submitted.value "txhash" = hash ∧ hash.isTruthy = true := by
  unfold submittedHash at submits
  cases reads : Json.read output.toList with
  | error error => simp [reads, throw, throwThe, MonadExceptOf.throw] at submits
  | ok answer =>
      simp only [reads] at submits
      obtain ⟨submitted, members, chooses⟩ := bind_eq_ok.mp submits
      obtain rfl := Json.eq_object_of_asMembers members
      by_cases accepted : Json.isAccepted submitted = true
      · by_cases truthy : (submitted.value "txhash").isTruthy = true
        · simp only [accepted, truthy] at chooses
          obtain rfl := Except.ok.inj chooses
          exact ⟨submitted, rfl, isAccepted_iff.mp accepted, rfl, truthy⟩
        · simp [accepted, truthy, throw, throwThe, MonadExceptOf.throw] at chooses
      · simp [accepted, throw, throwThe, MonadExceptOf.throw, bind, Except.bind] at chooses

theorem issues_broadcast (deployer : ChainDeployer) (verb : String) (arguments : List Json) :
    Issues
      (fun issued => issued = [] ∨ ∃ chainId, issued = [deployer.command verb arguments chainId])
      (deployer.broadcast verb arguments) := by
  unfold broadcast
  apply (deployer.connection.quiet_chainId).bind_issues (.inl rfl)
  intro chainId
  apply Issues.bind
  · apply (issues_runCommand _ _).weaken
    rintro issued rfl
    exact .inr ⟨chainId, rfl⟩
  · intro outcome
    cases outcome with
    | notFound => exact quiet_throw _
    | denied => exact quiet_throw _
    | exited complaint output => exact quiet_throw _
    | succeeded output =>
        apply (quiet_orFault _).bind
        intro hash
        exact deployer.connection.quiet_confirm _ hash

theorem broadcast_ok {transaction : Members}
    (sends : deployer.broadcast verb arguments session = .ok transaction after) :
    ∃ happened chainId hash response, after.events = session.events ++ happened ∧
      commands happened = [deployer.command verb arguments chainId] ∧
      Confirmed deployer.connection (deployer.command verb arguments chainId) hash response
        happened ∧
      transaction = Members.insertNew "txhash" hash response := by
  unfold broadcast at sends
  obtain ⟨chainId, asked, asks, sends⟩ := bind_ok_iff.mp sends
  obtain ⟨early, addsEarly, silentEarly⟩ := deployer.connection.quiet_chainId.ok asks
  obtain ⟨outcome, ran, runs, sends⟩ := bind_ok_iff.mp sends
  obtain rfl : ran = asked.add (.command (deployer.command verb arguments chainId) outcome) :=
    runCommand_ok runs
  cases outcome with
  | notFound => simp [throw_eq] at sends
  | denied => simp [throw_eq] at sends
  | exited complaint output => simp [throw_eq] at sends
  | succeeded output =>
      obtain ⟨hash, sent, takes, confirms⟩ := bind_ok_iff.mp sends
      obtain ⟨submits, rfl⟩ := orFault_ok.mp takes
      obtain ⟨submitted, reads, accepted, held, truthy⟩ := submittedHash_ok submits
      obtain ⟨late, response, addsLate, first, included, rfl⟩ := Connection.confirm_ok confirms
      obtain ⟨same, addsSame, silent⟩ :=
        (deployer.connection.quiet_confirm deployer.patience hash).ok confirms
      obtain rfl : late = same := List.append_cancel_left (addsLate.symm.trans addsSame)
      refine ⟨early ++ .command (deployer.command verb arguments chainId) (.succeeded output) :: late,
        chainId, hash, response, ?_, ?_, ?_, rfl⟩
      · rw [addsLate, Session.add, addsEarly]
        simp
      · rw [commands_append, silentEarly, commands_cons, silent, List.nil_append]
      · exact ⟨early, output, submitted, late, rfl, reads, accepted, held, truthy, first, included⟩

/-- Code was stored for a deployment with a label, from a file that is there. Its transaction
was confirmed and gave a code id. -/
structure Stored (deployer : ChainDeployer) (files : FileTree) (wasmPath : Path)
    (happened : List Event) (chainId hash : Json) (response : Members) (codeId : Int) : Prop where
  file : files.holdsFile wasmPath = .ok true
  confirmed : Confirmed deployer.connection (deployer.storeCommand wasmPath chainId) hash response
    happened
  given : ∃ value,
    (Json.object response).firstAttribute (.string "store_code") (.string "code_id") = some value ∧
      codeIdOf value hash = .ok codeId

theorem Stored.append {files : FileTree} {wasmPath : Path} {happened : List Event}
    {chainId hash : Json} {response : Members} {codeId : Int}
    (stored : deployer.Stored files wasmPath happened chainId hash response codeId)
    (later : List Event) :
    deployer.Stored files wasmPath (happened ++ later) chainId hash response codeId :=
  ⟨stored.file, stored.confirmed.append [] later, stored.given⟩

variable {files : FileTree} {wasmPath : Path} {codeId : Int} {initMessage label admin : Json}

theorem issues_storeCode (deployer : ChainDeployer) (files : FileTree) (wasmPath : Path) :
    Issues (fun issued => issued = [] ∨ ∃ chainId, issued = [deployer.storeCommand wasmPath chainId])
      (deployer.storeCode files wasmPath) := by
  unfold storeCode
  apply (quiet_orFault _).bind_issues (.inl rfl)
  intro found
  cases found with
  | false => exact (quiet_of_finalState fun _ => rfl).weaken fun _ silent => .inl silent
  | true =>
      apply (quiet_printLine _).bind_issues (.inl rfl)
      intro _
      apply (deployer.issues_broadcast "store" [.string wasmPath.toString]).bind
      intro transaction
      apply (quiet_orFault _).bind
      intro value
      cases value with
      | none => exact quiet_throw _
      | some value =>
          apply (quiet_orFault _).bind
          intro codeId
          apply (quiet_printLine _).bind
          intro _
          exact quiet_pure _

theorem storeCode_ok {reported : Json}
    (stores : deployer.storeCode files wasmPath session = .ok (codeId, reported) after) :
    ∃ happened chainId hash response, after.events = session.events ++ happened ∧
      commands happened = [deployer.storeCommand wasmPath chainId] ∧
      deployer.Stored files wasmPath happened chainId hash response codeId ∧
      reported = reportedHash response hash := by
  unfold storeCode at stores
  obtain ⟨found, looked, takes, stores⟩ := bind_ok_iff.mp stores
  obtain ⟨file, rfl⟩ := orFault_ok.mp takes
  cases found with
  | false => simp [bind_of_error throw_eq] at stores
  | true =>
      obtain ⟨⟨⟩, told, tells, stores⟩ := bind_ok_iff.mp stores
      obtain ⟨early, addsEarly, silentEarly⟩ := (quiet_printLine _).ok tells
      obtain ⟨transaction, sent, sends, stores⟩ := bind_ok_iff.mp stores
      obtain ⟨happened, chainId, hash, response, adds, issued, confirmed, rfl⟩ := broadcast_ok sends
      obtain ⟨value, searched, takes, stores⟩ := bind_ok_iff.mp stores
      obtain ⟨searches, rfl⟩ := orFault_ok.mp takes
      have first := Json.eventAttribute_eq searches
      rw [firstAttribute_insertNew] at first
      cases value with
      | none => simp [throw_eq] at stores
      | some value =>
          obtain ⟨number, converted, takes, stores⟩ := bind_ok_iff.mp stores
          obtain ⟨converts, rfl⟩ := orFault_ok.mp takes
          obtain ⟨⟨⟩, ended, ends, stores⟩ := bind_ok_iff.mp stores
          obtain ⟨late, addsLate, silentLate⟩ := (quiet_printLine _).ok ends
          obtain ⟨same, rfl⟩ := EStateM.Result.ok.inj stores
          obtain ⟨rfl, rfl⟩ := Prod.mk.inj same
          refine ⟨early ++ happened ++ late, chainId, hash, response, ?_, ?_,
            ⟨mapError_eq_ok.mp file, confirmed.append early late, value, first.symm,
              codeIdOf_ok converts⟩, value_txhash response hash⟩
          · rw [addsLate, adds, addsEarly]
            simp
          · rw [commands_append, commands_append, silentEarly, silentLate, issued]
            rfl

theorem issues_instantiate (deployer : ChainDeployer) (codeId : Int)
    (initMessage label admin : Json) :
    Issues (fun issued => issued = [] ∨ ∃ message chainId, initMessage.write .compact = .ok message ∧
        issued = [deployer.instantiateCommand codeId message label admin chainId])
      (deployer.instantiate codeId initMessage label admin) := by
  unfold instantiate
  split
  · exact (quiet_throw _).weaken fun _ silent => .inl silent
  · rename_i message written
    rw [integerText_eq_toString]
    apply (quiet_printLine _).bind_issues (.inl rfl)
    intro _
    apply Issues.bind
    · apply (deployer.issues_broadcast "instantiate" _).weaken
      rintro issued (silent | ⟨chainId, rfl⟩)
      · exact .inl silent
      · exact .inr ⟨message, chainId, written, rfl⟩
    · intro transaction
      apply (quiet_orFault _).bind
      intro value
      cases value with
      | none => exact quiet_throw _
      | some value => exact quiet_pure _

theorem instantiate_ok {address reported : Json}
    (instantiates : deployer.instantiate codeId initMessage label admin session =
      .ok (address, reported) after) :
    ∃ happened message chainId hash response, after.events = session.events ++ happened ∧
      initMessage.write .compact = .ok message ∧
      commands happened = [deployer.instantiateCommand codeId message label admin chainId] ∧
      Confirmed deployer.connection (deployer.instantiateCommand codeId message label admin chainId)
        hash response happened ∧
      (Json.object response).firstAttribute (.string "instantiate") (.string "_contract_address") =
        some address ∧
      reported = reportedHash response hash := by
  unfold instantiate at instantiates
  cases written : initMessage.write .compact with
  | error error =>
      simp [written, throw_eq] at instantiates
  | ok message =>
      simp only [written, integerText_eq_toString] at instantiates
      obtain ⟨⟨⟩, told, tells, instantiates⟩ := bind_ok_iff.mp instantiates
      obtain ⟨early, addsEarly, silentEarly⟩ := (quiet_printLine _).ok tells
      obtain ⟨transaction, sent, sends, instantiates⟩ := bind_ok_iff.mp instantiates
      obtain ⟨happened, chainId, hash, response, adds, issued, confirmed, rfl⟩ := broadcast_ok sends
      obtain ⟨value, searched, takes, instantiates⟩ := bind_ok_iff.mp instantiates
      obtain ⟨searches, rfl⟩ := orFault_ok.mp takes
      have first := Json.eventAttribute_eq searches
      rw [firstAttribute_insertNew] at first
      cases value with
      | none => simp [throw_eq] at instantiates
      | some value =>
          obtain ⟨same, rfl⟩ := EStateM.Result.ok.inj instantiates
          obtain ⟨rfl, rfl⟩ := Prod.mk.inj same
          refine ⟨early ++ happened, message, chainId, hash, response, ?_, rfl, ?_, ?_, first.symm,
            value_txhash response hash⟩
          · rw [adds, addsEarly, List.append_assoc]
          · rw [commands_append, silentEarly, issued]
            rfl
          · have placed := confirmed.append early []
            rwa [List.append_nil] at placed

/-! ### One after the other -/

/-- The second command was issued, for a contract with a label and after code was stored. -/
structure Instantiated (deployer : ChainDeployer) (files : FileTree) (admin : Json)
    (wasmPath : Path) (initMessage label : Json) (happened : List Event) (chainId hash : Json)
    (response : Members) (codeId : Int) (message : List Char) (other : Json) : Prop where
  labelled : label.isTruthy = true
  written : initMessage.write .compact = .ok message
  issued : ∃ early outcome late,
    happened =
      early ++ .command (deployer.instantiateCommand codeId message label admin other) outcome ::
        late ∧
    commands early = [deployer.storeCommand wasmPath chainId] ∧ commands late = [] ∧
    deployer.Stored files wasmPath early chainId hash response codeId

variable {happened : List Event} {chainId hash other : Json} {response : Members}
  {message : List Char}

theorem Instantiated.commands_eq (instantiated : deployer.Instantiated files admin wasmPath
      initMessage label happened chainId hash response codeId message other) :
    commands happened = [deployer.storeCommand wasmPath chainId,
      deployer.instantiateCommand codeId message label admin other] := by
  obtain ⟨early, outcome, late, rfl, sent, silent, -⟩ := instantiated.issued
  rw [commands_append, sent, commands_cons, silent, List.singleton_append]

theorem Stored.instantiated {early late : List Event}
    (stored : deployer.Stored files wasmPath early chainId hash response codeId)
    (sent : commands early = [deployer.storeCommand wasmPath chainId])
    (labelled : label.isTruthy = true) (written : initMessage.write .compact = .ok message)
    (issued : commands late = [deployer.instantiateCommand codeId message label admin other]) :
    deployer.Instantiated files admin wasmPath initMessage label (early ++ late) chainId hash
      response codeId message other := by
  obtain ⟨quiet, outcome, rest, rfl, silent, silentRest⟩ := exists_of_commands issued
  refine ⟨labelled, written, early ++ quiet, outcome, rest, by rw [List.append_assoc], ?_,
    silentRest, stored.append quiet⟩
  rw [commands_append, sent, silent, List.append_nil]

theorem deploy_of_labelled (labelled : label.isTruthy = true) :
    deployer.deploy files admin wasmPath initMessage label = (do
      let (codeId, storeHash) ← deployer.storeCode files wasmPath
      let (address, instantiateHash) ← deployer.instantiate codeId initMessage label admin
      return ⟨address, codeId, storeHash, instantiateHash⟩) := by
  simp [deploy, labelled]

theorem deploy_of_unlabelled (unlabelled : ¬ label.isTruthy = true) (session : Session) :
    deployer.deploy files admin wasmPath initMessage label session =
      .error (.deployment .labelMissing) session := by
  simp [deploy, unlabelled, bind_of_error throw_eq]

/-- A deployment issues nothing, one command or two. -/
theorem deploy_trace (deployer : ChainDeployer) (files : FileTree) (admin : Json)
    (wasmPath : Path) (initMessage label : Json) (session : Session) :
    ∃ happened,
      (finalState (deployer.deploy files admin wasmPath initMessage label session)).events =
        session.events ++ happened ∧
      (commands happened = [] ∨
        (∃ chainId, commands happened = [deployer.storeCommand wasmPath chainId]) ∨
        ∃ chainId hash response codeId message other, deployer.Instantiated files admin wasmPath
          initMessage label happened chainId hash response codeId message other) := by
  by_cases labelled : label.isTruthy = true
  · rw [deploy_of_labelled labelled]
    cases stores : deployer.storeCode files wasmPath session with
    | error fault between =>
        obtain ⟨happened, adds, issued⟩ := deployer.issues_storeCode files wasmPath session
        rw [stores, finalState_error] at adds
        rw [bind_of_error stores, finalState_error]
        rcases issued with silent | sent
        · exact ⟨happened, adds, .inl silent⟩
        · exact ⟨happened, adds, .inr (.inl sent)⟩
    | ok result between =>
        obtain ⟨codeId, reported⟩ := result
        obtain ⟨early, chainId, hash, response, addsEarly, sent, stored, rfl⟩ := storeCode_ok stores
        rw [bind_of_ok stores]
        have rest : Issues (fun issued => issued = [] ∨ ∃ message other,
            initMessage.write .compact = .ok message ∧
              issued = [deployer.instantiateCommand codeId message label admin other]) (do
            let (address, instantiateHash) ← deployer.instantiate codeId initMessage label admin
            return (⟨address, codeId, reportedHash response hash, instantiateHash⟩ : Deployment)) :=
          (deployer.issues_instantiate codeId initMessage label admin).bind fun _ => quiet_pure _
        obtain ⟨late, addsLate, issued⟩ := rest between
        refine ⟨early ++ late, by rw [addsLate, addsEarly, List.append_assoc], ?_⟩
        rcases issued with silent | ⟨message, other, written, issued⟩
        · exact .inr (.inl ⟨chainId, by rw [commands_append, sent, silent, List.append_nil]⟩)
        · exact .inr (.inr ⟨chainId, hash, response, codeId, message, other,
            stored.instantiated sent labelled written issued⟩)
  · rw [deploy_of_unlabelled labelled]
    exact ⟨[], (List.append_nil _).symm, .inl rfl⟩

theorem finalState_toDeployer (deployer : ChainDeployer) (files : FileTree)
    (request : DeployRequest) (session : Session) :
    finalState (deployer.toDeployer.deploy files request session) =
      finalState (deployer.deploy files request.admin request.wasmPath
        (.object request.initMessage) request.label session) :=
  finalState_map _ Deployment.address session

theorem deploy_ok {deployment : Deployment}
    (deploys : deployer.deploy files admin wasmPath initMessage label session =
      .ok deployment after) :
    ∃ happened chainId storeHash stored codeId message other hash response address,
      after.events = session.events ++ happened ∧
      deployer.Instantiated files admin wasmPath initMessage label happened chainId storeHash stored
        codeId message other ∧
      Confirmed deployer.connection (deployer.instantiateCommand codeId message label admin other)
        hash response happened ∧
      (Json.object response).firstAttribute (.string "instantiate") (.string "_contract_address") =
        some address ∧
      deployment = ⟨address, codeId, reportedHash stored storeHash, reportedHash response hash⟩ := by
  by_cases labelled : label.isTruthy = true
  · rw [deploy_of_labelled labelled] at deploys
    obtain ⟨⟨codeId, reported⟩, between, stores, deploys⟩ := bind_ok_iff.mp deploys
    obtain ⟨early, chainId, storeHash, stored, addsEarly, sent, confirmed, rfl⟩ :=
      storeCode_ok stores
    obtain ⟨⟨address, reported⟩, ended, instantiates, deploys⟩ := bind_ok_iff.mp deploys
    obtain ⟨late, message, other, hash, response, addsLate, written, issued, included, given, rfl⟩ :=
      instantiate_ok instantiates
    obtain ⟨rfl, rfl⟩ := EStateM.Result.ok.inj deploys
    refine ⟨early ++ late, chainId, storeHash, stored, codeId, message, other, hash, response,
      address, by rw [addsLate, addsEarly, List.append_assoc],
      confirmed.instantiated sent labelled written issued, ?_, given, rfl⟩
    have placed := included.append early []
    rwa [List.append_nil] at placed
  · simp [deploy_of_unlabelled labelled] at deploys

/-- The address of a deployment is as the chain told it. -/
theorem deploy_faithful {deployment : Deployment}
    (deploys : deployer.deploy files admin wasmPath initMessage label session =
      .ok deployment after) :
    Json.Faithful deployment.address ∧ deployment.address.isTruthy = true := by
  obtain ⟨happened, chainId, storeHash, stored, codeId, message, other, hash, response, address, -, -,
    confirmed, given, rfl⟩ := deploy_ok deploys
  obtain ⟨early, output, submitted, late, -, -, -, -, -, first, -⟩ := confirmed
  exact (firstResponse_faithful first).firstAttribute given

/-- A deployment issues no command, the one that stores the code, or this one and the one that
instantiates the code. The second one is only issued for a label and a file that are there,
after the transaction of the code was accepted, confirmed and gave a code id. An address is
only given once the second transaction is accepted and confirmed too and has given it. -/
theorem deploy_confirmed (deployer : ChainDeployer) (files : FileTree) (admin : Json)
    (wasmPath : Path) (initMessage label : Json) (session : Session) :
    ∃ happened,
      (finalState (deployer.deploy files admin wasmPath initMessage label session)).events =
        session.events ++ happened ∧
      (commands happened = [] ∨
        (∃ chainId, commands happened = [deployer.storeCommand wasmPath chainId]) ∨
        ∃ chainId hash response codeId message other, deployer.Instantiated files admin wasmPath
          initMessage label happened chainId hash response codeId message other) ∧
      ∀ deployment after, deployer.deploy files admin wasmPath initMessage label session =
          .ok deployment after →
        ∃ chainId storeHash stored codeId message other hash response address,
          deployer.Instantiated files admin wasmPath initMessage label happened chainId storeHash
            stored codeId message other ∧
          Confirmed deployer.connection
            (deployer.instantiateCommand codeId message label admin other) hash response happened ∧
          (Json.object response).firstAttribute (.string "instantiate")
            (.string "_contract_address") = some address ∧
          deployment =
            ⟨address, codeId, reportedHash stored storeHash, reportedHash response hash⟩ := by
  obtain ⟨happened, adds, issued⟩ :=
    deployer.deploy_trace files admin wasmPath initMessage label session
  refine ⟨happened, adds, issued, ?_⟩
  intro deployment after deploys
  obtain ⟨same, chainId, storeHash, stored, codeId, message, other, hash, response, address,
    addsSame, instantiated, confirmed, given, rfl⟩ := deploy_ok deploys
  rw [deploys, finalState_ok] at adds
  obtain rfl : happened = same := List.append_cancel_left (adds.symm.trans addsSame)
  exact ⟨chainId, storeHash, stored, codeId, message, other, hash, response, address, instantiated,
    confirmed, given, rfl⟩

end ChainDeployer

end ContractRollout
