import ContractRollout.Proofs.Chain.Deployment

/-!
# The identity of a chain

A node tells the id of its chain in its description. The id is asked for once: as soon as it
is known it stays the same, no later event asks for it again, and every transaction is sent
to the chain that it names.
-/

namespace ContractRollout

/-- The chain id in a description of a node, if it has one. -/
def Json.network? (info : Json) : Option Json :=
  let network := (info.fieldOr "default_node_info").fieldOr "network"
  if network.isTruthy then some network else none

/-- The chain id in a reply that describes a node. -/
def Reply.chainId? (reply : Reply) : Option Json := reply.value?.bind Json.network?

theorem Json.fieldOr_of_not_truthy {value : Json} (blank : value.isTruthy = false) (key : String) :
    value.fieldOr key = .null := by
  cases value with
  | object members =>
      obtain rfl : members = [] := by simpa [Json.isTruthy] using blank
      rfl
  | _ => rfl

theorem Json.field_orElse (value : Json) (key : String) :
    ((value.orElse (.object [])).field key).toOption.getD .null = value.fieldOr key := by
  unfold Json.orElse
  split
  · rfl
  · rename_i blank
    rw [Json.fieldOr_of_not_truthy (by simpa using blank)]
    rfl

namespace Connection

variable {connection : Connection} {session : Session} {network : Json}

/-- Where a node describes itself. -/
def nodeInfoUrl (connection : Connection) : String :=
  connection.settings.lcdUrl ++ "/cosmos/base/tendermint/v1beta1/node_info"

/-- A chain id is found where the fields are, and it is not blank if the id counts. -/
theorem networkOf_cases (info : Json) :
    (∃ held, networkOf info = .ok held ∧
      info.network? = if held.isTruthy then some held else none) ∨
    ∃ fault, networkOf info = .error fault ∧ info.network? = none := by
  have node := info.field_orElse "default_node_info"
  unfold networkOf Json.network?
  cases outer : (info.orElse (.object [])).field "default_node_info" with
  | error fault =>
      rw [outer] at node
      rw [← node]
      exact .inr ⟨fault, rfl, rfl⟩
  | ok inner =>
      rw [outer] at node
      obtain rfl : inner = info.fieldOr "default_node_info" := node
      have name := (info.fieldOr "default_node_info").field_orElse "network"
      simp only [bind, Except.bind]
      cases found : ((info.fieldOr "default_node_info").orElse (.object [])).field "network" with
      | error fault =>
          rw [found] at name
          rw [← name]
          exact .inr ⟨fault, rfl, rfl⟩
      | ok held =>
          rw [found] at name
          rw [← name]
          exact .inl ⟨held, rfl, rfl⟩

theorem chainId_of_known (known : session.chainId = some network) :
    connection.chainId session = .ok network session := by
  simp [chainId, bind, EStateM.bind, get, getThe, MonadStateOf.get, EStateM.get, known, pure,
    EStateM.pure]

/-- An unknown id is asked for once. It is known from then on if the reply tells it, and else
the session ends. -/
theorem chainId_reply (connection : Connection) (unknown : session.chainId = none) {reply : Reply}
    (replied : connection.surroundings.reply session connection.nodeInfoUrl = reply) :
    (∃ network, reply.chainId? = some network ∧
      connection.chainId session =
        .ok network ⟨some network, session.events ++ [.request connection.nodeInfoUrl reply]⟩) ∨
    ∃ fault, reply.chainId? = none ∧
      connection.chainId session =
        .error fault (session.add (.request connection.nodeInfoUrl reply)) := by
  unfold chainId
  simp only [bind, EStateM.bind, get, getThe, MonadStateOf.get, EStateM.get, unknown]
  rcases connection.fetch_reply "/cosmos/base/tendermint/v1beta1/node_info" session replied with
    ⟨info, told, fetches⟩ | ⟨silent, cause, -, fails⟩
  · simp only [fetches]
    have id : reply.chainId? = info.network? := by rw [Reply.chainId?, told, Option.bind_some]
    rcases networkOf_cases info with ⟨held, finds, same⟩ | ⟨fault, fails, absent⟩
    · simp only [finds, orFault, pure, EStateM.pure]
      by_cases truthy : held.isTruthy = true
      · refine .inl ⟨held, by rw [id, same, if_pos truthy], ?_⟩
        rw [if_pos truthy]
        rfl
      · refine .inr ⟨.deployment (.chainIdUnknown connection.settings.lcdUrl),
          by rw [id, same, if_neg truthy], ?_⟩
        rw [if_neg truthy]
        rfl
    · simp only [fails, orFault]
      exact .inr ⟨fault, by rw [id, absent], rfl⟩
  · simp only [fails]
    exact .inr ⟨_, by rw [Reply.chainId?, silent, Option.bind_none], rfl⟩

theorem chainId_of_unknown (connection : Connection) (unknown : session.chainId = none) :
    (∃ reply network, reply.chainId? = some network ∧
      connection.chainId session =
        .ok network ⟨some network, session.events ++ [.request connection.nodeInfoUrl reply]⟩) ∨
    ∃ reply fault, reply.chainId? = none ∧
      connection.chainId session =
        .error fault (session.add (.request connection.nodeInfoUrl reply)) :=
  (connection.chainId_reply unknown rfl).imp (⟨_, ·⟩) (⟨_, ·⟩)

/-- Looking a transaction up is not asking for the chain id. -/
theorem transactionUrl_ne (connection : Connection) (hash : Json) :
    connection.transactionUrl hash ≠ connection.nodeInfoUrl := by
  intro same
  have characters := congrArg String.toList same
  simp only [transactionUrl, nodeInfoUrl, String.toList_append] at characters
  have paths := List.append_cancel_left characters
  have eighth := congrArg (·[8]?) paths
  simp at eighth

end Connection

/-! ### Going on with some events -/

namespace Session

/-- A session that goes on with allowed events and knows the chain id as before. -/
def GoesOn (allowed : Event → Prop) (before after : Session) : Prop :=
  after.chainId = before.chainId ∧
    ∃ happened, after.events = before.events ++ happened ∧ ∀ event ∈ happened, allowed event

variable {allowed : Event → Prop}

theorem goesOn_refl (allowed : Event → Prop) (session : Session) : session.GoesOn allowed session :=
  ⟨rfl, [], by simp, by simp⟩

theorem goesOn_trans (first second third : Session) (early : first.GoesOn allowed second)
    (late : second.GoesOn allowed third) : first.GoesOn allowed third := by
  obtain ⟨known, earlier, adds, fits⟩ := early
  obtain ⟨still, later, addsLater, fitsLater⟩ := late
  refine ⟨still.trans known, earlier ++ later, by rw [addsLater, adds, List.append_assoc], ?_⟩
  intro event member
  rcases List.mem_append.mp member with first | second
  · exact fits event first
  · exact fitsLater event second

theorem goesOn_add {event : Event} (fits : allowed event) (session : Session) :
    session.GoesOn allowed (session.add event) :=
  ⟨rfl, [event], rfl, by simpa using fits⟩

theorem goesOn_lines (prints : ∀ text, allowed (.line text)) (lines : List String)
    (session : Session) :
    session.GoesOn allowed (lines.foldl (fun session line => session.print line) session) := by
  induction lines generalizing session with
  | nil => exact goesOn_refl allowed session
  | cons line rest ih =>
      have here : session.GoesOn allowed (session.print line) := goesOn_add (prints line) session
      exact goesOn_trans _ _ _ here (ih _)

end Session

/-! ### Staying on a network -/

namespace ChainDeployer

variable {deployer : ChainDeployer} {network : Json}

/-- An event that neither asks for the chain id nor sends a transaction to another chain. -/
def OnNetwork (deployer : ChainDeployer) (network : Json) : Event → Prop
  | .request url _ => url ≠ deployer.connection.nodeInfoUrl
  | .command arguments _ => ∃ verb others, arguments = deployer.command verb others network
  | .pause _ | .line _ => True

/-- A session in which the chain id is known stays on the network of this id. -/
def Stays (deployer : ChainDeployer) (network : Json) (before after : Session) : Prop :=
  before.chainId = some network → before.GoesOn (deployer.OnNetwork network) after

theorem stays_refl (deployer : ChainDeployer) (network : Json) (session : Session) :
    deployer.Stays network session session :=
  fun _ => Session.goesOn_refl _ session

theorem stays_trans (first second third : Session) (early : deployer.Stays network first second)
    (late : deployer.Stays network second third) : deployer.Stays network first third := by
  intro known
  have between := early known
  exact Session.goesOn_trans _ _ _ between (late (between.1.trans known))

theorem stays_add (event : Event) (on : deployer.OnNetwork network event) (session : Session) :
    deployer.Stays network session (session.add event) :=
  fun _ => Session.goesOn_add on session

/-- Whatever comes of an action, it stays on the network. -/
def KeepsTo (deployer : ChainDeployer) (network : Json) {α : Type} (action : ChainAction α) : Prop :=
  Relates (deployer.Stays network) action

variable {α β : Type}

theorem KeepsTo.bind {first : ChainAction α} {next : α → ChainAction β}
    (early : deployer.KeepsTo network first) (late : ∀ value, deployer.KeepsTo network (next value)) :
    deployer.KeepsTo network (first >>= next) :=
  Relates.bind stays_trans early late

theorem keepsTo_pure (value : α) : deployer.KeepsTo network (pure value : ChainAction α) :=
  fun session => stays_refl deployer network session

theorem keepsTo_throw (fault : Fault) : deployer.KeepsTo network (throw fault : ChainAction α) :=
  fun session => stays_refl deployer network session

theorem keepsTo_orFault (outcome : Except Fault α) :
    deployer.KeepsTo network (orFault outcome : ChainAction α) := by
  cases outcome with
  | ok value => exact keepsTo_pure value
  | error fault => exact keepsTo_throw fault

theorem keepsTo_pause (length : Number) : deployer.KeepsTo network (pause length) :=
  fun session => stays_add (.pause length) trivial session

theorem keepsTo_printLine (text : String) : deployer.KeepsTo network (printLine text) :=
  fun session => stays_add (.line text) trivial session

theorem keepsTo_transaction (deployer : ChainDeployer) (network hash : Json) :
    deployer.KeepsTo network (deployer.connection.transaction hash) := by
  unfold Connection.transaction Connection.fetchField
  apply KeepsTo.bind
  · intro session
    have apart := deployer.connection.transactionUrl_ne hash
    obtain ⟨reply, ⟨value, -, fetches⟩ | ⟨-, cause, -, fails⟩⟩ :=
      deployer.connection.fetch_cases ("/cosmos/tx/v1beta1/txs/" ++ hash.text) session
    · rw [fetches]
      exact stays_add (.request _ reply) apart session
    · rw [fails]
      exact stays_add (.request _ reply) apart session
  · intro value
    split
    · exact keepsTo_orFault _
    · exact keepsTo_pure _

theorem keepsTo_poll (deployer : ChainDeployer) (network : Json) (patience : Patience)
    (hash : Json) (limit : Nat) (waited : Binary64) :
    deployer.KeepsTo network (deployer.connection.poll patience hash limit waited) := by
  induction limit generalizing waited with
  | zero => exact keepsTo_throw _
  | succ limit ih =>
      unfold Connection.poll
      apply (deployer.keepsTo_transaction network hash).bind
      intro found
      split
      · by_cases expired : patience.timeout.atMost (.real waited) = true
        · simp only [if_pos expired]
          exact fun session => stays_refl deployer network session
        · simp only [if_neg expired]
          apply (keepsTo_pause _).bind
          intro _
          split
          · exact keepsTo_throw _
          · exact ih _
      · exact keepsTo_pure _

theorem keepsTo_confirm (deployer : ChainDeployer) (network : Json) (patience : Patience)
    (hash : Json) : deployer.KeepsTo network (deployer.connection.confirm patience hash) := by
  unfold Connection.confirm
  apply (deployer.keepsTo_poll network patience hash _ _).bind
  intro found
  apply (keepsTo_orFault _).bind
  intro members
  split
  · exact keepsTo_pure _
  · exact keepsTo_throw _

/-- A transaction is sent to the chain whose id is known. -/
theorem keepsTo_broadcast (deployer : ChainDeployer) (network : Json) (verb : String)
    (arguments : List Json) : deployer.KeepsTo network (deployer.broadcast verb arguments) := by
  intro session known
  unfold broadcast
  rw [bind_of_ok (Connection.chainId_of_known known)]
  refine KeepsTo.bind ?_ ?_ session known
  · exact fun other => stays_add (.command _ _) ⟨verb, arguments, rfl⟩ other
  · intro outcome
    cases outcome with
    | notFound => exact keepsTo_throw _
    | denied => exact keepsTo_throw _
    | exited complaint output => exact keepsTo_throw _
    | succeeded output =>
        apply (keepsTo_orFault _).bind
        intro hash
        exact deployer.keepsTo_confirm network _ hash

theorem keepsTo_storeCode (deployer : ChainDeployer) (network : Json) (files : FileTree)
    (wasmPath : Path) : deployer.KeepsTo network (deployer.storeCode files wasmPath) := by
  unfold storeCode
  apply (keepsTo_orFault _).bind
  intro found
  cases found with
  | false => exact fun session => stays_refl deployer network session
  | true =>
      apply (keepsTo_printLine _).bind
      intro _
      apply (deployer.keepsTo_broadcast network _ _).bind
      intro transaction
      apply (keepsTo_orFault _).bind
      intro value
      cases value with
      | none => exact keepsTo_throw _
      | some value =>
          apply (keepsTo_orFault _).bind
          intro codeId
          apply (keepsTo_printLine _).bind
          intro _
          exact keepsTo_pure _

theorem keepsTo_instantiate (deployer : ChainDeployer) (network : Json) (codeId : Int)
    (initMessage label admin : Json) :
    deployer.KeepsTo network (deployer.instantiate codeId initMessage label admin) := by
  unfold instantiate
  split
  · exact keepsTo_throw _
  · apply (keepsTo_printLine _).bind
    intro _
    apply (deployer.keepsTo_broadcast network _ _).bind
    intro transaction
    apply (keepsTo_orFault _).bind
    intro value
    cases value with
    | none => exact keepsTo_throw _
    | some value => exact keepsTo_pure _

/-- A deployment stays on the network of the chain id. -/
theorem keepsTo_deploy (deployer : ChainDeployer) (network : Json) (files : FileTree)
    (request : DeployRequest) :
    deployer.KeepsTo network (deployer.toDeployer.deploy files request) := by
  have goes : deployer.KeepsTo network (deployer.deploy files request.admin request.wasmPath
      (.object request.initMessage) request.label) := by
    by_cases labelled : request.label.isTruthy = true
    · rw [deploy_of_labelled labelled]
      apply (deployer.keepsTo_storeCode network files request.wasmPath).bind
      rintro ⟨codeId, storeHash⟩
      apply (deployer.keepsTo_instantiate network codeId _ _ _).bind
      rintro ⟨address, instantiateHash⟩
      exact keepsTo_pure _
    · intro session
      rw [deploy_of_unlabelled labelled]
      exact stays_refl deployer network session
  exact goes.bind fun _ => keepsTo_pure _

end ChainDeployer

end ContractRollout
