import ContractRollout.Entry.Deploy
import ContractRollout.Proofs.Chain.Identity
import ContractRollout.Proofs.Rollout.Footprint

/-!
# Preparing a rollout

The deployment entry point first prepares its rollout: it loads the configuration, looks the
wallet's address up and asks for the chain id. No transaction is sent and no file is changed
before the id is known. After that it runs the rollout on the network of the id.
-/

namespace ContractRollout

/-! ### What the environment says -/

namespace DeployEntry

/-- Where the node of an environment describes itself. -/
def nodeInfoUrl (environment : Environment) : String :=
  withoutTrailing '/' (environment.valueOr "LCD_URL" "")
    ++ "/cosmos/base/tendermint/v1beta1/node_info"

/-- The store of an environment. -/
def store (environment : Environment) : ArtifactStore where
  path := ((environment.value? "ARTIFACTS_PATH").map Path.ofString).getD (.ofString Locations.artifacts)

/-- Where the code of the contracts is in an environment. -/
def codePath (environment : Environment) : Path :=
  ((environment.value? "WASM_PATH").map Path.ofString).getD (.ofString Locations.wasm)

end DeployEntry

namespace Settings

variable {environment : Environment} {settings : Settings}

theorem required_ok {name value : String} (has : required environment name = .ok value) :
    environment.valueOr name "" = value ∧ value ≠ "" := by
  unfold required at has
  split at has
  · simp at has
  · simp at has
  · rename_i text apart held
    obtain rfl := Except.ok.inj has
    exact ⟨by rw [Environment.valueOr, held, Option.getD_some], apart⟩

/-- Settings are only made with an endpoint and a key, and the environment says where the
endpoint, the records and the code are. -/
theorem ofEnvironment_ok (makes : ofEnvironment environment = .ok settings) :
    environment.valueOr "LCD_URL" "" ≠ "" ∧ environment.valueOr "WALLET_KEY" "" ≠ "" ∧
      settings.lcdUrl = withoutTrailing '/' (environment.valueOr "LCD_URL" "") ∧
      settings.artifactsPath = (DeployEntry.store environment).path ∧
      settings.wasmPath = DeployEntry.codePath environment := by
  unfold ofEnvironment at makes
  obtain ⟨lcdUrl, hasUrl, makes⟩ := bind_eq_ok.mp makes
  obtain ⟨walletKey, hasKey, makes⟩ := bind_eq_ok.mp makes
  obtain ⟨sameUrl, urlSet⟩ := required_ok hasUrl
  obtain ⟨sameKey, keySet⟩ := required_ok hasKey
  obtain rfl := Except.ok.inj makes
  rw [sameUrl, sameKey]
  exact ⟨urlSet, keySet, rfl, rfl, rfl⟩

end Settings

/-! ### Before the rollout -/

/-- Whether a command sends a transaction. -/
def sendsTransaction : List Json → Bool
  | _ :: .string area :: .string subject :: _ => area = "tx" && subject = "wasm"
  | _ => false

/-- An event that neither asks anything of the chain nor sends a transaction. -/
def Event.Preliminary : Event → Prop
  | .request .. => False
  | .command arguments _ => sendsTransaction arguments = false
  | .pause _ | .line _ => True

namespace Connection

theorem preliminary_showKey (connection : Connection) (outcome : CommandOutcome) :
    Event.Preliminary (.command connection.showKeyCommand outcome) := by
  simp [Event.Preliminary, showKeyCommand, sendsTransaction]

/-- Looking the wallet's address up is preliminary. -/
theorem goesOn_wallet (connection : Connection) (session : Session) :
    session.GoesOn Event.Preliminary (finalState (connection.wallet session)) := by
  have asks (outcome : CommandOutcome) :=
    Session.goesOn_add (connection.preliminary_showKey outcome) session
  rw [wallet, finalState_map]
  unfold walletAddress
  by_cases given : connection.settings.walletAddress.isEmpty = true
  · simp only [given]
    rw [if_neg (by simp)]
    obtain ⟨outcome, runs⟩ :=
      runCommand_eq connection.surroundings connection.showKeyCommand session
    rw [bind_of_ok runs]
    cases outcome with
    | succeeded output =>
        dsimp only
        split
        · exact asks _
        · exact asks _
    | exited complaint output => exact asks _
    | notFound => exact asks _
    | denied => exact asks _
  · simp only [given]
    exact Session.goesOn_refl _ session

end Connection

/-! ### The preparation -/

/-- All that a rollout on a chain needs, and the id of the chain. -/
structure Preparation where
  configs : ChainConfigs
  connection : Connection
  wallet : Wallet
  network : Json

namespace Preparation

def deployer (preparation : Preparation) : ChainDeployer where
  connection := preparation.connection
  wallet := preparation.wallet

def rollout (preparation : Preparation) : Rollout Session where
  deployer := preparation.deployer.toDeployer
  configs := preparation.configs
  store := { path := preparation.connection.settings.artifactsPath }
  wasmPath := preparation.connection.settings.wasmPath
  keyName := preparation.wallet.keyName

end Preparation

namespace RunAction

variable {σ α β : Type} {action : FileTree → EStateM Fault σ α} {state : RunState σ} {later : σ}

theorem ofChain_of_ok {value : α} (works : action state.files state.chain = .ok value later) :
    ofChain action state = .ok value { state with chain := later } := by
  rw [ofChain, works]

theorem ofChain_of_error {fault : Fault} (fails : action state.files state.chain = .error fault later) :
    ofChain action state = .error fault { state with chain := later } := by
  rw [ofChain, fails]

theorem ofChain_orFault (outcome : Except Fault α) :
    ofChain (fun _ => orFault outcome) = (orFault outcome : RunAction σ α) := by
  cases outcome <;> rfl

/-- Two parts of a session, one after the other, are two parts of a run. -/
theorem ofChain_bind (first : EStateM Fault σ α) (next : α → FileTree → EStateM Fault σ β) :
    ofChain (fun files => first >>= fun value => next value files) =
      (ofChain (fun _ => first) >>= fun value => ofChain (next value) : RunAction σ β) := by
  funext state
  cases result : first state.chain <;> simp [ofChain, bind, EStateM.bind, result]

/-- What is read from files on the way may as well be read by the run. -/
theorem ofChain_read (outcome : FileTree → Except Fault α) (next : α → EStateM Fault σ β) :
    ofChain (fun files => orFault (outcome files) >>= next) = (do
      let value ← orFault (outcome (← get).files)
      ofChain fun _ => next value : RunAction σ β) := by
  funext state
  cases result : outcome state.files <;>
    simp [ofChain, orFault, bind, EStateM.bind, get, getThe, MonadStateOf.get, EStateM.get, result,
      pure, EStateM.pure, throw, throwThe, MonadExceptOf.throw, EStateM.throw]

end RunAction

namespace DeployEntry

/-- The wallet and the chain id that belong to a configuration. -/
def prepareWith (environment : Environment) (surroundings : Surroundings)
    (loaded : Except Fault ChainConfigs) : RunAction Session Preparation := do
  let configs ← orFault loaded
  let multisig ← orFault configs.requireMultisig
  let settings ← orFault (Settings.ofEnvironment environment)
  let connection : Connection := ⟨settings, surroundings⟩
  let wallet ← RunAction.ofChain fun _ => connection.wallet
  let network ← RunAction.ofChain fun _ => connection.chainId
  RunAction.ofChain fun _ => do
    printLine ("chainID: " ++ network.text ++ " wallet: " ++ wallet.address)
    printLine ("Owner multisig: " ++ multisig.text)
  return ⟨configs, connection, wallet, network⟩

/-- What comes before the rollout: configuration, wallet and chain id. -/
def prepare (environment : Environment) (surroundings : Surroundings) :
    RunAction Session Preparation := do
  prepareWith environment surroundings (ChainConfigs.load (← get).files environment none)

theorem prepare_eq (environment : Environment) (surroundings : Surroundings)
    (state : RunState Session) :
    prepare environment surroundings state =
      prepareWith environment surroundings (ChainConfigs.load state.files environment none) state :=
  bind_of_ok rfl

/-- The work is a rollout on what was prepared. -/
theorem work_eq (environment : Environment) (surroundings : Surroundings) :
    work environment surroundings = (do
      let preparation ← prepare environment surroundings
      preparation.rollout.run preparation.network DeploymentStep.all) := by
  simp only [work, prepare, prepareWith, bind_assoc, pure_bind]
  rfl

/-- The state that the work starts in. -/
def opening (files : FileTree) : RunState Session := (RunState.started files).printed banner

@[simp]
theorem files_opening (files : FileTree) : (opening files).files = files := rfl

variable {environment : Environment} {surroundings : Surroundings} {files : FileTree}
  {preparation : Preparation} {ready : RunState Session} {network : Json} {events : List Event}

/-- If anything at all is asked of the chain among some events, then once, and the reply tells
no id. -/
def Unidentified (environment : Environment) (events : List Event) : Prop :=
  ∃ early asked late, events = early ++ asked ++ late ∧
    (∀ event ∈ early, event.Preliminary) ∧ (∀ event ∈ late, event.Preliminary) ∧
    (asked = [] ∨
      ∃ reply, asked = [.request (nodeInfoUrl environment) reply] ∧ reply.chainId? = none)

/-- Once a reply has told the id of the chain, the events stay on its network. -/
def Identified (deployer : ChainDeployer) (network : Json) (events : List Event) : Prop :=
  ∃ early reply late, events = early ++ .request deployer.connection.nodeInfoUrl reply :: late ∧
    reply.chainId? = some network ∧ (∀ event ∈ early, event.Preliminary) ∧
    ∀ event ∈ late, deployer.OnNetwork network event

/-- A preparation that has worked. -/
structure Prepared (environment : Environment) (surroundings : Surroundings) (files : FileTree)
    (preparation : Preparation) (ready : RunState Session) : Prop where
  loads : ChainConfigs.load files environment none = .ok preparation.configs
  owned : preparation.configs.multisig.isUnset = false
  reads : Settings.ofEnvironment environment = .ok preparation.connection.settings
  reaches : preparation.connection.surroundings = surroundings
  signs : preparation.wallet.keyName = preparation.connection.settings.walletKey
  files : ready.files = files
  known : ready.chain.chainId = some preparation.network
  unsent : ∀ command ∈ commands ready.chain.events, sendsTransaction command = false
  identified : Identified preparation.deployer preparation.network ready.chain.events

/-- The configuration is complete: it has a multisig, and the settings can be made. -/
def Configured (environment : Environment) (files : FileTree) : Prop :=
  ∃ configs settings, ChainConfigs.load files environment none = .ok configs ∧
    configs.multisig.isUnset = false ∧ Settings.ofEnvironment environment = .ok settings

theorem requireMultisig_ok {configs : ChainConfigs} {multisig : Json}
    (set : configs.requireMultisig = .ok multisig) : configs.multisig.isUnset = false := by
  unfold ChainConfigs.requireMultisig at set
  split at set
  · simp at set
  · simpa using ‹¬configs.multisig.isUnset = true›

/-- The ways that a preparation can go, with what it ends in. -/
inductive PrepareOutcome (environment : Environment) (surroundings : Surroundings)
    (files : FileTree) : EStateM.Result Fault (RunState Session) Preparation → Prop
  | unconfigured {fault : Fault} (lacks : ¬ Configured environment files) :
      PrepareOutcome environment surroundings files (.error fault (opening files))
  | unidentified {fault : Fault} {chain : Session} (configured : Configured environment files)
      (unidentified : Unidentified environment chain.events) :
      PrepareOutcome environment surroundings files (.error fault { opening files with chain })
  | prepared {preparation : Preparation} {ready : RunState Session}
      (prepared : Prepared environment surroundings files preparation ready) :
      PrepareOutcome environment surroundings files (.ok preparation ready)

theorem preliminary_opening (files : FileTree) :
    (opening files).chain.chainId = none ∧
      ∀ event ∈ (opening files).chain.events, event.Preliminary := by
  have prints (text : String) : Event.Preliminary (.line text) := trivial
  obtain ⟨known, happened, adds, fits⟩ := Session.goesOn_lines prints banner {}
  refine ⟨known, ?_⟩
  have all : (opening files).chain.events = happened := adds
  rwa [all]

/-- Without a complete configuration nothing is prepared. -/
theorem prepare_of_unconfigured (surroundings : Surroundings)
    (lacks : ¬ Configured environment files) :
    ∃ fault, prepare environment surroundings (opening files) = .error fault (opening files) := by
  simp only [prepare, prepareWith, bind, EStateM.bind, get, getThe, MonadStateOf.get, EStateM.get, files_opening]
  cases loads : ChainConfigs.load files environment none with
  | error fault => exact ⟨fault, rfl⟩
  | ok configs =>
      simp only [orFault, pure, EStateM.pure]
      cases owns : configs.requireMultisig with
      | error fault => exact ⟨fault, rfl⟩
      | ok multisig =>
          cases reads : Settings.ofEnvironment environment with
          | error fault => exact ⟨fault, rfl⟩
          | ok settings =>
              exact absurd ⟨configs, settings, loads, requireMultisig_ok owns, reads⟩ lacks

/-- With a complete configuration the wallet and then the chain id are looked up. -/
theorem prepare_of_configured (surroundings : Surroundings) {configs : ChainConfigs}
    {multisig : Json} {settings : Settings}
    (loads : ChainConfigs.load files environment none = .ok configs)
    (owns : configs.requireMultisig = .ok multisig)
    (reads : Settings.ofEnvironment environment = .ok settings) :
    prepare environment surroundings (opening files) = (do
      let wallet ← RunAction.ofChain fun _ => (Connection.mk settings surroundings).wallet
      let network ← RunAction.ofChain fun _ => (Connection.mk settings surroundings).chainId
      RunAction.ofChain fun _ => do
        printLine ("chainID: " ++ network.text ++ " wallet: " ++ wallet.address)
        printLine ("Owner multisig: " ++ multisig.text)
      return (⟨configs, ⟨settings, surroundings⟩, wallet, network⟩ : Preparation))
      (opening files) := by
  simp only [prepare, prepareWith, bind, EStateM.bind, get, getThe, MonadStateOf.get, EStateM.get, files_opening,
    loads, owns, reads, orFault, pure, EStateM.pure]

theorem wallet_ok {connection : Connection} {session later : Session} {wallet : Wallet}
    (shows : connection.wallet session = .ok wallet later) :
    wallet.keyName = connection.settings.walletKey := by
  unfold Connection.wallet at shows
  obtain ⟨address, between, -, same⟩ := bind_ok_iff.mp shows
  obtain ⟨rfl, -⟩ := EStateM.Result.ok.inj same
  rfl

/-- The settings lead to the node of the environment. -/
theorem nodeInfoUrl_eq {settings : Settings}
    (reads : Settings.ofEnvironment environment = .ok settings) (surroundings : Surroundings) :
    (Connection.mk settings surroundings).nodeInfoUrl = nodeInfoUrl environment := by
  obtain ⟨-, -, url, -, -⟩ := Settings.ofEnvironment_ok reads
  rw [Connection.nodeInfoUrl, nodeInfoUrl, url]

/-- The settings lead to the store of the environment. -/
theorem store_eq {settings : Settings} (reads : Settings.ofEnvironment environment = .ok settings) :
    { path := settings.artifactsPath } = store environment := by
  obtain ⟨-, -, -, path, -⟩ := Settings.ofEnvironment_ok reads
  rw [path]

/-- Every preparation goes one of the ways. -/
theorem prepare_outcome (environment : Environment) (surroundings : Surroundings)
    (files : FileTree) :
    PrepareOutcome environment surroundings files
      (prepare environment surroundings (opening files)) := by
  by_cases configured : Configured environment files
  · obtain ⟨configs, settings, loads, set, reads⟩ := configured
    have owns : configs.requireMultisig = .ok configs.multisig := by
      rw [ChainConfigs.requireMultisig, set]
      rfl
    obtain ⟨unknown, quiet⟩ := preliminary_opening files
    rw [prepare_of_configured surroundings loads owns reads]
    obtain ⟨stillUnknown, happened, adds, quietToo⟩ :=
      (Connection.mk settings surroundings).goesOn_wallet (opening files).chain
    have preliminary : ∀ event ∈ (opening files).chain.events ++ happened, event.Preliminary := by
      intro event member
      rcases List.mem_append.mp member with first | second
      · exact quiet event first
      · exact quietToo event second
    cases shows : (Connection.mk settings surroundings).wallet (opening files).chain with
    | error fault between =>
        rw [shows, finalState_error] at adds
        rw [bind_of_error (RunAction.ofChain_of_error shows)]
        exact .unidentified ⟨configs, settings, loads, set, reads⟩
          ⟨_, [], [], by simp [adds], preliminary, by simp, .inl rfl⟩
    | ok wallet between =>
        rw [shows, finalState_ok] at adds stillUnknown
        rw [bind_of_ok (RunAction.ofChain_of_ok shows)]
        rcases (Connection.mk settings surroundings).chainId_of_unknown
          (stillUnknown.trans unknown) with
          ⟨reply, network, told, learns⟩ | ⟨reply, fault, silent, fails⟩
        · rw [bind_of_ok (RunAction.ofChain_of_ok learns)]
          let banner := Event.line ("chainID: " ++ network.text ++ " wallet: " ++ wallet.address)
          let owner := Event.line ("Owner multisig: " ++ configs.multisig.text)
          have logs : between.events ++ [.request (Connection.mk settings surroundings).nodeInfoUrl
              reply] ++ [banner] ++ [owner] =
              ((opening files).chain.events ++ happened) ++
                .request (Connection.mk settings surroundings).nodeInfoUrl reply ::
                  [banner, owner] := by
            rw [adds]
            simp
          refine .prepared ⟨loads, set, reads, rfl, wallet_ok shows, rfl, rfl, ?_,
            (opening files).chain.events ++ happened, reply, [banner, owner], logs, told,
            preliminary, by simp [banner, owner, ChainDeployer.OnNetwork]⟩
          intro command issued
          obtain ⟨outcome, member⟩ := mem_commands_iff.mp issued
          change _ ∈ between.events ++ [_] ++ [banner] ++ [owner] at member
          rw [logs] at member
          rcases List.mem_append.mp member with first | later
          · exact preliminary _ first
          · simp [banner, owner] at later
        · rw [bind_of_error (RunAction.ofChain_of_error fails)]
          rw [nodeInfoUrl_eq reads]
          exact .unidentified ⟨configs, settings, loads, set, reads⟩
            ⟨_, [_], [], by simp [Session.add, adds], preliminary, by simp,
              .inr ⟨reply, rfl, silent⟩⟩
  · obtain ⟨fault, stops⟩ := prepare_of_unconfigured surroundings configured
    rw [stops]
    exact .unconfigured configured

/-! ### The whole run -/

/-- How the entry point ends after its work. -/
def conclude : EStateM.Result Fault (RunState Session) Members → Ending Members × RunState Session
  | .ok addresses state => (.returned addresses, state.printed (summary addresses))
  | .error fault state =>
      if fault.isReported then (.exited 1, state.printed (report fault)) else (.crashed fault, state)

theorem run_eq (environment : Environment) (surroundings : Surroundings) (files : FileTree) :
    run environment surroundings files = conclude (work environment surroundings (opening files)) := by
  rfl

theorem run_of_prepared (prepares : prepare environment surroundings (opening files) =
      .ok preparation ready) :
    run environment surroundings files =
      conclude (preparation.rollout.run preparation.network DeploymentStep.all ready) := by
  rw [run_eq, work_eq, bind_of_ok prepares]

theorem run_of_unprepared {fault : Fault} {later : RunState Session}
    (fails : prepare environment surroundings (opening files) = .error fault later) :
    run environment surroundings files = conclude (.error fault later) := by
  rw [run_eq, work_eq, bind_of_error fails]

theorem conclude_error (fault : Fault) (state : RunState Session) :
    conclude (.error fault state) = (.exited 1, state.printed (report fault)) ∨
      conclude (.error fault state) = (.crashed fault, state) := by
  by_cases reported : fault.isReported = true
  · exact .inl (if_pos reported)
  · exact .inr (if_neg reported)

/-- The last lines change no file. -/
theorem files_conclude (result : EStateM.Result Fault (RunState Session) Members) :
    (conclude result).2.files = (finalState result).files := by
  cases result with
  | ok addresses state => rfl
  | error fault state =>
      rcases conclude_error fault state with exits | crashes
      · rw [exits]
        rfl
      · rw [crashes]
        rfl

/-- The last lines are only lines. -/
theorem goesOn_conclude {allowed : Event → Prop} (prints : ∀ text, allowed (.line text))
    (result : EStateM.Result Fault (RunState Session) Members) :
    (finalState result).chain.GoesOn allowed (conclude result).2.chain := by
  cases result with
  | ok addresses state => exact Session.goesOn_lines prints _ _
  | error fault state =>
      rcases conclude_error fault state with exits | crashes
      · rw [exits]
        exact Session.goesOn_lines prints _ _
      · rw [crashes]
        exact Session.goesOn_refl _ _

theorem conclude_of_returned {result : EStateM.Result Fault (RunState Session) Members}
    {addresses : Members} {final : RunState Session}
    (returns : conclude result = (.returned addresses, final)) :
    ∃ state, result = .ok addresses state ∧ final = state.printed (summary addresses) := by
  cases result with
  | ok others state =>
      obtain ⟨same, rfl⟩ := Prod.mk.inj returns
      obtain rfl := Ending.returned.inj same
      exact ⟨state, rfl, rfl⟩
  | error fault state =>
      rcases conclude_error fault state with exits | crashes
      · simp [exits] at returns
      · simp [crashes] at returns

/-- Runs that end alike are concluded alike. -/
theorem conclude_of_alike {places : Set Place}
    {first second : EStateM.Result Fault (RunState Session) Members}
    (alike : Alike (RunState.AgreeOn places) first second) :
    (conclude first).1 = (conclude second).1 ∧
      RunState.AgreeOn places (conclude first).2 (conclude second).2 := by
  have lines {left right : RunState Session} (agree : RunState.AgreeOn places left right)
      (texts : List String) :
      RunState.AgreeOn places (left.printed texts) (right.printed texts) :=
    ⟨agree.record, agree.files, by rw [RunState.printed, RunState.printed, agree.chain]⟩
  cases alike with
  | ok agree => exact ⟨rfl, lines agree _⟩
  | @error fault left right agree =>
      by_cases reported : fault.isReported = true
      · simp only [conclude, if_pos reported]
        exact ⟨trivial, lines agree _⟩
      · simp only [conclude, if_neg reported]
        exact ⟨trivial, agree⟩

end DeployEntry

end ContractRollout
