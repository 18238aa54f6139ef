import ContractRollout.Proofs.Chain.Deployment
import ContractRollout.Proofs.Rollout.History
import ContractRollout.Proofs.Rollout.InitMessage
import ContractRollout.Proofs.Rollout.Stages

/-!
# What a run signs

Every command that instantiates code is issued at one stage of a run. Its arguments are the
configuration of the contract there, with the init message that the step has on the record as
it was right before. The message is printable ASCII and is read as these members in this
order, and there always is an admin.
-/

namespace ContractRollout

namespace ChainDeployer

/-- The command instantiates the code of a step as it is configured. -/
def Signs (deployer : ChainDeployer) (configs : ChainConfigs) (step : DeploymentStep)
    (record : NetworkRecord) (command : List Json) : Prop :=
  ∃ (contract : ContractConfig) (codeId : Int) (message : List Char) (chainId : Json),
    configs.contract step.configKey = .ok contract ∧
    command = deployer.command "instantiate"
      [.string (toString codeId), .string (String.ofList message), .string "--label",
        contract.label, .string "--admin",
        if contract.admin.isUnset then configs.multisig else contract.admin] chainId ∧
    (∀ character ∈ message, ' ' ≤ character ∧ character ≤ '\x7f') ∧
    Json.read message =
      .ok (.object (step.message contract.initMessage configs.multisig record)) ∧
    contract.label.isTruthy = true

variable {deployer : ChainDeployer}

theorem verb_command (verb : String) (arguments : List Json) (chainId : Json) :
    (deployer.command verb arguments chainId)[3]? = some (.string verb) :=
  rfl

/-- Whatever comes of a request, the only command that instantiates code has its parameters. -/
theorem deploy_instantiates (deployer : ChainDeployer) (files : FileTree) (request : DeployRequest)
    (session : Session) :
    ∃ happened,
      (finalState (deployer.toDeployer.deploy files request session)).events =
        session.events ++ happened ∧
      ∀ command ∈ commands happened, command[3]? = some (.string "instantiate") →
        request.label.isTruthy = true ∧
        ∃ codeId message chainId, (Json.object request.initMessage).write .compact = .ok message ∧
          command =
            deployer.instantiateCommand codeId message request.label request.admin chainId := by
  obtain ⟨happened, adds, issued⟩ := deployer.deploy_trace files request.admin request.wasmPath
    (.object request.initMessage) request.label session
  rw [finalState_toDeployer]
  refine ⟨happened, adds, ?_⟩
  intro command member instantiates
  rcases issued with silent | ⟨chainId, stored⟩ | ⟨_, _, _, codeId, message, chainId, instantiated⟩
  · simp [silent] at member
  · obtain rfl : command = deployer.storeCommand request.wasmPath chainId := by
      simpa [stored] using member
    rw [storeCommand, verb_command] at instantiates
    simp at instantiates
  · rcases (by simpa [instantiated.commands_eq] using member : command = _ ∨ command = _) with
      rfl | rfl
    · rw [storeCommand, verb_command] at instantiates
      simp at instantiates
    · exact ⟨instantiated.labelled, codeId, message, chainId, instantiated.written, rfl⟩

theorem answersFaithfully (deployer : ChainDeployer) : deployer.toDeployer.AnswersFaithfully := by
  intro files request session address later deploys
  obtain ⟨deployment, between, works, same⟩ := bind_ok_iff.mp deploys
  obtain ⟨rfl, -⟩ := EStateM.Result.ok.inj same
  exact deploy_faithful works

/-- The command for resolved parameters is the one for the configuration. -/
theorem signs_of_resolved {configs : ChainConfigs} (loaded : configs.Loaded)
    {step : DeploymentStep} {record : NetworkRecord}
    (faithful : Json.Faithful (.object record.fields)) {resolved : ResolvedContract}
    (resolves : step.resolve configs record = .ok resolved)
    (labelled : resolved.label.isTruthy = true) {message : List Char}
    (written : (Json.object resolved.initMessage).write .compact = .ok message) (codeId : Int)
    (chainId : Json) :
    deployer.Signs configs step record
      (deployer.instantiateCommand codeId message resolved.label resolved.admin chainId) := by
  obtain ⟨set, contract, takes, rfl⟩ := DeploymentStep.resolve_ok.mp resolves
  obtain ⟨part, rfl⟩ := ChainConfigs.contract_ok takes
  have loadedPart := loaded.parts part
  have present := loaded.present set
  have defaults := @DeploymentStep.faithful_initDefaults step _ _ loaded.multisig faithful
  have faithfulMessage := Members.faithful_mergeDefaults loadedPart.initMessage defaults
  have distinct : (configs.part part).initMessage.keys.Nodup := by
    cases loadedPart.initMessage with
    | object distinct _ => exact distinct
  refine ⟨configs.part part, codeId, message, chainId, takes, ?_, ?_, ?_, labelled⟩
  · have admin : ((configs.part part).resolve configs.multisig
        (step.initDefaults configs.multisig record)).admin.isTruthy = true := by
      unfold ContractConfig.resolve
      dsimp only
      split
      · exact present
      · rename_i setAdmin
        exact loadedPart.admin (by simpa using setAdmin)
    rw [instantiateCommand, authority, if_pos admin]
    rfl
  · intro character member
    rcases Json.emits_writeAt Json.spaced_compact faithfulMessage written character member with
      printable | ⟨-, lines⟩
    · exact ⟨printable.1, Char.le_trans printable.2 (by decide)⟩
    · exact absurd rfl lines
  · rw [Json.read_write Json.spaced_compact faithfulMessage written,
      ← DeploymentStep.mergeDefaults_initDefaults distinct set]

end ChainDeployer

namespace Rollout

variable {rollout : Rollout Session} {deployer : ChainDeployer} {network : Json}
  {steps : List DeploymentStep} {start : RunState Session}

/-- The commands among some events that instantiate code do so for a step on the record that
is stored in some files. -/
def SignsStep (rollout : Rollout Session) (deployer : ChainDeployer) (network : Json)
    (step : DeploymentStep) (files : FileTree) (happened : List Event) : Prop :=
  ∀ command ∈ commands happened, command[3]? = some (.string "instantiate") →
    ∃ record, rollout.store.read files network = .ok record ∧
      deployer.Signs rollout.configs step record command

theorem signsStep_of_silent {step : DeploymentStep} {files : FileTree} {happened : List Event}
    (silent : commands happened = []) :
    rollout.SignsStep deployer network step files happened := by
  simp [SignsStep, silent]

theorem events_announceStart (real : rollout.deployer = deployer.toDeployer) (step : DeploymentStep)
    (session : Session) :
    (rollout.announceStart step session).events =
      session.events ++ [.line ("[INFO] Deploying " ++ step.name ++ "...")] := by
  rw [announceStart, real]
  rfl

theorem events_announceAddress (real : rollout.deployer = deployer.toDeployer)
    (step : DeploymentStep) (address : Json) (session : Session) :
    (rollout.announceAddress step address session).events =
      session.events ++ [.line ("[OK] " ++ step.name ++ " address: " ++ address.text)] := by
  rw [announceAddress, real]
  rfl

theorem events_announceFound (real : rollout.deployer = deployer.toDeployer)
    (step : DeploymentStep) (address : Json) (session : Session) :
    (rollout.announceFound step address session).events =
      session.events ++ [.line ("[OK] " ++ step.name ++ " already deployed: " ++ address.text)] := by
  rw [announceFound, real]
  rfl

/-- What a deployment issues, from its announcement on. -/
theorem deploy_signs (real : rollout.deployer = deployer.toDeployer)
    (loaded : rollout.configs.Loaded) {step : DeploymentStep} {record : NetworkRecord}
    {files : FileTree} (reads : rollout.store.read files network = .ok record)
    {resolved : ResolvedContract}
    (resolves : step.resolve rollout.configs record = .ok resolved) (session : Session) :
    ∃ happened,
      (finalState (rollout.deployer.deploy files (rollout.request step resolved)
        (rollout.announceStart step session))).events = session.events ++ happened ∧
      rollout.SignsStep deployer network step files happened := by
  have faithful := (ArtifactStore.read_faithful reads).2
  obtain ⟨happened, adds, issued⟩ := deployer.deploy_instantiates files
    (rollout.request step resolved) (rollout.announceStart step session)
  refine ⟨.line ("[INFO] Deploying " ++ step.name ++ "...") :: happened, ?_, ?_⟩
  · rw [real, adds, events_announceStart real, List.append_assoc, List.singleton_append]
  · intro command member instantiates
    obtain ⟨labelled, codeId, message, chainId, written, rfl⟩ := issued command member instantiates
    exact ⟨record, reads,
      ChainDeployer.signs_of_resolved loaded faithful resolves labelled written codeId chainId⟩

/-- A step only adds events, and its commands are those of a deployment on the record. -/
theorem takeStep_signs (real : rollout.deployer = deployer.toDeployer)
    (loaded : rollout.configs.Loaded) (network : Json) (step : DeploymentStep)
    (state : RunState Session) :
    ∃ happened,
      (finalState (rollout.takeStep network step state)).chain.events =
        state.chain.events ++ happened ∧
      rollout.SignsStep deployer network step state.files happened := by
  have outcome := rollout.takeStep_outcome network step state
  generalize rollout.takeStep network step state = result at outcome
  cases outcome with
  | unreadable reads => exact ⟨[], by simp, signsStep_of_silent rfl⟩
  | found reads populated =>
      exact ⟨[.line _], events_announceFound real _ _ _, signsStep_of_silent rfl⟩
  | blocked reads vacant missing => exact ⟨[], by simp, signsStep_of_silent rfl⟩
  | unresolved reads vacant complete resolves => exact ⟨[], by simp, signsStep_of_silent rfl⟩
  | refused reads vacant complete resolves deploys =>
      have issues := deploy_signs real loaded reads resolves state.chain
      rwa [deploys, finalState_error] at issues
  | unsaved reads vacant complete resolves deploys writes =>
      have issues := deploy_signs real loaded reads resolves state.chain
      rwa [deploys, finalState_ok] at issues
  | @deployed record resolved address chain files reads vacant complete resolves deploys writes =>
      obtain ⟨happened, adds, signs⟩ := deploy_signs real loaded reads resolves state.chain
      rw [deploys, finalState_ok] at adds
      refine ⟨happened ++ [.line ("[OK] " ++ step.name ++ " address: " ++ address.text)], ?_, ?_⟩
      · rw [finalState_ok, events_announceAddress real, adds, List.append_assoc]
      · intro command member
        apply signs command
        simpa [commands, Event.arguments?] using member

/-- A stage of a run issues a command after some events. -/
structure Stage.Issues (stage : rollout.Stage network steps start) (events : List Event)
    (command : List Json) (outcome : CommandOutcome) : Prop where
  begun : stage.reached.chain.events <+: events
  issued : events ++ [.command command outcome] <+: stage.ending.chain.events

/-- A command is issued at a stage on a record, and it is the one for the step there. -/
def SignedOnRecord (rollout : Rollout Session) (deployer : ChainDeployer) (network : Json)
    (steps : List DeploymentStep) (start : RunState Session) (events : List Event)
    (command : List Json) (outcome : CommandOutcome) : Prop :=
  ∃ (stage : rollout.Stage network steps start) (record : NetworkRecord),
    stage.Issues events command outcome ∧
    rollout.store.read stage.reached.files network = .ok record ∧
    (∀ taken ∈ stage.earlier.zip stage.answers,
      record.get? taken.1.recordField = some taken.2.2) ∧
    deployer.Signs rollout.configs stage.step record command

theorem mem_commands {before after : List Event} {command : List Json} {outcome : CommandOutcome} :
    command ∈ commands (before ++ .command command outcome :: after) := by
  simp [commands_cons]

/-- A command of the first step is issued at its stage. -/
theorem signed_first (real : rollout.deployer = deployer.toDeployer)
    {step : DeploymentStep} {rest : List DeploymentStep} {record : NetworkRecord}
    {before after : List Event} {command : List Json} {outcome : CommandOutcome}
    (adds : (finalState (rollout.takeStep network step start)).chain.events =
      start.chain.events ++ (before ++ .command command outcome :: after))
    (reads : rollout.store.read start.files network = .ok record)
    (signs : deployer.Signs rollout.configs step record command) :
    rollout.SignedOnRecord deployer network (step :: rest) start (start.chain.events ++ before)
      command outcome := by
  refine ⟨.first rollout network step rest start, record, ⟨List.prefix_append _ _, ?_⟩, reads, ?_,
    signs⟩
  · refine ⟨after, ?_⟩
    rw [Stage.ending, Stage.first, adds]
    simp
  · exact Stage.recorded _ (real ▸ deployer.answersFaithfully) reads

/-- A command of a later step is issued at a stage of the rest of the run. -/
theorem SignedOnRecord.after (real : rollout.deployer = deployer.toDeployer)
    {step : DeploymentStep} {address : Json} {middle : RunState Session}
    (takes : rollout.takeStep network step start = .ok address middle) {events : List Event}
    {command : List Json} {outcome : CommandOutcome}
    (signed : rollout.SignedOnRecord deployer network steps middle events command outcome) :
    rollout.SignedOnRecord deployer network (step :: steps) start events command outcome := by
  obtain ⟨stage, record, ⟨begun, issued⟩, reads, -, signs⟩ := signed
  exact ⟨stage.after takes, record, ⟨begun, issued⟩, reads,
    (stage.after takes).recorded (real ▸ deployer.answersFaithfully) reads, signs⟩

/-- An item of two lists in a row is in the first or in the second one. -/
theorem split_append {α : Type} {first second before after : List α} {item : α}
    (split : first ++ second = before ++ item :: after) :
    (∃ rest, first = before ++ item :: rest) ∨
      ∃ later, before = first ++ later ∧ second = later ++ item :: after := by
  rcases List.append_eq_append_iff.mp split with ⟨later, same, rest⟩ | ⟨shared, same, rest⟩
  · exact .inr ⟨later, same, rest⟩
  · cases shared with
    | nil => exact .inr ⟨[], by simpa using same.symm, by simpa using rest.symm⟩
    | cons other shared =>
        obtain ⟨rfl, -⟩ := List.cons.inj rest
        exact .inl ⟨shared, same⟩

/-- Steps only add events, and every command among them that instantiates code is issued at one
of their stages. -/
theorem runSteps_signs (real : rollout.deployer = deployer.toDeployer)
    (loaded : rollout.configs.Loaded) (network : Json) (steps : List DeploymentStep)
    (start : RunState Session) :
    ∃ happened,
      (finalState (rollout.runSteps network steps start)).chain.events =
        start.chain.events ++ happened ∧
      ∀ before command outcome after, happened = before ++ .command command outcome :: after →
        command[3]? = some (.string "instantiate") →
        rollout.SignedOnRecord deployer network steps start (start.chain.events ++ before) command
          outcome := by
  induction steps generalizing start with
  | nil => exact ⟨[], (List.append_nil _).symm, by simp⟩
  | cons step rest ih =>
      obtain ⟨during, adds, signs⟩ := takeStep_signs real loaded network step start
      have signedHere {before after : List Event} {command : List Json} {outcome : CommandOutcome}
          (split : during = before ++ .command command outcome :: after)
          (instantiates : command[3]? = some (.string "instantiate")) :
          rollout.SignedOnRecord deployer network (step :: rest) start
            (start.chain.events ++ before) command outcome := by
        rw [split] at adds signs
        obtain ⟨record, reads, signed⟩ := signs command mem_commands instantiates
        exact signed_first real adds reads signed
      cases takes : rollout.takeStep network step start with
      | error fault later =>
          rw [takes, finalState_error] at adds
          rw [runSteps_of_error takes, finalState_error]
          exact ⟨during, adds, fun before command outcome after split => signedHere split⟩
      | ok address middle =>
          obtain ⟨late, addsLate, signsLate⟩ := ih middle
          rw [takes, finalState_ok] at adds
          rw [finalState_runSteps_of_ok takes, addsLate, adds, List.append_assoc]
          refine ⟨during ++ late, rfl, ?_⟩
          intro before command outcome after split instantiates
          rcases split_append split with ⟨after, here⟩ | ⟨later, rfl, there⟩
          · exact signedHere here instantiates
          · have signed := signsLate later command outcome after there instantiates
            rw [adds, List.append_assoc] at signed
            exact signed.after real takes

/-- With configurations that were loaded and the deployer of a chain, a run only adds events.
Every command among them that instantiates code is issued at a stage, on the record that is
stored there, and it signs the configuration of that step. -/
theorem instantiations_signed {tree : FileTree} {environment : Environment} {given : Option String}
    (loads : ChainConfigs.load tree environment given = .ok rollout.configs)
    (real : rollout.deployer = deployer.toDeployer) (network : Json) (steps : List DeploymentStep)
    (start : RunState Session) :
    ∃ happened,
      (finalState (rollout.run network steps start)).chain.events =
        start.chain.events ++ happened ∧
      ∀ before command outcome after, happened = before ++ .command command outcome :: after →
        command[3]? = some (.string "instantiate") →
        rollout.SignedOnRecord deployer network steps start (start.chain.events ++ before) command
          outcome := by
  have loaded := ChainConfigs.load_loaded loads
  cases multisig : rollout.configs.requireMultisig with
  | error fault =>
      rw [run_of_multisig_error steps multisig]
      exact ⟨[], (List.append_nil _).symm, by simp⟩
  | ok address =>
      rw [rollout.finalState_run_of_multisig network steps start multisig]
      exact runSteps_signs real loaded network steps start

/-! ### A chain that accepts everything -/

/-- A configuration with a label, a multisig and a message that leaves its key open. -/
def openConfiguration : Members :=
  [("generalInfo", .object [("multisig", .string "terra1owner")]),
    ("cw20_ics20", .object
      [("label", .string "bridge"), ("initMsg", .object [("gov_contract", .null)])])]

theorem faithful_openConfiguration : Json.Faithful (.object openConfiguration) := by
  have text (key value : String) : Json.Faithful (.object [(key, .string value)]) :=
    .object (by simp [Members.keys]) (by simpa using .string value)
  have message : Json.Faithful (.object [("gov_contract", .null)]) :=
    .object (by simp [Members.keys]) (by simpa using .null)
  refine .object (by decide) ?_
  simp only [openConfiguration, List.forall_mem_cons, List.not_mem_nil, false_implies,
    implies_true, and_true]
  refine ⟨text _ _, .object (by decide) ?_⟩
  simp only [List.forall_mem_cons, List.not_mem_nil, false_implies, implies_true, and_true]
  exact ⟨.string _, message⟩

/-- The configuration of the first contract under its multisig. -/
def openConfigs : ChainConfigs :=
  { ChainConfigs.ofMultisig "terra1owner" with
    cw20Ics20 := ⟨.string "", .string "bridge", [("gov_contract", .null)]⟩ }

theorem load_openConfigs :
    ∃ tree, ChainConfigs.load tree [] (some "configs.json") = .ok openConfigs := by
  obtain ⟨text, writes⟩ :=
    Json.writeAt_of_legible faithful_openConfiguration.legible .compact 0
  have holds := Json.ofBytes_write Json.spaced_compact faithful_openConfiguration writes
  let tree := FileTree.empty.put (Place.working.child "configs.json")
    (.file (String.ofList text).toUTF8)
  have content : tree.content (.ofString "configs.json") = .ok (String.ofList text).toUTF8 := rfl
  have document := FileTree.document_ok.mpr ⟨_, content, holds⟩
  have path : ChainConfigs.path [] (some "configs.json") = .ofString "configs.json" := by
    simp [ChainConfigs.path]
  have found : tree.holds (.ofString "configs.json") = .ok true := rfl
  refine ⟨tree, ?_⟩
  rw [ChainConfigs.load_of_document (path ▸ found) (path ▸ document)]
  rfl

/-- A node that takes every transaction, on a chain that tells of each that it stored code. -/
def acceptingDeployer : ChainDeployer where
  connection :=
    { settings := { lcdUrl := "lcd", walletKey := "deployer" }
      surroundings :=
        { lcd := fun url _ =>
            if url = "lcd/cosmos/base/tendermint/v1beta1/node_info" then
              .answered 200 "\x7b\"default_node_info\":\x7b\"network\":\"pisco-1\"\x7d\x7d"
            else
              .answered 200 ("\x7b\"tx_response\":\x7b\"events\":[\x7b\"type\":\"store_code\","
                ++ "\"attributes\":[\x7b\"key\":\"code_id\",\"value\":\"7\"\x7d]\x7d]\x7d\x7d")
          cli := fun _ => .succeeded "\x7b\"txhash\":\"A\"\x7d" } }
  wallet := ⟨"deployer", "terra1deployer"⟩

/-- A node that takes every transaction, on a chain that tells of each that it stored code and
made a contract. The transactions that store code have one hash, those that instantiate it
another. -/
def confirmingChain (stored instantiated : String) : Surroundings where
  lcd := fun url _ =>
    if url = "lcd/cosmos/base/tendermint/v1beta1/node_info" then
      .answered 200 "\x7b\"default_node_info\":\x7b\"network\":\"pisco-1\"\x7d\x7d"
    else
      .answered 200 ("\x7b\"tx_response\":\x7b\"events\":["
        ++ "\x7b\"type\":\"store_code\",\"attributes\":["
        ++ "\x7b\"key\":\"code_id\",\"value\":\"7\"\x7d]\x7d,"
        ++ "\x7b\"type\":\"instantiate\",\"attributes\":["
        ++ "\x7b\"key\":\"_contract_address\",\"value\":\"terra1\"\x7d]\x7d]\x7d\x7d")
  cli := fun earlier =>
    .succeeded ("\x7b\"txhash\":\"" ++ (if earlier % 2 = 0 then stored else instantiated) ++ "\"\x7d")

def acceptedRollout : Rollout Session where
  deployer := acceptingDeployer.toDeployer
  configs := openConfigs
  store := .ofText "artifacts"
  wasmPath := .ofString "wasm"
  keyName := "deployer"

/-- The code of the first contract is there, and nothing else. -/
def codeOnly : FileTree :=
  (FileTree.empty.put (Place.working.child "wasm") .directory).put
    ((Place.working.child "wasm").child "astroport_cw20_ics20.wasm") (.file ⟨#[]⟩)

def acceptedStart : RunState Session := ⟨.empty (.string "pisco-1"), codeOnly, {}⟩

def isInstantiation : Event → Bool
  | .command arguments _ =>
      match arguments[3]? with
      | some (Json.string verb) => verb = "instantiate"
      | _ => false
  | _ => false

/-- On such a chain the first contract is instantiated, and the command signs its configuration
on the empty record. -/
theorem instantiation_signed_of_accepted :
    ∃ before command outcome after,
      (finalState (acceptedRollout.run (.string "pisco-1") [.cw20Ics20] acceptedStart)).chain.events =
        before ++ .command command outcome :: after ∧
      command[3]? = some (.string "instantiate") ∧
      acceptedRollout.SignedOnRecord acceptingDeployer (.string "pisco-1") [.cw20Ics20]
        acceptedStart before command outcome := by
  obtain ⟨tree, loads⟩ := load_openConfigs
  obtain ⟨happened, adds, signed⟩ :=
    @instantiations_signed acceptedRollout acceptingDeployer tree [] (some "configs.json") loads rfl
      (.string "pisco-1") [.cw20Ics20] acceptedStart
  have issued : (finalState (acceptedRollout.run (.string "pisco-1") [.cw20Ics20]
      acceptedStart)).chain.events.any isInstantiation = true := by
    decide +kernel
  rw [adds] at issued ⊢
  obtain ⟨event, member, instantiates⟩ := List.any_eq_true.mp issued
  obtain ⟨before, after, split⟩ := List.append_of_mem (show event ∈ happened from member)
  cases event with
  | command arguments outcome =>
      have verb : arguments[3]? = some (.string "instantiate") := by
        simp only [isInstantiation] at instantiates
        split at instantiates
        · rename_i verb
          rw [verb, of_decide_eq_true instantiates]
        · simp at instantiates
      exact ⟨before, arguments, outcome, after, split, verb,
        signed before arguments outcome after split verb⟩
  | request | pause | line => simp [isInstantiation] at instantiates

end Rollout

end ContractRollout
