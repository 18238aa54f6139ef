import ContractRollout.Proofs.Outcomes
import ContractRollout.Proofs.Record.Network
import ContractRollout.Rollout.Run

/-!
# What one step can do

A step reads the record, finds its contract there, or deploys it and keeps its address.
It can stop at each of these, and every way it can go is one case here. A run is its
steps one after the other up to the first that stops.
-/

namespace ContractRollout

namespace Rollout

variable {σ : Type} (rollout : Rollout σ)

/-- What the deployer is asked for a step. -/
def request (step : DeploymentStep) (resolved : ResolvedContract) : DeployRequest where
  keyName := rollout.keyName
  admin := resolved.admin
  wasmPath := rollout.wasmPath.join (.ofString step.wasmFile)
  initMessage := resolved.initMessage
  label := resolved.label

/-- The log before a step deploys. -/
def announceStart (step : DeploymentStep) (chain : σ) : σ :=
  rollout.deployer.announce ("[INFO] Deploying " ++ step.name ++ "...") chain

/-- The log after a step has deployed. -/
def announceAddress (step : DeploymentStep) (address : Json) (chain : σ) : σ :=
  rollout.deployer.announce ("[OK] " ++ step.name ++ " address: " ++ address.text) chain

/-- The log when a step finds its contract in the record. -/
def announceFound (step : DeploymentStep) (address : Json) (chain : σ) : σ :=
  rollout.deployer.announce ("[OK] " ++ step.name ++ " already deployed: " ++ address.text) chain

/-- One step of a run: it starts on the stored record. -/
def takeStep (network : Json) (step : DeploymentStep) : RunAction σ Json := do
  rollout.readRecord network
  rollout.deployStep step

/-- The ways that a step can go from a state, with what it ends in. -/
inductive StepOutcome (network : Json) (step : DeploymentStep) (state : RunState σ) :
    EStateM.Result Fault (RunState σ) Json → Prop
  /-- The record cannot be read. -/
  | unreadable {fault : Fault} (reads : rollout.store.read state.files network = .error fault) :
      StepOutcome network step state (.error fault state)
  /-- The record has the contract. -/
  | found {record : NetworkRecord} {address : Json}
      (reads : rollout.store.read state.files network = .ok record)
      (populated : record.get? step.recordField = some address) :
      StepOutcome network step state
        (.ok address ⟨record, state.files, rollout.announceFound step address state.chain⟩)
  /-- A contract that this one needs is not in the record. -/
  | blocked {record : NetworkRecord} {dependency : Dependency} {others : List Dependency}
      (reads : rollout.store.read state.files network = .ok record)
      (vacant : record.get? step.recordField = none)
      (missing : step.missingDependencies record = dependency :: others) :
      StepOutcome network step state
        (.error (.dependencyMissing step.name dependency.name)
          ⟨record, state.files, state.chain⟩)
  /-- The configuration has no part for the contract. -/
  | unresolved {record : NetworkRecord} {fault : Fault}
      (reads : rollout.store.read state.files network = .ok record)
      (vacant : record.get? step.recordField = none)
      (complete : step.missingDependencies record = [])
      (resolves : step.resolve rollout.configs record = .error fault) :
      StepOutcome network step state (.error fault ⟨record, state.files, state.chain⟩)
  /-- The deployer fails. -/
  | refused {record : NetworkRecord} {resolved : ResolvedContract} {fault : Fault} {chain : σ}
      (reads : rollout.store.read state.files network = .ok record)
      (vacant : record.get? step.recordField = none)
      (complete : step.missingDependencies record = [])
      (resolves : step.resolve rollout.configs record = .ok resolved)
      (deploys : rollout.deployer.deploy state.files (rollout.request step resolved)
        (rollout.announceStart step state.chain) = .error fault chain) :
      StepOutcome network step state (.error fault ⟨record, state.files, chain⟩)
  /-- The contract is deployed, but the record cannot be saved. -/
  | unsaved {record : NetworkRecord} {resolved : ResolvedContract} {address : Json}
      {fault : Fault} {chain : σ} {files : FileTree}
      (reads : rollout.store.read state.files network = .ok record)
      (vacant : record.get? step.recordField = none)
      (complete : step.missingDependencies record = [])
      (resolves : step.resolve rollout.configs record = .ok resolved)
      (deploys : rollout.deployer.deploy state.files (rollout.request step resolved)
        (rollout.announceStart step state.chain) = .ok address chain)
      (writes : rollout.store.write (record.put step.recordField address) record.network
        state.files = .error fault files) :
      StepOutcome network step state
        (.error (unrecorded step record.network address fault)
          ⟨record.put step.recordField address, files, chain⟩)
  /-- The contract is deployed and its address is saved. -/
  | deployed {record : NetworkRecord} {resolved : ResolvedContract} {address : Json}
      {chain : σ} {files : FileTree}
      (reads : rollout.store.read state.files network = .ok record)
      (vacant : record.get? step.recordField = none)
      (complete : step.missingDependencies record = [])
      (resolves : step.resolve rollout.configs record = .ok resolved)
      (deploys : rollout.deployer.deploy state.files (rollout.request step resolved)
        (rollout.announceStart step state.chain) = .ok address chain)
      (writes : rollout.store.write (record.put step.recordField address) record.network
        state.files = .ok () files) :
      StepOutcome network step state
        (.ok address ⟨record.put step.recordField address, files,
          rollout.announceAddress step address chain⟩)

variable {rollout} {network : Json} {step : DeploymentStep} {state : RunState σ}

theorem takeStep_of_unreadable {fault : Fault}
    (reads : rollout.store.read state.files network = .error fault) :
    rollout.takeStep network step state = .error fault state := by
  simp [takeStep, readRecord, bind, EStateM.bind, get, getThe, MonadStateOf.get, EStateM.get,
    reads, orFault, throw, throwThe, MonadExceptOf.throw, EStateM.throw]

theorem takeStep_of_read {record : NetworkRecord}
    (reads : rollout.store.read state.files network = .ok record) :
    rollout.takeStep network step state =
      rollout.deployStep step ⟨record, state.files, state.chain⟩ := by
  simp [takeStep, readRecord, bind, EStateM.bind, get, getThe, MonadStateOf.get, EStateM.get,
    reads, orFault, pure, EStateM.pure, modify, modifyGet, MonadStateOf.modifyGet,
    EStateM.modifyGet]

theorem deployStep_of_found {record : NetworkRecord} {address : Json} {files : FileTree} {chain : σ}
    (populated : record.get? step.recordField = some address) :
    rollout.deployStep step ⟨record, files, chain⟩ =
      .ok address ⟨record, files, rollout.announceFound step address chain⟩ := by
  simp [deployStep, announce, announceFound, bind, EStateM.bind, get, getThe, MonadStateOf.get,
    EStateM.get, populated, pure, EStateM.pure, modify, modifyGet, MonadStateOf.modifyGet,
    EStateM.modifyGet]

theorem deployStep_of_blocked {record : NetworkRecord} {dependency : Dependency}
    {others : List Dependency} {files : FileTree} {chain : σ}
    (vacant : record.get? step.recordField = none)
    (missing : step.missingDependencies record = dependency :: others) :
    rollout.deployStep step ⟨record, files, chain⟩ =
      .error (.dependencyMissing step.name dependency.name) ⟨record, files, chain⟩ := by
  simp [deployStep, bind, EStateM.bind, get, getThe, MonadStateOf.get, EStateM.get, vacant,
    missing, throw, throwThe, MonadExceptOf.throw, EStateM.throw]

theorem deployStep_of_unresolved {record : NetworkRecord} {fault : Fault} {files : FileTree}
    {chain : σ} (vacant : record.get? step.recordField = none)
    (complete : step.missingDependencies record = [])
    (resolves : step.resolve rollout.configs record = .error fault) :
    rollout.deployStep step ⟨record, files, chain⟩ = .error fault ⟨record, files, chain⟩ := by
  simp [deployStep, bind, EStateM.bind, get, getThe, MonadStateOf.get, EStateM.get, vacant,
    complete, resolves, orFault, throw, throwThe, MonadExceptOf.throw, EStateM.throw]

/-- With everything in place a step announces itself, deploys, and keeps the address. -/
theorem deployStep_of_resolved {record : NetworkRecord} {resolved : ResolvedContract}
    {files : FileTree} {chain : σ} (vacant : record.get? step.recordField = none)
    (complete : step.missingDependencies record = [])
    (resolves : step.resolve rollout.configs record = .ok resolved) :
    rollout.deployStep step ⟨record, files, chain⟩ =
      (do
        let address ← rollout.deploy step resolved
        rollout.keep step address
        rollout.announce ("[OK] " ++ step.name ++ " address: " ++ address.text)
        return address) ⟨record, files, rollout.announceStart step chain⟩ := by
  simp only [deployStep, bind, EStateM.bind, get, getThe, MonadStateOf.get, EStateM.get, vacant,
    complete, resolves, orFault, pure, EStateM.pure]
  rfl

theorem deploy_of_ok {resolved : ResolvedContract} {address : Json} {later : σ}
    (deploys : rollout.deployer.deploy state.files (rollout.request step resolved) state.chain =
      .ok address later) :
    rollout.deploy step resolved state = .ok address { state with chain := later } := by
  unfold request at deploys
  simp [deploy, RunAction.ofChain, deploys]

theorem deploy_of_error {resolved : ResolvedContract} {fault : Fault} {later : σ}
    (deploys : rollout.deployer.deploy state.files (rollout.request step resolved) state.chain =
      .error fault later) :
    rollout.deploy step resolved state = .error fault { state with chain := later } := by
  unfold request at deploys
  simp [deploy, RunAction.ofChain, deploys]

theorem ofRecord_of_ok {α : Type} {action : EStateM Fault NetworkRecord α} {value : α}
    {later : NetworkRecord} (works : action state.record = .ok value later) :
    RunAction.ofRecord action state = .ok value { state with record := later } := by
  rw [RunAction.ofRecord, works]

/-- A vacant field is filled before the record is saved. -/
theorem keep_of_vacant {record : NetworkRecord} {files : FileTree} {chain : σ}
    (vacant : record.get? step.recordField = none) (address : Json) :
    rollout.keep step address ⟨record, files, chain⟩ =
      RunAction.ofFiles
        (EStateM.adaptExcept (unrecorded step record.network address)
          (rollout.store.write (record.put step.recordField address) record.network))
        ⟨record.put step.recordField address, files, chain⟩ := by
  rw [keep, bind_of_ok (ofRecord_of_ok (NetworkRecord.set_of_vacant vacant address))]
  rfl

theorem keep_of_ok {record : NetworkRecord} {address : Json} {files later : FileTree} {chain : σ}
    (vacant : record.get? step.recordField = none)
    (writes : rollout.store.write (record.put step.recordField address) record.network files =
      .ok () later) :
    rollout.keep step address ⟨record, files, chain⟩ =
      .ok () ⟨record.put step.recordField address, later, chain⟩ := by
  rw [keep_of_vacant vacant]
  simp [RunAction.ofFiles, EStateM.adaptExcept, writes]

theorem keep_of_error {record : NetworkRecord} {address : Json} {fault : Fault}
    {files later : FileTree} {chain : σ} (vacant : record.get? step.recordField = none)
    (writes : rollout.store.write (record.put step.recordField address) record.network files =
      .error fault later) :
    rollout.keep step address ⟨record, files, chain⟩ =
      .error (unrecorded step record.network address fault)
        ⟨record.put step.recordField address, later, chain⟩ := by
  rw [keep_of_vacant vacant]
  simp [RunAction.ofFiles, EStateM.adaptExcept, writes]

/-- A way that a step can go is the way that it goes. -/
theorem StepOutcome.eq {result : EStateM.Result Fault (RunState σ) Json}
    (outcome : rollout.StepOutcome network step state result) :
    rollout.takeStep network step state = result := by
  cases outcome with
  | unreadable reads => exact takeStep_of_unreadable reads
  | found reads populated => rw [takeStep_of_read reads, deployStep_of_found populated]
  | blocked reads vacant missing => rw [takeStep_of_read reads, deployStep_of_blocked vacant missing]
  | unresolved reads vacant complete resolves =>
      rw [takeStep_of_read reads, deployStep_of_unresolved vacant complete resolves]
  | refused reads vacant complete resolves deploys =>
      rw [takeStep_of_read reads, deployStep_of_resolved vacant complete resolves,
        bind_of_error (deploy_of_error deploys)]
  | unsaved reads vacant complete resolves deploys writes =>
      rw [takeStep_of_read reads, deployStep_of_resolved vacant complete resolves,
        bind_of_ok (deploy_of_ok deploys), bind_of_error (keep_of_error vacant writes)]
  | deployed reads vacant complete resolves deploys writes =>
      rw [takeStep_of_read reads, deployStep_of_resolved vacant complete resolves,
        bind_of_ok (deploy_of_ok deploys), bind_of_ok (keep_of_ok vacant writes)]
      rfl

/-- Every step goes one of the ways. -/
theorem takeStep_outcome (rollout : Rollout σ) (network : Json) (step : DeploymentStep)
    (state : RunState σ) :
    rollout.StepOutcome network step state (rollout.takeStep network step state) := by
  cases reads : rollout.store.read state.files network with
  | error fault =>
      have outcome : rollout.StepOutcome network step state _ := .unreadable reads
      rwa [outcome.eq]
  | ok record =>
      cases vacant : record.get? step.recordField with
      | some address =>
          have outcome := StepOutcome.found reads vacant
          rwa [outcome.eq]
      | none =>
          cases missing : step.missingDependencies record with
          | cons dependency others =>
              have outcome := StepOutcome.blocked reads vacant missing
              rwa [outcome.eq]
          | nil =>
              cases resolves : step.resolve rollout.configs record with
              | error fault =>
                  have outcome := StepOutcome.unresolved reads vacant missing resolves
                  rwa [outcome.eq]
              | ok resolved =>
                  cases deploys : rollout.deployer.deploy state.files
                      (rollout.request step resolved)
                      (rollout.announceStart step state.chain) with
                  | error fault chain =>
                      have outcome := StepOutcome.refused reads vacant missing resolves deploys
                      rwa [outcome.eq]
                  | ok address chain =>
                      cases writes : rollout.store.write (record.put step.recordField address)
                          record.network state.files with
                      | error fault files =>
                          have outcome :=
                            StepOutcome.unsaved reads vacant missing resolves deploys writes
                          rwa [outcome.eq]
                      | ok _ files =>
                          have outcome :=
                            StepOutcome.deployed reads vacant missing resolves deploys writes
                          rwa [outcome.eq]

/-! ### Steps in a run -/

theorem runSteps_cons (rollout : Rollout σ) (network : Json) (step : DeploymentStep)
    (rest : List DeploymentStep) :
    rollout.runSteps network (step :: rest) = (do
      let address ← rollout.takeStep network step
      let addresses ← rollout.runSteps network rest
      return (step.name, address) :: addresses) := by
  funext state
  rw [runSteps]
  simp only [takeStep, bind, EStateM.bind]
  cases rollout.readRecord network state <;> rfl

theorem runSteps_of_error {rest : List DeploymentStep} {fault : Fault} {later : RunState σ}
    (stops : rollout.takeStep network step state = .error fault later) :
    rollout.runSteps network (step :: rest) state = .error fault later := by
  rw [runSteps_cons, bind_of_error stops]

/-- After its first step a run ends like the run of the other steps. -/
theorem finalState_runSteps_of_ok {rest : List DeploymentStep} {address : Json}
    {middle : RunState σ} (goesOn : rollout.takeStep network step state = .ok address middle) :
    finalState (rollout.runSteps network (step :: rest) state) =
      finalState (rollout.runSteps network rest middle) := by
  rw [runSteps_cons, bind_of_ok goesOn, finalState_map]

theorem runSteps_ok {rest : List DeploymentStep} {addresses : Members} {later : RunState σ} :
    rollout.runSteps network (step :: rest) state = .ok addresses later ↔
      ∃ address middle others, rollout.takeStep network step state = .ok address middle ∧
        rollout.runSteps network rest middle = .ok others later ∧
        addresses = (step.name, address) :: others := by
  rw [runSteps_cons]
  cases takes : rollout.takeStep network step state with
  | error fault middle => simp [bind_of_error takes]
  | ok address middle =>
      rw [bind_of_ok takes]
      cases runs : rollout.runSteps network rest middle with
      | error fault final => simp [bind_of_error runs, runs]
      | ok others final =>
          rw [bind_of_ok runs]
          constructor
          · intro same
            obtain ⟨rfl, rfl⟩ := EStateM.Result.ok.inj same
            exact ⟨address, middle, others, rfl, runs, rfl⟩
          · rintro ⟨_, _, _, sameFirst, sameOthers, rfl⟩
            obtain ⟨rfl, rfl⟩ := EStateM.Result.ok.inj sameFirst
            obtain ⟨rfl, rfl⟩ := EStateM.Result.ok.inj (runs.symm.trans sameOthers)
            rfl

/-- Steps and then others are one run of steps. -/
theorem runSteps_append (rollout : Rollout σ) (network : Json)
    (earlier rest : List DeploymentStep) :
    rollout.runSteps network (earlier ++ rest) = (do
      let answers ← rollout.runSteps network earlier
      let others ← rollout.runSteps network rest
      return answers ++ others) := by
  induction earlier with
  | nil => simp [runSteps]
  | cons step earlier ih => simp [runSteps_cons, ih]

theorem runSteps_append_ok {earlier rest : List DeploymentStep} {addresses : Members}
    {later : RunState σ} :
    rollout.runSteps network (earlier ++ rest) state = .ok addresses later ↔
      ∃ answers reached others, rollout.runSteps network earlier state = .ok answers reached ∧
        rollout.runSteps network rest reached = .ok others later ∧
        addresses = answers ++ others := by
  rw [runSteps_append, bind_ok_iff]
  simp only [bind_ok_iff]
  constructor
  · rintro ⟨answers, reached, arrives, others, final, runs, same⟩
    obtain ⟨rfl, rfl⟩ := EStateM.Result.ok.inj same
    exact ⟨answers, reached, others, arrives, runs, rfl⟩
  · rintro ⟨answers, reached, others, arrives, runs, rfl⟩
    exact ⟨answers, reached, arrives, others, later, runs, rfl⟩

-- From here on a step is known by its outcomes only.
attribute [irreducible] takeStep

theorem run_of_multisig_error {fault : Fault} (steps : List DeploymentStep)
    (unset : rollout.configs.requireMultisig = .error fault) :
    rollout.run network steps state = .error fault state := by
  unfold run
  exact bind_of_error (by rw [unset]; rfl)

/-- With a multisig a run is its steps, and the last address of a name counts. -/
theorem run_of_multisig {multisig : Json} (steps : List DeploymentStep)
    (set : rollout.configs.requireMultisig = .ok multisig) :
    rollout.run network steps state =
      (do return (← rollout.runSteps network steps).collect) state := by
  unfold run
  exact bind_of_ok (by rw [set]; rfl)

theorem finalState_run_of_multisig {multisig : Json} (rollout : Rollout σ) (network : Json)
    (steps : List DeploymentStep) (state : RunState σ)
    (set : rollout.configs.requireMultisig = .ok multisig) :
    finalState (rollout.run network steps state) =
      finalState (rollout.runSteps network steps state) := by
  rw [run_of_multisig steps set, finalState_map]

/-- With a multisig a run stops where its steps do. -/
theorem run_error_of_multisig {multisig : Json} {steps : List DeploymentStep} {fault : Fault}
    {later : RunState σ} (set : rollout.configs.requireMultisig = .ok multisig) :
    rollout.run network steps state = .error fault later ↔
      rollout.runSteps network steps state = .error fault later := by
  rw [run_of_multisig steps set, bind_error_iff]
  simp [pure, EStateM.pure]

theorem run_ok {steps : List DeploymentStep} {addresses : Members} {later : RunState σ} :
    rollout.run network steps state = .ok addresses later ↔
      (∃ multisig, rollout.configs.requireMultisig = .ok multisig) ∧
        ∃ answers, rollout.runSteps network steps state = .ok answers later ∧
          addresses = answers.collect := by
  cases multisig : rollout.configs.requireMultisig with
  | error fault => simp [run_of_multisig_error steps multisig]
  | ok address =>
      rw [run_of_multisig steps multisig]
      cases runs : rollout.runSteps network steps state with
      | error fault final => simp [bind_of_error runs]
      | ok answers final =>
          rw [bind_of_ok runs]
          constructor
          · intro same
            obtain ⟨rfl, rfl⟩ := EStateM.Result.ok.inj same
            exact ⟨⟨address, rfl⟩, answers, rfl, rfl⟩
          · rintro ⟨-, _, same, rfl⟩
            obtain ⟨rfl, rfl⟩ := EStateM.Result.ok.inj same
            rfl

end Rollout

end ContractRollout
