import ContractRollout.Proofs.Record.Writable
import ContractRollout.Proofs.Rollout.Effects

/-!
# Runs in memory

A run reads the stored record before every step and rewrites it after every deployment.
As long as it can be written this is the same as reading the record once and keeping it
in memory: the deployer gets the same calls, the log has the same lines, the run ends
in the same way, and the stored record is the one in memory.

The relation between the two runs is that the stored record reads as the one in memory,
can be stored again, and can be written.
-/

namespace ContractRollout

/-- A run in memory: the record, and the state of the deployer. -/
structure MemoryState (σ : Type) where
  record : NetworkRecord
  chain : σ

namespace Rollout

variable {σ : Type} (rollout : Rollout σ)

def announceInMemory (line : String) : EStateM Fault (MemoryState σ) Unit :=
  modify fun state => { state with chain := rollout.deployer.announce line state.chain }

/-- A step that keeps the record in memory. The deployer finds no files. -/
def deployStepInMemory (step : DeploymentStep) : EStateM Fault (MemoryState σ) Json := do
  let record := (← get).record
  match record.get? step.recordField with
  | some address =>
      rollout.announceInMemory ("[OK] " ++ step.name ++ " already deployed: " ++ address.text)
      return address
  | none =>
      match step.missingDependencies record with
      | dependency :: _ => throw (.dependencyMissing step.name dependency.name)
      | [] =>
          let resolved ← orFault (step.resolve rollout.configs record)
          rollout.announceInMemory ("[INFO] Deploying " ++ step.name ++ "...")
          let address ← fun state : MemoryState σ =>
            match rollout.deployer.deploy .empty (rollout.request step resolved) state.chain with
            | .ok address chain => .ok address { state with chain := chain }
            | .error fault chain => .error fault { state with chain := chain }
          fun state : MemoryState σ =>
            match NetworkRecord.set step.recordField address state.record with
            | .ok _ record => .ok () { state with record := record }
            | .error fault record => .error fault { state with record := record }
          rollout.announceInMemory ("[OK] " ++ step.name ++ " address: " ++ address.text)
          return address

/-- Steps one after the other on one record in memory, up to the first that fails. -/
def runStepsInMemory : List DeploymentStep → EStateM Fault (MemoryState σ) Members
  | [] => return []
  | step :: rest => do
      let address ← rollout.deployStepInMemory step
      let addresses ← runStepsInMemory rest
      return (step.name, address) :: addresses

def runInMemory (steps : List DeploymentStep) : EStateM Fault (MemoryState σ) Members := do
  let _ ← orFault rollout.configs.requireMultisig
  return (← rollout.runStepsInMemory steps).collect

variable {rollout}

/-- The stored record of a network is one in memory, and it can be replaced. -/
structure Mirrors (store : ArtifactStore) (network : Json) (files : FileTree)
    (record : NetworkRecord) : Prop where
  reads : store.read files network = .ok record
  storable : record.Storable
  writable : store.Writable network files

/-- A run on files and one in memory end in the same way, with the same state of the
deployer and the same record. -/
inductive SameEnding {α : Type} (store : ArtifactStore) (network : Json) :
    EStateM.Result Fault (RunState σ) α → EStateM.Result Fault (MemoryState σ) α → Prop
  | ok {value : α} {state : RunState σ} {record : NetworkRecord}
      (mirrors : Mirrors store network state.files record) :
      SameEnding store network (.ok value state) (.ok value ⟨record, state.chain⟩)
  | error {fault : Fault} {state : RunState σ} {record : NetworkRecord}
      (mirrors : Mirrors store network state.files record) :
      SameEnding store network (.error fault state) (.error fault ⟨record, state.chain⟩)

theorem SameEnding.map {α β : Type} {store : ArtifactStore} {network : Json}
    {onFiles : RunAction σ α} {inMemory : EStateM Fault (MemoryState σ) α} {state : RunState σ}
    {memory : MemoryState σ}
    (same : SameEnding store network (onFiles state) (inMemory memory)) (change : α → β) :
    SameEnding store network ((do return change (← onFiles)) state)
      ((do return change (← inMemory)) memory) := by
  generalize result : onFiles state = ending at same
  generalize resultInMemory : inMemory memory = endingInMemory at same
  cases same with
  | ok mirrors =>
      rw [bind_of_ok result, bind_of_ok resultInMemory]
      exact .ok mirrors
  | error mirrors =>
      rw [bind_of_error result, bind_of_error resultInMemory]
      exact .error mirrors

variable {network : Json} {step : DeploymentStep} {record : NetworkRecord} {chain later : σ}
  {resolved : ResolvedContract} {address : Json} {fault : Fault}

theorem deployStepInMemory_of_found (populated : record.get? step.recordField = some address) :
    rollout.deployStepInMemory step ⟨record, chain⟩ =
      .ok address ⟨record, rollout.announceFound step address chain⟩ := by
  simp [deployStepInMemory, announceInMemory, announceFound, bind, EStateM.bind, get, getThe,
    MonadStateOf.get, EStateM.get, populated, pure, EStateM.pure, modify, modifyGet,
    MonadStateOf.modifyGet, EStateM.modifyGet]

theorem deployStepInMemory_of_blocked {dependency : Dependency} {others : List Dependency}
    (vacant : record.get? step.recordField = none)
    (missing : step.missingDependencies record = dependency :: others) :
    rollout.deployStepInMemory step ⟨record, chain⟩ =
      .error (.dependencyMissing step.name dependency.name) ⟨record, chain⟩ := by
  simp [deployStepInMemory, bind, EStateM.bind, get, getThe, MonadStateOf.get, EStateM.get,
    vacant, missing, throw, throwThe, MonadExceptOf.throw, EStateM.throw]

theorem deployStepInMemory_of_unresolved (vacant : record.get? step.recordField = none)
    (complete : step.missingDependencies record = [])
    (resolves : step.resolve rollout.configs record = .error fault) :
    rollout.deployStepInMemory step ⟨record, chain⟩ = .error fault ⟨record, chain⟩ := by
  simp [deployStepInMemory, bind, EStateM.bind, get, getThe, MonadStateOf.get, EStateM.get,
    vacant, complete, resolves, orFault, throw, throwThe, MonadExceptOf.throw, EStateM.throw]

theorem deployStepInMemory_of_refused (vacant : record.get? step.recordField = none)
    (complete : step.missingDependencies record = [])
    (resolves : step.resolve rollout.configs record = .ok resolved)
    (deploys : rollout.deployer.deploy .empty (rollout.request step resolved)
      (rollout.announceStart step chain) = .error fault later) :
    rollout.deployStepInMemory step ⟨record, chain⟩ = .error fault ⟨record, later⟩ := by
  unfold announceStart at deploys
  simp [deployStepInMemory, announceInMemory, bind, EStateM.bind, get, getThe, MonadStateOf.get,
    EStateM.get, vacant, complete, resolves, orFault, pure, EStateM.pure, modify, modifyGet,
    MonadStateOf.modifyGet, EStateM.modifyGet, deploys]

theorem deployStepInMemory_of_deployed (vacant : record.get? step.recordField = none)
    (complete : step.missingDependencies record = [])
    (resolves : step.resolve rollout.configs record = .ok resolved)
    (deploys : rollout.deployer.deploy .empty (rollout.request step resolved)
      (rollout.announceStart step chain) = .ok address later) :
    rollout.deployStepInMemory step ⟨record, chain⟩ =
      .ok address ⟨record.put step.recordField address,
        rollout.announceAddress step address later⟩ := by
  unfold announceStart at deploys
  simp [deployStepInMemory, announceInMemory, announceAddress, bind, EStateM.bind, get, getThe,
    MonadStateOf.get, EStateM.get, vacant, complete, resolves, orFault, pure, EStateM.pure, modify,
    modifyGet, MonadStateOf.modifyGet, EStateM.modifyGet, deploys,
    NetworkRecord.set_of_vacant vacant]

end Rollout

/-- The deployer does not look at the files. -/
def Deployer.Blind {σ : Type} (deployer : Deployer σ) : Prop :=
  ∀ first second request chain,
    deployer.deploy first request chain = deployer.deploy second request chain

theorem Deployer.Blind.watched {σ : Type} {deployer : Deployer σ} (blind : deployer.Blind) :
    deployer.watched.Blind := by
  intro first second request watched
  simp only [Deployer.watched, blind first second]

theorem Deployer.Gives.watched {σ : Type} {deployer : Deployer σ} {allowed : String → Prop}
    (gives : deployer.Gives allowed) : deployer.watched.Gives allowed := by
  intro files request watched
  rcases gives files request watched.chain with ⟨text, later, deploys, given⟩ | ⟨cause, later, fails⟩
  · exact .inl ⟨text, _, by simp only [Deployer.watched, deploys]; rfl, given⟩
  · exact .inr ⟨cause, _, by simp only [Deployer.watched, fails]; rfl⟩

namespace Rollout

variable {σ : Type} {rollout : Rollout σ} {allowed : String → Prop} {network : Json}
  {record : NetworkRecord} {state : RunState σ}

theorem takeStep_sameEnding (blind : rollout.deployer.Blind)
    (gives : rollout.deployer.Gives allowed) (step : DeploymentStep)
    (mirrors : Mirrors rollout.store network state.files record) :
    SameEnding rollout.store network (rollout.takeStep network step state)
      (rollout.deployStepInMemory step ⟨record, state.chain⟩) := by
  have outcome := rollout.takeStep_outcome network step state
  generalize rollout.takeStep network step state = result at outcome
  cases outcome with
  | unreadable reads => exact absurd (mirrors.reads.symm.trans reads) (by simp)
  | found reads populated =>
      obtain rfl := ArtifactStore.read_unique mirrors.reads reads
      rw [deployStepInMemory_of_found populated]
      exact .ok mirrors
  | blocked reads vacant missing =>
      obtain rfl := ArtifactStore.read_unique mirrors.reads reads
      rw [deployStepInMemory_of_blocked vacant missing]
      exact .error mirrors
  | unresolved reads vacant complete resolves =>
      obtain rfl := ArtifactStore.read_unique mirrors.reads reads
      rw [deployStepInMemory_of_unresolved vacant complete resolves]
      exact .error mirrors
  | refused reads vacant complete resolves deploys =>
      obtain rfl := ArtifactStore.read_unique mirrors.reads reads
      rw [blind state.files .empty] at deploys
      rw [deployStepInMemory_of_refused vacant complete resolves deploys]
      exact .error mirrors
  | unsaved reads vacant complete resolves deploys writes =>
      obtain rfl := ArtifactStore.read_unique mirrors.reads reads
      obtain ⟨text, rfl, -⟩ := gives.of_ok deploys
      have storable := mirrors.storable.put_string step.recordField text
      obtain ⟨after, works, -⟩ := mirrors.writable.write storable
      rw [(ArtifactStore.read_legible reads).1] at writes
      exact absurd (writes.symm.trans works) (by simp)
  | @deployed other resolved address chain files reads vacant complete resolves deploys writes =>
      obtain rfl := ArtifactStore.read_unique mirrors.reads reads
      obtain ⟨text, rfl, -⟩ := gives.of_ok deploys
      have named := (ArtifactStore.read_legible reads).1
      have storable := mirrors.storable.put_string step.recordField text
      obtain ⟨after, works, writable⟩ := mirrors.writable.write storable
      rw [named] at writes
      obtain ⟨-, rfl⟩ := EStateM.Result.ok.inj (works.symm.trans writes)
      have back := (ArtifactStore.written_of_write works).read storable
      have same : record.put step.recordField (.string text) =
          ⟨network, (record.put step.recordField (.string text)).fields⟩ := by
        rw [← named]
        rfl
      rw [blind state.files .empty] at deploys
      rw [deployStepInMemory_of_deployed vacant complete resolves deploys]
      exact .ok ⟨same ▸ back, storable, writable⟩

theorem runSteps_sameEnding (blind : rollout.deployer.Blind)
    (gives : rollout.deployer.Gives allowed) (steps : List DeploymentStep)
    (mirrors : Mirrors rollout.store network state.files record) :
    SameEnding rollout.store network (rollout.runSteps network steps state)
      (rollout.runStepsInMemory steps ⟨record, state.chain⟩) := by
  induction steps generalizing state record with
  | nil => exact .ok mirrors
  | cons step rest ih =>
      have first := takeStep_sameEnding blind gives step mirrors
      cases takes : rollout.takeStep network step state with
      | error fault later =>
          rw [takes] at first
          rw [runSteps_of_error takes, runStepsInMemory]
          generalize inMemory : rollout.deployStepInMemory step ⟨record, state.chain⟩ = result at first
          cases first with
          | error mirrorsLater =>
              rw [bind_of_error inMemory]
              exact .error mirrorsLater
      | ok address later =>
          rw [takes] at first
          rw [runSteps_cons, bind_of_ok takes, runStepsInMemory]
          generalize inMemory : rollout.deployStepInMemory step ⟨record, state.chain⟩ = result at first
          cases first with
          | ok mirrorsLater =>
              rw [bind_of_ok inMemory]
              exact (ih mirrorsLater).map _

theorem run_sameEnding (rollout : Rollout σ) (blind : rollout.deployer.Blind)
    (gives : rollout.deployer.Gives allowed) (steps : List DeploymentStep) (state : RunState σ)
    (mirrors : Mirrors rollout.store network state.files record) :
    SameEnding rollout.store network (rollout.run network steps state)
      (rollout.runInMemory steps ⟨record, state.chain⟩) := by
  cases multisig : rollout.configs.requireMultisig with
  | error fault =>
      have refused : rollout.runInMemory steps ⟨record, state.chain⟩ =
          .error fault ⟨record, state.chain⟩ :=
        bind_of_error (by rw [multisig]; rfl)
      rw [run_of_multisig_error steps multisig, refused]
      exact .error mirrors
  | ok address =>
      have goesOn : rollout.runInMemory steps ⟨record, state.chain⟩ =
          (do return (← rollout.runStepsInMemory steps).collect) ⟨record, state.chain⟩ :=
        bind_of_ok (by rw [multisig]; rfl)
      rw [run_of_multisig steps multisig, goesOn]
      exact (runSteps_sameEnding blind gives steps mirrors).map _

/-- Let the stored record of a network be without doubles, and let it be writable. Then a
run on the files and the run on that record in memory make the same calls, write the
same lines into the log, and return the same addresses or end with the same fault, and
the record that is stored at the end is the one in memory. -/
theorem run_refines_runInMemory (rollout : Rollout σ) (blind : rollout.deployer.Blind)
    (gives : rollout.deployer.Gives allowed) (network : Json) (steps : List DeploymentStep)
    (state : RunState σ) {record : NetworkRecord}
    (reads : rollout.store.read state.files network = .ok record)
    (floatFree : Json.FloatFree (.object record.fields))
    (writable : rollout.store.Writable network state.files) :
    forgetOutcome (rollout.watched.run network steps state.watch) =
        rollout.run network steps state ∧
      SameEnding rollout.store network (rollout.watched.run network steps state.watch)
        (rollout.watched.runInMemory steps ⟨record, { chain := state.chain }⟩) := by
  have mirrors : Mirrors rollout.store network state.files record :=
    ⟨reads, ⟨(ArtifactStore.read_legible reads).2, floatFree⟩, writable⟩
  refine ⟨rollout.run_watched network steps state.watch, ?_⟩
  exact rollout.watched.run_sameEnding blind.watched gives.watched steps state.watch mirrors

/-- Two contracts on empty files: the run refines the one in memory. -/
theorem run_refines_runInMemory_empty :
    SameEnding (ArtifactStore.ofText "records") (.string "pisco-1")
      (((Launch.constant "pisco-1" "terra1contract" [.cw20Ics20, .satellite]).rollout
        (.ofText "records")).watched.run (.string "pisco-1") [.cw20Ics20, .satellite]
        ((Launch.constant "pisco-1" "terra1contract" [.cw20Ics20, .satellite]).start
          .empty).watch)
      (((Launch.constant "pisco-1" "terra1contract" [.cw20Ics20, .satellite]).rollout
        (.ofText "records")).watched.runInMemory [.cw20Ics20, .satellite]
        ⟨.empty (.string "pisco-1"), { chain := () }⟩) := by
  have reads : (ArtifactStore.ofText "records").read .empty (.string "pisco-1") =
      .ok (.empty (.string "pisco-1")) :=
    ArtifactStore.read_ok.mpr (.inl ⟨rfl, rfl⟩)
  have writable : (ArtifactStore.ofText "records").Writable (.string "pisco-1") .empty :=
    ⟨rfl, rfl, rfl, by decide +kernel, by decide +kernel⟩
  exact (run_refines_runInMemory
    ((Launch.constant "pisco-1" "terra1contract" [.cw20Ics20, .satellite]).rollout
      (.ofText "records"))
    (fun _ _ _ _ => rfl) (Deployer.gives_constant (· ≠ "") (by decide))
    (.string "pisco-1") [.cw20Ics20, .satellite]
    ((Launch.constant "pisco-1" "terra1contract" [.cw20Ics20, .satellite]).start .empty) reads
    (NetworkRecord.storable_empty _).floatFree writable).2

end Rollout

end ContractRollout
