import ContractRollout.Proofs.Record.Kept
import ContractRollout.Proofs.Rollout.History

/-!
# Effects of steps on files

Seen from outside a step does one of four things: it finds its contract in the record,
it stops before anything is deployed, it deploys without being able to save, or it
deploys and saves. Only the last two touch the files, by one write of the record with
the new address in a vacant field.
-/

namespace ContractRollout

/-- The deployer answers with allowed texts or fails with a deployment fault. -/
def Deployer.Gives {σ : Type} (deployer : Deployer σ) (allowed : String → Prop) : Prop :=
  ∀ files request chain,
    (∃ text later, deployer.deploy files request chain = .ok (.string text) later ∧
      allowed text) ∨
    ∃ cause later, deployer.deploy files request chain = .error (.deployment cause) later

/-- The deployer that answers every call with the same text. -/
def Deployer.constant (text : String) : Deployer Unit where
  deploy _ _ := pure (.string text)
  announce _ chain := chain

theorem Deployer.gives_constant {text : String} (allowed : String → Prop)
    (given : allowed text) : (Deployer.constant text).Gives allowed :=
  fun _ _ _ => .inl ⟨text, (), rfl, given⟩

def Launch.constant (network address : String) (steps : List DeploymentStep) : Launch where
  Chain := Unit
  deployer := .constant address
  chain := ()
  configs := .ofMultisig "terra1owner"
  wasmPath := .ofString "wasm"
  keyName := "deployer"
  network := network
  steps := steps

/-- What a step does, told by its answer, the files after it and its calls. -/
inductive StepEffect (store : ArtifactStore) (allowed : String → Prop) (network : Json)
    (step : DeploymentStep) (before : FileTree) : Except Fault Json → FileTree → List Call → Prop
  | found {record : NetworkRecord} {address : Json}
      (reads : store.read before network = .ok record)
      (populated : record.get? step.recordField = some address) :
      StepEffect store allowed network step before (.ok address) before []
  | stopped {fault : Fault} {calls : List Call}
      (vacant : ∀ record, store.read before network = .ok record →
        record.get? step.recordField = none)
      (unanswered : ∀ call ∈ calls, ∃ fault, call.answer = .error fault) :
      StepEffect store allowed network step before (.error fault) before calls
  | unsaved {record : NetworkRecord} {text : String} {fault cause : Fault} {after : FileTree}
      {request : DeployRequest} (reads : store.read before network = .ok record)
      (vacant : record.get? step.recordField = none) (given : allowed text)
      (writes : store.write (record.put step.recordField (.string text)) network before =
        .error cause after) :
      StepEffect store allowed network step before (.error fault) after
        [⟨request, .ok (.string text)⟩]
  | deployed {record : NetworkRecord} {text : String} {after : FileTree}
      {request : DeployRequest} (reads : store.read before network = .ok record)
      (vacant : record.get? step.recordField = none) (given : allowed text)
      (writes : store.write (record.put step.recordField (.string text)) network before =
        .ok () after) :
      StepEffect store allowed network step before (.ok (.string text)) after
        [⟨request, .ok (.string text)⟩]

namespace StepEffect

variable {store : ArtifactStore} {allowed : String → Prop} {network address : Json}
  {step : DeploymentStep} {before after : FileTree} {answer : Except Fault Json}
  {calls : List Call}

/-- What a step writes, if it writes at all. -/
theorem writes (effect : StepEffect store allowed network step before answer after calls) :
    after = before ∨
      ∃ record text, store.read before network = .ok record ∧
        record.get? step.recordField = none ∧
        after = finalState
          (store.write (record.put step.recordField (.string text)) network before) := by
  cases effect with
  | found reads populated => exact .inl rfl
  | stopped vacant unanswered => exact .inl rfl
  | unsaved reads vacant given writes =>
      exact .inr ⟨_, _, reads, vacant, by rw [writes, finalState_error]⟩
  | deployed reads vacant given writes =>
      exact .inr ⟨_, _, reads, vacant, by rw [writes, finalState_ok]⟩

/-- A step whose field is populated answers with the address there and does nothing. -/
theorem of_populated (effect : StepEffect store allowed network step before answer after calls)
    (populated : store.Populated before network step.recordField address) :
    answer = .ok address ∧ calls = [] ∧ after = before := by
  obtain ⟨stored, reads, held⟩ := populated
  cases effect with
  | found reads' populated =>
      obtain rfl := ArtifactStore.read_unique reads' reads
      obtain rfl := Option.some.inj (held.symm.trans populated)
      exact ⟨rfl, rfl, rfl⟩
  | stopped vacant unanswered => simp [vacant stored reads] at held
  | unsaved reads' vacant given writes =>
      obtain rfl := ArtifactStore.read_unique reads' reads
      simp [vacant] at held
  | deployed reads' vacant given writes =>
      obtain rfl := ArtifactStore.read_unique reads' reads
      simp [vacant] at held

/-- A step that makes a call and answers has saved its address. -/
theorem of_call (effect : StepEffect store allowed network step before (.ok address) after calls)
    (called : calls ≠ []) :
    ∃ record text, store.read before network = .ok record ∧ allowed text ∧
      store.write (record.put step.recordField (.string text)) network before = .ok () after := by
  cases effect with
  | found reads populated => exact absurd rfl called
  | deployed reads vacant given writes => exact ⟨_, _, reads, given, writes⟩

theorem settled (effect : StepEffect store allowed network step before answer after calls)
    {field : String} {held : Json} (settled : store.Settled before network field held) :
    store.Settled after network field held := by
  rcases effect.writes with rfl | ⟨record, text, reads, vacant, rfl⟩
  · exact settled
  · exact settled.write reads vacant

end StepEffect

/-- A step of a history has one of the effects. -/
def StepRun.Lawful (store : ArtifactStore) (allowed : String → Prop) (stepRun : StepRun) : Prop :=
  StepEffect store allowed stepRun.network stepRun.step stepRun.before stepRun.answer
    stepRun.after stepRun.calls

theorem ArtifactStore.vacant_of_read {store : ArtifactStore} {tree : FileTree} {network : Json}
    {record : NetworkRecord} {field : String} (reads : store.read tree network = .ok record)
    (vacant : record.get? field = none) :
    ∀ other, store.read tree network = .ok other → other.get? field = none := by
  intro other reads'
  obtain rfl := ArtifactStore.read_unique reads reads'
  exact vacant

theorem Deployer.Gives.of_ok {σ : Type} {deployer : Deployer σ} {allowed : String → Prop}
    (gives : deployer.Gives allowed) {files : FileTree} {request : DeployRequest} {chain later : σ}
    {address : Json} (deploys : deployer.deploy files request chain = .ok address later) :
    ∃ text, address = .string text ∧ allowed text := by
  rcases gives files request chain with ⟨text, other, same, given⟩ | ⟨cause, other, same⟩
  · obtain ⟨rfl, -⟩ := EStateM.Result.ok.inj (deploys.symm.trans same)
    exact ⟨text, rfl, given⟩
  · exact absurd (deploys.symm.trans same) (by simp)

theorem Deployer.Gives.of_error {σ : Type} {deployer : Deployer σ} {allowed : String → Prop}
    (gives : deployer.Gives allowed) {files : FileTree} {request : DeployRequest} {chain later : σ}
    {fault : Fault} (fails : deployer.deploy files request chain = .error fault later) :
    ∃ cause, fault = .deployment cause := by
  rcases gives files request chain with ⟨text, other, same, -⟩ | ⟨cause, other, same⟩
  · exact absurd (fails.symm.trans same) (by simp)
  · exact ⟨cause, (EStateM.Result.error.inj (fails.symm.trans same)).1⟩

namespace Rollout

variable {σ : Type} (rollout : Rollout σ) {allowed : String → Prop}

@[simp]
theorem calls_announceStart (step : DeploymentStep) (watched : Watched σ) :
    (rollout.watched.announceStart step watched).calls = watched.calls :=
  rfl

@[simp]
theorem calls_announceFound (step : DeploymentStep) (address : Json) (watched : Watched σ) :
    (rollout.watched.announceFound step address watched).calls = watched.calls :=
  rfl

@[simp]
theorem calls_announceAddress (step : DeploymentStep) (address : Json) (watched : Watched σ) :
    (rollout.watched.announceAddress step address watched).calls = watched.calls :=
  rfl

theorem takeStep_effect (gives : rollout.deployer.Gives allowed) (network : Json)
    (step : DeploymentStep) (state : RunState σ) :
    match rollout.watched.takeStep network step state.watch with
    | .ok address later =>
        StepEffect rollout.store allowed network step state.files (.ok address) later.files
          later.chain.calls
    | .error fault later =>
        StepEffect rollout.store allowed network step state.files (.error fault) later.files
          later.chain.calls := by
  have outcome := rollout.watched.takeStep_outcome network step state.watch
  generalize rollout.watched.takeStep network step state.watch = result at outcome
  cases outcome with
  | unreadable reads =>
      refine .stopped ?_ (by simp [RunState.watch])
      intro record reads'
      exact absurd (reads.symm.trans reads') (by simp)
  | found reads populated => exact .found reads populated
  | blocked reads vacant missing =>
      exact .stopped (ArtifactStore.vacant_of_read reads vacant) (by simp [RunState.watch])
  | unresolved reads vacant complete resolves =>
      exact .stopped (ArtifactStore.vacant_of_read reads vacant) (by simp [RunState.watch])
  | refused reads vacant complete resolves deploys =>
      apply StepEffect.stopped (ArtifactStore.vacant_of_read reads vacant)
      dsimp only
      rw [(deploy_of_watched_error deploys).2, calls_announceStart]
      simp [RunState.watch]
  | unsaved reads vacant complete resolves deploys writes =>
      obtain ⟨deploys, calls⟩ := deploy_of_watched_ok deploys
      obtain ⟨text, rfl, given⟩ := gives.of_ok deploys
      have same := (ArtifactStore.read_legible reads).1
      rw [same] at writes
      dsimp only
      rw [calls, calls_announceStart]
      exact .unsaved reads vacant given writes
  | deployed reads vacant complete resolves deploys writes =>
      obtain ⟨deploys, calls⟩ := deploy_of_watched_ok deploys
      obtain ⟨text, rfl, given⟩ := gives.of_ok deploys
      have same := (ArtifactStore.read_legible reads).1
      rw [same] at writes
      dsimp only
      rw [calls_announceAddress, calls, calls_announceStart]
      exact .deployed reads vacant given writes

theorem lawful_stepHistory (gives : rollout.deployer.Gives allowed) (network : Json)
    (steps : List DeploymentStep) (state : RunState σ) :
    ∀ stepRun ∈ rollout.stepHistory network steps state,
      stepRun.Lawful rollout.store allowed ∧ stepRun.network = network ∧
        stepRun.step ∈ steps := by
  induction steps generalizing state with
  | nil => simp [stepHistory]
  | cons step rest ih =>
      have effect := rollout.takeStep_effect gives network step state
      rw [stepHistory_cons]
      cases takes : rollout.watched.takeStep network step state.watch with
      | ok address later =>
          rw [takes] at effect
          intro stepRun member
          rcases List.mem_cons.mp member with rfl | inRest
          · exact ⟨effect, rfl, List.mem_cons_self⟩
          · obtain ⟨lawful, same, inSteps⟩ := ih later.forget stepRun inRest
            exact ⟨lawful, same, List.mem_cons_of_mem _ inSteps⟩
      | error fault later =>
          rw [takes] at effect
          intro stepRun member
          obtain rfl := List.mem_singleton.mp member
          exact ⟨effect, rfl, List.mem_cons_self⟩

/-- The steps of a run leave a settled field of its network as it is. -/
theorem settled_runSteps (gives : rollout.deployer.Gives allowed) {network : Json}
    (steps : List DeploymentStep) {state : RunState σ} {field : String} {held : Json}
    (settled : rollout.store.Settled state.files network field held) :
    rollout.store.Settled (finalState (rollout.runSteps network steps state)).files network field
      held := by
  have lawful := rollout.lawful_stepHistory gives network steps state
  have linked := rollout.linked_stepHistory network steps state
  rw [← (rollout.stepHistory_replays network steps state).1]
  generalize rollout.stepHistory network steps state = history at lawful linked
  generalize state.files = files at settled linked
  induction history generalizing files with
  | nil => exact settled
  | cons first rest ih =>
      obtain ⟨rfl, linkedRest⟩ := linked_cons.mp linked
      obtain ⟨effect, same, -⟩ := lawful first List.mem_cons_self
      rw [← same] at settled
      have later := StepEffect.settled effect settled
      rw [same] at later
      exact ih (fun other found => lawful other (List.mem_cons_of_mem _ found)) _ later linkedRest

theorem lawful_history (gives : rollout.deployer.Gives allowed) (network : Json)
    (steps : List DeploymentStep) (state : RunState σ) :
    ∀ stepRun ∈ rollout.history network steps state,
      stepRun.Lawful rollout.store allowed ∧ stepRun.network = network ∧
        stepRun.step ∈ steps := by
  unfold history
  split
  · exact rollout.lawful_stepHistory gives network steps state
  · simp

end Rollout

theorem lawful_campaign {store : ArtifactStore} {allowed : String → Prop} {launches : List Launch}
    (gives : ∀ launch ∈ launches, launch.deployer.Gives allowed) (files : FileTree) :
    ∀ stepRun ∈ campaign store files launches,
      stepRun.Lawful store allowed ∧
        ∃ launch ∈ launches, stepRun.network = .string launch.network := by
  induction launches generalizing files with
  | nil => simp [campaign]
  | cons launch rest ih =>
      intro stepRun member
      rcases List.mem_append.mp member with first | later
      · have lawful := (launch.rollout store).lawful_history (gives launch List.mem_cons_self)
          (.string launch.network) launch.steps (launch.start files) stepRun first
        exact ⟨lawful.1, launch, List.mem_cons_self, lawful.2.1⟩
      · obtain ⟨lawful, other, inRest, same⟩ :=
          ih (fun other inRest => gives other (List.mem_cons_of_mem _ inRest)) _ stepRun later
        exact ⟨lawful, other, List.mem_cons_of_mem _ inRest, same⟩

end ContractRollout
