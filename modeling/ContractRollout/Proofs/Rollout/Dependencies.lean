import ContractRollout.Proofs.Record.Leftovers
import ContractRollout.Proofs.Rollout.Effects
import ContractRollout.Proofs.Rollout.Stages

/-!
# Dependencies in a run

No contract is deployed before those that it requires. What counts is the stored record
at the time when a step is reached, and nothing else does: an address that is configured
under the key of a dependency does not stand in for one in the record, and a step whose own
contract is recorded asks for no dependency at all. So a run stops for a missing
dependency exactly where a step is reached that is not recorded and not ready, and all that
it has done by then is what the steps before that one did.
-/

namespace ContractRollout

namespace DeploymentStep

variable {step : DeploymentStep} {record : NetworkRecord} {dependency : Dependency}

/-- The record has every contract that a step requires. -/
def Ready (step : DeploymentStep) (record : NetworkRecord) : Prop :=
  ∀ dependency ∈ step.dependencies, dependency.required = true →
    record.has dependency.recordField = true

/-- The first contract that a step requires and the record does not have. -/
def FirstMissing (step : DeploymentStep) (record : NetworkRecord) (dependency : Dependency) :
    Prop :=
  ∃ front back, step.dependencies = front ++ dependency :: back ∧
    dependency.required = true ∧ record.has dependency.recordField = false ∧
    ∀ other ∈ front, other.required = true → record.has other.recordField = true

theorem missingDependencies_eq_nil : step.missingDependencies record = [] ↔ step.Ready record := by
  simp [missingDependencies, Ready]

theorem missingDependencies_eq_cons :
    (∃ others, step.missingDependencies record = dependency :: others) ↔
      step.FirstMissing record dependency := by
  rw [← List.head?_eq_some_iff, missingDependencies, List.head?_filter,
    List.find?_eq_some_iff_append]
  simp only [FirstMissing, Bool.and_eq_true, Bool.not_eq_true', Bool.and_eq_false_imp,
    Bool.not_eq_false', and_assoc]
  constructor
  · rintro ⟨required, vacant, front, back, split, present⟩
    exact ⟨front, back, split, required, vacant, present⟩
  · rintro ⟨front, back, split, required, vacant, present⟩
    exact ⟨required, vacant, front, back, split, present⟩

theorem resolve_ne_dependencyMissing {configs : ChainConfigs} {contract name : String} :
    step.resolve configs record ≠ .error (.dependencyMissing contract name) := by
  unfold resolve ChainConfigs.requireMultisig ChainConfigs.contract
  cases configs.multisig.isUnset with
  | true => simp [bind, Except.bind]
  | false => cases ConfigPart.ofKey? step.configKey <;> simp [bind, Except.bind, pure, Except.pure]

end DeploymentStep

theorem DocumentError.fault_ne_dependencyMissing {cause : DocumentError → ConfigurationCause}
    {error : DocumentError} {contract name : String} :
    error.fault cause ≠ .dependencyMissing contract name := by
  unfold DocumentError.fault
  split
  · simp
  · split <;> simp
  · simp

theorem ArtifactStore.read_ne_dependencyMissing {store : ArtifactStore} {tree : FileTree}
    {network : Json} {contract name : String} :
    store.read tree network ≠ .error (.dependencyMissing contract name) := by
  unfold ArtifactStore.read
  intro stops
  cases holds : tree.holds (store.recordPath network) with
  | error error => simp [holds, bind, Except.bind, Except.mapError] at stops
  | ok found =>
      cases found with
      | false => simp [holds, bind, Except.bind, Except.mapError, pure, Except.pure] at stops
      | true =>
          cases document : tree.document (store.recordPath network) with
          | error error =>
              simp [holds, document, bind, Except.bind, Except.mapError,
                DocumentError.fault_ne_dependencyMissing] at stops
          | ok value =>
              cases value <;>
                simp [holds, document, bind, Except.bind, Except.mapError, pure, Except.pure, throw,
                  throwThe, MonadExceptOf.throw] at stops

theorem ArtifactStore.write_ne_dependencyMissing {store : ArtifactStore} {record : NetworkRecord}
    {network : Json} {before after : FileTree} {fault : Fault} {contract name : String}
    (refuses : store.write record network before = .error fault after) :
    fault ≠ .dependencyMissing contract name := by
  rcases write_error_cases refuses with ⟨-, cause, rfl⟩ | ⟨-, error, rfl⟩ <;> simp

/-- A call that the deployer was given on these files. -/
def Call.MadeOn {σ : Type} (call : Call) (deployer : Deployer σ) (files : FileTree) : Prop :=
  ∃ chain later,
    match call.answer with
    | .ok address => deployer.deploy files call.request chain = .ok address later
    | .error fault => deployer.deploy files call.request chain = .error fault later

namespace Rollout

variable {σ : Type} {rollout : Rollout σ} {network : Json} {step : DeploymentStep}
  {steps : List DeploymentStep} {state : RunState σ}

/-! ### Steps -/

theorem unrecorded_ne_dependencyMissing {address : Json} {fault : Fault} {contract name : String}
    (other : fault ≠ .dependencyMissing contract name) :
    unrecorded step network address fault ≠ .dependencyMissing contract name := by
  unfold unrecorded
  split
  · simp
  · exact other

/-- A step stops for a missing dependency exactly if its contract is not in the record and
that is the first dependency that is missing there. -/
theorem takeStep_dependencyMissing {allowed : String → Prop}
    (gives : rollout.deployer.Gives allowed) {contract name : String} {later : RunState σ} :
    rollout.takeStep network step state = .error (.dependencyMissing contract name) later ↔
      ∃ record dependency, rollout.store.read state.files network = .ok record ∧
        record.has step.recordField = false ∧ step.FirstMissing record dependency ∧
        contract = step.name ∧ name = dependency.name ∧
        later = ⟨record, state.files, state.chain⟩ := by
  constructor
  · intro stops
    obtain ⟨fault, stops, same⟩ : ∃ fault, rollout.takeStep network step state =
        .error fault later ∧ fault = .dependencyMissing contract name := ⟨_, stops, rfl⟩
    have outcome := rollout.takeStep_outcome network step state
    rw [stops] at outcome
    cases outcome with
    | unreadable reads => exact absurd (same ▸ reads) ArtifactStore.read_ne_dependencyMissing
    | blocked reads vacant missing =>
        obtain ⟨rfl, rfl⟩ := Fault.dependencyMissing.inj same
        exact ⟨_, _, reads, NetworkRecord.has_eq_false.mpr vacant,
          DeploymentStep.missingDependencies_eq_cons.mp ⟨_, missing⟩, rfl, rfl, rfl⟩
    | unresolved reads vacant complete resolves =>
        exact absurd (same ▸ resolves) DeploymentStep.resolve_ne_dependencyMissing
    | refused reads vacant complete resolves deploys =>
        obtain ⟨cause, reported⟩ := gives.of_error deploys
        simp [reported] at same
    | unsaved reads vacant complete resolves deploys writes =>
        exact absurd same (unrecorded_ne_dependencyMissing
          (ArtifactStore.write_ne_dependencyMissing writes))
  · rintro ⟨record, dependency, reads, vacant, first, rfl, rfl, rfl⟩
    obtain ⟨others, missing⟩ := DeploymentStep.missingDependencies_eq_cons.mpr first
    exact StepOutcome.eq (.blocked reads (NetworkRecord.has_eq_false.mp vacant) missing)

theorem stepRun_of_blocked {record : NetworkRecord} {dependency : Dependency}
    (reads : rollout.store.read state.files network = .ok record)
    (vacant : record.has step.recordField = false) (first : step.FirstMissing record dependency) :
    rollout.stepRun network step state =
      ⟨network, step, state.files, .error (.dependencyMissing step.name dependency.name),
        state.files, []⟩ := by
  obtain ⟨others, missing⟩ := DeploymentStep.missingDependencies_eq_cons.mpr first
  have blocked : rollout.watched.StepOutcome network step state.watch _ :=
    .blocked reads (NetworkRecord.has_eq_false.mp vacant) missing
  rw [stepRun, blocked.eq]
  rfl

/-- Whenever a step calls the deployer, it does so on the files that it starts on, and the record
there has every contract that the step requires. -/
theorem ready_of_call {call : Call} (called : call ∈ (rollout.stepRun network step state).calls) :
    call.MadeOn rollout.deployer state.files ∧
      ∃ record, rollout.store.read state.files network = .ok record ∧ step.Ready record := by
  have outcome := rollout.watched.takeStep_outcome network step state.watch
  unfold stepRun at called
  generalize rollout.watched.takeStep network step state.watch = result at outcome called
  cases outcome with
  | unreadable reads => simp [RunState.watch] at called
  | found reads populated => simp [RunState.watch] at called
  | blocked reads vacant missing => simp [RunState.watch] at called
  | unresolved reads vacant complete resolves => simp [RunState.watch] at called
  | refused reads vacant complete resolves deploys =>
      obtain ⟨fails, calls⟩ := deploy_of_watched_error deploys
      obtain rfl : call = _ := by simpa [calls, RunState.watch] using called
      exact ⟨⟨_, _, fails⟩, _, reads, DeploymentStep.missingDependencies_eq_nil.mp complete⟩
  | unsaved reads vacant complete resolves deploys writes =>
      obtain ⟨answers, calls⟩ := deploy_of_watched_ok deploys
      obtain rfl : call = _ := by simpa [calls, RunState.watch] using called
      exact ⟨⟨_, _, answers⟩, _, reads, DeploymentStep.missingDependencies_eq_nil.mp complete⟩
  | deployed reads vacant complete resolves deploys writes =>
      obtain ⟨answers, calls⟩ := deploy_of_watched_ok deploys
      obtain rfl : call = _ := by simpa [calls, RunState.watch] using called
      exact ⟨⟨_, _, answers⟩, _, reads, DeploymentStep.missingDependencies_eq_nil.mp complete⟩

/-! ### Runs -/

/-- After a step that answers the record has what it had before and the step's own contract. -/
theorem takeStep_has (gives : rollout.deployer.Gives (· ≠ "")) {record : NetworkRecord}
    {address : Json} {middle : RunState σ}
    (reads : rollout.store.read state.files network = .ok record)
    (takes : rollout.takeStep network step state = .ok address middle) :
    ∃ stored, rollout.store.read middle.files network = .ok stored ∧
      ∀ field, stored.has field = true ↔ record.has field = true ∨ field = step.recordField := by
  have outcome := rollout.takeStep_outcome network step state
  rw [takes] at outcome
  cases outcome with
  | found reads' populated =>
      obtain rfl := ArtifactStore.read_unique reads reads'
      refine ⟨record, reads, fun field => ⟨Or.inl, ?_⟩⟩
      rintro (there | rfl)
      · exact there
      · exact NetworkRecord.has_eq_true.mpr ⟨_, populated⟩
  | deployed reads' vacant complete resolves deploys writes =>
      obtain rfl := ArtifactStore.read_unique reads reads'
      obtain ⟨text, rfl, nonempty⟩ := gives.of_ok deploys
      obtain ⟨rfl, faithful⟩ := ArtifactStore.read_faithful reads
      have back := (ArtifactStore.written_of_write writes).read_of_faithful
        (faithful.insert step.recordField (.string text))
      exact ⟨_, back, fun field =>
        NetworkRecord.has_put (NetworkRecord.isTruthy_string nonempty)⟩

/-- After steps that answer the record has what it had before and the contracts of the steps. -/
theorem runSteps_has (gives : rollout.deployer.Gives (· ≠ "")) {record : NetworkRecord}
    {answers : Members} {reached : RunState σ}
    (reads : rollout.store.read state.files network = .ok record)
    (runs : rollout.runSteps network steps state = .ok answers reached) :
    ∃ stored, rollout.store.read reached.files network = .ok stored ∧
      ∀ field, stored.has field = true ↔
        record.has field = true ∨ field ∈ steps.map (·.recordField) := by
  induction steps generalizing state record answers with
  | nil =>
      obtain ⟨-, rfl⟩ := EStateM.Result.ok.inj runs
      exact ⟨record, reads, by simp⟩
  | cons step rest ih =>
      obtain ⟨address, middle, others, takes, runsRest, -⟩ := runSteps_ok.mp runs
      obtain ⟨between, readsBetween, same⟩ := takeStep_has gives reads takes
      obtain ⟨stored, readsStored, sameRest⟩ := ih readsBetween runsRest
      refine ⟨stored, readsStored, fun field => ?_⟩
      rw [sameRest, same, List.map_cons, List.mem_cons, or_assoc]

/-- A stage whose own contract is not recorded when it is reached and which lacks a contract that
it requires, this being the first one. -/
structure Stage.Blocked (stage : rollout.Stage network steps state) (record : NetworkRecord)
    (dependency : Dependency) : Prop where
  reads : rollout.store.read stage.reached.files network = .ok record
  vacant : record.has stage.step.recordField = false
  first : stage.step.FirstMissing record dependency

namespace Stage.Blocked

variable {stage : rollout.Stage network steps state} {record : NetworkRecord}
  {dependency : Dependency}

/-- A blocked stage stops whatever the configuration is. -/
theorem takeStep_eq (blocked : stage.Blocked record dependency) (configs : ChainConfigs) :
    ({ rollout with configs } : Rollout σ).takeStep network stage.step stage.reached =
      .error (.dependencyMissing stage.step.name dependency.name)
        ⟨record, stage.reached.files, stage.reached.chain⟩ := by
  obtain ⟨others, missing⟩ := DeploymentStep.missingDependencies_eq_cons.mpr blocked.first
  exact StepOutcome.eq
    (.blocked blocked.reads (NetworkRecord.has_eq_false.mp blocked.vacant) missing)

theorem run_later (blocked : stage.Blocked record dependency) {configs : ChainConfigs}
    {multisig : Json} (set : configs.requireMultisig = .ok multisig) :
    ({ rollout with configs } : Rollout σ).run network (stage.step :: stage.later) stage.reached =
      .error (.dependencyMissing stage.step.name dependency.name)
        ⟨record, stage.reached.files, stage.reached.chain⟩ :=
  (run_error_of_multisig set).mpr (Rollout.runSteps_of_error (blocked.takeStep_eq configs))

theorem run_eq (blocked : stage.Blocked record dependency) {multisig : Json}
    (set : rollout.configs.requireMultisig = .ok multisig) :
    rollout.run network steps state =
      .error (.dependencyMissing stage.step.name dependency.name)
        ⟨record, stage.reached.files, stage.reached.chain⟩ :=
  (run_error_of_multisig set).mpr (stage.runSteps_of_error (blocked.takeStep_eq rollout.configs))

theorem history_eq (blocked : stage.Blocked record dependency) {multisig : Json}
    (set : rollout.configs.requireMultisig = .ok multisig) :
    rollout.history network steps state =
      rollout.history network stage.earlier state ++
        [⟨network, stage.step, stage.reached.files,
          .error (.dependencyMissing stage.step.name dependency.name), stage.reached.files, []⟩] := by
  rw [history_of_multisig set, history_of_multisig set,
    stage.stepHistory_of_error (blocked.takeStep_eq rollout.configs),
    stepRun_of_blocked blocked.reads blocked.vacant blocked.first]

end Stage.Blocked

/-- Let the configuration have a multisig, and let the deployer answer with nonempty texts where it
answers. Then every call is made on files whose record has all that the step requires. The run
stops for a missing dependency exactly if a step is reached that is not recorded and lacks one,
and the fault names that step and the first one that it lacks. In this case the step and all
after it make no call, the files are those that the steps before it left, and no other
configuration would have let the step pass. A step that is recorded when it is reached answers
with that address and does nothing. What is recorded then is what was at the start and the
contracts of the steps before. -/
theorem dependencies_enforced (rollout : Rollout σ) (network : Json)
    (steps : List DeploymentStep) (state : RunState σ) (gives : rollout.deployer.Gives (· ≠ ""))
    (multisig : ∃ address, rollout.configs.requireMultisig = .ok address) :
    (∀ stepRun ∈ rollout.history network steps state, ∀ call ∈ stepRun.calls,
      call.MadeOn rollout.deployer stepRun.before ∧
        ∃ record, rollout.store.read stepRun.before network = .ok record ∧
          stepRun.step.Ready record) ∧
    (∀ contract name,
      (∃ later, rollout.run network steps state =
          .error (.dependencyMissing contract name) later) ↔
        ∃ (stage : rollout.Stage network steps state) (record : NetworkRecord)
          (dependency : Dependency), stage.Blocked record dependency ∧
            contract = stage.step.name ∧ name = dependency.name) ∧
    (∀ (stage : rollout.Stage network steps state) (record : NetworkRecord)
        (dependency : Dependency), stage.Blocked record dependency →
      rollout.run network steps state =
          .error (.dependencyMissing stage.step.name dependency.name)
            ⟨record, stage.reached.files, stage.reached.chain⟩ ∧
        rollout.history network steps state =
          rollout.history network stage.earlier state ++
            [⟨network, stage.step, stage.reached.files,
              .error (.dependencyMissing stage.step.name dependency.name), stage.reached.files,
              []⟩] ∧
        ∀ configs : ChainConfigs, (∃ address, configs.requireMultisig = .ok address) →
          ({ rollout with configs } : Rollout σ).run network (stage.step :: stage.later)
              stage.reached =
            .error (.dependencyMissing stage.step.name dependency.name)
              ⟨record, stage.reached.files, stage.reached.chain⟩) ∧
    (∀ stepRun ∈ rollout.history network steps state, ∀ address,
      rollout.store.Populated stepRun.before network stepRun.step.recordField address →
        stepRun.answer = .ok address ∧ stepRun.calls = [] ∧ stepRun.after = stepRun.before) ∧
    (∀ (stage : rollout.Stage network steps state) (record : NetworkRecord),
      rollout.store.read state.files network = .ok record →
        ∃ stored, rollout.store.read stage.reached.files network = .ok stored ∧
          ∀ field, stored.has field = true ↔
            record.has field = true ∨ field ∈ stage.earlier.map (·.recordField)) := by
  obtain ⟨address, set⟩ := multisig
  rw [history_of_multisig set]
  refine ⟨?calls, ?stops, ?blocked, ?recorded, ?stored⟩
  case calls =>
    intro stepRun member call called
    obtain ⟨stage, rfl⟩ := exists_stage_of_mem_stepHistory member
    rw [before_stepRun, step_stepRun]
    exact ready_of_call called
  case stops =>
    intro contract name
    constructor
    · rintro ⟨later, stops⟩
      obtain ⟨stage, stopsThere⟩ := exists_stage_of_error ((run_error_of_multisig set).mp stops)
      obtain ⟨record, dependency, reads, vacant, first, rfl, rfl, -⟩ :=
        (takeStep_dependencyMissing gives).mp stopsThere
      exact ⟨stage, record, dependency, ⟨reads, vacant, first⟩, rfl, rfl⟩
    · rintro ⟨stage, record, dependency, blocked, rfl, rfl⟩
      exact ⟨_, blocked.run_eq set⟩
  case blocked =>
    intro stage record dependency blocked
    refine ⟨blocked.run_eq set, ?_, ?_⟩
    · rw [← history_of_multisig set]
      exact blocked.history_eq set
    · rintro configs ⟨other, setOther⟩
      exact blocked.run_later setOther
  case recorded =>
    intro stepRun member address populated
    obtain ⟨stage, rfl⟩ := exists_stage_of_mem_stepHistory member
    rw [before_stepRun, step_stepRun] at populated
    obtain ⟨record, reads, held⟩ := populated
    rw [stepRun_of_found reads held]
    exact ⟨rfl, rfl, rfl⟩
  case stored =>
    intro stage record reads
    exact runSteps_has gives reads stage.arrives

/-- Of the built-in steps the second is blocked if there are no files: the first one does not
deploy what it lacks. -/
theorem dependencies_enforced_controller :
    ∃ later,
      (Launch.constant "pisco-1" "terra1contract" DeploymentStep.all).run (.ofText "records")
          .empty =
        .error (.dependencyMissing "IBC Controller" "Assembly") later := by
  let launch : Launch := .constant "pisco-1" "terra1contract" DeploymentStep.all
  obtain ⟨-, stops, -, -, stored⟩ := dependencies_enforced (launch.rollout (.ofText "records"))
    (.string "pisco-1") DeploymentStep.all (launch.start .empty)
    (Deployer.gives_constant _ (by decide)) ⟨.string "terra1owner", rfl⟩
  have works : isOk ((launch.rollout (.ofText "records")).runSteps (.string "pisco-1")
      [.cw20Ics20] (launch.start .empty)) = true := by
    decide +kernel
  obtain ⟨answers, reached, arrives⟩ := exists_of_isOk works
  let stage : (launch.rollout (.ofText "records")).Stage (.string "pisco-1") DeploymentStep.all
      (launch.start .empty) :=
    ⟨[.cw20Ics20], .controller, [.satellite], answers, reached, rfl, arrives⟩
  have unrecorded : (ArtifactStore.ofText "records").read .empty (.string "pisco-1") =
      .ok (.empty (.string "pisco-1")) :=
    ArtifactStore.read_ok.mpr (.inl ⟨rfl, rfl⟩)
  obtain ⟨record, reads, recorded⟩ := stored stage _ unrecorded
  have absent (field : String) (apart : field ≠ "cw20Ics20Address") :
      record.has field = false := by
    rw [← Bool.not_eq_true, recorded]
    simpa [stage, DeploymentStep.cw20Ics20] using ⟨rfl, apart⟩
  have blocked : stage.Blocked record
      { name := "Assembly", recordField := "assemblyAddress", initKey := "assembly" } :=
    ⟨reads, absent "ibcControllerAddress" (by decide), [], [], rfl, rfl,
      absent "assemblyAddress" (by decide), by simp⟩
  exact (stops _ _).mpr ⟨stage, record, _, blocked, rfl, rfl⟩

end Rollout

end ContractRollout
