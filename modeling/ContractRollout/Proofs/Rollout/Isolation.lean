import ContractRollout.Proofs.Parallel
import ContractRollout.Proofs.Rollout.Effects
import ContractRollout.Proofs.Rollout.Precedence

/-!
# Parts of the chain configs

What the chain configs say of one contract does not reach the others. Take two runs whose chain
configs differ in one part, with a deployer that does not heed what it is asked. The runs go the
same way, step by step. What they ask the deployer for differs at most in the steps of that part,
and there in what the configuration decides.
-/

namespace ContractRollout

/-! ### Chain configs that agree apart from one part -/

/-- Chain configs with the same multisig and the same parts, apart from one. -/
structure ChainConfigs.AgreeApart (part : ConfigPart) (first second : ChainConfigs) : Prop where
  multisig : first.multisig = second.multisig
  part_eq : ∀ other, other ≠ part → first.part other = second.part other

variable {part : ConfigPart} {configs others : ChainConfigs}

theorem ConfigPart.key_of_ofKey? {key : String} (named : ConfigPart.ofKey? key = some part) :
    part.key = key := by
  simpa using List.find?_some named

theorem ChainConfigs.AgreeApart.requireMultisig (agree : configs.AgreeApart part others) :
    configs.requireMultisig = others.requireMultisig := by
  unfold ChainConfigs.requireMultisig
  rw [agree.multisig]

/-- The configurations of a contract of another part are equal. -/
theorem ChainConfigs.AgreeApart.contract (agree : configs.AgreeApart part others) {key : String}
    (outside : key ≠ part.key) : configs.contract key = others.contract key := by
  unfold ChainConfigs.contract
  cases named : ConfigPart.ofKey? key with
  | none => rfl
  | some other =>
      have differs : other ≠ part := by
        rintro rfl
        exact outside (ConfigPart.key_of_ofKey? named).symm
      exact congrArg Except.ok (agree.part_eq other differs)

/-- The parameters of a step under both chain configs are equal if it is a step of another part. -/
theorem DeploymentStep.resolve_of_agree (agree : configs.AgreeApart part others)
    {step : DeploymentStep} {record : NetworkRecord} {resolved : ResolvedContract}
    (resolves : step.resolve configs record = .ok resolved) :
    ∃ otherwise, step.resolve others record = .ok otherwise ∧
      (step.configKey ≠ part.key → resolved = otherwise) := by
  obtain ⟨owned, contract, configured, rfl⟩ := resolve_ok.mp resolves
  rw [agree.multisig] at owned ⊢
  by_cases outside : step.configKey ≠ part.key
  · rw [agree.contract outside] at configured
    exact ⟨_, resolve_ok.mpr ⟨owned, contract, configured, rfl⟩, fun _ => rfl⟩
  · have configuredOther : others.contract step.configKey = .ok (others.part part) := by
      rw [not_not.mp outside, others.contract_key]
    exact ⟨_, resolve_ok.mpr ⟨owned, _, configuredOther, rfl⟩, fun differs => absurd differs outside⟩

/-- If the parameters of a step are not to be had under the one, they are not under the other. -/
theorem DeploymentStep.resolve_error_of_agree (agree : configs.AgreeApart part others)
    {step : DeploymentStep} {record : NetworkRecord} {fault : Fault}
    (resolves : step.resolve configs record = .error fault) :
    step.resolve others record = .error fault := by
  rcases bind_eq_error.mp resolves with unset | ⟨multisig, set, resolves⟩
  · rw [agree.requireMultisig] at unset
    exact bind_eq_error.mpr (.inl unset)
  rcases bind_eq_error.mp resolves with unknown | ⟨contract, -, same⟩
  · rw [agree.requireMultisig] at set
    refine bind_eq_error.mpr (.inr ⟨multisig, set, bind_eq_error.mpr (.inl ?_)⟩)
    by_cases outside : step.configKey ≠ part.key
    · rwa [← agree.contract outside]
    · rw [not_not.mp outside, configs.contract_key] at unknown
      simp at unknown
  · simp [pure, Except.pure] at same

/-! ### Deployers -/

variable {σ τ : Type}

/-- A deployer that answers alike on states that are related, if what it is asked is related,
and then goes on with states that are related. -/
structure Deployer.Respects (deployer : Deployer σ) (asks : DeployRequest → DeployRequest → Prop)
    (related : σ → σ → Prop) : Prop where
  deploys : ∀ files request asked chain other, asks request asked → related chain other →
    Alike related (deployer.deploy files request chain) (deployer.deploy files asked other)
  announces : ∀ line chain other, related chain other →
    related (deployer.announce line chain) (deployer.announce line other)

/-- A deployer that does not heed what it is asked. It may keep that, but its answers follow
from what is in view of its state, such as the number of its calls so far. -/
def Deployer.Heedless (deployer : Deployer σ) (view : σ → τ) : Prop :=
  deployer.Respects (fun _ _ => True) fun chain other => view chain = view other

/-- The deployer that follows a script is heedless. -/
theorem Script.heedless_deployer :
    Script.deployer.Heedless fun script => (script.outcomes, script.calls.length) := by
  constructor
  · rintro files request asked ⟨outcomes, calls, log⟩ ⟨_, others, otherLog⟩ - same
    obtain ⟨rfl, sameLength⟩ := Prod.mk.inj same
    simp only [deployer, bind, EStateM.bind, get, getThe, MonadStateOf.get, EStateM.get, set,
      EStateM.set]
    cases outcomes.head?.getD .numbered with
    | address value => exact .ok (by simpa using sameLength)
    | failure message => exact .error (by simpa using sameLength)
    | numbered =>
        have longer : (calls ++ [request]).length = (others ++ [asked]).length := by
          simpa using sameLength
        rw [longer]
        exact .ok (by simpa using sameLength)
  · rintro line chain other same
    exact same

/-! ### Calls -/

/-- Calls with the same answer for the same contract code and key. If what the configuration
decides is the same too, they are equal. -/
structure Call.Matches (settled : Prop) (first second : Call) : Prop where
  answer : first.answer = second.answer
  keyName : first.request.keyName = second.request.keyName
  wasmPath : first.request.wasmPath = second.request.wasmPath
  request : settled → first.request = second.request

/-- Steps of two runs that go the same way. They make the same calls, apart from what the
configuration decides in the steps of one part. -/
structure StepRun.Matches (part : ConfigPart) (first second : StepRun) : Prop where
  network : first.network = second.network
  step : first.step = second.step
  before : first.before = second.before
  answer : first.answer = second.answer
  after : first.after = second.after
  calls : List.Forall₂ (Call.Matches (first.step.configKey ≠ part.key)) first.calls second.calls

/-- Under watch a heedless deployer makes matching calls if it is asked for the same contract code
with the same key. -/
theorem Deployer.Heedless.watched {deployer : Deployer σ} {view : σ → τ}
    (heedless : deployer.Heedless view) (settled : Prop) :
    deployer.watched.Respects
      (fun request asked => request.keyName = asked.keyName ∧ request.wasmPath = asked.wasmPath ∧
        (settled → request = asked))
      (fun watched other => view watched.chain = view other.chain ∧
        List.Forall₂ (Call.Matches settled) watched.calls other.calls) := by
  constructor
  · rintro files request asked watched other ⟨keyName, wasmPath, same⟩ ⟨relates, calls⟩
    have alike := heedless.deploys files request asked _ _ trivial relates
    unfold Deployer.watched
    dsimp only
    generalize deployer.deploy files request watched.chain = result,
      deployer.deploy files asked other.chain = otherResult at alike
    cases alike with
    | ok relatesLater =>
        refine .ok ⟨relatesLater, List.rel_append calls (.cons ?_ .nil)⟩
        exact ⟨rfl, keyName, wasmPath, same⟩
    | error relatesLater =>
        refine .error ⟨relatesLater, List.rel_append calls (.cons ?_ .nil)⟩
        exact ⟨rfl, keyName, wasmPath, same⟩
  · rintro line watched other ⟨relates, calls⟩
    exact ⟨heedless.announces line _ _ relates, calls⟩

/-! ### Steps -/

/-- States with the same record and the same files, of deployers that are related. -/
structure RunState.Abreast (related : σ → σ → Prop) (first second : RunState σ) : Prop where
  record : first.record = second.record
  files : first.files = second.files
  chain : related first.chain second.chain

theorem RunState.Abreast.refl (view : σ → τ) (state : RunState σ) :
    state.Abreast (fun chain other => view chain = view other) state :=
  ⟨rfl, rfl, rfl⟩

namespace Rollout

variable {rollout : Rollout σ} {asks : DeployRequest → DeployRequest → Prop}
  {related : σ → σ → Prop} {network : Json} {step : DeploymentStep} {first second : RunState σ}

/-- A rollout with other chain configs. -/
def reconfigured (rollout : Rollout σ) (configs : ChainConfigs) : Rollout σ :=
  { rollout with configs := configs }

/-- If a step asks the deployer alike under both chain configs, it ends alike. -/
theorem takeStep_reconfigured (network : Json) (step : DeploymentStep)
    (respects : rollout.deployer.Respects asks related)
    (agree : rollout.configs.AgreeApart part others)
    (asked : ∀ resolved otherwise, (step.configKey ≠ part.key → resolved = otherwise) →
      asks (rollout.request step resolved) (rollout.request step otherwise))
    (abreast : first.Abreast related second) :
    Alike (RunState.Abreast related) (rollout.takeStep network step first)
      ((rollout.reconfigured others).takeStep network step second) := by
  obtain ⟨record, files, chain⟩ := second
  obtain ⟨rfl, rfl, relates⟩ := abreast
  have announced := respects.announces ("[INFO] Deploying " ++ step.name ++ "...") _ _ relates
  have outcome := rollout.takeStep_outcome network step first
  generalize rollout.takeStep network step first = result at outcome
  have goes {other : EStateM.Result Fault (RunState σ) Json}
      (outcome : (rollout.reconfigured others).StepOutcome network step
        ⟨first.record, first.files, chain⟩ other)
      (alike : Alike (RunState.Abreast related) result other) :
      Alike (RunState.Abreast related) result
        ((rollout.reconfigured others).takeStep network step ⟨first.record, first.files, chain⟩) :=
    outcome.eq ▸ alike
  cases outcome with
  | unreadable reads => exact goes (.unreadable reads) (.error ⟨rfl, rfl, relates⟩)
  | found reads populated =>
      exact goes (.found reads populated) (.ok ⟨rfl, rfl, respects.announces _ _ _ relates⟩)
  | blocked reads vacant missing =>
      exact goes (.blocked reads vacant missing) (.error ⟨rfl, rfl, relates⟩)
  | unresolved reads vacant complete resolves =>
      have resolvesOther := DeploymentStep.resolve_error_of_agree agree resolves
      exact goes (.unresolved reads vacant complete resolvesOther) (.error ⟨rfl, rfl, relates⟩)
  | refused reads vacant complete resolves deploys =>
      obtain ⟨otherwise, resolvesOther, same⟩ := DeploymentStep.resolve_of_agree agree resolves
      obtain ⟨later, deploysOther, relatesLater⟩ :=
        (deploys ▸ respects.deploys _ _ _ _ _ (asked _ otherwise same) announced).of_error
      exact goes (.refused reads vacant complete resolvesOther deploysOther)
        (.error ⟨rfl, rfl, relatesLater⟩)
  | unsaved reads vacant complete resolves deploys writes =>
      obtain ⟨otherwise, resolvesOther, same⟩ := DeploymentStep.resolve_of_agree agree resolves
      obtain ⟨later, deploysOther, relatesLater⟩ :=
        (deploys ▸ respects.deploys _ _ _ _ _ (asked _ otherwise same) announced).of_ok
      exact goes (.unsaved reads vacant complete resolvesOther deploysOther writes)
        (.error ⟨rfl, rfl, relatesLater⟩)
  | deployed reads vacant complete resolves deploys writes =>
      obtain ⟨otherwise, resolvesOther, same⟩ := DeploymentStep.resolve_of_agree agree resolves
      obtain ⟨later, deploysOther, relatesLater⟩ :=
        (deploys ▸ respects.deploys _ _ _ _ _ (asked _ otherwise same) announced).of_ok
      exact goes (.deployed reads vacant complete resolvesOther deploysOther writes)
        (.ok ⟨rfl, rfl, respects.announces _ _ _ relatesLater⟩)

variable {view : σ → τ}

/-- A step goes the same way under chain configs that agree apart from one part, seen from outside. -/
theorem stepRun_matches (network : Json) (step : DeploymentStep)
    (heedless : rollout.deployer.Heedless view)
    (agree : rollout.configs.AgreeApart part others)
    (abreast : first.Abreast (fun chain other => view chain = view other) second) :
    (rollout.stepRun network step first).Matches part
      ((rollout.reconfigured others).stepRun network step second) := by
  have asked (resolved otherwise : ResolvedContract)
      (same : step.configKey ≠ part.key → resolved = otherwise) :
      (rollout.request step resolved).keyName = (rollout.request step otherwise).keyName ∧
        (rollout.request step resolved).wasmPath = (rollout.request step otherwise).wasmPath ∧
        (step.configKey ≠ part.key →
          rollout.request step resolved = rollout.request step otherwise) :=
    ⟨rfl, rfl, fun differs => congrArg _ (same differs)⟩
  have watched : first.watch.Abreast (fun watched other =>
      view watched.chain = view other.chain ∧
        List.Forall₂ (Call.Matches (step.configKey ≠ part.key)) watched.calls other.calls)
      second.watch :=
    ⟨abreast.record, abreast.files, abreast.chain, .nil⟩
  have alike : Alike _ (rollout.watched.takeStep network step first.watch)
      ((rollout.reconfigured others).watched.takeStep network step second.watch) :=
    takeStep_reconfigured network step (heedless.watched (step.configKey ≠ part.key)) agree asked
      watched
  unfold stepRun
  generalize rollout.watched.takeStep network step first.watch = result,
    (rollout.reconfigured others).watched.takeStep network step second.watch = other at alike
  cases alike with
  | ok later => exact ⟨rfl, rfl, abreast.files, rfl, later.files, later.chain.2⟩
  | error later => exact ⟨rfl, rfl, abreast.files, rfl, later.files, later.chain.2⟩

/-! ### Runs -/

theorem takeStep_alike (network : Json) (step : DeploymentStep)
    (heedless : rollout.deployer.Heedless view)
    (agree : rollout.configs.AgreeApart part others)
    (abreast : first.Abreast (fun chain other => view chain = view other) second) :
    Alike (RunState.Abreast fun chain other => view chain = view other)
      (rollout.takeStep network step first)
      ((rollout.reconfigured others).takeStep network step second) :=
  takeStep_reconfigured network step heedless agree (fun _ _ _ => trivial) abreast

theorem runSteps_alike (network : Json) (heedless : rollout.deployer.Heedless view)
    (agree : rollout.configs.AgreeApart part others) (steps : List DeploymentStep)
    (abreast : first.Abreast (fun chain other => view chain = view other) second) :
    Alike (RunState.Abreast fun chain other => view chain = view other)
      (rollout.runSteps network steps first)
      ((rollout.reconfigured others).runSteps network steps second) := by
  induction steps generalizing first second with
  | nil => exact .ok abreast
  | cons step rest ih =>
      rw [runSteps_cons, runSteps_cons]
      apply (takeStep_alike network step heedless agree abreast).bind
      intro address first second abreast
      apply (ih abreast).bind
      intro addresses first second abreast
      exact .ok abreast

theorem stepHistory_matches (network : Json) (heedless : rollout.deployer.Heedless view)
    (agree : rollout.configs.AgreeApart part others) (steps : List DeploymentStep)
    (abreast : first.Abreast (fun chain other => view chain = view other) second) :
    List.Forall₂ (StepRun.Matches part) (rollout.stepHistory network steps first)
      ((rollout.reconfigured others).stepHistory network steps second) := by
  induction steps generalizing first second with
  | nil => exact .nil
  | cons step rest ih =>
      have one := stepRun_matches network step heedless agree abreast
      have alike := takeStep_alike network step heedless agree abreast
      generalize takes : rollout.takeStep network step first = result,
        takesOther : (rollout.reconfigured others).takeStep network step second = other at alike
      cases alike with
      | ok later =>
          rw [stepHistory_of_ok takes, stepHistory_of_ok takesOther]
          exact .cons one (ih later)
      | error later =>
          rw [stepHistory_of_error takes, stepHistory_of_error takesOther]
          exact .cons one .nil

/-- What the chain configs say of one contract does not reach the others. Two runs with a deployer
that does not heed what it is asked, and with chain configs that agree apart from one part, end
alike, with the same addresses or the same fault, and leave the same files. They take the same
steps, each from the same files to the same files and with the same answer, and each step makes the
same calls. What the calls of a step ask for is equal if it is a step of another part, and else it
is the same contract code with the same key. -/
theorem configs_isolated (rollout : Rollout σ) (view : σ → τ)
    (heedless : rollout.deployer.Heedless view) (part : ConfigPart) (others : ChainConfigs)
    (agree : rollout.configs.AgreeApart part others) (network : Json)
    (steps : List DeploymentStep) (state : RunState σ) :
    Alike (fun ending other => ending.files = other.files) (rollout.run network steps state)
        ((rollout.reconfigured others).run network steps state) ∧
      List.Forall₂ (StepRun.Matches part) (rollout.history network steps state)
        ((rollout.reconfigured others).history network steps state) := by
  have abreast : state.Abreast (fun chain other => view chain = view other) state := .refl view state
  have sameMultisig : (rollout.reconfigured others).configs.requireMultisig =
      rollout.configs.requireMultisig :=
    agree.requireMultisig.symm
  constructor
  · have alike : Alike (RunState.Abreast fun chain other => view chain = view other)
        (rollout.run network steps state) ((rollout.reconfigured others).run network steps state) := by
      unfold run
      rw [sameMultisig]
      apply (parallel_orFault _ _ _ abreast).bind
      intro multisig first second abreast
      apply (runSteps_alike network heedless agree steps abreast).bind
      intro addresses first second abreast
      exact .ok abreast
    exact alike.mono fun _ _ ends => ends.files
  · unfold history
    rw [sameMultisig]
    cases rollout.configs.requireMultisig with
    | ok multisig => exact stepHistory_matches network heedless agree steps abreast
    | error fault => exact .nil

/-- Two bridges, each of the same part of the configuration, and then a satellite. -/
def bridgesLaunch (configs : ChainConfigs) : Launch where
  Chain := Script
  deployer := Script.deployer
  chain := {}
  configs := configs
  wasmPath := .ofString "wasm"
  keyName := "deployer"
  network := "pisco-1"
  steps := [.cw20Ics20,
    { DeploymentStep.cw20Ics20 with name := "Spare", recordField := "spareAddress" }, .satellite]

/-- With other words for the bridges, the same contracts are deployed. -/
theorem configs_isolated_bridges :
    let configs := ChainConfigs.ofMultisig "terra1owner"
    let others := { configs with cw20Ics20 := ⟨.string "terra1admin", .string "bridge", []⟩ }
    let run := (bridgesLaunch configs).run (.ofText "records") .empty
    let otherRun := (bridgesLaunch others).run (.ofText "records") .empty
    configs.AgreeApart .cw20Ics20 others ∧ isOk run = true ∧
      Alike (fun ending other => ending.files = other.files) run otherRun ∧
      List.Forall₂ (StepRun.Matches .cw20Ics20)
        ((bridgesLaunch configs).history (.ofText "records") .empty)
        ((bridgesLaunch others).history (.ofText "records") .empty) := by
  have agree : (ChainConfigs.ofMultisig "terra1owner").AgreeApart .cw20Ics20
      { ChainConfigs.ofMultisig "terra1owner" with
        cw20Ics20 := ⟨.string "terra1admin", .string "bridge", []⟩ } := by
    refine ⟨rfl, ?_⟩
    intro other differs
    cases other with
    | cw20Ics20 => exact absurd rfl differs
    | controller | satellite => rfl
  have works : isOk ((bridgesLaunch (.ofMultisig "terra1owner")).run (.ofText "records") .empty) =
      true := by
    decide +kernel
  exact ⟨agree, works, configs_isolated
    ((bridgesLaunch (.ofMultisig "terra1owner")).rollout (.ofText "records")) _
    Script.heedless_deployer .cw20Ics20 _ agree (.string "pisco-1") _ _⟩

end Rollout

end ContractRollout
