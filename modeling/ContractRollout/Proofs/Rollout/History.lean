import ContractRollout.Proofs.Rollout.Steps

/-!
# Histories of runs

A watched deployer does what the deployer does and writes down its calls and its log.
With it a run leaves a history: for each step that it takes the files before and after,
what the step answers and which calls it makes. Watching changes nothing, so the
history is that of the run itself.
-/

namespace ContractRollout

/-- A call of a deployer with what came of it. -/
structure Call where
  request : DeployRequest
  answer : Except Fault Json

/-- A state of a deployer with the calls and the log so far. -/
structure Watched (σ : Type) where
  chain : σ
  calls : List Call := []
  lines : List String := []

/-- A deployer with its calls and its log written down. -/
def Deployer.watched {σ : Type} (deployer : Deployer σ) : Deployer (Watched σ) where
  deploy files request watched :=
    match deployer.deploy files request watched.chain with
    | .ok address chain =>
        .ok address { watched with chain, calls := watched.calls ++ [⟨request, .ok address⟩] }
    | .error fault chain =>
        .error fault { watched with chain, calls := watched.calls ++ [⟨request, .error fault⟩] }
  announce line watched :=
    { watched with
      chain := deployer.announce line watched.chain
      lines := watched.lines ++ [line] }

/-- A rollout with the calls and the log of its deployer written down. -/
def Rollout.watched {σ : Type} (rollout : Rollout σ) : Rollout (Watched σ) where
  deployer := rollout.deployer.watched
  configs := rollout.configs
  store := rollout.store
  wasmPath := rollout.wasmPath
  keyName := rollout.keyName

namespace RunState

variable {σ : Type}

/-- A state with nothing written down yet. -/
def watch (state : RunState σ) : RunState (Watched σ) :=
  ⟨state.record, state.files, { chain := state.chain }⟩

def forget (state : RunState (Watched σ)) : RunState σ :=
  ⟨state.record, state.files, state.chain.chain⟩

@[simp]
theorem forget_watch (state : RunState σ) : state.watch.forget = state := rfl

end RunState

def forgetOutcome {σ α : Type} :
    EStateM.Result Fault (RunState (Watched σ)) α → EStateM.Result Fault (RunState σ) α
  | .ok value state => .ok value state.forget
  | .error fault state => .error fault state.forget

theorem forgetOutcome_map {σ α β : Type} {watched : RunAction (Watched σ) α}
    {action : RunAction σ α} {state : RunState (Watched σ)}
    (same : forgetOutcome (watched state) = action state.forget) (change : α → β) :
    forgetOutcome ((do return change (← watched)) state) =
      (do return change (← action)) state.forget := by
  cases result : watched state with
  | error fault later =>
      rw [result] at same
      rw [bind_of_error result, bind_of_error same.symm]
      rfl
  | ok value later =>
      rw [result] at same
      rw [bind_of_ok result, bind_of_ok same.symm]
      rfl

namespace Rollout

variable {σ : Type} {rollout : Rollout σ} {network : Json} {step : DeploymentStep}

theorem deploy_of_watched_ok {files : FileTree} {request : DeployRequest}
    {watched later : Watched σ} {address : Json}
    (deploys : rollout.watched.deployer.deploy files request watched = .ok address later) :
    rollout.deployer.deploy files request watched.chain = .ok address later.chain ∧
      later.calls = watched.calls ++ [⟨request, .ok address⟩] := by
  cases result : rollout.deployer.deploy files request watched.chain with
  | ok other chain =>
      simp only [Rollout.watched, Deployer.watched, result] at deploys
      obtain ⟨rfl, rfl⟩ := EStateM.Result.ok.inj deploys
      exact ⟨rfl, rfl⟩
  | error fault chain => simp [Rollout.watched, Deployer.watched, result] at deploys

theorem deploy_of_watched_error {files : FileTree} {request : DeployRequest}
    {watched later : Watched σ} {fault : Fault}
    (deploys : rollout.watched.deployer.deploy files request watched = .error fault later) :
    rollout.deployer.deploy files request watched.chain = .error fault later.chain ∧
      later.calls = watched.calls ++ [⟨request, .error fault⟩] := by
  cases result : rollout.deployer.deploy files request watched.chain with
  | ok address chain => simp [Rollout.watched, Deployer.watched, result] at deploys
  | error other chain =>
      simp only [Rollout.watched, Deployer.watched, result] at deploys
      obtain ⟨rfl, rfl⟩ := EStateM.Result.error.inj deploys
      exact ⟨rfl, rfl⟩

/-- Watching a step does not change it. -/
theorem takeStep_watched (rollout : Rollout σ) (network : Json) (step : DeploymentStep)
    (state : RunState (Watched σ)) :
    forgetOutcome (rollout.watched.takeStep network step state) =
      rollout.takeStep network step state.forget := by
  have outcome := rollout.watched.takeStep_outcome network step state
  generalize rollout.watched.takeStep network step state = result at outcome
  refine (StepOutcome.eq ?_).symm
  cases outcome with
  | unreadable reads => exact .unreadable reads
  | found reads populated => exact .found reads populated
  | blocked reads vacant missing => exact .blocked reads vacant missing
  | unresolved reads vacant complete resolves => exact .unresolved reads vacant complete resolves
  | refused reads vacant complete resolves deploys =>
      exact .refused reads vacant complete resolves (deploy_of_watched_error deploys).1
  | unsaved reads vacant complete resolves deploys writes =>
      exact .unsaved reads vacant complete resolves (deploy_of_watched_ok deploys).1 writes
  | deployed reads vacant complete resolves deploys writes =>
      exact .deployed reads vacant complete resolves (deploy_of_watched_ok deploys).1 writes

end Rollout

theorem Rollout.runSteps_watched {σ : Type} (rollout : Rollout σ) (network : Json)
    (steps : List DeploymentStep) (state : RunState (Watched σ)) :
    forgetOutcome (rollout.watched.runSteps network steps state) =
      rollout.runSteps network steps state.forget := by
  induction steps generalizing state with
  | nil => rfl
  | cons step rest ih =>
      have same := rollout.takeStep_watched network step state
      cases takes : rollout.watched.takeStep network step state with
      | error fault later =>
          rw [takes] at same
          rw [runSteps_of_error takes, runSteps_of_error same.symm]
          rfl
      | ok address later =>
          rw [takes] at same
          rw [runSteps_cons, runSteps_cons, bind_of_ok takes, bind_of_ok same.symm]
          exact forgetOutcome_map (ih later) _

theorem Rollout.run_watched {σ : Type} (rollout : Rollout σ) (network : Json)
    (steps : List DeploymentStep) (state : RunState (Watched σ)) :
    forgetOutcome (rollout.watched.run network steps state) =
      rollout.run network steps state.forget := by
  have sameSteps := rollout.runSteps_watched network steps state
  cases multisig : rollout.configs.requireMultisig with
  | error fault =>
      have same : rollout.watched.configs.requireMultisig = .error fault := multisig
      rw [run_of_multisig_error steps multisig, run_of_multisig_error steps same]
      rfl
  | ok address =>
      have same : rollout.watched.configs.requireMultisig = .ok address := multisig
      rw [run_of_multisig steps multisig, run_of_multisig steps same]
      exact forgetOutcome_map sameSteps _

/-! ### Histories -/

/-- One step of a run, seen from outside. -/
structure StepRun where
  network : Json
  step : DeploymentStep
  before : FileTree
  answer : Except Fault Json
  after : FileTree
  calls : List Call

/-- The steps that a run takes, up to the first that stops. -/
def Rollout.stepHistory {σ : Type} (rollout : Rollout σ) (network : Json) :
    List DeploymentStep → RunState σ → List StepRun
  | [], _ => []
  | step :: rest, state =>
      match rollout.watched.takeStep network step state.watch with
      | .ok address later =>
          ⟨network, step, state.files, .ok address, later.files, later.chain.calls⟩ ::
            stepHistory rollout network rest later.forget
      | .error fault later =>
          [⟨network, step, state.files, .error fault, later.files, later.chain.calls⟩]

/-- The history of a run. Without a multisig it takes no step. -/
def Rollout.history {σ : Type} (rollout : Rollout σ) (network : Json)
    (steps : List DeploymentStep) (state : RunState σ) : List StepRun :=
  match rollout.configs.requireMultisig with
  | .ok _ => rollout.stepHistory network steps state
  | .error _ => []

def filesAfter (files : FileTree) (history : List StepRun) : FileTree :=
  history.foldl (fun _ stepRun => stepRun.after) files

/-- Every step of a history starts on the files that the one before it left. -/
def Linked (files : FileTree) : List StepRun → Prop
  | [] => True
  | stepRun :: rest => stepRun.before = files ∧ Linked stepRun.after rest

@[simp]
theorem filesAfter_nil (files : FileTree) : filesAfter files [] = files := rfl

@[simp]
theorem filesAfter_cons (files : FileTree) (stepRun : StepRun) (rest : List StepRun) :
    filesAfter files (stepRun :: rest) = filesAfter stepRun.after rest :=
  rfl

@[simp]
theorem linked_nil (files : FileTree) : Linked files [] := trivial

@[simp]
theorem linked_cons {files : FileTree} {stepRun : StepRun} {rest : List StepRun} :
    Linked files (stepRun :: rest) ↔ stepRun.before = files ∧ Linked stepRun.after rest :=
  Iff.rfl

theorem linked_append {files : FileTree} {first second : List StepRun} :
    Linked files (first ++ second) ↔
      Linked files first ∧ Linked (filesAfter files first) second := by
  induction first generalizing files with
  | nil => simp
  | cons stepRun rest ih => simp [ih, and_assoc]

namespace Rollout

variable {σ : Type} (rollout : Rollout σ) (network : Json)

theorem stepHistory_cons (step : DeploymentStep) (rest : List DeploymentStep)
    (state : RunState σ) :
    rollout.stepHistory network (step :: rest) state =
      match rollout.watched.takeStep network step state.watch with
      | .ok address later =>
          ⟨network, step, state.files, .ok address, later.files, later.chain.calls⟩ ::
            rollout.stepHistory network rest later.forget
      | .error fault later =>
          [⟨network, step, state.files, .error fault, later.files, later.chain.calls⟩] := by
  rw [stepHistory]

/-- A step that is taken from a state, seen from outside. -/
def stepRun (step : DeploymentStep) (state : RunState σ) : StepRun :=
  match rollout.watched.takeStep network step state.watch with
  | .ok address later =>
      ⟨network, step, state.files, .ok address, later.files, later.chain.calls⟩
  | .error fault later =>
      ⟨network, step, state.files, .error fault, later.files, later.chain.calls⟩

variable {rollout network} {step : DeploymentStep} {state : RunState σ}

@[simp]
theorem step_stepRun : (rollout.stepRun network step state).step = step := by
  unfold stepRun
  split <;> rfl

@[simp]
theorem before_stepRun : (rollout.stepRun network step state).before = state.files := by
  unfold stepRun
  split <;> rfl

/-- A step whose contract is in the record answers with the address there and does nothing else. -/
theorem stepRun_of_found {record : NetworkRecord} {address : Json}
    (reads : rollout.store.read state.files network = .ok record)
    (populated : record.get? step.recordField = some address) :
    rollout.stepRun network step state =
      ⟨network, step, state.files, .ok address, state.files, []⟩ := by
  have found : rollout.watched.StepOutcome network step state.watch _ := .found reads populated
  rw [stepRun, found.eq]
  rfl

theorem stepHistory_of_ok {address : Json} {middle : RunState σ}
    (takes : rollout.takeStep network step state = .ok address middle)
    (rest : List DeploymentStep) :
    rollout.stepHistory network (step :: rest) state =
      rollout.stepRun network step state :: rollout.stepHistory network rest middle := by
  have same := rollout.takeStep_watched network step state.watch
  rw [RunState.forget_watch, takes] at same
  rw [stepHistory_cons, stepRun]
  cases watched : rollout.watched.takeStep network step state.watch with
  | error fault later => simp [watched, forgetOutcome] at same
  | ok other later =>
      rw [watched] at same
      obtain ⟨rfl, rfl⟩ := EStateM.Result.ok.inj same
      rfl

theorem stepHistory_of_error {fault : Fault} {later : RunState σ}
    (stops : rollout.takeStep network step state = .error fault later)
    (rest : List DeploymentStep) :
    rollout.stepHistory network (step :: rest) state = [rollout.stepRun network step state] := by
  have same := rollout.takeStep_watched network step state.watch
  rw [RunState.forget_watch, stops] at same
  rw [stepHistory_cons, stepRun]
  cases watched : rollout.watched.takeStep network step state.watch with
  | error other later => rfl
  | ok address later => simp [watched, forgetOutcome] at same

/-- The history of steps that work and of others after them. -/
theorem stepHistory_append {earlier : List DeploymentStep} {answers : Members}
    {reached : RunState σ}
    (arrives : rollout.runSteps network earlier state = .ok answers reached)
    (rest : List DeploymentStep) :
    rollout.stepHistory network (earlier ++ rest) state =
      rollout.stepHistory network earlier state ++ rollout.stepHistory network rest reached := by
  induction earlier generalizing state answers with
  | nil =>
      obtain ⟨-, rfl⟩ := EStateM.Result.ok.inj arrives
      rfl
  | cons step earlier ih =>
      obtain ⟨address, middle, others, takes, arrivesRest, -⟩ := runSteps_ok.mp arrives
      rw [List.cons_append, stepHistory_of_ok takes, stepHistory_of_ok takes, ih arrivesRest,
        List.cons_append]

theorem history_of_multisig {multisig : Json} {steps : List DeploymentStep}
    (set : rollout.configs.requireMultisig = .ok multisig) :
    rollout.history network steps state = rollout.stepHistory network steps state := by
  rw [history, set]

variable (rollout network)

theorem linked_stepHistory (steps : List DeploymentStep) (state : RunState σ) :
    Linked state.files (rollout.stepHistory network steps state) := by
  induction steps generalizing state with
  | nil => trivial
  | cons step rest ih =>
      rw [stepHistory_cons]
      cases rollout.watched.takeStep network step state.watch with
      | ok address later => exact linked_cons.mpr ⟨rfl, ih later.forget⟩
      | error fault later => exact linked_cons.mpr ⟨rfl, linked_nil _⟩

theorem linked_history (steps : List DeploymentStep) (state : RunState σ) :
    Linked state.files (rollout.history network steps state) := by
  unfold history
  split
  · exact rollout.linked_stepHistory network steps state
  · exact linked_nil _

/-- A history ends with the files and the answers of the steps. -/
theorem stepHistory_replays (steps : List DeploymentStep) (state : RunState σ) :
    filesAfter state.files (rollout.stepHistory network steps state) =
        (finalState (rollout.runSteps network steps state)).files ∧
      ∀ answers later, rollout.runSteps network steps state = .ok answers later →
        (rollout.stepHistory network steps state).map
            (fun stepRun => (stepRun.step.name, stepRun.answer)) =
          answers.map fun (name, address) => (name, .ok address) := by
  induction steps generalizing state with
  | nil =>
      refine ⟨rfl, ?_⟩
      intro answers later runs
      obtain ⟨rfl, -⟩ := EStateM.Result.ok.inj runs
      rfl
  | cons step rest ih =>
      have same := rollout.takeStep_watched network step state.watch
      rw [RunState.forget_watch] at same
      rw [stepHistory_cons]
      cases takes : rollout.watched.takeStep network step state.watch with
      | error fault later =>
          rw [takes] at same
          rw [runSteps_of_error same.symm]
          refine ⟨rfl, ?_⟩
          intro answers final runs
          simp at runs
      | ok address later =>
          rw [takes] at same
          obtain ⟨filesSame, answersSame⟩ := ih later.forget
          rw [finalState_runSteps_of_ok same.symm]
          refine ⟨filesSame, ?_⟩
          intro answers final runs
          obtain ⟨other, middle, others, takesSame, runs, rfl⟩ := runSteps_ok.mp runs
          obtain ⟨rfl, rfl⟩ := EStateM.Result.ok.inj (same.trans takesSame)
          rw [List.map_cons, List.map_cons, answersSame others final runs]

theorem filesAfter_history (steps : List DeploymentStep) (state : RunState σ) :
    filesAfter state.files (rollout.history network steps state) =
      (finalState (rollout.run network steps state)).files := by
  unfold history
  cases multisig : rollout.configs.requireMultisig with
  | error fault =>
      rw [run_of_multisig_error steps multisig]
      rfl
  | ok address =>
      rw [rollout.finalState_run_of_multisig network steps state multisig]
      exact (rollout.stepHistory_replays network steps state).1

end Rollout

/-! ### Several runs -/

/-- All that a run takes apart from the store and the files. -/
structure Launch where
  Chain : Type
  deployer : Deployer Chain
  chain : Chain
  configs : ChainConfigs
  wasmPath : Path
  keyName : String
  network : String
  steps : List DeploymentStep

/-- The configuration that has a multisig and leaves everything else open. -/
def ChainConfigs.ofMultisig (multisig : String) : ChainConfigs :=
  let contract : ContractConfig := ⟨.string "", .string "", []⟩
  ⟨.string multisig, contract, contract, contract⟩

namespace Launch

variable (launch : Launch) (store : ArtifactStore) (files : FileTree)

def rollout : Rollout launch.Chain where
  deployer := launch.deployer
  configs := launch.configs
  store := store
  wasmPath := launch.wasmPath
  keyName := launch.keyName

def start : RunState launch.Chain := ⟨.empty (.string launch.network), files, launch.chain⟩

def run : EStateM.Result Fault (RunState launch.Chain) Members :=
  (launch.rollout store).run (.string launch.network) launch.steps (launch.start files)

def history : List StepRun :=
  (launch.rollout store).history (.string launch.network) launch.steps (launch.start files)

theorem linked_history : Linked files (launch.history store files) :=
  (launch.rollout store).linked_history (.string launch.network) launch.steps (launch.start files)

theorem filesAfter_history :
    filesAfter files (launch.history store files) = (finalState (launch.run store files)).files :=
  (launch.rollout store).filesAfter_history (.string launch.network) launch.steps
    (launch.start files)

end Launch

/-- The history of runs that are made one after the other on the same files. -/
def campaign (store : ArtifactStore) (files : FileTree) : List Launch → List StepRun
  | [] => []
  | launch :: rest =>
      launch.history store files ++ campaign store (finalState (launch.run store files)).files rest

theorem linked_campaign (store : ArtifactStore) (files : FileTree) (launches : List Launch) :
    Linked files (campaign store files launches) := by
  induction launches generalizing files with
  | nil => trivial
  | cons launch rest ih =>
      refine linked_append.mpr ⟨launch.linked_history store files, ?_⟩
      rw [launch.filesAfter_history store files]
      exact ih _

end ContractRollout
