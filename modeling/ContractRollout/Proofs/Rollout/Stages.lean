import ContractRollout.Proofs.Record.Kept
import ContractRollout.Proofs.Rollout.History

/-!
# Stages of a run

A step of a run starts where the steps before it ended. If the answers of the deployer can be
stored, each of these steps has its address in the record there, whether it was deployed by
this run or found in the record.
-/

namespace ContractRollout

/-- The answers of a deployer count as present and are read back once they are written. -/
def Deployer.AnswersFaithfully {σ : Type} (deployer : Deployer σ) : Prop :=
  ∀ files request chain address later, deployer.deploy files request chain = .ok address later →
    Json.Faithful address ∧ address.isTruthy = true

namespace Rollout

variable {σ : Type} {rollout : Rollout σ} {network : Json} {step : DeploymentStep}
  {steps : List DeploymentStep} {state : RunState σ}

/-- A step of a run that is reached: the steps before it have answered. -/
structure Stage (rollout : Rollout σ) (network : Json) (steps : List DeploymentStep)
    (start : RunState σ) where
  earlier : List DeploymentStep
  step : DeploymentStep
  later : List DeploymentStep
  answers : Members
  reached : RunState σ
  split : steps = earlier ++ step :: later
  arrives : rollout.runSteps network earlier start = .ok answers reached

/-- What a stage ends in. -/
def Stage.ending (stage : rollout.Stage network steps state) : RunState σ :=
  finalState (rollout.takeStep network stage.step stage.reached)

def Stage.first (rollout : Rollout σ) (network : Json) (step : DeploymentStep)
    (rest : List DeploymentStep) (start : RunState σ) :
    rollout.Stage network (step :: rest) start :=
  ⟨[], step, rest, [], start, rfl, rfl⟩

/-- A stage of the rest of a run, as one of the whole run. -/
def Stage.after {address : Json} {middle : RunState σ}
    (takes : rollout.takeStep network step state = .ok address middle)
    (stage : rollout.Stage network steps middle) : rollout.Stage network (step :: steps) state where
  earlier := step :: stage.earlier
  step := stage.step
  later := stage.later
  answers := (step.name, address) :: stage.answers
  reached := stage.reached
  split := congrArg (step :: ·) stage.split
  arrives := runSteps_ok.mpr ⟨address, middle, stage.answers, takes, stage.arrives, rfl⟩

/-- A run that stops does so at a stage. -/
theorem exists_stage_of_error {fault : Fault} {later : RunState σ}
    (stops : rollout.runSteps network steps state = .error fault later) :
    ∃ stage : rollout.Stage network steps state,
      rollout.takeStep network stage.step stage.reached = .error fault later := by
  induction steps generalizing state with
  | nil => simp [runSteps, pure, EStateM.pure] at stops
  | cons step rest ih =>
      cases takes : rollout.takeStep network step state with
      | error other final =>
          rw [runSteps_of_error takes] at stops
          obtain ⟨rfl, rfl⟩ := EStateM.Result.error.inj stops
          exact ⟨.first rollout network step rest state, takes⟩
      | ok address middle =>
          rw [runSteps_cons, bind_of_ok takes] at stops
          rcases bind_error_iff.mp stops with stopsRest | ⟨others, between, -, returns⟩
          · obtain ⟨stage, stopsThere⟩ := ih stopsRest
            exact ⟨stage.after takes, stopsThere⟩
          · simp [pure, EStateM.pure] at returns

/-- A step of a history is that of a stage. -/
theorem exists_stage_of_mem_stepHistory {stepRun : StepRun}
    (member : stepRun ∈ rollout.stepHistory network steps state) :
    ∃ stage : rollout.Stage network steps state,
      stepRun = rollout.stepRun network stage.step stage.reached := by
  induction steps generalizing state with
  | nil => simp [stepHistory] at member
  | cons step rest ih =>
      cases takes : rollout.takeStep network step state with
      | error fault later =>
          rw [stepHistory_of_error takes] at member
          exact ⟨.first rollout network step rest state, List.mem_singleton.mp member⟩
      | ok address middle =>
          rw [stepHistory_of_ok takes] at member
          rcases List.mem_cons.mp member with here | there
          · exact ⟨.first rollout network step rest state, here⟩
          · obtain ⟨stage, same⟩ := ih there
            exact ⟨stage.after takes, same⟩

theorem Stage.runSteps_of_error (stage : rollout.Stage network steps state) {fault : Fault}
    {later : RunState σ}
    (stops : rollout.takeStep network stage.step stage.reached = .error fault later) :
    rollout.runSteps network steps state = .error fault later := by
  rw [stage.split, runSteps_append, bind_of_ok stage.arrives,
    bind_of_error (Rollout.runSteps_of_error stops)]

theorem Stage.stepHistory_of_error (stage : rollout.Stage network steps state) {fault : Fault}
    {later : RunState σ}
    (stops : rollout.takeStep network stage.step stage.reached = .error fault later) :
    rollout.stepHistory network steps state =
      rollout.stepHistory network stage.earlier state ++
        [rollout.stepRun network stage.step stage.reached] := by
  conv_lhs => rw [stage.split]
  rw [stepHistory_append stage.arrives, Rollout.stepHistory_of_error stops]

/-- A step that answers has its address in the record, and whatever was there still is. -/
theorem takeStep_populated (faithful : rollout.deployer.AnswersFaithfully) {address : Json}
    {middle : RunState σ} (takes : rollout.takeStep network step state = .ok address middle) :
    rollout.store.Populated middle.files network step.recordField address ∧
      ∀ field held, rollout.store.Populated state.files network field held →
        rollout.store.Populated middle.files network field held := by
  have outcome := rollout.takeStep_outcome network step state
  rw [takes] at outcome
  cases outcome with
  | @found record _ reads populated => exact ⟨⟨record, reads, populated⟩, fun _ _ there => there⟩
  | @deployed record _ _ _ _ reads vacant complete resolves deploys writes =>
      obtain ⟨faithfulAddress, truthy⟩ := faithful _ _ _ _ _ deploys
      obtain ⟨rfl, faithfulRecord⟩ := ArtifactStore.read_faithful reads
      have back := (ArtifactStore.written_of_write writes).read_of_faithful
        (faithfulRecord.insert step.recordField faithfulAddress)
      refine ⟨⟨_, back, NetworkRecord.get?_put_self truthy⟩, ?_⟩
      rintro field held ⟨stored, readsStored, there⟩
      obtain rfl := ArtifactStore.read_unique reads readsStored
      exact ⟨_, back, NetworkRecord.get?_put_of_vacant vacant address there⟩

/-- Steps that have answered have their addresses in the record. -/
theorem runSteps_populated (faithful : rollout.deployer.AnswersFaithfully)
    {answers : Members} {reached : RunState σ}
    (runs : rollout.runSteps network steps state = .ok answers reached) :
    (∀ taken ∈ steps.zip answers,
        rollout.store.Populated reached.files network taken.1.recordField taken.2.2) ∧
      ∀ field held, rollout.store.Populated state.files network field held →
        rollout.store.Populated reached.files network field held := by
  induction steps generalizing state answers with
  | nil =>
      obtain ⟨rfl, rfl⟩ := EStateM.Result.ok.inj runs
      exact ⟨by simp, fun _ _ there => there⟩
  | cons step rest ih =>
      obtain ⟨address, middle, others, takes, runsRest, rfl⟩ := runSteps_ok.mp runs
      obtain ⟨here, kept⟩ := takeStep_populated faithful takes
      obtain ⟨there, keptRest⟩ := ih runsRest
      refine ⟨?_, fun field held populated => keptRest field held (kept field held populated)⟩
      intro taken member
      rcases List.mem_cons.mp member with rfl | later
      · exact keptRest _ _ here
      · exact there taken later

/-- The record that a stage starts on has the addresses of the steps before it. -/
theorem Stage.recorded (stage : rollout.Stage network steps state)
    (faithful : rollout.deployer.AnswersFaithfully) {record : NetworkRecord}
    (reads : rollout.store.read stage.reached.files network = .ok record) :
    ∀ taken ∈ stage.earlier.zip stage.answers,
      record.get? taken.1.recordField = some taken.2.2 := by
  intro taken member
  obtain ⟨stored, readsStored, held⟩ := (runSteps_populated faithful stage.arrives).1 taken member
  obtain rfl := ArtifactStore.read_unique reads readsStored
  exact held

end Rollout

end ContractRollout
