import ContractRollout.Proofs.Record.Kept
import ContractRollout.Proofs.Rollout.Effects

/-!
# One deployment per contract

However many runs are made over one directory of records, for whatever networks, with
whatever configurations and failures, a contract of a network is deployed and recorded
at most once. Once its field is populated every later step finds the address there.

The invariant is that no stored record has doubles in it and that a populated field
stays populated with its value. A step keeps both for its own network since it only
fills a vacant field, and for other networks since their files are elsewhere.
-/

namespace ContractRollout

variable {store : ArtifactStore} {files : FileTree} {names : List String} {stepRun : StepRun}
  {history : List StepRun}

/-- The networks have plain names, and none of them has a stored record with doubles. -/
def Tidy (store : ArtifactStore) (names : List String) (files : FileTree) : Prop :=
  ∀ name ∈ names, '/' ∉ name.toList ∧ store.HoldsFloatFree files (.string name)

/-- A lawful step of one of the networks. -/
structure StepRun.Admitted (store : ArtifactStore) (names : List String) (stepRun : StepRun) :
    Prop where
  lawful : stepRun.Lawful store (· ≠ "")
  named : ∃ name ∈ names, stepRun.network = .string name

/-- A step that called the deployer and answered with an address. -/
def StepRun.Deployed (stepRun : StepRun) : Prop :=
  stepRun.calls ≠ [] ∧ ∃ address, stepRun.answer = .ok address

theorem Tidy.step (tidy : Tidy store names stepRun.before)
    (admitted : stepRun.Admitted store names) : Tidy store names stepRun.after := by
  intro name member
  obtain ⟨plain, floatFree⟩ := tidy name member
  obtain ⟨other, inNames, same⟩ := admitted.named
  obtain ⟨plainOther, floatFreeOther⟩ := tidy other inNames
  refine ⟨plain, ?_⟩
  rcases StepEffect.writes admitted.lawful with unchanged | ⟨record, text, reads, vacant, written⟩
  · rw [unchanged]
    exact floatFree
  · rw [written, same]
    rw [same] at reads
    exact floatFree.write plain plainOther ((floatFreeOther.storable reads).put_string _ text)

theorem Tidy.populated (tidy : Tidy store names stepRun.before)
    (admitted : stepRun.Admitted store names) {name field : String} {address : Json}
    (plain : '/' ∉ name.toList)
    (populated : store.Populated stepRun.before (.string name) field address) :
    store.Populated stepRun.after (.string name) field address := by
  obtain ⟨other, inNames, same⟩ := admitted.named
  obtain ⟨plainOther, floatFreeOther⟩ := tidy other inNames
  rcases StepEffect.writes admitted.lawful with unchanged | ⟨record, text, reads, vacant, written⟩
  · rw [unchanged]
    exact populated
  · rw [same] at reads written
    rw [written]
    by_cases different : name = other
    · subst different
      exact ((floatFreeOther.settled populated).write reads vacant).populated
    · exact populated.write_other plain plainOther different _

theorem StepRun.Deployed.populated (deployed : stepRun.Deployed)
    (tidy : Tidy store names stepRun.before) (admitted : stepRun.Admitted store names) :
    ∃ address, store.Populated stepRun.after stepRun.network stepRun.step.recordField address := by
  obtain ⟨called, address, answered⟩ := deployed
  obtain ⟨other, inNames, same⟩ := admitted.named
  have floatFree := (tidy other inNames).2
  rw [← same] at floatFree
  have effect := admitted.lawful
  unfold StepRun.Lawful at effect
  rw [answered] at effect
  obtain ⟨record, text, reads, given, writes⟩ := effect.of_call called
  have storable := (floatFree.storable reads).put_string stepRun.step.recordField text
  have held : (record.put stepRun.step.recordField (.string text)).get?
      stepRun.step.recordField = some (.string text) :=
    NetworkRecord.get?_put_self (NetworkRecord.isTruthy_string given)
  exact ⟨.string text, _, (ArtifactStore.written_of_write writes).read storable, held⟩

/-! ### Histories -/

/-- From the moment a field is populated every step finds its address there. -/
theorem answers_of_populated (tidy : Tidy store names files) (linked : Linked files history)
    (admitted : ∀ stepRun ∈ history, stepRun.Admitted store names) {name field : String}
    {address : Json} (plain : '/' ∉ name.toList)
    (populated : store.Populated files (.string name) field address) :
    ∀ stepRun ∈ history, stepRun.network = .string name → stepRun.step.recordField = field →
      stepRun.answer = .ok address ∧ stepRun.calls = [] ∧ stepRun.after = stepRun.before := by
  induction history generalizing files with
  | nil => simp
  | cons first rest ih =>
      obtain ⟨rfl, linkedRest⟩ := linked_cons.mp linked
      have admittedFirst := admitted first List.mem_cons_self
      intro stepRun member sameNetwork sameField
      rcases List.mem_cons.mp member with rfl | inRest
      · rw [← sameNetwork, ← sameField] at populated
        exact StepEffect.of_populated admittedFirst.lawful populated
      · exact ih (tidy.step admittedFirst) linkedRest
          (fun other found => admitted other (List.mem_cons_of_mem _ found))
          (tidy.populated admittedFirst plain populated) stepRun inRest sameNetwork sameField

/-- Of two steps for the same field of the same network at most one deploys. -/
theorem pairwise_not_deployed (tidy : Tidy store names files) (linked : Linked files history)
    (admitted : ∀ stepRun ∈ history, stepRun.Admitted store names) :
    history.Pairwise fun early late =>
      early.network = late.network → early.step.recordField = late.step.recordField →
        ¬ (early.Deployed ∧ late.Deployed) := by
  induction history generalizing files with
  | nil => exact .nil
  | cons first rest ih =>
      obtain ⟨rfl, linkedRest⟩ := linked_cons.mp linked
      have admittedFirst := admitted first List.mem_cons_self
      have admittedRest : ∀ stepRun ∈ rest, stepRun.Admitted store names :=
        fun other found => admitted other (List.mem_cons_of_mem _ found)
      refine .cons ?_ (ih (tidy.step admittedFirst) linkedRest admittedRest)
      rintro late inRest sameNetwork sameField ⟨deployed, again⟩
      obtain ⟨address, populated⟩ := deployed.populated tidy admittedFirst
      obtain ⟨name, inNames, named⟩ := admittedFirst.named
      rw [named] at populated sameNetwork
      have nothing := answers_of_populated (tidy.step admittedFirst) linkedRest admittedRest
        (tidy name inNames).1 populated late inRest sameNetwork.symm sameField.symm
      exact again.1 nothing.2.1

theorem tidy_filesAfter (tidy : Tidy store names files) (linked : Linked files history)
    (admitted : ∀ stepRun ∈ history, stepRun.Admitted store names) :
    Tidy store names (filesAfter files history) := by
  induction history generalizing files with
  | nil => exact tidy
  | cons first rest ih =>
      obtain ⟨rfl, linkedRest⟩ := linked_cons.mp linked
      exact ih (tidy.step (admitted first List.mem_cons_self)) linkedRest
        fun other found => admitted other (List.mem_cons_of_mem _ found)

/-- In any sequence of runs over one directory of records, with plain network names,
deployers that answer with addresses or fail to deploy, and stored records without
doubles: of all steps for one field of one network at most one calls the deployer and
returns, and none does if the field is populated at the start. From any moment at which
the field is populated every later step for it answers with the stored address, makes
no call and changes no file. -/
theorem deployed_at_most_once (store : ArtifactStore) (files : FileTree) (launches : List Launch)
    (plain : ∀ launch ∈ launches, '/' ∉ launch.network.toList)
    (gives : ∀ launch ∈ launches, launch.deployer.Gives (· ≠ ""))
    (floatFree : ∀ launch ∈ launches, store.HoldsFloatFree files (.string launch.network)) :
    ((campaign store files launches).Pairwise fun early late =>
      early.network = late.network → early.step.recordField = late.step.recordField →
        ¬ (early.Deployed ∧ late.Deployed)) ∧
    (∀ stepRun ∈ campaign store files launches, ∀ address,
      store.Populated files stepRun.network stepRun.step.recordField address →
        ¬ stepRun.Deployed) ∧
    ∀ earlier later, campaign store files launches = earlier ++ later →
      ∀ network field address,
        store.Populated (filesAfter files earlier) network field address →
          ∀ stepRun ∈ later, stepRun.network = network → stepRun.step.recordField = field →
            stepRun.answer = .ok address ∧ stepRun.calls = [] ∧
              stepRun.after = stepRun.before := by
  have tidy : Tidy store (launches.map Launch.network) files := by
    intro name member
    obtain ⟨launch, inLaunches, rfl⟩ := List.mem_map.mp member
    exact ⟨plain launch inLaunches, floatFree launch inLaunches⟩
  have linked := linked_campaign store files launches
  have admitted : ∀ stepRun ∈ campaign store files launches,
      stepRun.Admitted store (launches.map Launch.network) := by
    intro stepRun member
    obtain ⟨lawful, launch, inLaunches, same⟩ := lawful_campaign gives files stepRun member
    exact ⟨lawful, launch.network, List.mem_map_of_mem inLaunches, same⟩
  have answers : ∀ earlier later, campaign store files launches = earlier ++ later →
      ∀ network field address,
        store.Populated (filesAfter files earlier) network field address →
          ∀ stepRun ∈ later, stepRun.network = network → stepRun.step.recordField = field →
            stepRun.answer = .ok address ∧ stepRun.calls = [] ∧
              stepRun.after = stepRun.before := by
    intro earlier later split network field address populated stepRun member sameNetwork sameField
    rw [split] at linked admitted
    obtain ⟨linkedEarlier, linkedLater⟩ := linked_append.mp linked
    have tidyLater := tidy_filesAfter tidy linkedEarlier
      fun other found => admitted other (List.mem_append_left _ found)
    have admittedLater : ∀ stepRun ∈ later,
        stepRun.Admitted store (launches.map Launch.network) :=
      fun other found => admitted other (List.mem_append_right _ found)
    obtain ⟨name, inNames, named⟩ := (admittedLater stepRun member).named
    rw [named] at sameNetwork
    subst sameNetwork
    exact answers_of_populated tidyLater linkedLater admittedLater (tidy name inNames).1 populated
      stepRun member named sameField
  refine ⟨pairwise_not_deployed tidy linked admitted, ?_, answers⟩
  intro stepRun member address populated deployed
  have nothing := answers [] (campaign store files launches) rfl stepRun.network
    stepRun.step.recordField address populated stepRun member rfl rfl
  exact deployed.1 nothing.2.1

/-- Two full deployments: the first puts one contract on chain, the second none. -/
theorem deployed_at_most_once_rerun :
    (campaign (.ofText "records") .empty
        [.constant "pisco-1" "terra1first" DeploymentStep.all,
          .constant "pisco-1" "terra1second" DeploymentStep.all]).map
        (fun stepRun => stepRun.calls.length) = [1, 0, 0, 0] ∧
      (campaign (.ofText "records") .empty
        [.constant "pisco-1" "terra1first" DeploymentStep.all,
          .constant "pisco-1" "terra1second" DeploymentStep.all]).Pairwise fun early late =>
        early.network = late.network → early.step.recordField = late.step.recordField →
          ¬ (early.Deployed ∧ late.Deployed) := by
  refine ⟨by decide +kernel, (deployed_at_most_once _ _ _ (by decide) ?_ ?_).1⟩
  · simp only [List.forall_mem_cons]
    exact ⟨Deployer.gives_constant _ (by decide), Deployer.gives_constant _ (by decide), by simp⟩
  · intro launch member
    exact ArtifactStore.holdsFloatFree_empty _ _

end ContractRollout
