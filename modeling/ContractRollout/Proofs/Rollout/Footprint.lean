import ContractRollout.Proofs.Record.Footprint
import ContractRollout.Proofs.Rollout.History

/-!
# The footprint of a run

A run changes files only by saving the record of its network, and only after its deployer has
given an address. Everything it looks at is on the way to the record, to its temporary file or
to the code of a step: on files that agree there a run goes the same way.
-/

namespace ContractRollout

open FileTree

/-- A deployer for which files only matter by whether the code is there. -/
def Deployer.ChecksCode {σ : Type} (deployer : Deployer σ) : Prop :=
  ∀ first second request, first.holdsFile request.wasmPath = second.holdsFile request.wasmPath →
    deployer.deploy first request = deployer.deploy second request

/-- No call of a step is answered with an address. -/
def StepRun.Unanswered (stepRun : StepRun) : Prop :=
  ∀ call ∈ stepRun.calls, ∀ address, call.answer ≠ .ok address

/-- Two states of a run that differ, if at all, by files at other places. -/
structure RunState.AgreeOn {σ : Type} (places : Set Place) (left right : RunState σ) : Prop where
  record : left.record = right.record
  files : FileTree.AgreeOn places left.files right.files
  chain : left.chain = right.chain

namespace Rollout

variable {σ : Type} {rollout : Rollout σ} {network : Json} {step : DeploymentStep}
  {steps : List DeploymentStep} {places : Set Place}

/-- What holds between a state and the end of each step holds between the ends of a run. -/
theorem runSteps_relates (relation : RunState σ → RunState σ → Prop)
    (refl : ∀ state, relation state state)
    (trans : ∀ first second third, relation first second → relation second third →
      relation first third)
    (each : ∀ step state, relation state (finalState (rollout.takeStep network step state)))
    (steps : List DeploymentStep) (state : RunState σ) :
    relation state (finalState (rollout.runSteps network steps state)) := by
  induction steps generalizing state with
  | nil => exact refl state
  | cons step rest ih =>
      have here := each step state
      cases takes : rollout.takeStep network step state with
      | error fault later =>
          rw [takes] at here
          rwa [runSteps_of_error takes]
      | ok address middle =>
          rw [takes] at here
          rw [finalState_runSteps_of_ok takes]
          exact trans _ _ _ here (ih middle)

theorem run_relates (relation : RunState σ → RunState σ → Prop)
    (refl : ∀ state, relation state state)
    (trans : ∀ first second third, relation first second → relation second third →
      relation first third)
    (each : ∀ step state, relation state (finalState (rollout.takeStep network step state)))
    (steps : List DeploymentStep) (state : RunState σ) :
    relation state (finalState (rollout.run network steps state)) := by
  cases multisig : rollout.configs.requireMultisig with
  | error fault =>
      rw [run_of_multisig_error steps multisig]
      exact refl state
  | ok address =>
      rw [rollout.finalState_run_of_multisig network steps state multisig]
      exact runSteps_relates relation refl trans each steps state

/-- What holds across every call and every line of a deployer holds across a step. -/
theorem takeStep_chain (relation : σ → σ → Prop) (refl : ∀ chain, relation chain chain)
    (trans : ∀ first second third, relation first second → relation second third →
      relation first third)
    (announces : ∀ line chain, relation chain (rollout.deployer.announce line chain))
    (deploys : ∀ files request chain,
      relation chain (finalState (rollout.deployer.deploy files request chain)))
    (network : Json) (step : DeploymentStep) (state : RunState σ) :
    relation state.chain (finalState (rollout.takeStep network step state)).chain := by
  have outcome := rollout.takeStep_outcome network step state
  generalize rollout.takeStep network step state = result at outcome
  have called (resolved : ResolvedContract) :
      relation state.chain (finalState (rollout.deployer.deploy state.files
        (rollout.request step resolved) (rollout.announceStart step state.chain))) :=
    trans _ _ _ (announces _ _) (deploys _ _ _)
  cases outcome with
  | unreadable reads => exact refl _
  | found reads populated => exact announces _ _
  | blocked reads vacant missing => exact refl _
  | unresolved reads vacant complete resolves => exact refl _
  | @refused record resolved fault chain reads vacant complete resolves deployed =>
      have ends := called resolved
      rwa [deployed] at ends
  | @unsaved record resolved address fault chain files reads vacant complete resolves deployed =>
      have ends := called resolved
      rwa [deployed] at ends
  | @deployed record resolved address chain files reads vacant complete resolves deployed =>
      have ends := called resolved
      rw [deployed] at ends
      exact trans _ _ _ ends (announces _ _)

theorem confined_takeStep (rollout : Rollout σ) (network : Json) (step : DeploymentStep)
    (state : RunState σ) :
    rollout.store.Confined network state.files
      (finalState (rollout.takeStep network step state)).files := by
  have outcome := rollout.takeStep_outcome network step state
  generalize rollout.takeStep network step state = result at outcome
  have stays := ArtifactStore.Confined.refl rollout.store network state.files
  cases outcome with
  | unreadable reads => exact stays
  | found reads populated => exact stays
  | blocked reads vacant missing => exact stays
  | unresolved reads vacant complete resolves => exact stays
  | refused reads vacant complete resolves deploys => exact stays
  | @unsaved record _ address _ _ _ reads vacant complete resolves deploys writes =>
      have saved := rollout.store.confined_write (record.put step.recordField address)
        record.network state.files
      rwa [writes, (ArtifactStore.read_faithful reads).1] at saved
  | @deployed record _ address _ _ reads vacant complete resolves deploys writes =>
      have saved := rollout.store.confined_write (record.put step.recordField address)
        record.network state.files
      rwa [writes, (ArtifactStore.read_faithful reads).1] at saved

/-- However a run ends, it keeps to the footprint of the record of its network. -/
theorem confined_run (rollout : Rollout σ) (network : Json) (steps : List DeploymentStep)
    (state : RunState σ) :
    rollout.store.Confined network state.files
      (finalState (rollout.run network steps state)).files := by
  apply run_relates fun before after => rollout.store.Confined network before.files after.files
  · exact fun state => .refl _ _ _
  · exact fun first second third => .trans
  · exact fun step state => rollout.confined_takeStep network step state

/-! ### Runs without an address -/

/-- Without an address from its deployer a step leaves the files as they are. -/
theorem files_of_unanswered (rollout : Rollout σ) (network : Json) (step : DeploymentStep)
    (state : RunState σ)
    (unanswered : ∀ call ∈
        (finalState (rollout.watched.takeStep network step state.watch)).chain.calls,
      ∀ address, call.answer ≠ .ok address) :
    (finalState (rollout.watched.takeStep network step state.watch)).files = state.files := by
  have outcome := rollout.watched.takeStep_outcome network step state.watch
  generalize rollout.watched.takeStep network step state.watch = result at outcome unanswered
  cases outcome with
  | unreadable reads => rfl
  | found reads populated => rfl
  | blocked reads vacant missing => rfl
  | unresolved reads vacant complete resolves => rfl
  | refused reads vacant complete resolves deploys => rfl
  | @unsaved _ resolved address _ chain _ reads vacant complete resolves deploys writes =>
      have last : ⟨rollout.request step resolved, .ok address⟩ ∈ chain.calls := by
        rw [(deploy_of_watched_ok deploys).2]
        exact List.mem_append_right _ List.mem_cons_self
      exact absurd rfl (unanswered _ last address)
  | @deployed _ resolved address chain _ reads vacant complete resolves deploys writes =>
      have last : ⟨rollout.request step resolved, .ok address⟩ ∈ chain.calls := by
        rw [(deploy_of_watched_ok deploys).2]
        exact List.mem_append_right _ List.mem_cons_self
      exact absurd rfl (unanswered _ last address)

theorem filesAfter_of_unanswered (rollout : Rollout σ) (network : Json)
    (steps : List DeploymentStep) (state : RunState σ)
    (unanswered : ∀ stepRun ∈ rollout.stepHistory network steps state, stepRun.Unanswered) :
    filesAfter state.files (rollout.stepHistory network steps state) = state.files := by
  induction steps generalizing state with
  | nil => rfl
  | cons step rest ih =>
      have here := rollout.files_of_unanswered network step state
      rw [stepHistory_cons] at unanswered ⊢
      cases takes : rollout.watched.takeStep network step state.watch with
      | error fault later =>
          rw [takes] at unanswered here
          exact here (unanswered _ List.mem_cons_self)
      | ok address later =>
          rw [takes] at unanswered here
          have first := here (unanswered _ List.mem_cons_self)
          have others := ih later.forget fun stepRun member =>
            unanswered stepRun (List.mem_cons_of_mem _ member)
          exact others.trans first

/-- A run of whose calls none is answered with an address leaves the files as they are. -/
theorem files_run_of_unanswered (rollout : Rollout σ) (network : Json)
    (steps : List DeploymentStep) (state : RunState σ)
    (unanswered : ∀ stepRun ∈ rollout.history network steps state, stepRun.Unanswered) :
    (finalState (rollout.run network steps state)).files = state.files := by
  rw [← rollout.filesAfter_history]
  unfold history at unanswered ⊢
  cases multisig : rollout.configs.requireMultisig with
  | error fault => rfl
  | ok address =>
      rw [multisig] at unanswered
      exact rollout.filesAfter_of_unanswered network steps state unanswered

/-! ### What a run looks at -/

/-- On files that agree where a step looks, it goes the same way. -/
theorem parallel_takeStep (checks : rollout.deployer.ChecksCode)
    (covered : rollout.store.Covered network places)
    (code : (rollout.wasmPath.join (.ofString step.wasmFile)).Within places) :
    Parallel (RunState.AgreeOn places) (rollout.takeStep network step) := by
  rintro ⟨record, files, chain⟩ ⟨_, others, _⟩ ⟨rfl, agree, rfl⟩
  have sameRecord := ArtifactStore.read_of_agree covered.record agree
  have sameCall (resolved : ResolvedContract) :
      rollout.deployer.deploy files (rollout.request step resolved) =
        rollout.deployer.deploy others (rollout.request step resolved) :=
    checks _ _ _ (holdsFile_of_agree code agree)
  have outcome := rollout.takeStep_outcome network step ⟨record, files, chain⟩
  generalize rollout.takeStep network step ⟨record, files, chain⟩ = result at outcome
  cases outcome with
  | unreadable reads =>
      have other : rollout.StepOutcome network step ⟨record, others, chain⟩ _ :=
        .unreadable (sameRecord ▸ reads)
      rw [other.eq]
      exact .error ⟨rfl, agree, rfl⟩
  | found reads populated =>
      have other : rollout.StepOutcome network step ⟨record, others, chain⟩ _ :=
        .found (sameRecord ▸ reads) populated
      rw [other.eq]
      exact .ok ⟨rfl, agree, rfl⟩
  | blocked reads vacant missing =>
      have other : rollout.StepOutcome network step ⟨record, others, chain⟩ _ :=
        .blocked (sameRecord ▸ reads) vacant missing
      rw [other.eq]
      exact .error ⟨rfl, agree, rfl⟩
  | unresolved reads vacant complete resolves =>
      have other : rollout.StepOutcome network step ⟨record, others, chain⟩ _ :=
        .unresolved (sameRecord ▸ reads) vacant complete resolves
      rw [other.eq]
      exact .error ⟨rfl, agree, rfl⟩
  | refused reads vacant complete resolves deploys =>
      have other : rollout.StepOutcome network step ⟨record, others, chain⟩ _ :=
        .refused (sameRecord ▸ reads) vacant complete resolves (sameCall _ ▸ deploys)
      rw [other.eq]
      exact .error ⟨rfl, agree, rfl⟩
  | @unsaved held _ address _ _ _ reads vacant complete resolves deploys writes =>
      have saves := ArtifactStore.parallel_write
        ((ArtifactStore.read_faithful reads).1.symm ▸ covered) (held.put step.recordField address)
        files others agree
      rw [writes] at saves
      generalize written : rollout.store.write (held.put step.recordField address) held.network
        others = result at saves
      cases saves with
      | error agreeLater =>
          have other : rollout.StepOutcome network step ⟨record, others, chain⟩ _ :=
            .unsaved (sameRecord ▸ reads) vacant complete resolves (sameCall _ ▸ deploys) written
          rw [other.eq]
          exact .error ⟨rfl, agreeLater, rfl⟩
  | @deployed held _ address _ _ reads vacant complete resolves deploys writes =>
      have saves := ArtifactStore.parallel_write
        ((ArtifactStore.read_faithful reads).1.symm ▸ covered) (held.put step.recordField address)
        files others agree
      rw [writes] at saves
      generalize written : rollout.store.write (held.put step.recordField address) held.network
        others = result at saves
      cases saves with
      | ok agreeLater =>
          have other : rollout.StepOutcome network step ⟨record, others, chain⟩ _ :=
            .deployed (sameRecord ▸ reads) vacant complete resolves (sameCall _ ▸ deploys) written
          rw [other.eq]
          exact .ok ⟨rfl, agreeLater, rfl⟩

theorem parallel_runSteps (checks : rollout.deployer.ChecksCode)
    (covered : rollout.store.Covered network places)
    (code : ∀ step ∈ steps, (rollout.wasmPath.join (.ofString step.wasmFile)).Within places) :
    Parallel (RunState.AgreeOn places) (rollout.runSteps network steps) := by
  induction steps with
  | nil => exact parallel_pure []
  | cons step rest ih =>
      rw [runSteps_cons]
      apply (parallel_takeStep checks covered (code step List.mem_cons_self)).bind
      intro address
      apply (ih fun other member => code other (List.mem_cons_of_mem _ member)).bind
      intro addresses
      exact parallel_pure _

/-- On files that agree where a run looks, it goes the same way. -/
theorem parallel_run (checks : rollout.deployer.ChecksCode)
    (covered : rollout.store.Covered network places)
    (code : ∀ step ∈ steps, (rollout.wasmPath.join (.ofString step.wasmFile)).Within places) :
    Parallel (RunState.AgreeOn places) (rollout.run network steps) := by
  unfold run
  apply (parallel_orFault _).bind
  intro multisig
  apply (parallel_runSteps checks covered code).bind
  intro addresses
  exact parallel_pure _

end Rollout

end ContractRollout
