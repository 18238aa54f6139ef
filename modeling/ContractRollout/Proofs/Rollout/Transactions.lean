import ContractRollout.Proofs.Chain.Identity
import ContractRollout.Proofs.Rollout.Signing

/-!
# The transactions of a run

A step that answers has found its contract in the record and sent nothing, or it has sent the
two transactions of a deployment, in this order and to the network of the run. A run that
returns has sent those of the steps whose contracts its first record did not have, step by
step, and no others.
-/

namespace ContractRollout

namespace ChainDeployer

variable {deployer : ChainDeployer} {network other : Json} {session after : Session}

/-- The chain id of a command is in a fixed place from its end. -/
theorem network_of_command {verb otherVerb : String} {arguments others : List Json}
    (same : deployer.command verb arguments other = deployer.command otherVerb others network) :
    other = network := by
  have lengths : (deployer.flags other).length = (deployer.flags network).length := by
    simp [flags]
  have flags := (List.append_inj' same lengths).2
  exact Option.some.inj (congrArg (·[5]?) flags)

/-- The two commands of a deployment, for the configuration of a step. -/
def DeploysBy (deployer : ChainDeployer) (configs : ChainConfigs) (code : Path) (network : Json)
    (step : DeploymentStep) (issued : List (List Json)) : Prop :=
  ∃ contract codeId message, configs.contract step.configKey = .ok contract ∧
    issued = [deployer.storeCommand (code.join (.ofString step.wasmFile)) network,
      deployer.instantiateCommand codeId message contract.label
        (if contract.admin.isUnset then configs.multisig else contract.admin) network]

/-- A deployment that works on a session that knows the chain id sends both of its transactions
to that chain. -/
theorem commands_of_deploy {files : FileTree} {request : DeployRequest} {address : Json}
    (known : session.chainId = some network)
    (deploys : deployer.toDeployer.deploy files request session = .ok address after) :
    after.chainId = some network ∧ ∃ happened codeId message,
      after.events = session.events ++ happened ∧
      commands happened = [deployer.storeCommand request.wasmPath network,
        deployer.instantiateCommand codeId message request.label request.admin network] := by
  obtain ⟨still, added, addsToo, on⟩ := deployer.keepsTo_deploy network files request session known
  obtain ⟨deployment, between, works, same⟩ := bind_ok_iff.mp deploys
  obtain ⟨rfl, rfl⟩ := EStateM.Result.ok.inj same
  obtain ⟨happened, chainId, _, _, codeId, message, other, _, _, _, adds, instantiated, -⟩ :=
    deploy_ok works
  rw [deploys, finalState_ok] at still addsToo
  obtain rfl : added = happened := List.append_cancel_left (addsToo.symm.trans adds)
  have issued := instantiated.commands_eq
  have onNetwork (command : List Json) (member : command ∈ commands added) :
      ∃ verb others, command = deployer.command verb others network := by
    obtain ⟨outcome, happens⟩ := mem_commands_iff.mp member
    exact on _ happens
  rw [issued] at onNetwork
  obtain ⟨_, _, first⟩ := onNetwork _ List.mem_cons_self
  obtain ⟨_, _, second⟩ := onNetwork _ (List.mem_cons_of_mem _ List.mem_cons_self)
  obtain rfl := network_of_command first
  obtain rfl := network_of_command second
  exact ⟨still.trans known, added, codeId, message, adds, issued⟩

end ChainDeployer

namespace Rollout

variable {rollout : Rollout Session} {deployer : ChainDeployer} {network address : Json}
  {step : DeploymentStep} {steps : List DeploymentStep} {state middle final : RunState Session}

/-- What a step that answers has done: it has found its contract in the record, or it has
deployed it and saved its address. -/
inductive StepIssue (rollout : Rollout Session) (deployer : ChainDeployer) (network : Json)
    (step : DeploymentStep) (before : FileTree) (address : Json) (after : FileTree)
    (issued : List (List Json)) : Prop
  | found {record : NetworkRecord} (reads : rollout.store.read before network = .ok record)
      (populated : record.get? step.recordField = some address) (same : after = before)
      (silent : issued = [])
  | deployed {record : NetworkRecord} (reads : rollout.store.read before network = .ok record)
      (vacant : record.get? step.recordField = none)
      (saved : rollout.store.read after network = .ok (record.put step.recordField address))
      (deploys : deployer.DeploysBy rollout.configs rollout.wasmPath network step issued)

theorem takeStep_issue (real : rollout.deployer = deployer.toDeployer)
    (known : state.chain.chainId = some network)
    (takes : rollout.takeStep network step state = .ok address middle) :
    middle.chain.chainId = some network ∧ ∃ happened,
      middle.chain.events = state.chain.events ++ happened ∧
      rollout.StepIssue deployer network step state.files address middle.files
        (commands happened) := by
  have outcome := rollout.takeStep_outcome network step state
  rw [takes] at outcome
  cases outcome with
  | found reads populated =>
      refine ⟨?_, [.line _], events_announceFound real _ _ _, .found reads populated rfl rfl⟩
      rw [announceFound, real]
      exact known
  | @deployed record resolved _ chain files reads vacant complete resolves deploys writes =>
      obtain ⟨-, contract, takesContract, rfl⟩ := DeploymentStep.resolve_ok.mp resolves
      rw [real] at deploys
      have opened : (rollout.announceStart step state.chain).chainId = some network := by
        rw [announceStart, real]
        exact known
      obtain ⟨still, happened, codeId, message, adds, issued⟩ :=
        ChainDeployer.commands_of_deploy opened deploys
      obtain ⟨faithful, truthy⟩ := deployer.answersFaithfully _ _ _ _ _ deploys
      obtain ⟨rfl, faithfulRecord⟩ := ArtifactStore.read_faithful reads
      have saved := (ArtifactStore.written_of_write writes).read_of_faithful
        (faithfulRecord.insert step.recordField faithful)
      refine ⟨?_, .line ("[INFO] Deploying " ++ step.name ++ "...") :: (happened ++
          [.line ("[OK] " ++ step.name ++ " address: " ++ address.text)]), ?_,
        .deployed reads vacant saved ⟨contract, codeId, message, takesContract, ?_⟩⟩
      · rw [announceAddress, real]
        exact still
      · rw [events_announceAddress real, adds, events_announceStart real]
        simp
      · change commands (happened ++ _) = _
        rw [commands_append, issued]
        rfl

theorem StepIssue.reads {before after : FileTree} {issued : List (List Json)}
    (issue : rollout.StepIssue deployer network step before address after issued) :
    ∃ record, rollout.store.read before network = .ok record := by
  cases issue with
  | found reads => exact ⟨_, reads⟩
  | deployed reads => exact ⟨_, reads⟩

/-- Steps answer under their names. -/
theorem names_of_runSteps {answers : Members}
    (runs : rollout.runSteps network steps state = .ok answers final) :
    answers.keys = steps.map DeploymentStep.name := by
  induction steps generalizing state answers with
  | nil =>
      obtain ⟨rfl, -⟩ := EStateM.Result.ok.inj runs
      rfl
  | cons step rest ih =>
      obtain ⟨address, middle, others, -, runsRest, rfl⟩ := runSteps_ok.mp runs
      exact congrArg (step.name :: ·) (ih runsRest)

/-- Steps that have answered have sent the transactions of those that had no address in the
first record, in order. -/
theorem runSteps_issue (real : rollout.deployer = deployer.toDeployer)
    (known : state.chain.chainId = some network)
    (distinct : (steps.map DeploymentStep.recordField).Nodup) {answers : Members}
    (runs : rollout.runSteps network steps state = .ok answers final) {record : NetworkRecord}
    (reads : rollout.store.read state.files network = .ok record) :
    ∃ happened parts, final.chain.events = state.chain.events ++ happened ∧
      commands happened = parts.flatten ∧
      List.Forall₂ (deployer.DeploysBy rollout.configs rollout.wasmPath network)
        (steps.filter fun step => !record.has step.recordField) parts := by
  induction steps generalizing state answers record with
  | nil =>
      obtain ⟨-, rfl⟩ := EStateM.Result.ok.inj runs
      exact ⟨[], [], by simp, rfl, .nil⟩
  | cons step rest ih =>
      obtain ⟨address, middle, others, takes, runsRest, rfl⟩ := runSteps_ok.mp runs
      obtain ⟨still, early, addsEarly, issue⟩ := takeStep_issue real known takes
      obtain ⟨apart, distinctRest⟩ := List.nodup_cons.mp distinct
      cases issue with
      | @found held readsHere populated same silent =>
          obtain rfl := ArtifactStore.read_unique reads readsHere
          have readsLater : rollout.store.read middle.files network = .ok record := by
            rw [same, reads]
          obtain ⟨late, parts, addsLate, issuedLate, deploys⟩ :=
            ih still distinctRest runsRest readsLater
          refine ⟨early ++ late, parts, by rw [addsLate, addsEarly, List.append_assoc], ?_, ?_⟩
          · rw [commands_append, silent, issuedLate, List.nil_append]
          · rwa [List.filter_cons_of_neg (by simp [NetworkRecord.has, populated])]
      | @deployed held readsHere vacant saved deploysHere =>
          obtain rfl := ArtifactStore.read_unique reads readsHere
          obtain ⟨late, parts, addsLate, issuedLate, deploys⟩ := ih still distinctRest runsRest saved
          -- The new address is in another field than those of the steps that follow.
          have unchanged : (rest.filter fun other =>
                !(record.put step.recordField address).has other.recordField) =
              rest.filter fun other => !record.has other.recordField := by
            refine List.filter_congr fun other member => ?_
            have different : other.recordField ≠ step.recordField :=
              fun same => apart (same ▸ List.mem_map_of_mem member)
            rw [NetworkRecord.has, NetworkRecord.get?_put_of_ne different, NetworkRecord.has]
          rw [unchanged] at deploys
          refine ⟨early ++ late, commands early :: parts,
            by rw [addsLate, addsEarly, List.append_assoc], ?_, ?_⟩
          · rw [commands_append, issuedLate, List.flatten_cons]
          · rw [List.filter_cons_of_pos (by simp [NetworkRecord.has, vacant])]
            exact .cons deploysHere deploys

end Rollout

end ContractRollout
