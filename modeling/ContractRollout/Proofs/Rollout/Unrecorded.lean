import ContractRollout.Proofs.Record.Leftovers
import ContractRollout.Proofs.Rollout.Effects

/-!
# Addresses that are not recorded

A contract that is deployed but not recorded is deployed a second time unless somebody
records its address by hand. The fault of such a step names the network, the field and
the address, as long as what the failed write leaves behind can be cleared away. If it
cannot, the step ends with the complaint of the file system, and the address is lost.
-/

namespace ContractRollout

open FileTree

namespace Rollout

variable {σ : Type} {rollout : Rollout σ} {step : DeploymentStep} {record : NetworkRecord}
  {resolved : ResolvedContract} {address : Json} {fault : Fault} {files after : FileTree}
  {chain later : σ}

theorem deployStep_of_unsaved (vacant : record.get? step.recordField = none)
    (complete : step.missingDependencies record = [])
    (resolves : step.resolve rollout.configs record = .ok resolved)
    (deploys : rollout.deployer.deploy files (rollout.request step resolved)
      (rollout.announceStart step chain) = .ok address later)
    (unsaved : rollout.store.write (record.put step.recordField address) record.network files =
      .error fault after) :
    rollout.deployStep step ⟨record, files, chain⟩ =
      .error (unrecorded step record.network address fault)
        ⟨record.put step.recordField address, after, later⟩ := by
  rw [deployStep_of_resolved vacant complete resolves, bind_of_ok (deploy_of_ok deploys),
    bind_of_error (keep_of_error vacant unsaved)]

/-- Let the deployer have given an address for a step, and let the record not be saved. Then
the step ends with the fault that names the network, the field and the address exactly if
the temporary file of the record can be cleared away. If it cannot, the step ends with a
complaint of the file system. -/
theorem address_reported_iff_clearable (rollout : Rollout σ)
    (vacant : record.get? step.recordField = none)
    (complete : step.missingDependencies record = [])
    (resolves : step.resolve rollout.configs record = .ok resolved)
    (deploys : rollout.deployer.deploy files (rollout.request step resolved)
      (rollout.announceStart step chain) = .ok address later)
    (unsaved : rollout.store.write (record.put step.recordField address) record.network files =
      .error fault after) :
    ((∃ cause, rollout.deployStep step ⟨record, files, chain⟩ =
        .error (.persistence
            ⟨.unrecorded step.name address cause, record.network, step.recordField, address⟩)
          ⟨record.put step.recordField address, after, later⟩) ↔
      (rollout.store.made files).Clearable (rollout.store.temporaryPath record.network)) ∧
    (¬ (rollout.store.made files).Clearable (rollout.store.temporaryPath record.network) →
      ∃ error, rollout.deployStep step ⟨record, files, chain⟩ =
        .error (.file error) ⟨record.put step.recordField address, after, later⟩) := by
  have ends := deployStep_of_unsaved vacant complete resolves deploys unsaved
  rcases ArtifactStore.write_error_cases unsaved with
    ⟨clearable, cause, rfl⟩ | ⟨stuck, error, rfl⟩
  · refine ⟨⟨fun _ => clearable, fun _ => ?_⟩, fun lost => absurd clearable lost⟩
    exact ⟨cause, ends⟩
  · refine ⟨⟨?_, fun clearable => absurd clearable stuck⟩, fun _ => ?_⟩
    · rintro ⟨cause, reports⟩
      have faults := (EStateM.Result.error.inj (ends.symm.trans reports)).1
      simp [unrecorded] at faults
    · exact ⟨error, ends⟩

/-- A tree with nothing in the artifacts directory but another directory. -/
def treeWithDirectory (name : String) : FileTree :=
  (FileTree.empty.put (Place.working.child "artifacts") .directory).put
    ((Place.working.child "artifacts").child name) .directory

/-- The rollout of the first contract with a deployer that always works. -/
def workingRollout : Rollout Unit :=
  (Launch.constant "pisco-1" "terra1contract" [.cw20Ics20]).rollout (.ofText "artifacts")

/-- With a directory in the place of the record the temporary file cannot be renamed, and the
step tells what is on chain. -/
theorem address_reported_of_directory_at_record :
    ∃ cause later, workingRollout.deployStep .cw20Ics20
        ⟨.empty (.string "pisco-1"), treeWithDirectory "pisco-1.json", ()⟩ =
      .error (.persistence ⟨.unrecorded "CW20-ICS20" (.string "terra1contract") cause,
        .string "pisco-1", "cw20Ics20Address", .string "terra1contract"⟩) later := by
  have reported := @address_reported_iff_clearable Unit .cw20Ics20 (.empty (.string "pisco-1"))
    _ _ _ (treeWithDirectory "pisco-1.json") _ () _ workingRollout rfl rfl rfl rfl rfl
  obtain ⟨cause, ends⟩ := reported.1.mpr ⟨none, rfl, by simp⟩
  exact ⟨cause, _, ends⟩

/-- With a directory in the place of the temporary file the record is not saved either, and
the step that has deployed the contract does not tell its address. -/
theorem address_lost_of_directory_at_temporary :
    workingRollout.deployStep .cw20Ics20
        ⟨.empty (.string "pisco-1"), treeWithDirectory "pisco-1.json.tmp", ()⟩ =
      .error (.file (.refused .isDirectory
          ⟨.relative, ["pisco-1.json.tmp", "artifacts"]⟩ none))
        ⟨(NetworkRecord.empty (.string "pisco-1")).put "cw20Ics20Address"
          (.string "terra1contract"), treeWithDirectory "pisco-1.json.tmp", ()⟩ := by
  rfl

end Rollout

end ContractRollout
