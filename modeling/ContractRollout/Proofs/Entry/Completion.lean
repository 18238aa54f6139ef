import ContractRollout.Proofs.Entry.Footprint
import ContractRollout.Proofs.Rollout.Transactions

/-!
# Runs that return

A run of the deployment entry point that returns has all three addresses in the record of its
network. It has sent the two transactions of a deployment for each contract that the record did
not have when the run began, in the order of the steps, and no other transactions.
-/

namespace ContractRollout

namespace ChainDeployer

variable {deployer : ChainDeployer} {configs : ChainConfigs} {code : Path} {network : Json}

/-- The commands of deployments all send transactions. -/
theorem sendsTransaction_of_deploys {steps : List DeploymentStep} {parts : List (List (List Json))}
    (deploys : List.Forall₂ (deployer.DeploysBy configs code network) steps parts) :
    ∀ command ∈ parts.flatten, sendsTransaction command = true := by
  induction deploys with
  | nil => simp
  | @cons step part steps parts first rest ih =>
      obtain ⟨contract, codeId, message, -, rfl⟩ := first
      intro command member
      rcases List.mem_append.mp member with here | later
      · rcases (by simpa using here : command = _ ∨ command = _) with rfl | rfl <;> rfl
      · exact ih command later

end ChainDeployer

namespace DeployEntry

variable {environment : Environment} {surroundings : Surroundings} {files : FileTree}
  {preparation : Preparation} {ready final : RunState Session} {addresses : Members}

/-- A run that returns is a prepared rollout of the steps that has answered, and some lines. -/
theorem runSteps_of_returned
    (returns : run environment surroundings files = (.returned addresses, final)) :
    ∃ preparation ready last, Prepared environment surroundings files preparation ready ∧
      Identified preparation.deployer preparation.network final.chain.events ∧
      preparation.rollout.runSteps preparation.network DeploymentStep.all ready =
        .ok addresses last ∧
      final.files = last.files ∧ commands final.chain.events = commands last.chain.events := by
  cases prepares : prepare environment surroundings (opening files) with
  | error fault later =>
      obtain ⟨-, unreturned, -⟩ := run_unprepared prepares
      exact absurd (congrArg Prod.fst returns) (unreturned addresses)
  | ok preparation ready =>
      obtain ⟨prepared, identified⟩ := run_prepared prepares
      rw [returns] at identified
      have concludes := (run_of_prepared prepares).symm.trans returns
      obtain ⟨last, runs, rfl⟩ := conclude_of_returned concludes
      obtain ⟨-, answers, runsSteps, rfl⟩ := Rollout.run_ok.mp runs
      have prints (text : String) : Event.IsLine (.line text) := trivial
      obtain ⟨-, happened, adds, lines⟩ :=
        Session.goesOn_lines prints (summary answers.collect) last.chain
      refine ⟨preparation, ready, last, prepared, identified, ?_, rfl, ?_⟩
      · rw [runsSteps, Members.collect_of_nodup]
        rw [Rollout.names_of_runSteps runsSteps]
        decide
      · change commands (List.foldl _ _ _ : Session).events = _
        rw [adds, commands_append, commands_of_lines lines, List.append_nil]

/-- If a run returns, it has learned exactly one chain id. It answers with a truthy address for
each of the three contracts, and these are the addresses in the record of that network. Its
transactions are those of the steps whose contracts were not in the record at first, in order. -/
theorem completed_of_returned
    (returns : run environment surroundings files = (.returned addresses, final)) :
    ∃ configs network start recorded first second third parts, ∃ deployer : ChainDeployer,
      ChainConfigs.load files environment none = .ok configs ∧
      Settings.ofEnvironment environment = .ok deployer.connection.settings ∧
      (∀ other, Learned environment other final.chain.events ↔ other = network) ∧
      addresses = [("CW20-ICS20", first), ("IBC Controller", second), ("Satellite", third)] ∧
      first.isTruthy = true ∧ second.isTruthy = true ∧ third.isTruthy = true ∧
      (store environment).read final.files network = .ok recorded ∧
      recorded.fields.value "cw20Ics20Address" = first ∧
      recorded.fields.value "ibcControllerAddress" = second ∧
      recorded.fields.value "satelliteAddress" = third ∧
      (store environment).read files network = .ok start ∧
      (commands final.chain.events).filter sendsTransaction = parts.flatten ∧
      List.Forall₂ (deployer.DeploysBy configs (codePath environment) network)
        (DeploymentStep.all.filter fun step => !start.has step.recordField) parts := by
  obtain ⟨preparation, ready, last, prepared, identified, runs, sameFiles, sameCommands⟩ :=
    runSteps_of_returned returns
  have real : preparation.rollout.deployer = preparation.deployer.toDeployer := rfl
  have store := prepared.store_eq
  have recorded := (Rollout.runSteps_populated preparation.deployer.answersFaithfully runs).1
  obtain ⟨first, afterFirst, _, takesFirst, runsSecond, rfl⟩ := Rollout.runSteps_ok.mp runs
  obtain ⟨second, afterSecond, _, -, runsThird, rfl⟩ := Rollout.runSteps_ok.mp runsSecond
  obtain ⟨third, afterThird, _, -, runsNone, rfl⟩ := Rollout.runSteps_ok.mp runsThird
  obtain ⟨rfl, rfl⟩ := EStateM.Result.ok.inj runsNone
  obtain ⟨-, _, -, issue⟩ := Rollout.takeStep_issue real prepared.known takesFirst
  obtain ⟨start, reads⟩ := issue.reads
  obtain ⟨happened, parts, adds, issued, deploys⟩ :=
    Rollout.runSteps_issue real prepared.known (by decide) runs reads
  simp only [DeploymentStep.all, List.zip_cons_cons, List.zip_nil_right, List.forall_mem_cons,
    store] at recorded
  obtain ⟨firstThere, secondThere, thirdThere, -⟩ := recorded
  have ⟨record, readsRecord, _⟩ := firstThere
  obtain ⟨firstHeld, firstTruthy⟩ := firstThere.held readsRecord
  obtain ⟨secondHeld, secondTruthy⟩ := secondThere.held readsRecord
  obtain ⟨thirdHeld, thirdTruthy⟩ := thirdThere.held readsRecord
  rw [prepared.wasmPath_eq] at deploys
  rw [store, prepared.files] at reads
  refine ⟨preparation.configs, preparation.network, start, record, first, second, third, parts,
    preparation.deployer, prepared.loads, prepared.reads, ?_, rfl, firstTruthy, secondTruthy,
    thirdTruthy, ?_, firstHeld, secondHeld, thirdHeld, reads, ?_, deploys⟩
  · exact fun other => identified.learned_iff prepared.nodeInfoUrl_eq
  · rw [sameFiles]
    exact readsRecord
  · have unsent := List.filter_eq_nil_iff.mpr fun command member =>
      Bool.eq_false_iff.mp (prepared.unsent command member)
    have sent := List.filter_eq_self.mpr (ChainDeployer.sendsTransaction_of_deploys deploys)
    rw [sameCommands, adds, commands_append, List.filter_append, unsent, issued, sent,
      List.nil_append]

/-! ### A run that lacks one contract -/

/-- All files are in the working directory. -/
def flatEnvironment : Environment :=
  [("LCD_URL", "lcd"), ("WALLET_KEY", "deployer"), ("WALLET_ADDRESS", "terra1deployer"),
    ("CHAIN_CONFIGS_PATH", "configs.json"), ("ARTIFACTS_PATH", "."), ("WASM_PATH", ".")]

def flatFiles (files : List (String × ByteArray)) : FileTree :=
  files.foldl (fun tree (name, bytes) => tree.put (Place.working.child name) (.file bytes)) .empty

/-- The record has all but the first contract, whose configuration and code are there. -/
def lackingFirst : FileTree := flatFiles [
  ("configs.json", String.toUTF8
    "\x7b\"generalInfo\":\x7b\"multisig\":\"owner\"\x7d,\"cw20_ics20\":\x7b\"label\":\"bridge\"\x7d\x7d"),
  ("pisco-1.json", String.toUTF8
    "\x7b\"ibcControllerAddress\":\"terra2\",\"satelliteAddress\":\"terra3\"\x7d"),
  ("astroport_cw20_ics20.wasm", .empty)]

/-- With all but the first contract in the record the run returns, and the record has its
addresses. -/
theorem completed_of_two_recorded :
    ∃ addresses final,
      run flatEnvironment (Rollout.confirmingChain "A" "B") lackingFirst = (.returned addresses, final) ∧
      ∃ network recorded first second third,
        addresses = [("CW20-ICS20", first), ("IBC Controller", second), ("Satellite", third)] ∧
        (store flatEnvironment).read final.files network = .ok recorded ∧
        recorded.fields.value "cw20Ics20Address" = first ∧ first.isTruthy = true := by
  have returns : (match (run flatEnvironment (Rollout.confirmingChain "A" "B") lackingFirst).1 with
      | .returned _ => true
      | _ => false) = true := by
    decide +kernel
  cases result : run flatEnvironment (Rollout.confirmingChain "A" "B") lackingFirst with
  | mk ending final =>
      rw [result] at returns
      cases ending with
      | returned addresses =>
          obtain ⟨_, network, _, recorded, first, second, third, _, _, -, -, -, same, truthy, -, -,
            reads, held, -⟩ := completed_of_returned result
          exact ⟨addresses, final, rfl, network, recorded, first, second, third, same, reads, held,
            truthy⟩
      | exited | crashed => simp at returns

end DeployEntry

end ContractRollout
