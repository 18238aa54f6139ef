import ContractRollout.Proofs.Entry.Preparation

/-!
# One network for a run

The chain id is asked for at most once in a run of the deployment entry point. The id in the
reply is the one that every transaction names, and the record of its network is the only one
that the run reads or writes. Without an id nothing is sent and nothing is written.
-/

namespace ContractRollout

variable {environment : Environment} {surroundings : Surroundings} {files : FileTree}
  {event : Event} {events : List Event} {network other : Json}

theorem Event.Preliminary.isRequestFor (preliminary : event.Preliminary) (url : String) :
    event.isRequestFor url = false := by
  cases event with
  | request => exact preliminary.elim
  | command | pause | line => rfl

theorem countP_of_preliminary (preliminary : ∀ event ∈ events, event.Preliminary) (url : String) :
    events.countP (·.isRequestFor url) = 0 := by
  rw [List.countP_eq_zero]
  intro event member
  simp [(preliminary event member).isRequestFor url]

namespace ChainDeployer

variable {deployer : ChainDeployer}

theorem OnNetwork.isRequestFor (on : deployer.OnNetwork network event) :
    event.isRequestFor deployer.connection.nodeInfoUrl = false := by
  cases event with
  | request url reply => exact decide_eq_false on
  | command | pause | line => rfl

/-- A transaction names the chain that it is for. -/
theorem chainId_infix (deployer : ChainDeployer) (verb : String) (arguments : List Json)
    (network : Json) : [.string "--chain-id", network] <:+: deployer.command verb arguments network := by
  have named : [.string "--chain-id", network] <:+: deployer.flags network :=
    ⟨["--from", deployer.wallet.keyName, "--keyring-backend",
      deployer.connection.settings.keyringBackend].map Json.string, _, rfl⟩
  exact named.trans (List.suffix_append _ _).isInfix

end ChainDeployer

namespace DeployEntry

variable {deployer : ChainDeployer}

/-- A reply among some events tells the id of the chain. -/
def Learned (environment : Environment) (network : Json) (events : List Event) : Prop :=
  ∃ reply, .request (nodeInfoUrl environment) reply ∈ events ∧ reply.chainId? = some network

/-! ### Without an id -/

theorem Unidentified.goesOn {before after : Session}
    (unidentified : Unidentified environment before.events)
    (goes : before.GoesOn Event.Preliminary after) : Unidentified environment after.events := by
  obtain ⟨early, asked, late, split, quietEarly, quietLate, silent⟩ := unidentified
  obtain ⟨-, happened, adds, fits⟩ := goes
  refine ⟨early, asked, late ++ happened, by rw [adds, split, List.append_assoc], quietEarly, ?_,
    silent⟩
  intro event member
  rcases List.mem_append.mp member with first | second
  · exact quietLate event first
  · exact fits event second

theorem Unidentified.countP (unidentified : Unidentified environment events) (url : String) :
    events.countP (·.isRequestFor url) ≤ 1 := by
  obtain ⟨early, asked, late, rfl, quietEarly, quietLate, silent⟩ := unidentified
  rw [List.countP_append, List.countP_append, countP_of_preliminary quietEarly,
    countP_of_preliminary quietLate]
  have short : asked.countP (·.isRequestFor url) ≤ asked.length := List.countP_le_length
  rcases silent with rfl | ⟨reply, rfl, -⟩
  · simp
  · simpa using short

theorem Unidentified.cases (unidentified : Unidentified environment events)
    (member : event ∈ events) :
    event.Preliminary ∨ ∃ url reply, event = .request url reply ∧ reply.chainId? = none := by
  obtain ⟨early, asked, late, rfl, quietEarly, quietLate, silent⟩ := unidentified
  simp only [List.append_assoc, List.mem_append] at member
  rcases member with first | middle | last
  · exact .inl (quietEarly event first)
  · rcases silent with rfl | ⟨reply, rfl, silent⟩
    · simp at middle
    · exact .inr ⟨_, reply, List.mem_singleton.mp middle, silent⟩
  · exact .inl (quietLate event last)

theorem Unidentified.not_learned (unidentified : Unidentified environment events) :
    ¬ Learned environment network events := by
  rintro ⟨reply, member, told⟩
  rcases unidentified.cases member with preliminary | ⟨url, other, same, silent⟩
  · exact preliminary.elim
  · obtain ⟨-, rfl⟩ := Event.request.inj same
    simp [silent] at told

theorem Unidentified.sends_nothing (unidentified : Unidentified environment events) :
    ∀ command ∈ commands events, sendsTransaction command = false := by
  intro command member
  obtain ⟨outcome, happened⟩ := mem_commands_iff.mp member
  rcases unidentified.cases happened with preliminary | ⟨url, reply, same, -⟩
  · exact preliminary
  · simp at same

/-! ### With an id -/

theorem Identified.goesOn {before after : Session}
    (identified : Identified deployer network before.events)
    (goes : before.GoesOn (deployer.OnNetwork network) after) :
    Identified deployer network after.events := by
  obtain ⟨early, reply, late, split, told, quiet, on⟩ := identified
  obtain ⟨-, happened, adds, fits⟩ := goes
  refine ⟨early, reply, late ++ happened, by rw [adds, split, List.append_assoc]; rfl, told, quiet,
    ?_⟩
  intro event member
  rcases List.mem_append.mp member with first | second
  · exact on event first
  · exact fits event second

theorem Identified.countP (identified : Identified deployer network events) :
    events.countP (·.isRequestFor deployer.connection.nodeInfoUrl) = 1 := by
  obtain ⟨early, reply, late, rfl, -, quiet, on⟩ := identified
  have silent : late.countP (·.isRequestFor deployer.connection.nodeInfoUrl) = 0 := by
    rw [List.countP_eq_zero]
    intro event member
    simp [(on event member).isRequestFor]
  have asks : Event.isRequestFor deployer.connection.nodeInfoUrl
      (.request deployer.connection.nodeInfoUrl reply) = true := by
    simp [Event.isRequestFor]
  rw [List.countP_append, countP_of_preliminary quiet, List.countP_cons_of_pos asks, silent]

/-- The id that was told is the only one. -/
theorem Identified.learned_iff (identified : Identified deployer network events)
    (same : deployer.connection.nodeInfoUrl = nodeInfoUrl environment) :
    Learned environment other events ↔ other = network := by
  obtain ⟨early, reply, late, rfl, told, quiet, on⟩ := identified
  constructor
  · rintro ⟨otherReply, member, otherTold⟩
    rw [← same] at member
    rcases List.mem_append.mp member with first | later
    · exact (quiet _ first).elim
    · rcases List.mem_cons.mp later with here | last
      · obtain ⟨-, rfl⟩ := Event.request.inj here
        exact Option.some.inj (otherTold.symm.trans told)
      · exact absurd rfl (on _ last)
  · rintro rfl
    exact ⟨reply, by simp [same], told⟩

theorem Identified.transaction (identified : Identified deployer network events)
    {command : List Json} (member : command ∈ commands events)
    (sends : sendsTransaction command = true) :
    ∃ verb arguments, command = deployer.command verb arguments network := by
  obtain ⟨early, reply, late, rfl, -, quiet, on⟩ := identified
  obtain ⟨outcome, happened⟩ := mem_commands_iff.mp member
  rcases List.mem_append.mp happened with first | later
  · have preliminary : sendsTransaction command = false := quiet _ first
    simp [preliminary] at sends
  · rcases List.mem_cons.mp later with here | last
    · simp at here
    · exact on _ last

/-! ### The rollout after a preparation -/

variable {preparation : Preparation} {ready : RunState Session}

/-- From a session that knows the chain id the rollout stays on its network. -/
theorem stays_run (preparation : Preparation) (steps : List DeploymentStep)
    (state : RunState Session) :
    preparation.deployer.Stays preparation.network state.chain
      (finalState (preparation.rollout.run preparation.network steps state)).chain := by
  apply Rollout.run_relates fun before after =>
    preparation.deployer.Stays preparation.network before.chain after.chain
  · exact fun state => ChainDeployer.stays_refl _ _ _
  · exact fun first second third => ChainDeployer.stays_trans _ _ _
  · apply Rollout.takeStep_chain (preparation.deployer.Stays preparation.network)
    · exact fun session => ChainDeployer.stays_refl _ _ _
    · exact fun first second third => ChainDeployer.stays_trans _ _ _
    · exact fun line session => ChainDeployer.stays_add (.line line) trivial session
    · exact fun files request session =>
        preparation.deployer.keepsTo_deploy preparation.network files request session

/-! ### The whole run -/

theorem Prepared.nodeInfoUrl_eq
    (prepared : Prepared environment surroundings files preparation ready) :
    preparation.deployer.connection.nodeInfoUrl = nodeInfoUrl environment :=
  DeployEntry.nodeInfoUrl_eq prepared.reads _

theorem Prepared.store_eq (prepared : Prepared environment surroundings files preparation ready) :
    preparation.rollout.store = store environment :=
  DeployEntry.store_eq prepared.reads

theorem Prepared.wasmPath_eq (prepared : Prepared environment surroundings files preparation ready) :
    preparation.rollout.wasmPath = codePath environment :=
  (Settings.ofEnvironment_ok prepared.reads).2.2.2.2

/-- A run that is not prepared does not return, changes no file, and learns no chain id. -/
theorem run_unprepared {fault : Fault} {later : RunState Session}
    (fails : prepare environment surroundings (opening files) = .error fault later) :
    (run environment surroundings files).2.files = files ∧
      (∀ addresses, (run environment surroundings files).1 ≠ .returned addresses) ∧
      Unidentified environment (run environment surroundings files).2.chain.events := by
  have outcome := prepare_outcome environment surroundings files
  rw [fails] at outcome
  rw [run_of_unprepared fails]
  have prints (text : String) : Event.Preliminary (.line text) := trivial
  have lines := goesOn_conclude prints (.error fault later)
  refine ⟨?_, ?_, ?_⟩
  · rw [files_conclude]
    cases outcome <;> rfl
  · intro addresses
    rcases conclude_error fault later with exits | crashes
    · simp [exits]
    · simp [crashes]
  · refine Unidentified.goesOn ?_ lines
    cases outcome with
    | unconfigured lacks =>
        exact ⟨_, [], [], by simp, (preliminary_opening files).2, by simp, .inl rfl⟩
    | unidentified configured unidentified => exact unidentified

/-- A run that is prepared is a rollout and some last lines. -/
theorem run_prepared (prepares : prepare environment surroundings (opening files) =
      .ok preparation ready) :
    Prepared environment surroundings files preparation ready ∧
      Identified preparation.deployer preparation.network
        (run environment surroundings files).2.chain.events := by
  have outcome := prepare_outcome environment surroundings files
  rw [prepares] at outcome
  cases outcome with
  | prepared prepared =>
      refine ⟨prepared, ?_⟩
      have goes := stays_run preparation DeploymentStep.all ready prepared.known
      have prints (text : String) :
          preparation.deployer.OnNetwork preparation.network (.line text) := trivial
      rw [run_of_prepared prepares]
      exact (prepared.identified.goesOn goes).goesOn (goesOn_conclude prints _)

/-! ### What is read and written -/

theorem checksCode (deployer : ChainDeployer) : deployer.toDeployer.ChecksCode := by
  intro first second request same
  simp only [ChainDeployer.toDeployer, ChainDeployer.deploy, ChainDeployer.storeCode, same]

/-- The paths that a run looks at on a network. -/
def pathsRead (environment : Environment) (network : Json) : List Path :=
  ChainConfigs.path environment none :: (store environment).path ::
    (store environment).recordPath network :: (store environment).temporaryPath network ::
      DeploymentStep.all.map fun step => (codePath environment).join (.ofString step.wasmFile)

theorem parallel_ofChain {places : Set Place} {α : Type} (action : ChainAction α) :
    Parallel (RunState.AgreeOn places) (RunAction.ofChain fun _ => action) := by
  rintro ⟨record, left, chain⟩ ⟨_, right, _⟩ ⟨rfl, agree, rfl⟩
  cases result : action chain with
  | ok value later =>
      rw [RunAction.ofChain_of_ok result, RunAction.ofChain_of_ok result]
      exact .ok ⟨rfl, agree, rfl⟩
  | error fault later =>
      rw [RunAction.ofChain_of_error result, RunAction.ofChain_of_error result]
      exact .error ⟨rfl, agree, rfl⟩

theorem parallel_prepareWith (environment : Environment) (surroundings : Surroundings)
    (loaded : Except Fault ChainConfigs) (places : Set Place) :
    Parallel (RunState.AgreeOn places) (prepareWith environment surroundings loaded) := by
  unfold prepareWith
  apply (parallel_orFault _).bind
  intro configs
  apply (parallel_orFault _).bind
  intro multisig
  apply (parallel_orFault _).bind
  intro settings
  apply (parallel_ofChain _).bind
  intro wallet
  apply (parallel_ofChain _).bind
  intro network
  apply (parallel_ofChain _).bind
  intro _
  exact parallel_pure _

/-- A preparation looks at the chain configs only. -/
theorem parallel_prepare {places : Set Place}
    (within : (ChainConfigs.path environment none).Within places) (surroundings : Surroundings) :
    Parallel (RunState.AgreeOn places) (prepare environment surroundings) := by
  intro left right agree
  have same : ChainConfigs.load left.files environment none =
      ChainConfigs.load right.files environment none := by
    simp only [ChainConfigs.load, FileTree.holds_of_agree within agree.files,
      FileTree.document_of_agree within agree.files]
  rw [prepare_eq, prepare_eq, same]
  exact parallel_prepareWith environment surroundings _ places left right agree

theorem confined_of_prepared (prepares : prepare environment surroundings (opening files) =
      .ok preparation ready) :
    (store environment).Confined preparation.network files
      (run environment surroundings files).2.files := by
  obtain ⟨prepared, -⟩ := run_prepared prepares
  have confined := preparation.rollout.confined_run preparation.network DeploymentStep.all ready
  rw [prepared.files, prepared.store_eq] at confined
  rwa [run_of_prepared prepares, files_conclude]

/-- On files that agree where a run looks, it ends alike and leaves the same where they agree. -/
theorem run_agrees (prepares : prepare environment surroundings (opening files) =
      .ok preparation ready) {places : Set Place}
    (within : ∀ path ∈ pathsRead environment preparation.network, path.Within places)
    {others : FileTree} (agree : FileTree.AgreeOn places files others) :
    (run environment surroundings others).1 = (run environment surroundings files).1 ∧
      RunState.AgreeOn places (run environment surroundings files).2
        (run environment surroundings others).2 := by
  obtain ⟨prepared, -⟩ := run_prepared prepares
  simp only [pathsRead, List.forall_mem_cons] at within
  obtain ⟨config, directory, record, temporary, code⟩ := within
  have alike := parallel_prepare config surroundings (opening files) (opening others)
    ⟨rfl, agree, rfl⟩
  rw [prepares] at alike
  generalize preparesOther : prepare environment surroundings (opening others) = result at alike
  cases alike with
  | ok agreeReady =>
      have covered : preparation.rollout.store.Covered preparation.network places := by
        rw [prepared.store_eq]
        exact ⟨directory, record, temporary⟩
      have codeWithin : ∀ step ∈ DeploymentStep.all,
          (preparation.rollout.wasmPath.join (.ofString step.wasmFile)).Within places := by
        rw [prepared.wasmPath_eq]
        exact fun step member => code _ (List.mem_map_of_mem member)
      have goes := Rollout.parallel_run (checksCode preparation.deployer) covered codeWithin
      rw [run_of_prepared prepares, run_of_prepared preparesOther]
      obtain ⟨ends, agreeFinal⟩ := conclude_of_alike (goes _ _ agreeReady)
      exact ⟨ends.symm, agreeFinal⟩

/-- A run asks for the chain id at most once. If a reply tells one, every transaction names it,
and the record of its network is all that the run writes, with its temporary file and new
directories on the way; what stands anywhere else than where it looks for the configuration,
the code and this record makes no difference. Without an id no transaction is sent and no file
is changed. -/
theorem one_network_for_run (environment : Environment) (surroundings : Surroundings)
    (files : FileTree) :
    let (ending, final) := run environment surroundings files
    final.chain.events.countP (·.isRequestFor (nodeInfoUrl environment)) ≤ 1 ∧
    (∀ network, Learned environment network final.chain.events →
      (∀ command ∈ commands final.chain.events, sendsTransaction command = true →
        [.string "--chain-id", network] <:+: command) ∧
      (store environment).Confined network files final.files ∧
      ∀ (places : Set Place) (others : FileTree),
        (∀ path ∈ pathsRead environment network, path.Within places) →
        FileTree.AgreeOn places files others →
        (run environment surroundings others).1 = ending ∧
        (run environment surroundings others).2.chain = final.chain ∧
        FileTree.AgreeOn places final.files (run environment surroundings others).2.files) ∧
    ((∀ network, ¬ Learned environment network final.chain.events) →
      (∀ command ∈ commands final.chain.events, sendsTransaction command = false) ∧
      final.files = files) := by
  dsimp only
  cases prepares : prepare environment surroundings (opening files) with
  | error fault later =>
      obtain ⟨same, -, unidentified⟩ := run_unprepared prepares
      refine ⟨unidentified.countP _, ?_, fun _ => ⟨unidentified.sends_nothing, same⟩⟩
      exact fun network learned => absurd learned unidentified.not_learned
  | ok preparation ready =>
      obtain ⟨prepared, identified⟩ := run_prepared prepares
      have once := identified.countP
      have learns : Learned environment preparation.network _ :=
        (identified.learned_iff prepared.nodeInfoUrl_eq).mpr rfl
      rw [prepared.nodeInfoUrl_eq] at once
      refine ⟨once.le, ?_, fun never => absurd learns (never preparation.network)⟩
      intro network learned
      obtain rfl := (identified.learned_iff prepared.nodeInfoUrl_eq).mp learned
      refine ⟨?_, ?_, ?_⟩
      · intro command member sends
        obtain ⟨verb, arguments, rfl⟩ := identified.transaction member sends
        exact preparation.deployer.chainId_infix verb arguments preparation.network
      · exact confined_of_prepared prepares
      · intro places others within agree
        obtain ⟨ends, agreeFinal⟩ := run_agrees prepares within agree
        exact ⟨ends, agreeFinal.chain.symm, agreeFinal.files⟩

end DeployEntry

end ContractRollout
