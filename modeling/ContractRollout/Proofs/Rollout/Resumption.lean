import ContractRollout.Proofs.Rollout.Effects

/-!
# Resumed runs

A run that was stopped by its deployer and is made again ends like a run that was never
stopped. Before the deployer stopped it, it did what the whole run does; after that it
did nothing. So the steps that it took are found in the record by the next run, which
goes on from there.

What a whole run does is laid down in `Completes`, which does not mention the deployer
but only its answers. Every interrupted run leaves files from which the whole run
completes with the same addresses and the same files.
-/

namespace ContractRollout

structure Driver where
  Chain : Type
  deployer : Deployer Chain
  chain : Chain

/-- The same launch with another deployer. -/
def Launch.drivenBy (launch : Launch) (driver : Driver) : Launch :=
  { launch with Chain := driver.Chain, deployer := driver.deployer, chain := driver.chain }

/-- The deployer answers every request with a text that depends on the request only. -/
def Deployer.Always {σ : Type} (deployer : Deployer σ) (answers : DeployRequest → String) : Prop :=
  ∀ files request chain, ∃ later,
    deployer.deploy files request chain = .ok (.string (answers request)) later

/-- The deployer gives these answers, but any of its calls may fail to deploy. -/
def Deployer.Sometimes {σ : Type} (deployer : Deployer σ) (answers : DeployRequest → String) :
    Prop :=
  ∀ files request chain,
    (∃ later, deployer.deploy files request chain = .ok (.string (answers request)) later) ∨
    ∃ cause later, deployer.deploy files request chain = .error (.deployment cause) later

namespace Deployer

variable {σ : Type} {deployer : Deployer σ} {answers : DeployRequest → String}

theorem Always.sometimes (always : deployer.Always answers) : deployer.Sometimes answers :=
  fun files request chain => .inl (always files request chain)

theorem Sometimes.gives (sometimes : deployer.Sometimes answers)
    (nonempty : ∀ request, answers request ≠ "") : deployer.Gives (· ≠ "") := by
  intro files request chain
  rcases sometimes files request chain with ⟨later, deploys⟩ | failed
  · exact .inl ⟨answers request, later, deploys, nonempty request⟩
  · exact .inr failed

theorem Sometimes.of_ok (sometimes : deployer.Sometimes answers) {files : FileTree}
    {request : DeployRequest} {chain later : σ} {address : Json}
    (deploys : deployer.deploy files request chain = .ok address later) :
    address = .string (answers request) := by
  rcases sometimes files request chain with ⟨other, same⟩ | ⟨cause, other, same⟩
  · exact (EStateM.Result.ok.inj (deploys.symm.trans same)).1
  · exact absurd (deploys.symm.trans same) (by simp)

end Deployer

/-- A step works on some files when its deployer answers. -/
inductive Proceeds (store : ArtifactStore) (launch : Launch) (answers : DeployRequest → String)
    (step : DeploymentStep) (before : FileTree) : Json → FileTree → Prop
  | found {record : NetworkRecord} {address : Json}
      (reads : store.read before (.string launch.network) = .ok record)
      (populated : record.get? step.recordField = some address) :
      Proceeds store launch answers step before address before
  | deployed {record : NetworkRecord} {resolved : ResolvedContract} {text : String}
      {after : FileTree}
      (reads : store.read before (.string launch.network) = .ok record)
      (vacant : record.get? step.recordField = none)
      (complete : step.missingDependencies record = [])
      (resolves : step.resolve launch.configs record = .ok resolved)
      (answered : text = answers ((launch.rollout store).request step resolved))
      (writes : store.write (record.put step.recordField (.string text))
        (.string launch.network) before = .ok () after) :
      Proceeds store launch answers step before (.string text) after

/-- Steps all work one after the other when their deployer answers. -/
inductive Completes (store : ArtifactStore) (launch : Launch) (answers : DeployRequest → String) :
    FileTree → List DeploymentStep → Members → FileTree → Prop
  | nil (files : FileTree) : Completes store launch answers files [] [] files
  | cons {step : DeploymentStep} {rest : List DeploymentStep} {before middle after : FileTree}
      {address : Json} {addresses : Members}
      (first : Proceeds store launch answers step before address middle)
      (others : Completes store launch answers middle rest addresses after) :
      Completes store launch answers before (step :: rest) ((step.name, address) :: addresses)
        after

variable {store : ArtifactStore} {launch : Launch} {answers : DeployRequest → String}
  {step : DeploymentStep} {steps : List DeploymentStep} {address : Json} {addresses : Members}
  {before after files : FileTree} {driver : Driver}

/-! ### Steps -/

theorem proceeds_of_takeStep (sometimes : driver.deployer.Sometimes answers)
    {state later : RunState driver.Chain}
    (takes : ((launch.drivenBy driver).rollout store).takeStep (.string launch.network) step state =
      .ok address later) :
    Proceeds store launch answers step state.files address later.files := by
  have outcome := ((launch.drivenBy driver).rollout store).takeStep_outcome
    (.string launch.network) step state
  rw [takes] at outcome
  cases outcome with
  | found reads populated => exact .found reads populated
  | deployed reads vacant complete resolves deploys writes =>
      obtain rfl := sometimes.of_ok deploys
      rw [(ArtifactStore.read_legible reads).1] at writes
      exact .deployed reads vacant complete resolves rfl writes

theorem takeStep_of_proceeds (always : driver.deployer.Always answers)
    {state : RunState driver.Chain}
    (proceeds : Proceeds store launch answers step state.files address after) :
    ∃ later, ((launch.drivenBy driver).rollout store).takeStep (.string launch.network) step state =
      .ok address later ∧ later.files = after := by
  cases proceeds with
  | found reads populated =>
      exact ⟨_, Rollout.StepOutcome.eq (.found reads populated), rfl⟩
  | @deployed record resolved _ _ reads vacant complete resolves answered writes =>
      obtain ⟨later, deploys⟩ := always state.files ((launch.rollout store).request step resolved)
        (((launch.drivenBy driver).rollout store).announceStart step state.chain)
      rw [← (ArtifactStore.read_legible reads).1] at writes
      rw [← answered] at deploys
      exact ⟨_, Rollout.StepOutcome.eq
        (.deployed reads vacant complete resolves deploys writes), rfl⟩

/-- Where a step would work it only stops because its deployer does, and then it has
changed nothing. -/
theorem files_of_takeStep_error (sometimes : driver.deployer.Sometimes answers)
    {state later : RunState driver.Chain} {fault : Fault}
    (proceeds : Proceeds store launch answers step state.files address after)
    (stops : ((launch.drivenBy driver).rollout store).takeStep (.string launch.network) step state =
      .error fault later) :
    later.files = state.files := by
  have outcome := ((launch.drivenBy driver).rollout store).takeStep_outcome
    (.string launch.network) step state
  rw [stops] at outcome
  cases outcome with
  | unreadable reads => rfl
  | blocked reads vacant missing => rfl
  | unresolved reads vacant complete resolves => rfl
  | refused reads vacant complete resolves deploys => rfl
  | unsaved reads vacant complete resolves deploys writes =>
      obtain rfl := sometimes.of_ok deploys
      rw [(ArtifactStore.read_legible reads).1] at writes
      -- The write of a step that works does not fail.
      cases proceeds with
      | found reads' populated =>
          obtain rfl := ArtifactStore.read_unique reads reads'
          simp [vacant] at populated
      | deployed reads' _ _ resolves' answered writes' =>
          obtain rfl := ArtifactStore.read_unique reads reads'
          obtain rfl := Except.ok.inj (resolves.symm.trans resolves')
          rw [answered] at writes'
          exact absurd (writes.symm.trans writes') (by simp)

theorem Proceeds.unique {other : Json} {later : FileTree}
    (first : Proceeds store launch answers step before address after)
    (second : Proceeds store launch answers step before other later) :
    address = other ∧ after = later := by
  cases first with
  | found reads populated =>
      cases second with
      | found reads' populated' =>
          obtain rfl := ArtifactStore.read_unique reads reads'
          exact ⟨Option.some.inj (populated.symm.trans populated'), rfl⟩
      | deployed reads' vacant _ _ _ _ =>
          obtain rfl := ArtifactStore.read_unique reads reads'
          simp [vacant] at populated
  | deployed reads vacant _ resolves answered writes =>
      cases second with
      | found reads' populated =>
          obtain rfl := ArtifactStore.read_unique reads reads'
          simp [vacant] at populated
      | deployed reads' _ _ resolves' answered' writes' =>
          obtain rfl := ArtifactStore.read_unique reads reads'
          obtain rfl := Except.ok.inj (resolves.symm.trans resolves')
          obtain rfl := answered.trans answered'.symm
          exact ⟨rfl, (EStateM.Result.ok.inj (writes.symm.trans writes')).2⟩

/-- What is read of the network can be stored again. -/
def ReadsStorable (store : ArtifactStore) (launch : Launch) (files : FileTree) : Prop :=
  ∀ record, store.read files (.string launch.network) = .ok record → record.Storable

/-- After a step that works its field is settled. -/
theorem Proceeds.settled (proceeds : Proceeds store launch answers step before address after)
    (nonempty : ∀ request, answers request ≠ "") (storable : ReadsStorable store launch before) :
    store.Settled after (.string launch.network) step.recordField address ∧
      ReadsStorable store launch after := by
  cases proceeds with
  | found reads populated => exact ⟨⟨_, reads, storable _ reads, populated⟩, storable⟩
  | @deployed record resolved text _ reads vacant complete resolves answered writes =>
      have put := (storable record reads).put_string step.recordField text
      have back := (ArtifactStore.written_of_write writes).read put
      have truthy : (Json.string text).isTruthy = true := by
        rw [answered]
        exact NetworkRecord.isTruthy_string (nonempty _)
      refine ⟨⟨_, back, ⟨put.legible, put.floatFree⟩, NetworkRecord.get?_put_self truthy⟩, ?_⟩
      intro other reads'
      obtain rfl := ArtifactStore.read_unique back reads'
      exact ⟨put.legible, put.floatFree⟩

/-! ### Runs -/

theorem completes_of_runSteps (driver : Driver) (sometimes : driver.deployer.Sometimes answers)
    {state later : RunState driver.Chain}
    (runs : ((launch.drivenBy driver).rollout store).runSteps (.string launch.network) steps state =
      .ok addresses later) :
    Completes store launch answers state.files steps addresses later.files := by
  induction steps generalizing state addresses with
  | nil =>
      obtain ⟨rfl, rfl⟩ := EStateM.Result.ok.inj runs
      exact .nil state.files
  | cons step rest ih =>
      obtain ⟨address, middle, others, takes, runsRest, rfl⟩ := Rollout.runSteps_ok.mp runs
      exact .cons (proceeds_of_takeStep sometimes takes) (ih runsRest)

theorem runSteps_of_completes (always : driver.deployer.Always answers)
    (completes : Completes store launch answers before steps addresses after)
    (state : RunState driver.Chain) (start : state.files = before) :
    ∃ later, ((launch.drivenBy driver).rollout store).runSteps (.string launch.network) steps
      state = .ok addresses later ∧ later.files = after := by
  induction completes generalizing state with
  | nil files => exact ⟨state, rfl, start⟩
  | cons first others ih =>
      subst start
      obtain ⟨middle, takes, same⟩ := takeStep_of_proceeds always first
      obtain ⟨later, runs, final⟩ := ih middle same
      exact ⟨later, Rollout.runSteps_ok.mpr ⟨_, middle, _, takes, runs, rfl⟩, final⟩

/-- A run that the deployer may stop leaves files from which the whole run completes as
before. -/
theorem Completes.of_interrupted (sometimes : driver.deployer.Sometimes answers)
    (nonempty : ∀ request, answers request ≠ "")
    (completes : Completes store launch answers before steps addresses after)
    (storable : ReadsStorable store launch before) (state : RunState driver.Chain)
    (start : state.files = before) {left : FileTree}
    (leaves : (finalState (((launch.drivenBy driver).rollout store).runSteps
      (.string launch.network) steps state)).files = left) :
    Completes store launch answers left steps addresses after ∧
      ReadsStorable store launch left := by
  induction completes generalizing state with
  | nil files =>
      obtain rfl : state.files = left := leaves
      subst start
      exact ⟨.nil _, storable⟩
  | @cons step rest before middle after address addresses first others ih =>
      subst start
      cases takes : ((launch.drivenBy driver).rollout store).takeStep (.string launch.network)
          step state with
      | error fault later =>
          have same := files_of_takeStep_error sometimes first takes
          rw [Rollout.runSteps_of_error takes, finalState_error, same] at leaves
          subst leaves
          exact ⟨.cons first others, storable⟩
      | ok other later =>
          obtain ⟨rfl, rfl⟩ := first.unique (proceeds_of_takeStep sometimes takes)
          rw [Rollout.finalState_runSteps_of_ok takes] at leaves
          obtain ⟨settled, storableLater⟩ := first.settled nonempty storable
          obtain ⟨completesRest, storableLeft⟩ := ih storableLater later rfl leaves
          have kept := ((launch.drivenBy driver).rollout store).settled_runSteps
            (sometimes.gives nonempty) rest settled
          rw [leaves] at kept
          obtain ⟨record, reads, -, held⟩ := kept
          exact ⟨.cons (.found reads held) completesRest, storableLeft⟩

def Launch.filesAfterRuns (launch : Launch) (store : ArtifactStore) (files : FileTree)
    (drivers : List Driver) : FileTree :=
  drivers.foldl
    (fun files driver => (finalState ((launch.drivenBy driver).run store files)).files) files

/-- Let a launch with a deployer that always answers, and answers the same request with
the same nonempty text, return from files whose record for the network has no doubles.
Then after any number of runs in which any calls of the deployer may have failed, the
launch returns the same addresses in the same order and leaves the same files. -/
theorem resumed_run_eq (store : ArtifactStore) (files : FileTree) (launch : Launch)
    (earlier : List Driver) (last : Driver) (answers : DeployRequest → String)
    (nonempty : ∀ request, answers request ≠ "") (always : launch.deployer.Always answers)
    (sometimes : ∀ driver ∈ earlier, driver.deployer.Sometimes answers)
    (alwaysLast : last.deployer.Always answers)
    (floatFree : ∀ record, store.read files (.string launch.network) = .ok record →
      Json.FloatFree (.object record.fields))
    {addresses : Members} {final : RunState launch.Chain}
    (returns : launch.run store files = .ok addresses final) :
    ∃ later, (launch.drivenBy last).run store (launch.filesAfterRuns store files earlier) =
      .ok addresses later ∧ later.files = final.files := by
  obtain ⟨multisig, answered, runs, rfl⟩ := Rollout.run_ok.mp returns
  have completes := completes_of_runSteps ⟨launch.Chain, launch.deployer, launch.chain⟩
    always.sometimes runs
  have storable : ReadsStorable store launch files :=
    fun record reads => ⟨(ArtifactStore.read_legible reads).2, floatFree record reads⟩
  clear returns runs always floatFree
  change Completes store launch answers files launch.steps answered final.files at completes
  induction earlier generalizing files with
  | nil =>
      obtain ⟨later, runsLast, same⟩ := runSteps_of_completes alwaysLast completes
        ((launch.drivenBy last).start files) rfl
      exact ⟨later, Rollout.run_ok.mpr ⟨multisig, answered, runsLast, rfl⟩, same⟩
  | cons driver rest ih =>
      obtain ⟨address, set⟩ := multisig
      have left := ((launch.drivenBy driver).rollout store).finalState_run_of_multisig
        (.string launch.network) launch.steps ((launch.drivenBy driver).start files) set
      obtain ⟨completesLeft, storableLeft⟩ := completes.of_interrupted
        (sometimes driver List.mem_cons_self) nonempty storable
        ((launch.drivenBy driver).start files) rfl rfl
      rw [← left] at completesLeft storableLeft
      exact ih _ (fun other found => sometimes other (List.mem_cons_of_mem _ found))
        storableLeft completesLeft

/-- The deployer that gives the same answer so many times and then fails. -/
def Deployer.exhaustible (text : String) : Deployer Nat where
  deploy _ _ left :=
    match left with
    | 0 => .error (.deployment (.reported "out of funds")) 0
    | left + 1 => .ok (.string text) left
  announce _ left := left

theorem Deployer.sometimes_exhaustible (text : String) :
    (Deployer.exhaustible text).Sometimes fun _ => text := by
  intro files request left
  cases left with
  | zero => exact .inr ⟨_, _, rfl⟩
  | succ left => exact .inl ⟨left, rfl⟩

theorem Deployer.always_constant (text : String) :
    (Deployer.constant text).Always fun _ => text :=
  fun _ _ _ => ⟨(), rfl⟩

/-- Two contracts of which the second fails twice before it is deployed. -/
theorem resumed_run_eq_third_try :
    ∃ addresses final later,
      (Launch.constant "pisco-1" "terra1contract" [.cw20Ics20, .satellite]).run
          (.ofText "records") .empty = .ok addresses final ∧
        ((Launch.constant "pisco-1" "terra1contract" [.cw20Ics20, .satellite]).drivenBy
            ⟨Unit, .constant "terra1contract", ()⟩).run (.ofText "records")
          ((Launch.constant "pisco-1" "terra1contract" [.cw20Ics20, .satellite]).filesAfterRuns
            (.ofText "records") .empty
            [⟨Nat, .exhaustible "terra1contract", 1⟩, ⟨Nat, .exhaustible "terra1contract", 0⟩]) =
          .ok addresses later ∧
        later.files = final.files := by
  have works : isOk ((Launch.constant "pisco-1" "terra1contract" [.cw20Ics20, .satellite]).run
      (.ofText "records") .empty) = true := by
    decide +kernel
  obtain ⟨addresses, final, returns⟩ := exists_of_isOk works
  have absent : ∀ record, (ArtifactStore.ofText "records").read .empty (.string "pisco-1") =
      .ok record → Json.FloatFree (.object record.fields) :=
    fun record reads =>
      ((ArtifactStore.holdsFloatFree_empty _ _).storable reads).floatFree
  obtain ⟨later, resumed, same⟩ := resumed_run_eq (.ofText "records") .empty
    (.constant "pisco-1" "terra1contract" [.cw20Ics20, .satellite])
    [⟨Nat, .exhaustible "terra1contract", 1⟩, ⟨Nat, .exhaustible "terra1contract", 0⟩]
    ⟨Unit, .constant "terra1contract", ()⟩ (fun _ => "terra1contract") (by simp)
    (Deployer.always_constant "terra1contract")
    (by simp [Deployer.sometimes_exhaustible])
    (Deployer.always_constant "terra1contract") absent returns
  exact ⟨addresses, final, later, returns, resumed, same⟩

end ContractRollout
