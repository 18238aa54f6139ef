import ContractRollout.Proofs.Chain.Doubt
import ContractRollout.Proofs.Record.Leftovers
import ContractRollout.Proofs.Rollout.Signing

/-!
# Retries

Runs over the steps are repeated on the files that the last one left. As long as no address is
lost in saving it and no fault goes unreported, a contract is instantiated a second time only
after a run that has left its first instantiation open.

Each step of each run is a visit, and the visits are a trail from files to files. What a visit
keeps is that a field that is populated stays so; a visit to a populated field issues nothing.
-/

namespace ContractRollout

/-- What an action has answered. -/
def answered {ε σ α : Type} : EStateM.Result ε σ α → Except ε α
  | .ok value _ => .ok value
  | .error fault _ => .error fault

/-- A failure that is reported and that has lost no address. -/
def Fault.isRetryable : Fault → Bool
  | .persistence _ => false
  | fault => fault.isReported

/-- After the result a run may be repeated. -/
def allowsRetry {σ α : Type} : EStateM.Result Fault σ α → Bool
  | .ok .. => true
  | .error fault _ => fault.isRetryable

theorem Fault.isReported_of_isRetryable {fault : Fault} (retryable : fault.isRetryable = true) :
    fault.isReported = true := by
  cases fault with
  | persistence => simp [isRetryable] at retryable
  | _ => exact retryable

/-! ### Visits -/

/-- A step of a run: what happened on it, and what it answered. -/
structure Visit where
  connection : Connection
  step : DeploymentStep
  happened : List Event
  answer : Except Fault Json

namespace Visit

/-- How many instantiations on a visit were accepted and not told to have failed. -/
def landed (visit : Visit) : Nat := ContractRollout.landed visit.connection visit.happened

/-- An instantiation was accepted on a visit, which failed with a fault that leaves it open. -/
def leavesOpen (visit : Visit) : Bool :=
  visit.landed ≠ 0 &&
    match visit.answer with
    | .error fault => fault.leavesOpen
    | .ok _ => false

theorem leavesOpen_iff {visit : Visit} :
    visit.leavesOpen = true ↔
      visit.landed ≠ 0 ∧ ∃ fault, visit.answer = .error fault ∧ fault.leavesOpen = true := by
  unfold leavesOpen
  cases visit.answer <;> simp

/-- What holds of a visit to a network that has led from files to files. -/
structure Lawful (store : ArtifactStore) (network : Json) (before : FileTree) (visit : Visit)
    (after : FileTree) : Prop where
  once : visit.landed ≤ 1
  silent : ∀ address, store.Populated before network visit.step.recordField address →
    commands visit.happened = []
  saved : visit.landed ≠ 0 → visit.leavesOpen = true ∨
    ∃ address, store.Populated after network visit.step.recordField address
  kept : ∀ field address, store.Populated before network field address →
    store.Populated after network field address

end Visit

/-- Lawful visits, each on the files that the one before it left. -/
inductive Trail (store : ArtifactStore) (network : Json) :
    FileTree → List Visit → FileTree → Prop
  | nil (files : FileTree) : Trail store network files [] files
  | cons {before middle after : FileTree} {visit : Visit} {rest : List Visit}
      (first : visit.Lawful store network before middle)
      (others : Trail store network middle rest after) :
      Trail store network before (visit :: rest) after

namespace Trail

variable {store : ArtifactStore} {network : Json} {before middle after : FileTree}
  {visits early late : List Visit}

theorem append (first : Trail store network before early middle)
    (second : Trail store network middle late after) :
    Trail store network before (early ++ late) after := by
  induction first with
  | nil => exact second
  | cons lawful _ ih => exact .cons lawful (ih second)

/-- A contract whose field is populated is never visited with a command again. -/
theorem silent (trail : Trail store network before visits after) {field : String} {address : Json}
    (populated : store.Populated before network field address) :
    ∀ visit ∈ visits, visit.step.recordField = field → commands visit.happened = [] := by
  induction trail with
  | nil => simp
  | cons lawful others ih =>
      intro visit member same
      rcases List.mem_cons.mp member with rfl | later
      · exact lawful.silent address (same ▸ populated)
      · exact ih (lawful.kept _ _ populated) visit later same

/-- After a visit that has landed and was not left open, visits to the same contract issue
nothing. -/
theorem pairwise (trail : Trail store network before visits after) :
    visits.Pairwise fun early late => early.step = late.step → early.landed ≠ 0 →
      early.leavesOpen = true ∨ commands late.happened = [] := by
  induction trail with
  | nil => exact .nil
  | cons lawful others ih =>
      refine List.pairwise_cons.mpr ⟨?_, ih⟩
      intro late member same present
      rcases lawful.saved present with opened | ⟨address, populated⟩
      · exact .inl opened
      · exact .inr (others.silent populated late member (same ▸ rfl))

/-- Visits to a contract that never leave it open land at most once altogether. -/
theorem sum_landed_le (trail : Trail store network before visits after) (step : DeploymentStep)
    (decided : ∀ visit ∈ visits, visit.step = step → visit.leavesOpen = false) :
    ((visits.filter (·.step = step)).map Visit.landed).sum ≤ 1 := by
  induction trail with
  | nil => simp
  | @cons before middle after visit rest lawful others ih =>
      have later := ih fun visit member => decided visit (List.mem_cons_of_mem _ member)
      by_cases here : visit.step = step
      · rw [List.filter_cons_of_pos (by simpa using here), List.map_cons, List.sum_cons]
        by_cases present : visit.landed = 0
        · rwa [present, Nat.zero_add]
        rcases lawful.saved present with opened | ⟨address, populated⟩
        · simp [decided visit List.mem_cons_self here] at opened
        · have none : ((rest.filter (·.step = step)).map Visit.landed).sum = 0 := by
            rw [List.sum_eq_zero_iff]
            simp only [List.mem_map, List.mem_filter, decide_eq_true_eq]
            rintro _ ⟨other, ⟨member, same⟩, rfl⟩
            exact landed_of_silent (others.silent populated other member (by rw [same, here]))
          rw [none, Nat.add_zero]
          exact lawful.once
      · rwa [List.filter_cons_of_neg (by simpa using here)]

end Trail

/-- A visit that issues nothing and changes no file. -/
theorem Visit.lawful_of_silent {store : ArtifactStore} {network : Json} {files : FileTree}
    {visit : Visit} (silent : commands visit.happened = []) :
    visit.Lawful store network files files where
  once := (landed_of_silent silent).le.trans zero_le_one
  silent _ _ := silent
  saved present := absurd (landed_of_silent silent) present
  kept _ _ populated := populated

/-! ### The visits of a run -/

namespace Rollout

variable {rollout : Rollout Session} {deployer : ChainDeployer} {network : Json}
  {step : DeploymentStep} {state : RunState Session}

def visit (rollout : Rollout Session) (connection : Connection) (network : Json)
    (step : DeploymentStep) (state : RunState Session) : Visit where
  connection := connection
  step := step
  happened := (finalState (rollout.takeStep network step state)).chain.events.drop
    state.chain.events.length
  answer := answered (rollout.takeStep network step state)

/-- The visits of a run over some steps, up to the first that fails. -/
def visits (rollout : Rollout Session) (connection : Connection) (network : Json) :
    List DeploymentStep → RunState Session → List Visit
  | [], _ => []
  | step :: rest, state =>
      rollout.visit connection network step state ::
        match rollout.takeStep network step state with
        | .ok _ later => visits rollout connection network rest later
        | .error .. => []

/-- What a deployment instantiates, from its announcement on. -/
theorem deploy_instantiates_once (real : rollout.deployer = deployer.toDeployer) (files : FileTree)
    (step : DeploymentStep) (resolved : ResolvedContract) (session : Session) :
    ∃ happened,
      (finalState (rollout.deployer.deploy files (rollout.request step resolved)
        (rollout.announceStart step session))).events = session.events ++ happened ∧
      (commands happened).countP instantiates ≤ 1 ∧
      ∀ fault after, rollout.deployer.deploy files (rollout.request step resolved)
          (rollout.announceStart step session) = .error fault after →
        fault.isReported = true → landed deployer.connection happened ≠ 0 →
        fault.leavesOpen = true := by
  obtain ⟨happened, adds, once, leaves⟩ := deployer.deploy_instantiates_once files
    (rollout.request step resolved) (rollout.announceStart step session)
  rw [real]
  refine ⟨.line ("[INFO] Deploying " ++ step.name ++ "...") :: happened, ?_, once, leaves⟩
  rw [adds, events_announceStart real, List.append_assoc, List.singleton_append]

/-- A step only adds events, and it is a lawful visit if a run may be repeated after it. -/
theorem takeStep_lawful (real : rollout.deployer = deployer.toDeployer) (network : Json)
    (step : DeploymentStep) (state : RunState Session) :
    ∃ happened,
      (finalState (rollout.takeStep network step state)).chain.events =
        state.chain.events ++ happened ∧
      (allowsRetry (rollout.takeStep network step state) = true →
        (Visit.mk deployer.connection step happened
          (answered (rollout.takeStep network step state))).Lawful rollout.store network
          state.files (finalState (rollout.takeStep network step state)).files) := by
  have outcome := rollout.takeStep_outcome network step state
  have populates (address : Json) (middle : RunState Session)
      (takes : rollout.takeStep network step state = .ok address middle) :=
    takeStep_populated (real ▸ deployer.answersFaithfully) takes
  have unpopulated {record : NetworkRecord} {address : Json}
      (reads : rollout.store.read state.files network = .ok record)
      (vacant : record.get? step.recordField = none) :
      ¬ rollout.store.Populated state.files network step.recordField address := by
    rintro ⟨stored, readsStored, held⟩
    obtain rfl := ArtifactStore.read_unique reads readsStored
    simp [vacant] at held
  generalize rollout.takeStep network step state = result at outcome populates
  cases outcome with
  | unreadable reads => exact ⟨[], by simp, fun _ => Visit.lawful_of_silent rfl⟩
  | found reads populated =>
      exact ⟨[.line _], events_announceFound real _ _ _, fun _ => Visit.lawful_of_silent rfl⟩
  | blocked reads vacant missing => exact ⟨[], by simp, fun _ => Visit.lawful_of_silent rfl⟩
  | unresolved reads vacant complete resolves =>
      exact ⟨[], by simp, fun _ => Visit.lawful_of_silent rfl⟩
  | @refused record resolved fault chain reads vacant complete resolves deploys =>
      obtain ⟨happened, adds, once, leaves⟩ :=
        deploy_instantiates_once real state.files step resolved state.chain
      rw [deploys, finalState_error] at adds
      refine ⟨happened, adds, fun retryable => ⟨(landed_le _ _).trans once, ?_, ?_,
        fun _ _ populated => populated⟩⟩
      · exact fun address populated => absurd populated (unpopulated reads vacant)
      · intro present
        have opened := leaves _ _ deploys (Fault.isReported_of_isRetryable retryable) present
        exact .inl (Visit.leavesOpen_iff.mpr ⟨present, fault, rfl, opened⟩)
  | @unsaved record resolved address fault chain files reads vacant complete resolves deploys writes =>
      obtain ⟨happened, adds, -⟩ := deploy_instantiates_once real state.files step resolved state.chain
      rw [deploys, finalState_ok] at adds
      refine ⟨happened, adds, ?_⟩
      rcases ArtifactStore.write_error_cases writes with ⟨-, cause, rfl⟩ | ⟨-, error, rfl⟩
      · simp [allowsRetry, unrecorded, Fault.isRetryable]
      · simp [allowsRetry, unrecorded, Fault.isRetryable, Fault.isReported]
  | @deployed record resolved address chain files reads vacant complete resolves deploys writes =>
      obtain ⟨happened, adds, once, -⟩ :=
        deploy_instantiates_once real state.files step resolved state.chain
      rw [deploys, finalState_ok] at adds
      obtain ⟨populated, kept⟩ := populates _ _ rfl
      refine ⟨happened ++ [.line ("[OK] " ++ step.name ++ " address: " ++ address.text)], ?_,
        fun _ => ⟨?_, ?_, ?_, kept⟩⟩
      · rw [finalState_ok, events_announceAddress real, adds, List.append_assoc]
      · refine (landed_le _ _).trans ?_
        rw [commands_append, List.countP_append]
        exact once
      · exact fun address populated => absurd populated (unpopulated reads vacant)
      · exact fun _ => .inr ⟨address, populated⟩

theorem happened_visit (connection : Connection) {happened : List Event}
    (adds : (finalState (rollout.takeStep network step state)).chain.events =
      state.chain.events ++ happened) :
    (rollout.visit connection network step state).happened = happened := by
  rw [visit, adds, List.drop_left]

theorem events_takeStep (real : rollout.deployer = deployer.toDeployer) (network : Json)
    (step : DeploymentStep) (state : RunState Session) :
    (finalState (rollout.takeStep network step state)).chain.events =
      state.chain.events ++ (rollout.visit deployer.connection network step state).happened := by
  obtain ⟨happened, adds, -⟩ := takeStep_lawful real network step state
  rw [happened_visit _ adds, adds]

theorem lawful_visit (real : rollout.deployer = deployer.toDeployer) (network : Json)
    (step : DeploymentStep) (state : RunState Session)
    (retryable : allowsRetry (rollout.takeStep network step state) = true) :
    (rollout.visit deployer.connection network step state).Lawful rollout.store network state.files
      (finalState (rollout.takeStep network step state)).files := by
  obtain ⟨happened, adds, lawful⟩ := takeStep_lawful real network step state
  rw [← happened_visit deployer.connection adds] at lawful
  exact lawful retryable

/-- The visits of a run are all that happens on it. -/
theorem events_runSteps (real : rollout.deployer = deployer.toDeployer) (network : Json)
    (steps : List DeploymentStep) (state : RunState Session) :
    (finalState (rollout.runSteps network steps state)).chain.events =
      state.chain.events ++
        (rollout.visits deployer.connection network steps state).flatMap Visit.happened := by
  induction steps generalizing state with
  | nil => exact (List.append_nil _).symm
  | cons step rest ih =>
      have adds := events_takeStep real network step state
      unfold visits
      cases takes : rollout.takeStep network step state with
      | error fault later =>
          rw [takes, finalState_error] at adds
          rw [runSteps_of_error takes, finalState_error, adds]
          simp
      | ok address later =>
          rw [takes, finalState_ok] at adds
          rw [finalState_runSteps_of_ok takes, ih, adds]
          simp

/-- The visits of a run after which it may be repeated are a trail. -/
theorem trail_runSteps (real : rollout.deployer = deployer.toDeployer) (network : Json)
    (steps : List DeploymentStep) (state : RunState Session)
    (retryable : allowsRetry (rollout.runSteps network steps state) = true) :
    Trail rollout.store network state.files
      (rollout.visits deployer.connection network steps state)
      (finalState (rollout.runSteps network steps state)).files := by
  induction steps generalizing state with
  | nil => exact .nil _
  | cons step rest ih =>
      have lawful := lawful_visit real network step state
      unfold visits
      cases takes : rollout.takeStep network step state with
      | error fault later =>
          rw [runSteps_of_error takes] at retryable ⊢
          rw [takes] at lawful
          exact .cons (lawful retryable) (.nil _)
      | ok address later =>
          rw [takes] at lawful
          rw [finalState_runSteps_of_ok takes]
          refine .cons (lawful rfl) (ih later ?_)
          rw [runSteps_cons, bind_of_ok takes] at retryable
          cases runs : rollout.runSteps network rest later with
          | ok addresses final => rfl
          | error fault final => rwa [bind_of_error runs] at retryable

end Rollout

/-! ### Several runs -/

/-- A run over the steps of all contracts, apart from the store, the network and the files. -/
structure Attempt where
  deployer : ChainDeployer
  session : Session := {}
  configs : ChainConfigs
  wasmPath : Path
  keyName : String

namespace Attempt

variable (attempt : Attempt) (store : ArtifactStore) (network : Json) (files : FileTree)

def rollout : Rollout Session where
  deployer := attempt.deployer.toDeployer
  configs := attempt.configs
  store := store
  wasmPath := attempt.wasmPath
  keyName := attempt.keyName

def start : RunState Session := ⟨.empty network, files, attempt.session⟩

def run : EStateM.Result Fault (RunState Session) Members :=
  (attempt.rollout store).run network DeploymentStep.all (attempt.start network files)

/-- The visits of an attempt. Without a multisig there are none. -/
def visits : List Visit :=
  match attempt.configs.requireMultisig with
  | .ok _ =>
      (attempt.rollout store).visits attempt.deployer.connection network DeploymentStep.all
        (attempt.start network files)
  | .error _ => []

theorem deployer_rollout : (attempt.rollout store).deployer = attempt.deployer.toDeployer := rfl

/-- All that happens on an attempt happens on its visits. -/
theorem events_run :
    (finalState (attempt.run store network files)).chain.events =
      attempt.session.events ++ (attempt.visits store network files).flatMap Visit.happened := by
  unfold run visits
  cases multisig : attempt.configs.requireMultisig with
  | error fault =>
      rw [Rollout.run_of_multisig_error DeploymentStep.all multisig]
      exact (List.append_nil _).symm
  | ok address =>
      rw [Rollout.finalState_run_of_multisig _ _ _ _ multisig]
      exact Rollout.events_runSteps (attempt.deployer_rollout store) network _ _

theorem trail_visits (retryable : allowsRetry (attempt.run store network files) = true) :
    Trail store network files (attempt.visits store network files)
      (finalState (attempt.run store network files)).files := by
  unfold run visits at *
  cases multisig : attempt.configs.requireMultisig with
  | error fault =>
      rw [Rollout.run_of_multisig_error DeploymentStep.all multisig]
      exact .nil files
  | ok address =>
      rw [Rollout.finalState_run_of_multisig _ _ _ _ multisig]
      refine Rollout.trail_runSteps (attempt.deployer_rollout store) network _
        (attempt.start network files) ?_
      rw [Rollout.run_of_multisig _ multisig] at retryable
      cases runs : (attempt.rollout store).runSteps network DeploymentStep.all
          (attempt.start network files) with
      | ok answers final => rfl
      | error fault final =>
          rw [bind_of_error runs] at retryable
          exact retryable

end Attempt

variable (store : ArtifactStore) (network : Json)

/-- What attempts end in that are made one after the other on the same files. -/
def endings : FileTree → List Attempt →
    List (EStateM.Result Fault (RunState Session) Members)
  | _, [] => []
  | files, attempt :: rest =>
      attempt.run store network files ::
        endings (finalState (attempt.run store network files)).files rest

/-- The visits of attempts that are made one after the other on the same files. -/
def visits : FileTree → List Attempt → List Visit
  | _, [] => []
  | files, attempt :: rest =>
      attempt.visits store network files ++
        visits (finalState (attempt.run store network files)).files rest

/-- What happens on attempts that are made one after the other on the same files, apart from
what their sessions begin with. -/
def happenings : FileTree → List Attempt → List Event
  | _, [] => []
  | files, attempt :: rest =>
      (finalState (attempt.run store network files)).chain.events.drop
          attempt.session.events.length ++
        happenings (finalState (attempt.run store network files)).files rest

variable {store network}

/-- All that happens on attempts happens on their visits, in order. -/
theorem happened_visits (files : FileTree) (attempts : List Attempt) :
    (visits store network files attempts).flatMap Visit.happened =
      happenings store network files attempts := by
  induction attempts generalizing files with
  | nil => rfl
  | cons attempt rest ih =>
      rw [visits, happenings, List.flatMap_append, ih, attempt.events_run, List.drop_left]

theorem trail_visits {files : FileTree} {attempts : List Attempt}
    (retryable : ∀ ending ∈ endings store network files attempts, allowsRetry ending = true) :
    ∃ after, Trail store network files (visits store network files attempts) after := by
  induction attempts generalizing files with
  | nil => exact ⟨files, .nil files⟩
  | cons attempt rest ih =>
      obtain ⟨first, others⟩ := List.forall_mem_cons.mp retryable
      obtain ⟨after, trail⟩ := ih others
      exact ⟨after, (attempt.trail_visits store network files first).append trail⟩

/-- Let the whole sequence of steps be attempted any number of times on a network, and let no
attempt lose an address in saving it or end in a fault that is not reported. What happens then is
what happens on the visits of the attempts to their contracts, one after the other. A contract
whose instantiation was accepted and not told to have failed is not even attempted again, unless
a fault has left it open what became of the instantiation: a lookup went unheard, the waiting was
given up, or the transaction told no address. Without such faults at most one instantiation of
each contract is accepted and not told to have failed. -/
theorem instantiated_at_most_once {files : FileTree} {attempts : List Attempt}
    (retryable : ∀ ending ∈ endings store network files attempts, allowsRetry ending = true) :
    (visits store network files attempts).flatMap Visit.happened =
      happenings store network files attempts ∧
    ((visits store network files attempts).Pairwise fun early late =>
      early.step = late.step → early.landed ≠ 0 →
        early.leavesOpen = true ∨ commands late.happened = []) ∧
    ∀ step ∈ DeploymentStep.all,
      (∀ visit ∈ visits store network files attempts, visit.step = step → visit.leavesOpen = false) →
      (((visits store network files attempts).filter (·.step = step)).map Visit.landed).sum ≤ 1 := by
  obtain ⟨after, trail⟩ := trail_visits retryable
  exact ⟨happened_visits files attempts, trail.pairwise, fun step _ => trail.sum_landed_le step⟩

/-! ### Two attempts -/

def Attempt.on (surroundings : Surroundings) : Attempt where
  deployer :=
    { connection := { settings := { lcdUrl := "lcd", walletKey := "deployer" }, surroundings }
      wallet := ⟨"deployer", "terra1deployer"⟩ }
  configs := Rollout.openConfigs
  wasmPath := .ofString "wasm"
  keyName := "deployer"

/-- If the first contract is confirmed, another attempt does not deploy it again. -/
theorem instantiated_once_of_confirmed :
    let attempts : List Attempt :=
      [.on (Rollout.confirmingChain "A" "B"), .on (Rollout.confirmingChain "C" "D")]
    let made := visits (.ofText "artifacts") (.string "pisco-1") Rollout.codeOnly attempts
    (∀ ending ∈ endings (.ofText "artifacts") (.string "pisco-1") Rollout.codeOnly attempts,
      allowsRetry ending = true) ∧
    (∀ visit ∈ made, visit.step = .cw20Ics20 → visit.leavesOpen = false) ∧
    ((made.filter (·.step = .cw20Ics20)).map Visit.landed).sum ≤ 1 := by
  intro attempts made
  have checks :
      (∀ ending ∈ endings (.ofText "artifacts") (.string "pisco-1") Rollout.codeOnly attempts,
        allowsRetry ending = true) ∧
      ∀ visit ∈ made, visit.step = .cw20Ics20 → visit.leavesOpen = false := by
    decide +kernel
  exact ⟨checks.1, checks.2, (instantiated_at_most_once checks.1).2.2 _ List.mem_cons_self checks.2⟩

/-- A chain that takes every transaction, but does not answer when it is asked for one of them. -/
def unheardChain : Surroundings :=
  { Rollout.confirmingChain "A" "B" with
    lcd := fun url earlier =>
      if url = "lcd/cosmos/tx/v1beta1/txs/B" then .failed "refused"
      else (Rollout.confirmingChain "A" "B").lcd url earlier }

/-- If the lookup of an instantiation goes unheard, the next attempt instantiates the contract
again, and both transactions are accepted and not told to have failed. -/
theorem instantiated_twice_after_unheard :
    let attempts : List Attempt := [.on unheardChain, .on (Rollout.confirmingChain "C" "D")]
    let made := visits (.ofText "artifacts") (.string "pisco-1") Rollout.codeOnly attempts
    (∀ ending ∈ endings (.ofText "artifacts") (.string "pisco-1") Rollout.codeOnly attempts,
      allowsRetry ending = true) ∧
    ((made.filter (·.step = .cw20Ics20)).map Visit.landed).sum = 2 := by
  decide +kernel

end ContractRollout
