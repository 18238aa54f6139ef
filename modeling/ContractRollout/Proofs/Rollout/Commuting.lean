import ContractRollout.Proofs.Record.Writable
import ContractRollout.Proofs.Rollout.InitMessage
import ContractRollout.Proofs.Rollout.Resumption

/-!
# Exchanging steps

Of two neighbouring steps neither may read the field that the other one fills. Then they can
change places. For such a step it makes no difference whether the other one was taken
before it: it finds the same, asks the deployer for the same and fills the same field. After
both of them the record has the same fields in another order, and no later step takes notice of
the order.
-/

namespace ContractRollout

variable {apart left right : Set String}

namespace NetworkRecord

variable {record first second : NetworkRecord} {field : String}

/-- Two records have the same under every key apart from some, in whatever order. -/
def AgreeOutside (apart : Set String) (first second : NetworkRecord) : Prop :=
  ∀ field ∉ apart, first.fields.lookup field = second.fields.lookup field

theorem AgreeOutside.get? (agree : AgreeOutside apart first second) (outer : field ∉ apart) :
    first.get? field = second.get? field := by
  have same : first.fields.value field = second.fields.value field :=
    congrArg (·.getD .null) (agree field outer)
  rw [NetworkRecord.get?, NetworkRecord.get?, same]

theorem AgreeOutside.has (agree : AgreeOutside apart first second) (outer : field ∉ apart) :
    first.has field = second.has field :=
  congrArg Option.isSome (agree.get? outer)

theorem AgreeOutside.put (agree : AgreeOutside apart first second) (field : String)
    (address : Json) : AgreeOutside apart (first.put field address) (second.put field address) := by
  intro other outer
  by_cases same : other = field
  · subst same
    simp [NetworkRecord.put, Members.insert]
  · simp [NetworkRecord.put, Members.insert, Bindings.lookup_insert_of_ne same, agree other outer]

theorem agreeOutside_put (record : NetworkRecord) (field : String) (address : Json) :
    AgreeOutside {field} record (record.put field address) := by
  intro other outer
  have different : other ≠ field := by simpa using outer
  simp [NetworkRecord.put, Members.insert, Bindings.lookup_insert_of_ne different]

end NetworkRecord

namespace DeploymentStep

variable {step : DeploymentStep} {first second : NetworkRecord}

/-- A step that has nothing to do with some fields. -/
structure Avoids (step : DeploymentStep) (apart : Set String) : Prop where
  record : step.recordField ∉ apart
  dependencies : ∀ dependency ∈ step.dependencies, dependency.recordField ∉ apart

theorem avoids_empty (step : DeploymentStep) : step.Avoids ∅ := ⟨by simp, by simp⟩

theorem Avoids.missingDependencies (avoids : step.Avoids apart)
    (agree : NetworkRecord.AgreeOutside apart first second) :
    step.missingDependencies first = step.missingDependencies second := by
  unfold DeploymentStep.missingDependencies
  apply List.filter_congr
  intro dependency member
  rw [agree.has (avoids.dependencies dependency member)]

theorem Avoids.initDefaults (avoids : step.Avoids apart)
    (agree : NetworkRecord.AgreeOutside apart first second) (multisig : Json) :
    step.initDefaults multisig first = step.initDefaults multisig second := by
  have offers : recordedOffers first step.dependencies =
      recordedOffers second step.dependencies := by
    apply List.filterMap_congr
    intro dependency member
    rw [agree.get? (avoids.dependencies dependency member)]
  rw [initDefaults_eq, initDefaults_eq, offers]

theorem Avoids.resolve (avoids : step.Avoids apart)
    (agree : NetworkRecord.AgreeOutside apart first second) (configs : ChainConfigs) :
    step.resolve configs first = step.resolve configs second := by
  simp only [DeploymentStep.resolve, avoids.initDefaults agree]

end DeploymentStep

/-! ### Trees with the same records -/

namespace ArtifactStore

variable {store : ArtifactStore} {network : Json} {first second third : FileTree}

/-- The record of a network is the same in two trees apart from some fields, and it can be written
in both of them or in neither. -/
structure Alongside (store : ArtifactStore) (network : Json) (apart : Set String)
    (first second : FileTree) : Prop where
  records : ∃ record other, store.read first network = .ok record ∧
    store.read second network = .ok other ∧ record.AgreeOutside apart other
  writable : store.Writable network first ↔ store.Writable network second

namespace Alongside

theorem refl {record : NetworkRecord} (reads : store.read first network = .ok record) :
    store.Alongside network apart first first :=
  ⟨⟨record, record, reads, reads, fun _ _ => rfl⟩, Iff.rfl⟩

theorem symm (alongside : store.Alongside network apart first second) :
    store.Alongside network apart second first := by
  obtain ⟨⟨record, other, reads, readsOther, agree⟩, writable⟩ := alongside
  exact ⟨⟨other, record, readsOther, reads, fun field outer => (agree field outer).symm⟩,
    writable.symm⟩

theorem trans (early : store.Alongside network apart first second)
    (late : store.Alongside network apart second third) :
    store.Alongside network apart first third := by
  obtain ⟨⟨record, middle, reads, readsMiddle, agree⟩, writable⟩ := early
  obtain ⟨⟨middle', other, readsMiddle', readsOther, agreeLate⟩, writableLate⟩ := late
  obtain rfl := read_unique readsMiddle readsMiddle'
  exact ⟨⟨record, other, reads, readsOther,
    fun field outer => (agree field outer).trans (agreeLate field outer)⟩,
    writable.trans writableLate⟩

/-- What differs in two ways at most differs where both of them allow it. -/
theorem meet (one : store.Alongside network left first second)
    (other : store.Alongside network right first second) :
    store.Alongside network (left ∩ right) first second := by
  obtain ⟨⟨record, stored, reads, readsStored, agree⟩, writable⟩ := one
  obtain ⟨⟨record', stored', reads', readsStored', agree'⟩, -⟩ := other
  obtain rfl := read_unique reads reads'
  obtain rfl := read_unique readsStored readsStored'
  refine ⟨⟨record, stored, reads, readsStored, fun field outer => ?_⟩, writable⟩
  by_cases inLeft : field ∈ left
  · exact agree' field fun inRight => outer ⟨inLeft, inRight⟩
  · exact agree field inLeft

end Alongside

/-- A record that was read and written with a text in a field is read back like this, and can be
written again. -/
theorem read_of_put {record : NetworkRecord} {field text : String} {before after : FileTree}
    (reads : store.read before network = .ok record)
    (writes : store.write (record.put field (.string text)) network before = .ok () after) :
    store.read after network = .ok (record.put field (.string text)) ∧
      store.Writable network after := by
  obtain ⟨rfl, faithful⟩ := read_faithful reads
  have put : Json.Faithful (.object (record.put field (.string text)).fields) :=
    faithful.insert field (.string text)
  obtain ⟨later, writes', writable⟩ := (writable_of_write writes).write_of_legible put.legible
  obtain ⟨-, rfl⟩ := EStateM.Result.ok.inj (writes.symm.trans writes')
  exact ⟨(written_of_write writes).read_of_faithful put, writable⟩

end ArtifactStore

/-! ### Steps -/

/-- A step with its answer and its calls, apart from the files. -/
def StepRun.dealings (stepRun : StepRun) : DeploymentStep × Except Fault Json × List Call :=
  (stepRun.step, stepRun.answer, stepRun.calls)

namespace Rollout

variable {σ : Type} {rollout : Rollout σ} {answers : DeployRequest → String} {network : Json}
  {step : DeploymentStep} {state later : RunState σ} {address : Json}

theorem dealings_of_deployed {record : NetworkRecord} {resolved : ResolvedContract}
    (reads : rollout.store.read state.files network = .ok record)
    (vacant : record.get? step.recordField = none)
    (resolves : step.resolve rollout.configs record = .ok resolved)
    (takes : rollout.takeStep network step state = .ok address later) :
    (rollout.stepRun network step state).dealings =
      (step, .ok address, [⟨rollout.request step resolved, .ok address⟩]) := by
  have same := rollout.takeStep_watched network step state.watch
  rw [RunState.forget_watch, takes] at same
  have outcome := rollout.watched.takeStep_outcome network step state.watch
  unfold stepRun
  generalize rollout.watched.takeStep network step state.watch = result at outcome same
  cases outcome with
  | found reads' populated =>
      obtain rfl := ArtifactStore.read_unique reads reads'
      simp [vacant] at populated
  | deployed reads' _ _ resolves' deploys _ =>
      obtain rfl := ArtifactStore.read_unique reads reads'
      obtain rfl := Except.ok.inj (resolves.symm.trans resolves')
      obtain ⟨-, calls⟩ := deploy_of_watched_ok deploys
      obtain ⟨rfl, -⟩ := EStateM.Result.ok.inj same
      simp only [StepRun.dealings, calls_announceAddress, calls, calls_announceStart]
      rfl
  | _ => simp [forgetOutcome] at same

/-- A step changes the record in its own field at most. -/
theorem alongside_of_takeStep (always : rollout.deployer.Always answers)
    (takes : rollout.takeStep network step state = .ok address later) :
    rollout.store.Alongside network {step.recordField} state.files later.files := by
  have outcome := rollout.takeStep_outcome network step state
  rw [takes] at outcome
  cases outcome with
  | found reads populated => exact .refl reads
  | deployed reads vacant complete resolves deploys writes =>
      obtain rfl := always.sometimes.of_ok deploys
      rw [(ArtifactStore.read_faithful reads).1] at writes
      obtain ⟨back, writable⟩ := ArtifactStore.read_of_put reads writes
      exact ⟨⟨_, _, reads, back, NetworkRecord.agreeOutside_put _ _ _⟩,
        fun _ => writable, fun _ => ArtifactStore.writable_of_write writes⟩

/-- A step that has nothing to do with the fields in which two trees differ goes the same way on
both of them. -/
theorem takeStep_alongside (always : rollout.deployer.Always answers) (avoids : step.Avoids apart)
    {other : RunState σ} (alongside : rollout.store.Alongside network apart state.files other.files)
    (takes : rollout.takeStep network step state = .ok address later) :
    ∃ otherLater, rollout.takeStep network step other = .ok address otherLater ∧
      rollout.store.Alongside network apart later.files otherLater.files ∧
      (rollout.stepRun network step state).dealings =
        (rollout.stepRun network step other).dealings := by
  obtain ⟨record, stored, reads, readsOther, agree⟩ := alongside.records
  have outcome := rollout.takeStep_outcome network step state
  rw [takes] at outcome
  cases outcome with
  | found reads' populated =>
      obtain rfl := ArtifactStore.read_unique reads reads'
      have there := (agree.get? avoids.record).symm.trans populated
      refine ⟨_, StepOutcome.eq (.found readsOther there), alongside, ?_⟩
      rw [stepRun_of_found reads populated, stepRun_of_found readsOther there]
      rfl
  | @deployed _ resolved _ _ _ reads' vacant complete resolves deploys writes =>
      obtain rfl := ArtifactStore.read_unique reads reads'
      obtain rfl := always.sometimes.of_ok deploys
      rw [(ArtifactStore.read_faithful reads).1] at writes
      obtain ⟨back, writableLater⟩ := ArtifactStore.read_of_put reads writes
      have vacantOther := (agree.get? avoids.record).symm.trans vacant
      have resolvesOther := (avoids.resolve agree rollout.configs).symm.trans resolves
      have completeOther := (avoids.missingDependencies agree).symm.trans complete
      obtain ⟨chain, deploysOther⟩ := always other.files (rollout.request step resolved)
        (rollout.announceStart step other.chain)
      obtain ⟨networkOther, faithfulOther⟩ := ArtifactStore.read_faithful readsOther
      have legible : Json.Legible (.object (stored.put step.recordField
          (.string (answers (rollout.request step resolved)))).fields) :=
        (faithfulOther.insert step.recordField (.string _)).legible
      obtain ⟨files, writesOther, writableOther⟩ :=
        (alongside.writable.mp (ArtifactStore.writable_of_write writes)).write_of_legible legible
      obtain ⟨backOther, -⟩ := ArtifactStore.read_of_put readsOther writesOther
      rw [← networkOther] at writesOther
      have takesOther := StepOutcome.eq (.deployed readsOther vacantOther completeOther
        resolvesOther deploysOther writesOther)
      exact ⟨_, takesOther,
        ⟨⟨_, _, back, backOther, agree.put _ _⟩, fun _ => writableOther, fun _ => writableLater⟩,
        (dealings_of_deployed reads vacant resolves takes).trans
          (dealings_of_deployed readsOther vacantOther resolvesOther takesOther).symm⟩

/-- Steps that have nothing to do with the fields in which two trees differ go the same way on both
of them. -/
theorem runSteps_alongside (always : rollout.deployer.Always answers) {steps : List DeploymentStep}
    (avoids : ∀ step ∈ steps, step.Avoids apart) {other : RunState σ} {addresses : Members}
    (alongside : rollout.store.Alongside network apart state.files other.files)
    (runs : rollout.runSteps network steps state = .ok addresses later) :
    ∃ otherLater, rollout.runSteps network steps other = .ok addresses otherLater ∧
      rollout.store.Alongside network apart later.files otherLater.files ∧
      (rollout.stepHistory network steps state).map StepRun.dealings =
        (rollout.stepHistory network steps other).map StepRun.dealings := by
  induction steps generalizing state other addresses with
  | nil =>
      obtain ⟨rfl, rfl⟩ := EStateM.Result.ok.inj runs
      exact ⟨other, rfl, alongside, rfl⟩
  | cons step rest ih =>
      obtain ⟨address, middle, others, takes, runsRest, rfl⟩ := runSteps_ok.mp runs
      obtain ⟨otherMiddle, takesOther, between, same⟩ :=
        takeStep_alongside always (avoids step List.mem_cons_self) alongside takes
      obtain ⟨otherLater, runsOther, after, sameRest⟩ :=
        ih (fun later member => avoids later (List.mem_cons_of_mem _ member)) between runsRest
      refine ⟨otherLater,
        runSteps_ok.mpr ⟨address, otherMiddle, others, takesOther, runsOther, rfl⟩, after, ?_⟩
      rw [stepHistory_of_ok takes, stepHistory_of_ok takesOther, List.map_cons, List.map_cons, same,
        sameRest]

theorem steps_of_runs {steps : List DeploymentStep} {addresses : Members}
    (runs : rollout.runSteps network steps state = .ok addresses later) :
    ((rollout.stepHistory network steps state).map StepRun.dealings).map Prod.fst = steps := by
  induction steps generalizing state addresses with
  | nil => rfl
  | cons step rest ih =>
      obtain ⟨address, middle, others, takes, runsRest, rfl⟩ := runSteps_ok.mp runs
      rw [stepHistory_of_ok takes, List.map_cons, List.map_cons, ih runsRest]
      exact congrArg (· :: rest) step_stepRun

/-- Two steps that have nothing to do with each other's fields can be taken in either order. -/
theorem takeStep_exchange (always : rollout.deployer.Always answers)
    {first second : DeploymentStep} (fieldsDiffer : first.recordField ≠ second.recordField)
    (firstAvoids : first.Avoids {second.recordField})
    (secondAvoids : second.Avoids {first.recordField}) {one other : Json}
    {middle : RunState σ} (takesFirst : rollout.takeStep network first state = .ok one middle)
    (takesSecond : rollout.takeStep network second middle = .ok other later) :
    ∃ between after, rollout.takeStep network second state = .ok other between ∧
      rollout.takeStep network first between = .ok one after ∧
      rollout.store.Alongside network ∅ later.files after.files ∧
      (rollout.stepRun network second middle).dealings =
        (rollout.stepRun network second state).dealings ∧
      (rollout.stepRun network first state).dealings =
        (rollout.stepRun network first between).dealings := by
  have byFirst := alongside_of_takeStep always takesFirst
  obtain ⟨between, takesSecond', lateSecond, sameSecond⟩ :=
    takeStep_alongside always secondAvoids byFirst.symm takesSecond
  obtain ⟨after, takesFirst', lateFirst, sameFirst⟩ :=
    takeStep_alongside always firstAvoids (alongside_of_takeStep always takesSecond') takesFirst
  -- Both orders lead to trees that differ in the field of neither step.
  have apartFirst := lateSecond.trans (alongside_of_takeStep always takesFirst')
  have apartSecond := (alongside_of_takeStep always takesSecond).symm.trans lateFirst
  have apart := apartFirst.meet apartSecond
  rw [Set.singleton_inter_eq_empty.mpr (by simpa using fieldsDiffer)] at apart
  exact ⟨between, after, takesSecond', takesFirst', apart, sameSecond, sameFirst⟩

/-- Let two neighbouring steps have different names and different fields, and let neither depend on
the field of the other, whether it requires it or not. Let the answers of the deployer depend on
what it is asked for only. If the run returns, then it also returns with the two steps
exchanged. It gives every name the same address, all steps answer the same and make the same
calls, those of the two in exchanged order, and the stored records are the same under every
key. -/
theorem adjacent_steps_commute (rollout : Rollout σ) (answers : DeployRequest → String)
    (always : rollout.deployer.Always answers) (network : Json) (early late : List DeploymentStep)
    (first second : DeploymentStep) (namesDiffer : first.name ≠ second.name)
    (fieldsDiffer : first.recordField ≠ second.recordField)
    (firstFree : ∀ dependency ∈ first.dependencies, dependency.recordField ≠ second.recordField)
    (secondFree : ∀ dependency ∈ second.dependencies, dependency.recordField ≠ first.recordField)
    (state : RunState σ) {addresses : Members} {final : RunState σ}
    (returns : rollout.run network (early ++ first :: second :: late) state =
      .ok addresses final) :
    ∃ others ending,
      rollout.run network (early ++ second :: first :: late) state = .ok others ending ∧
      (∀ name, others.lookup name = addresses.lookup name) ∧
      (∃ before one other after,
        one.1 = first ∧ other.1 = second ∧ before.map Prod.fst = early ∧
        after.map Prod.fst = late ∧
        (rollout.history network (early ++ first :: second :: late) state).map
            StepRun.dealings = before ++ one :: other :: after ∧
        (rollout.history network (early ++ second :: first :: late) state).map
            StepRun.dealings = before ++ other :: one :: after) ∧
      ∃ record stored, rollout.store.read final.files network = .ok record ∧
        rollout.store.read ending.files network = .ok stored ∧
        ∀ key, stored.fields.lookup key = record.fields.lookup key := by
  have firstAvoids : first.Avoids {second.recordField} := ⟨by simpa using fieldsDiffer, by
    simpa using firstFree⟩
  have secondAvoids : second.Avoids {first.recordField} :=
    ⟨by simpa using fieldsDiffer.symm, by simpa using secondFree⟩
  obtain ⟨⟨multisig, set⟩, answered, runs, rfl⟩ := run_ok.mp returns
  obtain ⟨earlyAnswers, reached, _, arrives, runsPair, rfl⟩ := runSteps_append_ok.mp runs
  obtain ⟨one, middle, _, takesFirst, runsSecond, rfl⟩ := runSteps_ok.mp runsPair
  obtain ⟨other, exchanged, lateAnswers, takesSecond, runsLate, rfl⟩ := runSteps_ok.mp runsSecond
  obtain ⟨between, after, takesSecond', takesFirst', alongside, sameSecond, sameFirst⟩ :=
    takeStep_exchange always fieldsDiffer firstAvoids secondAvoids takesFirst takesSecond
  obtain ⟨ending, runsLate', alongsideLate, sameLate⟩ :=
    runSteps_alongside always (fun step _ => step.avoids_empty) alongside runsLate
  have runs' : rollout.runSteps network (early ++ second :: first :: late) state =
      .ok (earlyAnswers ++ (second.name, other) :: (first.name, one) :: lateAnswers) ending :=
    runSteps_append_ok.mpr ⟨earlyAnswers, reached, _, arrives,
      runSteps_ok.mpr ⟨other, between, _, takesSecond',
        runSteps_ok.mpr ⟨one, after, lateAnswers, takesFirst', runsLate', rfl⟩, rfl⟩, rfl⟩
  refine ⟨_, ending, run_ok.mpr ⟨⟨multisig, set⟩, _, runs', rfl⟩, ?names, ?calls, ?records⟩
  case names =>
    exact Members.lookup_collect_exchange _ _ namesDiffer.symm
  case calls =>
    refine ⟨(rollout.stepHistory network early state).map StepRun.dealings,
      (rollout.stepRun network first reached).dealings,
      (rollout.stepRun network second middle).dealings,
      (rollout.stepHistory network late exchanged).map StepRun.dealings, step_stepRun,
      step_stepRun, steps_of_runs arrives, steps_of_runs runsLate, ?_, ?_⟩
    · rw [history_of_multisig set, stepHistory_append arrives, stepHistory_of_ok takesFirst,
        stepHistory_of_ok takesSecond, List.map_append, List.map_cons, List.map_cons]
    · rw [history_of_multisig set, stepHistory_append arrives, stepHistory_of_ok takesSecond',
        stepHistory_of_ok takesFirst', List.map_append, List.map_cons, List.map_cons, sameSecond,
        sameFirst, sameLate]
  case records =>
    obtain ⟨record, stored, reads, readsEnding, agree⟩ := alongsideLate.records
    exact ⟨record, stored, reads, readsEnding, fun key => (agree key (by simp)).symm⟩

/-- The bridge for tokens and the satellite on no files, in both orders. -/
theorem adjacent_steps_commute_satellite :
    ∃ addresses final others ending,
      (Launch.constant "pisco-1" "terra1contract" [.cw20Ics20, .satellite]).run
          (.ofText "records") .empty = .ok addresses final ∧
        (Launch.constant "pisco-1" "terra1contract" [.satellite, .cw20Ics20]).run
          (.ofText "records") .empty = .ok others ending ∧
        ∀ name, others.lookup name = addresses.lookup name := by
  have works : isOk ((Launch.constant "pisco-1" "terra1contract" [.cw20Ics20, .satellite]).run
      (.ofText "records") .empty) = true := by
    decide +kernel
  obtain ⟨addresses, final, returns⟩ := exists_of_isOk works
  obtain ⟨others, ending, returnsOther, same, -⟩ := adjacent_steps_commute
    ((Launch.constant "pisco-1" "terra1contract" [.cw20Ics20, .satellite]).rollout
      (.ofText "records"))
    (fun _ => "terra1contract") (Deployer.always_constant "terra1contract") (.string "pisco-1") [] []
    .cw20Ics20 .satellite (by decide) (by decide) (by decide) (by decide)
    ((Launch.constant "pisco-1" "terra1contract" [.cw20Ics20, .satellite]).start .empty) returns
  exact ⟨addresses, final, others, ending, returns, returnsOther, same⟩

end Rollout

end ContractRollout
