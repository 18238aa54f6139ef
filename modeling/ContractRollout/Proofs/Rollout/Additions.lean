import ContractRollout.Proofs.Record.Writable
import ContractRollout.Proofs.Rollout.Effects

/-!
# Additions to the stored record

However a run ends, the stored record of its network has only grown. Its fields are
there in the same order, the populated ones with the same values, and what is new or
different are addresses that the deployer gave in this run for fields that were vacant.

A run makes the directory of the store when it first saves, and that directory stays
when the save fails. So the record has to read the same once the directory is there. A
name that is too long for a file is an example where it does not.
-/

namespace ContractRollout

open FileTree

/-- What may become of a record in the course of a history. -/
structure NetworkRecord.Extends (start final : NetworkRecord) (history : List StepRun) :
    Prop where
  /-- The fields are still there, first and in the same order. -/
  order : start.fields.keys <+: final.fields.keys
  /-- Populated fields have the same values. -/
  kept : ∀ field held, start.get? field = some held → final.get? field = some held
  /-- A field that is new or different was vacant and has the address of a call. -/
  changed : ∀ field, final.fields.lookup field ≠ start.fields.lookup field →
    start.get? field = none ∧
      ∃ stepRun ∈ history, stepRun.step.recordField = field ∧
        ∃ call ∈ stepRun.calls, ∃ address, call.answer = .ok address ∧
          final.fields.lookup field = some address

namespace NetworkRecord

variable {start middle final record : NetworkRecord} {early late history : List StepRun}
  {field : String}

theorem Extends.refl (record : NetworkRecord) (history : List StepRun) :
    record.Extends record history where
  order := List.prefix_refl _
  kept _ _ held := held
  changed _ different := absurd rfl different

theorem Extends.trans (first : start.Extends middle early) (second : middle.Extends final late) :
    start.Extends final (early ++ late) where
  order := first.order.trans second.order
  kept field held populated := second.kept field held (first.kept field held populated)
  changed field different := by
    by_cases same : final.fields.lookup field = middle.fields.lookup field
    · rw [same] at different ⊢
      obtain ⟨vacant, stepRun, member, added⟩ := first.changed field different
      exact ⟨vacant, stepRun, List.mem_append_left _ member, added⟩
    · obtain ⟨vacant, stepRun, member, added⟩ := second.changed field same
      refine ⟨?_, stepRun, List.mem_append_right _ member, added⟩
      cases held : start.get? field with
      | none => rfl
      | some address =>
          rw [first.kept field address held] at vacant
          simp at vacant

theorem Extends.put {stepRun : StepRun} {call : Call} {address : Json}
    (vacant : record.get? stepRun.step.recordField = none) (member : call ∈ stepRun.calls)
    (answered : call.answer = .ok address) :
    record.Extends (record.put stepRun.step.recordField address) [stepRun] where
  order := by
    by_cases bound : stepRun.step.recordField ∈ record.fields.keys
    · have same : (record.put stepRun.step.recordField address).fields.keys = record.fields.keys :=
        Members.keys_insert_of_mem address bound
      exact ⟨[], by rw [List.append_nil, same]⟩
    · rw [NetworkRecord.put, Members.keys_insert_of_not_mem address bound]
      exact List.prefix_append _ _
  kept _ _ populated := get?_put_of_vacant vacant address populated
  changed field different := by
    by_cases same : field = stepRun.step.recordField
    · subst same
      exact ⟨vacant, stepRun, List.mem_singleton_self _, rfl, call, member, address, answered,
        Bindings.lookup_insert_self _ address record.fields⟩
    · exact absurd (Bindings.lookup_insert_of_ne same address record.fields) different

end NetworkRecord

/-- The stored record reads the same once the directory of the store has been made. -/
structure Steady (store : ArtifactStore) (network : Json) (files : FileTree)
    (record : NetworkRecord) : Prop where
  reads : store.read files network = .ok record
  readsMade : store.read (store.made files) network = .ok record
  storable : record.Storable

variable {store : ArtifactStore} {allowed : String → Prop} {network : Json}
  {record : NetworkRecord}

/-- A step extends the record, and after a step that answers it is steady again. -/
theorem StepRun.Lawful.extended {stepRun : StepRun} (lawful : stepRun.Lawful store allowed)
    (steady : Steady store stepRun.network stepRun.before record) :
    ∃ later, store.read stepRun.after stepRun.network = .ok later ∧
      record.Extends later [stepRun] ∧
      ∀ address, stepRun.answer = .ok address →
        Steady store stepRun.network stepRun.after later := by
  obtain ⟨network, step, before, answer, after, calls⟩ := stepRun
  cases lawful with
  | found reads populated => exact ⟨record, steady.reads, .refl _ _, fun _ _ => steady⟩
  | stopped vacant unanswered =>
      exact ⟨record, steady.reads, .refl _ _, fun _ answered => by simp at answered⟩
  | unsaved reads vacant given writes =>
      refine ⟨record, ?_, .refl _ _, fun _ answered => by simp at answered⟩
      exact (ArtifactStore.read_of_write_error writes).trans steady.readsMade
  | @deployed other text _ request reads vacant given writes =>
      obtain rfl := ArtifactStore.read_unique steady.reads reads
      obtain rfl : record.network = network := (ArtifactStore.read_legible reads).1
      have written := ArtifactStore.written_of_write writes
      have storable := steady.storable.put_string step.recordField text
      have back : store.read after record.network =
          .ok (record.put step.recordField (.string text)) :=
        written.read storable
      refine ⟨_, back, .put vacant (List.mem_singleton_self _) rfl, fun _ _ => ?_⟩
      exact ⟨back, by rw [written.made, back], storable⟩

namespace Rollout

variable {σ : Type} {rollout : Rollout σ}

theorem extends_stepHistory (gives : rollout.deployer.Gives allowed) (network : Json)
    (steps : List DeploymentStep) (state : RunState σ)
    (steady : Steady rollout.store network state.files record) :
    ∃ final, rollout.store.read
        (filesAfter state.files (rollout.stepHistory network steps state)) network = .ok final ∧
      record.Extends final (rollout.stepHistory network steps state) := by
  induction steps generalizing state record with
  | nil => exact ⟨record, steady.reads, .refl _ _⟩
  | cons step rest ih =>
      have effect := rollout.takeStep_effect gives network step state
      rw [stepHistory_cons]
      cases takes : rollout.watched.takeStep network step state.watch with
      | error fault later =>
          rw [takes] at effect
          have lawful : StepRun.Lawful rollout.store allowed ⟨network, step, state.files,
              .error fault, later.files, later.chain.calls⟩ :=
            effect
          obtain ⟨final, reads, grown, -⟩ := lawful.extended steady
          exact ⟨final, reads, grown⟩
      | ok address later =>
          rw [takes] at effect
          have lawful : StepRun.Lawful rollout.store allowed ⟨network, step, state.files,
              .ok address, later.files, later.chain.calls⟩ :=
            effect
          obtain ⟨middle, -, first, steadyLater⟩ := lawful.extended steady
          obtain ⟨final, reads, others⟩ := ih later.forget (steadyLater address rfl)
          exact ⟨final, reads, first.trans others⟩

/-- Let the record of a network be without doubles, and let it read the same now and once
the directory of the store has been made. However a run on the network ends, the record
still reads, as one that extends it: its fields come first and in the same order, the
populated ones have the same values, and a new or different field was vacant and has
the address that the call of its step gave. A field of no step is unchanged. -/
theorem record_only_grows (rollout : Rollout σ) (gives : rollout.deployer.Gives allowed)
    (network : Json) (steps : List DeploymentStep) (state : RunState σ) {start : NetworkRecord}
    (reads : rollout.store.read state.files network = .ok start)
    (readsMade : rollout.store.read (rollout.store.made state.files) network = .ok start)
    (floatFree : Json.FloatFree (.object start.fields)) :
    ∃ final, rollout.store.read (finalState (rollout.run network steps state)).files network =
        .ok final ∧
      start.Extends final (rollout.history network steps state) ∧
      (∀ stepRun ∈ rollout.history network steps state, stepRun.step ∈ steps) ∧
      ∀ field, (∀ step ∈ steps, step.recordField ≠ field) →
        final.fields.lookup field = start.fields.lookup field := by
  have steady : Steady rollout.store network state.files start :=
    ⟨reads, readsMade, (ArtifactStore.read_legible reads).2, floatFree⟩
  have lawful := rollout.lawful_history gives network steps state
  have grows : ∃ final, rollout.store.read
        (filesAfter state.files (rollout.history network steps state)) network = .ok final ∧
      start.Extends final (rollout.history network steps state) := by
    unfold history
    split
    · exact extends_stepHistory gives network steps state steady
    · exact ⟨start, reads, .refl _ _⟩
  obtain ⟨final, readsFinal, grown⟩ := grows
  rw [rollout.filesAfter_history network steps state] at readsFinal
  refine ⟨final, readsFinal, grown, fun stepRun member => (lawful stepRun member).2.2, ?_⟩
  intro field untouched
  by_cases same : final.fields.lookup field = start.fields.lookup field
  · exact same
  · obtain ⟨-, stepRun, member, sameField, -⟩ := grown.changed field same
    exact absurd sameField (untouched stepRun.step (lawful stepRun member).2.2)

/-- A record with a nested value that no step knows keeps it when a contract is added. -/
theorem record_only_grows_nested :
    ∃ files final,
      (ArtifactStore.ofText "records").read files (.string "pisco-1") =
          .ok ⟨.string "pisco-1", [("note", .array [.string "kept", .null])]⟩ ∧
        (ArtifactStore.ofText "records").read
            (finalState ((Launch.constant "pisco-1" "terra1contract" [.cw20Ics20]).run
              (.ofText "records") files)).files (.string "pisco-1") = .ok final ∧
        final.fields.lookup "note" = some (.array [.string "kept", .null]) := by
  have storable : (NetworkRecord.mk (.string "pisco-1")
      [("note", .array [.string "kept", .null])]).Storable := by
    constructor
    · apply Json.Legible.object (by simp [Members.keys])
      simp only [List.forall_mem_singleton]
      refine .array ?_
      simp only [List.forall_mem_cons]
      exact ⟨.string _, .null, by simp⟩
    · apply Json.FloatFree.object
      simp only [List.forall_mem_singleton]
      refine .array ?_
      simp only [List.forall_mem_cons]
      exact ⟨.string _, .null, by simp⟩
  have writable : (ArtifactStore.ofText "records").Writable (.string "pisco-1") .empty :=
    ⟨rfl, rfl, rfl, by decide +kernel, by decide +kernel⟩
  obtain ⟨files, writes, -⟩ := writable.write storable
  have written := ArtifactStore.written_of_write writes
  have reads := written.read storable
  obtain ⟨final, readsFinal, -, -, untouched⟩ := record_only_grows
    ((Launch.constant "pisco-1" "terra1contract" [.cw20Ics20]).rollout (.ofText "records"))
    (Deployer.gives_constant (fun _ => True) trivial) (.string "pisco-1") [.cw20Ics20]
    ((Launch.constant "pisco-1" "terra1contract" [.cw20Ics20]).start files) reads
    (by rw [← reads]; exact congrArg (ArtifactStore.read _ · _) written.made) storable.floatFree
  exact ⟨files, final, reads, readsFinal, untouched "note" (by decide)⟩

/-! ### A record that stops reading -/

/-- A network name of as many letters as wanted. -/
def longName (letters : Nat) : String := String.ofList (List.replicate letters 'n')

variable {letters : Nat}

theorem utf8ByteSize_longName (letters : Nat) : (longName letters).utf8ByteSize = letters := by
  induction letters with
  | zero => rfl
  | succ letters ih =>
      unfold longName at ih ⊢
      rw [List.replicate_succ, ← List.singleton_append, String.ofList_append,
        String.utf8ByteSize_append, ih, Nat.add_comm]
      rfl

theorem not_mem_longName {character : Char} (different : character ≠ 'n') :
    character ∉ (longName letters).toList := by
  intro inside
  rw [longName, String.toList_ofList] at inside
  exact different (List.eq_of_mem_replicate inside)

theorem acceptable_longName (short : letters < 4000) :
    Acceptable ((ArtifactStore.ofText "records").recordPath (.string (longName letters))) := by
  have path : (ArtifactStore.ofText "records").path = ⟨.relative, ["records"]⟩ := by
    decide +kernel
  have text : Path.toString ⟨.relative, [longName letters ++ ".json", "records"]⟩ =
      "records" ++ "/" ++ (longName letters ++ ".json") :=
    rfl
  rw [ArtifactStore.recordPath_of_plain _ (not_mem_longName (by decide)), path, Acceptable, text]
  constructor
  · simp [not_mem_longName]
  · simp only [String.utf8ByteSize_append, utf8ByteSize_longName, pathLimit]
    have sizes : "records".utf8ByteSize + "/".utf8ByteSize + ".json".utf8ByteSize = 13 := by decide
    omega

/-- After one step that deploys the directory of the store is there, saved or not. -/
theorem hasDirectory_of_deploys (rollout : Rollout σ) {step : DeploymentStep} {state : RunState σ}
    (made : makeDirectories rollout.store.path state.files = .ok () (rollout.store.made state.files))
    {multisig : Json} (set : rollout.configs.requireMultisig = .ok multisig)
    {record : NetworkRecord} {resolved : ResolvedContract} {address : Json} {chain : σ}
    (reads : rollout.store.read state.files network = .ok record)
    (vacant : record.get? step.recordField = none)
    (complete : step.missingDependencies record = [])
    (resolves : step.resolve rollout.configs record = .ok resolved)
    (deploys : rollout.deployer.deploy state.files (rollout.request step resolved)
      (rollout.announceStart step state.chain) = .ok address chain) :
    (finalState (rollout.run network [step] state)).files.HasDirectory rollout.store.path := by
  have there := ArtifactStore.hasDirectory_of_write made
    (record.put step.recordField address) record.network
  rw [rollout.finalState_run_of_multisig network [step] state set]
  cases writes : rollout.store.write (record.put step.recordField address) record.network
      state.files with
  | ok _ after =>
      have outcome := StepOutcome.deployed reads vacant complete resolves deploys writes
      rw [writes] at there
      rw [finalState_runSteps_of_ok outcome.eq]
      exact there
  | error fault after =>
      have outcome := StepOutcome.unsaved reads vacant complete resolves deploys writes
      rw [writes] at there
      rw [runSteps_of_error outcome.eq]
      exact there

/-- A record whose file name has 256 bytes reads before the run, because the directory of
the store is missing. The run makes the directory, and then the record does not read. -/
theorem not_read_after_run_of_longName :
    (∃ start, (ArtifactStore.ofText "records").read .empty (.string (longName 251)) = .ok start ∧
        Json.FloatFree (.object start.fields)) ∧
      (Launch.constant (longName 251) "terra1contract" [.cw20Ics20]).deployer.Gives
        (fun _ => True) ∧
      ∀ final, (ArtifactStore.ofText "records").read
          (finalState ((Launch.constant (longName 251) "terra1contract" [.cw20Ics20]).run
            (.ofText "records") .empty)).files (.string (longName 251)) ≠ .ok final := by
  have plain : '/' ∉ (longName 251).toList := not_mem_longName (by decide)
  have acceptable : Acceptable ((ArtifactStore.ofText "records").recordPath
      (.string (longName 251))) :=
    acceptable_longName (by decide)
  have reads : (ArtifactStore.ofText "records").read .empty (.string (longName 251)) =
      .ok (.empty (.string (longName 251))) :=
    ArtifactStore.read_of_missing plain acceptable rfl rfl
  have long : nameLimit < (longName 251 ++ ".json").utf8ByteSize := by
    have ending : ".json".utf8ByteSize = 5 := by decide
    rw [String.utf8ByteSize_append, utf8ByteSize_longName, ending]
    decide
  have made : makeDirectories (ArtifactStore.ofText "records").path .empty =
      .ok () ((ArtifactStore.ofText "records").made .empty) := by
    rfl
  have there : (finalState ((Launch.constant (longName 251) "terra1contract" [.cw20Ics20]).run
      (.ofText "records") .empty)).files.HasDirectory (ArtifactStore.ofText "records").path :=
    hasDirectory_of_deploys
      ((Launch.constant (longName 251) "terra1contract" [.cw20Ics20]).rollout
        (.ofText "records")) made rfl reads rfl rfl rfl rfl
  refine ⟨⟨_, reads, (NetworkRecord.storable_empty _).floatFree⟩,
    Deployer.gives_constant (fun _ => True) trivial, fun final => ?_⟩
  exact ArtifactStore.not_read_of_tooLong plain acceptable long there

end Rollout

end ContractRollout
