import ContractRollout.Proofs.Config.Chain
import ContractRollout.Proofs.Config.Defaults
import ContractRollout.Rollout.Step

/-!
# Init messages

The init message of a step has the keys of its configuration in their order, then those
that only its defaults have. What is configured stands. Where nothing is, the address of a
recorded dependency does, and where there is none, the multisig for the keys that it owns.
-/

namespace ContractRollout

namespace DeploymentStep

variable (step : DeploymentStep) (explicit : Members) (multisig : Json) (record : NetworkRecord)

/-- The address that the record offers for a key of the init message. If several dependencies
feed the key, it is that of the last one that is recorded. -/
def recordedAddress (key : String) : Option Json :=
  ((step.dependencies.filter (·.initKey = key)).filterMap fun dependency =>
    record.get? dependency.recordField).getLast?

/-- What the init message has under a key. -/
def messageValue (key : String) : Json :=
  if (explicit.value key).isUnset then
    match step.recordedAddress record key with
    | some address => address
    | none => if key ∈ step.multisigKeys then multisig else explicit.value key
  else explicit.value key

/-- The keys with a default, each where it comes first. -/
def defaultKeys : List String :=
  (step.multisigKeys
    ++ (step.dependencies.filter fun dependency => record.has dependency.recordField).map
      (·.initKey)).eraseDups

def messageKeys : List String :=
  explicit.keys ++ (step.defaultKeys record).filter (· ∉ explicit.keys)

/-- The init message of a step, key by key. -/
def message : Members :=
  (step.messageKeys explicit record).map fun key =>
    (key, step.messageValue explicit multisig record key)

/-- What recorded dependencies offer, each for its key. -/
def recordedOffers (dependencies : List Dependency) : Members :=
  dependencies.filterMap fun dependency =>
    (record.get? dependency.recordField).map (dependency.initKey, ·)

variable {step explicit multisig record}

theorem insertAll_owned (keys : List String) (collected : Members) :
    keys.foldl (fun defaults key => Members.insert key multisig defaults) collected =
      Members.insertAll collected (keys.map (·, multisig)) := by
  rw [Members.insertAll, List.foldl_map]

theorem insertAll_recorded (dependencies : List Dependency) (collected : Members) :
    dependencies.foldl
        (fun defaults dependency =>
          match record.get? dependency.recordField with
          | some address => Members.insert dependency.initKey address defaults
          | none => defaults)
        collected =
      Members.insertAll collected (recordedOffers record dependencies) := by
  induction dependencies generalizing collected with
  | nil => rfl
  | cons dependency dependencies ih =>
      rw [List.foldl_cons, ih, recordedOffers, recordedOffers]
      cases held : record.get? dependency.recordField with
      | none => rw [List.filterMap_cons_none (by simp [held])]
      | some address =>
          rw [List.filterMap_cons_some (by simp [held]; rfl)]
          rfl

theorem initDefaults_eq :
    step.initDefaults multisig record =
      Members.collect (step.multisigKeys.map (·, multisig)
        ++ recordedOffers record step.dependencies) := by
  unfold initDefaults
  dsimp only
  rw [insertAll_owned, Members.collect, List.foldl_append]
  exact insertAll_recorded step.dependencies _

theorem lastValue_owned (keys : List String) (key : String) :
    Members.lastValue (keys.map (·, multisig)) key =
      if key ∈ keys then some multisig else none := by
  induction keys with
  | nil => rfl
  | cons name keys ih =>
      rw [List.map_cons, ← List.singleton_append, Members.lastValue_append, ih]
      by_cases same : name = key
      · subst same
        by_cases later : name ∈ keys <;> simp [Members.lastValue, later]
      · have different : key ≠ name := Ne.symm same
        simp [Members.lastValue, same, different]

theorem lastValue_recorded (dependencies : List Dependency) (key : String) :
    Members.lastValue (recordedOffers record dependencies) key =
      ((dependencies.filter (·.initKey = key)).filterMap fun dependency =>
        record.get? dependency.recordField).getLast? := by
  unfold Members.lastValue recordedOffers
  congr 1
  induction dependencies with
  | nil => rfl
  | cons dependency dependencies ih =>
      by_cases same : dependency.initKey = key
      · cases held : record.get? dependency.recordField with
        | none => simpa [List.filterMap_cons, held, same] using ih
        | some address => simpa [List.filterMap_cons, held, same] using ih
      · cases held : record.get? dependency.recordField with
        | none => simpa [List.filterMap_cons, held, same] using ih
        | some address => simpa [List.filterMap_cons, held, same] using ih

theorem lookup_initDefaults (key : String) :
    (step.initDefaults multisig record).lookup key =
      (step.recordedAddress record key).or
        (if key ∈ step.multisigKeys then some multisig else none) := by
  rw [initDefaults_eq, Members.lookup_collect, Members.lastValue_append, lastValue_owned,
    lastValue_recorded]
  rfl

theorem keys_recordedOffers (dependencies : List Dependency) :
    (recordedOffers record dependencies).keys =
      (dependencies.filter fun dependency => record.has dependency.recordField).map
        (·.initKey) := by
  unfold recordedOffers
  induction dependencies with
  | nil => rfl
  | cons dependency dependencies ih =>
      cases held : record.get? dependency.recordField with
      | none => simpa [Members.keys, List.filterMap_cons, NetworkRecord.has, held] using ih
      | some address => simpa [Members.keys, List.filterMap_cons, NetworkRecord.has, held] using ih

theorem keys_initDefaults : (step.initDefaults multisig record).keys = step.defaultKeys record := by
  have owned : Members.keys (step.multisigKeys.map (·, multisig)) = step.multisigKeys := by
    rw [Members.keys, List.map_map]
    exact List.map_id _
  have split (first second : Members) :
      Members.keys (first ++ second) = first.keys ++ second.keys :=
    List.map_append
  rw [initDefaults_eq, Members.keys_collect, split, owned, keys_recordedOffers, defaultKeys]

theorem mem_initDefaults {default : String × Json}
    (member : default ∈ step.initDefaults multisig record) :
    default.2 = multisig ∨ ∃ field, record.get? field = some default.2 := by
  rw [initDefaults_eq] at member
  rcases List.mem_append.mp (Members.mem_of_mem_collect member) with owned | recorded
  · obtain ⟨key, -, rfl⟩ := List.mem_map.mp owned
    exact .inl rfl
  · obtain ⟨dependency, -, offered⟩ := List.mem_filterMap.mp recorded
    obtain ⟨address, held, rfl⟩ := Option.map_eq_some_iff.mp offered
    exact .inr ⟨dependency.recordField, held⟩

/-- Filling the defaults of a step into what is configured gives its init message. -/
theorem mergeDefaults_initDefaults (distinct : explicit.keys.Nodup)
    (set : multisig.isUnset = false) :
    explicit.mergeDefaults (step.initDefaults multisig record) =
      step.message explicit multisig record := by
  have defaultsSet : ∀ default ∈ step.initDefaults multisig record, default.2.isUnset = false := by
    intro default member
    rcases mem_initDefaults member with same | ⟨field, held⟩
    · rw [same, set]
    · exact Json.isUnset_of_truthy (NetworkRecord.get?_eq_some.mp held).2
  have distinctDefaults : (step.initDefaults multisig record).keys.Nodup := by
    rw [initDefaults_eq]
    exact Members.nodup_keys_collect _
  rw [Members.mergeDefaults_eq distinct defaultsSet distinctDefaults, keys_initDefaults, message,
    messageKeys]
  apply List.map_congr_left
  intro key _
  rw [messageValue, lookup_initDefaults]
  cases step.recordedAddress record key with
  | some address => rfl
  | none => by_cases owned : key ∈ step.multisigKeys <;> simp [owned]

/-- The defaults of a step are faithful where the multisig and the record are. -/
theorem faithful_initDefaults (faithful : multisig.Faithful)
    (faithfulRecord : Json.Faithful (.object record.fields)) :
    ∀ default ∈ step.initDefaults multisig record, Json.Faithful default.2 := by
  intro default member
  rcases mem_initDefaults member with same | ⟨field, held⟩
  · rwa [same]
  · rw [← (NetworkRecord.get?_eq_some.mp held).1]
    exact faithfulRecord.value field

theorem resolve_ok {configs : ChainConfigs} {resolved : ResolvedContract} :
    step.resolve configs record = .ok resolved ↔
      configs.multisig.isUnset = false ∧
        ∃ contract, configs.contract step.configKey = .ok contract ∧
          resolved =
            contract.resolve configs.multisig (step.initDefaults configs.multisig record) := by
  unfold resolve ChainConfigs.requireMultisig
  cases unset : configs.multisig.isUnset with
  | true => simp [bind, Except.bind]
  | false =>
      cases part : configs.contract step.configKey with
      | error fault => simp [bind, Except.bind]
      | ok contract => simp [bind, Except.bind, pure, Except.pure, eq_comm]

end DeploymentStep

end ContractRollout
