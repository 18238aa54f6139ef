import ContractRollout.Proofs.Chain.Attribute
import ContractRollout.Proofs.Rollout.InitMessage

/-!
# Where the parameters of a step come from

What is configured comes first, then the address of a recorded dependency, then the multisig.
Here this is followed back to the value that the chain configs are made of.
-/

namespace ContractRollout

/-! ### Chain configs and the value that they are made of -/

/-- The init message that a value configures for a contract. -/
def ConfigPart.configuredMessage (part : ConfigPart) (value : Json) : Members :=
  ((value.fieldOr part.key).fieldOr "initMsg").asMembers.toOption.getD []

theorem partMembers_eq {value : Json} {name : String} {members : Members}
    (takes : partMembers value name = .ok members) :
    members = value.asMembers.toOption.getD [] := by
  unfold partMembers at takes
  split at takes
  · rename_i unset
    obtain rfl : [] = members := Except.ok.inj takes
    cases value <;> simp_all [Json.isUnset, Json.asMembers, Except.toOption]
  · split at takes
    · exact (Except.ok.inj takes).symm
    · simp at takes

/-- A part of the configuration has the fields of the value that it is made of. -/
theorem value_partMembers {value : Json} {name : String} {members : Members}
    (takes : partMembers value name = .ok members) (key : String) :
    members.value key = value.fieldOr key := by
  rw [partMembers_eq takes]
  cases value <;> rfl

theorem ContractConfig.ofJson_eq {value : Json} {name : String} {config : ContractConfig}
    (takes : ContractConfig.ofJson value name = .ok config) :
    config.admin = (value.fieldOr "admin").orElse (.string "") ∧
      config.initMessage = (value.fieldOr "initMsg").asMembers.toOption.getD [] := by
  obtain ⟨members, takesMembers, takes⟩ := bind_eq_ok.mp takes
  obtain ⟨initMessage, takesMessage, same⟩ := bind_eq_ok.mp takes
  obtain rfl := Except.ok.inj same
  rw [value_partMembers takesMembers] at takesMessage
  exact ⟨congrArg (·.orElse (.string "")) (value_partMembers takesMembers "admin"),
    partMembers_eq takesMessage⟩

theorem ChainConfigs.ofJson_eq {value : Json} {configs : ChainConfigs}
    (takes : ChainConfigs.ofJson value = .ok configs) :
    configs.multisig = ((value.fieldOr "generalInfo").fieldOr "multisig").orElse (.string "") ∧
      ∀ part, ContractConfig.ofJson (value.fieldOr part.key) part.key =
        .ok (configs.part part) := by
  obtain ⟨members, takesMembers, takes⟩ := bind_eq_ok.mp takes
  obtain ⟨general, takesGeneral, takes⟩ := bind_eq_ok.mp takes
  obtain ⟨cw20Ics20, takesBridge, takes⟩ := bind_eq_ok.mp takes
  obtain ⟨controller, takesController, takes⟩ := bind_eq_ok.mp takes
  obtain ⟨satellite, takesSatellite, same⟩ := bind_eq_ok.mp takes
  obtain rfl := Except.ok.inj same
  have fields (key : String) : members.value key = value.fieldOr key := by
    cases value with
    | object held =>
        obtain rfl : held = members := Except.ok.inj takesMembers
        rfl
    | _ => simp [Json.asMembers] at takesMembers
  simp only [fields] at takesGeneral takesBridge takesController takesSatellite
  refine ⟨congrArg (·.orElse (.string "")) (value_partMembers takesGeneral "multisig"), ?_⟩
  intro part
  cases part with
  | cw20Ics20 => exact takesBridge
  | controller => exact takesController
  | satellite => exact takesSatellite

theorem ChainConfigs.contract_key (configs : ChainConfigs) (part : ConfigPart) :
    configs.contract part.key = .ok (configs.part part) := by
  cases part <;> rfl

theorem Json.isUnset_orElse_empty (value : Json) :
    (value.orElse (.string "")).isUnset = !value.isTruthy := by
  unfold Json.orElse
  split
  · rename_i truthy
    rw [Json.isUnset_of_truthy truthy, truthy]
    rfl
  · rename_i blank
    rw [eq_false_of_ne_true blank]
    rfl

theorem Json.Distinct.fieldOr {value : Json} (distinct : value.Distinct) (key : String) :
    (value.fieldOr key).Distinct := by
  cases distinct with
  | @object members unique each =>
      have held : (Json.object members).fieldOr key = members.value key := rfl
      rw [held, Members.value]
      cases found : members.lookup key with
      | none => exact .null
      | some value =>
          obtain ⟨before, after, split, -⟩ := List.lookup_eq_some_iff.mp found
          exact each (key, value) (by simp [split])
  | _ => exact .null

theorem ConfigPart.nodup_configuredMessage (part : ConfigPart) {value : Json}
    (distinct : value.Distinct) : (part.configuredMessage value).keys.Nodup := by
  have message := (distinct.fieldOr part.key).fieldOr "initMsg"
  unfold configuredMessage
  cases held : (value.fieldOr part.key).fieldOr "initMsg" with
  | object members =>
      rw [held] at message
      cases message with
      | object unique _ => exact unique
  | _ => exact List.nodup_nil

/-! ### The init message key by key -/

namespace Members

theorem lookup_map_keys (keys : List String) (value : String → Json) (key : String) :
    (keys.map fun key => (key, value key)).lookup key =
      if key ∈ keys then some (value key) else none := by
  induction keys with
  | nil => rfl
  | cons name keys ih =>
      rw [List.map_cons, List.lookup_cons, ih]
      by_cases same : key = name
      · simp [same]
      · have apart : (key == name) = false := by simpa using same
        simp [same, apart]

theorem mem_keys_iff {members : Members} {key : String} :
    key ∈ members.keys ↔ (members.lookup key).isSome = true := by
  induction members with
  | nil => simp [keys]
  | cons member members ih =>
      have split : keys (member :: members) = member.1 :: keys members := rfl
      rw [split, List.mem_cons, ih, List.lookup_cons]
      by_cases same : key = member.1
      · simp [same]
      · have apart : (key == member.1) = false := by simpa using same
        simp [same, apart]

end Members

namespace DeploymentStep

variable {step : DeploymentStep} {explicit : Members} {multisig : Json} {record : NetworkRecord}

theorem mem_defaultKeys {key : String} :
    key ∈ step.defaultKeys record ↔
      (step.recordedAddress record key).isSome = true ∨ key ∈ step.multisigKeys := by
  rw [← @keys_initDefaults step .null record, Members.mem_keys_iff, lookup_initDefaults]
  by_cases owned : key ∈ step.multisigKeys <;> simp [owned]

theorem mem_messageKeys {key : String} :
    key ∈ step.messageKeys explicit record ↔
      key ∈ explicit.keys ∨ key ∈ step.defaultKeys record := by
  rw [messageKeys, List.mem_append, List.mem_filter]
  by_cases bound : key ∈ explicit.keys <;> simp [bound]

/-- A key of the init message stands as configured if it is set there, and else has the address
that the record offers, or the multisig, or what is configured if there is no default. -/
theorem lookup_message (key : String) :
    (step.message explicit multisig record).lookup key =
      if (explicit.value key).isUnset then
        match step.recordedAddress record key with
        | some address => some address
        | none => if key ∈ step.multisigKeys then some multisig else explicit.lookup key
      else explicit.lookup key := by
  have bound : explicit.lookup key =
      if key ∈ explicit.keys then some (explicit.value key) else none := by
    simp only [Members.mem_keys_iff, Members.value]
    cases explicit.lookup key <;> rfl
  simp only [message, Members.lookup_map_keys, messageValue, mem_messageKeys, mem_defaultKeys, bound]
  by_cases unset : (explicit.value key).isUnset = true
  · rw [if_pos unset, if_pos unset]
    cases step.recordedAddress record key with
    | some address => simp
    | none => by_cases owned : key ∈ step.multisigKeys <;> simp [owned]
  · have set : key ∈ explicit.keys := by
      by_contra unbound
      exact unset (by rw [Members.value_of_not_mem unbound]; rfl)
    simp [unset, set]

theorem keys_message :
    (step.message explicit multisig record).keys = step.messageKeys explicit record := by
  rw [message, Members.keys, List.map_map]
  exact List.map_id _

/-- Where the parameters of a step come from. Without a multisig there are none. With one, the
admin is the configured one if that counts as present, and else the multisig. A key of the init
message has what is configured if that is set, and else the address of the last dependency for it
that is recorded, and else the multisig if it is a key of the multisig. The configured keys come
first, and those that only have a default follow, the keys of the multisig before those of
recorded dependencies. -/
theorem resolve_precedence (step : DeploymentStep) {part : ConfigPart}
    (configured : step.configKey = part.key) {value : Json} (distinct : value.Distinct)
    {configs : ChainConfigs} (takes : ChainConfigs.ofJson value = .ok configs)
    (record : NetworkRecord) :
    let multisig := (value.fieldOr "generalInfo").fieldOr "multisig"
    let admin := (value.fieldOr part.key).fieldOr "admin"
    let explicit := part.configuredMessage value
    (multisig.isTruthy = false →
      step.resolve configs record = .error (.configuration .multisigMissing)) ∧
    (multisig.isTruthy = true → ∃ resolved, step.resolve configs record = .ok resolved ∧
      resolved.admin = (if admin.isTruthy then admin else multisig) ∧
      (∀ key, resolved.initMessage.lookup key =
        if (explicit.value key).isUnset then
          match ((step.dependencies.filter (·.initKey = key)).filterMap fun dependency =>
            record.get? dependency.recordField).getLast? with
          | some address => some address
          | none => if key ∈ step.multisigKeys then some multisig else explicit.lookup key
        else explicit.lookup key) ∧
      resolved.initMessage.keys = explicit.keys ++
        ((step.multisigKeys ++ (step.dependencies.filter fun dependency =>
          record.has dependency.recordField).map (·.initKey)).eraseDups).filter
            (· ∉ explicit.keys)) := by
  intro multisig admin explicit
  obtain ⟨fromGeneral, fromParts⟩ := ChainConfigs.ofJson_eq takes
  obtain ⟨adminFrom, messageFrom⟩ := ContractConfig.ofJson_eq (fromParts part)
  constructor
  · intro blank
    have missing : configs.multisig.isUnset = true := by
      rw [fromGeneral, Json.isUnset_orElse_empty, blank]
      rfl
    unfold resolve ChainConfigs.requireMultisig
    rw [if_pos missing]
    rfl
  · intro present
    have held : configs.multisig = multisig := by rw [fromGeneral, Json.orElse, if_pos present]
    have set : multisig.isUnset = false := Json.isUnset_of_truthy present
    have contract : configs.contract step.configKey = .ok (configs.part part) := by
      rw [configured, ChainConfigs.contract_key]
    have merged : (configs.part part).initMessage.mergeDefaults
        (step.initDefaults configs.multisig record) = step.message explicit multisig record := by
      rw [messageFrom, held]
      exact mergeDefaults_initDefaults (part.nodup_configuredMessage distinct) set
    refine ⟨_, resolve_ok.mpr ⟨held ▸ set, _, contract, rfl⟩, ?_, ?_, ?_⟩
    · rw [ContractConfig.resolve, adminFrom, Json.isUnset_orElse_empty, held]
      by_cases truthy : admin.isTruthy = true
      · simp [admin, Json.orElse, truthy]
      · simp [admin, truthy]
    · intro key
      rw [ContractConfig.resolve, merged]
      exact lookup_message key
    · rw [ContractConfig.resolve, merged]
      exact keys_message

/-- Chain configs for one contract, with a key of each sort: set, null and blank. -/
def sparseConfigs : Json :=
  .object [
    ("generalInfo", .object [("multisig", .string "terra1multisig")]),
    ("satellite", .object [
      ("admin", .string ""),
      ("initMsg", .object [("timeout", .integer 0), ("owner", .null), ("channel", .string "")])])]

/-- A step whose defaults overlap. -/
def overlappingStep : DeploymentStep where
  name := "Satellite"
  recordField := "satelliteAddress"
  wasmFile := "astro_satellite.wasm"
  configKey := "satellite"
  dependencies := [
    { name := "Assembly", recordField := "assemblyAddress", initKey := "owner" },
    { name := "Controller", recordField := "controllerAddress", initKey := "owner" },
    { name := "Governance", recordField := "governanceAddress", initKey := "owner" },
    { name := "Assembly", recordField := "assemblyAddress", initKey := "timeout" },
    { name := "Assembly", recordField := "assemblyAddress", initKey := "assembly" }]
  multisigKeys := ["guardian", "owner", "guardian"]

def partialRecord : NetworkRecord where
  network := .string "pisco-1"
  fields := [
    ("assemblyAddress", .string "terra1assembly"),
    ("controllerAddress", .string "terra1controller"),
    ("governanceAddress", .string "")]

theorem distinct_sparseConfigs : sparseConfigs.Distinct := by
  refine .object (by decide) fun member found => ?_
  simp only [List.mem_cons, List.not_mem_nil, or_false] at found
  rcases found with rfl | rfl
  · refine .object (by decide) fun member found => ?_
    obtain rfl := List.mem_singleton.mp found
    exact .string _
  · refine .object (by decide) fun member found => ?_
    simp only [List.mem_cons, List.not_mem_nil, or_false] at found
    rcases found with rfl | rfl
    · exact .string _
    · refine .object (by decide) fun member found => ?_
      simp only [List.mem_cons, List.not_mem_nil, or_false] at found
      rcases found with rfl | rfl | rfl
      · exact .number _
      · exact .null
      · exact .string _

/-- Zero counts as configured, the second dependency for the owner counts although the third one
comes later, the guardian is the multisig, and the channel stays blank. -/
theorem resolve_precedence_overlapping :
    overlappingStep.configKey = ConfigPart.satellite.key ∧ sparseConfigs.Distinct ∧
    ∃ configs, ChainConfigs.ofJson sparseConfigs = .ok configs ∧
      ∃ resolved, overlappingStep.resolve configs partialRecord = .ok resolved ∧
        resolved.admin = .string "terra1multisig" ∧
        resolved.initMessage.lookup "timeout" = some (.integer 0) ∧
        resolved.initMessage.lookup "owner" = some (.string "terra1controller") ∧
        resolved.initMessage.lookup "guardian" = some (.string "terra1multisig") ∧
        resolved.initMessage.lookup "channel" = some (.string "") ∧
        resolved.initMessage.lookup "admin" = none ∧
        resolved.initMessage.keys = ["timeout", "owner", "channel", "guardian", "assembly"] := by
  have configured : overlappingStep.configKey = ConfigPart.satellite.key := rfl
  obtain ⟨-, resolves⟩ :=
    resolve_precedence overlappingStep configured distinct_sparseConfigs rfl partialRecord
  obtain ⟨resolved, works, admin, lookup, keys⟩ := resolves rfl
  exact ⟨configured, distinct_sparseConfigs, _, rfl, resolved, works, admin, lookup _, lookup _, lookup _,
    lookup _, lookup _, keys⟩

end DeploymentStep

end ContractRollout
