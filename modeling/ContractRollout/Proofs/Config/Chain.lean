import ContractRollout.Config.Chain
import ContractRollout.Proofs.Record.Store

/-!
# Loaded configurations

What is loaded comes from one document. Its init messages and its multisig are faithful, and
the multisig and each admin count as present unless they are not set.
-/

namespace ContractRollout

theorem Json.isUnset_of_truthy {value : Json} (truthy : value.isTruthy = true) :
    value.isUnset = false := by
  cases value <;> simp_all [isTruthy, isUnset]

/-- A setting that counts as present unless it is not set. -/
def Json.PresentIfSet (value : Json) : Prop := value.isUnset = false → value.isTruthy = true

theorem Json.presentIfSet_orElse_empty (value : Json) : (value.orElse (.string "")).PresentIfSet := by
  unfold Json.PresentIfSet Json.orElse
  split
  · rename_i truthy
    exact fun _ => truthy
  · intro set
    simp [isUnset] at set

theorem Json.Faithful.orElse {value other : Json} (faithful : Faithful value)
    (faithfulOther : Faithful other) : Faithful (value.orElse other) := by
  unfold Json.orElse
  split
  · exact faithful
  · exact faithfulOther

structure ContractConfig.Loaded (config : ContractConfig) : Prop where
  initMessage : Json.Faithful (.object config.initMessage)
  admin : config.admin.PresentIfSet

structure ChainConfigs.Loaded (configs : ChainConfigs) : Prop where
  multisig : Json.Faithful configs.multisig
  present : configs.multisig.PresentIfSet
  parts : ∀ part, (configs.part part).Loaded

theorem faithful_partMembers {value : Json} {name : String} {members : Members}
    (faithful : Json.Faithful value) (takes : partMembers value name = .ok members) :
    Json.Faithful (.object members) := by
  unfold partMembers at takes
  split at takes
  · obtain rfl : [] = members := Except.ok.inj takes
    exact .object List.nodup_nil (by simp)
  · split at takes
    · obtain rfl := Except.ok.inj takes
      exact faithful
    · simp at takes

theorem ContractConfig.ofJson_loaded {value : Json} {name : String} {config : ContractConfig}
    (faithful : Json.Faithful value) (takes : ContractConfig.ofJson value name = .ok config) :
    config.Loaded := by
  obtain ⟨members, takesMembers, takes⟩ := bind_eq_ok.mp takes
  obtain ⟨initMessage, takesMessage, same⟩ := bind_eq_ok.mp takes
  obtain rfl := Except.ok.inj same
  have faithfulMembers := faithful_partMembers faithful takesMembers
  exact ⟨faithful_partMembers (faithfulMembers.value "initMsg") takesMessage,
    Json.presentIfSet_orElse_empty _⟩

theorem ChainConfigs.ofJson_loaded {value : Json} {configs : ChainConfigs}
    (faithful : Json.Faithful value) (takes : ChainConfigs.ofJson value = .ok configs) :
    configs.Loaded := by
  obtain ⟨members, takesMembers, takes⟩ := bind_eq_ok.mp takes
  obtain ⟨general, takesGeneral, takes⟩ := bind_eq_ok.mp takes
  obtain ⟨cw20Ics20, takesBridge, takes⟩ := bind_eq_ok.mp takes
  obtain ⟨controller, takesController, takes⟩ := bind_eq_ok.mp takes
  obtain ⟨satellite, takesSatellite, same⟩ := bind_eq_ok.mp takes
  obtain rfl := Except.ok.inj same
  have faithfulMembers : Json.Faithful (.object members) := by
    cases value with
    | object held =>
        obtain rfl : held = members := Except.ok.inj takesMembers
        exact faithful
    | _ => simp [Json.asMembers] at takesMembers
  have faithfulGeneral := faithful_partMembers (faithfulMembers.value "generalInfo") takesGeneral
  refine ⟨(faithfulGeneral.value "multisig").orElse (.string ""), Json.presentIfSet_orElse_empty _, ?_⟩
  intro part
  cases part with
  | cw20Ics20 => exact ContractConfig.ofJson_loaded (faithfulMembers.value _) takesBridge
  | controller => exact ContractConfig.ofJson_loaded (faithfulMembers.value _) takesController
  | satellite => exact ContractConfig.ofJson_loaded (faithfulMembers.value _) takesSatellite

theorem ChainConfigs.load_loaded {tree : FileTree} {environment : Environment}
    {given : Option String} {configs : ChainConfigs}
    (loads : ChainConfigs.load tree environment given = .ok configs) : configs.Loaded := by
  obtain ⟨found, -, loads⟩ := bind_eq_ok.mp loads
  cases found with
  | false => simp [throw, throwThe, MonadExceptOf.throw, bind, Except.bind] at loads
  | true =>
      obtain ⟨-, -, loads⟩ := bind_eq_ok.mp loads
      obtain ⟨value, document, loads⟩ := bind_eq_ok.mp loads
      obtain ⟨bytes, -, holds⟩ := FileTree.document_ok.mp (mapError_eq_ok.mp document)
      cases value with
      | object members => exact ofJson_loaded (Json.ofBytes_faithful holds) loads
      | _ => simp [throw, throwThe, MonadExceptOf.throw] at loads

theorem ChainConfigs.load_of_document {tree : FileTree} {environment : Environment}
    {given : Option String} {members : Members}
    (found : tree.holds (path environment given) = .ok true)
    (document : tree.document (path environment given) = .ok (.object members)) :
    ChainConfigs.load tree environment given = ChainConfigs.ofJson (.object members) := by
  simp [load, found, document, Except.mapError, bind, Except.bind]

/-- The part of a contract is one of the parts. -/
theorem ChainConfigs.contract_ok {configs : ChainConfigs} {key : String} {contract : ContractConfig}
    (takes : configs.contract key = .ok contract) : ∃ part, contract = configs.part part := by
  unfold ChainConfigs.contract at takes
  split at takes
  · rename_i part _
    exact ⟨part, (Except.ok.inj takes).symm⟩
  · simp at takes

end ContractRollout
