import ContractRollout.Proofs.Entry.Corruption
import ContractRollout.Proofs.Json.Grammar
import ContractRollout.Proofs.Rollout.Precedence

/-!
# Which chain configs are accepted

The file of the chain configs is accepted exactly if it spells an object whose sections are all
objects or blank. If one of them is not, the first such section in the order of the checks is
reported. Of an accepted file nothing counts but the values that are taken from it.

Nesting is unbounded, as it is for `Json.read`, and no key or text is meant to hold a lone
surrogate.
-/

namespace ContractRollout

/-! ### Sections -/

namespace Json

/-- A value that may stand for an object: one that is missing or blank, or an object. -/
def ObjectOrBlank (value : Json) : Prop :=
  value = .null ∨ value = .string "" ∨ ∃ members, value = .object members

theorem isUnset_iff {value : Json} :
    value.isUnset = true ↔ value = .null ∨ value = .string "" := by
  cases value <;> simp [isUnset]

/-- The value under some keys, one inside the other. -/
def under (value : Json) (keys : List String) : Json := keys.foldl fieldOr value

/-- The members of an object, and none of any other value. -/
def membersOrNone : Json → Members
  | object members => members
  | _ => []

end Json

theorem partMembers_of_fits {value : Json} (fits : value.ObjectOrBlank) (name : String) :
    partMembers value name = .ok value.membersOrNone := by
  rcases fits with rfl | rfl | ⟨members, rfl⟩ <;> rfl

theorem partMembers_of_misfit {value : Json} (misfit : ¬ value.ObjectOrBlank) (name : String) :
    partMembers value name = .error (.configuration (.partShape name value.kindName)) := by
  have set : ¬ value.isUnset = true := by
    intro unset
    rcases Json.isUnset_iff.mp unset with null | empty
    · exact misfit (.inl null)
    · exact misfit (.inr (.inl empty))
  unfold partMembers
  rw [if_neg set]
  cases value with
  | object members => exact absurd (.inr (.inr ⟨members, rfl⟩)) misfit
  | _ => rfl

namespace ChainConfigs

/-- The sections of the chain configs, each by the keys that lead to it, in the order in which they
are checked. -/
def sections : List (List String) :=
  [["generalInfo"], ["cw20_ics20"], ["cw20_ics20", "initMsg"], ["controller"],
    ["controller", "initMsg"], ["satellite"], ["satellite", "initMsg"]]

/-- The name of a section in messages. -/
def sectionName (keys : List String) : String := ".".intercalate keys

/-- The check of a section. -/
def checkSection (value : Json) (keys : List String) : Except Fault Unit :=
  (partMembers (value.under keys) (sectionName keys)).map fun _ => ()

theorem checkSection_of_fits {value : Json} {keys : List String}
    (fits : (value.under keys).ObjectOrBlank) : checkSection value keys = .ok () := by
  rw [checkSection, partMembers_of_fits fits]
  rfl

theorem checkSection_of_misfit {value : Json} {keys : List String}
    (misfit : ¬ (value.under keys).ObjectOrBlank) :
    checkSection value keys = .error (.configuration
      (.partShape (sectionName keys) (value.under keys).kindName)) := by
  rw [checkSection, partMembers_of_misfit misfit]
  rfl

/-- What is taken from the section of a contract. -/
def contractAt (value : Json) (key : String) : ContractConfig where
  admin := (value.under [key, "admin"]).orElse (.string "")
  label := (value.under [key, "label"]).orElse (.string "")
  initMessage := (value.under [key, "initMsg"]).membersOrNone

/-- What is taken from chain configs whose sections are in order. -/
def taken (value : Json) : ChainConfigs where
  multisig := (value.under ["generalInfo", "multisig"]).orElse (.string "")
  cw20Ics20 := contractAt value "cw20_ics20"
  controller := contractAt value "controller"
  satellite := contractAt value "satellite"

theorem ofJson_contract (value : Json) (key : String) :
    ContractConfig.ofJson (value.under [key]) key = (do
      checkSection value [key]
      checkSection value [key, "initMsg"]
      return contractAt value key) := by
  have nested (inner : String) : (value.under [key]).fieldOr inner = value.under [key, inner] := rfl
  have named : sectionName [key, "initMsg"] = key ++ ".initMsg" := by
    show key ++ "." ++ "initMsg" = key ++ ".initMsg"
    rw [String.append_assoc]
    rfl
  by_cases fits : (value.under [key]).ObjectOrBlank
  · have takes := partMembers_of_fits fits key
    have fields := value_partMembers takes
    simp only [nested] at fields
    rw [checkSection_of_fits fits]
    unfold ContractConfig.ofJson
    rw [takes]
    by_cases fitsMessage : (value.under [key, "initMsg"]).ObjectOrBlank
    · rw [checkSection_of_fits fitsMessage]
      simp only [bind, Except.bind, fields, partMembers_of_fits fitsMessage]
      rfl
    · rw [checkSection_of_misfit fitsMessage, named]
      simp only [bind, Except.bind, fields, partMembers_of_misfit fitsMessage]
  · rw [checkSection_of_misfit fits]
    unfold ContractConfig.ofJson
    rw [partMembers_of_misfit fits]
    rfl

/-- An object is taken after its sections are checked one after the other. -/
theorem ofJson_object (members : Members) :
    ofJson (.object members) = (do
      forM sections (checkSection (.object members))
      return taken (.object members)) := by
  have parts : ofJson (.object members) = (do
      let general ← partMembers ((Json.object members).under ["generalInfo"]) "generalInfo"
      let bridge ← ContractConfig.ofJson ((Json.object members).under ["cw20_ics20"]) "cw20_ics20"
      let controller ← ContractConfig.ofJson ((Json.object members).under ["controller"]) "controller"
      let satellite ← ContractConfig.ofJson ((Json.object members).under ["satellite"]) "satellite"
      return ⟨(general.value "multisig").orElse (.string ""), bridge, controller, satellite⟩) :=
    rfl
  simp only [parts, ofJson_contract, sections, List.forM_cons, List.forM_nil]
  by_cases fits : ((Json.object members).under ["generalInfo"]).ObjectOrBlank
  · have takes := partMembers_of_fits fits "generalInfo"
    rw [takes, checkSection_of_fits fits]
    simp only [bind_assoc, pure_bind, ok_bind, value_partMembers takes]
    rfl
  · rw [partMembers_of_misfit fits, checkSection_of_misfit fits]
    rfl

/-! ### The first section that is not in order -/

variable {members : Members}

theorem ofJson_of_fits (fits : ∀ keys ∈ sections, ((Json.object members).under keys).ObjectOrBlank) :
    ofJson (.object members) = .ok (taken (.object members)) := by
  rw [ofJson_object, forM_eq_ok.mpr fun keys member => checkSection_of_fits (fits keys member)]
  rfl

theorem ofJson_of_misfit {before after : List (List String)} {keys : List String}
    (split : sections = before ++ keys :: after)
    (earlier : ∀ other ∈ before, ((Json.object members).under other).ObjectOrBlank)
    (misfit : ¬ ((Json.object members).under keys).ObjectOrBlank) :
    ofJson (.object members) = .error (.configuration
      (.partShape (sectionName keys) ((Json.object members).under keys).kindName)) := by
  rw [ofJson_object, split, forM_of_first_error
    (fun other member => checkSection_of_fits (earlier other member))
    (checkSection_of_misfit misfit)]
  rfl

theorem fits_of_ofJson {configs : ChainConfigs} (takes : ofJson (.object members) = .ok configs) :
    ∀ keys ∈ sections, ((Json.object members).under keys).ObjectOrBlank := by
  rw [ofJson_object] at takes
  obtain ⟨⟨⟩, passes, -⟩ := bind_eq_ok.mp takes
  intro keys member
  by_contra misfit
  have passed := forM_eq_ok.mp passes keys member
  simp [checkSection_of_misfit misfit] at passed

/-! ### Loading -/

theorem holdsObject_iff {bytes : ByteArray} :
    (Entry.file bytes).HoldsObject members ↔
      ∃ text, fileText? bytes = some text ∧ Json.SpelledBy (.object members) text := by
  simp only [← Json.read_iff]
  unfold Entry.HoldsObject Json.ofBytes
  constructor
  · rintro ⟨held, same, decoded⟩
    obtain rfl := Entry.file.inj same
    cases decodes : fileText? bytes with
    | none => simp [decodes] at decoded
    | some text =>
        rw [decodes] at decoded
        exact ⟨text, rfl, mapError_eq_ok.mp decoded⟩
  · rintro ⟨text, decodes, reads⟩
    refine ⟨bytes, rfl, ?_⟩
    rw [decodes]
    exact mapError_eq_ok.mpr reads

variable {files : FileTree} {environment : Environment} {given : Option String} {entry : Entry}
  {configs : ChainConfigs}

theorem holdsObject_of_load (stands : files.find? (path environment given) = .ok (some entry))
    (loads : load files environment given = .ok configs) :
    ∃ members, entry.HoldsObject members := by
  by_contra none
  have corrupt : entry.Corrupt := fun members holds => none ⟨members, holds⟩
  have opens := opens_load stands
  by_cases unexplained : entry.Unexplained
  · obtain ⟨fault, fails, -⟩ := opens.unexplained unexplained
    simp [fails] at loads
  · obtain ⟨cause, fails, -⟩ := opens.refused corrupt unexplained
    simp [fails] at loads

theorem configuration_of_load {fault : Fault}
    (stands : files.find? (path environment given) = .ok (some entry))
    (explained : ¬ entry.Unexplained) (fails : load files environment given = .error fault) :
    ∃ cause, fault = .configuration cause := by
  have opens := opens_load stands
  by_cases corrupt : entry.Corrupt
  · obtain ⟨cause, refuses, -⟩ := opens.refused corrupt explained
    exact ⟨cause, Except.error.inj (fails.symm.trans refuses)⟩
  · obtain ⟨members, holds⟩ := not_forall_not.mp corrupt
    rw [opens.object members holds] at fails
    exact ofJson_error fails

/-- With a multisig that is truthy, that multisig is given. -/
theorem requireMultisig_taken (value : Json) :
    let multisig := value.under ["generalInfo", "multisig"]
    (taken value).requireMultisig =
      if multisig.isTruthy then .ok multisig else .error (.configuration .multisigMissing) := by
  dsimp only
  unfold requireMultisig taken
  rw [Json.isUnset_orElse_empty]
  by_cases truthy : (value.under ["generalInfo", "multisig"]).isTruthy = true
  · simp [truthy, Json.orElse]
  · simp [truthy]

/-- The file of the chain configs is accepted exactly if it is a text that spells an object, and all
sections of this object are objects or blank. All other files are refused with a configuration fault,
apart from those that are not UTF-8 or go on with an integer of too many digits where reading
stops. The fault names the first section that is not in order, if the text spells an object. Of an
accepted file its multisig, and the admin, the label and the init message of each contract are
taken, and it has a multisig exactly if the multisig is truthy. Nesting is unbounded. -/
theorem load_accepts_exactly {bytes : ByteArray}
    (stands : files.find? (path environment given) = .ok (some (.file bytes))) :
    ((∃ configs, load files environment given = .ok configs) ↔
      ∃ text members, fileText? bytes = some text ∧ Json.SpelledBy (.object members) text ∧
        ∀ keys ∈ sections, ((Json.object members).under keys).ObjectOrBlank) ∧
    (¬ (Entry.file bytes).Unexplained → ∀ fault, load files environment given = .error fault →
      ∃ cause, fault = .configuration cause) ∧
    ∀ text members, fileText? bytes = some text → Json.SpelledBy (.object members) text →
      (∀ before keys after, sections = before ++ keys :: after →
        (∀ other ∈ before, ((Json.object members).under other).ObjectOrBlank) →
        ¬ ((Json.object members).under keys).ObjectOrBlank →
        ∃ cause, load files environment given = .error (.configuration cause) ∧
          cause.message = "Chain configs: " ++ sectionName keys ++ " must be an object, got " ++
            ((Json.object members).under keys).kindName) ∧
      ∀ configs, load files environment given = .ok configs →
        configs = taken (.object members) ∧
        let multisig := (Json.object members).under ["generalInfo", "multisig"]
        configs.requireMultisig =
          if multisig.isTruthy then .ok multisig else .error (.configuration .multisigMissing) := by
  have goes (members : Members) (holds : (Entry.file bytes).HoldsObject members) :
      load files environment given = ofJson (.object members) :=
    (opens_load stands).object members holds
  refine ⟨⟨?returns, ?accepts⟩, fun explained fault => configuration_of_load stands explained, ?object⟩
  case returns =>
    rintro ⟨configs, loads⟩
    obtain ⟨members, holds⟩ := holdsObject_of_load stands loads
    obtain ⟨text, decodes, spelled⟩ := holdsObject_iff.mp holds
    exact ⟨text, members, decodes, spelled, fits_of_ofJson ((goes members holds).symm.trans loads)⟩
  case accepts =>
    rintro ⟨text, members, decodes, spelled, fits⟩
    exact ⟨_, (goes members (holdsObject_iff.mpr ⟨text, decodes, spelled⟩)).trans
      (ofJson_of_fits fits)⟩
  case object =>
    intro text members decodes spelled
    rw [goes members (holdsObject_iff.mpr ⟨text, decodes, spelled⟩)]
    constructor
    · intro before keys after split earlier misfit
      exact ⟨_, ofJson_of_misfit split earlier misfit, rfl⟩
    · intro configs takes
      obtain rfl := Except.ok.inj (takes.symm.trans (ofJson_of_fits (fits_of_ofJson takes)))
      exact ⟨rfl, requireMultisig_taken _⟩

/-- Chain configs with a multisig, and a contract whose part is blank. -/
def ownedFile : ByteArray := String.toUTF8
  "\x7b\"generalInfo\": \x7b\"multisig\": \"terra1owner\"\x7d, \"satellite\": \"\"\x7d\n"

def ownedTree : FileTree := .put .empty (Place.working.child "configs.json") (.file ownedFile)

/-- The configs with a multisig are accepted. -/
theorem load_accepts_exactly_owned :
    ownedTree.find? (path [] (some "configs.json")) = .ok (some (.file ownedFile)) ∧
    ∃ text members configs, fileText? ownedFile = some text ∧
      Json.SpelledBy (.object members) text ∧
      load ownedTree [] (some "configs.json") = .ok configs ∧ configs = taken (.object members) := by
  have stands : ownedTree.find? (path [] (some "configs.json")) = .ok (some (.file ownedFile)) := by
    have spot : path [] (some "configs.json") = ⟨.relative, ["configs.json"]⟩ := by decide +kernel
    rw [spot]
    rfl
  have works : (load ownedTree [] (some "configs.json")).isOk = true := by decide +kernel
  obtain ⟨accepts, -, object⟩ := load_accepts_exactly stands
  cases loads : load ownedTree [] (some "configs.json") with
  | error fault => simp [loads, Except.isOk, Except.toBool] at works
  | ok configs =>
      obtain ⟨text, members, decodes, spelled, -⟩ := accepts.mp ⟨configs, loads⟩
      exact ⟨stands, text, members, configs, decodes, spelled, rfl,
        ((object text members decodes spelled).2 configs loads).1⟩

end ChainConfigs

end ContractRollout
