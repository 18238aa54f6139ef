import ContractRollout.Proofs.Config.Defaults

/-!
# Layers of defaults

Filling in defaults looks a key up in one layer after the other: what is set above stands, and
what is null or blank, or not there at all, lets the layer below show through. Once defaults are
filled in, filling them in again changes nothing, and of three layers any two neighbours may be
put together first. The values in the layers may be nested to any depth.
-/

namespace ContractRollout

namespace Members

variable {explicit defaults first second members merged : Members} {key name : String} {value : Json}

/-! ### One default -/

theorem fill_of_blank (blank : value.isUnset = true) : merged.fill name value = merged := by
  rw [fill, if_pos blank]

theorem fill_of_set (held : (merged.value name).isUnset = false) :
    merged.fill name value = merged := by
  unfold fill
  split
  · rfl
  · simp [held]

theorem lookup_fill_self :
    (merged.fill name value).lookup name =
      if value.isUnset = false ∧ (merged.value name).isUnset = true then some value
      else merged.lookup name := by
  unfold fill
  by_cases blank : value.isUnset = true
  · simp [blank]
  · by_cases held : (merged.value name).isUnset = true
    · simp [blank, held, insert]
    · simp [blank, held]

theorem lookup_fill_of_ne (different : key ≠ name) :
    (merged.fill name value).lookup key = merged.lookup key := by
  unfold fill
  split
  · rfl
  · split
    · exact Bindings.lookup_insert_of_ne different value merged
    · rfl

/-! ### Layers -/

/-- A key has what is set above, else what is set below, else what it had above. -/
theorem lookup_mergeDefaults (distinct : defaults.keys.Nodup) (key : String) :
    (explicit.mergeDefaults defaults).lookup key =
      if (explicit.value key).isUnset then
        if (defaults.value key).isUnset then explicit.lookup key else defaults.lookup key
      else explicit.lookup key := by
  induction defaults generalizing explicit with
  | nil =>
      have absent : (Members.value [] key).isUnset = true := rfl
      simp [mergeDefaults, absent]
  | cons default rest ih =>
      obtain ⟨name, value⟩ := default
      have apart : name ∉ keys rest ∧ (keys rest).Nodup := List.nodup_cons.mp distinct
      have later := @ih (explicit.fill name value) apart.2
      rw [mergeDefaults] at later
      rw [mergeDefaults, List.foldl_cons, later]
      by_cases same : key = name
      · -- The key is not among the other defaults, so they leave it as this one does.
        subst same
        have absent : (Members.value rest key).isUnset = true := by
          rw [value_of_not_mem apart.1]
          rfl
        have here : Members.value ((key, value) :: rest) key = value := by simp [Members.value]
        rw [if_pos absent, ite_self, lookup_fill_self, here]
        by_cases blank : value.isUnset = true
        · simp [blank]
        · by_cases held : (explicit.value key).isUnset = true <;> simp [blank, held]
      · have different : (key == name) = false := by simpa using same
        have unchanged : (explicit.fill name value).value key = explicit.value key := by
          rw [Members.value, lookup_fill_of_ne same, Members.value]
        have passed : Members.value ((name, value) :: rest) key = Members.value rest key := by
          simp [Members.value, List.lookup_cons, different]
        rw [unchanged, lookup_fill_of_ne same, passed]
        simp [List.lookup_cons, different]

theorem value_layered (distinct : defaults.keys.Nodup) (key : String) :
    (explicit.mergeDefaults defaults).value key =
      if (explicit.value key).isUnset then
        if (defaults.value key).isUnset then explicit.value key else defaults.value key
      else explicit.value key := by
  rw [Members.value, lookup_mergeDefaults distinct]
  split
  · split <;> rfl
  · rfl

/-- The members that are set. -/
def settled (members : Members) : Members := members.filter fun member => !member.2.isUnset

/-- Defaults that are null or blank fill nothing. -/
theorem mergeDefaults_settled (explicit defaults : Members) :
    explicit.mergeDefaults defaults.settled = explicit.mergeDefaults defaults := by
  rw [mergeDefaults, settled, List.foldl_filter, mergeDefaults]
  congr 1
  funext merged default
  by_cases blank : default.2.isUnset = true
  · simp [fill_of_blank blank]
  · simp [blank]

/-- The set members have those of the keys whose values are set. -/
theorem keys_settled (distinct : members.keys.Nodup) :
    members.settled.keys = members.keys.filter fun key => !(members.value key).isUnset := by
  conv_lhs => rw [settled, eq_map_value distinct, List.filter_map, keys, List.map_map]
  exact List.map_id _

/-- The keys above stay where they are, and the other keys with a value that is set below
follow. -/
theorem keys_mergeDefaults_settled (distinct : defaults.keys.Nodup) (explicit : Members) :
    (explicit.mergeDefaults defaults).keys =
      explicit.keys ++ defaults.keys.filter fun key =>
        (defaults.value key).isUnset = false ∧ key ∉ explicit.keys := by
  have set : ∀ default ∈ defaults.settled, default.2.isUnset = false := by
    intro default member
    simpa using (List.mem_filter.mp member).2
  have distinctSet : defaults.settled.keys.Nodup := by
    rw [keys_settled distinct]
    exact distinct.filter _
  rw [← mergeDefaults_settled, keys_mergeDefaults set distinctSet, keys_settled distinct,
    List.filter_filter]
  congr 2
  funext key
  by_cases blank : (defaults.value key).isUnset = true <;> simp [blank]

/-- Defaults for keys that are set fill nothing. -/
theorem mergeDefaults_of_covered
    (covered : ∀ default ∈ defaults,
      default.2.isUnset = true ∨ (explicit.value default.1).isUnset = false) :
    explicit.mergeDefaults defaults = explicit := by
  induction defaults with
  | nil => rfl
  | cons default rest ih =>
      have kept : explicit.fill default.1 default.2 = explicit := by
        rcases covered default List.mem_cons_self with blank | held
        · exact fill_of_blank blank
        · exact fill_of_set held
      have later := ih fun other member => covered other (List.mem_cons_of_mem _ member)
      rw [mergeDefaults] at later
      rw [mergeDefaults, List.foldl_cons, kept, later]

/-- Every key with a default that is set is set after the defaults are filled in. -/
theorem covered_mergeDefaults (distinct : defaults.keys.Nodup) :
    ∀ default ∈ defaults, default.2.isUnset = true ∨
      ((explicit.mergeDefaults defaults).value default.1).isUnset = false := by
  intro default member
  have held : defaults.value default.1 = default.2 := by
    rw [eq_map_value distinct] at member
    obtain ⟨key, -, rfl⟩ := List.mem_map.mp member
    rfl
  rw [value_layered distinct, held]
  by_cases blank : default.2.isUnset = true
  · exact .inl blank
  · by_cases above : (explicit.value default.1).isUnset = true <;> simp [blank, above]

/-- Filling in defaults is looking up in layers. A key has what is set above, else what is set
below, else what it had above, be it null, blank or nothing. The keys above come first in their
order, and then, in theirs, those that only the layer below has and has set. Filling in the same
defaults once more changes nothing. Of three layers the upper two or the lower two may be put
together first: every key has the same, though the order of the keys may differ. -/
theorem mergeDefaults_layered (explicit : Members) {defaults first second : Members}
    (distinct : defaults.keys.Nodup) (distinctFirst : first.keys.Nodup)
    (distinctSecond : second.keys.Nodup) :
    (∀ key, (explicit.mergeDefaults defaults).lookup key =
      if (explicit.value key).isUnset = false then explicit.lookup key
      else if (defaults.value key).isUnset = false then defaults.lookup key
      else explicit.lookup key) ∧
    (explicit.mergeDefaults defaults).keys = explicit.keys ++
      defaults.keys.filter (fun key =>
        (defaults.value key).isUnset = false ∧ key ∉ explicit.keys) ∧
    (explicit.mergeDefaults defaults).mergeDefaults defaults = explicit.mergeDefaults defaults ∧
    ∀ key, ((explicit.mergeDefaults first).mergeDefaults second).lookup key =
      (explicit.mergeDefaults (first.mergeDefaults second)).lookup key := by
  refine ⟨?lookup, ?keys, ?again, ?grouping⟩
  case lookup =>
    intro key
    rw [lookup_mergeDefaults distinct]
    by_cases above : (explicit.value key).isUnset = true
    · by_cases below : (defaults.value key).isUnset = true <;> simp [above, below]
    · simp [above]
  case keys =>
    exact keys_mergeDefaults_settled distinct explicit
  case again =>
    exact mergeDefaults_of_covered (covered_mergeDefaults distinct)
  case grouping =>
    intro key
    rw [lookup_mergeDefaults distinctSecond, lookup_mergeDefaults distinctFirst,
      lookup_mergeDefaults (nodup_keys_mergeDefaults distinctFirst second),
      lookup_mergeDefaults distinctSecond, value_layered distinctFirst,
      value_layered distinctSecond]
    by_cases above : (explicit.value key).isUnset = true
    · by_cases between : (first.value key).isUnset = true
      · by_cases below : (second.value key).isUnset = true <;> simp [above, between, below]
      · simp [above, between]
    · simp [above]

/-- Zero and false are set, null and the blank text are not. The two ways of putting three layers
together give every key the same, in another order: a blank entry of the middle layer keeps its
place when the lower two come first, and none when they come last. -/
theorem mergeDefaults_layered_blank :
    let explicit : Members :=
      [("owner", .null), ("timeout", .integer 0), ("channel", .string "")]
    let middle : Members :=
      [("memo", .string ""), ("timeout", .integer 30), ("owner", .string "terra1owner")]
    let lower : Members :=
      [("paused", .bool false), ("memo", .string "bridge"), ("owner", .string "terra1other")]
    middle.keys.Nodup ∧ lower.keys.Nodup ∧
    (explicit.mergeDefaults middle).lookup "owner" = some (.string "terra1owner") ∧
    (explicit.mergeDefaults middle).lookup "timeout" = some (.integer 0) ∧
    (explicit.mergeDefaults middle).lookup "channel" = some (.string "") ∧
    (explicit.mergeDefaults middle).lookup "memo" = none ∧
    (explicit.mergeDefaults middle).keys = ["owner", "timeout", "channel"] ∧
    (explicit.mergeDefaults middle).mergeDefaults middle = explicit.mergeDefaults middle ∧
    ((explicit.mergeDefaults middle).mergeDefaults lower).keys =
      ["owner", "timeout", "channel", "paused", "memo"] ∧
    (explicit.mergeDefaults (middle.mergeDefaults lower)).keys =
      ["owner", "timeout", "channel", "memo", "paused"] ∧
    ∀ key, ((explicit.mergeDefaults middle).mergeDefaults lower).lookup key =
      (explicit.mergeDefaults (middle.mergeDefaults lower)).lookup key := by
  intro explicit middle lower
  have distinct : middle.keys.Nodup := by decide
  have distinctLower : lower.keys.Nodup := by decide
  obtain ⟨lookup, keys, again, grouping⟩ :=
    mergeDefaults_layered explicit distinct distinct distinctLower
  exact ⟨distinct, distinctLower, lookup _, lookup _, lookup _, lookup _, keys, again, rfl, rfl,
    grouping⟩

end Members

end ContractRollout
