import ContractRollout.Config.Contract
import ContractRollout.Proofs.Json.Legible

/-!
# Members collected and filled in

Of members taken one after the other the last value of a key counts, in the place of the
first. Defaults fill in the keys that have nothing, null or the empty text, and the keys
that were not there follow in the order of the defaults.
-/

namespace ContractRollout

namespace Members

/-- The last value that members give a key. -/
def lastValue (members : Members) (key : String) : Option Json :=
  ((members.filter (·.1 = key)).map Prod.snd).getLast?

theorem lastValue_append (first second : Members) (key : String) :
    lastValue (first ++ second) key = (lastValue second key).or (lastValue first key) := by
  simp [lastValue, List.getLast?_append]

theorem lookup_insertAll (collected members : Members) (key : String) :
    (insertAll collected members).lookup key =
      (members.lastValue key).or (collected.lookup key) := by
  induction members generalizing collected with
  | nil => rfl
  | cons member members ih =>
      rw [insertAll_cons, ih, insert]
      by_cases same : member.1 = key
      · subst same
        simp [lastValue, List.getLast?_cons]
      · rw [Bindings.lookup_insert_of_ne (Ne.symm same)]
        simp [lastValue, same]

theorem keys_insertAll (collected members : Members) :
    (insertAll collected members).keys =
      collected.keys ++ (members.keys.filter (· ∉ collected.keys)).eraseDups := by
  induction members generalizing collected with
  | nil => simp [insertAll, keys]
  | cons member members ih =>
      have split : keys (member :: members) = member.1 :: keys members := rfl
      rw [insertAll_cons, ih, split]
      by_cases bound : member.1 ∈ collected.keys
      · rw [keys_insert_of_mem _ bound, List.filter_cons_of_neg (by simpa using bound)]
      · rw [keys_insert_of_not_mem _ bound, List.filter_cons_of_pos (by simpa using bound),
          List.eraseDups_cons, List.filter_filter, List.append_assoc, List.singleton_append]
        congr 3
        apply List.filter_congr
        intro other _
        by_cases same : other = member.1 <;> simp [same]

theorem lookup_collect (members : Members) (key : String) :
    (collect members).lookup key = members.lastValue key :=
  (lookup_insertAll [] members key).trans (Option.or_none)

/-- Neighbours with different keys can be collected in either order. -/
theorem lookup_collect_exchange (front back : Members) {first second : String × Json}
    (different : first.1 ≠ second.1) (key : String) :
    (collect (front ++ first :: second :: back)).lookup key =
      (collect (front ++ second :: first :: back)).lookup key := by
  have pair : lastValue [first, second] key = lastValue [second, first] key := by
    by_cases same : first.1 = key
    · have apart : second.1 ≠ key := fun other => different (same.trans other.symm)
      simp [lastValue, same, apart]
    · simp [lastValue, same, List.filter_cons]
  have split (one other : String × Json) :
      lastValue (front ++ one :: other :: back) key =
        (lastValue back key).or ((lastValue [one, other] key).or (lastValue front key)) := by
    rw [← lastValue_append, ← lastValue_append, List.append_assoc]
    rfl
  rw [lookup_collect, lookup_collect, split, split, pair]

theorem keys_collect (members : Members) : (collect members).keys = members.keys.eraseDups :=
  (keys_insertAll [] members).trans (by simp [keys])

/-- Members with distinct keys are their keys with their values. -/
theorem eq_map_value {members : Members} (distinct : members.keys.Nodup) :
    members = members.keys.map fun key => (key, members.value key) := by
  induction members with
  | nil => rfl
  | cons member members ih =>
      obtain ⟨key, value⟩ := member
      have apart : key ∉ keys members ∧ (keys members).Nodup := List.nodup_cons.mp distinct
      have later := ih apart.2
      have split : keys ((key, value) :: members) = key :: keys members := rfl
      rw [split, List.map_cons]
      congr 1
      · simp [Members.value]
      · conv_lhs => rw [later]
        apply List.map_congr_left
        intro other member
        have different : (other == key) = false := by
          rw [beq_eq_false_iff_ne]
          rintro rfl
          exact apart.1 member
        simp [Members.value, List.lookup_cons, different]

theorem value_of_not_mem {members : Members} {key : String} (unbound : key ∉ members.keys) :
    members.value key = .null := by
  have none : members.lookup key = none := by
    rw [List.lookup_eq_none_iff]
    intro member found
    simp only [bne_iff_ne, ne_eq]
    rintro rfl
    exact unbound (List.mem_map_of_mem found)
  simp [Members.value, none]

/-! ### Filling -/

theorem value_fill {merged : Members} {key : String} {value : Json} (set : value.isUnset = false)
    (other : String) :
    (merged.fill key value).value other =
      if other = key ∧ (merged.value key).isUnset = true then value else merged.value other := by
  rw [fill, if_neg (by simp [set])]
  by_cases same : other = key
  · subst same
    by_cases blank : (merged.value other).isUnset = true
    · simp [blank]
    · simp [blank]
  · split
    · rw [value_insert_of_ne same, if_neg (by simp [same])]
    · rw [if_neg (by simp [same])]

theorem keys_fill {merged : Members} {key : String} {value : Json} (set : value.isUnset = false) :
    (merged.fill key value).keys =
      if key ∈ merged.keys then merged.keys else merged.keys ++ [key] := by
  rw [fill, if_neg (by simp [set])]
  by_cases bound : key ∈ merged.keys
  · rw [if_pos bound]
    split
    · exact keys_insert_of_mem value bound
    · rfl
  · rw [if_neg bound, value_of_not_mem bound, if_pos (by rfl)]
    exact keys_insert_of_not_mem value bound

theorem nodup_keys_fill {merged : Members} (key : String) (value : Json)
    (distinct : merged.keys.Nodup) : (merged.fill key value).keys.Nodup := by
  unfold fill
  split
  · exact distinct
  · split
    · exact nodup_keys_insert key value distinct
    · exact distinct

/-- A key keeps what is set, and else takes its first default. -/
theorem value_mergeDefaults {defaults : Members} (set : ∀ default ∈ defaults, default.2.isUnset = false)
    (explicit : Members) (key : String) :
    (explicit.mergeDefaults defaults).value key =
      if (explicit.value key).isUnset then (defaults.lookup key).getD (explicit.value key)
      else explicit.value key := by
  induction defaults generalizing explicit with
  | nil => simp [mergeDefaults]
  | cons default defaults ih =>
      obtain ⟨name, value⟩ := default
      have first : value.isUnset = false := set (name, value) List.mem_cons_self
      have later := ih (fun other member => set other (List.mem_cons_of_mem _ member))
        (explicit.fill name value)
      rw [mergeDefaults, List.foldl_cons]
      rw [mergeDefaults] at later
      rw [later, value_fill first]
      by_cases same : key = name
      · subst same
        by_cases blank : (explicit.value key).isUnset = true
        · simp [blank, first]
        · simp [blank]
      · have different : (key == name) = false := by simpa using same
        simp [same, different, List.lookup_cons]

/-- The keys of explicit members stay where they are, and the other keys of the defaults
follow. -/
theorem keys_mergeDefaults {defaults : Members} (set : ∀ default ∈ defaults, default.2.isUnset = false)
    (distinct : defaults.keys.Nodup) (explicit : Members) :
    (explicit.mergeDefaults defaults).keys =
      explicit.keys ++ defaults.keys.filter (· ∉ explicit.keys) := by
  induction defaults generalizing explicit with
  | nil => simp [mergeDefaults, keys]
  | cons default defaults ih =>
      have apart : default.1 ∉ keys defaults ∧ (keys defaults).Nodup := List.nodup_cons.mp distinct
      have later := ih (fun other member => set other (List.mem_cons_of_mem _ member)) apart.2
        (explicit.fill default.1 default.2)
      have split : keys (default :: defaults) = default.1 :: keys defaults := rfl
      rw [mergeDefaults] at later
      rw [mergeDefaults, List.foldl_cons, later, keys_fill (set default List.mem_cons_self), split]
      by_cases bound : default.1 ∈ explicit.keys
      · rw [if_pos bound, List.filter_cons_of_neg (by simpa using bound)]
      · rw [if_neg bound, List.filter_cons_of_pos (by simpa using bound), List.append_assoc,
          List.singleton_append]
        congr 2
        apply List.filter_congr
        intro other member
        have different : other ≠ default.1 := by
          rintro rfl
          exact apart.1 member
        simp [different]

theorem nodup_keys_mergeDefaults {explicit : Members} (distinct : explicit.keys.Nodup)
    (defaults : Members) : (explicit.mergeDefaults defaults).keys.Nodup := by
  induction defaults generalizing explicit with
  | nil => exact distinct
  | cons default defaults ih => exact ih (nodup_keys_fill default.1 default.2 distinct)

/-- Explicit members with defaults, as their keys with what each of them holds. -/
theorem mergeDefaults_eq {explicit defaults : Members} (distinct : explicit.keys.Nodup)
    (set : ∀ default ∈ defaults, default.2.isUnset = false) (distinctDefaults : defaults.keys.Nodup) :
    explicit.mergeDefaults defaults =
      (explicit.keys ++ defaults.keys.filter (· ∉ explicit.keys)).map fun key =>
        (key, if (explicit.value key).isUnset then (defaults.lookup key).getD (explicit.value key)
          else explicit.value key) := by
  rw [eq_map_value (nodup_keys_mergeDefaults distinct defaults),
    keys_mergeDefaults set distinctDefaults]
  simp only [value_mergeDefaults set]

theorem faithful_fill {merged : Members} (faithful : Json.Faithful (.object merged)) (key : String)
    {value : Json} (faithfulValue : Json.Faithful value) :
    Json.Faithful (.object (merged.fill key value)) := by
  unfold fill
  split
  · exact faithful
  · split
    · exact faithful.insert key faithfulValue
    · exact faithful

theorem faithful_mergeDefaults {explicit defaults : Members}
    (faithful : Json.Faithful (.object explicit))
    (each : ∀ default ∈ defaults, Json.Faithful default.2) :
    Json.Faithful (.object (explicit.mergeDefaults defaults)) := by
  induction defaults generalizing explicit with
  | nil => exact faithful
  | cons default defaults ih =>
      apply ih
      · exact faithful_fill faithful default.1 (each default List.mem_cons_self)
      · exact fun other member => each other (List.mem_cons_of_mem _ member)

end Members

end ContractRollout
