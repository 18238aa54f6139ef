import ContractRollout.Proofs.Json.Documents

/-!
# Values with foreign parts

A value may hold something foreign deep inside. Apart from that let its integers have a
written form and its objects have every key once. Then it is written exactly if nothing
in it is foreign, and otherwise the kind of a foreign part is the reason.
-/

namespace ContractRollout

namespace Json

mutual

/-- Whether some part of a value is foreign. -/
def holdsForeign : Json → Bool
  | array items => itemsHoldForeign items
  | object members => membersHoldForeign members
  | foreign _ _ => true
  | _ => false

def itemsHoldForeign : List Json → Bool
  | [] => false
  | item :: rest => holdsForeign item || itemsHoldForeign rest

def membersHoldForeign : List (String × Json) → Bool
  | [] => false
  | (_, value) :: rest => holdsForeign value || membersHoldForeign rest

end

/-- A value without doubles that is legible but for foreign parts. -/
inductive Recordable : Json → Prop
  | null : Recordable .null
  | bool (value : Bool) : Recordable (.bool value)
  | integer {value : Int} (short : exceedsDigitLimit value = false) :
      Recordable (.number (.integer value))
  | string (text : String) : Recordable (.string text)
  | array {items : List Json} (each : ∀ item ∈ items, Recordable item) :
      Recordable (.array items)
  | object {members : Members} (distinct : members.keys.Nodup)
      (each : ∀ member ∈ members, Recordable member.2) : Recordable (.object members)
  | foreign (kind text : String) : Recordable (.foreign kind text)

theorem itemsHoldForeign_eq_any (items : List Json) :
    itemsHoldForeign items = items.any holdsForeign := by
  induction items with
  | nil => rfl
  | cons item rest ih => rw [itemsHoldForeign, List.any_cons, ih]

theorem membersHoldForeign_eq_any (members : Members) :
    membersHoldForeign members = members.any fun member => holdsForeign member.2 := by
  induction members with
  | nil => rfl
  | cons member rest ih =>
      obtain ⟨key, value⟩ := member
      rw [membersHoldForeign, List.any_cons, ih]

theorem Recordable.floatFree {value : Json} (recordable : Recordable value) :
    FloatFree value := by
  induction recordable with
  | null => exact .null
  | bool value => exact .bool value
  | integer short => exact .integer _
  | string text => exact .string text
  | array _ ih => exact .array ih
  | object _ _ ih => exact .object ih
  | foreign kind text => exact .foreign kind text

theorem Recordable.legible {value : Json} (recordable : Recordable value)
    (own : value.holdsForeign = false) : Legible value := by
  induction recordable with
  | null => exact .null
  | bool value => exact .bool value
  | integer short => exact .integer short
  | string text => exact .string text
  | array _ ih =>
      rw [holdsForeign, itemsHoldForeign_eq_any, List.any_eq_false] at own
      apply Legible.array
      intro item member
      exact ih item member (by simpa using own item member)
  | object distinct _ ih =>
      rw [holdsForeign, membersHoldForeign_eq_any, List.any_eq_false] at own
      apply Legible.object distinct
      intro member found
      exact ih member found (by simpa using own member found)
  | foreign kind text => simp [holdsForeign] at own

/-- A value that fails to be written because a part of it is foreign. -/
def FailsForeign (layout : Layout) (depth : Nat) (value : Json) : Prop :=
  ∃ kind, writeAt layout depth value = .error (.foreign kind)

variable {layout : Layout} {depth : Nat}

theorem writeItems_foreign {items : List Json}
    (each : ∀ item ∈ items, (∃ text, writeAt layout depth item = .ok text) ∨
      FailsForeign layout depth item)
    (some : ∃ item ∈ items, FailsForeign layout depth item) :
    ∃ kind, writeItems layout depth items = .error (.foreign kind) := by
  induction items with
  | nil => simp at some
  | cons first rest ih =>
      rcases each first List.mem_cons_self with ⟨text, writes⟩ | ⟨kind, fails⟩
      · have later : ∃ item ∈ rest, FailsForeign layout depth item := by
          obtain ⟨item, member, failing⟩ := some
          rcases List.mem_cons.mp member with rfl | inRest
          · obtain ⟨kind, fails⟩ := failing
            simp [writes] at fails
          · exact ⟨item, inRest, failing⟩
        obtain ⟨kind, fails⟩ := ih (fun item member => each item (List.mem_cons_of_mem _ member)) later
        exact ⟨kind, by simp [writeItems, writes, fails, bind, Except.bind]⟩
      · exact ⟨kind, by simp [writeItems, fails, bind, Except.bind]⟩

theorem writeMembers_foreign {members : Members}
    (each : ∀ member ∈ members, (∃ text, writeAt layout depth member.2 = .ok text) ∨
      FailsForeign layout depth member.2)
    (some : ∃ member ∈ members, FailsForeign layout depth member.2) :
    ∃ kind, writeMembers layout depth members = .error (.foreign kind) := by
  induction members with
  | nil => simp at some
  | cons first rest ih =>
      obtain ⟨key, value⟩ := first
      rcases each (key, value) List.mem_cons_self with ⟨text, writes⟩ | ⟨kind, fails⟩
      · have later : ∃ member ∈ rest, FailsForeign layout depth member.2 := by
          obtain ⟨member, found, failing⟩ := some
          rcases List.mem_cons.mp found with rfl | inRest
          · obtain ⟨kind, fails⟩ := failing
            simp [writes] at fails
          · exact ⟨member, inRest, failing⟩
        obtain ⟨kind, fails⟩ :=
          ih (fun member found => each member (List.mem_cons_of_mem _ found)) later
        exact ⟨kind, by simp [writeMembers, writes, fails, bind, Except.bind]⟩
      · exact ⟨kind, by simp [writeMembers, fails, bind, Except.bind]⟩

/-- A value with a foreign part is not written, and the foreign part is the reason. -/
theorem Recordable.failsForeign {value : Json} (recordable : Recordable value)
    (other : value.holdsForeign = true) (layout : Layout) (depth : Nat) :
    FailsForeign layout depth value := by
  induction recordable generalizing depth with
  | null | bool | integer | string => simp [holdsForeign] at other
  | @array items each ih =>
      rw [holdsForeign, itemsHoldForeign_eq_any, List.any_eq_true] at other
      have fails : ∃ kind, writeItems layout (depth + 1) items = .error (.foreign kind) := by
        apply writeItems_foreign
        · intro item member
          by_cases own : item.holdsForeign = true
          · exact .inr (ih item member own (depth + 1))
          · have legible := (each item member).legible (by simpa using own)
            exact .inl (writeAt_of_legible legible layout (depth + 1))
        · obtain ⟨item, member, holds⟩ := other
          exact ⟨item, member, ih item member holds (depth + 1)⟩
      obtain ⟨kind, fails⟩ := fails
      exact ⟨kind, by simp [writeAt, fails, bind, Except.bind]⟩
  | @object members distinct each ih =>
      rw [holdsForeign, membersHoldForeign_eq_any, List.any_eq_true] at other
      have fails : ∃ kind, writeMembers layout (depth + 1) members = .error (.foreign kind) := by
        apply writeMembers_foreign
        · intro member found
          by_cases own : member.2.holdsForeign = true
          · exact .inr (ih member found own (depth + 1))
          · have legible := (each member found).legible (by simpa using own)
            exact .inl (writeAt_of_legible legible layout (depth + 1))
        · obtain ⟨member, found, holds⟩ := other
          exact ⟨member, found, ih member found holds (depth + 1)⟩
      obtain ⟨kind, fails⟩ := fails
      exact ⟨kind, by simp [writeAt, fails, bind, Except.bind]⟩
  | foreign kind text => exact ⟨kind, rfl⟩

end Json

end ContractRollout
