import ContractRollout.Proofs.Chain.Identity

/-!
# Contracts on a chain

Looking a contract up sends one request. The reply to it describes the contract, or says that
there is none, or says nothing. Contracts that are looked up one after the other each get the
reply to their own request, also where an address is looked up again.
-/

namespace ContractRollout

/-! ### Replies about contracts -/

/-- Whether a value is as the chain describes things by: nothing, or an object that has nothing or
an object as the description of a contract. -/
def Json.describes : Json → Bool
  | .null => true
  | .object members =>
      match Members.value members "contract_info" with
      | .null | .object _ => true
      | _ => false
  | _ => false

theorem Json.describes_iff {value : Json} :
    value.describes = true ↔ value = .null ∨ ∃ members : Members, value = .object members ∧
      (members.value "contract_info" = .null ∨
        ∃ info, members.value "contract_info" = .object info) := by
  cases value with
  | object members =>
      cases held : Members.value members "contract_info" <;> simp [describes, held]
  | _ => simp [describes]

/-- What can be read of the bodies of all replies are descriptions. -/
def Surroundings.WellShaped (surroundings : Surroundings) : Prop :=
  ∀ url count status body value, surroundings.lcd url count = .answered status body →
    Json.read body.toList = .ok value → value.describes = true

theorem Surroundings.WellShaped.describes {surroundings : Surroundings}
    (shaped : surroundings.WellShaped) {url : String} {count : Nat} {value : Json}
    (told : (surroundings.lcd url count).value? = some value) : value.describes = true := by
  cases replied : surroundings.lcd url count with
  | failed reason => simp [replied, Reply.value?] at told
  | answered status body =>
      rw [replied, Reply.value?] at told
      by_cases missing : status = 404
      · rw [if_pos missing] at told
        obtain rfl := Option.some.inj told
        rfl
      by_cases refused : 400 ≤ status ∧ status < 600
      · simp [missing, refused] at told
      rw [if_neg missing, if_neg refused] at told
      exact shaped url count status body value replied (toOption_eq_some.mp told)

namespace Reply

/-- What a reply says of a contract: null if there is none, and none if the reply is an error or
cannot be read. -/
def contractInfo? (reply : Reply) : Option Json := reply.value?.map (·.fieldOr "contract_info")

/-- A reply that describes a contract. -/
def finds (reply : Reply) : Bool :=
  match reply.contractInfo? with
  | none | some .null => false
  | some _ => true

variable {reply : Reply}

theorem finds_iff :
    reply.finds = true ↔ ∃ info, reply.contractInfo? = some info ∧ info ≠ .null := by
  unfold finds
  split
  · rename_i silent
    simp [silent]
  · rename_i absent
    simp [absent]
  · rename_i info present told
    exact ⟨fun _ => ⟨info, told, by rintro rfl; exact present rfl⟩, fun _ => rfl⟩

theorem finds_of_absent (absent : reply.contractInfo? = some .null) : reply.finds = false := by
  simp [finds, absent]

end Reply

/-- Where the contract at an address is looked up. -/
def contractUrl (lcdUrl : String) (address : Json) : String :=
  lcdUrl ++ ("/cosmwasm/wasm/v1/contract/" ++ address.text)

/-- Fields whose addresses are looked up one after the other, each with the reply that it gets. -/
def Surroundings.lookups (surroundings : Surroundings) (lcdUrl : String) (earlier : List String) :
    List (String × Json) → List (String × Reply)
  | [] => []
  | (field, address) :: rest =>
      (field, surroundings.lcd (contractUrl lcdUrl address)
          (earlier.count (contractUrl lcdUrl address))) ::
        surroundings.lookups lcdUrl (earlier ++ [contractUrl lcdUrl address]) rest

theorem Surroundings.fields_lookups (surroundings : Surroundings) (lcdUrl : String)
    (earlier : List String) (addresses : List (String × Json)) :
    (surroundings.lookups lcdUrl earlier addresses).map Prod.fst = addresses.map Prod.fst := by
  induction addresses generalizing earlier with
  | nil => rfl
  | cons first rest ih => rw [lookups, List.map_cons, List.map_cons, ih]

namespace Connection

variable (connection : Connection) (address : Json) (session : Session)

/-- Looking a contract up sends one request and goes by its reply. -/
theorem contractInfo_reply (shaped : connection.surroundings.WellShaped) {reply : Reply}
    (replied : connection.surroundings.reply session
      (contractUrl connection.settings.lcdUrl address) = reply) :
    (∃ info, reply.contractInfo? = some info ∧ (info = .null ∨ ∃ members, info = .object members) ∧
      connection.contractInfo address session =
        .ok info (session.add (.request (contractUrl connection.settings.lcdUrl address) reply))) ∨
    (reply.contractInfo? = none ∧ ∃ cause, connection.contractInfo address session =
      .error (.deployment cause)
        (session.add (.request (contractUrl connection.settings.lcdUrl address) reply))) := by
  unfold contractInfo fetchField
  rcases connection.fetch_reply _ session replied with
    ⟨value, told, fetches⟩ | ⟨silent, cause, -, fails⟩
  · left
    rw [bind_of_ok fetches]
    have describes : value.describes = true := by
      rw [← replied] at told
      exact shaped.describes told
    have info : reply.contractInfo? = some (value.fieldOr "contract_info") := by
      rw [Reply.contractInfo?, told, Option.map_some]
    by_cases truthy : value.isTruthy = true
    · rw [if_pos truthy]
      rcases Json.describes_iff.mp describes with rfl | ⟨members, rfl, described⟩
      · simp [Json.isTruthy] at truthy
      · refine ⟨members.value "contract_info", info, ?_, rfl⟩
        rcases described with absent | ⟨inner, present⟩
        · exact .inl absent
        · exact .inr ⟨inner, present⟩
    · rw [if_neg truthy]
      rw [Json.fieldOr_of_not_truthy (by simpa using truthy)] at info
      exact ⟨.null, info, .inl rfl, rfl⟩
  · right
    rw [bind_of_error fails]
    exact ⟨by rw [Reply.contractInfo?, silent, Option.map_none], cause, rfl⟩

end Connection

end ContractRollout
