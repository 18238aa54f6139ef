import ContractRollout.Proofs.Entry.Corruption

/-!
# What a passed verification has confirmed

A verification that passes has looked up the contract of every populated field, and each lookup was
answered with a description of the contract, whatever else the chain answers. So it has confirmed
something unless no field is populated. Such a record is not always refused: without any fields it
is reported to have no contracts, but with fields that are all blank the verification passes.
-/

namespace ContractRollout

namespace VerifyEntry

variable {connection : Connection} {session later : Session} {record : NetworkRecord}

/-! ### Lookups that were answered -/

/-- A lookup that works has sent one request, and what it tells of the contract is in the reply. -/
theorem contractInfo_ok {address info : Json}
    (works : connection.contractInfo address session = .ok info later) :
    ∃ reply, later = session.add (.request (contractUrl connection.settings.lcdUrl address) reply) ∧
      (info ≠ .null → reply.contractInfo? = some info) := by
  unfold Connection.contractInfo Connection.fetchField at works
  obtain ⟨reply, ⟨value, told, fetches⟩ | ⟨-, cause, -, fails⟩⟩ :=
    connection.fetch_cases ("/cosmwasm/wasm/v1/contract/" ++ address.text) session
  · rw [bind_of_ok fetches] at works
    split at works
    · obtain ⟨field, rfl⟩ := orFault_ok.mp works
      obtain ⟨members, takes, rfl⟩ : ∃ members, value = .object members ∧
          Members.value members "contract_info" = info := by
        cases value with
        | object members => exact ⟨members, rfl, Except.ok.inj field⟩
        | _ => simp [Json.field, Json.asMembers, Except.map] at field
      refine ⟨reply, rfl, fun _ => ?_⟩
      rw [Reply.contractInfo?, told, takes]
      rfl
    · obtain ⟨rfl, rfl⟩ := EStateM.Result.ok.inj works
      exact ⟨reply, rfl, fun present => absurd rfl present⟩
  · simp [bind_of_error fails] at works

/-- The reply to a lookup in a session describes the contract at an address. -/
def Confirmed (connection : Connection) (session : Session) (address : Json) : Prop :=
  ∃ reply, .request (contractUrl connection.settings.lcdUrl address) reply ∈ session.events ∧
    reply.finds = true

theorem Confirmed.mono {address : Json} (confirmed : Confirmed connection session address)
    (goesOn : session.events ⊆ later.events) : Confirmed connection later address := by
  obtain ⟨reply, member, finds⟩ := confirmed
  exact ⟨reply, goesOn member, finds⟩

/-- A contract that is verified is confirmed. -/
theorem verifyContract_ok {field : String} {address : Json}
    (works : verifyContract connection field address session = .ok true later) :
    Confirmed connection later address := by
  unfold verifyContract at works
  obtain ⟨info, between, looks, works⟩ := bind_ok_iff.mp works
  obtain ⟨reply, rfl, told⟩ := contractInfo_ok looks
  split at works
  · simp [bind_of_ok (printLine_eq _ _), pure, EStateM.pure] at works
  · rename_i present
    rw [bind_of_ok (printLine_eq _ _)] at works
    obtain ⟨members, between, takes, works⟩ := bind_ok_iff.mp works
    obtain ⟨-, rfl⟩ := orFault_ok.mp takes
    rw [bind_of_ok (printLine_eq _ _), bind_of_ok (printLine_eq _ _),
      bind_of_ok (printLine_eq _ _)] at works
    obtain ⟨-, rfl⟩ := EStateM.Result.ok.inj works
    refine ⟨reply, ?_, Reply.finds_iff.mpr ⟨info, told present, present⟩⟩
    simp [Session.add]

/-- If all results are positive, the contracts at all addresses are confirmed. -/
theorem confirmed_of_verified {fields : List String} {results : List (String × Bool)}
    (works : verifyFields connection record fields session = .ok results later)
    (verified : results.all (·.2) = true) :
    ∀ entry ∈ record.addresses fields, Confirmed connection later entry.2 := by
  induction fields generalizing session results with
  | nil => simp [NetworkRecord.addresses]
  | cons field rest ih =>
      unfold verifyFields at works
      cases held : record.get? field with
      | none =>
          have skipped : record.addresses (field :: rest) = record.addresses rest := by
            simp [NetworkRecord.addresses, held]
          simp only [held] at works
          rw [skipped]
          exact ih works verified
      | some address =>
          have next :
              record.addresses (field :: rest) = (field, address) :: record.addresses rest := by
            simp [NetworkRecord.addresses, held]
          simp only [held] at works
          obtain ⟨found, between, verifies, works⟩ := bind_ok_iff.mp works
          obtain ⟨others, final, verifiesRest, works⟩ := bind_ok_iff.mp works
          obtain ⟨rfl, rfl⟩ := EStateM.Result.ok.inj works
          obtain ⟨rfl, verifiedRest⟩ : found = true ∧ others.all (·.2) = true := by
            simpa using verified
          obtain ⟨happened, adds, -⟩ := (quiet_verifyFields connection record rest).ok verifiesRest
          rw [next, List.forall_mem_cons]
          exact ⟨(verifyContract_ok verifies).mono (adds ▸ List.subset_append_left _ _),
            ih verifiesRest verifiedRest⟩

/-- Without populated fields nothing is looked up. -/
theorem verifyFields_of_unpopulated {fields : List String}
    (unpopulated : record.addresses fields = []) :
    verifyFields connection record fields session = .ok [] session := by
  induction fields with
  | nil => rfl
  | cons field rest ih =>
      unfold verifyFields
      cases held : record.get? field with
      | none =>
          have skipped : record.addresses (field :: rest) = record.addresses rest := by
            simp [NetworkRecord.addresses, held]
          exact ih (skipped ▸ unpopulated)
      | some address => simp [NetworkRecord.addresses, held] at unpopulated

/-! ### The record of the network -/

variable {environment : Environment} {surroundings : Surroundings} {files : FileTree}
  {network : Json} {results : List (String × Bool)}

theorem verifyRecord_of_blank (blank : record.fields = []) :
    verifyRecord connection network record session = .ok none
      (Session.printed ["Network: " ++ network.text, "",
        "[WARN] No contracts recorded for " ++ network.text] session) := by
  unfold verifyRecord
  rw [bind_of_ok (printLine_eq _ _), bind_of_ok (printLine_eq _ _), if_pos (by simpa using blank),
    bind_of_ok (printLine_eq _ _)]
  rfl

theorem verifyRecord_of_recorded (recorded : record.fields ≠ []) :
    verifyRecord connection network record session =
      (verifyFields connection record record.fields.keys >>= fun results => pure (some results))
        (Session.printed ["Network: " ++ network.text, ""] session) := by
  unfold verifyRecord
  rw [bind_of_ok (printLine_eq _ _), bind_of_ok (printLine_eq _ _), if_neg (by simpa using recorded)]
  rfl

/-- A verification concludes its look at the record that is examined. -/
theorem shown_of_examined (examined : Examined environment surroundings files network record) :
    ∃ settings between, Settings.ofEnvironment environment = .ok settings ∧
      between.requests = [DeployEntry.nodeInfoUrl environment] ∧
      shown environment surroundings files =
        conclude (verifyRecord ⟨settings, surroundings⟩ network record between) := by
  obtain ⟨network', record', settings, between, examined', configured, asked, works⟩ |
    ⟨-, lacks, -⟩ | ⟨lacks, -⟩ := examine_cases files rfl requests_opening
  · obtain rfl := Option.some.inj (examined.told.symm.trans examined'.told)
    obtain rfl := examined.unique examined'
    exact ⟨settings, between, configured, asked, by rw [shown, works]⟩
  · exact absurd examined (lacks network record)
  · exact absurd examined.configured lacks

theorem examined_of_returned
    (returns : (run environment surroundings files).1 = .returned results) :
    ∃ network record, Examined environment surroundings files network record := by
  rw [ending_run] at returns
  obtain ⟨later, works, -⟩ := conclude_of_returned returns
  obtain ⟨network, record, -, -, examined, -⟩ | ⟨-, -, fault, _, -, fails⟩ | ⟨-, fault, fails⟩ :=
    examine_cases files rfl requests_opening
  · exact ⟨network, record, examined⟩
  · simp [fails] at works
  · simp [fails] at works

/-- Where the contract at an address is looked up. -/
def lookupUrl (environment : Environment) (address : Json) : String :=
  contractUrl (withoutTrailing '/' (environment.valueOr "LCD_URL" "")) address

/-- A verification that passes has confirmed the contract of every populated field. -/
theorem confirmed_of_returned
    (examined : Examined environment surroundings files network record)
    (returns : (run environment surroundings files).1 = .returned results) :
    record.fields ≠ [] ∧ ∀ entry ∈ record.populated, ∃ reply,
      .request (lookupUrl environment entry.2) reply ∈
        (run environment surroundings files).2.chain.events ∧ reply.finds = true := by
  obtain ⟨settings, between, configured, -, ends⟩ := shown_of_examined examined
  obtain ⟨-, -, url, -, -⟩ := Settings.ofEnvironment_ok configured
  rw [ending_run, ends] at returns
  rw [chain_run, ends]
  obtain ⟨later, works, verified, last⟩ := conclude_of_returned returns
  have recorded : record.fields ≠ [] := by
    intro blank
    simp [verifyRecord_of_blank blank] at works
  refine ⟨recorded, ?_⟩
  rw [verifyRecord_of_recorded recorded] at works
  obtain ⟨found, between, verifies, same⟩ := bind_ok_iff.mp works
  obtain ⟨rfl, rfl⟩ : found = results ∧ between = later := by
    simpa [pure, EStateM.pure] using same
  intro entry member
  rw [← examined.addresses_eq] at member
  obtain ⟨reply, happened, finds⟩ := confirmed_of_verified verifies verified entry member
  rw [lookupUrl, ← url, last]
  exact ⟨reply, by simp [Session.printed, Session.print, Session.add, happened], finds⟩

/-- Without a populated field no contract is looked up. A record without fields is reported to have
no contracts, and with any other record the verification passes. -/
theorem run_of_unpopulated (examined : Examined environment surroundings files network record)
    (unpopulated : record.populated = []) :
    let ending := (run environment surroundings files).1
    let session := (run environment surroundings files).2.chain
    session.requests = [DeployEntry.nodeInfoUrl environment] ∧
      (record.fields = [] → ending = .exited 1 ∧ session.events.getLast? =
        some (.line ("[WARN] No contracts recorded for " ++ network.text))) ∧
      (record.fields ≠ [] → ending = .returned [] ∧ session.events.getLast? =
        some (.line "Deployment verification PASSED!")) := by
  obtain ⟨settings, between, -, asked, ends⟩ := shown_of_examined examined
  rw [ending_run, chain_run, ends]
  by_cases blank : record.fields = []
  · rw [verifyRecord_of_blank blank]
    refine ⟨(requests_printed _ _).trans asked, fun _ => ⟨rfl, ?_⟩, absurd blank⟩
    exact List.getLast?_concat
  · rw [verifyRecord_of_recorded blank,
      bind_of_ok (verifyFields_of_unpopulated (examined.addresses_eq.trans unpopulated))]
    refine ⟨?_, fun empty => absurd empty blank, fun _ => ⟨rfl, ?_⟩⟩
    · exact (requests_printed _ _).trans ((requests_printed _ _).trans asked)
    · exact List.getLast?_concat

/-- A verification that passes has examined a record with fields, and each of its populated fields
has been looked up with a reply that describes the contract. If no field is populated no contract
is looked up: a record without fields is reported to have no contracts and the verification exits
with status one, and with any other such record it passes. -/
theorem passed_confirms_populated (environment : Environment) (surroundings : Surroundings)
    (files : FileTree) :
    let ending := (run environment surroundings files).1
    let session := (run environment surroundings files).2.chain
    (∀ results, ending = .returned results →
      ∃ network record, Examined environment surroundings files network record ∧
        record.fields ≠ [] ∧ ∀ entry ∈ record.populated, ∃ reply info,
          .request (lookupUrl environment entry.2) reply ∈ session.events ∧
          reply.contractInfo? = some info ∧ info ≠ .null) ∧
    ∀ network record, Examined environment surroundings files network record →
      record.populated = [] →
      session.requests = [DeployEntry.nodeInfoUrl environment] ∧
        (record.fields = [] → ending = .exited 1 ∧ session.events.getLast? =
          some (.line ("[WARN] No contracts recorded for " ++ network.text))) ∧
        (record.fields ≠ [] → ending = .returned [] ∧ session.events.getLast? =
          some (.line "Deployment verification PASSED!")) := by
  refine ⟨?_, fun _ _ => run_of_unpopulated⟩
  intro results returns
  obtain ⟨network, record, examined⟩ := examined_of_returned returns
  obtain ⟨recorded, confirmed⟩ := confirmed_of_returned examined returns
  refine ⟨network, record, examined, recorded, ?_⟩
  intro entry member
  obtain ⟨reply, happened, finds⟩ := confirmed entry member
  obtain ⟨info, told, present⟩ := Reply.finds_iff.mp finds
  exact ⟨reply, info, happened, told, present⟩

/-- A chain that knows all contracts has confirmed both that are recorded. -/
theorem passed_confirms_populated_knowing :
    ∃ network record, Examined workingEnvironment knowingChain recordedFiles network record ∧
      record.populated.map Prod.fst = ["satelliteAddress", "ibcControllerAddress"] ∧
      ∀ entry ∈ record.populated, ∃ reply info,
        .request (lookupUrl workingEnvironment entry.2) reply ∈
          (run workingEnvironment knowingChain recordedFiles).2.chain.events ∧
        reply.contractInfo? = some info ∧ info ≠ .null := by
  obtain ⟨passed, -⟩ := passed_confirms_populated workingEnvironment knowingChain recordedFiles
  obtain ⟨network, record, examined, -, confirmed⟩ := passed _ returned_knowingChain
  obtain ⟨_, other, examinedOther, -, -, results⟩ :=
    (returned_iff wellShaped_knowingChain _).mp returned_knowingChain
  obtain rfl := examined.unique examinedOther
  refine ⟨network, other, examined, ?_, confirmed⟩
  simpa [Function.comp_def] using (congrArg (List.map Prod.fst) results).symm

/-- A record with one field, which is blank. -/
def blankRecord : ByteArray := String.toUTF8 "\x7b\"satelliteAddress\":\"\"\x7d"

theorem read_blankRecord : ∃ record,
    (DeployEntry.store workingEnvironment).read (treeWithRecord blankRecord) (.string "pisco-1") =
      .ok record ∧ record.fields ≠ [] ∧ record.populated = [] := by
  have holds : (Json.ofBytes blankRecord).toOption.any (fun value =>
      value.asMembers.toOption.any fun fields =>
        !fields.isEmpty && (fields.filter (·.2.isTruthy)).isEmpty) = true := by
    decide +kernel
  obtain ⟨value, decoded, holds⟩ := (Option.any_eq_true ..).mp holds
  obtain ⟨fields, takes, holds⟩ := (Option.any_eq_true ..).mp holds
  obtain rfl := Json.eq_object_of_asMembers (toOption_eq_some.mp takes)
  obtain ⟨recorded, unpopulated⟩ := (Bool.and_eq_true _ _).mp holds
  refine ⟨⟨.string "pisco-1", fields⟩, ?_, by simpa using recorded, by
    simpa [NetworkRecord.populated] using unpopulated⟩
  exact (ArtifactStore.opens_read _ (find?_treeWithRecord blankRecord)).object fields
    ⟨_, rfl, toOption_eq_some.mp decoded⟩

/-- With a record of blank fields the verification passes, and has confirmed nothing. -/
theorem passed_of_blankRecord :
    ∃ network record,
      Examined workingEnvironment knowingChain (treeWithRecord blankRecord) network record ∧
      record.populated = [] ∧
      (run workingEnvironment knowingChain (treeWithRecord blankRecord)).1 = .returned [] ∧
      (run workingEnvironment knowingChain (treeWithRecord blankRecord)).2.chain.events.getLast? =
        some (.line "Deployment verification PASSED!") ∧
      (run workingEnvironment knowingChain (treeWithRecord blankRecord)).2.chain.requests =
        [DeployEntry.nodeInfoUrl workingEnvironment] := by
  obtain ⟨record, reads, recorded, unpopulated⟩ := read_blankRecord
  have examined : Examined workingEnvironment knowingChain (treeWithRecord blankRecord)
      (.string "pisco-1") record :=
    ⟨configured_workingEnvironment, chainId?_knowingChain, reads⟩
  obtain ⟨asked, -, passes⟩ := run_of_unpopulated examined unpopulated
  exact ⟨_, record, examined, unpopulated, (passes recorded).1, (passes recorded).2, asked⟩

end VerifyEntry

end ContractRollout
