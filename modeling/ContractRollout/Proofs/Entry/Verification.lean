import ContractRollout.Entry.Verify
import ContractRollout.Proofs.Chain.Contracts
import ContractRollout.Proofs.Config.Defaults
import ContractRollout.Proofs.Entry.Footprint

/-!
# What a verification shows

The verification entry point returns exactly if every contract in the record of the network is
found on chain. It looks the contracts up one after the other, each once, and asks the chain for
nothing else but its id. If a contract is not found it goes on with the others; only a request
that gives no value ends it. It issues no command and leaves the files as they are.
-/

namespace ContractRollout

namespace NetworkRecord

/-- The populated fields of a record with their addresses, in order. -/
def populated (record : NetworkRecord) : List (String × Json) :=
  record.fields.filter (·.2.isTruthy)

/-- Some fields with their addresses, those left out that are not populated. -/
def addresses (record : NetworkRecord) (fields : List String) : List (String × Json) :=
  fields.filterMap fun field => (record.get? field).map (field, ·)

theorem addresses_keys {record : NetworkRecord} (distinct : record.fields.keys.Nodup) :
    record.addresses record.fields.keys = record.populated := by
  have fields := Members.eq_map_value distinct
  conv_rhs => rw [populated, fields, ← List.filterMap_eq_filter, List.filterMap_map]
  apply List.filterMap_congr
  intro field _
  by_cases truthy : (record.fields.value field).isTruthy = true
  · simp [get?, truthy]
  · simp [get?, truthy, Option.guard]

end NetworkRecord

namespace VerifyEntry

/-! ### Looking contracts up -/

variable {connection : Connection} {record : NetworkRecord} {session : Session}

/-- Verifying a contract sends one request. It gives whether the reply finds the contract, and
fails if the reply does not say. -/
theorem verifyContract_reply (shaped : connection.surroundings.WellShaped) (field : String)
    (address : Json) (session : Session) {reply : Reply}
    (replied : connection.surroundings.reply session
      (contractUrl connection.settings.lcdUrl address) = reply) :
    ∃ later, later.requests = session.requests ++ [contractUrl connection.settings.lcdUrl address] ∧
      ((reply.contractInfo? ≠ none ∧
          verifyContract connection field address session = .ok reply.finds later) ∨
        (reply.contractInfo? = none ∧ ∃ cause,
          verifyContract connection field address session = .error (.deployment cause) later)) := by
  have asked := session.requests_request (contractUrl connection.settings.lcdUrl address) reply
  unfold verifyContract
  rcases connection.contractInfo_reply address session shaped replied with
    ⟨info, told, described, answers⟩ | ⟨silent, cause, fails⟩
  · rw [bind_of_ok answers]
    have heard : reply.contractInfo? ≠ none := by simp [told]
    rcases described with rfl | ⟨members, rfl⟩
    · have lost : reply.finds = false := Reply.finds_of_absent told
      rw [lost]
      exact ⟨_, by rw [Session.requests_line, asked], .inl ⟨heard, rfl⟩⟩
    · have found : reply.finds = true := Reply.finds_iff.mpr ⟨_, told, by simp⟩
      rw [found]
      refine ⟨_, ?_, .inl ⟨heard, rfl⟩⟩
      simp only [Session.requests_line, asked]
  · rw [bind_of_error fails]
    exact ⟨_, asked, .inr ⟨silent, cause, rfl⟩⟩

/-- Fields are verified one after the other, each with the reply to its own request, until a
reply does not say whether the contract is there. -/
theorem verifyFields_lookups (connection : Connection)
    (shaped : connection.surroundings.WellShaped) (record : NetworkRecord) (fields : List String)
    (session : Session) :
    let addresses := record.addresses fields
    let lookups :=
      connection.surroundings.lookups connection.settings.lcdUrl session.requests addresses
    let urls := addresses.map fun (_, address) => contractUrl connection.settings.lcdUrl address
    ∃ looked later, later.requests = session.requests ++ looked ∧
      (((∀ lookup ∈ lookups, lookup.2.contractInfo? ≠ none) ∧ looked = urls ∧
          verifyFields connection record fields session =
            .ok (lookups.map fun (field, reply) => (field, reply.finds)) later) ∨
        ((∃ lookup ∈ lookups, lookup.2.contractInfo? = none) ∧ looked <+: urls ∧
          ∃ cause, verifyFields connection record fields session =
            .error (.deployment cause) later)) := by
  dsimp only
  -- The requests so far decide which reply the next lookup gets, so the session is general.
  induction fields generalizing session with
  | nil =>
      refine ⟨[], session, by simp, .inl ⟨?_, rfl, rfl⟩⟩
      simp [NetworkRecord.addresses, Surroundings.lookups]
  | cons field rest ih =>
      unfold verifyFields
      cases held : record.get? field with
      | none =>
          have skipped : record.addresses (field :: rest) = record.addresses rest := by
            simp [NetworkRecord.addresses, held]
          rw [skipped]
          exact ih session
      | some address =>
          have next :
              record.addresses (field :: rest) = (field, address) :: record.addresses rest := by
            simp [NetworkRecord.addresses, held]
          rw [next]
          obtain ⟨between, asked, ⟨heard, verifies⟩ | ⟨silent, cause, fails⟩⟩ :=
            verifyContract_reply shaped field address session rfl
          · obtain ⟨looked, later, askedMore, outcome⟩ := ih between
            rw [asked] at outcome askedMore
            refine ⟨contractUrl connection.settings.lcdUrl address :: looked, later,
              by rw [askedMore, List.append_assoc]; rfl, ?_⟩
            simp only [Surroundings.lookups, List.map_cons, List.forall_mem_cons,
              bind_of_ok verifies]
            rcases outcome with
              ⟨answered, rfl, works⟩ | ⟨⟨lookup, member, unheard⟩, early, cause, fails⟩
            · exact .inl ⟨⟨heard, answered⟩, rfl, by rw [bind_of_ok works]; rfl⟩
            · exact .inr ⟨⟨lookup, List.mem_cons_of_mem _ member, unheard⟩,
                List.cons_prefix_cons.mpr ⟨rfl, early⟩, cause, bind_of_error fails⟩
          · refine ⟨[contractUrl connection.settings.lcdUrl address], between, asked, .inr ?_⟩
            simp only [Surroundings.lookups, List.map_cons]
            exact ⟨⟨_, List.mem_cons_self, silent⟩,
              List.cons_prefix_cons.mpr ⟨rfl, List.nil_prefix⟩, cause, bind_of_error fails⟩

/-! ### The work -/

variable {environment : Environment} {surroundings : Surroundings} {files : FileTree}
  {network other : Json} {otherRecord : NetworkRecord}

/-- The settings of an environment are valid. -/
def Configured (environment : Environment) : Prop :=
  ∃ settings, Settings.ofEnvironment environment = .ok settings

/-- A verification comes as far as the record of the network: the settings are valid, the node
tells the id of its chain, and the record of this network is read. -/
structure Examined (environment : Environment) (surroundings : Surroundings) (files : FileTree)
    (network : Json) (record : NetworkRecord) : Prop where
  configured : Configured environment
  told : (surroundings.lcd (DeployEntry.nodeInfoUrl environment) 0).chainId? = some network
  reads : (DeployEntry.store environment).read files network = .ok record

theorem Examined.unique (examined : Examined environment surroundings files network record)
    (examinedOther : Examined environment surroundings files other otherRecord) :
    otherRecord = record := by
  obtain rfl := Option.some.inj (examined.told.symm.trans examinedOther.told)
  exact ArtifactStore.read_unique examinedOther.reads examined.reads

/-- The fields that are looked up are the populated ones. -/
theorem Examined.addresses_eq
    (examined : Examined environment surroundings files network record) :
    record.addresses record.fields.keys = record.populated := by
  cases (ArtifactStore.read_legible examined.reads).2 with
  | object distinct _ => exact NetworkRecord.addresses_keys distinct

/-- Where the contracts in a record are looked up. -/
def contractUrls (environment : Environment) (record : NetworkRecord) : List String :=
  record.populated.map fun (_, address) =>
    contractUrl (withoutTrailing '/' (environment.valueOr "LCD_URL" "")) address

/-- The populated fields of a record, each with the reply to the lookup of its address. The
lookups follow the request for the description of the node. -/
def lookups (environment : Environment) (surroundings : Surroundings) (record : NetworkRecord) :
    List (String × Reply) :=
  surroundings.lookups (withoutTrailing '/' (environment.valueOr "LCD_URL" ""))
    [DeployEntry.nodeInfoUrl environment] record.populated

/-- The ways that the work can go, with what it ends in. -/
inductive ExamineOutcome (environment : Environment) (surroundings : Surroundings)
    (files : FileTree) :
    EStateM.Result Fault Session (Option (List (String × Bool))) → Prop
  | unconfigured {fault : Fault} {later : Session}
      (lacks : ¬ Configured environment)
      (asked : later.requests = []) :
      ExamineOutcome environment surroundings files (.error fault later)
  | unexamined {fault : Fault} {later : Session}
      (configured : Configured environment)
      (lacks : ∀ network record, ¬ Examined environment surroundings files network record)
      (asked : later.requests = [DeployEntry.nodeInfoUrl environment]) :
      ExamineOutcome environment surroundings files (.error fault later)
  | unrecorded {network : Json} {record : NetworkRecord} {later : Session}
      (examined : Examined environment surroundings files network record)
      (blank : record.fields = [])
      (asked : later.requests = [DeployEntry.nodeInfoUrl environment]) :
      ExamineOutcome environment surroundings files (.ok none later)
  | unheard {network : Json} {record : NetworkRecord} {looked : List String} {fault : Fault}
      {later : Session} (examined : Examined environment surroundings files network record)
      (silent : ∃ lookup ∈ lookups environment surroundings record, lookup.2.contractInfo? = none)
      (asked : later.requests = DeployEntry.nodeInfoUrl environment :: looked)
      (early : looked <+: contractUrls environment record) :
      ExamineOutcome environment surroundings files (.error fault later)
  | answered {network : Json} {record : NetworkRecord} {later : Session}
      (examined : Examined environment surroundings files network record)
      (recorded : record.fields ≠ [])
      (heard : ∀ lookup ∈ lookups environment surroundings record, lookup.2.contractInfo? ≠ none)
      (asked : later.requests =
        DeployEntry.nodeInfoUrl environment :: contractUrls environment record) :
      ExamineOutcome environment surroundings files
        (.ok (some ((lookups environment surroundings record).map fun (field, reply) =>
          (field, reply.finds))) later)

theorem verifyRecord_outcome (shaped : surroundings.WellShaped) {settings : Settings}
    (configured : Settings.ofEnvironment environment = .ok settings)
    (examined : Examined environment surroundings files network record)
    (asked : session.requests = [DeployEntry.nodeInfoUrl environment]) :
    ExamineOutcome environment surroundings files
      (verifyRecord ⟨settings, surroundings⟩ network record session) := by
  obtain ⟨-, -, url, -, -⟩ := Settings.ofEnvironment_ok configured
  unfold verifyRecord
  rw [bind_of_ok (printLine_eq _ _), bind_of_ok (printLine_eq _ _)]
  by_cases blank : record.fields = []
  · rw [if_pos (by simpa using blank), bind_of_ok (printLine_eq _ _)]
    exact .unrecorded examined blank (by simpa using asked)
  · rw [if_neg (by simpa using blank)]
    have outcome := verifyFields_lookups ⟨settings, surroundings⟩ shaped record record.fields.keys
      ((session.add (.line ("Network: " ++ network.text))).add (.line ""))
    simp only [Session.requests_line, asked, examined.addresses_eq, url] at outcome
    obtain ⟨looked, later, askedMore,
      ⟨heard, rfl, works⟩ | ⟨silent, early, cause, fails⟩⟩ := outcome
    · rw [bind_of_ok works]
      exact .answered examined blank heard askedMore
    · rw [bind_of_error fails]
      exact .unheard examined silent askedMore early

/-- The work on files that stay as they are, as a part of a session. -/
def examine (environment : Environment) (surroundings : Surroundings) (files : FileTree) :
    ChainAction (Option (List (String × Bool))) := do
  let settings ← orFault (Settings.ofEnvironment environment)
  let network ← (Connection.mk settings surroundings).chainId
  let record ← orFault (ArtifactStore.read { path := settings.artifactsPath } files network)
  verifyRecord ⟨settings, surroundings⟩ network record

/-- The work changes no files: it only reads them between two parts of its session. -/
theorem work_eq (environment : Environment) (surroundings : Surroundings) :
    work environment surroundings = RunAction.ofChain (examine environment surroundings) := by
  unfold work examine
  simp only [RunAction.ofChain_bind, RunAction.ofChain_orFault, RunAction.ofChain_read]

/-- The work comes as far as the record that is examined, and then has asked for the description of
the node and for nothing else. It fails if no record is examined. -/
theorem examine_cases (files : FileTree) (unknown : session.chainId = none)
    (unasked : session.requests = []) :
    (∃ network record settings between, Examined environment surroundings files network record ∧
      Settings.ofEnvironment environment = .ok settings ∧
      between.requests = [DeployEntry.nodeInfoUrl environment] ∧
      examine environment surroundings files session =
        verifyRecord ⟨settings, surroundings⟩ network record between) ∨
    (Configured environment ∧
      (∀ network record, ¬ Examined environment surroundings files network record) ∧
      ∃ fault later, later.requests = [DeployEntry.nodeInfoUrl environment] ∧
        examine environment surroundings files session = .error fault later) ∨
    (¬ Configured environment ∧
      ∃ fault, examine environment surroundings files session = .error fault session) := by
  have replied (url : String) : surroundings.reply session url = surroundings.lcd url 0 := by
    rw [Surroundings.reply, unasked, List.count_nil]
  have asked (url : String) (reply : Reply) :
      (session.add (.request url reply)).requests = [url] := by
    rw [Session.requests_request, unasked, List.nil_append]
  unfold examine
  cases configured : Settings.ofEnvironment environment with
  | error fault =>
      exact .inr (.inr ⟨by simp [Configured, configured], fault,
        bind_of_error (orFault_error.mpr ⟨rfl, rfl⟩)⟩)
  | ok settings =>
      have asks := (Connection.mk settings surroundings).chainId_reply unknown (replied _)
      rw [DeployEntry.nodeInfoUrl_eq configured] at asks
      rw [bind_of_ok (orFault_ok.mpr ⟨rfl, rfl⟩), DeployEntry.store_eq configured]
      rcases asks with ⟨network, told, learns⟩ | ⟨fault, untold, fails⟩
      · rw [bind_of_ok learns]
        cases reads : (DeployEntry.store environment).read files network with
        | error fault =>
            rw [bind_of_error (orFault_error.mpr ⟨rfl, rfl⟩)]
            refine .inr (.inl ⟨⟨settings, configured⟩, ?_, fault, _, ?_, rfl⟩)
            · intro other record examined
              obtain rfl := Option.some.inj (examined.told.symm.trans told)
              simpa [reads] using examined.reads
            · exact asked _ _
        | ok record =>
            rw [bind_of_ok (orFault_ok.mpr ⟨rfl, rfl⟩)]
            refine .inl ⟨network, record, settings, _, ⟨⟨settings, configured⟩, told, reads⟩, rfl,
              ?_, rfl⟩
            exact asked _ _
      · rw [bind_of_error fails]
        refine .inr (.inl ⟨⟨settings, configured⟩, ?_, fault, _, asked _ _, rfl⟩)
        intro network record examined
        simpa [untold] using examined.told

/-- The work of a verification goes one of the ways. -/
theorem examine_outcome (shaped : surroundings.WellShaped) (files : FileTree)
    (unknown : session.chainId = none) (unasked : session.requests = []) :
    ExamineOutcome environment surroundings files
      (examine environment surroundings files session) := by
  rcases examine_cases files unknown unasked with
    ⟨network, record, settings, between, examined, configured, asked, works⟩ |
    ⟨configured, lacks, fault, later, asked, fails⟩ | ⟨lacks, fault, fails⟩
  · rw [works]
    exact verifyRecord_outcome shaped configured examined asked
  · rw [fails]
    exact .unexamined configured lacks asked
  · rw [fails]
    exact .unconfigured lacks unasked

/-! ### The end of a verification -/

/-- How the verification ends after its work. -/
def conclude (result : EStateM.Result Fault Session (Option (List (String × Bool)))) :
    Ending (List (String × Bool)) × Session :=
  match result with
  | .ok none session => (.exited 1, session)
  | .ok (some results) session =>
      if results.all (·.2) then
        (.returned results, Session.printed ["", "Deployment verification PASSED!"] session)
      else (.exited 1, Session.printed ["", "Deployment verification FAILED!"] session)
  | .error fault session =>
      if fault.isReported then (.exited 1, Session.printed ["[ERROR] " ++ fault.message] session)
      else (.crashed fault, session)

/-- The session that the work starts in. -/
def opening : Session := Session.printed banner {}

/-- What a verification shows of files: how it ends, and its session. -/
def shown (environment : Environment) (surroundings : Surroundings) (files : FileTree) :
    Ending (List (String × Bool)) × Session :=
  conclude (examine environment surroundings files opening)

/-- A verification is what it shows of its files, and they stay. -/
theorem run_eq (environment : Environment) (surroundings : Surroundings) (files : FileTree) :
    run environment surroundings files =
      ((shown environment surroundings files).1,
        { RunState.started files with chain := (shown environment surroundings files).2 }) := by
  unfold run shown
  rw [work_eq]
  cases works : examine environment surroundings files opening with
  | ok answer later =>
      rw [RunAction.ofChain_of_ok works]
      cases answer with
      | none => rfl
      | some results =>
          by_cases verified : results.all (·.2) = true
          · simp only [conclude, if_pos verified]
            rfl
          · simp only [conclude, if_neg verified]
            rfl
  | error fault later =>
      rw [RunAction.ofChain_of_error works]
      by_cases reported : fault.isReported = true
      · simp only [conclude, if_pos reported]
        rfl
      · simp only [conclude, if_neg reported]
        rfl

theorem ending_run (environment : Environment) (surroundings : Surroundings) (files : FileTree) :
    (run environment surroundings files).1 = (shown environment surroundings files).1 := by
  rw [run_eq]

theorem chain_run (environment : Environment) (surroundings : Surroundings) (files : FileTree) :
    (run environment surroundings files).2.chain = (shown environment surroundings files).2 := by
  rw [run_eq]

/-- A verification leaves the files as they are. -/
theorem files_run (environment : Environment) (surroundings : Surroundings) (files : FileTree) :
    (run environment surroundings files).2.files = files := by
  rw [run_eq]
  rfl

theorem requests_printed (lines : List String) (session : Session) :
    (Session.printed lines session).requests = session.requests := by
  have prints (text : String) : Event.IsLine (.line text) := trivial
  obtain ⟨-, happened, adds, only⟩ := Session.goesOn_lines prints lines session
  rw [Session.requests, Session.printed, adds, List.filterMap_append, requests_of_lines only,
    List.append_nil, Session.requests]

theorem requests_opening : opening.requests = [] := requests_printed banner {}

theorem commands_printed (lines : List String) (session : Session) :
    commands (Session.printed lines session).events = commands session.events := by
  have prints (text : String) : Event.IsLine (.line text) := trivial
  obtain ⟨-, happened, adds, only⟩ := Session.goesOn_lines prints lines session
  rw [Session.printed, adds, commands_append, commands_of_lines only, List.append_nil]

/-- The last lines of a verification are only lines. -/
theorem conclude_snd (result : EStateM.Result Fault Session (Option (List (String × Bool)))) :
    ∃ lines, (conclude result).2 = Session.printed lines (finalState result) := by
  unfold conclude
  split
  · exact ⟨[], rfl⟩
  · split
    · exact ⟨_, rfl⟩
    · exact ⟨_, rfl⟩
  · split
    · exact ⟨_, rfl⟩
    · exact ⟨[], rfl⟩

theorem conclude_of_returned {result : EStateM.Result Fault Session (Option (List (String × Bool)))}
    {results : List (String × Bool)} (returns : (conclude result).1 = .returned results) :
    ∃ later, result = .ok (some results) later ∧ results.all (·.2) = true ∧
      (conclude result).2 = Session.printed ["", "Deployment verification PASSED!"] later := by
  unfold conclude at returns ⊢
  split at returns
  · simp at returns
  · rename_i found later
    split at returns
    · rename_i verified
      obtain rfl := Ending.returned.inj returns
      exact ⟨later, rfl, verified, by simp [verified]⟩
    · simp at returns
  · split at returns
    · simp at returns
    · simp at returns

/-! ### What is sent -/

theorem quiet_verifyContract (connection : Connection) (field : String) (address : Json) :
    Quiet (verifyContract connection field address) := by
  unfold verifyContract Connection.contractInfo
  apply (connection.quiet_fetchField _ _).bind
  intro info
  split
  · exact (quiet_printLine _).bind fun _ => quiet_pure _
  · apply (quiet_printLine _).bind
    intro _
    apply (quiet_orFault _).bind
    intro members
    apply (quiet_printLine _).bind
    intro _
    apply (quiet_printLine _).bind
    intro _
    exact (quiet_printLine _).bind fun _ => quiet_pure _

theorem quiet_verifyFields (connection : Connection) (record : NetworkRecord)
    (fields : List String) : Quiet (verifyFields connection record fields) := by
  induction fields with
  | nil => exact quiet_pure _
  | cons field rest ih =>
      unfold verifyFields
      split
      · exact ih
      · apply (quiet_verifyContract connection field _).bind
        intro found
        exact ih.bind fun _ => quiet_pure _

/-- A verification issues no command. -/
theorem quiet_examine (environment : Environment) (surroundings : Surroundings) (files : FileTree) :
    Quiet (examine environment surroundings files) := by
  unfold examine
  apply (quiet_orFault _).bind
  intro settings
  apply (Connection.quiet_chainId _).bind
  intro network
  apply (quiet_orFault _).bind
  intro record
  unfold verifyRecord
  apply (quiet_printLine _).bind
  intro _
  apply (quiet_printLine _).bind
  intro _
  split
  · exact (quiet_printLine _).bind fun _ => quiet_pure _
  · exact (quiet_verifyFields _ record _).bind fun _ => quiet_pure _

theorem commands_run (environment : Environment) (surroundings : Surroundings) (files : FileTree) :
    commands (run environment surroundings files).2.chain.events = [] := by
  obtain ⟨happened, adds, silent⟩ := quiet_examine environment surroundings files opening
  obtain ⟨lines, same⟩ := conclude_snd (examine environment surroundings files opening)
  rw [chain_run, shown, same, commands_printed, adds, commands_append, opening, commands_printed,
    silent]
  rfl

/-- The requests of a verification are those of its work. -/
theorem requests_run (environment : Environment) (surroundings : Surroundings) (files : FileTree) :
    (run environment surroundings files).2.chain.requests =
      (finalState (examine environment surroundings files opening)).requests := by
  obtain ⟨lines, same⟩ := conclude_snd (examine environment surroundings files opening)
  rw [chain_run, shown, same, requests_printed]

/-! ### The verification -/

theorem examine_opening_outcome (shaped : surroundings.WellShaped) (environment : Environment)
    (files : FileTree) :
    ExamineOutcome environment surroundings files
      (examine environment surroundings files opening) :=
  examine_outcome shaped files rfl requests_opening

/-- If all lookups find their contracts, the results are the populated fields, all true. -/
theorem results_eq (found : ∀ lookup ∈ lookups environment surroundings record,
      lookup.2.finds = true) :
    (lookups environment surroundings record).map (fun (field, reply) => (field, reply.finds)) =
      record.populated.map fun (field, _) => (field, true) := by
  have fields : (lookups environment surroundings record).map Prod.fst =
      record.populated.map Prod.fst := surroundings.fields_lookups _ _ _
  calc (lookups environment surroundings record).map (fun (field, reply) => (field, reply.finds))
      = (lookups environment surroundings record).map (fun (field, _) => (field, true)) :=
        List.map_congr_left fun lookup member => congrArg (lookup.1, ·) (found lookup member)
    _ = ((lookups environment surroundings record).map Prod.fst).map (·, true) := by
        rw [List.map_map]
        rfl
    _ = record.populated.map fun (field, _) => (field, true) := by
        rw [fields, List.map_map]
        rfl

/-- If all lookups are answered, the work does all of them and tells what they find. -/
theorem examine_of_heard (shaped : surroundings.WellShaped)
    (examined : Examined environment surroundings files network record)
    (heard : ∀ lookup ∈ lookups environment surroundings record, lookup.2.contractInfo? ≠ none) :
    ∃ later, later.requests =
        DeployEntry.nodeInfoUrl environment :: contractUrls environment record ∧
      examine environment surroundings files opening =
        .ok (if record.fields = [] then none
          else some ((lookups environment surroundings record).map fun (field, reply) =>
            (field, reply.finds))) later := by
  have outcome := examine_opening_outcome shaped environment files
  generalize examine environment surroundings files opening = result at outcome
  cases outcome with
  | unconfigured lacks => exact absurd examined.configured lacks
  | unexamined _ lacks => exact absurd examined (lacks network record)
  | @unrecorded _ _ later other blank asked =>
      obtain rfl := other.unique examined
      have unpopulated : record.populated = [] := by
        rw [NetworkRecord.populated, blank, List.filter_nil]
      refine ⟨later, ?_, by rw [if_pos blank]⟩
      rw [asked, contractUrls, unpopulated, List.map_nil]
  | unheard other silent =>
      obtain rfl := other.unique examined
      obtain ⟨lookup, member, silent⟩ := silent
      exact absurd silent (heard lookup member)
  | @answered _ _ later other recorded _ asked =>
      obtain rfl := other.unique examined
      exact ⟨later, asked, by rw [if_neg recorded]⟩

/-- A verification returns exactly if all lookups find their contracts. -/
theorem returned_iff (shaped : surroundings.WellShaped) (results : List (String × Bool)) :
    (run environment surroundings files).1 = .returned results ↔
      ∃ network record, Examined environment surroundings files network record ∧
        record.fields ≠ [] ∧
        (∀ lookup ∈ lookups environment surroundings record, lookup.2.finds = true) ∧
        results = record.populated.map fun (field, _) => (field, true) := by
  rw [ending_run, shown]
  constructor
  · intro returns
    have outcome := examine_opening_outcome shaped environment files
    generalize examine environment surroundings files opening = result at outcome returns
    obtain ⟨later, rfl, verified, -⟩ := conclude_of_returned returns
    cases outcome with
    | @answered network record _ examined recorded heard asked =>
        have found : ∀ lookup ∈ lookups environment surroundings record, lookup.2.finds = true := by
          simpa using verified
        exact ⟨network, record, examined, recorded, found, results_eq found⟩
  · rintro ⟨network, record, examined, recorded, found, rfl⟩
    have heard : ∀ lookup ∈ lookups environment surroundings record,
        lookup.2.contractInfo? ≠ none := by
      intro lookup member
      obtain ⟨info, told, -⟩ := Reply.finds_iff.mp (found lookup member)
      simp [told]
    obtain ⟨later, -, works⟩ := examine_of_heard shaped examined heard
    rw [works, if_neg recorded, results_eq found, conclude]
    simp

/-- If all lookups are answered, a verification leaves none of them out, and it exits with status
one if one of them does not find its contract. -/
theorem run_of_heard (shaped : surroundings.WellShaped)
    (examined : Examined environment surroundings files network record)
    (heard : ∀ lookup ∈ lookups environment surroundings record, lookup.2.contractInfo? ≠ none) :
    (run environment surroundings files).2.chain.requests =
        DeployEntry.nodeInfoUrl environment :: contractUrls environment record ∧
      ((∃ lookup ∈ lookups environment surroundings record,
        lookup.2.contractInfo? = some .null) →
        (run environment surroundings files).1 = .exited 1) := by
  obtain ⟨later, asked, works⟩ := examine_of_heard shaped examined heard
  rw [requests_run, ending_run, shown, works]
  refine ⟨asked, ?_⟩
  rintro ⟨lookup, member, absent⟩
  by_cases blank : record.fields = []
  · rw [if_pos blank, conclude]
  · have failed : ¬ ((lookups environment surroundings record).map fun (field, reply) =>
        (field, reply.finds)).all (·.2) = true := by
      intro all
      have found := List.all_eq_true.mp all _ (List.mem_map_of_mem member)
      simp [Reply.finds_of_absent absent] at found
    rw [if_neg blank, conclude, if_neg failed]

/-- With valid settings a verification asks for the description of the node, and then looks
contracts up in the order of the record as far as it comes. Else it asks for nothing. -/
theorem requests_run_cases (shaped : surroundings.WellShaped) (environment : Environment)
    (files : FileTree) :
    (¬ Configured environment ∧
      (run environment surroundings files).2.chain.requests = []) ∨
    (Configured environment ∧
      ∃ looked, (run environment surroundings files).2.chain.requests =
          DeployEntry.nodeInfoUrl environment :: looked ∧
        (looked = [] ∨ ∃ network record, Examined environment surroundings files network record ∧
          looked <+: contractUrls environment record)) := by
  rw [requests_run]
  have outcome := examine_opening_outcome shaped environment files
  generalize examine environment surroundings files opening = result at outcome
  cases outcome with
  | unconfigured lacks asked => exact .inl ⟨lacks, asked⟩
  | unexamined configured _ asked => exact .inr ⟨configured, [], asked, .inl rfl⟩
  | unrecorded examined _ asked => exact .inr ⟨examined.configured, [], asked, .inl rfl⟩
  | unheard examined _ asked early =>
      exact .inr ⟨examined.configured, _, asked, .inr ⟨_, _, examined, early⟩⟩
  | answered examined _ _ asked =>
      exact .inr ⟨examined.configured, _, asked, .inr ⟨_, _, examined, List.prefix_rfl⟩⟩

/-- A verification returns, and has printed that it passed, exactly if the settings are valid, the
node tells the id of its chain, the record of this network has fields, and the contract of each
populated field is found. The results are these fields in the order of the record, all true. If
all lookups are answered none is left out, and the verification exits with status one if one of
them does not find its contract. It issues no command, asks for the description of the node and
then at most once for the contract of each populated field, and leaves the files as they are. -/
theorem verification_sound_complete (environment : Environment) (surroundings : Surroundings)
    (files : FileTree) (shaped : surroundings.WellShaped) :
    let ending := (run environment surroundings files).1
    let session := (run environment surroundings files).2.chain
    (∀ results, ending = .returned results ↔
      ∃ network record, Examined environment surroundings files network record ∧
        record.fields ≠ [] ∧
        (∀ lookup ∈ lookups environment surroundings record,
          ∃ info, lookup.2.contractInfo? = some info ∧ info ≠ .null) ∧
        results = record.populated.map fun (field, _) => (field, true)) ∧
    (∀ results, ending = .returned results →
      session.events.getLast? = some (.line "Deployment verification PASSED!")) ∧
    (∀ network record, Examined environment surroundings files network record →
      (∀ lookup ∈ lookups environment surroundings record, lookup.2.contractInfo? ≠ none) →
      session.requests = DeployEntry.nodeInfoUrl environment :: contractUrls environment record ∧
        ((∃ lookup ∈ lookups environment surroundings record,
          lookup.2.contractInfo? = some .null) → ending = .exited 1)) ∧
    ((¬ Configured environment ∧ session.requests = []) ∨
      (Configured environment ∧
        ∃ looked, session.requests = DeployEntry.nodeInfoUrl environment :: looked ∧
          (looked = [] ∨
            ∃ network record, Examined environment surroundings files network record ∧
              looked <+: contractUrls environment record))) ∧
    commands session.events = [] ∧
    (run environment surroundings files).2.files = files := by
  dsimp only
  refine ⟨?_, ?_, ?_, requests_run_cases shaped environment files, commands_run _ _ _,
    files_run _ _ _⟩
  · intro results
    simp only [returned_iff shaped, Reply.finds_iff]
  · intro results returns
    rw [ending_run] at returns
    obtain ⟨later, -, -, same⟩ := conclude_of_returned returns
    rw [chain_run, shown, same]
    exact List.getLast?_concat
  · exact fun network record examined heard => run_of_heard shaped examined heard

/-! ### A chain that knows all contracts -/

/-- What a node says that tells its chain and describes a contract, all in one. -/
def knowingBody : String :=
  "\x7b\"default_node_info\":\x7b\"network\":\"pisco-1\"\x7d,\"contract_info\":\x7b\x7d\x7d"

def knowingChain : Surroundings where
  lcd _ _ := .answered 200 knowingBody
  cli _ := .notFound

/-- The record of the chain has two contracts, and a field without an address. -/
def recordedFiles : FileTree :=
  FileTree.empty.put (Place.working.child "pisco-1.json") (.file (String.toUTF8
    "\x7b\"satelliteAddress\":\"terra3\",\"spare\":\"\",\"ibcControllerAddress\":\"terra2\"\x7d"))

def workingEnvironment : Environment :=
  [("LCD_URL", "lcd/"), ("WALLET_KEY", "deployer"), ("ARTIFACTS_PATH", ".")]

theorem wellShaped_knowingChain : knowingChain.WellShaped := by
  intro url count status body value replied reads
  obtain ⟨-, rfl⟩ := Reply.answered.inj replied
  have described : (Json.read knowingBody.toList).toOption.all Json.describes = true := by
    decide +kernel
  simpa [reads, Except.toOption] using described

theorem returned_knowingChain :
    (run workingEnvironment knowingChain recordedFiles).1 =
      .returned [("satelliteAddress", true), ("ibcControllerAddress", true)] := by
  have returns : (match (run workingEnvironment knowingChain recordedFiles).1 with
      | .returned results => results == [("satelliteAddress", true), ("ibcControllerAddress", true)]
      | _ => false) = true := by
    decide +kernel
  -- Without this the run would be computed once more wherever its ending is looked at.
  generalize (run workingEnvironment knowingChain recordedFiles).1 = ending at returns ⊢
  cases ending with
  | returned results => exact congrArg Ending.returned (beq_iff_eq.mp returns)
  | exited | crashed => simp at returns

/-- All contracts in the record of a chain that knows them are verified. -/
theorem verification_sound_complete_knowing :
    knowingChain.WellShaped ∧
    ∃ network record,
      (run workingEnvironment knowingChain recordedFiles).1 =
        .returned [("satelliteAddress", true), ("ibcControllerAddress", true)] ∧
      Examined workingEnvironment knowingChain recordedFiles network record ∧
      record.fields ≠ [] ∧
      record.populated.map (fun (field, _) => (field, true)) =
        [("satelliteAddress", true), ("ibcControllerAddress", true)] := by
  have verified := verification_sound_complete workingEnvironment knowingChain recordedFiles
    wellShaped_knowingChain
  obtain ⟨network, record, examined, recorded, -, results⟩ :=
    (verified.1 _).mp returned_knowingChain
  exact ⟨wellShaped_knowingChain, network, record, returned_knowingChain, examined, recorded,
    results.symm⟩

end VerifyEntry

end ContractRollout
