import ContractRollout.Proofs.Config.Chain
import ContractRollout.Proofs.Entry.Verification
import ContractRollout.Proofs.Json.Shapes
import ContractRollout.Proofs.Json.Stops

/-!
# Corrupt files

A file that holds no object is refused with a reason that names it, and the entry points report
the reason. There are two exceptions: bytes that are not UTF-8, and a text in which reading
stops at an integer that is too long. For them no reason is given, and the entry points end
with a fault that they do not report.

Nesting is unbounded, as it is for `Json.read`: a file nested so deeply that a reader runs out
of stack counts here as what it spells.
-/

namespace ContractRollout

/-! ### What stands at a path -/

namespace Entry

/-- A file that holds an object. -/
def HoldsObject (entry : Entry) (members : Members) : Prop :=
  ∃ bytes, entry = .file bytes ∧ Json.ofBytes bytes = .ok (.object members)

/-- A directory, or a file that holds no object. -/
def Corrupt (entry : Entry) : Prop := ∀ members, ¬ entry.HoldsObject members

/-- A file that is not UTF-8, or in which reading stops at an integer that is too long. -/
def Unexplained (entry : Entry) : Prop :=
  ∃ bytes, entry = .file bytes ∧ (fileText? bytes = none ∨ ∃ text error,
    fileText? bytes = some text ∧ Json.read text = .error error ∧ error.problem = .longInteger)

end Entry

/-- A cause whose message tells a path. -/
def ConfigurationCause.Names (cause : ConfigurationCause) (path : Path) : Prop :=
  ∃ before after, cause.message = before ++ path.toString ++ after

namespace ConfigurationCause.Names

theorem recordUnreadable (path : Path) (error : DocumentError) :
    (ConfigurationCause.recordUnreadable path error).Names path :=
  ⟨"Cannot read network record ", ": " ++ error.message, String.append_assoc⟩

theorem recordShape (path : Path) : (ConfigurationCause.recordShape path).Names path :=
  ⟨"Network record ", " must be a JSON object", rfl⟩

theorem configsUnreadable (path : Path) (error : DocumentError) :
    (ConfigurationCause.configsUnreadable path error).Names path :=
  ⟨"Cannot read chain configs ", ": " ++ error.message, String.append_assoc⟩

theorem configsShape (path : Path) : (ConfigurationCause.configsShape path).Names path :=
  ⟨"Chain configs ", " must be a JSON object", rfl⟩

end ConfigurationCause.Names

/-! ### Documents -/

/-- Whether the reason why a file holds no value is given. -/
def DocumentError.isExplained : DocumentError → Bool
  | .file _ => true
  | .encoding => false
  | .text error => error.problem ≠ .longInteger

theorem DocumentError.fault_of_explained {error : DocumentError} (explained : error.isExplained = true)
    (cause : DocumentError → ConfigurationCause) :
    error.fault cause = .configuration (cause error) := by
  cases error with
  | file error => rfl
  | encoding => simp [isExplained] at explained
  | text error => exact if_neg (by simpa [isExplained] using explained)

theorem DocumentError.isReported_of_unexplained {error : DocumentError}
    (unexplained : error.isExplained = false) (cause : DocumentError → ConfigurationCause) :
    (error.fault cause).isReported = false := by
  cases error with
  | file error => simp [isExplained] at unexplained
  | encoding => rfl
  | text error =>
      have long : error.problem = .longInteger := by simpa [isExplained] using unexplained
      rw [fault, if_pos long]
      rfl

theorem Entry.unexplained_file {bytes : ByteArray} :
    (Entry.file bytes).Unexplained ↔
      ∃ error, Json.ofBytes bytes = .error error ∧ error.isExplained = false := by
  unfold Json.ofBytes
  constructor
  · rintro ⟨held, same, undecodable | ⟨text, stop, decodes, stops, long⟩⟩
    · obtain rfl := Entry.file.inj same
      exact ⟨.encoding, by rw [undecodable], rfl⟩
    · obtain rfl := Entry.file.inj same
      exact ⟨.text stop, by rw [decodes]; simp [stops, Except.mapError],
        by simp [DocumentError.isExplained, long]⟩
  · rintro ⟨error, fails, unexplained⟩
    refine ⟨bytes, rfl, ?_⟩
    cases decodes : fileText? bytes with
    | none => exact .inl rfl
    | some text =>
        rw [decodes] at fails
        cases stops : Json.read text with
        | ok value => simp [stops, Except.mapError] at fails
        | error stop =>
            obtain rfl : DocumentError.text stop = error := by
              simpa [stops, Except.mapError] using fails
            exact .inr ⟨text, stop, rfl, stops, by
              simpa [DocumentError.isExplained] using unexplained⟩

theorem Entry.corrupt_of_error {bytes : ByteArray} {error : DocumentError}
    (fails : Json.ofBytes bytes = .error error) : (Entry.file bytes).Corrupt := by
  rintro members ⟨held, same, decoded⟩
  obtain rfl := Entry.file.inj same
  simp [fails] at decoded

namespace FileTree

variable {tree : FileTree} {path : Path} {entry : Entry}

theorem holds_of_find? (stands : tree.find? path = .ok (some entry)) :
    tree.holds path = .ok true := by
  rw [holds, stands]
  rfl

theorem entryAt_of_find? (stands : tree.find? path = .ok (some entry)) :
    tree.locate path = .ok path.place ∧ tree.entryAt path.place = some entry := by
  have located := (holds_ok_true.mp (holds_of_find? stands)).1
  rw [find?, located] at stands
  exact ⟨located, Except.ok.inj stands⟩

theorem document_of_file {bytes : ByteArray} (stands : tree.find? path = .ok (some (.file bytes))) :
    tree.document path = Json.ofBytes bytes := by
  rw [document, content_ok.mpr (entryAt_of_find? stands)]
  rfl

theorem document_of_directory (stands : tree.find? path = .ok (some .directory)) :
    tree.document path = .error (.file (.refused .isDirectory path none)) := by
  obtain ⟨located, there⟩ := entryAt_of_find? stands
  simp [document, content, located, there, bind, Except.bind, Except.mapError]

end FileTree

/-! ### Opening a file -/

variable {α β : Type}

/-- An outcome of going on with the object in a file. Without an object the outcome is a
configuration fault that names the file, or a fault that is not reported. -/
structure Entry.Opens (entry : Entry) (path : Path) (go : Members → Except Fault α)
    (outcome : Except Fault α) : Prop where
  object : ∀ members, entry.HoldsObject members → outcome = go members
  refused : entry.Corrupt → ¬ entry.Unexplained →
    ∃ cause, outcome = .error (.configuration cause) ∧ cause.Names path
  unexplained : entry.Unexplained → ∃ fault, outcome = .error fault ∧ fault.isReported = false

/-- An outcome that goes by the document at a path. -/
theorem FileTree.opens_of_document {tree : FileTree} {path : Path} {entry : Entry}
    (stands : tree.find? path = .ok (some entry)) {go : Members → Except Fault α}
    {outcome : Except Fault α}
    (object : ∀ members, tree.document path = .ok (.object members) → outcome = go members)
    (other : ∀ value, tree.document path = .ok value → (∀ members, value ≠ .object members) →
      ∃ cause, outcome = .error (.configuration cause) ∧ cause.Names path)
    (unread : ∀ error, tree.document path = .error error →
      ∃ cause, outcome = .error (error.fault cause) ∧ (cause error).Names path) :
    entry.Opens path go outcome := by
  cases entry with
  | directory =>
      obtain ⟨cause, fails, names⟩ := unread _ (document_of_directory stands)
      refine ⟨?_, fun _ _ => ⟨_, fails, names⟩, ?_⟩
      · rintro members ⟨bytes, same, -⟩
        simp at same
      · rintro ⟨bytes, same, -⟩
        simp at same
  | file bytes =>
      rw [document_of_file stands] at object other unread
      refine ⟨?_, ?_, ?_⟩
      · rintro members ⟨held, same, decoded⟩
        obtain rfl := Entry.file.inj same
        exact object members decoded
      · intro corrupt apart
        cases holds : Json.ofBytes bytes with
        | ok value =>
            refine other value holds ?_
            rintro members rfl
            exact corrupt members ⟨bytes, rfl, holds⟩
        | error error =>
            have explained : error.isExplained = true := by
              by_contra unexplained
              exact apart (Entry.unexplained_file.mpr ⟨error, holds, by simpa using unexplained⟩)
            obtain ⟨cause, fails, names⟩ := unread error holds
            rw [DocumentError.fault_of_explained explained] at fails
            exact ⟨_, fails, names⟩
      · intro unexplained
        obtain ⟨error, holds, silent⟩ := Entry.unexplained_file.mp unexplained
        obtain ⟨cause, fails, -⟩ := unread error holds
        exact ⟨_, fails, DocumentError.isReported_of_unexplained silent cause⟩

theorem ArtifactStore.opens_read (store : ArtifactStore) {files : FileTree} {network : Json}
    {entry : Entry} (stands : files.find? (store.recordPath network) = .ok (some entry)) :
    entry.Opens (store.recordPath network) (fun fields => .ok ⟨network, fields⟩)
      (store.read files network) := by
  have there := FileTree.holds_of_find? stands
  apply FileTree.opens_of_document stands
  · intro fields document
    simp [read, there, document, bind, Except.bind, Except.mapError, pure, Except.pure]
  · intro value document apart
    refine ⟨.recordShape (store.recordPath network), ?_, .recordShape _⟩
    cases value with
    | object fields => exact absurd rfl (apart fields)
    | _ => simp [read, there, document, bind, Except.bind, Except.mapError, throw, throwThe,
        MonadExceptOf.throw]
  · intro error document
    refine ⟨.recordUnreadable (store.recordPath network), ?_, .recordUnreadable _ error⟩
    simp [read, there, document, bind, Except.bind, Except.mapError]

theorem ChainConfigs.opens_load {files : FileTree} {environment : Environment}
    {given : Option String} {entry : Entry}
    (stands : files.find? (path environment given) = .ok (some entry)) :
    entry.Opens (path environment given) (fun members => ofJson (.object members))
      (load files environment given) := by
  have there := FileTree.holds_of_find? stands
  apply FileTree.opens_of_document stands
  · exact fun members document => load_of_document there document
  · intro value document apart
    refine ⟨.configsShape (path environment given), ?_, .configsShape _⟩
    cases value with
    | object members => exact absurd rfl (apart members)
    | _ => simp [load, there, document, bind, Except.bind, Except.mapError, throw, throwThe,
        MonadExceptOf.throw]
  · intro error document
    refine ⟨.configsUnreadable (path environment given), ?_, .configsUnreadable _ error⟩
    simp [load, there, document, bind, Except.bind, Except.mapError]

/-! ### Chain configs of a wrong shape -/

theorem partMembers_error {value : Json} {name : String} {fault : Fault}
    (refuses : partMembers value name = .error fault) : ∃ cause, fault = .configuration cause := by
  unfold partMembers at refuses
  split at refuses
  · simp at refuses
  · split at refuses
    · simp at refuses
    · exact ⟨_, (Except.error.inj refuses).symm⟩

theorem ContractConfig.ofJson_error {value : Json} {name : String} {fault : Fault}
    (refuses : ContractConfig.ofJson value name = .error fault) :
    ∃ cause, fault = .configuration cause := by
  rcases bind_eq_error.mp refuses with outer | ⟨members, -, refuses⟩
  · exact partMembers_error outer
  · rcases bind_eq_error.mp refuses with inner | ⟨initMessage, -, same⟩
    · exact partMembers_error inner
    · simp [pure, Except.pure] at same

/-- Chain configs in an object are taken, or they are refused. -/
theorem ChainConfigs.ofJson_error {members : Members} {fault : Fault}
    (refuses : ChainConfigs.ofJson (.object members) = .error fault) :
    ∃ cause, fault = .configuration cause := by
  rcases bind_eq_error.mp refuses with misshapen | ⟨members, -, refuses⟩
  · simp [Json.asMembers] at misshapen
  rcases bind_eq_error.mp refuses with general | ⟨general, -, refuses⟩
  · exact partMembers_error general
  rcases bind_eq_error.mp refuses with bridge | ⟨cw20Ics20, -, refuses⟩
  · exact ContractConfig.ofJson_error bridge
  rcases bind_eq_error.mp refuses with controller | ⟨controller, -, refuses⟩
  · exact ContractConfig.ofJson_error controller
  rcases bind_eq_error.mp refuses with satellite | ⟨satellite, -, same⟩
  · exact ContractConfig.ofJson_error satellite
  · simp [pure, Except.pure] at same

/-! ### The entry points -/

/-- An entry point that goes by an outcome. It exits with status one after a line with the
message of a configuration fault, and a fault that is not reported ends it. -/
structure GoesBy (outcome : Except Fault α) (ending : Ending β) (session : Session) : Prop where
  reports : ∀ cause, outcome = .error (.configuration cause) → ending = .exited 1 ∧
    ∃ lead ∈ ["", "\n"], session.events.getLast? =
      some (.line (lead ++ ("[ERROR] " ++ cause.message)))
  crashes : ∀ fault, outcome = .error fault → fault.isReported = false → ending = .crashed fault

variable {outcome : Except Fault α} {environment : Environment} {surroundings : Surroundings}
  {files : FileTree}

namespace DeployEntry

theorem goesBy_of_stops (stops : ∀ fault, outcome = .error fault →
      ∃ state, run environment surroundings files = conclude (.error fault state)) :
    GoesBy outcome (run environment surroundings files).1
      (run environment surroundings files).2.chain := by
  constructor
  · intro cause fails
    obtain ⟨state, ends⟩ := stops _ fails
    rw [ends]
    refine ⟨rfl, "\n", by simp, ?_⟩
    exact List.getLast?_concat
  · intro fault fails silent
    obtain ⟨state, ends⟩ := stops _ fails
    rw [ends, conclude, if_neg (by simp [silent])]

/-- The deployment entry point goes by the chain configs. -/
theorem goesBy_load (environment : Environment) (surroundings : Surroundings) (files : FileTree) :
    GoesBy (ChainConfigs.load files environment none) (run environment surroundings files).1
      (run environment surroundings files).2.chain := by
  apply goesBy_of_stops
  intro fault fails
  refine ⟨opening files, run_of_unprepared ?_⟩
  rw [prepare_eq, files_opening, fails]
  rfl

/-- Once it is prepared, the deployment entry point goes by the record of the network. -/
theorem goesBy_read {preparation : Preparation} {ready : RunState Session}
    (prepares : prepare environment surroundings (opening files) = .ok preparation ready) :
    GoesBy ((store environment).read files preparation.network)
      (run environment surroundings files).1 (run environment surroundings files).2.chain := by
  have outcome := prepare_outcome environment surroundings files
  rw [prepares] at outcome
  cases outcome with
  | prepared prepared =>
      apply goesBy_of_stops
      intro fault fails
      have reads : preparation.rollout.store.read ready.files preparation.network = .error fault := by
        rw [prepared.store_eq, prepared.files, fails]
      have owns : preparation.rollout.configs.requireMultisig =
          .ok preparation.configs.multisig :=
        if_neg (by simp [Preparation.rollout, prepared.owned])
      refine ⟨ready, ?_⟩
      rw [run_of_prepared prepares, Rollout.run_of_multisig _ owns, bind_of_error]
      exact Rollout.runSteps_of_error (Rollout.takeStep_of_unreadable reads)

end DeployEntry

namespace VerifyEntry

theorem goesBy_of_stops (stops : ∀ fault, outcome = .error fault →
      ∃ later, shown environment surroundings files = conclude (.error fault later)) :
    GoesBy outcome (run environment surroundings files).1
      (run environment surroundings files).2.chain := by
  rw [ending_run, chain_run]
  constructor
  · intro cause fails
    obtain ⟨later, ends⟩ := stops _ fails
    rw [ends]
    refine ⟨rfl, "", by simp, ?_⟩
    exact List.getLast?_concat
  · intro fault fails silent
    obtain ⟨later, ends⟩ := stops _ fails
    rw [ends, conclude, if_neg (by simp [silent])]

/-- Once the node has told the id of its chain, the verification entry point goes by the record
of the network. -/
theorem goesBy_read {network : Json} (configured : Configured environment)
    (told : (surroundings.lcd (DeployEntry.nodeInfoUrl environment) 0).chainId? = some network) :
    GoesBy ((DeployEntry.store environment).read files network)
      (run environment surroundings files).1 (run environment surroundings files).2.chain := by
  apply goesBy_of_stops
  intro fault fails
  obtain ⟨settings, makes⟩ := configured
  have unknown : opening.chainId = none := rfl
  have replied : surroundings.reply opening
      (Connection.mk settings surroundings).nodeInfoUrl =
      surroundings.lcd (DeployEntry.nodeInfoUrl environment) 0 := by
    rw [Surroundings.reply, requests_opening, DeployEntry.nodeInfoUrl_eq makes]
    rfl
  rcases (Connection.mk settings surroundings).chainId_reply unknown replied with
    ⟨other, toldOther, learns⟩ | ⟨_, untold, -⟩
  · obtain rfl : network = other := Option.some.inj (told.symm.trans toldOther)
    obtain ⟨later, learns⟩ : ∃ later, (Connection.mk settings surroundings).chainId
        opening = .ok network later := ⟨_, learns⟩
    refine ⟨later, ?_⟩
    rw [shown, examine, bind_of_ok (orFault_ok.mpr ⟨makes, rfl⟩), bind_of_ok learns,
      DeployEntry.store_eq makes, bind_of_error (orFault_error.mpr ⟨fails, rfl⟩)]
  · simp [told] at untold

end VerifyEntry

/-- What becomes of corrupt files. An object in the file of a record is its fields, and an object in
the file of the chain configs is taken or refused with a configuration fault. All other files, and
directories, are refused with a configuration fault that names them, apart from files that are not
UTF-8 or go on with an integer of too many digits where reading stops. The deployment entry point
goes by the chain configs and then by the record of the network, the verification entry point by
the record: a configuration fault is reported in the last line, and they exit with status one.
Files of the two exceptions end them with a fault that is not reported. Nesting is unbounded. -/
theorem corruption_reported (environment : Environment) (surroundings : Surroundings)
    (files : FileTree) :
    (∀ (store : ArtifactStore) network entry,
      files.find? (store.recordPath network) = .ok (some entry) →
        entry.Opens (store.recordPath network) (fun fields => .ok ⟨network, fields⟩)
          (store.read files network)) ∧
    (∀ given entry, files.find? (ChainConfigs.path environment given) = .ok (some entry) →
      entry.Opens (ChainConfigs.path environment given)
        (fun members => ChainConfigs.ofJson (.object members))
        (ChainConfigs.load files environment given)) ∧
    (∀ members fault, ChainConfigs.ofJson (.object members) = .error fault →
      ∃ cause, fault = .configuration cause) ∧
    GoesBy (ChainConfigs.load files environment none)
      (DeployEntry.run environment surroundings files).1
      (DeployEntry.run environment surroundings files).2.chain ∧
    (∀ preparation ready, DeployEntry.prepare environment surroundings
        (DeployEntry.opening files) = .ok preparation ready →
      GoesBy ((DeployEntry.store environment).read files preparation.network)
        (DeployEntry.run environment surroundings files).1
        (DeployEntry.run environment surroundings files).2.chain) ∧
    (∀ network, VerifyEntry.Configured environment →
      (surroundings.lcd (DeployEntry.nodeInfoUrl environment) 0).chainId? = some network →
      GoesBy ((DeployEntry.store environment).read files network)
        (VerifyEntry.run environment surroundings files).1
        (VerifyEntry.run environment surroundings files).2.chain) ∧
    ∀ bytes, (Entry.file bytes).Unexplained → String.fromUTF8? bytes = none ∨
      ∃ text position, fileText? bytes = some text ∧ Json.StartsLong (text.drop position) := by
  refine ⟨fun store _ _ => store.opens_read, fun _ _ => ChainConfigs.opens_load,
    fun _ _ => ChainConfigs.ofJson_error, DeployEntry.goesBy_load _ _ _,
    fun _ _ => DeployEntry.goesBy_read, fun _ => VerifyEntry.goesBy_read, ?_⟩
  rintro bytes ⟨held, same, undecodable | ⟨text, error, decodes, stops, long⟩⟩
  · obtain rfl := Entry.file.inj same
    exact .inl (Option.map_eq_none_iff.mp undecodable)
  · obtain rfl := Entry.file.inj same
    exact .inr ⟨text, error.position, decodes, Json.startsLong_of_read stops long⟩

/-! ### Records of one byte -/

/-- A tree with the record of a network and nothing else. -/
def treeWithRecord (content : ByteArray) : FileTree :=
  .put .empty (Place.working.child "pisco-1.json") (.file content)

theorem find?_treeWithRecord (content : ByteArray) :
    (treeWithRecord content).find? ((DeployEntry.store VerifyEntry.workingEnvironment).recordPath
      (.string "pisco-1")) = .ok (some (.file content)) := by
  have spot : (DeployEntry.store VerifyEntry.workingEnvironment).recordPath (.string "pisco-1") =
      ⟨.relative, ["pisco-1.json"]⟩ := by
    decide +kernel
  rw [spot]
  rfl

theorem chainId?_knowingChain :
    (VerifyEntry.knowingChain.lcd (DeployEntry.nodeInfoUrl VerifyEntry.workingEnvironment)
      0).chainId? = some (.string "pisco-1") := by
  have names : (VerifyEntry.knowingChain.lcd
      (DeployEntry.nodeInfoUrl VerifyEntry.workingEnvironment) 0).chainId?.any
        (·.same (.string "pisco-1")) = true := by
    decide +kernel
  obtain ⟨network, told, same⟩ := (Option.any_eq_true ..).mp names
  rw [told, Json.same_string.mp same]

theorem configured_workingEnvironment : VerifyEntry.Configured VerifyEntry.workingEnvironment :=
  ⟨_, rfl⟩

/-- A brace that is not closed is refused with a reason, and a verification tells it. -/
theorem corruption_reported_of_brace :
    let entry := Entry.file ⟨#[0x7b]⟩
    let path := (DeployEntry.store VerifyEntry.workingEnvironment).recordPath (.string "pisco-1")
    (treeWithRecord ⟨#[0x7b]⟩).find? path = .ok (some entry) ∧
    entry.Corrupt ∧ ¬ entry.Unexplained ∧
    ∃ cause lead, cause.Names path ∧
      (DeployEntry.store VerifyEntry.workingEnvironment).read (treeWithRecord ⟨#[0x7b]⟩)
        (.string "pisco-1") = .error (.configuration cause) ∧
      (VerifyEntry.run VerifyEntry.workingEnvironment VerifyEntry.knowingChain
        (treeWithRecord ⟨#[0x7b]⟩)).1 = .exited 1 ∧
      (VerifyEntry.run VerifyEntry.workingEnvironment VerifyEntry.knowingChain
        (treeWithRecord ⟨#[0x7b]⟩)).2.chain.events.getLast? =
          some (.line (lead ++ ("[ERROR] " ++ cause.message))) := by
  have stands := find?_treeWithRecord ⟨#[0x7b]⟩
  have fails : (match Json.ofBytes ⟨#[0x7b]⟩ with
      | .error error => error.isExplained
      | .ok _ => false) = true := by
    decide +kernel
  obtain ⟨opens, -, -, -, -, verifies, -⟩ := corruption_reported
    VerifyEntry.workingEnvironment VerifyEntry.knowingChain (treeWithRecord ⟨#[0x7b]⟩)
  have goes := verifies (.string "pisco-1") configured_workingEnvironment chainId?_knowingChain
  -- Without this the run would be computed wherever its ending is looked at.
  generalize VerifyEntry.run VerifyEntry.workingEnvironment VerifyEntry.knowingChain
    (treeWithRecord ⟨#[0x7b]⟩) = verification at goes ⊢
  split at fails
  · rename_i error holds
    have corrupt := Entry.corrupt_of_error holds
    have explained : ¬ (Entry.file ⟨#[0x7b]⟩).Unexplained := by
      intro unexplained
      obtain ⟨other, others, silent⟩ := Entry.unexplained_file.mp unexplained
      obtain rfl := Except.error.inj (holds.symm.trans others)
      simp [silent] at fails
    obtain ⟨cause, refuses, names⟩ := (opens _ _ _ stands).refused corrupt explained
    obtain ⟨exits, lead, -, last⟩ := goes.reports cause refuses
    exact ⟨stands, corrupt, explained, cause, lead, names, refuses, exits, last⟩
  · simp at fails

/-- A byte that is not UTF-8 ends a verification with a fault that is not reported. -/
theorem corruption_unreported_of_byte :
    ∃ fault, (DeployEntry.store VerifyEntry.workingEnvironment).read (treeWithRecord ⟨#[0xff]⟩)
        (.string "pisco-1") = .error fault ∧
      fault.isReported = false ∧
      (VerifyEntry.run VerifyEntry.workingEnvironment VerifyEntry.knowingChain
        (treeWithRecord ⟨#[0xff]⟩)).1 = .crashed fault := by
  have undecodable : fileText? ⟨#[0xff]⟩ = none := by decide +kernel
  have opens := ArtifactStore.opens_read _ (find?_treeWithRecord ⟨#[0xff]⟩)
  have goes : GoesBy ((DeployEntry.store VerifyEntry.workingEnvironment).read
        (treeWithRecord ⟨#[0xff]⟩) (.string "pisco-1"))
      (VerifyEntry.run VerifyEntry.workingEnvironment VerifyEntry.knowingChain
        (treeWithRecord ⟨#[0xff]⟩)).1
      (VerifyEntry.run VerifyEntry.workingEnvironment VerifyEntry.knowingChain
        (treeWithRecord ⟨#[0xff]⟩)).2.chain :=
    VerifyEntry.goesBy_read configured_workingEnvironment chainId?_knowingChain
  generalize VerifyEntry.run VerifyEntry.workingEnvironment VerifyEntry.knowingChain
    (treeWithRecord ⟨#[0xff]⟩) = verification at goes ⊢
  obtain ⟨fault, fails, silent⟩ := opens.unexplained ⟨_, rfl, .inl undecodable⟩
  exact ⟨fault, fails, silent, goes.crashes fault fails silent⟩

end ContractRollout
