import ContractRollout.Proofs.Chain.AttributeSearch
import ContractRollout.Proofs.Chain.Deployment
import ContractRollout.Proofs.Chain.Polling
import ContractRollout.Proofs.FileTree.Directories

/-!
# Failures on a well-shaped chain

What the chain answers is taken apart without checks. As long as the answers have the shapes
that a chain gives them, nothing can go wrong there but what counts as a failure of the
deployment. Each part of a deployment is shown to yield a good value or such a failure, one
after the other.

The command runner and the clock are parameters, as in `Surroundings` and `pause`: a command
has one of the outcomes of `CommandOutcome` whatever its arguments are, what it prints is text,
and waiting never fails.
-/

namespace ContractRollout

/-! ### Shapes of answers -/

namespace Json

/-- The value of an attribute is a text, if it has one. -/
def isAttribute : Json → Bool :=
  isObjectWith fun members => (members.value "value").isOptional isText

def isEvent : Json → Bool :=
  isObjectWith fun event => (event.value "attributes").isOptional (isArrayOf isAttribute)

def isLog : Json → Bool := isObjectWith fun log => (log.value "events").isOptional (isArrayOf isEvent)

end Json

/-- The members of a response that tells of a transaction. -/
def Members.isTransaction (response : Members) : Bool :=
  (response.value "events").isOptional (Json.isArrayOf Json.isEvent)
    && (response.value "logs").isOptional (Json.isArrayOf Json.isLog)

namespace Json

/-- What the LCD endpoint answers to a request. -/
def isAnswer : Json → Bool :=
  isOptional (isObjectWith fun answer =>
    (answer.value "default_node_info").isOptional isObject
      && (answer.value "tx_response").isOptional (isObjectWith Members.isTransaction))

/-- A text that is not empty. -/
def IsFilled (value : Json) : Prop := ∃ text, value = .string text ∧ text ≠ ""

end Json

/-- A command that can be run, and that answers with an object if with any value. -/
def CommandOutcome.isInShape : CommandOutcome → Bool
  | succeeded output => (Json.read output.toList).toOption.all Json.isObject
  | exited .. | notFound => true
  | denied => false

/-- Whatever was asked before, replies and commands are of the shapes that a chain gives them. -/
structure Surroundings.InShape (surroundings : Surroundings) : Prop where
  lcd : ∀ url earlier, (surroundings.lcd url earlier).carries Json.isAnswer = true
  cli : ∀ earlier, (surroundings.cli earlier).isInShape = true

/-! ### Good values and deployment faults -/

section Yields

variable {α β : Type}

/-- An outcome that is a good value or a deployment fault. -/
def Settles (good : α → Prop) (result : EStateM.Result Fault Session α) : Prop :=
  (∃ value later, result = .ok value later ∧ good value) ∨
    ∃ cause later, result = .error (.deployment cause) later

/-- Whatever happened before, an action ends with a good value or with a deployment fault. -/
def Yields (good : α → Prop) (action : ChainAction α) : Prop :=
  ∀ session, Settles good (action session)

variable {good : α → Prop} {better : β → Prop}

theorem Yields.bind {first : ChainAction α} {next : α → ChainAction β} (early : Yields good first)
    (late : ∀ value, good value → Yields better (next value)) : Yields better (first >>= next) := by
  intro session
  rcases early session with ⟨value, between, works, isGood⟩ | ⟨cause, later, fails⟩
  · rw [bind_of_ok works]
    exact late value isGood between
  · exact .inr ⟨cause, later, bind_of_error fails⟩

theorem yields_pure {value : α} (isGood : good value) : Yields good (pure value : ChainAction α) :=
  fun session => .inl ⟨value, session, rfl, isGood⟩

theorem yields_throw (cause : DeploymentCause) :
    Yields good (throw (.deployment cause) : ChainAction α) :=
  fun session => .inr ⟨cause, session, rfl⟩

theorem yields_orFault_ok {outcome : Except Fault α} {value : α} (works : outcome = .ok value) :
    Yields (· = value) (orFault outcome : ChainAction α) := by
  rw [works]
  exact yields_pure rfl

theorem yields_orFault {outcome : Except Fault α}
    (settles : (∃ value, outcome = .ok value) ∨ ∃ cause, outcome = .error (.deployment cause)) :
    Yields (fun _ => True) (orFault outcome : ChainAction α) := by
  rcases settles with ⟨value, rfl⟩ | ⟨cause, rfl⟩
  · exact yields_pure trivial
  · exact yields_throw cause

theorem yields_get : Yields (fun _ => True) (get : ChainAction Session) :=
  fun session => .inl ⟨session, session, rfl, trivial⟩

theorem yields_modify (change : Session → Session) :
    Yields (fun _ => True) (modify change : ChainAction Unit) :=
  fun session => .inl ⟨(), change session, rfl, trivial⟩

theorem yields_printLine (text : String) : Yields (fun _ => True) (printLine text) :=
  yields_modify _

end Yields

/-! ### Attributes of well-shaped transactions -/

namespace Json

/-- An attribute of a well-shaped transaction can be looked for, and it is a text if it is found. -/
theorem eventAttribute_of_shape {response : Members} (shaped : response.isTransaction = true)
    (type key : Json) :
    ∃ found, (object response).eventAttribute type key = .ok found ∧
      ∀ value ∈ found, value.IsFilled := by
  have reports :
      response.reports (fun candidate => (candidate.value "value").isOptional isText) = true :=
    shaped
  refine ⟨_, eventAttribute_of_reports reports type key, ?_⟩
  intro value found
  obtain ⟨candidate, first, rfl⟩ := Option.map_eq_some_iff.mp found
  have matched : Members.isMatch key candidate = true := List.find?_some first
  have truthy : (candidate.value "value").isTruthy = true := (Bool.and_eq_true_iff.mp matched).2
  have inRow := List.mem_of_find?_eq_some first
  rcases isOptional_iff.mp (Members.shape_of_row reports candidate inRow) with absent | textual
  · simp [absent, isTruthy] at truthy
  · obtain ⟨text, held⟩ := isText_iff.mp textual
    exact ⟨text, held, by rintro rfl; simp [held, isTruthy] at truthy⟩

end Json

theorem Members.isTransaction_insertNew {response : Members} (shaped : response.isTransaction = true)
    (hash : Json) : (response.insertNew "txhash" hash).isTransaction = true := by
  unfold isTransaction at shaped ⊢
  rwa [value_insertNew_of_ne (by decide), value_insertNew_of_ne (by decide)]

theorem codeIdOf_text (text : String) (hash : Json) :
    (∃ codeId, codeIdOf (.string text) hash = .ok codeId) ∨
      ∃ cause, codeIdOf (.string text) hash = .error (.deployment cause) := by
  unfold codeIdOf
  dsimp only
  cases integerOfText? text with
  | some codeId => exact .inl ⟨codeId, rfl⟩
  | none => exact .inr ⟨_, rfl⟩

/-! ### The client and the command line -/

theorem yields_runCommand {surroundings : Surroundings} (shaped : surroundings.InShape)
    (arguments : List Json) :
    Yields (fun outcome => outcome.isInShape = true) (runCommand surroundings arguments) :=
  fun _ => .inl ⟨_, _, rfl, shaped.cli _⟩

theorem Reply.carries_mono {narrow wide : Json → Bool} {reply : Reply}
    (included : ∀ value, narrow value = true → wide value = true)
    (carried : reply.carries narrow = true) : reply.carries wide = true := by
  unfold carries at carried ⊢
  cases held : reply.value? with
  | none => rfl
  | some value =>
      rw [held, Option.all_some] at carried
      exact included value carried

theorem Json.answersTransaction_of_isAnswer {value : Json} (answer : value.isAnswer = true) :
    value.answersTransaction Members.isTransaction = true := by
  rcases Json.isOptional_iff.mp answer with rfl | shaped
  · rfl
  · obtain ⟨members, rfl, fits⟩ := Json.isObjectWith_iff.mp shaped
    exact (Bool.and_eq_true_iff.mp fits).2

namespace Connection

variable {connection : Connection}

theorem yields_fetch (shaped : connection.surroundings.InShape) (path : String) :
    Yields (fun value => value.isAnswer = true) (connection.fetch path) := by
  intro session
  rcases connection.fetch_reply path session rfl with ⟨value, told, works⟩ | ⟨-, cause, -, fails⟩
  · have carried := shaped.lcd (connection.settings.lcdUrl ++ path)
      (session.requests.count (connection.settings.lcdUrl ++ path))
    rw [Surroundings.reply] at told
    rw [Reply.carries, told, Option.all_some] at carried
    exact .inl ⟨value, _, works, carried⟩
  · exact .inr ⟨cause, _, fails⟩

theorem networkOf_of_shape {info : Json} (answer : info.isAnswer = true) :
    ∃ network, networkOf info = .ok network := by
  rcases Json.isOptional_iff.mp answer with rfl | shaped
  · exact ⟨.null, rfl⟩
  · obtain ⟨members, rfl, fits⟩ := Json.isObjectWith_iff.mp shaped
    obtain ⟨node, isNode⟩ := Json.orElse_of_optional (Bool.and_eq_true_iff.mp fits).1
    refine ⟨Members.value node "network", ?_⟩
    rw [networkOf, Json.orElse_object, Json.field_object]
    simp only [bind, Except.bind, isNode]
    rfl

theorem yields_chainId (shaped : connection.surroundings.InShape) :
    Yields (fun _ => True) connection.chainId := by
  unfold chainId
  apply yields_get.bind
  intro session _
  split
  · exact yields_pure trivial
  · apply (yields_fetch shaped _).bind
    intro info answer
    obtain ⟨network, names⟩ := networkOf_of_shape answer
    apply (yields_orFault_ok names).bind
    intro network _
    split
    · exact (yields_modify _).bind fun _ _ => yields_pure trivial
    · exact yields_throw _

/-- Waiting for a transaction yields one whose attributes can be looked for. -/
theorem yields_confirm (shaped : connection.surroundings.InShape) {timeout interval : Int}
    (positive : 0 < interval) (small : |timeout| + interval < 2 ^ 53) (hash : Json) :
    Yields (fun transaction => transaction.isTransaction = true)
      (connection.confirm ⟨.integer timeout, .integer interval⟩ hash) := by
  intro session
  have replies (count : Nat) : (connection.lookupReply hash session count).carries
      (Json.answersTransaction Members.isTransaction) = true :=
    Reply.carries_mono (fun _ => Json.answersTransaction_of_isAnswer) (shaped.lcd _ _)
  obtain ⟨pauses, -, ⟨response, fits, works⟩ | ⟨cause, fails⟩⟩ :=
    connection.confirm_ends positive small replies
  · exact .inl ⟨_, _, works, Members.isTransaction_insertNew fits hash⟩
  · exact .inr ⟨cause, _, fails⟩

end Connection

/-! ### The file with the code -/

namespace FileTree

theorem walk_ne_tooLong {tree : FileTree} {start : Place} {parts : List String}
    (short : ∀ part ∈ parts, part.utf8ByteSize ≤ nameLimit) :
    tree.walk start parts ≠ .error .nameTooLong := by
  induction parts with
  | nil => simp [walk]
  | cons part outer ih =>
      intro long
      rcases walk_cons_tooLong.mp long with earlier | ⟨holder, -, -, -, here⟩
      · exact ih (fun other member => short other (List.mem_cons_of_mem _ member)) earlier
      · exact absurd (short part List.mem_cons_self) (Nat.not_le_of_lt here)

/-- Looking for a file fails only where the path or one of its parts is too long. -/
theorem holdsFile_of_short (tree : FileTree) {path : Path}
    (short : ∀ part ∈ path.parts, part.utf8ByteSize ≤ nameLimit)
    (within : path.toString.utf8ByteSize < pathLimit) : ∃ found, tree.holdsFile path = .ok found := by
  suffices finds : ∃ entry, tree.find? path = .ok entry by
    obtain ⟨entry, finds⟩ := finds
    exact ⟨_, by rw [holdsFile, finds, Except.map]⟩
  unfold find?
  rw [locate_eq, if_neg (Nat.not_le_of_lt within)]
  by_cases null : path.toString.toList.contains '\x00' = true
  · exact ⟨none, by rw [if_pos null]⟩
  · rw [if_neg null]
    cases walks : tree.walk path.start path.parts with
    | ok place => exact ⟨tree.entryAt place, rfl⟩
    | error problem =>
        have other : problem ≠ .nameTooLong := by
          rintro rfl
          exact walk_ne_tooLong short walks
        exact ⟨none, by cases problem <;> simp_all [Except.mapError]⟩

end FileTree

/-! ### Deployments -/

theorem submittedHash_of_shape {output : String}
    (shaped : (CommandOutcome.succeeded output).isInShape = true) :
    (∃ hash, ChainDeployer.submittedHash output = .ok hash) ∨
      ∃ cause, ChainDeployer.submittedHash output = .error (.deployment cause) := by
  unfold ChainDeployer.submittedHash
  simp only [CommandOutcome.isInShape] at shaped
  cases reads : Json.read output.toList with
  | error error => exact .inr ⟨_, rfl⟩
  | ok answer =>
      rw [reads] at shaped
      obtain ⟨submitted, rfl⟩ := Json.isObject_iff.mp shaped
      dsimp only [Json.asMembers, bind, Except.bind]
      split
      · exact .inr ⟨_, rfl⟩
      · split
        · exact .inl ⟨_, rfl⟩
        · exact .inr ⟨_, rfl⟩

namespace ChainDeployer

variable {deployer : ChainDeployer} {timeout interval : Int}

theorem yields_broadcast (shaped : deployer.connection.surroundings.InShape)
    (patience : deployer.patience = ⟨.integer timeout, .integer interval⟩)
    (positive : 0 < interval) (small : |timeout| + interval < 2 ^ 53) (verb : String)
    (arguments : List Json) :
    Yields (fun transaction => transaction.isTransaction = true)
      (deployer.broadcast verb arguments) := by
  unfold broadcast
  apply (Connection.yields_chainId shaped).bind
  intro chainId _
  apply (yields_runCommand shaped _).bind
  intro outcome fits
  cases outcome with
  | notFound => exact yields_throw _
  | denied => simp [CommandOutcome.isInShape] at fits
  | exited complaint output => exact yields_throw _
  | succeeded output =>
      apply (yields_orFault (submittedHash_of_shape fits)).bind
      intro hash _
      rw [patience]
      exact Connection.yields_confirm shaped positive small hash

variable {files : FileTree} {wasmPath : Path}

theorem yields_storeCode (shaped : deployer.connection.surroundings.InShape)
    (patience : deployer.patience = ⟨.integer timeout, .integer interval⟩)
    (positive : 0 < interval) (small : |timeout| + interval < 2 ^ 53)
    (short : ∀ part ∈ wasmPath.parts, part.utf8ByteSize ≤ FileTree.nameLimit)
    (within : wasmPath.toString.utf8ByteSize < FileTree.pathLimit) :
    Yields (fun _ => True) (deployer.storeCode files wasmPath) := by
  obtain ⟨found, looks⟩ := files.holdsFile_of_short short within
  have works : (files.holdsFile wasmPath).mapError Fault.file = .ok found := by
    rw [looks]
    rfl
  unfold storeCode
  apply (yields_orFault_ok works).bind
  rintro found rfl
  cases found with
  | false => exact yields_throw _
  | true =>
      apply (yields_printLine _).bind
      intro _ _
      apply (yields_broadcast shaped patience positive small _ _).bind
      intro transaction fits
      obtain ⟨value, finds, filled⟩ :=
        Json.eventAttribute_of_shape fits (.string "store_code") (.string "code_id")
      apply (yields_orFault_ok finds).bind
      rintro value rfl
      cases value with
      | none => exact yields_throw _
      | some value =>
          obtain ⟨text, rfl, -⟩ := filled value rfl
          apply (yields_orFault (codeIdOf_text text _)).bind
          intro codeId _
          exact (yields_printLine _).bind fun _ _ => yields_pure trivial

theorem yields_instantiate (shaped : deployer.connection.surroundings.InShape)
    (patience : deployer.patience = ⟨.integer timeout, .integer interval⟩)
    (positive : 0 < interval) (small : |timeout| + interval < 2 ^ 53) (codeId : Int)
    (initMessage label admin : Json) :
    Yields (fun result => result.1.IsFilled)
      (deployer.instantiate codeId initMessage label admin) := by
  unfold instantiate
  split
  · exact yields_throw _
  · apply (yields_printLine _).bind
    intro _ _
    apply (yields_broadcast shaped patience positive small _ _).bind
    intro transaction fits
    obtain ⟨value, finds, filled⟩ :=
      Json.eventAttribute_of_shape fits (.string "instantiate") (.string "_contract_address")
    apply (yields_orFault_ok finds).bind
    rintro value rfl
    cases value with
    | none => exact yields_throw _
    | some address => exact yields_pure (filled address rfl)

/-- A deployment on a chain whose answers have their shapes gives an address that is a text and
not empty, or it ends with a deployment fault, whatever the chain answers and whatever is to be
deployed. This needs a path to the code that is not too long, neither as a whole nor in a
part. -/
theorem deploy_settles (deployer : ChainDeployer)
    (shaped : deployer.connection.surroundings.InShape) {timeout interval : Int}
    (patience : deployer.patience = ⟨.integer timeout, .integer interval⟩)
    (positive : 0 < interval) (small : |timeout| + interval < 2 ^ 53) (files : FileTree)
    {wasmPath : Path} (short : ∀ part ∈ wasmPath.parts, part.utf8ByteSize ≤ 255)
    (within : wasmPath.toString.utf8ByteSize < 4096) (admin initMessage label : Json)
    (session : Session) :
    Settles (fun deployment => deployment.address.IsFilled)
      (deployer.deploy files admin wasmPath initMessage label session) := by
  by_cases labelled : label.isTruthy = true
  · rw [deploy_of_labelled labelled]
    apply (yields_storeCode shaped patience positive small short within).bind
    rintro ⟨codeId, storeHash⟩ _
    apply (yields_instantiate shaped patience positive small codeId initMessage label admin).bind
    rintro ⟨address, instantiateHash⟩ filled
    exact yields_pure filled
  · rw [deploy_of_unlabelled labelled]
    exact .inr ⟨_, _, rfl⟩

/-- A node that takes every transaction, on a chain that tells of each that it stored code and
made a contract. -/
def answeringChain : Surroundings where
  lcd _ _ :=
    .answered 200 ("\x7b\"default_node_info\":\x7b\"network\":\"pisco-1\"\x7d,"
      ++ "\"tx_response\":\x7b\"logs\":null,\"events\":["
      ++ "\x7b\"type\":\"store_code\",\"attributes\":["
      ++ "\x7b\"key\":\"code_id\",\"value\":\"7\"\x7d]\x7d,"
      ++ "\x7b\"type\":\"instantiate\",\"attributes\":["
      ++ "\x7b\"key\":\"_contract_address\",\"value\":\"terra1\"\x7d]\x7d]\x7d\x7d")
  cli _ := .succeeded "\x7b\"txhash\":\"A\"\x7d"

theorem inShape_answeringChain : answeringChain.InShape := by
  have reply : (answeringChain.lcd "" 0).carries Json.isAnswer = true := by decide +kernel
  have outcome : (answeringChain.cli 0).isInShape = true := by decide +kernel
  exact ⟨fun _ _ => reply, fun _ => outcome⟩

def answeringDeployer : ChainDeployer where
  connection := ⟨{ lcdUrl := "lcd", walletKey := "deployer" }, answeringChain⟩
  wallet := ⟨"deployer", "terra1deployer"⟩

def bridgeCode : Path := ⟨.relative, ["bridge.wasm"]⟩

def bridgeFiles : FileTree := .put .empty (Place.working.child "bridge.wasm") (.file ⟨#[]⟩)

/-- On such a chain a contract gets an address, with the usual timeout and interval. -/
theorem deploy_settles_answering :
    answeringDeployer.connection.surroundings.InShape ∧
    answeringDeployer.patience = ⟨.integer 60, .integer 2⟩ ∧ (0 : Int) < 2 ∧
    |(60 : Int)| + 2 < 2 ^ 53 ∧ (∀ part ∈ bridgeCode.parts, part.utf8ByteSize ≤ 255) ∧
    bridgeCode.toString.utf8ByteSize < 4096 ∧
    ∃ deployment later,
      answeringDeployer.deploy bridgeFiles .null bridgeCode (.object []) (.string "bridge") {} =
        .ok deployment later ∧ deployment.address.IsFilled := by
  have short : ∀ part ∈ bridgeCode.parts, part.utf8ByteSize ≤ 255 := by decide
  have within : bridgeCode.toString.utf8ByteSize < 4096 := by decide
  have small : |(60 : Int)| + 2 < 2 ^ 53 := by norm_num
  have works : isOk (answeringDeployer.deploy bridgeFiles .null bridgeCode (.object [])
      (.string "bridge") {}) = true := by
    decide +kernel
  refine ⟨inShape_answeringChain, rfl, by norm_num, small, short, within, ?_⟩
  rcases deploy_settles answeringDeployer inShape_answeringChain rfl (by norm_num) small
    bridgeFiles short within .null (.object []) (.string "bridge") {} with settled | ⟨_, _, fails⟩
  · exact settled
  · simp [fails, isOk] at works

/-- A path whose parts are as long as the system takes them, and that is too long as a whole. -/
def longPath : Path := ⟨.relative, List.replicate 17 (String.ofList (List.replicate 255 'd'))⟩

/-- Where only the parts of the path are short, a deployment can end with an error of the file
system, which is no deployment fault. -/
theorem not_settles_of_longPath :
    answeringDeployer.connection.surroundings.InShape ∧
    answeringDeployer.patience = ⟨.integer 60, .integer 2⟩ ∧ (0 : Int) < 2 ∧
    |(60 : Int)| + 2 < 2 ^ 53 ∧ (∀ part ∈ longPath.parts, part.utf8ByteSize ≤ 255) ∧
    answeringDeployer.deploy bridgeFiles .null longPath (.object []) (.string "bridge") {} =
      .error (.file (.refused .nameTooLong longPath none)) {} ∧
    ¬ Settles (fun deployment => deployment.address.IsFilled)
      (answeringDeployer.deploy bridgeFiles .null longPath (.object []) (.string "bridge") {}) := by
  have fails : answeringDeployer.deploy bridgeFiles .null longPath (.object [])
      (.string "bridge") {} = .error (.file (.refused .nameTooLong longPath none)) {} := by
    have solid : '\x00' ∉ longPath.toString.toList := by
      apply Path.not_mem_toString (by decide) (by decide)
      intro part member
      rw [List.eq_of_mem_replicate member, String.toList_ofList]
      exact fun inside => absurd (List.eq_of_mem_replicate inside) (by decide)
    have long : FileTree.pathLimit ≤ longPath.toString.utf8ByteSize := by decide +kernel
    have looks : bridgeFiles.holdsFile longPath = .error (.refused .nameTooLong longPath none) := by
      rw [FileTree.holdsFile, FileTree.find?, FileTree.locate_eq,
        if_neg (by simpa using solid), if_pos long]
      rfl
    rw [deploy_of_labelled (by decide), bind_of_error]
    rw [storeCode, looks, bind_of_error]
    rfl
  have short : ∀ part ∈ longPath.parts, part.utf8ByteSize ≤ 255 := by
    intro part member
    rw [List.eq_of_mem_replicate member]
    decide +kernel
  refine ⟨inShape_answeringChain, rfl, by norm_num, by norm_num, short, fails, ?_⟩
  rintro (⟨deployment, later, works, -⟩ | ⟨cause, later, settles⟩)
  · simp [fails] at works
  · simp [fails] at settles

end ChainDeployer

end ContractRollout
