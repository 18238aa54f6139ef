import ContractRollout.Proofs.Entry.Network

/-!
# The footprint of the entry point

Without a complete configuration the deployment entry point reaches nothing outside and leaves
the files as they are. Else it changes files only after a deployment has given an address, and
then no more than the record of its network, the temporary file of the record and new
directories on the way to the store.
-/

namespace ContractRollout

def Event.IsLine : Event → Prop
  | .line _ => True
  | _ => False

theorem commands_of_lines {events : List Event} (lines : ∀ event ∈ events, event.IsLine) :
    commands events = [] := by
  rw [commands, List.filterMap_eq_nil_iff]
  intro event member
  cases event with
  | line text => rfl
  | request | command | pause => exact (lines _ member).elim

theorem requests_of_lines {events : List Event} (lines : ∀ event ∈ events, event.IsLine) :
    events.filterMap Event.url? = [] := by
  rw [List.filterMap_eq_nil_iff]
  intro event member
  cases event with
  | line text => rfl
  | request | command | pause => exact (lines _ member).elim

namespace DeployEntry

variable {environment : Environment} {surroundings : Surroundings} {files : FileTree}

/-- The steps of a run with the calls of its deployer. Without a preparation there are none. -/
def history (environment : Environment) (surroundings : Surroundings) (files : FileTree) :
    List StepRun :=
  match prepare environment surroundings (opening files) with
  | .ok preparation ready =>
      preparation.rollout.history preparation.network DeploymentStep.all ready
  | .error _ _ => []

/-- What is missing from a configuration that is not complete. -/
theorem not_configured
    (lacks : (∀ configs, ChainConfigs.load files environment none = .ok configs →
        configs.multisig.isUnset = true) ∨
      environment.valueOr "LCD_URL" "" = "" ∨ environment.valueOr "WALLET_KEY" "" = "") :
    ¬ Configured environment files := by
  rintro ⟨configs, settings, loads, set, reads⟩
  obtain ⟨url, key, -⟩ := Settings.ofEnvironment_ok reads
  rcases lacks with unset | noUrl | noKey
  · simp [unset configs loads] at set
  · exact url noUrl
  · exact key noKey

/-- Without a complete configuration a run only prints lines. -/
theorem lines_of_unconfigured (lacks : ¬ Configured environment files)
    (surroundings : Surroundings) :
    ∀ event ∈ (run environment surroundings files).2.chain.events, event.IsLine := by
  obtain ⟨fault, stops⟩ := prepare_of_unconfigured surroundings lacks
  have prints (text : String) : Event.IsLine (.line text) := trivial
  have opens : Session.GoesOn Event.IsLine {} (opening files).chain :=
    Session.goesOn_lines prints banner {}
  have ends := goesOn_conclude prints (.error fault (opening files))
  obtain ⟨-, happened, adds, fits⟩ := Session.goesOn_trans _ _ _ opens ends
  have all : (run environment surroundings files).2.chain.events = happened := by
    rw [run_of_unprepared stops, adds]
    rfl
  rwa [all]

/-- Without an address from any call of its deployer a run leaves the files as they are. -/
theorem files_of_unanswered
    (unanswered : ∀ stepRun ∈ history environment surroundings files, stepRun.Unanswered) :
    (run environment surroundings files).2.files = files := by
  unfold history at unanswered
  cases prepares : prepare environment surroundings (opening files) with
  | error fault later => exact (run_unprepared prepares).1
  | ok preparation ready =>
      rw [prepares] at unanswered
      rw [run_of_prepared prepares, files_conclude,
        preparation.rollout.files_run_of_unanswered _ _ _ unanswered]
      exact (run_prepared prepares).1.files

/-- If the chain configs cannot be loaded or have no multisig, or if the endpoint or the key is
missing or empty, a run does not return, sends no request, issues no command and leaves the
files as they are. So it does if no call of its deployer is answered with an address. In every
case the files differ at most at the record of the chain id that was told, at its temporary
file, and by new directories on the way to the store. -/
theorem footprint_of_run (environment : Environment) (surroundings : Surroundings)
    (files : FileTree) :
    let (ending, final) := run environment surroundings files
    ((∀ configs, ChainConfigs.load files environment none = .ok configs →
          configs.multisig.isUnset = true) ∨
        environment.valueOr "LCD_URL" "" = "" ∨ environment.valueOr "WALLET_KEY" "" = "" →
      (∀ addresses, ending ≠ .returned addresses) ∧
      final.chain.events.filterMap Event.url? = [] ∧ commands final.chain.events = [] ∧
      final.files = files) ∧
    ((∀ stepRun ∈ history environment surroundings files, stepRun.Unanswered) →
      final.files = files) ∧
    ∀ place, final.files.entryAt place ≠ files.entryAt place →
      ∃ network, Learned environment network final.chain.events ∧
        (place = ((store environment).recordPath network).place ∨
          place = ((store environment).temporaryPath network).place ∨
          (place ∈ (store environment).path.way ∧ files.entryAt place = none ∧
            final.files.entryAt place = some .directory)) := by
  dsimp only
  refine ⟨?_, files_of_unanswered, ?_⟩
  · intro lacks
    have unconfigured := not_configured lacks
    obtain ⟨fault, stops⟩ := prepare_of_unconfigured surroundings unconfigured
    obtain ⟨same, unreturned, -⟩ := run_unprepared stops
    have lines := lines_of_unconfigured unconfigured surroundings
    exact ⟨unreturned, requests_of_lines lines, commands_of_lines lines, same⟩
  · intro place differs
    cases prepares : prepare environment surroundings (opening files) with
    | error fault later =>
        rw [(run_unprepared prepares).1] at differs
        exact absurd rfl differs
    | ok preparation ready =>
        obtain ⟨prepared, identified⟩ := run_prepared prepares
        exact ⟨preparation.network, (identified.learned_iff prepared.nodeInfoUrl_eq).mpr rfl,
          confined_of_prepared prepares place differs⟩

end DeployEntry

end ContractRollout
