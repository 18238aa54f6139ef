import Mathlib

/-!
# Outcomes of actions

A computation that may fail goes on only after a result, and an action on a state ends
in a state whether it fails or not.
-/

namespace ContractRollout

variable {ε σ α β : Type}

theorem ok_bind (value : α) (next : α → Except ε β) : (Except.ok value >>= next) = next value :=
  rfl

/-- A composed computation has a result exactly when both of its parts have one. -/
theorem bind_eq_ok {first : Except ε α} {next : α → Except ε β} {value : β} :
    (first >>= next) = .ok value ↔ ∃ middle, first = .ok middle ∧ next middle = .ok value := by
  cases first <;> simp [bind, Except.bind]

/-- A composed computation fails exactly when its first part does, or its second one after it. -/
theorem bind_eq_error {first : Except ε α} {next : α → Except ε β} {fault : ε} :
    (first >>= next) = .error fault ↔
      first = .error fault ∨ ∃ middle, first = .ok middle ∧ next middle = .error fault := by
  cases first <;> simp [bind, Except.bind]

/-- Checks pass together exactly if each of them passes. -/
theorem forM_eq_ok {check : α → Except ε Unit} {items : List α} :
    forM items check = .ok () ↔ ∀ item ∈ items, check item = .ok () := by
  induction items with
  | nil => exact ⟨fun _ => by simp, fun _ => rfl⟩
  | cons item items ih =>
      rw [List.forM_cons, List.forall_mem_cons, ← ih]
      exact bind_eq_ok.trans ⟨fun ⟨_, here, later⟩ => ⟨here, later⟩, fun both => ⟨(), both⟩⟩

/-- Checks end with the first that fails. -/
theorem forM_of_first_error {check : α → Except ε Unit} {before after : List α} {first : α}
    {error : ε} (passes : ∀ item ∈ before, check item = .ok ())
    (fails : check first = .error error) :
    forM (before ++ first :: after) check = .error error := by
  rw [List.forM_append, forM_eq_ok.mpr passes, ok_bind, List.forM_cons, fails]
  rfl

theorem mapError_eq_ok {δ : Type} {change : ε → δ} {outcome : Except ε α} {value : α} :
    outcome.mapError change = .ok value ↔ outcome = .ok value := by
  cases outcome <;> simp [Except.mapError]

theorem toOption_eq_some {outcome : Except ε α} {value : α} :
    outcome.toOption = some value ↔ outcome = .ok value := by
  cases outcome <;> simp [Except.toOption]

/-- The state that an action ends in. -/
def finalState : EStateM.Result ε σ α → σ
  | .ok _ state => state
  | .error _ state => state

@[simp]
theorem finalState_ok (value : α) (state : σ) :
    finalState (.ok value state : EStateM.Result ε σ α) = state :=
  rfl

@[simp]
theorem finalState_error (fault : ε) (state : σ) :
    finalState (.error fault state : EStateM.Result ε σ α) = state :=
  rfl

def isOk : EStateM.Result ε σ α → Bool
  | .ok .. => true
  | .error .. => false

theorem exists_of_isOk {result : EStateM.Result ε σ α} (works : isOk result = true) :
    ∃ value state, result = .ok value state := by
  cases result with
  | ok value state => exact ⟨value, state, rfl⟩
  | error fault state => simp [isOk] at works

theorem throw_eq {fault : ε} {state : σ} :
    (throw fault : EStateM ε σ α) state = .error fault state :=
  rfl

theorem bind_of_ok {first : EStateM ε σ α} {next : α → EStateM ε σ β} {value : α}
    {state later : σ} (result : first state = .ok value later) :
    (first >>= next) state = next value later := by
  simp [bind, EStateM.bind, result]

theorem bind_of_error {first : EStateM ε σ α} {next : α → EStateM ε σ β} {fault : ε}
    {state later : σ} (result : first state = .error fault later) :
    (first >>= next) state = .error fault later := by
  simp [bind, EStateM.bind, result]

/-- A composed action works exactly when both of its parts do, one on the state of the other. -/
theorem bind_ok_iff {first : EStateM ε σ α} {next : α → EStateM ε σ β} {value : β}
    {state later : σ} :
    (first >>= next) state = .ok value later ↔
      ∃ middle between, first state = .ok middle between ∧ next middle between = .ok value later := by
  cases result : first state with
  | ok middle between => simp [bind_of_ok result]
  | error fault between => simp [bind_of_error result]

/-- A composed action fails exactly when its first part does, or its second one after it. -/
theorem bind_error_iff {first : EStateM ε σ α} {next : α → EStateM ε σ β} {fault : ε}
    {state later : σ} :
    (first >>= next) state = .error fault later ↔
      first state = .error fault later ∨
        ∃ middle between, first state = .ok middle between ∧
          next middle between = .error fault later := by
  cases result : first state with
  | ok middle between => simp [bind_of_ok result]
  | error other between => simp [bind_of_error result]

theorem finalState_map (action : EStateM ε σ α) (change : α → β) (state : σ) :
    finalState ((do return change (← action)) state) = finalState (action state) := by
  cases result : action state with
  | ok value later =>
      rw [bind_of_ok result]
      rfl
  | error fault later =>
      rw [bind_of_error result]
      rfl

/-- Whatever comes of an action, the state before it and the one it ends in are related. -/
def Relates (relation : σ → σ → Prop) (action : EStateM ε σ α) : Prop :=
  ∀ state, relation state (finalState (action state))

theorem Relates.bind {relation : σ → σ → Prop}
    (trans : ∀ first second third, relation first second → relation second third →
      relation first third)
    {first : EStateM ε σ α} {next : α → EStateM ε σ β} (early : Relates relation first)
    (late : ∀ value, Relates relation (next value)) : Relates relation (first >>= next) := by
  intro state
  have here := early state
  cases result : first state with
  | error fault between =>
      rw [result] at here
      rwa [bind_of_error result]
  | ok value between =>
      rw [result] at here
      rw [bind_of_ok result]
      exact trans _ _ _ here (late value between)

end ContractRollout
