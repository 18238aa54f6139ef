import ContractRollout.Fault.Basic
import ContractRollout.Proofs.Outcomes

/-!
# Actions on related states

Two related states may differ where an action does not look. An action is parallel under a
relation when it ends alike on any two related states: with the same value or the same fault,
and in related states again.
-/

namespace ContractRollout

variable {ε σ α β : Type} {related : σ → σ → Prop}

/-- Two results with the same value or the same fault, in related states. -/
inductive Alike (related : σ → σ → Prop) :
    EStateM.Result ε σ α → EStateM.Result ε σ α → Prop
  | ok {value : α} {left right : σ} (states : related left right) :
      Alike related (.ok value left) (.ok value right)
  | error {fault : ε} {left right : σ} (states : related left right) :
      Alike related (.error fault left) (.error fault right)

/-- An action that ends alike on related states. -/
def Parallel (related : σ → σ → Prop) (action : EStateM ε σ α) : Prop :=
  ∀ left right, related left right → Alike related (action left) (action right)

theorem Alike.mono {wider : σ → σ → Prop} {first second : EStateM.Result ε σ α}
    (alike : Alike related first second)
    (included : ∀ left right, related left right → wider left right) :
    Alike wider first second := by
  cases alike with
  | ok states => exact .ok (included _ _ states)
  | error states => exact .error (included _ _ states)

/-- Actions that end alike, with actions after them that go on alike, end alike together. -/
theorem Alike.bind {first second : EStateM ε σ α} {next other : α → EStateM ε σ β}
    {left right : σ} (early : Alike related (first left) (second right))
    (late : ∀ value left right, related left right →
      Alike related (next value left) (other value right)) :
    Alike related ((first >>= next) left) ((second >>= other) right) := by
  generalize resultLeft : first left = one, resultRight : second right = two at early
  cases early with
  | ok states =>
      rw [bind_of_ok resultLeft, bind_of_ok resultRight]
      exact late _ _ _ states
  | error states =>
      rw [bind_of_error resultLeft, bind_of_error resultRight]
      exact .error states

theorem Alike.of_ok {value : α} {left : σ} {second : EStateM.Result ε σ α}
    (alike : Alike related (.ok value left) second) :
    ∃ right, second = .ok value right ∧ related left right := by
  cases alike with
  | ok states => exact ⟨_, rfl, states⟩

theorem Alike.of_error {fault : ε} {left : σ} {second : EStateM.Result ε σ α}
    (alike : Alike related (.error fault left) second) :
    ∃ right, second = .error fault right ∧ related left right := by
  cases alike with
  | error states => exact ⟨_, rfl, states⟩

theorem parallel_pure (value : α) : Parallel related (pure value : EStateM ε σ α) :=
  fun _ _ states => .ok states

theorem parallel_throw (fault : ε) : Parallel related (throw fault : EStateM ε σ α) :=
  fun _ _ states => .error states

theorem parallel_orFault (outcome : Except Fault α) :
    Parallel related (orFault outcome : EStateM Fault σ α) := by
  cases outcome with
  | ok value => exact parallel_pure value
  | error fault => exact parallel_throw fault

theorem Parallel.bind {first : EStateM ε σ α} {next : α → EStateM ε σ β}
    (early : Parallel related first) (late : ∀ value, Parallel related (next value)) :
    Parallel related (first >>= next) :=
  fun left right states => (early left right states).bind late

theorem Parallel.adaptExcept {δ : Type} {action : EStateM ε σ α} (parallel : Parallel related action)
    (change : ε → δ) : Parallel related (EStateM.adaptExcept change action) := by
  intro left right states
  have alike := parallel left right states
  simp only [EStateM.adaptExcept]
  generalize action left = first, action right = second at alike
  cases alike with
  | ok states => exact .ok states
  | error states => exact .error states

end ContractRollout
