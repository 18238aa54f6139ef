/-!
# Ordered bindings

Keys are bound to values by a list of pairs that keeps the order of first insertion. A
lookup sees the last value that a key was given, and giving a key a value changes no
other lookup.
-/

namespace ContractRollout

namespace Bindings

variable {α β : Type} [DecidableEq α]

/-- Give a key a value: in its place if it has one, at the end otherwise. -/
def insert (key : α) (value : β) : List (α × β) → List (α × β)
  | [] => [(key, value)]
  | (name, held) :: rest =>
      if name = key then (name, value) :: rest else (name, held) :: insert key value rest

/-- Take a key and its values away. -/
def erase (key : α) : List (α × β) → List (α × β)
  | [] => []
  | (name, held) :: rest =>
      if name = key then erase key rest else (name, held) :: erase key rest

@[simp]
theorem lookup_insert_self (key : α) (value : β) (bindings : List (α × β)) :
    (insert key value bindings).lookup key = some value := by
  induction bindings with
  | nil => simp [insert]
  | cons binding rest ih =>
      obtain ⟨name, held⟩ := binding
      by_cases same : name = key
      · simp [insert, same]
      · have unseen : (key == name) = false := by simpa using Ne.symm same
        simp [insert, same, List.lookup_cons, unseen, ih]

theorem lookup_insert_of_ne {key other : α} (different : other ≠ key) (value : β)
    (bindings : List (α × β)) :
    (insert key value bindings).lookup other = bindings.lookup other := by
  have unseen : (other == key) = false := by simpa using different
  induction bindings with
  | nil => simp [insert, List.lookup_cons, unseen]
  | cons binding rest ih =>
      obtain ⟨name, held⟩ := binding
      by_cases same : name = key
      · subst same
        simp [insert, List.lookup_cons, unseen]
      · simp [insert, same, List.lookup_cons, ih]

/-- A key that is bound already keeps its place. -/
theorem keys_insert_of_mem {key : α} (value : β) {bindings : List (α × β)}
    (bound : key ∈ bindings.map Prod.fst) :
    (insert key value bindings).map Prod.fst = bindings.map Prod.fst := by
  induction bindings with
  | nil => simp at bound
  | cons binding rest ih =>
      by_cases same : binding.1 = key
      · simp [insert, same]
      · have later : key ∈ rest.map Prod.fst := by
          simpa [Ne.symm same] using bound
        simp only [insert, same, if_false, List.map_cons, ih later]

/-- A new key comes last. -/
theorem keys_insert_of_not_mem {key : α} (value : β) {bindings : List (α × β)}
    (unbound : key ∉ bindings.map Prod.fst) :
    (insert key value bindings).map Prod.fst = bindings.map Prod.fst ++ [key] := by
  induction bindings with
  | nil => rfl
  | cons binding rest ih =>
      have apart : binding.1 ≠ key ∧ key ∉ rest.map Prod.fst := by
        simpa [eq_comm] using unbound
      simp only [insert, apart.1, if_false, List.map_cons, ih apart.2, List.cons_append]

@[simp]
theorem lookup_erase_self (key : α) (bindings : List (α × β)) :
    (erase key bindings).lookup key = none := by
  induction bindings with
  | nil => rfl
  | cons binding rest ih =>
      obtain ⟨name, held⟩ := binding
      by_cases same : name = key
      · simp [erase, same, ih]
      · have unseen : (key == name) = false := by simpa using Ne.symm same
        simp [erase, same, List.lookup_cons, unseen, ih]

theorem lookup_erase_of_ne {key other : α} (different : other ≠ key)
    (bindings : List (α × β)) :
    (erase key bindings).lookup other = bindings.lookup other := by
  have unseen : (other == key) = false := by simpa using different
  induction bindings with
  | nil => rfl
  | cons binding rest ih =>
      obtain ⟨name, held⟩ := binding
      by_cases same : name = key
      · subst same
        simp [erase, List.lookup_cons, unseen, ih]
      · simp [erase, same, List.lookup_cons, ih]

end Bindings

end ContractRollout
