import ContractRollout.FileTree.Basic
import ContractRollout.Proofs.Outcomes

/-!
# Places of paths

Where a path leads is a matter of its parts alone; the tree only decides whether it
leads there. A path goes on leading to its place when directories are added, and what
is found at it depends on the directories of the tree and on its place only.
-/

namespace ContractRollout

/-- Where a part leads from the directory that holds it. -/
def Place.enter (holder : Place) (part : String) : Place :=
  if part = ".." then holder.parent else holder.child part

/-- Where parts, innermost first, lead from a place. -/
def Place.resolve (start : Place) : List String → Place
  | [] => start
  | part :: outer => (start.resolve outer).enter part

theorem Place.enter_of_ne {part : String} (plain : part ≠ "..") (holder : Place) :
    holder.enter part = holder.child part := by
  simp [Place.enter, plain]

theorem Place.child_injective {first second : Place} {name other : String}
    (same : first.child name = second.child other) : name = other := by
  simp only [Place.child, Place.mk.injEq, List.cons.injEq] at same
  exact same.2.1

namespace Path

def start (path : Path) : Place :=
  if path.rooting = .relative then Place.working else ⟨.root, []⟩

/-- The place that a path leads to, if it leads anywhere. -/
def place (path : Path) : Place := path.start.resolve path.parts

end Path

namespace FileTree

variable {before after first second tree : FileTree}

def KeepsDirectories (before after : FileTree) : Prop :=
  ∀ place, before.entryAt place = some .directory → after.entryAt place = some .directory

def SameDirectories (first second : FileTree) : Prop :=
  ∀ place, first.entryAt place = some .directory ↔ second.entryAt place = some .directory

theorem SameDirectories.symm (same : SameDirectories first second) :
    SameDirectories second first :=
  fun place => (same place).symm

theorem SameDirectories.keeps (same : SameDirectories first second) :
    KeepsDirectories first second :=
  fun place => (same place).mp

/-- A place with nothing or a file is not the root and no starting point. -/
theorem names_ne_nil {place : Place} (apart : tree.entryAt place ≠ some .directory) :
    place.names ≠ [] := by
  intro unnamed
  simp [entryAt, unnamed] at apart

/-! ### Walking -/

theorem walk_cons (start : Place) (part : String) (outer : List String) :
    tree.walk start (part :: outer) = (do
      let holder ← tree.walk start outer
      match tree.entryAt holder with
      | none => .error .notFound
      | some (.file _) => .error .notDirectory
      | some .directory =>
          if part = ".." then .ok holder.parent
          else if nameLimit < part.utf8ByteSize then .error .nameTooLong
          else .ok (holder.child part)) :=
  rfl

/-- A part is walked to exactly from a directory, if its name is not too long. -/
theorem walk_cons_ok {start place : Place} {part : String} {outer : List String} :
    tree.walk start (part :: outer) = .ok place ↔
      ∃ holder, tree.walk start outer = .ok holder ∧ tree.entryAt holder = some .directory ∧
        (part = ".." ∨ part.utf8ByteSize ≤ nameLimit) ∧ holder.enter part = place := by
  rw [walk_cons, bind_eq_ok]
  refine exists_congr fun holder => and_congr_right fun _ => ?_
  cases found : tree.entryAt holder with
  | none => simp
  | some entry =>
      cases entry with
      | file content => simp
      | directory =>
          by_cases up : part = ".."
          · simp [Place.enter, up]
          · by_cases long : nameLimit < part.utf8ByteSize
            · simp [up, long, Nat.not_le_of_lt long]
            · simp [Place.enter, up, long, Nat.le_of_not_lt long]

/-- Walking only ever leads to where the parts lead. -/
theorem walk_place {start place : Place} {parts : List String}
    (walks : tree.walk start parts = .ok place) : place = start.resolve parts := by
  induction parts generalizing place with
  | nil => exact (Except.ok.inj walks).symm
  | cons part outer ih =>
      obtain ⟨holder, walksOuter, -, -, rfl⟩ := walk_cons_ok.mp walks
      rw [ih walksOuter, Place.resolve]

theorem walk_mono (kept : KeepsDirectories before after) {start place : Place}
    {parts : List String} (walks : before.walk start parts = .ok place) :
    after.walk start parts = .ok place := by
  induction parts generalizing place with
  | nil => exact walks
  | cons part outer ih =>
      obtain ⟨holder, walksOuter, directory, short, leads⟩ := walk_cons_ok.mp walks
      exact walk_cons_ok.mpr ⟨holder, ih walksOuter, kept holder directory, short, leads⟩

/-- A name is too long when walking comes to it, or came to one before. -/
theorem walk_cons_tooLong {start : Place} {part : String} {outer : List String} :
    tree.walk start (part :: outer) = .error .nameTooLong ↔
      tree.walk start outer = .error .nameTooLong ∨
        ∃ holder, tree.walk start outer = .ok holder ∧
          tree.entryAt holder = some .directory ∧ part ≠ ".." ∧
            nameLimit < part.utf8ByteSize := by
  rw [walk_cons]
  cases walks : tree.walk start outer with
  | error problem => simp [bind, Except.bind]
  | ok holder =>
      cases found : tree.entryAt holder with
      | none => simp [bind, Except.bind, found]
      | some entry =>
          cases entry with
          | file content => simp [bind, Except.bind, found]
          | directory =>
              by_cases up : part = ".."
              · simp [bind, Except.bind, found, up]
              · by_cases long : nameLimit < part.utf8ByteSize
                · simp [bind, Except.bind, found, up, long]
                · simp [bind, Except.bind, found, up, long]

theorem walk_tooLong_mono (kept : KeepsDirectories before after) {start : Place}
    {parts : List String} (long : before.walk start parts = .error .nameTooLong) :
    after.walk start parts = .error .nameTooLong := by
  induction parts with
  | nil => simp [walk] at long
  | cons part outer ih =>
      rcases walk_cons_tooLong.mp long with earlier | ⟨holder, walks, directory, here⟩
      · exact walk_cons_tooLong.mpr (.inl (ih earlier))
      · exact walk_cons_tooLong.mpr (.inr ⟨holder, walk_mono kept walks, kept holder directory, here⟩)

/-! ### Locating -/

/-- A path that the system takes: it has no null character and is not too long. -/
def Acceptable (path : Path) : Prop :=
  path.toString.toList.contains '\x00' = false ∧ path.toString.utf8ByteSize < pathLimit

theorem locate_eq (path : Path) :
    tree.locate path =
      if path.toString.toList.contains '\x00' then .error .nullCharacter
      else if pathLimit ≤ path.toString.utf8ByteSize then
        .error (.refused .nameTooLong path none)
      else (tree.walk path.start path.parts).mapError (.refused · path none) := by
  simp only [locate, Path.start]
  split
  · rfl
  · split
    · rfl
    · cases tree.walk (if path.rooting = .relative then Place.working else ⟨.root, []⟩)
        path.parts <;> rfl

theorem locate_ok {path : Path} {place : Place} :
    tree.locate path = .ok place ↔
      Acceptable path ∧ tree.walk path.start path.parts = .ok place := by
  rw [locate_eq, Acceptable]
  cases path.toString.toList.contains '\x00' with
  | true => simp
  | false =>
      by_cases long : pathLimit ≤ path.toString.utf8ByteSize
      · simp [long, Nat.not_lt_of_le long]
      · cases tree.walk path.start path.parts <;>
          simp [long, Nat.lt_of_not_le long, Except.mapError]

theorem locate_place {path : Path} {place : Place} (located : tree.locate path = .ok place) :
    place = path.place :=
  walk_place (locate_ok.mp located).2

theorem locate_mono (kept : KeepsDirectories before after) {path : Path} {place : Place}
    (located : before.locate path = .ok place) : after.locate path = .ok place := by
  obtain ⟨acceptable, walks⟩ := locate_ok.mp located
  exact locate_ok.mpr ⟨acceptable, walk_mono kept walks⟩

/-- What is found at a path depends on the directories and on the place of the path. -/
theorem find?_congr (same : SameDirectories first second) {path : Path}
    (agree : first.entryAt path.place = second.entryAt path.place) :
    first.find? path = second.find? path := by
  simp only [find?, locate_eq]
  by_cases null : path.toString.toList.contains '\x00' = true
  · simp only [if_pos null]
  by_cases tooLong : pathLimit ≤ path.toString.utf8ByteSize
  · simp only [if_neg null, if_pos tooLong]
  simp only [if_neg null, if_neg tooLong]
  cases walks : first.walk path.start path.parts with
  | ok place =>
      rw [walk_mono same.keeps walks, walk_place walks]
      exact congrArg Except.ok agree
  | error problem =>
      cases others : second.walk path.start path.parts with
      | ok place =>
          rw [walk_mono same.symm.keeps others] at walks
          simp at walks
      | error other =>
          -- Both walks stop, and they agree on whether a name is too long.
          have long : problem = .nameTooLong ↔ other = .nameTooLong := by
            constructor
            · rintro rfl
              exact Except.error.inj (others.symm.trans (walk_tooLong_mono same.keeps walks))
            · rintro rfl
              exact Except.error.inj (walks.symm.trans (walk_tooLong_mono same.symm.keeps others))
          cases problem <;> cases other <;> simp_all [Except.mapError]

/-! ### Files at paths -/

theorem holds_ok_true {path : Path} :
    tree.holds path = .ok true ↔
      tree.locate path = .ok path.place ∧ ∃ entry, tree.entryAt path.place = some entry := by
  unfold holds find?
  cases located : tree.locate path with
  | ok place =>
      obtain rfl := locate_place located
      cases found : tree.entryAt path.place <;> simp [Except.map, found]
  | error error =>
      split <;> simp_all [Except.map]

theorem content_ok {path : Path} {bytes : ByteArray} :
    tree.content path = .ok bytes ↔
      tree.locate path = .ok path.place ∧ tree.entryAt path.place = some (.file bytes) := by
  unfold content
  rw [bind_eq_ok]
  constructor
  · rintro ⟨place, located, found⟩
    obtain rfl := locate_place located
    refine ⟨located, ?_⟩
    split at found <;> simp_all
  · rintro ⟨located, found⟩
    exact ⟨path.place, located, by rw [found]⟩

theorem content_mono (kept : KeepsDirectories before after) {path : Path} {bytes : ByteArray}
    (found : before.content path = .ok bytes)
    (agree : after.entryAt path.place = before.entryAt path.place) :
    after.content path = .ok bytes := by
  obtain ⟨located, file⟩ := content_ok.mp found
  exact content_ok.mpr ⟨locate_mono kept located, agree.trans file⟩

end FileTree

end ContractRollout
