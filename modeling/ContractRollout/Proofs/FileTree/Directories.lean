import ContractRollout.Proofs.FileTree.Ways

/-!
# Where directories are made

Making a directory with its parents touches only the places of these. A path without
double dots leads to a place with as many names as the path has parts, so nothing is
made further down.
-/

namespace ContractRollout

theorem Place.names_resolve (start : Place) {parts : List String} (plain : ".." ∉ parts) :
    (start.resolve parts).names = parts ++ start.names := by
  induction parts with
  | nil => rfl
  | cons part outer ih =>
      have apart : part ≠ ".." ∧ ".." ∉ outer := by simpa [eq_comm] using plain
      rw [Place.resolve, Place.enter_of_ne apart.1, Place.child, ih apart.2, List.cons_append]

theorem Path.names_place {rooting : Rooting} {parts : List String} (plain : ".." ∉ parts) :
    (Path.mk rooting parts).place.names = parts := by
  have unnamed : (Path.mk rooting parts).start.names = [] := by
    cases rooting <;> rfl
  rw [Path.place, Place.names_resolve _ plain, unnamed, List.append_nil]

theorem Path.ne_place_of_deep (rooting : Rooting) {parts : List String} (plain : ".." ∉ parts)
    {place : Place} (deep : parts.length < place.names.length) :
    place ≠ (Path.mk rooting parts).place := by
  rintro rfl
  rw [Path.names_place plain] at deep
  exact Nat.lt_irrefl _ deep

theorem Path.not_mem_way_of_deep (rooting : Rooting) {parts : List String}
    (plain : ".." ∉ parts) {place : Place} (deep : parts.length < place.names.length) :
    place ∉ (Path.mk rooting parts).way := by
  have here := Path.ne_place_of_deep rooting plain deep
  induction parts with
  | nil => exact List.not_mem_cons_of_ne_of_not_mem here (List.not_mem_nil)
  | cons part outer ih =>
      have simple : ".." ∉ outer := fun member => plain (List.mem_cons_of_mem _ member)
      have shallow : outer.length < place.names.length := Nat.lt_of_succ_lt deep
      rw [Path.way_cons]
      exact List.not_mem_cons_of_ne_of_not_mem here
        (ih simple shallow (Path.ne_place_of_deep rooting simple shallow))

/-! ### Paths below a directory -/

namespace Path

/-- What stands before a name in the path of a directory. -/
def front (directory : Path) : String :=
  let outer := if directory.parts = [] then "" else
    "/".intercalate directory.parts.reverse ++ "/"
  match directory.rooting with
  | .relative => outer
  | .slash => "/" ++ outer
  | .doubleSlash => "//" ++ outer

theorem toString_cons (directory : Path) (name : String) :
    toString ⟨directory.rooting, name :: directory.parts⟩ = directory.front ++ name := by
  obtain ⟨rooting, parts⟩ := directory
  have joined : "/".intercalate (parts.reverse ++ [name]) =
      (if parts = [] then "" else "/".intercalate parts.reverse ++ "/") ++ name := by
    split
    · rename_i topmost
      simp [topmost, String.intercalate_singleton]
    · rename_i nested
      rw [String.intercalate_append_of_ne_nil (by simpa using nested) (by simp),
        String.intercalate_singleton]
  cases rooting <;> simp [toString, front, joined, String.append_assoc]

theorem front_cons (rooting : Rooting) (part : String) (outer : List String) :
    (Path.mk rooting (part :: outer)).front = (Path.mk rooting outer).front ++ part ++ "/" := by
  rw [← toString_cons ⟨rooting, outer⟩ part]
  cases rooting <;> simp [front, toString, String.append_assoc]

theorem not_mem_front {directory : Path} {character : Char} (solid : character ≠ '/')
    (outside : character ∉ directory.toString.toList) : character ∉ directory.front.toList := by
  obtain ⟨rooting, parts⟩ := directory
  intro inside
  by_cases topmost : parts = []
  · cases rooting <;> simp [front, topmost, solid] at inside
  · cases rooting <;> simp_all [front, toString]

theorem not_mem_toString {path : Path} {character : Char} (solid : character ≠ '/')
    (apart : character ≠ '.') (outside : ∀ part ∈ path.parts, character ∉ part.toList) :
    character ∉ path.toString.toList := by
  obtain ⟨rooting, parts⟩ := path
  induction parts with
  | nil => cases rooting <;> simp [toString, solid, apart]
  | cons part outer ih =>
      have front := not_mem_front solid
        (ih fun other member => outside other (List.mem_cons_of_mem _ member))
      rw [toString_cons ⟨rooting, outer⟩, String.toList_append, List.mem_append]
      exact not_or.mpr ⟨front, outside part List.mem_cons_self⟩

end Path

/-! ### Making directories -/

namespace FileTree

variable {tree : FileTree}

theorem locate_child {directory : Path} {part : String} (there : tree.HasDirectory directory)
    (acceptable : Acceptable ⟨directory.rooting, part :: directory.parts⟩)
    (short : part.utf8ByteSize ≤ nameLimit) :
    tree.locate ⟨directory.rooting, part :: directory.parts⟩ =
      .ok (Path.mk directory.rooting (part :: directory.parts)).place := by
  have walks := (locate_ok.mp there.1).2
  exact locate_ok.mpr ⟨acceptable,
    walk_cons_ok.mpr ⟨directory.place, walks, there.2, .inr short, rfl⟩⟩

/-- Nothing changes below the directory that is made. -/
theorem entryAt_makeDirectoriesAt (rooting : Rooting) {parts : List String}
    (plain : ".." ∉ parts) (tree : FileTree) {place : Place}
    (deep : parts.length < place.names.length) :
    (finalState (makeDirectoriesAt rooting parts tree)).entryAt place = tree.entryAt place :=
  entryAt_makeDirectoriesAt_of_beside (Path.not_mem_way_of_deep rooting plain deep) tree

/-! ### Making directories where there is nothing -/

theorem acceptable_outer {rooting : Rooting} {part : String} {outer : List String}
    (acceptable : Acceptable ⟨rooting, part :: outer⟩) : Acceptable ⟨rooting, outer⟩ := by
  obtain ⟨solid, short⟩ := acceptable
  rw [Path.toString_cons ⟨rooting, outer⟩] at solid short
  by_cases topmost : outer = []
  · subst topmost
    cases rooting <;> exact ⟨by decide, by decide⟩
  · obtain ⟨name, above, rfl⟩ := List.exists_cons_of_ne_nil topmost
    rw [Path.front_cons, ← Path.toString_cons ⟨rooting, above⟩] at solid short
    simp only [String.utf8ByteSize_append] at short
    exact ⟨by simp_all, Nat.lt_of_le_of_lt (by omega) short⟩

theorem walk_empty {start : Place} {parts : List String}
    (short : ∀ part ∈ parts, part.utf8ByteSize ≤ nameLimit) :
    (∃ place, FileTree.empty.walk start parts = .ok place) ∨
      FileTree.empty.walk start parts = .error .notFound := by
  induction parts with
  | nil => exact .inl ⟨start, rfl⟩
  | cons part outer ih =>
      rw [walk_cons]
      rcases ih fun other member => short other (List.mem_cons_of_mem _ member) with
        ⟨holder, walks⟩ | missing
      · rw [walks]
        simp only [bind, Except.bind]
        have fits := Nat.not_lt_of_le (short part List.mem_cons_self)
        have known : FileTree.empty.entryAt holder = none ∨
            FileTree.empty.entryAt holder = some .directory := by
          simp only [entryAt, FileTree.empty]
          split <;> simp
        rcases known with vacant | directory
        · rw [vacant]
          exact .inr rfl
        · rw [directory]
          refine .inl ?_
          dsimp only
          rw [if_neg fits]
          split <;> exact ⟨_, rfl⟩
      · rw [missing]
        exact .inr rfl

theorem ensureDirectory_empty {path : Path} (acceptable : Acceptable path)
    (short : ∀ part ∈ path.parts, part.utf8ByteSize ≤ nameLimit) :
    (∃ after, ensureDirectory path FileTree.empty = .ok () after) ∨
      ensureDirectory path FileTree.empty =
        .error (.refused .notFound path none) FileTree.empty := by
  rcases @walk_empty path.start _ short with ⟨place, walks⟩ | missing
  · left
    have located := locate_ok.mpr ⟨acceptable, walks⟩
    obtain rfl := locate_place located
    cases stands : FileTree.empty.entryAt path.place with
    | none =>
        refine ⟨FileTree.empty.put path.place .directory, ?_⟩
        simp [ensureDirectory, makeDirectory_eq, located, stands]
    | some entry =>
        have directory : entry = .directory := by
          simp only [entryAt, FileTree.empty] at stands
          split at stands <;> simp_all
        subst directory
        exact ⟨_, ensureDirectory_of_hasDirectory ⟨located, stands⟩⟩
  · right
    have located : FileTree.empty.locate path = .error (.refused .notFound path none) := by
      rw [locate_eq, acceptable.1, if_neg (Nat.not_le_of_lt acceptable.2), missing]
      rfl
    simp [ensureDirectory, makeDirectory_eq, located]

/-- Where there is nothing every directory can be made, if the system takes its path. -/
theorem makeDirectoriesAt_empty {rooting : Rooting} {parts : List String}
    (plain : ".." ∉ parts) (acceptable : Acceptable ⟨rooting, parts⟩)
    (short : ∀ part ∈ parts, part.utf8ByteSize ≤ nameLimit) :
    ∃ after, makeDirectoriesAt rooting parts FileTree.empty = .ok () after := by
  induction parts with
  | nil =>
      have there : FileTree.empty.HasDirectory ⟨rooting, []⟩ :=
        ⟨locate_ok.mpr ⟨acceptable, rfl⟩, by cases rooting <;> rfl⟩
      exact ⟨FileTree.empty, ensureDirectory_of_hasDirectory there⟩
  | cons part outer ih =>
      have simple : ".." ∉ outer := fun member => plain (List.mem_cons_of_mem _ member)
      have deep : outer.length < (Path.mk rooting (part :: outer)).place.names.length := by
        simp [Path.names_place plain]
      obtain ⟨middle, made⟩ := ih simple (acceptable_outer acceptable)
        fun other member => short other (List.mem_cons_of_mem _ member)
      have there : middle.HasDirectory ⟨rooting, outer⟩ := hasDirectory_makeDirectories made
      have located := locate_child there acceptable (short part List.mem_cons_self)
      have vacant : middle.entryAt (Path.mk rooting (part :: outer)).place = none := by
        have same := entryAt_makeDirectoriesAt rooting simple FileTree.empty deep
        rw [made, finalState_ok] at same
        rw [same]
        simp [entryAt, FileTree.empty, Path.names_place plain]
      unfold makeDirectoriesAt
      rcases ensureDirectory_empty acceptable short with ⟨after, early⟩ | missing
      · rw [early]
        exact ⟨after, rfl⟩
      · rw [missing]
        dsimp only
        rw [bind_of_ok made]
        refine ⟨middle.put (Path.mk rooting (part :: outer)).place .directory, ?_⟩
        simp [ensureDirectory, makeDirectory_eq, located, vacant]

end FileTree

end ContractRollout
