import Tangle.Proofs.Tree.Order

namespace Tangle

/-!
# The leaves of a tree

Listing the leaves of an ordered tree and following names see the same files,
and the leaves come in ascending order of the names that lead to them.
-/

namespace Entry

/-- Following names from an entry on ends at a file that holds some contents. -/
def HasFile : Entry → List String → String → Prop
  | .file text, names, contents => names = [] ∧ contents = text
  | .directory children, names, contents => children.HasFile names contents

/-- Following names from an entry on ends at a directory. -/
def HasDirectory : Entry → List String → Prop
  | .file _, _ => False
  | .directory children, names => names = [] ∨ children.HasDirectory names

/-- The files of an entry that stands at a place. -/
def leaves (place : List String) : Entry → List (List String × String)
  | .file contents => [(place, contents)]
  | .directory children => children.leaves place

end Entry

namespace Tree

/-- The files of the first entry come before those of the rest. -/
theorem leaves_before
    (place : List String) (name : String) (entry : Entry) (rest : Tree) :
    (entry.before name rest).leaves place =
      entry.leaves (place ++ [name]) ++ rest.leaves place := by
  cases entry <;> rfl

/-- A file whose names start with this one is a file of the entry there. -/
theorem hasFile_cons_iff
    {tree : Tree} {name contents : String} {below : List String} :
    tree.HasFile (name :: below) contents ↔
      ∃ entry, tree.find? name = some entry ∧ entry.HasFile below contents := by
  cases below with
  | nil =>
      rw [hasFile_singleton]
      constructor
      · intro found
        exact ⟨.file contents, found, rfl, rfl⟩
      · intro under
        obtain ⟨entry, found, holds⟩ := under
        cases entry with
        | file text =>
            rw [found, holds.2]
        | directory children =>
            exact (not_hasFile_nil children contents holds).elim
  | cons next later =>
      rw [hasFile_cons (List.cons_ne_nil next later), inside]
      cases tree.find? name with
      | none =>
          simp
      | some entry =>
          cases entry <;> simp [Entry.HasFile]

/-- So is a directory. -/
theorem hasDirectory_cons_iff_entry {tree : Tree} {name : String} {below : List String} :
    tree.HasDirectory (name :: below) ↔
      ∃ entry, tree.find? name = some entry ∧ entry.HasDirectory below := by
  rw [hasDirectory_cons_iff]
  constructor
  · rintro ⟨children, found, holds⟩
    exact ⟨.directory children, found, holds⟩
  · rintro ⟨entry, found, holds⟩
    cases entry with
    | file text => contradiction
    | directory children => exact ⟨children, found, holds⟩

/-- A file of a tree stands under its first entry or among the others. -/
theorem hasFile_before
    {name contents : String} {entry : Entry} {rest : Tree} {names : List String}
    (onlyOnce : rest.find? name = none) :
    (entry.before name rest).HasFile names contents ↔
      (∃ below, names = name :: below ∧ entry.HasFile below contents) ∨
        rest.HasFile names contents := by
  cases names with
  | nil =>
      simp
  | cons first below =>
      rw [hasFile_cons_iff, hasFile_cons_iff]
      by_cases same : first = name
      · subst first
        simp [onlyOnce]
      · simp [find?_before_of_ne (Ne.symm same), same]

/-- Some name leads to every file, and it is one of the tree. -/
theorem HasFile.exists_cons
    {tree : Tree} {names : List String} {contents : String}
    (file : tree.HasFile names contents) :
    ∃ name below, names = name :: below ∧ name ∈ tree.names := by
  cases names with
  | nil =>
      exact (not_hasFile_nil tree contents file).elim
  | cons name below =>
      obtain ⟨entry, found, _⟩ := hasFile_cons_iff.mp file
      exact ⟨name, below, rfl, mem_names_iff.mpr ⟨entry, found⟩⟩

/-- The leaves of an ordered tree are its files, under the names that lead to them. -/
theorem mem_leaves
    {tree : Tree} (ordered : tree.Ordered) {place names : List String} {contents : String} :
    (names, contents) ∈ tree.leaves place ↔
      ∃ below, names = place ++ below ∧ tree.HasFile below contents := by
  induction tree using entryInduction generalizing place with
  | empty =>
      simp [leaves]
  | before name entry rest inDirectory inRest =>
      obtain ⟨smaller, entryOrdered, restOrdered⟩ := ordered_before.mp ordered
      have inEntry :
          (names, contents) ∈ entry.leaves (place ++ [name]) ↔
            ∃ below, names = place ++ name :: below ∧ entry.HasFile below contents := by
        cases entry with
        | file text =>
            simp only [Entry.leaves, Entry.HasFile, List.mem_singleton, Prod.mk.injEq]
            constructor
            · intro same
              obtain ⟨shape, sameText⟩ := same
              exact ⟨[], shape, rfl, sameText⟩
            · intro ends
              obtain ⟨_, shape, rfl, sameText⟩ := ends
              exact ⟨shape, sameText⟩
        | directory children =>
            simp only [Entry.leaves, Entry.HasFile,
              inDirectory children rfl entryOrdered, List.append_assoc, List.singleton_append]
      have beforeIff :
          ∀ below,
            (entry.before name rest).HasFile below contents ↔
              (∃ deeper, below = name :: deeper ∧ entry.HasFile deeper contents) ∨
                rest.HasFile below contents :=
        fun _ => hasFile_before (find?_eq_none_of_lt smaller)
      rw [leaves_before, List.mem_append, inEntry, inRest restOrdered]
      simp only [beforeIff]
      constructor
      · intro leaf
        rcases leaf with ⟨below, shape, file⟩ | ⟨below, shape, file⟩
        · exact ⟨name :: below, shape, Or.inl ⟨below, rfl, file⟩⟩
        · exact ⟨below, shape, Or.inr file⟩
      · intro leaf
        obtain ⟨_, shape, ⟨below, rfl, file⟩ | file⟩ := leaf
        · exact Or.inl ⟨below, shape, file⟩
        · exact Or.inr ⟨_, shape, file⟩

/-- The leaves of an ordered tree come in ascending order of their names. -/
theorem Ordered.leaves_pairwise
    {tree : Tree} (ordered : tree.Ordered) (place : List String) :
    (tree.leaves place).Pairwise (fun first second => first.1 < second.1) := by
  induction tree using entryInduction generalizing place with
  | empty =>
      exact .nil
  | before name entry rest inDirectory inRest =>
      obtain ⟨smaller, entryOrdered, restOrdered⟩ := ordered_before.mp ordered
      have startsWithName :
          ∀ leaf ∈ entry.leaves (place ++ [name]), ∃ below, leaf.1 = place ++ name :: below := by
        rintro ⟨names, contents⟩ member
        cases entry with
        | file text =>
            cases List.mem_singleton.mp member
            exact ⟨[], rfl⟩
        | directory children =>
            obtain ⟨below, shape, _⟩ := (mem_leaves entryOrdered).mp member
            exact ⟨below, by simp [shape]⟩
      rw [leaves_before, List.pairwise_append]
      refine ⟨?_, inRest restOrdered place, ?_⟩
      · cases entry with
        | file text => exact List.pairwise_singleton _ _
        | directory children => exact inDirectory children rfl entryOrdered _
      · rintro first firstMember ⟨names, contents⟩ secondMember
        obtain ⟨below, firstShape⟩ := startsWithName first firstMember
        obtain ⟨_, secondShape, file⟩ := (mem_leaves restOrdered).mp secondMember
        obtain ⟨later, deeper, rfl, laterMember⟩ := file.exists_cons
        rw [firstShape, secondShape]
        exact List.append_left_lt (List.cons_lt_cons_iff.mpr (Or.inl (smaller later laterMember)))

end Tree

end Tangle
