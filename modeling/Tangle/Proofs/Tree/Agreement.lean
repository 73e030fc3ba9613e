import Tangle.Proofs.Tree.Extensional
import Tangle.Proofs.Tree.Merging

namespace Tangle

/-!
# Trees that agree

Two trees clash where following the same names ends at a file in one and at a
directory in the other, or at files with different contents.  The conflicts of a
merge are these clashes.  Trees that do not clash agree, and merging them gives
a tree with the files and the directories of both.
-/

namespace Conflict

/-- The same conflict seen from above the place where the trees stand. -/
def below (place : List String) : Conflict → Conflict
  | .fileAndDirectory names => .fileAndDirectory (place ++ names)
  | .divergentFile names => .divergentFile (place ++ names)

/-- A conflict that is seen from the root stays as it is. -/
theorem below_nil (conflict : Conflict) : conflict.below [] = conflict := by
  cases conflict <;> rfl

/-- Names are put in front of a conflict one after the other. -/
theorem below_append (front back : List String) (conflict : Conflict) :
    conflict.below (front ++ back) = (conflict.below back).below front := by
  cases conflict <;> simp [below]

end Conflict

namespace Tree

/-- Two trees clash as a conflict says. -/
def Clash (mine theirs : Tree) : Conflict → Prop
  | .fileAndDirectory names =>
      (∃ text, mine.HasFile names text) ∧ theirs.HasDirectory names ∨
        mine.HasDirectory names ∧ ∃ text, theirs.HasFile names text
  | .divergentFile names =>
      ∃ text other, mine.HasFile names text ∧ theirs.HasFile names other ∧ text ≠ other

/--
No path is a file in one tree and a directory in the other, and common files have
the same contents.
-/
structure Agree (first second : Tree) : Prop where
  fileFirst : ∀ {names text}, first.HasFile names text → ¬ second.HasDirectory names
  fileSecond : ∀ {names text}, second.HasFile names text → ¬ first.HasDirectory names
  contents :
    ∀ {names text other}, first.HasFile names text → second.HasFile names other → text = other

end Tree

/-- Two entries under one name clash as a conflict says that is seen from there. -/
def Entry.Clash : Entry → Entry → Conflict → Prop
  | .file text, .file other, conflict => conflict = .divergentFile [] ∧ text ≠ other
  | .directory mine, .directory theirs, conflict => mine.Clash theirs conflict
  | _, _, conflict => conflict = .fileAndDirectory []

namespace Entry

variable {present entry : Entry} {names : List String}

/-- Entries clash in kind where one has a file and the other a directory. -/
theorem clash_fileAndDirectory_iff :
    present.Clash entry (.fileAndDirectory names) ↔
      (∃ text, present.HasFile names text) ∧ entry.HasDirectory names ∨
        present.HasDirectory names ∧ ∃ text, entry.HasFile names text := by
  match present, entry with
  | .file _, .file _ =>
      simp [Clash, HasDirectory]
  | .file _, .directory _ =>
      simp only [Clash, HasFile, HasDirectory, Conflict.fileAndDirectory.injEq]
      constructor
      · rintro rfl
        exact Or.inl ⟨⟨_, rfl, rfl⟩, Or.inl rfl⟩
      · rintro (⟨⟨_, here, _⟩, _⟩ | ⟨impossible, _⟩)
        · exact here
        · contradiction
  | .directory _, .file _ =>
      simp only [Clash, HasFile, HasDirectory, Conflict.fileAndDirectory.injEq]
      constructor
      · rintro rfl
        exact Or.inr ⟨Or.inl rfl, _, rfl, rfl⟩
      · rintro (⟨_, impossible⟩ | ⟨_, _, here, _⟩)
        · contradiction
        · exact here
  | .directory _, .directory _ =>
      simp only [Clash, Tree.Clash, HasFile, HasDirectory]
      constructor
      · rintro (⟨file, directory⟩ | ⟨directory, file⟩)
        · exact Or.inl ⟨file, Or.inr directory⟩
        · exact Or.inr ⟨Or.inr directory, file⟩
      · rintro (⟨⟨text, file⟩, here | directory⟩ | ⟨here | directory, text, file⟩)
        · exact absurd here file.ne_nil
        · exact Or.inl ⟨⟨text, file⟩, directory⟩
        · exact absurd here file.ne_nil
        · exact Or.inr ⟨directory, text, file⟩

/-- They diverge where both have files with different contents. -/
theorem clash_divergentFile_iff :
    present.Clash entry (.divergentFile names) ↔
      ∃ text other, present.HasFile names text ∧ entry.HasFile names other ∧ text ≠ other := by
  match present, entry with
  | .file _, .file _ =>
      simp only [Clash, HasFile, Conflict.divergentFile.injEq]
      constructor
      · rintro ⟨rfl, different⟩
        exact ⟨_, _, ⟨rfl, rfl⟩, ⟨rfl, rfl⟩, different⟩
      · rintro ⟨_, _, ⟨here, rfl⟩, ⟨_, rfl⟩, different⟩
        exact ⟨here, different⟩
  | .file _, .directory children =>
      simp only [Clash, HasFile]
      constructor
      · intro impossible
        contradiction
      · rintro ⟨_, _, ⟨rfl, _⟩, file, _⟩
        exact absurd file (children.not_hasFile_nil _)
  | .directory inner, .file _ =>
      simp only [Clash, HasFile]
      constructor
      · intro impossible
        contradiction
      · rintro ⟨_, _, file, ⟨rfl, _⟩, _⟩
        exact absurd file (inner.not_hasFile_nil _)
  | .directory _, .directory _ =>
      rfl

/-- The conflicts of two entries at one place are their clashes, seen from above. -/
theorem mem_clashes_iff
    {place : List String} {conflict : Conflict}
    (directories :
      ∀ mine theirs, present = .directory mine → entry = .directory theirs →
        (conflict ∈ (Tree.mergeAt place mine theirs).conflicts ↔
          ∃ inner, mine.Clash theirs inner ∧ conflict = inner.below place)) :
    conflict ∈ clashes place (some present) entry ↔
      ∃ inner, present.Clash entry inner ∧ conflict = inner.below place := by
  match present, entry with
  | .file text, .file other =>
      by_cases same : text = other <;> simp [clashes, Clash, Conflict.below, same]
  | .file _, .directory _ =>
      simp [clashes, Clash, Conflict.below]
  | .directory _, .file _ =>
      simp [clashes, Clash, Conflict.below]
  | .directory mine, .directory theirs =>
      exact directories mine theirs rfl rfl

end Entry

namespace Tree

/-- Every clash of trees lies under some name. -/
theorem Clash.exists_below {mine theirs : Tree} {conflict : Conflict}
    (clash : mine.Clash theirs conflict) :
    ∃ name inner, conflict = Conflict.below [name] inner := by
  cases conflict with
  | fileAndDirectory names =>
      have nonempty : names ≠ [] := by
        rcases clash with ⟨⟨_, file⟩, _⟩ | ⟨directory, _⟩
        · exact file.ne_nil
        · exact directory.ne_nil
      obtain ⟨name, below, rfl⟩ := List.exists_cons_of_ne_nil nonempty
      exact ⟨name, .fileAndDirectory below, rfl⟩
  | divergentFile names =>
      obtain ⟨_, _, file, _⟩ := clash
      obtain ⟨name, below, rfl⟩ := List.exists_cons_of_ne_nil file.ne_nil
      exact ⟨name, .divergentFile below, rfl⟩

/-- Trees clash below a name as their entries under it do. -/
theorem clash_below_iff {mine theirs : Tree} {name : String} {conflict : Conflict} :
    mine.Clash theirs (conflict.below [name]) ↔
      ∃ present entry, mine.find? name = some present ∧ theirs.find? name = some entry ∧
        present.Clash entry conflict := by
  cases conflict with
  | fileAndDirectory names =>
      simp only [Conflict.below, Clash, List.singleton_append, hasFile_cons_iff,
        hasDirectory_cons_iff_entry, Entry.clash_fileAndDirectory_iff]
      cases mine.find? name <;> cases theirs.find? name <;> simp
  | divergentFile names =>
      simp only [Conflict.below, Clash, List.singleton_append, hasFile_cons_iff,
        Entry.clash_divergentFile_iff]
      cases mine.find? name <;> cases theirs.find? name <;> simp

/-- The conflicts of merging are the clashes of the two trees. -/
theorem mem_conflicts_mergeAt_iff
    {mine theirs : Tree} (theirsOrdered : theirs.Ordered) {place : List String}
    {conflict : Conflict} :
    conflict ∈ (mergeAt place mine theirs).conflicts ↔
      ∃ inner, mine.Clash theirs inner ∧ conflict = inner.below place := by
  induction theirs using descentInduction generalizing mine place conflict with
  | descend theirs inDirectory =>
      have underName :
          ∀ name present entry, theirs.find? name = some entry →
            (conflict ∈ Entry.clashes (place ++ [name]) (some present) entry ↔
              ∃ inner, present.Clash entry inner ∧
                conflict = inner.below (place ++ [name])) := by
        intro name present entry found
        apply Entry.mem_clashes_iff
        rintro inner children _ rfl
        exact inDirectory name children found (theirsOrdered.find? found)
      rw [mem_conflicts_mergeAt theirsOrdered]
      constructor
      · rintro ⟨name, entry, found, clash⟩
        cases mineFound : mine.find? name with
        | none =>
            rw [mineFound] at clash
            contradiction
        | some present =>
            rw [mineFound] at clash
            obtain ⟨inner, entriesClash, rfl⟩ :=
              (underName name present entry found).mp clash
            exact ⟨inner.below [name],
              clash_below_iff.mpr ⟨present, entry, mineFound, found, entriesClash⟩,
              Conflict.below_append place [name] inner⟩
      · rintro ⟨outer, clash, rfl⟩
        obtain ⟨name, inner, rfl⟩ := clash.exists_below
        obtain ⟨present, entry, mineFound, found, entriesClash⟩ := clash_below_iff.mp clash
        refine ⟨name, entry, found, ?_⟩
        rw [mineFound, underName name present entry found]
        exact ⟨inner, entriesClash, (Conflict.below_append place [name] inner).symm⟩

/-- Merging reports just the clashes. -/
theorem mem_conflicts_merge_iff
    {mine theirs : Tree} (theirsOrdered : theirs.Ordered) {conflict : Conflict} :
    conflict ∈ (mine.merge theirs).conflicts ↔ mine.Clash theirs conflict := by
  rw [merge, mem_conflicts_mergeAt_iff theirsOrdered]
  constructor
  · rintro ⟨inner, clash, rfl⟩
    rwa [Conflict.below_nil]
  · intro clash
    exact ⟨conflict, clash, conflict.below_nil.symm⟩

/-- The names that lead to a clash of two entries start with those that lead to the entries. -/
theorem isPrefix_names_of_mem_clashes
    {entry : Entry} (entryOrdered : entry.Ordered) {place : List String} {mine : Option Entry}
    {conflict : Conflict} (clash : conflict ∈ Entry.clashes place mine entry) :
    place <+: conflict.names := by
  match mine, entry with
  | none, _ =>
      contradiction
  | some (.file text), .file other =>
      by_cases same : text = other
      · simp [Entry.clashes, same] at clash
      · simp only [Entry.clashes, same, if_false, List.mem_singleton] at clash
        rw [clash]
        exact List.prefix_refl _
  | some (.file _), .directory _ =>
      cases List.mem_singleton.mp clash
      exact List.prefix_refl _
  | some (.directory _), .file _ =>
      cases List.mem_singleton.mp clash
      exact List.prefix_refl _
  | some (.directory _), .directory _ =>
      obtain ⟨inner, _, rfl⟩ := (mem_conflicts_mergeAt_iff entryOrdered).mp clash
      cases inner <;> exact List.prefix_append _ _

/-- The conflicts of merging come in ascending order of the names that lead to them. -/
theorem Ordered.conflicts_pairwise
    {theirs : Tree} (ordered : theirs.Ordered) (place : List String) (mine : Tree) :
    (Tree.mergeAt place mine theirs).conflicts.Pairwise
      (fun first second => first.names < second.names) := by
  induction theirs using entryInduction generalizing place mine with
  | empty =>
      exact .nil
  | before name entry rest inDirectory inRest =>
      obtain ⟨smaller, entryOrdered, restOrdered⟩ := ordered_before.mp ordered
      obtain ⟨next, _, merged⟩ := mergeAt_before place mine name entry rest
      rw [merged, List.pairwise_append]
      refine ⟨?_, inRest restOrdered place next, ?_⟩
      · match mine.find? name, entry with
        | none, _ =>
            exact .nil
        | some (.file text), .file other =>
            by_cases same : text = other <;> simp [Entry.clashes, same]
        | some (.file _), .directory _ =>
            exact List.pairwise_singleton _ _
        | some (.directory _), .file _ =>
            exact List.pairwise_singleton _ _
        | some (.directory inner), .directory children =>
            exact inDirectory children rfl entryOrdered (place ++ [name]) inner
      · intro first firstMember second secondMember
        obtain ⟨later, other, found, clash⟩ := (mem_conflicts_mergeAt restOrdered).mp secondMember
        obtain ⟨below, firstShape⟩ := isPrefix_names_of_mem_clashes entryOrdered firstMember
        obtain ⟨deeper, secondShape⟩ :=
          isPrefix_names_of_mem_clashes (restOrdered.find? found) clash
        rw [← firstShape, ← secondShape, List.append_assoc, List.append_assoc]
        apply List.append_left_lt
        exact List.cons_lt_cons_iff.mpr (Or.inl (smaller later (mem_names_iff.mpr ⟨other, found⟩)))

/-- Trees agree exactly if they do not clash. -/
theorem agree_iff_not_clash {mine theirs : Tree} :
    mine.Agree theirs ↔ ∀ conflict, ¬ mine.Clash theirs conflict := by
  constructor
  · intro agree conflict clash
    cases conflict with
    | fileAndDirectory names =>
        rcases clash with ⟨⟨_, file⟩, directory⟩ | ⟨directory, _, file⟩
        · exact agree.fileFirst file directory
        · exact agree.fileSecond file directory
    | divergentFile names =>
        obtain ⟨_, _, mineFile, theirsFile, different⟩ := clash
        exact different (agree.contents mineFile theirsFile)
  · intro noClash
    constructor
    · intro names text file directory
      exact noClash (.fileAndDirectory names) (Or.inl ⟨⟨text, file⟩, directory⟩)
    · intro names text file directory
      exact noClash (.fileAndDirectory names) (Or.inr ⟨directory, text, file⟩)
    · intro names text other mineFile theirsFile
      apply Decidable.byContradiction
      intro different
      exact noClash (.divergentFile names) ⟨text, other, mineFile, theirsFile, different⟩

/-- Merging reports nothing exactly when the two trees agree. -/
theorem conflicts_mergeAt_eq_nil_iff
    {mine theirs : Tree} (theirsOrdered : theirs.Ordered) (place : List String) :
    (mergeAt place mine theirs).conflicts = [] ↔ mine.Agree theirs := by
  rw [agree_iff_not_clash, List.eq_nil_iff_forall_not_mem]
  simp only [mem_conflicts_mergeAt_iff theirsOrdered]
  constructor
  · intro noConflict conflict clash
    exact noConflict (conflict.below place) ⟨conflict, clash, rfl⟩
  · rintro noClash _ ⟨inner, clash, _⟩
    exact noClash inner clash

namespace Agree

variable {mine theirs : Tree}

/-- Agreement goes both ways. -/
theorem symm (agree : mine.Agree theirs) : theirs.Agree mine where
  fileFirst := agree.fileSecond
  fileSecond := agree.fileFirst
  contents theirsFile mineFile := (agree.contents mineFile theirsFile).symm

/-- A file of one tree on the way to what the other has is all that the other has there. -/
theorem eq_of_file_on_the_way
    (agree : mine.Agree theirs) {front names : List String} {text : String} {entry : Entry}
    (file : mine.HasFile front text) (leads : front <+: names)
    (found : theirs.lookup? names = some entry) :
    front = names := by
  apply Decidable.byContradiction
  intro different
  have directory := hasDirectory_of_lookup? found file.ne_nil ⟨leads, different⟩
  exact agree.fileFirst file directory

variable (agree : mine.Agree theirs)
variable (mineOrdered : mine.Ordered) (theirsOrdered : theirs.Ordered) (place : List String)

include agree mineOrdered theirsOrdered

/-- The files of two trees that agree are the files of the merged tree. -/
theorem hasFile_mergeAt {names : List String} {text : String} :
    (mergeAt place mine theirs).tree.HasFile names text ↔
      mine.HasFile names text ∨ theirs.HasFile names text := by
  rw [Tree.hasFile_mergeAt mineOrdered theirsOrdered]
  constructor
  · rintro (mineFile | ⟨_, theirsFile⟩)
    · exact Or.inl mineFile
    · exact Or.inr theirsFile
  · rintro (mineFile | theirsFile)
    · exact Or.inl mineFile
    · by_cases occupied : mine.Occupied names
      · rcases occupied with directory | ⟨front, other, leads, file⟩
        · exact absurd directory (agree.fileSecond theirsFile)
        · cases agree.eq_of_file_on_the_way file leads theirsFile
          cases agree.contents file theirsFile
          exact Or.inl file
      · exact Or.inr ⟨occupied, theirsFile⟩

/-- The directories of two trees that agree are the directories of the merged tree. -/
theorem hasDirectory_mergeAt {names : List String} :
    (mergeAt place mine theirs).tree.HasDirectory names ↔
      mine.HasDirectory names ∨ theirs.HasDirectory names := by
  rw [Tree.hasDirectory_mergeAt mineOrdered theirsOrdered]
  constructor
  · rintro (mineDirectory | ⟨_, theirsDirectory⟩)
    · exact Or.inl mineDirectory
    · exact Or.inr theirsDirectory
  · rintro (mineDirectory | theirsDirectory)
    · exact Or.inl mineDirectory
    · by_cases occupied : mine.Occupied names
      · rcases occupied with directory | ⟨front, other, leads, file⟩
        · exact Or.inl directory
        · obtain ⟨children, found⟩ := theirsDirectory
          cases agree.eq_of_file_on_the_way file leads found
          exact absurd ⟨children, found⟩ (agree.fileFirst file)
      · exact Or.inr ⟨occupied, theirsDirectory⟩

end Agree

/-- A tree holds what some trees hold, and nothing else. -/
structure IsUnion (tree : Tree) (parts : List Tree) : Prop where
  ordered : tree.Ordered
  files : ∀ {names text}, tree.HasFile names text ↔ ∃ part ∈ parts, part.HasFile names text
  directories : ∀ {names}, tree.HasDirectory names ↔ ∃ part ∈ parts, part.HasDirectory names

namespace IsUnion

/-- The empty tree unites no trees. -/
theorem empty : IsUnion .empty [] where
  ordered := trivial
  files := by simp
  directories := by simp

variable {tree : Tree} {parts : List Tree}

/-- There is only one union of some trees, in whatever order they are taken. -/
theorem unique
    {other : Tree} {others : List Tree} (union : tree.IsUnion parts)
    (otherUnion : other.IsUnion others) (sameParts : parts.Perm others) :
    tree = other := by
  apply union.ordered.eq_of_same_paths otherUnion.ordered
  · intro names text
    rw [union.files, otherUnion.files]
    simp only [sameParts.mem_iff]
  · intro names
    rw [union.directories, otherUnion.directories]
    simp only [sameParts.mem_iff]

/-- A tree agrees with a union as it agrees with all its parts. -/
theorem agree_iff (union : tree.IsUnion parts) {other : Tree} :
    tree.Agree other ↔ ∀ part ∈ parts, part.Agree other := by
  constructor
  · intro agree part member
    exact
      { fileFirst := fun file => agree.fileFirst (union.files.mpr ⟨part, member, file⟩)
        fileSecond := fun file directory =>
          agree.fileSecond file (union.directories.mpr ⟨part, member, directory⟩)
        contents := fun file => agree.contents (union.files.mpr ⟨part, member, file⟩) }
  · intro allAgree
    constructor
    · intro names text file
      obtain ⟨part, member, partFile⟩ := union.files.mp file
      exact (allAgree part member).fileFirst partFile
    · intro names text file directory
      obtain ⟨part, member, partDirectory⟩ := union.directories.mp directory
      exact (allAgree part member).fileSecond file partDirectory
    · intro names text third file otherFile
      obtain ⟨part, member, partFile⟩ := union.files.mp file
      exact (allAgree part member).contents partFile otherFile

/-- Merging a tree that agrees with a union makes it one more part. -/
theorem merge
    {other : Tree} (union : tree.IsUnion parts) (agree : tree.Agree other)
    (otherOrdered : other.Ordered) :
    IsUnion (tree.merge other).tree (parts ++ [other]) where
  ordered := union.ordered.mergeAt otherOrdered []
  files := by
    intro names text
    rw [Tree.merge, agree.hasFile_mergeAt union.ordered otherOrdered, union.files]
    simp [or_and_right, exists_or]
  directories := by
    intro names
    rw [Tree.merge, agree.hasDirectory_mergeAt union.ordered otherOrdered, union.directories]
    simp [or_and_right, exists_or]

end IsUnion

end Tree

end Tangle
