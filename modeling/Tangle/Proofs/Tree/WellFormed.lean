import Tangle.Proofs.Tree.Extensional
import Tangle.Proofs.Tree.FlatStore
import Tangle.Proofs.Tree.Merging

namespace Tangle

/-!
# Well-formed trees

However files are written and trees are merged, starting from empty ones, every
name in a tree stays plain and no directory is left without a file below it.
Such a tree is known by the listing of its files.
-/

namespace Tree

/-- A tree with its entries in order and with plain names on the way to its files. -/
structure Regular (tree : Tree) : Prop where
  ordered : tree.Ordered
  plain : ∀ {names contents}, tree.HasFile names contents → ∀ name ∈ names, PlainName name

namespace Regular

/-- The empty tree is regular. -/
theorem empty : Regular .empty where
  ordered := trivial
  plain file := by simp at file

/-- A tree that a flat store stands for is regular. -/
theorem of_refines {tree : Tree} {store : FlatStore} (refines : Refines tree store) :
    tree.Regular where
  ordered := refines.ordered
  plain file := refines.plain _ (refines.mem_keys_iff.mpr ⟨_, file⟩)

/-- Merging keeps trees regular. -/
theorem merge {mine theirs : Tree} (mineRegular : mine.Regular) (theirsRegular : theirs.Regular) :
    (mine.merge theirs).tree.Regular where
  ordered := mineRegular.ordered.mergeAt theirsRegular.ordered []
  plain file := by
    obtain mineFile | ⟨_, theirsFile⟩ :=
      (hasFile_mergeAt mineRegular.ordered theirsRegular.ordered []).mp file
    · exact mineRegular.plain mineFile
    · exact theirsRegular.plain theirsFile

/-- The leaves of a regular tree are its files. -/
theorem mem_leaves_iff
    {tree : Tree} (regular : tree.Regular) {names : List String} {contents : String} :
    (names, contents) ∈ tree.leaves [] ↔ tree.HasFile names contents := by
  rw [mem_leaves regular.ordered]
  simp

/-- The listing of a regular tree has its files with the texts of their paths. -/
theorem mem_files {tree : Tree} (regular : tree.Regular) {path contents : String} :
    (path, contents) ∈ tree.files ↔
      ∃ names, path = pathText names ∧ tree.HasFile names contents := by
  rw [files, List.mem_map]
  constructor
  · intro listed
    obtain ⟨⟨names, text⟩, member, shape⟩ := listed
    cases shape
    exact ⟨names, rfl, regular.mem_leaves_iff.mp member⟩
  · intro held
    obtain ⟨names, rfl, file⟩ := held
    exact ⟨(names, contents), regular.mem_leaves_iff.mpr file, rfl⟩

variable {tree other : Tree} (regular : tree.Regular)

include regular

/-- Different files of a tree have different path texts. -/
theorem names_eq_of_pathText_eq
    (otherRegular : other.Regular) {names otherNames : List String} {contents text : String}
    (file : tree.HasFile names contents) (otherFile : other.HasFile otherNames text)
    (sameText : pathText names = pathText otherNames) :
    names = otherNames :=
  pathText_injective_of_plain file.ne_nil otherFile.ne_nil (regular.plain file)
    (otherRegular.plain otherFile) sameText

/-- No two entries of the listing have the same path. -/
theorem paths_nodup : (tree.files.map Prod.fst).Nodup := by
  have pathsDiffer :
      (tree.leaves []).Pairwise (fun first second => pathText first.1 ≠ pathText second.1) := by
    refine (regular.ordered.leaves_pairwise []).imp_of_mem ?_
    intro first second firstMember secondMember before sameText
    have sameNames :=
      regular.names_eq_of_pathText_eq regular (regular.mem_leaves_iff.mp firstMember)
        (regular.mem_leaves_iff.mp secondMember) sameText
    exact List.lt_irrefl _ (sameNames ▸ before)
  rw [files, List.map_map]
  exact List.pairwise_map.mpr pathsDiffer

/-- The path of a file does not go on behind that of another one. -/
theorem not_mem_files_below
    {path contents below text : String} (listed : (path, contents) ∈ tree.files) :
    (path ++ "/" ++ below, text) ∉ tree.files := by
  intro listedBelow
  obtain ⟨names, rfl, file⟩ := regular.mem_files.mp listed
  obtain ⟨deeper, goesOn, fileBelow⟩ := regular.mem_files.mp listedBelow
  obtain ⟨rest, nonempty, shape⟩ :=
    exists_append_of_pathText_append file.ne_nil fileBelow.ne_nil (regular.plain file)
      (regular.plain fileBelow) goesOn.symm
  have nothing := file.lookup?_below (properPrefix_iff_append.mpr ⟨rest, nonempty, shape⟩)
  rw [HasFile, nothing] at fileBelow
  contradiction

/-- A file that is listed for another tree as well is a file of that tree. -/
theorem hasFile_of_files_eq
    (otherRegular : other.Regular) (sameFiles : tree.files = other.files)
    {names : List String} {contents : String} (file : tree.HasFile names contents) :
    other.HasFile names contents := by
  have listed : (pathText names, contents) ∈ other.files :=
    sameFiles ▸ regular.mem_files.mpr ⟨names, rfl, file⟩
  obtain ⟨otherNames, sameText, otherFile⟩ := otherRegular.mem_files.mp listed
  rw [regular.names_eq_of_pathText_eq otherRegular file otherFile sameText]
  exact otherFile

end Regular

/-- A regular tree in which every directory has a file, directly or deeper. -/
structure WellFormed (tree : Tree) : Prop extends Regular tree where
  populated :
    ∀ {names}, tree.HasDirectory names →
      ∃ below contents, below ≠ [] ∧ tree.HasFile (names ++ below) contents

namespace WellFormed

/-- The empty tree is well formed. -/
theorem empty : WellFormed .empty where
  toRegular := .empty
  populated directory := by simp at directory

/-- A write that succeeds keeps a tree well formed. -/
theorem write
    {tree after : Tree} {written contents : String} (wellFormed : tree.WellFormed)
    (success : tree.write written contents = .ok after) :
    after.WellFormed := by
  obtain ⟨path, safe, wrote⟩ := exists_path_of_write success
  have filesAfter :
      ∀ names text,
        after.HasFile names text ↔
          (names = path.segments ∧ text = contents) ∨
            (names ≠ path.segments ∧ tree.HasFile names text) :=
    fun names text => hasFile_writeAt wrote
  refine
    { ordered := wellFormed.ordered.writeAt wrote
      plain := ?_
      populated := ?_ }
  · intro names text file
    rcases (filesAfter names text).mp file with ⟨rfl, _⟩ | ⟨_, before⟩
    · exact fun name member => TreePath.plainName_of_sanitize? safe member
    · exact wellFormed.plain before
  · intro names directory
    rcases (hasDirectory_writeAt wrote directory.ne_nil).mp directory with before | onTheWay
    · obtain ⟨below, text, nonempty, file⟩ := wellFormed.populated before
      by_cases rewritten : names ++ below = path.segments
      · exact ⟨below, contents, nonempty, (filesAfter _ _).mpr (Or.inl ⟨rewritten, rfl⟩)⟩
      · exact ⟨below, text, nonempty, (filesAfter _ _).mpr (Or.inr ⟨rewritten, file⟩)⟩
    · obtain ⟨below, nonempty, shape⟩ := properPrefix_iff_append.mp onTheWay
      exact ⟨below, contents, nonempty, (filesAfter _ _).mpr (Or.inl ⟨shape.symm, rfl⟩)⟩

/-- Inserting a file keeps a tree well formed, whether it succeeds or fails. -/
theorem insert
    {tree : Tree} (wellFormed : tree.WellFormed) (written contents : String) :
    (tree.insert written contents).1.WellFormed := by
  rw [insert_eq wellFormed.ordered]
  cases outcome : tree.write written contents with
  | ok after =>
      exact wellFormed.write outcome
  | error failure =>
      exact wellFormed

/-- Merging keeps trees well formed. -/
theorem merge
    {mine theirs : Tree} (mineFormed : mine.WellFormed) (theirsFormed : theirs.WellFormed) :
    (mine.merge theirs).tree.WellFormed := by
  have filesAfter :
      ∀ names text,
        (mine.merge theirs).tree.HasFile names text ↔
          mine.HasFile names text ∨ (¬ mine.Occupied names ∧ theirs.HasFile names text) :=
    fun names text => hasFile_mergeAt mineFormed.ordered theirsFormed.ordered []
  refine { toRegular := mineFormed.toRegular.merge theirsFormed.toRegular, populated := ?_ }
  intro names directory
  rcases (hasDirectory_mergeAt mineFormed.ordered theirsFormed.ordered []).mp directory with
      ofMine | ⟨room, ofTheirs⟩
  · obtain ⟨below, text, nonempty, file⟩ := mineFormed.populated ofMine
    exact ⟨below, text, nonempty, (filesAfter _ _).mpr (Or.inl file)⟩
  · obtain ⟨below, text, nonempty, file⟩ := theirsFormed.populated ofTheirs
    have roomBelow : ¬ mine.Occupied (names ++ below) :=
      fun occupied => room (occupied.of_append ofTheirs.ne_nil)
    exact ⟨below, text, nonempty, (filesAfter _ _).mpr (Or.inr ⟨roomBelow, file⟩)⟩

variable {tree other : Tree} (wellFormed : tree.WellFormed)

include wellFormed

/-- The directories of a tree are the places on the way to its files. -/
theorem hasDirectory_iff {names : List String} (nonempty : names ≠ []) :
    tree.HasDirectory names ↔
      ∃ below contents, below ≠ [] ∧ tree.HasFile (names ++ below) contents := by
  constructor
  · exact wellFormed.populated
  · intro populated
    obtain ⟨below, contents, belowNonempty, file⟩ := populated
    have onTheWay : ProperPrefix names (names ++ below) :=
      properPrefix_iff_append.mpr ⟨below, belowNonempty, rfl⟩
    exact hasDirectory_of_lookup? file nonempty onTheWay

/-- Whatever stands in a tree stands on the way to a file. -/
theorem exists_file_of_lookup?
    {names : List String} {entry : Entry} (found : tree.lookup? names = some entry) :
    ∃ below contents, tree.HasFile (names ++ below) contents := by
  cases entry with
  | file contents =>
      exact ⟨[], contents, by rw [List.append_nil]; exact found⟩
  | directory children =>
      obtain ⟨below, contents, _, file⟩ := wellFormed.populated ⟨children, found⟩
      exact ⟨below, contents, file⟩

/-- Plain names lead to whatever is found. -/
theorem plainName_of_lookup?
    {names : List String} {entry : Entry} (found : tree.lookup? names = some entry)
    {name : String} (member : name ∈ names) :
    PlainName name := by
  obtain ⟨below, contents, file⟩ := wellFormed.exists_file_of_lookup? found
  exact wellFormed.plain file name (List.mem_append_left below member)

/-- Well-formed trees with the same listing are the same. -/
theorem eq_of_files_eq (otherFormed : other.WellFormed) (sameFiles : tree.files = other.files) :
    tree = other := by
  have fileIff :
      ∀ names text, tree.HasFile names text ↔ other.HasFile names text := by
    intro names text
    exact ⟨wellFormed.hasFile_of_files_eq otherFormed.toRegular sameFiles,
      otherFormed.hasFile_of_files_eq wellFormed.toRegular sameFiles.symm⟩
  apply wellFormed.ordered.eq_of_same_paths otherFormed.ordered fileIff
  intro names
  by_cases root : names = []
  · simp [root]
  · simp only [wellFormed.hasDirectory_iff root, otherFormed.hasDirectory_iff root, fileIff]

end WellFormed

/--
A tree that was made from empty ones by inserting files, whether each insertion
succeeds or not, and by merging trees made in the same way.
-/
inductive Built : Tree → Prop where
  | empty : Built .empty
  | insert {tree : Tree} (written contents : String) :
      Built tree → Built (tree.insert written contents).1
  | merge {mine theirs : Tree} :
      Built mine → Built theirs → Built (mine.merge theirs).tree

namespace Built

/-- Every tree that can be built is well formed. -/
theorem wellFormed {tree : Tree} (built : tree.Built) : tree.WellFormed := by
  induction built with
  | empty =>
      exact .empty
  | insert written contents _ inductionHypothesis =>
      exact inductionHypothesis.insert written contents
  | merge _ _ mineFormed theirsFormed =>
      exact mineFormed.merge theirsFormed

/-- Writes that are kept if they succeed build a tree, one after another. -/
theorem final
    {tree : Tree} (built : tree.Built) (writes : List (String × String)) :
    (WriteRun.final Tree.write tree writes).Built := by
  induction writes generalizing tree with
  | nil =>
      exact built
  | cons file rest inductionHypothesis =>
      obtain ⟨written, contents⟩ := file
      have inserted : (tree.insert written contents).1.Built := built.insert written contents
      rw [insert_eq built.wellFormed.ordered] at inserted
      rw [WriteRun.final_cons]
      exact inductionHypothesis inserted

end Built

end Tree

end Tangle
