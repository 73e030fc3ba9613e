import Tangle.Proofs.Text.ByteOrder
import Tangle.Proofs.Tree.InPlace
import Tangle.Proofs.Tree.Leaves
import Tangle.Proofs.TreePath

namespace Tangle

/-!
# Trees and flat stores of files

A flat store knows files by the names that lead to them and has no directories
at all.  It takes a write unless a stored path and the new one go on from each
other.  Writing into an empty tree, time and again, is writing into an empty
flat store: the answers are the same, and so is whatever can be asked of the
tree afterwards.
-/

section Keys

variable {Key Value : Type} [BEq Key] [LawfulBEq Key] {entries : List (Key × Value)} {key : Key}

/-- Nothing is found under a key exactly if no entry has it. -/
theorem lookup_eq_none_iff : entries.lookup key = none ↔ key ∉ entries.map Prod.fst := by
  rw [List.lookup_eq_none_iff, List.mem_map]
  constructor
  · rintro others ⟨entry, member, rfl⟩
    simpa using others entry member
  · intro absent entry member
    rw [bne_iff_ne]
    rintro rfl
    exact absent ⟨entry, member, rfl⟩

/-- Where keys differ from each other, looking one up finds what stands under it. -/
theorem lookup_eq_some_iff_of_nodup
    (distinct : (entries.map Prod.fst).Nodup) {value : Value} :
    entries.lookup key = some value ↔ (key, value) ∈ entries := by
  induction entries with
  | nil =>
      simp
  | cons entry rest inductionHypothesis =>
      obtain ⟨first, text⟩ := entry
      obtain ⟨notAgain, restDistinct⟩ := List.nodup_cons.mp distinct
      by_cases same : key = first
      · subst first
        have absent : (key, value) ∉ rest :=
          fun member => notAgain (List.mem_map.mpr ⟨(key, value), member, rfl⟩)
        simp [absent, eq_comm]
      · rw [List.lookup_cons, beq_false_of_ne same]
        simpa [same] using inductionHypothesis restDistinct

end Keys

/-- Files by the names that lead to them. -/
structure FlatStore where
  files : List (List String × String)
  deriving Repr, DecidableEq

namespace FlatStore

def empty : FlatStore :=
  ⟨[]⟩

def keys (store : FlatStore) : List (List String) :=
  store.files.map Prod.fst

/-- The contents of the file at a path. -/
def lookup? (store : FlatStore) (names : List String) : Option String :=
  store.files.lookup names

/-- The path of a file from which a path goes on. -/
def fileAbove? (store : FlatStore) (names : List String) : Option (List String) :=
  store.keys.find? (fun key => ProperPrefix key names)

/-- Whether the path of some file goes on from a path. -/
def hasFileBelow (store : FlatStore) (names : List String) : Bool :=
  store.keys.any (fun key => ProperPrefix names key)

/-- Put a file at a path, instead of any it had. -/
def set (store : FlatStore) (names : List String) (contents : String) : FlatStore :=
  ⟨(names, contents) :: store.files.filter (fun file => file.1 ≠ names)⟩

/-- Write a file at a path as an author wrote it. -/
def write (written contents : String) (store : FlatStore) : Except WriteError FlatStore :=
  match TreePath.sanitize? written with
  | none => .error .invalidPath
  | some path =>
      match store.fileAbove? path.segments with
      | some key => .error (.fileInTheWay key)
      | none =>
          if store.hasFileBelow path.segments then
            .error (.directoryInTheWay path.segments)
          else
            .ok (store.set path.segments contents)

/-- The flat store that writes into an empty one leave, each of them kept if it succeeds. -/
def ofWrites (writes : List (String × String)) : FlatStore :=
  WriteRun.final FlatStore.write .empty writes

/-- The keys are those under which files are stored. -/
theorem mem_keys_iff {store : FlatStore} {key : List String} :
    key ∈ store.keys ↔ ∃ contents, (key, contents) ∈ store.files := by
  simp [keys]

/-- Storing a file puts it in the place of one with its names and keeps the others. -/
theorem mem_set_files
    {store : FlatStore} {names key : List String} {contents text : String} :
    (key, text) ∈ (store.set names contents).files ↔
      (key = names ∧ text = contents) ∨ (key ≠ names ∧ (key, text) ∈ store.files) := by
  simp [set, and_comm]

/-- It adds the names of the file to the keys. -/
theorem mem_set_keys {store : FlatStore} {names key : List String} {contents : String} :
    key ∈ (store.set names contents).keys ↔ key = names ∨ key ∈ store.keys := by
  by_cases same : key = names <;> simp [mem_keys_iff, mem_set_files, same]

/-- Keys stay distinct. -/
theorem set_keys_nodup
    {store : FlatStore} (distinct : store.keys.Nodup) (names : List String) (contents : String) :
    (store.set names contents).keys.Nodup := by
  refine List.nodup_cons.mpr ⟨by simp, ?_⟩
  exact distinct.sublist (List.filter_sublist.map Prod.fst)

/-- Where paths differ from each other, looking up finds the file at a path. -/
theorem lookup?_eq_some_iff
    {store : FlatStore} (distinct : store.keys.Nodup) {names : List String} {contents : String} :
    store.lookup? names = some contents ↔ (names, contents) ∈ store.files :=
  lookup_eq_some_iff_of_nodup distinct

/-- No path of a file goes on from another one. -/
def PrefixFree (store : FlatStore) : Prop :=
  ∀ first ∈ store.keys, ∀ second ∈ store.keys, ¬ ProperPrefix first second

/-- In a flat store whose paths do not go on from each other, only one file is in the way. -/
theorem PrefixFree.unique_above
    {store : FlatStore} (prefixFree : store.PrefixFree)
    {first second names : List String} (firstKey : first ∈ store.keys)
    (secondKey : second ∈ store.keys)
    (firstAbove : ProperPrefix first names) (secondAbove : ProperPrefix second names) :
    first = second := by
  by_cases same : first = second
  · exact same
  · rcases List.prefix_or_prefix_of_prefix firstAbove.1 secondAbove.1 with leads | leads
    · exact (prefixFree first firstKey second secondKey ⟨leads, same⟩).elim
    · exact (prefixFree second secondKey first firstKey ⟨leads, Ne.symm same⟩).elim

end FlatStore

/-- A tree holds exactly the files of a flat store, and no directory without a purpose. -/
structure Refines (tree : Tree) (store : FlatStore) : Prop where
  ordered : tree.Ordered
  files :
    ∀ names contents, tree.HasFile names contents ↔ (names, contents) ∈ store.files
  directories :
    ∀ names, tree.HasDirectory names → ∃ key ∈ store.keys, ProperPrefix names key
  distinct : store.keys.Nodup
  plain : ∀ key ∈ store.keys, ∀ name ∈ key, PlainName name

namespace Refines

/-- The empty tree stores nothing. -/
theorem empty : Refines .empty .empty where
  ordered := trivial
  files := by simp [FlatStore.empty]
  directories := by simp
  distinct := .nil
  plain := by simp [FlatStore.empty, FlatStore.keys]

variable {tree : Tree} {store : FlatStore} (refines : Refines tree store)

include refines

/-- A tree has files just under the keys of its store. -/
theorem mem_keys_iff {key : List String} :
    key ∈ store.keys ↔ ∃ contents, tree.HasFile key contents := by
  simp only [FlatStore.mem_keys_iff, refines.files]

/-- No file of a tree stands below another one, so no key is a prefix of another. -/
theorem prefixFree : store.PrefixFree := by
  intro first firstKey second secondKey goesOn
  obtain ⟨_, firstFile⟩ := refines.mem_keys_iff.mp firstKey
  obtain ⟨contents, secondFile⟩ := refines.mem_keys_iff.mp secondKey
  have absent := firstFile.lookup?_below goesOn
  rw [Tree.HasFile, absent] at secondFile
  contradiction

/-- Directories stand where keys go on. -/
theorem hasDirectory_iff {names : List String} (nonempty : names ≠ []) :
    tree.HasDirectory names ↔ ∃ key ∈ store.keys, ProperPrefix names key := by
  constructor
  · exact refines.directories names
  · intro below
    obtain ⟨key, isKey, goesOn⟩ := below
    obtain ⟨contents, file⟩ := refines.mem_keys_iff.mp isKey
    exact Tree.hasDirectory_of_lookup? file nonempty goesOn

/-- A successful write keeps a tree and a flat store in step. -/
theorem set
    {path : TreePath} {contents : String} {written : Tree}
    (plainPath : ∀ name ∈ path.segments, PlainName name)
    (success : tree.writeAt path.name contents path.directories = .ok written) :
    Refines written (store.set path.segments contents) where
  ordered := refines.ordered.writeAt success
  files names text := by
    rw [Tree.hasFile_writeAt success, FlatStore.mem_set_files, refines.files]
    rfl
  directories names directory := by
    rcases (Tree.hasDirectory_writeAt success directory.ne_nil).mp directory with before | onTheWay
    · obtain ⟨key, isKey, goesOn⟩ := refines.directories names before
      exact ⟨key, FlatStore.mem_set_keys.mpr (Or.inr isKey), goesOn⟩
    · exact ⟨path.segments, FlatStore.mem_set_keys.mpr (Or.inl rfl), onTheWay⟩
  distinct := FlatStore.set_keys_nodup refines.distinct path.segments contents
  plain key isKey := by
    rcases FlatStore.mem_set_keys.mp isKey with rfl | before
    · exact plainPath
    · exact refines.plain key before

/--
A tree and its flat store answer a write alike and stay in step.  Directories
have files below them, so the store knows of every directory in the way.
-/
theorem write (written contents : String) :
    WriteRun.Alike Refines (tree.write written contents) (store.write written contents) := by
  rw [Tree.write, FlatStore.write]
  cases safe : TreePath.sanitize? written with
  | none =>
      exact .error .invalidPath
  | some path =>
      simp only
      cases above : store.fileAbove? path.segments with
      | some key =>
          have isKey : key ∈ store.keys := List.mem_of_find?_eq_some above
          have goesOn : ProperPrefix key path.segments := by
            simpa using List.find?_some above
          obtain ⟨text, file⟩ := refines.mem_keys_iff.mp isKey
          have failed :
              tree.writeAt path.name contents path.directories = .error (.fileInTheWay key) :=
            Tree.writeAt_eq_error.mpr (Or.inl ⟨key, text, goesOn, file, rfl⟩)
          rw [failed]
          exact .error _
      | none =>
          have notAbove : ∀ key ∈ store.keys, ¬ ProperPrefix key path.segments := by
            simpa [FlatStore.fileAbove?] using above
          by_cases below : store.hasFileBelow path.segments
          · have isDirectory : tree.HasDirectory path.segments :=
              (refines.hasDirectory_iff path.segments_ne_nil).mpr
                (by simpa [FlatStore.hasFileBelow] using below)
            have failed :
                tree.writeAt path.name contents path.directories =
                  .error (.directoryInTheWay path.segments) :=
              Tree.writeAt_eq_error.mpr (Or.inr ⟨isDirectory, rfl⟩)
            simp only [failed, below, if_true]
            exact .error _
          · cases outcome : tree.writeAt path.name contents path.directories with
            | ok after =>
                have plainPath : ∀ name ∈ path.segments, PlainName name :=
                  fun _ member => TreePath.plainName_of_sanitize? safe member
                simp only [below]
                exact .ok (refines.set plainPath outcome)
            | error failure =>
                rcases Tree.writeAt_eq_error.mp outcome with
                    ⟨names, text, goesOn, file, _⟩ | ⟨isDirectory, _⟩
                · exact (notAbove names (refines.mem_keys_iff.mpr ⟨text, file⟩) goesOn).elim
                · have someBelow :=
                    (refines.hasDirectory_iff path.segments_ne_nil).mp isDirectory
                  exact (below (by simpa [FlatStore.hasFileBelow] using someBelow)).elim

/-- A file is found in a tree as it is in the store. -/
theorem fileAt?_eq (written : String) :
    tree.fileAt? written =
      (TreePath.sanitize? written).bind (fun path => store.lookup? path.segments) := by
  rw [Tree.fileAt?, Tree.get?]
  cases TreePath.sanitize? written with
  | none =>
      rfl
  | some path =>
      have sameFiles :
          ∀ contents, tree.lookup? path.segments = some (.file contents) ↔
            store.lookup? path.segments = some contents := by
        intro contents
        rw [FlatStore.lookup?_eq_some_iff refines.distinct, ← refines.files]
        rfl
      simp only [Option.bind_some]
      cases held : store.lookup? path.segments with
      | some contents =>
          rw [(sameFiles contents).mpr held]
      | none =>
          split
          · rename_i contents found
            rw [(sameFiles contents).mp found] at held
            contradiction
          · rfl

/-- A directory is found in a tree where the store has files below. -/
theorem get?_directory_iff (written : String) :
    (∃ children, tree.get? written = some (.directory children)) ↔
      ∃ path, TreePath.sanitize? written = some path ∧
        store.hasFileBelow path.segments = true := by
  rw [Tree.get?]
  cases TreePath.sanitize? written with
  | none =>
      simp
  | some path =>
      have sameDirectories := refines.hasDirectory_iff path.segments_ne_nil
      simp only [Option.some.injEq, exists_eq_left']
      exact sameDirectories.trans (by simp [FlatStore.hasFileBelow])

/-- The leaves of the tree are the files of the store, each once. -/
theorem leaves_perm : (tree.leaves []).Perm store.files := by
  have leavesDistinct : (tree.leaves []).Nodup := by
    refine (refines.ordered.leaves_pairwise []).imp ?_
    rintro first _ before rfl
    exact List.lt_irrefl first.1 before
  have filesDistinct : store.files.Nodup :=
    List.Pairwise.of_map Prod.fst
      (fun _ _ different same => different (congrArg Prod.fst same)) refines.distinct
  refine (List.perm_ext_iff_of_nodup leavesDistinct filesDistinct).mpr ?_
  rintro ⟨names, contents⟩
  rw [Tree.mem_leaves refines.ordered, ← refines.files]
  simp

/-- The listing of the tree writes the names of each leaf with slashes between them. -/
theorem files_eq :
    tree.files =
      (tree.leaves []).map (fun leaf => (String.intercalate "/" leaf.1, leaf.2)) := by
  refine List.map_congr_left ?_
  rintro ⟨names, contents⟩ member
  have stored : (names, contents) ∈ store.files := refines.leaves_perm.mem_iff.mp member
  have isKey : names ∈ store.keys := FlatStore.mem_keys_iff.mpr ⟨contents, stored⟩
  rw [pathText_eq_intercalate (fun name isName => (refines.plain names isKey name isName).notEmpty)]

omit refines in
/-- Writing into an empty tree and into an empty flat store is answered alike all along. -/
theorem writeRun (writes : List (String × String)) :
    WriteRun.answers Tree.write .empty writes = WriteRun.answers FlatStore.write .empty writes ∧
      Refines (Tree.ofWrites writes) (FlatStore.ofWrites writes) :=
  WriteRun.simulation Refines (fun inStep path contents => inStep.write path contents) empty writes

end Refines

/--
Writing into an empty tree, time and again, is writing into an empty flat
store.  Every write is answered alike, also when the tree is changed in place;
the paths of the store never go on from each other; and the tree that is left
looks up, tells directories and lists files as the store has them, the listing
in ascending order of the names as sequences of bytes.
-/
theorem Tree.writeRun_refines_flatStore (writes : List (String × String)) :
    WriteRun.answers Tree.write .empty writes = WriteRun.answers FlatStore.write .empty writes ∧
      (∀ written contents,
        (Tree.ofWrites writes).insert written contents =
          (WriteRun.kept (Tree.ofWrites writes) ((Tree.ofWrites writes).write written contents),
            WriteRun.failure? ((Tree.ofWrites writes).write written contents))) ∧
      ((FlatStore.ofWrites writes).keys.Nodup ∧ [] ∉ (FlatStore.ofWrites writes).keys ∧
        (FlatStore.ofWrites writes).PrefixFree) ∧
      (∀ names,
        ∀ first ∈ (FlatStore.ofWrites writes).keys, ∀ second ∈ (FlatStore.ofWrites writes).keys,
          ProperPrefix first names → ProperPrefix second names → first = second) ∧
      (∀ written,
        (Tree.ofWrites writes).fileAt? written =
          (TreePath.sanitize? written).bind
            (fun path => (FlatStore.ofWrites writes).lookup? path.segments)) ∧
      (∀ written,
        (∃ children, (Tree.ofWrites writes).get? written = some (.directory children)) ↔
          ∃ path, TreePath.sanitize? written = some path ∧
            (FlatStore.ofWrites writes).hasFileBelow path.segments = true) ∧
      ((Tree.ofWrites writes).leaves []).Perm (FlatStore.ofWrites writes).files ∧
      ((Tree.ofWrites writes).leaves []).Pairwise
        (fun first second => first.1.map Text.bytes < second.1.map Text.bytes) ∧
      (Tree.ofWrites writes).files =
        ((Tree.ofWrites writes).leaves []).map
          (fun leaf => (String.intercalate "/" leaf.1, leaf.2)) := by
  obtain ⟨sameAnswers, refines⟩ := Refines.writeRun writes
  have noEmptyKey : [] ∉ (FlatStore.ofWrites writes).keys := by
    intro isKey
    obtain ⟨contents, file⟩ := refines.mem_keys_iff.mp isKey
    exact Tree.not_hasFile_nil _ contents file
  exact
    ⟨sameAnswers,
      Tree.insert_eq refines.ordered,
      ⟨refines.distinct, noEmptyKey, refines.prefixFree⟩,
      fun _ _ firstKey _ secondKey firstAbove secondAbove =>
        refines.prefixFree.unique_above firstKey secondKey firstAbove secondAbove,
      refines.fileAt?_eq,
      refines.get?_directory_iff,
      refines.leaves_perm,
      (refines.ordered.leaves_pairwise []).imp (List.map_lt fun _ _ => Text.bytes_lt),
      refines.files_eq⟩

example :
    WriteRun.answers Tree.write .empty
        [("a/b", "one"), ("a/b/c", "two"), ("./a/", "three"), ("..", "four"), ("/a/b", "five")] =
      [none, some (.fileInTheWay ["a", "b"]), some (.directoryInTheWay ["a"]), some .invalidPath,
        none] := by
  decide +kernel

end Tangle
