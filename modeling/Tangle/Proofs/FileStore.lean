import Tangle.FileStore
import Mathlib.Data.List.MinMax
import Mathlib.Data.List.Nodup
import Mathlib.Order.Nat

namespace Tangle

/-!
# Files found by their paths

Files stand in directories under names that mean nothing else in a path, and where a
file stands there is no directory.  Then the path of a directory, a slash and the
names that lead on from there to a file make a path that leads to this file.
-/

/-- A name under which a file or a directory can stand. -/
structure FileName (name : String) : Prop where
  notEmpty : name ≠ ""
  noSlash : '/' ∉ name.toList
  notDot : name ≠ "."
  notDots : name ≠ ".."

instance (name : String) : Decidable (FileName name) :=
  decidable_of_iff (name ≠ "" ∧ '/' ∉ name.toList ∧ name ≠ "." ∧ name ≠ "..")
    ⟨fun ⟨notEmpty, noSlash, notDot, notDots⟩ => ⟨notEmpty, noSlash, notDot, notDots⟩,
      fun ⟨notEmpty, noSlash, notDot, notDots⟩ => ⟨notEmpty, noSlash, notDot, notDots⟩⟩

namespace FileStore

/-- Stored files are files in directories: each has a place of its own, and nothing below it. -/
structure IsFileTree (store : FileStore) : Prop where
  distinct : (store.files.map StoredFile.names).Nodup
  named : ∀ file ∈ store.files, ∀ name ∈ file.names, FileName name
  noDirectory : ∀ file ∈ store.files, store.hasDirectory file.names = false

instance (store : FileStore) : Decidable store.IsFileTree :=
  decidable_of_iff
    ((store.files.map StoredFile.names).Nodup ∧
      (∀ file ∈ store.files, ∀ name ∈ file.names, FileName name) ∧
      ∀ file ∈ store.files, store.hasDirectory file.names = false)
    ⟨fun ⟨distinct, named, noDirectory⟩ => ⟨distinct, named, noDirectory⟩,
      fun ⟨distinct, named, noDirectory⟩ => ⟨distinct, named, noDirectory⟩⟩

/-- The parts of a path are followed one after another. -/
theorem follow_append
    (store : FileStore) (found : Found) (front back : List String) :
    store.follow found (front ++ back) =
      (store.follow found front).bind (fun next => store.follow next back) := by
  induction front generalizing found with
  | nil =>
      cases back <;> cases found <;> rfl
  | cons part rest inductionHypothesis =>
      cases found with
      | file file =>
          rfl
      | directory names =>
          rw [List.cons_append, follow, follow]
          split
          · exact inductionHypothesis _
          · split
            · exact inductionHypothesis _
            · split
              · rfl
              · exact inductionHypothesis _

/-- A name stands in a directory if it is the next one on the way to a file or a directory. -/
theorem mem_childNames {store : FileStore} {names : List String} {name : String} :
    name ∈ store.childNames names ↔
      ∃ below, names ++ name :: below ∈ store.files.map StoredFile.names ++ store.directories := by
  rw [childNames, List.mem_eraseDups, List.mem_filterMap]
  constructor
  · rintro ⟨stored, member, isNext⟩
    split at isNext
    · rename_i isAbove
      obtain ⟨behind, rfl⟩ := List.isPrefixOf_iff_prefix.mp isAbove
      rw [List.getElem?_append_right (Nat.le_refl _), Nat.sub_self] at isNext
      cases behind with
      | nil =>
          contradiction
      | cons next below =>
          cases isNext
          exact ⟨below, member⟩
    · contradiction
  · rintro ⟨below, member⟩
    exact ⟨names ++ name :: below, member, by simp⟩

/-- No name is left twice where repetitions are erased. -/
theorem nodup_eraseDups (names : List String) : names.eraseDups.Nodup := by
  cases names with
  | nil =>
      simp
  | cons name rest =>
      rw [List.eraseDups_cons, List.nodup_cons]
      exact ⟨by simp [List.mem_eraseDups], nodup_eraseDups _⟩
termination_by names.length
decreasing_by exact Nat.lt_succ_of_le (List.length_filter_le _ _)

/-- A directory is read without repetitions. -/
theorem nodup_childNames (store : FileStore) (names : List String) :
    (store.childNames names).Nodup :=
  nodup_eraseDups _

/-- No file stands on more levels than there are. -/
theorem length_le_depth {store : FileStore} {file : StoredFile} (member : file ∈ store.files) :
    file.names.length ≤ store.depth :=
  List.le_max_of_le (List.mem_map_of_mem member) (Nat.le_refl _)

/-- What stands under some names as a file is one with these names. -/
theorem mem_of_at? {store : FileStore} {names : List String} {file : StoredFile}
    (found : store.at? names = some (.file file)) : file ∈ store.files ∧ file.names = names := by
  rw [at?] at found
  split at found
  · rename_i isFound
    cases found
    exact ⟨List.mem_of_find?_eq_some isFound, by simpa using List.find?_some isFound⟩
  · split at found <;> cases found

/-- A void part leads nowhere else, and behind a file it leads nowhere. -/
theorem directory_of_follow_void
    {store : FileStore} {found : Found} {names : List String}
    (leads : store.follow found [""] = .ok (.directory names)) : found = .directory names := by
  cases found with
  | file file =>
      contradiction
  | directory here =>
      simpa [follow] using leads

/-- A name that means nothing else leads to what stands under it. -/
theorem follow_name
    (store : FileStore) {name : String} (plain : FileName name) (names rest : List String) :
    store.follow (.directory names) (name :: rest) =
      match store.at? (names ++ [name]) with
      | none => .error .notFound
      | some next => store.follow next rest := by
  cases found : store.at? (names ++ [name]) <;>
    simp [follow, plain.notEmpty, plain.notDot, plain.notDots, found]

namespace IsFileTree

variable {store : FileStore} (isTree : store.IsFileTree)

include isTree

/-- Only one file has the names of a file. -/
theorem eq_of_names_eq
    {file other : StoredFile} (member : file ∈ store.files) (otherMember : other ∈ store.files)
    (sameNames : file.names = other.names) : file = other :=
  List.inj_on_of_nodup_map isTree.distinct member otherMember sameNames

variable {file : StoredFile} (member : file ∈ store.files)

include member

/-- These names lead to it. -/
theorem at?_file : store.at? file.names = some (.file file) := by
  rw [at?]
  cases found : store.files.find? (fun other => other.names == file.names) with
  | none =>
      have notFile := List.find?_eq_none.mp found file member
      simp at notFile
  | some other =>
      have sameNames : other.names = file.names := by
        simpa using List.find?_some found
      rw [isTree.eq_of_names_eq (List.mem_of_find?_eq_some found) member sameNames]

/-- On the way to a file there are directories. -/
theorem at?_above
    {names below : List String} (stands : file.names = names ++ below) (goesOn : below ≠ []) :
    store.at? names = some (.directory names) := by
  have isDirectory : store.hasDirectory names = true := by
    have isAbove : (names.isPrefixOf file.names && names.length < file.names.length) = true := by
      have isLonger := List.length_pos_iff.mpr goesOn
      simp [stands, isLonger]
    rw [hasDirectory, List.any_eq_true.mpr ⟨file, member, isAbove⟩, Bool.or_true]
  have notFile : store.files.find? (fun other => other.names == names) = none := by
    rw [List.find?_eq_none]
    intro other otherMember sameNames
    rw [beq_iff_eq] at sameNames
    have noDirectory := isTree.noDirectory other otherMember
    rw [sameNames, isDirectory] at noDirectory
    contradiction
  rw [at?, notFile]
  exact if_pos isDirectory

/-- The names that lead on from a directory to a file are followed to that file. -/
theorem follow_names
    {names below : List String} (stands : file.names = names ++ below) (goesOn : below ≠ []) :
    store.follow (.directory names) below = .ok (.file file) := by
  induction below generalizing names with
  | nil =>
      contradiction
  | cons name rest inductionHypothesis =>
      have plain : FileName name := isTree.named file member name (by simp [stands])
      have standsBehind : file.names = (names ++ [name]) ++ rest := by
        simp [stands]
      rw [follow_name store plain]
      cases rest with
      | nil =>
          rw [← List.append_nil (names ++ [name]), ← standsBehind, isTree.at?_file member]
          rfl
      | cons next later =>
          rw [isTree.at?_above member standsBehind (List.cons_ne_nil _ _)]
          exact inductionHypothesis standsBehind (List.cons_ne_nil _ _)

end IsFileTree

/-! ## Joined paths -/

/-- Names with slashes between them are the parts again. -/
theorem parts_intercalate
    {names : List String} (goesOn : names ≠ []) (plain : ∀ name ∈ names, FileName name) :
    parts (String.intercalate "/" names) = names := by
  have noSlashes : ∀ characters ∈ names.map String.toList, '/' ∉ characters := by
    intro characters member
    obtain ⟨name, nameMember, rfl⟩ := List.mem_map.mp member
    exact (plain name nameMember).noSlash
  have split : (String.intercalate "/" names).toList.splitOn '/' = names.map String.toList := by
    rw [String.toList_intercalate]
    exact List.splitOn_intercalate '/' noSlashes (by simpa using goesOn)
  rw [parts, split, List.map_map]
  simp

/-- A slash parts what stands before it from what stands behind. -/
theorem parts_append_slash (front : List Char) (path : String) :
    parts (String.ofList (front ++ '/' :: path.toList)) =
      parts (String.ofList front) ++ parts path := by
  simp [parts, List.splitOn_append_cons_self]

/-- A text of names does not start with a slash, so it is no absolute path. -/
theorem head?_intercalate_ne_slash
    {names : List String} (plain : ∀ name ∈ names, FileName name) :
    (String.intercalate "/" names).toList.head? ≠ some '/' := by
  cases names with
  | nil =>
      simp
  | cons name rest =>
      have isPlain := plain name List.mem_cons_self
      obtain ⟨first, later, characters⟩ :=
        List.exists_cons_of_ne_nil (mt String.toList_eq_nil_iff.mp isPlain.notEmpty)
      have notSlash : first ≠ '/' := by
        rintro rfl
        exact isPlain.noSlash (characters ▸ List.mem_cons_self)
      rw [String.toList_intercalate]
      cases rest <;> simp [List.intercalate, characters, notSlash]

/-- Joining drops a slash at the end of the directory's path, and puts one between. -/
theorem parts_joinPath
    {root path : String} (notEmpty : root ≠ "") (isRelative : path.toList.head? ≠ some '/') :
    ∃ front,
      parts (joinPath root path) = front ++ parts path ∧
        (parts root = front ∨ parts root = front ++ [""]) := by
  rw [joinPath, if_neg (by simp [notEmpty, isRelative])]
  split
  · rename_i endsInSlash
    obtain ⟨front, shape⟩ := List.getLast?_eq_some_iff.mp endsInSlash
    have isRoot : root = String.ofList (front ++ '/' :: "".toList) := by
      rw [← String.toList_inj, shape]
      simp
    have isJoined : root ++ path = String.ofList (front ++ '/' :: path.toList) := by
      rw [← String.toList_inj, String.toList_append, shape]
      simp
    refine ⟨parts (String.ofList front), ?_, .inr ?_⟩
    · rw [isJoined, parts_append_slash]
    · rw [isRoot, parts_append_slash]
      rfl
  · have isJoined : root ++ "/" ++ path = String.ofList (root.toList ++ '/' :: path.toList) := by
      rw [← String.toList_inj]
      simp
    refine ⟨parts root, ?_, .inl rfl⟩
    rw [isJoined, parts_append_slash, String.ofList_toList]

end FileStore

namespace FileSystem

/-- A path that is not void is followed from where it starts. -/
theorem resolve_eq_ok_iff {system : FileSystem} {path : String} {found : Found} :
    system.resolve path = .ok found ↔
      path ≠ "" ∧
        system.follow (.directory (system.origin path)) (FileStore.parts path) = .ok found := by
  rw [resolve]
  by_cases isVoid : path = "" <;> simp [isVoid]

/-- What a path leads to is where the path that goes on from it is followed further. -/
theorem resolve_joinPath
    {system : FileSystem} {root path : String} {names : List String} {found : Found}
    (leads : system.resolve root = .ok (.directory names))
    (isRelative : path.toList.head? ≠ some '/')
    (goesOn : system.follow (.directory names) (FileStore.parts path) = .ok found) :
    system.resolve (joinPath root path) = .ok found := by
  obtain ⟨notEmpty, followed⟩ := resolve_eq_ok_iff.mp leads
  have startsAlike : root.toList <+: (joinPath root path).toList := by
    rw [joinPath, if_neg (by simp [notEmpty, isRelative])]
    split <;> simp [List.append_assoc]
  obtain ⟨behind, shape⟩ := startsAlike
  obtain ⟨first, later, characters⟩ :=
    List.exists_cons_of_ne_nil (mt String.toList_eq_nil_iff.mp notEmpty)
  have sameOrigin : system.origin (joinPath root path) = system.origin root := by
    rw [origin, origin, ← shape, characters]
    rfl
  rw [resolve_eq_ok_iff, sameOrigin]
  constructor
  · intro isVoid
    rw [isVoid, characters] at shape
    simp at shape
  · obtain ⟨front, joined, isFront | isSlashed⟩ := FileStore.parts_joinPath notEmpty isRelative
    · rw [joined, FileStore.follow_append, ← isFront, followed]
      exact goesOn
    · rw [isSlashed, FileStore.follow_append] at followed
      rw [joined, FileStore.follow_append]
      cases reached : system.follow (.directory (system.origin root)) front with
      | error failure =>
          rw [reached] at followed
          contradiction
      | ok next =>
          rw [reached] at followed
          rw [FileStore.directory_of_follow_void followed]
          exact goesOn

/-- A path that goes on from a directory by the names of a file leads to that file. -/
theorem resolve_file
    {system : FileSystem} (isTree : system.IsFileTree) {file : StoredFile}
    (member : file ∈ system.files) {root : String} {names below : List String}
    (leads : system.resolve root = .ok (.directory names)) (stands : file.names = names ++ below)
    (goesOn : below ≠ []) :
    system.resolve (joinPath root (String.intercalate "/" below)) = .ok (.file file) := by
  have plain : ∀ name ∈ below, FileName name := by
    intro name isBelow
    exact isTree.named file member name (by simp [stands, isBelow])
  refine resolve_joinPath leads (FileStore.head?_intercalate_ne_slash plain) ?_
  rw [FileStore.parts_intercalate goesOn plain]
  exact isTree.follow_names member stands goesOn

end FileSystem

end Tangle
