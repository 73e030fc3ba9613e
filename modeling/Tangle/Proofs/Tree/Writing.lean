import Tangle.Proofs.Tree.Order
import Tangle.Tree.Write

namespace Tangle.Tree

/-!
# What a write does to a tree

A write is told by what following names finds afterwards.  A successful one
adds its own file, makes directories of the places on the way, and leaves all
else; a failed one names the place that was in the way.
-/

/-- Inside a directory that was put under a name are its children. -/
@[simp] theorem inside_set_directory (name : String) (children tree : Tree) :
    (tree.set name (.directory children)).inside name = children := by
  simp [inside]

/-- Under the other names the inside stays as it is. -/
theorem inside_set_of_ne
    {name other : String} (different : name ≠ other) (entry : Entry) (tree : Tree) :
    (tree.set name entry).inside other = tree.inside other := by
  simp [inside, find?_set_of_ne different]

/-- A file that replaces no directory changes no inside. -/
theorem inside_set_file
    {name contents : String} {tree : Tree}
    (notDirectory : ∀ children, tree.find? name ≠ some (.directory children)) (other : String) :
    (tree.set name (.file contents)).inside other = tree.inside other := by
  by_cases same : name = other
  · subst other
    cases found : tree.find? name with
    | none =>
        simp [inside, found]
    | some entry =>
        cases entry with
        | file text => simp [inside, found]
        | directory children => exact (notDirectory children found).elim
  · exact inside_set_of_ne same _ tree

/-- Writing below a folder means writing in the directory there, missing or not. -/
theorem writeAt_cons
    (name contents folder : String) (deeper : List String) (tree : Tree) :
    writeAt name contents (folder :: deeper) tree =
      match tree.find? folder with
      | some (.file _) => .error (.fileInTheWay [folder])
      | _ =>
          match writeAt name contents deeper (tree.inside folder) with
          | .ok written => .ok (tree.set folder (.directory written))
          | .error failure => .error (failure.under folder) := by
  rw [writeAt, inside]
  cases tree.find? folder with
  | none =>
      rfl
  | some entry =>
      cases entry <;> rfl

/-- A file that is written in a tree takes its place there, if no directory has it. -/
theorem writeAt_nil_eq_ok
    {name contents : String} {tree written : Tree}
    (success : writeAt name contents [] tree = .ok written) :
    (∀ children, tree.find? name ≠ some (.directory children)) ∧
      written = tree.set name (.file contents) := by
  rw [writeAt] at success
  split at success
  · contradiction
  · rename_i notDirectory
    cases success
    exact ⟨notDirectory, rfl⟩

/-- One that is written below a directory is written inside, if no file has its place. -/
theorem writeAt_cons_eq_ok
    {name contents folder : String} {deeper : List String} {tree written : Tree}
    (success : writeAt name contents (folder :: deeper) tree = .ok written) :
    (∀ text, tree.find? folder ≠ some (.file text)) ∧
      ∃ below, writeAt name contents deeper (tree.inside folder) = .ok below ∧
        written = tree.set folder (.directory below) := by
  rw [writeAt_cons] at success
  split at success
  · contradiction
  · rename_i notFile
    split at success
    · rename_i below inner
      cases success
      exact ⟨notFile, below, inner, rfl⟩
    · contradiction

/-- It fails there as it fails inside, with the name of the directory in front. -/
theorem writeAt_cons_eq_error
    {name contents folder : String} {deeper : List String} {tree : Tree} {failure : WriteError}
    (notFile : ∀ text, tree.find? folder ≠ some (.file text)) :
    writeAt name contents (folder :: deeper) tree = .error failure ↔
      ∃ inner, writeAt name contents deeper (tree.inside folder) = .error inner ∧
        failure = inner.under folder := by
  rw [writeAt_cons]
  split
  · rename_i text found
    exact (notFile text found).elim
  · split <;> rename_i inner <;> simp [inner, eq_comm]

/-- Writing keeps a tree ordered. -/
theorem Ordered.writeAt
    {name contents : String} {directories : List String} {tree written : Tree}
    (ordered : tree.Ordered) (success : writeAt name contents directories tree = .ok written) :
    written.Ordered := by
  induction directories generalizing tree written with
  | nil =>
      obtain ⟨_, rfl⟩ := writeAt_nil_eq_ok success
      exact ordered.set trivial
  | cons folder deeper inductionHypothesis =>
      obtain ⟨_, below, inner, rfl⟩ := writeAt_cons_eq_ok success
      exact ordered.set (inductionHypothesis (ordered.inside folder) inner)

/-- After a write the files are those before, but for the one written. -/
theorem hasFile_writeAt
    {name contents : String} {directories : List String} {tree written : Tree}
    (success : writeAt name contents directories tree = .ok written)
    {names : List String} {text : String} :
    written.HasFile names text ↔
      (names = directories ++ [name] ∧ text = contents) ∨
        (names ≠ directories ++ [name] ∧ tree.HasFile names text) := by
  induction directories generalizing tree written names with
  | nil =>
      obtain ⟨notDirectory, rfl⟩ := writeAt_nil_eq_ok success
      match names with
      | [] => simp
      | [other] =>
          by_cases same : other = name
          · subst other
            simp [eq_comm]
          · simp [find?_set_of_ne (Ne.symm same), same]
      | other :: next :: later =>
          simp [hasFile_cons, inside_set_file notDirectory]
  | cons folder deeper inductionHypothesis =>
      obtain ⟨notFile, below, inner, rfl⟩ := writeAt_cons_eq_ok success
      match names with
      | [] => simp
      | [other] =>
          by_cases same : folder = other
          · subst other
            simp [notFile text]
          · simp [find?_set_of_ne same]
      | other :: next :: later =>
          by_cases same : folder = other
          · subst other
            simp [hasFile_cons, inductionHypothesis inner]
          · simp [hasFile_cons, inside_set_of_ne same, Ne.symm same]

/-- After a write the directories are those before and the places on the way to the file. -/
theorem hasDirectory_writeAt
    {name contents : String} {directories : List String} {tree written : Tree}
    (success : writeAt name contents directories tree = .ok written)
    {names : List String} (nonempty : names ≠ []) :
    written.HasDirectory names ↔
      tree.HasDirectory names ∨ ProperPrefix names (directories ++ [name]) := by
  induction directories generalizing tree written names with
  | nil =>
      obtain ⟨notDirectory, rfl⟩ := writeAt_nil_eq_ok success
      match names with
      | [] => exact (nonempty rfl).elim
      | [other] =>
          by_cases same : other = name
          · subst other
            simp [notDirectory]
          · simp [find?_set_of_ne (Ne.symm same), same]
      | other :: next :: later =>
          simp [hasDirectory_cons, inside_set_file notDirectory]
  | cons folder deeper inductionHypothesis =>
      obtain ⟨_, below, inner, rfl⟩ := writeAt_cons_eq_ok success
      match names with
      | [] => exact (nonempty rfl).elim
      | [other] =>
          by_cases same : folder = other
          · subst other
            simp
          · simp [find?_set_of_ne same, Ne.symm same]
      | other :: next :: later =>
          by_cases same : folder = other
          · subst other
            simp [hasDirectory_cons, inductionHypothesis inner]
          · simp [hasDirectory_cons, inside_set_of_ne same, Ne.symm same]

/-- A write fails exactly where a file or a directory is in the way. -/
theorem writeAt_eq_error
    {name contents : String} {directories : List String} {tree : Tree} {failure : WriteError} :
    writeAt name contents directories tree = .error failure ↔
      (∃ names text, ProperPrefix names (directories ++ [name]) ∧ tree.HasFile names text ∧
        failure = .fileInTheWay names) ∨
      (tree.HasDirectory (directories ++ [name]) ∧
        failure = .directoryInTheWay (directories ++ [name])) := by
  induction directories generalizing tree failure with
  | nil =>
      have nothingBefore :
          ∀ names text, ProperPrefix names [name] → ¬ tree.HasFile names text := by
        rintro (_ | ⟨first, rest⟩) text goesOn
        · simp
        · simp at goesOn
      have blocked :
          writeAt name contents [] tree = .error failure ↔
            tree.HasDirectory [name] ∧ failure = .directoryInTheWay [name] := by
        rw [writeAt, hasDirectory_singleton]
        cases tree.find? name with
        | none => simp
        | some entry => cases entry <;> simp [eq_comm]
      rw [blocked, List.nil_append]
      constructor
      · exact Or.inr
      · intro way
        rcases way with ⟨names, text, goesOn, file, _⟩ | isDirectory
        · exact (nothingBefore names text goesOn file).elim
        · exact isDirectory
  | cons folder deeper inductionHypothesis =>
      by_cases isFile : ∃ text, tree.find? folder = some (.file text)
      · obtain ⟨text, found⟩ := isFile
        have insideEmpty : tree.inside folder = .empty := by
          simp [inside, found]
        simp only [writeAt_cons, found, Except.error.injEq]
        constructor
        · intro empty
          subst empty
          exact Or.inl ⟨[folder], text, by simp, by simpa using found, rfl⟩
        · intro way
          rcases way with ⟨names, other, goesOn, file, rfl⟩ | ⟨isDirectory, _⟩
          · obtain ⟨first, below, rfl⟩ := List.exists_cons_of_ne_nil file.ne_nil
            obtain ⟨rfl, _⟩ := properPrefix_cons_cons.mp goesOn
            by_cases deep : below = []
            · rw [deep]
            · simp [hasFile_cons deep, insideEmpty] at file
          · simp [hasDirectory_cons, insideEmpty] at isDirectory
      · have notFile : ∀ text, tree.find? folder ≠ some (.file text) :=
          fun text found => isFile ⟨text, found⟩
        simp only [writeAt_cons_eq_error notFile, inductionHypothesis, List.cons_append]
        constructor
        · intro way
          obtain ⟨_, ⟨names, text, goesOn, file, rfl⟩ | ⟨isDirectory, rfl⟩, rfl⟩ := way
          · refine Or.inl ⟨folder :: names, text, by simpa using goesOn, ?_, rfl⟩
            exact (hasFile_cons file.ne_nil).mpr file
          · exact Or.inr ⟨(hasDirectory_cons (by simp)).mpr isDirectory, rfl⟩
        · intro way
          rcases way with ⟨names, text, goesOn, file, rfl⟩ | ⟨isDirectory, rfl⟩
          · obtain ⟨first, below, rfl⟩ := List.exists_cons_of_ne_nil file.ne_nil
            obtain ⟨rfl, goesOnBelow⟩ := properPrefix_cons_cons.mp goesOn
            have deep : below ≠ [] := by
              rintro rfl
              exact notFile text (hasFile_singleton.mp file)
            exact ⟨.fileInTheWay below,
              Or.inl ⟨below, text, goesOnBelow, (hasFile_cons deep).mp file, rfl⟩, rfl⟩
          · exact ⟨.directoryInTheWay (deeper ++ [name]),
              Or.inr ⟨(hasDirectory_cons (by simp)).mp isDirectory, rfl⟩, rfl⟩

/-- A successful write is one at the path that the written path is made safe to. -/
theorem exists_path_of_write
    {written contents : String} {tree after : Tree}
    (success : tree.write written contents = .ok after) :
    ∃ path, TreePath.sanitize? written = some path ∧
      tree.writeAt path.name contents path.directories = .ok after := by
  rw [write] at success
  cases safe : TreePath.sanitize? written with
  | none =>
      rw [safe] at success
      contradiction
  | some path =>
      rw [safe] at success
      exact ⟨path, rfl, success⟩

section Apart

variable {path other : TreePath} {tree written : Tree} {contents otherContents : String}

/-- A write puts nothing in the way of one at a path that is apart from its own. -/
theorem writeAt_eq_error_iff_of_apart
    (success : tree.writeAt path.name contents path.directories = .ok written)
    (apart : ¬ path.segments <+: other.segments) (apartBack : ¬ other.segments <+: path.segments)
    {failure : WriteError} :
    written.writeAt other.name otherContents other.directories = .error failure ↔
      tree.writeAt other.name otherContents other.directories = .error failure := by
  have sameFiles :
      ∀ names text, ProperPrefix names other.segments →
        (written.HasFile names text ↔ tree.HasFile names text) := by
    intro names text goesOn
    have notWritten : names ≠ path.segments := by
      rintro rfl
      exact apart goesOn.1
    rw [hasFile_writeAt success]
    constructor
    · rintro (⟨isPath, _⟩ | ⟨_, before⟩)
      · exact (notWritten isPath).elim
      · exact before
    · intro before
      exact Or.inr ⟨notWritten, before⟩
  have sameDirectory :
      written.HasDirectory other.segments ↔ tree.HasDirectory other.segments := by
    rw [hasDirectory_writeAt success other.segments_ne_nil]
    constructor
    · rintro (before | onTheWay)
      · exact before
      · exact (apartBack onTheWay.1).elim
    · exact Or.inl
  rw [writeAt_eq_error, writeAt_eq_error]
  apply or_congr
  · apply exists_congr
    intro names
    apply exists_congr
    intro text
    apply and_congr_right
    intro goesOn
    rw [sameFiles names text goesOn]
  · rw [← TreePath.segments, sameDirectory]

/-- A file stays as it was written when another is written apart from it. -/
theorem HasFile.writeAt
    {names : List String} (file : tree.HasFile names contents)
    (success : tree.writeAt other.name otherContents other.directories = .ok written)
    (apart : names ≠ other.segments) :
    written.HasFile names contents :=
  (hasFile_writeAt success).mpr (Or.inr ⟨apart, file⟩)

end Apart

end Tangle.Tree
