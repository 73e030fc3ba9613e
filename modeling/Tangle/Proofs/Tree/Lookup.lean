import Tangle.Tree.Write

namespace Tangle

/-!
# Following names through a tree

What a tree says about a list of names is either a file with its contents, a
directory, or nothing.  Two facts shape everything below: a file ends every
path that reaches it, and whatever stands below a name stands in the directory
under that name.
-/

/-- One list of names goes on where another ends. -/
def ProperPrefix (front names : List String) : Prop :=
  front <+: names ∧ front ≠ names

instance (front names : List String) : Decidable (ProperPrefix front names) :=
  inferInstanceAs (Decidable (_ ∧ _))

/-- Names go on from a proper prefix with at least one more. -/
theorem properPrefix_iff_append {front names : List String} :
    ProperPrefix front names ↔ ∃ below, below ≠ [] ∧ names = front ++ below := by
  constructor
  · intro goesOn
    obtain ⟨⟨below, rfl⟩, different⟩ := goesOn
    exact ⟨below, by simpa using different, rfl⟩
  · intro appended
    obtain ⟨below, nonempty, rfl⟩ := appended
    exact ⟨List.prefix_append front below, by simpa using nonempty⟩

@[simp] theorem not_properPrefix_nil (front : List String) : ¬ ProperPrefix front [] := by
  simp [ProperPrefix]

@[simp] theorem nil_properPrefix {names : List String} :
    ProperPrefix [] names ↔ names ≠ [] := by
  simp [ProperPrefix, eq_comm]

@[simp] theorem properPrefix_cons_cons
    {first second : String} {front names : List String} :
    ProperPrefix (first :: front) (second :: names) ↔
      first = second ∧ ProperPrefix front names := by
  simp only [ProperPrefix, List.cons_prefix_cons, ne_eq, List.cons.injEq]
  constructor
  · intro goesOn
    obtain ⟨⟨rfl, isPrefix⟩, different⟩ := goesOn
    exact ⟨rfl, isPrefix, fun same => different ⟨rfl, same⟩⟩
  · intro goesOn
    obtain ⟨rfl, isPrefix, different⟩ := goesOn
    exact ⟨⟨rfl, isPrefix⟩, fun same => different same.2⟩

namespace Tree

/-- Following names ends at a file that holds some contents. -/
def HasFile (tree : Tree) (names : List String) (contents : String) : Prop :=
  tree.lookup? names = some (.file contents)

/-- Following names ends at a directory. -/
def HasDirectory (tree : Tree) (names : List String) : Prop :=
  ∃ children, tree.lookup? names = some (.directory children)

instance (tree : Tree) (names : List String) (contents : String) :
    Decidable (tree.HasFile names contents) :=
  inferInstanceAs (Decidable (tree.lookup? names = some (.file contents)))

instance (tree : Tree) (names : List String) : Decidable (tree.HasDirectory names) :=
  match found : tree.lookup? names with
  | some (.directory children) => isTrue ⟨children, found⟩
  | some (.file _) => isFalse (by simp [HasDirectory, found])
  | none => isFalse (by simp [HasDirectory, found])

/-- The directory under a name; without one, a directory with nothing in it. -/
def inside (name : String) (tree : Tree) : Tree :=
  match tree.find? name with
  | some (.directory children) => children
  | _ => .empty

@[simp] theorem lookup?_nil (tree : Tree) : tree.lookup? [] = none := by
  simp [lookup?]

@[simp] theorem lookup?_singleton (name : String) (tree : Tree) :
    tree.lookup? [name] = tree.find? name := by
  simp [lookup?]

@[simp] theorem lookup?_empty (names : List String) :
    Tree.empty.lookup? names = none := by
  match names with
  | [] => rfl
  | [_] => rfl
  | _ :: _ :: _ => rfl

/-- Several names are looked up one after the other. -/
theorem lookup?_cons
    {rest : List String} (nonempty : rest ≠ []) (name : String) (tree : Tree) :
    tree.lookup? (name :: rest) = (tree.inside name).lookup? rest := by
  cases rest with
  | nil =>
      exact (nonempty rfl).elim
  | cons next later =>
      rw [lookup?, inside]
      split <;> simp_all

/-- What is found from a name on depends only on what stands under that name. -/
theorem lookup?_cons_congr
    {tree other : Tree} {name : String} (same : tree.find? name = other.find? name)
    (below : List String) :
    tree.lookup? (name :: below) = other.lookup? (name :: below) := by
  by_cases deep : below = []
  · rw [deep, lookup?_singleton, lookup?_singleton, same]
  · rw [lookup?_cons deep, lookup?_cons deep, inside, inside, same]

/-- Following names on from some place means following them in the directory there. -/
theorem lookup?_append
    {front back : List String} (frontNonempty : front ≠ []) (backNonempty : back ≠ [])
    (tree : Tree) :
    tree.lookup? (front ++ back) =
      match tree.lookup? front with
      | some (.directory children) => children.lookup? back
      | _ => none := by
  induction front generalizing tree with
  | nil =>
      exact (frontNonempty rfl).elim
  | cons name rest inductionHypothesis =>
      rw [List.cons_append, lookup?_cons (by simp [backNonempty])]
      cases rest with
      | nil =>
          rw [List.nil_append, lookup?_singleton, inside]
          split <;> simp_all
      | cons next later =>
          rw [inductionHypothesis (by simp), lookup?_cons (List.cons_ne_nil next later) name tree]

@[simp] theorem not_hasFile_nil (tree : Tree) (contents : String) :
    ¬ tree.HasFile [] contents := by
  simp [HasFile]

@[simp] theorem not_hasDirectory_nil (tree : Tree) : ¬ tree.HasDirectory [] := by
  simp [HasDirectory]

@[simp] theorem not_hasFile_empty (names : List String) (contents : String) :
    ¬ Tree.empty.HasFile names contents := by
  simp [HasFile]

@[simp] theorem not_hasDirectory_empty (names : List String) :
    ¬ Tree.empty.HasDirectory names := by
  simp [HasDirectory]

@[simp] theorem hasFile_singleton {name contents : String} {tree : Tree} :
    tree.HasFile [name] contents ↔ tree.find? name = some (.file contents) := by
  simp [HasFile]

@[simp] theorem hasDirectory_singleton {name : String} {tree : Tree} :
    tree.HasDirectory [name] ↔ ∃ children, tree.find? name = some (.directory children) := by
  simp [HasDirectory]

/-- A file below a name is one of the tree inside. -/
theorem hasFile_cons
    {name contents : String} {rest : List String} (nonempty : rest ≠ []) {tree : Tree} :
    tree.HasFile (name :: rest) contents ↔ (tree.inside name).HasFile rest contents := by
  rw [HasFile, HasFile, lookup?_cons nonempty]

/-- So is a directory. -/
theorem hasDirectory_cons
    {name : String} {rest : List String} (nonempty : rest ≠ []) {tree : Tree} :
    tree.HasDirectory (name :: rest) ↔ (tree.inside name).HasDirectory rest := by
  rw [HasDirectory, HasDirectory, lookup?_cons nonempty]

/-- A path to a directory ends at the first name or goes on in the directory there. -/
theorem hasDirectory_cons_iff {tree : Tree} {name : String} {below : List String} :
    tree.HasDirectory (name :: below) ↔
      ∃ children, tree.find? name = some (.directory children) ∧
        (below = [] ∨ children.HasDirectory below) := by
  cases below with
  | nil =>
      simp
  | cons next later =>
      rw [hasDirectory_cons (List.cons_ne_nil next later), inside]
      cases tree.find? name with
      | none =>
          simp
      | some entry =>
          cases entry <;> simp

/-- No file stands at the top itself. -/
theorem HasFile.ne_nil
    {tree : Tree} {names : List String} {contents : String}
    (file : tree.HasFile names contents) :
    names ≠ [] := by
  intro empty
  subst empty
  simp at file

/-- A file has one text. -/
theorem HasFile.contents_eq
    {tree : Tree} {names : List String} {contents text : String}
    (file : tree.HasFile names contents) (again : tree.HasFile names text) :
    contents = text := by
  have sameEntry := file.symm.trans again
  injection sameEntry with sameFile
  injection sameFile

/-- No place is a file and a directory. -/
theorem HasFile.not_hasDirectory
    {tree : Tree} {names : List String} {contents : String}
    (file : tree.HasFile names contents) :
    ¬ tree.HasDirectory names := by
  rintro ⟨children, directory⟩
  have sameEntry := file.symm.trans directory
  injection sameEntry with impossible
  contradiction

/-- A file is found by every text that is made safe as its path. -/
theorem HasFile.fileAt?_of_sanitize?
    {tree : Tree} {written contents : String} {path : TreePath}
    (safe : TreePath.sanitize? written = some path)
    (file : tree.HasFile path.segments contents) :
    tree.fileAt? written = some contents := by
  have found : tree.lookup? path.segments = some (.file contents) := file
  simp only [fileAt?, get?, safe, found]

/-- Nor is the top counted as a directory. -/
theorem HasDirectory.ne_nil
    {tree : Tree} {names : List String} (directory : tree.HasDirectory names) :
    names ≠ [] := by
  intro empty
  subst empty
  simp at directory

/-- Nothing is reached by following names on from a file. -/
theorem HasFile.lookup?_below
    {tree : Tree} {names deeper : List String} {contents : String}
    (file : tree.HasFile names contents) (goesOn : ProperPrefix names deeper) :
    tree.lookup? deeper = none := by
  obtain ⟨below, nonempty, rfl⟩ := properPrefix_iff_append.mp goesOn
  have found : tree.lookup? names = some (.file contents) := file
  rw [lookup?_append file.ne_nil nonempty, found]

/-- Whatever is reached through a place makes that place a directory. -/
theorem hasDirectory_of_lookup?
    {tree : Tree} {front names : List String} {entry : Entry}
    (found : tree.lookup? names = some entry)
    (frontNonempty : front ≠ []) (goesOn : ProperPrefix front names) :
    tree.HasDirectory front := by
  obtain ⟨below, backNonempty, rfl⟩ := properPrefix_iff_append.mp goesOn
  rw [lookup?_append frontNonempty backNonempty] at found
  split at found
  · rename_i children directory
    exact ⟨children, directory⟩
  · contradiction

end Tree

end Tangle
