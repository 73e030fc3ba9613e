import Tangle.Proofs.Tree.InPlace

namespace Tangle.Tree

/-!
# A write is whole and stays on its way

In whatever tree a file is inserted, the insertion fails as a whole or changes
the tree along its own path only.  What may be in the way is told by the tree as
it was before: a file on the way, or a directory at the end.
-/

/-- A write leaves what is found under names that are neither on its way nor behind its end. -/
theorem lookup?_writeAt_of_apart
    {name contents : String} {directories : List String} {tree written : Tree}
    (success : writeAt name contents directories tree = .ok written)
    {names : List String} (notOnTheWay : ¬ names <+: directories ++ [name])
    (notBehind : ¬ directories ++ [name] <+: names) :
    written.lookup? names = tree.lookup? names := by
  obtain ⟨first, below, shape⟩ : ∃ first below, names = first :: below := by
    apply List.exists_cons_of_ne_nil
    intro empty
    exact notOnTheWay (empty ▸ List.nil_prefix)
  subst names
  induction directories generalizing tree written first below with
  | nil =>
      obtain ⟨_, rfl⟩ := writeAt_nil_eq_ok success
      have different : name ≠ first := by
        intro same
        exact notBehind (by simp [same])
      exact lookup?_cons_congr (find?_set_of_ne different _ tree) below
  | cons folder deeper inductionHypothesis =>
      obtain ⟨_, inner, innerSuccess, rfl⟩ := writeAt_cons_eq_ok success
      by_cases same : folder = first
      · subst folder
        simp only [List.cons_append, List.cons_prefix_cons, true_and] at notOnTheWay notBehind
        obtain ⟨next, later, rfl⟩ : ∃ next later, below = next :: later := by
          apply List.exists_cons_of_ne_nil
          intro empty
          exact notOnTheWay (empty ▸ List.nil_prefix)
        rw [lookup?_cons (List.cons_ne_nil next later), lookup?_cons (List.cons_ne_nil next later),
          inside_set_directory]
        exact inductionHypothesis innerSuccess next later notOnTheWay notBehind
      · exact lookup?_cons_congr (find?_set_of_ne same _ tree) below

/-- A write fails exactly where its path is void, or a file or a directory is in the way. -/
theorem write_eq_error
    {written contents : String} {tree : Tree} {failure : WriteError} :
    tree.write written contents = .error failure ↔
      (TreePath.sanitize? written = none ∧ failure = .invalidPath) ∨
        ∃ path, TreePath.sanitize? written = some path ∧
          ((∃ front text, ProperPrefix front path.segments ∧ tree.HasFile front text ∧
              failure = .fileInTheWay front) ∨
            (tree.HasDirectory path.segments ∧ failure = .directoryInTheWay path.segments)) := by
  rw [write]
  cases TreePath.sanitize? written with
  | none => simp [eq_comm]
  | some path => simp [writeAt_eq_error, TreePath.segments]

/-- The file that a successful write leaves is found by the path that was written. -/
theorem fileAt?_of_writeAt
    {written contents : String} {path : TreePath} {tree after : Tree}
    (safe : TreePath.sanitize? written = some path)
    (success : tree.writeAt path.name contents path.directories = .ok after) :
    after.fileAt? written = some contents :=
  HasFile.fileAt?_of_sanitize? safe ((hasFile_writeAt success).mpr (Or.inl ⟨rfl, rfl⟩))

/-- An insertion reports the failure of its write, and keeps the tree then. -/
theorem insert_fails_iff
    {tree : Tree} (ordered : tree.Ordered) {written contents : String} {failure : WriteError} :
    (tree.insert written contents).2 = some failure ↔
      tree.write written contents = .error failure := by
  rw [insert_eq ordered]
  cases tree.write written contents <;> simp [WriteRun.failure?]

/-- An insertion that reports no failure leaves what its write does. -/
theorem write_of_insert
    {tree : Tree} (ordered : tree.Ordered) {written contents : String}
    (noFailure : (tree.insert written contents).2 = none) :
    tree.write written contents = .ok (tree.insert written contents).1 := by
  rw [insert_eq ordered] at noFailure ⊢
  cases outcome : tree.write written contents with
  | ok after => rfl
  | error failure =>
      rw [outcome] at noFailure
      contradiction

/--
Inserting a file is whole and local in every tree.  It is the write that is
kept if it succeeds.  It fails exactly when the path is void, when a file of the
tree stands on the way, or when a directory of the tree stands at its end, and
then the tree is as it was.  If it succeeds, the file is found by its path,
every place on the way is a directory, and under all names that are neither on
the way nor behind the file the tree has what it had.
-/
theorem insert_whole_and_local
    {tree : Tree} (ordered : tree.Ordered) (written contents : String) :
    tree.insert written contents =
        (WriteRun.kept tree (tree.write written contents),
          WriteRun.failure? (tree.write written contents)) ∧
      (∀ failure, (tree.insert written contents).2 = some failure ↔
        (TreePath.sanitize? written = none ∧ failure = .invalidPath) ∨
          ∃ path, TreePath.sanitize? written = some path ∧
            ((∃ front text, ProperPrefix front path.segments ∧ tree.HasFile front text ∧
                failure = .fileInTheWay front) ∨
              (tree.HasDirectory path.segments ∧
                failure = .directoryInTheWay path.segments))) ∧
      ((tree.insert written contents).2 ≠ none → (tree.insert written contents).1 = tree) ∧
      ((tree.insert written contents).2 = none →
        (tree.insert written contents).1.fileAt? written = some contents ∧
          ∃ path, TreePath.sanitize? written = some path ∧
            (∀ front, front ≠ [] → ProperPrefix front path.segments →
              (tree.insert written contents).1.HasDirectory front) ∧
            ∀ names, ¬ names <+: path.segments → ¬ path.segments <+: names →
              (tree.insert written contents).1.lookup? names = tree.lookup? names) := by
  refine ⟨insert_eq ordered written contents, ?_, ?_, ?_⟩
  · intro failure
    exact (insert_fails_iff ordered).trans write_eq_error
  · intro failed
    obtain ⟨failure, reported⟩ := Option.ne_none_iff_exists'.mp failed
    have refused := (insert_fails_iff ordered).mp reported
    simp only [insert_eq ordered, refused, WriteRun.kept]
  · intro noFailure
    have success := write_of_insert ordered noFailure
    obtain ⟨path, safe, wrote⟩ := exists_path_of_write success
    refine ⟨fileAt?_of_writeAt safe wrote, path, safe, ?_, ?_⟩
    · intro front nonempty goesOn
      exact (hasDirectory_writeAt wrote nonempty).mpr (Or.inr goesOn)
    · intro names notOnTheWay notBehind
      exact lookup?_writeAt_of_apart wrote notOnTheWay notBehind

/-- A tree as it may be read from a file, with an empty directory and with odd names. -/
def oddlyNamed : Tree :=
  .file "" "one" (.file "a/b" "two" (.directory "d" .empty (.file "f" "three" .empty)))

/--
A file in the way leaves the tree as it is, and a file that is inserted leaves
the other entries.
-/
theorem oddlyNamed_insert :
    oddlyNamed.Ordered ∧
      (oddlyNamed.insert "./f/x/y" "four").2 = some (.fileInTheWay ["f"]) ∧
      (oddlyNamed.insert "./f/x/y" "four").1 = oddlyNamed ∧
      (oddlyNamed.insert "d/e/g" "four").2 = none ∧
      (oddlyNamed.insert "d/e/g" "four").1.fileAt? "d/e/g" = some "four" ∧
      (oddlyNamed.insert "d/e/g" "four").1.lookup? ["a/b"] = some (.file "two") := by
  have ordered : oddlyNamed.Ordered := by decide +kernel
  obtain ⟨_, failures, unchanged, _⟩ := insert_whole_and_local ordered "./f/x/y" "four"
  obtain ⟨_, _, _, succeeds⟩ := insert_whole_and_local ordered "d/e/g" "four"
  have refused : (oddlyNamed.insert "./f/x/y" "four").2 = some (.fileInTheWay ["f"]) :=
    (failures _).mpr
      (Or.inr ⟨⟨["f", "x"], "y"⟩, by decide +kernel,
        Or.inl ⟨["f"], "three", by decide, by decide +kernel, rfl⟩⟩)
  have accepted : (oddlyNamed.insert "d/e/g" "four").2 = none := by decide +kernel
  obtain ⟨found, path, safe, _, others⟩ := succeeds accepted
  have isPath : TreePath.sanitize? "d/e/g" = some ⟨["d", "e"], "g"⟩ := by decide +kernel
  cases isPath.symm.trans safe
  have untouched := others ["a/b"] (by decide) (by decide)
  refine ⟨ordered, refused, unchanged (by simp [refused]), accepted, found, ?_⟩
  exact untouched.trans (by decide +kernel)

end Tangle.Tree
