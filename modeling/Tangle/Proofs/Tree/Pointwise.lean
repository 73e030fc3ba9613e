import Tangle.Proofs.Text.ByteOrder
import Tangle.Proofs.Tree.Agreement

namespace Tangle

/-!
# A merge told path by path

Whatever two trees are merged, and whatever names are followed afterwards, the
answer is read off what the two trees answer to the same names.  The first tree
keeps its files and directories; where it has nothing, the second one is asked,
unless a file of the first stands on the way.
-/

namespace Tree

/-- Room is left at a path where nothing is found and no file stands on the way. -/
theorem not_occupied_of_lookup?
    {tree : Tree} {names : List String} (nothing : tree.lookup? names = none)
    (noFileAbove : ∀ front text, ProperPrefix front names → ¬ tree.HasFile front text) :
    ¬ tree.Occupied names := by
  rintro (⟨children, directory⟩ | ⟨front, text, leads, file⟩)
  · rw [nothing] at directory
    contradiction
  · by_cases here : front = names
    · subst front
      rw [HasFile, nothing] at file
      contradiction
    · exact noFileAbove front text ⟨leads, here⟩ file

/-- Nothing is found where there is room. -/
theorem lookup?_eq_none_of_not_occupied
    {tree : Tree} {names : List String} (room : ¬ tree.Occupied names) :
    tree.lookup? names = none := by
  cases found : tree.lookup? names with
  | none =>
      rfl
  | some entry =>
      cases entry with
      | file text => exact (room (HasFile.occupied found)).elim
      | directory children => exact (room (Or.inl ⟨children, found⟩)).elim

/--
Where the first tree leaves room, the merged tree has what the second one has,
also below a directory of the first tree that the second one does not have.
-/
theorem lookup?_mergeAt_of_not_occupied
    {mine theirs : Tree} (theirsOrdered : theirs.Ordered) (place : List String)
    {names : List String} (room : ¬ mine.Occupied names) :
    (mergeAt place mine theirs).tree.lookup? names = theirs.lookup? names := by
  induction names generalizing place mine theirs with
  | nil =>
      rw [lookup?_nil, lookup?_nil]
  | cons name below inductionHypothesis =>
      rw [occupied_cons_iff] at room
      have united := @find?_mergeAt mine theirs theirsOrdered place name
      cases mineFound : mine.find? name with
      | none =>
          rw [mineFound] at united
          apply lookup?_cons_congr
          rw [united]
          cases theirs.find? name <;> rfl
      | some present =>
          cases present with
          | file text =>
              exact (room ⟨.file text, mineFound, trivial⟩).elim
          | directory inner =>
              rw [mineFound] at united
              have deep : below ≠ [] :=
                fun here => room ⟨.directory inner, mineFound, Or.inl here⟩
              have innerRoom : ¬ inner.Occupied below :=
                fun occupied => room ⟨.directory inner, mineFound, Or.inr occupied⟩
              have nothing := lookup?_eq_none_of_not_occupied innerRoom
              rw [lookup?_cons deep, lookup?_cons deep, inside, inside, united]
              cases theirsFound : theirs.find? name with
              | none =>
                  exact nothing.trans (lookup?_empty below).symm
              | some entry =>
                  cases entry with
                  | file text =>
                      exact nothing.trans (lookup?_empty below).symm
                  | directory children =>
                      exact inductionHypothesis (theirsOrdered.find? theirsFound) _ innerRoom

/--
A merge told path by path.  Files of the first tree keep their contents and its
directories stay directories.  Where the first tree has nothing, the merged tree
has what the second one has there, or nothing if a file of the first stands on
the way.  The conflicts are the clashes of the two trees, each once, in
ascending order of their names.
-/
theorem merge_by_path
    {mine theirs : Tree} (mineOrdered : mine.Ordered) (theirsOrdered : theirs.Ordered) :
    (∀ names text, mine.HasFile names text → (mine.merge theirs).tree.HasFile names text) ∧
    (∀ names, mine.HasDirectory names → (mine.merge theirs).tree.HasDirectory names) ∧
    (∀ names, mine.lookup? names = none →
      ((∀ front text, ProperPrefix front names → ¬ mine.HasFile front text) →
          (mine.merge theirs).tree.lookup? names = theirs.lookup? names) ∧
        ((∃ front text, ProperPrefix front names ∧ mine.HasFile front text) →
          (mine.merge theirs).tree.lookup? names = none)) ∧
    (∀ names,
      (.fileAndDirectory names ∈ (mine.merge theirs).conflicts ↔
        (∃ text, mine.HasFile names text) ∧ theirs.HasDirectory names ∨
          mine.HasDirectory names ∧ ∃ text, theirs.HasFile names text) ∧
      (.divergentFile names ∈ (mine.merge theirs).conflicts ↔
        ∃ text other, mine.HasFile names text ∧ theirs.HasFile names other ∧ text ≠ other)) ∧
    (mine.merge theirs).conflicts.Pairwise
      (fun first second => first.names.map Text.bytes < second.names.map Text.bytes) := by
  have keepsFiles :
      ∀ names text, mine.HasFile names text → (mine.merge theirs).tree.HasFile names text :=
    fun _ _ file => (hasFile_mergeAt mineOrdered theirsOrdered []).mpr (Or.inl file)
  refine ⟨keepsFiles, ?_, ?_, ?_, ?_⟩
  · intro names directory
    exact (hasDirectory_mergeAt mineOrdered theirsOrdered []).mpr (Or.inl directory)
  · intro names nothing
    constructor
    · intro noFileAbove
      exact lookup?_mergeAt_of_not_occupied theirsOrdered []
        (not_occupied_of_lookup? nothing noFileAbove)
    · rintro ⟨front, text, goesOn, file⟩
      exact (keepsFiles front text file).lookup?_below goesOn
  · intro names
    exact ⟨mem_conflicts_merge_iff theirsOrdered, mem_conflicts_merge_iff theirsOrdered⟩
  · exact (theirsOrdered.conflicts_pairwise [] mine).imp (List.map_lt fun _ _ => Text.bytes_lt)

/-- A tree with a file and a directory that has entries of both kinds. -/
def branching : Tree :=
  .file "a" "one" (.directory "d" (.directory "e" .empty (.file "f" "two" .empty)) .empty)

/-- A tree that clashes with `branching` at three places and has an entry of its own beside them. -/
def colliding : Tree :=
  .directory "a" (.file "b" "three" .empty)
    (.directory "d"
      (.file "e" "four" (.file "f" "five" (.directory "g" (.file "" "six" .empty) .empty))) .empty)

/-- At the clashes the first tree keeps what it has, and the entry beside them is taken in. -/
theorem branching_merge_colliding :
    branching.Ordered ∧ colliding.Ordered ∧
      (branching.merge colliding).tree.HasFile ["d", "f"] "two" ∧
      (branching.merge colliding).tree.HasDirectory ["d", "e"] ∧
      (branching.merge colliding).tree.lookup? ["d", "g"] =
        some (.directory (.file "" "six" .empty)) ∧
      (branching.merge colliding).tree.lookup? ["a", "b"] = none ∧
      .fileAndDirectory ["d", "e"] ∈ (branching.merge colliding).conflicts ∧
      .divergentFile ["d", "f"] ∈ (branching.merge colliding).conflicts := by
  have ordered : branching.Ordered := by decide +kernel
  have otherOrdered : colliding.Ordered := by decide +kernel
  obtain ⟨files, directories, nothing, clashes, _⟩ := merge_by_path ordered otherOrdered
  have roomBelow :
      ∀ front text, ProperPrefix front ["d", "g"] → ¬ branching.HasFile front text := by
    intro front text goesOn file
    obtain ⟨name, below, rfl⟩ := List.exists_cons_of_ne_nil file.ne_nil
    obtain ⟨rfl, goesOnBelow⟩ := properPrefix_cons_cons.mp goesOn
    cases below with
    | nil => exact file.not_hasDirectory (by decide +kernel)
    | cons next later => simp at goesOnBelow
  refine ⟨ordered, otherOrdered, files _ _ (by decide +kernel), directories _ (by decide +kernel),
    ?_, ?_, ?_, ?_⟩
  · exact ((nothing ["d", "g"] (by decide +kernel)).1 roomBelow).trans (by decide +kernel)
  · exact (nothing ["a", "b"] (by decide +kernel)).2 ⟨["a"], "one", by decide, by decide +kernel⟩
  · exact (clashes ["d", "e"]).1.mpr (Or.inr ⟨by decide +kernel, "four", by decide +kernel⟩)
  · exact (clashes ["d", "f"]).2.mpr
      ⟨"two", "five", by decide +kernel, by decide +kernel, by decide⟩

end Tree

end Tangle
