import Tangle.Proofs.Tree.Leaves

namespace Tangle.Tree

/-!
# Trees told by what they hold

An ordered tree is known by what is found under each name, and so by the paths
of its files and directories and the contents of the files.
-/

/-- What holds of a tree when it holds of all directories in it holds of every tree. -/
@[elab_as_elim]
theorem descentInduction
    {motive : Tree → Prop}
    (descend :
      ∀ tree : Tree,
        (∀ name children, tree.find? name = some (.directory children) → motive children) →
        motive tree)
    (tree : Tree) :
    motive tree := by
  apply descend
  induction tree using entryInduction with
  | empty =>
      intro name children found
      contradiction
  | before first entry rest inDirectory inRest =>
      intro name children found
      by_cases same : first = name
      · subst first
        rw [find?_before] at found
        cases found
        exact descend children (inDirectory children rfl)
      · rw [find?_before_of_ne same] at found
        exact inRest name children found

/--
Ordered trees in which the same entries are found are the same.  The front name
of each is found in the other, so none of the two is the smaller one.
-/
theorem Ordered.eq_of_find?
    {first second : Tree} (firstOrdered : first.Ordered) (secondOrdered : second.Ordered)
    (same : ∀ name, first.find? name = second.find? name) :
    first = second := by
  induction first using entryInduction generalizing second with
  | empty =>
      induction second using entryInduction with
      | empty =>
          rfl
      | before name entry rest _ _ =>
          have found := same name
          rw [find?_before] at found
          contradiction
  | before name entry rest _ inductionHypothesis =>
      induction second using entryInduction with
      | empty =>
          have found := same name
          rw [find?_before] at found
          contradiction
      | before otherName other others _ _ =>
          obtain ⟨smaller, _, restOrdered⟩ := ordered_before.mp firstOrdered
          obtain ⟨otherSmaller, _, othersOrdered⟩ := ordered_before.mp secondOrdered
          have notBefore :
              ∀ {low high : String} {entry : Entry} {rest : Tree},
                (∀ later ∈ rest.names, high < later) → low < high →
                  (entry.before high rest).find? low = none := by
            intro low high entry rest behind lower
            apply find?_eq_none_of_lt
            intro later member
            rw [names_before] at member
            rcases List.mem_cons.mp member with rfl | inRest
            · exact lower
            · exact String.lt_trans lower (behind later inRest)
          have sameName : name = otherName := by
            apply String.le_antisymm
            · apply String.not_lt.mp
              intro lower
              have found := same otherName
              rw [find?_before, notBefore smaller lower] at found
              contradiction
            · apply String.not_lt.mp
              intro lower
              have found := same name
              rw [find?_before, notBefore otherSmaller lower] at found
              contradiction
          subst otherName
          have sameEntry := same name
          rw [find?_before, find?_before] at sameEntry
          cases sameEntry
          have sameRest : rest = others := by
            apply inductionHypothesis restOrdered othersOrdered
            intro wanted
            by_cases here : name = wanted
            · subst wanted
              rw [find?_eq_none_of_lt smaller, find?_eq_none_of_lt otherSmaller]
            · have found := same wanted
              rwa [find?_before_of_ne here, find?_before_of_ne here] at found
          rw [sameRest]

/-- Ordered trees with the same files and the same directories are the same. -/
theorem Ordered.eq_of_same_paths
    {first second : Tree} (firstOrdered : first.Ordered) (secondOrdered : second.Ordered)
    (sameFiles : ∀ names text, first.HasFile names text ↔ second.HasFile names text)
    (sameDirectories : ∀ names, first.HasDirectory names ↔ second.HasDirectory names) :
    first = second := by
  induction first using descentInduction generalizing second with
  | descend first inDirectory =>
      apply firstOrdered.eq_of_find? secondOrdered
      intro name
      have filesHere :
          ∀ text, first.find? name = some (.file text) ↔ second.find? name = some (.file text) := by
        intro text
        rw [← hasFile_singleton, sameFiles, hasFile_singleton]
      have directoriesHere :
          (∃ children, first.find? name = some (.directory children)) ↔
            ∃ children, second.find? name = some (.directory children) := by
        rw [← hasDirectory_singleton, sameDirectories, hasDirectory_singleton]
      cases found : first.find? name with
      | none =>
          cases other : second.find? name with
          | none =>
              rfl
          | some entry =>
              cases entry with
              | file text =>
                  rw [(filesHere text).mpr other] at found
                  contradiction
              | directory children =>
                  obtain ⟨_, here⟩ := directoriesHere.mpr ⟨children, other⟩
                  rw [here] at found
                  contradiction
      | some entry =>
          cases entry with
          | file text =>
              exact ((filesHere text).mp found).symm
          | directory children =>
              obtain ⟨others, other⟩ := directoriesHere.mp ⟨children, found⟩
              rw [other]
              have sameChildren : children = others := by
                apply inDirectory name children found (firstOrdered.find? found)
                  (secondOrdered.find? other)
                · intro names text
                  have sameBelow := sameFiles (name :: names) text
                  rw [hasFile_cons_iff, hasFile_cons_iff, found, other] at sameBelow
                  simpa [Entry.HasFile] using sameBelow
                · intro names
                  by_cases here : names = []
                  · simp [here]
                  · have sameBelow := sameDirectories (name :: names)
                    rw [hasDirectory_cons_iff, hasDirectory_cons_iff, found, other] at sameBelow
                    simpa [here] using sameBelow
              rw [sameChildren]

end Tangle.Tree
