import Tangle.Proofs.Tree.Pointwise

namespace Tangle

/-!
# Laws of merging

The first of two merged trees keeps what it has, so merging neither commutes nor
associates where trees clash.  Their conflicts are the same in either order,
though; a tree that was merged once has nothing more to give; and where
neighbours agree, the order in which three trees are merged does not matter.
-/

/-- What a tree can hold at a path, what stands below a directory left aside. -/
inductive Holding where
  | file (contents : String)
  | directory
  deriving Repr, DecidableEq

namespace Tree

/-- What following names ends at. -/
def Holds (tree : Tree) (names : List String) : Holding → Prop
  | .file contents => tree.HasFile names contents
  | .directory => tree.HasDirectory names

/-- At most one thing is held under some names. -/
theorem Holds.unique
    {tree : Tree} {names : List String} {holding other : Holding}
    (held : tree.Holds names holding) (again : tree.Holds names other) :
    holding = other := by
  cases holding with
  | file contents =>
      cases other with
      | file text => exact congrArg Holding.file (HasFile.contents_eq held again)
      | directory => exact (HasFile.not_hasDirectory held again).elim
  | directory =>
      cases other with
      | file text => exact (HasFile.not_hasDirectory again held).elim
      | directory => rfl

/-- Where something is held there is no room. -/
theorem Holds.occupied
    {tree : Tree} {names : List String} {holding : Holding}
    (held : tree.Holds names holding) :
    tree.Occupied names := by
  cases holding with
  | file contents => exact HasFile.occupied held
  | directory => exact Or.inl held

/-- Ordered trees that hold the same are the same. -/
theorem Ordered.eq_of_holds
    {first second : Tree} (firstOrdered : first.Ordered) (secondOrdered : second.Ordered)
    (same : ∀ names holding, first.Holds names holding ↔ second.Holds names holding) :
    first = second :=
  firstOrdered.eq_of_same_paths secondOrdered
    (fun names text => same names (.file text)) (fun names => same names .directory)

section Pair

variable {mine theirs : Tree} (mineOrdered : mine.Ordered) (theirsOrdered : theirs.Ordered)
variable {names : List String} {holding : Holding}

include mineOrdered theirsOrdered

/-- A merged tree holds what the first tree holds, and what the second one finds room for. -/
theorem holds_merge :
    (mine.merge theirs).tree.Holds names holding ↔
      mine.Holds names holding ∨ (¬ mine.Occupied names ∧ theirs.Holds names holding) := by
  cases holding with
  | file contents => exact hasFile_mergeAt mineOrdered theirsOrdered []
  | directory => exact hasDirectory_mergeAt mineOrdered theirsOrdered []

/-- Ordered trees are merged into one. -/
theorem Ordered.merge : (mine.merge theirs).tree.Ordered :=
  mineOrdered.mergeAt theirsOrdered []

/-- Whatever the second tree holds, the merged tree leaves no room for it. -/
theorem Holds.occupied_merge (held : theirs.Holds names holding) :
    (mine.merge theirs).tree.Occupied names := by
  by_cases occupied : mine.Occupied names
  · exact occupied.mergeAt theirsOrdered []
  · exact Holds.occupied ((holds_merge mineOrdered theirsOrdered).mpr (Or.inr ⟨occupied, held⟩))

/-- No room is left in a merged tree only where one of the two trees leaves none. -/
theorem Occupied.of_merge (occupied : (mine.merge theirs).tree.Occupied names) :
    mine.Occupied names ∨ theirs.Occupied names := by
  rcases occupied with directory | ⟨front, text, leads, file⟩
  · rcases (hasDirectory_mergeAt mineOrdered theirsOrdered []).mp directory with ofMine | ofTheirs
    · exact Or.inl (Or.inl ofMine)
    · exact Or.inr (Or.inl ofTheirs.2)
  · rcases (hasFile_mergeAt mineOrdered theirsOrdered []).mp file with ofMine | ofTheirs
    · exact Or.inl (Or.inr ⟨front, text, leads, ofMine⟩)
    · exact Or.inr (Or.inr ⟨front, text, leads, ofTheirs.2⟩)

/-- A tree that finds no room for anything changes nothing. -/
theorem merge_tree_eq_self
    (full : ∀ names holding, theirs.Holds names holding → mine.Occupied names) :
    (mine.merge theirs).tree = mine := by
  apply (mineOrdered.merge theirsOrdered).eq_of_holds mineOrdered
  intro names holding
  rw [holds_merge mineOrdered theirsOrdered]
  constructor
  · intro either
    rcases either with ofMine | ⟨room, ofTheirs⟩
    · exact ofMine
    · exact (room (full names holding ofTheirs)).elim
  · exact Or.inl

/-- Where the second tree holds something else, the merged tree holds what the first one does. -/
theorem holds_merge_of_ne
    {other : Holding} (held : theirs.Holds names other) (different : holding ≠ other) :
    (mine.merge theirs).tree.Holds names holding ↔ mine.Holds names holding := by
  rw [holds_merge mineOrdered theirsOrdered]
  constructor
  · intro either
    rcases either with ofMine | ⟨_, ofTheirs⟩
    · exact ofMine
    · exact (different (ofTheirs.unique held)).elim
  · exact Or.inl

/-- A merged tree clashes with the second of its trees as the first one does. -/
theorem clash_merge_iff {conflict : Conflict} :
    (mine.merge theirs).tree.Clash theirs conflict ↔ mine.Clash theirs conflict := by
  have keeps :
      ∀ names holding other, theirs.Holds names other → holding ≠ other →
        ((mine.merge theirs).tree.Holds names holding ↔ mine.Holds names holding) :=
    fun _ _ _ => holds_merge_of_ne mineOrdered theirsOrdered
  cases conflict with
  | fileAndDirectory names =>
      apply or_congr
      · apply and_congr_left
        intro directory
        apply exists_congr
        intro text
        exact keeps names (.file text) .directory directory (by simp)
      · apply and_congr_left
        intro file
        obtain ⟨text, file⟩ := file
        exact keeps names .directory (.file text) file (by simp)
  | divergentFile names =>
      apply exists_congr
      intro text
      apply exists_congr
      intro other
      apply and_congr_left
      intro file
      exact keeps names (.file text) (.file other) file.1 (by simp [file.2])

variable (agree : mine.Agree theirs)

include agree

/-- Of two trees that agree the merged tree holds all that one of them holds. -/
theorem Agree.holds_merge :
    (mine.merge theirs).tree.Holds names holding ↔
      mine.Holds names holding ∨ theirs.Holds names holding := by
  cases holding with
  | file contents => exact agree.hasFile_mergeAt mineOrdered theirsOrdered []
  | directory => exact agree.hasDirectory_mergeAt mineOrdered theirsOrdered []

/-- What one of two trees that agree holds is held by the other, or finds room there. -/
theorem Agree.holds_or_room (held : theirs.Holds names holding) :
    mine.Holds names holding ∨ ¬ mine.Occupied names := by
  have merged := (agree.holds_merge mineOrdered theirsOrdered).mpr (Or.inr held)
  rcases (Tree.holds_merge mineOrdered theirsOrdered).mp merged with ofMine | ⟨room, _⟩
  · exact Or.inl ofMine
  · exact Or.inr room

/-- Where one of two trees that agree leaves no room, the merged tree leaves none. -/
theorem Agree.occupied_merge (occupied : theirs.Occupied names) :
    (mine.merge theirs).tree.Occupied names := by
  rcases occupied with directory | ⟨front, text, leads, file⟩
  · exact Or.inl ((agree.hasDirectory_mergeAt mineOrdered theirsOrdered []).mpr (Or.inr directory))
  · exact Or.inr ⟨front, text, leads,
      (agree.hasFile_mergeAt mineOrdered theirsOrdered []).mpr (Or.inr file)⟩

end Pair

/-- Two trees clash in either order. -/
theorem clash_comm {mine theirs : Tree} {conflict : Conflict} :
    mine.Clash theirs conflict ↔ theirs.Clash mine conflict := by
  cases conflict with
  | fileAndDirectory names =>
      exact or_comm.trans (or_congr and_comm and_comm)
  | divergentFile names =>
      constructor
      · intro clash
        obtain ⟨text, other, file, otherFile, different⟩ := clash
        exact ⟨other, text, otherFile, file, different.symm⟩
      · intro clash
        obtain ⟨text, other, file, otherFile, different⟩ := clash
        exact ⟨other, text, otherFile, file, different.symm⟩

/-- Merges of trees that clash alike report the same conflicts in the same order. -/
theorem conflicts_merge_congr
    {mine theirs other others : Tree}
    (theirsOrdered : theirs.Ordered) (othersOrdered : others.Ordered)
    (alike : ∀ conflict, mine.Clash theirs conflict ↔ other.Clash others conflict) :
    (mine.merge theirs).conflicts = (other.merge others).conflicts := by
  apply eq_of_ascending (theirsOrdered.conflicts_pairwise [] mine)
    (othersOrdered.conflicts_pairwise [] other)
  intro conflict
  exact (mem_conflicts_merge_iff theirsOrdered).trans
    ((alike conflict).trans (mem_conflicts_merge_iff othersOrdered).symm)

/-- Merging reports nothing exactly if the trees agree. -/
theorem conflicts_merge_eq_nil_iff
    {mine theirs : Tree} (theirsOrdered : theirs.Ordered) :
    (mine.merge theirs).conflicts = [] ↔ mine.Agree theirs :=
  conflicts_mergeAt_eq_nil_iff theirsOrdered []

/-- A tree agrees with itself. -/
theorem Agree.refl (tree : Tree) : tree.Agree tree where
  fileFirst file := file.not_hasDirectory
  fileSecond file := file.not_hasDirectory
  contents file again := file.contents_eq again

/-- Merging with the empty tree changes nothing. -/
theorem merge_empty (tree : Tree) : tree.merge .empty = ⟨tree, []⟩ :=
  rfl

/-- A tree merged into the empty one is rebuilt as it is. -/
theorem empty_merge {tree : Tree} (ordered : tree.Ordered) :
    Tree.empty.merge tree = ⟨tree, []⟩ := by
  have agree : Tree.empty.Agree tree :=
    { fileFirst := fun file => absurd file (not_hasFile_empty _ _)
      fileSecond := fun _ => not_hasDirectory_empty _
      contents := fun file => absurd file (not_hasFile_empty _ _) }
  have noConflict : (Tree.empty.merge tree).conflicts = [] :=
    (conflicts_merge_eq_nil_iff ordered).mpr agree
  have emptyOrdered : Tree.empty.Ordered := trivial
  have sameTree : (Tree.empty.merge tree).tree = tree := by
    apply (emptyOrdered.merge ordered).eq_of_holds ordered
    intro names holding
    have nothing : ¬ Tree.empty.Holds names holding := by
      cases holding with
      | file contents => exact not_hasFile_empty names contents
      | directory => exact not_hasDirectory_empty names
    rw [agree.holds_merge emptyOrdered ordered, or_iff_right nothing]
  exact congrArg₂ Merged.mk sameTree noConflict

section Laws

variable {first second third : Tree}
variable (firstOrdered : first.Ordered) (secondOrdered : second.Ordered)

include firstOrdered

/-- A tree merged into itself is that tree. -/
theorem merge_self : first.merge first = ⟨first, []⟩ := by
  have sameTree : (first.merge first).tree = first :=
    merge_tree_eq_self firstOrdered firstOrdered fun _ _ held => held.occupied
  have noConflict : (first.merge first).conflicts = [] :=
    (conflicts_merge_eq_nil_iff firstOrdered).mpr (Agree.refl first)
  exact congrArg₂ Merged.mk sameTree noConflict

include secondOrdered

/-- A tree that is merged a second time changes nothing and clashes as it did. -/
theorem merge_merge_self : (first.merge second).tree.merge second = first.merge second := by
  have mergedOrdered : (first.merge second).tree.Ordered := firstOrdered.merge secondOrdered
  have sameTree :
      ((first.merge second).tree.merge second).tree = (first.merge second).tree :=
    merge_tree_eq_self mergedOrdered secondOrdered
      fun _ _ held => held.occupied_merge firstOrdered secondOrdered
  have sameConflicts :
      ((first.merge second).tree.merge second).conflicts = (first.merge second).conflicts :=
    conflicts_merge_congr secondOrdered secondOrdered
      fun _ => clash_merge_iff firstOrdered secondOrdered
  exact congrArg₂ Merged.mk sameTree sameConflicts

/-- Trees that agree can be merged in either order. -/
theorem Agree.merge_comm (agree : first.Agree second) :
    (first.merge second).tree = (second.merge first).tree := by
  apply (firstOrdered.merge secondOrdered).eq_of_holds (secondOrdered.merge firstOrdered)
  intro names holding
  rw [agree.holds_merge firstOrdered secondOrdered,
    agree.symm.holds_merge secondOrdered firstOrdered]
  exact or_comm

/--
Three trees of which two neighbours agree can be merged from either end.  What
the third tree holds may find no room in the second one only if that holds it as
well.
-/
theorem merge_assoc
    (thirdOrdered : third.Ordered) (neighbours : first.Agree second ∨ second.Agree third) :
    ((first.merge second).tree.merge third).tree =
      (first.merge (second.merge third).tree).tree := by
  have frontOrdered : (first.merge second).tree.Ordered := firstOrdered.merge secondOrdered
  have backOrdered : (second.merge third).tree.Ordered := secondOrdered.merge thirdOrdered
  apply (frontOrdered.merge thirdOrdered).eq_of_holds (firstOrdered.merge backOrdered)
  intro names holding
  rw [holds_merge frontOrdered thirdOrdered, holds_merge firstOrdered secondOrdered,
    holds_merge firstOrdered backOrdered, holds_merge secondOrdered thirdOrdered]
  have roomInFirst : ¬ (first.merge second).tree.Occupied names → ¬ first.Occupied names :=
    fun room occupied => room (occupied.mergeAt secondOrdered [])
  have roomInSecond :
      ¬ (first.merge second).tree.Occupied names → third.Holds names holding →
        second.Holds names holding ∨ ¬ second.Occupied names := by
    intro room held
    rcases neighbours with agree | agree
    · exact Or.inr fun occupied => room (agree.occupied_merge firstOrdered secondOrdered occupied)
    · exact agree.holds_or_room secondOrdered thirdOrdered held
  constructor
  · intro either
    rcases either with (ofFirst | ofSecond) | ⟨room, ofThird⟩
    · exact Or.inl ofFirst
    · exact Or.inr ⟨ofSecond.1, Or.inl ofSecond.2⟩
    · refine Or.inr ⟨roomInFirst room, ?_⟩
      rcases roomInSecond room ofThird with ofSecond | roomThere
      · exact Or.inl ofSecond
      · exact Or.inr ⟨roomThere, ofThird⟩
  · intro either
    rcases either with ofFirst | ⟨room, ofSecond | ⟨roomThere, ofThird⟩⟩
    · exact Or.inl (Or.inl ofFirst)
    · exact Or.inl (Or.inr ⟨room, ofSecond⟩)
    · refine Or.inr ⟨?_, ofThird⟩
      intro occupied
      rcases occupied.of_merge firstOrdered secondOrdered with inFirst | inSecond
      · exact room inFirst
      · exact roomThere inSecond

end Laws

/--
The laws of merging.  Two trees have the same conflicts in either order, and if
there are none they give the same tree; merging the second one once more changes
nothing and reports the same; a tree merged into itself is that tree, without
conflicts; and three trees of which the first two or the last two have no
conflict give the same tree from either end.
-/
theorem merge_laws
    {first second third : Tree} (firstOrdered : first.Ordered) (secondOrdered : second.Ordered)
    (thirdOrdered : third.Ordered) :
    (first.merge second).conflicts = (second.merge first).conflicts ∧
    ((first.merge second).conflicts = [] →
      (first.merge second).tree = (second.merge first).tree) ∧
    (first.merge second).tree.merge second = first.merge second ∧
    first.merge first = ⟨first, []⟩ ∧
    ((first.merge second).conflicts = [] ∨ (second.merge third).conflicts = [] →
      ((first.merge second).tree.merge third).tree =
        (first.merge (second.merge third).tree).tree) := by
  refine ⟨?_, ?_, merge_merge_self firstOrdered secondOrdered, merge_self firstOrdered, ?_⟩
  · exact conflicts_merge_congr secondOrdered firstOrdered fun _ => clash_comm
  · intro noConflict
    have agree := (conflicts_merge_eq_nil_iff secondOrdered).mp noConflict
    exact agree.merge_comm firstOrdered secondOrdered
  · intro noConflict
    have neighbours : first.Agree second ∨ second.Agree third := by
      rwa [conflicts_merge_eq_nil_iff secondOrdered,
        conflicts_merge_eq_nil_iff thirdOrdered] at noConflict
    exact merge_assoc firstOrdered secondOrdered thirdOrdered neighbours

/-- A tree that agrees with `colliding` and goes on in one of its directories. -/
def continuing : Tree :=
  .directory "d" (.directory "g" (.file "h" "seven" .empty) .empty) .empty

/-- The laws at three trees, of which the first two clash and the last two agree. -/
theorem branching_merge_laws :
    branching.Ordered ∧ colliding.Ordered ∧ continuing.Ordered ∧
      (branching.merge colliding).conflicts = (colliding.merge branching).conflicts ∧
      (branching.merge colliding).tree.merge colliding = branching.merge colliding ∧
      (colliding.merge continuing).conflicts = [] ∧
      (colliding.merge continuing).tree = (continuing.merge colliding).tree ∧
      ((branching.merge colliding).tree.merge continuing).tree =
        (branching.merge (colliding.merge continuing).tree).tree := by
  have ordered : branching.Ordered := by decide +kernel
  have otherOrdered : colliding.Ordered := by decide +kernel
  have lastOrdered : continuing.Ordered := by decide +kernel
  have noConflict : (colliding.merge continuing).conflicts = [] := by decide +kernel
  obtain ⟨alike, _, again, _, fromEitherEnd⟩ := merge_laws ordered otherOrdered lastOrdered
  obtain ⟨_, inEitherOrder, _⟩ := merge_laws otherOrdered lastOrdered ordered
  exact ⟨ordered, otherOrdered, lastOrdered, alike, again, noConflict, inEitherOrder noConflict,
    fromEitherEnd (Or.inr noConflict)⟩

example :
    let first := Tree.directory "x" (.file "p" "one" .empty) .empty
    let second := Tree.file "x" "two" .empty
    let third := Tree.directory "x" (.file "z" "three" .empty) .empty
    ((first.merge second).tree.merge third).tree ≠
      (first.merge (second.merge third).tree).tree := by
  decide +kernel

end Tree

end Tangle
