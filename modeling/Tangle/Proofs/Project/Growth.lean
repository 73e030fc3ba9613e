import Tangle.Proofs.Project.Pruning
import Tangle.Proofs.Project.Writers

namespace Tangle

/-!
# Compiling more only adds

What follows in a document has no part in the headings around a block, so a
document that goes on behind another one is compiled in the same way up to
where the other one ends.  From there on every block only adds: diagnostics
come after the others, the startup script stays, and a file or a directory
stays one, though a file may be written anew.
-/

/-- A later project has all that an earlier one has; only contents of files may differ. -/
structure Project.Grows (earlier later : Project) : Prop where
  diagnostics : earlier.diagnostics <+: later.diagnostics
  startup : ∀ script, earlier.startup = some script → later.startup = some script
  files :
    ∀ names contents, earlier.tree.HasFile names contents →
      ∃ text, later.tree.HasFile names text
  directories : ∀ names, earlier.tree.HasDirectory names → later.tree.HasDirectory names

namespace Project.Grows

variable {earlier later : Project}

/-- A project grows to itself. -/
protected theorem refl (project : Project) : project.Grows project where
  diagnostics := List.prefix_refl _
  startup _ same := same
  files _ contents file := ⟨contents, file⟩
  directories _ directory := directory

/-- Growth goes on over several steps. -/
protected theorem trans
    {last : Project} (first : earlier.Grows later) (second : later.Grows last) :
    earlier.Grows last where
  diagnostics := first.diagnostics.trans second.diagnostics
  startup script same := second.startup script (first.startup script same)
  files names contents file := by
    obtain ⟨text, stillFile⟩ := first.files names contents file
    exact second.files names text stillFile
  directories names directory := second.directories names (first.directories names directory)

/-- Whatever effect a block has, the project grows by it. -/
theorem of_explains
    {effect : Effect} {outline : Outline} {fileId : Nat} {block : PlacedBlock}
    {before after : Compilation}
    (explains : effect.Explains outline fileId block before after) :
    before.project.Grows after.project := by
  cases effect with
  | written path contents =>
      obtain ⟨_, _, adds⟩ := explains
      obtain ⟨target, _, wrote⟩ := Tree.exists_path_of_write adds.written
      refine
        { diagnostics := adds.diagnostics ▸ List.prefix_refl _
          startup := fun _ same => adds.startup.trans same
          files := ?_
          directories := ?_ }
      · intro names text file
        by_cases rewritten : names = target.segments
        · exact ⟨contents, (Tree.hasFile_writeAt wrote).mpr (Or.inl ⟨rewritten, rfl⟩)⟩
        · exact ⟨text, file.writeAt wrote rewritten⟩
      · intro names directory
        exact (Tree.hasDirectory_writeAt wrote directory.ne_nil).mpr (Or.inl directory)
  | startup script =>
      obtain ⟨_, _, adds⟩ := explains
      refine
        { diagnostics := adds.diagnostics ▸ List.prefix_refl _
          startup := ?_
          files := fun _ text file => ⟨text, adds.tree ▸ file⟩
          directories := fun _ directory => adds.tree ▸ directory }
      intro earlierScript same
      rw [adds.free] at same
      contradiction
  | reported diagnostic =>
      obtain ⟨_, _, adds⟩ := explains
      exact
        { diagnostics := adds.diagnostics ▸ List.prefix_append _ _
          startup := fun _ same => adds.startup.trans same
          files := fun _ text file => ⟨text, adds.tree ▸ file⟩
          directories := fun _ directory => adds.tree ▸ directory }

end Project.Grows

namespace Compilation

/-- The project of a document grows from position to position. -/
theorem grows_reached
    (document : Document) (requested : List String) (fileId : Nat) {first count : Nat}
    (before : first ≤ count) :
    (reached document requested fileId first).project.Grows
      (reached document requested fileId count).project := by
  induction before with
  | refl =>
      exact .refl _
  | @step position _ inductionHypothesis =>
      have oneStep :
          (reached document requested fileId position).project.Grows
            (reached document requested fileId (position + 1)).project := by
        rcases reached_succ_cases document requested fileId position with
            unchanged | ⟨_, _, _, _, explains⟩
        · rw [unchanged]
          exact .refl _
        · exact .of_explains explains
      exact inductionHypothesis.trans oneStep

end Compilation

namespace Outline

/-- The headings around a block stand in front of it, so they are among those passed so far. -/
theorem lt_of_mem_ancestors
    {scope : Scope} (nested : scope.Nested) {nodes : List Node} {block : PlacedBlock}
    (isBlock : block ∈ (walkFrom scope nodes).blocks) {ancestor : Nat}
    (around : ancestor ∈ block.ancestors) :
    ancestor < scope.count + (walkFrom scope nodes).headings.length := by
  induction nodes generalizing scope with
  | nil =>
      contradiction
  | cons node rest inductionHypothesis =>
      rw [walkFrom_cons] at isBlock ⊢
      rcases List.mem_append.mp isBlock with here | later
      · obtain ⟨placed, _, rfl⟩ := Option.map_eq_some_iff.mp (Option.mem_toList.mp here)
        obtain ⟨heading, isOpen, rfl⟩ := List.mem_map.mp (List.mem_reverse.mp around)
        exact Nat.lt_add_right _ (nested.passed heading isOpen)
      · have passed := inductionHypothesis (nested.pass node) later
        have counted : (scope.pass node).count = scope.count + node.heading?.toList.length := by
          cases node <;> rfl
        rw [List.length_append, ← Nat.add_assoc, ← counted]
        exact passed

/-- The outline of a document is the front of that of a document that goes on. -/
theorem ofDocument_append (front back : List Node) :
    ∃ later : Outline,
      ofDocument ⟨front ++ back⟩ =
        ⟨(ofDocument ⟨front⟩).headings ++ later.headings,
          (ofDocument ⟨front⟩).blocks ++ later.blocks⟩ ∧
      later.blocks.map (fun block => (block.code, block.span)) =
        back.filterMap Node.placedCode? := by
  refine ⟨walkFrom (Scope.start.passAll front) back, walkFrom_append .start front back, ?_⟩
  exact walk_blocks _ _ back

variable {front back : List Node} {block : PlacedBlock}
variable (isBlock : block ∈ (ofDocument ⟨front⟩).blocks)

include isBlock

/-- The headings at the positions around a block are the same when the document goes on. -/
theorem getElem?_headings_append {ancestor : Nat} (around : ancestor ∈ block.ancestors) :
    (ofDocument ⟨front ++ back⟩).headings[ancestor]? =
      (ofDocument ⟨front⟩).headings[ancestor]? := by
  have passed : ancestor < 0 + (ofDocument ⟨front⟩).headings.length :=
    lt_of_mem_ancestors Scope.Nested.start isBlock around
  rw [Nat.zero_add] at passed
  obtain ⟨later, outline, _⟩ := ofDocument_append front back
  rw [outline]
  exact List.getElem?_append_left passed

/-- A block of the front stands under the same headings in the whole document. -/
theorem ancestors_append :
    (ofDocument ⟨front ++ back⟩).ancestors block = (ofDocument ⟨front⟩).ancestors block :=
  List.filterMap_congr fun _ around => getElem?_headings_append isBlock around

/-- And its nearest heading is the same. -/
theorem parent?_append :
    (ofDocument ⟨front ++ back⟩).parent? block = (ofDocument ⟨front⟩).parent? block := by
  rw [parent?, parent?, PlacedBlock.parent?]
  cases nearest : block.ancestors.getLast? with
  | none =>
      rfl
  | some ancestor =>
      have around : ancestor ∈ block.ancestors := List.mem_of_getLast? nearest
      simp only [Option.bind_some, getElem?_headings_append isBlock around]

end Outline

namespace Compilation

/-- A block of a document is gone on with in the same way when the document goes on. -/
theorem step_append
    {front back : List Node} {block : PlacedBlock}
    (isBlock : block ∈ (Outline.ofDocument ⟨front⟩).blocks)
    (requested : List String) (fileId : Nat) (state : Compilation) :
    step (Outline.ofDocument ⟨front ++ back⟩) requested fileId state block =
      step (Outline.ofDocument ⟨front⟩) requested fileId state block := by
  have sameSelection :
      (Outline.ofDocument ⟨front ++ back⟩).selects requested block =
        (Outline.ofDocument ⟨front⟩).selects requested block := by
    rw [Outline.selects, Outline.selects, Outline.ancestors_append isBlock]
  rw [step, step, sameSelection,
    state.carryOut_congr_parent (Outline.parent?_append isBlock) fileId]

/-- Where a document ends that another one goes on from, compiling the other has come as far. -/
theorem reached_append (front back : List Node) (requested : List String) (fileId : Nat) :
    (reached ⟨front ++ back⟩ requested fileId (Outline.ofDocument ⟨front⟩).blocks.length).project =
      (Document.mk front).compile requested fileId := by
  have blocksOfFront :
      (Outline.ofDocument ⟨front ++ back⟩).blocks.take (Outline.ofDocument ⟨front⟩).blocks.length =
        (Outline.ofDocument ⟨front⟩).blocks := by
    obtain ⟨later, outline, _⟩ := Outline.ofDocument_append front back
    rw [outline, List.take_left]
  have sameRun :
      start.run (Outline.ofDocument ⟨front ++ back⟩) requested fileId
          (Outline.ofDocument ⟨front⟩).blocks =
        start.run (Outline.ofDocument ⟨front⟩) requested fileId
          (Outline.ofDocument ⟨front⟩).blocks :=
    List.foldl_ext _ _ _ fun state _ isBlock => step_append isBlock requested fileId state
  rw [reached, blocksOfFront, sameRun]
  rfl

end Compilation

/--
Compiling a document that goes on only adds to what compiling its front gives.
The diagnostics of the front come first, its startup script stays, and every
file and every directory stays one.  Where a file has other contents than
before, they are those of a selected block of the continuation that is written
under a path that is made safe to the path of the file: where the front ends the
file has its old contents, so it was written since then.
-/
theorem Document.compile_append_grows
    (front back : List Node) (requested : List String) (fileId : Nat) :
    ((Document.mk front).compile requested fileId).Grows
        ((Document.mk (front ++ back)).compile requested fileId) ∧
      ∀ names contents text,
        ((Document.mk front).compile requested fileId).tree.HasFile names contents →
        ((Document.mk (front ++ back)).compile requested fileId).tree.HasFile names text →
        text ≠ contents →
          ∃ position block written target,
            (Document.mk (front ++ back)).WritesAt requested fileId
                ((Outline.ofDocument ⟨front⟩).blocks.length + position) block written target ∧
              (back.filterMap Node.placedCode?)[position]? = some (block.code, block.span) ∧
              target.segments = names ∧ block.code.content = text := by
  obtain ⟨later, outline, laterBlocks⟩ := Outline.ofDocument_append front back
  have goesOn :
      (Outline.ofDocument ⟨front⟩).blocks.length ≤
        (Outline.ofDocument ⟨front ++ back⟩).blocks.length := by
    rw [outline, List.length_append]
    exact Nat.le_add_right _ _
  rw [← Compilation.reached_all ⟨front ++ back⟩, ← Compilation.reached_append front back]
  refine ⟨Compilation.grows_reached _ requested fileId goesOn, ?_⟩
  intro names contents text before after differs
  rcases Compilation.exists_writer_of_hasFile_reached goesOn after with
      unchanged | ⟨place, block, written, target, behind, writes, isTarget, isContent⟩
  · exact absurd (unchanged.contents_eq before) differs
  · obtain ⟨position, rfl⟩ := Nat.exists_eq_add_of_le behind
    have inLater : later.blocks[position]? = some block := by
      have isBlock := writes.isBlock
      rw [outline, List.getElem?_append_right (Nat.le_add_right _ _),
        Nat.add_sub_cancel_left] at isBlock
      exact isBlock
    refine ⟨position, block, written, target, writes, ?_, isTarget.symm, isContent.symm⟩
    rw [← laterBlocks, List.getElem?_map, inLater]
    rfl

end Tangle
