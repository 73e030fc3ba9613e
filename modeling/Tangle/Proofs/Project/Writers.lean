import Tangle.Proofs.Project.Account
import Tangle.Proofs.Tree.Writing

namespace Tangle

/-!
# Where the files of a compilation come from

Compiling goes from block to block, and at each block it does nothing or has
one effect.  Only a block that is written changes the tree, and it changes one
file of it; so every file that was not there before has its contents from a
selected block that was written under a path leading to that file.
-/

/-- The block at a position of a document is selected and is written under a path. -/
structure Document.WritesAt
    (document : Document) (requested : List String) (fileId position : Nat)
    (block : PlacedBlock) (written : String) (target : TreePath) : Prop where
  isBlock : (Outline.ofDocument document).blocks[position]? = some block
  selected : (Outline.ofDocument document).selects requested block = true
  safe : TreePath.sanitize? written = some target
  explains :
    (Effect.written written block.code.content).Explains (Outline.ofDocument document) fileId
      block (Compilation.reached document requested fileId position)
      (Compilation.reached document requested fileId (position + 1))

namespace Document.WritesAt

variable {document : Document} {requested : List String} {fileId position : Nat}
variable {block : PlacedBlock} {written : String} {target : TreePath}

/-- The tree after a block that is written is the one before with its file. -/
theorem writeAt (writes : document.WritesAt requested fileId position block written target) :
    (Compilation.reached document requested fileId position).project.tree.writeAt target.name
        block.code.content target.directories =
      .ok (Compilation.reached document requested fileId (position + 1)).project.tree := by
  obtain ⟨_, _, adds⟩ := writes.explains
  have success := adds.written
  rw [Tree.write, writes.safe] at success
  exact success

end Document.WritesAt

namespace Compilation

variable (document : Document) (requested : List String) (fileId : Nat)

/-- From one position to the next compiling does nothing, or a selected block has its effect. -/
theorem reached_succ_cases (position : Nat) :
    reached document requested fileId (position + 1) =
        reached document requested fileId position ∨
      ∃ (block : PlacedBlock) (effect : Effect),
        (Outline.ofDocument document).blocks[position]? = some block ∧
          (Outline.ofDocument document).selects requested block = true ∧
          effect.Explains (Outline.ofDocument document) fileId block
            (reached document requested fileId position)
            (reached document requested fileId (position + 1)) := by
  cases isBlock : (Outline.ofDocument document).blocks[position]? with
  | none =>
      left
      rw [reached, List.take_add_one, isBlock, Option.toList_none, List.append_nil, reached]
  | some block =>
      rw [reached_succ isBlock, step]
      by_cases selected : (Outline.ofDocument document).selects requested block = true
      · right
        rw [if_pos selected]
        obtain ⟨effect, explains⟩ :=
          (reached document requested fileId position).exists_effect
            (Outline.ofDocument document) fileId block
        exact ⟨block, effect, rfl, selected, explains⟩
      · left
        rw [if_neg selected]

/-- From one position to the next the tree stays as it is, or a selected block is written. -/
theorem tree_reached_succ_cases (position : Nat) :
    (reached document requested fileId (position + 1)).project.tree =
        (reached document requested fileId position).project.tree ∨
      ∃ block written target, document.WritesAt requested fileId position block written target := by
  rcases reached_succ_cases document requested fileId position with
      unchanged | ⟨block, effect, isBlock, selected, explains⟩
  · left
    rw [unchanged]
  · cases effect with
    | written path contents =>
        right
        have sameContents : contents = block.code.content := explains.2.1
        rw [sameContents] at explains
        obtain ⟨target, safe, _⟩ := Tree.exists_path_of_write explains.2.2.written
        exact ⟨block, path, target, isBlock, selected, safe, explains⟩
    | startup script =>
        exact .inl explains.2.2.tree
    | reported diagnostic =>
        exact .inl explains.2.2.tree

variable {document requested fileId}

/-- A file was there before some position, or a block from that position on was written to it. -/
theorem exists_writer_of_hasFile_reached
    {first count : Nat} (before : first ≤ count) {names : List String} {contents : String}
    (file : (reached document requested fileId count).project.tree.HasFile names contents) :
    (reached document requested fileId first).project.tree.HasFile names contents ∨
      ∃ position block written target,
        first ≤ position ∧
          document.WritesAt requested fileId position block written target ∧
          names = target.segments ∧ contents = block.code.content := by
  induction before with
  | refl =>
      exact Or.inl file
  | @step position fromFirst inductionHypothesis =>
      rcases tree_reached_succ_cases document requested fileId position with
          unchanged | ⟨block, written, target, writes⟩
      · rw [unchanged] at file
        exact inductionHypothesis file
      · rcases (Tree.hasFile_writeAt writes.writeAt).mp file with
            ⟨isTarget, isContent⟩ | ⟨_, wasThere⟩
        · exact Or.inr
            ⟨position, block, written, target, fromFirst, writes, isTarget, isContent⟩
        · exact inductionHypothesis wasThere

end Compilation

/-- Every file of a document comes from a selected block that is written to its place. -/
theorem Document.exists_writer
    {document : Document} {requested : List String} {fileId : Nat} {names : List String}
    {contents : String} (file : (document.compile requested fileId).tree.HasFile names contents) :
    ∃ position block written target,
      document.WritesAt requested fileId position block written target ∧
        names = target.segments ∧ contents = block.code.content := by
  rw [← Compilation.reached_all] at file
  rcases Compilation.exists_writer_of_hasFile_reached (Nat.zero_le _) file with
      nothing | ⟨position, block, written, target, _, writes, isTarget, isContent⟩
  · have emptyAtStart :
        (Compilation.reached document requested fileId 0).project.tree = .empty := rfl
    rw [emptyAtStart] at nothing
    exact absurd nothing (Tree.not_hasFile_empty names contents)
  · exact ⟨position, block, written, target, writes, isTarget, isContent⟩

end Tangle
