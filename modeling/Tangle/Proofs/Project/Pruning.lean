import Tangle.Project.Compile
import Tangle.Proofs.Outline.Scope

namespace Tangle

/-!
# Selecting is the same as deleting

A code block that is not selected could as well not stand in its document.
Deleting such blocks leaves the headings, so the other blocks stay under the
headings that they had and keep their names; with only them left, nothing needs
to be requested.
-/

namespace Document

/--
The elements left of some nodes when only headings stay and the code blocks
that `keeps` says.  The placed blocks are those of the code blocks among the
nodes, in the same order.
-/
def keptNodes (keeps : PlacedBlock → Bool) : List Node → List PlacedBlock → List Node
  | [], _ => []
  | .heading heading span :: rest, blocks =>
      .heading heading span :: keptNodes keeps rest blocks
  | .other _ :: rest, blocks =>
      keptNodes keeps rest blocks
  | .code code span :: rest, block :: blocks =>
      if keeps block then .code code span :: keptNodes keeps rest blocks
      else keptNodes keeps rest blocks
  | .code _ _ :: rest, [] =>
      keptNodes keeps rest []

/-- A document with its headings and the code blocks that are selected in it, and nothing else. -/
def prune (document : Document) (requested : List String) : Document :=
  ⟨keptNodes ((Outline.ofDocument document).selects requested) document.nodes
    (Outline.ofDocument document).blocks⟩

end Document

namespace Outline

/--
What is left of some elements has the same headings, and the blocks that are
kept.  Neither the scope nor the outline takes notice of what is no heading and
no block.
-/
theorem walkFrom_keptNodes (keeps : PlacedBlock → Bool) (scope : Scope) (nodes : List Node) :
    walkFrom scope (Document.keptNodes keeps nodes (walkFrom scope nodes).blocks) =
      ⟨(walkFrom scope nodes).headings, (walkFrom scope nodes).blocks.filter keeps⟩ := by
  induction nodes generalizing scope with
  | nil =>
      rfl
  | cons node rest inductionHypothesis =>
      have later := inductionHypothesis (scope.pass node)
      rw [walkFrom_cons]
      cases node with
      | heading heading span =>
          simp only [Node.heading?, Node.placedCode?, Option.toList, Option.map_none,
            List.nil_append, Document.keptNodes]
          rw [walkFrom_cons, later]
          rfl
      | other span =>
          exact later
      | code code span =>
          simp only [Node.heading?, Node.placedCode?, Option.toList, Option.map_some,
            List.nil_append, List.singleton_append, Document.keptNodes]
          by_cases kept : keeps ⟨code, scope.ancestors, span⟩ = true
          · rw [if_pos kept, List.filter_cons_of_pos kept, walkFrom_cons, later]
            rfl
          · rw [if_neg kept, List.filter_cons_of_neg kept]
            exact later

/-- The outline of what is left has all headings and the selected blocks. -/
theorem ofDocument_prune (document : Document) (requested : List String) :
    ofDocument (document.prune requested) =
      ⟨(ofDocument document).headings,
        (ofDocument document).blocks.filter ((ofDocument document).selects requested)⟩ :=
  walkFrom_keptNodes ((ofDocument document).selects requested) .start document.nodes

/-- Of an outline only the headings tell whether a block is selected. -/
theorem selects_congr_headings
    {outline other : Outline} (sameHeadings : outline.headings = other.headings)
    (requested : List String) (block : PlacedBlock) :
    outline.selects requested block = other.selects requested block := by
  rw [selects, selects, ancestors, ancestors, sameHeadings]

end Outline

/-- Of an outline a name depends only on the nearest heading around its block. -/
theorem Naming.name_congr_parent
    {outline other : Outline} {block : PlacedBlock}
    (sameParent : outline.parent? block = other.parent? block) (naming : Naming) :
    naming.name outline block = naming.name other block := by
  rw [name, name, sameParent]

namespace Compilation

/-- A block is carried out alike in outlines that give it the same heading. -/
theorem carryOut_congr_parent
    {outline other : Outline} {block : PlacedBlock}
    (sameParent : outline.parent? block = other.parent? block)
    (state : Compilation) (fileId : Nat) :
    state.carryOut outline fileId block = state.carryOut other fileId block := by
  rw [carryOut, carryOut, Naming.name_congr_parent sameParent]

/-- So it is in outlines with the same headings. -/
theorem carryOut_congr
    {outline other : Outline} (sameHeadings : outline.headings = other.headings)
    (state : Compilation) (fileId : Nat) (block : PlacedBlock) :
    state.carryOut outline fileId block = state.carryOut other fileId block := by
  have sameParent : outline.parent? block = other.parent? block := by
    rw [Outline.parent?, Outline.parent?, sameHeadings]
  exact state.carryOut_congr_parent sameParent fileId

/-- Going through blocks means carrying out those that are selected. -/
theorem run_eq_foldl_selected
    (state : Compilation) (outline : Outline) (requested : List String) (fileId : Nat)
    (blocks : List PlacedBlock) :
    state.run outline requested fileId blocks =
      (blocks.filter (outline.selects requested)).foldl
        (fun before block => before.carryOut outline fileId block) state := by
  rw [List.foldl_filter]
  rfl

end Compilation

/--
Compiling with requested identifiers is compiling all of what is left when the
code blocks that are not selected, and the elements without meaning, are
deleted: the tree, the startup script and every diagnostic are the same.
-/
theorem Document.compile_prune
    (document : Document) (requested : List String) (fileId : Nat) :
    (document.prune requested).compile [] fileId = document.compile requested fileId := by
  have outlineLeft := Outline.ofDocument_prune document requested
  have sameHeadings :
      (Outline.ofDocument (document.prune requested)).headings =
        (Outline.ofDocument document).headings := by
    rw [outlineLeft]
  have allSelected :
      (Outline.ofDocument (document.prune requested)).blocks.filter
          ((Outline.ofDocument (document.prune requested)).selects []) =
        (Outline.ofDocument (document.prune requested)).blocks := by
    apply List.filter_eq_self.mpr
    intro block _
    simp [Outline.selects]
  have sameSteps :
      (fun (before : Compilation) (block : PlacedBlock) =>
          before.carryOut (Outline.ofDocument (document.prune requested)) fileId block) =
        fun before block => before.carryOut (Outline.ofDocument document) fileId block := by
    funext before block
    exact before.carryOut_congr sameHeadings fileId block
  have sameRuns :
      Compilation.start.run (Outline.ofDocument (document.prune requested)) [] fileId
          (Outline.ofDocument (document.prune requested)).blocks =
        Compilation.start.run (Outline.ofDocument document) requested fileId
          (Outline.ofDocument document).blocks := by
    rw [Compilation.run_eq_foldl_selected, Compilation.run_eq_foldl_selected, allSelected,
      sameSteps, outlineLeft]
  exact congrArg Compilation.project sameRuns

end Tangle
