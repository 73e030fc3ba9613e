import Tangle.Proofs.Outline.Scope
import Tangle.Selection

namespace Tangle

/-!
# Selection by position

The headings around a code block are those in scope where it stands, outermost
first.  So whether a block is selected can be told from its own identifier and
from the places of the headings before it.
-/

namespace Scope

variable (document : Document) (place : Nat)

/-- The ancestors of a place are the headings in whose scope it lies. -/
theorem mem_ancestors_reached_iff {ancestor : Nat} :
    ancestor ∈ (reached document place).ancestors ↔
      ∃ position heading, document.InScope position heading place ∧
        ancestor = document.headingsBefore position := by
  rw [ancestors, List.mem_reverse, List.mem_map]
  constructor
  · rintro ⟨opened, member, rfl⟩
    obtain ⟨position, heading, inScope, rfl⟩ := mem_opened_reached_iff.mp member
    exact ⟨position, heading, inScope, rfl⟩
  · rintro ⟨position, heading, inScope, rfl⟩
    exact ⟨_, mem_opened_reached_iff.mpr ⟨position, heading, inScope, rfl⟩, rfl⟩

/-- They come in the order of the document. -/
theorem ancestors_reached_pairwise : (reached document place).ancestors.Pairwise (· < ·) := by
  rw [ancestors, List.pairwise_reverse, List.pairwise_map]
  exact (nested_reached document place).inwards.imp And.left

/-- The heading of the outline that an open heading is. -/
theorem exists_heading_of_mem_opened
    {opened : OpenHeading} (member : opened ∈ (reached document place).opened) :
    ∃ heading, (Outline.ofDocument document).headings[opened.position]? = some heading ∧
      heading.depth = opened.depth := by
  obtain ⟨position, heading, inScope, rfl⟩ := mem_opened_reached_iff.mp member
  exact ⟨heading, Document.getElem?_headings_ofDocument inScope.isHeading, rfl⟩

/-- And each is deeper than those before it. -/
theorem headings_of_ancestors_pairwise :
    ((reached document place).ancestors.filterMap
      ((Outline.ofDocument document).headings[·]?)).Pairwise
        (fun outer inner => outer.depth < inner.depth) := by
  rw [ancestors, List.filterMap_reverse, List.pairwise_reverse, List.filterMap_map,
    List.pairwise_filterMap]
  apply (nested_reached document place).inwards.imp_of_mem
  intro nearer farther nearerOpen fartherOpen inwards inner innerIs outer outerIs
  obtain ⟨nearerHeading, nearerFound, nearerDepth⟩ :=
    exists_heading_of_mem_opened document place nearerOpen
  obtain ⟨fartherHeading, fartherFound, fartherDepth⟩ :=
    exists_heading_of_mem_opened document place fartherOpen
  cases nearerFound.symm.trans innerIs
  cases fartherFound.symm.trans outerIs
  have deeper := inwards.2
  omega

end Scope

namespace Outline

/-- The headings around a block that is placed under the headings in scope are these headings. -/
theorem mem_ancestors_iff
    {document : Document} {place : Nat} {block : PlacedBlock}
    (placed : block.ancestors = (Scope.reached document place).ancestors) {heading : Heading} :
    heading ∈ (ofDocument document).ancestors block ↔
      ∃ position, document.InScope position heading place := by
  rw [ancestors, placed, List.mem_filterMap]
  constructor
  · rintro ⟨ancestor, member, found⟩
    obtain ⟨position, title, inScope, rfl⟩ :=
      (Scope.mem_ancestors_reached_iff document place).mp member
    rw [Document.getElem?_headings_ofDocument inScope.isHeading] at found
    cases found
    exact ⟨position, inScope⟩
  · rintro ⟨position, inScope⟩
    have member := (Scope.mem_ancestors_reached_iff document place).mpr
      ⟨position, heading, inScope, rfl⟩
    exact ⟨_, member, Document.getElem?_headings_ofDocument inScope.isHeading⟩

/-- An identifier is requested if it is listed and not empty. -/
theorem isRequested_iff {requested : List String} {identifier : String} :
    isRequested requested identifier = true ↔ identifier ∈ requested ∧ identifier ≠ "" := by
  simp [isRequested, and_comm]

/-- A block is selected if nothing is requested, or its own identifier, or that of a heading. -/
theorem selects_iff {outline : Outline} {requested : List String} {block : PlacedBlock} :
    outline.selects requested block = true ↔
      requested = [] ∨
        ∃ identifier ∈ requested, identifier ≠ "" ∧
          (block.code.identifier? = some identifier ∨
            ∃ heading ∈ outline.ancestors block, heading.identifier? = some identifier) := by
  have someRequested :
      ∀ given : Option String,
        given.any (isRequested requested) = true ↔
          ∃ identifier ∈ requested, identifier ≠ "" ∧ given = some identifier := by
    intro given
    cases given with
    | none =>
        simp
    | some identifier =>
        rw [Option.any_some, isRequested_iff]
        constructor
        · rintro ⟨member, notEmpty⟩
          exact ⟨identifier, member, notEmpty, rfl⟩
        · rintro ⟨_, member, notEmpty, ⟨⟩⟩
          exact ⟨member, notEmpty⟩
  rw [selects, Bool.or_eq_true, Bool.or_eq_true, List.isEmpty_iff, someRequested, List.any_eq_true,
    or_assoc]
  simp only [someRequested]
  apply or_congr_right
  constructor
  · rintro (⟨identifier, member, notEmpty, own⟩ |
      ⟨heading, isAncestor, identifier, member, notEmpty, slug⟩)
    · exact ⟨identifier, member, notEmpty, Or.inl own⟩
    · exact ⟨identifier, member, notEmpty, Or.inr ⟨heading, isAncestor, slug⟩⟩
  · rintro ⟨identifier, member, notEmpty, own | ⟨heading, isAncestor, slug⟩⟩
    · exact Or.inl ⟨identifier, member, notEmpty, own⟩
    · exact Or.inr ⟨heading, isAncestor, identifier, member, notEmpty, slug⟩

end Outline

/--
The outline of a document has its headings and its code blocks in their order,
and places each block by position: a heading is around it exactly when it
stands before it and only deeper headings stand between.  The headings around a
block stand in order and grow deeper, the last of them is its nearest one, and
they and its own identifier decide whether it is selected.
-/
theorem Document.outline_by_position (document : Document) :
    (Outline.ofDocument document).headings = document.nodes.filterMap Node.heading? ∧
    (Outline.ofDocument document).blocks.map (fun block => (block.code, block.span)) =
      document.nodes.filterMap Node.placedCode? ∧
    ∀ (place : Nat) (code : CodeBlock) (span : Span),
      document.nodes[place]? = some (.code code span) →
      ∃ block,
        (Outline.ofDocument document).blocks[document.blocksBefore place]? = some block ∧
        block.code = code ∧ block.span = span ∧
        (∀ position heading, document.headingAt? position = some heading →
          (Outline.ofDocument document).headings[document.headingsBefore position]? =
              some heading ∧
            (document.headingsBefore position ∈ block.ancestors ↔
              position < place ∧
                ∀ between, position < between → between < place →
                  ∀ other, document.headingAt? between = some other →
                    ¬ other.depth ≤ heading.depth)) ∧
        block.ancestors.Pairwise (· < ·) ∧
        ((Outline.ofDocument document).ancestors block).Pairwise
          (fun outer inner => outer.depth < inner.depth) ∧
        (∀ ancestor ∈ block.ancestors,
          ancestor < (Outline.ofDocument document).headings.length) ∧
        block.parent? = block.ancestors.getLast? ∧
        ∀ requested,
          (Outline.ofDocument document).selects requested block = true ↔
            requested = [] ∨
              ∃ identifier ∈ requested, identifier ≠ "" ∧
                (code.identifier? = some identifier ∨
                  ∃ position heading, document.InScope position heading place ∧
                    heading.identifier? = some identifier) := by
  refine ⟨Outline.walk_headings 0 [] document.nodes, Outline.walk_blocks 0 [] document.nodes, ?_⟩
  intro place code span isCode
  let block : PlacedBlock := ⟨code, (Scope.reached document place).ancestors, span⟩
  have slugAround :
      ∀ identifier,
        (∃ heading ∈ (Outline.ofDocument document).ancestors block,
          heading.identifier? = some identifier) ↔
          ∃ position heading, document.InScope position heading place ∧
            heading.identifier? = some identifier := by
    intro identifier
    constructor
    · intro above
      obtain ⟨heading, isAncestor, slug⟩ := above
      obtain ⟨position, inScope⟩ := (Outline.mem_ancestors_iff rfl).mp isAncestor
      exact ⟨position, heading, inScope, slug⟩
    · intro above
      obtain ⟨position, heading, inScope, slug⟩ := above
      exact ⟨heading, (Outline.mem_ancestors_iff rfl).mpr ⟨position, inScope⟩, slug⟩
  refine ⟨block, Outline.getElem?_blocks_ofDocument isCode, rfl, rfl, ?_,
    Scope.ancestors_reached_pairwise document place,
    Scope.headings_of_ancestors_pairwise document place, ?_, rfl, ?_⟩
  · intro position heading isHeading
    refine ⟨getElem?_headings_ofDocument isHeading, ?_⟩
    constructor
    · intro member
      obtain ⟨other, title, inScope, sameCount⟩ :=
        (Scope.mem_ancestors_reached_iff document place).mp member
      cases headingsBefore_injective isHeading inScope.isHeading sameCount
      cases isHeading.symm.trans inScope.isHeading
      exact ⟨inScope.before, inScope.onlyDeeper⟩
    · rintro ⟨before, onlyDeeper⟩
      exact (Scope.mem_ancestors_reached_iff document place).mpr
        ⟨position, heading, ⟨isHeading, before, onlyDeeper⟩, rfl⟩
  · intro ancestor member
    obtain ⟨position, heading, inScope, rfl⟩ :=
      (Scope.mem_ancestors_reached_iff document place).mp member
    have found := getElem?_headings_ofDocument inScope.isHeading
    exact (List.getElem?_eq_some_iff.mp found).1
  · intro requested
    rw [Outline.selects_iff]
    simp only [slugAround, block]

example :
    let heading := fun depth => Node.heading ⟨depth, some "title"⟩ ⟨0, 1⟩
    let code := Node.code ⟨none, none, "text"⟩ ⟨2, 3⟩
    let document : Document := ⟨[heading 1, heading 3, heading 2, code, heading 2, heading 6, code]⟩
    (Outline.ofDocument document).blocks.map PlacedBlock.ancestors = [[0, 2], [0, 3, 4]] := by
  decide

end Tangle
