import Tangle.Document

namespace Tangle

/-!
# Outlines

An outline places every code block of a document under the headings in whose
scope it stands.  A heading is in scope until another of the same or a smaller
depth follows it, so the headings in scope grow strictly deeper inwards.
-/

/-- A code block with the positions of the headings around it, outermost first. -/
structure PlacedBlock where
  code : CodeBlock
  ancestors : List Nat
  span : Span
  deriving Repr, DecidableEq

/-- All headings of a document, and all its code blocks placed under them. -/
structure Outline where
  headings : List Heading
  blocks : List PlacedBlock
  deriving Repr, DecidableEq

/-- A heading that is still in scope: its position among the headings and its depth. -/
structure OpenHeading where
  position : Nat
  depth : Nat
  deriving Repr, DecidableEq

namespace PlacedBlock

/-- The position of the nearest heading around a block. -/
def parent? (block : PlacedBlock) : Option Nat :=
  block.ancestors.getLast?

end PlacedBlock

namespace Outline

/-- The headings that stay in scope when one of some depth follows, nearest first. -/
def stillOpen (depth : Nat) (opened : List OpenHeading) : List OpenHeading :=
  opened.dropWhile (fun heading => depth ≤ heading.depth)

/-- The outline of the nodes that follow `count` headings, of which some are still open. -/
def walk (count : Nat) (opened : List OpenHeading) : List Node → Outline
  | [] => ⟨[], []⟩
  | .heading heading _ :: rest =>
      let below := walk (count + 1) (⟨count, heading.depth⟩ :: stillOpen heading.depth opened) rest
      ⟨heading :: below.headings, below.blocks⟩
  | .code code span :: rest =>
      let below := walk count opened rest
      ⟨below.headings, ⟨code, (opened.map OpenHeading.position).reverse, span⟩ :: below.blocks⟩
  | .other _ :: rest => walk count opened rest

/-- The outline of a document. -/
def ofDocument (document : Document) : Outline :=
  walk 0 [] document.nodes

/-- The headings around a block, outermost first. -/
def ancestors (outline : Outline) (block : PlacedBlock) : List Heading :=
  block.ancestors.filterMap (outline.headings[·]?)

/-- The nearest heading around a block with its position. -/
def parent? (outline : Outline) (block : PlacedBlock) : Option (Nat × Heading) :=
  block.parent?.bind (fun position => outline.headings[position]?.map (position, ·))

end Outline

end Tangle
