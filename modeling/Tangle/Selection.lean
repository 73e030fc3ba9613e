import Tangle.Identifier
import Tangle.Outline

namespace Tangle

/-!
# Selection of code blocks

Without requested identifiers every code block is selected.  Otherwise a block
is selected by its own identifier or by that of any heading around it; the
empty identifier selects nothing.
-/

/-- Whether an identifier is among the requested ones. -/
def isRequested (requested : List String) (identifier : String) : Bool :=
  identifier != "" && requested.contains identifier

namespace Outline

/-- Whether a block of an outline is selected by the requested identifiers. -/
def selects (outline : Outline) (requested : List String) (block : PlacedBlock) : Bool :=
  requested.isEmpty ||
    block.code.identifier?.any (isRequested requested) ||
    (outline.ancestors block).any (fun heading => heading.identifier?.any (isRequested requested))

end Outline

end Tangle
