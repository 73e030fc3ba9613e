import Tangle.Markdown.Block
import Tangle.Markdown.Gathering
import Tangle.Markdown.Inline

namespace Tangle.Markdown

/-!
# Reading a text

A text becomes blocks, the blocks become events, and the events tell of a
document.  Inside paragraphs nothing can matter to a document, so only the
headings have the events of their text.
-/

mutual

/-- The labels that a block and the blocks inside it define. -/
def labelsOfBlock : Block → List (List Char)
  | .definitions labels => labels
  | .quote _ children => labelsOfBlocks children
  | .list _ _ items => labelsOfBlocks items
  | .item _ children => labelsOfBlocks children
  | _ => []

/-- The labels that blocks and the blocks inside them define. -/
def labelsOfBlocks : List Block → List (List Char)
  | [] => []
  | block :: rest => labelsOfBlock block ++ labelsOfBlocks rest

end

/-- The events of an element around others, all placed where the element stands. -/
def placed (span : Span) (element : Element) (inside : List Event) : List PlacedEvent :=
  (wrap element inside).map (⟨·, span⟩)

/-- The events of an element around events with places of their own. -/
def around (span : Span) (element : Element) (inside : List PlacedEvent) : List PlacedEvent :=
  ⟨.enter element, span⟩ :: (inside ++ [⟨.leave element, span⟩])

/-- The events of a code block: one text for every line. -/
def codeEvents (span : Span) (info : Option (List Char)) (lines : List (List Char)) :
    List PlacedEvent :=
  placed span (.codeBlock (info.map (fun text => String.ofList (Text.resolve text))))
    (lines.map Piece.textEvent)

mutual

/-- The events of a block; paragraphs directly in a tight list are no elements of their own. -/
def blockEvents (labels : List (List Char)) (tight : Bool) : Block → List PlacedEvent
  | .paragraph span => if tight then [] else placed span .paragraph []
  | .heading span depth content => placed span (.heading depth) (inlineEvents labels content)
  | .code span info lines => codeEvents span info lines
  | .markup span => placed span .markupBlock []
  | .rule span => [⟨.rule, span⟩]
  | .quote span children => around span .quote (blocksEvents labels false children)
  | .list span tightList items => around span .list (blocksEvents labels tightList items)
  | .item span children => around span .item (blocksEvents labels tight children)
  | .definitions _ => []

/-- The events of blocks in order. -/
def blocksEvents (labels : List (List Char)) (tight : Bool) : List Block → List PlacedEvent
  | [] => []
  | block :: rest => blockEvents labels tight block ++ blocksEvents labels tight rest

end

/-- The events of a source. -/
def eventsOfSource (source : String) : List PlacedEvent :=
  let blocks := Block.ofLines (Line.ofSource source.toList)
  blocksEvents (labelsOfBlocks blocks) false blocks

/-- Read a source as a document. -/
def read (source : String) : Document :=
  documentOfEvents (eventsOfSource source)

end Tangle.Markdown
