import Tangle.Naming
import Tangle.Position
import Tangle.Selection
import Tangle.Target

namespace Tangle

/-!
# Listings of code blocks

A listing tells for every code block of a document whether it is selected, on
which line it stands, where it goes, and which headings stand above it.  Only
selected blocks use up counts for names.
-/

/-- Where a listed block goes. -/
inductive ListedTarget where
  | file (path : String)
  | unnamed
  | directive (directive : Directive)
  | unknown (error : UnknownDirective)
  deriving Repr, DecidableEq

/-- One block of a listing. -/
structure ListedBlock where
  block : PlacedBlock
  selected : Bool
  target : ListedTarget
  deriving Repr, DecidableEq

namespace ListedTarget

/-- The target as a listing shows it. -/
def display : ListedTarget → String
  | .file path => path
  | .unnamed => "(unnamed)"
  | .directive reserved => "rmsm://" ++ reserved.name
  | .unknown error => "error: " ++ error.message

end ListedTarget

/-- A number right-aligned in five columns. -/
def alignedNumber (number : Nat) : String :=
  let digits := toString number
  String.ofList (List.replicate (5 - digits.length) ' ') ++ digits

namespace Outline

/-- List blocks of an outline in order, starting from some counts for names. -/
def listBlocks (outline : Outline) (requested : List String) (naming : Naming) :
    List PlacedBlock → List ListedBlock
  | [] => []
  | block :: rest =>
      let selected := outline.selects requested block
      match Target.ofDetails block.code.details with
      | .error unknown =>
          ⟨block, selected, .unknown unknown⟩ :: outline.listBlocks requested naming rest
      | .ok (.directive directive) =>
          ⟨block, selected, .directive directive⟩ :: outline.listBlocks requested naming rest
      | .ok (.file (some path)) =>
          ⟨block, selected, .file path⟩ :: outline.listBlocks requested naming rest
      | .ok (.file none) =>
          if selected then
            let (path, after) := naming.name outline block
            ⟨block, selected, .file path⟩ :: outline.listBlocks requested after rest
          else
            ⟨block, selected, .unnamed⟩ :: outline.listBlocks requested naming rest

/-- The line of a listing for one block. -/
def listingLine (outline : Outline) (source : String) (listed : ListedBlock) : String :=
  let mark := if listed.selected then "+" else "-"
  let trail := String.intercalate " > " ((outline.ancestors listed.block).map Heading.display)
  let line := (Position.ofOffset source listed.block.span.start).line
  let place := "  " ++ mark ++ " " ++ alignedNumber line
  place ++ "  " ++ listed.target.display ++ "  [" ++ trail ++ "]"

end Outline

namespace Document

/-- The blocks of a document as a listing shows them. -/
def listing (document : Document) (requested : List String) : List ListedBlock :=
  let outline := Outline.ofDocument document
  outline.listBlocks requested .start outline.blocks

/-- The lines of a listing of a document that was read from a source. -/
def listingLines (document : Document) (source : String) (requested : List String) : List String :=
  let outline := Outline.ofDocument document
  (document.listing requested).map (outline.listingLine source)

end Document

end Tangle
