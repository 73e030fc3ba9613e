import Tangle.Main
import Tangle.Proofs.Naming.Apart
import Tangle.Proofs.Naming.Numbering
import Tangle.Proofs.Outline.Selection
import Tangle.Proofs.Project.DocumentOrder
import Tangle.Proofs.Project.Pruning
import Tangle.Proofs.TreePath.Stable
import Tangle.Proofs.Project.Writers
import Tangle.Proofs.Project.Growth
import Tangle.Proofs.Project.WellFormed
import Tangle.Proofs.Project.Addresses
import Tangle.Proofs.Project.Startup
import Tangle.Proofs.Project.Attribution
import Tangle.Proofs.Tree.Encoding
import Tangle.Proofs.Tree.ListingOrder
import Tangle.Proofs.Tree.Locality
import Tangle.Proofs.Tree.MergeLaws
import Tangle.Proofs.Project.Unplaced
import Tangle.Proofs.Markdown.Printed
import Tangle.Proofs.Markdown.PrintedBlocks
import Tangle.Proofs.Markdown.ReadBack
import Tangle.Proofs.Identifier.Slug
import Tangle.Proofs.Details
import Tangle.Proofs.Project.Units
import Tangle.Proofs.Project.ListingLines
import Tangle.Proofs.Tree.Picture
import Tangle.Proofs.Fixture.Frontmatter
import Tangle.Proofs.Fixture.Requests
import Tangle.Proofs.Fixture.Expectation
import Tangle.Proofs.Fixture.Run
import Tangle.Proofs.Markdown.Nesting
