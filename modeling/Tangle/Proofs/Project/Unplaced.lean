import Tangle.Proofs.Project.Pruning

namespace Tangle

/-!
# Places do not matter

What a document compiles to depends on its headings and code blocks and on
their order.  Where they stand in the text, and what stands between them, can
be seen in the places of the diagnostics and nowhere else.
-/

/-- What an element means, its place in the text aside. -/
inductive Item where
  | heading (heading : Heading)
  | code (code : CodeBlock)
  deriving Repr, DecidableEq

/-- The range of a text that stands for no place in it. -/
def Span.nowhere : Span := ⟨0, 0⟩

namespace Item

/-- An item as an element at some place. -/
def node (span : Span) : Item → Node
  | .heading title => .heading title span
  | .code block => .code block span

end Item

namespace Node

/-- What an element means; only headings and code blocks have a meaning. -/
def item? : Node → Option Item
  | .heading title _ => some (.heading title)
  | .code block _ => some (.code block)
  | .other _ => none

/-- An item that is placed means the item. -/
@[simp] theorem item?_node (span : Span) (item : Item) : (item.node span).item? = some item := by
  cases item <;> rfl

end Node

/-- The headings and code blocks of a document, their places aside. -/
def Document.items (document : Document) : List Item :=
  document.nodes.filterMap Node.item?

/-- A placed block that has forgotten where it stands in the text. -/
def PlacedBlock.unplaced (block : PlacedBlock) : PlacedBlock :=
  { block with span := .nowhere }

/-- An outline whose blocks have forgotten where they stand in the text. -/
def Outline.unplaced (outline : Outline) : Outline :=
  { outline with blocks := outline.blocks.map PlacedBlock.unplaced }

/-- A diagnostic that has forgotten what place it is about. -/
def Diagnostic.unplaced (diagnostic : Diagnostic) : Diagnostic :=
  { diagnostic with span := none }

/-- A project whose diagnostics have forgotten what places they are about. -/
def Project.unplaced (project : Project) : Project :=
  { project with diagnostics := project.diagnostics.map Diagnostic.unplaced }

/-- A compilation whose diagnostics have forgotten what places they are about. -/
def Compilation.unplaced (state : Compilation) : Compilation :=
  { state with project := state.project.unplaced }

namespace Outline

/-- But for places, the outline of elements is that of their items. -/
theorem walk_unplaced (count : Nat) (opened : List OpenHeading) (nodes : List Node) :
    (walk count opened nodes).unplaced =
      (walk count opened ((nodes.filterMap Node.item?).map (Item.node .nowhere))).unplaced := by
  induction nodes generalizing count opened with
  | nil =>
      rfl
  | cons node rest inductionHypothesis =>
      cases node with
      | heading heading span =>
          have below :=
            inductionHypothesis (count + 1)
              (⟨count, heading.depth⟩ :: stillOpen heading.depth opened)
          simp only [unplaced, mk.injEq] at below
          simp [walk, unplaced, Node.item?, Item.node, below]
      | code code span =>
          have below := inductionHypothesis count opened
          simp only [unplaced, mk.injEq] at below
          simp [walk, unplaced, Node.item?, Item.node, PlacedBlock.unplaced, below]
      | other span =>
          exact inductionHypothesis count opened

/-- Documents with the same items have the same outline, places aside. -/
theorem ofDocument_congr_items
    {first second : Document} (sameItems : first.items = second.items) :
    (ofDocument first).unplaced = (ofDocument second).unplaced := by
  rw [ofDocument, ofDocument, walk_unplaced, walk_unplaced 0 [] second.nodes]
  exact congrArg (fun items => (walk 0 [] (items.map (Item.node .nowhere))).unplaced) sameItems

/-- Whether a block is selected does not depend on where it stands in the text. -/
theorem selects_unplaced (outline : Outline) (requested : List String) (block : PlacedBlock) :
    outline.selects requested block.unplaced = outline.selects requested block :=
  rfl

end Outline

namespace Project

/-- Forgetting places leaves the tree as it is. -/
theorem tree_unplaced (project : Project) : project.unplaced.tree = project.tree :=
  rfl

/-- It leaves the startup script as it is. -/
theorem startup_unplaced (project : Project) : project.unplaced.startup = project.startup :=
  rfl

/-- It leaves the messages as they are. -/
theorem messages_unplaced (project : Project) : project.unplaced.messages = project.messages := by
  simp [unplaced, messages, Diagnostic.unplaced]

/-- Places may be forgotten before or after a diagnostic is reported. -/
theorem unplaced_report (project : Project) (diagnostic : Diagnostic) :
    (project.report diagnostic).unplaced = project.unplaced.report diagnostic.unplaced := by
  simp [unplaced, report]

/-- Reporting the same at two places is the same but for the places. -/
theorem unplaced_report_congr
    {first second : Project} (sameProject : first.unplaced = second.unplaced)
    {diagnostic other : Diagnostic} (sameDiagnostic : diagnostic.unplaced = other.unplaced) :
    (first.report diagnostic).unplaced = (second.report other).unplaced := by
  rw [unplaced_report, unplaced_report, sameProject, sameDiagnostic]

section

variable {first second : Project} {block other : PlacedBlock}
variable (sameProject : first.unplaced = second.unplaced) (sameCode : block.code = other.code)

include sameProject sameCode

/-- Writing the same contents makes the same of projects that differ in places. -/
theorem unplaced_writeFile_congr (fileId : Nat) (path : String) :
    (first.writeFile block fileId path).unplaced =
      (second.writeFile other fileId path).unplaced := by
  have sameTree : first.tree = second.tree := by
    rw [← first.tree_unplaced, sameProject, second.tree_unplaced]
  rw [writeFile, writeFile, sameTree, sameCode]
  cases second.tree.write path other.code.content with
  | error failure =>
      exact unplaced_report_congr sameProject rfl
  | ok tree =>
      exact congrArg (fun project => { project with tree := tree }) sameProject

/-- So does taking the same startup script. -/
theorem unplaced_takeStartup_congr (fileId : Nat) :
    (first.takeStartup block fileId).unplaced = (second.takeStartup other fileId).unplaced := by
  have sameStartup : first.startup = second.startup := by
    rw [← first.startup_unplaced, sameProject, second.startup_unplaced]
  rw [takeStartup, takeStartup, sameStartup, sameCode]
  cases second.startup with
  | some script =>
      exact unplaced_report_congr sameProject rfl
  | none =>
      by_cases inBash : other.code.language = some startupLanguage
      · simp only [if_pos inBash]
        exact congrArg
          (fun project => { project with startup := some other.code.content }) sameProject
      · simp only [if_neg inBash]
        exact unplaced_report_congr sameProject rfl

end

end Project

namespace Naming

/-- A name does not depend on where its block stands in the text. -/
theorem name_unplaced (naming : Naming) (outline : Outline) (block : PlacedBlock) :
    naming.name outline block.unplaced = naming.name outline block :=
  rfl

end Naming

namespace Compilation

/-- The project of a compilation without places is its project without places. -/
theorem project_unplaced (state : Compilation) : state.unplaced.project = state.project.unplaced :=
  rfl

/--
Compilations with the same naming, and the same projects but for places, are the
same but for places.
-/
theorem unplaced_congr
    {first second : Compilation} (sameProject : first.project.unplaced = second.project.unplaced)
    (sameNaming : first.naming = second.naming) :
    first.unplaced = second.unplaced := by
  rw [unplaced, unplaced, sameProject, sameNaming]

/-- Carrying out the same block at two places is the same but for the places. -/
theorem unplaced_carryOut_congr
    {first second : Compilation} (sameState : first.unplaced = second.unplaced)
    {block other : PlacedBlock} (sameBlock : block.unplaced = other.unplaced)
    (outline : Outline) (fileId : Nat) :
    (first.carryOut outline fileId block).unplaced =
      (second.carryOut outline fileId other).unplaced := by
  have sameProject : first.project.unplaced = second.project.unplaced :=
    (congrArg Compilation.project sameState :)
  have sameNaming : first.naming = second.naming := (congrArg Compilation.naming sameState :)
  have sameCode : block.code = other.code := (congrArg PlacedBlock.code sameBlock :)
  have sameName :
      second.naming.name outline block = second.naming.name outline other := by
    rw [← Naming.name_unplaced _ _ block, sameBlock, Naming.name_unplaced]
  rw [carryOut, carryOut, sameCode, sameNaming, sameName]
  cases Target.ofDetails other.code.details with
  | error unknown =>
      apply unplaced_congr
      · exact Project.unplaced_report_congr sameProject rfl
      · rfl
  | ok target =>
      cases target with
      | file path =>
          cases path with
          | some path =>
              apply unplaced_congr
              · simp only [Project.unplaced_writeFile_congr sameProject sameCode]
              · rfl
          | none =>
              apply unplaced_congr
              · simp only [Project.unplaced_writeFile_congr sameProject sameCode]
              · rfl
      | directive directive =>
          cases directive with
          | startup =>
              apply unplaced_congr
              · simp only [Project.unplaced_takeStartup_congr sameProject sameCode]
              · rfl

/-- Going through blocks that differ only in their places is the same but for the places. -/
theorem unplaced_run_congr
    {outline other : Outline} (sameHeadings : outline.headings = other.headings)
    (requested : List String) (fileId : Nat)
    {blocks others : List PlacedBlock}
    (sameBlocks : blocks.map PlacedBlock.unplaced = others.map PlacedBlock.unplaced)
    {first second : Compilation} (sameState : first.unplaced = second.unplaced) :
    (first.run outline requested fileId blocks).unplaced =
      (second.run other requested fileId others).unplaced := by
  induction blocks generalizing others first second with
  | nil =>
      have noOthers : others = [] := by simpa using sameBlocks.symm
      rw [noOthers]
      exact sameState
  | cons block rest inductionHypothesis =>
      cases others with
      | nil =>
          simp at sameBlocks
      | cons counterpart laterOthers =>
          simp only [List.map_cons, List.cons.injEq] at sameBlocks
          obtain ⟨sameBlock, sameRest⟩ := sameBlocks
          apply inductionHypothesis sameRest
          have sameSelection :
              outline.selects requested block = other.selects requested counterpart := by
            rw [← outline.selects_unplaced, sameBlock, outline.selects_unplaced,
              Outline.selects_congr_headings sameHeadings]
          rw [step, step, sameSelection]
          by_cases selected : other.selects requested counterpart = true
          · rw [if_pos selected, if_pos selected, carryOut_congr sameHeadings]
            exact unplaced_carryOut_congr sameState sameBlock other fileId
          · rw [if_neg selected, if_neg selected]
            exact sameState

end Compilation

/--
Documents with the same headings and code blocks in the same order compile to
the same tree, the same startup script and, their places aside, the same
diagnostics.
-/
theorem Document.compile_congr_items
    {first second : Document} (sameItems : first.items = second.items)
    (requested : List String) (fileId : Nat) :
    (first.compile requested fileId).unplaced = (second.compile requested fileId).unplaced := by
  have sameOutline := Outline.ofDocument_congr_items sameItems
  have sameHeadings :
      (Outline.ofDocument first).headings = (Outline.ofDocument second).headings :=
    (congrArg Outline.headings sameOutline :)
  have sameBlocks :
      (Outline.ofDocument first).blocks.map PlacedBlock.unplaced =
        (Outline.ofDocument second).blocks.map PlacedBlock.unplaced :=
    (congrArg Outline.blocks sameOutline :)
  have sameRuns :=
    Compilation.unplaced_run_congr sameHeadings requested fileId sameBlocks
      (Eq.refl Compilation.start.unplaced)
  rw [compile, compile, ← Compilation.project_unplaced, sameRuns, Compilation.project_unplaced]

end Tangle
