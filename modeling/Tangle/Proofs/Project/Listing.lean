import Mathlib.Data.List.Basic
import Tangle.BlockListing
import Tangle.Proofs.Project.Outcomes

namespace Tangle

/-!
# The listing of blocks tells what compiling does

Listing the blocks of a document and compiling it are two passes with counts of
their own.  At every block both have the same counts, so the listing tells
under which path each selected block is written, which one is a startup script,
and which one is an error.
-/

namespace Naming

/-- Where a selected block goes, and the counts after it. -/
def resolve (naming : Naming) (outline : Outline) (block : PlacedBlock) : ListedTarget × Naming :=
  match Target.ofDetails block.code.details with
  | .error unknown => (.unknown unknown, naming)
  | .ok (.directive directive) => (.directive directive, naming)
  | .ok (.file (some path)) => (.file path, naming)
  | .ok (.file none) => (.file (naming.name outline block).1, (naming.name outline block).2)

/-- A block that is resolved has a target. -/
theorem resolve_ne_unnamed (naming : Naming) (outline : Outline) (block : PlacedBlock) :
    (naming.resolve outline block).1 ≠ .unnamed := by
  rw [resolve]
  split <;> simp

end Naming

namespace ListedTarget

/-- Where a block that is not selected would go; it gets no name. -/
def ofUnselected (block : PlacedBlock) : ListedTarget :=
  match Target.ofDetails block.code.details with
  | .error problem => .unknown problem
  | .ok (.directive reserved) => .directive reserved
  | .ok (.file (some path)) => .file path
  | .ok (.file none) => .unnamed

end ListedTarget

namespace ListedBlock

/-- The file that a listing shows a selected block to be written as: its path and contents. -/
def file? (listed : ListedBlock) : Option (String × String) :=
  match listed.selected, listed.target with
  | true, .file path => some (path, listed.block.code.content)
  | _, _ => none

/--
What a listing shows of a block is what the project that is being compiled goes
through at that block: nothing if the block is not selected; else a write under
the path that is shown, a startup directive, or exactly one diagnostic, which
has the message that is shown as an error.
-/
def Tells (listed : ListedBlock) (fileId : Nat) (before after : Project) : Prop :=
  match listed.selected, listed.target with
  | false, _ => after = before
  | true, .file path =>
      listed.target.display = path ∧ Project.Writes listed.block fileId path before after
  | true, .directive .startup =>
      listed.target.display = "rmsm://startup" ∧
        Project.TakesStartup listed.block fileId before after
  | true, .unknown problem =>
      listed.target.display = "error: " ++ problem.message ∧
        Project.AddsDiagnostic
          ⟨problem.message, some listed.block.span, fileId, .error, []⟩ before after
  | true, .unnamed => False

end ListedBlock

namespace Project

/-- Take a listed block as its target says. -/
def settle (fileId : Nat) (project : Project) (listed : ListedBlock) : Project :=
  match listed.target with
  | .file path => project.writeFile listed.block fileId path
  | .directive .startup => project.takeStartup listed.block fileId
  | .unknown unknown =>
      project.report ⟨unknown.message, some listed.block.span, fileId, .error, []⟩
  | .unnamed => project

variable (fileId : Nat) (project : Project) (block : PlacedBlock) (selected : Bool)

/-- A block with a path is written under it. -/
theorem settle_file (path : String) :
    project.settle fileId ⟨block, selected, .file path⟩ = project.writeFile block fileId path := by
  rw [settle]

/-- A startup block is taken as the startup script. -/
theorem settle_startup :
    project.settle fileId ⟨block, selected, .directive .startup⟩ =
      project.takeStartup block fileId := by
  rw [settle]

/-- An unknown directive is reported. -/
theorem settle_unknown (problem : UnknownDirective) :
    project.settle fileId ⟨block, selected, .unknown problem⟩ =
      project.report ⟨problem.message, some block.span, fileId, .error, []⟩ := by
  rw [settle]

end Project

namespace Outline

/-- The listing of one block, and the counts after it. -/
def listBlock
    (outline : Outline) (requested : List String) (naming : Naming) (block : PlacedBlock) :
    ListedBlock × Naming :=
  if outline.selects requested block then
    (⟨block, true, (naming.resolve outline block).1⟩, (naming.resolve outline block).2)
  else
    (⟨block, false, ListedTarget.ofUnselected block⟩, naming)

/-- A listing goes on with the counts that its first block leaves. -/
theorem listBlocks_cons
    (outline : Outline) (requested : List String) (naming : Naming)
    (block : PlacedBlock) (rest : List PlacedBlock) :
    outline.listBlocks requested naming (block :: rest) =
      (outline.listBlock requested naming block).1 ::
        outline.listBlocks requested (outline.listBlock requested naming block).2 rest := by
  rw [listBlocks, listBlock, Naming.resolve, ListedTarget.ofUnselected]
  cases selected : outline.selects requested block <;>
    cases Target.ofDetails block.code.details with
    | error unknown =>
        rfl
    | ok target =>
        match target with
        | .file (some path) => rfl
        | .file none => rfl
        | .directive reserved => rfl

@[simp] theorem listBlock_block
    (outline : Outline) (requested : List String) (naming : Naming) (block : PlacedBlock) :
    (outline.listBlock requested naming block).1.block = block := by
  rw [listBlock]
  split <;> rfl

@[simp] theorem listBlock_selected
    (outline : Outline) (requested : List String) (naming : Naming) (block : PlacedBlock) :
    (outline.listBlock requested naming block).1.selected = outline.selects requested block := by
  rw [listBlock]
  split <;> simp_all

/-- Every block is listed, in order. -/
theorem map_block_listBlocks
    (outline : Outline) (requested : List String) (naming : Naming) (blocks : List PlacedBlock) :
    (outline.listBlocks requested naming blocks).map ListedBlock.block = blocks := by
  induction blocks generalizing naming with
  | nil =>
      rfl
  | cons block rest inductionHypothesis =>
      rw [listBlocks_cons, List.map_cons, inductionHypothesis, listBlock_block]

end Outline

namespace Compilation

/-- A selected block is taken where the listing says, and the counts go on as there. -/
theorem carryOut_eq
    (state : Compilation) (outline : Outline) (fileId : Nat) (block : PlacedBlock) :
    state.carryOut outline fileId block =
      ⟨state.project.settle fileId ⟨block, true, (state.naming.resolve outline block).1⟩,
        (state.naming.resolve outline block).2⟩ := by
  rw [carryOut, Naming.resolve]
  cases Target.ofDetails block.code.details with
  | error unknown =>
      rfl
  | ok target =>
      match target with
      | .file (some path) => rfl
      | .file none => rfl
      | .directive .startup => rfl

/-- Carrying out a block settles what the naming resolves it to. -/
theorem carryOut_project
    (state : Compilation) (outline : Outline) (fileId : Nat) (block : PlacedBlock) :
    (state.carryOut outline fileId block).project =
      state.project.settle fileId ⟨block, true, (state.naming.resolve outline block).1⟩ := by
  rw [carryOut_eq]

/-- One step of compiling goes with one block of the listing. -/
theorem step_eq
    (outline : Outline) (requested : List String) (fileId : Nat)
    (state : Compilation) (block : PlacedBlock) :
    step outline requested fileId state block =
      ⟨if outline.selects requested block then
          state.project.settle fileId (outline.listBlock requested state.naming block).1
        else
          state.project,
        (outline.listBlock requested state.naming block).2⟩ := by
  rw [step, Outline.listBlock]
  by_cases selected : outline.selects requested block = true
  · simp only [selected, if_true, carryOut_eq]
  · simp only [selected]
    rfl

/-- Compiling and listing take the naming on alike. -/
theorem step_naming
    (outline : Outline) (requested : List String) (fileId : Nat)
    (state : Compilation) (block : PlacedBlock) :
    (step outline requested fileId state block).naming =
      (outline.listBlock requested state.naming block).2 := by
  rw [step_eq]

/-- A run takes one step and goes on from there. -/
theorem run_cons
    (state : Compilation) (outline : Outline) (requested : List String) (fileId : Nat)
    (block : PlacedBlock) (rest : List PlacedBlock) :
    state.run outline requested fileId (block :: rest) =
      (step outline requested fileId state block).run outline requested fileId rest :=
  rfl

/-- A run goes on from where a run over the front ends. -/
theorem run_append
    (state : Compilation) (outline : Outline) (requested : List String) (fileId : Nat)
    (first second : List PlacedBlock) :
    state.run outline requested fileId (first ++ second) =
      (state.run outline requested fileId first).run outline requested fileId second :=
  List.foldl_append

/--
The listing and the compilation are in lock-step: each block is listed with the
counts that compiling has when it comes to that block, since the listing goes on
with those that compiling has after a step.
-/
theorem getElem?_listBlocks
    (state : Compilation) (outline : Outline) (requested : List String) (fileId : Nat)
    (blocks : List PlacedBlock) (position : Nat) :
    (outline.listBlocks requested state.naming blocks)[position]? =
      blocks[position]?.map fun block =>
        (outline.listBlock requested
          (state.run outline requested fileId (blocks.take position)).naming block).1 := by
  induction blocks generalizing state position with
  | nil =>
      rfl
  | cons block rest inductionHypothesis =>
      rw [Outline.listBlocks_cons]
      cases position with
      | zero =>
          rfl
      | succ earlier =>
          rw [← step_naming outline requested fileId]
          exact inductionHypothesis _ earlier

end Compilation

namespace Project

/-- Writing a block changes the tree as a write does that is kept if it succeeds. -/
theorem writeFile_tree
    (project : Project) (block : PlacedBlock) (fileId : Nat) (path : String) :
    (project.writeFile block fileId path).tree =
      WriteRun.kept project.tree (project.tree.write path block.code.content) := by
  rw [writeFile]
  cases project.tree.write path block.code.content <;> rfl

/-- A startup script leaves the tree as it is. -/
theorem takeStartup_tree (project : Project) (block : PlacedBlock) (fileId : Nat) :
    (project.takeStartup block fileId).tree = project.tree := by
  rw [takeStartup]
  split
  · rfl
  · split <;> rfl

/-- Taking a selected listed block changes the tree by the file it is shown as, if any. -/
theorem settle_tree
    (fileId : Nat) (project : Project) {listed : ListedBlock} (selected : listed.selected = true) :
    (project.settle fileId listed).tree =
      WriteRun.final Tree.write project.tree listed.file?.toList := by
  obtain ⟨block, _, target⟩ := listed
  cases selected
  match target with
  | .file path =>
      rw [settle_file, writeFile_tree, ← WriteRun.final_singleton]
      rfl
  | .directive .startup =>
      rw [settle_startup]
      exact project.takeStartup_tree block fileId
  | .unknown _ => rfl
  | .unnamed => rfl

end Project

namespace Compilation

/-- Compiling writes the files that the listing shows for selected blocks, and no others. -/
theorem run_tree
    (state : Compilation) (outline : Outline) (requested : List String) (fileId : Nat)
    (blocks : List PlacedBlock) :
    (state.run outline requested fileId blocks).project.tree =
      WriteRun.final Tree.write state.project.tree
        ((outline.listBlocks requested state.naming blocks).filterMap ListedBlock.file?) := by
  induction blocks generalizing state with
  | nil =>
      rfl
  | cons block rest inductionHypothesis =>
      have afterStep :
          (step outline requested fileId state block).project.tree =
            WriteRun.final Tree.write state.project.tree
              (outline.listBlock requested state.naming block).1.file?.toList := by
        rw [step_eq, Outline.listBlock]
        by_cases selected : outline.selects requested block = true
        · simp only [selected, if_true]
          exact Project.settle_tree fileId state.project rfl
        · simp only [selected]
          rfl
      have later := inductionHypothesis (step outline requested fileId state block)
      rw [step_naming] at later
      simp only [List.filterMap_eq_flatMap_toList] at later ⊢
      rw [Outline.listBlocks_cons, List.flatMap_cons, WriteRun.final_append, ← afterStep]
      exact later

end Compilation

namespace Outline

/-- A selected block is listed with a target. -/
theorem listBlock_target
    (outline : Outline) (requested : List String) (naming : Naming) (block : PlacedBlock) :
    (outline.listBlock requested naming block).1.selected = true →
      (outline.listBlock requested naming block).1.target ≠ .unnamed := by
  rw [listBlock]
  split
  · intro _
    exact naming.resolve_ne_unnamed outline block
  · simp

end Outline

namespace ListedBlock

/-- Taking a block that is shown with a place to go is what the listing tells. -/
theorem tells_settle
    {listed : ListedBlock} (placed : listed.selected = true → listed.target ≠ .unnamed)
    (fileId : Nat) (project : Project) :
    listed.Tells fileId project
      (if listed.selected then project.settle fileId listed else project) := by
  obtain ⟨block, selected, target⟩ := listed
  cases selected with
  | false =>
      rfl
  | true =>
      rw [if_pos rfl]
      match target with
      | .file path =>
          rw [Project.settle_file]
          exact ⟨rfl, project.writeFile_writes block fileId path⟩
      | .directive .startup =>
          have shown : ListedTarget.display (.directive .startup) = "rmsm://startup" := by
            simp [ListedTarget.display, Directive.name]
          rw [Project.settle_startup]
          exact ⟨shown, project.takeStartup_takes block fileId⟩
      | .unknown problem =>
          rw [Project.settle_unknown]
          exact ⟨rfl, project.report_adds _⟩
      | .unnamed => exact placed rfl rfl

end ListedBlock

namespace Compilation

/-- At every block compiling does what the listing of that block tells. -/
theorem step_tells
    (outline : Outline) (requested : List String) (fileId : Nat)
    (state : Compilation) (block : PlacedBlock) :
    (outline.listBlock requested state.naming block).1.Tells fileId state.project
      (step outline requested fileId state block).project := by
  have told :=
    ListedBlock.tells_settle (outline.listBlock_target requested state.naming block) fileId
      state.project
  rw [Outline.listBlock_selected] at told
  rw [step_eq]
  exact told

/-- The state that compiling a document is in after a number of its blocks. -/
def reached (document : Document) (requested : List String) (fileId count : Nat) : Compilation :=
  start.run (Outline.ofDocument document) requested fileId
    ((Outline.ofDocument document).blocks.take count)

/-- From one block to the next compiling goes one step. -/
theorem reached_succ
    {document : Document} {position : Nat} {block : PlacedBlock}
    (isBlock : (Outline.ofDocument document).blocks[position]? = some block)
    (requested : List String) (fileId : Nat) :
    reached document requested fileId (position + 1) =
      step (Outline.ofDocument document) requested fileId
        (reached document requested fileId position) block := by
  have oneMore :
      (Outline.ofDocument document).blocks.take (position + 1) =
        (Outline.ofDocument document).blocks.take position ++ [block] := by
    rw [List.take_add_one, isBlock]
    rfl
  rw [reached, oneMore, run_append]
  rfl

/-- Behind its last block a document is compiled. -/
theorem reached_all (document : Document) (requested : List String) (fileId : Nat) :
    (reached document requested fileId (Outline.ofDocument document).blocks.length).project =
      document.compile requested fileId := by
  rw [reached, List.take_length]
  rfl

end Compilation

/-- Each block of a listing is the block at its position, listed with the counts of compiling. -/
theorem Document.exists_block_of_listing
    {document : Document} {requested : List String} {position : Nat} {listed : ListedBlock}
    (found : (document.listing requested)[position]? = some listed) (fileId : Nat) :
    ∃ block, (Outline.ofDocument document).blocks[position]? = some block ∧
      listed =
        ((Outline.ofDocument document).listBlock requested
          (Compilation.reached document requested fileId position).naming block).1 := by
  have lockStep :=
    Compilation.start.getElem?_listBlocks (Outline.ofDocument document) requested fileId
      (Outline.ofDocument document).blocks position
  obtain ⟨block, isBlock, shown⟩ := Option.map_eq_some_iff.mp (lockStep.symm.trans found)
  exact ⟨block, isBlock, shown.symm⟩

/--
The listing of the blocks of a document tells what compiling it does.  It shows
the same blocks in the same order; at each of them compiling does what is shown;
and writing the files that are shown, one after another into an empty tree,
gives the tree that compiling gives.  What is shown is told by the tree, the
script and the diagnostics in front of the block and behind it.
-/
theorem Document.listing_tells_compile
    (document : Document) (requested : List String) (fileId : Nat) :
    (document.listing requested).map ListedBlock.block = (Outline.ofDocument document).blocks ∧
      (∀ listed ∈ document.listing requested,
        listed.selected = (Outline.ofDocument document).selects requested listed.block) ∧
      (∀ (position : Nat) (listed : ListedBlock),
        (document.listing requested)[position]? = some listed →
          listed.Tells fileId (Compilation.reached document requested fileId position).project
            (Compilation.reached document requested fileId (position + 1)).project) ∧
      (Compilation.reached document requested fileId 0).project = .empty ∧
      (Compilation.reached document requested fileId (document.listing requested).length).project =
        document.compile requested fileId ∧
      (document.compile requested fileId).tree =
        Tree.ofWrites ((document.listing requested).filterMap ListedBlock.file?) := by
  have sameBlocks :
      (document.listing requested).map ListedBlock.block =
        (Outline.ofDocument document).blocks :=
    Outline.map_block_listBlocks _ requested .start _
  have sameLength :
      (document.listing requested).length = (Outline.ofDocument document).blocks.length := by
    rw [← sameBlocks, List.length_map]
  refine ⟨sameBlocks, ?_, ?_, rfl, ?_, ?_⟩
  · intro listed member
    obtain ⟨position, found⟩ := List.mem_iff_getElem?.mp member
    obtain ⟨block, _, rfl⟩ := document.exists_block_of_listing found fileId
    rw [Outline.listBlock_selected, Outline.listBlock_block]
  · intro position listed found
    obtain ⟨block, isBlock, rfl⟩ := document.exists_block_of_listing found fileId
    rw [Compilation.reached_succ isBlock]
    exact Compilation.step_tells _ requested fileId _ block
  · rw [sameLength]
    exact Compilation.reached_all document requested fileId
  · exact Compilation.start.run_tree _ requested fileId _

end Tangle
