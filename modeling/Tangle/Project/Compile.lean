import Tangle.Naming
import Tangle.Project
import Tangle.Selection
import Tangle.Target
import Tangle.Tree.Write

namespace Tangle

/-!
# Compiling a document

The selected code blocks of a document are gone through once, in order.  Each
one is written as a file, becomes the startup script, or is reported.
-/

/-- The language of startup scripts. -/
def startupLanguage : String := "bash"

/-- A compilation under way: the project so far and the counts for names. -/
structure Compilation where
  project : Project
  naming : Naming

namespace Project

/-- Write a block as a file; a failed write is reported with the path it was meant for. -/
def writeFile
    (project : Project) (block : PlacedBlock) (fileId : Nat) (path : String) : Project :=
  match project.tree.write path block.code.content with
  | .ok tree => { project with tree := tree }
  | .error failure =>
      project.report
        ⟨failure.message, some block.span, fileId, .error,
          ["while writing \x60" ++ path ++ "\x60"]⟩

/--
Take a block as the startup script.  Only the first one in the right language
counts: later ones draw a warning, earlier ones in another language an error.
-/
def takeStartup (project : Project) (block : PlacedBlock) (fileId : Nat) : Project :=
  match project.startup with
  | some _ =>
      project.report
        ⟨"Multiple startup blocks provided, using the first one", some block.span, fileId,
          .warning, []⟩
  | none =>
      if block.code.language = some startupLanguage then
        { project with startup := some block.code.content }
      else
        project.report
          ⟨"Startup blocks must be bash scripts", some block.span, fileId, .error,
            ["found language: " ++ block.code.language.getD "(none)"]⟩

end Project

namespace Compilation

/-- The state before the first block of a document. -/
def start : Compilation :=
  ⟨.empty, .start⟩

/-- Carry out the target of a selected block. -/
def carryOut
    (state : Compilation) (outline : Outline) (fileId : Nat) (block : PlacedBlock) :
    Compilation :=
  match Target.ofDetails block.code.details with
  | .error unknown =>
      { state with
        project := state.project.report
          ⟨unknown.message, some block.span, fileId, .error, []⟩ }
  | .ok (.file (some path)) =>
      { state with project := state.project.writeFile block fileId path }
  | .ok (.file none) =>
      let (path, naming) := state.naming.name outline block
      ⟨state.project.writeFile block fileId path, naming⟩
  | .ok (.directive .startup) =>
      { state with project := state.project.takeStartup block fileId }

/-- Go on with one block of the outline, which counts only if it is selected. -/
def step
    (outline : Outline) (requested : List String) (fileId : Nat)
    (state : Compilation) (block : PlacedBlock) : Compilation :=
  if outline.selects requested block then state.carryOut outline fileId block else state

/-- Go through blocks of an outline in order. -/
def run
    (state : Compilation) (outline : Outline) (requested : List String) (fileId : Nat)
    (blocks : List PlacedBlock) : Compilation :=
  blocks.foldl (step outline requested fileId) state

end Compilation

namespace Document

/-- Compile a document, which is known by a number, with the requested identifiers. -/
def compile (document : Document) (requested : List String) (fileId : Nat) : Project :=
  let outline := Outline.ofDocument document
  (Compilation.start.run outline requested fileId outline.blocks).project

end Document

end Tangle
