import Tangle.Diagnostic
import Tangle.Tree.Encoding

namespace Tangle

/-!
# Projects

A project is what documents compile to: a tree of files, perhaps a startup
script, and the diagnostics met on the way.
-/

/-- The outcome of compiling documents. -/
structure Project where
  tree : Tree
  startup : Option String
  diagnostics : List Diagnostic
  deriving Repr, DecidableEq

namespace Project

/-- The project that nothing has been added to. -/
def empty : Project :=
  ⟨.empty, none, []⟩

/-- The messages of the diagnostics, in order. -/
def messages (project : Project) : List String :=
  project.diagnostics.map Diagnostic.message

/-- Whether there is any diagnostic, a warning included. -/
def hasDiagnostics (project : Project) : Bool :=
  !project.diagnostics.isEmpty

/-- Add a diagnostic after the others. -/
def report (project : Project) (diagnostic : Diagnostic) : Project :=
  { project with diagnostics := project.diagnostics ++ [diagnostic] }

/-- The JSON form of a project; a missing script and an empty list of messages are left out. -/
def toJson (project : Project) : Json :=
  let startup :=
    match project.startup with
    | none => []
    | some script => [("startup", Json.string script)]
  let errors :=
    match project.messages with
    | [] => []
    | messages => [("errors", Json.array (messages.map Json.string))]
  .object ([("filesystem", project.tree.toJson)] ++ startup ++ errors)

end Project

end Tangle
