import Tangle.Project.Compile
import Tangle.Tree.Merge

namespace Tangle

/-!
# Merging projects

The projects of several documents become one.  Their trees are united in
order, their scripts follow one another, and the diagnostics of each project
are followed by the conflicts that its tree brought in.
-/

/-- Projects united so far, with their scripts still apart. -/
structure Collection where
  tree : Tree
  scripts : List String
  diagnostics : List Diagnostic
  deriving Repr, DecidableEq

namespace Conflict

/-- The diagnostic of a conflict that the document with a number brought in. -/
def diagnostic (fileId : Nat) (conflict : Conflict) : Diagnostic :=
  ⟨conflict.message, none, fileId, .error, []⟩

end Conflict

namespace Collection

/-- The collection without any project. -/
def empty : Collection :=
  ⟨.empty, [], []⟩

/-- Add the project of the document with a number. -/
def add (collection : Collection) (project : Project) (fileId : Nat) : Collection :=
  let merged := collection.tree.merge project.tree
  { tree := merged.tree
    scripts := collection.scripts ++ project.startup.toList
    diagnostics :=
      collection.diagnostics ++ project.diagnostics ++
        merged.conflicts.map (Conflict.diagnostic fileId) }

/-- All scripts as one, a line feed between each two; none if there are none. -/
def startup (collection : Collection) : Option String :=
  match collection.scripts with
  | [] => none
  | scripts => some (String.intercalate "\n" scripts)

/-- The collection as one project. -/
def finish (collection : Collection) : Project :=
  ⟨collection.tree, collection.startup, collection.diagnostics⟩

/-- Add projects in order, the first of them under a number and the others counting up. -/
def addAll (collection : Collection) (first : Nat) : List Project → Collection
  | [] => collection
  | project :: rest => (collection.add project first).addAll (first + 1) rest

end Collection

namespace Project

/-- Compile documents, numbered from some number on. -/
def compileEach (requested : List String) (first : Nat) : List Document → List Project
  | [] => []
  | document :: rest =>
      document.compile requested first :: compileEach requested (first + 1) rest

/-- Compile several documents with the same requested identifiers and unite them in order. -/
def ofDocuments (documents : List Document) (requested : List String) : Project :=
  (Collection.empty.addAll 0 (compileEach requested 0 documents)).finish

end Project

end Tangle
