import Tangle.Tree
import Tangle.TreePath

namespace Tangle

/-!
# Writing a file into a tree

A write names a path as an author wrote it.  Directories on the way are made
when they are missing, and an earlier file at the same path is replaced.  A
write fails as a whole, and then changes nothing, when the path is void, when a
file stands where a directory is needed, or when a directory stands where the
file goes.
-/

/-- Why a file cannot be written. -/
inductive WriteError where
  | invalidPath
  | fileInTheWay (names : List String)
  | directoryInTheWay (names : List String)
  deriving Repr, DecidableEq

namespace WriteError

/-- The same failure seen from the directory above. -/
def under (directory : String) : WriteError → WriteError
  | .invalidPath => .invalidPath
  | .fileInTheWay names => .fileInTheWay (directory :: names)
  | .directoryInTheWay names => .directoryInTheWay (directory :: names)

/-- The wording of a failed write. -/
def message : WriteError → String
  | .invalidPath => "Invalid file path"
  | .fileInTheWay names =>
      String.intercalate "/" names ++ " has already been defined as a file"
  | .directoryInTheWay names =>
      String.intercalate "/" names ++ " has already been defined as a directory"

end WriteError

namespace Tree

/-- Write a file under `name` in the directory reached through `directories`. -/
def writeAt (name contents : String) : List String → Tree → Except WriteError Tree
  | [], tree =>
      match tree.find? name with
      | some (.directory _) => .error (.directoryInTheWay [name])
      | _ => .ok (tree.set name (.file contents))
  | folder :: deeper, tree =>
      let descend (children : Tree) : Except WriteError Tree :=
        match writeAt name contents deeper children with
        | .ok written => .ok (tree.set folder (.directory written))
        | .error failure => .error (failure.under folder)
      match tree.find? folder with
      | some (.file _) => .error (.fileInTheWay [folder])
      | some (.directory children) => descend children
      | none => descend .empty

/-- Write a file at a path as an author wrote it. -/
def write (written contents : String) (tree : Tree) : Except WriteError Tree :=
  match TreePath.sanitize? written with
  | none => .error .invalidPath
  | some path => tree.writeAt path.name contents path.directories

/-- The entry at a path as an author wrote it. -/
def get? (written : String) (tree : Tree) : Option Entry :=
  match TreePath.sanitize? written with
  | none => none
  | some path => tree.lookup? path.segments

/-- The contents of the file at a path as an author wrote it. -/
def fileAt? (written : String) (tree : Tree) : Option String :=
  match tree.get? written with
  | some (.file contents) => some contents
  | _ => none

end Tree

end Tangle
