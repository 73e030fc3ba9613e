import Tangle.Tree

namespace Tangle

/-!
# Listings of a tree

Two views of a whole tree: the list of its files with their paths, and an
indented picture that shows names only.
-/

/-- A path extended by one more name; at the root the name stands alone. -/
def extendPath (path name : String) : String :=
  if path = "" then name else path ++ "/" ++ name

/-- The text of the place reached from the root by some names. -/
def pathText (names : List String) : String :=
  names.foldl extendPath ""

namespace Tree

/-- Every file below a place with the names that lead to it, in order. -/
def leaves (place : List String) : Tree → List (List String × String)
  | .empty => []
  | .file name contents rest => (place ++ [name], contents) :: leaves place rest
  | .directory name children rest =>
      leaves (place ++ [name]) children ++ leaves place rest

/-- Every file of a tree as path and contents, in the order of the entries. -/
def files (tree : Tree) : List (String × String) :=
  (tree.leaves []).map (fun leaf => (pathText leaf.1, leaf.2))

/-- The blanks in front of an entry at a nesting level. -/
def margin (level : Nat) : String :=
  String.ofList (List.replicate (2 * level) ' ')

/-- The picture of the entries that stand at a nesting level, one line each. -/
def renderAt (level : Nat) : Tree → String
  | .empty => ""
  | .file name _ rest => margin level ++ name ++ "\n" ++ renderAt level rest
  | .directory name children rest =>
      margin level ++ name ++ "/\n" ++ renderAt (level + 1) children ++ renderAt level rest

/-- The indented picture of a tree; the names of directories end in a slash. -/
def render (tree : Tree) : String :=
  tree.renderAt 0

end Tree

end Tangle
