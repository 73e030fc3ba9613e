import Tangle.Tree.Listing

namespace Tangle

/-!
# Merging trees

Two trees are united entry by entry.  Where both have an entry and the two
cannot be one, the first tree keeps its own and the place is reported.
-/

/-- A place where two trees cannot be united, by the names that lead to it. -/
inductive Conflict where
  | fileAndDirectory (names : List String)
  | divergentFile (names : List String)
  deriving Repr, DecidableEq

namespace Conflict

/-- The names that lead to a conflict. -/
def names : Conflict → List String
  | .fileAndDirectory names => names
  | .divergentFile names => names

/-- The wording of a conflict. -/
def message : Conflict → String
  | .fileAndDirectory names => pathText names ++ " is defined as both a file and a directory"
  | .divergentFile names =>
      pathText names ++ " is defined more than once with different contents"

end Conflict

/-- What merging leaves: the united tree, and the conflicts in the order of their places. -/
structure Merged where
  tree : Tree
  conflicts : List Conflict
  deriving Repr, DecidableEq

namespace Tree

/-- Unite the entries of a second tree, one after another, with those of a first at one place. -/
def mergeAt (place : List String) (mine : Tree) : Tree → Merged
  | .empty => ⟨mine, []⟩
  | .file name contents rest =>
      match mine.find? name with
      | none => mergeAt place (mine.set name (.file contents)) rest
      | some (.file present) =>
          let later := mergeAt place mine rest
          if present = contents then later
          else ⟨later.tree, .divergentFile (place ++ [name]) :: later.conflicts⟩
      | some (.directory _) =>
          let later := mergeAt place mine rest
          ⟨later.tree, .fileAndDirectory (place ++ [name]) :: later.conflicts⟩
  | .directory name children rest =>
      match mine.find? name with
      | none => mergeAt place (mine.set name (.directory children)) rest
      | some (.file _) =>
          let later := mergeAt place mine rest
          ⟨later.tree, .fileAndDirectory (place ++ [name]) :: later.conflicts⟩
      | some (.directory present) =>
          let inside := mergeAt (place ++ [name]) present children
          let later := mergeAt place (mine.set name (.directory inside.tree)) rest
          ⟨later.tree, inside.conflicts ++ later.conflicts⟩

/-- Unite a second tree with a first; the first keeps its entry wherever the two clash. -/
def merge (mine theirs : Tree) : Merged :=
  mergeAt [] mine theirs

end Tree

end Tangle
