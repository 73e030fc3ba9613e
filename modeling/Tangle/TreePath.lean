import Tangle.Text.Blank

namespace Tangle

/-!
# Paths inside a tree

A path as an author writes it is made safe before anything is written to it:
it is taken from the root of the tree, and it has no empty or redundant part.
`TreePath.sanitize?` reads such a path and `TreePath.text` writes it.
-/

/-- A path below the root of a tree: directories, outermost first, and a last name. -/
structure TreePath where
  directories : List String
  name : String
  deriving Repr, DecidableEq

namespace TreePath

/-- The characters that runs at either end of a written path may consist of. -/
def isEdge (character : Char) : Bool :=
  character == '.' || character == '/'

/-- Whether a part of a written path names something: it is neither empty nor a single dot. -/
def isNaming (part : List Char) : Bool :=
  !(part.isEmpty || part == ['.'])

/-- The names left of a written path, in order. -/
def names (written : List Char) : List (List Char) :=
  (((Text.trimWhere isEdge written).splitOnP (· == '/')).map (Text.trimWhere Text.isBlank)).filter
    isNaming

/-- The path with the given names, unless there is none. -/
def ofNames? (segments : List String) : Option TreePath :=
  match segments.getLast? with
  | none => none
  | some name => some ⟨segments.dropLast, name⟩

/--
Read a written path.  Runs of dots and slashes at both ends are dropped, every
part between slashes is trimmed, and parts that are empty or a single dot are
left out.  Nothing is returned when no part remains.
-/
def sanitize? (written : String) : Option TreePath :=
  ofNames? ((names written.toList).map String.ofList)

/-- All names of a path, outermost first. -/
def segments (path : TreePath) : List String :=
  path.directories ++ [path.name]

/-- The names of a path joined by slashes. -/
def text (path : TreePath) : String :=
  String.intercalate "/" path.segments

/-- A path has segments. -/
theorem segments_ne_nil (path : TreePath) : path.segments ≠ [] := by
  simp [segments]

/-- Reading names into a path and listing them again gives the same names. -/
theorem segments_of_ofNames?
    {given : List String} {path : TreePath} (read : ofNames? given = some path) :
    path.segments = given := by
  unfold ofNames? at read
  split at read
  · contradiction
  · rename_i name last
    cases read
    have nonempty : given ≠ [] := by
      intro empty
      simp [empty] at last
    rw [List.getLast?_eq_some_getLast nonempty] at last
    cases last
    exact List.dropLast_concat_getLast nonempty

/-- A path is recovered from its own names. -/
theorem ofNames?_segments (path : TreePath) : ofNames? path.segments = some path := by
  simp [ofNames?, segments]

end TreePath

end Tangle
