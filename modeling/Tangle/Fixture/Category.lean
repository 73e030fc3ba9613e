import Tangle.FileStore
import Tangle.Text.Blank

namespace Tangle

/-!
# Categories of fixtures

Fixtures are the files below a directory whose names end in `.test.md`.  The
directory in which one stands, seen from there, is its category.  A request for
a category takes the categories inside it as well.
-/

/-- The fixtures of one directory, by the paths at which they are read. -/
structure Category where
  name : String
  fixtures : List String
  deriving Repr, DecidableEq

/-- Categories picked by requests, and the requests that picked nothing new. -/
structure Picked where
  names : List String
  idle : List String
  deriving Repr, DecidableEq

namespace Category

/-- The end of the name of every fixture. -/
def fixtureEnd : String := ".test.md"

/-- Whether a file with a name is a fixture. -/
def isFixtureName (name : String) : Bool :=
  fixtureEnd.toList.isSuffixOf name.toList

/-- The name of the category of a fixture, given the names that lead to it. -/
def nameOf (names : List String) : String :=
  let text := String.intercalate "/" names.dropLast
  String.ofList (text.toList.map (fun character => if character = '\\' then '/' else character))

/-- Whether a list of names stands before another or is the same one. -/
def namesAtMost : List String → List String → Bool
  | [], _ => true
  | _ :: _, [] => false
  | first :: firstRest, second :: secondRest =>
      if first = second then namesAtMost firstRest secondRest else decide (first < second)

/-- Add a fixture to its category behind those already in it, keeping the order of names. -/
def addFixture (name path : String) : List Category → List Category
  | [] => [⟨name, [path]⟩]
  | category :: rest =>
      if name = category.name then ⟨category.name, category.fixtures ++ [path]⟩ :: rest
      else if name < category.name then ⟨name, [path]⟩ :: category :: rest
      else category :: addFixture name path rest

/--
The fixtures in a directory and in those inside it, on some number of levels.  The
directory is given by the names that lead to it from the outermost one; so are they.
-/
def collectFixtures (store : FileStore) (outermost : List String) :
    Nat → List String → List (List String)
  | 0, _ => []
  | levels + 1, inner =>
      (store.childNames (outermost ++ inner)).flatMap fun name =>
        match store.at? (outermost ++ (inner ++ [name])) with
        | some (.directory _) => collectFixtures store outermost levels (inner ++ [name])
        | some (.file _) => if isFixtureName name then [inner ++ [name]] else []
        | none => []

/-- The fixtures below the directory at a path, sorted by the names that lead to them from it. -/
def fixtureNames (system : FileSystem) (root : String) : List (List String) :=
  match system.resolve root with
  | .ok (.directory names) =>
      (collectFixtures system.toFileStore names system.depth []).mergeSort namesAtMost
  | _ => []

/-- All fixtures at a path by category; a file is a fixture of its own without a category. -/
def discover (system : FileSystem) (root : String) : List Category :=
  if system.isFile root then [⟨"", [root]⟩]
  else
    (fixtureNames system root).foldl
      (fun categories names =>
        addFixture (nameOf names) (joinPath root (String.intercalate "/" names)) categories)
      []

/-- The name of a category as it is shown. -/
def label (name : String) : String :=
  if name = "" then "(root)" else name

/-- A request without the slashes around it. -/
def cleanRequest (request : String) : String :=
  String.ofList (Text.trimWhere (· == '/') request.toList)

/-- Whether a cleaned request asks for a category: for itself, or for one around it. -/
def isAskedBy (name request : String) : Bool :=
  name == request || (request.toList ++ ['/']).isPrefixOf name.toList

/-- Add what a request asks for to what others have picked. -/
def pick (categories : List Category) (picked : Picked) (request : String) : Picked :=
  let cleaned := cleanRequest request
  let asked := (categories.map Category.name).filter (fun name => isAskedBy name cleaned)
  let added := asked.filter (fun name => !picked.names.contains name)
  if added.isEmpty then { picked with idle := picked.idle ++ [cleaned] }
  else { picked with names := picked.names ++ added }

/-- Take requests in order. -/
def pickAll (categories : List Category) (requests : List String) : Picked :=
  requests.foldl (pick categories) ⟨[], []⟩

/-- The categories that are asked for, in order of their names; without requests all of them. -/
def select (categories : List Category) (requests : List String) : List Category :=
  if requests.isEmpty then categories
  else
    let picked := pickAll categories requests
    categories.filter (fun category => picked.names.contains category.name)

/-- The warning about a request that has picked nothing. -/
def idleWarning (categories : List Category) (request : String) : String :=
  let available := String.intercalate ", " (categories.map (fun category => label category.name))
  "warning: category '" ++ request ++ "' not found (available: " ++ available ++ ")"

/-- The warnings that requests draw. -/
def warnings (categories : List Category) (requests : List String) : List String :=
  (pickAll categories requests).idle.map (idleWarning categories)

end Category

end Tangle
