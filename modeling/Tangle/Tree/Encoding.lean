import Tangle.Json
import Tangle.Tree

namespace Tangle

/-!
# The JSON form of a tree

A directory is an object of its entries by name.  A file is an object whose one
member `file` holds an object with the `contents`; a directory among the
entries is an object whose one member `directory` holds its own entries.
Reading takes members of the inner `file` object other than `contents` as
comments and refuses everything else.
-/

namespace Tree

/-- The entries of a tree as members of a JSON object. -/
def members : Tree → List (String × Json)
  | .empty => []
  | .file name contents rest =>
      (name, .object [("file", .object [("contents", .string contents)])]) :: rest.members
  | .directory name children rest =>
      (name, .object [("directory", .object children.members)]) :: rest.members

/-- The JSON form of a tree. -/
def toJson (tree : Tree) : Json :=
  .object tree.members

/-- The text under the name `contents`, if the members have one there. -/
def contents? : List (String × Json) → Option String
  | [] => none
  | (name, value) :: rest =>
      if name = "contents" then
        match value with
        | .string contents => some contents
        | _ => none
      else
        contents? rest

mutual

/-- Read one entry from its JSON form. -/
def entryOfJson? : Json → Option Entry
  | .object [(kind, .object members)] =>
      if kind = "file" then (contents? members).map Entry.file
      else if kind = "directory" then (ofMembers? members).map Entry.directory
      else none
  | _ => none

/-- Read a tree from the members of its JSON form. -/
def ofMembers? : List (String × Json) → Option Tree
  | [] => some .empty
  | (name, value) :: rest =>
      match entryOfJson? value, ofMembers? rest with
      | some entry, some tree => some (tree.set name entry)
      | _, _ => none

end

/-- Read a tree from its JSON form. -/
def ofJson? : Json → Option Tree
  | .object members => ofMembers? members
  | _ => none

end Tree

end Tangle
