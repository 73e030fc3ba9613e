import Tangle.FileStore
import Tangle.Toml.Reader

namespace Tangle

/-!
# Manifests

A manifest lists the documents of a project, relative to its own directory, and
the identifiers that are requested by default.
-/

/-- The settings of a manifest. -/
structure Manifest where
  documents : List String
  requested : List String
  deriving Repr, DecidableEq

namespace Manifest

/-- The path at which a manifest is looked for when none is named. -/
def defaultPath : String := "literate.toml"

/-- The manifest that settings describe; unknown settings are refused. -/
def ofEntries? (entries : Toml.Entries) : Option Manifest :=
  if Toml.Entries.hasOnly ["documents", "ids"] entries then
    match Toml.Entries.optional? Toml.Value.texts? "documents" entries,
      Toml.Entries.optional? Toml.Value.texts? "ids" entries with
    | some documents, some requested => some ⟨documents.getD [], requested.getD []⟩
    | _, _ => none
  else none

/-- Read a manifest. -/
def read? (text : String) : Option Manifest :=
  (Toml.read? text.toList).bind ofEntries?

/-- The paths of the documents of the manifest that stands at a path. -/
def documentPaths (manifest : Manifest) (path : String) : List String :=
  manifest.documents.map (joinPath (parentPath path))

end Manifest

end Tangle
