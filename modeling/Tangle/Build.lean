import Tangle.BlockListing
import Tangle.FileStore
import Tangle.Manifest
import Tangle.Markdown.Reader
import Tangle.Position
import Tangle.Project.Merge
import Tangle.Text.Blank

namespace Tangle

/-!
# Building a project

A build reads its documents, compiles and unites them, and shows the project as
JSON, as a tree, or by a listing of its blocks.  Documents and identifiers come
from the request; a manifest gives the documents when the request names none.
-/

/-- How a build shows what it has found. -/
inductive BuildView where
  | json
  | tree
  | blocks
  deriving Repr, DecidableEq

/-- What a build is asked to do. -/
structure BuildRequest where
  documents : List String
  identifiers : List String
  manifest : String
  view : BuildView
  checkOnly : Bool
  deriving Repr, DecidableEq

/-- Why a build cannot be carried out. -/
inductive BuildError where
  | unreadable (path : String) (failure : ReadFailure)
  | badManifest (path : String)
  | noDocuments (manifest : String)
  deriving Repr, DecidableEq

/-- A document with the path at which it was read. -/
structure SourceFile where
  path : String
  text : String
  deriving Repr, DecidableEq

/-- What a build leaves: its exit code, its output, and the lines of its reports. -/
structure BuildResult where
  exitCode : Nat
  output : String
  reports : List String
  deriving Repr, DecidableEq

namespace BuildError

/-- The wording of a failed build. -/
def message : BuildError → String
  | .unreadable path failure => "cannot read '" ++ path ++ "': " ++ failure.message
  | .badManifest path => "invalid manifest '" ++ path ++ "':"
  | .noDocuments manifest => "no documents given and none listed in '" ++ manifest ++ "'"

end BuildError

namespace SourceFile

/-- Read the file at a path. -/
def read (system : FileSystem) (path : String) : Except BuildError SourceFile :=
  match system.readText path with
  | .error failure => .error (.unreadable path failure)
  | .ok text => .ok ⟨path, text⟩

/-- Read the files at some paths; the first that cannot be read fails them all. -/
def readAll (system : FileSystem) : List String → Except BuildError (List SourceFile)
  | [] => .ok []
  | path :: rest =>
      match read system path with
      | .error error => .error error
      | .ok file =>
          match readAll system rest with
          | .error error => .error error
          | .ok files => .ok (file :: files)

/-- The listing of the blocks of a source under its path. -/
def listingLines (requested : List String) (file : SourceFile) : List String :=
  file.path :: (Markdown.read file.text).listingLines file.text requested

end SourceFile

namespace Diagnostic

/-- Where a diagnostic stands among the sources, if it has a place. -/
def locator? (sources : List SourceFile) (diagnostic : Diagnostic) : Option String :=
  match diagnostic.span, sources[diagnostic.fileId]? with
  | some span, some file =>
      let position := Position.ofOffset file.text span.start
      some ("at " ++ file.path ++ ":" ++ toString position.line ++ ":" ++
        toString position.column)
  | _, _ => none

/-- The lines that report a diagnostic. -/
def reportLines (sources : List SourceFile) (diagnostic : Diagnostic) : List String :=
  diagnostic.headline :: (diagnostic.locator? sources).toList

end Diagnostic

/-- Lines as a text, each with its line end. -/
def unlines (lines : List String) : String :=
  String.join (lines.map (· ++ "\n"))

namespace Project

/-- Compile several sources with the same requested identifiers and unite them in order. -/
def ofSources (sources : List String) (requested : List String) : Project :=
  ofDocuments (sources.map Markdown.read) requested

/-- The lines about the startup script below a tree. -/
def startupLines (project : Project) : List String :=
  match project.startup with
  | none => []
  | some script => ["", "startup:"] ++ (Text.lines script).map ("  " ++ ·)

/-- The tree of a project and its startup script. -/
def treeView (project : Project) : String :=
  project.tree.render ++ unlines project.startupLines

/-- A project as indented JSON on lines of its own. -/
def jsonView (project : Project) : String :=
  project.toJson.indented ++ "\n"

end Project

namespace BuildRequest

/-- The documents of a build and the identifiers that it asks for. -/
def sources (request : BuildRequest) (system : FileSystem) :
    Except BuildError (List String × List String) :=
  if request.documents.isEmpty then
    match system.readText request.manifest with
    | .error failure => .error (.unreadable request.manifest failure)
    | .ok text =>
        match Manifest.read? text with
        | none => .error (.badManifest request.manifest)
        | some manifest =>
            .ok (manifest.documentPaths request.manifest,
              manifest.requested ++ request.identifiers)
  else
    .ok (request.documents, request.identifiers)

/-- Show the project that sources compile to. -/
def showProject (request : BuildRequest) (files : List SourceFile) (requested : List String) :
    BuildResult :=
  let project := Project.ofSources (files.map SourceFile.text) requested
  let reports := project.diagnostics.flatMap (Diagnostic.reportLines files)
  if request.checkOnly then ⟨if project.hasDiagnostics then 1 else 0, "", reports⟩
  else
    match request.view with
    | .tree => ⟨0, project.treeView, reports⟩
    | _ => ⟨0, project.jsonView, reports⟩

/-- Carry out a build.  A listing of blocks compiles nothing and so reports nothing. -/
def run (request : BuildRequest) (system : FileSystem) : Except BuildError BuildResult :=
  match request.sources system with
  | .error error => .error error
  | .ok (paths, requested) =>
      if paths.isEmpty then .error (.noDocuments request.manifest)
      else
        match SourceFile.readAll system paths with
        | .error error => .error error
        | .ok files =>
            match request.view with
            | .blocks => .ok ⟨0, unlines (files.flatMap (SourceFile.listingLines requested)), []⟩
            | _ => .ok (request.showProject files requested)

end BuildRequest

end Tangle
