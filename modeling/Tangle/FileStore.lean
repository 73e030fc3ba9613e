import Tangle.Text.Utf8

namespace Tangle

/-!
# Stored files

The files that a run can read, in directories below one top, and the directory
that the run works in.  Paths are followed name by name, an absolute one from
the top and any other one from that directory: a dot stays, two dots go up, and
whatever is passed through must be a directory.
-/

/-- Why a stored file cannot be read. -/
inductive ReadFailure where
  | notFound
  | notDirectory
  | isDirectory
  | notText
  deriving Repr, DecidableEq

namespace ReadFailure

/-- The wording of a failed read. -/
def message : ReadFailure → String
  | .notFound => "No such file or directory (os error 2)"
  | .notDirectory => "Not a directory (os error 20)"
  | .isDirectory => "Is a directory (os error 21)"
  | .notText => "stream did not contain valid UTF-8"

end ReadFailure

/-- A stored file: the names that lead to it from the top, and its bytes. -/
structure StoredFile where
  names : List String
  bytes : List Nat
  deriving Repr, DecidableEq

/-- Stored files, and the directories that may hold nothing. -/
structure FileStore where
  files : List StoredFile
  directories : List (List String)
  deriving Repr, DecidableEq

/-- Stored files and the working directory of a run: the names that lead there from the top. -/
structure FileSystem extends FileStore where
  place : List String
  deriving Repr, DecidableEq

/-- What a path leads to. -/
inductive Found where
  | file (file : StoredFile)
  | directory (names : List String)
  deriving Repr, DecidableEq

namespace FileStore

/-- The parts of a path between its slashes. -/
def parts (path : String) : List String :=
  (path.toList.splitOn '/').map String.ofList

/-- Whether some names lead to a directory. -/
def hasDirectory (store : FileStore) (names : List String) : Bool :=
  names.isEmpty ||
    store.directories.any (fun directory => names.isPrefixOf directory) ||
    store.files.any (fun file =>
      names.isPrefixOf file.names && names.length < file.names.length)

/-- What stands under some names. -/
def at? (store : FileStore) (names : List String) : Option Found :=
  match store.files.find? (fun file => file.names == names) with
  | some file => some (.file file)
  | none => if store.hasDirectory names then some (.directory names) else none

/--
Follow the parts of a path from what the parts before them led to.  Above the
top there is only the top.
-/
def follow (store : FileStore) (found : Found) : List String → Except ReadFailure Found
  | [] => .ok found
  | part :: rest =>
      match found with
      | .file _ => .error .notDirectory
      | .directory names =>
          if part = "" || part = "." then store.follow (.directory names) rest
          else if part = ".." then store.follow (.directory names.dropLast) rest
          else
            match store.at? (names ++ [part]) with
            | none => .error .notFound
            | some next => store.follow next rest

/-- The names that stand directly in a directory, each once. -/
def childNames (store : FileStore) (names : List String) : List String :=
  ((store.files.map StoredFile.names ++ store.directories).filterMap (fun stored =>
    if names.isPrefixOf stored then stored[names.length]? else none)).eraseDups

/-- On how many levels below the top there are files. -/
def depth (store : FileStore) : Nat :=
  (store.files.map (fun file => file.names.length)).foldr max 0

/-- The system of stored files in which they stand in and below the working directory. -/
def inDirectory (place : List String) (store : FileStore) : FileSystem where
  files := store.files.map (fun file => ⟨place ++ file.names, file.bytes⟩)
  directories := place :: store.directories.map (place ++ ·)
  place := place

/-- Files of which no more is known than the directory that a run works in. -/
instance : Coe FileStore FileSystem :=
  ⟨inDirectory ["work"]⟩

end FileStore

namespace FileSystem

/-- Where a path starts: at the top if it is absolute, else at the working directory. -/
def origin (system : FileSystem) (path : String) : List String :=
  if path.toList.head? = some '/' then [] else system.place

/-- Follow a path.  Nothing stands under the void path. -/
def resolve (system : FileSystem) (path : String) : Except ReadFailure Found :=
  if path = "" then .error .notFound
  else system.follow (.directory (system.origin path)) (FileStore.parts path)

/-- Read the text of the file at a path. -/
def readText (system : FileSystem) (path : String) : Except ReadFailure String :=
  match system.resolve path with
  | .error failure => .error failure
  | .ok (.directory _) => .error .isDirectory
  | .ok (.file file) =>
      match Text.decode? file.bytes with
      | none => .error .notText
      | some text => .ok (String.ofList text)

/-- Whether a path leads to a file. -/
def isFile (system : FileSystem) (path : String) : Bool :=
  match system.resolve path with
  | .ok (.file _) => true
  | _ => false

end FileSystem

/-- A path below a directory given by its path; an absolute path stands for itself. -/
def joinPath (directory path : String) : String :=
  if directory = "" || path.toList.head? = some '/' then path
  else if directory.toList.getLast? = some '/' then directory ++ path
  else directory ++ "/" ++ path

/-- Drop slashes, and dots that stand alone, from the end of a reversed path. -/
def dropIdleEnd : List Char → List Char
  | ['/'] => ['/']
  | '/' :: rest => dropIdleEnd rest
  | '.' :: '/' :: rest => dropIdleEnd ('/' :: rest)
  | reversed => reversed

/-- The path of the directory in which the file at a path stands. -/
def parentPath (path : String) : String :=
  match path.toList.reverse.dropWhile (· != '/') with
  | [] => ""
  | reversed => String.ofList (dropIdleEnd reversed).reverse

/-- The last name of a path. -/
def lastName (path : String) : String :=
  String.ofList (path.toList.reverse.takeWhile (· != '/')).reverse

end Tangle
