import Tangle.Build
import Tangle.Fixture.Run

namespace Tangle

/-!
# The command line

Two commands are understood: `build` compiles documents, and `test` runs
fixtures.  A first word that is no command is taken as the first document of a
build, so `build` may be left out.
-/

/-- What fixtures are to be run, or listed by category. -/
structure TestRequest where
  path : String
  categories : List String
  listOnly : Bool
  deriving Repr, DecidableEq

/-- A command with what it is given. -/
inductive Command where
  | build (request : BuildRequest)
  | test (request : TestRequest)
  deriving Repr, DecidableEq

/-- A whole command line. -/
structure CommandLine where
  plain : Bool
  command : Command
  deriving Repr, DecidableEq

/-- What a run of the program leaves. -/
structure RunResult where
  exitCode : Nat
  output : String
  errors : List String
  deriving Repr, DecidableEq

/-- What has been read of a command line so far, whichever command it belongs to. -/
structure Arguments where
  words : List String
  plain : Bool
  identifiers : List String
  manifest : Option String
  tree : Bool
  blocks : Bool
  check : Bool
  categories : List String
  listCategories : Bool
  deriving Repr, DecidableEq

/-- The options that are followed by a value. -/
inductive ValueOption where
  | identifier
  | manifest
  | category
  deriving Repr, DecidableEq

/-- The options that stand alone. -/
inductive FlagOption where
  | plain
  | verbose
  | tree
  | blocks
  | check
  | listCategories
  deriving Repr, DecidableEq

namespace Arguments

/-- The state before the first argument. -/
def start : Arguments :=
  ⟨[], false, [], none, false, false, false, [], false⟩

/-- Take a word that is no option. -/
def addWord (arguments : Arguments) (word : String) : Arguments :=
  { arguments with words := arguments.words ++ [word] }

/-- Take the value of an option. -/
def addValue (arguments : Arguments) (option : ValueOption) (value : String) : Arguments :=
  match option with
  | .identifier => { arguments with identifiers := arguments.identifiers ++ [value] }
  | .manifest => { arguments with manifest := some value }
  | .category => { arguments with categories := arguments.categories ++ [value] }

/-- Take an option that stands alone. -/
def addFlag (arguments : Arguments) (option : FlagOption) : Arguments :=
  match option with
  | .plain => { arguments with plain := true }
  | .verbose => arguments
  | .tree => { arguments with tree := true }
  | .blocks => { arguments with blocks := true }
  | .check => { arguments with check := true }
  | .listCategories => { arguments with listCategories := true }

end Arguments

namespace CommandLine

/-- The words that name commands. -/
def commandNames : List String := ["build", "test", "help"]

/-- Whether an argument is written as an option. -/
def isOption (argument : String) : Bool :=
  argument.toList.head? == some '-'

/-- Put `build` before the first word, unless that is a command already. -/
def insertBuild : List String → List String
  | [] => []
  | argument :: rest =>
      if isOption argument then argument :: insertBuild rest
      else if commandNames.contains argument then argument :: rest
      else "build" :: argument :: rest

/-- The option with a value that a long name stands for. -/
def longValue? : String → Option ValueOption
  | "id" => some .identifier
  | "manifest" => some .manifest
  | "category" => some .category
  | _ => none

/-- The option without a value that a long name stands for. -/
def longFlag? : String → Option FlagOption
  | "no-color" => some .plain
  | "verbose" => some .verbose
  | "tree" => some .tree
  | "blocks" => some .blocks
  | "check" => some .check
  | "list-categories" => some .listCategories
  | _ => none

/-- What a group of short options comes to: options read, and one that still waits for a value. -/
def readShort? (arguments : Arguments) : List Char → Option (Arguments × Option ValueOption)
  | [] => some (arguments, none)
  | 'v' :: rest => readShort? (arguments.addFlag .verbose) rest
  | 'i' :: rest => some (withValue .identifier rest)
  | 'c' :: rest => some (withValue .category rest)
  | _ => none
where
  /-- Take the rest of a group as the value of its last option, if there is a rest. -/
  withValue (option : ValueOption) : List Char → Arguments × Option ValueOption
    | [] => (arguments, some option)
    | '=' :: value => (arguments.addValue option (String.ofList value), none)
    | value => (arguments.addValue option (String.ofList value), none)

/-- Read a long option given without its hyphens. -/
def readLong? (arguments : Arguments) (body : List Char) :
    Option (Arguments × Option ValueOption) :=
  let name := String.ofList (body.takeWhile (· != '='))
  match body.dropWhile (· != '=') with
  | _ :: value =>
      (longValue? name).map
        (fun option => (arguments.addValue option (String.ofList value), none))
  | [] =>
      match longValue? name with
      | some option => some (arguments, some option)
      | none => (longFlag? name).map (fun option => (arguments.addFlag option, none))

/-- Read arguments; `waiting` is an option that takes the next one as its value. -/
def readArguments? (arguments : Arguments) (waiting : Option ValueOption) :
    List String → Option Arguments
  | [] => if waiting.isSome then none else some arguments
  | argument :: rest =>
      match waiting with
      | some option => readArguments? (arguments.addValue option argument) none rest
      | none =>
          match argument.toList with
          | ['-', '-'] => some (rest.foldl Arguments.addWord arguments)
          | '-' :: '-' :: body =>
              match readLong? arguments body with
              | none => none
              | some (next, still) => readArguments? next still rest
          | '-' :: first :: body =>
              match readShort? arguments (first :: body) with
              | none => none
              | some (next, still) => readArguments? next still rest
          | _ => readArguments? (arguments.addWord argument) none rest

/-- The build that arguments ask for. -/
def buildOf? (arguments : Arguments) (documents : List String) : Option BuildRequest :=
  if (arguments.tree && arguments.blocks) || arguments.listCategories ||
      !arguments.categories.isEmpty then none
  else
    let view := if arguments.blocks then BuildView.blocks
      else if arguments.tree then .tree else .json
    some ⟨documents, arguments.identifiers, arguments.manifest.getD Manifest.defaultPath, view,
      arguments.check⟩

/-- The run of fixtures that arguments ask for. -/
def testOf? (arguments : Arguments) (words : List String) : Option TestRequest :=
  match words with
  | [path] =>
      if arguments.tree || arguments.blocks || arguments.check || arguments.manifest.isSome ||
          !arguments.identifiers.isEmpty then none
      else some ⟨path, arguments.categories, arguments.listCategories⟩
  | _ => none

/-- Read a command line, given without the name of the program. -/
def read? (given : List String) : Option CommandLine :=
  match readArguments? .start none (insertBuild given) with
  | none => none
  | some arguments =>
      match arguments.words with
      | "build" :: documents =>
          (buildOf? arguments documents).map
            (fun request => ⟨arguments.plain, .build request⟩)
      | "test" :: words =>
          (testOf? arguments words).map (fun request => ⟨arguments.plain, .test request⟩)
      | _ => none

/-- Carry out a command line. -/
def run (line : CommandLine) (system : FileSystem) : RunResult :=
  match line.command with
  | .build request =>
      match request.run system with
      | .error error => ⟨1, "", ["error: " ++ error.message]⟩
      | .ok result => ⟨result.exitCode, result.output, result.reports⟩
  | .test request =>
      let printed :=
        if request.listOnly then listCategories system request.path
        else runFixtures system request.path request.categories (!line.plain)
      ⟨printed.exitCode, "", printed.lines⟩

/-- Carry out the arguments of the program. -/
def runArguments (given : List String) (system : FileSystem) : RunResult :=
  match read? given with
  | none => ⟨2, "", ["error: invalid arguments"]⟩
  | some line => line.run system

end CommandLine

end Tangle
