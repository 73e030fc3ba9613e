import Tangle.Project
import Tangle.Text.Blank
import Tangle.Text.Quoted
import Tangle.Toml.Reader
import Tangle.Tree.Listing

namespace Tangle

/-!
# Expectations

What a fixture expects of the project that its document compiles to.  Checking
names every mismatch; a project meets the expectation when there is none.
-/

/-- The settings of a fixture. -/
structure Expectation where
  description : Option String
  requested : List String
  /-- All files of the project by path, if the fixture speaks of them. -/
  files : Option (List (String × String))
  startup : Option String
  /-- A part of every message, in order. -/
  messages : List String
  deriving Repr, DecidableEq

/-- A point on which a project does not meet an expectation. -/
inductive Mismatch where
  | missingFile (path : String)
  | differingFile (path expected actual : String)
  | unexpectedFile (path : String)
  | differingStartup (expected actual : String)
  | missingStartup
  | unexpectedStartup (actual : String)
  | messageCount (expected : Nat) (actual : List String)
  | differingMessage (position : Nat) (expected actual : String)
  deriving Repr, DecidableEq

/-- Texts by name in ascending order of the names. -/
def sortByName (entries : List (String × String)) : List (String × String) :=
  entries.mergeSort (fun first second => !(decide (second.1 < first.1)))

namespace Expectation

/-- The names of all settings. -/
def settingNames : List String :=
  ["description", "ids", "expect_files", "expect_startup", "expect_errors"]

/-- The expectation that settings describe; unknown settings are refused. -/
def ofEntries? (entries : Toml.Entries) : Option Expectation :=
  if Toml.Entries.hasOnly settingNames entries then
    match Toml.Entries.optional? Toml.Value.text? "description" entries,
      Toml.Entries.optional? Toml.Value.texts? "ids" entries,
      Toml.Entries.optional? Toml.Value.textTable? "expect_files" entries,
      Toml.Entries.optional? Toml.Value.text? "expect_startup" entries,
      Toml.Entries.optional? Toml.Value.texts? "expect_errors" entries with
    | some description, some requested, some files, some startup, some messages =>
        some ⟨description, requested.getD [], files.map sortByName, startup, messages.getD []⟩
    | _, _, _, _, _ => none
  else none

/-- Read an expectation from settings. -/
def read? (text : List Char) : Option Expectation :=
  (Toml.read? text).bind ofEntries?

/-- Whether two texts agree when blanks at their ends do not count. -/
def agrees (expected actual : String) : Bool :=
  Text.trim expected == Text.trim actual

/-- How an expected file fails to be among the actual ones, if it does. -/
def expectedFileMismatch? (actual : List (String × String)) (expected : String × String) :
    Option Mismatch :=
  match actual.lookup expected.1 with
  | none => some (.missingFile expected.1)
  | some contents =>
      if agrees expected.2 contents then none
      else some (.differingFile expected.1 expected.2 contents)

/-- Whether an actual file is among the expected ones, and otherwise the mismatch. -/
def actualFileMismatch? (expected : List (String × String)) (actual : String × String) :
    Option Mismatch :=
  match expected.lookup actual.1 with
  | none => some (.unexpectedFile actual.1)
  | some _ => none

/-- The mismatches between expected and actual files, both in order of their paths. -/
def fileMismatches (expected actual : List (String × String)) : List Mismatch :=
  expected.filterMap (expectedFileMismatch? actual) ++
    actual.filterMap (actualFileMismatch? expected)

/-- The mismatch between an expected and an actual script. -/
def startupMismatches : Option String → Option String → List Mismatch
  | none, none => []
  | some expected, some actual =>
      if agrees expected actual then [] else [.differingStartup expected actual]
  | some _, none => [.missingStartup]
  | none, some actual => [.unexpectedStartup actual]

/-- The messages that lack their expected part, from a position on. -/
def messagesLacking (position : Nat) : List String → List String → List Mismatch
  | expected :: laterExpected, actual :: laterActual =>
      let later := messagesLacking (position + 1) laterExpected laterActual
      if Text.contains expected.toList actual.toList then later
      else .differingMessage position expected actual :: later
  | _, _ => []

/-- The mismatches between expected parts and actual messages. -/
def messageMismatches (expected actual : List String) : List Mismatch :=
  if actual.length = expected.length then messagesLacking 0 expected actual
  else [.messageCount expected.length actual]

/-- Every mismatch between an expectation and a project. -/
def mismatches (expectation : Expectation) (project : Project) : List Mismatch :=
  let files :=
    match expectation.files with
    | none => []
    | some expected => fileMismatches expected (sortByName project.tree.files)
  files ++ startupMismatches expectation.startup project.startup ++
    messageMismatches expectation.messages project.messages

end Expectation

namespace Mismatch

/-- Two lines that show what was expected and what there is. -/
def comparison (expected actual : String) : String :=
  "\n  expected: " ++ Text.quoted expected ++ "\n  actual:   " ++ Text.quoted actual

/-- The list of actual messages as a mismatch shows it. -/
def messageList : List String → String
  | [] => "    (none)"
  | messages => String.intercalate "\n" (messages.map ("    - " ++ ·))

/-- The wording of a mismatch. -/
def message : Mismatch → String
  | .missingFile path => "missing file: " ++ path
  | .differingFile path expected actual =>
      "contents mismatch in " ++ path ++ comparison expected actual
  | .unexpectedFile path => "unexpected file: " ++ path
  | .differingStartup expected actual => "startup mismatch" ++ comparison expected actual
  | .missingStartup => "expected a startup script, got none"
  | .unexpectedStartup actual => "unexpected startup script: " ++ Text.quoted actual
  | .messageCount expected actual =>
      "expected " ++ toString expected ++ " diagnostic(s), got " ++ toString actual.length ++
        "\n  actual diagnostics:\n" ++ messageList actual
  | .differingMessage position expected actual =>
      "diagnostic[" ++ toString position ++ "]: expected message containing \x22" ++ expected ++
        "\x22, got: " ++ actual

end Mismatch

end Tangle
