import Tangle.Fixture.Category
import Tangle.Fixture.Expectation
import Tangle.Fixture.Frontmatter
import Tangle.Markdown.Reader
import Tangle.Project.Compile

namespace Tangle

/-!
# Running fixtures

Every fixture is read, compiled and compared with what it expects.  A run ends
well when at least one fixture was run and none failed.
-/

/-- Why a fixture failed. -/
inductive FixtureFailure where
  | unreadable (failure : ReadFailure)
  | frontmatter (error : FrontmatterError)
  | mismatches (first : Mismatch) (others : List Mismatch)
  deriving Repr, DecidableEq

/-- What became of a fixture. -/
structure FixtureOutcome where
  path : String
  description : Option String
  failure : Option FixtureFailure
  deriving Repr, DecidableEq

/-- The fixtures that were run of one category. -/
structure CategoryRun where
  name : String
  outcomes : List FixtureOutcome
  deriving Repr, DecidableEq

/-- What a program prints and the code with which it ends. -/
structure Printed where
  exitCode : Nat
  lines : List String
  deriving Repr, DecidableEq

namespace FixtureFailure

/-- The reasons of a failure as a text. -/
def message : FixtureFailure → String
  | .unreadable failure => "cannot read file: " ++ failure.message
  | .frontmatter error => "frontmatter error: " ++ error.message
  | .mismatches first others =>
      String.intercalate "\n" ((first :: others).map Mismatch.message)

/-- The failure that mismatches amount to. -/
def ofMismatches? : List Mismatch → Option FixtureFailure
  | [] => none
  | first :: others => some (.mismatches first others)

end FixtureFailure

/-- The expectation of a fixture and its document. -/
def readFixture (text : String) : Except FrontmatterError (Expectation × Document) :=
  match Frontmatter.decodeWith Expectation.read? text.toList with
  | .error error => .error error
  | .ok (expectation, document) => .ok (expectation, Markdown.read (String.ofList document))

/-- Run the fixture at a path. -/
def runFixture (system : FileSystem) (path : String) : FixtureOutcome :=
  match system.readText path with
  | .error failure => ⟨path, none, some (.unreadable failure)⟩
  | .ok text =>
      match readFixture text with
      | .error error => ⟨path, none, some (.frontmatter error)⟩
      | .ok (expectation, document) =>
          let project := document.compile expectation.requested 0
          ⟨path, expectation.description,
            FixtureFailure.ofMismatches? (expectation.mismatches project)⟩

namespace FixtureOutcome

/-- Whether a fixture met its expectation. -/
def passed (outcome : FixtureOutcome) : Bool :=
  outcome.failure.isNone

/-- The name by which a fixture is shown: its description, or else the stem of its file name. -/
def label (outcome : FixtureOutcome) : String :=
  match outcome.description with
  | some description => description
  | none =>
      let name := lastName outcome.path
      if Category.isFixtureName name then
        String.ofList (name.toList.take (name.length - Category.fixtureEnd.length))
      else "?"

end FixtureOutcome

/-- Run the fixtures of some categories. -/
def runCategories (system : FileSystem) (categories : List Category) : List CategoryRun :=
  categories.map (fun category => ⟨category.name, category.fixtures.map (runFixture system)⟩)

/-- A text in a colour, which is named by its code for terminals. -/
def paint (colored : Bool) (code text : String) : String :=
  if colored then "\x1b[" ++ code ++ "m" ++ text ++ "\x1b[0m" else text

namespace FixtureOutcome

/-- The line that tells how a fixture fared. -/
def line (colored : Bool) (outcome : FixtureOutcome) : String :=
  let verdict := if outcome.passed then paint colored "32" "PASS" else paint colored "31" "FAIL"
  "  " ++ verdict ++ "  " ++ outcome.label

/-- The lines that tell why a fixture failed. -/
def failureLines (outcome : FixtureOutcome) : List String :=
  match outcome.failure with
  | none => []
  | some failure =>
      ["", "  --- " ++ outcome.path ++ " ---"] ++
        (Text.lines failure.message).map ("  " ++ ·)

end FixtureOutcome

/-- The lines about the fixtures of a category; a single file has no heading line. -/
def categoryLines (colored single : Bool) (run : CategoryRun) : List String :=
  (if single then [] else ["", paint colored "1" (Category.label run.name)]) ++
    run.outcomes.map (FixtureOutcome.line colored)

/-- The last line of a run. -/
def summaryLine (colored : Bool) (passed failed : Nat) : String :=
  if failed = 0 then
    "test result: " ++ paint colored "32" "ok" ++ ". " ++ toString passed ++ " passed, 0 failed"
  else
    "test result: " ++ paint colored "31" "FAILED" ++ ". " ++ toString passed ++ " passed, " ++
      toString failed ++ " failed (of " ++ toString (passed + failed) ++ ")"

/-- The lines about a finished run, and the code that it ends with. -/
def reportRun (colored single : Bool) (runs : List CategoryRun) : Printed :=
  let outcomes := runs.flatMap CategoryRun.outcomes
  let failures := outcomes.filter (fun outcome => !outcome.passed)
  let failureLines :=
    if failures.isEmpty then []
    else ["", "failures:"] ++ failures.flatMap FixtureOutcome.failureLines
  ⟨if failures.isEmpty then 0 else 1,
    runs.flatMap (categoryLines colored single) ++ failureLines ++
      ["", summaryLine colored (outcomes.countP FixtureOutcome.passed) failures.length]⟩

/-- Run the fixtures at a path that requests ask for. -/
def runFixtures (system : FileSystem) (root : String) (requests : List String) (colored : Bool) :
    Printed :=
  match Category.discover system root with
  | [] => ⟨1, ["no .test.md files found in " ++ root]⟩
  | categories =>
      let warnings := Category.warnings categories requests
      match Category.select categories requests with
      | [] => ⟨1, warnings ++ ["no matching categories found"]⟩
      | selected =>
          let report := reportRun colored (system.isFile root) (runCategories system selected)
          ⟨report.exitCode, warnings ++ report.lines⟩

/-- The line that lists a category. -/
def categoryLine (category : Category) : String :=
  "  " ++ Category.label category.name ++ " (" ++ toString category.fixtures.length ++
    " fixtures)"

/-- List the categories of the fixtures at a path. -/
def listCategories (system : FileSystem) (root : String) : Printed :=
  if system.isFile root then ⟨0, ["(single file, no categories)"]⟩
  else
    match Category.discover system root with
    | [] => ⟨0, ["no .test.md files found in " ++ root]⟩
    | categories => ⟨0, "available categories:" :: categories.map categoryLine⟩

end Tangle
