import Tangle.Fixture.Run
import Tangle.Proofs.Fixture.Discovery
import Tangle.Proofs.Fixture.Requests

namespace Tangle

/-!
# Which fixtures a run takes, and what it tells of them

Discovery groups the fixtures at a path, and loses and repeats none of them.  Requests
select whole groups, each once, and every fixture of a selected group is run.  The code
with which a run ends, and the counts in its last line, tell of just these fixtures.
-/

namespace Category

/-- Categories that are taken or left by their names are taken or left as a whole. -/
theorem entries_filter (isTaken : String → Bool) (categories : List Category) :
    entries (categories.filter (fun category => isTaken category.name)) =
      (entries categories).filter (fun entry => isTaken entry.1) := by
  induction categories with
  | nil =>
      rfl
  | cons category rest inductionHypothesis =>
      rw [entries_cons, List.filter_append, ← inductionHypothesis, List.filter_cons]
      cases verdict : isTaken category.name <;>
        simp [entries_cons, List.filter_map, Function.comp_def, verdict]

/-- Selecting keeps the entries of the categories that are asked for, or all of them. -/
theorem entries_select (categories : List Category) (requests : List String) :
    entries (select categories requests) =
      (entries categories).filter
        (fun entry => requests = [] ∨ ∃ request ∈ requests, AsksFor request entry.1) := by
  rw [select_eq]
  exact entries_filter
    (fun name => requests = [] ∨ ∃ request ∈ requests, AsksFor request name) categories

end Category

/-! ## Running -/

/-- The outcome of a fixture bears its path. -/
theorem path_runFixture (system : FileSystem) (path : String) :
    (runFixture system path).path = path := by
  rw [runFixture]
  split
  · rfl
  · split <;> rfl

/-- What became of the fixtures at a path that requests ask for, in order. -/
def ranOutcomes (system : FileSystem) (root : String) (requests : List String) :
    List FixtureOutcome :=
  (runCategories system (Category.select (Category.discover system root) requests)).flatMap
    CategoryRun.outcomes

/-- Each entry is run, in order. -/
theorem outcomes_runCategories (system : FileSystem) (categories : List Category) :
    (runCategories system categories).flatMap CategoryRun.outcomes =
      (Category.entries categories).map (fun entry => runFixture system entry.2) := by
  rw [runCategories, Category.entries, List.flatMap_map, List.map_flatMap]
  simp only [List.map_map]
  rfl

/-- The paths of the fixtures that are run, in order. -/
theorem paths_ranOutcomes (system : FileSystem) (root : String) (requests : List String) :
    (ranOutcomes system root requests).map FixtureOutcome.path =
      ((Category.entries (Category.discover system root)).filter
          (fun entry =>
            requests = [] ∨ ∃ request ∈ requests, Category.AsksFor request entry.1)).map
        Prod.snd := by
  rw [ranOutcomes, outcomes_runCategories, List.map_map, Category.entries_select]
  exact List.map_congr_left fun entry _ => path_runFixture system entry.2

/-- Outcomes are those of a run that takes each fixture asked for once, and nothing else. -/
structure TakesEachOnce
    (system : FileSystem) (root : String) (requests : List String)
    (outcomes : List FixtureOutcome) : Prop where
  ran : outcomes = (outcomes.map FixtureOutcome.path).map (runFixture system)
  once : (outcomes.map FixtureOutcome.path).Nodup
  only : ∀ path ∈ outcomes.map FixtureOutcome.path, ∃ file place,
    IsFixture system root file place path
  asked : ∀ {file place path}, IsFixture system root file place path →
    (path ∈ outcomes.map FixtureOutcome.path ↔
      requests = [] ∨ ∃ request ∈ requests, Category.AsksFor request (slashed place))

/-- A path is run if it leads to a fixture whose category is asked for. -/
theorem mem_paths_ranOutcomes
    {system : FileSystem} (isTree : system.IsFileTree) {root path : String}
    {requests : List String} :
    path ∈ (ranOutcomes system root requests).map FixtureOutcome.path ↔
      ∃ file place, IsFixture system root file place path ∧
        (requests = [] ∨ ∃ request ∈ requests, Category.AsksFor request (slashed place)) := by
  rw [paths_ranOutcomes, List.mem_map]
  simp only [List.mem_filter, decide_eq_true_iff]
  constructor
  · rintro ⟨⟨name, path⟩, ⟨member, isAsked⟩, rfl⟩
    obtain ⟨file, place, isFixture, rfl⟩ := (Category.mem_entries_discover isTree).mp member
    exact ⟨file, place, isFixture, isAsked⟩
  · rintro ⟨file, place, isFixture, isAsked⟩
    have member := (Category.mem_entries_discover isTree).mpr ⟨file, place, isFixture, rfl⟩
    exact ⟨(slashed place, path), ⟨member, isAsked⟩, rfl⟩

/-- The category of a fixture is settled by the path at which it is read. -/
theorem IsFixture.slashed_eq
    {system : FileSystem} (isTree : system.IsFileTree) {root path : String}
    {file other : StoredFile} {place otherPlace : String}
    (isFixture : IsFixture system root file place path)
    (isOther : IsFixture system root other otherPlace path) :
    slashed place = slashed otherPlace := by
  have member := (Category.mem_entries_discover isTree).mpr ⟨file, place, isFixture, rfl⟩
  have otherMember := (Category.mem_entries_discover isTree).mpr ⟨other, otherPlace, isOther, rfl⟩
  have sameEntry :=
    List.inj_on_of_nodup_map (Category.nodup_paths_discover isTree) member otherMember rfl
  exact congrArg Prod.fst sameEntry

/-- A run over a tree of files takes each fixture that is asked for once. -/
theorem takesEachOnce_ranOutcomes
    {system : FileSystem} (isTree : system.IsFileTree) (root : String) (requests : List String) :
    TakesEachOnce system root requests (ranOutcomes system root requests) where
  ran := by
    rw [ranOutcomes, outcomes_runCategories, List.map_map, List.map_map]
    refine List.map_congr_left fun entry _ => ?_
    rw [Function.comp_apply, Function.comp_apply, path_runFixture]
  once := by
    rw [paths_ranOutcomes]
    exact (List.filter_sublist.map Prod.snd).nodup (Category.nodup_paths_discover isTree)
  only path member := by
    obtain ⟨file, place, isFixture, -⟩ := (mem_paths_ranOutcomes isTree).mp member
    exact ⟨file, place, isFixture⟩
  asked isFixture := by
    rw [mem_paths_ranOutcomes isTree]
    constructor
    · rintro ⟨other, otherPlace, isOther, isAsked⟩
      rw [isFixture.slashed_eq isTree isOther]
      exact isAsked
    · intro isAsked
      exact ⟨_, _, isFixture, isAsked⟩

/-! ## What a run tells -/

/-- What is printed in a run tells of outcomes: one line each, their counts, and the code. -/
structure TellsOfOutcomes
    (colored : Bool) (outcomes : List FixtureOutcome) (printed : Printed) : Prop where
  each : (outcomes.map (FixtureOutcome.line colored)).Sublist printed.lines
  counts : outcomes ≠ [] → printed.lines.getLast? =
    some
      (summaryLine colored (outcomes.countP FixtureOutcome.passed)
        (outcomes.countP (fun outcome => !outcome.passed)))
  code : printed.exitCode = 0 ↔
    outcomes ≠ [] ∧ ∀ outcome ∈ outcomes, outcome.passed = true

/-- The lines of the outcomes stand among those of the categories, in order. -/
theorem outcomeLines_sublist (colored single : Bool) (runs : List CategoryRun) :
    ((runs.flatMap CategoryRun.outcomes).map (FixtureOutcome.line colored)).Sublist
      (runs.flatMap (categoryLines colored single)) := by
  induction runs with
  | nil =>
      exact .slnil
  | cons run rest inductionHypothesis =>
      rw [List.flatMap_cons, List.flatMap_cons, List.map_append]
      exact (List.sublist_append_right _ _).append inductionHypothesis

/-- A report has the lines of the outcomes, their count and the exit code. -/
theorem reportRun_tells
    (colored single : Bool) {runs : List CategoryRun}
    (someRun : runs.flatMap CategoryRun.outcomes ≠ []) :
    TellsOfOutcomes colored (runs.flatMap CategoryRun.outcomes)
      (reportRun colored single runs) where
  each := by
    rw [reportRun, List.append_assoc]
    exact (outcomeLines_sublist colored single runs).trans (List.sublist_append_left _ _)
  counts _ := by
    simp [reportRun, List.countP_eq_length_filter]
  code := by
    rw [reportRun]
    simp [someRun]

/-- It tells of the outcomes with lines in front as well. -/
theorem TellsOfOutcomes.prepend
    {colored : Bool} {outcomes : List FixtureOutcome} {printed : Printed}
    (tells : TellsOfOutcomes colored outcomes printed) (front : List String) :
    TellsOfOutcomes colored outcomes ⟨printed.exitCode, front ++ printed.lines⟩ where
  each := tells.each.trans (List.sublist_append_right _ _)
  counts someOutcome := by
    rw [List.getLast?_append, tells.counts someOutcome]
    rfl
  code := tells.code

/-- No category is void, so something is run if a category is selected. -/
theorem ranOutcomes_ne_nil
    {system : FileSystem} {root : String} {requests : List String}
    (someSelected : Category.select (Category.discover system root) requests ≠ []) :
    ranOutcomes system root requests ≠ [] := by
  obtain ⟨category, selected⟩ := List.exists_mem_of_ne_nil _ someSelected
  have discovered : category ∈ Category.discover system root := by
    rw [Category.select_eq] at selected
    exact (List.mem_filter.mp selected).1
  have filled := Category.fixtures_ne_nil_of_mem_discover system root category discovered
  obtain ⟨path, isFixture⟩ := List.exists_mem_of_ne_nil _ filled
  refine List.ne_nil_of_mem (a := runFixture system path) ?_
  rw [ranOutcomes, outcomes_runCategories]
  refine List.mem_map.mpr ⟨(category.name, path), ?_, rfl⟩
  exact List.mem_flatMap.mpr ⟨category, selected, List.mem_map_of_mem isFixture⟩

/-- So does what is printed on the command line, warnings in front. -/
theorem runFixtures_tells
    (system : FileSystem) (root : String) (requests : List String) (colored : Bool) :
    TellsOfOutcomes colored (ranOutcomes system root requests)
      (runFixtures system root requests colored) := by
  have noOutcome (lines : List String) : TellsOfOutcomes colored [] ⟨1, lines⟩ :=
    { each := List.nil_sublist _
      counts := fun someOutcome => absurd rfl someOutcome
      code := by simp }
  rw [runFixtures]
  split
  · rename_i noCategory
    rw [ranOutcomes, noCategory, Category.select_eq]
    exact noOutcome _
  · dsimp only
    split
    · rename_i noneSelected
      rw [ranOutcomes, noneSelected]
      exact noOutcome _
    · rename_i someSelected
      exact (reportRun_tells colored _ (ranOutcomes_ne_nil someSelected)).prepend _

/--
A run takes every fixture at a path once if a request asks for its category, or if there
is no request, and it takes nothing else.  The category is the directory in which the
fixture stands, seen from the path, with slashes in place of backslashes.  Each fixture
that was run is told of and counted, and the code tells whether there was one and all
met their expectations.
-/
theorem runFixtures_takes_asked_once
    {system : FileSystem} (isTree : system.IsFileTree) (root : String) (requests : List String)
    (colored : Bool) :
    let outcomes := ranOutcomes system root requests
    TakesEachOnce system root requests outcomes ∧
      (∀ {file place path}, IsFixture system root file place path →
        system.resolve path = .ok (.file file) ∧
          ('\\' ∉ place.toList →
            (path ∈ outcomes.map FixtureOutcome.path ↔
              requests = [] ∨ ∃ request ∈ requests, Category.AsksFor request place))) ∧
      TellsOfOutcomes colored outcomes (runFixtures system root requests colored) ∧
      outcomes.countP FixtureOutcome.passed + outcomes.countP (fun outcome => !outcome.passed) =
        outcomes.length := by
  have taken := takesEachOnce_ranOutcomes isTree root requests
  refine ⟨taken, ?_, runFixtures_tells system root requests colored, ?_⟩
  · intro file place path isFixture
    refine ⟨isFixture.resolve_path isTree, ?_⟩
    intro plain
    rw [taken.asked isFixture, slashed_eq_self plain]
  · rw [List.length_eq_countP_add_countP FixtureOutcome.passed]
    simp

/-- A fixture that expects nothing of a void document. -/
def idleFixture (names : List String) : StoredFile :=
  ⟨names, "---\nids = []\n---\n".toList.map Char.toNat⟩

/-- Fixtures in directories, one of which is inside another, seen from the last directory. -/
def nestedFixtures : FileSystem where
  files :=
    [idleFixture ["a", "b", "x.test.md"], idleFixture ["a", "y.test.md"],
      idleFixture ["c", "z.test.md"]]
  directories := []
  place := ["c"]

/-- Requests that overlap pick two of the fixtures further up, each once, and these pass. -/
theorem nestedFixtures_overlapping_requests :
    let requests := ["a/", "/a/b", "a"]
    let paths := (ranOutcomes nestedFixtures ".." requests).map FixtureOutcome.path
    nestedFixtures.IsFileTree ∧ paths.Nodup ∧
      "../a/b/x.test.md" ∈ paths ∧ "../a/y.test.md" ∈ paths ∧ "../c/z.test.md" ∉ paths ∧
      (runFixtures nestedFixtures ".." requests false).exitCode = 0 := by
  intro requests paths
  have isTree : nestedFixtures.IsFileTree := by decide +kernel
  have leads : nestedFixtures.resolve ".." = .ok (.directory []) := by decide +kernel
  obtain ⟨taken, -, tells, -⟩ := runFixtures_takes_asked_once isTree ".." requests false
  have isFixture (inner : List String) (stem : String)
      (member : idleFixture (inner ++ [stem ++ ".test.md"]) ∈ nestedFixtures.files) :=
    @IsFixture.below nestedFixtures ".." _ [] inner stem leads member rfl
  have first : "../a/b/x.test.md" ∈ paths :=
    (taken.asked (isFixture ["a", "b"] "x" (by decide +kernel))).mpr (by decide +kernel)
  have second : "../a/y.test.md" ∈ paths :=
    (taken.asked (isFixture ["a"] "y" (by decide +kernel))).mpr (by decide +kernel)
  have third : "../c/z.test.md" ∉ paths :=
    mt (taken.asked (isFixture ["c"] "z" (by decide +kernel))).mp (by decide +kernel)
  have allPass : ∀ file ∈ nestedFixtures.files,
      (runFixture nestedFixtures (joinPath ".." (String.intercalate "/" file.names))).passed =
        true := by
    decide +kernel
  refine ⟨isTree, taken.once, first, second, third, tells.code.mpr ⟨?_, ?_⟩⟩
  · obtain ⟨outcome, member, -⟩ := List.mem_map.mp first
    exact List.ne_nil_of_mem member
  · intro outcome member
    rw [taken.ran] at member
    obtain ⟨path, isRun, rfl⟩ := List.mem_map.mp member
    obtain ⟨file, place, isFixture⟩ := taken.only path isRun
    cases isFixture with
    | alone leadsToFile =>
        simp [leads] at leadsToFile
    | @below names inner stem leadsBelow fileMember stands =>
        obtain rfl : [] = names := by simpa [leads] using leadsBelow
        rw [List.nil_append] at stands
        rw [← stands]
        exact allPass file fileMember

/-- A directory named with a backslash is asked for as if it were two, one in the other. -/
theorem backslash_taken_for_slash :
    ¬ ∀ (system : FileSystem) (root : String) (requests : List String), system.IsFileTree →
        ∀ file place path, IsFixture system root file place path →
          (path ∈ (ranOutcomes system root requests).map FixtureOutcome.path ↔
            requests = [] ∨ ∃ request ∈ requests, Category.AsksFor request place) := by
  intro askedByPlace
  let file : StoredFile := ⟨["a\\b", "x.test.md"], []⟩
  let system : FileSystem := ⟨⟨[file], []⟩, []⟩
  have isTree : system.IsFileTree := by decide +kernel
  have isFixture : IsFixture system "." file "a\\b" "./a\\b/x.test.md" :=
    @IsFixture.below system "." file [] ["a\\b"] "x" (by decide +kernel) List.mem_cons_self rfl
  have isAsked : Category.AsksFor "a" (slashed "a\\b") := by decide +kernel
  have isRun : "./a\\b/x.test.md" ∈ (ranOutcomes system "." ["a"]).map FixtureOutcome.path :=
    (mem_paths_ranOutcomes isTree).mpr
      ⟨file, _, isFixture, .inr ⟨"a", List.mem_cons_self, isAsked⟩⟩
  have notAsked :
      ¬ (["a"] = [] ∨ ∃ request ∈ ["a"], Category.AsksFor request "a\\b") := by
    decide +kernel
  exact notAsked
    ((askedByPlace system "." ["a"] isTree file _ _ isFixture).mp isRun)

end Tangle
