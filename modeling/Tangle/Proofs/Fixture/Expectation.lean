import Tangle.Fixture.Run
import Tangle.Proofs.Project.WellFormed
import Tangle.Proofs.Toml.Names
import Mathlib.Data.List.Forall2
import Mathlib.Data.Option.Basic

namespace Tangle

/-!
# Expectations that are met

A project meets an expectation if it has the expected files, the expected script
and the expected messages, where blanks at the ends of contents and scripts do not
count and a message only has to contain its expected part.  Checking finds no
mismatch exactly if the expectation is met, and one mismatch for each path that is
missing, differs or is not expected.
-/

/-- A text contains another that stands somewhere in it. -/
theorem Text.contains_iff {needle text : List Char} :
    contains needle text = true ↔ needle <:+: text := by
  induction text with
  | nil =>
      rw [contains, List.isEmpty_iff, List.infix_nil]
  | cons character rest inductionHypothesis =>
      rw [contains, Bool.or_eq_true, List.isPrefixOf_iff_prefix, inductionHypothesis,
        List.infix_cons_iff]

/-- Sorting leaves the entries as they are, but for their order. -/
theorem sortByName_perm (entries : List (String × String)) : (sortByName entries).Perm entries :=
  List.mergeSort_perm entries _

/-- The path that a mismatch is about, if it is about a file. -/
def Mismatch.path? : Mismatch → Option String
  | .missingFile path => some path
  | .differingFile path _ _ => some path
  | .unexpectedFile path => some path
  | _ => none

namespace Expectation

/-- Files have the same paths, and the same contents as others up to blanks at the ends. -/
structure SameFiles (expected actual : List (String × String)) : Prop where
  paths : ∀ path, path ∈ expected.map Prod.fst ↔ path ∈ actual.map Prod.fst
  contents :
    ∀ path text contents,
      (path, text) ∈ expected → (path, contents) ∈ actual → Text.trim text = Text.trim contents

/-- A project is what a fixture expects. -/
structure IsMetBy (expectation : Expectation) (project : Project) : Prop where
  files :
    ∀ expected, expectation.files = some expected → SameFiles expected project.tree.files
  startup :
    Option.Rel (fun text script => Text.trim text = Text.trim script)
      expectation.startup project.startup
  messages :
    List.Forall₂ (fun part message => part.toList <:+: message.toList)
      expectation.messages project.messages

/-- What is wrong with a path, told by what is expected there and what there is. -/
inductive FileFault (expected actual : List (String × String)) : Mismatch → Prop where
  | missing {path text : String} (wanted : (path, text) ∈ expected)
      (absent : path ∉ actual.map Prod.fst) : FileFault expected actual (.missingFile path)
  | differing {path text contents : String} (wanted : (path, text) ∈ expected)
      (present : (path, contents) ∈ actual) (differ : Text.trim text ≠ Text.trim contents) :
      FileFault expected actual (.differingFile path text contents)
  | unexpected {path contents : String} (unwanted : path ∉ expected.map Prod.fst)
      (present : (path, contents) ∈ actual) : FileFault expected actual (.unexpectedFile path)

section Files

variable {expected actual : List (String × String)}

/-! ## Files -/

/-- A fault of a file is about a path. -/
theorem FileFault.isSome_path? {reason : Mismatch} (fault : FileFault expected actual reason) :
    reason.path?.isSome = true := by
  cases fault <;> rfl

/-- The order in which files are listed plays no part. -/
theorem fileFault_iff_of_perm
    {sorted : List (String × String)} (perm : sorted.Perm actual) {reason : Mismatch} :
    FileFault expected sorted reason ↔ FileFault expected actual reason := by
  have samePaths := fun path : String => (perm.map Prod.fst).mem_iff (a := path)
  constructor
  · rintro (⟨wanted, absent⟩ | ⟨wanted, present, differ⟩ | ⟨unwanted, present⟩)
    · exact .missing wanted (mt (samePaths _).mpr absent)
    · exact .differing wanted (perm.mem_iff.mp present) differ
    · exact .unexpected unwanted (perm.mem_iff.mp present)
  · rintro (⟨wanted, absent⟩ | ⟨wanted, present, differ⟩ | ⟨unwanted, present⟩)
    · exact .missing wanted (mt (samePaths _).mp absent)
    · exact .differing wanted (perm.mem_iff.mpr present) differ
    · exact .unexpected unwanted (perm.mem_iff.mpr present)

/-- The files agree exactly if nothing is wrong with any path. -/
theorem sameFiles_iff :
    SameFiles expected actual ↔ ∀ reason, ¬ FileFault expected actual reason := by
  constructor
  · rintro same _ (⟨wanted, absent⟩ | ⟨wanted, present, differ⟩ | ⟨unwanted, present⟩)
    · exact absent ((same.paths _).mp (List.mem_map_of_mem (f := Prod.fst) wanted))
    · exact differ (same.contents _ _ _ wanted present)
    · exact unwanted ((same.paths _).mpr (List.mem_map_of_mem (f := Prod.fst) present))
  · intro noFault
    refine ⟨fun path => ⟨fun isExpected => ?_, fun isActual => ?_⟩, ?_⟩
    · obtain ⟨⟨_, text⟩, wanted, rfl⟩ := List.mem_map.mp isExpected
      by_contra absent
      exact noFault _ (.missing wanted absent)
    · obtain ⟨⟨_, contents⟩, present, rfl⟩ := List.mem_map.mp isActual
      by_contra unwanted
      exact noFault _ (.unexpected unwanted present)
    · intro path text contents wanted present
      by_contra differ
      exact noFault _ (.differing wanted present differ)

variable (actualDistinct : (actual.map Prod.fst).Nodup)

include actualDistinct

/-- Checking an expected file finds what is wrong with its path, if it is not an unexpected one. -/
theorem expectedFileMismatch?_eq_some_iff {entry : String × String} {reason : Mismatch} :
    expectedFileMismatch? actual entry = some reason ↔
      reason = .missingFile entry.1 ∧ entry.1 ∉ actual.map Prod.fst ∨
        ∃ contents, reason = .differingFile entry.1 entry.2 contents ∧
          (entry.1, contents) ∈ actual ∧ Text.trim entry.2 ≠ Text.trim contents := by
  obtain ⟨path, text⟩ := entry
  rw [expectedFileMismatch?]
  cases found : actual.lookup path with
  | none =>
      have absent := lookup_eq_none_iff.mp found
      have noContents : ∀ contents, (path, contents) ∉ actual :=
        fun contents present => absent (List.mem_map_of_mem (f := Prod.fst) present)
      simp only [absent, noContents]
      simp [eq_comm]
  | some contents =>
      have present := (lookup_eq_some_iff_of_nodup actualDistinct).mp found
      have isListed : path ∈ actual.map Prod.fst := List.mem_map_of_mem (f := Prod.fst) present
      have onlyContents : ∀ other, (path, other) ∈ actual ↔ contents = other := by
        intro other
        rw [← lookup_eq_some_iff_of_nodup actualDistinct, found, Option.some_inj]
      simp only [isListed, onlyContents, agrees, beq_iff_eq]
      split
      · rename_i same
        simp [same]
      · rename_i differ
        simp [differ, eq_comm]

omit actualDistinct in
/-- A file is unexpected exactly if it is not named. -/
theorem actualFileMismatch?_eq_some_iff {entry : String × String} {reason : Mismatch} :
    actualFileMismatch? expected entry = some reason ↔
      reason = .unexpectedFile entry.1 ∧ entry.1 ∉ expected.map Prod.fst := by
  rw [actualFileMismatch?, ← lookup_eq_none_iff]
  cases expected.lookup entry.1 <;> simp [eq_comm]

/-- Comparing files finds all that is wrong with paths, and nothing else. -/
theorem mem_fileMismatches {reason : Mismatch} :
    reason ∈ fileMismatches expected actual ↔ FileFault expected actual reason := by
  rw [fileMismatches, List.mem_append, List.mem_filterMap, List.mem_filterMap]
  simp only [expectedFileMismatch?_eq_some_iff actualDistinct, actualFileMismatch?_eq_some_iff]
  constructor
  · rintro (⟨_, wanted, ⟨rfl, absent⟩ | ⟨_, rfl, present, differ⟩⟩ | ⟨_, present, rfl, unwanted⟩)
    · exact .missing wanted absent
    · exact .differing wanted present differ
    · exact .unexpected unwanted present
  · rintro (⟨wanted, absent⟩ | ⟨wanted, present, differ⟩ | ⟨unwanted, present⟩)
    · exact .inl ⟨_, wanted, .inl ⟨rfl, absent⟩⟩
    · exact .inl ⟨_, wanted, .inr ⟨_, rfl, present, differ⟩⟩
    · exact .inr ⟨_, present, rfl, unwanted⟩

omit actualDistinct

/-- What a check finds about entries, at most one mismatch each, is about their paths in order. -/
theorem filterMap_path?_sublist
    (entries : List (String × String)) {check : String × String → Option Mismatch}
    (aboutEntry : ∀ entry reason, check entry = some reason → reason.path? = some entry.1) :
    ((entries.filterMap check).filterMap Mismatch.path?).Sublist (entries.map Prod.fst) := by
  induction entries with
  | nil =>
      exact .slnil
  | cons entry rest inductionHypothesis =>
      cases found : check entry with
      | none =>
          rw [List.filterMap_cons_none found, List.map_cons]
          exact inductionHypothesis.cons entry.1
      | some reason =>
          rw [List.filterMap_cons_some found, List.map_cons,
            List.filterMap_cons_some (aboutEntry entry reason found)]
          exact inductionHypothesis.cons_cons entry.1

/-- No path is found at fault twice. -/
theorem paths_fileMismatches_nodup
    (expectedDistinct : (expected.map Prod.fst).Nodup)
    (actualDistinct : (actual.map Prod.fst).Nodup) :
    ((fileMismatches expected actual).filterMap Mismatch.path?).Nodup := by
  have aboutExpected :
      ∀ entry reason,
        expectedFileMismatch? actual entry = some reason → reason.path? = some entry.1 := by
    intro entry reason found
    rcases (expectedFileMismatch?_eq_some_iff actualDistinct).mp found with
      ⟨rfl, _⟩ | ⟨_, rfl, _⟩ <;> rfl
  have aboutActual :
      ∀ entry reason,
        actualFileMismatch? expected entry = some reason →
          reason.path? = some entry.1 ∧ entry.1 ∉ expected.map Prod.fst := by
    intro entry reason found
    obtain ⟨rfl, unwanted⟩ := actualFileMismatch?_eq_some_iff.mp found
    exact ⟨rfl, unwanted⟩
  have expectedPaths := filterMap_path?_sublist expected aboutExpected
  have actualPaths :=
    filterMap_path?_sublist actual fun entry reason found => (aboutActual entry reason found).1
  rw [fileMismatches, List.filterMap_append, List.nodup_append]
  refine ⟨expectedDistinct.sublist expectedPaths, actualDistinct.sublist actualPaths, ?_⟩
  rintro path isExpected _ isActual rfl
  obtain ⟨reason, isReason, isPath⟩ := List.mem_filterMap.mp isActual
  obtain ⟨entry, _, found⟩ := List.mem_filterMap.mp isReason
  obtain ⟨isEntryPath, unwanted⟩ := aboutActual entry reason found
  rw [isEntryPath, Option.some_inj] at isPath
  exact unwanted (isPath ▸ expectedPaths.subset isExpected)

end Files

/-! ## Scripts and messages -/

/-- The scripts match if both are missing, or their trimmed texts are the same. -/
theorem startupMismatches_eq_nil_iff {expected actual : Option String} :
    startupMismatches expected actual = [] ↔
      Option.Rel (fun text script => Text.trim text = Text.trim script) expected actual := by
  cases expected <;> cases actual <;> simp [startupMismatches, agrees]

/-- No message lacks anything if each contains the part at its place. -/
theorem messagesLacking_eq_nil_iff
    {expected actual : List String} (sameLength : actual.length = expected.length)
    (position : Nat) :
    messagesLacking position expected actual = [] ↔
      List.Forall₂ (fun part message => part.toList <:+: message.toList) expected actual := by
  induction expected generalizing actual position with
  | nil =>
      rw [List.length_nil, List.length_eq_zero_iff] at sameLength
      simp [sameLength, messagesLacking]
  | cons part laterParts inductionHypothesis =>
      cases actual with
      | nil =>
          contradiction
      | cons message laterMessages =>
          have laterLength : laterMessages.length = laterParts.length := by
            simpa using sameLength
          rw [messagesLacking, List.forall₂_cons, ← inductionHypothesis laterLength (position + 1),
            ← Text.contains_iff]
          split
          · rename_i isPart
            simp [isPart]
          · rename_i isNoPart
            simp [isNoPart]

/-- Messages do not match if their numbers differ, or one of them lacks its expected part. -/
theorem messageMismatches_eq_nil_iff {expected actual : List String} :
    messageMismatches expected actual = [] ↔
      List.Forall₂ (fun part message => part.toList <:+: message.toList) expected actual := by
  rw [messageMismatches]
  split
  · rename_i sameLength
    exact messagesLacking_eq_nil_iff sameLength 0
  · rename_i otherLength
    refine iff_of_false (List.cons_ne_nil _ _) fun parts => ?_
    exact otherLength parts.length_eq.symm

/-- A reason about the startup script is about no path. -/
theorem path?_eq_none_of_mem_startupMismatches
    {expected actual : Option String} {reason : Mismatch}
    (member : reason ∈ startupMismatches expected actual) : reason.path? = none := by
  cases expected <;> cases actual <;> rw [startupMismatches] at member
  · contradiction
  · rw [List.mem_singleton.mp member]
    rfl
  · rw [List.mem_singleton.mp member]
    rfl
  · split at member
    · contradiction
    · rw [List.mem_singleton.mp member]
      rfl

/-- Nor is a reason about what a message lacks. -/
theorem path?_eq_none_of_mem_messagesLacking
    {position : Nat} {expected actual : List String} {reason : Mismatch}
    (member : reason ∈ messagesLacking position expected actual) : reason.path? = none := by
  induction expected generalizing actual position with
  | nil =>
      contradiction
  | cons part laterParts inductionHypothesis =>
      cases actual with
      | nil =>
          contradiction
      | cons message laterMessages =>
          rw [messagesLacking] at member
          split at member
          · exact inductionHypothesis member
          · rcases List.mem_cons.mp member with isFirst | isLater
            · rw [isFirst]
              rfl
            · exact inductionHypothesis isLater

/-- Nor is any other reason about messages. -/
theorem path?_eq_none_of_mem_messageMismatches
    {expected actual : List String} {reason : Mismatch}
    (member : reason ∈ messageMismatches expected actual) : reason.path? = none := by
  rw [messageMismatches] at member
  split at member
  · exact path?_eq_none_of_mem_messagesLacking member
  · rw [List.mem_singleton.mp member]
    rfl

/-! ## All mismatches -/

section Mismatches

variable (expectation : Expectation) (project : Project)

/-- The mismatches between the expected files, if any are named, and those of a project. -/
def fileReasons : List Mismatch :=
  match expectation.files with
  | none => []
  | some expected => fileMismatches expected (sortByName project.tree.files)

/-- What is found about files, about the script, and about messages. -/
theorem mismatches_eq :
    expectation.mismatches project =
      expectation.fileReasons project ++
        startupMismatches expectation.startup project.startup ++
          messageMismatches expectation.messages project.messages :=
  rfl

/-- Only comparing files tells of paths. -/
theorem filterMap_path?_mismatches :
    (expectation.mismatches project).filterMap Mismatch.path? =
      (expectation.fileReasons project).filterMap Mismatch.path? := by
  rw [mismatches_eq, List.filterMap_append, List.filterMap_append,
    List.filterMap_eq_nil_iff.mpr fun _ => path?_eq_none_of_mem_startupMismatches,
    List.filterMap_eq_nil_iff.mpr fun _ => path?_eq_none_of_mem_messageMismatches,
    List.append_nil, List.append_nil]

/-- So the reasons about paths are those about files. -/
theorem mem_mismatches_about_path {reason : Mismatch} (aboutPath : reason.path?.isSome = true) :
    reason ∈ expectation.mismatches project ↔ reason ∈ expectation.fileReasons project := by
  have notOfScript : reason ∉ startupMismatches expectation.startup project.startup := by
    intro member
    rw [path?_eq_none_of_mem_startupMismatches member] at aboutPath
    contradiction
  have notOfMessages : reason ∉ messageMismatches expectation.messages project.messages := by
    intro member
    rw [path?_eq_none_of_mem_messageMismatches member] at aboutPath
    contradiction
  simp [mismatches_eq, notOfScript, notOfMessages]

variable {expectation project} (listed : (project.tree.files.map Prod.fst).Nodup)

include listed

/-- There is one for each fault of a file, if files are expected at all. -/
theorem mem_fileReasons {reason : Mismatch} :
    reason ∈ expectation.fileReasons project ↔
      ∃ expected, expectation.files = some expected ∧
        FileFault expected project.tree.files reason := by
  have sorted := sortByName_perm project.tree.files
  rw [fileReasons]
  cases expectation.files with
  | none =>
      simp
  | some expected =>
      simp [mem_fileMismatches ((sorted.map Prod.fst).nodup_iff.mpr listed),
        fileFault_iff_of_perm sorted]

/-- There is none exactly if the expected files, if there are any, are the actual ones. -/
theorem fileReasons_eq_nil_iff :
    expectation.fileReasons project = [] ↔
      ∀ expected, expectation.files = some expected → SameFiles expected project.tree.files := by
  simp only [List.eq_nil_iff_forall_not_mem, mem_fileReasons listed, sameFiles_iff]
  constructor
  · intro noFault expected isExpected reason fault
    exact noFault reason ⟨expected, isExpected, fault⟩
  · rintro allSame reason ⟨expected, isExpected, fault⟩
    exact allSame expected isExpected reason fault

/-- There is no mismatch exactly if the expectation is met. -/
theorem mismatches_eq_nil_iff :
    expectation.mismatches project = [] ↔ expectation.IsMetBy project := by
  rw [mismatches_eq, List.append_eq_nil_iff, List.append_eq_nil_iff,
    fileReasons_eq_nil_iff listed, startupMismatches_eq_nil_iff, messageMismatches_eq_nil_iff]
  constructor
  · rintro ⟨⟨files, startup⟩, messages⟩
    exact ⟨files, startup, messages⟩
  · rintro ⟨files, startup, messages⟩
    exact ⟨⟨files, startup⟩, messages⟩

/-- The mismatches that are about paths tell what is wrong with which path. -/
theorem mem_mismatches_and_path?_isSome_iff {reason : Mismatch} :
    reason ∈ expectation.mismatches project ∧ reason.path?.isSome = true ↔
      ∃ expected, expectation.files = some expected ∧
        FileFault expected project.tree.files reason := by
  rw [← mem_fileReasons listed]
  constructor
  · rintro ⟨member, aboutPath⟩
    exact (mem_mismatches_about_path expectation project aboutPath).mp member
  · intro member
    obtain ⟨_, _, fault⟩ := (mem_fileReasons listed).mp member
    have aboutPath := fault.isSome_path?
    exact ⟨(mem_mismatches_about_path expectation project aboutPath).mpr member, aboutPath⟩

/-- No path is reported twice. -/
theorem paths_mismatches_nodup
    (distinct : ∀ expected, expectation.files = some expected → (expected.map Prod.fst).Nodup) :
    ((expectation.mismatches project).filterMap Mismatch.path?).Nodup := by
  rw [filterMap_path?_mismatches, fileReasons]
  cases named : expectation.files with
  | none =>
      exact List.nodup_nil
  | some expected =>
      have sorted := (sortByName_perm project.tree.files).map Prod.fst
      exact paths_fileMismatches_nodup (distinct expected named) (sorted.nodup_iff.mpr listed)

end Mismatches

/--
A compiled project has no mismatch with an expectation exactly if it meets it: the
files that are named, if any are, are its files, with the same contents up to blanks
at the ends; there is a script exactly if one is expected, and the same up to such
blanks; and each message contains its expected part, there being as many of both.
Whatever is wrong with the path of a file is a mismatch: a named file is missing,
another one stands there, or none was named.  No other mismatch is about a path, and
no two are about the same one.
-/
theorem mismatches_tell_expectation
    (expectation : Expectation) (project : Project)
    (distinct : ∀ expected, expectation.files = some expected → (expected.map Prod.fst).Nodup)
    {document : Document} {requested : List String} {fileId : Nat}
    (compiled : project.tree = (document.compile requested fileId).tree) :
    (expectation.mismatches project = [] ↔ expectation.IsMetBy project) ∧
      (∀ reason,
        reason ∈ expectation.mismatches project ∧ reason.path?.isSome = true ↔
          ∃ expected, expectation.files = some expected ∧
            FileFault expected project.tree.files reason) ∧
      ((expectation.mismatches project).filterMap Mismatch.path?).Nodup := by
  have listed : (project.tree.files.map Prod.fst).Nodup := by
    rw [compiled]
    exact (document.built_compile requested fileId).wellFormed.paths_nodup
  exact ⟨mismatches_eq_nil_iff listed, fun _ => mem_mismatches_and_path?_isSome_iff listed,
    paths_mismatches_nodup listed distinct⟩

/-- A document with two files. -/
def twoFiles : Document :=
  ⟨[.code ⟨some "txt", some "file://a.txt", "one"⟩ ⟨0, 30⟩,
    .code ⟨some "txt", some "file://dir/b.txt", "two"⟩ ⟨30, 64⟩]⟩

/-- An expectation that names one of them with another text, and a file that is missing. -/
def oneOfTwoFiles : Expectation :=
  ⟨none, [], some [("a.txt", "other"), ("c.txt", "three")], none, []⟩

/-- The three faults are told apart in one run. -/
theorem oneOfTwoFiles_mismatches :
    let project := twoFiles.compile [] 0
    (∀ expected, oneOfTwoFiles.files = some expected → (expected.map Prod.fst).Nodup) ∧
      project.tree = (twoFiles.compile [] 0).tree ∧
      (.differingFile "a.txt" "other" "one" ∈ oneOfTwoFiles.mismatches project ∧
        .missingFile "c.txt" ∈ oneOfTwoFiles.mismatches project ∧
        .unexpectedFile "dir/b.txt" ∈ oneOfTwoFiles.mismatches project) ∧
      ¬ oneOfTwoFiles.IsMetBy project ∧
      ((oneOfTwoFiles.mismatches project).filterMap Mismatch.path?).Nodup := by
  intro project
  have distinct :
      ∀ expected, oneOfTwoFiles.files = some expected → (expected.map Prod.fst).Nodup := by
    rintro _ ⟨⟩
    decide
  have files : project.tree.files = [("a.txt", "one"), ("dir/b.txt", "two")] := by
    decide +kernel
  obtain ⟨metIff, faultIff, pathsOnce⟩ :=
    mismatches_tell_expectation oneOfTwoFiles project distinct rfl
  rw [files] at faultIff
  have wanted : ("c.txt", "three") ∈ [("a.txt", "other"), ("c.txt", "three")] := by
    decide
  have present : ("dir/b.txt", "two") ∈ [("a.txt", "one"), ("dir/b.txt", "two")] := by
    decide
  have differing :=
    (faultIff (.differingFile "a.txt" "other" "one")).mpr
      ⟨_, rfl, .differing (by decide) (by decide) (by decide)⟩
  have missing :=
    (faultIff (.missingFile "c.txt")).mpr ⟨_, rfl, .missing wanted (by decide)⟩
  have unexpected :=
    (faultIff (.unexpectedFile "dir/b.txt")).mpr ⟨_, rfl, .unexpected (by decide) present⟩
  refine ⟨distinct, rfl, ⟨differing.1, missing.1, unexpected.1⟩, ?_, pathsOnce⟩
  rw [← metIff]
  exact List.ne_nil_of_mem missing.1

/-- Settings name no file twice, so for each path that they name there is one text. -/
theorem paths_nodup_of_read?
    {text : List Char} {expectation : Expectation} (isRead : read? text = some expectation) :
    ∀ expected, expectation.files = some expected → (expected.map Prod.fst).Nodup := by
  obtain ⟨entries, entriesRead, formed⟩ := Option.bind_eq_some_iff.mp isRead
  have apart := Toml.namesApart_read? entriesRead
  rw [ofEntries?] at formed
  split at formed
  · split at formed
    · rename_i description requested files startup messages _ _ filesRead _ _
      cases formed
      intro expected named
      obtain ⟨texts, rfl, rfl⟩ := Option.map_eq_some_iff.mp named
      obtain ⟨value, found, isTable⟩ := Toml.Entries.exists_of_optional? filesRead
      rw [((sortByName_perm texts).map Prod.fst).nodup_iff]
      exact (apart.of_lookup found).nodup_textTable? isTable
    · contradiction
  · contradiction

end Expectation

/-! ## Fixtures -/

/-- The expectation of a fixture is read from its settings. -/
theorem exists_read?_of_readFixture
    {text : String} {expectation : Expectation} {document : Document}
    (fallsApart : readFixture text = .ok (expectation, document)) :
    ∃ settings, Expectation.read? settings = some expectation := by
  rw [readFixture] at fallsApart
  split at fallsApart
  · contradiction
  · rename_i decoded
    cases fallsApart
    rw [Frontmatter.decodeWith] at decoded
    split at decoded
    · contradiction
    · split at decoded
      · contradiction
      · rename_i isRead
        cases decoded
        exact ⟨_, isRead⟩

/-- Without a mismatch nothing failed. -/
theorem FixtureFailure.ofMismatches?_eq_none_iff {mismatches : List Mismatch} :
    ofMismatches? mismatches = none ↔ mismatches = [] := by
  cases mismatches <;> simp [ofMismatches?]

/-- A failure lists the mismatches, and there is at least one. -/
theorem FixtureFailure.ofMismatches?_eq_some_iff
    {mismatches others : List Mismatch} {first : Mismatch} :
    ofMismatches? mismatches = some (.mismatches first others) ↔ mismatches = first :: others := by
  cases mismatches <;> simp [ofMismatches?]

/--
A fixture passes exactly if it can be read, falls apart into an expectation and a
document, and the document compiles to what is expected.
-/
theorem runFixture_passed_iff (system : FileSystem) (path : String) :
    (runFixture system path).passed = true ↔
      ∃ text expectation document,
        system.readText path = .ok text ∧ readFixture text = .ok (expectation, document) ∧
          expectation.IsMetBy (document.compile expectation.requested 0) := by
  rw [runFixture, FixtureOutcome.passed]
  cases isRead : system.readText path with
  | error failure =>
      simp
  | ok text =>
      cases fallsApart : readFixture text with
      | error error =>
          simp [fallsApart]
      | ok parts =>
          obtain ⟨expectation, document⟩ := parts
          have listed :=
            (document.built_compile expectation.requested 0).wellFormed.paths_nodup
          simp [fallsApart, FixtureFailure.ofMismatches?_eq_none_iff,
            Expectation.mismatches_eq_nil_iff listed]

/-- No two of the mismatches with which a fixture fails are about the same path. -/
theorem runFixture_paths_nodup
    {system : FileSystem} {path : String} {first : Mismatch} {others : List Mismatch}
    (failed : (runFixture system path).failure = some (.mismatches first others)) :
    ((first :: others).filterMap Mismatch.path?).Nodup := by
  rw [runFixture] at failed
  split at failed
  · cases failed
  · rename_i text _
    split at failed
    · cases failed
    · rename_i expectation document fallsApart
      obtain ⟨settings, isRead⟩ := exists_read?_of_readFixture fallsApart
      have listed :=
        (document.built_compile expectation.requested 0).wellFormed.paths_nodup
      have distinct := Expectation.paths_nodup_of_read? isRead
      rw [← FixtureFailure.ofMismatches?_eq_some_iff.mp failed]
      exact Expectation.paths_mismatches_nodup listed distinct

end Tangle