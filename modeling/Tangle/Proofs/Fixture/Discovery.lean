import Tangle.Fixture.Category
import Tangle.Proofs.FileStore

namespace Tangle

/-!
# Discovering fixtures

Fixtures are collected by going through a directory and, level by level, through the
directories inside it.  In a tree of files this finds just the files below with a name
as fixtures have it, each once.  Grouping them by category loses and repeats none.
-/

/-- A text with slashes in place of its backslashes. -/
def slashed (text : String) : String :=
  String.ofList (text.toList.map (fun character => if character = '\\' then '/' else character))

/-- A text without backslashes is its own slashed text. -/
theorem slashed_eq_self {text : String} (plain : '\\' ∉ text.toList) : slashed text = text := by
  have sameCharacters :
      text.toList.map (fun character => if character = '\\' then '/' else character) =
        text.toList.map id := by
    refine List.map_congr_left fun character member => if_neg ?_
    rintro rfl
    exact plain member
  rw [slashed, sameCharacters, List.map_id, String.ofList_toList]

/--
A fixture at a path, with the place where it stands, seen from there, and the path at
which it is read: the file at the path, or a file below with a name as fixtures have it.
-/
inductive IsFixture (system : FileSystem) (root : String) : StoredFile → String → String → Prop
  | alone {file : StoredFile} (leads : system.resolve root = .ok (.file file)) :
      IsFixture system root file "" root
  | below {file : StoredFile} {names inner : List String} {stem : String}
      (leads : system.resolve root = .ok (.directory names)) (member : file ∈ system.files)
      (stands : file.names = names ++ (inner ++ [stem ++ ".test.md"])) :
      IsFixture system root file (String.intercalate "/" inner)
        (joinPath root (String.intercalate "/" (inner ++ [stem ++ ".test.md"])))

/-- The path of a fixture leads to its file. -/
theorem IsFixture.resolve_path
    {system : FileSystem} (isTree : system.IsFileTree) {root : String} {file : StoredFile}
    {place path : String} (isFixture : IsFixture system root file place path) :
    system.resolve path = .ok (.file file) := by
  cases isFixture with
  | alone leads =>
      exact leads
  | below leads member stands =>
      exact FileSystem.resolve_file isTree member leads stands (by simp)

namespace Category

/-! ## Grouping -/

/-- The fixtures of categories, each behind the name of its category. -/
def entries (categories : List Category) : List (String × String) :=
  categories.flatMap (fun category => category.fixtures.map (fun path => (category.name, path)))

/-- The entries of the first category come before those of the others. -/
theorem entries_cons (category : Category) (rest : List Category) :
    entries (category :: rest) =
      category.fixtures.map (fun path => (category.name, path)) ++ entries rest :=
  List.flatMap_cons

/-- A fixture is added to those that are there, under the name of its category. -/
theorem entries_addFixture_perm (name path : String) (categories : List Category) :
    (entries (addFixture name path categories)).Perm ((name, path) :: entries categories) := by
  induction categories with
  | nil =>
      exact .refl _
  | cons category rest inductionHypothesis =>
      rw [addFixture]
      split
      · rename_i sameName
        rw [entries_cons, entries_cons, List.map_append, List.append_assoc, sameName]
        exact List.perm_middle
      · split
        · exact .refl _
        · rw [entries_cons, entries_cons]
          exact (inductionHypothesis.append_left _).trans List.perm_middle

/-- A category that takes one more fixture, or is new with it, is not empty. -/
theorem fixtures_ne_nil_addFixture
    {name path : String} {categories : List Category}
    (filled : ∀ category ∈ categories, category.fixtures ≠ []) :
    ∀ category ∈ addFixture name path categories, category.fixtures ≠ [] := by
  induction categories with
  | nil =>
      simp [addFixture]
  | cons category rest inductionHypothesis =>
      rw [List.forall_mem_cons] at filled
      rw [addFixture]
      split
      · simpa using filled.2
      · split
        · simpa using filled
        · rw [List.forall_mem_cons]
          exact ⟨filled.1, inductionHypothesis filled.2⟩

section Adding

variable (system : FileSystem) (root : String)

/-- The fixture to which names lead from a path, behind the name of its category. -/
def entryAt (names : List String) : String × String :=
  (nameOf names, joinPath root (String.intercalate "/" names))

/-- Categories to which fixtures at places below a path are added one after another. -/
def addPlaces (categories : List Category) (places : List (List String)) : List Category :=
  places.foldl
    (fun categories names =>
      addFixture (nameOf names) (joinPath root (String.intercalate "/" names)) categories)
    categories

/-- Fixtures that are added one after another are all there in the end. -/
theorem entries_addPlaces_perm (categories : List Category) (places : List (List String)) :
    (entries (addPlaces root categories places)).Perm
      (places.map (entryAt root) ++ entries categories) := by
  induction places generalizing categories with
  | nil =>
      exact .refl _
  | cons names rest inductionHypothesis =>
      refine (inductionHypothesis _).trans ?_
      refine ((entries_addFixture_perm _ _ categories).append_left _).trans ?_
      exact List.perm_middle

/-- So no category is empty after several fixtures. -/
theorem fixtures_ne_nil_addPlaces
    {categories : List Category} (filled : ∀ category ∈ categories, category.fixtures ≠ [])
    (places : List (List String)) :
    ∀ category ∈ addPlaces root categories places, category.fixtures ≠ [] := by
  induction places generalizing categories with
  | nil =>
      exact filled
  | cons names rest inductionHypothesis =>
      exact inductionHypothesis (fixtures_ne_nil_addFixture filled)

/-- Below a root that is no file the fixtures that the walk meets are grouped. -/
theorem discover_eq (notFile : system.isFile root = false) :
    discover system root = addPlaces root [] (fixtureNames system root) := by
  rw [discover, notFile]
  rfl

/-- Every category that is discovered has a fixture. -/
theorem fixtures_ne_nil_of_mem_discover :
    ∀ category ∈ discover system root, category.fixtures ≠ [] := by
  cases isFile : system.isFile root with
  | true => simp [discover, isFile]
  | false =>
      rw [discover_eq system root isFile]
      exact fixtures_ne_nil_addPlaces root (by simp) _

end Adding

/-! ## Collecting -/

/-- The name of a fixture has something in front of its ending, be it empty. -/
theorem isFixtureName_iff {name : String} :
    isFixtureName name = true ↔ ∃ stem, name = stem ++ ".test.md" := by
  rw [isFixtureName, List.isSuffixOf_iff_suffix]
  constructor
  · rintro ⟨stem, shape⟩
    refine ⟨String.ofList stem, ?_⟩
    rw [← String.toList_inj, ← shape]
    simp [fixtureEnd]
  · rintro ⟨stem, rfl⟩
    exact ⟨stem.toList, by simp [fixtureEnd]⟩

/-- A category is called by the directories that lead to its fixtures. -/
theorem nameOf_concat (inner : List String) (last : String) :
    nameOf (inner ++ [last]) = slashed (String.intercalate "/" inner) := by
  rw [nameOf, List.dropLast_concat]
  rfl

section Collecting

variable {store : FileStore} {outermost : List String}

/-- What is collected in a directory stands behind it, and is a file with the name of a fixture. -/
theorem exists_file_of_mem_collectFixtures
    {levels : Nat} {inner place : List String}
    (member : place ∈ collectFixtures store outermost levels inner) :
    ∃ deeper stem, place = inner ++ (deeper ++ [stem ++ ".test.md"]) ∧
      ∃ file ∈ store.files, file.names = outermost ++ place := by
  induction levels generalizing inner with
  | zero =>
      contradiction
  | succ levels inductionHypothesis =>
      rw [collectFixtures, List.mem_flatMap] at member
      obtain ⟨name, -, member⟩ := member
      cases stands : store.at? (outermost ++ (inner ++ [name])) with
      | none =>
          rw [stands] at member
          contradiction
      | some found =>
          rw [stands] at member
          cases found with
          | directory names =>
              obtain ⟨deeper, stem, rfl, isFile⟩ := inductionHypothesis member
              exact ⟨name :: deeper, stem, by simp, isFile⟩
          | file file =>
              dsimp only at member
              split at member
              · rename_i isFixture
                obtain ⟨stem, rfl⟩ := isFixtureName_iff.mp isFixture
                obtain rfl := List.mem_singleton.mp member
                obtain ⟨isFile, names⟩ := FileStore.mem_of_at? stands
                exact ⟨[], stem, rfl, file, isFile, names⟩
              · contradiction

/-- On enough levels every file with the name of a fixture is collected. -/
theorem mem_collectFixtures_of_file
    (isTree : store.IsFileTree) {file : StoredFile} (member : file ∈ store.files)
    {levels : Nat} {inner deeper : List String} {stem : String}
    (stands : file.names = outermost ++ (inner ++ (deeper ++ [stem ++ ".test.md"])))
    (reached : deeper.length < levels) :
    inner ++ (deeper ++ [stem ++ ".test.md"]) ∈
      collectFixtures store outermost levels inner := by
  induction levels generalizing inner deeper with
  | zero =>
      contradiction
  | succ levels inductionHypothesis =>
      have isStored : file.names ∈ store.files.map StoredFile.names ++ store.directories :=
        List.mem_append_left _ (List.mem_map_of_mem member)
      rw [stands] at isStored
      rw [collectFixtures, List.mem_flatMap]
      cases deeper with
      | nil =>
          refine ⟨stem ++ ".test.md", ?_, ?_⟩
          · exact FileStore.mem_childNames.mpr ⟨[], by simpa using isStored⟩
          · have isFile := isTree.at?_file member
            rw [stands, List.nil_append] at isFile
            have isFixture := isFixtureName_iff.mpr ⟨stem, rfl⟩
            simp [isFile, isFixture]
      | cons name rest =>
          refine ⟨name, ?_, ?_⟩
          · exact FileStore.mem_childNames.mpr
              ⟨rest ++ [stem ++ ".test.md"], by simpa using isStored⟩
          · have standsInside :
                file.names =
                  outermost ++ ((inner ++ [name]) ++ (rest ++ [stem ++ ".test.md"])) := by
              simpa using stands
            have isDirectory := isTree.at?_above member
              (standsInside.trans (List.append_assoc _ _ _).symm) (by simp)
            rw [isDirectory]
            have inside := inductionHypothesis standsInside (Nat.lt_of_succ_lt_succ reached)
            simpa using inside

/-- Places collected under different names are different if each goes on from its name. -/
theorem nodup_flatMap_of_behind
    {names inner : List String} {collected : String → List (List String)}
    (namesNodup : names.Nodup) (eachNodup : ∀ name ∈ names, (collected name).Nodup)
    (behind : ∀ name, ∀ place ∈ collected name, inner ++ [name] <+: place) :
    (names.flatMap collected).Nodup := by
  rw [List.nodup_flatMap]
  refine ⟨eachNodup, namesNodup.imp ?_⟩
  intro first second different place isFirst isSecond
  have isPrefix :=
    List.prefix_of_prefix_length_le (behind first place isFirst) (behind second place isSecond)
      (by simp)
  have sameNames := isPrefix.eq_of_length (by simp)
  exact different (by simpa using sameNames)

/-- Nothing is collected twice: different names in a directory lead to different files. -/
theorem nodup_collectFixtures (levels : Nat) (inner : List String) :
    (collectFixtures store outermost levels inner).Nodup := by
  induction levels generalizing inner with
  | zero =>
      exact .nil
  | succ levels inductionHypothesis =>
      rw [collectFixtures]
      apply nodup_flatMap_of_behind (store.nodup_childNames _)
      · intro name _
        split
        · exact inductionHypothesis _
        · split <;> simp
        · exact .nil
      · intro name place member
        split at member
        · obtain ⟨deeper, stem, rfl, -⟩ := exists_file_of_mem_collectFixtures member
          exact List.prefix_append _ _
        · split at member
          · exact List.mem_singleton.mp member ▸ List.prefix_refl _
          · contradiction
        · contradiction

end Collecting

/-! ## Discovery -/

section Below

variable {system : FileSystem} {root : String} {names : List String}
  (leads : system.resolve root = .ok (.directory names))

include leads

/-- All fixtures below a directory are discovered there. -/
theorem entries_discover_perm :
    (entries (discover system root)).Perm ((fixtureNames system root).map (entryAt root)) := by
  have notFile : system.isFile root = false := by
    rw [FileSystem.isFile, leads]
  have added := entries_addPlaces_perm root [] (fixtureNames system root)
  rwa [← discover_eq system root notFile, show entries [] = [] from rfl, List.append_nil] at added

/-- The fixtures found below a directory are the files there that have such a name. -/
theorem mem_fixtureNames (isTree : system.IsFileTree) {place : List String} :
    place ∈ fixtureNames system root ↔
      (∃ file ∈ system.files, file.names = names ++ place) ∧
        ∃ inner stem, place = inner ++ [stem ++ ".test.md"] := by
  rw [fixtureNames, leads]
  rw [(List.mergeSort_perm _ _).mem_iff]
  constructor
  · intro member
    obtain ⟨deeper, stem, shape, isFile⟩ := exists_file_of_mem_collectFixtures member
    exact ⟨isFile, deeper, stem, shape⟩
  · rintro ⟨⟨file, member, stands⟩, inner, stem, rfl⟩
    have onLevels : inner.length < system.depth := by
      have deepEnough := FileStore.length_le_depth member
      rw [stands] at deepEnough
      simp only [List.length_append, List.length_singleton] at deepEnough
      omega
    have standsBehind : file.names = names ++ ([] ++ (inner ++ [stem ++ ".test.md"])) := stands
    exact mem_collectFixtures_of_file isTree member standsBehind onLevels

/-- The walk meets no fixture twice. -/
theorem nodup_fixtureNames : (fixtureNames system root).Nodup := by
  rw [fixtureNames, leads]
  exact (List.mergeSort_perm _ _).nodup_iff.mpr (nodup_collectFixtures _ _)

end Below

/-- A file is the only fixture at its path. -/
theorem entries_discover_of_file
    {system : FileSystem} {root : String} {file : StoredFile}
    (leads : system.resolve root = .ok (.file file)) :
    entries (discover system root) = [("", root)] := by
  rw [discover, FileSystem.isFile, leads]
  rfl

/-- Below a root that leads nowhere there is nothing. -/
theorem discover_of_error
    {system : FileSystem} {root : String} {failure : ReadFailure}
    (leadsNowhere : system.resolve root = .error failure) : discover system root = [] := by
  have notFile : system.isFile root = false := by
    rw [FileSystem.isFile, leadsNowhere]
  rw [discover_eq system root notFile, fixtureNames, leadsNowhere]
  rfl

section Discovery

variable {system : FileSystem} (isTree : system.IsFileTree) {root : String}

include isTree

/-- Discovery finds just the fixtures at a path, and a place in slashes is their category. -/
theorem mem_entries_discover {name path : String} :
    (name, path) ∈ entries (discover system root) ↔
      ∃ file place, IsFixture system root file place path ∧ name = slashed place := by
  cases leads : system.resolve root with
  | error failure =>
      rw [discover_of_error leads]
      constructor
      · intro member
        contradiction
      · rintro ⟨file, place, isFixture, -⟩
        cases isFixture with
        | alone leadsToFile => simp [leads] at leadsToFile
        | below leadsBelow => simp [leads] at leadsBelow
  | ok found =>
      cases found with
      | file file =>
          rw [entries_discover_of_file leads, List.mem_singleton, Prod.mk.injEq]
          constructor
          · rintro ⟨rfl, rfl⟩
            exact ⟨file, "", .alone leads, rfl⟩
          · rintro ⟨file, place, isFixture, rfl⟩
            cases isFixture with
            | alone => exact ⟨rfl, rfl⟩
            | below leadsBelow => simp [leads] at leadsBelow
      | directory names =>
          rw [(entries_discover_perm leads).mem_iff, List.mem_map]
          simp only [mem_fixtureNames leads isTree, entryAt, Prod.mk.injEq]
          constructor
          · rintro ⟨place, ⟨⟨file, member, stands⟩, inner, stem, rfl⟩, rfl, rfl⟩
            exact ⟨file, _, .below leads member stands, nameOf_concat inner _⟩
          · rintro ⟨file, place, isFixture, rfl⟩
            cases isFixture with
            | alone leadsToFile => simp [leads] at leadsToFile
            | @below otherNames inner stem leadsBelow member stands =>
              obtain rfl : names = otherNames := by simpa [leads] using leadsBelow
              exact
                ⟨_, ⟨⟨file, member, stands⟩, inner, stem, rfl⟩, nameOf_concat inner _, rfl⟩

/-- Discovery finds no fixture twice. -/
theorem nodup_paths_discover :
    ((entries (discover system root)).map Prod.snd).Nodup := by
  cases leads : system.resolve root with
  | error failure =>
      simp [discover_of_error leads, entries]
  | ok found =>
      cases found with
      | file file =>
          simp [entries_discover_of_file leads]
      | directory names =>
          rw [((entries_discover_perm leads).map Prod.snd).nodup_iff, List.map_map]
          refine List.Nodup.map_on ?_ (nodup_fixtureNames leads)
          intro first isFirst second isSecond samePath
          obtain ⟨⟨firstFile, firstMember, firstStands⟩, firstInner, firstStem, rfl⟩ :=
            (mem_fixtureNames leads isTree).mp isFirst
          obtain ⟨⟨secondFile, secondMember, secondStands⟩, secondInner, secondStem, rfl⟩ :=
            (mem_fixtureNames leads isTree).mp isSecond
          have firstLeads := FileSystem.resolve_file isTree firstMember leads firstStands (by simp)
          have secondLeads :=
            FileSystem.resolve_file isTree secondMember leads secondStands (by simp)
          have sameFile : firstFile = secondFile := by
            have sameFound := congrArg system.resolve samePath
            simpa [entryAt, firstLeads, secondLeads] using sameFound
          rw [sameFile, secondStands] at firstStands
          exact (List.append_cancel_left firstStands).symm

end Discovery

end Category

end Tangle
