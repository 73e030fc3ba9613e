import Tangle.Project.Merge
import Tangle.Proofs.Project.Listing
import Tangle.Proofs.Tree.WellFormed

namespace Tangle

/-!
# The union of compiled documents

Projects are united one after another, and of each the tree brings in what the
trees before it leave room for.  So the first definition of a file is the one
that stays, and a file that does not come in is covered by a conflict that is
reported under the number of its document.
-/

/-- Compiling a document gives a regular tree. -/
theorem Document.regular_compile (document : Document) (requested : List String) (fileId : Nat) :
    (document.compile requested fileId).tree.Regular := by
  rw [compile, Compilation.run_tree]
  exact .of_refines (Refines.writeRun _).2

namespace Collection

/-- Adding projects goes on where it has come to. -/
theorem addAll_append
    (collection : Collection) (first : Nat) (front back : List Project) :
    collection.addAll first (front ++ back) =
      (collection.addAll first front).addAll (first + front.length) back := by
  induction front generalizing collection first with
  | nil =>
      rfl
  | cons project rest inductionHypothesis =>
      rw [List.cons_append, addAll, inductionHypothesis, addAll, List.length_cons, Nat.add_assoc,
        Nat.add_comm 1]

/-- What was reported stays reported as projects are added. -/
theorem diagnostics_addAll
    (collection : Collection) {first : Nat} {projects : List Project} {diagnostic : Diagnostic}
    (reported : diagnostic ∈ collection.diagnostics) :
    diagnostic ∈ (collection.addAll first projects).diagnostics := by
  induction projects generalizing collection first with
  | nil =>
      exact reported
  | cons project rest inductionHypothesis =>
      apply inductionHypothesis
      rw [add, List.append_assoc]
      exact List.mem_append_left _ reported

/-- A file of an added project comes in, or a conflict is reported on the way to it. -/
theorem hasFile_or_conflict_add
    (collection : Collection) {project : Project} (projectRegular : project.tree.Regular)
    (fileId : Nat) {names : List String} {contents : String}
    (file : project.tree.HasFile names contents) :
    (collection.add project fileId).tree.HasFile names contents ∨
      ∃ conflict : Conflict,
        conflict.names ≠ [] ∧ conflict.names <+: names ∧
          conflict.diagnostic fileId ∈ (collection.add project fileId).diagnostics := by
  by_cases comesIn : (collection.tree.merge project.tree).tree.HasFile names contents
  · exact Or.inl comesIn
  · obtain ⟨conflict, isConflict, front, nonempty, leads, shape⟩ :=
      Tree.exists_conflict_of_lost projectRegular.ordered file comesIn
    rw [List.nil_append] at shape
    subst shape
    have reported :
        conflict.diagnostic fileId ∈ (collection.add project fileId).diagnostics :=
      List.mem_append_right _ (List.mem_map.mpr ⟨conflict, isConflict, rfl⟩)
    exact Or.inr ⟨conflict, nonempty, leads, reported⟩

variable {collection : Collection} {projects : List Project}

/-- What merging keeps holds of the united tree when it holds of all that is united. -/
theorem tree_addAll
    {Holds : Tree → Prop}
    (merge : ∀ {mine theirs : Tree}, Holds mine → Holds theirs → Holds (mine.merge theirs).tree)
    (start : Holds collection.tree) (each : ∀ project ∈ projects, Holds project.tree)
    (first : Nat) :
    Holds (collection.addAll first projects).tree := by
  induction projects generalizing collection first with
  | nil =>
      exact start
  | cons project rest inductionHypothesis =>
      obtain ⟨projectHolds, restHolds⟩ := List.forall_mem_cons.mp each
      have added : Holds (collection.add project first).tree := merge start projectHolds
      exact inductionHypothesis added restHolds (first + 1)

variable (regular : collection.tree.Regular)
variable (allRegular : ∀ project ∈ projects, project.tree.Regular) (first : Nat)

include regular allRegular

/-- The tree stays regular. -/
theorem regular_addAll : (collection.addAll first projects).tree.Regular :=
  tree_addAll Tree.Regular.merge regular allRegular first

/-- A file stays in a collection with its contents when more projects are added. -/
theorem hasFile_addAll
    {names : List String} {contents : String} (file : collection.tree.HasFile names contents) :
    (collection.addAll first projects).tree.HasFile names contents := by
  induction projects generalizing collection first with
  | nil =>
      exact file
  | cons project rest inductionHypothesis =>
      obtain ⟨projectRegular, restRegular⟩ := List.forall_mem_cons.mp allRegular
      have kept : (collection.tree.merge project.tree).tree.HasFile names contents :=
        (Tree.hasFile_mergeAt regular.ordered projectRegular.ordered []).mpr (Or.inl file)
      exact inductionHypothesis (regular.merge projectRegular) restRegular (first + 1) kept

/-- A file of any added project comes in, or a conflict is reported on the way to it. -/
theorem hasFile_or_conflict
    {position : Nat} {project : Project} (added : projects[position]? = some project)
    {names : List String} {contents : String} (file : project.tree.HasFile names contents) :
    (collection.addAll first projects).tree.HasFile names contents ∨
      ∃ conflict : Conflict,
        conflict.names ≠ [] ∧ conflict.names <+: names ∧
          conflict.diagnostic (first + position) ∈
            (collection.addAll first projects).diagnostics := by
  induction projects generalizing collection first position with
  | nil =>
      simp at added
  | cons head rest inductionHypothesis =>
      obtain ⟨headRegular, restRegular⟩ := List.forall_mem_cons.mp allRegular
      have nextRegular : (collection.add head first).tree.Regular := regular.merge headRegular
      cases position with
      | zero =>
          cases added
          have outcome := collection.hasFile_or_conflict_add headRegular first file
          rcases outcome with comesIn | ⟨conflict, nonempty, leads, reported⟩
          · exact Or.inl (hasFile_addAll nextRegular restRegular (first + 1) comesIn)
          · refine Or.inr ⟨conflict, nonempty, leads, ?_⟩
            exact (collection.add project first).diagnostics_addAll reported
      | succ later =>
          have counted : first + (later + 1) = first + 1 + later := by omega
          rw [counted]
          exact inductionHypothesis nextRegular restRegular (first + 1) added

/--
A file of a collection was there before, or the first project that has it brought
it in: had an earlier one a file there, it would have left no room for a later one.
-/
theorem first_definition
    {names : List String} {contents : String}
    (file : (collection.addAll first projects).tree.HasFile names contents) :
    collection.tree.HasFile names contents ∨
      ¬ collection.tree.Occupied names ∧
        ∃ (position : Nat) (project : Project), projects[position]? = some project ∧
          project.tree.HasFile names contents ∧
          ∀ before < position, ∀ earlier : Project, projects[before]? = some earlier →
            ∀ text, ¬ earlier.tree.HasFile names text := by
  induction projects generalizing collection first with
  | nil =>
      exact Or.inl file
  | cons head rest inductionHypothesis =>
      obtain ⟨headRegular, restRegular⟩ := List.forall_mem_cons.mp allRegular
      have nextRegular : (collection.add head first).tree.Regular := regular.merge headRegular
      rcases inductionHypothesis nextRegular restRegular (first + 1) file with
          alreadyThere | ⟨room, position, project, added, projectFile, notEarlier⟩
      · rcases (Tree.hasFile_mergeAt regular.ordered headRegular.ordered []).mp alreadyThere with
            mineFile | ⟨room, headFile⟩
        · exact Or.inl mineFile
        · exact Or.inr ⟨room, 0, head, rfl, headFile, by simp⟩
      · have roomBefore : ¬ collection.tree.Occupied names :=
          fun occupied => room (occupied.mergeAt headRegular.ordered [])
        refine Or.inr ⟨roomBefore, position + 1, project, added, projectFile, ?_⟩
        intro before isBefore earlier found text earlierFile
        cases before with
        | zero =>
            cases found
            exact room (earlierFile.occupied_mergeAt regular.ordered headRegular.ordered [])
        | succ before =>
            exact notEarlier before (by omega) earlier found text earlierFile

end Collection

namespace Project

/-- Each document is compiled at its own number. -/
theorem getElem?_compileEach
    (requested : List String) (first : Nat) (documents : List Document) (position : Nat) :
    (compileEach requested first documents)[position]? =
      documents[position]?.map (·.compile requested (first + position)) := by
  induction documents generalizing first position with
  | nil =>
      rfl
  | cons document rest inductionHypothesis =>
      cases position with
      | zero =>
          rfl
      | succ later =>
          have counted : first + (later + 1) = first + 1 + later := by omega
          rw [counted]
          exact inductionHypothesis (first + 1) later

/-- Compiling documents one after another numbers them in their order. -/
theorem compileEach_eq_map_zipIdx
    (requested : List String) (first : Nat) (documents : List Document) :
    compileEach requested first documents =
      (documents.zipIdx first).map fun numbered => numbered.1.compile requested numbered.2 := by
  induction documents generalizing first with
  | nil =>
      rfl
  | cons document rest inductionHypothesis =>
      rw [compileEach, inductionHypothesis, List.zipIdx_cons, List.map_cons]

/-- There is a project for each document. -/
theorem length_compileEach (requested : List String) (first : Nat) (documents : List Document) :
    (compileEach requested first documents).length = documents.length := by
  rw [compileEach_eq_map_zipIdx, List.length_map, List.length_zipIdx]

/-- Further documents go on with the numbers behind those in front. -/
theorem compileEach_append
    (requested : List String) (first : Nat) (front back : List Document) :
    compileEach requested first (front ++ back) =
      compileEach requested first front ++ compileEach requested (first + front.length) back := by
  simp only [compileEach_eq_map_zipIdx, List.zipIdx_append, List.map_append]

/-- Each project is that of a document. -/
theorem exists_document_of_mem_compileEach
    {requested : List String} {first : Nat} {documents : List Document} {project : Project}
    (member : project ∈ compileEach requested first documents) :
    ∃ (document : Document) (fileId : Nat), project = document.compile requested fileId := by
  obtain ⟨position, found⟩ := List.mem_iff_getElem?.mp member
  rw [getElem?_compileEach] at found
  obtain ⟨document, _, rfl⟩ := Option.map_eq_some_iff.mp found
  exact ⟨document, first + position, rfl⟩

/-- Compiled trees are regular. -/
theorem regular_compileEach
    (requested : List String) (first : Nat) (documents : List Document) :
    ∀ project ∈ compileEach requested first documents, project.tree.Regular := by
  intro project member
  obtain ⟨document, fileId, rfl⟩ := exists_document_of_mem_compileEach member
  exact document.regular_compile requested fileId

end Project

/-- A path that a place is the text of, or that goes on from the place below a slash. -/
def IsAtOrBelow (place path : String) : Prop :=
  path = place ∨ ∃ below, path = place ++ "/" ++ below

/-- The text of a path is at or below the text of each place on the way. -/
theorem isAtOrBelow_pathText
    {front names : List String} (nonempty : front ≠ []) (leads : front <+: names)
    (plain : ∀ name ∈ names, PlainName name) :
    IsAtOrBelow (pathText front) (pathText names) := by
  obtain ⟨back, rfl⟩ := leads
  cases back with
  | nil =>
      left
      rw [List.append_nil]
  | cons name deeper =>
      right
      exact ⟨pathText (name :: deeper), pathText_append nonempty (by simp) plain⟩

/--
Uniting documents loses no file silently, and the first definition of a file
wins.  Every file that a document compiles to is in the united tree with the
same contents, or a conflict at its path or at a directory above is reported
under the number of the document; and every file of the united tree has the
contents that the first document with a file at that path gives it.
-/
theorem Project.ofDocuments_keeps_or_reports
    (documents : List Document) (requested : List String) :
    (∀ (position : Nat) (document : Document), documents[position]? = some document →
      ∀ path contents, (path, contents) ∈ (document.compile requested position).tree.files →
        (path, contents) ∈ (Project.ofDocuments documents requested).tree.files ∨
          ∃ conflict : Conflict,
            IsAtOrBelow (pathText conflict.names) path ∧
              conflict.diagnostic position ∈
                (Project.ofDocuments documents requested).diagnostics) ∧
    (∀ path contents, (path, contents) ∈ (Project.ofDocuments documents requested).tree.files →
      ∃ (position : Nat) (document : Document), documents[position]? = some document ∧
        (path, contents) ∈ (document.compile requested position).tree.files ∧
        ∀ before < position, ∀ earlier : Document, documents[before]? = some earlier →
          ∀ text, (path, text) ∉ (earlier.compile requested before).tree.files) := by
  have allRegular := Project.regular_compileEach requested 0 documents
  have emptyRegular : Collection.empty.tree.Regular := .empty
  have unitedRegular : (Project.ofDocuments documents requested).tree.Regular :=
    Collection.regular_addAll emptyRegular allRegular 0
  have projectAt :
      ∀ (position : Nat) (project : Project),
        (Project.compileEach requested 0 documents)[position]? = some project ↔
          ∃ document, documents[position]? = some document ∧
            document.compile requested position = project := by
    intro position project
    rw [Project.getElem?_compileEach, Nat.zero_add]
    exact Option.map_eq_some_iff
  constructor
  · intro position document found path contents member
    have regular := document.regular_compile requested position
    obtain ⟨names, rfl, file⟩ := regular.mem_files.mp member
    have added := (projectAt position _).mpr ⟨document, found, rfl⟩
    rcases Collection.hasFile_or_conflict emptyRegular allRegular 0 added file with
        comesIn | ⟨conflict, nonempty, leads, reported⟩
    · exact Or.inl (unitedRegular.mem_files.mpr ⟨names, rfl, comesIn⟩)
    · rw [Nat.zero_add] at reported
      have above := isAtOrBelow_pathText nonempty leads (regular.plain file)
      exact Or.inr ⟨conflict, above, reported⟩
  · intro path contents member
    obtain ⟨names, rfl, file⟩ := unitedRegular.mem_files.mp member
    rcases Collection.first_definition emptyRegular allRegular 0 file with
        impossible | ⟨_, position, project, added, projectFile, notEarlier⟩
    · simp [Collection.empty] at impossible
    · obtain ⟨document, found, rfl⟩ := (projectAt position project).mp added
      have regular := document.regular_compile requested position
      refine ⟨position, document, found, regular.mem_files.mpr ⟨names, rfl, projectFile⟩, ?_⟩
      intro before isBefore earlier earlierFound text earlierMember
      have earlierRegular := earlier.regular_compile requested before
      obtain ⟨otherNames, sameText, earlierFile⟩ := earlierRegular.mem_files.mp earlierMember
      have sameNames : names = otherNames :=
        pathText_injective_of_plain file.ne_nil earlierFile.ne_nil
          (unitedRegular.plain file) (earlierRegular.plain earlierFile) sameText
      subst sameNames
      have earlierAdded := (projectAt before _).mpr ⟨earlier, earlierFound, rfl⟩
      exact notEarlier before isBefore _ earlierAdded text earlierFile

example :
    let document := fun (path content : String) =>
      Document.mk [.code ⟨none, some ("file://" ++ path), content⟩ ⟨0, 1⟩]
    let united :=
      Project.ofDocuments [document "a" "one", document "a/b" "two", document "c" "three"] []
    united.tree.files = [("a", "one"), ("c", "three")] ∧
      united.messages = ["a is defined as both a file and a directory"] := by
  decide +kernel

end Tangle
