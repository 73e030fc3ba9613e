import Tangle.Proofs.Project.Pruning
import Tangle.Proofs.Project.Union
import Tangle.Proofs.Tree.MergeLaws

namespace Tangle

/-!
# Numbers of documents, and documents that add nothing

The number of a document is a label: it is passed on into diagnostics, and no
decision depends on it.  So it comes to the same whether documents are numbered
otherwise before they are compiled and united, or their diagnostics afterwards.
A single document is therefore united to what it compiles to, and one of which
no block is selected only moves the numbers of the documents behind it.
-/

/-- A diagnostic whose document has been numbered otherwise. -/
def Diagnostic.renumber (number : Nat → Nat) (diagnostic : Diagnostic) : Diagnostic :=
  { diagnostic with fileId := number diagnostic.fileId }

/-- The number of a document when another one has been put in at a position. -/
def numberBeside (position number : Nat) : Nat :=
  if number < position then number else number + 1

/-- A project whose documents have been numbered otherwise. -/
def Project.renumber (number : Nat → Nat) (project : Project) : Project :=
  { project with diagnostics := project.diagnostics.map (Diagnostic.renumber number) }

/-- A compilation whose document has been numbered otherwise. -/
def Compilation.renumber (number : Nat → Nat) (state : Compilation) : Compilation :=
  { state with project := state.project.renumber number }

/-- A collection whose documents have been numbered otherwise. -/
def Collection.renumber (number : Nat → Nat) (collection : Collection) : Collection :=
  { collection with diagnostics := collection.diagnostics.map (Diagnostic.renumber number) }

namespace Project

variable (number : Nat → Nat) (project : Project)

/-- A diagnostic may be renumbered before it is reported, or with the project. -/
theorem renumber_report (diagnostic : Diagnostic) :
    (project.report diagnostic).renumber number =
      (project.renumber number).report (diagnostic.renumber number) := by
  simp [renumber, report]

/-- Renumbering leaves the messages as they are. -/
theorem messages_renumber : (project.renumber number).messages = project.messages := by
  simp [renumber, messages, Diagnostic.renumber]

variable (block : PlacedBlock) (fileId : Nat)

/-- A project is written to alike under the other numbers. -/
theorem renumber_writeFile (path : String) :
    (project.writeFile block fileId path).renumber number =
      (project.renumber number).writeFile block (number fileId) path := by
  have sameTree : (project.renumber number).tree = project.tree := rfl
  rw [writeFile, writeFile, sameTree]
  cases project.tree.write path block.code.content with
  | error failure =>
      exact project.renumber_report number _
  | ok tree =>
      rfl

/-- It takes a startup script alike. -/
theorem renumber_takeStartup :
    (project.takeStartup block fileId).renumber number =
      (project.renumber number).takeStartup block (number fileId) := by
  have sameStartup : (project.renumber number).startup = project.startup := rfl
  rw [takeStartup, takeStartup, sameStartup]
  cases project.startup with
  | some script =>
      exact project.renumber_report number _
  | none =>
      by_cases inBash : block.code.language = some startupLanguage
      · simp only [if_pos inBash]
        rfl
      · simp only [if_neg inBash]
        exact project.renumber_report number _

end Project

namespace Compilation

variable (number : Nat → Nat) (outline : Outline) (fileId : Nat)

/-- Carrying out a block under another number only reports it under that number. -/
theorem renumber_carryOut (state : Compilation) (block : PlacedBlock) :
    (state.carryOut outline fileId block).renumber number =
      (state.renumber number).carryOut outline (number fileId) block := by
  have sameNaming : (state.renumber number).naming = state.naming := rfl
  have sameProject : (state.renumber number).project = state.project.renumber number := rfl
  rw [carryOut, carryOut, sameNaming, sameProject]
  cases Target.ofDetails block.code.details with
  | error unknown =>
      simp only [renumber, Project.renumber_report]
      rfl
  | ok target =>
      cases target with
      | file path =>
          cases path <;> simp only [renumber, Project.renumber_writeFile]
      | directive directive =>
          cases directive
          simp only [renumber, Project.renumber_takeStartup]

/-- So a run under other numbers gives the same project with other numbers. -/
theorem renumber_run (requested : List String) (state : Compilation) (blocks : List PlacedBlock) :
    (state.run outline requested fileId blocks).renumber number =
      (state.renumber number).run outline requested (number fileId) blocks := by
  induction blocks generalizing state with
  | nil =>
      rfl
  | cons block rest inductionHypothesis =>
      have oneStep :
          (step outline requested fileId state block).renumber number =
            step outline requested (number fileId) (state.renumber number) block := by
        rw [step, step]
        split
        · exact renumber_carryOut number outline fileId state block
        · rfl
      rw [run_cons, run_cons, inductionHypothesis, oneStep]

end Compilation

namespace Document

variable (document : Document) (requested : List String) (fileId : Nat)

/-- A document compiles under another number to the same, reported under that number. -/
theorem renumber_compile (number : Nat → Nat) :
    (document.compile requested fileId).renumber number =
      document.compile requested (number fileId) := by
  have sameRun :=
    Compilation.renumber_run number (Outline.ofDocument document) fileId requested .start
      (Outline.ofDocument document).blocks
  exact congrArg Compilation.project sameRun

/-- A document of which no block is selected compiles to nothing. -/
theorem compile_eq_empty
    (noneSelected :
      ∀ block ∈ (Outline.ofDocument document).blocks,
        (Outline.ofDocument document).selects requested block = false) :
    document.compile requested fileId = .empty := by
  have nothingLeft :
      (Outline.ofDocument document).blocks.filter
          ((Outline.ofDocument document).selects requested) = [] := by
    apply List.filter_eq_nil_iff.mpr
    intro block member
    simp [noneSelected block member]
  rw [compile, Compilation.run_eq_foldl_selected, nothingLeft]
  rfl

end Document

namespace Collection

/-- A project may be renumbered before it is added, or with the collection. -/
theorem renumber_add
    (number : Nat → Nat) (collection : Collection) (project : Project) (fileId : Nat) :
    (collection.add project fileId).renumber number =
      (collection.renumber number).add (project.renumber number) (number fileId) := by
  simp only [add, renumber, Project.renumber, List.map_append, List.map_map]
  rfl

/-- Documents are united under other numbers to the same, reported under those numbers. -/
theorem renumber_addAll
    {number : Nat → Nat} {first target : Nat} (requested : List String) (documents : List Document)
    (moves : ∀ position < documents.length, number (first + position) = target + position)
    (collection : Collection) :
    (collection.addAll first (Project.compileEach requested first documents)).renumber number =
      (collection.renumber number).addAll target
        (Project.compileEach requested target documents) := by
  induction documents generalizing collection first target with
  | nil =>
      rfl
  | cons document rest inductionHypothesis =>
      have moved : number first = target := moves 0 (by simp)
      have restMoves :
          ∀ position < rest.length, number (first + 1 + position) = target + 1 + position := by
        intro position inside
        have later := moves (position + 1) (by simpa using inside)
        rw [Nat.add_right_comm, Nat.add_right_comm target]
        exact later
      rw [Project.compileEach, Project.compileEach, addAll, addAll, inductionHypothesis restMoves,
        renumber_add, Document.renumber_compile, moved]

/-- Or once the collection is complete. -/
theorem finish_renumber (number : Nat → Nat) (collection : Collection) :
    (collection.renumber number).finish = collection.finish.renumber number :=
  rfl

/-- A project without anything adds nothing. -/
theorem add_empty (collection : Collection) (fileId : Nat) :
    collection.add .empty fileId = collection := by
  simp [add, Project.empty, Tree.merge_empty]

/-- One project alone is collected as it is. -/
theorem finish_add_empty
    {project : Project} (ordered : project.tree.Ordered) (fileId : Nat) :
    (Collection.empty.add project fileId).finish = project := by
  obtain ⟨tree, script, diagnostics⟩ := project
  have sameTree : Collection.empty.tree.merge tree = ⟨tree, []⟩ := Tree.empty_merge ordered
  simp only [add, sameTree]
  cases script <;> simp [finish, startup, empty]

end Collection

namespace Project

/-- One document alone makes the project that it is compiled to. -/
theorem ofDocuments_singleton (document : Document) (requested : List String) :
    ofDocuments [document] requested = document.compile requested 0 :=
  Collection.finish_add_empty (document.regular_compile requested 0).ordered 0

/-- A document that compiles to nothing only moves the numbers of the documents behind it. -/
theorem ofDocuments_insert
    {document : Document} {requested : List String} (front back : List Document)
    (compilesToNothing : document.compile requested front.length = .empty) :
    ofDocuments (front ++ document :: back) requested =
      (ofDocuments (front ++ back) requested).renumber (numberBeside front.length) := by
  have frontStays :
      (Collection.empty.addAll 0 (compileEach requested 0 front)).renumber
          (numberBeside front.length) =
        Collection.empty.addAll 0 (compileEach requested 0 front) := by
    apply Collection.renumber_addAll requested front
    intro position inside
    simp [numberBeside, inside]
  have backMoves :
      ∀ position < back.length,
        numberBeside front.length (front.length + position) = front.length + 1 + position := by
    intro position _
    simp only [numberBeside]
    split <;> omega
  rw [ofDocuments, ofDocuments, compileEach_append, compileEach_append, Collection.addAll_append,
    Collection.addAll_append, length_compileEach, Nat.zero_add, compileEach, Collection.addAll,
    compilesToNothing, Collection.add_empty, ← Collection.finish_renumber,
    Collection.renumber_addAll requested back backMoves, frontStays]

/--
The units of uniting documents.  A single document is united to the very project
that it compiles to under the number zero.  A document of which no block is
selected can be put in at any position: the tree, the startup script and the
messages stay as they are, and so do all diagnostics but for the numbers of the
documents behind that position, which go up by one.
-/
theorem ofDocuments_units (requested : List String) :
    (∀ document : Document,
      ofDocuments [document] requested = document.compile requested 0) ∧
    ∀ (front back : List Document) (document : Document),
      (∀ block ∈ (Outline.ofDocument document).blocks,
        (Outline.ofDocument document).selects requested block = false) →
      (ofDocuments (front ++ document :: back) requested).tree =
          (ofDocuments (front ++ back) requested).tree ∧
        (ofDocuments (front ++ document :: back) requested).startup =
          (ofDocuments (front ++ back) requested).startup ∧
        (ofDocuments (front ++ document :: back) requested).messages =
          (ofDocuments (front ++ back) requested).messages ∧
        (ofDocuments (front ++ document :: back) requested).diagnostics =
          (ofDocuments (front ++ back) requested).diagnostics.map fun diagnostic =>
            if diagnostic.fileId < front.length then diagnostic
            else { diagnostic with fileId := diagnostic.fileId + 1 } := by
  refine ⟨fun document => ofDocuments_singleton document requested, ?_⟩
  intro front back document noneSelected
  have inserted :=
    ofDocuments_insert front back (document.compile_eq_empty requested front.length noneSelected)
  refine ⟨by rw [inserted]; rfl, by rw [inserted]; rfl, ?_, ?_⟩
  · rw [inserted, messages_renumber]
  · rw [inserted]
    apply List.map_congr_left
    intro diagnostic _
    rw [Diagnostic.renumber, numberBeside]
    split <;> rfl

/-- Two documents that write one file with different contents under a heading. -/
def disagreeingPair : List Document :=
  [⟨[.heading ⟨1, some "A"⟩ ⟨0, 1⟩, .code ⟨some "js", some "file://x", "1"⟩ ⟨2, 3⟩]⟩,
    ⟨[.heading ⟨1, some "A"⟩ ⟨0, 1⟩, .code ⟨some "js", some "file://x", "2"⟩ ⟨2, 3⟩]⟩]

/-- A document whose only block stands under no heading. -/
def headlessDocument : Document :=
  ⟨[.code ⟨some "js", some "file://x", "3"⟩ ⟨0, 1⟩]⟩

/-- A document without selected blocks between two others moves the number of the second. -/
theorem headlessDocument_between :
    (∀ block ∈ (Outline.ofDocument headlessDocument).blocks,
      (Outline.ofDocument headlessDocument).selects ["a"] block = false) ∧
      (ofDocuments (disagreeingPair.take 1 ++ headlessDocument :: disagreeingPair.drop 1)
          ["a"]).tree =
        (ofDocuments disagreeingPair ["a"]).tree ∧
      (ofDocuments disagreeingPair ["a"]).diagnostics.map Diagnostic.fileId = [1] ∧
      (ofDocuments (disagreeingPair.take 1 ++ headlessDocument :: disagreeingPair.drop 1)
          ["a"]).diagnostics.map Diagnostic.fileId = [2] := by
  have noneSelected :
      ∀ block ∈ (Outline.ofDocument headlessDocument).blocks,
        (Outline.ofDocument headlessDocument).selects ["a"] block = false := by
    decide +kernel
  have fileIds : (ofDocuments disagreeingPair ["a"]).diagnostics.map Diagnostic.fileId = [1] := by
    decide +kernel
  obtain ⟨sameTree, _, _, moved⟩ :=
    (ofDocuments_units ["a"]).2 (disagreeingPair.take 1) (disagreeingPair.drop 1) headlessDocument
      noneSelected
  refine ⟨noneSelected, sameTree, fileIds, ?_⟩
  rw [moved, List.take_append_drop]
  decide +kernel

end Project

end Tangle
