import Mathlib.Data.List.Forall2
import Mathlib.Data.List.Induction
import Tangle.Build
import Tangle.Proofs.Project.DocumentOrder
import Tangle.Proofs.Project.Writers

namespace Tangle

/-!
# Diagnostics belong to their documents

Each diagnostic of a document is about one of its code blocks, at whose turn it
was reported, and no block is reported twice.  Where several documents are
united, the diagnostics of each are followed by the conflicts it brings in, and
all of them carry its number.  A build numbers documents in the order in which
it reads them, so a report with a place in a text names the right document.
-/

/--
A diagnostic is about the code block at a place of a document: at the turn of
that block compiling adds it behind those that were there, and does nothing else.
-/
structure Document.ReportsAt
    (document : Document) (requested : List String) (fileId place : Nat)
    (diagnostic : Diagnostic) : Prop where
  isNode :
    ∃ code span, document.nodes[place]? = some (.code code span) ∧ diagnostic.span = some span
  number : diagnostic.fileId = fileId
  adds :
    (Compilation.reached document requested fileId
      (document.blocksBefore place)).project.AddsDiagnostic diagnostic
        (Compilation.reached document requested fileId (document.blocksBefore place + 1)).project

namespace Document

variable (document : Document) (requested : List String) (fileId : Nat)

/-- Past a code block there is one block more, past any other element there is not. -/
theorem blocksBefore_succ (place : Nat) :
    document.blocksBefore (place + 1) =
      document.blocksBefore place +
        (document.nodes[place]?.bind Node.placedCode?).toList.length := by
  rw [blocksBefore, blocksBefore, List.take_add_one, List.filterMap_append, List.length_append]
  cases document.nodes[place]? with
  | none =>
      rfl
  | some node =>
      cases node <;> rfl

/-- All blocks of a document stand before its end. -/
theorem blocksBefore_length :
    document.blocksBefore document.nodes.length = (Outline.ofDocument document).blocks.length := by
  rw [blocksBefore, List.take_length]
  exact (Outline.length_walk_blocks 0 [] document.nodes).symm

/-- The diagnostics met in front of a place of a document. -/
def diagnosticsBefore (place : Nat) : List Diagnostic :=
  (Compilation.reached document requested fileId
    (document.blocksBefore place)).project.diagnostics

/-- From one place to the next nothing is reported, or one diagnostic about the code block there. -/
theorem diagnosticsBefore_succ (place : Nat) :
    document.diagnosticsBefore requested fileId (place + 1) =
        document.diagnosticsBefore requested fileId place ∨
      ∃ diagnostic, document.ReportsAt requested fileId place diagnostic ∧
        document.diagnosticsBefore requested fileId (place + 1) =
          document.diagnosticsBefore requested fileId place ++ [diagnostic] := by
  rw [diagnosticsBefore, diagnosticsBefore, blocksBefore_succ]
  cases isCode : document.nodes[place]?.bind Node.placedCode? with
  | none =>
      exact Or.inl rfl
  | some placed =>
      obtain ⟨node, here, isBlock⟩ := Option.bind_eq_some_iff.mp isCode
      cases node with
      | heading title span => contradiction
      | other span => contradiction
      | code code span =>
          have isPlaced := Outline.getElem?_blocks_ofDocument here
          rcases Compilation.reached_succ_cases document requested fileId
              (document.blocksBefore place) with
            unchanged | ⟨block, effect, found, _, explains⟩
          · exact Or.inl (congrArg (·.project.diagnostics) unchanged)
          · rw [isPlaced] at found
            cases found
            have added := explains.parts.2.2
            cases effect with
            | written path contents =>
                exact Or.inl (added.trans (List.append_nil _))
            | startup script =>
                exact Or.inl (added.trans (List.append_nil _))
            | reported diagnostic =>
                obtain ⟨atBlock, number, adds⟩ := explains
                exact Or.inr ⟨diagnostic, ⟨⟨code, span, here, atBlock⟩, number, adds⟩, added⟩

/--
In front of any place of a document there are as many code blocks that are
reported as there are diagnostics, and both are in the same order.
-/
theorem exists_places_before (place : Nat) :
    ∃ places : List Nat, places.Pairwise (· < ·) ∧ (∀ earlier ∈ places, earlier < place) ∧
      List.Forall₂ (document.ReportsAt requested fileId) places
        (document.diagnosticsBefore requested fileId place) := by
  induction place with
  | zero =>
      exact ⟨[], .nil, by simp, .nil⟩
  | succ place inductionHypothesis =>
      obtain ⟨places, ascending, before, reports⟩ := inductionHypothesis
      have beforeNext : ∀ earlier ∈ places, earlier < place + 1 :=
        fun earlier member => Nat.lt_succ_of_lt (before earlier member)
      rcases document.diagnosticsBefore_succ requested fileId place with
          unchanged | ⟨diagnostic, reportsHere, added⟩
      · rw [unchanged]
        exact ⟨places, ascending, beforeNext, reports⟩
      · refine ⟨places ++ [place], ?_, ?_, ?_⟩
        · refine List.pairwise_append.mpr ⟨ascending, List.pairwise_singleton _ _, ?_⟩
          simpa using before
        · simpa [or_imp, forall_and] using beforeNext
        · rw [added]
          exact List.rel_append reports (.cons reportsHere .nil)

/-- Every diagnostic of a document is about one code block, and none is reported twice. -/
theorem exists_places :
    ∃ places : List Nat, places.Pairwise (· < ·) ∧
      List.Forall₂ (document.ReportsAt requested fileId) places
        (document.compile requested fileId).diagnostics := by
  obtain ⟨places, ascending, _, reports⟩ :=
    document.exists_places_before requested fileId document.nodes.length
  rw [diagnosticsBefore, blocksBefore_length, Compilation.reached_all] at reports
  exact ⟨places, ascending, reports⟩

/-- What is reported of a document bears its number. -/
theorem fileId_of_mem_compile :
    ∀ diagnostic ∈ (document.compile requested fileId).diagnostics,
      diagnostic.fileId = fileId := by
  obtain ⟨places, _, reports⟩ := document.exists_places requested fileId
  have eachNumbered :
      List.Forall₂ (fun (diagnostic : Diagnostic) (_ : Nat) => diagnostic.fileId = fileId ∧ True)
        (document.compile requested fileId).diagnostics places :=
    reports.flip.imp fun _ _ reported => ⟨reported.number, trivial⟩
  exact ((List.forall₂_and_left _ _).mp eachNumbered).1

end Document

namespace Project

/-- The conflicts that the document at a position brings into the union of those before it. -/
def conflictsAt
    (documents : List Document) (requested : List String) (position : Nat)
    (document : Document) : List Conflict :=
  ((ofDocuments (documents.take position) requested).tree.merge
    (document.compile requested position).tree).conflicts

/-- What is reported for the document at a position: its own diagnostics, then its conflicts. -/
def diagnosticsAt
    (documents : List Document) (requested : List String) (position : Nat)
    (document : Document) : List Diagnostic :=
  (document.compile requested position).diagnostics ++
    (conflictsAt documents requested position document).map (Conflict.diagnostic position)

/-- A further document adds its own diagnostics and its conflicts behind all others. -/
theorem diagnostics_ofDocuments_append
    (documents : List Document) (requested : List String) (document : Document) :
    (ofDocuments (documents ++ [document]) requested).diagnostics =
      (ofDocuments documents requested).diagnostics ++
        ((document.compile requested documents.length).diagnostics ++
          ((ofDocuments documents requested).tree.merge
              (document.compile requested documents.length).tree).conflicts.map
            (Conflict.diagnostic documents.length)) := by
  rw [ofDocuments, compileEach_append, Collection.addAll_append, length_compileEach,
    Nat.zero_add, ← List.append_assoc]
  rfl

/--
The diagnostics of united documents are those at each of them, one document after
the other.  A document more at the end is none of those before the others.
-/
theorem diagnostics_ofDocuments (documents : List Document) (requested : List String) :
    (ofDocuments documents requested).diagnostics =
      documents.zipIdx.flatMap fun numbered =>
        diagnosticsAt documents requested numbered.2 numbered.1 := by
  induction documents using List.reverseRecOn with
  | nil =>
      rfl
  | append_singleton documents document inductionHypothesis =>
      have sameBefore :
          documents.zipIdx.flatMap
              (fun numbered => diagnosticsAt documents requested numbered.2 numbered.1) =
            documents.zipIdx.flatMap fun numbered =>
              diagnosticsAt (documents ++ [document]) requested numbered.2 numbered.1 := by
        apply List.flatMap_congr
        intro numbered member
        have inside : numbered.2 ≤ documents.length := by
          have behind := List.snd_lt_add_of_mem_zipIdx member
          omega
        rw [diagnosticsAt, diagnosticsAt, conflictsAt, conflictsAt,
          List.take_append_of_le_length inside]
      rw [diagnostics_ofDocuments_append, inductionHypothesis, sameBefore, List.zipIdx_append,
        List.flatMap_append, List.zipIdx_singleton, List.flatMap_singleton, Nat.zero_add,
        diagnosticsAt, conflictsAt, List.take_left]

/-- All that is reported for a document has its number. -/
theorem fileId_of_mem_diagnosticsAt
    {documents : List Document} {requested : List String} {position : Nat} {document : Document}
    {diagnostic : Diagnostic}
    (member : diagnostic ∈ diagnosticsAt documents requested position document) :
    diagnostic.fileId = position := by
  rcases List.mem_append.mp member with own | ofConflict
  · exact document.fileId_of_mem_compile requested position diagnostic own
  · obtain ⟨conflict, _, rfl⟩ := List.mem_map.mp ofConflict
    rfl

/-- The numbers of the documents never go down along the diagnostics. -/
theorem fileIds_ascending (documents : List Document) (requested : List String) :
    ((ofDocuments documents requested).diagnostics.map Diagnostic.fileId).Pairwise (· ≤ ·) := by
  rw [diagnostics_ofDocuments, List.pairwise_map, List.pairwise_flatMap]
  constructor
  · intro numbered _
    apply List.pairwise_iff_forall_sublist.mpr
    intro first second both
    have firstNumber := fileId_of_mem_diagnosticsAt (both.subset List.mem_cons_self)
    have secondNumber :=
      fileId_of_mem_diagnosticsAt (both.subset (List.mem_cons_of_mem _ (List.mem_singleton_self _)))
    omega
  · have numbersAscend : (documents.zipIdx.map Prod.snd).Pairwise (· < ·) := by
      rw [List.zipIdx_map_snd]
      exact List.pairwise_lt_range'
    apply (List.pairwise_map.mp numbersAscend).imp
    intro earlier later before first firstMember second secondMember
    rw [fileId_of_mem_diagnosticsAt firstMember, fileId_of_mem_diagnosticsAt secondMember]
    exact Nat.le_of_lt before

end Project

namespace SourceFile

/-- How a report tells a place in a source. -/
def locator (file : SourceFile) (span : Span) : String :=
  let position := Position.ofOffset file.text span.start
  "at " ++ file.path ++ ":" ++ toString position.line ++ ":" ++ toString position.column

/-- Reading all files gives them under their paths, in order, with the texts they have. -/
theorem of_readAll
    {system : FileSystem} {paths : List String} {files : List SourceFile}
    (allRead : readAll system paths = .ok files) :
    files.map SourceFile.path = paths ∧
      ∀ file ∈ files, system.readText file.path = .ok file.text := by
  induction paths generalizing files with
  | nil =>
      cases allRead
      exact ⟨rfl, by simp⟩
  | cons path rest inductionHypothesis =>
      rw [readAll, read] at allRead
      cases text : system.readText path with
      | error failure =>
          rw [text] at allRead
          contradiction
      | ok content =>
          rw [text] at allRead
          cases others : readAll system rest with
          | error failure =>
              rw [others] at allRead
              contradiction
          | ok later =>
              rw [others] at allRead
              cases allRead
              obtain ⟨samePaths, sameTexts⟩ := inductionHypothesis others
              exact ⟨congrArg (path :: ·) samePaths, List.forall_mem_cons.mpr ⟨text, sameTexts⟩⟩

end SourceFile

namespace Diagnostic

/-- A diagnostic with a place is reported with that place in the source that has its number. -/
theorem reportLines_of_source
    {sources : List SourceFile} {diagnostic : Diagnostic} {file : SourceFile}
    (isSource : sources[diagnostic.fileId]? = some file) :
    diagnostic.reportLines sources =
      diagnostic.headline :: (diagnostic.span.map file.locator).toList := by
  rw [reportLines, locator?, isSource]
  cases diagnostic.span <;> rfl

end Diagnostic

namespace BuildRequest

/-- The lines about a document that a build has read: each diagnostic with its place there. -/
def reportsAt
    (documents : List Document) (requested : List String) (position : Nat) (file : SourceFile) :
    List String :=
  (Project.diagnosticsAt documents requested position (Markdown.read file.text)).flatMap
    fun diagnostic => diagnostic.headline :: (diagnostic.span.map file.locator).toList

/-- A build reports on its documents in the order in which they were read. -/
theorem reports_showProject
    (request : BuildRequest) (files : List SourceFile) (requested : List String) :
    (request.showProject files requested).reports =
      files.zipIdx.flatMap fun numbered =>
        reportsAt (files.map fun file => Markdown.read file.text) requested numbered.2
          numbered.1 := by
  have reported :
      (request.showProject files requested).reports =
        (Project.ofSources (files.map SourceFile.text) requested).diagnostics.flatMap
          (Diagnostic.reportLines files) := by
    rw [showProject]
    cases request.checkOnly with
    | true => rfl
    | false => cases request.view <;> rfl
  rw [reported, Project.ofSources, List.map_map, Project.diagnostics_ofDocuments, List.zipIdx_map,
    List.flatMap_map, List.flatMap_assoc]
  apply List.flatMap_congr
  intro numbered member
  rw [reportsAt]
  apply List.flatMap_congr
  intro diagnostic isReported
  apply Diagnostic.reportLines_of_source
  rw [Project.fileId_of_mem_diagnosticsAt isReported]
  exact List.mem_zipIdx_iff_getElem?.mp member

end BuildRequest

/--
Diagnostics are attributed to their documents.  Those of several documents are,
document by document, first its own ones and then its conflicts, all under its
number, so the numbers never go down.  The own ones are each about one code
block of the document, in the order of the blocks and none about two; the
conflicts are the places at which its tree clashes with the union of those
before it, each once.  A build numbers its documents in the order in which it
reads them, and every place that it reports is one in the document of the block.
-/
theorem Project.diagnostics_attributed :
    (∀ (documents : List Document) (requested : List String),
      (Project.ofDocuments documents requested).diagnostics =
          documents.zipIdx.flatMap (fun numbered =>
            (numbered.1.compile requested numbered.2).diagnostics ++
              (Project.conflictsAt documents requested numbered.2 numbered.1).map
                (Conflict.diagnostic numbered.2)) ∧
        ((Project.ofDocuments documents requested).diagnostics.map
          Diagnostic.fileId).Pairwise (· ≤ ·) ∧
        ∀ (position : Nat) (document : Document), documents[position]? = some document →
          (∃ places : List Nat, places.Pairwise (· < ·) ∧
            List.Forall₂ (document.ReportsAt requested position) places
              (document.compile requested position).diagnostics) ∧
          ((Project.conflictsAt documents requested position document).map
            Conflict.names).Nodup ∧
          ∀ conflict, conflict ∈ Project.conflictsAt documents requested position document ↔
            (Project.ofDocuments (documents.take position) requested).tree.Clash
              (document.compile requested position).tree conflict) ∧
    ∀ (request : BuildRequest) (system : FileSystem) (result : BuildResult),
      request.run system = .ok result → request.view ≠ .blocks →
        ∃ (paths requested : List String) (files : List SourceFile),
          request.sources system = .ok (paths, requested) ∧
            files.map SourceFile.path = paths ∧
            (∀ file ∈ files, system.readText file.path = .ok file.text) ∧
            result.reports =
              files.zipIdx.flatMap fun numbered =>
                BuildRequest.reportsAt (files.map fun file => Markdown.read file.text) requested
                  numbered.2 numbered.1 := by
  constructor
  · intro documents requested
    refine ⟨Project.diagnostics_ofDocuments documents requested,
      Project.fileIds_ascending documents requested, ?_⟩
    intro position document _
    have ordered : (document.compile requested position).tree.Ordered :=
      (document.regular_compile requested position).ordered
    refine ⟨document.exists_places requested position, ?_, ?_⟩
    · have ascending := ordered.conflicts_pairwise []
        (Project.ofDocuments (documents.take position) requested).tree
      rw [List.Nodup, List.pairwise_map]
      apply ascending.imp
      intro first second before same
      rw [same] at before
      exact List.lt_irrefl _ before
    · intro conflict
      rw [Project.conflictsAt, Tree.merge, Tree.mem_conflicts_mergeAt_iff ordered]
      constructor
      · intro clashes
        obtain ⟨inner, clash, same⟩ := clashes
        have here : inner.below [] = inner := by cases inner <;> rfl
        rw [same, here]
        exact clash
      · intro clash
        exact ⟨conflict, clash, by cases conflict <;> rfl⟩
  · intro request system result success notListing
    rw [BuildRequest.run] at success
    cases isRead : request.sources system with
    | error failure =>
        rw [isRead] at success
        contradiction
    | ok found =>
        obtain ⟨paths, requested⟩ := found
        rw [isRead] at success
        dsimp only at success
        split at success
        · contradiction
        · split at success
          · contradiction
          · rename_i files allRead
            obtain ⟨samePaths, sameTexts⟩ := SourceFile.of_readAll allRead
            refine ⟨paths, requested, files, rfl, samePaths, sameTexts, ?_⟩
            split at success
            · contradiction
            · cases success
              exact request.reports_showProject files requested

/-- A build of two documents, one of them by its absolute path. -/
def BuildRequest.twoDocuments : BuildRequest :=
  ⟨["/a.md", "b.md"], [], "", .tree, true⟩

/-- Two documents with an unknown directive each, before and behind the block that clashes. -/
def FileSystem.twoDocuments : FileSystem :=
  let first :=
    "\x60\x60\x60x rmsm://no\n\x60\x60\x60\n\x60\x60\x60x file://p\n\x60\x60\x60\n"
  let second :=
    "# b\n\n\x60\x60\x60x file://p/q\n\x60\x60\x60\n\x60\x60\x60x rmsm://on\n\x60\x60\x60\n"
  ⟨⟨[⟨["a.md"], first.toList.map Char.toNat⟩, ⟨["c", "b.md"], second.toList.map Char.toNat⟩], []⟩,
    ["c"]⟩

/-- What the build of these documents leaves. -/
def BuildResult.twoDocuments : BuildResult :=
  ⟨1, "",
    ["error: Invalid rmsm protocol value: no", "at /a.md:1:1",
      "error: Invalid rmsm protocol value: on", "at b.md:5:1",
      "error: p is defined as both a file and a directory"]⟩

/-- A build of two documents, with each report at its own file. -/
theorem Project.twoDocuments_attributed :
    BuildRequest.twoDocuments.run FileSystem.twoDocuments = .ok BuildResult.twoDocuments ∧
      BuildRequest.twoDocuments.view ≠ .blocks ∧
      ∃ (paths requested : List String) (files : List SourceFile),
        BuildRequest.twoDocuments.sources FileSystem.twoDocuments = .ok (paths, requested) ∧
          files.map SourceFile.path = paths ∧
          (∀ file ∈ files, FileSystem.twoDocuments.readText file.path = .ok file.text) ∧
          BuildResult.twoDocuments.reports =
            files.zipIdx.flatMap fun numbered =>
              BuildRequest.reportsAt (files.map fun file => Markdown.read file.text) requested
                numbered.2 numbered.1 := by
  have runs :
      BuildRequest.twoDocuments.run FileSystem.twoDocuments = .ok BuildResult.twoDocuments := by
    decide +kernel
  have noListing : BuildRequest.twoDocuments.view ≠ .blocks := by decide
  exact ⟨runs, noListing, Project.diagnostics_attributed.2 _ _ _ runs noListing⟩

end Tangle
