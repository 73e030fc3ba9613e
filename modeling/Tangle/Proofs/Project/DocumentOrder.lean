import Tangle.Proofs.Project.Account
import Tangle.Proofs.Project.Union
import Tangle.Proofs.Tree.Agreement

namespace Tangle

/-!
# Documents without conflicts may come in any order

Each document is merged into the union of those before it.  No conflict is
reported exactly when any two documents agree, which has nothing to do with
their order; and then the tree is the one union of what they compile to.
-/

/-- No conflict of merged trees is among some diagnostics. -/
def ConflictFree (diagnostics : List Diagnostic) : Prop :=
  ∀ (conflict : Conflict) (fileId : Nat), conflict.diagnostic fileId ∉ diagnostics

/-- A project has an ordered tree, and its diagnostics are about blocks. -/
structure Project.Compiled (project : Project) : Prop where
  ordered : project.tree.Ordered
  conflictFree : ConflictFree project.diagnostics

namespace Document

variable (document : Document) (requested : List String)

/-- Every diagnostic of a document tells a place in its text. -/
theorem exists_span_of_mem_compile
    {fileId : Nat} {diagnostic : Diagnostic}
    (member : diagnostic ∈ (document.compile requested fileId).diagnostics) :
    ∃ span, diagnostic.span = some span := by
  obtain ⟨effects, account⟩ :=
    Account.exists_account (Outline.ofDocument document) requested fileId .start
      (Outline.ofDocument document).blocks
  have sameDiagnostics :
      (document.compile requested fileId).diagnostics = effects.filterMap Effect.diagnostic? :=
    account.parts.2.2
  rw [sameDiagnostics] at member
  have isSpan := account.spans_sublist.subset (List.mem_map.mpr ⟨diagnostic, member, rfl⟩)
  obtain ⟨block, _, same⟩ := List.mem_map.mp isSpan
  exact ⟨block.span, same.symm⟩

/-- What a document is compiled to is a compiled project. -/
theorem compiled_compile (fileId : Nat) : (document.compile requested fileId).Compiled where
  ordered := (document.regular_compile requested fileId).ordered
  conflictFree := by
    intro conflict number member
    obtain ⟨span, hasSpan⟩ := document.exists_span_of_mem_compile requested member
    contradiction

/-- The number of a document plays no part in the tree that it compiles to. -/
theorem compile_tree_congr (fileId number : Nat) :
    (document.compile requested fileId).tree = (document.compile requested number).tree := by
  rw [compile, compile, Compilation.run_tree, Compilation.run_tree]

end Document

namespace Collection

variable {collection : Collection} {parts : List Tree}

/-- Adding a project reports no conflict exactly if the trees agree. -/
theorem conflictFree_add_iff
    {project : Project} (compiled : project.Compiled)
    (conflictFree : ConflictFree collection.diagnostics) (fileId : Nat) :
    ConflictFree (collection.add project fileId).diagnostics ↔
      collection.tree.Agree project.tree := by
  rw [← Tree.conflicts_mergeAt_eq_nil_iff compiled.ordered []]
  constructor
  · intro noneReported
    apply List.eq_nil_iff_forall_not_mem.mpr
    intro conflict isConflict
    apply noneReported conflict fileId
    exact List.mem_append_right _ (List.mem_map.mpr ⟨conflict, isConflict, rfl⟩)
  · intro noConflicts conflict number member
    have added :
        (collection.add project fileId).diagnostics =
          collection.diagnostics ++ project.diagnostics := by
      rw [add, Tree.merge, noConflicts]
      exact List.append_nil _
    rw [added] at member
    rcases List.mem_append.mp member with before | ofProject
    · exact conflictFree conflict number before
    · exact compiled.conflictFree conflict number ofProject

/--
No conflict is reported exactly when any two trees agree; then their union is
made.  What is reported when a project is added stays reported.
-/
theorem addAll_agreeing
    (union : collection.tree.IsUnion parts) (partsAgree : parts.Pairwise Tree.Agree)
    (conflictFree : ConflictFree collection.diagnostics)
    {projects : List Project} (compiled : ∀ project ∈ projects, project.Compiled) (first : Nat) :
    (ConflictFree (collection.addAll first projects).diagnostics ↔
        (parts ++ projects.map Project.tree).Pairwise Tree.Agree) ∧
      ((parts ++ projects.map Project.tree).Pairwise Tree.Agree →
        (collection.addAll first projects).tree.IsUnion (parts ++ projects.map Project.tree)) := by
  induction projects generalizing collection parts first with
  | nil =>
      rw [List.map_nil, List.append_nil]
      exact ⟨iff_of_true conflictFree partsAgree, fun _ => union⟩
  | cons project rest inductionHypothesis =>
      obtain ⟨projectCompiled, restCompiled⟩ := List.forall_mem_cons.mp compiled
      have oneMorePart :
          parts ++ (project :: rest).map Project.tree =
            (parts ++ [project.tree]) ++ rest.map Project.tree := by
        simp
      rw [oneMorePart]
      by_cases agree : collection.tree.Agree project.tree
      · have nextUnion := union.merge agree projectCompiled.ordered
        have nextAgree : (parts ++ [project.tree]).Pairwise Tree.Agree := by
          apply List.pairwise_append.mpr
          refine ⟨partsAgree, List.pairwise_singleton _ _, ?_⟩
          intro part member other isProject
          cases List.mem_singleton.mp isProject
          exact union.agree_iff.mp agree part member
        have nextConflictFree :=
          (conflictFree_add_iff projectCompiled conflictFree first).mpr agree
        exact inductionHypothesis nextUnion nextAgree nextConflictFree restCompiled (first + 1)
      · have notAllAgree : ¬ ((parts ++ [project.tree]) ++ rest.map Project.tree).Pairwise
            Tree.Agree := by
          intro allAgree
          have before := (List.pairwise_append.mp allAgree).1
          apply agree
          apply union.agree_iff.mpr
          intro part member
          exact (List.pairwise_append.mp before).2.2 part member project.tree
            (List.mem_singleton_self _)
        have notConflictFree :
            ¬ ConflictFree (collection.addAll first (project :: rest)).diagnostics := by
          intro stillFree
          apply agree
          apply (conflictFree_add_iff projectCompiled conflictFree first).mp
          intro conflict number member
          exact stillFree conflict number ((collection.add project first).diagnostics_addAll member)
        exact ⟨iff_of_false notConflictFree notAllAgree,
          fun allAgree => absurd allAgree notAllAgree⟩

end Collection

namespace Project

/-- So are the projects of several documents. -/
theorem compiled_compileEach (requested : List String) (first : Nat) (documents : List Document) :
    ∀ project ∈ compileEach requested first documents, project.Compiled := by
  intro project member
  obtain ⟨document, fileId, rfl⟩ := exists_document_of_mem_compileEach member
  exact document.compiled_compile requested fileId

/-- Their trees do not depend on the numbers of the files. -/
theorem map_tree_compileEach (requested : List String) (first : Nat) (documents : List Document) :
    (compileEach requested first documents).map Project.tree =
      documents.map fun document => (document.compile requested 0).tree := by
  induction documents generalizing first with
  | nil =>
      rfl
  | cons document rest inductionHypothesis =>
      rw [compileEach, List.map_cons, List.map_cons, inductionHypothesis,
        document.compile_tree_congr requested first 0]

/-- Uniting documents reports no conflict exactly when any two agree; then their union is made. -/
theorem ofDocuments_agreeing (documents : List Document) (requested : List String) :
    (ConflictFree (ofDocuments documents requested).diagnostics ↔
        (documents.map fun document => (document.compile requested 0).tree).Pairwise
          Tree.Agree) ∧
      ((documents.map fun document => (document.compile requested 0).tree).Pairwise Tree.Agree →
        (ofDocuments documents requested).tree.IsUnion
          (documents.map fun document => (document.compile requested 0).tree)) := by
  have nothingReported : ConflictFree Collection.empty.diagnostics := by
    intro conflict number member
    contradiction
  have nothingUnited : Collection.empty.tree.IsUnion [] :=
    .empty
  have outcome :=
    Collection.addAll_agreeing nothingUnited .nil nothingReported
      (compiled_compileEach requested 0 documents) 0
  rw [List.nil_append, map_tree_compileEach] at outcome
  exact outcome

end Project

/--
Uniting documents reports no conflict exactly when the trees that any two of
them compile to agree: no path is a file in one and a directory in the other,
and no path is a file in both with different contents.  Then the documents may
come in any order: no conflict is reported either, and the tree is the same.
-/
theorem Project.ofDocuments_in_any_order (documents : List Document) (requested : List String) :
    (ConflictFree (Project.ofDocuments documents requested).diagnostics ↔
      ∀ (first second : Nat) (firstDocument secondDocument : Document), first ≠ second →
        documents[first]? = some firstDocument → documents[second]? = some secondDocument →
          (firstDocument.compile requested first).tree.Agree
            (secondDocument.compile requested second).tree) ∧
    (ConflictFree (Project.ofDocuments documents requested).diagnostics →
      ∀ others : List Document, documents.Perm others →
        ConflictFree (Project.ofDocuments others requested).diagnostics ∧
          (Project.ofDocuments others requested).tree =
            (Project.ofDocuments documents requested).tree) := by
  obtain ⟨freeIff, union⟩ := ofDocuments_agreeing documents requested
  constructor
  · rw [freeIff, List.pairwise_map, List.pairwise_iff_getElem]
    constructor
    · intro inOrder first second firstDocument secondDocument different firstFound secondFound
      obtain ⟨firstInside, rfl⟩ := List.getElem?_eq_some_iff.mp firstFound
      obtain ⟨secondInside, rfl⟩ := List.getElem?_eq_some_iff.mp secondFound
      rw [Document.compile_tree_congr _ requested first 0,
        Document.compile_tree_congr _ requested second 0]
      rcases Nat.lt_or_gt_of_ne different with before | after
      · exact inOrder first second firstInside secondInside before
      · exact (inOrder second first secondInside firstInside after).symm
    · intro anyTwo first second firstInside secondInside before
      rw [Document.compile_tree_congr _ requested 0 first,
        Document.compile_tree_congr _ requested 0 second]
      exact anyTwo first second _ _ (Nat.ne_of_lt before)
        (List.getElem?_eq_getElem firstInside) (List.getElem?_eq_getElem secondInside)
  · intro conflictFree others sameDocuments
    obtain ⟨othersFreeIff, othersUnion⟩ := ofDocuments_agreeing others requested
    have sameTrees := sameDocuments.map fun document => (document.compile requested 0).tree
    have agree := freeIff.mp conflictFree
    have othersAgree := agree.perm sameTrees Tree.Agree.symm
    exact ⟨othersFreeIff.mpr othersAgree,
      (othersUnion othersAgree).unique (union agree) sameTrees.symm⟩

end Tangle
