import Tangle.Proofs.Project.Union

namespace Tangle

/-!
# Compiled trees are well formed

Compiling a document inserts files into an empty tree, and uniting documents
merges such trees.  So all that holds of trees built in this way holds of what
documents compile to.
-/

/-- The tree of a document is built by inserting the files that its listing shows. -/
theorem Document.built_compile (document : Document) (requested : List String) (fileId : Nat) :
    (document.compile requested fileId).tree.Built := by
  rw [compile, Compilation.run_tree]
  exact Tree.Built.empty.final _

/-- United documents have a tree that is built by insertions and merges. -/
theorem Project.built_ofDocuments (documents : List Document) (requested : List String) :
    (Project.ofDocuments documents requested).tree.Built := by
  have nothingBuilt : Collection.empty.tree.Built := .empty
  apply Collection.tree_addAll Tree.Built.merge nothingBuilt
  intro project member
  obtain ⟨document, fileId, rfl⟩ := exists_document_of_mem_compileEach member
  exact document.built_compile requested fileId

/--
Every tree that is built from empty ones by insertions and merges is well
formed.  Its entries stand in order under plain names, at every level; each of
its directories has a file below it; and it is listed faithfully: the listing
has every file and nothing else, different files are listed under different
paths, no path is listed twice, and none goes on below another one.  Two such
trees are the same exactly when their listings are.  The trees of compiled
documents are built in this way, and so are those of united documents.
-/
theorem Tree.built_trees_wellFormed :
    (∀ tree : Tree, tree.Built →
      tree.Ordered ∧
        (∀ place name entry, tree.lookup? (place ++ [name]) = some entry → PlainName name) ∧
        (∀ names, tree.HasDirectory names →
          ∃ below contents, below ≠ [] ∧ tree.HasFile (names ++ below) contents) ∧
        (∀ path contents, (path, contents) ∈ tree.files ↔
          ∃ names, path = pathText names ∧ tree.HasFile names contents) ∧
        (∀ names otherNames contents text,
          tree.HasFile names contents → tree.HasFile otherNames text →
            pathText names = pathText otherNames → names = otherNames) ∧
        (tree.files.map Prod.fst).Nodup ∧
        (∀ path contents below text,
          (path, contents) ∈ tree.files → (path ++ "/" ++ below, text) ∉ tree.files)) ∧
    (∀ tree other : Tree, tree.Built → other.Built → (tree = other ↔ tree.files = other.files)) ∧
    (∀ (document : Document) (requested : List String) (fileId : Nat),
      (document.compile requested fileId).tree.Built) ∧
    (∀ (documents : List Document) (requested : List String),
      (Project.ofDocuments documents requested).tree.Built) := by
  refine ⟨?_, ?_, Document.built_compile, Project.built_ofDocuments⟩
  · intro tree built
    have wellFormed := built.wellFormed
    refine ⟨wellFormed.ordered, ?_, fun _ => wellFormed.populated,
      fun _ _ => wellFormed.mem_files, ?_, wellFormed.paths_nodup,
      fun _ _ _ _ => wellFormed.not_mem_files_below⟩
    · intro place name entry found
      exact wellFormed.plainName_of_lookup? found (by simp)
    · intro names otherNames contents text file otherFile sameText
      exact wellFormed.names_eq_of_pathText_eq wellFormed.toRegular file otherFile sameText
  · intro tree other built otherBuilt
    constructor
    · intro same
      rw [same]
    · exact built.wellFormed.eq_of_files_eq otherBuilt.wellFormed

end Tangle
