import Tangle.Proofs.Details
import Tangle.Proofs.Project.WellFormed
import Tangle.Proofs.Project.Writers
import Tangle.Proofs.TreePath.ReadBack

namespace Tangle

/-!
# Addresses in compiled trees

A path is made safe when a file is written and once more when it is looked for,
so a file is found under the path that it is listed with unless that path has a
dot at an end.  Making safe drops dots at the ends only, so two dots stay a name
where an author writes them between slashes.  Blanks are what shields dots from
being dropped, and they come in with headings that are file names: no path that
is written out in the details of a block has any.
-/

/-- What stands behind the scheme of a protocol word. -/
def ProtocolWord.value : ProtocolWord → String
  | .file value => value
  | .rmsm value => value

/-- The value that is found in details is part of one of their words. -/
theorem ProtocolWord.noBlank_of_firstAtWord?
    {text : List Char} {found : ProtocolWord}
    (first : Text.firstAtWord? inFront? true text = some found) :
    NoBlank found.value := by
  obtain ⟨front, word, back, parted, isProtocolWord, _⟩ :=
    (readsWords_protocol.firstAtWord?_eq_some_iff text found).mp first
  have isWord : word ∈ Text.words text := by
    rw [parted]
    simp
  intro character member
  have inWord : character ∈ word := by
    cases found <;>
    · rw [isProtocolWord.1]
      exact List.mem_append_right _ member
  exact (Text.mem_of_mem_words isWord inWord).2

namespace Target

variable {details : Option String}

/-- Unless a block still needs a name, some word of its details tells its target. -/
theorem exists_word_of_ofDetails
    {told : Except UnknownDirective Target} (target : ofDetails details = told)
    (isTold : told ≠ .ok (.file none)) :
    ∃ word : ProtocolWord, NoBlank word.value ∧ word.target = told := by
  cases details with
  | none =>
      exact absurd target.symm isTold
  | some text =>
      rw [ofDetails] at target
      split at target
      · exact absurd target.symm isTold
      · rename_i word first
        exact ⟨word, ProtocolWord.noBlank_of_firstAtWord? first, target⟩

/-- A path that is written out in the details of a block has no blanks. -/
theorem noBlank_of_ofDetails
    {written : String} (target : ofDetails details = .ok (.file (some written))) :
    NoBlank written := by
  obtain ⟨word, noBlank, told⟩ := exists_word_of_ofDetails target (by simp)
  rwa [ProtocolWord.target_eq_named_iff.mp told] at noBlank

/-- Neither has a directive that does not exist. -/
theorem noBlank_of_unknown
    {unknown : UnknownDirective} (target : ofDetails details = .error unknown) :
    NoBlank unknown.value := by
  obtain ⟨word, noBlank, told⟩ := exists_word_of_ofDetails target (by simp)
  rwa [(ProtocolWord.target_eq_error_iff.mp told).2] at noBlank

end Target

/-- A listed file is found under its path unless the path has a dot at an end. -/
theorem Tree.Regular.fileAt?_of_mem_files
    {tree : Tree} (regular : tree.Regular) {path contents : String}
    (listed : (path, contents) ∈ tree.files) (noDot : NoDotAtEnds path) :
    tree.fileAt? path = some contents := by
  obtain ⟨names, rfl, file⟩ := regular.mem_files.mp listed
  obtain ⟨safe, read, sameNames⟩ :=
    TreePath.segments_sanitize?_pathText file.ne_nil (regular.plain file) noDot
  exact HasFile.fileAt?_of_sanitize? read (sameNames ▸ file)

/--
A file that a document compiles to is found under the path that it is listed
with, unless that path has a dot at an end.  Every listed file comes from a
selected block, and its path has a dot at an end only if the block was written
under a path with a blank in it, which is never one that its details give.
-/
theorem Document.listed_files_found
    (document : Document) (requested : List String) (fileId : Nat) :
    (∀ path contents, (path, contents) ∈ (document.compile requested fileId).tree.files →
      NoDotAtEnds path →
        (document.compile requested fileId).tree.fileAt? path = some contents) ∧
    (∀ path contents, (path, contents) ∈ (document.compile requested fileId).tree.files →
      ∃ position block written target,
        document.WritesAt requested fileId position block written target ∧
          path = pathText target.segments ∧ contents = block.code.content ∧
          (NoBlank written → NoDotAtEnds path) ∧
          (Target.ofDetails block.code.details = .ok (.file (some written)) →
            NoBlank written)) := by
  have regular := document.regular_compile requested fileId
  constructor
  · intro path contents listed noDot
    exact regular.fileAt?_of_mem_files listed noDot
  · intro path contents listed
    obtain ⟨names, isPath, file⟩ := regular.mem_files.mp listed
    obtain ⟨position, block, written, target, writes, rfl, isContent⟩ :=
      document.exists_writer file
    refine ⟨position, block, written, target, writes, isPath, isContent, ?_,
      Target.noBlank_of_ofDetails⟩
    intro noBlank
    rw [isPath]
    exact TreePath.noDotAtEnds_of_noBlank noBlank writes.safe

/-- A heading whose path keeps a dot in front, because a blank follows the edge that is dropped. -/
def Document.dotBehindBlank : Document :=
  ⟨[.heading ⟨1, some "./ .js"⟩ ⟨0, 9⟩, .code ⟨some "js", none, "x"⟩ ⟨10, 22⟩]⟩

/-- This file is listed, and looking for it under its path finds nothing. -/
theorem Document.dotBehindBlank_listed_but_not_found :
    (".js", "x") ∈ (dotBehindBlank.compile [] 0).tree.files ∧
      (dotBehindBlank.compile [] 0).tree.fileAt? ".js" = none := by
  decide +kernel

/-- The files of united documents come from selected blocks of one of them. -/
theorem Project.exists_writer_of_ofDocuments
    {documents : List Document} {requested names : List String} {contents : String}
    (file : (Project.ofDocuments documents requested).tree.HasFile names contents) :
    ∃ (number : Nat) (document : Document) (position : Nat) (block : PlacedBlock)
        (written : String) (target : TreePath),
      documents[number]? = some document ∧
        document.WritesAt requested number position block written target ∧
        names = target.segments := by
  have allRegular := Project.regular_compileEach requested 0 documents
  have emptyRegular : Collection.empty.tree.Regular := .empty
  rcases Collection.first_definition emptyRegular allRegular 0 file with
      impossible | ⟨_, number, project, added, projectFile, _⟩
  · exact absurd impossible (Tree.not_hasFile_empty names contents)
  · rw [getElem?_compileEach, Nat.zero_add] at added
    obtain ⟨document, isDocument, rfl⟩ := Option.map_eq_some_iff.mp added
    obtain ⟨position, block, written, target, writes, isTarget, _⟩ :=
      document.exists_writer projectFile
    exact ⟨number, document, position, block, written, target, isDocument, writes, isTarget⟩

/--
No entry of the tree of united documents, at any level, has a single dot as its
name.  An entry with two dots as its name stands where a selected block of one
of the documents has them in its path.  If no blank is in that path, as in all
that are written out in the details of a block, they stand between slashes in
it, and the entry is a directory that is not at the root: what stands below the
two dots keeps them from being a file.
-/
theorem Project.dots_only_between_slashes
    (documents : List Document) (requested : List String) :
    (∀ place entry,
      (Project.ofDocuments documents requested).tree.lookup? (place ++ ["."]) ≠ some entry) ∧
    (∀ place entry,
      (Project.ofDocuments documents requested).tree.lookup? (place ++ [".."]) = some entry →
        ∃ (number : Nat) (document : Document) (position : Nat) (block : PlacedBlock)
            (written : String) (target : TreePath) (below : List String),
          documents[number]? = some document ∧
            document.WritesAt requested number position block written target ∧
            target.segments = place ++ ".." :: below ∧
            (Target.ofDetails block.code.details = .ok (.file (some written)) →
              NoBlank written) ∧
            (NoBlank written →
              ['/', '.', '.', '/'] <:+: written.toList ∧ place ≠ [] ∧
                entry.isDirectory = true)) := by
  have wellFormed := (Project.built_ofDocuments documents requested).wellFormed
  constructor
  · intro place entry found
    have plain : PlainName "." := wellFormed.plainName_of_lookup? found (by simp)
    exact plain.notDot rfl
  · intro place entry found
    obtain ⟨below, contents, file⟩ := wellFormed.exists_file_of_lookup? found
    obtain ⟨number, document, position, block, written, target, isDocument, writes, isTarget⟩ :=
      Project.exists_writer_of_ofDocuments file
    have parted : target.segments = place ++ ".." :: below := by
      rw [← isTarget, List.append_assoc]
      rfl
    refine ⟨number, document, position, block, written, target, below, isDocument, writes, parted,
      Target.noBlank_of_ofDetails, ?_⟩
    intro noBlank
    obtain ⟨notAtRoot, goesOn, between⟩ :=
      TreePath.dotDot_between_of_noBlank noBlank writes.safe parted
    refine ⟨between, notAtRoot, ?_⟩
    have throughDots : ProperPrefix (place ++ [".."]) (place ++ [".."] ++ below) :=
      properPrefix_iff_append.mpr ⟨below, goesOn, rfl⟩
    obtain ⟨children, directory⟩ := Tree.hasDirectory_of_lookup? file (by simp) throughDots
    rw [directory] at found
    cases found
    rfl

/-- Two dots between slashes become a directory of that name. -/
theorem Project.dots_between_slashes_kept :
    ¬ ∀ (documents : List Document) (requested place : List String) (name : String)
        (entry : Entry),
        (Project.ofDocuments documents requested).tree.lookup? (place ++ [name]) = some entry →
          name ≠ "." ∧ name ≠ ".." := by
  intro noDots
  have kept :
      (Project.ofDocuments
          [⟨[.code ⟨some "txt", some "file://a/../b", "x"⟩ ⟨0, 1⟩]⟩] []).tree.lookup?
          (["a"] ++ [".."]) =
        some (.directory (.file "b" "x" .empty)) := by
    decide +kernel
  exact (noDots _ _ _ _ _ kept).2 rfl

end Tangle
