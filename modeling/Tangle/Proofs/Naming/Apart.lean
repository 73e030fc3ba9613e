import Tangle.Proofs.Naming.Counting
import Tangle.Proofs.Tree.Writing

namespace Tangle

/-!
# Names with numbers stay apart

Blocks that are named with numbers of one counter have different numbers, and
those of different counters have different slugs as long as no two headings
that are counted under share one.  So their stems differ, and with them the
first names of their paths: no such block is written over another, nor where
another needs a directory.
-/

namespace Document

/-- The name that the block at a place of the outline gets when it has no path. -/
def nameAt
    (document : Document) (requested : List String) (fileId place : Nat) (block : PlacedBlock) :
    String :=
  ((Compilation.reached document requested fileId place).naming.name
    (Outline.ofDocument document) block).1

/-- The number that a counter gives next at a place of the outline. -/
def numberAt
    (document : Document) (requested : List String) (fileId place : Nat) (counter : Counter) :
    Nat :=
  (Compilation.reached document requested fileId place).naming.next counter

/-- The block at a place of the outline is selected, has no path, and is named with a number. -/
structure AutoNumbered
    (document : Document) (requested : List String) (fileId place : Nat) (block : PlacedBlock)
    (counter : Counter) : Prop where
  isBlock : (Outline.ofDocument document).blocks[place]? = some block
  selected : (Outline.ofDocument document).selects requested block = true
  noPath : Target.ofDetails block.code.details = .ok (.file none)
  numbers :
    (Compilation.reached document requested fileId place).naming.Numbers
      (Outline.ofDocument document) block counter

/-- No two headings under which blocks are counted have the same slug. -/
def SlugsApart (document : Document) (requested : List String) (fileId : Nat) : Prop :=
  ∀ (slug : String) (place other position otherPosition : Nat) (block otherBlock : PlacedBlock),
    document.AutoNumbered requested fileId place block (.heading position slug) →
    document.AutoNumbered requested fileId other otherBlock (.heading otherPosition slug) →
      position = otherPosition

namespace AutoNumbered

variable {document : Document} {requested : List String} {fileId place : Nat}
  {block : PlacedBlock} {counter : Counter}

/-- Behind a block with a number it is written under the name that was made for it. -/
theorem reached_succ
    (autoNumbered : document.AutoNumbered requested fileId place block counter) :
    Compilation.reached document requested fileId (place + 1) =
      ⟨(Compilation.reached document requested fileId place).project.writeFile block fileId
          (document.nameAt requested fileId place block),
        ((Compilation.reached document requested fileId place).naming.name
          (Outline.ofDocument document) block).2⟩ := by
  rw [Compilation.reached_succ autoNumbered.isBlock, Compilation.step,
    if_pos autoNumbered.selected, Compilation.carryOut, autoNumbered.noPath, nameAt]

/-- The name of such a block is the stem with its number and the extension of the language. -/
theorem nameAt_eq (autoNumbered : document.AutoNumbered requested fileId place block counter) :
    document.nameAt requested fileId place block =
      Naming.withExtension (counter.stem (document.numberAt requested fileId place counter))
        block.code.language :=
  autoNumbered.numbers.name_eq

/-- What is counted under is a heading, so the slug of a counter is the slug of a text. -/
theorem isStemCharacter_of_mem_stem
    (autoNumbered : document.AutoNumbered requested fileId place block counter)
    {number : Nat} {character : Char} (member : character ∈ (counter.stem number).toList) :
    IsStemCharacter character := by
  refine Counter.isStemCharacter_of_mem_stem ?_ member
  intro slug hasSlug
  cases counter with
  | document =>
      contradiction
  | heading position ownSlug =>
      cases hasSlug
      obtain ⟨heading, _, identifier⟩ := autoNumbered.numbers.exists_heading
      obtain ⟨text, _, rfl⟩ := Option.map_eq_some_iff.mp identifier
      intro character inSlug
      exact isStemCharacter_of_mem_slugify inSlug

/-- The name of a block is accepted as a path, and its first name tells the stem. -/
theorem exists_path
    (autoNumbered : document.AutoNumbered requested fileId place block counter) :
    ∃ path first others,
      TreePath.sanitize? (document.nameAt requested fileId place block) = some path ∧
        path.segments = first :: others ∧
        first.toList.takeWhile (· != '.') =
          (counter.stem (document.numberAt requested fileId place counter)).toList := by
  rw [autoNumbered.nameAt_eq]
  exact TreePath.exists_sanitize?_withExtension (counter.stem_toList_ne_nil _)
    (fun _ member => autoNumbered.isStemCharacter_of_mem_stem member) block.code.language

/-- A number that was given lies behind what its counter gives at any later place. -/
theorem numberAt_lt
    (autoNumbered : document.AutoNumbered requested fileId place block counter)
    {later : Nat} (before : place < later) :
    document.numberAt requested fileId place counter <
      document.numberAt requested fileId later counter := by
  have goesOn :
      document.numberAt requested fileId (place + 1) counter =
        document.numberAt requested fileId place counter + 1 := by
    rw [numberAt, autoNumbered.reached_succ]
    exact autoNumbered.numbers.next_name
  have neverBack :
      document.numberAt requested fileId (place + 1) counter ≤
        document.numberAt requested fileId later counter :=
    Compilation.next_le_reached requested fileId document before counter
  omega

variable {other : Nat} {otherBlock : PlacedBlock} {otherCounter : Counter}

/--
Two blocks with numbers have different stems.  Under different counters this is
what the slugs keep apart, and one counter gives the later of two places a
greater number.
-/
theorem stems_differ
    (slugsApart : document.SlugsApart requested fileId)
    (autoNumbered : document.AutoNumbered requested fileId place block counter)
    (otherNumbered : document.AutoNumbered requested fileId other otherBlock otherCounter)
    (different : place ≠ other) :
    counter.stem (document.numberAt requested fileId place counter) ≠
      otherCounter.stem (document.numberAt requested fileId other otherCounter) := by
  intro sameStem
  obtain ⟨sameSlug, sameNumber⟩ := Counter.stem_injective sameStem
  have sameCounter : counter = otherCounter := by
    cases counter with
    | document =>
        cases otherCounter with
        | document => rfl
        | heading _ _ => contradiction
    | heading position slug =>
        cases otherCounter with
        | document => contradiction
        | heading otherPosition otherSlug =>
            cases sameSlug
            rw [slugsApart slug place other position otherPosition block otherBlock autoNumbered
              otherNumbered]
  subst sameCounter
  rcases Nat.lt_or_gt_of_ne different with before | behind
  · have lower := autoNumbered.numberAt_lt before
    omega
  · have lower := otherNumbered.numberAt_lt behind
    omega

/-- The paths of two blocks part at their first names. -/
theorem not_prefix
    (slugsApart : document.SlugsApart requested fileId)
    (autoNumbered : document.AutoNumbered requested fileId place block counter)
    (otherNumbered : document.AutoNumbered requested fileId other otherBlock otherCounter)
    (different : place ≠ other)
    {path otherPath : TreePath}
    (read : TreePath.sanitize? (document.nameAt requested fileId place block) = some path)
    (otherRead :
      TreePath.sanitize? (document.nameAt requested fileId other otherBlock) = some otherPath) :
    ¬ path.segments <+: otherPath.segments := by
  obtain ⟨_, first, _, ownRead, startsWith, stem⟩ := autoNumbered.exists_path
  obtain ⟨_, otherFirst, _, laterRead, otherStartsWith, otherStem⟩ := otherNumbered.exists_path
  cases read.symm.trans ownRead
  cases otherRead.symm.trans laterRead
  rw [startsWith, otherStartsWith, List.cons_prefix_cons]
  rintro ⟨rfl, _⟩
  apply stems_differ slugsApart autoNumbered otherNumbered different
  exact String.toList_inj.mp (stem.symm.trans otherStem)

end AutoNumbered

/-- Slugs are apart in a document in which every heading has another slug. -/
theorem slugsApart_of_nodup
    {document : Document} {requested : List String} {fileId : Nat}
    (distinct : ((Outline.ofDocument document).headings.map Heading.identifier?).Nodup) :
    document.SlugsApart requested fileId := by
  have slugAt :
      ∀ {place position slug block},
        document.AutoNumbered requested fileId place block (.heading position slug) →
          ((Outline.ofDocument document).headings.map Heading.identifier?)[position]? =
            some (some slug) := by
    intro place position slug block autoNumbered
    obtain ⟨heading, isParent, identifier⟩ := autoNumbered.numbers.exists_heading
    obtain ⟨ancestor, _, found⟩ := Option.bind_eq_some_iff.mp isParent
    obtain ⟨_, isHeading, samePosition⟩ := Option.map_eq_some_iff.mp found
    cases samePosition
    rw [List.getElem?_map, isHeading, Option.map_some, identifier]
  intro slug place other position otherPosition block otherBlock autoNumbered otherNumbered
  have found := slugAt autoNumbered
  apply (List.getElem?_inj (List.getElem?_eq_some_iff.mp found).1 distinct).mp
  exact found.trans (slugAt otherNumbered).symm

end Document

/--
A write under one name does not stop a write under another, which leaves the
file of the first as it is.
-/
def Tree.WritesApart (name other : String) : Prop :=
  ∀ (tree written : Tree) (contents otherContents : String),
    tree.write name contents = .ok written →
      (∀ failure,
        written.write other otherContents = .error failure ↔
          tree.write other otherContents = .error failure) ∧
      ∀ after, written.write other otherContents = .ok after →
        after.fileAt? name = some contents

/-- Writes to paths of which none leads to the other do not get in each other's way. -/
theorem Tree.writesApart
    {name other : String} {path otherPath : TreePath}
    (read : TreePath.sanitize? name = some path)
    (otherRead : TreePath.sanitize? other = some otherPath)
    (apart : ¬ path.segments <+: otherPath.segments)
    (apartBack : ¬ otherPath.segments <+: path.segments) :
    WritesApart name other := by
  intro tree written contents otherContents success
  simp only [write, read] at success
  simp only [write, otherRead]
  refine ⟨fun failure => writeAt_eq_error_iff_of_apart success apart apartBack, ?_⟩
  intro after second
  have file : written.HasFile path.segments contents :=
    (hasFile_writeAt success).mpr (Or.inl ⟨rfl, rfl⟩)
  have different : path.segments ≠ otherPath.segments := by
    intro same
    exact apart (same ▸ List.prefix_refl _)
  exact HasFile.fileAt?_of_sanitize? read (file.writeAt second different)

/--
Every block that is named with a number has a name that is accepted as a path,
under which it is written.  Unless two headings that blocks are counted under
share a slug, the paths of two such blocks differ, and neither goes on where
the other ends.  So no such block is written over another or stands in its way.
-/
theorem Document.automatic_names_apart
    (document : Document) (requested : List String) (fileId : Nat)
    (slugsApart : document.SlugsApart requested fileId) :
    (∀ place block counter,
      document.AutoNumbered requested fileId place block counter →
        document.nameAt requested fileId place block =
            Naming.withExtension
              (counter.stem (document.numberAt requested fileId place counter))
              block.code.language ∧
          (∀ position slug, counter = .heading position slug →
            ∃ heading,
              (Outline.ofDocument document).parent? block = some (position, heading) ∧
                heading.identifier? = some slug) ∧
          (∃ path,
            TreePath.sanitize? (document.nameAt requested fileId place block) = some path) ∧
          (Compilation.reached document requested fileId (place + 1)).project =
            (Compilation.reached document requested fileId place).project.writeFile block fileId
              (document.nameAt requested fileId place block)) ∧
    ∀ first second block otherBlock counter otherCounter,
      document.AutoNumbered requested fileId first block counter →
      document.AutoNumbered requested fileId second otherBlock otherCounter →
      first ≠ second →
        ∃ path otherPath,
          TreePath.sanitize? (document.nameAt requested fileId first block) = some path ∧
          TreePath.sanitize? (document.nameAt requested fileId second otherBlock) =
            some otherPath ∧
          path.segments ≠ otherPath.segments ∧
          ¬ path.segments <+: otherPath.segments ∧
          ¬ otherPath.segments <+: path.segments ∧
          Tree.WritesApart (document.nameAt requested fileId first block)
            (document.nameAt requested fileId second otherBlock) := by
  constructor
  · intro place block counter autoNumbered
    obtain ⟨path, _, _, read, _⟩ := autoNumbered.exists_path
    refine ⟨autoNumbered.nameAt_eq, ?_, ⟨path, read⟩, ?_⟩
    · rintro position slug rfl
      exact autoNumbered.numbers.exists_heading
    · rw [autoNumbered.reached_succ]
  · intro first second block otherBlock counter otherCounter autoNumbered otherNumbered different
    obtain ⟨path, _, _, read, _⟩ := autoNumbered.exists_path
    obtain ⟨otherPath, _, _, otherRead, _⟩ := otherNumbered.exists_path
    have apart :=
      AutoNumbered.not_prefix slugsApart autoNumbered otherNumbered different read otherRead
    have apartBack :=
      AutoNumbered.not_prefix slugsApart otherNumbered autoNumbered different.symm otherRead read
    refine ⟨path, otherPath, read, otherRead, ?_, apart, apartBack,
      Tree.writesApart read otherRead apart apartBack⟩
    intro same
    exact apart (same ▸ List.prefix_refl _)

/-- Headings with the slugs `a` and `a-1`, and code blocks whose languages part names. -/
def Document.headingsAlike : Document :=
  let heading := fun text => Node.heading ⟨1, some text⟩ ⟨0, 1⟩
  let code := fun language => Node.code ⟨language, none, "text"⟩ ⟨2, 3⟩
  ⟨[code (some "/"), heading "A", code (some "1/b"), heading "A 1", code none]⟩

/-- The names of the blocks under them lead to different places, none below the other. -/
theorem Document.headingsAlike_names_apart :
    headingsAlike.SlugsApart [] 0 ∧
      ∃ path otherPath,
        TreePath.sanitize? "a-1.1/b" = some path ∧
        TreePath.sanitize? "a-1-1" = some otherPath ∧
        path.segments ≠ otherPath.segments ∧
        ¬ path.segments <+: otherPath.segments ∧
        ¬ otherPath.segments <+: path.segments ∧
        Tree.WritesApart "a-1.1/b" "a-1-1" := by
  let block : PlacedBlock := ⟨⟨some "1/b", none, "text"⟩, [0], ⟨2, 3⟩⟩
  let otherBlock : PlacedBlock := ⟨⟨none, none, "text"⟩, [1], ⟨2, 3⟩⟩
  have slugsApart : headingsAlike.SlugsApart [] 0 :=
    slugsApart_of_nodup (by decide +kernel)
  have underFirst : headingsAlike.AutoNumbered [] 0 1 block (.heading 0 "a") :=
    { isBlock := by decide +kernel
      selected := by decide +kernel
      noPath := by decide +kernel
      numbers := .heading rfl }
  have underSecond : headingsAlike.AutoNumbered [] 0 2 otherBlock (.heading 1 "a-1") :=
    { isBlock := by decide +kernel
      selected := by decide +kernel
      noPath := by decide +kernel
      numbers := .heading rfl }
  have firstName : headingsAlike.nameAt [] 0 1 block = "a-1.1/b" := by decide +kernel
  have secondName : headingsAlike.nameAt [] 0 2 otherBlock = "a-1-1" := by decide +kernel
  have apart :=
    (automatic_names_apart headingsAlike [] 0 slugsApart).2 1 2 block otherBlock _ _ underFirst
      underSecond (by decide)
  rw [firstName, secondName] at apart
  exact ⟨slugsApart, apart⟩

end Tangle
