import Tangle.Build
import Tangle.Proofs.Naming.Stem
import Tangle.Proofs.Outline.Scope
import Tangle.Proofs.Project.Addresses
import Tangle.Proofs.Project.Listing
import Tangle.Proofs.Text.Lines

namespace Tangle

/-!
# The lines of a listing

A listing is written with one record for every document and for every code
block.  Whatever a block says of itself is read word by word and so has no line
feed in it.  The text of a heading may have some: it stands in the records of all
blocks below the heading, and these records take up several lines.
-/

/-- A line feed is a blank, so there is none in a text without blanks. -/
theorem NoBlank.not_mem_lineFeed {text : String} (noBlank : NoBlank text) :
    '\n' ∉ text.toList := by
  intro member
  have notBlank := noBlank '\n' member
  contradiction

/-- The text of a heading goes over several lines. -/
def Heading.OverLines (heading : Heading) : Prop :=
  ∃ text ∈ heading.text, '\n' ∈ text.toList

instance (heading : Heading) : Decidable heading.OverLines :=
  inferInstanceAs (Decidable (∃ text ∈ heading.text, '\n' ∈ text.toList))

/-- A heading is shown over several lines if its text has several. -/
theorem Heading.mem_display_iff {heading : Heading} :
    '\n' ∈ heading.display.toList ↔ heading.OverLines := by
  rw [display, OverLines]
  cases heading.text with
  | none => simp
  | some text => simp

/-- The message about a directive has the line feeds of its value. -/
theorem UnknownDirective.mem_message_iff {unknown : UnknownDirective} :
    '\n' ∈ unknown.message.toList ↔ '\n' ∈ unknown.value.toList := by
  have wording : unknown.message = "Invalid rmsm protocol value: " ++ unknown.value := rfl
  simp [wording]

/-- Some heading around a block goes over several lines. -/
def Outline.UnderBrokenHeading (outline : Outline) (block : PlacedBlock) : Prop :=
  ∃ heading ∈ outline.ancestors block, heading.OverLines

instance (outline : Outline) (block : PlacedBlock) :
    Decidable (outline.UnderBrokenHeading block) :=
  inferInstanceAs (Decidable (∃ heading ∈ outline.ancestors block, heading.OverLines))

/-! ## Languages of code blocks that were read -/

/-- The language of a code block, if it has one, is a word. -/
def CodeBlock.LanguageIsWord (code : CodeBlock) : Prop :=
  ∀ language ∈ code.language, NoBlank language

namespace Markdown

/-- The language in an info string is its first word. -/
theorem noBlank_of_mem_splitInfo
    {info language : String} (isLanguage : language ∈ (splitInfo info).1) : NoBlank language := by
  intro character member
  simp only [splitInfo, nonEmpty, Option.mem_def] at isLanguage
  split at isLanguage
  · contradiction
  · rw [← Option.some.inj isLanguage, String.toList_ofList] at member
    simpa using List.mem_takeWhile_imp member

namespace Gathering

/-- So it is in the code block that an info string is read into. -/
theorem languageIsWord_of_codeNode
    {info : Option String} {place span : Span} {content : String} {code : CodeBlock}
    (isCode : codeNode info place content = .code code span) : code.LanguageIsWord := by
  cases info with
  | none =>
      cases isCode
      intro language isLanguage
      contradiction
  | some info =>
      have isFirst : code.language = (splitInfo info).1 := by
        cases isCode
        rfl
      rw [CodeBlock.LanguageIsWord, isFirst]
      exact fun _ => noBlank_of_mem_splitInfo

/-- The nodes that one event completes: a heading, or a code block made from an info string. -/
theorem languageIsWord_of_step
    {gathering : Gathering} {placed : PlacedEvent} {code : CodeBlock} {span : Span}
    (completed : .code code span ∈ (gathering.step placed).2) : code.LanguageIsWord := by
  cases gathering with
  | outside =>
      rw [step, enter] at completed
      split at completed <;> simp at completed
  | heading depth place gathered =>
      rw [step] at completed
      split at completed <;> simp [headingNode] at completed
  | code info place content =>
      rw [step] at completed
      split at completed
      · exact languageIsWord_of_codeNode (List.mem_singleton.mp completed).symm
      · simp at completed
      · simp at completed

/-- It is one in what is complete when the events come to an end. -/
theorem languageIsWord_of_finish
    {gathering : Gathering} {code : CodeBlock} {span : Span}
    (completed : .code code span ∈ gathering.finish) : code.LanguageIsWord := by
  cases gathering with
  | outside => contradiction
  | heading depth place gathered => simp [finish, headingNode] at completed
  | code info place content =>
      exact languageIsWord_of_codeNode (List.mem_singleton.mp completed).symm

/-- It is one in every code block that is gathered from events. -/
theorem languageIsWord_of_nodes
    {gathering : Gathering} {events : List PlacedEvent} {code : CodeBlock} {span : Span}
    (member : .code code span ∈ gathering.nodes events) : code.LanguageIsWord := by
  induction events generalizing gathering with
  | nil =>
      exact languageIsWord_of_finish member
  | cons placed rest inductionHypothesis =>
      rw [nodes] at member
      rcases List.mem_append.mp member with completed | later
      · exact languageIsWord_of_step completed
      · exact inductionHypothesis later

end Gathering

end Markdown

/-- A block of an outline is a code block of the document. -/
theorem Outline.mem_nodes_of_mem_blocks
    {document : Document} {block : PlacedBlock}
    (isBlock : block ∈ (ofDocument document).blocks) :
    .code block.code block.span ∈ document.nodes := by
  have placed : (block.code, block.span) ∈ document.nodes.filterMap Node.placedCode? := by
    rw [← walk_blocks 0 []]
    exact List.mem_map_of_mem isBlock
  obtain ⟨node, isNode, isCode⟩ := List.mem_filterMap.mp placed
  cases node with
  | code code span =>
      cases isCode
      exact isNode
  | heading heading span => contradiction
  | other span => contradiction

/-- The languages of the blocks of a text are words. -/
theorem Markdown.languageIsWord_of_mem_blocks
    {source : String} {block : PlacedBlock}
    (isBlock : block ∈ (Outline.ofDocument (read source)).blocks) :
    block.code.LanguageIsWord :=
  Gathering.languageIsWord_of_nodes (Outline.mem_nodes_of_mem_blocks isBlock)

/-! ## Records -/

/-- An identifier is a part of a word. -/
theorem CodeBlock.noBlank_of_identifier?
    {code : CodeBlock} {identifier : String} (isIdentifier : code.identifier? = some identifier) :
    NoBlank identifier := by
  obtain ⟨details, _, found⟩ := Option.bind_eq_some_iff.mp isIdentifier
  obtain ⟨front, word, back, _, ⟨_, _, letters⟩, _⟩ :=
    (readsWords_identifier.firstAtWord?_eq_some_iff details.toList identifier).mp found
  intro character member
  simpa [Text.isWordCharacter] using
    isWordCharacter_of_isIdentifierLetter (letters character member)

/-- The nearest heading is one of those that a block stands under. -/
theorem Outline.mem_ancestors_of_parent?
    {outline : Outline} {block : PlacedBlock} {position : Nat} {heading : Heading}
    (isParent : outline.parent? block = some (position, heading)) :
    heading ∈ outline.ancestors block := by
  obtain ⟨_, isNearest, found⟩ := Option.bind_eq_some_iff.mp isParent
  obtain ⟨_, isThere, ⟨⟩⟩ := Option.map_eq_some_iff.mp found
  exact List.mem_filterMap.mpr ⟨position, List.mem_of_getLast? isNearest, isThere⟩

namespace Naming

/-- A name that is taken from a heading as it is is the text of the heading. -/
theorem text_of_verbatim?
    {heading : Heading} {language : Option String} {text : String}
    (isText : verbatim? heading language = some text) : heading.text = some text := by
  obtain ⟨depth, written⟩ := heading
  cases written with
  | none => contradiction
  | some written =>
      cases language with
      | none => contradiction
      | some language =>
          simp only [verbatim?] at isText
          split at isText
          · exact isText
          · contradiction

/-- A stem without blanks has none with a word as its extension. -/
theorem noBlank_withExtension
    {stem : String} (noBlank : NoBlank stem) {language : Option String}
    (isWord : ∀ written ∈ language, NoBlank written) :
    NoBlank (withExtension stem language) := by
  cases language with
  | none =>
      exact noBlank
  | some written =>
      intro character member
      simp only [withExtension, String.toList_append, List.append_assoc, List.mem_append] at member
      rcases member with inStem | dot | inLanguage
      · exact noBlank character inStem
      · rw [List.mem_singleton.mp dot]
        decide
      · exact isWord written rfl character inLanguage

/-- No blank stands in a number. -/
theorem noBlank_toString (number : Nat) : NoBlank (toString number) :=
  fun _ member => (IsStemCharacter.of_isDigit (isDigit_of_mem_toString member)).not_isBlank

/-- Nor in a name that is counted in the document. -/
theorem noBlank_orphan
    (naming : Naming) {language : Option String} (isWord : ∀ written ∈ language, NoBlank written) :
    NoBlank (naming.orphan language).1 :=
  noBlank_withExtension (noBlank_toString naming.nextOrphan) isWord

/-- Nor in a name that is counted under a heading, since slugs have none. -/
theorem noBlank_numbered
    (naming : Naming) (position : Nat) (text : String) {language : Option String}
    (isWord : ∀ written ∈ language, NoBlank written) :
    NoBlank (naming.numbered position (slugify text) language).1 := by
  refine noBlank_withExtension ?_ isWord
  intro character member
  simp only [String.toList_append, List.append_assoc, List.mem_append] at member
  rcases member with inSlug | hyphen | inNumber
  · exact (isStemCharacter_of_mem_slugify inSlug).not_isBlank
  · rw [List.mem_singleton.mp hyphen]
    decide
  · exact noBlank_toString _ character inNumber

/-- A block gets a name without blanks, or the text of a heading around it. -/
theorem noBlank_name_or_verbatim
    (naming : Naming) (outline : Outline) {block : PlacedBlock}
    (isWord : block.code.LanguageIsWord) :
    NoBlank (naming.name outline block).1 ∨
      ∃ heading ∈ outline.ancestors block, heading.text = some (naming.name outline block).1 := by
  fun_cases name naming outline block with
  | case1 _ _ identifier isIdentifier =>
      exact Or.inl (noBlank_withExtension (CodeBlock.noBlank_of_identifier? isIdentifier) isWord)
  | case2 _ _ _ =>
      exact Or.inl (naming.noBlank_orphan isWord)
  | case3 _ position heading isParent text isText =>
      right
      exact ⟨heading, Outline.mem_ancestors_of_parent? isParent, text_of_verbatim? isText⟩
  | case4 _ _ _ _ _ identifier isIdentifier =>
      exact Or.inl (noBlank_withExtension (CodeBlock.noBlank_of_identifier? isIdentifier) isWord)
  | case5 _ position heading _ _ _ slug isSlug =>
      obtain ⟨text, _, rfl⟩ := Option.map_eq_some_iff.mp isSlug
      exact Or.inl (naming.noBlank_numbered position text isWord)
  | case6 _ _ _ _ _ _ _ =>
      exact Or.inl (naming.noBlank_orphan isWord)

end Naming

namespace Outline

variable {outline : Outline} {requested : List String} {naming : Naming} {block : PlacedBlock}
  {blocks : List PlacedBlock}

/-- What a listing shows as the target of a block, by where it comes from. -/
theorem listBlock_target_cases
    (outline : Outline) (requested : List String) (naming : Naming) (block : PlacedBlock) :
    let shown := (outline.listBlock requested naming block).1.target
    (∃ unknown, Target.ofDetails block.code.details = .error unknown ∧ shown = .unknown unknown) ∨
      (∃ path, Target.ofDetails block.code.details = .ok (.file (some path)) ∧
        shown = .file path) ∨
      shown = .directive .startup ∨ shown = .unnamed ∨
      shown = .file (naming.name outline block).1 := by
  rw [listBlock, Naming.resolve, ListedTarget.ofUnselected]
  cases outline.selects requested block <;>
    cases Target.ofDetails block.code.details with
    | error unknown =>
        exact Or.inl ⟨unknown, rfl, rfl⟩
    | ok target =>
        cases target with
        | file path =>
            cases path with
            | none => simp
            | some path => exact Or.inr (Or.inl ⟨path, rfl, rfl⟩)
        | directive directive =>
            cases directive
            simp

/-- Without a line feed in the headings around a block there is none in its target. -/
theorem not_mem_display_of_listBlock
    (isWord : block.code.LanguageIsWord) (unbroken : ¬ outline.UnderBrokenHeading block) :
    '\n' ∉ (outline.listBlock requested naming block).1.target.display.toList := by
  rcases outline.listBlock_target_cases requested naming block with
    ⟨unknown, target, shown⟩ | ⟨path, target, shown⟩ | shown | shown | shown <;>
    rw [shown, ListedTarget.display]
  · simp [UnknownDirective.mem_message_iff, (Target.noBlank_of_unknown target).not_mem_lineFeed]
  · exact (Target.noBlank_of_ofDetails target).not_mem_lineFeed
  · decide
  · decide
  · intro lineFeed
    rcases naming.noBlank_name_or_verbatim outline isWord with noBlank | ⟨heading, around, isText⟩
    · exact noBlank.not_mem_lineFeed lineFeed
    · exact unbroken ⟨heading, around, _, isText, lineFeed⟩

/-- A trail takes several lines if one of its headings does. -/
theorem mem_trail_iff :
    '\n' ∈ (String.intercalate " > " ((outline.ancestors block).map Heading.display)).toList ↔
      outline.UnderBrokenHeading block := by
  rw [String.toList_intercalate, List.map_map]
  constructor
  · intro member
    rcases Text.mem_of_mem_intercalate member with between | ⟨_, isPart, inPart⟩
    · exact absurd between (by decide)
    · obtain ⟨heading, around, rfl⟩ := List.mem_map.mp isPart
      exact ⟨heading, around, Heading.mem_display_iff.mp inPart⟩
  · rintro ⟨heading, around, overLines⟩
    exact Text.mem_intercalate_of_mem (List.mem_map_of_mem around)
      (Heading.mem_display_iff.mpr overLines)

/-- The record of a block has a line feed in it exactly if a heading around the block has one. -/
theorem mem_listingLine_iff
    (isWord : block.code.LanguageIsWord) (source : String) :
    '\n' ∈ (outline.listingLine source (outline.listBlock requested naming block).1).toList ↔
      outline.UnderBrokenHeading block := by
  have notInNumber : ∀ number, '\n' ∉ (alignedNumber number).toList := by
    intro number member
    rw [alignedNumber, String.toList_append, List.mem_append, String.toList_ofList] at member
    rcases member with padding | digit
    · exact absurd (List.eq_of_mem_replicate padding) (by decide)
    · exact (Naming.noBlank_toString number).not_mem_lineFeed digit
  have notInMark : ∀ selected : Bool, '\n' ∉ (if selected then "+" else "-").toList := by
    decide
  have inParts :
      ∀ listed : ListedBlock,
        '\n' ∈ (outline.listingLine source listed).toList ↔
          '\n' ∈ listed.target.display.toList ∨
            '\n' ∈ (String.intercalate " > "
              ((outline.ancestors listed.block).map Heading.display)).toList := by
    intro listed
    simp [listingLine, notInNumber, notInMark]
  rw [inParts, listBlock_block, mem_trail_iff]
  refine or_iff_right_of_imp fun inTarget => ?_
  by_contra unbroken
  exact not_mem_display_of_listBlock isWord unbroken inTarget

/--
The line of a block that is listed is broken by the headings above it and by
nothing else.
-/
theorem mem_listingLine_of_mem_listBlocks
    {listed : ListedBlock} (isListed : listed ∈ outline.listBlocks requested naming blocks)
    (areWords : ∀ block ∈ blocks, block.code.LanguageIsWord) (source : String) :
    '\n' ∈ (outline.listingLine source listed).toList ↔
      outline.UnderBrokenHeading listed.block := by
  induction blocks generalizing naming with
  | nil =>
      contradiction
  | cons block rest inductionHypothesis =>
      obtain ⟨isWord, restAreWords⟩ := List.forall_mem_cons.mp areWords
      rw [listBlocks_cons] at isListed
      rcases List.mem_cons.mp isListed with rfl | later
      · rw [mem_listingLine_iff isWord, listBlock_block]
      · exact inductionHypothesis later restAreWords

end Outline

/-- Lines are written one after the other, each with its line end. -/
theorem unlines_toList (lines : List String) :
    (unlines lines).toList = Text.ended (lines.map String.toList) := by
  simp [unlines, Text.ended, String.toList_join, List.flatMap_map]

namespace SourceFile

/-- The outline of a file. -/
def outline (file : SourceFile) : Outline :=
  .ofDocument (Markdown.read file.text)

/-- The blocks of a file as its listing shows them. -/
def listing (file : SourceFile) (requested : List String) : List ListedBlock :=
  (Markdown.read file.text).listing requested

section Records

variable (file : SourceFile) (requested : List String)

/-- A file is listed as its path with a line for each of its blocks behind. -/
theorem listingLines_eq :
    file.listingLines requested =
      file.path :: (file.listing requested).map (file.outline.listingLine file.text) :=
  rfl

/-- Every block of a file is listed, in order. -/
theorem map_block_listing :
    (file.listing requested).map ListedBlock.block = file.outline.blocks :=
  Outline.map_block_listBlocks _ requested .start _

/-- In the listing of a file, too, a line is broken by the headings above its block alone. -/
theorem mem_listingLine_iff
    {listed : ListedBlock} (isListed : listed ∈ file.listing requested) :
    '\n' ∈ (file.outline.listingLine file.text listed).toList ↔
      file.outline.UnderBrokenHeading listed.block :=
  Outline.mem_listingLine_of_mem_listBlocks isListed
    (fun _ isBlock => Markdown.languageIsWord_of_mem_blocks isBlock) file.text

/-- The records of a file are lines exactly if no heading above a block breaks them. -/
theorem forall_listingLines_iff (onePathLine : '\n' ∉ file.path.toList) :
    (∀ record ∈ file.listingLines requested, '\n' ∉ record.toList) ↔
      ∀ block ∈ file.outline.blocks, ¬ file.outline.UnderBrokenHeading block := by
  rw [listingLines_eq, List.forall_mem_cons, List.forall_mem_map,
    ← file.map_block_listing requested, List.forall_mem_map]
  constructor
  · rintro ⟨_, areLines⟩ listed isListed
    rw [← file.mem_listingLine_iff requested isListed]
    exact areLines listed isListed
  · intro unbroken
    refine ⟨onePathLine, fun listed isListed => ?_⟩
    rw [file.mem_listingLine_iff requested isListed]
    exact unbroken listed isListed

end Records

/--
A listing has, for each of some files in order, a record with its path and
behind it one for each code block, in the order of the document.  The paths
being lines, the lines of the text are these records exactly if no code block
stands below a heading whose text goes over several lines.  Which blocks are
requested plays no part in this: the record of a block falls into several lines
exactly if the text of a heading around the block does.
-/
theorem listing_line_by_line
    (files : List SourceFile) (requested : List String)
    (onePathLine : ∀ file ∈ files, '\n' ∉ file.path.toList) :
    (unlines (files.flatMap (listingLines requested))).toList.splitOn '\n' =
      files.flatMap (fun file =>
        file.path.toList ::
          (file.listing requested).flatMap fun listed =>
            (file.outline.listingLine file.text listed).toList.splitOn '\n') ++ [[]] ∧
    (∀ file ∈ files,
      (file.listing requested).map ListedBlock.block = file.outline.blocks ∧
      ∀ listed ∈ file.listing requested,
        '\n' ∈ (file.outline.listingLine file.text listed).toList ↔
          file.outline.UnderBrokenHeading listed.block) ∧
    ((unlines (files.flatMap (listingLines requested))).toList.splitOn '\n' =
        (files.flatMap (listingLines requested)).map String.toList ++ [[]] ↔
      ∀ file ∈ files, ∀ block ∈ file.outline.blocks,
        ¬ file.outline.UnderBrokenHeading block) := by
  refine ⟨?_, ?_, ?_⟩
  · rw [unlines_toList, Text.splitOn_ended, List.flatMap_map, List.flatMap_assoc]
    congr 1
    refine List.flatMap_congr fun file member => ?_
    rw [listingLines_eq, List.flatMap_cons, List.flatMap_map,
      List.splitOn_eq_singleton (onePathLine file member)]
    rfl
  · intro file _
    exact ⟨file.map_block_listing requested, fun listed => file.mem_listingLine_iff requested⟩
  · rw [unlines_toList, Text.splitOn_ended_eq_iff, List.forall_mem_map]
    constructor
    · intro areLines file isFile
      rw [← file.forall_listingLines_iff requested (onePathLine file isFile)]
      exact fun record inFile => areLines record (List.mem_flatMap.mpr ⟨file, isFile, inFile⟩)
    · intro unbroken record member
      obtain ⟨file, isFile, inFile⟩ := List.mem_flatMap.mp member
      exact (file.forall_listingLines_iff requested (onePathLine file isFile)).mpr
        (unbroken file isFile) record inFile

/-- A code block below a heading that is written on two lines. -/
def headingOnTwoLines : SourceFile :=
  ⟨"a.md", "a\nb\n=\n\n\x60\x60\x60\nx\n\x60\x60\x60\n"⟩

/-- The path of this file has no line feed. -/
theorem headingOnTwoLines_onePathLine :
    ∀ file ∈ [headingOnTwoLines], '\n' ∉ file.path.toList := by
  decide +kernel

/-- So this file is listed over three lines, with one block in it. -/
theorem headingOnTwoLines_listing :
    unlines ([headingOnTwoLines].flatMap (listingLines [])) =
        "a.md\n  +     5  a-b-1  [# a\nb]\n" ∧
      (unlines ([headingOnTwoLines].flatMap (listingLines []))).toList.splitOn '\n' ≠
        ([headingOnTwoLines].flatMap (listingLines [])).map String.toList ++ [[]] := by
  refine ⟨by decide +kernel, ?_⟩
  rw [ne_eq, (listing_line_by_line [headingOnTwoLines] [] headingOnTwoLines_onePathLine).2.2]
  decide +kernel

/-- The lines of a listing need not be its records, even where the paths are lines. -/
theorem listing_not_line_by_line :
    ¬ ∀ (files : List SourceFile) (requested : List String),
        (∀ file ∈ files, '\n' ∉ file.path.toList) →
          (unlines (files.flatMap (listingLines requested))).toList.splitOn '\n' =
            (files.flatMap (listingLines requested)).map String.toList ++ [[]] := by
  intro lineByLine
  have areLines := lineByLine [headingOnTwoLines] [] headingOnTwoLines_onePathLine
  revert areLines
  decide +kernel

end SourceFile

end Tangle
