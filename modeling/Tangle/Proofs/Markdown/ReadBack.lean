import Tangle.Markdown.Reader
import Tangle.Proofs.Markdown.Gathering
import Tangle.Proofs.Markdown.PlainText

namespace Tangle

/-!
# What is printed can be read back

Reading the text printed for a document gives its headings and code blocks
again, in the same order, and each code block with its content to the last
character.  So compiling the text gives what compiling the document gives.  This
holds for every reader that finds headings and fences where CommonMark has them,
and the reader by lines is one.
-/

namespace Markdown

namespace Gathering

/-- Text inside a heading is added to its text. -/
theorem nodes_heading_text
    (depth : Nat) (span : Span) (gathered : HeadingText) (words : List (List Char))
    (rest : List PlacedEvent) :
    (heading depth span gathered).nodes
        ((words.map Piece.textEvent).map (⟨·, span⟩) ++
          ⟨.leave (.heading depth), span⟩ :: rest) =
      headingNode depth span
          (words.foldl (fun before word => before.add (String.ofList word)) gathered) ::
        outside.nodes rest := by
  induction words generalizing gathered with
  | nil =>
      rfl
  | cons word later inductionHypothesis =>
      exact inductionHypothesis (gathered.add (String.ofList word))

/-- Text inside a code block is added to its content. -/
theorem nodes_code_text
    (info : Option String) (span : Span) (content : String) (lines : List (List Char))
    (rest : List PlacedEvent) :
    (code info span content).nodes
        ((lines.map Piece.textEvent).map (⟨·, span⟩) ++
          ⟨.leave (.codeBlock info), span⟩ :: rest) =
      codeNode info span (content ++ String.ofList lines.flatten) :: outside.nodes rest := by
  induction lines generalizing content with
  | nil =>
      simp [nodes, step]
  | cons line later inductionHypothesis =>
      have added := inductionHypothesis (content ++ String.ofList line)
      rw [String.append_assoc, ← String.ofList_append] at added
      exact added

end Gathering

/-- A text without escapes and references is resolved to itself. -/
theorem resolve_infoText
    {info : List Char} (plain : ∀ character ∈ info, CodeBlock.isInfoCharacter character) :
    Text.resolve info = info := by
  have within : ∀ fuel, Text.resolveWithin fuel info = info := by
    induction info with
    | nil =>
        intro fuel
        cases fuel <;> rfl
    | cons first rest inductionHypothesis =>
        intro fuel
        obtain ⟨firstPlain, restPlain⟩ := List.forall_mem_cons.mp plain
        have noEscape : first ≠ '\\' := ne_of_class firstPlain (by decide)
        have noReference : first ≠ '&' := ne_of_class firstPlain (by decide)
        cases fuel with
        | zero =>
            rfl
        | succ fuel =>
            rw [Text.resolveWithin, inductionHypothesis restPlain]
            all_goals simp_all
  exact within info.length

/-- A text that is not empty is some text. -/
theorem nonEmpty_toList {text : String} (nonempty : text ≠ "") :
    nonEmpty text.toList = some text := by
  have notNil : ¬ text.toList = [] := by simpa using nonempty
  simp [nonEmpty, notNil]

/-- A trimmed info string starts with its language, and what is blank behind it is dropped. -/
theorem splitInfo_append
    {language behind : List Char} (word : ∀ character ∈ language, Text.isBlank character = false)
    (apart : ∀ first, behind.head? = some first → Text.isBlank first = true)
    (trimmed : Text.trimWhere Text.isBlank (language ++ behind) = language ++ behind) :
    splitInfo (String.ofList (language ++ behind)) =
      (nonEmpty language, nonEmpty (Text.trimWhere Text.isBlank behind)) := by
  have ends :
      behind.takeWhile (fun character => !Text.isBlank character) = [] ∧
        behind.dropWhile (fun character => !Text.isBlank character) = behind := by
    cases behind with
    | nil =>
        exact ⟨rfl, rfl⟩
    | cons first rest =>
        simp [apart first rfl]
  have wordPasses : ∀ character ∈ language, (!Text.isBlank character) = true :=
    fun character member => by simp [word character member]
  simp only [splitInfo, String.toList_ofList, trimmed]
  rw [List.takeWhile_append_of_pos wordPasses, List.dropWhile_append_of_pos wordPasses, ends.1,
    ends.2, List.append_nil]

end Markdown

namespace CodeBlock

variable {code : CodeBlock}

/-- What stands behind the language stands apart from it. -/
theorem isBlank_of_head?_behindLanguage
    {first : Char} (isFirst : code.behindLanguage.head? = some first) :
    Text.isBlank first = true := by
  cases detailed : code.details with
  | none =>
      simp [behindLanguage, detailed] at isFirst
  | some details =>
      have isSpace : ' ' = first := by simpa [behindLanguage, detailed] using isFirst
      rw [← isSpace]
      exact Text.isBlank_space

end CodeBlock

namespace CodeBlock.Printable

variable {code : CodeBlock} (printable : code.Printable)

include printable

/-- No blank stands in a printable language. -/
theorem isBlank_eq_false_of_mem
    {language : String} (named : code.language = some language)
    {character : Char} (member : character ∈ language.toList) :
    Text.isBlank character = false := by
  have plain := List.all_eq_true.mp (printable.language_characters language named) character member
  rw [isLanguageCharacter, Bool.and_eq_true] at plain
  simpa using plain.2

/-- Printable details have no blanks at their ends. -/
theorem trimWhere_details {details : String} (detailed : code.details = some details) :
    Text.trimWhere Text.isBlank details.toList = details.toList := by
  have sameText := congrArg String.toList (printable.details_trimmed details detailed)
  rwa [Text.trim, String.toList_ofList] at sameText

/-- What stands behind the language does not end with anything blank. -/
theorem dropEndWhile_behindLanguage :
    Text.dropEndWhile Text.isBlank code.behindLanguage = code.behindLanguage := by
  cases detailed : code.details with
  | none =>
      simp [behindLanguage, detailed]
  | some details =>
      have notNil : details.toList ≠ [] := by
        simpa using printable.details_ne_empty details detailed
      rw [behindLanguage, detailed]
      apply Text.dropEndWhile_eq_self
      intro last isLast
      rw [Option.map_some, Option.getD_some, List.getLast?_cons_of_ne_nil notNil,
        ← printable.trimWhere_details detailed] at isLast
      exact Text.getLast?_trimWhere isLast

/-- What stands behind the language gives the details again. -/
theorem nonEmpty_behindLanguage :
    Markdown.nonEmpty (Text.trimWhere Text.isBlank code.behindLanguage) = code.details := by
  cases detailed : code.details with
  | none =>
      rw [behindLanguage, detailed]
      rfl
  | some details =>
      have spaceDropped :
          Text.trimWhere Text.isBlank code.behindLanguage =
            Text.trimWhere Text.isBlank details.toList := by
        rw [behindLanguage, detailed]
        rfl
      rw [spaceDropped, printable.trimWhere_details detailed,
        Markdown.nonEmpty_toList (printable.details_ne_empty details detailed)]

end CodeBlock.Printable

namespace Markdown

/-- What follows a printed opening fence is parted into the language and the details again. -/
theorem splitInfo_infoText {code : CodeBlock} (printable : code.Printable) :
    splitInfo code.infoText = (code.language, code.details) := by
  cases named : code.language with
  | none =>
      have noDetails := printable.details_eq_none named
      have noInfo : code.infoText = "" := by
        simp [CodeBlock.infoText, named, noDetails]
      rw [noInfo, noDetails]
      decide
  | some language =>
      have nonempty := printable.language_ne_empty language named
      have notNil : language.toList ≠ [] := by simpa using nonempty
      have word : ∀ character ∈ language.toList, Text.isBlank character = false :=
        fun _ => printable.isBlank_eq_false_of_mem named
      have info : code.infoText = String.ofList (language.toList ++ code.behindLanguage) := by
        rw [← String.ofList_toList (s := code.infoText), CodeBlock.infoText_toList, named,
          Option.getD_some]
      have trimmed := Text.trimWhere_append notNil word code.behindLanguage
      rw [printable.dropEndWhile_behindLanguage] at trimmed
      rw [info,
        splitInfo_append word (fun _ => CodeBlock.isBlank_of_head?_behindLanguage) trimmed,
        nonEmpty_toList nonempty, printable.nonEmpty_behindLanguage]

/-- The line ending behind the content is the only one that is dropped. -/
theorem dropFinalEnding_content {code : CodeBlock} (printable : code.Printable) :
    dropFinalEnding (code.content ++ "\n") = code.content := by
  have noReturn : code.content.toList.getLast? ≠ some '\r' := by
    intro isLast
    have member := List.mem_of_getLast? isLast
    have plain := List.all_eq_true.mp printable.content_characters '\r' member
    exact ne_of_class plain (by decide) rfl
  exact (DropsEnding.lineFeed noReturn).dropFinalEnding_eq

/-- The events of a printed heading are gathered into this heading. -/
theorem nodes_heading
    {heading : Tangle.Heading} (printable : heading.Printable) {pieces : List (List Char)}
    (whole : pieces.flatten = (heading.text.getD "").toList)
    (noText : heading.text = none → pieces = []) (span : Span) (rest : List PlacedEvent) :
    Gathering.outside.nodes
        (placed span (.heading heading.depth) (pieces.map Piece.textEvent) ++ rest) =
      .heading heading span :: Gathering.outside.nodes rest := by
  have gathered :
      Gathering.outside.nodes
          (placed span (.heading heading.depth) (pieces.map Piece.textEvent) ++ rest) =
        Gathering.headingNode heading.depth span
            (pieces.foldl (fun before piece => before.add (String.ofList piece)) .start) ::
          Gathering.outside.nodes rest := by
    rw [← Gathering.nodes_heading_text]
    simp [placed, wrap, Gathering.nodes, Gathering.step, Gathering.enter]
  rw [gathered]
  cases hasText : heading.text with
  | none =>
      have sameHeading : heading = ⟨heading.depth, none⟩ := by rw [← hasText]
      rw [noText hasText, sameHeading]
      rfl
  | some text =>
      rw [hasText, Option.getD_some] at whole
      have nonempty : pieces ≠ [] := by
        rintro rfl
        exact printable.text_ne_nil hasText whole.symm
      have sameHeading : heading = ⟨heading.depth, some text⟩ := by rw [← hasText]
      rw [Gathering.headingNode, HeadingText.finish_foldl_add nonempty, whole,
        String.ofList_toList, ← sameHeading]

/-- The events of a printed code block are gathered into this code block. -/
theorem nodes_code
    {code : CodeBlock} (printable : code.Printable) {pieces : List (List Char)}
    (whole : pieces.flatten = code.content.toList ++ ['\n']) (span : Span)
    (rest : List PlacedEvent) :
    Gathering.outside.nodes
        (placed span (.codeBlock (some code.infoText)) (pieces.map Piece.textEvent) ++ rest) =
      .code code span :: Gathering.outside.nodes rest := by
  have content : String.ofList pieces.flatten = code.content ++ "\n" := by
    rw [whole, String.ofList_append, String.ofList_toList]
  have gathered := Gathering.nodes_code_text (some code.infoText) span "" pieces rest
  rw [content, String.empty_append, Gathering.codeNode] at gathered
  simp only [splitInfo_infoText printable, dropFinalEnding_content printable] at gathered
  rw [← gathered]
  simp [placed, wrap, Gathering.nodes, Gathering.step, Gathering.enter]

/-! ## Any reader of printed texts -/

/--
Events that tell of a printed item as CommonMark has it: one element at some place,
and inside it the text of the heading, or the content of the code block with a line
feed behind its last line, in as many pieces as may be.
-/
inductive HasEvents : Item → List PlacedEvent → Prop
  | heading {title : Tangle.Heading} (span : Span) (pieces : List (List Char)) :
      pieces.flatten = (title.text.getD "").toList → (title.text = none → pieces = []) →
      HasEvents (.heading title)
        (placed span (.heading title.depth) (pieces.map Piece.textEvent))
  | code {body : CodeBlock} (span : Span) (pieces : List (List Char)) :
      pieces.flatten = body.content.toList ++ ['\n'] →
      HasEvents (.code body)
        (placed span (.codeBlock (some body.infoText)) (pieces.map Piece.textEvent))

/--
What is assumed of a reader of Markdown: in a text that is printed for a document it
finds the events of each heading and of each code block, in order, and no others.
-/
def ReadsPrinted (events : String → List PlacedEvent) : Prop :=
  ∀ document : Document, document.Printable →
    ∃ groups, List.Forall₂ HasEvents document.items groups ∧
      events document.display = groups.flatten

/-- The events of a printed item are gathered into this item. -/
theorem HasEvents.nodes_append
    {item : Item} {events : List PlacedEvent} (hasEvents : HasEvents item events)
    (printable : item.Printable) (rest : List PlacedEvent) :
    ∃ span,
      Gathering.outside.nodes (events ++ rest) =
        item.node span :: Gathering.outside.nodes rest := by
  cases hasEvents with
  | heading span pieces whole noText =>
      exact ⟨span, nodes_heading printable whole noText span rest⟩
  | code span pieces whole =>
      exact ⟨span, nodes_code printable whole span rest⟩

/-- The events of printed items are gathered into these items and no others. -/
theorem items_nodes
    {items : List Item} {groups : List (List PlacedEvent)}
    (haveEvents : List.Forall₂ HasEvents items groups)
    (printable : ∀ item ∈ items, item.Printable) :
    (Gathering.outside.nodes groups.flatten).map Node.item? = items.map some := by
  induction haveEvents with
  | nil =>
      rfl
  | @cons item events later laterGroups hasEvents _ inductionHypothesis =>
      obtain ⟨itemPrintable, laterPrintable⟩ := List.forall_mem_cons.mp printable
      obtain ⟨span, gathered⟩ := hasEvents.nodes_append itemPrintable laterGroups.flatten
      rw [List.flatten_cons, gathered, List.map_cons, Node.item?_node,
        inductionHypothesis laterPrintable, List.map_cons]

/--
Whatever reads the text of a document as CommonMark has it, the events give the
headings and code blocks of the document in the same order and nothing else.  So for
every choice of identifiers the text compiles to the tree, the startup script and the
messages that the document compiles to.
-/
theorem ReadsPrinted.read_back
    {events : String → List PlacedEvent} (reads : ReadsPrinted events)
    {document : Document} (printable : document.Printable) :
    (documentOfEvents (events document.display)).nodes.map Node.item? =
        document.items.map some ∧
      ∀ requested fileId,
        ((documentOfEvents (events document.display)).compile requested fileId).tree =
            (document.compile requested fileId).tree ∧
          ((documentOfEvents (events document.display)).compile requested fileId).startup =
            (document.compile requested fileId).startup ∧
          ((documentOfEvents (events document.display)).compile requested fileId).messages =
            (document.compile requested fileId).messages := by
  obtain ⟨groups, haveEvents, isRead⟩ := reads document printable
  have readBack :
      (documentOfEvents (events document.display)).nodes.map Node.item? =
        document.items.map some := by
    rw [documentOfEvents, isRead]
    exact items_nodes haveEvents printable
  refine ⟨readBack, fun requested fileId => ?_⟩
  have sameItems : (documentOfEvents (events document.display)).items = document.items := by
    have present := congrArg (List.filterMap id) readBack
    simpa [Document.items, List.filterMap_map, Function.comp_def] using present
  have sameProject := Document.compile_congr_items sameItems requested fileId
  refine ⟨?_, ?_, ?_⟩
  · rw [← Project.tree_unplaced, sameProject, Project.tree_unplaced]
  · rw [← Project.startup_unplaced, sameProject, Project.startup_unplaced]
  · rw [← Project.messages_unplaced, sameProject, Project.messages_unplaced]

/-! ## The reader by lines -/

/-- The block of a printed item has the events that tell of this item. -/
theorem hasEvents_block
    {item : Item} (printable : item.Printable) (labels : List (List Char)) (span : Span) :
    HasEvents item (blockEvents labels false (item.block span)) := by
  cases item with
  | heading title =>
      rw [Item.block, blockEvents]
      cases hasText : title.text with
      | none =>
          have noEvents : inlineEvents labels "".toList = [].map Piece.textEvent := rfl
          rw [Option.getD_none, noEvents]
          exact .heading span [] (by rw [hasText]; rfl) fun _ => rfl
      | some text =>
          have plain : ∀ character ∈ text.toList, isWordOrSpace character :=
            fun _ => Heading.Printable.isWordOrSpace_of_mem printable hasText
          obtain ⟨words, events, joined⟩ := inlineEvents_plain plain labels
          rw [Option.getD_some, events]
          exact .heading span words (by rw [hasText, joined]; rfl) (by simp [hasText])
  | code body =>
      have info : String.ofList (Text.resolve body.infoText.toList) = body.infoText := by
        rw [resolve_infoText (fun _ => CodeBlock.Printable.isInfoCharacter_of_mem printable),
          String.ofList_toList]
      have content :
          ((body.content.toList.splitOn '\n').map (fun line => line ++ ['\n'])).flatten =
            body.content.toList ++ ['\n'] := by
        have ended := Text.ended_splitOn body.content.toList
        rwa [Text.ended, List.flatMap_def] at ended
      rw [Item.block, blockEvents, codeEvents, Option.map_some, info]
      exact .code span _ content

/-- The blocks of printed items have the events that tell of these items. -/
theorem hasEvents_blocks
    {items : List Item} (printable : ∀ item ∈ items, item.Printable)
    {blocks : List Block} (areReadAs : List.Forall₂ Item.IsReadAs items blocks)
    (labels : List (List Char)) :
    ∃ groups, List.Forall₂ HasEvents items groups ∧
      blocksEvents labels false blocks = groups.flatten := by
  induction areReadAs with
  | nil =>
      exact ⟨[], .nil, rfl⟩
  | @cons item block later laterBlocks isReadAs _ inductionHypothesis =>
      obtain ⟨span, rfl⟩ := isReadAs
      obtain ⟨itemPrintable, laterPrintable⟩ := List.forall_mem_cons.mp printable
      obtain ⟨groups, laterEvents, read⟩ := inductionHypothesis laterPrintable
      refine ⟨_ :: groups, .cons (hasEvents_block itemPrintable labels span) laterEvents, ?_⟩
      rw [blocksEvents, read, List.flatten_cons]

/-- The reader by lines finds in a printed text what CommonMark has there. -/
theorem eventsOfSource_readsPrinted : ReadsPrinted eventsOfSource :=
  fun _ printable => hasEvents_blocks printable (ofLines_display printable) _

end Markdown

/--
Reading the text of a document gives its headings and code blocks in the same
order and nothing else.  So for every choice of identifiers the text compiles to
the tree, the startup script and the messages that the document compiles to.
-/
theorem Document.display_read_back (document : Document) (printable : document.Printable) :
    (Markdown.read document.display).nodes.map Node.item? = document.items.map some ∧
      ∀ requested fileId,
        ((Markdown.read document.display).compile requested fileId).tree =
            (document.compile requested fileId).tree ∧
          ((Markdown.read document.display).compile requested fileId).startup =
            (document.compile requested fileId).startup ∧
          ((Markdown.read document.display).compile requested fileId).messages =
            (document.compile requested fileId).messages :=
  Markdown.eventsOfSource_readsPrinted.read_back printable

/-- Content that looks like Markdown, has blank lines at its ends, or is empty. -/
def Document.markdownInside : Document :=
  ⟨[.code
      ⟨some "bash", some "rmsm://startup  #go", "\n# no heading\n\t~~~\n \x60\x60\n\n"⟩ .nowhere,
    .heading ⟨6, none⟩ .nowhere,
    .other .nowhere,
    .heading ⟨2, some "Step 2"⟩ .nowhere,
    .code ⟨none, none, ""⟩ .nowhere,
    .code ⟨some "c++", some "file://a.cc", "x\n\n"⟩ .nowhere]⟩

/-- This document is read back, its markup being text in a code block. -/
theorem Document.markdownInside_read_back :
    markdownInside.Printable ∧
      (Markdown.read markdownInside.display).nodes.map Node.item? =
        markdownInside.items.map some ∧
      ∀ requested fileId,
        ((Markdown.read markdownInside.display).compile requested fileId).tree =
            (markdownInside.compile requested fileId).tree ∧
          ((Markdown.read markdownInside.display).compile requested fileId).startup =
            (markdownInside.compile requested fileId).startup ∧
          ((Markdown.read markdownInside.display).compile requested fileId).messages =
            (markdownInside.compile requested fileId).messages :=
  have printable : markdownInside.Printable := by decide +kernel
  ⟨printable, markdownInside.display_read_back printable⟩

end Tangle
