import Tangle.Markdown.Line
import Tangle.Markdown.Tag
import Tangle.Proofs.Project.Unplaced
import Tangle.Proofs.Text.Lines

namespace Tangle

/-!
# Printed documents and their lines

What a document must hold so that its text can be read back, and the lines that
its text consists of: one for a heading; for a code block one for each fence and
those of its content.  Each of them ends in a line feed.
-/

namespace Heading

/-- Whether a text is a word of ASCII letters and digits. -/
def isPrintedWord (word : List Char) : Bool :=
  !word.isEmpty &&
    word.all (fun character => Markdown.isLetter character || Markdown.isDigit character)

/--
The headings that can be read back: six levels, and either no text or words of
letters and digits with one space between each two.
-/
structure Printable (heading : Heading) : Prop where
  depth_pos : 1 ≤ heading.depth
  depth_le : heading.depth ≤ 6
  words : ∀ text ∈ heading.text, ∀ word ∈ text.toList.splitOn ' ', isPrintedWord word

instance (heading : Heading) : Decidable heading.Printable :=
  decidable_of_iff
    (1 ≤ heading.depth ∧ heading.depth ≤ 6 ∧
      ∀ text ∈ heading.text, ∀ word ∈ text.toList.splitOn ' ', isPrintedWord word)
    ⟨fun ⟨atLeast, atMost, words⟩ => ⟨atLeast, atMost, words⟩,
      fun ⟨atLeast, atMost, words⟩ => ⟨atLeast, atMost, words⟩⟩

end Heading

namespace CodeBlock

/-- The characters that stand for themselves behind an opening fence. -/
def isInfoCharacter (character : Char) : Bool :=
  !(['\x00', '\n', '\r', '\x60', '\\', '&'].contains character)

/-- The characters that a language can be read back with. -/
def isLanguageCharacter (character : Char) : Bool :=
  isInfoCharacter character && !Text.isBlank character

/-- The characters that content can be read back with. -/
def isContentCharacter (character : Char) : Bool :=
  !(['\x00', '\r'].contains character)

/--
The code blocks that can be read back.  The language is one word, and only
behind it there may be details; no line of the content could be taken for the
closing fence.
-/
structure Printable (code : CodeBlock) : Prop where
  language_ne_empty : ∀ language ∈ code.language, language ≠ ""
  language_characters :
    ∀ language ∈ code.language, language.toList.all isLanguageCharacter
  details_eq_none : code.language = none → code.details = none
  details_ne_empty : ∀ details ∈ code.details, details ≠ ""
  details_trimmed : ∀ details ∈ code.details, Text.trim details = details
  details_characters : ∀ details ∈ code.details, details.toList.all isInfoCharacter
  content_characters : code.content.toList.all isContentCharacter
  content_lines :
    ∀ line ∈ code.content.toList.splitOn '\n', ¬ fence.toList <+: line.dropWhile Markdown.isGap

instance (code : CodeBlock) : Decidable code.Printable :=
  decidable_of_iff
    ((∀ language ∈ code.language, language ≠ "") ∧
      (∀ language ∈ code.language, language.toList.all isLanguageCharacter) ∧
      (code.language = none → code.details = none) ∧
      (∀ details ∈ code.details, details ≠ "") ∧
      (∀ details ∈ code.details, Text.trim details = details) ∧
      (∀ details ∈ code.details, details.toList.all isInfoCharacter) ∧
      code.content.toList.all isContentCharacter ∧
      ∀ line ∈ code.content.toList.splitOn '\n',
        ¬ fence.toList <+: line.dropWhile Markdown.isGap)
    ⟨fun ⟨named, word, behind, nonempty, trimmed, plain, characters, lines⟩ =>
        ⟨named, word, behind, nonempty, trimmed, plain, characters, lines⟩,
      fun ⟨named, word, behind, nonempty, trimmed, plain, characters, lines⟩ =>
        ⟨named, word, behind, nonempty, trimmed, plain, characters, lines⟩⟩

end CodeBlock

namespace Item

/-- The items that can be read back from what is printed for them. -/
def Printable : Item → Prop
  | .heading title => title.Printable
  | .code block => block.Printable

instance (item : Item) : Decidable item.Printable :=
  match item with
  | .heading title => inferInstanceAs (Decidable title.Printable)
  | .code block => inferInstanceAs (Decidable block.Printable)

/-- The lines that are printed for an item. -/
def lines : Item → List (List Char)
  | .heading title => [title.display.toList]
  | .code block =>
      (CodeBlock.fence ++ block.infoText).toList ::
        (block.content.toList.splitOn '\n' ++ [CodeBlock.fence.toList])

end Item

namespace Document

/-- The documents whose headings and code blocks can all be read back. -/
def Printable (document : Document) : Prop :=
  ∀ item ∈ document.items, item.Printable

instance (document : Document) : Decidable document.Printable :=
  inferInstanceAs (Decidable (∀ item ∈ document.items, item.Printable))

end Document

/-- The text printed for an element consists of the lines of its item. -/
theorem Node.display_toList (node : Node) :
    node.display.toList = Text.ended (node.item?.toList.flatMap Item.lines) := by
  cases node with
  | heading title span =>
      simp [Node.display, Node.item?, Item.lines, Text.ended]
  | other span =>
      rfl
  | code block span =>
      have content := Text.ended_splitOn block.content.toList
      simp only [Text.ended] at content
      simp [Node.display, Node.item?, Item.lines, Text.ended, CodeBlock.display, content]

/-- The text printed for a document consists of the lines of its items. -/
theorem Document.display_toList (document : Document) :
    document.display.toList = Text.ended (document.items.flatMap Item.lines) := by
  rw [display, items, String.toList_join]
  induction document.nodes with
  | nil =>
      rfl
  | cons node rest inductionHypothesis =>
      have itemsSplit :
          (node :: rest).filterMap Node.item? =
            node.item?.toList ++ rest.filterMap Node.item? := by
        cases node <;> rfl
      rw [List.map_cons, List.flatMap_cons, inductionHypothesis, Node.display_toList, itemsSplit,
        Text.ended, Text.ended, Text.ended, List.flatMap_append, List.flatMap_append]

namespace Markdown

/-- The characters that neither end a line nor are exchanged for others in it. -/
def isLineCharacter (character : Char) : Bool :=
  !(['\x00', '\n', '\r'].contains character)

/-- The letters and digits of ASCII, and the space. -/
def isWordOrSpace (character : Char) : Bool :=
  isLetter character || isDigit character || character == ' '

/-- A character of a class is not one outside of it. -/
theorem ne_of_class
    {inClass : Char → Bool} {character other : Char}
    (member : inClass character = true) (excluded : inClass other = false) :
    character ≠ other := by
  rintro rfl
  rw [member] at excluded
  contradiction

/-- A class of characters without the special ones has only characters of lines. -/
theorem isLineCharacter_of_class
    {inClass : Char → Bool}
    (excludes : ['\x00', '\n', '\r'].all (fun special => !inClass special))
    {character : Char} (member : inClass character) :
    isLineCharacter character := by
  have notSpecial : character ∉ ['\x00', '\n', '\r'] := by
    intro special
    have excluded := List.all_eq_true.mp excludes character special
    simp [member] at excluded
  simpa [isLineCharacter] using notSpecial

/-- Plain characters stand in one line. -/
theorem isLineCharacter_of_isWordOrSpace
    {character : Char} (plain : isWordOrSpace character) : isLineCharacter character :=
  isLineCharacter_of_class (by decide) plain

/-- So do the characters of info strings. -/
theorem isLineCharacter_of_isInfoCharacter
    {character : Char} (plain : CodeBlock.isInfoCharacter character) :
    isLineCharacter character :=
  isLineCharacter_of_class (by decide) plain

end Markdown

namespace Heading

variable {heading : Heading} {text : String}

/-- The line of a heading: its number signs, and behind a space its text if there is one. -/
theorem display_toList (heading : Heading) :
    heading.display.toList =
      List.replicate heading.depth '#' ++
        (heading.text.map (fun text => ' ' :: text.toList)).getD [] := by
  cases hasText : heading.text <;> simp [display, hasText]

/-- The text of a printable heading holds nothing but letters, digits and spaces. -/
theorem Printable.isWordOrSpace_of_mem
    (printable : heading.Printable) (hasText : heading.text = some text)
    {character : Char} (member : character ∈ text.toList) :
    Markdown.isWordOrSpace character := by
  have joined : List.intercalate [' '] (text.toList.splitOn ' ') = text.toList :=
    List.intercalate_splitOn ' '
  rw [← joined] at member
  rcases Text.mem_of_mem_intercalate member with isSpace | ⟨word, isWord, inWord⟩
  · simp [Markdown.isWordOrSpace, List.mem_singleton.mp isSpace]
  · have plain := printable.words text hasText word isWord
    rw [isPrintedWord, Bool.and_eq_true, List.all_eq_true] at plain
    simp [Markdown.isWordOrSpace, plain.2 character inWord]

/-- No two spaces stand side by side in a printable text, nor does one at its ends. -/
theorem Printable.nil_notMem_splitOn
    (printable : heading.Printable) (hasText : heading.text = some text) :
    [] ∉ text.toList.splitOn ' ' := by
  intro emptyWord
  have isWord := printable.words text hasText [] emptyWord
  contradiction

/-- A printable text is not empty. -/
theorem Printable.text_ne_nil
    (printable : heading.Printable) (hasText : heading.text = some text) :
    text.toList ≠ [] := by
  intro empty
  apply printable.nil_notMem_splitOn hasText
  simp [empty]

/-- The text of a printable heading does not start with a space. -/
theorem Printable.head?_ne_space
    (printable : heading.Printable) (hasText : heading.text = some text) :
    text.toList.head? ≠ some ' ' := by
  intro startsWithSpace
  obtain ⟨rest, shape⟩ := List.head?_eq_some_iff.mp startsWithSpace
  apply printable.nil_notMem_splitOn hasText
  rw [shape, ← List.nil_append (' ' :: rest), List.splitOn_append_cons_self]
  simp

/-- The text of a printable heading does not end with a space. -/
theorem Printable.getLast?_ne_space
    (printable : heading.Printable) (hasText : heading.text = some text) :
    text.toList.getLast? ≠ some ' ' := by
  intro endsWithSpace
  obtain ⟨front, shape⟩ := List.getLast?_eq_some_iff.mp endsWithSpace
  apply printable.nil_notMem_splitOn hasText
  rw [shape, List.splitOn_append_cons_self]
  simp

end Heading

namespace CodeBlock

variable {code : CodeBlock}

/-- What is printed behind the language: a space and the details if there are any. -/
def behindLanguage (code : CodeBlock) : List Char :=
  (code.details.map (fun details => ' ' :: details.toList)).getD []

/-- An info string is the language and what stands behind it. -/
theorem infoText_toList (code : CodeBlock) :
    code.infoText.toList = (code.language.getD "").toList ++ code.behindLanguage := by
  cases hasDetails : code.details <;> simp [infoText, behindLanguage, hasDetails]

/-- The info string of a printable block has characters of info strings only. -/
theorem Printable.isInfoCharacter_of_mem
    (printable : code.Printable) {character : Char} (member : character ∈ code.infoText.toList) :
    isInfoCharacter character := by
  rw [infoText_toList, List.mem_append] at member
  rcases member with inLanguage | inDetails
  · cases named : code.language with
    | none =>
        simp [named] at inLanguage
    | some language =>
        have inText : character ∈ language.toList := by simpa [named] using inLanguage
        have plain :=
          List.all_eq_true.mp (printable.language_characters language named) character inText
        rw [isLanguageCharacter, Bool.and_eq_true] at plain
        exact plain.1
  · cases detailed : code.details with
    | none =>
        simp [behindLanguage, detailed] at inDetails
    | some details =>
        have inText : character = ' ' ∨ character ∈ details.toList := by
          simpa [behindLanguage, detailed] using inDetails
        rcases inText with rfl | inText
        · decide
        · exact List.all_eq_true.mp (printable.details_characters details detailed) character inText

/-- A line of its content has no line end in it. -/
theorem Printable.isLineCharacter_of_mem_splitOn
    (printable : code.Printable)
    {line : List Char} (isLine : line ∈ code.content.toList.splitOn '\n')
    {character : Char} (member : character ∈ line) :
    Markdown.isLineCharacter character := by
  obtain ⟨inContent, notSeparator⟩ := Text.mem_of_mem_splitOnP isLine member
  have noReturn := List.all_eq_true.mp printable.content_characters character inContent
  simp_all [Markdown.isLineCharacter, isContentCharacter]

end CodeBlock

/-- What is printed for a printable item is read as the lines that it was printed as. -/
theorem Item.isLineCharacter_of_mem_lines
    {item : Item} (printable : item.Printable)
    {line : List Char} (isLine : line ∈ item.lines)
    {character : Char} (member : character ∈ line) :
    Markdown.isLineCharacter character := by
  have fencePlain : CodeBlock.fence.toList.all Markdown.isLineCharacter := by decide
  cases item with
  | heading title =>
      rw [List.mem_singleton.mp isLine, Heading.display_toList, List.mem_append] at member
      rcases member with inSigns | inText
      · rw [(List.mem_replicate.mp inSigns).2]
        decide
      · cases hasText : title.text with
        | none =>
            simp [hasText] at inText
        | some text =>
            have spaceOrText : character = ' ' ∨ character ∈ text.toList := by
              simpa [hasText] using inText
            rcases spaceOrText with rfl | inText
            · decide
            · exact Markdown.isLineCharacter_of_isWordOrSpace
                (Heading.Printable.isWordOrSpace_of_mem printable hasText inText)
  | code block =>
      rcases List.mem_cons.mp isLine with rfl | later
      · rw [String.toList_append, List.mem_append] at member
        rcases member with inFence | inInfo
        · exact List.all_eq_true.mp fencePlain character inFence
        · exact Markdown.isLineCharacter_of_isInfoCharacter
            (CodeBlock.Printable.isInfoCharacter_of_mem printable inInfo)
      · rcases List.mem_append.mp later with inContent | isFence
        · exact CodeBlock.Printable.isLineCharacter_of_mem_splitOn printable inContent member
        · rw [List.mem_singleton.mp isFence] at member
          exact List.all_eq_true.mp fencePlain character member

end Tangle
