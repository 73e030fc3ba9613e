import Mathlib.Data.List.Forall2
import Tangle.Markdown.Block
import Tangle.Proofs.Markdown.Printed
import Tangle.Proofs.Text.Runs

namespace Tangle

/-!
# The blocks of a printed document

Read line by line, the text printed for a document gives one block for each of
its headings and code blocks: a heading is finished on its own line, and a code
block from its opening fence to the closing one takes in every line between
them, since none of these closes it.
-/

namespace Markdown

namespace Line

/-- The line that a text with a line feed behind it makes. -/
def ofText (start : Nat) (text : List Char) : Line :=
  ⟨start, text, text.foldl (fun offset character => offset + character.utf8Size) start, .lineFeed⟩

/-- The lines that texts with line feeds behind them make. -/
def ofTexts (start : Nat) : List (List Char) → List Line
  | [] => []
  | text :: rest => ofText start text :: ofTexts (ofText start text).stop rest

/-- A character of a line is seen as it is. -/
theorem visible_eq_self {character : Char} (plain : isLineCharacter character) :
    visible character = character := by
  have notNull : character ≠ '\x00' := ne_of_class plain (by decide)
  exact if_neg (fun isZero => notNull (Char.toNat_inj.mp isZero))

/-- Reading adds a plain character to the unfinished line. -/
theorem split_cons
    {character : Char} (plain : isLineCharacter character)
    (start offset : Nat) (current rest : List Char) :
    split start offset current (character :: rest) =
      split start (offset + character.utf8Size) (character :: current) rest := by
  have noLineFeed : character ≠ '\n' := ne_of_class plain (by decide)
  have noReturn : character ≠ '\r' := ne_of_class plain (by decide)
  rw [split, visible_eq_self plain]
  all_goals simp_all

/-- Reading plain characters and a line feed finishes a line. -/
theorem split_line
    {text : List Char} (plain : ∀ character ∈ text, isLineCharacter character)
    (start offset : Nat) (current rest : List Char) :
    split start offset current (text ++ '\n' :: rest) =
      { ofText offset text with start := start, text := current.reverse ++ text } ::
        split (ofText offset text).stop (ofText offset text).stop [] rest := by
  induction text generalizing offset current with
  | nil =>
      simp [split, ofText, stop, LineEnding.size]
  | cons first behind inductionHypothesis =>
      obtain ⟨firstPlain, behindPlain⟩ := List.forall_mem_cons.mp plain
      rw [List.cons_append, split_cons firstPlain, inductionHypothesis behindPlain]
      simp [ofText, stop]

/-- The lines of ended texts are these texts. -/
theorem split_ended
    {texts : List (List Char)}
    (plain : ∀ text ∈ texts, ∀ character ∈ text, isLineCharacter character) (start : Nat) :
    split start start [] (Text.ended texts) = ofTexts start texts := by
  induction texts generalizing start with
  | nil =>
      rfl
  | cons text rest inductionHypothesis =>
      obtain ⟨textPlain, restPlain⟩ := List.forall_mem_cons.mp plain
      have shape : Text.ended (text :: rest) = text ++ '\n' :: Text.ended rest := by
        simp [Text.ended]
      rw [shape, split_line textPlain, inductionHypothesis restPlain]
      rfl

end Line

namespace Cursor

/-- A tab takes a column at least. -/
theorem tabWidth_pos (column : Nat) : 0 < tabWidth column := by
  have remainder : column % 4 < 4 := Nat.mod_lt column (by decide)
  rw [tabWidth]
  omega

/-- No gap stands where a line goes on at once. -/
theorem gapWidth_cons_of_not_gap
    {first : Char} (notGap : isGap first = false) (column : Nat) (behind : List Char) :
    gapWidth column (first :: behind) = 0 := by
  have noSpace : first ≠ ' ' := (ne_of_class (by decide) notGap).symm
  have noTab : first ≠ '\t' := (ne_of_class (by decide) notGap).symm
  rw [gapWidth]
  all_goals simp_all

/-- Passing no columns leaves the text as it is. -/
theorem pass_zero (column offset : Nat) (text : List Char) :
    pass 0 column offset text = ⟨text, column, offset, 0⟩ := by
  rw [pass.eq_def]
  split <;> rfl

/-- Passing as many columns as spaces and tabs take up leaves what stands behind them. -/
theorem rest_pass_gapWidth (column offset : Nat) (text : List Char) :
    (pass (gapWidth column text) column offset text).rest = text.dropWhile isGap := by
  induction text generalizing column offset with
  | nil =>
      rfl
  | cons first behind inductionHypothesis =>
      by_cases gap : isGap first = true
      · have spaceOrTab : first = ' ' ∨ first = '\t' := by simpa [isGap] using gap
        rw [List.dropWhile_cons_of_pos gap]
        rcases spaceOrTab with rfl | rfl
        · rw [gapWidth, pass, if_neg (Nat.succ_ne_zero _)]
          exact inductionHypothesis (column + 1) (offset + 1)
        · have atLeast := tabWidth_pos column
          rw [gapWidth, pass, if_neg (by omega), if_pos (Nat.le_add_left _ _), Nat.add_sub_cancel]
          exact inductionHypothesis (column + tabWidth column) (offset + 1)
      · rw [List.dropWhile_cons_of_neg gap, gapWidth_cons_of_not_gap (by simpa using gap),
          pass_zero]

/-- Skipping columns from the start of a line passes them in its text. -/
theorem skip_ofLine (columns : Nat) (line : Line) :
    (ofLine line).skip columns = pass columns 0 line.start line.text := by
  cases columns with
  | zero =>
      exact (pass_zero 0 line.start line.text).symm
  | succ columns =>
      exact if_neg (Nat.not_succ_le_zero columns)

/-- Without its indentation a line starts with its first character that is no gap. -/
theorem rest_skipIndent_ofLine (line : Line) :
    (ofLine line).skipIndent.rest = line.text.dropWhile isGap := by
  have whole : (ofLine line).indent = gapWidth 0 line.text := Nat.zero_add _
  rw [skipIndent, whole, skip_ofLine, rest_pass_gapWidth]

section

variable {line : Line} {first : Char} {behind : List Char}

/-- A line that starts with no gap is not indented. -/
theorem indent_ofLine (shape : line.text = first :: behind) (notGap : isGap first = false) :
    (ofLine line).indent = 0 := by
  rw [indent, ofLine, shape, gapWidth_cons_of_not_gap notGap]

/-- Skipping no columns leaves the cursor where it is. -/
theorem skip_zero (cursor : Cursor) : cursor.skip 0 = cursor :=
  if_pos (Nat.zero_le cursor.owed)

/-- A line that starts without a gap has no indent to skip. -/
theorem skipIndent_ofLine (shape : line.text = first :: behind) (notGap : isGap first = false) :
    (ofLine line).skipIndent = ofLine line := by
  rw [skipIndent, indent_ofLine shape notGap, skip_zero]

/-- Nor is it blank. -/
theorem isBlank_ofLine (shape : line.text = first :: behind) (notGap : isGap first = false) :
    (ofLine line).isBlank = false := by
  simp [isBlank, ofLine, shape, notGap]

end

end Cursor

/-- A plain character is no gap, unless it is a space. -/
theorem isGap_eq_false_of_isWordOrSpace
    {character : Char} (plain : isWordOrSpace character) (noSpace : character ≠ ' ') :
    isGap character = false := by
  have noTab : character ≠ '\t' := ne_of_class plain (by decide)
  simp [isGap, noSpace, noTab]

namespace Heading

variable {heading : Tangle.Heading} {text : String}
variable (printable : heading.Printable) (hasText : heading.text = some text)

include printable hasText

/-- The text of a printable heading starts with a character of a word. -/
theorem isApart_eq_false_of_head?
    {first : Char} (isFirst : text.toList.head? = some first) : isApart first = false := by
  have plain := printable.isWordOrSpace_of_mem hasText (List.mem_of_mem_head? isFirst)
  have noSpace : first ≠ ' ' := by
    rintro rfl
    exact printable.head?_ne_space hasText isFirst
  have noLineTab : first ≠ '\x0b' := ne_of_class plain (by decide)
  have noPageFeed : first ≠ '\x0c' := ne_of_class plain (by decide)
  simp [isApart, isGap_eq_false_of_isWordOrSpace plain noSpace, noLineTab, noPageFeed]

/-- So a printable text does not start with a gap. -/
theorem isGap_eq_false_of_head?
    {first : Char} (isFirst : text.toList.head? = some first) : isGap first = false := by
  have notApart := isApart_eq_false_of_head? printable hasText isFirst
  rw [isApart, Bool.or_assoc, Bool.or_eq_false_iff] at notApart
  exact notApart.1

/-- Nor does it end with one. -/
theorem isGap_eq_false_of_getLast?
    {last : Char} (isLast : text.toList.getLast? = some last) : isGap last = false := by
  apply isGap_eq_false_of_isWordOrSpace
  · exact printable.isWordOrSpace_of_mem hasText (List.mem_of_getLast? isLast)
  · rintro rfl
    exact printable.getLast?_ne_space hasText isLast

/-- The text of a printable heading begins at once. -/
theorem dropWhile_isApart_text : text.toList.dropWhile isApart = text.toList :=
  Text.dropWhile_of_startsOutside fun _ => isApart_eq_false_of_head? printable hasText

/-- The text of a printable heading has no blanks at its ends. -/
theorem trimGaps_text : trimGaps text.toList = text.toList :=
  Text.trimWhere_eq_self
    (fun _ => isGap_eq_false_of_head? printable hasText)
    (fun _ => isGap_eq_false_of_getLast? printable hasText)

/-- The text of a printable heading has no number signs at its end that could be dropped. -/
theorem dropClosing_text : dropClosing text.toList = text.toList := by
  rw [dropClosing]
  simp only [trimGaps_text printable hasText]
  cases reversed : text.toList.reverse with
  | nil =>
      exact absurd (List.reverse_eq_nil_iff.mp reversed) (printable.text_ne_nil hasText)
  | cons last front =>
      have isLast : text.toList.getLast? = some last := by
        rw [← List.head?_reverse, reversed, List.head?_cons]
      have plain := printable.isWordOrSpace_of_mem hasText (List.mem_of_getLast? isLast)
      have notSign : last ≠ '#' := ne_of_class plain (by decide)
      rw [List.dropWhile_cons_of_neg (by simpa using notSign)]
      simp [isGap_eq_false_of_getLast? printable hasText isLast]

omit hasText

/-- A printed heading is read with its depth and its text. -/
theorem ofLine?_display :
    ofLine? heading.display.toList = some (heading.depth, (heading.text.getD "").toList) := by
  have notZero : ¬ heading.depth = 0 := Nat.ne_of_gt printable.depth_pos
  have atMostSix : ¬ 6 < heading.depth := Nat.not_lt.mpr printable.depth_le
  rw [Tangle.Heading.display_toList]
  cases hasText : heading.text with
  | none =>
      simp [ofLine?, notZero, atMostSix]
  | some text =>
      have ends : List.head? (' ' :: text.toList) ≠ some '#' := by
        simp
      have isSpace : isApart ' ' = true := by decide
      simp [ofLine?, Text.takeWhile_signs ends, Text.dropWhile_signs ends, notZero, atMostSix,
        isSpace, dropWhile_isApart_text printable hasText, dropClosing_text printable hasText]

end Heading

section

variable {line : Line} {first : Char} {behind : List Char}
variable (shape : line.text = first :: behind) (notGap : isGap first = false)

include shape notGap

/-- A line that is a heading opens one. -/
theorem Opening.ofCursor_of_heading
    {depth : Nat} {content : List Char} (notQuote : first ≠ '>')
    (heading : Heading.ofLine? line.text = some (depth, content)) :
    Opening.ofCursor (.ofLine line) = .heading line.start depth content := by
  have rest : (Cursor.ofLine line).rest = line.text := rfl
  have noQuote : line.text.head? ≠ some '>' := by
    simpa [shape] using notQuote
  simp only [ofCursor, Cursor.indent_ofLine shape notGap, Cursor.skipIndent_ofLine shape notGap,
    rest, heading]
  rw [if_neg (by decide), if_neg noQuote]
  rfl

/-- A line that is a fence opens a code block. -/
theorem Opening.ofCursor_of_fence
    {fence : Fence} (notQuote : first ≠ '>') (noHeading : Heading.ofLine? line.text = none)
    (found : Fence.ofLine? 0 line.start line.text = some fence) :
    Opening.ofCursor (.ofLine line) = .fence fence := by
  have rest : (Cursor.ofLine line).rest = line.text := rfl
  have offset : (Cursor.ofLine line).offset = line.start := rfl
  have noQuote : line.text.head? ≠ some '>' := by
    simpa [shape] using notQuote
  simp only [ofCursor, Cursor.indent_ofLine shape notGap, Cursor.skipIndent_ofLine shape notGap,
    rest, offset, noHeading, found]
  rw [if_neg (by decide), if_neg noQuote]

end

namespace Fence

/-- The fence that a printed code block is opened with. -/
def printed (start : Nat) (info : List Char) : Fence :=
  ⟨'\x60', 3, 0, info, start⟩

/-- The fence that is printed has three signs. -/
theorem fence_toList : CodeBlock.fence.toList = List.replicate 3 '\x60' := by decide

/-- The first line of a printed code block opens it. -/
theorem ofLine?_printed
    {info : List Char} (plain : ∀ character ∈ info, CodeBlock.isInfoCharacter character)
    (start : Nat) :
    ofLine? 0 start (List.replicate 3 '\x60' ++ info) = some (printed start info) := by
  have noAccent : '\x60' ∉ info :=
    fun member => ne_of_class (plain '\x60' member) (by decide) rfl
  have ends : info.head? ≠ some '\x60' := by
    intro startsWithAccent
    exact noAccent (List.mem_of_mem_head? startsWithAccent)
  have signs := Text.takeWhile_signs ends 3
  have behind := Text.dropWhile_signs ends 3
  simp only [List.replicate_succ, List.replicate_zero, List.cons_append, List.nil_append]
    at signs behind ⊢
  simp [ofLine?, signs, behind, noAccent, printed]

/-- A line is closing only if, its indentation aside, it starts with three accents. -/
theorem isClosedBy_printed
    {text : List Char} (noFence : ¬ CodeBlock.fence.toList <+: text)
    (start : Nat) (info : List Char) :
    (printed start info).isClosedBy text = false := by
  have fewSigns : ¬ 3 ≤ (text.takeWhile (· == '\x60')).length := by
    intro enough
    apply noFence
    have inRun : List.replicate 3 '\x60' <+: text.takeWhile (· == '\x60') := by
      rw [Text.takeWhile_eq_replicate]
      exact List.prefix_replicate_iff.mpr ⟨by simpa using enough, by simp⟩
    rw [fence_toList]
    exact inRun.trans (List.takeWhile_prefix _)
  simp [isClosedBy, printed, fewSigns]

/-- The fence that is printed closes what it opened. -/
theorem printed_isClosedBy_fence (start : Nat) (info : List Char) :
    (printed start info).isClosedBy CodeBlock.fence.toList = true := by
  rw [fence_toList]
  rfl

end Fence

section

variable {line : Line}

/-- The line of a heading is a finished block at once. -/
theorem openAt_heading
    {heading : Tangle.Heading} (printable : heading.Printable)
    (isHeading : line.text = heading.display.toList) (inQuote : Bool) (finished : List Block) :
    openAt inQuote finished line (.ofLine line) =
      ⟨.heading ⟨line.start, line.stop⟩ heading.depth (heading.text.getD "").toList :: finished,
        .nothing, true, false⟩ := by
  obtain ⟨behind, shape⟩ : ∃ behind, line.text = '#' :: behind := by
    obtain ⟨levels, depth⟩ := Nat.exists_eq_succ_of_ne_zero (Nat.ne_of_gt printable.depth_pos)
    rw [isHeading, Tangle.Heading.display_toList, depth]
    exact ⟨_, rfl⟩
  have notGap : isGap '#' = false := by decide
  have read : Heading.ofLine? line.text = some (heading.depth, (heading.text.getD "").toList) := by
    rw [isHeading, Heading.ofLine?_display printable]
  have opening := Opening.ofCursor_of_heading shape notGap (by decide) read
  simp [openAt, openBlocks, Cursor.isBlank_ofLine shape notGap, opening]

/-- The first line of a code block opens it. -/
theorem openAt_fence
    {info : List Char} (plain : ∀ character ∈ info, CodeBlock.isInfoCharacter character)
    (isOpening : line.text = CodeBlock.fence.toList ++ info)
    (inQuote : Bool) (finished : List Block) :
    openAt inQuote finished line (.ofLine line) =
      ⟨finished, .fenced (.printed line.start info) [] line.stop, true, false⟩ := by
  rw [Fence.fence_toList] at isOpening
  have shape : line.text = '\x60' :: ('\x60' :: '\x60' :: info) := isOpening
  have notGap : isGap '\x60' = false := by decide
  have noHeading : Heading.ofLine? line.text = none := by
    simp [Heading.ofLine?, shape]
  have found : Fence.ofLine? 0 line.start line.text = some (.printed line.start info) := by
    rw [isOpening, Fence.ofLine?_printed plain]
  have opening := Opening.ofCursor_of_fence shape notGap (by decide) noHeading found
  simp [openAt, openBlocks, Cursor.isBlank_ofLine shape notGap, opening]

variable {start : Nat} {info : List Char} (lines : List (List Char)) (finished : List Block)

/-- A line of the content goes into the code block as it is. -/
theorem continueFenced_content
    (noFence : ¬ CodeBlock.fence.toList <+: line.text.dropWhile isGap) :
    continueFenced finished (.printed start info) lines line (.ofLine line) =
      .within finished
        (.fenced (.printed start info) ((line.text ++ line.ending.codeText) :: lines) line.stop)
        false := by
  have staysOpen :
      (Fence.printed start info).isClosedBy (Cursor.ofLine line).skipIndent.rest = false := by
    rw [Cursor.rest_skipIndent_ofLine]
    exact Fence.isClosedBy_printed noFence start info
  have whole : codeLine (Cursor.ofLine line) line = line.text ++ line.ending.codeText := rfl
  have noIndent : (Fence.printed start info).indent = 0 := rfl
  simp [continueFenced, staysOpen, noIndent, Cursor.skip_zero, whole]

/-- The closing fence finishes the code block. -/
theorem continueFenced_fence (isFence : line.text = CodeBlock.fence.toList) :
    continueFenced finished (.printed start info) lines line (.ofLine line) =
      .within (.code ⟨start, line.textStop⟩ (some info) lines.reverse :: finished) .nothing
        false := by
  have shape : line.text = '\x60' :: ['\x60', '\x60'] := by
    rw [isFence]
    decide
  have notGap : isGap '\x60' = false := by decide
  have closes : (Fence.printed start info).isClosedBy (Cursor.ofLine line).rest = true := by
    rw [← Fence.printed_isClosedBy_fence start info, ← isFence]
    rfl
  have sameInfo : (Fence.printed start info).info = info := rfl
  have sameStart : (Fence.printed start info).start = start := rfl
  simp [continueFenced, Cursor.indent_ofLine shape notGap, Cursor.skipIndent_ofLine shape notGap,
    closes, sameInfo, sameStart]

end

/--
The lines of the content and the closing fence: the open code block takes in the
former as they are, and the latter finishes it.  The lines that an open block has
taken in stand latest first.
-/
theorem blocksFrom_content
    {content : List (List Char)}
    (noFence : ∀ text ∈ content, ¬ CodeBlock.fence.toList <+: text.dropWhile isGap)
    (blockStart : Nat) (info : List Char) (lines : List (List Char)) (finished : List Block)
    (afterBlank : Bool) (stop start : Nat) (rest : List (List Char)) :
    ∃ blockStop restStart,
      blocksFrom afterBlank finished (.fenced (.printed blockStart info) lines stop)
          (Line.ofTexts start (content ++ CodeBlock.fence.toList :: rest)) =
        blocksFrom false
          (.code ⟨blockStart, blockStop⟩ (some info)
            (lines.reverse ++ content.map (fun text => text ++ ['\n'])) :: finished)
          .nothing (Line.ofTexts restStart rest) := by
  induction content generalizing lines afterBlank stop start with
  | nil =>
      refine ⟨(Line.ofText start CodeBlock.fence.toList).textStop,
        (Line.ofText start CodeBlock.fence.toList).stop, ?_⟩
      rw [List.nil_append, Line.ofTexts, blocksFrom, step, continueFenced_fence lines finished rfl,
        List.map_nil, List.append_nil]
      rfl
  | cons text later inductionHypothesis =>
      obtain ⟨textNoFence, laterNoFence⟩ := List.forall_mem_cons.mp noFence
      obtain ⟨blockStop, restStart, read⟩ :=
        inductionHypothesis laterNoFence ((text ++ ['\n']) :: lines) false
          (Line.ofText start text).stop (Line.ofText start text).stop
      refine ⟨blockStop, restStart, ?_⟩
      rw [List.reverse_cons, List.append_assoc, List.singleton_append] at read
      rw [List.cons_append, Line.ofTexts, blocksFrom, step,
        continueFenced_content lines finished textNoFence, List.map_cons]
      exact read

end Markdown

namespace Item

/-- The block that the lines of an item are read as. -/
def block (span : Span) : Item → Markdown.Block
  | .heading title => .heading span title.depth (title.text.getD "").toList
  | .code body =>
      .code span (some body.infoText.toList)
        ((body.content.toList.splitOn '\n').map (fun line => line ++ ['\n']))

/-- Whether a block is what an item is read as, at whatever place. -/
def IsReadAs (item : Item) (block : Markdown.Block) : Prop :=
  ∃ span, block = item.block span

end Item

namespace Markdown

/-- The lines of a printable item become one finished block, and nothing stays open. -/
theorem blocksFrom_item
    {item : Item} (printable : item.Printable) (afterBlank : Bool) (finished : List Block)
    (start : Nat) (rest : List (List Char)) :
    ∃ span restStart,
      blocksFrom afterBlank finished .nothing (Line.ofTexts start (item.lines ++ rest)) =
        blocksFrom false (item.block span :: finished) .nothing (Line.ofTexts restStart rest) := by
  cases item with
  | heading title =>
      refine ⟨⟨start, (Line.ofText start title.display.toList).stop⟩,
        (Line.ofText start title.display.toList).stop, ?_⟩
      rw [Item.lines, List.singleton_append, Line.ofTexts, blocksFrom, step,
        openAt_heading printable rfl]
      rfl
  | code body =>
      let opening := Line.ofText start (CodeBlock.fence ++ body.infoText).toList
      have opened :
          openAt false finished opening (.ofLine opening) =
            ⟨finished, .fenced (.printed start body.infoText.toList) [] opening.stop, true,
              false⟩ :=
        openAt_fence (fun _ => CodeBlock.Printable.isInfoCharacter_of_mem printable)
          String.toList_append false finished
      obtain ⟨stop, restStart, read⟩ :=
        blocksFrom_content (CodeBlock.Printable.content_lines printable) start
          body.infoText.toList [] finished false opening.stop opening.stop rest
      refine ⟨⟨start, stop⟩, restStart, ?_⟩
      rw [Item.lines, List.cons_append, Line.ofTexts, blocksFrom, step, opened, List.append_assoc]
      exact read

/-- The lines of printable items become the blocks of these items. -/
theorem blocksFrom_items
    {items : List Item} (printable : ∀ item ∈ items, item.Printable)
    (afterBlank : Bool) (finished : List Block) (start : Nat) :
    ∃ blocks,
      List.Forall₂ Item.IsReadAs items blocks ∧
        blocksFrom afterBlank finished .nothing (Line.ofTexts start (items.flatMap Item.lines)) =
          finished.reverse ++ blocks := by
  induction items generalizing afterBlank finished start with
  | nil =>
      exact ⟨[], .nil, by simp [Line.ofTexts, blocksFrom, Open.close]⟩
  | cons item rest inductionHypothesis =>
      obtain ⟨itemPrintable, restPrintable⟩ := List.forall_mem_cons.mp printable
      obtain ⟨span, restStart, readItem⟩ :=
        blocksFrom_item itemPrintable afterBlank finished start (rest.flatMap Item.lines)
      obtain ⟨blocks, sameItems, readRest⟩ :=
        inductionHypothesis restPrintable false (item.block span :: finished) restStart
      refine ⟨item.block span :: blocks, .cons ⟨span, rfl⟩ sameItems, ?_⟩
      rw [List.flatMap_cons, readItem, readRest]
      simp

/-- The text printed for a document consists of one block for each of its items. -/
theorem ofLines_display {document : Document} (printable : document.Printable) :
    List.Forall₂ Item.IsReadAs document.items
      (Block.ofLines (Line.ofSource document.display.toList)) := by
  have plain :
      ∀ text ∈ document.items.flatMap Item.lines,
        ∀ character ∈ text, isLineCharacter character := by
    intro text isLine character member
    obtain ⟨item, isItem, ofItem⟩ := List.mem_flatMap.mp isLine
    exact Item.isLineCharacter_of_mem_lines (printable item isItem) ofItem member
  obtain ⟨blocks, sameItems, read⟩ := blocksFrom_items printable false [] 0
  rw [Document.display_toList, Line.ofSource, Line.split_ended plain, Block.ofLines, read]
  exact sameItems

end Markdown

end Tangle
