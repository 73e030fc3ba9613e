import Tangle.Document
import Tangle.Markdown.Link
import Tangle.Markdown.Opening

namespace Tangle.Markdown

/-!
# Blocks

The blocks of a text are found in one pass over its lines.  Between two lines
the state is a level: the blocks finished so far and the block that is still
open, which may itself hold a level.  A line first goes down through the open
containers that it continues; where it stops it adds to the open paragraph or
code block, or closes what is open there and opens something else.
-/

/-- A finished block; inside a container blocks stand in order. -/
inductive Block where
  | paragraph (span : Span)
  | heading (span : Span) (depth : Nat) (content : List Char)
  | code (span : Span) (info : Option (List Char)) (lines : List (List Char))
  | markup (span : Span)
  | rule (span : Span)
  | quote (span : Span) (children : List Block)
  | list (span : Span) (tight : Bool) (items : List Block)
  | item (span : Span) (children : List Block)
  | definitions (labels : List (List Char))

/-- One line of a paragraph from its first character that is no gap. -/
structure TextLine where
  start : Nat
  text : List Char
  stop : Nat
  deriving Repr, DecidableEq

/-- The list that an open item belongs to, its finished items latest first. -/
structure OpenList where
  start : Nat
  /-- Where the open item starts. -/
  itemStart : Nat
  marker : ListMarker
  tight : Bool
  items : List Block

/-- How far an open item has come. -/
inductive ItemStage where
  /-- Nothing but its sign has been seen. -/
  | fresh
  /-- It has content. -/
  | begun
  /-- A blank line after its sign has ended it, and its list waits for another item. -/
  | ended
  deriving Repr, DecidableEq

/-- The block that is open; lines and finished blocks inside it stand latest first. -/
inductive Open where
  | nothing
  | paragraph (lines : List TextLine)
  | fenced (fence : Fence) (lines : List (List Char)) (stop : Nat)
  | indented (start : Nat) (lines blanks : List (List Char)) (stop : Nat)
  | markup (kind : MarkupKind) (start stop : Nat)
  | quote (start stop : Nat) (finished : List Block) (inner : Open)
  | item (list : OpenList) (width : Nat) (stage : ItemStage) (stop : Nat)
      (finished : List Block) (inner : Open)

/-- What a line leaves at one level, and what it was to that level. -/
structure Outcome where
  finished : List Block
  inner : Open
  /-- Whether a block directly at this level was opened. -/
  opened : Bool
  /-- Whether the line was blank in a way that parts the blocks around it. -/
  blank : Bool

namespace TextLine

/-- The line of a paragraph that starts at a cursor. -/
def ofCursor (cursor : Cursor) (line : Line) : TextLine :=
  let front := cursor.skipIndent
  ⟨front.offset, front.rest, line.stop⟩

/-- The text of the lines of a paragraph, given latest first. -/
def joined (lines : List TextLine) : List Char :=
  List.intercalate ['\n'] (lines.reverse.map TextLine.text)

/-- The labels that the front of a paragraph defines, and the lines left of it, latest first. -/
def definitions (lines : List TextLine) : List (List Char) × List TextLine :=
  let (labels, remaining) := Link.definitions (joined lines)
  let count := if remaining.isEmpty then 0 else remaining.count '\n' + 1
  (labels, lines.take count)

/-- The range of the lines of a paragraph, given latest first. -/
def span (lines : List TextLine) : Span :=
  ⟨(lines.getLast?.map TextLine.start).getD 0, (lines.head?.map TextLine.stop).getD 0⟩

/-- The block of definitions, unless there are none. -/
def definitionBlocks (labels : List (List Char)) : List Block :=
  if labels.isEmpty then [] else [.definitions labels]

/-- The finished blocks that a paragraph gives, latest first. -/
def close (lines : List TextLine) : List Block :=
  let (labels, remaining) := definitions lines
  (if remaining.isEmpty then [] else [.paragraph (span remaining)]) ++ definitionBlocks labels

/-- The finished blocks that a paragraph gives as a heading, unless nothing is left of it. -/
def underlined? (lines : List TextLine) (depth stop : Nat) : Option (List Block) :=
  let (labels, remaining) := definitions lines
  if remaining.isEmpty then none
  else
    some (.heading ⟨(span remaining).start, stop⟩ depth (Heading.trimGaps (joined remaining)) ::
      definitionBlocks labels)

end TextLine

namespace OpenList

/-- Finish the open item of a list with its blocks, given latest first. -/
def finishItem (list : OpenList) (stop : Nat) (finished : List Block) : OpenList :=
  { list with items := .item ⟨list.itemStart, stop⟩ finished.reverse :: list.items }

/-- Note that blocks of a list stand apart, if they do. -/
def loosenIf (list : OpenList) (apart : Bool) : OpenList :=
  { list with tight := list.tight && !apart }

/-- The finished list. -/
def close (list : OpenList) (stop : Nat) : Block :=
  .list ⟨list.start, stop⟩ list.tight list.items.reverse

end OpenList

namespace Open

/-- The finished blocks that an open block gives when it is closed, latest first. -/
def close : Open → List Block
  | .nothing => []
  | .paragraph lines => TextLine.close lines
  | .fenced fence lines stop => [.code ⟨fence.start, stop⟩ (some fence.info) lines.reverse]
  | .indented start lines _ stop => [.code ⟨start, stop⟩ none lines.reverse]
  | .markup _ start stop => [.markup ⟨start, stop⟩]
  | .quote start stop finished inner =>
      [.quote ⟨start, stop⟩ (inner.close ++ finished).reverse]
  | .item list _ _ stop finished inner =>
      [(list.finishItem stop (inner.close ++ finished)).close stop]

/-- Whether the innermost open block is a paragraph. -/
def endsInParagraph : Open → Bool
  | .paragraph _ => true
  | .quote _ _ _ inner => inner.endsInParagraph
  | .item _ _ _ _ _ inner => inner.endsInParagraph
  | _ => false

/-- Add a line to the paragraph that is open innermost. -/
def addLazily (added : TextLine) : Open → Open
  | .paragraph lines => .paragraph (added :: lines)
  | .quote start stop finished inner => .quote start stop finished (inner.addLazily added)
  | .item list width stage stop finished inner =>
      .item list width stage stop finished (inner.addLazily added)
  | other => other

end Open

namespace Outcome

/-- A line that goes on with what is open, or opens nothing that is not inside it. -/
def within (finished : List Block) (inner : Open) (blank : Bool) : Outcome :=
  ⟨finished, inner, false, blank⟩

end Outcome

/-- The text that a line gives to a code block of which it has the front removed. -/
def codeLine (cursor : Cursor) (line : Line) : List Char :=
  cursor.text ++ line.ending.codeText

/--
Open blocks at a level where nothing is open.  Containers may open several
deep on one line; `fuel` bounds their number by the characters of the line.
-/
def openBlocks (inQuote : Bool) (finished : List Block) (line : Line) :
    Nat → Cursor → Outcome
  | 0, cursor => .within finished (.paragraph [.ofCursor cursor line]) false
  | fuel + 1, cursor =>
      if cursor.isBlank then .within finished .nothing (!inQuote)
      else
        match Opening.ofCursor cursor with
        | .quote inside =>
            let inner := openBlocks true [] line fuel inside
            ⟨finished, .quote cursor.skipIndent.offset line.stop inner.finished inner.inner,
              true, inner.blank⟩
        | .heading start depth content =>
            ⟨.heading ⟨start, line.stop⟩ depth content :: finished, .nothing, true, false⟩
        | .fence fence => ⟨finished, .fenced fence [] line.stop, true, false⟩
        | .markup kind =>
            let start := cursor.skipIndent.offset
            if kind.isClosedBy cursor.rest then
              ⟨.markup ⟨start, line.stop⟩ :: finished, .nothing, true, false⟩
            else
              ⟨finished, .markup kind start line.stop, true, false⟩
        | .rule =>
            ⟨.rule ⟨cursor.skipIndent.offset, line.stop⟩ :: finished, .nothing, true, false⟩
        | .item marker width inside =>
            let start := cursor.skipIndent.offset
            let list : OpenList := ⟨start, start, marker, true, []⟩
            if inside.isBlank then
              ⟨finished, .item list width .fresh line.stop [] .nothing, true, false⟩
            else
              let inner := openBlocks false [] line fuel inside
              ⟨finished, .item list width .begun line.stop inner.finished inner.inner, true,
                inner.blank⟩
        | .indented =>
            let inside := cursor.skip 4
            ⟨finished, .indented inside.offset [codeLine inside line] [] line.stop, true, false⟩
        | .text => ⟨finished, .paragraph [.ofCursor cursor line], true, false⟩

/-- Open blocks at a level with all the fuel that a line can need. -/
def openAt (inQuote : Bool) (finished : List Block) (line : Line) (cursor : Cursor) : Outcome :=
  openBlocks inQuote finished line (cursor.rest.length + 1) cursor

/-- Open a further item of a list whose last item has just been closed. -/
def openItem
    (list : OpenList) (finished : List Block) (line : Line) (start width : Nat)
    (inside : Cursor) : Outcome :=
  let sameList := { list with itemStart := start }
  if inside.isBlank then
    .within finished (.item sameList width .fresh line.stop [] .nothing) false
  else
    let inner := openAt false [] line inside
    .within finished (.item sameList width .begun line.stop inner.finished inner.inner) inner.blank

/--
Go on at a level with a line that does not continue the container open there:
close it, unless the line goes on with a paragraph inside it after all.
-/
def leaveContainer
    (inQuote : Bool) (finished : List Block) (container : Open) (line : Line) (cursor : Cursor) :
    Outcome :=
  if cursor.isBlank then .within (container.close ++ finished) .nothing (!inQuote)
  else if (Opening.ofCursor cursor).interruptsUnmatched container.endsInParagraph then
    openAt inQuote (container.close ++ finished) line cursor
  else
    .within finished (container.addLazily (.ofCursor cursor line)) false

/-- Where the content of an item goes on in a line, if it does. -/
def itemContent? (stage : ItemStage) (width : Nat) (cursor : Cursor) : Option Cursor :=
  match stage with
  | .ended => none
  | .fresh =>
      if !cursor.isBlank && width ≤ cursor.indent then some (cursor.skip width) else none
  | .begun =>
      if width ≤ cursor.indent then some (cursor.skip width)
      else if cursor.isBlank then some cursor.skipIndent
      else none

/-- Where the content of a quote goes on in a line, if it does. -/
def quoteContent? (cursor : Cursor) : Option Cursor :=
  if cursor.indent < 4 then
    let front := cursor.skipIndent
    if front.rest.head? = some '>' then some ((front.advance 1).skip 1) else none
  else none

/-- Go on with a line at a level with an open paragraph. -/
def continueParagraph
    (inQuote : Bool) (finished : List Block) (lines : List TextLine) (line : Line)
    (cursor : Cursor) : Outcome :=
  if cursor.isBlank then .within (TextLine.close lines ++ finished) .nothing (!inQuote)
  else
    let heading :=
      if cursor.indent < 4 then
        (Heading.underline? cursor.skipIndent.rest).bind
          (fun depth => TextLine.underlined? lines depth line.stop)
      else none
    match heading with
    | some blocks => .within (blocks ++ finished) .nothing false
    | none =>
        if (Opening.ofCursor cursor).interruptsParagraph then
          openAt inQuote (TextLine.close lines ++ finished) line cursor
        else
          .within finished (.paragraph (.ofCursor cursor line :: lines)) false

/-- Go on with a line at a level with an open fenced code block. -/
def continueFenced
    (finished : List Block) (fence : Fence) (lines : List (List Char)) (line : Line)
    (cursor : Cursor) : Outcome :=
  if cursor.indent < 4 && fence.isClosedBy cursor.skipIndent.rest then
    .within
      (.code ⟨fence.start, line.textStop⟩ (some fence.info) lines.reverse :: finished)
      .nothing false
  else
    let added := codeLine (cursor.skip fence.indent) line
    .within finished (.fenced fence (added :: lines) line.stop) false

/-- Go on with a line at a level with an open indented code block. -/
def continueIndented
    (inQuote : Bool) (finished : List Block) (start : Nat) (lines blanks : List (List Char))
    (stop : Nat) (line : Line) (cursor : Cursor) : Outcome :=
  let inside := cursor.skip 4
  if cursor.isBlank then
    .within finished (.indented start lines (codeLine inside line :: blanks) stop) (!inQuote)
  else if 4 ≤ cursor.indent then
    let body := codeLine inside line :: (blanks ++ lines)
    .within finished (.indented start body [] line.stop) false
  else
    openAt inQuote ((Open.indented start lines blanks stop).close ++ finished) line cursor

/-- Go on with a line at a level with an open block of raw markup. -/
def continueMarkup
    (inQuote : Bool) (finished : List Block) (kind : MarkupKind) (start stop : Nat)
    (line : Line) (cursor : Cursor) : Outcome :=
  match kind with
  | .untilText _ =>
      if kind.isClosedBy cursor.rest then
        .within (.markup ⟨start, line.stop⟩ :: finished) .nothing false
      else
        .within finished (.markup kind start line.stop) false
  | _ =>
      if cursor.isBlank then
        .within (.markup ⟨start, stop⟩ :: finished) .nothing (!inQuote)
      else
        .within finished (.markup kind start line.stop) false

/-- Go on with a line at a level; `afterBlank` tells whether a parting blank line stands before. -/
def step (afterBlank : Bool) (line : Line) (inQuote : Bool) (finished : List Block)
    (cursor : Cursor) : Open → Outcome
  | .nothing => openAt inQuote finished line cursor
  | .paragraph lines => continueParagraph inQuote finished lines line cursor
  | .fenced fence lines _ => continueFenced finished fence lines line cursor
  | .indented start lines blanks stop =>
      continueIndented inQuote finished start lines blanks stop line cursor
  | .markup kind start stop => continueMarkup inQuote finished kind start stop line cursor
  | .quote start stop inside inner =>
      match quoteContent? cursor with
      | some content =>
          let deeper := step afterBlank line true inside content inner
          .within finished (.quote start line.stop deeper.finished deeper.inner) deeper.blank
      | none => leaveContainer inQuote finished (.quote start stop inside inner) line cursor
  | .item list width stage stop inside inner =>
      match itemContent? stage width cursor with
      | some content =>
          let deeper := step afterBlank line false inside content inner
          .within finished
            (.item (list.loosenIf (afterBlank && deeper.opened)) width .begun line.stop
              deeper.finished deeper.inner)
            deeper.blank
      | none =>
          if cursor.isBlank then
            .within finished (.item list width .ended stop inside inner) true
          else
            match Opening.ofCursor cursor with
            | .item marker itemWidth content =>
                if marker.sameList list.marker then
                  openItem ((list.finishItem stop (inner.close ++ inside)).loosenIf afterBlank)
                    finished line cursor.skipIndent.offset itemWidth content
                else
                  leaveContainer inQuote finished (.item list width stage stop inside inner) line
                    cursor
            | _ =>
                leaveContainer inQuote finished (.item list width stage stop inside inner) line
                  cursor

/-- The blocks of lines, given the level before them. -/
def blocksFrom (afterBlank : Bool) (finished : List Block) (inner : Open) :
    List Line → List Block
  | [] => (inner.close ++ finished).reverse
  | line :: rest =>
      let outcome := step afterBlank line false finished (.ofLine line) inner
      blocksFrom outcome.blank outcome.finished outcome.inner rest

/-- The blocks of lines. -/
def Block.ofLines (lines : List Line) : List Block :=
  blocksFrom false [] .nothing lines

end Tangle.Markdown
