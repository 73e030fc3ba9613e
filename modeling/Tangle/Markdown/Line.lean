namespace Tangle.Markdown

/-!
# Lines and cursors

Block structure is decided line by line.  A line knows which bytes of the
source it covers; a cursor is a place inside a line that counts columns, so
that a tab reaches to the next multiple of four and may be used up in part.
-/

/-- How a line ends. -/
inductive LineEnding where
  | missing
  | lineFeed
  | carriageReturn
  | both
  deriving Repr, DecidableEq

/-- A line of a source, its ending apart. -/
structure Line where
  start : Nat
  text : List Char
  textStop : Nat
  ending : LineEnding
  deriving Repr, DecidableEq

namespace LineEnding

/-- The number of bytes of an ending. -/
def size : LineEnding → Nat
  | .missing => 0
  | .lineFeed => 1
  | .carriageReturn => 1
  | .both => 2

/-- What an ending contributes to the text of a code block. -/
def codeText : LineEnding → List Char
  | .missing => []
  | .lineFeed => ['\n']
  | .carriageReturn => ['\r']
  | .both => ['\n']

end LineEnding

namespace Line

/-- The offset behind a line and its ending. -/
def stop (line : Line) : Nat :=
  line.textStop + line.ending.size

/-- The character that stands for another one in text: NUL is not passed on. -/
def visible (character : Char) : Char :=
  if character.toNat = 0 then Char.ofNat 0xFFFD else character

/-- The lines of a source from an offset on; `current` is the unfinished line, reversed. -/
def split (start offset : Nat) (current : List Char) : List Char → List Line
  | [] =>
      if current.isEmpty then [] else [⟨start, current.reverse, offset, .missing⟩]
  | '\n' :: rest =>
      ⟨start, current.reverse, offset, .lineFeed⟩ :: split (offset + 1) (offset + 1) [] rest
  | '\r' :: '\n' :: rest =>
      ⟨start, current.reverse, offset, .both⟩ :: split (offset + 2) (offset + 2) [] rest
  | '\r' :: rest =>
      ⟨start, current.reverse, offset, .carriageReturn⟩ ::
        split (offset + 1) (offset + 1) [] rest
  | character :: rest =>
      split start (offset + character.utf8Size) (visible character :: current) rest

/-- The lines of a source. -/
def ofSource (source : List Char) : List Line :=
  split 0 0 [] source

end Line

/-- Spaces and tabs, the characters that indent and separate inside a line. -/
def isGap (character : Char) : Bool :=
  character == ' ' || character == '\t'

/--
A place in a line: what is left of it, the column and the offset reached, and
the columns still owed by a tab that has been passed but not used up.
-/
structure Cursor where
  rest : List Char
  column : Nat
  offset : Nat
  owed : Nat
  deriving Repr, DecidableEq

namespace Cursor

/-- The start of a line. -/
def ofLine (line : Line) : Cursor :=
  ⟨line.text, 0, line.start, 0⟩

/-- The columns that a tab covers when it stands at a column. -/
def tabWidth (column : Nat) : Nat :=
  4 - column % 4

/-- The columns of spaces and tabs at the front of a text that starts at a column. -/
def gapWidth (column : Nat) : List Char → Nat
  | ' ' :: rest => gapWidth (column + 1) rest + 1
  | '\t' :: rest => gapWidth (column + tabWidth column) rest + tabWidth column
  | _ => 0

/-- The columns of indentation in front of a cursor. -/
def indent (cursor : Cursor) : Nat :=
  cursor.owed + gapWidth (cursor.column + cursor.owed) cursor.rest

/-- Pass spaces and tabs from a column and an offset on, but at most so many columns. -/
def pass (columns column offset : Nat) : List Char → Cursor
  | ' ' :: rest =>
      if columns = 0 then ⟨' ' :: rest, column, offset, 0⟩
      else pass (columns - 1) (column + 1) (offset + 1) rest
  | '\t' :: rest =>
      if columns = 0 then ⟨'\t' :: rest, column, offset, 0⟩
      else if tabWidth column ≤ columns then
        pass (columns - tabWidth column) (column + tabWidth column) (offset + 1) rest
      else
        ⟨rest, column + columns, offset + 1, tabWidth column - columns⟩
  | rest => ⟨rest, column, offset, 0⟩

/-- Pass indentation, but at most so many columns of it. -/
def skip (columns : Nat) (cursor : Cursor) : Cursor :=
  if columns ≤ cursor.owed then
    { cursor with column := cursor.column + columns, owed := cursor.owed - columns }
  else
    pass (columns - cursor.owed) (cursor.column + cursor.owed) cursor.offset cursor.rest

/-- Pass all indentation. -/
def skipIndent (cursor : Cursor) : Cursor :=
  cursor.skip cursor.indent

/-- Whether nothing but spaces and tabs is left. -/
def isBlank (cursor : Cursor) : Bool :=
  cursor.rest.all isGap

/-- What is left of the line, with a partly used tab as the spaces it still owes. -/
def text (cursor : Cursor) : List Char :=
  List.replicate cursor.owed ' ' ++ cursor.rest

/-- Pass some characters that are one column and one byte each. -/
def advance (count : Nat) (cursor : Cursor) : Cursor :=
  ⟨cursor.rest.drop count, cursor.column + count, cursor.offset + count, 0⟩

end Cursor

end Tangle.Markdown
