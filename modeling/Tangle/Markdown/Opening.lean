import Tangle.Markdown.Tag

namespace Tangle.Markdown

/-!
# Openings of blocks

What the front of a line can open, judged by the line alone.  Whether it does
open that, or goes on with a paragraph instead, depends on the blocks that are
open already and is decided elsewhere.
-/

/-- The opening fence of a code block and the text after it. -/
structure Fence where
  marker : Char
  length : Nat
  indent : Nat
  info : List Char
  start : Nat
  deriving Repr, DecidableEq

/-- The sign in front of an item of a list. -/
inductive ListMarker where
  | bullet (sign : Char)
  | ordered (number : Nat) (delimiter : Char)
  deriving Repr, DecidableEq

/-- The kinds of blocks of raw markup, told apart by how they start. -/
inductive MarkupKind where
  /-- It ends with the line that holds one of some texts, in any case. -/
  | untilText (closings : List (List Char))
  /-- It ends before a blank line. -/
  | untilBlank
  /-- It starts with a single tag of any name, and ends before a blank line. -/
  | singleTag
  deriving Repr, DecidableEq

/-- What the front of a line opens; places inside the line are behind the sign that opens. -/
inductive Opening where
  | quote (inside : Cursor)
  | heading (start depth : Nat) (content : List Char)
  | fence (fence : Fence)
  | markup (kind : MarkupKind)
  | rule
  | item (marker : ListMarker) (width : Nat) (inside : Cursor)
  | indented
  | text
  deriving Repr, DecidableEq

namespace ListMarker

/-- Whether two signs belong to items of one list. -/
def sameList : ListMarker → ListMarker → Bool
  | .bullet mine, .bullet theirs => mine == theirs
  | .ordered _ mine, .ordered _ theirs => mine == theirs
  | _, _ => false

end ListMarker

namespace Heading

/-- The characters that keep the number signs of a heading apart from its content. -/
def isApart (character : Char) : Bool :=
  isGap character || character == '\x0b' || character == '\x0c'

/-- Spaces and tabs removed from both ends of a text. -/
def trimGaps (text : List Char) : List Char :=
  ((text.dropWhile isGap).reverse.dropWhile isGap).reverse

/-- A heading's line without the number signs at its end, which must stand apart. -/
def dropClosing (text : List Char) : List Char :=
  let trimmed := trimGaps text
  match trimmed.reverse.dropWhile (· == '#') with
  | [] => []
  | last :: front => if isGap last then trimGaps (last :: front).reverse else trimmed

/-- Read the signs and the content of a heading. -/
def ofLine? (text : List Char) : Option (Nat × List Char) :=
  let depth := (text.takeWhile (· == '#')).length
  let behind := text.dropWhile (· == '#')
  if depth = 0 || 6 < depth then none
  else
    match behind with
    | [] => some (depth, [])
    | next :: _ =>
        if isApart next then some (depth, dropClosing (behind.dropWhile isApart)) else none

/-- The depth of the heading that a line of equals signs or hyphens makes of a paragraph. -/
def underline? (text : List Char) : Option Nat :=
  match text with
  | '=' :: _ => if (text.dropWhile (· == '=')).all isGap then some 1 else none
  | '-' :: _ => if (text.dropWhile (· == '-')).all isGap then some 2 else none
  | _ => none

end Heading

namespace Fence

/-- Read an opening fence that is indented by some columns and starts at some offset. -/
def ofLine? (indent start : Nat) (text : List Char) : Option Fence :=
  match text with
  | [] => none
  | marker :: _ =>
      if marker = '\x60' || marker = '~' then
        let length := (text.takeWhile (· == marker)).length
        let info := text.dropWhile (· == marker)
        if length < 3 || (marker = '\x60' && info.contains '\x60') then none
        else some ⟨marker, length, indent, info, start⟩
      else none

/-- Whether a line closes a fence: at least as many of its markers, and nothing else. -/
def isClosedBy (fence : Fence) (text : List Char) : Bool :=
  fence.length ≤ (text.takeWhile (· == fence.marker)).length &&
    (text.dropWhile (· == fence.marker)).all isGap

end Fence

/-- Whether a line is a thematic break: three or more of one sign, gaps aside. -/
def isRule (text : List Char) : Bool :=
  match text with
  | [] => false
  | sign :: _ =>
      (sign == '*' || sign == '-' || sign == '_') &&
        text.all (fun character => character == sign || isGap character) &&
        3 ≤ text.countP (· == sign)

namespace ListMarker

/-- Read the sign of an item: the sign, its length, and what stands behind it. -/
def ofLine? (text : List Char) : Option (ListMarker × Nat × List Char) :=
  match text with
  | [] => none
  | sign :: behind =>
      if sign = '-' || sign = '+' || sign = '*' then
        if standsApart behind then some (.bullet sign, 1, behind) else none
      else
        let digits := text.takeWhile isDigit
        if digits.isEmpty || 9 < digits.length then none
        else
          match text.dropWhile isDigit with
          | delimiter :: behindDelimiter =>
              if (delimiter = '.' || delimiter = ')') && standsApart behindDelimiter then
                some (.ordered (number digits) delimiter, digits.length + 1, behindDelimiter)
              else none
          | [] => none
where
  /-- Whether a sign is followed by a gap or by nothing. -/
  standsApart : List Char → Bool
    | [] => true
    | next :: _ => isGap next
  /-- The number that decimal digits write. -/
  number (digits : List Char) : Nat :=
    digits.foldl (fun front digit => front * 10 + (digit.toNat - 0x30)) 0

end ListMarker

namespace MarkupKind

/-- The names of the tags whose contents are literal. -/
def literalNames : List String :=
  ["pre", "script", "style", "textarea"]

/-- The names of the tags that open a block on their own. -/
def blockNames : List String :=
  ["address", "article", "aside", "base", "basefont", "blockquote", "body", "caption", "center",
    "col", "colgroup", "dd", "details", "dialog", "dir", "div", "dl", "dt", "fieldset",
    "figcaption", "figure", "footer", "form", "frame", "frameset", "h1", "h2", "h3", "h4", "h5",
    "h6", "head", "header", "hr", "html", "iframe", "legend", "li", "link", "main", "menu",
    "menuitem", "nav", "noframes", "ol", "optgroup", "option", "p", "param", "search", "section",
    "summary", "table", "tbody", "td", "tfoot", "th", "thead", "title", "tr", "track", "ul"]

/-- The texts that close the tags with literal contents. -/
def literalClosings : List (List Char) :=
  literalNames.map (fun name => '<' :: '/' :: (name.toList ++ ['>']))

/-- Whether a lowercased text starts with one of some names, and `ends` holds behind it. -/
def startsWithName (names : List String) (ends : List Char → Bool) (text : List Char) : Bool :=
  let name := text.takeWhile Tag.isNameCharacter
  names.contains (String.ofList name) && ends (text.dropWhile Tag.isNameCharacter)

/-- Whether the name of a tag with literal contents is over. -/
def endsLiteralName : List Char → Bool
  | [] => true
  | next :: _ => isGap next || next == '>'

/-- Whether the name of a tag that opens a block is over. -/
def endsBlockName : List Char → Bool
  | [] => true
  | '/' :: '>' :: _ => true
  | next :: _ => isGap next || next == '>'

/-- Whether a line holds a single complete tag and nothing else. -/
def isSingleTag (inside : List Char) : Bool :=
  let behind :=
    match inside with
    | '/' :: rest => Tag.closing? rest
    | rest => Tag.opening? rest
  match behind with
  | none => false
  | some rest => rest.all isGap

/-- The kind of block of raw markup that a line starts. -/
def ofLine? (text : List Char) : Option MarkupKind :=
  match text.map lowerLetter with
  | '<' :: '!' :: '-' :: '-' :: _ => some (.untilText [['-', '-', '>']])
  | '<' :: '?' :: _ => some (.untilText [['?', '>']])
  | '<' :: '!' :: '[' :: 'c' :: 'd' :: 'a' :: 't' :: 'a' :: '[' :: _ =>
      if ['<', '!', '[', 'C', 'D', 'A', 'T', 'A', '['].isPrefixOf text then
        some (.untilText [[']', ']', '>']])
      else none
  | '<' :: '!' :: first :: _ => if isLetter first then some (.untilText [['>']]) else none
  | '<' :: inside =>
      if startsWithName literalNames endsLiteralName inside then
        some (.untilText literalClosings)
      else
        let name :=
          match inside with
          | '/' :: rest => rest
          | rest => rest
        if startsWithName blockNames endsBlockName name then some .untilBlank
        else if isSingleTag inside then some .singleTag
        else none
  | _ => none

/-- Whether a line is the last one of a block of some kind. -/
def isClosedBy (kind : MarkupKind) (text : List Char) : Bool :=
  match kind with
  | .untilText closings =>
      closings.any (fun closing => (after? closing (text.map lowerLetter)).isSome)
  | _ => false

end MarkupKind

namespace Opening

/-- Where the content of an item starts, and the width of its sign with the gap behind it. -/
def itemInside (indent length : Nat) (atMarker : Cursor) : Nat × Cursor :=
  let behind := atMarker.advance length
  let gap := behind.indent
  if behind.isBlank then (indent + length + 1, behind.skipIndent)
  else if 5 ≤ gap then (indent + length + 1, behind.skip 1)
  else (indent + length + gap, behind.skip gap)

/-- What the front of a line opens, given that it is not blank. -/
def ofCursor (cursor : Cursor) : Opening :=
  let indent := cursor.indent
  if 4 ≤ indent then .indented
  else
    let front := cursor.skipIndent
    if front.rest.head? = some '>' then .quote ((front.advance 1).skip 1)
    else
      match Heading.ofLine? front.rest with
      | some (depth, content) => .heading front.offset depth content
      | none =>
          match Fence.ofLine? indent front.offset front.rest with
          | some found => .fence found
          | none =>
              match MarkupKind.ofLine? front.rest with
              | some kind => .markup kind
              | none =>
                  if isRule front.rest then .rule
                  else
                    match ListMarker.ofLine? front.rest with
                    | some (marker, length, _) =>
                        let (width, inside) := itemInside indent length front
                        .item marker width inside
                    | none => .text

/--
Whether an opening ends a paragraph that stands right above it.  Only items
that have content and are the first of their list do so.
-/
def interruptsParagraph : Opening → Bool
  | .quote _ => true
  | .heading .. => true
  | .fence _ => true
  | .markup kind => kind != .singleTag
  | .rule => true
  | .item marker _ inside =>
      !inside.isBlank &&
        match marker with
        | .bullet _ => true
        | .ordered number _ => number == 1
  | .indented => false
  | .text => false

/--
Whether an opening ends the blocks that a line does not go on with.  When a
paragraph stands innermost among them, what may not interrupt it as text of
its own goes on with it.
-/
def interruptsUnmatched (paragraphInside : Bool) : Opening → Bool
  | .markup .singleTag => !paragraphInside
  | .indented => !paragraphInside
  | .text => !paragraphInside
  | _ => true

end Opening

end Tangle.Markdown
