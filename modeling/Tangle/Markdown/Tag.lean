import Tangle.Markdown.Line

namespace Tangle.Markdown

/-!
# Raw markup

The forms of raw markup that a text may hold: opening and closing tags,
comments, instructions, declarations and literal sections.  Every reader takes
the characters after the first ones of a form and returns those behind it.
-/

/-- The letters of ASCII. -/
def isLetter (character : Char) : Bool :=
  ('a' ≤ character && character ≤ 'z') || ('A' ≤ character && character ≤ 'Z')

/-- The digits of ASCII. -/
def isDigit (character : Char) : Bool :=
  '0' ≤ character && character ≤ '9'

/-- Spaces, tabs and line ends, which separate the parts of a tag. -/
def isSeparator (character : Char) : Bool :=
  isGap character || character == '\n' || character == '\r'

/-- Small letters instead of capital ones, in ASCII only. -/
def lowerLetter (character : Char) : Char :=
  if 'A' ≤ character && character ≤ 'Z' then Char.ofNat (character.toNat + 0x20) else character

/-- What stands behind the first place where `needle` stands. -/
def after? (needle : List Char) : List Char → Option (List Char)
  | [] => if needle.isEmpty then some [] else none
  | character :: rest =>
      if needle.isPrefixOf (character :: rest) then some ((character :: rest).drop needle.length)
      else after? needle rest

namespace Tag

/-- The characters of a tag's name after its first letter. -/
def isNameCharacter (character : Char) : Bool :=
  isLetter character || isDigit character || character == '-'

/-- The characters with which the name of an attribute may start. -/
def startsAttribute (character : Char) : Bool :=
  isLetter character || character == '_' || character == ':'

/-- The characters of the name of an attribute after its first one. -/
def isAttributeCharacter (character : Char) : Bool :=
  startsAttribute character || isDigit character || character == '.' || character == '-'

/-- The characters of a value without quotes. -/
def isBareValueCharacter (character : Char) : Bool :=
  !(isSeparator character || character == '\x22' || character == '\x27' || character == '=' ||
    character == '<' || character == '>' || character == '\x60')

/-- What part of an opening tag the next character belongs to. -/
inductive Part where
  | name
  | gap
  | attribute
  | afterAttribute
  | beforeValue
  | bareValue
  | quotedValue (quote : Char)
  | afterValue
  | slash
  deriving Repr, DecidableEq

/-- The part after the next character; the tag ends at `done`, and nothing else may follow. -/
inductive Move where
  | go (part : Part)
  | done
  | stuck
  deriving Repr, DecidableEq

/-- How a character continues a tag behind a completed name, attribute or value. -/
def afterComplete (character : Char) : Move :=
  if isSeparator character then .go .gap
  else if character = '/' then .go .slash
  else if character = '>' then .done
  else .stuck

/-- How a character continues an opening tag. -/
def Part.move (part : Part) (character : Char) : Move :=
  match part with
  | .name => if isNameCharacter character then .go .name else afterComplete character
  | .gap => if startsAttribute character then .go .attribute else afterComplete character
  | .attribute =>
      if isAttributeCharacter character then .go .attribute
      else if isSeparator character then .go .afterAttribute
      else if character = '=' then .go .beforeValue
      else afterComplete character
  | .afterAttribute =>
      if isSeparator character then .go .afterAttribute
      else if character = '=' then .go .beforeValue
      else if startsAttribute character then .go .attribute
      else afterComplete character
  | .beforeValue =>
      if isSeparator character then .go .beforeValue
      else if character = '\x22' || character = '\x27' then .go (.quotedValue character)
      else if isBareValueCharacter character then .go .bareValue
      else .stuck
  | .bareValue =>
      if isBareValueCharacter character then .go .bareValue
      else if isSeparator character then .go .gap
      else if character = '>' then .done
      else .stuck
  | .quotedValue quote => if character = quote then .go .afterValue else .go (.quotedValue quote)
  | .afterValue => afterComplete character
  | .slash => if character = '>' then .done else .stuck

/-- What stands behind an opening tag that has been read up to some part. -/
def openingFrom? (part : Part) : List Char → Option (List Char)
  | [] => none
  | character :: rest =>
      match part.move character with
      | .go next => openingFrom? next rest
      | .done => some rest
      | .stuck => none

/-- What stands behind an opening tag, given the characters after its first bracket. -/
def opening? : List Char → Option (List Char)
  | [] => none
  | character :: rest => if isLetter character then openingFrom? .name rest else none

/-- What stands behind a closing tag, given the characters after its slash. -/
def closing? : List Char → Option (List Char)
  | [] => none
  | character :: rest =>
      if isLetter character then
        match (rest.dropWhile isNameCharacter).dropWhile isSeparator with
        | '>' :: behind => some behind
        | _ => none
      else none

/-- What stands behind a comment, given the characters after `<!--`. -/
def comment? : List Char → Option (List Char)
  | '>' :: behind => some behind
  | '-' :: '>' :: behind => some behind
  | inside => after? ['-', '-', '>'] inside

/-- What stands behind any form of raw markup, given the characters after its first bracket. -/
def markup? : List Char → Option (List Char)
  | '/' :: inside => closing? inside
  | '?' :: inside => after? ['?', '>'] inside
  | '!' :: '-' :: '-' :: inside => comment? inside
  | '!' :: '[' :: 'C' :: 'D' :: 'A' :: 'T' :: 'A' :: '[' :: inside => after? [']', ']', '>'] inside
  | '!' :: first :: inside => if isLetter first then after? ['>'] inside else none
  | inside => opening? inside

end Tag

end Tangle.Markdown
