import Tangle.Document
import Tangle.Text.Lowercase
import Tangle.Text.Blank

namespace Tangle

/-!
# Identifiers

Parts of a document are requested by identifiers.  A code block carries one as
a word `#id` of its details; a heading carries the slug of its text.
-/

/-- The characters of a slug apart from the hyphen. -/
def isSlugLetter (character : Char) : Bool :=
  ('a' ≤ character && character ≤ 'z') || ('0' ≤ character && character ≤ '9')

/-- Whether a lowercased character has a part in a slug. -/
def isSlugSource (character : Char) : Bool :=
  isSlugLetter character || Text.isBlank character || character == '-'

/-- Leave one of every run of a character. -/
def squeeze (repeated : Char) : List Char → List Char
  | [] => []
  | [last] => [last]
  | first :: second :: rest =>
      if first = repeated ∧ second = repeated then squeeze repeated (second :: rest)
      else first :: squeeze repeated (second :: rest)

/-- The slug of a list of characters. -/
def slugCharacters (characters : List Char) : List Char :=
  let kept := (Text.lowercase characters).filter isSlugSource
  Text.trimWhere (· == '-') (squeeze '-' (List.intercalate ['-'] (Text.words kept)))

/--
The slug of a text: it is lowercased, everything but small Latin letters,
digits, blanks and hyphens goes, and what parts the rest becomes one hyphen.
-/
def slugify (text : String) : String :=
  String.ofList (slugCharacters text.toList)

/-- The characters that an identifier of a code block may consist of. -/
def isIdentifierLetter (character : Char) : Bool :=
  isSlugLetter character || ('A' ≤ character && character ≤ 'Z') || character == '_' ||
    character == '-'

/-- The identifier that stands at the front of a text as a whole word. -/
def identifierInFront? : List Char → Option String
  | '#' :: behind =>
      let name := behind.takeWhile isIdentifierLetter
      if !name.isEmpty && Text.endsWord (behind.dropWhile isIdentifierLetter) then
        some (String.ofList name)
      else
        none
  | _ => none

/-- The first identifier that stands as a whole word in the details of a block. -/
def identifierOfDetails? (details : String) : Option String :=
  Text.firstAtWord? identifierInFront? true details.toList

namespace CodeBlock

/-- The identifier of a code block. -/
def identifier? (code : CodeBlock) : Option String :=
  code.details.bind identifierOfDetails?

end CodeBlock

namespace Heading

/-- The identifier of a heading: the slug of its text, which may be empty. -/
def identifier? (heading : Heading) : Option String :=
  heading.text.map slugify

end Heading

end Tangle
