import Tangle.Text.Blank

namespace Tangle.Markdown

/-!
# Info strings

The text after an opening fence names a language first and goes on with
details.
-/

/-- Nothing instead of an empty text. -/
def nonEmpty (text : List Char) : Option String :=
  if text.isEmpty then none else some (String.ofList text)

/-- An info string as its first word and what stands behind it. -/
def splitInfo (info : String) : Option String × Option String :=
  let trimmed := Text.trimWhere Text.isBlank info.toList
  let isWordCharacter (character : Char) : Bool := !Text.isBlank character
  (nonEmpty (trimmed.takeWhile isWordCharacter),
    nonEmpty (Text.trimWhere Text.isBlank (trimmed.dropWhile isWordCharacter)))

/-- The body of a code block without its final line ending. -/
def dropFinalEnding (content : String) : String :=
  match content.toList.reverse with
  | '\n' :: '\r' :: front => String.ofList front.reverse
  | '\n' :: front => String.ofList front.reverse
  | _ => content

end Tangle.Markdown
