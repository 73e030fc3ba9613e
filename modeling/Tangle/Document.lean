namespace Tangle

/-!
# Documents

A document is the flat sequence of its headings and code blocks in the order in
which they stand; whatever else a text holds is kept only as a mark that
something stood there.  Nesting inside lists and quotes plays no part.
-/

/-- A range of bytes of the text, its end not included. -/
structure Span where
  start : Nat
  stop : Nat
  deriving Repr, DecidableEq

/-- A heading; without literal text of its own it has no text. -/
structure Heading where
  depth : Nat
  text : Option String
  deriving Repr, DecidableEq

/-- A code block: the first word after its fence, the details behind it, and its body. -/
structure CodeBlock where
  language : Option String
  details : Option String
  content : String
  deriving Repr, DecidableEq

/-- One element of a document with its place in the text. -/
inductive Node where
  | heading (heading : Heading) (span : Span)
  | code (code : CodeBlock) (span : Span)
  | other (span : Span)
  deriving Repr, DecidableEq

/-- The elements of a text in the order in which they stand. -/
structure Document where
  nodes : List Node
  deriving Repr, DecidableEq

namespace Heading

/-- A heading in the notation of its text: one number sign for each level. -/
def display (heading : Heading) : String :=
  let marks := String.ofList (List.replicate heading.depth '#')
  match heading.text with
  | none => marks
  | some text => marks ++ " " ++ text

end Heading

namespace CodeBlock

/-- Three grave accents, which open and close a code block. -/
def fence : String := "\x60\x60\x60"

/-- What follows the opening fence on its line. -/
def infoText (code : CodeBlock) : String :=
  code.language.getD "" ++ (code.details.map (" " ++ ·)).getD ""

/-- A code block between two fences. -/
def display (code : CodeBlock) : String :=
  fence ++ code.infoText ++ "\n" ++ code.content ++ "\n" ++ fence ++ "\n"

end CodeBlock

namespace Node

/-- The text that stands for an element; elements without meaning give none. -/
def display : Node → String
  | .heading title _ => title.display ++ "\n"
  | .code block _ => block.display
  | .other _ => ""

end Node

namespace Document

/-- The headings and code blocks of a document as a text. -/
def display (document : Document) : String :=
  String.join (document.nodes.map Node.display)

end Document

end Tangle
