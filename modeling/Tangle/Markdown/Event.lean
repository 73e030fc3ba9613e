import Tangle.Document

namespace Tangle.Markdown

/-!
# Events

A text as a sequence of events: an element is entered and left, and between the
two come the events of what it holds.  `Document.ofEvents` keeps of them what a
document knows: headings with their literal text, code blocks with their body,
and a mark for every other block.
-/

/-- The elements that are entered and left. -/
inductive Element where
  | paragraph
  | heading (depth : Nat)
  /-- A code block with the text after its opening fence, if it has a fence. -/
  | codeBlock (info : Option String)
  | quote
  | list
  | item
  | table
  | markupBlock
  | emphasis
  | strong
  | link
  | image
  deriving Repr, DecidableEq

/-- What happens at one place of a text. -/
inductive Event where
  | enter (element : Element)
  | leave (element : Element)
  | text (text : String)
  | code (text : String)
  | markup (text : String)
  | softBreak
  | hardBreak
  | rule
  deriving Repr, DecidableEq

/-- An event with its place in the text. -/
structure PlacedEvent where
  event : Event
  span : Span
  deriving Repr, DecidableEq

/-- The literal text of a heading while its events are gone through. -/
structure HeadingText where
  /-- The finished runs of text. -/
  runs : List String
  /-- The run that is still growing. -/
  current : Option String
  /-- The number of elements entered inside the heading and not left yet. -/
  nesting : Nat
  deriving Repr, DecidableEq

namespace HeadingText

/-- The text of a heading before its first event. -/
def start : HeadingText :=
  ⟨[], none, 0⟩

/-- End the growing run, if there is one. -/
def endRun (gathered : HeadingText) : HeadingText :=
  ⟨gathered.runs ++ gathered.current.toList, none, gathered.nesting⟩

/-- Add to the growing run, or start one; text inside an element is not literal. -/
def add (gathered : HeadingText) (text : String) : HeadingText :=
  if gathered.nesting = 0 then
    { gathered with current := some (gathered.current.getD "" ++ text) }
  else
    gathered

/-- Go on with an event inside the heading. -/
def step (gathered : HeadingText) : Event → HeadingText
  | .enter _ => { gathered.endRun with nesting := gathered.nesting + 1 }
  | .leave _ => { gathered with nesting := gathered.nesting - 1 }
  | .text text => gathered.add text
  | .softBreak => gathered.add "\n"
  | _ => if gathered.nesting = 0 then gathered.endRun else gathered

/-- The runs joined by spaces, if there is any. -/
def finish (gathered : HeadingText) : Option String :=
  match gathered.endRun.runs with
  | [] => none
  | runs => some (String.intercalate " " runs)

end HeadingText

end Tangle.Markdown
