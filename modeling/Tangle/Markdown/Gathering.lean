import Tangle.Markdown.Event
import Tangle.Markdown.Info

namespace Tangle.Markdown

/-!
# Gathering nodes from events

The nodes of a document are gathered from a sequence of events.  Headings and
code blocks take the events up to their own end; of everything else only the
start of a block leaves a mark.
-/

/-- What the events being gone through belong to. -/
inductive Gathering where
  | outside
  | heading (depth : Nat) (span : Span) (gathered : HeadingText)
  | code (info : Option String) (span : Span) (content : String)
  deriving Repr, DecidableEq

namespace Gathering

/-- The node of a heading whose text has been gathered. -/
def headingNode (depth : Nat) (span : Span) (gathered : HeadingText) : Node :=
  .heading ⟨depth, gathered.finish⟩ span

/-- The node of a code block whose content has been gathered. -/
def codeNode (info : Option String) (span : Span) (content : String) : Node :=
  let (language, details) :=
    match info with
    | none => (none, none)
    | some info => splitInfo info
  .code ⟨language, details, dropFinalEnding content⟩ span

/-- What an event outside headings and code blocks leads to, and the nodes it leaves. -/
def enter (placed : PlacedEvent) : Gathering × List Node :=
  match placed.event with
  | .enter (.heading depth) => (.heading depth placed.span .start, [])
  | .enter (.codeBlock info) => (.code info placed.span "", [])
  | .enter .paragraph => (.outside, [.other placed.span])
  | .enter .quote => (.outside, [.other placed.span])
  | .enter .list => (.outside, [.other placed.span])
  | .enter .table => (.outside, [.other placed.span])
  | .enter .markupBlock => (.outside, [.other placed.span])
  | .rule => (.outside, [.other placed.span])
  | _ => (.outside, [])

/-- Go on with an event: the state behind it, and the nodes it completes. -/
def step (gathering : Gathering) (placed : PlacedEvent) : Gathering × List Node :=
  match gathering with
  | .outside => enter placed
  | .heading depth span gathered =>
      match placed.event with
      | .leave (.heading _) => (.outside, [headingNode depth span gathered])
      | event => (.heading depth span (gathered.step event), [])
  | .code info span content =>
      match placed.event with
      | .leave (.codeBlock _) => (.outside, [codeNode info span content])
      | .text text => (.code info span (content ++ text), [])
      | _ => (.code info span content, [])

/-- The node of what is still being gathered at the end of the events. -/
def finish : Gathering → List Node
  | .outside => []
  | .heading depth span gathered => [headingNode depth span gathered]
  | .code info span content => [codeNode info span content]

/-- The nodes that events complete, from some state on. -/
def nodes (gathering : Gathering) : List PlacedEvent → List Node
  | [] => gathering.finish
  | placed :: rest =>
      let (next, completed) := gathering.step placed
      completed ++ next.nodes rest

end Gathering

/-- The document that a sequence of events tells of. -/
def documentOfEvents (events : List PlacedEvent) : Document :=
  ⟨Gathering.outside.nodes events⟩

end Tangle.Markdown
