import Tangle.Markdown.Gathering
import Mathlib.Data.List.Forall2
import Mathlib.Data.List.ReduceOption

namespace Tangle.Markdown

/-!
# No event is lost

Between the start and the end of a heading stand events of inline elements, each of
which is left again, and between those of a code block stands text.  Where that is so,
gathering gives one element of the document for each start of a heading, a code block
or another block, and none for anything else.  A heading has the text that stands
directly in it, and a code block has all of its text but the last line ending.
-/

/-! ## Events inside headings -/

/-- Elements that can stand inside a heading. -/
def Element.isInline : Element → Bool
  | .emphasis => true
  | .strong => true
  | .link => true
  | .image => true
  | _ => false

namespace Event

/-- Events of their own inside a heading that are no literal text. -/
def isMark : Event → Bool
  | .code _ => true
  | .markup _ => true
  | .hardBreak => true
  | _ => false

def endsHeading : Event → Bool
  | .leave (.heading _) => true
  | _ => false

def endsCode : Event → Bool
  | .leave (.codeBlock _) => true
  | _ => false

/-- The start of a block, or a block that is a single event. -/
def startsBlock : Event → Bool
  | .enter .paragraph => true
  | .enter .quote => true
  | .enter .list => true
  | .enter .table => true
  | .enter .markupBlock => true
  | .rule => true
  | _ => false

/-- The start of what an element of a document stands for. -/
def startsNode : Event → Bool
  | .enter (.heading _) => true
  | .enter (.codeBlock _) => true
  | event => event.startsBlock

/-- What is to become of an event depends on whether it starts a heading or a code block. -/
theorem startsNode_cases (event : Event) :
    (∃ depth, event = .enter (.heading depth)) ∨ (∃ info, event = .enter (.codeBlock info)) ∨
      event.startsNode = event.startsBlock := by
  cases event with
  | enter element => cases element <;> simp [startsNode, startsBlock]
  | _ => exact .inr (.inr rfl)

end Event

/--
Inline events in which every element is left again, and what is literal at the top
level: pieces of text, and gaps where something else stands.
-/
inductive ReadsAs : List Event → List (Option String) → Prop where
  | nothing : ReadsAs [] []
  | text {rest : List Event} {pieces : List (Option String)} (text : String)
      (behind : ReadsAs rest pieces) : ReadsAs (.text text :: rest) (some text :: pieces)
  | softBreak {rest : List Event} {pieces : List (Option String)}
      (behind : ReadsAs rest pieces) : ReadsAs (.softBreak :: rest) (some "\n" :: pieces)
  | mark {event : Event} {rest : List Event} {pieces : List (Option String)}
      (isMark : event.isMark = true) (behind : ReadsAs rest pieces) :
      ReadsAs (event :: rest) (none :: pieces)
  | element {element : Element} {inside rest : List Event} {ignored pieces : List (Option String)}
      (isInline : element.isInline = true) (within : ReadsAs inside ignored)
      (behind : ReadsAs rest pieces) :
      ReadsAs (.enter element :: (inside ++ .leave element :: rest)) (none :: pieces)

/-- The maximal runs of pieces between gaps, each as one text. -/
def textRuns (pieces : List (Option String)) : List String :=
  ((pieces.splitOnP Option.isNone).filter (fun run => !run.isEmpty)).map
    (fun run => String.join run.reduceOption)

/-- The text of a heading with some pieces: its runs with a space between them, if there are any. -/
def headingText (pieces : List (Option String)) : Option String :=
  match textRuns pieces with
  | [] => none
  | runs => some (String.intercalate " " runs)

section Runs

variable (run : Option String) (pieces : List (Option String))

/-- No characters have no runs. -/
@[simp] theorem textRuns_nil : textRuns [] = [] := rfl

/-- Text behind a growing run makes the run longer. -/
theorem textRuns_text (text : String) :
    textRuns (run.toList.map some ++ some text :: pieces) =
      textRuns (some (run.getD "" ++ text) :: pieces) := by
  cases run with
  | none =>
      simp
  | some grown =>
      obtain ⟨first, others, split⟩ :=
        List.exists_cons_of_ne_nil (List.splitOnP_ne_nil Option.isNone pieces)
      simp [textRuns, List.splitOnP_cons_eq_if_modifyHead, split, List.reduceOption,
        String.append_assoc]

/-- A gap ends the growing run. -/
theorem textRuns_gap :
    textRuns (run.toList.map some ++ none :: pieces) = run.toList ++ textRuns pieces := by
  cases run <;> simp [textRuns, List.splitOnP_cons_eq_if_modifyHead, List.reduceOption]

/-- A run that ends the text is taken whole. -/
theorem textRuns_end : textRuns (run.toList.map some) = run.toList := by
  cases run <;> simp [textRuns, List.splitOnP_cons_eq_if_modifyHead, List.reduceOption]

end Runs

namespace HeadingText

/-- Where no run is open there is none to end. -/
theorem endRun_of_noRun {gathered : HeadingText} (noRun : gathered.current = none) :
    gathered.endRun = gathered := by
  obtain ⟨runs, current, nesting⟩ := gathered
  cases noRun
  rw [endRun, Option.toList_none, List.append_nil]

/-- A mark ends the run of a heading, unless it stands inside an element. -/
theorem step_mark {event : Event} (isMark : event.isMark = true) (gathered : HeadingText) :
    gathered.step event = if gathered.nesting = 0 then gathered.endRun else gathered := by
  cases event <;> first | contradiction | rfl

/-- Inside an element nothing is gathered, and behind it the element has been left. -/
theorem foldl_step_nested
    {events : List Event} {pieces : List (Option String)} (reads : ReadsAs events pieces)
    {gathered : HeadingText} (noRun : gathered.current = none) (nested : gathered.nesting ≠ 0) :
    events.foldl step gathered = gathered := by
  induction reads generalizing gathered with
  | nothing =>
      rfl
  | text text _ inductionHypothesis =>
      have skipped : gathered.step (.text text) = gathered := if_neg nested
      rw [List.foldl_cons, skipped, inductionHypothesis noRun nested]
  | softBreak _ inductionHypothesis =>
      have skipped : gathered.step .softBreak = gathered := if_neg nested
      rw [List.foldl_cons, skipped, inductionHypothesis noRun nested]
  | mark isMark _ inductionHypothesis =>
      rw [List.foldl_cons, step_mark isMark, if_neg nested, inductionHypothesis noRun nested]
  | @element element inside rest _ _ _ _ _ withinHypothesis behindHypothesis =>
      have entered :
          gathered.step (.enter element) = { gathered with nesting := gathered.nesting + 1 } := by
        rw [step, endRun_of_noRun noRun]
      have unchanged :
          inside.foldl step { gathered with nesting := gathered.nesting + 1 } =
            { gathered with nesting := gathered.nesting + 1 } :=
        withinHypothesis noRun (Nat.succ_ne_zero _)
      rw [List.foldl_cons, entered, List.foldl_append, unchanged]
      exact behindHypothesis noRun nested

/-- At the top level the runs of the pieces are gathered, the first as more of the growing run. -/
theorem runs_foldl_step
    {events : List Event} {pieces : List (Option String)} (reads : ReadsAs events pieces)
    (gathered : HeadingText) (atTop : gathered.nesting = 0) :
    (events.foldl step gathered).endRun.runs =
      gathered.runs ++ textRuns (gathered.current.toList.map some ++ pieces) := by
  induction reads generalizing gathered with
  | nothing =>
      rw [List.append_nil, textRuns_end]
      rfl
  | text text _ inductionHypothesis =>
      have added :
          gathered.step (.text text) =
            { gathered with current := some (gathered.current.getD "" ++ text) } :=
        if_pos atTop
      have grown :=
        inductionHypothesis
          { gathered with current := some (gathered.current.getD "" ++ text) } atTop
      rw [List.foldl_cons, added, grown, textRuns_text]
      rfl
  | softBreak _ inductionHypothesis =>
      have added :
          gathered.step .softBreak =
            { gathered with current := some (gathered.current.getD "" ++ "\n") } :=
        if_pos atTop
      have grown :=
        inductionHypothesis
          { gathered with current := some (gathered.current.getD "" ++ "\n") } atTop
      rw [List.foldl_cons, added, grown, textRuns_text]
      rfl
  | mark isMark _ inductionHypothesis =>
      have ended := inductionHypothesis gathered.endRun atTop
      rw [List.foldl_cons, step_mark isMark, if_pos atTop, ended, textRuns_gap,
        ← List.append_assoc]
      rfl
  | @element element inside rest _ _ _ within _ _ behindHypothesis =>
      have unchanged :
          inside.foldl step (gathered.step (.enter element)) = gathered.step (.enter element) :=
        foldl_step_nested within rfl (Nat.succ_ne_zero _)
      have left :
          (gathered.step (.enter element)).step (.leave element) = gathered.endRun := rfl
      have ended := behindHypothesis gathered.endRun atTop
      rw [List.foldl_cons, List.foldl_append, unchanged, List.foldl_cons, left, ended,
        textRuns_gap, ← List.append_assoc]
      rfl

/-- The text gathered from events is that of their pieces. -/
theorem finish_foldl_step
    {events : List Event} {pieces : List (Option String)} (reads : ReadsAs events pieces) :
    (events.foldl step start).finish = headingText pieces := by
  have runs : (events.foldl step start).endRun.runs = textRuns pieces :=
    runs_foldl_step reads start rfl
  rw [finish, runs]
  unfold headingText
  cases textRuns pieces <;> rfl

end HeadingText

/-! ## Headings and code blocks -/

/-- No event inside a heading ends it, and none starts an element of the document. -/
theorem ReadsAs.inside
    {events : List Event} {pieces : List (Option String)} (reads : ReadsAs events pieces) :
    ∀ event ∈ events, event.endsHeading = false ∧ event.startsNode = false := by
  induction reads with
  | nothing =>
      simp
  | text text _ inductionHypothesis =>
      exact List.forall_mem_cons.mpr ⟨⟨rfl, rfl⟩, inductionHypothesis⟩
  | softBreak _ inductionHypothesis =>
      exact List.forall_mem_cons.mpr ⟨⟨rfl, rfl⟩, inductionHypothesis⟩
  | @mark event _ _ isMark _ inductionHypothesis =>
      refine List.forall_mem_cons.mpr ⟨?_, inductionHypothesis⟩
      cases event <;> first | contradiction | exact ⟨rfl, rfl⟩
  | @element element _ _ _ _ isInline _ _ withinHypothesis behindHypothesis =>
      have entered :
          (Event.enter element).endsHeading = false ∧ (Event.enter element).startsNode = false := by
        cases element <;> first | contradiction | exact ⟨rfl, rfl⟩
      have left :
          (Event.leave element).endsHeading = false ∧ (Event.leave element).startsNode = false := by
        cases element <;> first | contradiction | exact ⟨rfl, rfl⟩
      rw [List.forall_mem_cons, List.forall_mem_append, List.forall_mem_cons]
      exact ⟨entered, withinHypothesis, left, behindHypothesis⟩

namespace Gathering

/-- A heading takes the events up to the first one that ends a heading. -/
theorem nodes_inside_heading
    {inside : List PlacedEvent} (goesOn : ∀ placed ∈ inside, placed.event.endsHeading = false)
    {closing : PlacedEvent} (closes : closing.event.endsHeading = true)
    (depth : Nat) (span : Span) (gathered : HeadingText) (later : List PlacedEvent) :
    (heading depth span gathered).nodes (inside ++ closing :: later) =
      headingNode depth span ((inside.map PlacedEvent.event).foldl HeadingText.step gathered) ::
        outside.nodes later := by
  induction inside generalizing gathered with
  | nil =>
      obtain ⟨event, place⟩ := closing
      cases event with
      | leave element =>
          cases element <;> first | contradiction | rfl
      | _ => contradiction
  | cons placed rest inductionHypothesis =>
      obtain ⟨placedGoesOn, restGoesOn⟩ := List.forall_mem_cons.mp goesOn
      have taken :
          (heading depth span gathered).step placed =
            (heading depth span (gathered.step placed.event), []) := by
        obtain ⟨event, place⟩ := placed
        cases event with
        | leave element =>
            cases element <;> first | contradiction | rfl
        | _ => rfl
      rw [List.cons_append, nodes, taken, List.map_cons, List.foldl_cons]
      exact inductionHypothesis restGoesOn (gathered.step placed.event)

/-- A code block takes its text up to the end. -/
theorem nodes_inside_code
    {inside : List PlacedEvent} {texts : List String}
    (onlyText : inside.map PlacedEvent.event = texts.map Event.text)
    {closing : PlacedEvent} (closes : closing.event.endsCode = true)
    (info : Option String) (span : Span) (content : String) (later : List PlacedEvent) :
    (code info span content).nodes (inside ++ closing :: later) =
      codeNode info span (content ++ String.join texts) :: outside.nodes later := by
  induction inside generalizing texts content with
  | nil =>
      have noText : texts = [] := by
        simpa using onlyText.symm
      obtain ⟨event, place⟩ := closing
      rw [noText, String.join_nil, String.append_empty]
      cases event with
      | leave element =>
          cases element <;> first | contradiction | rfl
      | _ => contradiction
  | cons placed rest inductionHypothesis =>
      obtain ⟨text, later, rfl, isText, restTexts⟩ := List.map_eq_cons_iff.mp onlyText.symm
      have taken :
          (code info span content).step placed = (code info span (content ++ text), []) := by
        rw [step, ← isText]
      rw [List.cons_append, nodes, taken, String.join_cons, ← String.append_assoc]
      exact inductionHypothesis restTexts.symm (content ++ text)

end Gathering

/-- A text without its last line ending, if it ends in one. -/
inductive DropsEnding : String → String → Prop where
  | carriageReturn (body : String) : DropsEnding (body ++ "\r\n") body
  | lineFeed {body : String} (noReturn : body.toList.getLast? ≠ some '\r') :
      DropsEnding (body ++ "\n") body
  | nothing {text : String} (noLineFeed : text.toList.getLast? ≠ some '\n') : DropsEnding text text

/-- Dropping the final line end leaves the body in front of it. -/
theorem dropsEnding_dropFinalEnding (text : String) : DropsEnding text (dropFinalEnding text) := by
  have shape {reversed : List Char} (isReversed : text.toList.reverse = reversed) :
      text = String.ofList reversed.reverse := by
    rw [← isReversed, List.reverse_reverse, String.ofList_toList]
  rw [dropFinalEnding]
  split
  · rename_i front isReversed
    have split : text = String.ofList front.reverse ++ "\r\n" := by
      rw [shape isReversed, ← String.toList_inj]
      simp
    nth_rewrite 1 [split]
    exact .carriageReturn _
  · rename_i front noReturn isReversed
    have split : text = String.ofList front.reverse ++ "\n" := by
      rw [shape isReversed, ← String.toList_inj]
      simp
    nth_rewrite 1 [split]
    refine .lineFeed fun isReturn => ?_
    rw [String.toList_ofList, List.getLast?_reverse] at isReturn
    obtain ⟨rest, rfl⟩ := List.head?_eq_some_iff.mp isReturn
    exact noReturn rest rfl
  · rename_i noLineFeed
    refine .nothing fun isLineFeed => ?_
    rw [← List.head?_reverse] at isLineFeed
    obtain ⟨rest, isReversed⟩ := List.head?_eq_some_iff.mp isLineFeed
    exact noLineFeed rest isReversed

/-- And no other body is left. -/
theorem DropsEnding.dropFinalEnding_eq
    {text body : String} (drops : DropsEnding text body) : dropFinalEnding text = body := by
  cases drops with
  | carriageReturn =>
      have reversed : (body ++ "\r\n").toList.reverse = '\n' :: '\r' :: body.toList.reverse := by
        simp
      simp only [dropFinalEnding, reversed, List.reverse_reverse, String.ofList_toList]
  | lineFeed noReturn =>
      have reversed : (body ++ "\n").toList.reverse = '\n' :: body.toList.reverse := by
        simp
      rw [dropFinalEnding, reversed]
      split
      · rename_i front isReversed
        rw [List.getLast?_eq_head?_reverse, (List.cons.inj isReversed).2] at noReturn
        contradiction
      · rename_i front _ isReversed
        rw [← (List.cons.inj isReversed).2, List.reverse_reverse, String.ofList_toList]
      · rename_i noLineFeed
        exact absurd rfl (noLineFeed body.toList.reverse)
  | nothing noLineFeed =>
      rw [dropFinalEnding]
      split
      · rename_i isReversed
        rw [List.getLast?_eq_head?_reverse, isReversed] at noLineFeed
        contradiction
      · rename_i isReversed
        rw [List.getLast?_eq_head?_reverse, isReversed] at noLineFeed
        contradiction
      · rfl

/-! ## Whole texts -/

/-- Behind the start of a heading stand events with some pieces, and then its end. -/
def HoldsPieces (behind : List PlacedEvent) (pieces : List (Option String)) : Prop :=
  ∃ inside closing later,
    behind = inside ++ closing :: later ∧ closing.event.endsHeading = true ∧
      ReadsAs (inside.map PlacedEvent.event) pieces

/-- Behind the start of a code block stand some texts, and then its end. -/
def HoldsTexts (behind : List PlacedEvent) (texts : List String) : Prop :=
  ∃ inside closing later,
    behind = inside ++ closing :: later ∧ closing.event.endsCode = true ∧
      inside.map PlacedEvent.event = texts.map Event.text

/-- All headings and code blocks end, and hold nothing else than inline events and text. -/
structure WellNested (events : List PlacedEvent) : Prop where
  headings :
    ∀ {opening behind depth}, opening :: behind <:+ events →
      opening.event = .enter (.heading depth) → ∃ pieces, HoldsPieces behind pieces
  codeBlocks :
    ∀ {opening behind info}, opening :: behind <:+ events →
      opening.event = .enter (.codeBlock info) → ∃ texts, HoldsTexts behind texts

/-- The events that start what a document has an element for, each with the events behind it. -/
def starts : List PlacedEvent → List (PlacedEvent × List PlacedEvent)
  | [] => []
  | placed :: rest =>
      if placed.event.startsNode then (placed, rest) :: starts rest else starts rest

/-- The element of the document that an event with others behind it tells of. -/
inductive TellsOf : PlacedEvent → List PlacedEvent → Node → Prop where
  | heading {depth : Nat} {span : Span} {behind : List PlacedEvent} {pieces : List (Option String)}
      (holds : HoldsPieces behind pieces) :
      TellsOf ⟨.enter (.heading depth), span⟩ behind (.heading ⟨depth, headingText pieces⟩ span)
  | code {info : Option String} {span : Span} {behind : List PlacedEvent} {texts : List String}
      {block : CodeBlock} (holds : HoldsTexts behind texts)
      (named : (block.language, block.details) = (info.map splitInfo).getD (none, none))
      (body : DropsEnding (String.join texts) block.content) :
      TellsOf ⟨.enter (.codeBlock info), span⟩ behind (.code block span)
  | other {placed : PlacedEvent} {behind : List PlacedEvent}
      (startsBlock : placed.event.startsBlock = true) :
      TellsOf placed behind (.other placed.span)

/-- Events that start no element bring in none. -/
theorem starts_append_of_none
    {front : List PlacedEvent} (none : ∀ placed ∈ front, placed.event.startsNode = false)
    (rest : List PlacedEvent) : starts (front ++ rest) = starts rest := by
  induction front with
  | nil =>
      rfl
  | cons placed later inductionHypothesis =>
      obtain ⟨notHere, notLater⟩ := List.forall_mem_cons.mp none
      rw [List.cons_append, starts, notHere, inductionHypothesis notLater]
      rfl

/-- The rest of well nested events is well nested. -/
theorem WellNested.of_suffix
    {events later : List PlacedEvent} (nested : WellNested events) (isSuffix : later <:+ events) :
    WellNested later where
  headings starts := nested.headings (starts.trans isSuffix)
  codeBlocks starts := nested.codeBlocks (starts.trans isSuffix)

/-- No events are well nested. -/
theorem wellNested_nil : WellNested [] where
  headings isSuffix := by simp at isSuffix
  codeBlocks isSuffix := by simp at isSuffix

/--
An event in front nests if it opens no heading and no code block, or one whose
inside comes next.
-/
theorem wellNested_cons_iff {opening : PlacedEvent} {behind : List PlacedEvent} :
    WellNested (opening :: behind) ↔
      (∀ depth, opening.event = .enter (.heading depth) → ∃ pieces, HoldsPieces behind pieces) ∧
        (∀ info, opening.event = .enter (.codeBlock info) → ∃ texts, HoldsTexts behind texts) ∧
        WellNested behind := by
  constructor
  · intro nested
    exact ⟨fun _ => nested.headings List.suffix_rfl, fun _ => nested.codeBlocks List.suffix_rfl,
      nested.of_suffix (List.suffix_cons opening behind)⟩
  · rintro ⟨heading, code, nested⟩
    constructor
    · intro start rest depth isSuffix isHeading
      rcases List.suffix_cons_iff.mp isSuffix with isAll | isBehind
      · obtain ⟨rfl, rfl⟩ := List.cons.inj isAll
        exact heading depth isHeading
      · exact nested.headings isBehind isHeading
    · intro start rest info isSuffix isCode
      rcases List.suffix_cons_iff.mp isSuffix with isAll | isBehind
      · obtain ⟨rfl, rfl⟩ := List.cons.inj isAll
        exact code info isCode
      · exact nested.codeBlocks isBehind isCode

section Telling

variable {opening : PlacedEvent} {behind : List PlacedEvent}

/-- A heading is gathered with the text of its pieces, and all of its events are passed. -/
theorem HoldsPieces.exists_later
    {pieces : List (Option String)} (holds : HoldsPieces behind pieces) (depth : Nat)
    (span : Span) :
    ∃ later, later <:+ behind ∧ starts behind = starts later ∧
      (Gathering.heading depth span .start).nodes behind =
        .heading ⟨depth, headingText pieces⟩ span :: Gathering.outside.nodes later := by
  obtain ⟨inside, closing, later, rfl, closes, reads⟩ := holds
  have plain := reads.inside
  rw [List.forall_mem_map] at plain
  have closesOnly : closing.event.startsNode = false := by
    obtain ⟨event, place⟩ := closing
    cases event <;> first | contradiction | rfl
  refine ⟨later, ⟨inside ++ [closing], by simp⟩, ?_, ?_⟩
  · rw [starts_append_of_none fun placed member => (plain placed member).2, starts, closesOnly]
    rfl
  · rw [Gathering.nodes_inside_heading (fun placed member => (plain placed member).1) closes,
      Gathering.headingNode, HeadingText.finish_foldl_step reads]

/-- A code block is gathered with all of its texts, and all of its events are passed. -/
theorem HoldsTexts.exists_later
    {texts : List String} (holds : HoldsTexts behind texts) (info : Option String) (span : Span) :
    ∃ later, later <:+ behind ∧ starts behind = starts later ∧
      (Gathering.code info span "").nodes behind =
        Gathering.codeNode info span (String.join texts) :: Gathering.outside.nodes later := by
  obtain ⟨inside, closing, later, rfl, closes, onlyText⟩ := holds
  have plain : ∀ placed ∈ inside, placed.event.startsNode = false := by
    intro placed member
    have isText := List.mem_map_of_mem (f := PlacedEvent.event) member
    rw [onlyText] at isText
    obtain ⟨text, _, isText⟩ := List.mem_map.mp isText
    rw [← isText]
    rfl
  have closesOnly : closing.event.startsNode = false := by
    obtain ⟨event, place⟩ := closing
    cases event <;> first | contradiction | rfl
  refine ⟨later, ⟨inside ++ [closing], by simp⟩, ?_, ?_⟩
  · rw [starts_append_of_none plain, starts, closesOnly]
    rfl
  · rw [Gathering.nodes_inside_code onlyText closes, String.empty_append]

/-- Outside headings and code blocks the start of another block leaves a mark, and nothing else. -/
theorem nodes_outside_other
    (plain : opening.event.startsNode = opening.event.startsBlock) :
    Gathering.outside.nodes (opening :: behind) =
      (if opening.event.startsBlock then [.other opening.span] else []) ++
        Gathering.outside.nodes behind := by
  obtain ⟨event, span⟩ := opening
  cases event with
  | enter element => cases element <;> first | contradiction | rfl
  | _ => rfl

/-- The language and the details of a code block are the parts of what its fence says. -/
theorem codeNode_eq (info : Option String) (span : Span) (text : String) :
    Gathering.codeNode info span text =
      .code
        ⟨((info.map splitInfo).getD (none, none)).1, ((info.map splitInfo).getD (none, none)).2,
          dropFinalEnding text⟩ span := by
  cases info with
  | none => rfl
  | some info =>
      cases parts : splitInfo info
      simp [Gathering.codeNode, parts]

/-- A code block is made of the parts of its info string and of its body. -/
theorem codeNode_of_parts
    {info : Option String} {text : String} {block : CodeBlock}
    (named : (block.language, block.details) = (info.map splitInfo).getD (none, none))
    (body : DropsEnding text block.content) (span : Span) :
    Gathering.codeNode info span text = .code block span := by
  rw [codeNode_eq, ← named, body.dropFinalEnding_eq]

/-- A code block tells of its language, its details and its body. -/
theorem tellsOf_codeNode
    {info : Option String} {texts : List String} (holds : HoldsTexts behind texts) (span : Span) :
    TellsOf ⟨.enter (.codeBlock info), span⟩ behind
      (Gathering.codeNode info span (String.join texts)) := by
  rw [codeNode_eq]
  exact .code holds rfl (dropsEnding_dropFinalEnding _)

end Telling

/-- The elements gathered from well nested events are told by the starts among them. -/
theorem tells_outside_nodes {events : List PlacedEvent} (nested : WellNested events) :
    List.Forall₂ (fun start => TellsOf start.1 start.2) (starts events)
      (Gathering.outside.nodes events) := by
  match events with
  | [] =>
      exact .nil
  | ⟨event, span⟩ :: behind =>
      rcases event.startsNode_cases with ⟨depth, rfl⟩ | ⟨info, rfl⟩ | plain
      · obtain ⟨pieces, holds⟩ := nested.headings List.suffix_rfl rfl
        obtain ⟨later, isSuffix, sameStarts, gathered⟩ := holds.exists_later depth span
        have isShorter := isSuffix.length_le
        have told :=
          tells_outside_nodes (nested.of_suffix (isSuffix.trans (List.suffix_cons _ _)))
        have isStart :
            starts (⟨.enter (.heading depth), span⟩ :: behind) =
              (⟨.enter (.heading depth), span⟩, behind) :: starts behind := rfl
        have entered :
            Gathering.outside.nodes (⟨.enter (.heading depth), span⟩ :: behind) =
              (Gathering.heading depth span .start).nodes behind := rfl
        rw [isStart, sameStarts, entered, gathered]
        exact .cons (.heading holds) told
      · obtain ⟨texts, holds⟩ := nested.codeBlocks List.suffix_rfl rfl
        obtain ⟨later, isSuffix, sameStarts, gathered⟩ := holds.exists_later info span
        have isShorter := isSuffix.length_le
        have told :=
          tells_outside_nodes (nested.of_suffix (isSuffix.trans (List.suffix_cons _ _)))
        have isStart :
            starts (⟨.enter (.codeBlock info), span⟩ :: behind) =
              (⟨.enter (.codeBlock info), span⟩, behind) :: starts behind := rfl
        have entered :
            Gathering.outside.nodes (⟨.enter (.codeBlock info), span⟩ :: behind) =
              (Gathering.code info span "").nodes behind := rfl
        rw [isStart, sameStarts, entered, gathered]
        exact .cons (tellsOf_codeNode holds span) told
      · have told := tells_outside_nodes (nested.of_suffix (List.suffix_cons _ behind))
        rw [starts, nodes_outside_other plain, plain]
        split
        · rename_i startsBlock
          exact .cons (.other startsBlock) told
        · exact told
termination_by events.length

/-- A start tells of one element only, however the events behind it are parted. -/
theorem rightUnique_tellsOf :
    Relator.RightUnique
      (fun start : PlacedEvent × List PlacedEvent => TellsOf start.1 start.2) := by
  rintro ⟨opening, behind⟩ first second toldFirst toldSecond
  cases toldFirst with
  | @heading depth span _ _ holds =>
      cases toldSecond with
      | heading otherHolds =>
          obtain ⟨_, _, _, gathered⟩ := holds.exists_later depth span
          obtain ⟨_, _, _, otherGathered⟩ := otherHolds.exists_later depth span
          rw [gathered] at otherGathered
          exact (List.cons.inj otherGathered).1
      | other startsBlock => contradiction
  | @code info span _ _ _ holds named body =>
      cases toldSecond with
      | code otherHolds otherNamed otherBody =>
          obtain ⟨_, _, _, gathered⟩ := holds.exists_later info span
          obtain ⟨_, _, _, otherGathered⟩ := otherHolds.exists_later info span
          rw [gathered, codeNode_of_parts named body, codeNode_of_parts otherNamed otherBody]
            at otherGathered
          exact (List.cons.inj otherGathered).1
      | other startsBlock => contradiction
  | other startsBlock =>
      cases toldSecond with
      | other _ => rfl
      | _ => contradiction

/--
Well nested events tell of exactly one document.  In the order of the events, and in
the place where it starts, it has one element for each start of a heading, of a code
block and of another block, and no others.  The text of a heading is made of the
maximal runs of text directly in it, and the body of a code block is all of its text
but a last line ending.
-/
theorem documentOfEvents_eq_iff
    {events : List PlacedEvent} (nested : WellNested events) (document : Document) :
    documentOfEvents events = document ↔
      List.Forall₂ (fun start => TellsOf start.1 start.2) (starts events) document.nodes := by
  have told := tells_outside_nodes nested
  constructor
  · rintro rfl
    exact told
  · intro toldDocument
    have sameNodes := rightUnique_tellsOf.forall₂ told toldDocument
    rw [documentOfEvents, sameNodes]

/-- A quote with a heading over two lines, part of it emphasized, and code that ends in CR LF. -/
def quotedHeading : List PlacedEvent :=
  [⟨.enter .quote, ⟨0, 14⟩⟩, ⟨.enter (.heading 2), ⟨2, 14⟩⟩, ⟨.text "a", ⟨2, 3⟩⟩,
    ⟨.softBreak, ⟨3, 4⟩⟩, ⟨.text "b ", ⟨4, 6⟩⟩, ⟨.enter .emphasis, ⟨6, 9⟩⟩, ⟨.text "c", ⟨7, 8⟩⟩,
    ⟨.leave .emphasis, ⟨6, 9⟩⟩, ⟨.text " d", ⟨9, 11⟩⟩, ⟨.leave (.heading 2), ⟨2, 14⟩⟩,
    ⟨.leave .quote, ⟨0, 14⟩⟩, ⟨.enter (.codeBlock (some "js x y")), ⟨15, 40⟩⟩,
    ⟨.text "e\n", ⟨24, 26⟩⟩, ⟨.text "f\r\n", ⟨26, 29⟩⟩,
    ⟨.leave (.codeBlock (some "js x y")), ⟨15, 40⟩⟩, ⟨.rule, ⟨41, 45⟩⟩]

/-- The quote is an element of its own, and the heading and the code in it come behind. -/
theorem quotedHeading_document :
    WellNested quotedHeading ∧
      documentOfEvents quotedHeading =
        ⟨[.other ⟨0, 14⟩, .heading ⟨2, some "a\nb   d"⟩ ⟨2, 14⟩,
          .code ⟨some "js", some "x y", "e\nf"⟩ ⟨15, 40⟩, .other ⟨41, 45⟩]⟩ := by
  have holdsPieces :
      HoldsPieces (quotedHeading.drop 2) [some "a", some "\n", some "b ", none, some " d"] :=
    ⟨(quotedHeading.drop 2).take 7, ⟨.leave (.heading 2), ⟨2, 14⟩⟩, quotedHeading.drop 10, rfl, rfl,
      .text _ (.softBreak (.text _ (.element rfl (.text _ .nothing) (.text _ .nothing))))⟩
  have holdsTexts : HoldsTexts (quotedHeading.drop 12) ["e\n", "f\r\n"] :=
    ⟨(quotedHeading.drop 12).take 2, ⟨.leave (.codeBlock (some "js x y")), ⟨15, 40⟩⟩,
      quotedHeading.drop 15, rfl, rfl, rfl⟩
  have nested : WellNested quotedHeading := by
    have pieces := Exists.intro _ holdsPieces
    have texts := Exists.intro _ holdsTexts
    simp only [quotedHeading, List.drop] at pieces texts
    simp [quotedHeading, wellNested_cons_iff, wellNested_nil, pieces, texts]
  refine ⟨nested, ?_⟩
  rw [documentOfEvents_eq_iff nested]
  have body : DropsEnding (String.join ["e\n", "f\r\n"]) "e\nf" := .carriageReturn "e\nf"
  exact .cons (.other rfl) (.cons (.heading holdsPieces)
    (.cons (.code holdsTexts (by decide +kernel) body) (.cons (.other rfl) .nil)))

end Tangle.Markdown
