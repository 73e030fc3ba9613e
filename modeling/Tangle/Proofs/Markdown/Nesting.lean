import Tangle.Markdown.Reader
import Tangle.Proofs.Markdown.Gathering

namespace Tangle.Markdown

/-!
# The events of a source are well nested

Whatever is read of a text inside a block, every piece holds inline events in which
each element is left again, and pairing signs and closing brackets keep it so.  Headings
have the events of such a text between their start and end, and code blocks have one
text for each line.  So nothing that stands in a source is lost when it is read.
-/

/-- Inline events in which every element is left again. -/
def Balanced (events : List Event) : Prop :=
  ∃ pieces, ReadsAs events pieces

/-- Events that come one after the other are read into their pieces one after the other. -/
theorem ReadsAs.append
    {front back : List Event} {frontPieces backPieces : List (Option String)}
    (frontReads : ReadsAs front frontPieces) (backReads : ReadsAs back backPieces) :
    ReadsAs (front ++ back) (frontPieces ++ backPieces) := by
  induction frontReads with
  | nothing =>
      exact backReads
  | text text _ inductionHypothesis =>
      exact .text text inductionHypothesis
  | softBreak _ inductionHypothesis =>
      exact .softBreak inductionHypothesis
  | mark isMark _ inductionHypothesis =>
      exact .mark isMark inductionHypothesis
  | element isInline within _ _ behindHypothesis =>
      rw [List.cons_append, List.append_assoc]
      exact .element isInline within behindHypothesis

namespace Balanced

/-- No events are balanced. -/
theorem nil : Balanced [] :=
  ⟨[], .nothing⟩

/-- Balanced events may come one after the other. -/
theorem append {front back : List Event} (frontBalanced : Balanced front)
    (backBalanced : Balanced back) : Balanced (front ++ back) := by
  obtain ⟨frontPieces, frontReads⟩ := frontBalanced
  obtain ⟨backPieces, backReads⟩ := backBalanced
  exact ⟨frontPieces ++ backPieces, frontReads.append backReads⟩

/-- A text is balanced by itself. -/
theorem text (text : String) : Balanced [.text text] :=
  ⟨[some text], .text text .nothing⟩

/-- So is a soft break. -/
theorem softBreak : Balanced [.softBreak] :=
  ⟨[some "\n"], .softBreak .nothing⟩

/-- So is a mark. -/
theorem mark {event : Event} (isMark : event.isMark = true) : Balanced [event] :=
  ⟨[none], .mark isMark .nothing⟩

/-- Balanced events may be wrapped in an inline element. -/
theorem wrap
    {element : Element} (isInline : element.isInline = true) {inside : List Event}
    (insideBalanced : Balanced inside) : Balanced (wrap element inside) := by
  obtain ⟨pieces, reads⟩ := insideBalanced
  exact ⟨[none], .element isInline reads .nothing⟩

/-- Balanced events from several sources may be put in a row. -/
theorem flatMap {Source : Type} {events : Source → List Event} {sources : List Source}
    (each : ∀ source ∈ sources, Balanced (events source)) : Balanced (sources.flatMap events) := by
  induction sources with
  | nil =>
      exact .nil
  | cons source rest inductionHypothesis =>
      obtain ⟨here, later⟩ := List.forall_mem_cons.mp each
      exact here.append (inductionHypothesis later)

end Balanced

/-! ## Pieces -/

/-- The events of every piece are balanced. -/
def AllBalanced (pieces : List Piece) : Prop :=
  ∀ piece ∈ pieces, Balanced piece.events

/-- Characters that stand for themselves are balanced. -/
theorem balanced_literal (characters : List Char) : Balanced (Piece.literal characters).events :=
  .text _

/-- So is a run of signs that emphasise nothing. -/
theorem balanced_run (run : EmphasisRun) : Balanced (Piece.run run).events :=
  .text _

namespace AllBalanced

variable {pieces : List Piece}

/-- A balanced piece may stand in front of balanced ones. -/
theorem cons {piece : Piece} (here : Balanced piece.events) (later : AllBalanced pieces) :
    AllBalanced (piece :: pieces) :=
  List.forall_mem_cons.mpr ⟨here, later⟩

/-- The first of balanced pieces is balanced. -/
theorem head {piece : Piece} (balanced : AllBalanced (piece :: pieces)) :
    Balanced piece.events :=
  balanced piece List.mem_cons_self

/-- So are those behind it. -/
theorem tail {piece : Piece} (balanced : AllBalanced (piece :: pieces)) : AllBalanced pieces :=
  fun other member => balanced other (List.mem_cons_of_mem piece member)

/-- Pieces are balanced if those in front and those behind are. -/
theorem append_iff {front back : List Piece} :
    AllBalanced (front ++ back) ↔ AllBalanced front ∧ AllBalanced back :=
  List.forall_mem_append

/-- The events of balanced pieces are balanced. -/
theorem eventsOf (balanced : AllBalanced pieces) : Balanced (eventsOf pieces) :=
  .flatMap fun piece member => balanced piece (List.mem_reverse.mp member)

end AllBalanced

/-! ## Emphasis -/

namespace EmphasisRun

variable {closer : EmphasisRun} {before inside older : List Piece} {opener : EmphasisRun}

/-- An opener is found among the pieces, with those since and those before it. -/
theorem eq_append_of_splitAtOpener?
    (found : closer.splitAtOpener? before = some (inside, opener, older)) :
    before = inside ++ .run opener :: older := by
  fun_induction closer.splitAtOpener? before generalizing inside with
  | case1 =>
      contradiction
  | case2 first older pairs =>
      cases found
      rfl
  | case3 first older apart inductionHypothesis =>
      obtain ⟨⟨later, _, _⟩, foundLater, same⟩ := Option.map_eq_some_iff.mp found
      cases same
      rw [inductionHypothesis foundLater, List.cons_append]
  | case4 first older notRun inductionHypothesis =>
      obtain ⟨⟨later, _, _⟩, foundLater, same⟩ := Option.map_eq_some_iff.mp found
      cases same
      rw [inductionHypothesis foundLater, List.cons_append]

/-- A found opener and what stands behind it make one balanced piece. -/
theorem allBalanced_wrap_keepRest
    (found : closer.splitAtOpener? before = some (inside, opener, older))
    (balanced : AllBalanced before) {element : Element} (isInline : element.isInline = true)
    (used : Nat) :
    AllBalanced (.finished (wrap element (eventsOf inside)) :: opener.keepRest used older) := by
  rw [eq_append_of_splitAtOpener? found, AllBalanced.append_iff] at balanced
  obtain ⟨insideBalanced, restBalanced⟩ := balanced
  have olderBalanced : AllBalanced older := restBalanced.tail
  refine .cons (insideBalanced.eventsOf.wrap isInline) ?_
  rw [keepRest]
  split
  · exact olderBalanced
  · exact .cons (balanced_run _) olderBalanced

/-- Closing emphasis with a run of signs keeps the pieces balanced. -/
theorem allBalanced_closeWith (count : Nat) (balanced : AllBalanced before) :
    AllBalanced (closer.closeWith count before).1 := by
  fun_induction closer.closeWith count before with
  | case1 => exact balanced
  | case2 => exact balanced
  | case3 before inside opener older found =>
      exact allBalanced_wrap_keepRest found balanced rfl 1
  | case4 => exact balanced
  | case5 count before inside opener older found _ inductionHypothesis =>
      exact inductionHypothesis (allBalanced_wrap_keepRest found balanced rfl 2)
  | case6 count before inside opener older found _ inductionHypothesis =>
      exact inductionHypothesis (allBalanced_wrap_keepRest found balanced rfl 1)

end EmphasisRun

/-- Pairing runs of signs makes balanced events of balanced pieces. -/
theorem balanced_pairRuns
    {before pieces : List Piece} (beforeBalanced : AllBalanced before)
    (balanced : AllBalanced pieces) : Balanced (pairRuns before pieces) := by
  fun_induction pairRuns before pieces with
  | case1 before =>
      exact beforeBalanced.eventsOf
  | case2 before run rest _ paired closed inductionHypothesis =>
      have pairedBalanced := run.allBalanced_closeWith run.count beforeBalanced
      rw [closed] at pairedBalanced
      exact inductionHypothesis pairedBalanced balanced.tail
  | case3 before run rest _ paired left closed _ _ inductionHypothesis =>
      have pairedBalanced := run.allBalanced_closeWith run.count beforeBalanced
      rw [closed] at pairedBalanced
      exact inductionHypothesis (.cons (balanced_run _) pairedBalanced) balanced.tail
  | case4 before run rest _ paired left closed _ _ inductionHypothesis =>
      have pairedBalanced := run.allBalanced_closeWith run.count beforeBalanced
      rw [closed] at pairedBalanced
      exact inductionHypothesis (.cons (balanced_literal _) pairedBalanced) balanced.tail
  | case5 before run rest _ inductionHypothesis =>
      exact inductionHypothesis (.cons (balanced_run _) beforeBalanced) balanced.tail
  | case6 before piece rest _ inductionHypothesis =>
      exact inductionHypothesis (.cons balanced.head beforeBalanced) balanced.tail

/-! ## Brackets -/

/-- An opening bracket is found among the pieces, with those since and those before it. -/
theorem eq_append_of_nearestBracket?
    {pieces : List Piece} {found : FoundBracket} (isNearest : nearestBracket? pieces = some found) :
    pieces = found.inside ++ .bracket found.image found.active found.behind :: found.older := by
  fun_induction nearestBracket? pieces generalizing found with
  | case1 =>
      contradiction
  | case2 image active behind older =>
      cases isNearest
      rfl
  | case3 piece older _ inductionHypothesis =>
      obtain ⟨later, foundLater, rfl⟩ := Option.map_eq_some_iff.mp isNearest
      exact congrArg (piece :: ·) (inductionHypothesis foundLater)

/-- A bracket that can open no link any more has the same events. -/
theorem events_deactivate (piece : Piece) : (deactivate piece).events = piece.events := by
  cases piece with
  | bracket image active behind => cases image <;> rfl
  | _ => rfl

/-- So the pieces stay balanced where brackets are put out of use. -/
theorem AllBalanced.deactivate {pieces : List Piece} (balanced : AllBalanced pieces) :
    AllBalanced (pieces.map deactivate) := by
  intro piece member
  obtain ⟨original, isPiece, rfl⟩ := List.mem_map.mp member
  rw [events_deactivate]
  exact balanced original isPiece

/-- Closing a bracket keeps the pieces balanced: it is literal, or all since its opening is one. -/
theorem allBalanced_closeBracket
    {pieces : List Piece} (balanced : AllBalanced pieces) (labels : List (List Char))
    (rest : List Char) : AllBalanced (closeBracket labels pieces rest).1 := by
  rw [closeBracket]
  split
  · exact .cons (balanced_literal _) balanced
  · rename_i found isNearest
    rw [eq_append_of_nearestBracket? isNearest, AllBalanced.append_iff] at balanced
    obtain ⟨insideBalanced, restBalanced⟩ := balanced
    have plain : AllBalanced (.literal [']'] :: (found.inside ++
        .literal (Piece.bracketText found.image) :: found.older)) :=
      .cons (balanced_literal _)
        (AllBalanced.append_iff.mpr
          ⟨insideBalanced, .cons (balanced_literal _) restBalanced.tail⟩)
    have inside : Balanced (pairRuns [] found.inside.reverse) :=
      balanced_pairRuns (by simp [AllBalanced])
        fun piece member => insideBalanced piece (List.mem_reverse.mp member)
    dsimp only
    split
    · split
      · exact plain
      · split
        · exact .cons (inside.wrap rfl) restBalanced.tail
        · exact .cons (inside.wrap rfl) restBalanced.tail.deactivate
    · exact plain

/-! ## Reading -/

/-- What stands between angle brackets is balanced. -/
theorem balanced_angleBracket?
    {inside behind : List Char} {events : List Event}
    (read : angleBracket? inside = some (events, behind)) : Balanced events := by
  rw [angleBracket?] at read
  split at read
  · cases read
    exact (Balanced.text _).wrap rfl
  · obtain ⟨_, _, same⟩ := Option.map_eq_some_iff.mp read
    cases same
    exact .mark rfl

/-- So are the blanks at the end of a line, be they a break or not. -/
theorem balanced_spaces (rest : List Char) : Balanced (spaces rest).1.events := by
  rw [spaces]
  split
  · change Balanced [if _ then Event.hardBreak else Event.softBreak]
    split
    · exact .mark rfl
    · exact .softBreak
  · exact balanced_literal _

/--
Every step of reading keeps the pieces balanced.  What is no code, link or break
has a text as its events, be it signs or a bracket that may open a link.
-/
theorem allBalanced_readPiece
    {pieces : List Piece} (balanced : AllBalanced pieces) (labels : List (List Char))
    (previous first : Char) (rest : List Char) :
    AllBalanced (readPiece labels pieces previous first rest).1 := by
  fun_cases readPiece labels pieces previous first rest with
  | case1 => exact .cons (.mark rfl) balanced
  | case5 => exact .cons (.mark rfl) balanced
  | case10 rest => exact allBalanced_closeBracket balanced labels rest
  | case11 rest events behind read => exact .cons (balanced_angleBracket? read) balanced
  | case15 => exact .cons .softBreak balanced
  | case16 rest piece last behind read =>
      have pieceBalanced := balanced_spaces rest
      rw [read] at pieceBalanced
      exact .cons pieceBalanced balanced
  | _ => exact .cons (balanced_literal _) balanced

/-- Reading a whole text keeps the pieces balanced. -/
theorem allBalanced_readPieces
    {pieces : List Piece} (balanced : AllBalanced pieces) (labels : List (List Char))
    (fuel : Nat) (previous : Char) (text : List Char) :
    AllBalanced (readPieces labels fuel pieces previous text) := by
  induction fuel generalizing pieces previous text with
  | zero =>
      exact balanced
  | succ fuel inductionHypothesis =>
      cases text with
      | nil =>
          exact balanced
      | cons first rest =>
          exact inductionHypothesis (allBalanced_readPiece balanced labels previous first rest) _ _

/-- Whatever a heading holds, its events are inline and every element in it is left again. -/
theorem balanced_inlineEvents (labels : List (List Char)) (text : List Char) :
    Balanced (inlineEvents labels text) := by
  have nothing : AllBalanced [] := by
    simp [AllBalanced]
  have read := allBalanced_readPieces nothing labels text.length '\n' text
  exact balanced_pairRuns nothing fun piece member => read piece (List.mem_reverse.mp member)

/-! ## Blocks -/

/-- Pieces that come next do so whatever comes behind them. -/
theorem HoldsPieces.append
    {behind : List PlacedEvent} {pieces : List (Option String)} (holds : HoldsPieces behind pieces)
    (rest : List PlacedEvent) : HoldsPieces (behind ++ rest) pieces := by
  obtain ⟨inside, closing, later, rfl, closes, reads⟩ := holds
  exact ⟨inside, closing, later ++ rest, by simp, closes, reads⟩

/-- So do texts. -/
theorem HoldsTexts.append
    {behind : List PlacedEvent} {texts : List String} (holds : HoldsTexts behind texts)
    (rest : List PlacedEvent) : HoldsTexts (behind ++ rest) texts := by
  obtain ⟨inside, closing, later, rfl, closes, onlyText⟩ := holds
  exact ⟨inside, closing, later ++ rest, by simp, closes, onlyText⟩

namespace WellNested

/-- Well nested events may come one after the other. -/
theorem append
    {front back : List PlacedEvent} (frontNested : WellNested front)
    (backNested : WellNested back) : WellNested (front ++ back) := by
  induction front with
  | nil =>
      exact backNested
  | cons opening behind inductionHypothesis =>
      obtain ⟨heading, code, behindNested⟩ := wellNested_cons_iff.mp frontNested
      refine wellNested_cons_iff.mpr ⟨?_, ?_, inductionHypothesis behindNested⟩
      · intro depth isHeading
        obtain ⟨pieces, holds⟩ := heading depth isHeading
        exact ⟨pieces, holds.append back⟩
      · intro info isCode
        obtain ⟨texts, holds⟩ := code info isCode
        exact ⟨texts, holds.append back⟩

/-- Events that start nothing are well nested. -/
theorem of_no_start
    {events : List PlacedEvent} (noStart : ∀ placed ∈ events, placed.event.startsNode = false) :
    WellNested events := by
  constructor
  · intro opening behind depth isSuffix isHeading
    have notStart := noStart opening (isSuffix.subset List.mem_cons_self)
    rw [isHeading] at notStart
    contradiction
  · intro opening behind info isSuffix isCode
    have notStart := noStart opening (isSuffix.subset List.mem_cons_self)
    rw [isCode] at notStart
    contradiction

/-- An event that starts neither a heading nor a code block can stand before well nested ones. -/
theorem cons
    {opening : PlacedEvent} {behind : List PlacedEvent}
    (startsNeither : opening.event.startsNode = opening.event.startsBlock)
    (nested : WellNested behind) : WellNested (opening :: behind) := by
  refine wellNested_cons_iff.mpr ⟨?_, ?_, nested⟩
  · intro depth isHeading
    rw [isHeading] at startsNeither
    contradiction
  · intro info isCode
    rw [isCode] at startsNeither
    contradiction

/-- A block around others starts neither a heading nor a code block. -/
theorem around
    {inside : List PlacedEvent} (nested : WellNested inside) (span : Span) {element : Element}
    (startsNeither :
      (Event.enter element).startsNode = (Event.enter element).startsBlock) :
    WellNested (around span element inside) :=
  .cons startsNeither (nested.append (.of_no_start (by simp [Event.startsNode, Event.startsBlock])))

end WellNested

/-- Placing an element puts its start and end around what is inside, all at one place. -/
theorem placed_eq_around (span : Span) (element : Element) (inside : List Event) :
    placed span element inside = around span element (inside.map (⟨·, span⟩)) := by
  simp [placed, around, wrap]

/-- The events of a block that is told by a mark only. -/
theorem wellNested_mark
    (span : Span) {element : Element}
    (startsNeither :
      (Event.enter element).startsNode = (Event.enter element).startsBlock) :
    WellNested (placed span element []) :=
  wellNested_nil.around span startsNeither

/-- A heading with balanced events inside is well nested. -/
theorem wellNested_heading
    (span : Span) (depth : Nat) {inside : List Event} (balanced : Balanced inside) :
    WellNested (placed span (.heading depth) inside) := by
  obtain ⟨pieces, reads⟩ := balanced
  let behind : List PlacedEvent :=
    inside.map (⟨·, span⟩) ++ [⟨.leave (.heading depth), span⟩]
  have holds : HoldsPieces behind pieces := by
    refine ⟨_, _, [], rfl, rfl, ?_⟩
    rw [List.map_map]
    simpa [Function.comp_def] using reads
  have noStart : ∀ placed ∈ behind, placed.event.startsNode = false := by
    rw [List.forall_mem_append, List.forall_mem_map, List.forall_mem_singleton]
    exact ⟨fun event member => (reads.inside event member).2, rfl⟩
  rw [placed_eq_around, around, wellNested_cons_iff]
  refine ⟨?_, ?_, .of_no_start noStart⟩
  · intro _ _
    exact ⟨pieces, holds⟩
  · intro info isCode
    cases isCode

/-- So is a code block with its lines. -/
theorem wellNested_codeEvents
    (span : Span) (info : Option (List Char)) (lines : List (List Char)) :
    WellNested (codeEvents span info lines) := by
  let element : Element :=
    .codeBlock (info.map (fun text => String.ofList (Text.resolve text)))
  let behind : List PlacedEvent :=
    (lines.map Piece.textEvent).map (⟨·, span⟩) ++ [⟨.leave element, span⟩]
  have holds : HoldsTexts behind (lines.map String.ofList) := by
    refine ⟨_, _, [], rfl, rfl, ?_⟩
    simp [Function.comp_def, Piece.textEvent]
  have noStart : ∀ placed ∈ behind, placed.event.startsNode = false := by
    rw [List.forall_mem_append, List.forall_mem_map, List.forall_mem_map,
      List.forall_mem_singleton]
    exact ⟨fun _ _ => rfl, rfl⟩
  rw [codeEvents, placed_eq_around, around, wellNested_cons_iff]
  refine ⟨?_, ?_, .of_no_start noStart⟩
  · intro depth isHeading
    cases isHeading
  · intro _ _
    exact ⟨lines.map String.ofList, holds⟩

mutual

/-- The events of a block are well nested, by those of the blocks inside it. -/
theorem wellNested_blockEvents (labels : List (List Char)) (tight : Bool) (block : Block) :
    WellNested (blockEvents labels tight block) := by
  match block with
  | .paragraph span =>
      rw [blockEvents]
      split
      · exact wellNested_nil
      · exact wellNested_mark span rfl
  | .heading span depth content =>
      exact wellNested_heading span depth (balanced_inlineEvents labels content)
  | .code span info lines =>
      exact wellNested_codeEvents span info lines
  | .markup span =>
      exact wellNested_mark span rfl
  | .rule span =>
      exact wellNested_nil.cons rfl
  | .quote span children =>
      exact (wellNested_blocksEvents labels false children).around span rfl
  | .list span tightList items =>
      exact (wellNested_blocksEvents labels tightList items).around span rfl
  | .item span children =>
      exact (wellNested_blocksEvents labels tight children).around span rfl
  | .definitions _ =>
      exact wellNested_nil

/-- So are those of blocks one after the other. -/
theorem wellNested_blocksEvents (labels : List (List Char)) (tight : Bool) (blocks : List Block) :
    WellNested (blocksEvents labels tight blocks) := by
  match blocks with
  | [] =>
      exact wellNested_nil
  | block :: rest =>
      exact (wellNested_blockEvents labels tight block).append
        (wellNested_blocksEvents labels tight rest)

end

/-- Whatever the source, all headings and code blocks in it end. -/
theorem wellNested_eventsOfSource (source : String) : WellNested (eventsOfSource source) :=
  wellNested_blocksEvents _ false _

/-- Every source reads as a document that has lost nothing of it. -/
theorem tells_read (source : String) :
    List.Forall₂ (fun start => TellsOf start.1 start.2) (starts (eventsOfSource source))
      (read source).nodes :=
  tells_outside_nodes (wellNested_eventsOfSource source)

end Tangle.Markdown
