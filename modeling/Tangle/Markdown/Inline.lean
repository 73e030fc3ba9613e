import Tangle.Markdown.Event
import Tangle.Markdown.Link
import Tangle.Text.Blank
import Tangle.Text.CharacterReference

namespace Tangle.Markdown

/-!
# Text inside a block

The text of a block is read from left to right into pieces: finished events,
runs of emphasis signs, and brackets that may yet open a link.  A closing
bracket that completes a link makes one finished piece of everything since its
opening one.  At last the runs of signs are paired, and what finds no partner
stands for itself.
-/

/-- A run of stars or underscores, and what it may do with its neighbours. -/
structure EmphasisRun where
  sign : Char
  /-- The signs not used up yet. -/
  count : Nat
  /-- The signs that the run had at first. -/
  length : Nat
  canOpen : Bool
  canClose : Bool
  deriving Repr, DecidableEq

/-- A part of a text that is being read. -/
inductive Piece where
  | finished (events : List Event)
  | run (run : EmphasisRun)
  /-- An opening bracket and the text behind it; only an active one may open a link. -/
  | bracket (image active : Bool) (behind : List Char)
  deriving Repr, DecidableEq

namespace Piece

/-- The event of some literal characters. -/
def textEvent (characters : List Char) : Event :=
  .text (String.ofList characters)

/-- A piece of literal characters. -/
def literal (characters : List Char) : Piece :=
  .finished [textEvent characters]

/-- The characters of the bracket that opens a link or an image. -/
def bracketText (image : Bool) : List Char :=
  if image then ['!', '['] else ['[']

/-- The events of a piece that found no partner. -/
def events : Piece → List Event
  | .finished known => known
  | .run signs => [textEvent (List.replicate signs.count signs.sign)]
  | .bracket image _ _ => [textEvent (bracketText image)]

end Piece

/-- The events of pieces that are given latest first. -/
def eventsOf (pieces : List Piece) : List Event :=
  pieces.reverse.flatMap Piece.events

/-- The events of an element around other events. -/
def wrap (element : Element) (inside : List Event) : List Event :=
  .enter element :: (inside ++ [.leave element])

namespace EmphasisRun

/--
Whether two runs may be paired.  A run that can both open and close must not
be paired when the lengths add up to a multiple of three, unless both are.
-/
def pairs (opener closer : EmphasisRun) : Bool :=
  opener.canOpen && opener.sign == closer.sign &&
    !((opener.canClose || closer.canOpen) && (opener.length + closer.length) % 3 == 0 &&
      !(opener.length % 3 == 0 && closer.length % 3 == 0))

/-- The pieces since the nearest opener for a closing run, the opener, and those before it. -/
def splitAtOpener? (closer : EmphasisRun) :
    List Piece → Option (List Piece × EmphasisRun × List Piece)
  | [] => none
  | .run opener :: older =>
      if opener.pairs closer then some ([], opener, older)
      else
        (closer.splitAtOpener? older).map
          (fun (inside, found, before) => (.run opener :: inside, found, before))
  | piece :: older =>
      (closer.splitAtOpener? older).map
        (fun (inside, found, before) => (piece :: inside, found, before))

/-- An opener in front of other pieces with some of its signs used up. -/
def keepRest (opener : EmphasisRun) (used : Nat) (older : List Piece) : List Piece :=
  if opener.count ≤ used then older
  else .run { opener with count := opener.count - used } :: older

/-- Pair the signs left of a closing run with openers before it: the pieces, and the signs left. -/
def closeWith (closer : EmphasisRun) : Nat → List Piece → List Piece × Nat
  | 0, before => (before, 0)
  | 1, before =>
      match closer.splitAtOpener? before with
      | none => (before, 1)
      | some (inside, opener, older) =>
          (.finished (wrap .emphasis (eventsOf inside)) :: opener.keepRest 1 older, 0)
  | count + 2, before =>
      match closer.splitAtOpener? before with
      | none => (before, count + 2)
      | some (inside, opener, older) =>
          if 2 ≤ opener.count then
            closer.closeWith count
              (.finished (wrap .strong (eventsOf inside)) :: opener.keepRest 2 older)
          else
            closer.closeWith (count + 1)
              (.finished (wrap .emphasis (eventsOf inside)) :: opener.keepRest 1 older)

end EmphasisRun

/-- Pair the runs of signs among pieces, of which those before come latest first. -/
def pairRuns (before : List Piece) : List Piece → List Event
  | [] => eventsOf before
  | .run run :: rest =>
      if run.canClose then
        let (paired, left) := run.closeWith run.count before
        if left = 0 then pairRuns paired rest
        else if run.canOpen then pairRuns (.run { run with count := left } :: paired) rest
        else pairRuns (.literal (List.replicate left run.sign) :: paired) rest
      else
        pairRuns (.run run :: before) rest
  | piece :: rest => pairRuns (piece :: before) rest

/-- An opening bracket found behind some pieces. -/
structure FoundBracket where
  /-- The pieces since the bracket, latest first. -/
  inside : List Piece
  image : Bool
  active : Bool
  behind : List Char
  /-- The pieces before the bracket, latest first. -/
  older : List Piece

/-- The nearest opening bracket among pieces given latest first. -/
def nearestBracket? : List Piece → Option FoundBracket
  | [] => none
  | .bracket image active behind :: older => some ⟨[], image, active, behind, older⟩
  | piece :: older =>
      (nearestBracket? older).map (fun found => { found with inside := piece :: found.inside })

/-- Keep brackets from opening a link, since links do not stand inside links. -/
def deactivate : Piece → Piece
  | .bracket false _ behind => .bracket false false behind
  | piece => piece

/-- Whether a label is among the defined ones. -/
def isDefined (labels : List (List Char)) (label : List Char) : Bool :=
  labels.contains (Link.normalize label)

/-- What stands behind a link whose bracketed text has just been closed, if it is a link. -/
def linkTail? (labels : List (List Char)) (inside rest : List Char) : Option (List Char) :=
  let shortcut (behind : List Char) : Option (List Char) :=
    match Link.label? (inside ++ [']']) with
    | some (label, []) => if isDefined labels label then some behind else none
    | _ => none
  let reference : Option (List Char) :=
    match rest with
    | '[' :: ']' :: behind => shortcut behind
    | '[' :: behind =>
        match Link.label? behind with
        | some (label, after) => if isDefined labels label then some after else none
        | none => shortcut rest
    | _ => shortcut rest
  match rest with
  | '(' :: behind => (Link.inlineTail? behind).orElse (fun _ => reference)
  | _ => reference

/-- Read a closing bracket: the pieces after it, the last character read, and what stands behind. -/
def closeBracket (labels : List (List Char)) (pieces : List Piece) (rest : List Char) :
    List Piece × Char × List Char :=
  match nearestBracket? pieces with
  | none => (.literal [']'] :: pieces, ']', rest)
  | some found =>
      let plain := .literal [']'] :: (found.inside ++
        .literal (Piece.bracketText found.image) :: found.older)
      if found.active then
        let text := found.behind.take (found.behind.length - (rest.length + 1))
        match linkTail? labels text rest with
        | none => (plain, ']', rest)
        | some behind =>
            let events := pairRuns [] found.inside.reverse
            let last := if behind.length < rest.length then ')' else ']'
            if found.image then
              (.finished (wrap .image events) :: found.older, last, behind)
            else
              (.finished (wrap .link events) :: found.older.map deactivate, last, behind)
      else (plain, ']', rest)

/-- Whether a character counts as white space beside a run of signs. -/
def isFlankBlank (character : Char) : Bool :=
  Text.isBlank character

/-- A run of signs between two characters. -/
def emphasisRun (sign : Char) (length : Nat) (previous next : Char) : EmphasisRun :=
  let blankBefore := isFlankBlank previous
  let blankAfter := isFlankBlank next
  let markBefore := Text.isPunctuation previous
  let markAfter := Text.isPunctuation next
  let leftFlanking := !blankAfter && (!markAfter || blankBefore || markBefore)
  let rightFlanking := !blankBefore && (!markBefore || blankAfter || markAfter)
  if sign = '_' then
    ⟨sign, length, length, leftFlanking && (!rightFlanking || markBefore),
      rightFlanking && (!leftFlanking || markAfter)⟩
  else
    ⟨sign, length, length, leftFlanking, rightFlanking⟩

/-- What stands behind a code span that a run of so many accents closes, and its inside. -/
def inlineCode? (length : Nat) (inside : List Char) :
    Nat → List Char → Option (List Char × List Char)
  | 0, _ => none
  | _ + 1, [] => none
  | fuel + 1, '\x60' :: rest =>
      let closing := (rest.takeWhile (· == '\x60')).length + 1
      let behind := rest.dropWhile (· == '\x60')
      if closing = length then some (inside.reverse, behind)
      else inlineCode? length (List.replicate closing '\x60' ++ inside) fuel behind
  | fuel + 1, character :: rest => inlineCode? length (character :: inside) fuel rest

/-- The characters of a scheme after its first letter. -/
def isSchemeCharacter (character : Char) : Bool :=
  isLetter character || isDigit character || character == '+' || character == '.' ||
    character == '-'

/-- What stands behind an absolute address in angle brackets, given what follows the first. -/
def addressLink? (inside : List Char) : Option (List Char × List Char) :=
  let scheme := inside.takeWhile isSchemeCharacter
  if (inside.head?.any isLetter) && 2 ≤ scheme.length && scheme.length ≤ 32 then
    match inside.dropWhile isSchemeCharacter with
    | ':' :: target =>
        let isTargetCharacter (character : Char) : Bool :=
          0x20 < character.toNat && character != '<' && character != '>' &&
            character.toNat != 0x7F
        match target.dropWhile isTargetCharacter with
        | '>' :: behind =>
            some (scheme ++ ':' :: target.takeWhile isTargetCharacter, behind)
        | _ => none
    | _ => none
  else none

/-- The characters of the part of a mail address before its sign. -/
def isMailCharacter (character : Char) : Bool :=
  isLetter character || isDigit character ||
    ".!#$%&\x27*+/=?^_\x60\x7b|\x7d~-".toList.contains character

/-- Whether one part of a host name is well formed. -/
def isHostPart (part : List Char) : Bool :=
  !part.isEmpty && part.length ≤ 63 &&
    part.all (fun character => isLetter character || isDigit character || character == '-') &&
    part.head? != some '-' && part.getLast? != some '-'

/-- What stands behind a mail address in angle brackets, given what follows the first. -/
def mailLink? (inside : List Char) : Option (List Char × List Char) :=
  let name := inside.takeWhile isMailCharacter
  match inside.dropWhile isMailCharacter with
  | '@' :: target =>
      let isHostCharacter (character : Char) : Bool :=
        isLetter character || isDigit character || character == '-' || character == '.'
      let host := target.takeWhile isHostCharacter
      match target.dropWhile isHostCharacter with
      | '>' :: behind =>
          if !name.isEmpty && (host.splitOn '.').all isHostPart then
            some (name ++ '@' :: host, behind)
          else none
      | _ => none
  | _ => none

/-- The events of what stands in angle brackets, and what stands behind it. -/
def angleBracket? (inside : List Char) : Option (List Event × List Char) :=
  match (addressLink? inside).orElse (fun _ => mailLink? inside) with
  | some (address, behind) => some (wrap .link [Piece.textEvent address], behind)
  | none =>
      (Tag.markup? inside).map (fun behind =>
        ([.markup (String.ofList ('<' :: inside.take (inside.length - behind.length)))], behind))

/-- The characters that stand for themselves wherever they stand. -/
def isPlain (character : Char) : Bool :=
  !"\\\x60*_[]!<& \n".toList.contains character

/-- Read spaces: before a line end they vanish, and two or more of them break the line hard. -/
def spaces (rest : List Char) : Piece × Char × List Char :=
  let count := (rest.takeWhile (· == ' ')).length + 1
  match rest.dropWhile (· == ' ') with
  | '\n' :: behind =>
      (.finished [if 2 ≤ count then .hardBreak else .softBreak], '\n', behind)
  | behind => (.literal (List.replicate count ' '), ' ', behind)

/-- Read one piece, given its first character and what follows it. -/
def readPiece (labels : List (List Char)) (pieces : List Piece) (previous first : Char)
    (rest : List Char) : List Piece × Char × List Char :=
  match first with
  | '\\' =>
      match rest with
      | '\n' :: behind => (.finished [.hardBreak] :: pieces, '\n', behind)
      | next :: behind =>
          if Text.isAsciiPunctuation next then (.literal [next] :: pieces, next, behind)
          else (.literal ['\\'] :: pieces, '\\', rest)
      | [] => (.literal ['\\'] :: pieces, '\\', rest)
  | '\x60' =>
      let length := (rest.takeWhile (· == '\x60')).length + 1
      let behind := rest.dropWhile (· == '\x60')
      match inlineCode? length [] (behind.length + 1) behind with
      | some (inside, after) =>
          (.finished [.code (String.ofList inside)] :: pieces, '\x60', after)
      | none => (.literal (List.replicate length '\x60') :: pieces, '\x60', behind)
  | '[' => (.bracket false true rest :: pieces, '[', rest)
  | '!' =>
      match rest with
      | '[' :: behind => (.bracket true true behind :: pieces, '[', behind)
      | _ => (.literal ['!'] :: pieces, '!', rest)
  | ']' => closeBracket labels pieces rest
  | '<' =>
      match angleBracket? rest with
      | some (events, behind) => (.finished events :: pieces, '>', behind)
      | none => (.literal ['<'] :: pieces, '<', rest)
  | '&' =>
      match Text.reference? rest with
      | some (characters, behind) => (.literal characters :: pieces, ';', behind)
      | none => (.literal ['&'] :: pieces, '&', rest)
  | '\n' => (.finished [.softBreak] :: pieces, '\n', rest)
  | ' ' =>
      let (piece, last, behind) := spaces rest
      (piece :: pieces, last, behind)
  | sign =>
      if sign = '*' || sign = '_' then
        let length := (rest.takeWhile (· == sign)).length + 1
        let behind := rest.dropWhile (· == sign)
        (.run (emphasisRun sign length previous (behind.head?.getD '\n')) :: pieces, sign, behind)
      else
        let word := sign :: rest.takeWhile isPlain
        (.literal word :: pieces, word.getLast?.getD sign, rest.dropWhile isPlain)

/-- Read a text into pieces, latest first; every step takes at least one character. -/
def readPieces (labels : List (List Char)) :
    Nat → List Piece → Char → List Char → List Piece
  | 0, pieces, _, _ => pieces
  | _ + 1, pieces, _, [] => pieces
  | fuel + 1, pieces, previous, first :: rest =>
      let (read, last, behind) := readPiece labels pieces previous first rest
      readPieces labels fuel read last behind

/-- The events of a text inside a block, given the labels that the whole text defines. -/
def inlineEvents (labels : List (List Char)) (text : List Char) : List Event :=
  pairRuns [] (readPieces labels text.length [] '\n' text).reverse

end Tangle.Markdown
