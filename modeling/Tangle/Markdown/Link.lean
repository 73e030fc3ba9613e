import Tangle.Markdown.Tag
import Tangle.Text.CaseFolding
import Tangle.Text.Punctuation

namespace Tangle.Markdown

/-!
# Links

The parts of which links and link definitions consist: labels, destinations
and titles.  Only where a part ends and which label it has matters here,
because nothing follows a link.
-/

/-- Drop separators, of which a paragraph holds at most one line end in a row. -/
def dropSeparators (text : List Char) : List Char :=
  text.dropWhile isSeparator

namespace Link

/-- A label as it is compared: folded in case, trimmed, and a space for every run of separators. -/
def normalize (label : List Char) : List Char :=
  let parts := (Text.foldCase label).splitOnP isSeparator
  List.intercalate [' '] (parts.filter (fun part => !part.isEmpty))

/-- Read a label up to its closing bracket: the label, and what stands behind the bracket. -/
def labelFrom? (room : Nat) (label : List Char) : List Char → Option (List Char × List Char)
  | [] => none
  | ']' :: rest => some (label.reverse, rest)
  | '[' :: _ => none
  | '\\' :: next :: rest =>
      if room < 2 then none
      else if Text.isAsciiPunctuation next then labelFrom? (room - 2) (next :: '\\' :: label) rest
      else labelFrom? (room - 1) ('\\' :: label) (next :: rest)
  | character :: rest =>
      if room = 0 then none else labelFrom? (room - 1) (character :: label) rest

/-- Read a label behind its opening bracket; it holds something other than separators. -/
def label? (behind : List Char) : Option (List Char × List Char) :=
  match labelFrom? 999 [] behind with
  | some (label, rest) => if label.all isSeparator then none else some (label, rest)
  | none => none

/-- What stands behind a destination in angle brackets, given what follows the first. -/
def bracketedDestination? : List Char → Option (List Char)
  | [] => none
  | '>' :: rest => some rest
  | '<' :: _ => none
  | '\n' :: _ => none
  | '\r' :: _ => none
  | '\\' :: next :: rest =>
      if Text.isAsciiPunctuation next then bracketedDestination? rest
      else bracketedDestination? (next :: rest)
  | _ :: rest => bracketedDestination? rest

/-- What stands behind a bare destination inside `depth` open parentheses. -/
def bareDestination? (depth : Nat) : List Char → Option (List Char)
  | [] => if depth = 0 then some [] else none
  | '\\' :: next :: rest =>
      if Text.isAsciiPunctuation next then bareDestination? depth rest
      else bareDestination? depth (next :: rest)
  | '(' :: rest => if depth < 32 then bareDestination? (depth + 1) rest else none
  | ')' :: rest =>
      match depth with
      | 0 => some (')' :: rest)
      | outer + 1 => bareDestination? outer rest
  | character :: rest =>
      if character.toNat ≤ 0x20 || character.toNat = 0x7F then
        if depth = 0 then some (character :: rest) else none
      else
        bareDestination? depth rest

/-- What stands behind a destination. -/
def destination? : List Char → Option (List Char)
  | '<' :: rest => bracketedDestination? rest
  | text => bareDestination? 0 text

/-- What stands behind a title that ends at `closing`; only another `opening` is refused. -/
def titleUntil? (opening closing : Char) : List Char → Option (List Char)
  | [] => none
  | '\\' :: next :: rest =>
      if Text.isAsciiPunctuation next then titleUntil? opening closing rest
      else titleUntil? opening closing (next :: rest)
  | character :: rest =>
      if character = closing then some rest
      else if character = opening then none
      else titleUntil? opening closing rest

/-- What stands behind a title. -/
def title? : List Char → Option (List Char)
  | '\x22' :: rest => titleUntil? '\x22' '\x22' rest
  | '\x27' :: rest => titleUntil? '\x27' '\x27' rest
  | '(' :: rest => titleUntil? '(' ')' rest
  | _ => none

/-- What stands behind the closing parenthesis after a destination and an optional title. -/
def closeInline? (text : List Char) : Option (List Char) :=
  match dropSeparators text with
  | ')' :: rest => some rest
  | _ => none

/-- What stands behind a destination with an optional title, given what follows `(`. -/
def inlineTail? (behind : List Char) : Option (List Char) :=
  match destination? (dropSeparators behind) with
  | none => none
  | some afterDestination =>
      match closeInline? afterDestination with
      | some rest => some rest
      | none =>
          let separated := dropSeparators afterDestination
          if separated.length = afterDestination.length then none
          else (title? separated).bind closeInline?

/-- What stands behind the rest of a line that holds nothing more. -/
def lineEnd? (text : List Char) : Option (List Char) :=
  match text.dropWhile isGap with
  | [] => some []
  | '\n' :: rest => some rest
  | _ => none

/-- What stands behind a definition whose destination has just ended. -/
def definitionEnd? (afterDestination : List Char) : Option (List Char) :=
  let separated := dropSeparators afterDestination
  let titled :=
    if separated.length = afterDestination.length then none
    else (title? separated).bind lineEnd?
  match titled with
  | some rest => some rest
  | none => lineEnd? afterDestination

/-- Read a definition: its label, and what stands behind its last line. -/
def definition? : List Char → Option (List Char × List Char)
  | '[' :: behind =>
      match label? behind with
      | some (label, ':' :: afterColon) =>
          match dropSeparators afterColon with
          | [] => none
          | first :: following =>
              ((destination? (first :: following)).bind definitionEnd?).map
                (normalize label, ·)
      | _ => none
  | _ => none

/-- The labels of the definitions at the front of a paragraph, and the text behind them. -/
def definitionsWithin : Nat → List Char → List (List Char) × List Char
  | 0, text => ([], text)
  | fuel + 1, text =>
      match definition? text with
      | none => ([], text)
      | some (label, rest) =>
          let (labels, remaining) := definitionsWithin fuel rest
          (label :: labels, remaining)

/-- The labels that the front of a paragraph defines, and what is left of it. -/
def definitions (text : List Char) : List (List Char) × List Char :=
  definitionsWithin text.length text

end Link

end Tangle.Markdown
