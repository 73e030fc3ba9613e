namespace Tangle.Text

/-!
# Blank characters and words

Paths, headings, info strings and configuration values all agree on one notion
of white space: the characters to which Unicode gives the `White_Space`
property.  This module defines that class, trimming at the ends of a text, and
the splitting of a text into words, its maximal runs of other characters.
-/

/-- The characters that carry the Unicode property `White_Space`. -/
def isBlank (character : Char) : Bool :=
  let code := character.toNat
  (9 ≤ code && code ≤ 13) || code == 0x20 || code == 0x85 || code == 0xA0 || code == 0x1680 ||
    (0x2000 ≤ code && code ≤ 0x200A) || code == 0x2028 || code == 0x2029 || code == 0x202F ||
    code == 0x205F || code == 0x3000

/-- Remove the longest run at the end whose characters all satisfy `drops`. -/
def dropEndWhile (drops : Char → Bool) (characters : List Char) : List Char :=
  (characters.reverse.dropWhile drops).reverse

/-- Drop a line end right at the front. -/
def dropLineEnd : List Char → List Char
  | '\n' :: rest => rest
  | '\r' :: '\n' :: rest => rest
  | text => text

/-- Remove the characters that satisfy `drops` from both ends. -/
def trimWhere (drops : Char → Bool) (characters : List Char) : List Char :=
  dropEndWhile drops (characters.dropWhile drops)

/-- Remove blank characters from both ends of a text. -/
def trim (text : String) : String :=
  String.ofList (trimWhere isBlank text.toList)

/-- The maximal runs of characters that are not blank, in order. -/
def words (characters : List Char) : List (List Char) :=
  (characters.splitOnP isBlank).filter (fun word => !word.isEmpty)

/-- Whether a word may end in front of a text: nothing follows, or a blank character. -/
def endsWord : List Char → Bool
  | [] => true
  | next :: _ => isBlank next

/--
What `read` makes of the first place where a word may start and it makes
something of what stands there.  `atWord` tells whether one may start in front.
-/
def firstAtWord? (read : List Char → Option α) (atWord : Bool) : List Char → Option α
  | [] => none
  | character :: rest =>
      match if atWord then read (character :: rest) else none with
      | some found => some found
      | none => firstAtWord? read (isBlank character) rest

/-- Whether `needle` stands somewhere in a text. -/
def contains (needle : List Char) : List Char → Bool
  | [] => needle.isEmpty
  | character :: rest => needle.isPrefixOf (character :: rest) || contains needle rest

/-- The lines of a text whose unfinished first line, reversed, is `current`. -/
def linesAfter (current : List Char) : List Char → List (List Char)
  | [] => if current.isEmpty then [] else [current.reverse]
  | '\n' :: rest =>
      match current with
      | '\r' :: body => body.reverse :: linesAfter [] rest
      | body => body.reverse :: linesAfter [] rest
  | character :: rest => linesAfter (character :: current) rest

/--
The lines of a text.  A line ends at a line feed, with the carriage return
right before it if there is one; a line feed at the very end opens no new line.
-/
def lines (text : String) : List String :=
  (linesAfter [] text.toList).map String.ofList

/-- A space is a blank. -/
theorem isBlank_space : isBlank ' ' = true := by decide

/-- Nothing is dropped from the end of an empty text. -/
@[simp] theorem dropEndWhile_nil (drops : Char → Bool) : dropEndWhile drops [] = [] := rfl

/-- What trimming at the end leaves does not end in a dropped character. -/
theorem getLast?_dropEndWhile
    {drops : Char → Bool} {characters : List Char} {last : Char}
    (found : (dropEndWhile drops characters).getLast? = some last) :
    drops last = false := by
  rw [dropEndWhile, List.getLast?_reverse] at found
  have notDropped := List.head?_dropWhile_not drops characters.reverse
  rw [found] at notDropped
  simpa using notDropped

end Tangle.Text
