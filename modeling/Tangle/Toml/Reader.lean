import Tangle.Text.Blank
import Tangle.Toml.Date
import Tangle.Toml.Table

namespace Tangle.Toml

/-!
# Reading settings

A reader for the notation of settings files.  No setting takes a number or a
truth value, so a text that holds one is refused where it stands, like any other
fault.  Readers take the characters from some place on and
return what they read with the characters behind it.
-/

/-- Spaces and tabs. -/
def isGap (character : Char) : Bool :=
  character == ' ' || character == '\t'

/-- The characters that may stand in a string or in a comment. -/
def isStringCharacter (character : Char) : Bool :=
  character == '\t' || (0x20 ≤ character.toNat && character.toNat != 0x7F)

/-- A character that may stand in a string is not one that may not. -/
theorem ne_of_isStringCharacter
    {character other : Char} (inString : isStringCharacter character = true)
    (notInString : isStringCharacter other = false) : character ≠ other := by
  rintro rfl
  rw [inString] at notInString
  contradiction

/-- The characters of a name without quotes. -/
def isNameCharacter (character : Char) : Bool :=
  ('a' ≤ character && character ≤ 'z') || ('A' ≤ character && character ≤ 'Z') ||
    ('0' ≤ character && character ≤ '9') || character == '_' || character == '-'

/-- Pass blanks, line ends and comments. -/
def skipLines (inComment : Bool) : List Char → Option (List Char)
  | [] => some []
  | '\n' :: rest => skipLines false rest
  | '\r' :: '\n' :: rest => skipLines false rest
  | character :: rest =>
      if inComment then
        if isStringCharacter character then skipLines true rest else none
      else if isGap character then skipLines false rest
      else if character = '#' then skipLines true rest
      else some (character :: rest)

/-- Pass the end of a line that holds at most a comment. -/
def endLine (text : List Char) : Option (List Char) :=
  let behind := text.dropWhile isGap
  let bare :=
    match behind with
    | '#' :: comment => comment.dropWhile isStringCharacter
    | _ => behind
  match bare with
  | [] => some []
  | '\n' :: rest => some rest
  | '\r' :: '\n' :: rest => some rest
  | _ => none

/-- The character that hexadecimal digits name, if there is one with that code. -/
def characterOfDigits? (digits : List Char) : Option Char :=
  match Text.numberFrom? Text.hexValue? 16 0 digits with
  | none => none
  | some code =>
      if 0x10FFFF < code || (0xD800 ≤ code && code ≤ 0xDFFF) then none
      else some (Char.ofNat code)

/-- The character that a letter stands for behind a backslash. -/
def escaped? : Char → Option Char
  | 'b' => some '\x08'
  | 't' => some '\t'
  | 'n' => some '\n'
  | 'f' => some '\x0c'
  | 'r' => some '\r'
  | '\x22' => some '\x22'
  | '\\' => some '\\'
  | _ => none

/-- Read a string with escapes behind its quote; `read` is what has been read, reversed. -/
def basicString? (read : List Char) : List Char → Option (List Char × List Char)
  | [] => none
  | '\x22' :: rest => some (read.reverse, rest)
  | '\\' :: 'u' :: a :: b :: c :: d :: rest =>
      match characterOfDigits? [a, b, c, d] with
      | some character => basicString? (character :: read) rest
      | none => none
  | '\\' :: 'U' :: a :: b :: c :: d :: e :: f :: g :: h :: rest =>
      match characterOfDigits? [a, b, c, d, e, f, g, h] with
      | some character => basicString? (character :: read) rest
      | none => none
  | '\\' :: letter :: rest =>
      match escaped? letter with
      | some character => basicString? (character :: read) rest
      | none => none
  | character :: rest =>
      if isStringCharacter character then basicString? (character :: read) rest else none

/-- In a basic string a character stands for itself, but for quotes and backslashes. -/
theorem basicString?_cons
    {character : Char} (notQuote : character ≠ '\x22') (notBackslash : character ≠ '\\')
    (inString : isStringCharacter character = true) (read rest : List Char) :
    basicString? read (character :: rest) = basicString? (character :: read) rest := by
  rw [basicString?, if_pos inString]
  · exact notQuote
  · exact fun _ _ _ _ _ isBackslash => absurd isBackslash notBackslash
  · exact fun _ _ _ _ _ _ _ _ _ isBackslash => absurd isBackslash notBackslash
  · exact fun _ _ isBackslash => absurd isBackslash notBackslash

/-- What a string over several lines is in the middle of. -/
inductive Passage where
  | text
  /-- A backslash has been passed that must end its line. -/
  | lineEnd
  /-- Blanks and line ends are passed over until something else comes. -/
  | blanks
  deriving Repr, DecidableEq

/-- Read a string with escapes over several lines behind its three quotes. -/
def basicLines? (passage : Passage) (read : List Char) : List Char → Option (List Char × List Char)
  | [] => none
  | '\r' :: '\n' :: rest =>
      match passage with
      | .text => basicLines? .text ('\n' :: read) rest
      | _ => basicLines? .blanks read rest
  | '\n' :: rest =>
      match passage with
      | .text => basicLines? .text ('\n' :: read) rest
      | _ => basicLines? .blanks read rest
  | '\x22' :: '\x22' :: '\x22' :: '\x22' :: '\x22' :: rest =>
      if passage = .lineEnd then none else some (('\x22' :: '\x22' :: read).reverse, rest)
  | '\x22' :: '\x22' :: '\x22' :: '\x22' :: rest =>
      if passage = .lineEnd then none else some (('\x22' :: read).reverse, rest)
  | '\x22' :: '\x22' :: '\x22' :: rest =>
      if passage = .lineEnd then none else some (read.reverse, rest)
  | '\\' :: 'u' :: a :: b :: c :: d :: rest =>
      if passage = .lineEnd then none
      else
        match characterOfDigits? [a, b, c, d] with
        | some character => basicLines? .text (character :: read) rest
        | none => none
  | '\\' :: 'U' :: a :: b :: c :: d :: e :: f :: g :: h :: rest =>
      if passage = .lineEnd then none
      else
        match characterOfDigits? [a, b, c, d, e, f, g, h] with
        | some character => basicLines? .text (character :: read) rest
        | none => none
  | '\\' :: letter :: rest =>
      if passage = .lineEnd then none
      else
        match escaped? letter with
        | some character => basicLines? .text (character :: read) rest
        | none => basicLines? .lineEnd read (letter :: rest)
  | character :: rest =>
      if isGap character && passage != .text then basicLines? passage read rest
      else if passage = .lineEnd then none
      else if isStringCharacter character then basicLines? .text (character :: read) rest
      else none

/--
In basic lines a character stands for itself, but for backslashes, closing
quotes and what is passed over.
-/
theorem basicLines?_cons
    {character : Char} {text : List Char} {passage : Passage}
    (notBackslash : character ≠ '\\')
    (notClosing : ¬ ['\x22', '\x22', '\x22'] <+: character :: text)
    (notGap : ¬ (isGap character && passage != .text) = true) (mayStand : passage ≠ .lineEnd)
    (inString : isStringCharacter character = true) (read : List Char) :
    basicLines? passage read (character :: text) = basicLines? .text (character :: read) text := by
  have notThree : ∀ rest, character = '\x22' → text = '\x22' :: '\x22' :: rest → False := by
    rintro rest rfl rfl
    exact notClosing ⟨rest, rfl⟩
  rw [basicLines?, if_neg notGap, if_neg mayStand, if_pos inString]
  · exact fun _ isReturn => absurd isReturn (ne_of_isStringCharacter inString (by decide))
  · exact ne_of_isStringCharacter inString (by decide)
  · exact fun _ isQuote => notThree _ isQuote
  · exact fun _ isQuote => notThree _ isQuote
  · exact notThree
  · exact fun _ _ _ _ _ isBackslash => absurd isBackslash notBackslash
  · exact fun _ _ _ _ _ _ _ _ _ isBackslash => absurd isBackslash notBackslash
  · exact fun _ _ isBackslash => absurd isBackslash notBackslash

/-- Read a literal string behind its quote. -/
def literalString? (read : List Char) : List Char → Option (List Char × List Char)
  | [] => none
  | '\x27' :: rest => some (read.reverse, rest)
  | character :: rest =>
      if isStringCharacter character then literalString? (character :: read) rest else none

/-- In a literal string every character but the quote stands for itself. -/
theorem literalString?_cons
    {character : Char} (notQuote : character ≠ '\x27')
    (inString : isStringCharacter character = true) (read rest : List Char) :
    literalString? read (character :: rest) = literalString? (character :: read) rest := by
  rw [literalString?, if_pos inString]
  exact notQuote

/-- Read a literal string over several lines behind its three quotes. -/
def literalLines? (read : List Char) : List Char → Option (List Char × List Char)
  | [] => none
  | '\r' :: '\n' :: rest => literalLines? ('\n' :: read) rest
  | '\n' :: rest => literalLines? ('\n' :: read) rest
  | '\x27' :: '\x27' :: '\x27' :: '\x27' :: '\x27' :: rest =>
      some (('\x27' :: '\x27' :: read).reverse, rest)
  | '\x27' :: '\x27' :: '\x27' :: '\x27' :: rest => some (('\x27' :: read).reverse, rest)
  | '\x27' :: '\x27' :: '\x27' :: rest => some (read.reverse, rest)
  | character :: rest =>
      if isStringCharacter character then literalLines? (character :: read) rest else none

/-- In literal lines every character stands for itself up to the closing quotes. -/
theorem literalLines?_cons
    {character : Char} {text : List Char}
    (notClosing : ¬ ['\x27', '\x27', '\x27'] <+: character :: text)
    (inString : isStringCharacter character = true) (read : List Char) :
    literalLines? read (character :: text) = literalLines? (character :: read) text := by
  have notThree : ∀ rest, character = '\x27' → text = '\x27' :: '\x27' :: rest → False := by
    rintro rest rfl rfl
    exact notClosing ⟨rest, rfl⟩
  rw [literalLines?, if_pos inString]
  · exact fun _ isReturn => absurd isReturn (ne_of_isStringCharacter inString (by decide))
  · exact ne_of_isStringCharacter inString (by decide)
  · exact fun _ isQuote => notThree _ isQuote
  · exact fun _ isQuote => notThree _ isQuote
  · exact notThree

/-- Read a string of any form. -/
def string? : List Char → Option (List Char × List Char)
  | '\x22' :: '\x22' :: '\x22' :: rest => basicLines? .text [] (Text.dropLineEnd rest)
  | '\x22' :: rest => basicString? [] rest
  | '\x27' :: '\x27' :: '\x27' :: rest => literalLines? [] (Text.dropLineEnd rest)
  | '\x27' :: rest => literalString? [] rest
  | _ => none

/-- Read a value that holds no other values: a string or a date. -/
def plainValue? (text : List Char) : Option (Value × List Char) :=
  match string? text with
  | some (read, behind) => some (.text (String.ofList read), behind)
  | none => (date? text).map (fun (read, behind) => (.date read, behind))

/-- Read one part of a dotted name. -/
def namePart? : List Char → Option (String × List Char)
  | '\x22' :: rest =>
      (basicString? [] rest).map (fun (name, behind) => (String.ofList name, behind))
  | '\x27' :: rest =>
      (literalString? [] rest).map (fun (name, behind) => (String.ofList name, behind))
  | text =>
      let name := text.takeWhile isNameCharacter
      if name.isEmpty then none else some (String.ofList name, text.dropWhile isNameCharacter)

/-- Read a dotted name with the blanks around its parts. -/
def name? : Nat → List Char → Option (List String × List Char)
  | 0, _ => none
  | fuel + 1, text =>
      match namePart? (text.dropWhile isGap) with
      | none => none
      | some (part, behind) =>
          match behind.dropWhile isGap with
          | '.' :: deeper => (name? fuel deeper).map (fun (parts, rest) => (part :: parts, rest))
          | rest => some ([part], rest)

mutual

/-- Read a value. -/
def value? : Nat → List Char → Option (Value × List Char)
  | 0, _ => none
  | fuel + 1, '[' :: rest =>
      (listItems? fuel rest).map (fun (items, behind) => (.list items, behind))
  | fuel + 1, '\x7b' :: rest =>
      match rest.dropWhile isGap with
      | '\x7d' :: behind => some (.table .complete [], behind)
      | entries =>
          (tableEntries? fuel [] entries).map
            (fun (entries, behind) => (.table .complete entries, behind))
  | _ + 1, text => plainValue? text

/-- Read the items of a list up to its closing bracket; a comma may follow the last one. -/
def listItems? : Nat → List Char → Option (List Value × List Char)
  | 0, _ => none
  | fuel + 1, text =>
      match skipLines false text with
      | none => none
      | some (']' :: behind) => some ([], behind)
      | some front =>
          match value? fuel front with
          | none => none
          | some (item, behindItem) =>
              match skipLines false behindItem with
              | some (',' :: behind) =>
                  (listItems? fuel behind).map (fun (items, rest) => (item :: items, rest))
              | some (']' :: behind) => some ([item], behind)
              | _ => none

/-- Read the settings of a table in line up to its closing brace, behind those read before. -/
def tableEntries? : Nat → Entries → List Char → Option (Entries × List Char)
  | 0, _, _ => none
  | fuel + 1, before, text =>
      match setting? fuel text with
      | none => none
      | some (path, value, behindValue) =>
          match assign value path before with
          | none => none
          | some entries =>
              match behindValue.dropWhile isGap with
              | ',' :: behind => tableEntries? fuel entries behind
              | '\x7d' :: behind => some (entries, behind)
              | _ => none

/-- Read a dotted name, an equals sign and a value. -/
def setting? : Nat → List Char → Option (List String × Value × List Char)
  | 0, _ => none
  | fuel + 1, text =>
      match name? text.length text with
      | some (path, '=' :: behind) =>
          (value? fuel (behind.dropWhile isGap)).map (fun (value, rest) => (path, value, rest))
      | _ => none

end

/-- Read a header behind its bracket up to the end of its line. -/
def header? (text : List Char) : Option (List String × List Char) :=
  match name? text.length text with
  | some (path, ']' :: behind) => (endLine behind).map (path, ·)
  | _ => none

/-- Read lines of settings, given the table that is open and the settings before them. -/
def lines? : Nat → List String → Entries → List Char → Option Entries
  | 0, _, entries, text => if text.isEmpty then some entries else none
  | fuel + 1, table, entries, text =>
      match skipLines false text with
      | none => none
      | some [] => some entries
      | some ('[' :: behind) =>
          match header? behind with
          | none => none
          | some (path, rest) =>
              match openTable path entries with
              | none => none
              | some opened => lines? fuel path opened rest
      | some front =>
          match setting? (front.length + 1) front with
          | none => none
          | some (path, value, behind) =>
              match assignUnder value path table entries, endLine behind with
              | some assigned, some rest => lines? fuel table assigned rest
              | _, _ => none

/-- Drop a byte order mark at the front. -/
def dropMark : List Char → List Char
  | '\uFEFF' :: rest => rest
  | text => text

/-- Read a text of settings. -/
def read? (text : List Char) : Option Entries :=
  let body := dropMark text
  lines? (body.length + 1) [] [] body

end Tangle.Toml
