import Tangle.Text.CharacterNames
import Tangle.Text.Punctuation

namespace Tangle.Text

/-!
# Character references and escapes

A character may be written by its name or its code between an ampersand and a
semicolon, and an ASCII punctuation character may be written behind a
backslash so that it loses any meaning it has.
-/

/-- The value of a hexadecimal digit of either case. -/
def hexValue? (digit : Char) : Option Nat :=
  if '0' ≤ digit && digit ≤ '9' then some (digit.toNat - 0x30)
  else if 'a' ≤ digit && digit ≤ 'f' then some (digit.toNat - 0x57)
  else if 'A' ≤ digit && digit ≤ 'F' then some (digit.toNat - 0x37)
  else none

/-- The value of a decimal digit. -/
def decimalValue? (digit : Char) : Option Nat :=
  if '0' ≤ digit && digit ≤ '9' then some (digit.toNat - 0x30) else none

/-- The number that digits write in a base, behind an already known front part. -/
def numberFrom? (value? : Char → Option Nat) (base front : Nat) : List Char → Option Nat
  | [] => some front
  | digit :: rest =>
      match value? digit with
      | none => none
      | some value => numberFrom? value? base (front * base + value) rest

/-- The character with a code; NUL and codes without a character give the replacement mark. -/
def characterOfCode (code : Nat) : Char :=
  if code = 0 || 0x10FFFF < code || (0xD800 ≤ code && code ≤ 0xDFFF) then Char.ofNat 0xFFFD
  else Char.ofNat code

/-- The characters whose codes are written with plus signs between them. -/
def charactersOfCodes (codes : List Char) : List Char :=
  (codes.splitOn '+').filterMap (fun digits =>
    (numberFrom? hexValue? 16 0 digits).map Char.ofNat)

/-- Look a name up among words that alternate between names and codes. -/
def lookupName? (name : List Char) : List (List Char) → Option (List Char)
  | word :: codes :: rest =>
      if word = name then some (charactersOfCodes codes) else lookupName? name rest
  | _ => none

/-- The characters that a name stands for. -/
def charactersOfName? (name : List Char) : Option (List Char) :=
  characterNameRows.findSome? (fun row => lookupName? name (row.toList.splitOn ' '))

/-- The characters that stand for what is written between an ampersand and a semicolon. -/
def charactersOfReference? : List Char → Option (List Char)
  | '#' :: 'x' :: digits => hexadecimal? digits
  | '#' :: 'X' :: digits => hexadecimal? digits
  | '#' :: digits =>
      if digits.isEmpty || 7 < digits.length then none
      else (numberFrom? decimalValue? 10 0 digits).map (fun code => [characterOfCode code])
  | name => charactersOfName? name
where
  /-- A code of one to six hexadecimal digits. -/
  hexadecimal? (digits : List Char) : Option (List Char) :=
    if digits.isEmpty || 6 < digits.length then none
    else (numberFrom? hexValue? 16 0 digits).map (fun code => [characterOfCode code])

/-- The characters of which references consist between the ampersand and the semicolon. -/
def isReferenceCharacter (character : Char) : Bool :=
  character == '#' || ('a' ≤ character && character ≤ 'z') ||
    ('A' ≤ character && character ≤ 'Z') || ('0' ≤ character && character ≤ '9')

/-- Read a reference behind its ampersand: its characters, and what stands behind it. -/
def reference? (behind : List Char) : Option (List Char × List Char) :=
  match behind.dropWhile isReferenceCharacter with
  | ';' :: rest =>
      (charactersOfReference? (behind.takeWhile isReferenceCharacter)).map (·, rest)
  | _ => none

/-- Resolve escapes and references, at most as many as `fuel` in a row of steps. -/
def resolveWithin : Nat → List Char → List Char
  | 0, text => text
  | _ + 1, [] => []
  | fuel + 1, '\\' :: next :: rest =>
      if isAsciiPunctuation next then next :: resolveWithin fuel rest
      else '\\' :: resolveWithin fuel (next :: rest)
  | fuel + 1, '&' :: rest =>
      match reference? rest with
      | some (characters, behind) => characters ++ resolveWithin fuel behind
      | none => '&' :: resolveWithin fuel rest
  | fuel + 1, character :: rest => character :: resolveWithin fuel rest

/-- A text with its escapes and references resolved. -/
def resolve (text : List Char) : List Char :=
  resolveWithin text.length text

end Tangle.Text
