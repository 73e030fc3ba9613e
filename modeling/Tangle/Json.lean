namespace Tangle

/-!
# JSON values and their text

A JSON value with its object members in the order in which they are written.
Two texts are produced from it: a compact one without any blank, and an
indented one with two spaces a level.  Strings are escaped in the shortest
way that JSON allows, and everything from U+0020 on except the quote and the
backslash stands for itself.
-/

/-- A JSON value; the members of an object keep their order. -/
inductive Json where
  | null
  | boolean (value : Bool)
  | number (value : Int)
  | string (value : String)
  | array (items : List Json)
  | object (members : List (String × Json))
  deriving Inhabited

namespace Json

/-- The lower case hexadecimal digit of a number below sixteen. -/
def hexDigit (value : Nat) : Char :=
  if value < 10 then Char.ofNat (0x30 + value) else Char.ofNat (0x57 + value)

/-- One character as it stands between the quotes of a JSON string. -/
def escapeCharacter (character : Char) : List Char :=
  match character with
  | '\x22' => ['\\', '\x22']
  | '\\' => ['\\', '\\']
  | '\x08' => ['\\', 'b']
  | '\x0c' => ['\\', 'f']
  | '\n' => ['\\', 'n']
  | '\r' => ['\\', 'r']
  | '\t' => ['\\', 't']
  | other =>
      if other.toNat < 0x20 then
        ['\\', 'u', '0', '0', hexDigit (other.toNat / 16), hexDigit (other.toNat % 16)]
      else
        [other]

/-- A text as a JSON string, quotes included. -/
def quote (text : String) : String :=
  String.ofList ('\x22' :: (text.toList.flatMap escapeCharacter ++ ['\x22']))

/-- The text of a boolean. -/
def booleanText (value : Bool) : String :=
  if value then "true" else "false"

mutual

/-- The text of a value without blanks. -/
def compact : Json → String
  | .null => "null"
  | .boolean value => booleanText value
  | .number value => toString value
  | .string value => quote value
  | .array items => "[" ++ String.intercalate "," (compactItems items) ++ "]"
  | .object members => "\x7b" ++ String.intercalate "," (compactMembers members) ++ "\x7d"

/-- The compact texts of the items of an array. -/
def compactItems : List Json → List String
  | [] => []
  | item :: rest => compact item :: compactItems rest

/-- The compact texts of the members of an object. -/
def compactMembers : List (String × Json) → List String
  | [] => []
  | (name, value) :: rest => (quote name ++ ":" ++ compact value) :: compactMembers rest

end

/-- The indentation of a nesting level, two spaces each. -/
def indentation (level : Nat) : String :=
  String.ofList (List.replicate (2 * level) ' ')

/-- Lay out the parts of a bracketed value one to a line; without parts the brackets touch. -/
def bracketed (opening closing : String) (level : Nat) (parts : List String) : String :=
  match parts with
  | [] => opening ++ closing
  | _ =>
      let separator := ",\n" ++ indentation (level + 1)
      opening ++ "\n" ++ indentation (level + 1) ++ String.intercalate separator parts ++
        "\n" ++ indentation level ++ closing

mutual

/-- The indented text of a value that stands at a nesting level. -/
def indentedAt (level : Nat) : Json → String
  | .null => "null"
  | .boolean value => booleanText value
  | .number value => toString value
  | .string value => quote value
  | .array items => bracketed "[" "]" level (indentedItems (level + 1) items)
  | .object members =>
      bracketed "\x7b" "\x7d" level (indentedMembers (level + 1) members)

/-- The indented texts of the items of an array. -/
def indentedItems (level : Nat) : List Json → List String
  | [] => []
  | item :: rest => indentedAt level item :: indentedItems level rest

/-- The indented texts of the members of an object. -/
def indentedMembers (level : Nat) : List (String × Json) → List String
  | [] => []
  | (name, value) :: rest =>
      (quote name ++ ": " ++ indentedAt level value) :: indentedMembers level rest

end

/-- The text of a value with two spaces of indentation a level. -/
def indented (value : Json) : String :=
  indentedAt 0 value

end Json

end Tangle
