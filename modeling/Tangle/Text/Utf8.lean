namespace Tangle.Text

/-!
# Decoding bytes

Bytes as characters in UTF-8.  A sequence is refused when it is cut short,
longer than it need be, or stands for no character.
-/

/-- The payload of a byte that continues a sequence. -/
def continuation? (byte : Nat) : Option Nat :=
  if 0x80 ≤ byte && byte < 0xC0 then some (byte - 0x80) else none

/-- The character with a code that needs at least so large a code to be written this long. -/
def checkedCharacter? (least code : Nat) : Option Char :=
  if least ≤ code && code ≤ 0x10FFFF && !(0xD800 ≤ code && code ≤ 0xDFFF) then
    some (Char.ofNat code)
  else
    none

/-- The character of a sequence of two bytes. -/
def twoBytes? (first second : Nat) : Option Char :=
  (continuation? second).bind (fun low => checkedCharacter? 0x80 ((first - 0xC0) * 0x40 + low))

/-- The character of a sequence of three bytes. -/
def threeBytes? (first second third : Nat) : Option Char :=
  match continuation? second, continuation? third with
  | some middle, some low =>
      checkedCharacter? 0x800 ((first - 0xE0) * 0x1000 + middle * 0x40 + low)
  | _, _ => none

/-- The character of a sequence of four bytes. -/
def fourBytes? (first second third fourth : Nat) : Option Char :=
  match continuation? second, continuation? third, continuation? fourth with
  | some high, some middle, some low =>
      checkedCharacter? 0x10000
        ((first - 0xF0) * 0x40000 + high * 0x1000 + middle * 0x40 + low)
  | _, _, _ => none

/-- The characters of bytes, or nothing if the bytes are no text. -/
def decode? : List Nat → Option (List Char)
  | [] => some []
  | first :: rest =>
      if first < 0x80 then (decode? rest).map (Char.ofNat first :: ·)
      else if first < 0xC0 then none
      else if first < 0xE0 then
        match rest with
        | second :: behind =>
            match twoBytes? first second, decode? behind with
            | some character, some others => some (character :: others)
            | _, _ => none
        | _ => none
      else if first < 0xF0 then
        match rest with
        | second :: third :: behind =>
            match threeBytes? first second third, decode? behind with
            | some character, some others => some (character :: others)
            | _, _ => none
        | _ => none
      else if first < 0xF8 then
        match rest with
        | second :: third :: fourth :: behind =>
            match fourBytes? first second third fourth, decode? behind with
            | some character, some others => some (character :: others)
            | _, _ => none
        | _ => none
      else none

end Tangle.Text
